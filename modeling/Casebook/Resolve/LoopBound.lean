import Casebook.Resolve.Evaluator

/-! How often a loop runs. -/
namespace Casebook

inductive LoopBound where
  | times (n : Nat)
  /-- Until the break condition holds or the run is halted. -/
  | forever
deriving DecidableEq, Repr

namespace LoopBound

def text : LoopBound → String
  | .times n => "Count(" ++ toString n ++ ")"
  | .forever => "Forever"

/-- The greatest count that is written as a number. -/
def maxCount : Nat := 999

/-- The greatest number of items that a loop runs over. -/
def maxItems : Nat := 100000

inductive Fault where
  | invalid (value : Json.Value)
  | resolution (cause : ResolutionError)

def Fault.message : Fault → String
  | .invalid v => "invalid loop count: " ++ v.text
  | .resolution e => e.message

/-- The bound of a value without placeholders; a list counts its items. -/
def ofPlain? : Json.Value → Option LoopBound
  | .bool true => some .forever
  | .number n => n.toInt?.bind fun i => if 0 ≤ i then some (.times (min i.toNat maxCount)) else none
  | _ => none

/-- The bound of a digit text or the word `true`. -/
def ofWord? (word : String) : Option LoopBound :=
  if !word.isEmpty && word.all Char.isDigit then
    some (.times (min (Decimal.natOfDigits word.toList) maxCount))
  else if word = "true" then some .forever
  else none

/-- The bound of what a text resolved to. -/
def ofResolved? : Json.Value → Option LoopBound
  | .array xs => some (.times (min xs.length maxItems))
  | .string s => if s = "true" then some .forever else none
  | v => ofPlain? v

/-- The bound that a value asks for in a scope at an iteration. -/
def resolve (ev : Evaluator) (times : Json.Value) (scope : Scope) (index : Option Nat) : Except Fault LoopBound :=
  match times with
  | .string s =>
    let word := Text.trim s
    match ofWord? word with
    | some b => .ok b
    | none =>
      match ev.renderValue word scope index with
      | .error e => .error (.resolution e)
      | .ok v => (ofResolved? v).elim (.error (.invalid v)) .ok
  | v => (ofPlain? v).elim (.error (.invalid v)) .ok

/-- Whether a value can be a loop count at all; what a text comes to is not looked at. -/
def isPlausible : Json.Value → Bool
  | .string _ => true
  | .bool b => b
  | .number (.integer n _) => 0 ≤ n
  | _ => false

/-- Whether an iteration is within the bound. -/
def allows (b : LoopBound) (iteration : Nat) : Bool :=
  match b with
  | .times n => iteration < n
  | .forever => true

end LoopBound

end Casebook
