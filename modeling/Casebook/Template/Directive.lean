import Casebook.Decimal.Fixed
import Casebook.Template.Argument
import Casebook.Text.LetterCase

/-! Texts with directives, such as `%s` or `%05.2f`, that arguments are put in place of. -/
namespace Casebook.Template

open Decimal

/-- A directive: its argument's name, if it has one, how the text is filled up, and what is written. -/
structure Directive where
  name : Option String
  /-- The marks out of `#`, `0`, `-`, a blank and `+`. -/
  marks : List Char
  width : Nat
  precision : Option Nat
  conversion : Char
deriving DecidableEq, Repr

namespace Directive

def isMark (c : Char) : Bool := c = '#' || c = '0' || c = '-' || c = ' ' || c = '+'

/-- Where arguments come from. -/
structure Source where
  plain : Args
  named : Named

abbrev Fill := StateT Source (Except Fault)

/-- The next argument, or the one of a name. -/
def argument (name : Option String) : Fill Value := fun source =>
  match name with
  | some name =>
    match source.named.get? name with
    | some v => .ok (v, source)
    | none => .error .invalidOperation
  | none =>
    match source.plain with
    | v :: rest => .ok (v, { source with plain := rest })
    | [] => .error .invalidOperation

/-- A number in a directive: digits, or a star for an argument. -/
def number (cs : List Char) : Fill (Int × List Char) :=
  match cs with
  | '*' :: rest => do return (← liftM (Value.longOf (← argument none)), rest)
  | _ => return ((natOfDigits (cs.takeWhile Char.isDigit) : Nat), cs.dropWhile Char.isDigit)

/-- The name of the argument in brackets. -/
def spanName : List Char → Except Fault (Option String × List Char)
  | '(' :: rest =>
    match Text.breakOn [')'] rest with
    | some (name, rest) => .ok (some (String.ofList name), rest)
    | none => .error .invalidOperation
  | cs => .ok (none, cs)

/-- A directive after its percent sign, and the rest of the text. -/
def read (cs : List Char) : Fill (Directive × List Char) := do
  let (name, cs) ← liftM (spanName cs)
  let marks := cs.takeWhile isMark
  let (width, cs) ← number (cs.dropWhile isMark)
  let marks := if width < 0 then '-' :: marks else marks
  let (precision, cs) ← match cs with
    | '.' :: rest => do
      let (p, rest) ← number rest
      pure (some p.toNat, rest)
    | _ => pure (none, cs)
  match cs.dropWhile fun c => c = 'h' || c = 'l' || c = 'L' with
  | c :: rest => return (⟨name, marks, width.natAbs, precision, c⟩, rest)
  | [] => throw .invalidOperation

variable (d : Directive)

/-- Fills a text up to the width. -/
def pad (s : String) : String :=
  let gap := "".pushn ' ' (d.width - s.length)
  if d.marks.contains '-' then s ++ gap else gap ++ s

/-- A number from its sign, a prefix and its digits. -/
def signed (negative : Bool) (front digits : String) : String :=
  let sign :=
    if negative then "-" else if d.marks.contains '+' then "+" else if d.marks.contains ' ' then " " else ""
  let head := sign ++ front
  let zeros :=
    if d.marks.contains '0' && !d.marks.contains '-' then d.width - (head.length + digits.length) else 0
  d.pad (head ++ "".pushn '0' zeros ++ digits)

def integer (base : Nat) (front : String) (n : Int) : String :=
  let digits := String.ofList (Nat.toDigits base n.natAbs)
  let digits := "".pushn '0' (d.precision.getD 1 - digits.length) ++ digits
  d.signed (n < 0) (if d.marks.contains '#' then front else "") digits

/-- A whole number; floats are cut. -/
def wholeOf : Value → Except Fault Int
  | .bool b => .ok b.toNat
  | .int n _ => .ok n
  | .float x => if x.isFinite then .ok (Binary64.ofFloat x).truncate else .error .invalidOperation
  | _ => .error .invalidOperation

def exactWholeOf : Value → Except Fault Int
  | .float _ => .error .invalidOperation
  | v => wholeOf v

def floating (size : Binary64 → Nat → String) (v : Value) : Except Fault String :=
  match v.toFloat? true with
  | none => .error .invalidOperation
  | some x =>
    if x.isNaN then .ok (d.signed false "" "nan")
    else if !x.isFinite then .ok (d.signed (x < 0.0) "" "inf")
    else
      let b := Binary64.ofFloat x
      .ok (d.signed b.negative "" (size b (d.precision.getD 6)))

/-- A text, cut to the precision. -/
def cutText (s : String) : String :=
  match d.precision with
  | some n => String.ofList (s.toList.take n)
  | none => s

def character (v : Value) : Except Fault String :=
  match v with
  | .string s _ => if s.length = 1 then .ok s else .error .invalidOperation
  | _ => do
    let n ← exactWholeOf v
    if 0 ≤ n ∧ n.toNat.isValidChar then return String.singleton (Char.ofNat n.toNat) else throw .invalidOperation

/-- Writes an argument; `escape` makes it fit into the text. -/
def write (escape : Value → String) (v : Value) : Except Fault String :=
  match d.conversion with
  | 's' => do
    let _ ← Value.textOf v
    return d.pad (d.cutText (escape v))
  | 'r' | 'a' => .ok (d.pad (d.cutText (escape (.text v.nestedText))))
  | 'd' | 'i' | 'u' => d.integer 10 "" <$> wholeOf v
  | 'x' => d.integer 16 "0x" <$> exactWholeOf v
  | 'X' => (fun n => Text.asciiUpper (d.integer 16 "0x" n)) <$> exactWholeOf v
  | 'o' => d.integer 8 "0o" <$> exactWholeOf v
  | 'f' | 'F' => d.floating Binary64.fixedText v
  | 'e' => d.floating Binary64.scientificText v
  | 'E' => Text.asciiUpper <$> d.floating Binary64.scientificText v
  | 'g' => d.floating Binary64.generalText v
  | 'G' => Text.asciiUpper <$> d.floating Binary64.generalText v
  | 'c' => (fun s => d.pad (escape (.text s))) <$> character v
  | _ => .error .invalidOperation

/-- Puts arguments in place of the directives of a text; `fuel` bounds their number. -/
def fill (escape : Value → String) : Nat → List Char → Fill String
  | 0, _ => throw .invalidOperation
  | fuel + 1, cs =>
    match Text.breakOn ['%'] cs with
    | none => return String.ofList cs
    | some (before, '%' :: rest) => do return String.ofList before ++ "%" ++ (← fill escape fuel rest)
    | some (before, rest) => do
      let (d, rest) ← read rest
      let s ← if d.conversion = '%' then pure "%" else do liftM (d.write escape (← argument d.name))
      return String.ofList before ++ s ++ (← fill escape fuel rest)

/-- Puts all arguments in place of the directives of a text. -/
def fillAll (escape : Value → String) (s : String) (args : Args) : Except Fault String := do
  let (plain, named) := args.split
  if !plain.isEmpty && !named.isEmpty then throw .invalidOperation
  let (out, source) ← (fill escape (s.length + 1) s.toList).run ⟨plain, named⟩
  if source.plain.isEmpty then return out else throw .invalidOperation

end Directive

end Casebook.Template
