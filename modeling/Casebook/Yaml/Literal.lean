import Casebook.Decimal.Numeral

/-! What a plain scalar says: nothing, a truth value, a number or a text. -/
namespace Casebook.Yaml

inductive Literal where
  | null
  | bool (b : Bool)
  /-- An integer of 64 bits, signed or not. -/
  | integer (n : Int)
  /-- An integer that takes up to 128 bits. -/
  | wideInteger
  | real (x : Float)
  | text

namespace Literal

open Decimal

def isNull (s : String) : Bool := s = "~" || s = "null" || s = "Null" || s = "NULL"

def bool? (s : String) : Option Bool :=
  if s = "true" ∨ s = "True" ∨ s = "TRUE" then some true
  else if s = "false" ∨ s = "False" ∨ s = "FALSE" then some false
  else none

def isSign (c : Char) : Bool := c = '+' || c = '-'

/-- Two digits or more, after an optional sign, of which the first is zero: a text rather than a number. -/
def isZeroLed (cs : List Char) : Bool :=
  let ds := if cs.head?.any isSign then cs.drop 1 else cs
  1 < ds.length && ds.head? = some '0' && ds.all Char.isDigit

/-- The base that a number is written in by the letter after its zero. -/
def base? : Char → Option Nat
  | 'x' => some 16
  | 'o' => some 8
  | 'b' => some 2
  | _ => none

/-- The digits of a number in the base that is written in front of it, which is ten where none is. -/
def magnitude? (cs : List Char) : Option Nat :=
  match cs with
  | '0' :: letter :: ds =>
    match base? letter with
    | some base => natIn? base ds
    | none => nat? cs
  | _ => nat? cs

/-- A number without a minus sign. -/
def natural? (s : String) : Option Nat :=
  match s.toList with
  | '+' :: ds => if isZeroLed ds then none else magnitude? ds
  | ds => if isZeroLed ds then none else magnitude? ds

/-- A number after a minus sign, negated. -/
def negative? (s : String) : Option Int :=
  match s.toList with
  | '-' :: ds => if isZeroLed ds then none else (magnitude? ds).map fun n => -(n : Int)
  | _ => none

/-- An unsigned integer of 64 bits. -/
def nat64? (s : String) : Option Nat := (natural? s).filter fun n => (n : Int) ≤ maxNat64

def integer? (s : String) : Option Literal :=
  let within (width : Nat) (m : Nat) : Bool := m < 1 <<< width
  match natural? s, negative? s with
  | some n, _ => if within 64 n then some (.integer n) else if within 128 n then some .wideInteger else none
  | none, some n =>
    if minInt64 ≤ n then some (.integer n) else if minInt128 ≤ n then some .wideInteger else none
  | none, none => none

/-- A floating point number; what is beyond its range is none. -/
def float? (s : String) : Option Float :=
  let name := if s.startsWith "+" then (s.drop 1).toString else s
  if name = ".inf" ∨ name = ".Inf" ∨ name = ".INF" then some (1.0 / 0.0)
  else if s = "-.inf" ∨ s = "-.Inf" ∨ s = "-.INF" then some (-1.0 / 0.0)
  else if s = ".nan" ∨ s = ".NaN" ∨ s = ".NAN" then some (0.0 / 0.0)
  else if s.startsWith "+" && name.toList.head?.any isSign then none
  else (Decimal.float? name).filter Float.isFinite

/-- What a plain scalar without a tag says. -/
def ofPlain (s : String) : Literal :=
  if s.isEmpty || isNull s then .null
  else match bool? s, integer? s with
    | some b, _ => .bool b
    | none, some n => n
    | none, none =>
      if isZeroLed s.toList then .text
      else match float? s with
        | some x => .real x
        | none => .text

end Literal

end Casebook.Yaml
