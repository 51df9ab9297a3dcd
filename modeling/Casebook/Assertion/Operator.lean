import Casebook.Decimal.Numeral
import Casebook.Json.Writer
import Casebook.Text.Basic

/-! Comparing a value that was found with an expected text.  An expected text that looks like a number compares as
a number with numbers and with texts that read as numbers, and any other pair compares as texts. -/
namespace Casebook

inductive Operator where
  | eq | ne | gt | lt | ge | le
  | contains | notContains | startsWith | endsWith
  | empty | notEmpty | null | notNull
deriving DecidableEq, Repr

namespace Operator

def all : List Operator :=
  [.eq, .ne, .gt, .lt, .ge, .le, .contains, .notContains, .startsWith, .endsWith, .empty, .notEmpty, .null, .notNull]

def name : Operator → String
  | .eq => "=="
  | .ne => "!="
  | .gt => ">"
  | .lt => "<"
  | .ge => ">="
  | .le => "<="
  | .contains => "contains"
  | .notContains => "not_contains"
  | .startsWith => "starts_with"
  | .endsWith => "ends_with"
  | .empty => "empty"
  | .notEmpty => "not_empty"
  | .null => "null"
  | .notNull => "not_null"

end Operator

namespace Compare

open Decimal

/-- Whether a text is digits with at most one point, after an optional minus. -/
def looksNumeric (cs : List Char) : Bool :=
  let digits := match cs with
    | '-' :: rest => rest
    | cs => cs
  !digits.isEmpty && digits.all (fun c => c.isDigit || c = '.') && decide (digits.count '.' ≤ 1)

/-- The number that an expected text looks like. -/
def expectedNumber? (expected : String) : Option Float :=
  let s := Text.trim expected
  if looksNumeric s.toList then float? s else none

/-- The number that a value is or reads as. -/
def actualNumber? : Json.Value → Option Float
  | .number n => some n.toFloat
  | .string s => float? (Text.trim s)
  | _ => none

/-- Whether a value that may be missing is missing, null, or has no content. -/
def isEmpty : Option Json.Value → Bool
  | none | some .null => true
  | some (.string s) => s.isEmpty
  | some (.array xs) => xs.isEmpty
  | some (.object ms) => ms.isEmpty
  | some _ => false

def isText : Json.Value → Bool
  | .string _ => true
  | _ => false

/-- The numbers that a value and an expected text stand for, if both do. -/
def numbers? (actual : Json.Value) (expected : String) : Option (Float × Float) := do
  let e ← expectedNumber? expected
  let a ← actualNumber? actual
  some (a, e)

/-- Whether a list item is what was expected; texts compare as texts. -/
def itemMatches (expected : String) (item : Json.Value) : Bool :=
  match numbers? item expected with
  | some (a, e) => if isText item then item.display == expected else a == e
  | none => item.display == expected

/-- The order of two floats, none if one of them is no number. -/
def floatOrder? (x y : Float) : Option Ordering :=
  if x < y then some .lt
  else if y < x then some .gt
  else if x == y then some .eq
  else none

/-- How a value relates to an expected text. -/
def order? (actual : Json.Value) (expected : String) : Option Ordering :=
  match numbers? actual expected with
  | some (a, e) => floatOrder? a e
  | none => some (compare actual.display expected)

/-- Whether an expected text occurs in a text or list; other values hold nothing. -/
def found? (actual : Json.Value) (expected : String) : Option Bool :=
  match actual with
  | .array xs => some (xs.any (itemMatches expected))
  | .string s => some (Text.contains expected s)
  | _ => none

/-- Applies an operator to a value that exists and is not null. -/
def present (op : Operator) (actual : Json.Value) (expected : String) : Bool :=
  match op with
  | .contains => (found? actual expected).getD false
  | .notContains => !(found? actual expected).getD false
  | .startsWith => (actual.asString?).any fun s => expected.toList.isPrefixOf s.toList
  | .endsWith => (actual.asString?).any fun s => expected.toList.isSuffixOf s.toList
  | .eq => order? actual expected == some .eq
  | .ne => order? actual expected != some .eq
  | .gt => order? actual expected == some .gt
  | .lt => order? actual expected == some .lt
  | .ge => (order? actual expected).any (· != .lt)
  | .le => (order? actual expected).any (· != .gt)
  | .empty => isEmpty (some actual)
  | .notEmpty => !isEmpty (some actual)
  | .null => false
  | .notNull => true

end Compare

/-- Applies an operator to a value that may be missing; null counts as missing. -/
def Operator.holds (op : Operator) (actual : Option Json.Value) (expected : String) : Bool :=
  match actual with
  | none | some .null =>
    match op with
    | .null | .empty => true
    | _ => false
  | some v => Compare.present op v expected

end Casebook
