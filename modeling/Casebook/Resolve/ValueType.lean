import Casebook.Json.Reader
import Casebook.Json.Writer
import Casebook.Text.Basic
import Casebook.Text.LetterCase

/-! The types that table values are converted to. -/
namespace Casebook

open Decimal

inductive ValueType where
  /-- Keeps the value as it is. -/
  | auto
  | string
  | integer
  | float
  | boolean
  | json
deriving DecidableEq, Repr

namespace ValueType

def name : ValueType → String
  | .auto => "auto"
  | .string => "string"
  | .integer => "integer"
  | .float => "float"
  | .boolean => "boolean"
  | .json => "json"

def all : List ValueType := [.auto, .string, .integer, .float, .boolean, .json]

/-- Converts a whole float to an integer, clamped to 64 bits. -/
def wholeFloat? (x : Float) : Option Json.Value :=
  if isWhole x then some (.number (.ofInt64 (clampToInt minInt64 maxInt64 x))) else none

/-- Converts a value to a type, if it can be read as one of that type. -/
def coerce? : ValueType → Json.Value → Option Json.Value
  | .auto, v => some v
  | .string, v => some (.string v.display)
  | .integer, .number (.integer n h) => some (.number (.integer n h))
  | .integer, .number (.real x _) => wholeFloat? x
  | .integer, .string s => (int64? (Text.trim s)).map .ofInt
  | .integer, _ => none
  | .float, .number n => some (.ofFloat n.toFloat)
  | .float, .string s => (float? (Text.trim s)).map .ofFloat
  | .float, _ => none
  | .boolean, .bool b => some (.bool b)
  | .boolean, .number n =>
    match n.toInt? with
    | some 0 => some (.bool false)
    | some 1 => some (.bool true)
    | _ => none
  | .boolean, .string s =>
    let word := Text.asciiLower (Text.trim s)
    if word = "true" ∨ word = "1" then some (.bool true)
    else if word = "false" ∨ word = "0" then some (.bool false)
    else none
  | .boolean, _ => none
  | .json, .string s => Json.Value.ofText? s
  | .json, v => some v

end ValueType

end Casebook
