import Casebook.Decimal.Shortest
import Casebook.Json.Value

/-! The compact text of a JSON value. -/
namespace Casebook.Json

open Decimal

/-- Floats are written with the fewest digits, ties to the even digit, and without an exponent from `1e-5` up to
below `1e16`; an exponent carries its sign. -/
def floatLayout : Layout := ⟨.toEven, fun lead => -5 ≤ lead && lead ≤ 15, "+"⟩

def Number.text : Number → String
  | .integer n _ => toString n
  | .real x _ => floatLayout.render x

/-- The two lower case hexadecimal digits of a number below 256. -/
def hexPair (n : Nat) : String :=
  String.ofList [Nat.digitChar (n / 16 % 16), Nat.digitChar (n % 16)]

/-- A character as it stands between the quotes of a string. -/
def escapeChar (c : Char) : String :=
  if c = '"' then "\\\""
  else if c = '\\' then "\\\\"
  else if c = '\n' then "\\n"
  else if c = '\r' then "\\r"
  else if c = '\t' then "\\t"
  else if c.toNat = 8 then "\\b"
  else if c.toNat = 12 then "\\f"
  else if c.toNat < 32 then "\\u00" ++ hexPair c.toNat
  else String.singleton c

/-- A string in quotes. -/
def quoted (s : String) : String :=
  s.foldl (fun out c => out ++ escapeChar c) "\"" ++ "\""

mutual

/-- The text of a value, without spaces. -/
def Value.text : Value → String
  | .null => "null"
  | .bool true => "true"
  | .bool false => "false"
  | .number n => n.text
  | .string s => quoted s
  | .array xs => "[" ++ Value.itemsText xs ++ "]"
  | .object ms => "\x7b" ++ Value.membersText ms ++ "\x7d"

def Value.itemsText : List Value → String
  | [] => ""
  | [x] => Value.text x
  | x :: y :: rest => Value.text x ++ "," ++ Value.itemsText (y :: rest)

def Value.membersText : List (String × Value) → String
  | [] => ""
  | [(k, v)] => quoted k ++ ":" ++ Value.text v
  | (k, v) :: m :: rest => quoted k ++ ":" ++ Value.text v ++ "," ++ Value.membersText (m :: rest)

end

/-- A line end with the blanks of a depth. -/
def lineAt (depth : Nat) : String := "\n" ++ "".pushn ' ' (2 * depth)

mutual

/-- The text of a value over several lines, each part on its own, two blanks further in for every depth. -/
def Value.prettyAt (depth : Nat) : Value → String
  | .array (x :: xs) => "[" ++ Value.prettyItems depth (x :: xs) ++ lineAt depth ++ "]"
  | .object (m :: ms) => "\x7b" ++ Value.prettyMembers depth (m :: ms) ++ lineAt depth ++ "\x7d"
  | v => v.text

def Value.prettyItems (depth : Nat) : List Value → String
  | [] => ""
  | [x] => lineAt (depth + 1) ++ Value.prettyAt (depth + 1) x
  | x :: y :: rest =>
    lineAt (depth + 1) ++ Value.prettyAt (depth + 1) x ++ "," ++ Value.prettyItems depth (y :: rest)

def Value.prettyMembers (depth : Nat) : List (String × Value) → String
  | [] => ""
  | [(k, v)] => lineAt (depth + 1) ++ quoted k ++ ": " ++ Value.prettyAt (depth + 1) v
  | (k, v) :: m :: rest =>
    lineAt (depth + 1) ++ quoted k ++ ": " ++ Value.prettyAt (depth + 1) v ++ "," ++
      Value.prettyMembers depth (m :: rest)

end

def Value.pretty (v : Value) : String := v.prettyAt 0

/-- The text of a value as people read it: a string without its quotes, and nothing for null. -/
def Value.display : Value → String
  | .string s => s
  | .null => ""
  | v => v.text

end Casebook.Json
