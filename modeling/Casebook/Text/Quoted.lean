import Casebook.Text.CharSet

/-! Texts in double quotes with everything invisible spelled out. -/
namespace Casebook.Text

/-- The hexadecimal digits of a code point in braces. -/
def codePoint (n : Nat) : String :=
  "\\u\x7b" ++ String.ofList (Nat.toDigits 16 n) ++ "\x7d"

/-- A character as a quoted text shows it. -/
def quoteChar (c : Char) : String :=
  if c = '"' then "\\\""
  else if c = '\\' then "\\\\"
  else if c = '\n' then "\\n"
  else if c = '\r' then "\\r"
  else if c = '\t' then "\\t"
  else if c.toNat = 0 then "\\0"
  else if c.toNat < 127 ∧ 32 ≤ c.toNat then String.singleton c
  else if inRanges hiddenRanges c.toNat then codePoint c.toNat
  else String.singleton c

/-- A text in quotes. -/
def quote (s : String) : String :=
  s.foldl (fun out c => out ++ quoteChar c) "\"" ++ "\""

end Casebook.Text
