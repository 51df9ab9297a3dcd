/-! Form encoding: pairs of names and values as ASCII text, with a plus sign for every blank, and a percent sign and two
hexadecimal digits for every other byte that is neither a letter nor a digit nor one of four marks. -/
namespace Casebook.Text.Form

/-- Whether a byte stands for itself. -/
def isPlain (b : UInt8) : Bool :=
  (48 ≤ b && b ≤ 57) || (65 ≤ b && b ≤ 90) || (97 ≤ b && b ≤ 122) || b == 42 || b == 45 || b == 46 || b == 95

/-- The upper case hexadecimal digit of a number below 16. -/
def hexDigit (n : Nat) : Char := (Nat.digitChar n).toUpper

/-- The characters that stand for a byte. -/
def escapeByte (b : UInt8) : List Char :=
  if b = 32 then ['+']
  else if isPlain b then [Char.ofNat b.toNat]
  else ['%', hexDigit (b.toNat / 16), hexDigit (b.toNat % 16)]

def escape (s : String) : String := String.ofList ((s.toList.flatMap String.utf8EncodeChar).flatMap escapeByte)

/-- The pairs joined by ampersands, each name and value by an equals sign. -/
def encode (pairs : List (String × String)) : String :=
  "&".intercalate (pairs.map fun (k, v) => escape k ++ "=" ++ escape v)

end Casebook.Text.Form
