import Casebook.Decimal.Shortest
import Casebook.Text.Basic

/-! Floats with a given count of digits: after the point, or in all.  The exact value is rounded once, a half going to
the even neighbour. -/
namespace Casebook.Decimal

/-- A quotient rounded to the nearest integer, a half to the even one. -/
def roundDiv (num den : Nat) : Nat :=
  let q := num / den
  let r := num % den
  if 2 * r < den then q
  else if den < 2 * r then q + 1
  else if q % 2 = 0 then q else q + 1

theorem roundDiv_eq_or (num den : Nat) : roundDiv num den = num / den ∨ roundDiv num den = num / den + 1 := by
  simp only [roundDiv]
  split
  · exact .inl rfl
  · split
    · exact .inr rfl
    · split
      · exact .inl rfl
      · exact .inr rfl

namespace Binary64

/-- The size of a number times a power of ten, as a quotient. -/
def scaled (b : Binary64) (k : Int) : Nat × Nat :=
  ((b.significand <<< b.exponent.toNat) * tenTo k.toNat, (1 <<< (-b.exponent).toNat) * tenTo (-k).toNat)

/-- The exponent of the leading decimal digit; zero has none, and counts as a number from one to ten. -/
def decade (b : Binary64) : Int :=
  if b.significand = 0 then 0
  else
    let (num, den) := b.scaled 0
    ((Nat.toDigits 10 (num * tenTo 400 / den)).length : Int) - 401

/-- The size with a fixed count of places. -/
def fixedText (b : Binary64) (places : Nat) : String :=
  let (num, den) := b.scaled places
  let digits := toString (roundDiv num den)
  let digits := "".pushn '0' (places + 1 - digits.length) ++ digits
  if places = 0 then digits
  else
    let cs := digits.toList
    String.ofList (cs.take (cs.length - places)) ++ "." ++ String.ofList (cs.drop (cs.length - places))

/-- The digits of the size, one before the point and some behind it, and the exponent. -/
def leadingDigits (b : Binary64) (places : Nat) : Nat × Int :=
  let e := b.decade
  let (num, den) := b.scaled (places - e)
  let n := roundDiv num den
  if tenTo (places + 1) ≤ n then (n / 10, e + 1) else (n, e)

/-- An exponent with its sign and at least two digits. -/
def exponentText (e : Int) : String :=
  let digits := toString e.natAbs
  (if e < 0 then "-" else "+") ++ "".pushn '0' (2 - digits.length) ++ digits

/-- The size with one digit before the point and an exponent. -/
def scientificText (b : Binary64) (places : Nat) : String :=
  let (n, e) := b.leadingDigits places
  let digits := toString n
  let cs := ("".pushn '0' (places + 1 - digits.length) ++ digits).toList
  String.ofList (cs.take 1) ++ (if places = 0 then "" else "." ++ String.ofList (cs.drop 1)) ++ "e" ++ exponentText e

/-- Drops zeros from the end of the places, and the point if none is left. -/
def dropZeros (s : String) : String :=
  if s.toList.contains '.' then
    match s.toList.reverse.dropWhile (· = '0') with
    | '.' :: rest => String.ofList rest.reverse
    | rest => String.ofList rest.reverse
  else s

/-- The size with a count of significant digits, in the shorter of both ways. -/
def generalText (b : Binary64) (digits : Nat) : String :=
  let count := max 1 digits
  let (_, e) := b.leadingDigits (count - 1)
  if -4 ≤ e ∧ e < count then dropZeros (b.fixedText (count - 1 - e).toNat)
  else
    match Text.splitFirst "e" (b.scientificText (count - 1)) with
    | some (mantissa, exponent) => dropZeros mantissa ++ "e" ++ exponent
    | none => ""

end Binary64

end Casebook.Decimal
