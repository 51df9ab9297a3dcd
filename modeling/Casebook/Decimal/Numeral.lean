import Casebook.Decimal.Binary64

/-! Numbers written in decimal: signed and unsigned integers within bounds, and floating point numbers rounded
to the nearest. -/
namespace Casebook.Decimal

/-- The value of a decimal digit. -/
def digitValue (c : Char) : Nat := c.toNat - '0'.toNat

/-- The number that a list of decimal digits denotes. -/
def natOfDigits (cs : List Char) : Nat :=
  cs.foldl (fun n c => 10 * n + digitValue c) 0

/-- Reads one or more digits and nothing else. -/
def nat? (cs : List Char) : Option Nat :=
  if !cs.isEmpty && cs.all Char.isDigit then some (natOfDigits cs) else none

/-- Reads digits after an optional sign; a minus is refused where the bounds admit no negative number. -/
def intIn? (lo hi : Int) (cs : List Char) : Option Int :=
  let read : Option Int := match cs with
    | '+' :: rest => (nat? rest).map Int.ofNat
    | '-' :: rest => if lo < 0 then (nat? rest).map fun n => -(n : Int) else none
    | _ => (nat? cs).map Int.ofNat
  read.filter fun n => lo ≤ n && n ≤ hi

/-- The least signed 64 bit integer. -/
def minInt64 : Int := -9223372036854775808

/-- The greatest signed 64 bit integer. -/
def maxInt64 : Int := 9223372036854775807

/-- The greatest unsigned 64 bit integer. -/
def maxNat64 : Int := 18446744073709551615

/-- The least signed 128 bit integer. -/
def minInt128 : Int := -170141183460469231731687303715884105728

/-- The greatest signed 128 bit integer. -/
def maxInt128 : Int := 170141183460469231731687303715884105727

/-- The greatest unsigned 128 bit integer. -/
def maxNat128 : Int := 340282366920938463463374607431768211455

/-- Reads a signed 64 bit integer. -/
def int64? (s : String) : Option Int := intIn? minInt64 maxInt64 s.toList

/-- Reads an unsigned 64 bit integer. -/
def nat64? (s : String) : Option Nat := (intIn? 0 maxNat64 s.toList).map Int.toNat

theorem intIn?_bounds {lo hi n : Int} {cs : List Char} (h : intIn? lo hi cs = some n) :
    lo ≤ n ∧ n ≤ hi := by
  simp only [intIn?, Option.filter_eq_some_iff, Bool.and_eq_true, decide_eq_true_eq] at h
  exact h.2

/-- The float nearest to `m * 10 ^ e`.  Exponents far outside the range of floats are answered at once. -/
def nearestFloat (m : Nat) (e : Int) : Float :=
  if m = 0 then 0.0
  else
    let size : Int := (Nat.toDigits 10 m).length
    if 400 < e + size then 1.0 / 0.0
    else if e + size < -400 then 0.0
    else if 0 ≤ e then Float.ofScientific m false e.toNat
    else Float.ofScientific m true (-e).toNat

/-- Digits split at the first character that is none. -/
def spanDigits (cs : List Char) : List Char × List Char :=
  (cs.takeWhile Char.isDigit, cs.dropWhile Char.isDigit)

/-- Reads the exponent part of a number, which may be missing. -/
def exponent? : List Char → Option Int
  | [] => some 0
  | e :: rest =>
    if e = 'e' ∨ e = 'E' then
      match rest with
      | '+' :: ds => (nat? ds).map Int.ofNat
      | '-' :: ds => (nat? ds).map fun n => -(n : Int)
      | ds => (nat? ds).map Int.ofNat
    else none

/-- Reads an unsigned floating point number: digits with an optional point, at least one digit, and an optional
exponent. -/
def unsignedFloat? (cs : List Char) : Option Float :=
  let (whole, rest) := spanDigits cs
  let (fraction, rest) := match rest with
    | '.' :: more => spanDigits more
    | _ => ([], rest)
  if whole.isEmpty && fraction.isEmpty then none
  else (exponent? rest).map fun e =>
    nearestFloat (natOfDigits (whole ++ fraction)) (e - fraction.length)

/-- The names of the numbers that have no digits. -/
def specialFloat? (cs : List Char) : Option Float :=
  let name := String.ofList (cs.map Char.toLower)
  if name = "inf" ∨ name = "infinity" then some (1.0 / 0.0)
  else if name = "nan" then some (0.0 / 0.0)
  else none

/-- Reads a floating point number after an optional sign. -/
def float? (s : String) : Option Float :=
  let read (cs : List Char) : Option Float := (specialFloat? cs).or (unsignedFloat? cs)
  match s.toList with
  | '+' :: rest => read rest
  | '-' :: rest => (read rest).map fun x => -x
  | cs => read cs

/-- The value of a digit in a base up to 16. -/
def digitIn? (base : Nat) (c : Char) : Option Nat :=
  let n :=
    if c.isDigit then c.toNat - '0'.toNat
    else if 'a' ≤ c ∧ c ≤ 'f' then c.toNat - 'a'.toNat + 10
    else if 'A' ≤ c ∧ c ≤ 'F' then c.toNat - 'A'.toNat + 10
    else 16
  if n < base then some n else none

/-- Reads one or more digits in a base up to 16. -/
def natIn? (base : Nat) (cs : List Char) : Option Nat :=
  if cs.isEmpty then none
  else cs.foldlM (fun n c => (digitIn? base c).map fun d => base * n + d) 0

end Casebook.Decimal
