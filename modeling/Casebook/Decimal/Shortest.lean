import Casebook.Decimal.Binary64

/-! The shortest decimal that reads back as a given binary floating point number, and its written forms.

Every real number in the rounding interval of a float reads back as that float.  On the grid of multiples of a
power of ten the two neighbours of the value are the only candidates worth trying, so the search walks from the
coarsest grid to the finest and stops at the first grid with a hit. -/
namespace Casebook.Decimal

/-- Which of two equally near decimals is written. -/
inductive Tie where
  | toEven
  | up
deriving DecidableEq, Repr

/-- The digits `digits * 10 ^ exponent` of a positive number. -/
structure Digits where
  digits : Nat
  exponent : Int
deriving DecidableEq, Repr

/-- A value with the ends of its rounding interval, all three over one denominator. -/
structure Interval where
  low : Nat
  value : Nat
  high : Nat
  denominator : Nat
  closed : Bool
deriving Repr

/-- The interval of the reals that round to a positive float; its ends belong to it when the significand is
even, and its lower half is shorter at the start of a binade. -/
def Interval.ofBinary (b : Binary64) : Interval :=
  let startsBinade := b.significand = 1 <<< 52 ∧ -1074 < b.exponent
  let shift := b.exponent - 2
  let scale := 1 <<< shift.toNat
  { low := (4 * b.significand - if startsBinade then 1 else 2) * scale
    value := 4 * b.significand * scale
    high := (4 * b.significand + 2) * scale
    denominator := 1 <<< (-shift).toNat
    closed := b.significand % 2 = 0 }

/-- A power of ten. -/
def tenTo (k : Nat) : Nat := Nat.pow 10 k

/-- The same interval seen in units of `10 ^ k`: the unit is `denominator` of the answer. -/
def Interval.inUnits (i : Interval) (k : Int) : Interval :=
  let scale := tenTo (-k).toNat
  { i with
    low := i.low * scale
    value := i.value * scale
    high := i.high * scale
    denominator := i.denominator * tenTo k.toNat }

/-- Whether the `c`-th multiple of the unit lies in the interval. -/
def Interval.holds (i : Interval) (c : Nat) : Bool :=
  let point := c * i.denominator
  if i.closed then i.low ≤ point && point ≤ i.high else i.low < point && point < i.high

/-- The better of the two grid neighbours of the value, if one of them lies in the interval. -/
def Interval.nearest? (tie : Tie) (i : Interval) : Option Nat :=
  let below := i.value / i.denominator
  let above := below + 1
  let down := i.value - below * i.denominator
  let up := above * i.denominator - i.value
  match i.holds below, i.holds above with
  | false, false => none
  | true, false => some below
  | false, true => some above
  | true, true =>
    if down < up then some below
    else if up < down then some above
    else match tie with
      | .up => some above
      | .toEven => if below % 2 = 0 then some below else some above

/-- The exponent of the leading decimal digit of the value. -/
def Interval.decade (i : Interval) : Int :=
  ((Nat.toDigits 10 (i.value * tenTo 400 / i.denominator)).length : Int) - 401

/-- Tries the grids from `10 ^ k` downwards, at most `fuel` of them. -/
def Interval.search (tie : Tie) (i : Interval) : Nat → Int → Digits
  | 0, k => ⟨i.value * tenTo (-k).toNat / (i.denominator * tenTo k.toNat), k⟩
  | fuel + 1, k =>
    match (i.inUnits k).nearest? tie with
    | some c => ⟨c, k⟩
    | none => i.search tie fuel (k - 1)

/-- Moves trailing zeros into the exponent; `fuel` bounds their number. -/
def Digits.strip : Nat → Digits → Digits
  | 0, d => d
  | fuel + 1, d =>
    if d.digits ≠ 0 ∧ d.digits % 10 = 0 then strip fuel ⟨d.digits / 10, d.exponent + 1⟩ else d

/-- The fewest decimal digits that read back as a positive float; seventeen always do. -/
def shortest (tie : Tie) (b : Binary64) : Digits :=
  let i := Interval.ofBinary b
  (i.search tie 17 i.decade).strip 17

/-- How a number is written: which of two nearest decimals, for which leading exponents it is written without an
exponent, and the sign that stands before an exponent that is not negative. -/
structure Layout where
  tie : Tie
  plain : Int → Bool
  plus : String

/-- Digits with the point after the first `1 + lead` of them. -/
def plainText (lead : Int) (digits : String) : String :=
  let count : Int := digits.length
  if lead < 0 then "0." ++ "".pushn '0' (-lead - 1).toNat ++ digits
  else if count ≤ lead + 1 then digits ++ "".pushn '0' (lead + 1 - count).toNat ++ ".0"
  else String.ofList (digits.toList.take (lead + 1).toNat) ++ "." ++
    String.ofList (digits.toList.drop (lead + 1).toNat)

/-- Digits with the point after the first of them, and the exponent with its sign. -/
def scientificText (plus : String) (lead : Int) (digits : String) : String :=
  let mantissa := match digits.toList with
    | [] => ""
    | [d] => String.singleton d
    | d :: rest => String.singleton d ++ "." ++ String.ofList rest
  mantissa ++ "e" ++ (if lead < 0 then "-" else plus) ++ toString lead.natAbs

/-- The text of a finite float under a layout. -/
def Layout.render (layout : Layout) (x : Float) : String :=
  let b := Binary64.ofFloat x
  let sign := if b.negative then "-" else ""
  if b.significand = 0 then sign ++ "0.0"
  else
    let d := shortest layout.tie b
    let digits := toString d.digits
    let lead := d.exponent + digits.length - 1
    sign ++ if layout.plain lead then plainText lead digits
      else scientificText layout.plus lead digits

end Casebook.Decimal
