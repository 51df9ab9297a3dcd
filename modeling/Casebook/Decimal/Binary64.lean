/-! Finite binary floating point numbers as exact products of an integer and a power of two, and the whole
numbers that they denote or are cut to. -/
namespace Casebook.Decimal

/-- The number `significand * 2 ^ exponent`, taken below zero when `negative` holds. -/
structure Binary64 where
  negative : Bool
  significand : Nat
  exponent : Int
deriving DecidableEq, Repr

namespace Binary64

/-- The exact value of a finite float, read off its sign, exponent and fraction fields. -/
def ofFloat (x : Float) : Binary64 :=
  let bits : Nat := x.toBits.toNat
  let field : Nat := (bits >>> 52) % 2048
  let fraction : Nat := bits % 1 <<< 52
  if field = 0 then ⟨decide (1 <<< 63 ≤ bits), fraction, -1074⟩
  else ⟨decide (1 <<< 63 ≤ bits), 1 <<< 52 + fraction, Int.ofNat field - 1075⟩

/-- The integer that is left when the digits below one are cut off. -/
def truncate (b : Binary64) : Int :=
  let whole : Nat :=
    if 0 ≤ b.exponent then b.significand <<< b.exponent.toNat
    else b.significand >>> (-b.exponent).toNat
  if b.negative then -(whole : Int) else whole

/-- Whether no digit below one is set. -/
def isIntegral (b : Binary64) : Bool :=
  0 ≤ b.exponent || b.significand % 1 <<< (-b.exponent).toNat == 0

@[simp] theorem truncate_of_nonneg (m : Nat) (e : Nat) :
    truncate ⟨false, m, e⟩ = ((m <<< e : Nat) : Int) := by
  simp [truncate]

@[simp] theorem isIntegral_of_nonneg (s : Bool) (m : Nat) (e : Nat) :
    isIntegral ⟨s, m, e⟩ = true := by
  simp [isIntegral]

end Binary64

/-- Cuts a finite float to an integer and clamps it into `lo ..= hi`. -/
def clampToInt (lo hi : Int) (x : Float) : Int :=
  max lo (min hi (Binary64.ofFloat x).truncate)

theorem lo_le_clampToInt (lo hi : Int) (x : Float) : lo ≤ clampToInt lo hi x := by
  unfold clampToInt; omega

theorem clampToInt_le_hi {lo hi : Int} (h : lo ≤ hi) (x : Float) : clampToInt lo hi x ≤ hi := by
  unfold clampToInt; omega

/-- Whether a finite float has no fraction. -/
def isWhole (x : Float) : Bool :=
  (Binary64.ofFloat x).isIntegral

end Casebook.Decimal
