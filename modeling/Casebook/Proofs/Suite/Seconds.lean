import Casebook.Suite.Basic
import Mathlib.Data.BitVec
import Mathlib.Order.Compare

/-! Numbers of seconds that are lengths of time.  Of the numbers that are finite and above zero these are the ones below
`2 ^ 64`; the others are too great for the time between two looks at a status. -/
namespace Casebook

open Decimal
open Float.Model (UnpackedFloat Format)

/-! ### Floats as they are unpacked -/

theorem le_iff_unpack (a x : Float) : a ≤ x ↔ a.toModel.unpack.le x.toModel.unpack = true :=
  ⟨fun h => of_decide_eq_true h, fun h => decide_eq_true h⟩

theorem lt_iff_unpack (a x : Float) : a < x ↔ a.toModel.unpack.lt x.toModel.unpack = true :=
  ⟨fun h => of_decide_eq_true h, fun h => decide_eq_true h⟩

theorem unpack_of_isFinite {x : Float} (h : x.isFinite = true) :
    (∃ sign, x.toModel.unpack = .zero sign) ∨ ∃ sign m e hm, x.toModel.unpack = .finite sign m e hm := by
  change x.toModel.unpack.isFinite = true at h
  cases hx : x.toModel.unpack with
  | notANumber => rw [hx] at h; cases h
  | infinity sign => rw [hx] at h; cases h
  | zero sign => exact .inl ⟨sign, rfl⟩
  | finite sign m e hm => exact .inr ⟨sign, m, e, hm, rfl⟩

/-- Floats between finite ones are finite. -/
theorem isFinite_of_le_of_le {a x b : Float} (ha : a.isFinite = true) (hb : b.isFinite = true) (hax : a ≤ x)
    (hxb : x ≤ b) : x.isFinite = true := by
  rw [le_iff_unpack] at hax hxb
  change a.toModel.unpack.isFinite = true at ha
  change b.toModel.unpack.isFinite = true at hb
  change x.toModel.unpack.isFinite = true
  cases hx : x.toModel.unpack with
  | notANumber =>
    rw [hx] at hxb
    cases hxb
  | infinity s =>
    rw [hx] at hax hxb
    -- No finite number is above the one infinity, and none is below the other.
    cases s with
    | positive =>
      generalize b.toModel.unpack = u at hb hxb
      cases u with
      | finite => cases hxb
      | zero => cases hxb
      | notANumber => cases hb
      | infinity => cases hb
    | negative =>
      generalize a.toModel.unpack = u at ha hax
      cases u with
      | finite => cases hax
      | zero => cases hax
      | notANumber => cases ha
      | infinity => cases ha
  | zero => rfl
  | finite => rfl

namespace Decimal.Binary64

theorem toNat_unpackExponent (b : BitVec Format.binary64.numBits) :
    (UnpackedFloat.unpackExponent b).toNat = b.toNat >>> 52 % 2048 := by
  simp [UnpackedFloat.unpackExponent, BitVec.extractLsb]

theorem toNat_unpackMantissa (b : BitVec Format.binary64.numBits) :
    (UnpackedFloat.unpackMantissa b).toNat = b.toNat % 1 <<< 52 := by
  simp [UnpackedFloat.unpackMantissa, BitVec.extractLsb]

/-- The fields that a number is unpacked from.  Without the exponent's bits it is one of the least power; with them its
significand has a first bit that is not stored. -/
theorem fields_of_unpack {b : BitVec Format.binary64.numBits} {sign : UnpackedFloat.Sign} {m : Nat} {e : Int}
    {hm : 0 < m} (h : UnpackedFloat.unpack Format.binary64 b = .finite sign m e hm) :
    (UnpackedFloat.unpackExponent b).toNat = 0 ∧ m = (UnpackedFloat.unpackMantissa b).toNat ∧ e = -1074 ∨
      (UnpackedFloat.unpackExponent b).toNat ≠ 0 ∧ m = 1 <<< 52 + (UnpackedFloat.unpackMantissa b).toNat ∧
        e = (UnpackedFloat.unpackExponent b).toNat - 1075 := by
  unfold UnpackedFloat.unpack at h
  dsimp only at h
  by_cases hspecial : UnpackedFloat.unpackExponent b = -1#11
  · rw [if_pos hspecial] at h
    by_cases hnone : UnpackedFloat.unpackMantissa b = 0#52
    · rw [if_pos hnone] at h
      cases h
    · rw [if_neg hnone] at h
      cases h
  rw [if_neg hspecial] at h
  by_cases hzero : UnpackedFloat.unpackExponent b = 0#11
  · rw [if_pos hzero] at h
    have hfield : (UnpackedFloat.unpackExponent b).toNat = 0 := congrArg BitVec.toNat hzero
    by_cases hnone : UnpackedFloat.unpackMantissa b = 0#52
    · rw [dif_pos hnone] at h
      cases h
    · rw [dif_neg hnone] at h
      cases h
      rw [hfield]
      exact .inl ⟨rfl, rfl, rfl⟩
  · rw [if_neg hzero] at h
    have hsum : (1#1 ++ UnpackedFloat.unpackMantissa b).toNat =
        1 <<< 52 + (UnpackedFloat.unpackMantissa b).toNat := by
      rw [BitVec.toNat_append]
      exact (Nat.shiftLeft_add_eq_or_of_lt (UnpackedFloat.unpackMantissa b).isLt 1).symm
    cases h
    exact .inr ⟨fun h => hzero (BitVec.eq_of_toNat_eq h), hsum, rfl⟩

/-- A number is a significand of at most 53 bits times a power of two, and of exactly 53 bits but for the least
power. -/
structure IsCanonical (significand : Nat) (exponent : Int) : Prop where
  lt : significand < 2 ^ 53
  le : 2 ^ 52 ≤ significand ∨ exponent = -1074

/-- The fields of a float hold the number that it is unpacked to. -/
theorem ofFloat_of_unpack {x : Float} {sign : UnpackedFloat.Sign} {m : Nat} {e : Int} {hm : 0 < m}
    (h : x.toModel.unpack = .finite sign m e hm) :
    (ofFloat x).significand = m ∧ (ofFloat x).exponent = e ∧ IsCanonical m e := by
  have hbits : x.toBits.toNat = x.toModel.toBits.toBitVec.toNat := rfl
  have hfraction := (@UnpackedFloat.unpackMantissa Format.binary64 x.toModel.toBits.toBitVec).isLt
  change _ < 2 ^ 52 at hfraction
  unfold ofFloat
  simp only [hbits, ← toNat_unpackExponent, ← toNat_unpackMantissa]
  rcases fields_of_unpack h with ⟨hfield, rfl, rfl⟩ | ⟨hfield, rfl, rfl⟩
  · rw [if_pos hfield]
    exact ⟨rfl, rfl, Nat.lt_trans hfraction (by decide), .inr rfl⟩
  · rw [if_neg hfield]
    exact ⟨rfl, rfl, by omega, .inl (Nat.le_add_right _ _)⟩

end Decimal.Binary64

/-! ### Lengths of time -/

namespace Duration

/-- The least number of seconds that no length of time has. -/
def endless : Float := 18446744073709551616.0

theorem unpack_endless : endless.toModel.unpack = .finite .positive (2 ^ 52) 12 (by decide) := rfl

theorem unpack_zero : (0.0 : Float).toModel.unpack = .zero .positive := rfl

theorem endless_le_iff {x : Float} {m : Nat} {e : Int} {hm : 0 < m}
    (h : x.toModel.unpack = .finite .positive m e hm) : endless ≤ x ↔ 12 ≤ e := by
  obtain ⟨-, -, hcanonical⟩ := Binary64.ofFloat_of_unpack h
  rw [le_iff_unpack, unpack_endless, h]
  show ((compare 12 e).then (compare (2 ^ 52) m)).isLE = true ↔ _
  rw [Ordering.isLE_then_iff_or, compare_lt_iff_lt, compare_eq_iff_eq, Nat.isLE_compare]
  have := hcanonical.le
  omega

/-- What is rounded of a quotient is at most one more than its whole part. -/
theorem nanosOf_le {x : Float} (h : (Binary64.ofFloat x).exponent < 0) :
    nanosOf x ≤ (Binary64.ofFloat x).significand * 1000000000 / 1 <<< (-(Binary64.ofFloat x).exponent).toNat + 1 := by
  unfold nanosOf
  simp only
  rw [if_neg (Int.not_le.mpr h)]
  split
  · exact Nat.le_succ _
  · split
    · exact Nat.le_refl _
    · split
      · exact Nat.le_succ _
      · exact Nat.le_refl _

theorem secs_lt_iff {x : Float} {m : Nat} {e : Int} (hm : (Binary64.ofFloat x).significand = m)
    (he : (Binary64.ofFloat x).exponent = e) (h : Binary64.IsCanonical m e) :
    (ofNanos (nanosOf x)).secs < 2 ^ 64 ↔ e < 12 := by
  show nanosOf x / 1000000000 < _ ↔ _
  have hlt := h.lt
  rcases lt_or_ge e 0 with hneg | hnonneg
  · have hle := nanosOf_le (he ▸ hneg)
    have hdiv := Nat.div_le_self (m * 1000000000) (1 <<< (-e).toNat)
    rw [hm, he] at hle
    omega
  · obtain ⟨n, rfl⟩ := Int.eq_ofNat_of_zero_le hnonneg
    have hnanos : nanosOf x = m * 2 ^ n * 1000000000 := by
      unfold nanosOf
      simp only
      rw [he, hm, if_pos hnonneg, Int.toNat_natCast, Nat.shiftLeft_eq, Nat.mul_right_comm]
    rw [hnanos, Nat.mul_div_cancel _ (by decide)]
    have hle : 2 ^ 52 ≤ m := h.le.resolve_right (by omega)
    constructor
    · intro hsecs
      by_contra hn
      have hpow : 2 ^ 12 ≤ 2 ^ n := Nat.pow_le_pow_right (by decide) (by omega)
      have := Nat.mul_le_mul hle hpow
      omega
    · intro hn
      have hpow : 2 ^ n ≤ 2 ^ 11 := Nat.pow_le_pow_right (by decide) (by omega)
      calc
        m * 2 ^ n < 2 ^ 53 * 2 ^ 11 := Nat.mul_lt_mul_of_lt_of_le hlt hpow (by decide)
        _ = 2 ^ 64 := rfl

theorem unpack_of_pos {x : Float} (hfinite : x.isFinite = true) (hpos : 0.0 < x) :
    ∃ m e hm, x.toModel.unpack = .finite .positive m e hm := by
  rw [lt_iff_unpack, unpack_zero] at hpos
  rcases unpack_of_isFinite hfinite with ⟨sign, hx⟩ | ⟨_ | _, m, e, hm, hx⟩ <;> rw [hx] at hpos
  · cases hpos
  · cases hpos
  · exact ⟨m, e, hm, hx⟩

theorem pos_of_endless_le {x : Float} (hfinite : x.isFinite = true) (hle : endless ≤ x) : 0.0 < x := by
  rw [le_iff_unpack, unpack_endless] at hle
  rw [lt_iff_unpack, unpack_zero]
  rcases unpack_of_isFinite hfinite with ⟨sign, hx⟩ | ⟨_ | _, m, e, hm, hx⟩ <;> rw [hx] at hle ⊢
  · cases hle
  · cases hle
  · rfl

/-- Numbers above zero are lengths of time up to `2 ^ 64`. -/
theorem ofSeconds?_eq_none_iff {x : Float} (hfinite : x.isFinite = true) (hpos : 0.0 < x) :
    ofSeconds? x = none ↔ endless ≤ x := by
  obtain ⟨m, e, hm, hx⟩ := unpack_of_pos hfinite hpos
  obtain ⟨hsignificand, hexponent, hcanonical⟩ := Binary64.ofFloat_of_unpack hx
  have hneg : ¬ x < 0.0 := by
    rw [lt_iff_unpack, hx, unpack_zero]
    exact Bool.false_ne_true
  have hsecs := secs_lt_iff hsignificand hexponent hcanonical
  rw [endless_le_iff hx]
  unfold ofSeconds?
  simp only [hfinite, hneg, Bool.not_true, Bool.false_or, decide_false, Bool.false_eq_true, if_false,
    Nat.one_shiftLeft]
  split
  case isTrue hlt => simpa using hsecs.mp hlt
  case isFalse hlt => simpa using fun h => hlt (hsecs.mpr h)

end Duration

/-- There is no time between two looks at the status where the setting is finite but too great. -/
theorem RunConfig.pollInterval?_eq_none_iff (config : RunConfig) :
    config.pollInterval? = none ↔
      config.pollIntervalSecs.isFinite = true ∧ Duration.endless ≤ config.pollIntervalSecs := by
  unfold pollInterval?
  split
  case isTrue h =>
    rw [Bool.and_eq_true, decide_eq_true_eq] at h
    rw [Duration.ofSeconds?_eq_none_iff h.1 h.2]
    exact (and_iff_right h.1).symm
  case isFalse h =>
    rw [Bool.and_eq_true, decide_eq_true_eq] at h
    exact iff_of_false nofun fun hle => h ⟨hle.1, Duration.pos_of_endless_le hle.1 hle.2⟩

end Casebook
