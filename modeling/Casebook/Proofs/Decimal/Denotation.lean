import Mathlib
import Casebook.Proofs.Suite.Seconds

/-! The numbers that finite floats denote.  Floats compare as these numbers do, and a float without a fraction is cut to
the integer that it denotes. -/
namespace Casebook.Decimal

open Float.Model (UnpackedFloat Format)

namespace Binary64

/-- The number itself. -/
def toRat (b : Binary64) : ℚ :=
  (if b.negative then -1 else 1) * b.significand * 2 ^ b.exponent

/-! ### Fields -/

theorem toNat_unpackSign (b : BitVec Format.binary64.numBits) :
    (UnpackedFloat.unpackSign b).toNat = b.toNat >>> 63 := by
  have hlt : b.toNat >>> 63 < 2 := by
    rw [Nat.shiftRight_eq_div_pow]
    exact Nat.div_lt_of_lt_mul b.isLt
  simp [UnpackedFloat.unpackSign, BitVec.extractLsb, Nat.mod_eq_of_lt hlt]

theorem sign_of_unpack {b : BitVec Format.binary64.numBits} {sign : UnpackedFloat.Sign} {m : Nat} {e : Int}
    {hm : 0 < m} (h : UnpackedFloat.unpack Format.binary64 b = .finite sign m e hm) :
    sign = UnpackedFloat.Sign.ofBitVec (UnpackedFloat.unpackSign b) := by
  unfold UnpackedFloat.unpack at h
  dsimp only at h
  split at h
  · split at h <;> cases h
  · split at h
    · split at h <;> cases h
      rfl
    · cases h
      rfl

theorem negative_of_unpack {x : Float} {sign : UnpackedFloat.Sign} {m : Nat} {e : Int} {hm : 0 < m}
    (h : x.toModel.unpack = .finite sign m e hm) : (ofFloat x).negative = true ↔ sign = .negative := by
  have hbits : x.toBits.toNat = x.toModel.toBits.toBitVec.toNat := rfl
  have hnegative : (ofFloat x).negative = decide (1 <<< 63 ≤ x.toBits.toNat) := by
    unfold ofFloat
    dsimp only
    split <;> rfl
  have hfirst : @UnpackedFloat.unpackSign Format.binary64 x.toModel.toBits.toBitVec = 0#1 ↔
      ¬1 <<< 63 ≤ x.toBits.toNat := by
    rw [← BitVec.toNat_inj, toNat_unpackSign, hbits, Nat.shiftRight_eq_div_pow, BitVec.toNat_zero,
      Nat.div_eq_zero_iff_lt (Nat.two_pow_pos 63), Nat.not_le, Nat.one_shiftLeft]
  rw [hnegative, decide_eq_true_iff, sign_of_unpack h, UnpackedFloat.Sign.ofBitVec]
  split
  case isTrue hzero => simpa using hfirst.mp hzero
  case isFalse hone => simpa using fun hlt => hone (hfirst.mpr hlt)

/-- Every exponent is at least that of the least numbers. -/
theorem le_exponent_of_unpack {x : Float} {sign : UnpackedFloat.Sign} {m : Nat} {e : Int} {hm : 0 < m}
    (h : x.toModel.unpack = .finite sign m e hm) : -1074 ≤ e := by
  rcases fields_of_unpack h with ⟨-, -, rfl⟩ | ⟨hfield, -, rfl⟩ <;> omega

/-! ### Denoted numbers -/

theorem toRat_of_unpack {x : Float} {sign : UnpackedFloat.Sign} {m : Nat} {e : Int} {hm : 0 < m}
    (h : x.toModel.unpack = .finite sign m e hm) : (ofFloat x).toRat = (sign.apply m : Int) * (2 : ℚ) ^ e := by
  obtain ⟨hsignificand, hexponent, -⟩ := ofFloat_of_unpack h
  have hnegative := negative_of_unpack h
  unfold toRat
  rw [hsignificand, hexponent]
  cases sign with
  | negative => simp [hnegative.mpr rfl, UnpackedFloat.Sign.apply]
  | positive =>
    have hpositive : (ofFloat x).negative = false := Bool.not_eq_true _ ▸ fun h => nomatch hnegative.mp h
    simp [hpositive, UnpackedFloat.Sign.apply]

theorem significand_of_unpack_zero {x : Float} {sign : UnpackedFloat.Sign} (h : x.toModel.unpack = .zero sign) :
    (ofFloat x).significand = 0 := by
  have hbits : x.toBits.toNat = x.toModel.toBits.toBitVec.toNat := rfl
  have hfields : @UnpackedFloat.unpackExponent Format.binary64 x.toModel.toBits.toBitVec = 0#11 ∧
      @UnpackedFloat.unpackMantissa Format.binary64 x.toModel.toBits.toBitVec = 0#52 := by
    unfold Float.Model.unpack UnpackedFloat.unpack at h
    dsimp only at h
    split at h
    · split at h <;> cases h
    · split at h
      · split at h
        · exact ⟨‹_›, ‹_›⟩
        · cases h
      · cases h
  unfold ofFloat
  simp only [hbits, ← toNat_unpackExponent, ← toNat_unpackMantissa, hfields.1, hfields.2]
  rfl

theorem toRat_of_unpack_zero {x : Float} {sign : UnpackedFloat.Sign} (h : x.toModel.unpack = .zero sign) :
    (ofFloat x).toRat = 0 := by
  simp [toRat, significand_of_unpack_zero h]

/-! ### Whole numbers -/

theorem isIntegral_of_neg {b : Binary64} {k : Nat} (h : b.exponent = -k) (hk : 0 < k) :
    b.isIntegral = true ↔ 2 ^ k ∣ b.significand := by
  have hneg : ¬(0 : Int) ≤ -k := by omega
  simp only [isIntegral, h, hneg, decide_false, Bool.false_or, beq_iff_eq, Int.neg_neg, Int.toNat_natCast,
    Nat.one_shiftLeft, Nat.dvd_iff_mod_eq_zero]

theorem exists_exponent_of_neg {b : Binary64} (h : ¬0 ≤ b.exponent) : ∃ k : Nat, b.exponent = -k ∧ 0 < k :=
  ⟨(-b.exponent).toNat, by omega, by omega⟩

/-- A number without digits below one is cut to itself. -/
theorem toRat_eq_truncate {b : Binary64} (h : b.isIntegral = true) : b.toRat = b.truncate := by
  have hwhole : (b.significand : ℚ) * 2 ^ b.exponent = (if 0 ≤ b.exponent then b.significand <<< b.exponent.toNat
      else b.significand >>> (-b.exponent).toNat : Nat) := by
    split_ifs with hexponent
    · obtain ⟨k, hk⟩ := Int.eq_ofNat_of_zero_le hexponent
      rw [hk, Int.toNat_natCast, Nat.shiftLeft_eq, zpow_natCast]
      norm_cast
    · obtain ⟨k, hk, hpos⟩ := exists_exponent_of_neg hexponent
      rw [hk, Int.neg_neg, Int.toNat_natCast, Nat.shiftRight_eq_div_pow,
        Nat.cast_div ((isIntegral_of_neg hk hpos).mp h) (by positivity), zpow_neg, zpow_natCast, div_eq_mul_inv]
      norm_cast
  unfold toRat truncate
  dsimp only
  rw [mul_assoc, hwhole]
  generalize (if 0 ≤ b.exponent then _ else _ : Nat) = whole
  cases b.negative <;> simp

/-- The numbers without digits below one are the integers. -/
theorem isIntegral_iff {b : Binary64} : b.isIntegral = true ↔ ∃ m : Int, b.toRat = m := by
  constructor
  · exact fun h => ⟨b.truncate, toRat_eq_truncate h⟩
  · rintro ⟨m, hm⟩
    by_cases hexponent : 0 ≤ b.exponent
    · simp [isIntegral, hexponent]
    · obtain ⟨k, hk, hpos⟩ := exists_exponent_of_neg hexponent
      have habs : |b.toRat| = b.significand * 2 ^ b.exponent := by
        unfold toRat
        rw [mul_assoc, abs_mul, abs_of_nonneg (show (0 : ℚ) ≤ b.significand * 2 ^ b.exponent by positivity)]
        split_ifs <;> simp
      have hsignificand : b.significand = m.natAbs * 2 ^ k := by
        rw [hm, hk, zpow_neg, zpow_natCast, eq_mul_inv_iff_mul_eq₀ (by positivity), ← Int.cast_abs,
          Int.abs_eq_natAbs] at habs
        exact_mod_cast habs.symm
      exact (isIntegral_of_neg hk hpos).mpr (Dvd.intro_left _ hsignificand.symm)

/-! ### Order -/

section Order

variable {m n : Nat} {e f : Int}

/-- Of two canonical numbers the one with the smaller exponent is less. -/
theorem mul_lt_mul_of_exponent_lt (hm : IsCanonical m e) (hn : IsCanonical n f) (he : -1074 ≤ e) (h : e < f) :
    (m : ℚ) * 2 ^ e < n * 2 ^ f := by
  have hsmall : (m : ℚ) < 2 ^ 53 := by exact_mod_cast hm.lt
  have hlarge : (2 : ℚ) ^ 52 ≤ n := by exact_mod_cast hn.le.resolve_right (by omega)
  have hpower : (2 : ℚ) ^ (e + 1) ≤ 2 ^ f := zpow_le_zpow_right₀ (by norm_num) (by omega)
  calc
    (m : ℚ) * 2 ^ e < 2 ^ 53 * 2 ^ e := mul_lt_mul_of_pos_right hsmall (by positivity)
    _ = 2 ^ 52 * 2 ^ (e + 1) := by
      rw [zpow_add_one₀ (by norm_num)]
      ring
    _ ≤ n * 2 ^ f := mul_le_mul hlarge hpower (by positivity) (by positivity)

/-- Canonical numbers compare by their exponents first. -/
theorem compare_then_eq (hm : IsCanonical m e) (hn : IsCanonical n f) (he : -1074 ≤ e) (hf : -1074 ≤ f) :
    (compare e f).then (compare m n) = compare ((m : ℚ) * 2 ^ e) (n * 2 ^ f) := by
  rcases lt_trichotomy e f with h | rfl | h
  · rw [compare_lt_iff_lt.mpr h, compare_lt_iff_lt.mpr (mul_lt_mul_of_exponent_lt hm hn he h)]
    rfl
  · have hpower : (0 : ℚ) < 2 ^ e := by positivity
    rw [compare_eq_iff_eq.mpr (rfl : e = e)]
    rcases lt_trichotomy m n with h | rfl | h
    · rw [compare_lt_iff_lt.mpr (mul_lt_mul_of_pos_right (Nat.cast_lt.mpr h) hpower)]
      exact compare_lt_iff_lt.mpr h
    · rw [compare_eq_iff_eq.mpr (rfl : (m : ℚ) * 2 ^ e = m * 2 ^ e)]
      exact compare_eq_iff_eq.mpr rfl
    · rw [compare_gt_iff_gt.mpr (mul_lt_mul_of_pos_right (Nat.cast_lt.mpr h) hpower)]
      exact compare_gt_iff_gt.mpr h
  · rw [compare_gt_iff_gt.mpr h, compare_gt_iff_gt.mpr (mul_lt_mul_of_exponent_lt hn hm hf h)]
    rfl

end Order

end Binary64

theorem compare_neg_neg (a b : ℚ) : compare (-a) (-b) = (compare a b).swap := by
  have hswap : compare b a = (compare a b).swap := Std.OrientedCmp.eq_swap
  rw [← hswap]
  rcases lt_trichotomy b a with h | rfl | h
  · rw [compare_lt_iff_lt.mpr h, compare_lt_iff_lt.mpr (neg_lt_neg h)]
  · rw [compare_eq_iff_eq.mpr (rfl : b = b), compare_eq_iff_eq.mpr (rfl : -b = -b)]
  · rw [compare_gt_iff_gt.mpr h, compare_gt_iff_gt.mpr (neg_lt_neg h)]

/-- Finite floats compare as the numbers that they denote. -/
theorem compare_unpack_of_isFinite {x y : Float} (hx : x.isFinite = true) (hy : y.isFinite = true) :
    x.toModel.unpack.compare y.toModel.unpack =
      some (compare (Binary64.ofFloat x).toRat (Binary64.ofFloat y).toRat) := by
  have hpos : ∀ {m : Nat} (e : Int), 0 < m → (0 : ℚ) < m * 2 ^ e := by
    intro m e hm
    have : (0 : ℚ) < m := Nat.cast_pos.mpr hm
    positivity
  rcases unpack_of_isFinite hx with ⟨s, hux⟩ | ⟨s, m, e, hm, hux⟩ <;>
    rcases unpack_of_isFinite hy with ⟨t, huy⟩ | ⟨t, n, f, hn, huy⟩
  · rw [Binary64.toRat_of_unpack_zero hux, Binary64.toRat_of_unpack_zero huy, hux, huy]
    rfl
  · rw [Binary64.toRat_of_unpack_zero hux, Binary64.toRat_of_unpack huy, hux, huy]
    have := hpos f hn
    cases t with
    | negative =>
      rw [compare_gt_iff_gt.mpr (by simpa [UnpackedFloat.Sign.apply] using this)]
      rfl
    | positive =>
      rw [compare_lt_iff_lt.mpr (by simpa [UnpackedFloat.Sign.apply] using this)]
      rfl
  · rw [Binary64.toRat_of_unpack hux, Binary64.toRat_of_unpack_zero huy, hux, huy]
    have := hpos e hm
    cases s with
    | negative =>
      rw [compare_lt_iff_lt.mpr (by simpa [UnpackedFloat.Sign.apply] using this)]
      rfl
    | positive =>
      rw [compare_gt_iff_gt.mpr (by simpa [UnpackedFloat.Sign.apply] using this)]
      rfl
  · have hcompare := Binary64.compare_then_eq (Binary64.ofFloat_of_unpack hux).2.2 (Binary64.ofFloat_of_unpack huy).2.2
      (Binary64.le_exponent_of_unpack hux) (Binary64.le_exponent_of_unpack huy)
    rw [Binary64.toRat_of_unpack hux, Binary64.toRat_of_unpack huy, hux, huy]
    have hleft := hpos e hm
    have hright := hpos f hn
    cases s <;> cases t <;> simp only [UnpackedFloat.Sign.apply, UnpackedFloat.compare, Int.cast_neg, Int.cast_natCast,
      neg_mul, hcompare, compare_neg_neg]
    · rw [compare_lt_iff_lt.mpr (by linarith)]
    · rw [compare_gt_iff_gt.mpr (by linarith)]

theorem lt_iff_toRat_lt {x y : Float} (hx : x.isFinite = true) (hy : y.isFinite = true) :
    x < y ↔ (Binary64.ofFloat x).toRat < (Binary64.ofFloat y).toRat := by
  rw [lt_iff_unpack, UnpackedFloat.lt, compare_unpack_of_isFinite hx hy, beq_iff_eq, Option.some_inj, compare_lt_iff_lt]

theorem beq_iff_toRat_eq {x y : Float} (hx : x.isFinite = true) (hy : y.isFinite = true) :
    (x == y) = true ↔ (Binary64.ofFloat x).toRat = (Binary64.ofFloat y).toRat := by
  change (x.toModel.unpack.compare y.toModel.unpack == some .eq) = true ↔ _
  rw [compare_unpack_of_isFinite hx hy, beq_iff_eq, Option.some_inj, compare_eq_iff_eq]

end Casebook.Decimal
