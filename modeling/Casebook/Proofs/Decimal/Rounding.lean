import Mathlib
import Casebook.Decimal.Fixed
import Casebook.Proofs.Decimal.Denotation

/-! Integers as floats.  The float of an integer denotes the nearest integer of 53 binary digits, so that integers of
no more digits stay as they are and the order of integers is never turned round. -/
namespace Casebook.Decimal

open Float.Model (UnpackedFloat Format)
open Float.Model.UnpackedFloat (ExtendedMantissa)

/-! ### Rounded quotients -/

theorem roundDiv_mul_right {a d c : Nat} (hc : 0 < c) : roundDiv (a * c) (d * c) = roundDiv a d := by
  unfold roundDiv
  simp only [Nat.mul_div_mul_right _ _ hc, Nat.mul_mod_mul_right, ← Nat.mul_assoc, Nat.mul_lt_mul_right hc]

theorem roundDiv_one (a : Nat) : roundDiv a 1 = a := by
  simp [roundDiv, Nat.mod_one]

theorem roundDiv_mul_self {a d : Nat} (hd : 0 < d) : roundDiv (a * d) d = a := by
  have hscale := roundDiv_mul_right (a := a) (d := 1) hd
  rwa [Nat.one_mul, roundDiv_one] at hscale

theorem roundDiv_mono {a b : Nat} (d : Nat) (h : a ≤ b) : roundDiv a d ≤ roundDiv b d := by
  have hquotient := Nat.div_le_div_right (c := d) h
  rcases hquotient.lt_or_eq with hlt | heq
  · have := roundDiv_eq_or a d
    have := roundDiv_eq_or b d
    omega
  · have ha := Nat.div_add_mod a d
    have hb := Nat.div_add_mod b d
    rw [heq] at ha
    unfold roundDiv
    simp only [heq]
    split_ifs <;> omega

/-- A rounded quotient is off by half a unit at most. -/
theorem abs_roundDiv_mul_sub_le (a : Nat) {d : Nat} (hd : 0 < d) : 2 * |((roundDiv a d * d : Nat) : Int) - a| ≤ d := by
  have hsplit : a / d * d + a % d = a := Nat.div_add_mod' a d
  have hup : (a / d + 1) * d = a / d * d + d := Nat.succ_mul (a / d) d
  have hrest := Nat.mod_lt a hd
  have hdown : 2 * (a % d) ≤ d → 2 * |((a / d * d : Nat) : Int) - a| ≤ d := by
    intro hle
    rw [← abs_neg, abs_of_nonneg (by omega)]
    omega
  have hnext : d ≤ 2 * (a % d) → 2 * |(((a / d + 1) * d : Nat) : Int) - a| ≤ d := by
    intro hle
    rw [hup, abs_of_nonneg (by omega)]
    omega
  unfold roundDiv
  dsimp only
  split_ifs with hless hmore heven
  · exact hdown (by omega)
  · exact hnext (by omega)
  · exact hdown (by omega)
  · exact hnext (by omega)

/-! ### Mantissas -/

/-- Bits that are shifted out are remembered as one round bit and one sticky bit. -/
theorem shiftRight_eq (m k : Nat) :
    ExtendedMantissa.mk m false false >>> (k + 1) =
      ⟨m / 2 ^ (k + 1), m / 2 ^ k % 2 != 0, m % 2 ^ k != 0⟩ := by
  induction k with
  | zero =>
    change ExtendedMantissa.shiftRightOne ⟨m, false, false⟩ = _
    simp [ExtendedMantissa.shiftRightOne, Nat.mod_one]
  | succ k ih =>
    have hquotient : m / 2 ^ (k + 1) / 2 = m / 2 ^ (k + 2) := by
      rw [Nat.div_div_eq_div_mul, ← Nat.pow_succ]
    have hsticky : (m / 2 ^ k % 2 != 0 || m % 2 ^ k != 0) = (m % 2 ^ (k + 1) != 0) := by
      have hpower := Nat.two_pow_pos k
      rw [Nat.mod_pow_succ, Bool.eq_iff_iff]
      simp only [Bool.or_eq_true, bne_iff_ne, Ne, Nat.add_eq_zero_iff, Nat.mul_eq_zero]
      omega
    change ExtendedMantissa.shiftRightOne (ExtendedMantissa.mk m false false >>> (k + 1)) = _
    rw [ih, ExtendedMantissa.shiftRightOne, hquotient, hsticky]

theorem roundedMantissa_eq (q : Nat) (round sticky : Bool) :
    (ExtendedMantissa.mk q round sticky).roundedMantissa =
      if round = true then if sticky = true then q + 1 else q + q % 2 else q := by
  cases round <;> cases sticky <;> rfl

/-- What is rounded after a shift is a quotient. -/
theorem roundedMantissa_shiftRight (m k : Nat) :
    (ExtendedMantissa.mk m false false >>> k).roundedMantissa = roundDiv m (2 ^ k) := by
  cases k with
  | zero => exact (roundDiv_one m).symm
  | succ k =>
    have hrest : m % 2 ^ (k + 1) = m % 2 ^ k + 2 ^ k * (m / 2 ^ k % 2) := Nat.mod_pow_succ
    have hsmall := Nat.mod_lt m (Nat.two_pow_pos k)
    rw [shiftRight_eq, roundedMantissa_eq]
    unfold roundDiv
    simp only [bne_iff_ne]
    rw [Nat.pow_succ] at hrest ⊢
    generalize 2 ^ k = half at hrest hsmall ⊢
    -- The round bit says whether half a unit was cut off, and the sticky bit whether there was more.
    rcases Nat.mod_two_eq_zero_or_one (m / half) with hround | hround
    · rw [hround, Nat.mul_zero, Nat.add_zero] at hrest
      have hless : 2 * (m % half) < half * 2 := by omega
      rw [hround, hrest, if_neg (not_not_intro rfl), if_pos hless]
    · rw [hround, Nat.mul_one] at hrest
      have hnotless : ¬2 * (m % half + half) < half * 2 := by omega
      rw [hround, hrest, if_pos Nat.one_ne_zero, if_neg hnotless]
      split_ifs <;> omega

/-! ### Rounded numbers -/

/-- A mantissa of 53 bits, with an exponent that floats have. -/
structure IsNormal (m : Nat) (e : Int) : Prop where
  ge : 2 ^ 52 ≤ m
  lt : m < 2 ^ 53
  exponent_ge : -1074 ≤ e
  exponent_le : e ≤ 971

theorem IsNormal.log2_eq {m : Nat} {e : Int} (h : IsNormal m e) : m.log2 = 52 :=
  (Nat.log2_eq_iff (by have := h.ge; omega)).mpr ⟨h.ge, h.lt⟩

theorem unpackSign_packComponents {spec : Format} (sign : UnpackedFloat.Sign) (exponent : BitVec spec.exponentBits)
    (mantissa : BitVec spec.mantissaBitsWithoutImplicit) :
    UnpackedFloat.unpackSign (UnpackedFloat.packComponents spec sign exponent mantissa) = sign.toBitVec := by
  ext i hi
  obtain rfl : i = 0 := by omega
  simp [UnpackedFloat.unpackSign, UnpackedFloat.packComponents, BitVec.getElem_append, BitVec.getLsbD_append]

/-- A normal number is packed as it is. -/
theorem unpack_pack {m : Nat} {e : Int} (h : IsNormal m e) (sign : UnpackedFloat.Sign) (hm : 0 < m) :
    (Float.Model.pack (.finite sign m e hm)).unpack = .finite sign m e hm := by
  have hge := h.exponent_ge
  have hle := h.exponent_le
  have hbiased : (e + Format.binary64.exponentBias + (52 : Nat)).toNat = (e + 1075).toNat := by
    change (e + 1023 + 52).toNat = _
    omega
  have hexponent : (BitVec.ofNat 11 (e + 1075).toNat).toNat = (e + 1075).toNat := by
    rw [BitVec.toNat_ofNat, Nat.mod_eq_of_lt (by omega)]
  have hfinite : BitVec.ofNat 11 (e + 1075).toNat ≠ -1#11 := by
    intro heq
    have := congrArg BitVec.toNat heq
    rw [hexponent] at this
    change _ = 2047 at this
    omega
  have hnormal : BitVec.ofNat 11 (e + 1075).toNat ≠ 0#11 := by
    intro heq
    have := congrArg BitVec.toNat heq
    rw [hexponent] at this
    change _ = 0 at this
    omega
  have hmantissa : (1#1 ++ BitVec.ofNat 52 m).toNat = m := by
    have hfraction : m % 2 ^ 52 < 2 ^ 52 := Nat.mod_lt m (Nat.two_pow_pos 52)
    have hlow := h.ge
    have hhigh := h.lt
    rw [BitVec.toNat_append, BitVec.toNat_ofNat, BitVec.toNat_ofNat, ← Nat.shiftLeft_add_eq_or_of_lt hfraction]
    omega
  have hsign : UnpackedFloat.Sign.ofBitVec sign.toBitVec = sign := by cases sign <;> rfl
  change UnpackedFloat.unpack Format.binary64 (UnpackedFloat.pack Format.binary64 (.finite sign m e hm)) = _
  unfold UnpackedFloat.pack
  dsimp only
  rw [hbiased, if_neg, if_pos]
  · unfold UnpackedFloat.unpack
    simp only [UnpackedFloat.unpackExponent_packComponents, UnpackedFloat.unpackMantissa_packComponents,
      unpackSign_packComponents, hfinite, hnormal, if_false, hsign]
    refine (UnpackedFloat.finite.injEq ..).mpr ⟨rfl, hmantissa, ?_⟩
    rw [hexponent]
    change ((e + 1075).toNat : Int) - (1023 + 52) = e
    omega
  · rw [h.log2_eq]
    rfl
  · omega

/-- A mantissa is shifted to one of 53 bits. -/
theorem shiftToTargetExponent_eq {m : Nat} {e : Int} (he : -1074 ≤ e + (m.log2 - 52 : Nat)) :
    UnpackedFloat.shiftToTargetExponent Format.binary64 m e .exact =
      (ExtendedMantissa.mk m false false >>> (m.log2 - 52), e + (m.log2 - 52 : Nat)) := by
  have hshift : (Format.binary64.targetExponent (Float.Model.totalExponent m e) - e).toNat = m.log2 - 52 := by
    simp only [Format.targetExponent, Float.Model.totalExponent, Format.mantissaBits, Format.minExponent]
    omega
  unfold UnpackedFloat.shiftToTargetExponent UnpackedFloat.shiftToExponent
  dsimp only
  rw [hshift]
  rfl

/-- What is kept of a mantissa has 53 bits, unless rounding up makes it the next power of two. -/
theorem roundDiv_log2_bounds {m : Nat} (hm : 52 ≤ m.log2) :
    2 ^ 52 ≤ roundDiv m (2 ^ (m.log2 - 52)) ∧ roundDiv m (2 ^ (m.log2 - 52)) ≤ 2 ^ 53 := by
  have hne : m ≠ 0 := by
    rintro rfl
    exact absurd hm (by decide)
  have hlow : 2 ^ 52 * 2 ^ (m.log2 - 52) ≤ m := by
    rw [← Nat.pow_add, Nat.add_sub_cancel' hm]
    exact Nat.log2_self_le hne
  have hhigh : m < 2 ^ (m.log2 - 52) * 2 ^ 53 := by
    rw [← Nat.pow_add, show m.log2 - 52 + 53 = m.log2 + 1 by omega]
    exact Nat.lt_log2_self
  have hge := (Nat.le_div_iff_mul_le (Nat.two_pow_pos _)).mpr hlow
  have hlt := Nat.div_lt_of_lt_mul hhigh
  have := roundDiv_eq_or m (2 ^ (m.log2 - 52))
  omega

/-- Rounding a mantissa that is long enough keeps 53 bits of it. -/
theorem roundWithAccuracy_eq {m : Nat} {e : Int} (sign : UnpackedFloat.Sign) (hm : 52 ≤ m.log2)
    (he : -1074 ≤ e + (m.log2 - 52 : Nat)) (he' : e + (m.log2 - 52 : Nat) ≤ 970) :
    ∃ n f hn, UnpackedFloat.roundWithAccuracy Format.binary64 sign m e .exact = .finite sign n f hn ∧ IsNormal n f ∧
      f ≤ e + (m.log2 - 52 : Nat) + 1 ∧
      (n : ℚ) * 2 ^ f = roundDiv m (2 ^ (m.log2 - 52)) * 2 ^ (e + (m.log2 - 52 : Nat)) := by
  obtain ⟨hge, hle⟩ := roundDiv_log2_bounds hm
  unfold UnpackedFloat.roundWithAccuracy
  rw [shiftToTargetExponent_eq he]
  dsimp only
  rw [roundedMantissa_shiftRight]
  generalize roundDiv m (2 ^ (m.log2 - 52)) = r at *
  generalize e + (m.log2 - 52 : Nat) = f at *
  rcases hle.lt_or_eq with hlt | rfl
  · have hlog : r.log2 = 52 := (Nat.log2_eq_iff (by omega)).mpr ⟨hge, hlt⟩
    have hshift : UnpackedFloat.shiftToTargetExponent Format.binary64 r f .exact = (⟨r, false, false⟩, f) := by
      rw [shiftToTargetExponent_eq (by omega), hlog]
      exact Prod.ext rfl (Int.add_zero f)
    rw [hshift]
    dsimp only
    rw [dif_neg (by omega)]
    exact ⟨r, f, _, rfl, ⟨hge, hlt, he, by omega⟩, by omega, rfl⟩
  · have hshift : UnpackedFloat.shiftToTargetExponent Format.binary64 (2 ^ 53) f .exact =
        (⟨2 ^ 52, false, false⟩, f + 1) := by
      rw [shiftToTargetExponent_eq (by omega), Nat.log2_two_pow]
      rfl
    rw [hshift]
    dsimp only
    rw [dif_neg (by decide)]
    refine ⟨2 ^ 52, f + 1, _, rfl, ⟨le_rfl, by decide, by omega, by omega⟩, le_rfl, ?_⟩
    rw [zpow_add_one₀ (by norm_num)]
    push_cast
    ring

/-! ### Integers -/

/-- The number of 53 binary digits, and zeros behind them, that is nearest to a number; of two that are equally near the
one whose digits end on zero. -/
def nearestNat (n : Nat) : Nat :=
  roundDiv n (2 ^ (n.log2 - 52)) * 2 ^ (n.log2 - 52)

/-- The integer nearest to an integer among those of 53 binary digits with zeros behind them. -/
def nearestInt (n : Int) : Int :=
  n.sign * nearestNat n.natAbs

theorem nearestNat_eq_self {n : Nat} (h : n < 2 ^ 53) : nearestNat n = n := by
  have hlog : n.log2 - 52 = 0 := by
    rcases Nat.eq_zero_or_pos n with rfl | hpos
    · rfl
    · have := (Nat.log2_lt hpos.ne').mpr h
      omega
  rw [nearestNat, hlog, Nat.pow_zero, roundDiv_one, Nat.mul_one]

theorem two_pow_log2_le_nearestNat {n : Nat} (h : n ≠ 0) : 2 ^ n.log2 ≤ nearestNat n := by
  rcases Nat.lt_or_ge n.log2 52 with hlog | hlog
  · rw [nearestNat_eq_self ((Nat.log2_lt h).mp (by omega))]
    exact Nat.log2_self_le h
  · calc
      2 ^ n.log2 = 2 ^ 52 * 2 ^ (n.log2 - 52) := by rw [← Nat.pow_add, Nat.add_sub_cancel' hlog]
      _ ≤ nearestNat n := Nat.mul_le_mul_right _ (roundDiv_log2_bounds hlog).1

theorem nearestNat_le_two_pow (n : Nat) : nearestNat n ≤ 2 ^ (n.log2 + 1) := by
  rcases Nat.lt_or_ge n.log2 52 with hlog | hlog
  · have hlt : n < 2 ^ 53 := Nat.lt_log2_self.trans_le (Nat.pow_le_pow_right (by decide) (by omega))
    rw [nearestNat_eq_self hlt]
    exact Nat.lt_log2_self.le
  · calc
      nearestNat n ≤ 2 ^ 53 * 2 ^ (n.log2 - 52) := Nat.mul_le_mul_right _ (roundDiv_log2_bounds hlog).2
      _ = 2 ^ (n.log2 + 1) := by rw [← Nat.pow_add, show 53 + (n.log2 - 52) = n.log2 + 1 by omega]

/-- Rounding keeps the order. -/
theorem nearestNat_mono {m n : Nat} (h : m ≤ n) : nearestNat m ≤ nearestNat n := by
  rcases Nat.eq_zero_or_pos m with rfl | hpos
  · exact Nat.zero_le _
  have hlog : m.log2 ≤ n.log2 := (Nat.le_log2 (by omega)).mpr ((Nat.log2_self_le hpos.ne').trans h)
  rcases hlog.lt_or_eq with hlt | heq
  · calc
      nearestNat m ≤ 2 ^ (m.log2 + 1) := nearestNat_le_two_pow m
      _ ≤ 2 ^ n.log2 := Nat.pow_le_pow_right (by decide) hlt
      _ ≤ nearestNat n := two_pow_log2_le_nearestNat (by omega)
  · rw [nearestNat, nearestNat, heq]
    exact Nat.mul_le_mul_right _ (roundDiv_mono _ h)

theorem nearestInt_natCast (n : Nat) : nearestInt n = nearestNat n := by
  rcases n with _ | n
  · rfl
  · rw [nearestInt, Int.sign_eq_one_of_pos (Int.natCast_pos.mpr n.succ_pos), Int.one_mul, Int.natAbs_natCast]

theorem nearestInt_neg (n : Int) : nearestInt (-n) = -nearestInt n := by
  simp [nearestInt]

theorem nearestInt_eq_self {n : Int} (h : n.natAbs < 2 ^ 53) : nearestInt n = n := by
  rw [nearestInt, nearestNat_eq_self h, Int.sign_mul_natAbs]

theorem nearestInt_mono {m n : Int} (h : m ≤ n) : nearestInt m ≤ nearestInt n := by
  have hnatural : ∀ {a b : Nat}, a ≤ b → nearestInt a ≤ nearestInt b := by
    intro a b hab
    rw [nearestInt_natCast, nearestInt_natCast]
    exact Int.ofNat_le.mpr (nearestNat_mono hab)
  have hzero : nearestInt ((0 : Nat) : Int) = 0 := rfl
  obtain ⟨a, rfl | rfl⟩ := m.eq_nat_or_neg <;> obtain ⟨b, rfl | rfl⟩ := n.eq_nat_or_neg
  · exact hnatural (Int.ofNat_le.mp h)
  · obtain ⟨rfl, rfl⟩ : a = 0 ∧ b = 0 := by omega
    exact le_rfl
  · have ha := hnatural (Nat.zero_le a)
    have hb := hnatural (Nat.zero_le b)
    rw [nearestInt_neg]
    omega
  · have hab := hnatural (Int.ofNat_le.mp (Int.neg_le_neg_iff.mp h))
    rw [nearestInt_neg, nearestInt_neg]
    exact Int.neg_le_neg hab

/-- An integer below `2 ^ k` is at most `2 ^ (k - 54)` away from the nearest one. -/
theorem abs_nearestNat_sub_le {n k : Nat} (h : n < 2 ^ k) (hk : 53 ≤ k) :
    2 * |(nearestNat n : Int) - n| ≤ 2 ^ (k - 53) := by
  rcases Nat.eq_zero_or_pos n with rfl | hpos
  · exact Int.le_of_lt (Int.pow_pos (by decide))
  · have hlog : n.log2 < k := (Nat.log2_lt hpos.ne').mpr h
    calc
      2 * |(nearestNat n : Int) - n| ≤ (2 ^ (n.log2 - 52) : Nat) := abs_roundDiv_mul_sub_le n (Nat.two_pow_pos _)
      _ ≤ 2 ^ (k - 53) := by exact_mod_cast Nat.pow_le_pow_right (by decide) (show n.log2 - 52 ≤ k - 53 by omega)

theorem abs_nearestInt_sub_le {n : Int} {k : Nat} (h : n.natAbs < 2 ^ k) (hk : 53 ≤ k) :
    2 * |nearestInt n - n| ≤ 2 ^ (k - 53) := by
  have hsign : nearestInt n - n = n.sign * (nearestNat n.natAbs - n.natAbs) := by
    rw [Int.mul_sub, Int.sign_mul_natAbs, nearestInt]
  have hunit : |n.sign| ≤ 1 := by
    rcases Int.lt_trichotomy n 0 with hlt | rfl | hgt
    · rw [Int.sign_eq_neg_one_of_neg hlt]
      decide
    · decide
    · rw [Int.sign_eq_one_of_pos hgt]
      decide
  calc
    2 * |nearestInt n - n| = |n.sign| * (2 * |(nearestNat n.natAbs : Int) - n.natAbs|) := by
      rw [hsign, abs_mul]
      ring
    _ ≤ 1 * 2 ^ (k - 53) := mul_le_mul hunit (abs_nearestNat_sub_le h hk) (by positivity) (by decide)
    _ = 2 ^ (k - 53) := one_mul _

/-- Two integers that are rounded to the same integer of 53 binary digits. -/
def Merged (a n : Int) : Prop := a ≠ n ∧ nearestInt a = nearestInt n

instance (a n : Int) : Decidable (Merged a n) := inferInstanceAs (Decidable (_ ∧ _))

/-- The order of integers that are not merged stays as it is. -/
theorem compare_nearestInt {a n : Int} (h : ¬Merged a n) :
    compare (nearestInt a) (nearestInt n) = compare a n := by
  have hne : a ≠ n → nearestInt a ≠ nearestInt n := fun hne heq => h ⟨hne, heq⟩
  rcases lt_trichotomy a n with hlt | rfl | hgt
  · rw [compare_lt_iff_lt.mpr hlt, compare_lt_iff_lt.mpr ((nearestInt_mono hlt.le).lt_of_ne (hne hlt.ne))]
  · rw [compare_eq_iff_eq.mpr rfl, compare_eq_iff_eq.mpr rfl]
  · rw [compare_gt_iff_gt.mpr hgt, compare_gt_iff_gt.mpr ((nearestInt_mono hgt.le).lt_of_ne (hne hgt.ne').symm)]

namespace Merged

variable {a n : Int}

theorem symm (h : Merged a n) : Merged n a := ⟨h.1.symm, h.2.symm⟩

/-- Only integers of more than 53 binary digits are merged. -/
theorem le_natAbs (h : Merged a n) : 2 ^ 53 ≤ a.natAbs := by
  by_contra hsmall
  rw [Nat.not_le] at hsmall
  have hself : nearestInt n = a := h.2.symm.trans (nearestInt_eq_self hsmall)
  have hpower : nearestInt (2 ^ 53) = 2 ^ 53 := by decide
  -- The nearest integer to one of more digits has more digits too.
  rcases Nat.lt_or_ge n.natAbs (2 ^ 53) with hn | hn
  · exact h.1 (hself.symm.trans (nearestInt_eq_self hn))
  · rcases lt_or_ge n 0 with hneg | hpos
    · have hle := nearestInt_mono (show n ≤ -2 ^ 53 by omega)
      rw [nearestInt_neg, hpower] at hle
      omega
    · have hle := nearestInt_mono (show 2 ^ 53 ≤ n by omega)
      rw [hpower] at hle
      omega

/-- Integers of 64 bits that are merged are close to each other. -/
theorem distance_le (h : Merged a n) (ha : a.natAbs < 2 ^ 64) (hn : n.natAbs < 2 ^ 64) : |a - n| ≤ 2048 := by
  have hleft := abs_nearestInt_sub_le ha (by decide)
  have hright := abs_nearestInt_sub_le hn (by decide)
  rw [h.2, abs_sub_comm] at hleft
  have htriangle := abs_sub_le a (nearestInt n) n
  omega

end Merged

/-! ### Floats of integers -/

theorem log2_mul_two_pow {n : Nat} (h : n ≠ 0) (k : Nat) : (n * 2 ^ k).log2 = n.log2 + k := by
  have hpos := Nat.two_pow_pos k
  rw [Nat.log2_eq_iff (Nat.mul_ne_zero h hpos.ne'), Nat.pow_add, Nat.add_right_comm, Nat.pow_add]
  exact ⟨Nat.mul_le_mul_right _ (Nat.log2_self_le h), Nat.mul_lt_mul_of_pos_right Nat.lt_log2_self hpos⟩

/-- An integer that has few digits is rounded to itself. -/
theorem round_natCast {n : Nat} (hpos : 0 < n) (h : n < 2 ^ 53) :
    ∃ m e hm, UnpackedFloat.round Format.binary64 .positive n 0 = .finite .positive m e hm ∧ IsNormal m e ∧
      e ≤ 1 ∧ (m : ℚ) * 2 ^ e = n := by
  have hlog : n.log2 ≤ 52 := by
    have := (Nat.log2_lt hpos.ne').mpr h
    omega
  have hshift : (0 - Format.binary64.targetExponent (Float.Model.totalExponent n 0)).toNat = 52 - n.log2 := by
    simp only [Format.targetExponent, Float.Model.totalExponent, Format.mantissaBits, Format.minExponent]
    omega
  have hscaled : (n * 2 ^ (52 - n.log2)).log2 = 52 := by
    rw [log2_mul_two_pow hpos.ne']
    omega
  obtain ⟨m, e, hm, hround, hnormal, hle, hvalue⟩ :=
    roundWithAccuracy_eq (m := n * 2 ^ (52 - n.log2)) (e := 0 - (52 - n.log2 : Nat)) .positive (by omega) (by omega)
      (by omega)
  refine ⟨m, e, hm, ?_, hnormal, by omega, ?_⟩
  · unfold UnpackedFloat.round UnpackedFloat.decreaseExponent
    dsimp only
    rw [hshift, Nat.shiftLeft_eq]
    exact hround
  · rw [hvalue, hscaled, Nat.sub_self, Nat.pow_zero, roundDiv_one]
    push_cast
    rw [mul_assoc, ← zpow_natCast, ← zpow_add₀ (by norm_num)]
    simp

theorem unpack_powerOfTen_zero :
    Float.exactlyRepresentablePowersOfTen[0].toModel.unpack = .finite .positive (2 ^ 52) (-52) (by decide) := by
  rfl

/-- The float of a positive integer is the nearest number of 53 binary digits. -/
theorem exists_unpack_ofNat {n : Nat} (hpos : 0 < n) (h : n < 2 ^ 65) :
    ∃ m e hm, (Float.ofNat n).toModel.unpack = .finite .positive m e hm ∧ IsNormal m e ∧
      (m : ℚ) * 2 ^ e = nearestNat n := by
  have hlog : n.log2 < 65 := (Nat.log2_lt hpos.ne').mpr h
  change ∃ m e hm, (Float.ofScientific n false 0).toModel.unpack = _ ∧ _
  unfold Float.ofScientific
  rcases Nat.lt_or_ge n (2 ^ 53) with hsmall | hlarge
  · -- A small integer is converted exactly, and then multiplied by one.
    rw [dif_pos ⟨hsmall, by decide⟩, nearestNat_eq_self hsmall]
    dsimp only
    rw [if_neg Bool.false_ne_true]
    obtain ⟨m, e, hm, hround, hnormal, hle, hvalue⟩ := round_natCast hpos hsmall
    have hfloat : n.toUInt64.toFloat.toModel.unpack = .finite .positive m e hm := by
      have hword : n.toUInt64.toNat = n := by
        rw [Nat.toUInt64_eq, UInt64.toNat_ofNat', Nat.mod_eq_of_lt (by omega)]
      have hcompare : compare (n : Int) 0 = .gt := Int.compare_eq_gt.mpr (by omega)
      change (Float.Model.pack (UnpackedFloat.normalize Format.binary64 (n.toUInt64.toNat : Int) 0 .positive)).unpack = _
      rw [hword, UnpackedFloat.normalize, hcompare]
      dsimp only
      rw [Int.toNat_natCast, hround, unpack_pack hnormal]
    have hscaled : (m * 2 ^ 52).log2 = 104 := by rw [log2_mul_two_pow hm.ne', hnormal.log2_eq]
    have hge := hnormal.exponent_ge
    obtain ⟨m', e', hm', hround', hnormal', -, hvalue'⟩ :=
      roundWithAccuracy_eq (m := m * 2 ^ 52) (e := e + -52) .positive (by omega) (by omega) (by omega)
    refine ⟨m', e', hm', ?_, hnormal', ?_⟩
    · change (Float.Model.pack (UnpackedFloat.mul Format.binary64 n.toUInt64.toFloat.toModel.unpack
        Float.exactlyRepresentablePowersOfTen[0].toModel.unpack)).unpack = _
      rw [hfloat, unpack_powerOfTen_zero]
      exact (congrArg (fun f => (Float.Model.pack f).unpack) hround').trans (unpack_pack hnormal' ..)
    · rw [hvalue', hscaled, roundDiv_mul_self (by decide), ← hvalue]
      congr 2
      omega
  · -- A large one is multiplied by one as it is, and rounded then.
    have hne : n ≠ 0 := hpos.ne'
    have hge : 53 ≤ n.log2 := (Nat.le_log2 hne).mpr hlarge
    have hscaled : (n * 2 ^ 53).log2 = n.log2 + 53 := log2_mul_two_pow hne 53
    rw [dif_neg (by omega)]
    dsimp only
    rw [if_neg Bool.false_ne_true]
    obtain ⟨m, e, hm, hround, hnormal, -, hvalue⟩ :=
      roundWithAccuracy_eq (m := n * 2 ^ 53) (e := -53) .positive (by omega) (by omega) (by omega)
    refine ⟨m, e, hm, ?_, hnormal, ?_⟩
    · have hrange : (2 : Int) ^ Format.binary64.exponentBits = 2048 := rfl
      have hscientific : UnpackedFloat.ofScientific Format.binary64 n 0 =
          UnpackedFloat.roundWithAccuracy Format.binary64 .positive (n <<< 53 * 10 ^ 0) (-53 + 0) .exact := by
        unfold UnpackedFloat.ofScientific
        rw [dif_neg hne, if_neg (by omega), if_neg (by omega), if_pos le_rfl]
        rfl
      change (Float.Model.pack (UnpackedFloat.ofScientific Format.binary64 n 0)).unpack = _
      rw [hscientific, Nat.pow_zero, Nat.mul_one, Nat.shiftLeft_eq, Int.add_zero, hround, unpack_pack hnormal]
    · have hdigits : 2 ^ (n.log2 + 53 - 52) = 2 ^ (n.log2 - 52) * 2 ^ 53 := by
        rw [← Nat.pow_add]
        congr 1
        omega
      rw [hvalue, hscaled, nearestNat, hdigits, roundDiv_mul_right (by decide)]
      push_cast
      rw [← zpow_natCast]
      congr 2
      omega

theorem unpack_ofInt_zero : (Float.ofInt 0).toModel.unpack = .zero .positive := rfl

/-- The float of an integer is finite and denotes the nearest integer of 53 binary digits. -/
theorem ofInt_denotes {n : Int} (h : n.natAbs < 2 ^ 65) :
    (Float.ofInt n).isFinite = true ∧ (Binary64.ofFloat (Float.ofInt n)).toRat = nearestInt n := by
  rcases n with (_ | k) | k
  · exact ⟨rfl, Binary64.toRat_of_unpack_zero unpack_ofInt_zero⟩
  · obtain ⟨m, e, hm, hunpack, -, hvalue⟩ := exists_unpack_ofNat k.succ_pos h
    have hfloat : (Float.ofInt (Int.ofNat (k + 1))).toModel.unpack = .finite .positive m e hm := hunpack
    refine ⟨?_, ?_⟩
    · change (Float.ofInt (Int.ofNat (k + 1))).toModel.unpack.isFinite = true
      rw [hfloat]
      rfl
    · rw [Binary64.toRat_of_unpack hfloat, Int.ofNat_eq_natCast, nearestInt_natCast]
      exact hvalue
  · obtain ⟨m, e, hm, hunpack, hnormal, hvalue⟩ := exists_unpack_ofNat k.succ_pos h
    have hfloat : (Float.ofInt (Int.negSucc k)).toModel.unpack = .finite .negative m e hm := by
      change (Float.Model.pack (Float.ofNat k.succ).toModel.unpack.neg).unpack = _
      rw [hunpack]
      exact unpack_pack hnormal ..
    refine ⟨?_, ?_⟩
    · change (Float.ofInt (Int.negSucc k)).toModel.unpack.isFinite = true
      rw [hfloat]
      rfl
    · rw [Binary64.toRat_of_unpack hfloat, Int.negSucc_eq, ← Nat.cast_add_one, nearestInt_neg, nearestInt_natCast]
      simpa [UnpackedFloat.Sign.apply] using hvalue

theorem natAbs_lt_of_bounds {n : Int} (h : minInt64 ≤ n ∧ n ≤ maxNat64) : n.natAbs < 2 ^ 64 := by
  simp only [minInt64, maxNat64] at h
  omega

theorem ofInt_denotes_of_bounds {n : Int} (h : minInt64 ≤ n ∧ n ≤ maxNat64) :
    (Float.ofInt n).isFinite = true ∧ (Binary64.ofFloat (Float.ofInt n)).toRat = nearestInt n :=
  ofInt_denotes ((natAbs_lt_of_bounds h).trans (by decide))

end Casebook.Decimal
