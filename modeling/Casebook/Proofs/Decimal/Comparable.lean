import Mathlib
import Casebook.Json.Value
import Casebook.Proofs.Suite.Seconds

/-! Floats that can be compared.  All of them can but the one that is no number; digits never read as that one, nor does
JSON hold it. -/
namespace Casebook

open Decimal
open Float.Model (UnpackedFloat Format)

/-! ### Order -/

namespace Decimal

theorem compare_then_swap (e f : Int) (m n : Nat) :
    (compare f e).then (compare n m) = ((compare e f).then (compare m n)).swap := by
  have hexponents : compare f e = (compare e f).swap := Std.OrientedCmp.eq_swap
  have hmantissas : compare n m = (compare m n).swap := Std.OrientedCmp.eq_swap
  rw [Ordering.swap_then, hexponents, hmantissas]

theorem compare_swap (a b : UnpackedFloat) : b.compare a = (a.compare b).map Ordering.swap := by
  cases a with
  | notANumber => cases b <;> rfl
  | infinity s => cases s <;> cases b with
    | infinity t => cases t <;> rfl
    | _ => rfl
  | zero s => cases b with
    | infinity t => cases t <;> rfl
    | finite t => cases t <;> rfl
    | _ => rfl
  | finite s m e => cases s <;> cases b with
    | infinity t => cases t <;> rfl
    | finite t n f => cases t <;> simp [UnpackedFloat.compare, compare_then_swap e f m n]
    | _ => rfl

theorem compare_eq_none_iff (a b : UnpackedFloat) :
    a.compare b = none ↔ a.isNaN = true ∨ b.isNaN = true := by
  fun_cases UnpackedFloat.compare a b <;> simp_all [UnpackedFloat.isNaN]

/-- Of two floats that are numbers one is less than the other, or they are equal. -/
theorem lt_or_beq_or_gt {x y : Float} (hx : x.isNaN = false) (hy : y.isNaN = false) :
    x < y ∨ (x == y) = true ∨ y < x := by
  have hsome : x.toModel.unpack.compare y.toModel.unpack ≠ none := by
    intro hnone
    rcases (compare_eq_none_iff _ _).mp hnone with h | h
    · exact Bool.false_ne_true (hx.symm.trans h)
    · exact Bool.false_ne_true (hy.symm.trans h)
  obtain ⟨o, ho⟩ := Option.ne_none_iff_exists'.mp hsome
  cases o with
  | lt => exact .inl ((lt_iff_unpack x y).mpr (beq_iff_eq.mpr ho))
  | eq =>
    have heq : (x.toModel.unpack.compare y.toModel.unpack == some .eq) = true := beq_iff_eq.mpr ho
    exact .inr (.inl heq)
  | gt =>
    refine .inr (.inr ((lt_iff_unpack y x).mpr (beq_iff_eq.mpr ?_)))
    rw [compare_swap, ho]
    rfl

/-! ### Arithmetic -/

theorem isNaN_unpack_packComponents (sign : UnpackedFloat.Sign) (exponent : BitVec Format.binary64.exponentBits)
    (mantissa : BitVec Format.binary64.mantissaBitsWithoutImplicit) :
    (UnpackedFloat.unpack Format.binary64 (UnpackedFloat.packComponents _ sign exponent mantissa)).isNaN =
      decide (exponent = -1#_ ∧ mantissa ≠ 0#_) := by
  unfold UnpackedFloat.unpack
  simp only [UnpackedFloat.unpackExponent_packComponents, UnpackedFloat.unpackMantissa_packComponents]
  by_cases hspecial : exponent = -1#_
  · by_cases hnone : mantissa = 0#_
    · simp [hspecial, hnone, UnpackedFloat.isNaN]
    · simp [hspecial, hnone, UnpackedFloat.isNaN]
  · rw [if_neg hspecial, decide_eq_false fun h => hspecial h.1]
    split
    · split <;> rfl
    · rfl

/-- Packing makes no number of what is none, and the other way round. -/
theorem isNaN_unpack_pack (f : UnpackedFloat) : (Float.Model.pack f).unpack.isNaN = f.isNaN := by
  change (UnpackedFloat.unpack Format.binary64 (UnpackedFloat.pack Format.binary64 f)).isNaN = f.isNaN
  cases f with
  | notANumber => rfl
  | infinity sign => exact isNaN_unpack_packComponents ..
  | zero sign => exact isNaN_unpack_packComponents ..
  | finite sign m e hm =>
    change _ = false
    unfold UnpackedFloat.pack
    dsimp only
    split
    case isTrue => exact isNaN_unpack_packComponents ..
    case isFalse hsmall =>
      split
      case isTrue =>
        rw [isNaN_unpack_packComponents]
        refine decide_eq_false fun h => ?_
        -- An exponent of ones alone would have been packed as infinity.
        have hexponent := congrArg BitVec.toNat h.1
        rw [BitVec.toNat_ofNat, Nat.mod_eq_of_lt (by omega)] at hexponent
        have hones : (-BitVec.ofNat Format.binary64.exponentBits 1).toNat = 2047 := rfl
        have hbound : 2 ^ Format.binary64.exponentBits = 2048 := rfl
        omega
      case isFalse => exact isNaN_unpack_packComponents ..

theorem isNaN_neg (x : Float) : (-x).isNaN = x.isNaN := by
  change (Float.Model.pack x.toModel.unpack.neg).unpack.isNaN = x.toModel.unpack.isNaN
  rw [isNaN_unpack_pack]
  cases x.toModel.unpack <;> rfl

theorem isNaN_roundWithAccuracy (sign : UnpackedFloat.Sign) (m : Nat) (e : Int) (a : UnpackedFloat.Accuracy) :
    (UnpackedFloat.roundWithAccuracy Format.binary64 sign m e a).isNaN = false := by
  unfold UnpackedFloat.roundWithAccuracy
  dsimp only
  split <;> rfl

theorem isNaN_mul {a b : UnpackedFloat} (ha : a.isNaN = false) (hb : ∃ sign m e hm, b = .finite sign m e hm) :
    (UnpackedFloat.mul Format.binary64 a b).isNaN = false := by
  obtain ⟨sign, m, e, hm, rfl⟩ := hb
  cases a with
  | notANumber => cases ha
  | infinity => rfl
  | zero => rfl
  | finite => exact isNaN_roundWithAccuracy ..

theorem isNaN_div {a b : UnpackedFloat} (ha : a.isNaN = false) (hb : ∃ sign m e hm, b = .finite sign m e hm) :
    (UnpackedFloat.div Format.binary64 a b).isNaN = false := by
  obtain ⟨sign, m, e, hm, rfl⟩ := hb
  cases a with
  | notANumber => cases ha
  | infinity => rfl
  | zero => rfl
  | finite => exact isNaN_roundWithAccuracy ..

/-! ### Digits -/

theorem isNaN_toFloat (n : UInt64) : n.toFloat.isNaN = false := by
  change (Float.Model.pack (UnpackedFloat.normalize Format.binary64 n.toNat 0 .positive)).unpack.isNaN = false
  rw [isNaN_unpack_pack]
  unfold UnpackedFloat.normalize
  split
  · exact isNaN_roundWithAccuracy ..
  · rfl
  · exact isNaN_roundWithAccuracy ..

/-- The powers of ten that are floats are finite and not zero. -/
theorem exists_unpack_powerOfTen (e : Nat) (h : e < Float.exactlyRepresentablePowersOfTen.size) :
    ∃ sign m k hm, Float.exactlyRepresentablePowersOfTen[e].toModel.unpack = .finite sign m k hm := by
  have hall : ∀ x ∈ Float.exactlyRepresentablePowersOfTen,
      x.isFinite = true ∧ x.toModel.unpack.compare (.zero .positive) = some .gt := by
    decide +kernel
  obtain ⟨hfinite, hpositive⟩ := hall _ (Array.getElem_mem h)
  rcases unpack_of_isFinite hfinite with ⟨sign, hzero⟩ | hx
  · rw [hzero] at hpositive
    cases hpositive
  · exact hx

theorem isNaN_ofScientific (m : Nat) (s : Bool) (e : Nat) : (Float.ofScientific m s e).isNaN = false := by
  unfold Float.ofScientific
  split
  case isTrue h =>
    have hpower := exists_unpack_powerOfTen e (by simp [Float.exactlyRepresentablePowersOfTen]; omega)
    dsimp only
    split
    · exact (isNaN_unpack_pack _).trans (isNaN_div (isNaN_toFloat _) hpower)
    · exact (isNaN_unpack_pack _).trans (isNaN_mul (isNaN_toFloat _) hpower)
  case isFalse =>
    dsimp only
    generalize (if s then Int.negOfNat e else Int.ofNat e) = k
    refine (isNaN_unpack_pack _).trans ?_
    unfold UnpackedFloat.ofScientific
    split
    · rfl
    split
    · rfl
    split
    · rfl
    split
    · exact isNaN_roundWithAccuracy ..
    · exact isNaN_roundWithAccuracy ..

theorem isNaN_ofInt (n : Int) : (Float.ofInt n).isNaN = false := by
  cases n with
  | ofNat n => exact isNaN_ofScientific ..
  | negSucc n => exact (isNaN_neg _).trans (isNaN_ofScientific ..)

theorem isNaN_nearestFloat (m : Nat) (e : Int) : (nearestFloat m e).isNaN = false := by
  have hzero : (0.0 : Float).isNaN = false := by decide
  have hendless : (1.0 / 0.0 : Float).isNaN = false := by decide
  simp only [nearestFloat, apply_ite Float.isNaN, hzero, hendless, isNaN_ofScientific, ite_self]

theorem isNaN_of_unsignedFloat? {cs : List Char} {x : Float} (h : unsignedFloat? cs = some x) : x.isNaN = false := by
  have hread : ∀ (whole fraction rest : List Char),
      (if whole.isEmpty && fraction.isEmpty then none
        else (exponent? rest).map fun e => nearestFloat (natOfDigits (whole ++ fraction)) (e - fraction.length)) =
          some x → x.isNaN = false := by
    intro whole fraction rest h
    split at h
    · cases h
    · obtain ⟨e, -, rfl⟩ := Option.map_eq_some_iff.mp h
      exact isNaN_nearestFloat ..
  exact hread _ _ _ h

end Decimal

/-! ### JSON -/

theorem isNaN_of_isFinite {x : Float} (h : x.isFinite = true) : x.isNaN = false := by
  change x.toModel.unpack.isNaN = false
  rcases unpack_of_isFinite h with ⟨sign, hx⟩ | ⟨sign, m, e, hm, hx⟩ <;> rw [hx] <;> rfl

/-- A JSON number is a number. -/
theorem Json.Number.isNaN_toFloat (n : Json.Number) : n.toFloat.isNaN = false := by
  cases n with
  | integer n => exact isNaN_ofInt n
  | real x hfinite => exact isNaN_of_isFinite hfinite

end Casebook
