import Mathlib
import Casebook.Proofs.Assertion.Consistency
import Casebook.Proofs.Text

/-! Integers in decimal.  The text of an integer has no blanks around it and reads as the float of that integer, and
digits after an optional sign are read as the integer that they write, within bounds. -/
namespace Casebook

open Decimal

/-! ### Digits -/

namespace Decimal

theorem isDigit_of_mem {n : Nat} {c : Char} (h : c ∈ Nat.toDigits 10 n) : c.isDigit = true :=
  Nat.isDigit_of_mem_toDigits (by decide) (by decide) h

theorem natOfDigits_eq (cs : List Char) : natOfDigits cs = Nat.ofDigitChars 10 cs 0 :=
  Nat.ofDigitChars_eq_foldl.symm

theorem natOfDigits_toDigits (n : Nat) : natOfDigits (Nat.toDigits 10 n) = n := by
  rw [natOfDigits_eq, Nat.ofDigitChars_ten_toDigits]

/-! ### Texts of integers -/

theorem toList_toString_ofNat (k : Nat) : (toString (Int.ofNat k)).toList = Nat.toDigits 10 k :=
  Nat.toList_repr

theorem toList_toString_negSucc (k : Nat) : (toString (Int.negSucc k)).toList = '-' :: Nat.toDigits 10 (k + 1) := by
  change ("-" ++ Nat.repr (k + 1)).toList = _
  rw [String.toList_append, Nat.toList_repr]
  rfl

/-- No blanks stand around an integer. -/
theorem trim_toString (n : Int) : Text.trim (toString n) = toString n := by
  have hblank : ∀ c ∈ (toString n).toList, Text.isBlank c = false := by
    intro c hc
    rcases n with k | k
    · rw [toList_toString_ofNat] at hc
      exact Text.isBlank_of_isDigit (isDigit_of_mem hc)
    · rw [toList_toString_negSucc, List.mem_cons] at hc
      rcases hc with rfl | hc
      · decide
      · exact Text.isBlank_of_isDigit (isDigit_of_mem hc)
  rw [Text.trim, Text.trimWith, Text.trimList_eq_self_of_forall hblank, String.ofList_toList]

/-- Digits alone read as the float of the number that they write. -/
theorem unsignedFloat?_toDigits {n : Nat} (h : n < 10 ^ 100) :
    unsignedFloat? (Nat.toDigits 10 n) = some (Float.ofNat n) := by
  have hdigits : ∀ c ∈ Nat.toDigits 10 n, c.isDigit = true := fun c hc => isDigit_of_mem hc
  have htake : (Nat.toDigits 10 n).takeWhile Char.isDigit = Nat.toDigits 10 n := List.takeWhile_eq_self_iff.mpr hdigits
  have hdrop : (Nat.toDigits 10 n).dropWhile Char.isDigit = [] := List.dropWhile_eq_nil_iff.mpr hdigits
  have hsize : (Nat.toDigits 10 n).length ≤ 100 := (Nat.length_toDigits_le_iff (by decide) (by decide)).mpr h
  have hnearest : nearestFloat n 0 = Float.ofNat n := by
    unfold nearestFloat
    split
    case isTrue hzero =>
      subst hzero
      rfl
    case isFalse =>
      dsimp only
      rw [if_neg (by omega), if_neg (by omega), if_pos le_rfl]
      rfl
  unfold unsignedFloat? spanDigits
  rw [htake, hdrop]
  simp [Nat.toDigits_ne_nil, exponent?, natOfDigits_toDigits, hnearest]

theorem exists_toDigits_eq_cons (n : Nat) : ∃ c rest, Nat.toDigits 10 n = c :: rest ∧ c.isDigit = true := by
  obtain ⟨c, rest, heq⟩ := List.exists_cons_of_ne_nil (Nat.toDigits_ne_nil (n := n) (b := 10))
  exact ⟨c, rest, heq, isDigit_of_mem (heq ▸ List.mem_cons_self)⟩

/-- An integer reads as its float. -/
theorem float?_toString {n : Int} (h : n.natAbs < 10 ^ 100) : float? (toString n) = some (Float.ofInt n) := by
  have hread : ∀ k : Nat, k < 10 ^ 100 →
      (specialFloat? (Nat.toDigits 10 k)).or (unsignedFloat? (Nat.toDigits 10 k)) = some (Float.ofNat k) := by
    intro k hk
    obtain ⟨c, rest, heq, hc⟩ := exists_toDigits_eq_cons k
    rw [unsignedFloat?_toDigits hk, heq, Compare.specialFloat?_eq_none (.inl hc), Option.none_or]
  unfold float?
  rcases n with k | k
  · obtain ⟨c, rest, heq, hc⟩ := exists_toDigits_eq_cons k
    rw [toList_toString_ofNat]
    split
    case h_1 hplus =>
      cases heq.symm.trans hplus
      exact absurd hc (by decide)
    case h_2 hminus =>
      cases heq.symm.trans hminus
      exact absurd hc (by decide)
    case h_3 => exact hread k h
  · rw [toList_toString_negSucc]
    change ((specialFloat? (Nat.toDigits 10 (k + 1))).or (unsignedFloat? (Nat.toDigits 10 (k + 1)))).map
      (fun x => -x) = _
    rw [hread (k + 1) h]
    rfl

/-! ### Integers that digits write -/

/-- Digits that write a number in decimal. -/
structure WritesNat (cs : List Char) (n : Nat) : Prop where
  ne_nil : cs ≠ []
  digits : ∀ c ∈ cs, c.isDigit = true
  value : Nat.ofDigitChars 10 cs 0 = n

/-- Digits that write an integer in decimal, after an optional sign. -/
inductive WritesInt : List Char → Int → Prop where
  | unsigned {cs : List Char} {n : Nat} (h : WritesNat cs n) : WritesInt cs n
  | plus {cs : List Char} {n : Nat} (h : WritesNat cs n) : WritesInt ('+' :: cs) n
  | minus {cs : List Char} {n : Nat} (h : WritesNat cs n) : WritesInt ('-' :: cs) (-n)

theorem WritesInt.signs {cs : List Char} {i : Int} (h : WritesInt cs i) :
    ∀ c ∈ cs, c = '+' ∨ c = '-' ∨ c.isDigit = true := by
  cases h with
  | unsigned h => exact fun c hc => .inr (.inr (h.digits c hc))
  | plus h => simpa using fun c hc => .inr (.inr (h.digits c hc))
  | minus h => simpa using fun c hc => .inr (.inr (h.digits c hc))

theorem writesNat_toDigits (n : Nat) : WritesNat (Nat.toDigits 10 n) n :=
  ⟨Nat.toDigits_ne_nil, fun _ => isDigit_of_mem, Nat.ofDigitChars_ten_toDigits⟩

theorem writesInt_toString (n : Int) : WritesInt (toString n).toList n := by
  cases n with
  | ofNat k =>
    rw [toList_toString_ofNat]
    exact .unsigned (writesNat_toDigits k)
  | negSucc k =>
    rw [toList_toString_negSucc]
    exact .minus (writesNat_toDigits (k + 1))

theorem nat?_eq_some_iff {cs : List Char} {n : Nat} : nat? cs = some n ↔ WritesNat cs n := by
  unfold nat?
  split
  case isTrue h =>
    simp only [Bool.and_eq_true, Bool.not_eq_true', List.isEmpty_eq_false_iff, List.all_eq_true] at h
    rw [Option.some_inj, natOfDigits_eq]
    exact ⟨fun hvalue => ⟨h.1, h.2, hvalue⟩, fun hwrites => hwrites.value⟩
  case isFalse h =>
    refine ⟨nofun, fun hwrites => absurd ?_ h⟩
    simpa [hwrites.ne_nil] using hwrites.digits

theorem map_nat?_eq_some_iff {cs : List Char} {f : Nat → Int} {n : Int} :
    (nat? cs).map f = some n ↔ ∃ k, WritesNat cs k ∧ f k = n := by
  simp only [Option.map_eq_some_iff, nat?_eq_some_iff]

/-- Bounds that admit negative numbers admit every way to write an integer between them. -/
theorem intIn?_eq_some_iff {lo hi n : Int} (hlo : lo < 0) {cs : List Char} :
    intIn? lo hi cs = some n ↔ WritesInt cs n ∧ lo ≤ n ∧ n ≤ hi := by
  simp only [intIn?, Option.filter_eq_some_iff, Bool.and_eq_true, decide_eq_true_eq]
  refine and_congr_left fun _ => ?_
  split
  case h_1 rest =>
    rw [map_nat?_eq_some_iff]
    constructor
    · rintro ⟨k, hk, rfl⟩
      exact .plus hk
    · rintro (hunsigned | hplus)
      · exact absurd (hunsigned.digits '+' List.mem_cons_self) (by decide)
      · exact ⟨_, hplus, rfl⟩
  case h_2 rest =>
    have hlift : (do return ((← nat? rest) : Int)) = (nat? rest).map Nat.cast := by cases nat? rest <;> rfl
    rw [if_pos hlo, hlift, Option.map_map, map_nat?_eq_some_iff]
    constructor
    · rintro ⟨k, hk, rfl⟩
      exact .minus hk
    · rintro (hunsigned | - | hminus)
      · exact absurd (hunsigned.digits '-' List.mem_cons_self) (by decide)
      · exact ⟨_, hminus, rfl⟩
  case h_3 hplus hminus =>
    rw [map_nat?_eq_some_iff]
    constructor
    · rintro ⟨k, hk, rfl⟩
      exact .unsigned hk
    · rintro (hunsigned | - | -)
      · exact ⟨_, hunsigned, rfl⟩
      · exact absurd rfl (hplus _)
      · exact absurd rfl (hminus _)

end Decimal

end Casebook
