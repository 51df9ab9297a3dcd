import Casebook.Proofs.Assertion.Consistency
import Casebook.Proofs.Decimal.Digits
import Casebook.Proofs.Decimal.Rounding
import Casebook.Run.Response

/-! Comparing integers.  Both sides of a comparison become floats, so two integers are told apart, and put in order, as
the nearest integers of 53 binary digits are: exactly, unless both are so large that they are rounded to the same
one. -/
namespace Casebook

open Decimal

namespace Compare

/-- Finite floats are put in the order of the numbers that they denote. -/
theorem floatOrder?_of_isFinite {x y : Float} (hx : x.isFinite = true) (hy : y.isFinite = true) :
    floatOrder? x y = some (compare (Binary64.ofFloat x).toRat (Binary64.ofFloat y).toRat) := by
  unfold floatOrder?
  simp only [lt_iff_toRat_lt hx hy, lt_iff_toRat_lt hy hx, beq_iff_toRat_eq hx hy]
  rcases lt_trichotomy (Binary64.ofFloat x).toRat (Binary64.ofFloat y).toRat with h | h | h
  · rw [if_pos h, compare_lt_iff_lt.mpr h]
  · rw [h, if_neg (lt_irrefl _), if_neg (lt_irrefl _), if_pos rfl, compare_eq_iff_eq.mpr rfl]
  · rw [if_neg h.asymm, if_pos h, compare_gt_iff_gt.mpr h]

theorem looksNumeric_minus {cs : List Char} (hne : cs ≠ []) (h : ∀ c ∈ cs, c.isDigit = true) :
    looksNumeric ('-' :: cs) = true := by
  have hpoint : cs.count '.' = 0 := List.count_eq_zero.mpr fun hmem => absurd (h '.' hmem) (by decide)
  change (!cs.isEmpty && cs.all (fun c => c.isDigit || c = '.') && decide (cs.count '.' ≤ 1)) = true
  rw [hpoint, List.isEmpty_eq_false_iff.mpr hne]
  simpa using fun c hc => Or.inl (h c hc)

/-- A minus makes no difference to whether digits look like a number. -/
theorem looksNumeric_of_digits {cs : List Char} (hne : cs ≠ []) (h : ∀ c ∈ cs, c.isDigit = true) :
    looksNumeric cs = true := by
  obtain ⟨c, rest, rfl⟩ := List.exists_cons_of_ne_nil hne
  have hminus : c ≠ '-' := by
    rintro rfl
    exact absurd (h '-' List.mem_cons_self) (by decide)
  rw [← looksNumeric_minus hne h]
  simp [looksNumeric, hminus]

/-- An integer that is expected looks like a number. -/
theorem looksNumeric_toString (n : Int) : looksNumeric (toString n).toList = true := by
  have hdigits : ∀ k : Nat, ∀ c ∈ Nat.toDigits 10 k, c.isDigit = true := fun k c hc => isDigit_of_mem hc
  rcases n with k | k
  · rw [toList_toString_ofNat]
    exact looksNumeric_of_digits Nat.toDigits_ne_nil (hdigits k)
  · rw [toList_toString_negSucc]
    exact looksNumeric_minus Nat.toDigits_ne_nil (hdigits (k + 1))

section Integers

variable {a n : Int}

theorem float?_toString_of_bounds (h : minInt64 ≤ n ∧ n ≤ maxNat64) : float? (toString n) = some (Float.ofInt n) :=
  float?_toString ((natAbs_lt_of_bounds h).trans (by decide))

theorem expectedNumber?_toString (h : minInt64 ≤ n ∧ n ≤ maxNat64) :
    expectedNumber? (toString n) = some (Float.ofInt n) := by
  unfold expectedNumber?
  dsimp only
  rw [trim_toString, if_pos (looksNumeric_toString n), float?_toString_of_bounds h]

/-- An integer, as a number or as its text. -/
inductive StandsFor (a : Int) : Json.Value → Prop where
  | number (bounds : minInt64 ≤ a ∧ a ≤ maxNat64) : StandsFor a (.number (.integer a bounds))
  | text : StandsFor a (.string (toString a))

theorem StandsFor.actualNumber?_eq {v : Json.Value} (hv : StandsFor a v) (h : minInt64 ≤ a ∧ a ≤ maxNat64) :
    actualNumber? v = some (Float.ofInt a) := by
  cases hv with
  | number => rfl
  | text =>
    change float? (Text.trim (toString a)) = _
    rw [trim_toString, float?_toString_of_bounds h]

theorem StandsFor.ne_null {v : Json.Value} (hv : StandsFor a v) : v ≠ .null := by
  cases hv <;> exact nofun

/-- Two integers are put in the order of the nearest integers of 53 binary digits. -/
theorem order?_of_standsFor {v : Json.Value} (hv : StandsFor a v) (ha : minInt64 ≤ a ∧ a ≤ maxNat64)
    (hn : minInt64 ≤ n ∧ n ≤ maxNat64) :
    order? v (toString n) = some (compare (nearestInt a) (nearestInt n)) := by
  have hnumbers : numbers? v (toString n) = some (Float.ofInt a, Float.ofInt n) := by
    unfold numbers?
    rw [expectedNumber?_toString hn, hv.actualNumber?_eq ha]
    rfl
  obtain ⟨hfiniteA, hratA⟩ := ofInt_denotes_of_bounds ha
  obtain ⟨hfiniteN, hratN⟩ := ofInt_denotes_of_bounds hn
  rw [order?_of_numbers hnumbers, floatOrder?_of_isFinite hfiniteA hfiniteN, hratA, hratN, ← cmp_eq_compare,
    ← cmp_eq_compare, Int.cast_strictMono.cmp_map_eq]

/-- Two integers are loosely equal if the nearest integers of 53 binary digits are equal. -/
theorem looselyEqual_iff (ha : minInt64 ≤ a ∧ a ≤ maxNat64) (hn : minInt64 ≤ n ∧ n ≤ maxNat64) :
    (Json.Value.number (.integer a ha)).looselyEqual (.number (.integer n hn)) = true ↔
      nearestInt a = nearestInt n := by
  obtain ⟨hfiniteA, hratA⟩ := ofInt_denotes_of_bounds ha
  obtain ⟨hfiniteN, hratN⟩ := ofInt_denotes_of_bounds hn
  change (Float.ofInt a == Float.ofInt n) = true ↔ _
  rw [beq_iff_toRat_eq hfiniteA hfiniteN, hratA, hratN, Int.cast_inj]

end Integers

end Compare

/-- The six operators that compare find a value and an expected text related as two integers are. -/
structure Operator.RelateAs (v : Json.Value) (expected : String) (a n : Int) : Prop where
  eq : Operator.eq.holds (some v) expected = true ↔ a = n
  ne : Operator.ne.holds (some v) expected = true ↔ a ≠ n
  lt : Operator.lt.holds (some v) expected = true ↔ a < n
  gt : Operator.gt.holds (some v) expected = true ↔ n < a
  le : Operator.le.holds (some v) expected = true ↔ a ≤ n
  ge : Operator.ge.holds (some v) expected = true ↔ n ≤ a

theorem Operator.relateAs_of_order? {v : Json.Value} {expected : String} {a n : Int} (hv : v ≠ .null)
    (h : Compare.order? v expected = some (compare a n)) : Operator.RelateAs v expected a n := by
  constructor <;> rw [holds_some hv] <;> simp only [Compare.present, h, beq_iff_eq, bne_iff_ne, Option.some_inj, Ne,
    Option.any_some]
  · exact compare_eq_iff_eq
  · exact compare_eq_iff_eq.not
  · exact compare_lt_iff_lt
  · exact compare_gt_iff_gt
  · exact compare_le_iff_le
  · exact compare_ge_iff_ge

/-- Integers of 64 bits compare exactly, as numbers and as texts, and are loosely equal exactly if they are equal,
unless they are rounded to the same integer of 53 binary digits.  Then they count as equal throughout, but this only happens to
integers of more than 53 binary digits that are at most 2048 apart. -/
theorem integers_compare {a n : Int} (ha : minInt64 ≤ a ∧ a ≤ maxNat64) (hn : minInt64 ≤ n ∧ n ≤ maxNat64) :
    (¬Merged a n →
      (∀ v, Compare.StandsFor a v → Operator.RelateAs v (toString n) a n) ∧
        ((Json.Value.number (.integer a ha)).looselyEqual (.number (.integer n hn)) = true ↔ a = n)) ∧
    (Merged a n →
      (∀ v, Compare.StandsFor a v → Operator.RelateAs v (toString n) n n) ∧
        (Json.Value.number (.integer a ha)).looselyEqual (.number (.integer n hn)) = true ∧
        2 ^ 53 ≤ a.natAbs ∧ 2 ^ 53 ≤ n.natAbs ∧ |a - n| ≤ 2048) := by
  constructor
  · intro h
    refine ⟨fun v hv => Operator.relateAs_of_order? hv.ne_null ?_, ?_⟩
    · rw [Compare.order?_of_standsFor hv ha hn, compare_nearestInt h]
    · rw [Compare.looselyEqual_iff ha hn, ← compare_eq_iff_eq, compare_nearestInt h, compare_eq_iff_eq]
  · intro h
    refine ⟨fun v hv => Operator.relateAs_of_order? hv.ne_null ?_, (Compare.looselyEqual_iff ha hn).mpr h.2,
      h.le_natAbs, h.symm.le_natAbs, h.distance_le (natAbs_lt_of_bounds ha) (natAbs_lt_of_bounds hn)⟩
    rw [Compare.order?_of_standsFor hv ha hn, h.2, compare_eq_iff_eq.mpr rfl, compare_eq_iff_eq.mpr rfl]

/-- The two greatest integers of 64 bits, unsigned and signed, are told apart, and neighbours of 54 binary digits are
not. -/
theorem integers_compare_greatest :
    ¬Merged maxNat64 maxInt64 ∧
      Operator.gt.holds (some (.string "18446744073709551615")) "9223372036854775807" = true ∧
      Merged (-9007199254740993) (-9007199254740992) ∧
      Operator.ne.holds (some (.number (.integer (-9007199254740993) (by decide)))) "-9007199254740992" ≠ true := by
  have hapart : ¬Merged maxNat64 maxInt64 := by decide +kernel
  have hmerged : Merged (-9007199254740993) (-9007199254740992) := by decide +kernel
  have hgreatest := (integers_compare (a := maxNat64) (n := maxInt64) (by decide) (by decide)).1 hapart
  have hneighbours := (integers_compare (by decide) (by decide)).2 hmerged
  exact ⟨hapart, (hgreatest.1 _ .text).gt.mpr (by decide), hmerged,
    fun hne => (hneighbours.1 _ (.number (by decide))).ne.mp hne rfl⟩

/-- An integer of 54 binary digits counts as equal to the one before it, in assertions and in expectations. -/
theorem neighbours_count_as_equal :
    Operator.eq.holds (some (.number (.integer 9007199254740993 (by decide)))) "9007199254740992" = true ∧
      Operator.gt.holds (some (.number (.integer 9007199254740993 (by decide)))) "9007199254740992" = false ∧
      (Json.Value.number (.integer 9007199254740993 (by decide))).looselyEqual
        (.number (.integer 9007199254740992 (by decide))) = true := by
  decide +kernel

end Casebook
