import Casebook.Assertion.Report
import Casebook.Proofs.Decimal.Comparable

/-! Laws of the comparison operators.  Operators that deny each other do so for every value and every expected text, and
of less, equal and greater just one holds, unless a text that reads as no number is compared with one. -/
namespace Casebook

open Decimal

/-! ### Numbers that are expected -/

namespace Compare

/-- Neither a digit nor a point starts the name of a number. -/
theorem specialFloat?_eq_none {c : Char} (h : c.isDigit = true ∨ c = '.') (rest : List Char) :
    specialFloat? (c :: rest) = none := by
  have hlower : c.toLower = c := by
    unfold Char.toLower
    refine dif_neg fun hupper => ?_
    have hlow : 65 ≤ c.toNat := UInt32.le_iff_toNat_le.mp hupper.1
    rcases h with h | rfl
    · have hhigh : c.toNat ≤ 57 := UInt32.le_iff_toNat_le.mp (of_decide_eq_true (Bool.and_eq_true_iff.mp h).2)
      omega
    · exact absurd hlow (by decide)
  have hstart : ∀ (d : Char) (ds : List Char), d.isDigit = false → d ≠ '.' →
      String.ofList (c.toLower :: rest.map Char.toLower) ≠ String.ofList (d :: ds) := by
    intro d ds hdigit hpoint heq
    have hhead : c.toLower :: rest.map Char.toLower = d :: ds := by simpa using congrArg String.toList heq
    rw [hlower] at hhead
    cases hhead
    rcases h with h | h
    · exact Bool.false_ne_true (hdigit.symm.trans h)
    · exact hpoint h
  unfold specialFloat?
  rw [if_neg, if_neg]
  · exact hstart 'n' ['a', 'n'] rfl (by decide)
  · rintro (hinf | hinfinity)
    · exact hstart 'i' ['n', 'f'] rfl (by decide) hinf
    · exact hstart 'i' ['n', 'f', 'i', 'n', 'i', 't', 'y'] rfl (by decide) hinfinity

/-- What looks like a number is digits and points, perhaps after a minus. -/
theorem exists_digits {cs : List Char} (h : looksNumeric cs = true) :
    ∃ c rest, (cs = c :: rest ∨ cs = '-' :: c :: rest) ∧ (c.isDigit = true ∨ c = '.') := by
  have hdigits : ∀ digits : List Char,
      (!digits.isEmpty && digits.all (fun c => c.isDigit || c = '.') && decide (digits.count '.' ≤ 1)) = true →
      ∃ c rest, digits = c :: rest ∧ (c.isDigit = true ∨ c = '.') := by
    intro digits hlooks
    cases digits with
    | nil => cases hlooks
    | cons c rest =>
      simp only [List.all_cons, Bool.and_eq_true, Bool.or_eq_true, decide_eq_true_eq] at hlooks
      exact ⟨c, rest, rfl, hlooks.1.2.1⟩
  cases cs with
  | nil => cases h
  | cons d ds =>
    by_cases hminus : d = '-'
    · subst hminus
      obtain ⟨c, rest, rfl, hc⟩ := hdigits ds h
      exact ⟨c, rest, .inr rfl, hc⟩
    · have hlooks : looksNumeric (d :: ds) =
          (!(d :: ds).isEmpty && (d :: ds).all (fun c => c.isDigit || c = '.') &&
            decide ((d :: ds).count '.' ≤ 1)) := by
        simp [looksNumeric, hminus]
      obtain ⟨c, rest, heq, hc⟩ := hdigits (d :: ds) (hlooks.symm.trans h)
      exact ⟨c, rest, .inl heq, hc⟩

/-- An expected number is one. -/
theorem isNaN_of_expectedNumber? {expected : String} {x : Float} (h : expectedNumber? expected = some x) :
    x.isNaN = false := by
  have hread : ∀ {c : Char} {rest : List Char} {y : Float}, c.isDigit = true ∨ c = '.' →
      (specialFloat? (c :: rest)).or (unsignedFloat? (c :: rest)) = some y → y.isNaN = false := by
    intro c rest y hc hy
    rw [specialFloat?_eq_none hc, Option.none_or] at hy
    exact isNaN_of_unsignedFloat? hy
  simp only [expectedNumber?] at h
  split at h
  case isFalse => cases h
  case isTrue hlooks =>
    obtain ⟨c, rest, hcs, hc⟩ := exists_digits hlooks
    unfold float? at h
    rcases hcs with hcs | hcs <;> rw [hcs] at h
    · split at h
      case h_1 hplus =>
        cases hplus
        exact absurd hc (by decide)
      case h_2 hminus =>
        cases hminus
        exact absurd hc (by decide)
      case h_3 => exact hread hc h
    · obtain ⟨y, hy, rfl⟩ := Option.map_eq_some_iff.mp h
      exact (isNaN_neg y).trans (hread hc hy)

/-! ### Order -/

/-- A text that reads as the float that is no number is held against a number. -/
def Incomparable (v : Json.Value) (expected : String) : Prop :=
  (expectedNumber? expected).isSome = true ∧
    ∃ s x, v = .string s ∧ float? (Text.trim s) = some x ∧ x.isNaN = true

theorem floatOrder?_eq_none_iff {x y : Float} (hy : y.isNaN = false) :
    floatOrder? x y = none ↔ x.isNaN = true := by
  constructor
  · intro hnone
    by_contra hx
    rw [Bool.not_eq_true] at hx
    have hrelated := lt_or_beq_or_gt hx hy
    simp only [floatOrder?] at hnone
    split_ifs at hnone with hlt hgt heq
    exact hrelated.elim hlt (Or.elim · heq hgt)
  · intro hx
    have hforth : x.toModel.unpack.compare y.toModel.unpack = none := (compare_eq_none_iff _ _).mpr (.inl hx)
    have hback : y.toModel.unpack.compare x.toModel.unpack = none := (compare_eq_none_iff _ _).mpr (.inr hx)
    have hlt : ¬x < y := by
      rw [lt_iff_unpack, Float.Model.UnpackedFloat.lt, hforth]
      exact Bool.false_ne_true
    have hgt : ¬y < x := by
      rw [lt_iff_unpack, Float.Model.UnpackedFloat.lt, hback]
      exact Bool.false_ne_true
    have heq : ¬(x == y) = true := by
      change ¬(x.toModel.unpack.compare y.toModel.unpack == some .eq) = true
      rw [hforth]
      exact Bool.false_ne_true
    rw [floatOrder?, if_neg hlt, if_neg hgt, if_neg heq]

theorem order?_of_numbers {v : Json.Value} {expected : String} {x y : Float}
    (h : numbers? v expected = some (x, y)) : order? v expected = floatOrder? x y := by
  delta order?
  rw [h]

theorem order?_of_texts {v : Json.Value} {expected : String} (h : numbers? v expected = none) :
    order? v expected = some (compare v.display expected) := by
  delta order?
  rw [h]

/-- Every value has an order to every expected text, but for what reads as no number. -/
theorem order?_eq_none_iff {v : Json.Value} {expected : String} :
    order? v expected = none ↔ Incomparable v expected := by
  cases hexpected : expectedNumber? expected with
  | none =>
    have htexts : numbers? v expected = none := by simp [numbers?, hexpected]
    simp [order?_of_texts htexts, Incomparable, hexpected]
  | some y =>
    have hy : y.isNaN = false := isNaN_of_expectedNumber? hexpected
    have horder : order? v expected = none ↔ ∃ x, actualNumber? v = some x ∧ x.isNaN = true := by
      cases hactual : actualNumber? v with
      | none =>
        have htexts : numbers? v expected = none := by simp [numbers?, hexpected, hactual]
        simp [order?_of_texts htexts]
      | some x =>
        have hnumbers : numbers? v expected = some (x, y) := by simp [numbers?, hexpected, hactual]
        simp [order?_of_numbers hnumbers, floatOrder?_eq_none_iff hy]
    rw [horder]
    cases v with
    | number n =>
      have hnumber : ¬n.toFloat.isNaN = true := Bool.not_eq_true _ ▸ n.isNaN_toFloat
      simpa [actualNumber?, Incomparable] using hnumber
    | string s => simp [actualNumber?, Incomparable, hexpected]
    | _ => simp [actualNumber?, Incomparable]

end Compare

/-! ### Operators -/

namespace Operator

open Compare

/-- How the operators relate to each other on a value and an expected text. -/
structure Consistent (v : Json.Value) (expected : String) : Prop where
  ne : ne.holds (some v) expected = !eq.holds (some v) expected
  notContains : notContains.holds (some v) expected = !contains.holds (some v) expected
  ge : ge.holds (some v) expected = (gt.holds (some v) expected || eq.holds (some v) expected)
  le : le.holds (some v) expected = (lt.holds (some v) expected || eq.holds (some v) expected)
  /-- Less, equal and greater exclude each other. -/
  atMostOne : [lt, eq, gt].countP (fun op => op.holds (some v) expected) ≤ 1
  exactlyOne : [lt, eq, gt].countP (fun op => op.holds (some v) expected) = 1 ↔ ¬Incomparable v expected

theorem holds_some {v : Json.Value} (h : v ≠ .null) (op : Operator) (expected : String) :
    op.holds (some v) expected = present op v expected := by
  cases v with
  | null => exact absurd rfl h
  | _ => rfl

theorem consistent {v : Json.Value} (h : v ≠ .null) (expected : String) : Consistent v expected := by
  have hcount : ∀ o : Option Ordering, order? v expected = o →
      [lt, eq, gt].countP (fun op => op.holds (some v) expected) = if o = none then 0 else 1 := by
    intro o ho
    simp only [List.countP_cons, List.countP_nil, holds_some h, present, ho]
    rcases o with _ | _ | _ | _ <;> rfl
  refine ⟨?_, ?_, ?_, ?_, ?_, ?_⟩
  · simp only [holds_some h, present]
    rfl
  · simp only [holds_some h, present]
  · simp only [holds_some h, present]
    rcases order? v expected with _ | _ | _ | _ <;> rfl
  · simp only [holds_some h, present]
    rcases order? v expected with _ | _ | _ | _ <;> rfl
  · rw [hcount _ rfl]
    split <;> omega
  · rw [hcount _ rfl, ← order?_eq_none_iff]
    split <;> simp_all

/-- Only two operators accept what is missing, and so does null. -/
theorem holds_missing {actual : Option Json.Value} (h : actual = none ∨ actual = some .null) (op : Operator)
    (expected : String) : op.holds actual expected = true ↔ op = .null ∨ op = .empty := by
  rcases h with rfl | rfl <;> cases op <;> simp [holds]

/-- The operators on emptiness and on null come in pairs, and what is null is empty. -/
theorem holds_pairs (actual : Option Json.Value) (expected : String) :
    notEmpty.holds actual expected = !empty.holds actual expected ∧
      notNull.holds actual expected = !null.holds actual expected ∧
      (null.holds actual expected = true → empty.holds actual expected = true) := by
  by_cases hmissing : actual = none ∨ actual = some .null
  · rcases hmissing with rfl | rfl <;> exact ⟨rfl, rfl, fun _ => rfl⟩
  · obtain ⟨hnone, hnull⟩ := not_or.mp hmissing
    obtain ⟨v, rfl⟩ := Option.ne_none_iff_exists'.mp hnone
    have hv : v ≠ .null := fun h => hnull (congrArg some h)
    simp only [holds_some hv, present]
    exact ⟨trivial, rfl, fun h => (Bool.false_ne_true h).elim⟩

end Operator

namespace AssertionRule

/-- A rule that finds nothing passes only if its operator accepts what is missing. -/
theorem evaluate_of_nothing {rule : AssertionRule} {response : ResponseView} (h : response.extract rule = .ok none) :
    (rule.evaluate response).passed = true ↔ rule.operator = .null ∨ rule.operator = .empty := by
  have haccepts : rule.acceptsMissing = true ↔ rule.operator = .null ∨ rule.operator = .empty := by
    simp [acceptsMissing]
  have hholds : rule.operator.holds none rule.expectedText = true ↔ rule.operator = .null ∨ rule.operator = .empty :=
    Operator.holds_missing (.inl rfl) ..
  by_cases haccept : rule.acceptsMissing = true
  · have hpasses : rule.operator.holds none rule.expectedText = true := hholds.mpr (haccepts.mp haccept)
    simp [evaluate, judge, h, haccept, hpasses, ← haccepts]
  · simp [evaluate, judge, h, haccept, ← haccepts]

end AssertionRule

/-- The operators agree with each other on every value: on one that exists and is not null, on any that may be missing,
and on what is missing or null, also when a rule looks for it. -/
theorem operators_agree (actual : Option Json.Value) (expected : String) :
    (∀ v, actual = some v → v ≠ .null → Operator.Consistent v expected) ∧
      Operator.notEmpty.holds actual expected = !Operator.empty.holds actual expected ∧
      Operator.notNull.holds actual expected = !Operator.null.holds actual expected ∧
      (Operator.null.holds actual expected = true → Operator.empty.holds actual expected = true) ∧
      (actual = none ∨ actual = some .null →
        ∀ op : Operator, op.holds actual expected = true ↔ op = .null ∨ op = .empty) ∧
      ∀ (response : ResponseView) (rule : AssertionRule), response.extract rule = .ok none →
        ((rule.evaluate response).passed = true ↔ rule.operator = .null ∨ rule.operator = .empty) := by
  obtain ⟨hempty, hnull, himplies⟩ := Operator.holds_pairs actual expected
  refine ⟨?_, hempty, hnull, himplies, ?_, ?_⟩
  · intro v _ hv
    exact Operator.consistent hv expected
  · intro hmissing op
    exact Operator.holds_missing hmissing op expected
  · intro response rule h
    exact AssertionRule.evaluate_of_nothing h

/-- A text that reads as no number is neither less than, equal to nor greater than five, and a rule that expects no
header passes when there is none. -/
theorem operators_agree_nan :
    [Operator.lt, .eq, .gt].countP (fun op => op.holds (some (.string " NaN")) "5") ≤ 1 ∧
      ¬[Operator.lt, .eq, .gt].countP (fun op => op.holds (some (.string " NaN")) "5") = 1 ∧
      (AssertionRule.evaluate ⟨1, 1, .header, "Location", .null, .null, true⟩ ⟨200, [], .null⟩).passed = true := by
  obtain ⟨hpresent, -, -, -, -, hrule⟩ := operators_agree (some (.string " NaN")) "5"
  have hconsistent := hpresent _ rfl nofun
  have hnan : Compare.Incomparable (.string " NaN") "5" :=
    ⟨by decide +kernel, _, _, rfl, rfl, by decide +kernel⟩
  exact ⟨hconsistent.atMostOne, fun hone => hconsistent.exactlyOne.mp hone hnan, (hrule _ _ rfl).mpr (.inl rfl)⟩

end Casebook
