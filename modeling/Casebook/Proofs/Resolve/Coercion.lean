import Casebook.Proofs.Decimal.Digits
import Casebook.Proofs.Decimal.Rounding
import Casebook.Resolve.Params

/-! Converting values to the types of table rows.  An integer is what the value denotes, unless a float is too large for
one; and what was converted is of the type asked for and converts to itself, unless a text reads as a float that JSON
does not hold. -/
namespace Casebook

open Decimal

/-! ### Integers -/

namespace Json

theorem Number.ofInt64_eq {n : Int} (h : minInt64 ≤ n ∧ n ≤ maxInt64) :
    Number.ofInt64 n = .integer n ⟨h.1, h.2.trans (by decide)⟩ := by
  simp only [ofInt64, min_eq_right h.2, max_eq_right h.1]

namespace Value

theorem ofInt_eq {n : Int} (h : minInt64 ≤ n ∧ n ≤ maxNat64) : Value.ofInt n = .number (.integer n h) := by
  rw [ofInt, Number.ofInt?_eq_some h]
  rfl

/-- The integer that a number is, or that a text writes between blanks. -/
def Denotes : Value → Int → Prop
  | .number (.integer n _), m => n = m
  | .number (.real x _), m => (Binary64.ofFloat x).toRat = m
  | .string s, m => WritesInt (Text.trim s).toList m
  | _, _ => False

/-- A float without a fraction that no signed integer of 64 bits is equal to. -/
def Saturates : Value → Prop
  | .number (.real x _) => ∃ m : Int, (Binary64.ofFloat x).toRat = m ∧ ¬(minInt64 ≤ m ∧ m ≤ maxInt64)
  | _ => False

end Value

end Json

namespace ValueType

/-- A float that is an integer is clamped to 64 bits, and any other is refused. -/
theorem wholeFloat?_eq_some_iff {x : Float} {w : Json.Value} :
    wholeFloat? x = some w ↔ ∃ m : Int, (Binary64.ofFloat x).toRat = m ∧ w = .number (.ofInt64 m) := by
  have hclamp : ∀ m : Int, (Binary64.ofFloat x).truncate = m →
      Json.Number.ofInt64 (clampToInt minInt64 maxInt64 x) = .ofInt64 m := by
    rintro m rfl
    simp only [clampToInt, Json.Number.ofInt64, Json.Number.integer.injEq, minInt64, maxInt64]
    omega
  unfold wholeFloat?
  split
  case isTrue hwhole =>
    have hvalue : (Binary64.ofFloat x).toRat = (Binary64.ofFloat x).truncate := Binary64.toRat_eq_truncate hwhole
    constructor
    · intro hw
      cases hw
      exact ⟨_, hvalue, by rw [hclamp _ rfl]⟩
    · rintro ⟨m, hm, rfl⟩
      rw [hclamp m (Int.cast_inj.mp (hvalue.symm.trans hm))]
  case isFalse hpart =>
    constructor
    · intro hw
      cases hw
    · rintro ⟨m, hm, -⟩
      exact absurd (Binary64.isIntegral_iff.mpr ⟨m, hm⟩) hpart

variable {v w : Json.Value}

theorem coerce?_integer_string_iff {s : String} :
    ValueType.integer.coerce? (.string s) = some w ↔
      ∃ m bounds, w = .number (.integer m bounds) ∧ (Json.Value.string s).Denotes m ∧ m ≤ maxInt64 := by
  have hread : ∀ n, int64? (Text.trim s) = some n ↔
      (Json.Value.string s).Denotes n ∧ minInt64 ≤ n ∧ n ≤ maxInt64 := fun n => intIn?_eq_some_iff (by decide)
  change (int64? (Text.trim s)).map Json.Value.ofInt = some w ↔ _
  simp only [Option.map_eq_some_iff, hread]
  constructor
  · rintro ⟨n, ⟨hdenotes, hlow, hhigh⟩, rfl⟩
    have hbounds : minInt64 ≤ n ∧ n ≤ maxNat64 := ⟨hlow, hhigh.trans (by decide)⟩
    exact ⟨n, hbounds, Json.Value.ofInt_eq hbounds, hdenotes, hhigh⟩
  · rintro ⟨n, hbounds, rfl, hdenotes, hhigh⟩
    exact ⟨n, ⟨hdenotes, hbounds.1, hhigh⟩, Json.Value.ofInt_eq hbounds⟩

theorem coerce?_integer_real_iff {x : Float} {finite : x.isFinite = true}
    (h : ¬(Json.Value.number (.real x finite)).Saturates) :
    ValueType.integer.coerce? (.number (.real x finite)) = some w ↔
      ∃ m bounds, w = .number (.integer m bounds) ∧ (Json.Value.number (.real x finite)).Denotes m ∧ m ≤ maxInt64 := by
  have hrange : ∀ m : Int, (Binary64.ofFloat x).toRat = m → minInt64 ≤ m ∧ m ≤ maxInt64 := by
    intro m hm
    by_contra hout
    exact h ⟨m, hm, hout⟩
  refine wholeFloat?_eq_some_iff.trans ?_
  constructor
  · rintro ⟨m, hm, rfl⟩
    exact ⟨m, _, congrArg _ (Json.Number.ofInt64_eq (hrange m hm)), hm, (hrange m hm).2⟩
  · rintro ⟨m, bounds, rfl, hm, -⟩
    exact ⟨m, hm, congrArg _ (Json.Number.ofInt64_eq (hrange m hm)).symm⟩

/-- A value becomes the integer that it denotes, which is a signed one unless it was that number before. -/
theorem coerce?_integer_eq_some_iff (h : ¬v.Saturates) :
    ValueType.integer.coerce? v = some w ↔
      ∃ m bounds, w = .number (.integer m bounds) ∧ v.Denotes m ∧ (m ≤ maxInt64 ∨ v = w) := by
  cases v with
  | number n =>
    cases n with
    | integer n bounds =>
      constructor
      · intro hw
        cases hw
        exact ⟨n, bounds, rfl, rfl, .inr rfl⟩
      · rintro ⟨m, _, rfl, rfl, -⟩
        rfl
    | real x finite =>
      rw [coerce?_integer_real_iff h]
      constructor
      · rintro ⟨m, bounds, hw, hm, hle⟩
        exact ⟨m, bounds, hw, hm, .inl hle⟩
      · rintro ⟨m, bounds, rfl, hm, hle | hsame⟩
        · exact ⟨m, bounds, rfl, hm, hle⟩
        · cases hsame
  | string s =>
    rw [coerce?_integer_string_iff]
    constructor
    · rintro ⟨m, bounds, hw, hm, hle⟩
      exact ⟨m, bounds, hw, hm, .inl hle⟩
    · rintro ⟨m, bounds, rfl, hm, hle | hsame⟩
      · exact ⟨m, bounds, rfl, hm, hle⟩
      · cases hsame
  | _ =>
    refine ⟨nofun, ?_⟩
    rintro ⟨_, _, _, hdenotes, _⟩
    exact hdenotes.elim

/-- A value that denotes no integer of 64 bits becomes none. -/
theorem coerce?_integer_eq_none (h : ¬v.Saturates)
    (hnone : ∀ m, v.Denotes m → ¬(minInt64 ≤ m ∧ m ≤ maxNat64)) : ValueType.integer.coerce? v = none := by
  rw [Option.eq_none_iff_forall_ne_some]
  intro w hw
  obtain ⟨m, bounds, -, hdenotes, -⟩ := (coerce?_integer_eq_some_iff h).mp hw
  exact hnone m hdenotes bounds

/-- A float without a fraction becomes the closest signed integer of 64 bits. -/
theorem coerce?_integer_of_saturates (h : v.Saturates) {m : Int} (hm : v.Denotes m) :
    ValueType.integer.coerce? v = some (.number (.ofInt64 m)) ∧ ¬(Json.Value.number (.ofInt64 m)).Denotes m := by
  cases v with
  | number n =>
    cases n with
    | integer => exact h.elim
    | real x finite =>
      obtain ⟨k, hk, hout⟩ := h
      obtain rfl : m = k := by exact_mod_cast hm.symm.trans hk
      refine ⟨wholeFloat?_eq_some_iff.mpr ⟨m, hk, rfl⟩, fun hsame => hout ?_⟩
      change max minInt64 (min maxInt64 m) = m at hsame
      simp only [minInt64, maxInt64] at hsame ⊢
      omega
  | _ => exact h.elim

end ValueType

/-- A row whose value is not of its type fails with both. -/
theorem Evaluator.resolveRow_eq_error {ev : Evaluator} {scope : Scope} {index : Option Nat} {row : ParamEntry}
    {name : String} {v : Json.Value} (hname : ev.renderText row.name scope index = .ok name)
    (hvalue : ev.resolve scope index row.value = .ok v) (hnone : row.type.coerce? v = none) :
    ev.resolveRow scope index row = .error (.coercion v row.type) := by
  simp only [resolveRow, hname, hvalue, bind, Except.bind, hnone]
  rfl

/-- An integer that is asked for is the one that the value denotes, and a row of a table fails with the value and the
type if the value denotes none of 64 bits.  Only a float without a fraction may be too large for a signed integer, and then
it becomes the closest one there is. -/
theorem integer_coercion (v : Json.Value) :
    (¬v.Saturates →
      (∀ w, ValueType.integer.coerce? v = some w ↔
        ∃ m bounds, w = .number (.integer m bounds) ∧ v.Denotes m ∧ (m ≤ maxInt64 ∨ v = w)) ∧
      ((∀ m, v.Denotes m → ¬(minInt64 ≤ m ∧ m ≤ maxNat64)) →
        ∀ (ev : Evaluator) (scope : Scope) (index : Option Nat) (row : ParamEntry) (name : String),
          ev.renderText row.name scope index = .ok name → ev.resolve scope index row.value = .ok v →
            row.type = .integer → ev.resolveRow scope index row = .error (.coercion v .integer))) ∧
    (v.Saturates → ∀ m, v.Denotes m →
      ValueType.integer.coerce? v = some (.number (.ofInt64 m)) ∧ ¬(Json.Value.number (.ofInt64 m)).Denotes m) := by
  refine ⟨fun h => ⟨fun w => ValueType.coerce?_integer_eq_some_iff h, ?_⟩, ?_⟩
  · intro hnone ev scope index row name hname hvalue htype
    have hfails : row.type.coerce? v = none := htype ▸ ValueType.coerce?_integer_eq_none h hnone
    rw [Evaluator.resolveRow_eq_error hname hvalue hfails, htype]
  · intro h m hm
    exact ValueType.coerce?_integer_of_saturates h hm

/-- A text with blanks and a sign becomes the integer that it writes, and one beyond the signed integers becomes
none. -/
theorem integer_coercion_of_text :
    ValueType.integer.coerce? (.string " +42\n") = some (.number (.integer 42 (by decide))) ∧
      ValueType.integer.coerce? (.string "18446744073709551615") ≠
        some (.number (.integer 18446744073709551615 (by decide))) := by
  have hsigned := ((integer_coercion (.string " +42\n")).1 (fun h => h)).1
  have hgreatest := ((integer_coercion (.string "18446744073709551615")).1 (fun h => h)).1
  have htrim : (Text.trim " +42\n").toList = ['+', '4', '2'] := by decide +kernel
  have hdigits : WritesNat ['4', '2'] 42 := ⟨by decide, by simp, by decide⟩
  have hwrites : WritesInt (Text.trim " +42\n").toList 42 := by
    rw [htrim]
    exact .plus hdigits
  refine ⟨(hsigned _).mpr ⟨42, by decide, rfl, hwrites, .inl (by decide)⟩, fun h => ?_⟩
  obtain ⟨m, bounds, hw, -, hle | hsame⟩ := (hgreatest _).mp h
  · cases hw
    exact absurd hle (by decide)
  · cases hsame

/-- A float of three hundred digits, which no integer of 64 bits is equal to, becomes the greatest signed one. -/
theorem great_float_becomes_integer :
    ValueType.integer.coerce? (.number (.real 1e300 (by decide +kernel))) =
        some (.number (.integer 9223372036854775807 (by decide))) ∧
      ∀ m, (Json.Value.number (.real 1e300 (by decide +kernel))).Denotes m → maxNat64 < m := by
  have hvalue := Binary64.toRat_eq_truncate (b := .ofFloat 1e300) (by decide +kernel)
  have hclamped : Json.Number.ofInt64 (Binary64.ofFloat 1e300).truncate =
      .integer 9223372036854775807 (by decide) := by decide +kernel
  have hgreat : maxNat64 < (Binary64.ofFloat 1e300).truncate := by decide +kernel
  refine ⟨ValueType.wholeFloat?_eq_some_iff.mpr ⟨_, hvalue, by rw [hclamped]⟩, fun m hm => ?_⟩
  rwa [Int.cast_inj.mp (hvalue.symm.trans hm)] at hgreat

/-! ### Kinds -/

/-- The float of a JSON number is finite. -/
theorem Json.Number.isFinite_toFloat (n : Json.Number) : n.toFloat.isFinite = true := by
  cases n with
  | integer n bounds => exact (ofInt_denotes_of_bounds bounds).1
  | real x finite => exact finite

theorem Json.Value.ofFloat_eq {x : Float} (h : x.isFinite = true) :
    Json.Value.ofFloat x = .number (.real x h) := by
  rw [ofFloat, Number.ofFloat?_eq_some h]
  rfl

theorem Json.Value.ofFloat_eq_null {x : Float} (h : x.isFinite = false) : Json.Value.ofFloat x = .null := by
  simp [ofFloat, Number.ofFloat?, h]

/-- A text that reads as a float that JSON does not hold, which is infinite or no number. -/
def Json.Value.ReadsNonFinite (v : Json.Value) : Prop :=
  ∃ s x, v = .string s ∧ float? (Text.trim s) = some x ∧ x.isFinite = false

namespace ValueType

/-- A value is of a type, and stays as it is when it is converted to that type. -/
structure Settles (T : ValueType) (w : Json.Value) : Prop where
  kindName_eq : w.kindName = T.name
  coerce?_eq : T.coerce? w = some w

variable {v w : Json.Value}

theorem settles_number_integer (n : Int) (bounds : minInt64 ≤ n ∧ n ≤ maxNat64) :
    Settles .integer (.number (.integer n bounds)) := ⟨rfl, rfl⟩

theorem settles_ofFloat {x : Float} (h : x.isFinite = true) : Settles .float (.ofFloat x) := by
  rw [Json.Value.ofFloat_eq h]
  exact ⟨rfl, congrArg some (Json.Value.ofFloat_eq h)⟩

theorem settles_of_string (h : ValueType.string.coerce? v = some w) : Settles .string w := by
  obtain rfl : Json.Value.string v.display = w := Option.some.inj h
  exact ⟨rfl, rfl⟩

theorem settles_of_integer (h : ValueType.integer.coerce? v = some w) : Settles .integer w := by
  cases v with
  | number n =>
    cases n with
    | integer n bounds =>
      cases h
      exact settles_number_integer n bounds
    | real x finite =>
      obtain ⟨m, -, rfl⟩ := wholeFloat?_eq_some_iff.mp h
      exact settles_number_integer ..
  | string s =>
    obtain ⟨m, bounds, rfl, -⟩ := coerce?_integer_string_iff.mp h
    exact settles_number_integer m bounds
  | _ => cases h

theorem settles_of_boolean (h : ValueType.boolean.coerce? v = some w) : Settles .boolean w := by
  suffices hbool : ∃ b, w = .bool b by
    obtain ⟨b, rfl⟩ := hbool
    exact ⟨rfl, rfl⟩
  cases v with
  | bool b =>
    cases h
    exact ⟨b, rfl⟩
  | number n =>
    dsimp only [coerce?] at h
    split at h <;> cases h <;> exact ⟨_, rfl⟩
  | string s =>
    dsimp only [coerce?] at h
    split_ifs at h <;> cases h <;> exact ⟨_, rfl⟩
  | _ => cases h

theorem settles_of_float (h : ValueType.float.coerce? v = some w) (hv : ¬v.ReadsNonFinite) : Settles .float w := by
  cases v with
  | number n =>
    cases h
    exact settles_ofFloat n.isFinite_toFloat
  | string s =>
    obtain ⟨x, hx, rfl⟩ := Option.map_eq_some_iff.mp h
    exact settles_ofFloat (Bool.not_eq_false _ ▸ fun hinfinite => hv ⟨s, x, rfl, hx, hinfinite⟩)
  | _ => cases h

theorem coerce?_float_of_readsNonFinite (hv : v.ReadsNonFinite) : ValueType.float.coerce? v = some .null := by
  obtain ⟨s, x, rfl, hx, hinfinite⟩ := hv
  change (float? (Text.trim s)).map Json.Value.ofFloat = _
  rw [hx]
  exact congrArg some (Json.Value.ofFloat_eq_null hinfinite)

end ValueType

/-- What is converted to text, an integer, a float or a boolean is of that type and settled in it, and a value that is
kept stays the same.  Only a text that reads as a float that JSON does not hold becomes null, which is no float. -/
theorem coercion_settles (v : Json.Value) :
    ValueType.auto.coerce? v = some v ∧
      ∀ T ∈ [ValueType.string, .integer, .float, .boolean], ∀ w, T.coerce? v = some w →
        (¬(T = .float ∧ v.ReadsNonFinite) → w.kindName = T.name ∧ T.coerce? w = some w) ∧
        (T = .float ∧ v.ReadsNonFinite → w = .null ∧ T.coerce? w = none) := by
  refine ⟨rfl, fun T hT w h => ⟨fun hheld => ?_, ?_⟩⟩
  · have hsettles : T.Settles w := by
      simp only [List.mem_cons, List.not_mem_nil, or_false] at hT
      rcases hT with rfl | rfl | rfl | rfl
      · exact ValueType.settles_of_string h
      · exact ValueType.settles_of_integer h
      · exact ValueType.settles_of_float h fun hv => hheld ⟨rfl, hv⟩
      · exact ValueType.settles_of_boolean h
    exact ⟨hsettles.kindName_eq, hsettles.coerce?_eq⟩
  · rintro ⟨rfl, hv⟩
    rw [ValueType.coerce?_float_of_readsNonFinite hv] at h
    cases h
    exact ⟨rfl, rfl⟩

/-- The number three becomes a float, which is one, and the text of infinity becomes null, which is none. -/
theorem coercion_settles_three :
    ¬(Json.Value.number (.integer 3 (by decide))).ReadsNonFinite ∧
      (Json.Value.ofFloat (Float.ofInt 3)).kindName = "float" ∧ (Json.Value.string "inf").ReadsNonFinite ∧
      ValueType.float.coerce? .null = none := by
  have hthree : ¬(Json.Value.number (.integer 3 (by decide))).ReadsNonFinite := by
    rintro ⟨s, x, hstring, -⟩
    cases hstring
  have hinf : (Json.Value.string "inf").ReadsNonFinite := ⟨"inf", 1.0 / 0.0, rfl, by decide +kernel, by decide +kernel⟩
  have hread := ValueType.coerce?_float_of_readsNonFinite hinf
  have hnumber := (coercion_settles (.number (.integer 3 (by decide)))).2 .float (by simp) _ rfl
  have htext := (coercion_settles (.string "inf")).2 .float (by simp) _ hread
  exact ⟨hthree, (hnumber.1 fun h => hthree h.2).1, hinf, (htext.2 ⟨rfl, hinf⟩).2⟩

/-- A float that is too large for JSON becomes null, which is no float and does not convert to one. -/
theorem endless_text_becomes_null :
    ValueType.float.coerce? (.string "1e999") = some .null ∧ Json.Value.null.kindName ≠ ValueType.float.name ∧
      ValueType.float.coerce? .null = none := by
  have hendless : (Json.Value.string "1e999").ReadsNonFinite :=
    ⟨"1e999", 1.0 / 0.0, rfl, by decide +kernel, by decide +kernel⟩
  exact ⟨ValueType.coerce?_float_of_readsNonFinite hendless, by decide, rfl⟩

end Casebook
