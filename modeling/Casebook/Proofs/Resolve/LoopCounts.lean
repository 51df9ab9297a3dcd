import Casebook.Proofs.Decimal.Digits
import Casebook.Resolve.LoopBound

/-! The bounds that values ask for.  What is refused before a run has no bound in it; a value that is no text has the
same bound in every scope at every iteration, and a text has one by the digits or the word in it, or by what its
template comes to there. -/
namespace Casebook

open Decimal

theorem mem_of_isTemplated {text : String} (h : isTemplated text = true) : '{' ∈ text.toList := by
  rcases Bool.or_eq_true_iff.mp h with hmark | hmark
  · exact ((Text.contains_iff _ _).mp hmark).subset (by decide)
  · exact ((Text.contains_iff _ _).mp hmark).subset (by decide)

theorem Evaluator.renderValue_of_not_isTemplated (ev : Evaluator) {text : String} (h : isTemplated text = false)
    (scope : Scope) (index : Option Nat) : ev.renderValue text scope index = .ok (.string text) := by
  simp [Evaluator.renderValue, h]

namespace LoopBound

/-- A text is a template, but for blanks around it, that comes to a value in a scope at an iteration. -/
structure ComesTo (ev : Evaluator) (scope : Scope) (index : Option Nat) (text : String) (v : Json.Value) : Prop where
  templated : isTemplated (Text.trim text) = true
  value : ev.renderValue (Text.trim text) scope index = .ok v

/-- The bound that a value asks for in a scope at an iteration. -/
inductive Asks (ev : Evaluator) (scope : Scope) (index : Option Nat) : Json.Value → LoopBound → Prop where
  | always : Asks ev scope index (.bool true) .forever
  | number {number : Json.Number} {n : Nat} (h : number.toInt? = some (n : Int)) :
    Asks ev scope index (.number number) (.times (min n 999))
  | digits {text : String} {n : Nat} (h : WritesNat (Text.trim text).toList n) :
    Asks ev scope index (.string text) (.times (min n 999))
  | word {text : String} (h : Text.trim text = "true") : Asks ev scope index (.string text) .forever
  | items {text : String} {items : List Json.Value} (h : ComesTo ev scope index text (.array items)) :
    Asks ev scope index (.string text) (.times (min items.length 100000))
  | toNumber {text : String} {number : Json.Number} {n : Nat} (h : ComesTo ev scope index text (.number number))
    (hn : number.toInt? = some (n : Int)) : Asks ev scope index (.string text) (.times (min n 999))
  | toAlways {text : String} (h : ComesTo ev scope index text (.bool true)) :
    Asks ev scope index (.string text) .forever
  | toWord {text : String} (h : ComesTo ev scope index text (.string "true")) :
    Asks ev scope index (.string text) .forever

variable {ev : Evaluator} {times : Json.Value} {scope : Scope} {index : Option Nat} {b : LoopBound}

theorem ofPlain?_eq_some_iff {v : Json.Value} : ofPlain? v = some b ↔
    (v = .bool true ∧ b = .forever) ∨
      ∃ (number : Json.Number) (n : Nat), v = .number number ∧ number.toInt? = some (n : Int) ∧
        b = .times (min n 999) := by
  constructor
  · intro h
    unfold ofPlain? at h
    split at h
    case h_1 =>
      cases h
      exact .inl ⟨rfl, rfl⟩
    case h_2 number =>
      obtain ⟨i, hi, h⟩ := Option.bind_eq_some_iff.mp h
      split at h
      case isTrue hsign =>
        cases h
        exact .inr ⟨number, i.toNat, rfl, by rw [hi, Int.toNat_of_nonneg hsign], rfl⟩
      case isFalse => cases h
    case h_3 => cases h
  · rintro (⟨rfl, rfl⟩ | ⟨number, n, rfl, hn, rfl⟩)
    · rfl
    · simp [ofPlain?, hn, maxCount]

theorem ofWord?_eq_some_iff {word : String} : ofWord? word = some b ↔
    (∃ n, WritesNat word.toList n ∧ b = .times (min n 999)) ∨ word = "true" ∧ b = .forever := by
  have hempty : word.isEmpty = word.toList.isEmpty := by
    rw [Bool.eq_iff_iff, String.isEmpty_iff, List.isEmpty_iff, String.toList_eq_nil_iff]
  have hread : ofWord? word = ((nat? word.toList).map fun n => times (min n 999)).or
      (if word = "true" then some forever else none) := by
    rw [ofWord?, nat?, hempty, String.all_bool_eq]
    split <;> rfl
  simp only [hread, Option.or_eq_some_iff, Option.map_eq_some_iff, Option.map_eq_none_iff, nat?_eq_some_iff]
  refine or_congr (exists_congr fun n => and_congr_right fun _ => eq_comm) ⟨?_, ?_⟩
  · rintro ⟨-, h⟩
    split at h
    case isTrue hword => exact ⟨hword, (Option.some_inj.mp h).symm⟩
    case isFalse => cases h
  · rintro ⟨rfl, rfl⟩
    exact ⟨rfl, rfl⟩

theorem ofResolved?_eq_some_iff {v : Json.Value} : ofResolved? v = some b ↔
    (∃ items, v = .array items ∧ b = .times (min items.length 100000)) ∨ (v = .string "true" ∧ b = .forever) ∨
      ofPlain? v = some b := by
  cases v with
  | array items => simp [ofResolved?, ofPlain?, maxItems, eq_comm]
  | string s => simp [ofResolved?, ofPlain?, eq_comm]
  | null => simp [ofResolved?]
  | bool => simp [ofResolved?]
  | number => simp [ofResolved?]
  | object => simp [ofResolved?]

theorem ofWord?_of_isTemplated {word : String} (h : isTemplated word = true) : ofWord? word = none := by
  refine Option.eq_none_iff_forall_ne_some.mpr fun b hb => ?_
  have hbrace := mem_of_isTemplated h
  rcases ofWord?_eq_some_iff.mp hb with ⟨n, hn, -⟩ | ⟨rfl, -⟩
  · exact absurd (hn.digits _ hbrace) (by decide)
  · exact absurd hbrace (by decide)

theorem elim_eq_ok_iff {b? : Option LoopBound} {fault : Fault} :
    b?.elim (Except.error fault) Except.ok = .ok b ↔ b? = some b := by
  cases b? <;> simp

theorem resolve_of_comesTo {text : String} {v : Json.Value} (h : ComesTo ev scope index text v) :
    resolve ev (.string text) scope index = (ofResolved? v).elim (.error (.invalid v)) .ok := by
  simp [resolve, ofWord?_of_isTemplated h.templated, h.value]

/-- A text without placeholders comes to itself, which has been looked at before. -/
theorem comesTo_of_renderValue {text : String} {v : Json.Value} (hword : ofWord? (Text.trim text) = none)
    (hvalue : ev.renderValue (Text.trim text) scope index = .ok v) (hb : ofResolved? v = some b) :
    ComesTo ev scope index text v := by
  refine ⟨?_, hvalue⟩
  cases htemplated : isTemplated (Text.trim text) with
  | true => rfl
  | false =>
    rw [ev.renderValue_of_not_isTemplated htemplated, Except.ok.injEq] at hvalue
    rcases ofResolved?_eq_some_iff.mp hb with ⟨items, rfl, -⟩ | ⟨rfl, -⟩ | hplain
    · cases hvalue
    · rw [Json.Value.string.inj hvalue, ofWord?_eq_some_iff.mpr (.inr ⟨rfl, rfl⟩)] at hword
      cases hword
    · rw [← hvalue] at hplain
      cases hplain

/-- A bound is found exactly where it is asked for. -/
theorem resolve_eq_ok_iff : resolve ev times scope index = .ok b ↔ Asks ev scope index times b := by
  constructor
  · intro h
    unfold resolve at h
    split at h
    case h_1 text =>
      dsimp only at h
      split at h
      case h_1 b hb =>
        cases h
        rcases ofWord?_eq_some_iff.mp hb with ⟨n, hn, rfl⟩ | ⟨hword, rfl⟩
        · exact .digits hn
        · exact .word hword
      case h_2 hnone =>
        split at h
        case h_1 => cases h
        case h_2 v hvalue =>
          have hb := elim_eq_ok_iff.mp h
          have hcomes := comesTo_of_renderValue hnone hvalue hb
          rcases ofResolved?_eq_some_iff.mp hb with ⟨items, rfl, rfl⟩ | ⟨rfl, rfl⟩ | hplain
          · exact .items hcomes
          · exact .toWord hcomes
          rcases ofPlain?_eq_some_iff.mp hplain with ⟨rfl, rfl⟩ | ⟨number, n, rfl, hn, rfl⟩
          · exact .toAlways hcomes
          · exact .toNumber hcomes hn
    case h_2 =>
      rcases ofPlain?_eq_some_iff.mp (elim_eq_ok_iff.mp h) with ⟨rfl, rfl⟩ | ⟨number, n, rfl, hn, rfl⟩
      · exact .always
      · exact .number hn
  · intro h
    cases h with
    | always => rfl
    | number hn => exact elim_eq_ok_iff.mpr (ofPlain?_eq_some_iff.mpr (.inr ⟨_, _, rfl, hn, rfl⟩))
    | digits hn => simp [resolve, ofWord?_eq_some_iff.mpr (.inl ⟨_, hn, rfl⟩)]
    | word hword => simp [resolve, ofWord?_eq_some_iff.mpr (.inr ⟨hword, rfl⟩)]
    | items hcomes => exact resolve_of_comesTo hcomes
    | toNumber hcomes hn =>
      rw [resolve_of_comesTo hcomes]
      exact elim_eq_ok_iff.mpr (ofPlain?_eq_some_iff.mpr (.inr ⟨_, _, rfl, hn, rfl⟩))
    | toAlways hcomes => exact resolve_of_comesTo hcomes
    | toWord hcomes => exact resolve_of_comesTo hcomes

/-! ### What is refused before a run -/

theorem resolve_of_ne_string (h : ∀ text, times ≠ .string text) :
    resolve ev times scope index = (ofPlain? times).elim (.error (.invalid times)) .ok := by
  unfold resolve
  split
  case h_1 text => exact absurd rfl (h text)
  case h_2 => rfl

theorem isPlausible_eq_isSome (h : ∀ text, times ≠ .string text) : isPlausible times = (ofPlain? times).isSome := by
  cases times with
  | string text => exact absurd rfl (h text)
  | bool b => cases b <;> rfl
  | number number =>
    cases number with
    | integer n bounds => by_cases hn : 0 ≤ n <;> simp [isPlausible, ofPlain?, Json.Number.toInt?, hn]
    | real x finite => rfl
  | null => rfl
  | array items => rfl
  | object members => rfl

theorem ne_string_of_not_isPlausible (h : isPlausible times = false) (text : String) : times ≠ .string text := by
  rintro rfl
  cases h

theorem resolve_of_not_isPlausible (h : isPlausible times = false) :
    resolve ev times scope index = .error (.invalid times) := by
  have hstring := ne_string_of_not_isPlausible h
  rw [isPlausible_eq_isSome hstring, Option.isSome_eq_false_iff, Option.isNone_iff_eq_none] at h
  rw [resolve_of_ne_string hstring, h]
  rfl

theorem exists_resolve_eq_ok_iff (h : ∀ text, times ≠ .string text) :
    (∃ b, resolve ev times scope index = .ok b) ↔ isPlausible times = true := by
  simp only [resolve_of_ne_string h, elim_eq_ok_iff, isPlausible_eq_isSome h, Option.isSome_iff_exists]

/-! ### Bounds without an end, and counts -/

theorem resolve_eq_forever_iff : resolve ev times scope index = .ok .forever ↔
    times = .bool true ∨ ∃ text, times = .string text ∧
      (Text.trim text = "true" ∨ ComesTo ev scope index text (.bool true) ∨
        ComesTo ev scope index text (.string "true")) := by
  rw [resolve_eq_ok_iff]
  constructor
  · intro h
    cases h with
    | always => exact .inl rfl
    | word hword => exact .inr ⟨_, rfl, .inl hword⟩
    | toAlways hcomes => exact .inr ⟨_, rfl, .inr (.inl hcomes)⟩
    | toWord hcomes => exact .inr ⟨_, rfl, .inr (.inr hcomes)⟩
  · rintro (rfl | ⟨text, rfl, hword | hcomes | hcomes⟩)
    · exact .always
    · exact .word hword
    · exact .toAlways hcomes
    · exact .toWord hcomes

theorem trim_digits {blanks digits blanks' : List Char} {n : Nat} (h : Text.Blank blanks) (h' : Text.Blank blanks')
    (hn : WritesNat digits n) : (Text.trim (String.ofList (blanks ++ (digits ++ blanks')))).toList = digits := by
  have hdigits : ∀ c ∈ digits, Text.isBlank c = false := fun c hc => Text.isBlank_of_isDigit (hn.digits c hc)
  rw [Text.trim, Text.trimWith, String.toList_ofList, String.toList_ofList, Text.trimList_append h h',
    Text.trimList_eq_self_of_forall hdigits]

theorem exists_items_of_resolve {n : Nat} (h : resolve ev times scope index = .ok (.times n)) :
    n ≤ 999 ∨ ∃ text items, times = .string text ∧ ComesTo ev scope index text (.array items) ∧
      n = min items.length 100000 := by
  cases resolve_eq_ok_iff.mp h with
  | number => exact .inl (Nat.min_le_right _ _)
  | digits => exact .inl (Nat.min_le_right _ _)
  | toNumber => exact .inl (Nat.min_le_right _ _)
  | items hcomes => exact .inr ⟨_, _, rfl, hcomes, rfl⟩

/-- What is refused before a run asks for no bound, and among the values that are no texts only that, in every scope at
every iteration.  A bound without an end comes from true alone: as it is, as a word, or from a template.  Digits ask for
the count that they write, up to 999, as the number itself does where JSON has it as an integer.  Only a template that
comes to a list asks for more than that: for the count of its items, up to 100000. -/
theorem bound_asked_for (ev : Evaluator) (times : Json.Value) (scope : Scope) (index : Option Nat) :
    (isPlausible times = false → resolve ev times scope index = .error (.invalid times)) ∧
    ((∀ text, times ≠ .string text) →
      ((∃ b, resolve ev times scope index = .ok b) ↔ isPlausible times = true) ∧
      ∀ scope' index', resolve ev times scope' index' = resolve ev times scope index) ∧
    (resolve ev times scope index = .ok .forever ↔
      times = .bool true ∨ ∃ text, times = .string text ∧
        (Text.trim text = "true" ∨ ComesTo ev scope index text (.bool true) ∨
          ComesTo ev scope index text (.string "true"))) ∧
    (∀ blanks digits blanks' n, Text.Blank blanks → Text.Blank blanks' → WritesNat digits n →
      resolve ev (.string (String.ofList (blanks ++ (digits ++ blanks')))) scope index = .ok (.times (min n 999)) ∧
      ∀ number : Json.Number, number.toInt? = some (n : Int) →
        resolve ev (.number number) scope index = .ok (.times (min n 999))) ∧
    (∀ n, resolve ev times scope index = .ok (.times n) →
      n ≤ 999 ∨ ∃ text items, times = .string text ∧ ComesTo ev scope index text (.array items)) ∧
    ∀ text items, times = .string text → ComesTo ev scope index text (.array items) →
      resolve ev times scope index = .ok (.times (min items.length 100000)) := by
  refine ⟨resolve_of_not_isPlausible, fun h => ⟨exists_resolve_eq_ok_iff h, fun scope' index' => ?_⟩,
    resolve_eq_forever_iff, fun blanks digits blanks' n h h' hn => ⟨?_, fun number hnumber => ?_⟩, fun n h => ?_, ?_⟩
  · rw [resolve_of_ne_string h, resolve_of_ne_string h]
  · exact resolve_eq_ok_iff.mpr (.digits (by rwa [trim_digits h h' hn]))
  · exact resolve_eq_ok_iff.mpr (.number hnumber)
  · exact (exists_items_of_resolve h).imp_right fun ⟨text, items, htext, hcomes, _⟩ => ⟨text, items, htext, hcomes⟩
  · rintro text items rfl hcomes
    exact resolve_eq_ok_iff.mpr (.items hcomes)

end LoopBound

end Casebook
