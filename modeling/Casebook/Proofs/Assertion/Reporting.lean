import Mathlib
import Casebook.Assertion.Report
import Casebook.Proofs.Fallible
import Casebook.Proofs.Ordering

/-! Reports on a response.  They have one result for each enabled rule, in the order of their numbers, and a result says
only what its own rule finds in the response: the other rules, and those that cannot be read, do not change it. -/
namespace Casebook

/-! ### Rules that cannot be read -/

namespace AssertionRule

variable {response : ResponseView} {rule : AssertionRule}

/-- Whether the expression of a rule can be read, and the part of a response that it looks into. -/
def IsReadable (response : ResponseView) (rule : AssertionRule) : Prop :=
  match rule.kind with
  | .jsonPath => (∃ doc, response.document? = some doc) ∧ ∃ path, Json.Path.ofText? rule.expression = .ok path
  | .regex => ∃ pattern, Pattern.Node.ofText? rule.expression = some pattern
  | .xpath => ∃ body, response.body = .string body ∧ (∃ path, Markup.XPath.Path.ofText? rule.expression = .ok path) ∧
      ∃ doc, Markup.Document.ofText? body = .ok doc
  | .header | .statusCode => True

theorem exists_extract_iff : (∃ found, response.extract rule = .ok found) ↔ rule.IsReadable response := by
  unfold ResponseView.extract IsReadable
  cases rule.kind with
  | jsonPath =>
    cases response.document? with
    | none => simp
    | some doc =>
      cases hpath : Json.Path.ofText? rule.expression <;>
        simp [Json.Value.selectText, hpath, Except.mapError, Except.map]
  | regex => cases Pattern.Node.ofText? rule.expression <;> simp
  | xpath =>
    cases response.body with
    | string body =>
      cases hpath : Markup.XPath.Path.ofText? rule.expression <;> cases hdoc : Markup.Document.ofText? body <;>
        simp [Markup.selectText, hpath, hdoc, Except.mapError, Except.map, bind, Except.bind, pure, Except.pure]
    | _ => simp
  | header => simp
  | statusCode => simp

/-- A rule that cannot be read has failed, and its result has no value. -/
theorem evaluate_of_not_isReadable (h : ¬rule.IsReadable response) :
    (rule.evaluate response).passed = false ∧ (rule.evaluate response).actual = none ∧
      ∃ cause, (rule.evaluate response).message = rule.kind.title ++ " assertion error: " ++ cause := by
  cases hextract : response.extract rule with
  | ok found => exact absurd (exists_extract_iff.mp ⟨found, hextract⟩) h
  | error fault =>
    simp only [evaluate, judge, hextract, true_and]
    exact ⟨fault.message, rfl⟩

/-! ### Rules that are enabled -/

theorem isOrderedBy_active (rules : List AssertionRule) :
    IsOrderedBy AssertionRule.id (rules.filter AssertionRule.enabled) (active rules) :=
  isOrderedBy_mergeSort AssertionRule.id _

theorem mem_active {rules : List AssertionRule} {rule : AssertionRule} :
    rule ∈ active rules ↔ rule ∈ rules ∧ rule.enabled = true := by
  simp [active, List.mem_mergeSort]

/-- Rules that are left out leave the others in their order. -/
theorem active_filter (p : AssertionRule → Bool) (rules : List AssertionRule) :
    active (rules.filter p) = (active rules).filter p := by
  have hleft := isOrderedBy_active (rules.filter p)
  rw [List.filter_comm] at hleft
  exact hleft.unique ((isOrderedBy_active rules).filter p)

theorem countP_active (p : AssertionRule → Bool) (rules : List AssertionRule) :
    (active rules).countP p = rules.countP fun rule => p rule && rule.enabled := by
  rw [(isOrderedBy_active rules).perm.countP_eq, List.countP_filter]

end AssertionRule

namespace AssertionReport

open AssertionRule

theorem passed_ofRules {response : ResponseView} {rules : List AssertionRule} :
    (ofRules response rules).passed = true ↔
      ∀ rule ∈ rules, rule.enabled = true → (rule.evaluate response).passed = true := by
  have hnone : (ofRules response rules).passed = true ↔
      ∀ rule ∈ active rules, (rule.evaluate response).passed = true := by
    simp [ofRules, ofResults, List.countP_eq_zero]
  rw [hnone]
  simp only [mem_active, and_imp]

/-- What is said of so many rules, of which so many have failed. -/
def tally (failed total : Nat) : String :=
  if total = 0 then "no assertion rules"
  else if failed = 0 then "all assertions passed (" ++ toString total ++ ")"
  else "assertions failed: " ++ toString failed ++ "/" ++ toString total ++ " failed"

theorem summary_ofRules (response : ResponseView) (rules : List AssertionRule) :
    (ofRules response rules).summary =
      tally (rules.countP fun rule => !(rule.evaluate response).passed && rule.enabled)
        (rules.countP AssertionRule.enabled) := by
  have htotal : (active rules).length = rules.countP AssertionRule.enabled := by
    rw [(isOrderedBy_active rules).perm.length_eq, List.countP_eq_length_filter]
  simp only [ofRules, ofResults, tally, List.isEmpty_iff_length_eq_zero, List.length_map, List.countP_map,
    Function.comp_def, countP_active, htotal]

/-- A report has a result for each enabled rule, by ascending numbers and as they came where numbers are equal, and each
result is what its rule makes of the response.  Rules that are left out take away their own results only, and the order
of rules with different numbers does not matter. -/
theorem report_covers_enabled_rules (response : ResponseView) (rules : List AssertionRule) :
    ∃ ordered, IsOrderedBy AssertionRule.id (rules.filter AssertionRule.enabled) ordered ∧
      (ofRules response rules).results = ordered.map (·.evaluate response) ∧
      ((ofRules response rules).passed = true ↔ ∀ r ∈ (ofRules response rules).results, r.passed = true) ∧
      (ofRules response rules).summary =
        tally (rules.countP fun rule => !(rule.evaluate response).passed && rule.enabled)
          (rules.countP AssertionRule.enabled) ∧
      (∀ p, (ofRules response (rules.filter p)).results = (ordered.filter p).map (·.evaluate response)) ∧
      (∀ others, ((rules.filter AssertionRule.enabled).map AssertionRule.id).Nodup →
        (others.filter AssertionRule.enabled).Perm (rules.filter AssertionRule.enabled) →
          ofRules response others = ofRules response rules) ∧
      ∀ rule ∈ ordered, ¬rule.IsReadable response →
        (rule.evaluate response).passed = false ∧ (rule.evaluate response).actual = none ∧
          ∃ cause, (rule.evaluate response).message = rule.kind.title ++ " assertion error: " ++ cause := by
  refine ⟨active rules, isOrderedBy_active rules, rfl, ?_, summary_ofRules response rules, fun p => ?_, ?_, ?_⟩
  · simp [ofRules, ofResults, List.countP_eq_zero]
  · simp only [ofRules, ofResults, active_filter]
  · intro others hids hperm
    have hactive : active others = active rules :=
      (isOrderedBy_active rules).eq_of_perm (isOrderedBy_active others) hids hperm
    rw [ofRules, ofRules, hactive]
  · exact fun rule _ => evaluate_of_not_isReadable

/-- A path that looks into a body without JSON, and a rule on the status; a rule that is not enabled and the order of
the list make no difference. -/
theorem unreadable_body_fails_path_alone : ∃ (response : ResponseView) (path status header : AssertionRule),
    (([path, status].filter AssertionRule.enabled).map AssertionRule.id).Nodup ∧
      ¬path.IsReadable response ∧ (path.evaluate response).actual = none ∧
      ofRules response [status, header, path] = ofRules response [path, status] ∧
      ((ofRules response [path, status]).results.map fun r => (r.ruleId, r.passed)) = [(2, true), (7, false)] := by
  refine ⟨⟨200, [], .string "?"⟩, ⟨7, 1, .jsonPath, "$", .notNull, .null, true⟩,
    ⟨2, 1, .statusCode, "", .notNull, .null, true⟩, ⟨5, 1, .header, "date", .empty, .null, false⟩, ?_⟩
  have hids : (([⟨7, 1, .jsonPath, "$", .notNull, .null, true⟩, ⟨2, 1, .statusCode, "", .notNull, .null, true⟩] :
      List AssertionRule).filter AssertionRule.enabled |>.map AssertionRule.id).Nodup := by decide
  have hunreadable :
      ¬AssertionRule.IsReadable ⟨200, [], .string "?"⟩ ⟨7, 1, .jsonPath, "$", .notNull, .null, true⟩ := by
    rintro ⟨⟨doc, hdoc⟩, -⟩
    have hnone : ResponseView.document? ⟨200, [], .string "?"⟩ = none := by cbv
    simp [hnone] at hdoc
  obtain ⟨ordered, hordered, -, -, -, -, hperm, hfailed⟩ := report_covers_enabled_rules ⟨200, [], .string "?"⟩
    [⟨7, 1, .jsonPath, "$", .notNull, .null, true⟩, ⟨2, 1, .statusCode, "", .notNull, .null, true⟩]
  refine ⟨hids, hunreadable, ?_, hperm _ hids (.swap _ _ _), ?_⟩
  · exact (hfailed _ (hordered.perm.mem_iff.mpr (by simp)) hunreadable).2.1
  · have hactive : active [⟨7, 1, .jsonPath, "$", .notNull, .null, true⟩,
        ⟨2, 1, .statusCode, "", .notNull, .null, true⟩] = [⟨2, 1, .statusCode, "", .notNull, .null, true⟩,
        ⟨7, 1, .jsonPath, "$", .notNull, .null, true⟩] := by cbv
    rw [ofRules, hactive]
    rfl

end AssertionReport

end Casebook
