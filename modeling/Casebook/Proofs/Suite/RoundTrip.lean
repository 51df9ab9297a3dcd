import Casebook.Proofs.Suite.Nesting
import Casebook.Proofs.Suite.Records
import Casebook.Proofs.Suite.References
import Casebook.Suite.Codec

/-! Suites are read back from their JSON as they were. -/
namespace Casebook

open Json (Value)
open Record

/-! ### Words -/

theorem ValueType.decode?_toJson (t : ValueType) : decode? t.toJson = some t := by
  cases t <;> rfl

theorem HostSource.decode?_name (s : HostSource) : decode? (Value.string s.name) = some s := by
  cases s <;> rfl

theorem ResponsePart.decode?_name (p : ResponsePart) : decode? (Value.string p.name) = some p := by
  cases p <;> rfl

theorem ExpectRule.decode?_name (r : ExpectRule) : decode? (Value.string r.name) = some r := by
  cases r <;> rfl

theorem Operator.decode?_toJson (o : Operator) : decode? o.toJson = some o := by
  cases o <;> rfl

theorem RuleKind.decode?_toJson (k : RuleKind) : decode? k.toJson = some k := by
  cases k <;> rfl

/-! ### Parameters -/

theorem ParamEntry.decode?_toJson (e : ParamEntry) : decode? e.toJson = some e := by
  refine decodes_ofPairs (by simp) fun ms hholds => ?_
  simp only [List.map_cons, List.map_nil, holds_cons] at hholds
  obtain ⟨hname, hvalue, htype, -⟩ := hholds
  simp only [decode?, fields_object, required_eq hname (string_eq _), withDefault_eq hvalue (anyValue_eq _),
    withDefault_eq htype (ValueType.decode?_toJson _), Option.bind_eq_bind, Option.bind_some]

theorem ParamSource.decode?_toJson (p : ParamSource) : decode? p.toJson = some p := by
  cases p with
  | table rows =>
    rw [toJson, decode?, tagged_ofTagged (by decide) rfl, listOf_eq fun e _ => ParamEntry.decode?_toJson e]
    rfl
  | json v =>
    rw [toJson, decode?, tagged_ofTagged (by decide) rfl]
    rfl
  | text s =>
    rw [toJson, decode?, tagged_ofTagged (by decide) rfl]
    rfl
  | code e =>
    rw [toJson, decode?, tagged_ofTagged (by decide) rfl]
    rfl

theorem OutputEntry.decode?_toJson (e : OutputEntry) : decode? e.toJson = some e := by
  refine decodes_ofPairs (by simp) fun ms hholds => ?_
  simp only [List.map_cons, List.map_nil, holds_cons] at hholds
  obtain ⟨hname, hpath, hsource, -⟩ := hholds
  simp only [decode?, fields_object, required_eq hname (string_eq _), required_eq hpath (string_eq _),
    withDefault_eq hsource (ResponsePart.decode?_name _), Option.bind_eq_bind, Option.bind_some]

theorem OutputSpec.decode?_toJson (o : OutputSpec) : decode? o.toJson = some o := by
  cases o with
  | table entries =>
    rw [toJson, decode?, tagged_ofTagged (by decide) rfl, listOf_eq fun e _ => OutputEntry.decode?_toJson e]
    rfl
  | code e =>
    rw [toJson, decode?, tagged_ofTagged (by decide) rfl]
    rfl

theorem ExpectEntry.decode?_toJson (e : ExpectEntry) : decode? e.toJson = some e := by
  refine decodes_ofPairs (by simp) fun ms hholds => ?_
  simp only [List.map_cons, List.map_nil, holds_cons] at hholds
  obtain ⟨hpath, hvalue, htype, hrule, -⟩ := hholds
  simp only [decode?, fields_object, required_eq hpath (string_eq _), required_eq hvalue (anyValue_eq _),
    withDefault_eq htype (ValueType.decode?_toJson _), withDefault_eq hrule (ExpectRule.decode?_name _),
    Option.bind_eq_bind, Option.bind_some]

theorem ExpectSpec.decode?_toJson (x : ExpectSpec) : decode? x.toJson = some x := by
  cases x with
  | table entries =>
    rw [toJson, decode?, tagged_ofTagged (by decide) rfl, listOf_eq fun e _ => ExpectEntry.decode?_toJson e]
    rfl
  | code e =>
    rw [toJson, decode?, tagged_ofTagged (by decide) rfl]
    rfl

theorem ApiParams.decode?_toJson (p : ApiParams) : decode? p.toJson = some p := by
  refine decodes_ofFields (by simp) fun ms hholds => ?_
  simp only [holds_cons] at hholds
  obtain ⟨hmethod, hpath, hhost, hsource, hvars, hheaders, hquery, hbody, houtputs, hexpectations, hredirects, -⟩ :=
    hholds
  rw [decode?, fields_object, Option.bind_eq_bind, Option.bind_some, withDefault_eq hmethod (string_eq _),
    withDefault_eq hpath (string_eq _), maybe_eq hhost rfl fun s _ => string_eq s,
    withDefault_eq hsource (HostSource.decode?_name _), maybe_eq hvars rfl fun p _ => ParamSource.decode?_toJson p,
    maybe_eq hheaders rfl fun p _ => ParamSource.decode?_toJson p,
    maybe_eq hquery rfl fun p _ => ParamSource.decode?_toJson p,
    maybe_eq hbody rfl fun p _ => ParamSource.decode?_toJson p,
    maybe_eq houtputs rfl fun o _ => OutputSpec.decode?_toJson o,
    maybe_eq hexpectations rfl fun x _ => ExpectSpec.decode?_toJson x, withDefault_eq hredirects (bool_eq _)]
  rfl

theorem SqlParams.decode?_toJson (p : SqlParams) : decode? p.toJson = some p := by
  refine decodes_ofFields (by simp) fun ms hholds => ?_
  simp only [holds_cons] at hholds
  obtain ⟨hconnection, hdatabase, hsql, hcapture, -⟩ := hholds
  simp only [decode?, fields_object, required_eq hconnection (string_eq _),
    maybe_eq hdatabase rfl fun s _ => string_eq s, required_eq hsql (string_eq _),
    maybe_eq hcapture rfl fun s _ => string_eq s, Option.bind_eq_bind, Option.bind_some]

/-! ### Steps -/

/-- All numbers of seconds are finite. -/
def Controller.FiniteFloats (c : Controller) : Prop :=
  c.retryInterval.isFinite = true ∧ ∀ x ∈ c.sleep, x.isFinite = true

theorem Controller.decode?_toJson {c : Controller} (h : c.FiniteFloats) : decode? c.toJson = some c := by
  refine decodes_ofFields (by simp) fun ms hholds => ?_
  simp only [holds_cons] at hholds
  obtain ⟨hcount, hinterval, hcondition, hsleep, -⟩ := hholds
  simp only [decode?, fields_object, withDefault_eq hcount (uint32_eq _), withDefault_eq hinterval (float_eq h.1),
    maybe_eq hcondition rfl fun s _ => string_eq s, maybe_eq hsleep rfl fun x hx => float_eq (h.2 x hx),
    Option.bind_eq_bind, Option.bind_some]

namespace Step

theorem names_jsonFields (s : Step) : s.jsonFields.map Prod.fst = StepHead.fieldNames ++ ["type", "params"] := by
  cases s <;> simp [jsonFields, assemble, StepHead.jsonFields, StepHead.fieldNames]

theorem nodup_names_jsonFields (s : Step) : (s.jsonFields.map Prod.fst).Nodup := by
  simp [names_jsonFields, StepHead.fieldNames]

theorem toJsonList_eq (steps : List Step) : toJsonList steps = steps.map toJson := by
  induction steps with
  | nil => simp [toJsonList]
  | cons s steps ih => rw [toJsonList, List.map_cons, ih, toJson]

end Step

theorem StepHead.ofFields?_eq {h : StepHead} {f : Fields Value} (hfinite : h.controller.FiniteFloats)
    (hholds : Holds f h.jsonFields) : ofFields? f = some h := by
  simp only [jsonFields, holds_cons] at hholds
  obtain ⟨hid, hname, horder, henabled, hcontroller, htimeout, -⟩ := hholds
  simp only [ofFields?, required_eq hid (uint64_eq _), withDefault_eq hname (string_eq _),
    withDefault_eq horder (uint32_eq _), withDefault_eq henabled (bool_eq _),
    withDefault_eq hcontroller (Controller.decode?_toJson hfinite), maybe_eq htimeout rfl fun n _ => uint64_eq n,
    Option.bind_eq_bind, Option.bind_some]

namespace Step

/-- All numbers of seconds of a step and those inside of it are finite. -/
def FiniteFloats (s : Step) : Prop := ∀ a ∈ s.withInner, a.head.controller.FiniteFloats

theorem FiniteFloats.head {s : Step} (h : s.FiniteFloats) : s.head.controller.FiniteFloats := by
  refine h s ?_
  rw [withInner_eq]
  exact List.mem_cons_self

theorem FiniteFloats.own {s a : Step} (h : s.FiniteFloats) (ha : a ∈ s.own) : a.FiniteFloats := by
  intro b hb
  refine h b ?_
  rw [withInner_eq, withInnerOfAll_eq]
  exact List.mem_cons_of_mem _ (List.mem_flatMap.mpr ⟨a, ha, hb⟩)

theorem decodeWithin?_eq_of_ofKind? {depth : Nat} {s : Step} {ms : Json.Members} (make : StepHead → Step)
    (hs : make s.head = s) (hfinite : s.FiniteFloats) (hhead : Holds (ofMembers ms) s.head.jsonFields)
    (hmake : ofKind? (listOf (decodeWithin? depth)) (Value.object ms) = some make) :
    decodeWithin? (depth + 1) (Value.object ms) = some s := by
  have hsplit : Source.split? StepHead.fieldNames (Value.object ms) = some (ofMembers ms, .object ms) := rfl
  simp only [decodeWithin?, hsplit, StepHead.ofFields?_eq hfinite.head hhead, hmake, Option.bind_eq_bind,
    Option.bind_some, hs]

/-- A step is read back from any object with its fields, with as many loops inside of each other as the object is
deep. -/
theorem decodeWithin?_eq {depth : Nat} {s : Step} {ms : Json.Members} (hfinite : s.FiniteFloats)
    (hholds : Holds (ofMembers ms) s.jsonFields) (hdepth : Value.depth (.object ms) ≤ depth) :
    decodeWithin? depth (Value.object ms) = some s := by
  induction depth generalizing s ms with
  | zero =>
    rw [Value.depth] at hdepth
    omega
  | succ depth ih =>
    cases s with
    | api h p =>
      simp only [jsonFields, assemble, holds_append, holds_cons] at hholds
      obtain ⟨hhead, htype, hparams, -⟩ := hholds
      refine decodeWithin?_eq_of_ofKind? (.api · p) rfl hfinite hhead ((tagged_eq htype hparams rfl).trans ?_)
      rw [ApiParams.decode?_toJson]
      rfl
    | sql h p =>
      simp only [jsonFields, assemble, holds_append, holds_cons] at hholds
      obtain ⟨hhead, htype, hparams, -⟩ := hholds
      refine decodeWithin?_eq_of_ofKind? (.sql · p) rfl hfinite hhead ((tagged_eq htype hparams rfl).trans ?_)
      rw [SqlParams.decode?_toJson]
      rfl
    | caseRef h c =>
      simp only [jsonFields, assemble, holds_append, holds_cons, ofPairs_eq] at hholds
      obtain ⟨hhead, htype, hparams, -⟩ := hholds
      obtain ⟨params, hparams, hcase⟩ := exists_holds_of_field hparams (by simp)
      simp only [List.map_cons, List.map_nil, holds_cons] at hcase
      refine decodeWithin?_eq_of_ofKind? (.caseRef · c) rfl hfinite hhead ((tagged_eq htype hparams rfl).trans ?_)
      simp only [fields_object, required_eq hcase.1 (uint64_eq _), Option.bind_eq_bind, Option.bind_some]
    | foreach h times breakCondition steps =>
      simp only [jsonFields, assemble, holds_append, holds_cons, toJsonList_eq, List.isEmpty_map] at hholds
      obtain ⟨hhead, htype, hparams, -⟩ := hholds
      obtain ⟨params, hparams, hloop⟩ := exists_holds_of_field hparams (by simp)
      simp only [holds_cons] at hloop
      obtain ⟨htimes, hbreak, hbody, -⟩ := hloop
      have hsteps := withDefault_nil_eq rfl hbody fun hne => listOf_eq (d := decodeWithin? depth) fun a ha => by
        have harray : ofMembers params "steps" = some (.array (steps.map toJson)) := by
          rw [hbody, if_neg (by simpa using hne)]
        obtain ⟨inner, hinner, hfields⟩ := exists_holds a.nodup_names_jsonFields
        have hitem : toJson a = .object inner := by rw [toJson, hinner]
        have hloop := Value.depth_lt_of_mem_members (Dict.mem_of_get? hparams)
        have hlist := Value.depth_lt_of_mem_members (Dict.mem_of_get? harray)
        have hmember := Value.depth_lt_of_mem_items (List.mem_map_of_mem (f := toJson) ha)
        rw [hitem] at hmember ⊢
        exact ih (hfinite.own ha) hfields (by omega)
      refine decodeWithin?_eq_of_ofKind? (.foreach · times breakCondition steps) rfl hfinite hhead
        ((tagged_eq htype hparams rfl).trans ?_)
      simp only [fields_object, required_eq htimes (anyValue_eq _), maybe_eq hbreak rfl fun s _ => string_eq s, hsteps,
        Option.bind_eq_bind, Option.bind_some]

end Step

namespace TreeNode

theorem decode?_toJson {n : TreeNode} (h : n.step.FiniteFloats) : decode? n.toJson = some n := by
  refine decodes_ofFields ?_ fun ms hholds => ?_
  · simp [Step.names_jsonFields, StepHead.fieldNames]
  · simp only [holds_cons] at hholds
    obtain ⟨howner, hparent, hstep⟩ := hholds
    have hsplit : Source.split? ["owner_step_id", "parent_id"] (Value.object ms) = some (ofMembers ms, .object ms) :=
      rfl
    have hdecode : Step.decode? (Value.object ms) = some n.step :=
      Step.decodeWithin?_eq h hstep (Nat.le_refl _)
    simp only [decode?, hsplit, required_eq howner (uint64_eq _), maybe_eq hparent rfl fun m _ => uint64_eq m, hdecode,
      Option.bind_eq_bind, Option.bind_some]

end TreeNode

theorem Step.decode?_toJson {s : Step} (h : s.FiniteFloats) : decode? s.toJson = some s := by
  rw [toJson]
  exact decodes_ofFields s.nodup_names_jsonFields fun ms hholds => Step.decodeWithin?_eq h hholds (Nat.le_refl _)

/-! ### Suites -/

theorem ConnectionTarget.decode?_toJson (t : ConnectionTarget) : decode? t.toJson = some t := by
  refine decodes_ofFields (by simp) fun ms hholds => ?_
  simp only [holds_cons] at hholds
  obtain ⟨hdriver, hurl, hdatabase, -⟩ := hholds
  simp only [decode?, fields_object, required_eq hdriver (string_eq _), required_eq hurl (string_eq _),
    maybe_eq hdatabase rfl fun s _ => string_eq s, Option.bind_eq_bind, Option.bind_some]

theorem Environment.decode?_toJson (e : Environment) : decode? e.toJson = some e := by
  refine decodes_ofFields (by simp) fun ms hholds => ?_
  simp only [holds_cons] at hholds
  obtain ⟨hid, hname, hurl, hdatabases, -⟩ := hholds
  have htargets := withDefault_nil_eq rfl hdatabases fun _ =>
    dictOf_eq fun p _ => ConnectionTarget.decode?_toJson p.2
  simp only [decode?, fields_object, required_eq hid (uint64_eq _), withDefault_eq hname (string_eq _),
    withDefault_eq hurl (string_eq _), htargets, Option.bind_eq_bind, Option.bind_some]

theorem Case.decode?_toJson {c : Case} (h : ∀ a ∈ c.steps, a.FiniteFloats) : decode? c.toJson = some c := by
  have hread : ∀ a ∈ c.steps, Step.decode? a.toJson = some a := fun a ha => Step.decode?_toJson (h a ha)
  refine decodes_ofFields (by simp) fun ms hholds => ?_
  simp only [holds_cons, Step.toJsonList_eq] at hholds
  obtain ⟨hid, hname, henv, hsteps, -⟩ := hholds
  simp only [decode?, fields_object, required_eq hid (uint64_eq _), withDefault_eq hname (string_eq _),
    maybe_eq henv rfl fun n _ => uint64_eq n, withDefault_eq hsteps (listOf_eq hread),
    Option.bind_eq_bind, Option.bind_some]

theorem AssertionRule.decode?_toJson (r : AssertionRule) : decode? r.toJson = some r := by
  refine decodes_ofPairs (by simp) fun ms hholds => ?_
  simp only [List.map_cons, List.map_nil, holds_cons] at hholds
  obtain ⟨hid, hstep, hkind, hexpression, hoperator, hexpected, henabled, -⟩ := hholds
  simp only [decode?, fields_object, required_eq hid (uint64_eq _), required_eq hstep (uint64_eq _),
    required_eq hkind (RuleKind.decode?_toJson _), withDefault_eq hexpression (string_eq _),
    required_eq hoperator (Operator.decode?_toJson _), withDefault_eq hexpected (anyValue_eq _),
    withDefault_eq henabled (bool_eq _), Option.bind_eq_bind, Option.bind_some]

theorem CascadeLimits.decode?_toJson (l : CascadeLimits) : decode? l.toJson = some l := by
  refine decodes_ofPairs (by simp) fun ms hholds => ?_
  simp only [List.map_cons, List.map_nil, holds_cons] at hholds
  obtain ⟨hcase, hforeach, -⟩ := hholds
  simp only [decode?, fields_object, withDefault_eq hcase (uint32_eq _), withDefault_eq hforeach (uint32_eq _),
    Option.bind_eq_bind, Option.bind_some]

theorem RunConfig.decode?_toJson {c : RunConfig} (h : c.pollIntervalSecs.isFinite = true) :
    decode? c.toJson = some c := by
  refine decodes_ofPairs (by simp) fun ms hholds => ?_
  simp only [List.map_cons, List.map_nil, holds_cons] at hholds
  obtain ⟨henv, hstop, hlog, hparallel, htimeout, hworkers, hlimits, hinterval, -⟩ := hholds
  simp only [decode?, fields_object, maybe_eq_of_getD henv rfl fun n _ => uint64_eq n, withDefault_eq hstop (bool_eq _),
    withDefault_eq hlog (bool_eq _), withDefault_eq hparallel (bool_eq _), withDefault_eq htimeout (uint64_eq _),
    withDefault_eq hworkers (uint64_eq _), withDefault_eq hlimits (CascadeLimits.decode?_toJson _),
    withDefault_eq hinterval (float_eq h), Option.bind_eq_bind, Option.bind_some]

namespace Suite

/-- All floats of a suite are finite; the numbers in its values are so anyway. -/
structure FiniteFloats (s : Suite) : Prop where
  pollInterval : s.config.pollIntervalSecs.isFinite = true
  steps : ∀ a ∈ Step.withInnerOfAll s.outermost, a.head.controller.FiniteFloats

theorem FiniteFloats.outermost {s : Suite} (h : s.FiniteFloats) {a : Step} (ha : a ∈ s.outermost) : a.FiniteFloats := by
  intro b hb
  refine h.steps b ?_
  rw [Step.withInnerOfAll_eq]
  exact List.mem_flatMap.mpr ⟨a, ha, hb⟩

/-- A suite whose floats are finite is read back from its JSON as it was. -/
theorem suite_is_read_back (s : Suite) (h : s.FiniteFloats) : decode? s.toJson = some s := by
  have hcases : ∀ c ∈ s.cases, ∀ a ∈ c.steps, a.FiniteFloats := fun c hc a ha =>
    h.outermost (List.mem_append_left _ (List.mem_flatMap.mpr ⟨c, hc, ha⟩))
  have hnodes : ∀ n ∈ s.foreachSteps, n.step.FiniteFloats := fun n hn =>
    h.outermost (List.mem_append_right _ (List.mem_map_of_mem hn))
  refine decodes_ofPairs (by simp) fun ms hholds => ?_
  simp only [List.map_cons, List.map_nil, holds_cons] at hholds
  obtain ⟨hconfig, henvironments, hvars, hsteps, hstored, hrules, -⟩ := hholds
  have hdict : dictOf anyValue (Value.object s.vars) = some s.vars := by
    have hread : dictOf anyValue (Value.object (s.vars.map fun p => (p.1, id p.2))) = some s.vars :=
      dictOf_eq fun p _ => anyValue_eq p.2
    simpa using hread
  simp only [decode?, fields_object, withDefault_eq hconfig (RunConfig.decode?_toJson h.pollInterval),
    withDefault_eq henvironments (listOf_eq fun e _ => Environment.decode?_toJson e), withDefault_eq hvars hdict,
    withDefault_eq hsteps (listOf_eq fun c hc => Case.decode?_toJson (hcases c hc)),
    withDefault_eq hstored (listOf_eq fun n hn => TreeNode.decode?_toJson (hnodes n hn)),
    withDefault_eq hrules (listOf_eq fun r _ => AssertionRule.decode?_toJson r), Option.bind_eq_bind, Option.bind_some]

/-- A suite with all kinds of steps, with loops in loops, and with every way to give parameters, outputs and
expectations. -/
def variedSuite : Suite where
  config := { RunConfig.default with envId := some 3 }
  environments := [⟨3, "test", "http://a.test", [("main", ⟨"sqlite", ":memory:", some "db"⟩)]⟩, ⟨4, "bare", "", []⟩]
  vars := [("a", .ofNat 1), ("b", .array [.null, .ofFloat 0.5])]
  cases := [
    ⟨1, "first", some 3, [
      .api ⟨1, "get", 0, true, ⟨2, 0.25, some "a == 1", some 1.5⟩, some 30⟩
        ⟨"POST", "/x", some "http://a.test", .literal, some (.table [⟨"v", .ofNat 2, .auto⟩]), some (.text "a: b"),
          some (.json (.object [])), some (.code "a"), some (.table [⟨"id?", "data.id", .body⟩]),
          some (.table [⟨"ok", .bool true, .boolean, .notEqual⟩]), false⟩,
      .foreach ⟨2, "outer", 1, true, .default, none⟩ (.ofNat 2) (some "a > 1") [
        .foreach ⟨3, "inner", 0, false, .default, none⟩ (.string "b") none [
          .caseRef ⟨4, "other", 0, true, .default, none⟩ 2]]]⟩,
    ⟨2, "second", none, [
      .api ⟨5, "code", 0, true, .default, none⟩
        { ApiParams.new "GET" "/" with outputs := some (.code "response"), expectations := some (.code "true") },
      .foreach ⟨6, "stored", 1, true, .default, none⟩ .null none []]⟩]
  foreachSteps := [⟨6, none, .sql ⟨7, "ask", 0, true, .default, none⟩ ⟨"main", none, "select 1", some "row"⟩⟩,
    ⟨6, some 8, .api ⟨9, "bare", 0, true, .default, none⟩ (.new "GET" "/")⟩]
  assertions := [⟨1, 1, .statusCode, "", .eq, .ofNat 200, true⟩]

instance : DecidablePred Controller.FiniteFloats := fun c =>
  inferInstanceAs (Decidable (c.retryInterval.isFinite = true ∧ ∀ x ∈ c.sleep, x.isFinite = true))

theorem varied_suite_is_read_back :
    variedSuite.FiniteFloats ∧ decode? variedSuite.toJson = some variedSuite := by
  have hfinite : variedSuite.FiniteFloats := ⟨by decide +kernel, by decide +kernel⟩
  exact ⟨hfinite, suite_is_read_back variedSuite hfinite⟩

end Suite

end Casebook
