import Casebook.Proofs.Run.ResultTree
import Casebook.Proofs.Suite.RoundTrip
import Casebook.Run.ResultCodec

/-! Results are read back from their JSON as they were, unless a request in them left its outputs or its assertions
out, or an assertion found null: a log without these cannot be read, and a null that was found is read as nothing. -/
namespace Casebook

open Json (Value)
open Record

/-! ### Requests in results -/

mutual

/-- The logs of all requests in a result, at any depth. -/
def StepResult.requests : StepResult → List RequestLog
  | .mk _ _ _ _ _ _ output => requestsOf output

def requestsOf : Option StepOutput → List RequestLog
  | none => []
  | some output => output.requests

def StepOutput.requests : StepOutput → List RequestLog
  | .api log => [log]
  | .sql _ => []
  | .case results => requestsOfAll results
  | .foreach iterations => requestsOfIterations iterations

def requestsOfAll : List StepResult → List RequestLog
  | [] => []
  | r :: results => r.requests ++ requestsOfAll results

def IterationResult.requests : IterationResult → List RequestLog
  | .mk _ _ steps => requestsOfAll steps

def requestsOfIterations : List IterationResult → List RequestLog
  | [] => []
  | i :: iterations => i.requests ++ requestsOfIterations iterations

end

theorem requestsOfAll_eq_flatMap (results : List StepResult) :
    requestsOfAll results = results.flatMap StepResult.requests := by
  induction results with
  | nil => rfl
  | cons r results ih => rw [requestsOfAll, ih, List.flatMap_cons]

theorem requestsOfIterations_eq_flatMap (iterations : List IterationResult) :
    requestsOfIterations iterations = iterations.flatMap IterationResult.requests := by
  induction iterations with
  | nil => rfl
  | cons i iterations ih => rw [requestsOfIterations, ih, List.flatMap_cons]

theorem IterationResult.requests_eq (i : IterationResult) : i.requests = i.steps.flatMap StepResult.requests := by
  cases i
  rw [requests, requestsOfAll_eq_flatMap]
  rfl

theorem StepResult.toJsonList_eq (results : List StepResult) : toJsonList results = results.map toJson := by
  induction results with
  | nil => rfl
  | cons r results ih => rw [toJsonList, List.map_cons, ih]

theorem IterationResult.toJsonList_eq (iterations : List IterationResult) :
    toJsonList iterations = iterations.map toJson := by
  induction iterations with
  | nil => rfl
  | cons i iterations ih => rw [toJsonList, List.map_cons, ih]

/-! ### Logs -/

theorem Status.decode?_toJson (s : Status) : decode? s.toJson = some s := by
  cases s <;> rfl

namespace AssertionResult

theorem decode?_toJson {r : AssertionResult} (h : r.actual ≠ some .null) : decode? r.toJson = some r := by
  refine decodes_ofFields (by simp) fun ms hholds => ?_
  simp only [holds_cons] at hholds
  obtain ⟨hrule, hkind, hexpression, hoperator, hexpected, hpassed, hactual, hmessage, -⟩ := hholds
  have hread : maybe (ofMembers ms) "actual_value" anyValue = some r.actual := by
    cases hfound : r.actual with
    | none => exact withDefault_absent (hactual.trans hfound) none
    | some v =>
      have hnull : v ≠ .null := fun hnull => h (hnull ▸ hfound)
      exact maybe_of_ne_null (hactual.trans hfound) hnull anyValue
  simp only [decode?, fields_object, required_eq hrule (uint64_eq _), required_eq hkind (RuleKind.decode?_toJson _),
    required_eq hexpression (string_eq _), required_eq hoperator (Operator.decode?_toJson _),
    required_eq hexpected (anyValue_eq _), required_eq hpassed (bool_eq _), hread, required_eq hmessage (string_eq _),
    Option.bind_eq_bind, Option.bind_some]

/-- No assertion is read to have found null. -/
theorem actual_of_decode? {v : Value} {r : AssertionResult} (h : decode? v = some r) : r.actual ≠ some .null := by
  simp only [decode?, Option.bind_eq_bind, Option.bind_eq_some_iff] at h
  obtain ⟨f, -, _, -, _, -, _, -, _, -, _, -, _, -, actual, hactual, _, -, h⟩ := h
  cases h
  rintro (rfl : actual = some .null)
  obtain ⟨w, hw, hread⟩ := exists_of_maybe hactual
  cases hread
  exact hw rfl

end AssertionResult

namespace RequestLog

/-- Nothing of a log is lost when it is saved: it has outputs and assertions, and none of these found null. -/
structure IsKept (l : RequestLog) : Prop where
  outputs : l.outputs ≠ []
  assertions : l.assertions ≠ []
  actual : ∀ a ∈ l.assertions, a.actual ≠ some .null

theorem ofJson?_toJson {l : RequestLog} (hfinite : l.elapsedSecs.isFinite = true) (h : l.IsKept) :
    ofJson? l.toJson = some l := by
  refine decodes_ofFields (by simp) fun ms hholds => ?_
  have houtputs : l.outputs.isEmpty = false := by simpa using h.outputs
  have hassertions : l.assertions.isEmpty = false := by simpa using h.assertions
  simp only [holds_cons, houtputs, hassertions, Bool.false_eq_true, if_false] at hholds
  obtain ⟨hurl, hmethod, hheaders, hquery, hbody, hstatus, hresponse, hreplied, helapsed, houtputs, hassertions, -⟩ :=
    hholds
  have hrules : listOf AssertionResult.decode? (Value.array (l.assertions.map AssertionResult.toJson)) =
      some l.assertions := listOf_eq fun a ha => AssertionResult.decode?_toJson (h.actual a ha)
  rw [ofJson?, fields_object, Option.bind_eq_bind, Option.bind_some, required_eq hurl (string_eq _),
    required_eq hmethod (string_eq _), required_eq hheaders (texts_eq _), required_eq hquery (anyValue_eq _),
    required_eq hbody (anyValue_eq _), maybe_eq hstatus rfl fun n _ => uint16_eq n,
    required_eq hresponse (anyValue_eq _), required_eq hreplied (texts_eq _),
    required_eq helapsed (float_eq hfinite), required_eq houtputs (values_eq _), required_eq hassertions hrules]
  rfl

/-- A log without outputs or without assertions cannot be read. -/
theorem ofJson?_toJson_eq_none {l : RequestLog} (h : l.outputs = [] ∨ l.assertions = []) : ofJson? l.toJson = none := by
  refine decodes_ofFields (by simp) fun ms hholds => ?_
  simp only [holds_cons] at hholds
  obtain ⟨-, -, -, -, -, -, -, -, -, houtputs, hassertions, -⟩ := hholds
  have hlacking : required (ofMembers ms) "outputs" (dictOf anyValue) = none ∨
      required (ofMembers ms) "assertions" (listOf AssertionResult.decode?) = none := by
    rcases h with h | h
    · rw [h] at houtputs
      exact .inl (required_of_none houtputs _)
    · rw [h] at hassertions
      exact .inr (required_of_none hassertions _)
  rw [ofJson?, fields_object, Option.bind_eq_bind, Option.bind_some]
  rcases hlacking with hnone | hnone <;> rw [hnone] <;>
    simp only [Option.bind_eq_bind, Option.bind_none, Option.bind_fun_none]

theorem actual_of_ofJson? {v : Value} {l : RequestLog} (h : ofJson? v = some l) :
    ∀ a ∈ l.assertions, a.actual ≠ some .null := by
  unfold ofJson? at h
  obtain ⟨f, -, h⟩ := Option.bind_eq_some_iff.mp h
  -- The assertions are read last.
  iterate 10 obtain ⟨_, -, h⟩ := Option.bind_eq_some_iff.mp h
  obtain ⟨assertions, hassertions, h⟩ := Option.bind_eq_some_iff.mp h
  cases h
  intro a ha
  obtain ⟨w, -, hread⟩ := Option.bind_eq_some_iff.mp hassertions
  obtain ⟨_, ha⟩ := exists_of_listOf hread a ha
  exact AssertionResult.actual_of_decode? ha

end RequestLog

theorem SqlLog.ofJson?_toJson (l : SqlLog) : ofJson? l.toJson = some l := by
  refine decodes_ofFields (by simp) fun ms hholds => ?_
  simp only [holds_cons] at hholds
  obtain ⟨hconnection, hdatabase, hsql, hrows, hcaptured, -⟩ := hholds
  simp only [ofJson?, fields_object, required_eq hconnection (string_eq _),
    maybe_eq hdatabase rfl fun s _ => string_eq s, required_eq hsql (string_eq _), required_eq hrows (uint64_eq _),
    maybe_eq hcaptured rfl fun s _ => string_eq s, Option.bind_eq_bind, Option.bind_some]

/-! ### Outputs -/

namespace IterationResult

variable {result? : Decoder Value StepResult}

theorem ofJsonWith?_toJson {i : IterationResult} (h : ∀ r ∈ i.steps, result? r.toJson = some r) :
    ofJsonWith? result? i.toJson = some i := by
  obtain ⟨index, status, steps⟩ := i
  refine decodes_ofPairs (by simp) fun ms hholds => ?_
  simp only [List.map_cons, List.map_nil, holds_cons, StepResult.toJsonList_eq] at hholds
  obtain ⟨hindex, hstatus, hsteps, -⟩ := hholds
  simp only [ofJsonWith?, fields_object, required_eq hindex (uint64_eq _),
    required_eq hstatus (Status.decode?_toJson _), required_eq hsteps (listOf_eq h), Option.bind_eq_bind,
    Option.bind_some]

theorem ofJsonWith?_toJson_eq_none {i : IterationResult} {r : StepResult} (hmem : r ∈ i.steps)
    (hr : result? r.toJson = none) : ofJsonWith? result? i.toJson = none := by
  obtain ⟨index, status, steps⟩ := i
  have hlist : listOf result? (Value.array (steps.map StepResult.toJson)) = none := listOf_eq_none hmem hr
  refine decodes_ofPairs (by simp) fun ms hholds => ?_
  simp only [List.map_cons, List.map_nil, holds_cons, StepResult.toJsonList_eq] at hholds
  obtain ⟨-, -, hsteps, -⟩ := hholds
  simp [ofJsonWith?, required_eq_none hsteps hlist]

theorem exists_of_ofJsonWith? {v : Value} {i : IterationResult} (h : ofJsonWith? result? v = some i) :
    ∀ r ∈ i.steps, ∃ w, result? w = some r := by
  simp only [ofJsonWith?, Option.bind_eq_bind, Option.bind_eq_some_iff] at h
  obtain ⟨f, -, _, -, _, -, steps, hsteps, h⟩ := h
  cases h
  obtain ⟨w, -, hread⟩ := Option.bind_eq_some_iff.mp hsteps
  exact exists_of_listOf hread

end IterationResult

namespace StepOutput

variable {result? : Decoder Value StepResult}

theorem ofJsonWith?_toJson {o : StepOutput} (hlog : ∀ log, o = .api log → RequestLog.ofJson? log.toJson = some log)
    (hinner : ∀ r ∈ o.inner, result? r.toJson = some r) : ofJsonWith? result? o.toJson = some o := by
  cases o with
  | api log =>
    rw [toJson, ofJsonWith?, tagged_ofTagged (by decide) rfl, hlog log rfl]
    rfl
  | sql log =>
    rw [toJson, ofJsonWith?, tagged_ofTagged (by decide) rfl, SqlLog.ofJson?_toJson]
    rfl
  | case results =>
    have hresults : ∀ r ∈ results, result? r.toJson = some r := hinner
    rw [toJson, ofJsonWith?, tagged_ofTagged (by decide) rfl, StepResult.toJsonList_eq, listOf_eq hresults]
    rfl
  | foreach iterations =>
    have hiterations : ∀ i ∈ iterations, IterationResult.ofJsonWith? result? i.toJson = some i := fun i hi =>
      IterationResult.ofJsonWith?_toJson fun r hr => hinner r (List.mem_flatMap.mpr ⟨i, hi, hr⟩)
    rw [toJson, ofJsonWith?, tagged_ofTagged (by decide) rfl, IterationResult.toJsonList_eq, listOf_eq hiterations]
    rfl

theorem ofJsonWith?_toJson_eq_none {o : StepOutput}
    (h : (∃ log, o = .api log ∧ RequestLog.ofJson? log.toJson = none) ∨ ∃ r ∈ o.inner, result? r.toJson = none) :
    ofJsonWith? result? o.toJson = none := by
  cases o with
  | api log =>
    have hlog : RequestLog.ofJson? log.toJson = none := by simpa [inner] using h
    rw [toJson, ofJsonWith?, tagged_ofTagged (by decide) rfl, hlog]
    rfl
  | sql log => simp [inner] at h
  | case results =>
    obtain ⟨r, hr, hnone⟩ : ∃ r ∈ results, result? r.toJson = none := by simpa [inner] using h
    rw [toJson, ofJsonWith?, tagged_ofTagged (by decide) rfl, StepResult.toJsonList_eq, listOf_eq_none hr hnone]
    rfl
  | foreach iterations =>
    obtain ⟨r, ⟨i, hi, hr⟩, hnone⟩ : ∃ r, (∃ i ∈ iterations, r ∈ i.steps) ∧ result? r.toJson = none := by
      simpa [inner] using h
    have hiteration := IterationResult.ofJsonWith?_toJson_eq_none hr hnone
    rw [toJson, ofJsonWith?, tagged_ofTagged (by decide) rfl, IterationResult.toJsonList_eq,
      listOf_eq_none hi hiteration]
    rfl

/-- What an output is read to hold was read itself. -/
theorem exists_of_ofJsonWith? {v : Value} {o : StepOutput} (h : ofJsonWith? result? v = some o) :
    (∀ log, o = .api log → ∃ w, RequestLog.ofJson? w = some log) ∧ ∀ r ∈ o.inner, ∃ w, result? w = some r := by
  obtain ⟨p, hp, w, hread⟩ := exists_of_tagged h
  simp only [List.mem_cons, List.not_mem_nil, or_false] at hp
  rcases hp with rfl | rfl | rfl | rfl
  · obtain ⟨log, hlog, rfl⟩ := Option.map_eq_some_iff.mp hread
    exact ⟨fun _ hsame => ⟨w, by cases hsame; exact hlog⟩, by simp [inner]⟩
  · obtain ⟨_, -, rfl⟩ := Option.map_eq_some_iff.mp hread
    exact ⟨nofun, by simp [inner]⟩
  · obtain ⟨results, hlist, rfl⟩ := Option.map_eq_some_iff.mp hread
    exact ⟨nofun, exists_of_listOf hlist⟩
  · obtain ⟨iterations, hlist, rfl⟩ := Option.map_eq_some_iff.mp hread
    refine ⟨nofun, fun r hr => ?_⟩
    obtain ⟨i, hi, hr⟩ := List.mem_flatMap.mp hr
    obtain ⟨_, hi⟩ := exists_of_listOf hlist i hi
    exact IterationResult.exists_of_ofJsonWith? hi r hr

end StepOutput

/-- A request lies in an output if it made the output itself, or lies in a result inside. -/
theorem StepOutput.mem_requests {o : StepOutput} {log : RequestLog} :
    log ∈ o.requests ↔ o = .api log ∨ ∃ r ∈ o.inner, log ∈ r.requests := by
  cases o with
  | api own => simp [requests, inner, eq_comm]
  | sql => simp [requests, inner]
  | case results => simp [requests, inner, requestsOfAll_eq_flatMap]
  | foreach iterations =>
    simp only [requests, inner, requestsOfIterations_eq_flatMap, IterationResult.requests_eq, List.mem_flatMap,
      reduceCtorEq, false_or]
    constructor
    · rintro ⟨i, hi, r, hr, hlog⟩
      exact ⟨r, ⟨i, hi, hr⟩, hlog⟩
    · rintro ⟨r, ⟨i, hi, hr⟩, hlog⟩
      exact ⟨i, hi, r, hr, hlog⟩

theorem StepResult.mem_requests {r : StepResult} {log : RequestLog} :
    log ∈ r.requests ↔ ∃ o, r.output = some o ∧ log ∈ o.requests := by
  obtain ⟨id, label, kind, status, retries, message, output⟩ := r
  cases output <;> simp [requests, requestsOf, output]

namespace StepResult

/-- The fields of a result. -/
def jsonFields (r : StepResult) : List (String × Option Value) :=
  [("step_id", some (.ofUInt64 r.stepId)),
    ("label", some (.string r.label)),
    ("kind", some (.string r.kind)),
    ("status", some r.status.toJson),
    ("retried_times", some (.ofUInt32 r.retries)),
    ("message", r.message.map .string),
    ("output", r.output.map StepOutput.toJson)]

theorem toJson_eq (r : StepResult) : r.toJson = .ofFields r.jsonFields := by
  obtain ⟨id, label, kind, status, retries, message, output⟩ := r
  cases output <;> rfl

theorem nodup_names_jsonFields (r : StepResult) : (r.jsonFields.map Prod.fst).Nodup := by
  simp [jsonFields]

/-- Results with a request whose log is not whole cannot be read. -/
theorem ofJsonWithin?_toJson_eq_none {depth : Nat} {r : StepResult} {log : RequestLog} (hmem : log ∈ r.requests)
    (hlog : log.outputs = [] ∨ log.assertions = []) : ofJsonWithin? depth r.toJson = none := by
  induction depth generalizing r with
  | zero => rfl
  | succ depth ih =>
    obtain ⟨o, ho, hmem⟩ := mem_requests.mp hmem
    have hread : StepOutput.ofJsonWith? (ofJsonWithin? depth) o.toJson = none := by
      refine StepOutput.ofJsonWith?_toJson_eq_none ?_
      rcases StepOutput.mem_requests.mp hmem with rfl | ⟨r', hr', hmem⟩
      · exact .inl ⟨log, rfl, RequestLog.ofJson?_toJson_eq_none hlog⟩
      · exact .inr ⟨r', hr', ih hmem⟩
    rw [toJson_eq]
    refine decodes_ofFields r.nodup_names_jsonFields fun ms hholds => ?_
    simp only [jsonFields, holds_cons, ho, Option.map_some] at hholds
    obtain ⟨-, -, -, -, -, -, hout, -⟩ := hholds
    have hnull : o.toJson ≠ .null := by cases o <;> simp [StepOutput.toJson, Value.ofTagged, Value.ofPairs]
    have hmaybe := maybe_of_ne_null hout hnull (StepOutput.ofJsonWith? (ofJsonWithin? depth))
    rw [hread, Option.map_none] at hmaybe
    simp [ofJsonWithin?, hmaybe]

/-- What is read found null nowhere. -/
theorem actual_of_ofJsonWithin? {depth : Nat} {v : Value} {r : StepResult} (h : ofJsonWithin? depth v = some r) :
    ∀ log ∈ r.requests, ∀ a ∈ log.assertions, a.actual ≠ some .null := by
  induction depth generalizing v r with
  | zero => cases h
  | succ depth ih =>
    intro log hmem
    obtain ⟨o, ho, hmem⟩ := mem_requests.mp hmem
    simp only [ofJsonWithin?, Option.bind_eq_bind, Option.bind_eq_some_iff] at h
    obtain ⟨f, -, _, -, _, -, _, -, _, -, _, -, _, -, output, houtput, h⟩ := h
    cases h
    cases ho
    obtain ⟨w, -, hread⟩ := exists_of_maybe houtput
    obtain ⟨hown, hinner⟩ := StepOutput.exists_of_ofJsonWith? hread
    rcases StepOutput.mem_requests.mp hmem with rfl | ⟨r, hr, hmem⟩
    · obtain ⟨_, hlog⟩ := hown log rfl
      exact RequestLog.actual_of_ofJson? hlog
    · obtain ⟨_, hr⟩ := hinner r hr
      exact ih hr log hmem

end StepResult

/-- The results inside an output nest less deep than the output. -/
theorem StepOutput.depth_lt_of_mem_inner {o : StepOutput} {r : StepResult} (h : r ∈ o.inner) :
    Value.depth r.toJson < Value.depth o.toJson := by
  have htagged : ∀ name v, Value.depth v < Value.depth (.ofTagged "type" "data" name v) := by
    intro name v
    rw [Value.ofTagged, ofPairs_eq]
    exact depth_lt_ofFields "data" (by simp) (by simp)
  cases o with
  | api | sql => cases h
  | case results =>
    have hitem := Value.depth_lt_of_mem_items (List.mem_map_of_mem (f := StepResult.toJson) h)
    rw [toJson, StepResult.toJsonList_eq]
    exact hitem.trans (htagged _ _)
  | foreach iterations =>
    obtain ⟨i, hi, hr⟩ := List.mem_flatMap.mp h
    have hitem := Value.depth_lt_of_mem_items (List.mem_map_of_mem (f := IterationResult.toJson) hi)
    have hstep := Value.depth_lt_of_mem_items (List.mem_map_of_mem (f := StepResult.toJson) hr)
    have hiteration : Value.depth (.array (i.steps.map StepResult.toJson)) < Value.depth i.toJson := by
      obtain ⟨index, status, steps⟩ := i
      rw [IterationResult.toJson, ofPairs_eq, StepResult.toJsonList_eq]
      exact depth_lt_ofFields "steps" (by simp) (by simp [IterationResult.steps])
    rw [toJson, IterationResult.toJsonList_eq]
    exact hstep.trans (hiteration.trans (hitem.trans (htagged _ _)))

namespace StepResult

/-- A result is read back with as many results inside of each other as its JSON is deep. -/
theorem ofJsonWithin?_toJson {depth : Nat} {r : StepResult}
    (hfinite : ∀ log ∈ r.requests, log.elapsedSecs.isFinite = true) (hkept : ∀ log ∈ r.requests, log.IsKept)
    (hdepth : r.toJson.depth ≤ depth) : ofJsonWithin? depth r.toJson = some r := by
  induction depth generalizing r with
  | zero =>
    rw [toJson_eq] at hdepth
    obtain ⟨ms, hms, -⟩ := exists_holds r.nodup_names_jsonFields
    rw [hms, Value.depth] at hdepth
    omega
  | succ depth ih =>
    have houtput : ∀ o ∈ r.output, StepOutput.ofJsonWith? (ofJsonWithin? depth) o.toJson = some o := by
      intro o ho
      have hlogs : ∀ log ∈ o.requests, log ∈ r.requests := fun log hlog => mem_requests.mpr ⟨o, ho, hlog⟩
      refine StepOutput.ofJsonWith?_toJson (fun log hown => ?_) fun r' hr' => ?_
      · have hlog := hlogs log (StepOutput.mem_requests.mpr (.inl hown))
        exact RequestLog.ofJson?_toJson (hfinite log hlog) (hkept log hlog)
      · have hinner : ∀ log ∈ r'.requests, log ∈ r.requests := fun log hlog =>
          hlogs log (StepOutput.mem_requests.mpr (.inr ⟨r', hr', hlog⟩))
        have hfield : Value.depth o.toJson < Value.depth r.toJson := by
          rw [toJson_eq]
          exact depth_lt_ofFields "output" r.nodup_names_jsonFields (by simp [jsonFields, Option.mem_def.mp ho])
        have hless := StepOutput.depth_lt_of_mem_inner hr'
        exact ih (fun log hlog => hfinite log (hinner log hlog)) (fun log hlog => hkept log (hinner log hlog)) (by omega)
    have hnull : StepOutput.ofJsonWith? (ofJsonWithin? depth) .null = none := rfl
    rw [toJson_eq]
    refine decodes_ofFields r.nodup_names_jsonFields fun ms hholds => ?_
    simp only [jsonFields, holds_cons] at hholds
    obtain ⟨hid, hlabel, hkind, hstatus, hretries, hmessage, hout, -⟩ := hholds
    simp only [ofJsonWithin?, fields_object, required_eq hid (uint64_eq _), required_eq hlabel (string_eq _),
      required_eq hkind (string_eq _), required_eq hstatus (Status.decode?_toJson _),
      required_eq hretries (uint32_eq _), maybe_eq hmessage rfl fun s _ => string_eq s,
      maybe_eq hout hnull houtput, Option.bind_eq_bind, Option.bind_some]
    cases r
    rfl

/-- A result whose times are finite is read back from its JSON as it was just if every request in it has outputs and
assertions, and no assertion found null; with a request that lacks one of the first two nothing is read at all. -/
theorem saved_result_is_read_back (r : StepResult) (h : ∀ log ∈ r.requests, log.elapsedSecs.isFinite = true) :
    (ofJson? r.toJson = some r ↔ ∀ log ∈ r.requests, log.IsKept) ∧
    ((∃ log ∈ r.requests, log.outputs = [] ∨ log.assertions = []) → ofJson? r.toJson = none) := by
  have hlacking : (∃ log ∈ r.requests, log.outputs = [] ∨ log.assertions = []) → ofJson? r.toJson = none :=
    fun ⟨log, hmem, hlog⟩ => ofJsonWithin?_toJson_eq_none hmem hlog
  refine ⟨⟨fun hread log hmem => ?_, fun hkept => ?_⟩, hlacking⟩
  · have hwhole : ¬(log.outputs = [] ∨ log.assertions = []) := fun hlog =>
      Option.some_ne_none r (hread.symm.trans (hlacking ⟨log, hmem, hlog⟩))
    rw [not_or] at hwhole
    exact ⟨hwhole.1, hwhole.2, actual_of_ofJsonWithin? hread log hmem⟩
  · exact ofJsonWithin?_toJson h hkept (Nat.le_refl _)

/-- A loop around a case of two steps: a request that kept an output and an assertion, and a statement. -/
def savedLoop : StepResult :=
  let request := { RequestLog.ofMethod "GET" with
    elapsedSecs := 0.25, statusCode := some 200, outputs := [("id", .null)]
    assertions := [⟨1, .header, "etag", .empty, .null, true, none, "assertion passed: header 'etag' is_empty "⟩] }
  let steps : List StepResult := [.mk 3 "loop-inner-get" "api" .success 2 none (some (.api request)),
    .mk 4 "loop-inner-ask" "sql" .failed 0 (some "no such table") (some (.sql ⟨"main", none, "select 1", 0, none⟩))]
  .mk 1 "loop" "foreach" .failed 0 none (some (.foreach [.mk 0 .failed
    [.mk 2 "loop-inner" "case_ref" .failed 0 none (some (.case steps))], .mk 1 .success []]))

theorem saved_loop_is_read_back :
    (∀ log ∈ savedLoop.requests, log.elapsedSecs.isFinite = true) ∧ ofJson? savedLoop.toJson = some savedLoop := by
  have hlogs : ∀ log ∈ savedLoop.requests, log.elapsedSecs.isFinite = true ∧ log.IsKept := by
    intro log hmem
    simp [savedLoop, requests, requestsOf, StepOutput.requests, requestsOfIterations, IterationResult.requests,
      requestsOfAll] at hmem
    subst hmem
    exact ⟨by decide, by simp, by simp, by simp⟩
  have hfinite : ∀ log ∈ savedLoop.requests, log.elapsedSecs.isFinite = true := fun log hmem => (hlogs log hmem).1
  exact ⟨hfinite, (saved_result_is_read_back savedLoop hfinite).1.mpr fun log hmem => (hlogs log hmem).2⟩

end StepResult

end Casebook
