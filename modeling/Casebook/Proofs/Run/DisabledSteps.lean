import Casebook.Proofs.Run.Mirroring
import Casebook.Proofs.Run.StepTree

/-! Disabled steps are inert.  A run without the disabled steps of the cases goes as the run with them: it makes the same
calls, ends in the same status and with the same scope, and reports the same but for the results of those steps. -/
namespace Casebook

/-! ### Without disabled steps -/

def Case.withoutDisabled (c : Case) : Case := { c with steps := c.steps.filter Step.enabled }

/-- The suite without the disabled steps of its cases; the bodies of loops stay as they are. -/
def Suite.withoutDisabled (s : Suite) : Suite := { s with cases := s.cases.map Case.withoutDisabled }

/-- The repository that leaves out the disabled steps of cases. -/
def Repository.withoutDisabled (r : Repository) : Repository :=
  { r with steps := fun caseId => (r.steps caseId).map (List.filter Step.enabled) }

theorem Suite.caseOf?_withoutDisabled (s : Suite) (id : CaseId) :
    s.withoutDisabled.caseOf? id = (s.caseOf? id).map Case.withoutDisabled := by
  unfold caseOf? withoutDisabled
  rw [← List.map_reverse, List.find?_map]
  rfl

theorem Repository.ofSuite_withoutDisabled (s : Suite) :
    Repository.ofSuite s.withoutDisabled = (Repository.ofSuite s).withoutDisabled := by
  have hinfo : (Repository.ofSuite s.withoutDisabled).caseInfo = (Repository.ofSuite s).caseInfo := by
    funext id
    unfold Repository.ofSuite
    simp only [s.caseOf?_withoutDisabled]
    cases s.caseOf? id <;> rfl
  have hsteps : (Repository.ofSuite s.withoutDisabled).steps = (Repository.ofSuite s).withoutDisabled.steps := by
    funext id
    unfold Repository.withoutDisabled Repository.ofSuite
    simp only [s.caseOf?_withoutDisabled]
    cases s.caseOf? id <;> rfl
  calc Repository.ofSuite s.withoutDisabled
      = { Repository.ofSuite s with
          caseInfo := (Repository.ofSuite s.withoutDisabled).caseInfo
          steps := (Repository.ofSuite s.withoutDisabled).steps } := rfl
    _ = (Repository.ofSuite s).withoutDisabled := by rw [hinfo, hsteps]; rfl

/-! ### Sweeping -/

mutual

/-- A result without those of the disabled steps of cases inside it, at every depth. -/
def StepResult.swept : StepResult → StepResult
  | .mk id label kind status retries message output =>
    .mk id label kind status retries message (sweptOutput output)

def sweptOutput : Option StepOutput → Option StepOutput
  | none => none
  | some output => some output.swept

def StepOutput.swept : StepOutput → StepOutput
  | .api log => .api log
  | .sql log => .sql log
  | .case results => .case (sweptCase results)
  | .foreach iterations => .foreach (sweptIterations iterations)

/-- The results of the steps of a case without those of disabled steps. -/
def sweptCase : List StepResult → List StepResult
  | [] => []
  | r :: results => if r.status = .disabled then sweptCase results else r.swept :: sweptCase results

/-- The results of the steps of a loop, of which none is left out. -/
def sweptAll : List StepResult → List StepResult
  | [] => []
  | r :: results => r.swept :: sweptAll results

def IterationResult.swept : IterationResult → IterationResult
  | .mk index status steps => .mk index status (sweptAll steps)

def sweptIterations : List IterationResult → List IterationResult
  | [] => []
  | i :: iterations => i.swept :: sweptIterations iterations

end

/-- The report without the results of disabled steps of cases, at every depth. -/
def CaseReport.swept (r : CaseReport) : CaseReport := { r with steps := sweptCase r.steps }

/-- Sweeping changes the results of loops one by one, and leaves out results of cases. -/
def Recast.sweeping : Recast := ⟨StepResult.swept, sweptCase⟩

theorem sweptCase_cons_of_disabled {r : StepResult} (h : r.status = .disabled) (results : List StepResult) :
    sweptCase (r :: results) = sweptCase results := by
  rw [sweptCase, if_pos h]

theorem sweptCase_cons {r : StepResult} (h : r.status ≠ .disabled) (results : List StepResult) :
    sweptCase (r :: results) = r.swept :: sweptCase results := by
  rw [sweptCase, if_neg h]

theorem sweptAll_eq_map (results : List StepResult) : sweptAll results = results.map StepResult.swept := by
  induction results with
  | nil => rfl
  | cons r results ih => rw [sweptAll, ih, List.map_cons]

theorem sweptIterations_eq_map (iterations : List IterationResult) :
    sweptIterations iterations = iterations.map (IterationResult.map StepResult.swept) := by
  induction iterations with
  | nil => rfl
  | cons i iterations ih =>
    cases i
    rw [sweptIterations, ih, List.map_cons, IterationResult.swept, sweptAll_eq_map, IterationResult.map]

theorem sweptOutput_eq_map (output : Option StepOutput) :
    sweptOutput output = output.map (StepOutput.recast .sweeping) := by
  rcases output with _ | ⟨log⟩ | ⟨log⟩ | ⟨results⟩ | ⟨iterations⟩
  · rfl
  · rfl
  · rfl
  · rfl
  · rw [sweptOutput, StepOutput.swept, sweptIterations_eq_map]
    rfl

namespace StepResult

@[simp] theorem status_swept (r : StepResult) : r.swept.status = r.status := by
  cases r
  rfl

@[simp] theorem isFailed_swept (r : StepResult) : r.swept.isFailed = r.isFailed := by
  unfold isFailed
  rw [status_swept]

theorem swept_stripped (r : StepResult) : r.stripped.swept = r.swept.stripped := by
  cases r
  rfl

theorem swept_of_output {r : StepResult} (h : r.output = none) : r.swept = r := by
  cases r
  cases h
  rfl

/-- Results are counted the same where disabled steps do not count. -/
theorem countP_swept {p : Status → Bool} (hp : p .disabled = false) (results : List StepResult) :
    (sweptCase results).countP (fun r => p r.status) = results.countP fun r => p r.status := by
  induction results with
  | nil => rfl
  | cons r results ih =>
    by_cases h : r.status = .disabled
    · rw [sweptCase_cons_of_disabled h, ih, List.countP_cons, h, hp]
      rfl
    · rw [sweptCase_cons h, List.countP_cons, List.countP_cons, ih, status_swept]

theorem overall_swept (results : List StepResult) : overall (sweptCase results) = overall results := by
  have hfailed : (sweptCase results).any isFailed = results.any isFailed := by
    induction results with
    | nil => rfl
    | cons r results ih =>
      by_cases h : r.status = .disabled
      · have hr : r.isFailed = false := by rw [isFailed, h]; rfl
        rw [sweptCase_cons_of_disabled h, ih, List.any_cons, hr, Bool.false_or]
      · rw [sweptCase_cons h, List.any_cons, List.any_cons, ih, isFailed_swept]
  unfold overall
  rw [hfailed]

end StepResult

namespace CaseReport

variable (r : CaseReport)

theorem enabled_swept : r.swept.enabled = r.enabled :=
  StepResult.countP_swept (p := (· != .disabled)) rfl r.steps

theorem succeeded_swept : r.swept.succeeded = r.succeeded :=
  StepResult.countP_swept (p := (· == .success)) rfl r.steps

theorem successRate_swept : r.swept.successRate = r.successRate := by
  unfold successRate
  rw [enabled_swept, succeeded_swept]

/-- What is left are the results of the enabled steps. -/
theorem total_swept : r.swept.total = r.enabled := by
  have hlength : ∀ results : List StepResult,
      (sweptCase results).length = results.countP fun r => r.status != .disabled := by
    intro results
    induction results with
    | nil => rfl
    | cons r results ih =>
      by_cases h : r.status = .disabled
      · rw [sweptCase_cons_of_disabled h, ih, List.countP_cons, h]
        rfl
      · have hr : (r.status != .disabled) = true := bne_iff_ne.mpr h
        rw [sweptCase_cons h, List.length_cons, ih, List.countP_cons, if_pos hr]
  exact hlength r.steps

end CaseReport

/-! ### States that differ in records -/

/-- The second state is the first one but for its records, in which there are the same calls. -/
structure RunState.Shadows {σ : Type} (s s' : RunState σ) : Prop where
  eq : s' = { s with journal := s'.journal, notices := s'.notices }
  calls : s'.calls = s.calls

namespace RunState.Shadows

variable {σ : Type} {s s' : RunState σ}

theorem refl (s : RunState σ) : Shadows s s := ⟨rfl, rfl⟩

theorem mirroring : Mirroring (@Shadows σ) where
  eq h := h.eq
  grow t entries notes h := by
    refine ⟨by rw [h.eq], Array.toList_inj.mp ?_⟩
    have hcalls := congrArg Array.toList h.calls
    simp only [RunState.calls, Array.toList_filterMap, Array.toList_append, List.filterMap_append] at hcalls ⊢
    rw [hcalls]
  reported r r' h := by
    refine ⟨?_, ?_⟩
    · rw [h.eq]
      rfl
    · rw [RunState.calls_recorded rfl, RunState.calls_recorded rfl, h.calls]

/-- What only the first run records makes no difference, unless it is a call. -/
theorem recorded (h : Shadows s s') {event : Event} (hcall : event.call? = none) :
    Shadows (s.recorded event) s' := by
  refine ⟨?_, ?_⟩
  · rw [h.eq]
    rfl
  · rw [RunState.calls_recorded hcall, h.calls]

theorem noted (h : Shadows s s') (n n' : Notice) : Shadows (s.noted n) (s'.noted n') := by
  refine ⟨?_, h.calls⟩
  rw [h.eq]
  rfl

end RunState.Shadows

/-! ### Two engines -/

namespace Engine

open Run (Mirrors Returns)
open RunState (Shadows)
open RunState.Shadows (mirroring)

variable {σ : Type} (e : Engine σ)

/-- The engine over a suite. -/
def serving (s : Suite) : Engine σ := { e with repository := .ofSuite s }

/-- The engine that leaves out the disabled steps of cases. -/
def withoutDisabled : Engine σ := { e with repository := e.repository.withoutDisabled }

theorem serving_withoutDisabled (s : Suite) : e.serving s.withoutDisabled = (e.serving s).withoutDisabled := by
  unfold serving withoutDisabled
  rw [Repository.ofSuite_withoutDisabled]

/-! What an enabled step comes to is not disabled. -/

theorem finish_enabled {step : Step} {r : StepResult} (h : r.status ≠ .disabled) :
    Returns (·.status ≠ .disabled) (e.finish step r) := by
  refine (finish_returns step r).mono fun r' hr' => ?_
  rcases hr' with rfl | ⟨rfl, -⟩
  · exact h
  · rwa [StepResult.status_stripped]

theorem attempts_enabled (nest : Nest σ) (step : Step) (label : String) (level : Nat) (index : Option Nat) :
    Returns (·.status ≠ .disabled) (e.attempts nest step label level index) := by
  have hattempted : ∀ a : Attempt, a.status ≠ .disabled := by
    intro a
    unfold Attempt.status
    split <;> exact Status.noConfusion
  unfold attempts
  exact .bind fun _ => .bind fun p => e.finish_enabled (hattempted p.1)

theorem executeWith_enabled (nest : Nest σ) (step : Step) (labels : String) (level : Nat) (index : Option Nat) :
    Returns (·.status ≠ .disabled) (e.executeWith nest step labels level index) := by
  unfold executeWith
  refine .bind fun halted => ?_
  split
  · refine .bind fun _ => .bind fun _ => ?_
    intro s r t hrun
    cases hrun
    unfold interrupted
    split <;> exact Status.noConfusion
  · split
    · exact e.attempts_enabled nest step _ level index
    · refine .bind fun _ => ?_
      split
      · exact e.attempts_enabled nest step _ level index
      · exact .bind fun _ => e.finish_enabled Status.noConfusion
      · refine .bind fun _ => (settle_returns _ _).mono fun r hr => ?_
        rw [hr]
        exact Status.noConfusion

theorem member_enabled (nest : Nest σ) (labels : String) (level : Nat) (index : Option Nat) {step : Step}
    (h : step.enabled = true) : Returns (·.status ≠ .disabled) (e.member nest labels level index step) := by
  unfold member
  rw [h]
  exact .bind fun _ => e.executeWith_enabled nest step labels _ index

/-! The two engines side by side. -/

theorem finish_shadows (step : Step) (r : StepResult) :
    Mirrors Shadows StepResult.swept (e.finish step r) (e.withoutDisabled.finish step r.swept) := by
  let kept (r : StepResult) := if e.options.onlyFailedLog && isSuppressed step r then r.stripped else r
  have hkept : kept r.swept = (kept r).swept := by
    have hsuppressed : isSuppressed step r.swept = isSuppressed step r := by
      unfold isSuppressed
      rw [StepResult.status_swept]
    show (if e.options.onlyFailedLog && isSuppressed step r.swept then r.swept.stripped else r.swept) =
      StepResult.swept (if e.options.onlyFailedLog && isSuppressed step r then r.stripped else r)
    rw [hsuppressed]
    split
    · exact r.swept_stripped.symm
    · rfl
  have hnote : (noteOutcome (kept r).swept : Run σ Unit) = noteOutcome (kept r) := by
    cases kept r
    rfl
  have hfinish : e.finish step r =
      noteOutcome (kept r) >>= fun _ => e.settle (kept r) Run.latchFailedStop := rfl
  have hfinish' : e.withoutDisabled.finish step r.swept =
      noteOutcome (kept r.swept) >>= fun _ => e.withoutDisabled.settle (kept r.swept) Run.latchFailedStop := rfl
  rw [hfinish, hfinish', hkept, hnote]
  exact .bind (mirroring.silent (noteOutcome_silent _)) fun _ =>
    mirroring.settle rfl StepResult.isFailed_swept rfl _ _ _

theorem swept_result (a : Attempt) (step : Step) (label : String) (n : Nat) :
    (a.result step label n).swept = (a.recast .sweeping).result step label n := by
  show StepResult.mk step.id label step.kind.name a.status _ a.message (sweptOutput a.output) = _
  rw [sweptOutput_eq_map]
  rfl

/-- Where the steps of a level are run alike, the disabled ones among those of a case may as well be left out. -/
theorem groupWith_shadows {e e' : Engine σ} {nest nest' : Nest σ} {labels : String} {level : Nat}
    {index : Option Nat}
    (hmember : ∀ step, Mirrors Shadows StepResult.swept (e.member nest labels level index step)
      (e'.member nest' labels level index step)) (steps : List Step) :
    Mirrors Shadows sweptCase (e.groupWith nest steps labels level index)
      (e'.groupWith nest' (steps.filter Step.enabled) labels level index) := by
  unfold groupWith
  rw [Step.inOrder_filter]
  induction Step.inOrder steps with
  | nil => exact .pure sweptCase []
  | cons step members ih =>
    cases henabled : step.enabled with
    | false =>
      have hleft : ¬step.enabled = true := by rw [henabled]; exact Bool.false_ne_true
      rw [List.filter_cons_of_neg hleft, List.mapM_cons, ← bind_pure (List.mapM _ (members.filter _))]
      intro s s' hs
      rw [Run.run_bind_of_ok (run_member_disabled nest labels level index henabled s)]
      refine Mirrors.bind ih (fun results => ?_) _ s' ((hs.recorded rfl).recorded rfl)
      have hdisabled : sweptCase (.bare step.id (labels ++ step.head.name) step.kind.name .disabled :: results) =
          sweptCase results := sweptCase_cons_of_disabled rfl results
      rw [← hdisabled]
      exact .pure sweptCase _
    | true =>
      rw [List.filter_cons_of_pos henabled, List.mapM_cons, List.mapM_cons]
      refine .bindOf (e.member_enabled nest labels level index henabled) (hmember step) fun r hr => ?_
      refine .bind ih fun results => ?_
      rw [← sweptCase_cons hr]
      exact .pure sweptCase _

theorem accords_withoutDisabled :
    mirroring.likeness.Accords .sweeping (List.filter Step.enabled) e e.withoutDisabled where
  ev := rfl
  config := rfl
  loopTree := rfl
  steps _ := rfl
  fits := ⟨trivial, trivial, trivial, trivial, trivial, trivial⟩
  isFailed := StepResult.isFailed_swept
  overall := StepResult.overall_swept
  patience := .inl rfl
  api head p label index := mirroring.converse (e.api_converses head p label index)
    (e.api_recast .sweeping head p label index)
  sql p label index := mirroring.converse (e.sql_converses p label index) (e.sql_recast .sweeping p label index)
  interrupted step label := mirroring.report (StepResult.swept_of_output (isPassedOver_interrupted step label).2)
  disabled step label := mirroring.report rfl
  undecided step label cause := by
    refine .bind (mirroring.silent (.note _ _)) fun _ => ?_
    exact mirroring.settle rfl StepResult.isFailed_swept rfl _ _ _
  unmet step label := e.finish_shadows step (unmet step label)
  finish step label a n := by
    rw [← swept_result]
    exact e.finish_shadows step (a.result step label n)
  members _ _ _ _ _ hmember := groupWith_shadows hmember

theorem runCase_shadows (caseId : CaseId) :
    Mirrors Shadows CaseReport.swept (e.runCase caseId) (e.withoutDisabled.runCase caseId) := by
  have hsteps : e.withoutDisabled.repository.steps caseId =
      (e.repository.steps caseId).map (List.filter Step.enabled) := rfl
  have hinfo : e.withoutDisabled.repository.caseInfo caseId = e.repository.caseInfo caseId := rfl
  unfold runCase
  rw [hsteps, hinfo]
  cases e.repository.caseInfo caseId with
  | error cause => exact fun _ _ h => ⟨rfl, h⟩
  | ok info =>
    refine .bind (mirroring.silent (.pure info)) fun info => ?_
    cases e.repository.steps caseId with
    | error cause => exact fun _ _ h => ⟨rfl, h⟩
    | ok steps =>
      -- The first notice counts the steps.
      refine .bind (f := List.filter Step.enabled) (.pure _ steps) fun steps => ?_
      refine .bind (f := id) (fun _ _ h => ⟨rfl, h.noted _ _⟩) fun _ => ?_
      refine .bind (e.accords_withoutDisabled.group 0 steps "" none).2 fun results => ?_
      refine .bind (mirroring.silent .status) fun status => ?_
      have hoverall : StepResult.overall (Recast.sweeping.all results) = StepResult.overall results :=
        StepResult.overall_swept results
      rw [id_eq, hoverall]
      exact .bind (mirroring.silent (.note _ _)) fun _ => .pure CaseReport.swept _

/-- Disabled steps are inert: without those of its cases, a suite is run with the same calls to the same end, with the
same scope and in the same status, and what is reported on a case is the same but for the results of the disabled steps
of cases, at every depth; among the statistics only the number of all steps tells the reports apart. -/
theorem disabled_steps_are_inert (suite : Suite) (caseId : CaseId) (s : RunState σ) :
    let full := ((e.serving suite).runCase caseId).run s
    let lean := ((e.serving suite.withoutDisabled).runCase caseId).run s
    lean.1 = full.1.map CaseReport.swept ∧ lean.2.calls = full.2.calls ∧ lean.2.scope = full.2.scope ∧
      lean.2.status = full.2.status ∧ lean.2.world = full.2.world ∧
      ∀ r : CaseReport, r.swept.status = r.status ∧ r.swept.enabled = r.enabled ∧
        r.swept.succeeded = r.succeeded ∧ r.swept.successRate = r.successRate ∧ r.swept.total = r.enabled := by
  intro full lean
  have hshadows := (e.serving suite).runCase_shadows caseId s s (.refl s)
  rw [← e.serving_withoutDisabled] at hshadows
  obtain ⟨hreport, hend⟩ := hshadows
  refine ⟨hreport, hend.calls, mirroring.scope hend, mirroring.status hend, mirroring.world hend, fun r => ?_⟩
  exact ⟨rfl, r.enabled_swept, r.succeeded_swept, r.successRate_swept, r.total_swept⟩

end Engine

end Casebook
