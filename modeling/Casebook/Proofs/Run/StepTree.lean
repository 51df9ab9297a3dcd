import Casebook.Proofs.Ordering
import Casebook.Proofs.Run.Cascade
import Casebook.Proofs.Run.Verdict

/-! The tree of results in the report on a case follows the steps: those of the case, those of the cases that it refers
to, and those of the loops in it. -/
namespace Casebook

/-! ### Steps in order -/

/-- A list has the steps of another in ascending order, and equal ones as they came. -/
structure Step.IsOrdering (steps ordered : List Step) : Prop where
  perm : ordered.Perm steps
  ascending : ordered.Pairwise fun a b => a.order ≤ b.order
  stable : ∀ order, (ordered.filter fun a => a.order == order) = steps.filter fun a => a.order == order

namespace Step

theorem isOrdering_inOrder (steps : List Step) : IsOrdering steps (inOrder steps) :=
  let h := isOrderedBy_mergeSort Step.order steps
  ⟨h.perm, h.ascending, h.stable⟩

/-- Steps that are left out leave the others in their order. -/
theorem inOrder_filter (p : Step → Bool) (steps : List Step) :
    inOrder (steps.filter p) = (inOrder steps).filter p :=
  (isOrderedBy_mergeSort Step.order (steps.filter p)).unique ((isOrderedBy_mergeSort Step.order steps).filter p)

end Step

/-! ### Lists inside results -/

/-- The lists of results directly inside an output. -/
def StepOutput.lists : StepOutput → List (List StepResult)
  | .api _ | .sql _ => []
  | .case results => [results]
  | .foreach iterations => iterations.map IterationResult.steps

theorem StepOutput.sizeOf_lists {output : StepOutput} {results : List StepResult} (h : results ∈ output.lists) :
    sizeOf results < sizeOf output := by
  cases output with
  | api | sql => cases h
  | case own =>
    rw [List.mem_singleton.mp h]
    simp
  | foreach iterations =>
    obtain ⟨i, hi, rfl⟩ := List.mem_map.mp h
    have hmem := List.sizeOf_lt_of_mem hi
    cases i with
    | mk index status steps =>
      simp only [IterationResult.mk.sizeOf_spec, StepOutput.foreach.sizeOf_spec, IterationResult.steps] at hmem ⊢
      omega

theorem StepResult.sizeOf_output {r : StepResult} {output : StepOutput} (h : r.output = some output) :
    sizeOf output < sizeOf r := by
  cases r with
  | mk id label kind status retries message own =>
    cases h
    simp only [StepResult.mk.sizeOf_spec, Option.some.sizeOf_spec]
    omega

/-! ### What results depict -/

/-- What the names of the steps around a step put before its own. -/
def labelsUnder (names : List String) : String := String.join (names.map (· ++ "-"))

theorem labelsUnder_append (names : List String) (name : String) :
    labelsUnder (names ++ [name]) = labelsUnder names ++ name ++ "-" := by
  simp [labelsUnder, String.join_append, String.append_assoc]

/-- A result has the id, the kind and the label of a step, and is disabled just where the step is. -/
structure StepResult.IsOf (names : List String) (step : Step) (r : StepResult) : Prop where
  stepId : r.stepId = step.id
  kind : r.kind = step.kind.name
  label : r.label = labelsUnder names ++ step.head.name
  status : r.status = .success ∨ r.status = .failed ∨ r.status = .skip ∨ r.status = .disabled
  disabled : r.status = .disabled ↔ step.enabled = false

theorem StepResult.IsOf.ofEnabled {names : List String} {step : Step} (henabled : step.enabled = true)
    {status : Status} (hstatus : status = .success ∨ status = .failed ∨ status = .skip) (retries : UInt32)
    (message : Option String) (output : Option StepOutput) :
    (StepResult.mk step.id (labelsUnder names ++ step.head.name) step.kind.name status retries message output).IsOf
      names step where
  stepId := rfl
  kind := rfl
  label := rfl
  status := by
    rcases hstatus with rfl | rfl | rfl <;> simp [StepResult.status]
  disabled := by
    rcases hstatus with rfl | rfl | rfl <;> simp [StepResult.status, henabled]

namespace Engine

open Run (Happens)

variable {σ : Type} (e : Engine σ)

/-- The steps of the body of a loop: its own ones, or else those of the stored tree. -/
def IsBody (id : StepId) (own body : List Step) : Prop :=
  own ≠ [] ∧ body = own ∨ own = [] ∧ ∃ tree, e.repository.loopTree id = .ok tree ∧ body = tree.steps

mutual

/-- Results depict steps under the names of the steps around them: there is one for each, in order. -/
inductive Depicts : List String → List Step → List StepResult → Prop where
  | mk {names : List String} {steps ordered : List Step} {results : List StepResult} :
    Step.IsOrdering steps ordered → List.Forall₂ (StepResult.IsOf names) ordered results →
    (∀ step r output, (step, r) ∈ ordered.zip results → r.output = some output →
      Shows (names ++ [step.head.name]) step output) →
    Depicts names steps results

/-- What a step left behind shows, for a step around others, what became of those. -/
inductive Shows : List String → Step → StepOutput → Prop where
  | api (names : List String) (head : StepHead) (p : ApiParams) (log : RequestLog) :
    Shows names (.api head p) (.api log)
  | sql (names : List String) (head : StepHead) (p : SqlParams) (log : SqlLog) :
    Shows names (.sql head p) (.sql log)
  | case {names : List String} (head : StepHead) {caseId : CaseId} {steps : List Step} {results : List StepResult} :
    e.repository.steps caseId = .ok steps → Depicts names steps results →
    Shows names (.caseRef head caseId) (.case results)
  | foreach {names : List String} (head : StepHead) (times : Json.Value) (breakCondition : Option String)
      {own body : List Step} {iterations : List IterationResult} :
    e.IsBody head.id own body →
    (∀ (k : Nat) i, iterations[k]? = some i →
      i.index = UInt64.ofNat k ∧ (i.status = .success ∨ i.status = .failed)) →
    (∀ i ∈ iterations, Depicts names body i.steps) →
    Shows names (.foreach head times breakCondition own) (.foreach iterations)

end

variable {e}

theorem isBody_of_loopBody {id : StepId} {own body : List Step} (h : e.loopBody id own = .ok body) :
    e.IsBody id own body := by
  unfold loopBody at h
  split at h
  case isTrue hempty =>
    cases htree : e.repository.loopTree id with
    | error cause =>
      rw [htree] at h
      cases h
    | ok tree =>
      rw [htree] at h
      cases h
      exact .inr ⟨List.isEmpty_iff.mp hempty, tree, htree, rfl⟩
  case isFalse hown =>
    cases h
    exact .inl ⟨fun hempty => hown (List.isEmpty_iff.mpr hempty), rfl⟩

theorem Attempt.status_or (a : Attempt) : a.status = .success ∨ a.status = .failed ∨ a.status = .skip := by
  unfold Attempt.status
  split <;> simp

theorem Verdict.isOf {names : List String} {level : Nat} {index : Option Nat} {s t : RunState σ} {step : Step}
    {r : StepResult} (h : e.Verdict (labelsUnder names) level index s t step r) : r.IsOf names step := by
  cases h with
  | disabled hdisabled => exact ⟨rfl, rfl, rfl, .inr (.inr (.inr rfl)), iff_of_true rfl hdisabled⟩
  | unstarted message henabled hstatus =>
    exact .ofEnabled henabled (.inr hstatus.symm) 0 message none
  | attempted n henabled hcomes => exact .ofEnabled henabled (Attempt.status_or _) _ _ _
  | stripped n henabled hpassed => exact .ofEnabled henabled (Attempt.status_or _) _ none none

theorem Iterated.index {bound : LoopBound} {breakCondition : Option String} {steps : List Step} {labels : String}
    {level : Nat} {iterations : List IterationResult} {fault : Option ResolutionError} {s t : RunState σ}
    (h : e.Iterated bound breakCondition steps labels level iterations fault s t) {k : Nat}
    {i : IterationResult} (hk : iterations[k]? = some i) : i.index = UInt64.ofNat k := by
  rw [(h.each k i hk).1]
  rfl

theorem Iterated.status {bound : LoopBound} {breakCondition : Option String} {steps : List Step} {labels : String}
    {level : Nat} {iterations : List IterationResult} {fault : Option ResolutionError} {s t : RunState σ}
    (h : e.Iterated bound breakCondition steps labels level iterations fault s t) {k : Nat}
    {i : IterationResult} (hk : iterations[k]? = some i) : i.status = StepResult.overall i.steps := by
  rw [(h.each k i hk).1]
  rfl

/-- What a group comes to depicts its steps. -/
theorem depicts_group (bound : Nat) {names : List String} {level : Nat} {index : Option Nat} {steps : List Step}
    {results : List StepResult} {s t : RunState σ} (hbound : sizeOf results < bound)
    (h : Happens (e.group steps (labelsUnder names) level index) results s t) : e.Depicts names steps results := by
  -- The induction is on the size of the results: the lists inside of an output are smaller.
  induction bound generalizing names level index steps results s t with
  | zero => exact absurd hbound (Nat.not_lt_zero _)
  | succ bound ih =>
    obtain ⟨u, v, -, hgroup, -⟩ := h
    have hverdicts := group_inversion hgroup
    refine .mk (Step.isOrdering_inOrder steps) (hverdicts.imp fun _ _ hverdict => hverdict.isOf) ?_
    intro step r output hmem houtput
    have hsmaller : ∀ inner ∈ output.lists, sizeOf inner < bound := by
      intro inner hinner
      have hlists := StepOutput.sizeOf_lists hinner
      have houtput := StepResult.sizeOf_output houtput
      have hresult := List.sizeOf_lt_of_mem (List.of_mem_zip hmem).2
      omega
    rcases List.forall₂_zip hverdicts hmem with _ | _ | ⟨n, henabled, hcomes⟩ | _
    · cases houtput
    · cases houtput
    · cases hcomes with
      | refused => cases houtput
      | api head p log hlog =>
        cases hlog.symm.trans houtput
        exact .api _ head p log
      | sql head p log hlog =>
        cases hlog.symm.trans houtput
        exact .sql _ head p log
      | case head hsteps hinner =>
        cases houtput
        rw [← labelsUnder_append] at hinner
        exact .case head hsteps (ih (hsmaller _ (by simp [StepOutput.lists])) hinner)
      | loop head hfirst hbound hsteps hloop hlast =>
        obtain ⟨-, iterations, fault, hiterated, rfl⟩ := loop_inversion hloop
        cases houtput
        refine .foreach head _ _ (isBody_of_loopBody hsteps) (fun k i hk => ⟨hiterated.index hk, ?_⟩) fun i hi => ?_
        · rw [hiterated.status hk, StepResult.overall]
          split <;> simp
        · obtain ⟨k, hk⟩ := List.getElem?_of_mem hi
          have hinner := (hiterated.each k i hk).2
          rw [← labelsUnder_append] at hinner
          exact ih (hsmaller _ (List.mem_map_of_mem hi)) hinner
    · cases houtput

/-- A disabled step is only reported. -/
theorem run_member_disabled (nest : Nest σ) (labels : String) (level : Nat) (index : Option Nat) {step : Step}
    (h : step.enabled = false) (s : RunState σ) :
    let r := StepResult.bare step.id (labels ++ step.head.name) step.kind.name .disabled
    (e.member nest labels level index step).run s =
      (.ok r, (s.recorded (.reached step.id (labels ++ step.head.name))).recorded (.reported r)) := by
  unfold member
  rw [h]
  rfl

/-- The tree of results in the report on a case depicts the steps of the case, and those of the cases and loops inside
of it; a disabled step causes no call and no change of the scope, wherever it stands. -/
theorem report_depicts_steps {caseId : CaseId} {s t : RunState σ} {report : CaseReport}
    (h : (e.runCase caseId).run s = (.ok report, t)) :
    (∃ steps, e.repository.steps caseId = .ok steps ∧ e.Depicts [] steps report.steps) ∧
      ∀ nest labels level index step, step.enabled = false → ∀ u : RunState σ, ∃ v,
        (e.member nest labels level index step).run u =
          (.ok (.bare step.id (labels ++ step.head.name) step.kind.name .disabled), v) ∧
        v.calls = u.calls ∧ v.scope = u.scope ∧ v.world = u.world := by
  constructor
  · obtain ⟨info, steps, results, u, v, hsteps, -, hgroup, -, rfl⟩ := runCase_inversion h
    exact ⟨steps, hsteps, depicts_group _ (Nat.lt_succ_self _) (.now hgroup)⟩
  · intro nest labels level index step hdisabled u
    refine ⟨_, run_member_disabled nest labels level index hdisabled u, ?_, rfl, rfl⟩
    rw [RunState.calls_recorded rfl, RunState.calls_recorded rfl]

/-! ### A loop in a case that another one refers to -/

def twiceNested : Suite :=
  { Suite.empty with
    cases := [
      ⟨1, "outer", some 1, [.caseRef ⟨1, "inner", 0, true, .default, none⟩ 2]⟩,
      ⟨2, "inner", some 1, [.foreach ⟨2, "twice", 0, true, .default, none⟩ (.number (.ofInt64 2)) none
        [.sql ⟨3, "ask", 0, false, .default, none⟩ ⟨"main", none, "select 1", none⟩]]⟩] }

def twiceNestedEngine : Engine Unit :=
  ⟨Template.evaluator, .ofSuite twiceNested, unasked, twiceNested.config, ⟨1, false, false⟩, 0⟩

/-- The step of the loop is disabled in both iterations. -/
theorem nested_loop_depicts_steps :
    ∃ report t, (twiceNestedEngine.runCase 1).run (.start .empty false ()) = (.ok report, t) ∧
      ((report.steps.flatMap StepResult.inner).flatMap StepResult.inner).map (fun r => (r.label, r.status)) =
        [("inner-twice-ask", .disabled), ("inner-twice-ask", .disabled)] ∧
      ∃ steps, twiceNestedEngine.repository.steps 1 = .ok steps ∧ twiceNestedEngine.Depicts [] steps report.steps := by
  have hlabels : ((twiceNestedEngine.runCase 1).run (.start .empty false ())).1.toOption.map (fun report =>
      ((report.steps.flatMap StepResult.inner).flatMap StepResult.inner).map fun r => (r.label, r.status)) =
        some [("inner-twice-ask", .disabled), ("inner-twice-ask", .disabled)] := by
    decide +kernel
  rcases hrun : (twiceNestedEngine.runCase 1).run (.start .empty false ()) with ⟨c | report, t⟩
  · rw [hrun] at hlabels
    cases hlabels
  · rw [hrun] at hlabels
    exact ⟨report, t, rfl, Option.some.inj hlabels, (report_depicts_steps hrun).1⟩

end Engine

end Casebook
