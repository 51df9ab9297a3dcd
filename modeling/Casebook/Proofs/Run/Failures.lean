import Casebook.Proofs.Run.FailureChain
import Casebook.Proofs.Run.StepTree

/-! Failures rise through the tree of results, and nothing else does: what is around a failure fails with it, and what
fails for no reason of its own has a failure in it. -/
namespace Casebook

/-! ### The status of results -/

namespace StepResult

theorem overall_eq_failed (results : List StepResult) :
    overall results = .failed ↔ ∃ r ∈ results, r.isFailed = true := by
  rw [← List.any_eq_true]
  unfold overall
  split <;> simp_all

theorem overall_ne_success (results : List StepResult) :
    overall results ≠ .success ↔ overall results = .failed := by
  unfold overall
  split <;> simp

/-- A failure directly inside of a result makes it fail. -/
def Rises (r : StepResult) : Prop := (∃ r' ∈ r.inner, r'.isFailed = true) → r.isFailed = true

end StepResult

/-! ### Trees of results -/

/-- All results, at any depth, have a property. -/
def Throughout (P : StepResult → Prop) (results : List StepResult) : Prop :=
  ∀ path r, resultAt results path = some r → P r

theorem Throughout.inner {P : StepResult → Prop} {results : List StepResult} (h : Throughout P results) {k : Nat}
    {r : StepResult} (hk : results[k]? = some r) : Throughout P r.inner := by
  intro path r' hpath
  cases path with
  | nil => cases hpath
  | cons l path => exact h (k :: l :: path) r' (Option.bind_eq_some_iff.mpr ⟨r, hk, hpath⟩)

/-- Where failures rise, a failure at any depth comes up to the outermost result around it. -/
theorem isFailed_outermost {results : List StepResult} (h : Throughout StepResult.Rises results) {k : Nat}
    {path : List Nat} {r' : StepResult} (hr' : resultAt results (k :: path) = some r') (hfailed : r'.isFailed = true) :
    ∃ r, results[k]? = some r ∧ r.isFailed = true := by
  induction path generalizing results k with
  | nil => exact ⟨r', hr', hfailed⟩
  | cons l path ih =>
    obtain ⟨r, hk, hinside⟩ := Option.bind_eq_some_iff.mp hr'
    obtain ⟨child, hl, hchild⟩ := ih (h.inner hk) hinside
    exact ⟨r, hk, h [k] r hk ⟨child, List.mem_of_getElem? hl, hchild⟩⟩

/-- Where failures rise, whatever is around a failure fails with it. -/
theorem isFailed_of_prefix {results : List StepResult} (h : Throughout StepResult.Rises results) {p q : List Nat}
    (hpq : p <+: q) {r r' : StepResult} (hr : resultAt results p = some r) (hr' : resultAt results q = some r')
    (hfailed : r'.isFailed = true) : r.isFailed = true := by
  induction p generalizing results q with
  | nil => cases hr
  | cons k p ih =>
    obtain ⟨q, rfl⟩ := hpq
    cases p with
    | nil =>
      obtain ⟨_, hk, houtermost⟩ := isFailed_outermost h hr' hfailed
      cases hr.symm.trans hk
      exact houtermost
    | cons l p =>
      obtain ⟨parent, hk, hr⟩ := Option.bind_eq_some_iff.mp hr
      obtain ⟨_, hk', hr'⟩ := Option.bind_eq_some_iff.mp hr'
      cases hk.symm.trans hk'
      exact ih (h.inner hk) ⟨q, rfl⟩ hr hr'

/-- Steps come to failures somewhere just if one of the outermost failed. -/
theorem overall_eq_failed_iff {results : List StepResult} (h : Throughout StepResult.Rises results) :
    StepResult.overall results = .failed ↔ ∃ path r, resultAt results path = some r ∧ r.isFailed = true := by
  rw [StepResult.overall_eq_failed]
  constructor
  · rintro ⟨r, hr, hfailed⟩
    obtain ⟨k, hk⟩ := List.getElem?_of_mem hr
    exact ⟨[k], r, hk, hfailed⟩
  · rintro ⟨path, r, hr, hfailed⟩
    cases path with
    | nil => cases hr
    | cons k path =>
      obtain ⟨parent, hk, hparent⟩ := isFailed_outermost h hr hfailed
      exact ⟨parent, List.mem_of_getElem? hk, hparent⟩

namespace Engine

open Run (Happens)

variable {σ : Type} (e : Engine σ)

/-! ### Steps inside of steps -/

/-- The steps among others, and those in the cases and loops inside of them. -/
inductive Contains (steps : List Step) : Step → Prop where
  | here {step : Step} : step ∈ steps → Contains steps step
  | case {head : StepHead} {caseId : CaseId} {inner : List Step} {step : Step} :
    Contains steps (.caseRef head caseId) → e.repository.steps caseId = .ok inner → step ∈ inner →
    Contains steps step
  | loop {head : StepHead} {times : Json.Value} {breakCondition : Option String} {own body : List Step}
      {step : Step} :
    Contains steps (.foreach head times breakCondition own) → e.IsBody head.id own body → step ∈ body →
    Contains steps step

/-- A result of one of the steps among others or inside of them, between two moments. -/
def Belongs (steps : List Step) (s t : RunState σ) (r : StepResult) : Prop :=
  ∃ labels level index step, e.Contains steps step ∧ e.Verdict labels level index s t step r

/-- A run of a loop: the step, the iteration that it stands in, its bound and body, and the states around it. -/
structure LoopRun (σ : Type) where
  head : StepHead
  times : Json.Value
  breakCondition : Option String
  own : List Step
  index : Option Nat
  bound : LoopBound
  body : List Step
  level : Nat
  first : RunState σ
  last : RunState σ

/-- Why a break condition has no answer at the end of a loop. -/
def LoopRun.BrokenBy (l : LoopRun σ) (iterations : List IterationResult) (cause : ResolutionError) : Prop :=
  e.BreaksDown l.bound l.breakCondition iterations.length l.last cause

/-- A result with iterations was left by a run of a loop among steps or inside of them, between two moments.  It failed
if an iteration failed or the break condition had no answer, which is then its message. -/
structure LeftBy (steps : List Step) (s t : RunState σ) (r : StepResult) (iterations : List IterationResult)
    (l : LoopRun σ) : Prop where
  contained : e.Contains steps (.foreach l.head l.times l.breakCondition l.own)
  stepId : r.stepId = l.head.id
  after : s.IsBefore l.first
  before : l.last.IsBefore t
  bound : LoopBound.resolve e.ev l.times l.first.scope l.index = .ok l.bound
  body : e.IsBody l.head.id l.own l.body
  run : (e.loop e.group l.head l.breakCondition l.bound l.body (r.label ++ "-") l.level).run l.first =
    (.ok ⟨!r.isFailed, r.message, r.output⟩, l.last)
  failed : r.isFailed = true ↔
    (∃ i ∈ iterations, i.status = .failed) ∨ ∃ cause, l.BrokenBy e iterations cause
  message : ∀ text, r.message = some text ↔
    ∃ cause, l.BrokenBy e iterations cause ∧ text = "[Foreach] break condition failed: " ++ cause.message

/-- The status of a result that holds others is accounted for by theirs. -/
structure Accounts (steps : List Step) (s t : RunState σ) (r : StepResult) : Prop where
  case : ∀ results, r.output = some (.case results) → (r.isFailed = true ↔ ∃ r' ∈ results, r'.isFailed = true)
  iteration : ∀ iterations, r.output = some (.foreach iterations) → ∀ i ∈ iterations,
    (i.status = .failed ↔ ∃ r' ∈ i.steps, r'.isFailed = true) ∧ (i.status ≠ .failed → i.status = .success)
  loop : ∀ iterations, r.output = some (.foreach iterations) → ∃ l, e.LeftBy steps s t r iterations l

variable {e} {steps : List Step} {s t : RunState σ}

theorem Happens.belongs {inner : List Step} {labels : String} {level : Nat} {index : Option Nat}
    {results : List StepResult} (h : Happens (e.group inner labels level index) results s t)
    (hinner : ∀ step ∈ inner, e.Contains steps step) : ∀ r ∈ results, e.Belongs steps s t r := by
  intro r hr
  obtain ⟨u, v, hu, hgroup, hv⟩ := h
  have hverdicts := group_inversion hgroup
  obtain ⟨k, hk, rfl⟩ := List.mem_iff_getElem.mp hr
  have hk' : k < (Step.inOrder inner).length := hverdicts.length_eq ▸ hk
  have hmem : (Step.inOrder inner)[k] ∈ inner :=
    (Step.isOrdering_inOrder inner).perm.mem_iff.mp (List.getElem_mem hk')
  exact ⟨_, _, _, _, hinner _ hmem, (hverdicts.get hk' hk).widen hu hv⟩

/-- What is directly inside of a result came of a group of steps inside of its step. -/
theorem Belongs.exists_group {r r' : StepResult} (h : e.Belongs steps s t r) (hr' : r' ∈ r.inner) :
    ∃ inner labels level index results, (∀ step ∈ inner, e.Contains steps step) ∧
      Happens (e.group inner labels level index) results s t ∧ r' ∈ results := by
  obtain ⟨labels, level, index, step, hstep, hverdict⟩ := h
  rcases hverdict with _ | _ | ⟨n, henabled, hcomes⟩ | _
  · cases hr'
  · cases hr'
  · cases hcomes with
    | refused => cases hr'
    | api head p log hlog =>
      rw [Attempt.inner_result, Attempt.inner, hlog] at hr'
      cases hr'
    | sql head p log hlog =>
      rw [Attempt.inner_result, Attempt.inner, hlog] at hr'
      cases hr'
    | case head hsteps hgroup =>
      exact ⟨_, _, _, _, _, fun step hmem => .case hstep hsteps hmem, hgroup, hr'⟩
    | loop head hfirst hbound hsteps hloop hlast =>
      obtain ⟨-, iterations, fault, hiterated, rfl⟩ := loop_inversion hloop
      obtain ⟨i, hi, hr'⟩ := List.mem_flatMap.mp hr'
      obtain ⟨k, hk⟩ := List.getElem?_of_mem hi
      have hgroup := (hiterated.each k i hk).2.widen hfirst hlast
      exact ⟨_, _, _, _, _, fun step hmem => .loop hstep (isBody_of_loopBody hsteps) hmem, hgroup, hr'⟩
  · cases hr'

theorem Belongs.inner {r r' : StepResult} (h : e.Belongs steps s t r) (hr' : r' ∈ r.inner) :
    e.Belongs steps s t r' := by
  obtain ⟨_, _, _, _, _, hinner, hgroup, hr'⟩ := h.exists_group hr'
  exact Happens.belongs hgroup hinner r' hr'

/-- What holds of the outermost results, and of all directly inside of others with them, holds throughout. -/
theorem throughout_of_inner {P : StepResult → Prop} (hinner : ∀ r r', P r → r' ∈ r.inner → P r')
    {results : List StepResult} (h : ∀ r ∈ results, P r) : Throughout P results := by
  intro path
  induction path generalizing results with
  | nil => exact nofun
  | cons k path ih =>
    intro r hr
    cases path with
    | nil => exact h r (List.mem_of_getElem? hr)
    | cons l path =>
      obtain ⟨parent, hk, hr⟩ := Option.bind_eq_some_iff.mp hr
      exact ih (fun r' hr' => hinner parent r' (h parent (List.mem_of_getElem? hk)) hr') r hr

theorem throughout_belongs {results : List StepResult} (h : ∀ r ∈ results, e.Belongs steps s t r) :
    Throughout (e.Belongs steps s t) results :=
  throughout_of_inner (fun _ _ => Belongs.inner) h

theorem Iterated.isFailed {bound : LoopBound} {breakCondition : Option String} {body : List Step} {labels : String}
    {level : Nat} {iterations : List IterationResult} {fault : Option ResolutionError}
    (h : e.Iterated bound breakCondition body labels level iterations fault s t) {i : IterationResult}
    (hi : i ∈ iterations) :
    (i.status = .failed ↔ ∃ r ∈ i.steps, r.isFailed = true) ∧
      (i.status ≠ .failed → i.status = .success) := by
  obtain ⟨k, hk⟩ := List.getElem?_of_mem hi
  rw [h.status hk]
  refine ⟨StepResult.overall_eq_failed i.steps, fun hfailed => ?_⟩
  by_contra hsuccess
  exact hfailed ((StepResult.overall_ne_success _).mp hsuccess)

/-- An attempt at a loop did not pass if an iteration failed or the break condition had no answer. -/
theorem Iterated.passed {bound : LoopBound} {breakCondition : Option String} {body : List Step} {labels : String}
    {level : Nat} {iterations : List IterationResult} {fault : Option ResolutionError}
    (h : e.Iterated bound breakCondition body labels level iterations fault s t) :
    (fault.isNone && iterations.all fun i => i.status == .success) = false ↔
      (∃ i ∈ iterations, i.status = .failed) ∨ ∃ cause, fault = some cause := by
  have hstatus : ∀ i ∈ iterations, i.status ≠ .success ↔ i.status = .failed := by
    intro i hi
    refine ⟨fun hsuccess => ?_, fun hfailed => by simp [hfailed]⟩
    by_contra hfailed
    exact hsuccess ((h.isFailed hi).2 hfailed)
  have hall : (iterations.all fun i => i.status == .success) = false ↔ ∃ i ∈ iterations, i.status = .failed := by
    rw [List.all_eq_false]
    simp only [beq_iff_eq]
    exact exists_congr fun i => and_congr_right fun hi => hstatus i hi
  cases fault with
  | none => simpa using hall
  | some cause => simp

/-- Nothing has to be accounted for where a result holds no others. -/
theorem Accounts.ofPlain {r : StepResult} (hcase : ∀ results, r.output ≠ some (.case results))
    (hloop : ∀ iterations, r.output ≠ some (.foreach iterations)) : e.Accounts steps s t r :=
  ⟨fun _ h => absurd h (hcase _), fun _ h => absurd h (hloop _), fun _ h => absurd h (hloop _)⟩

theorem Comes.accounts {labels : String} {level n : Nat} {index : Option Nat} {step : Step} {a : Attempt}
    (hstep : e.Contains steps step)
    (h : e.Comes (labels ++ step.head.name) (stepLevel step level) index s t step a) :
    e.Accounts steps s t (a.result step (labels ++ step.head.name) n) := by
  cases h with
  | refused => exact .ofPlain nofun nofun
  | api head p log hlog => exact .ofPlain (fun _ h => by cases hlog.symm.trans h) fun _ h => by cases hlog.symm.trans h
  | sql head p log hlog => exact .ofPlain (fun _ h => by cases hlog.symm.trans h) fun _ h => by cases hlog.symm.trans h
  | case head hsteps hgroup =>
    refine ⟨?_, nofun, nofun⟩
    rintro _ ⟨⟩
    rw [Attempt.isFailed_result, ← StepResult.overall_eq_failed, ← StepResult.overall_ne_success]
    simp
  | loop head hfirst hbound hsteps hloop hlast =>
    obtain ⟨-, iterations, fault, hiterated, rfl⟩ := loop_inversion hloop
    refine ⟨nofun, ?_, ?_⟩
    · rintro _ ⟨⟩ i hi
      exact hiterated.isFailed hi
    · rintro _ ⟨⟩
      rename_i times breakCondition own body bound u v
      refine ⟨⟨head, times, breakCondition, own, index, bound, body,
        stepLevel (.foreach head times breakCondition own) level, u, v⟩, hstep, rfl, hfirst, hlast, hbound,
        isBody_of_loopBody hsteps, ?_, ?_, ?_⟩
      · rw [Attempt.isFailed_result, Bool.not_not]
        exact hloop
      · rw [Attempt.isFailed_result, Bool.not_eq_true', hiterated.passed]
        exact or_congr_right (exists_congr hiterated.fault)
      · intro text
        show Option.map _ fault = some text ↔ _
        rw [Option.map_eq_some_iff]
        exact exists_congr fun cause => and_congr (hiterated.fault cause) eq_comm

theorem Belongs.accounts {r : StepResult} (h : e.Belongs steps s t r) : e.Accounts steps s t r := by
  obtain ⟨labels, level, index, step, hstep, hverdict⟩ := h
  cases hverdict with
  | disabled => exact .ofPlain nofun nofun
  | unstarted => exact .ofPlain nofun nofun
  | attempted n henabled hcomes => exact hcomes.accounts hstep
  | stripped => exact .ofPlain nofun nofun

theorem Accounts.rises {r : StepResult} (h : e.Accounts steps s t r) : r.Rises := by
  rintro ⟨r', hr', hfailed⟩
  unfold StepResult.inner at hr'
  cases houtput : r.output with
  | none =>
    rw [houtput] at hr'
    cases hr'
  | some output =>
    rw [houtput] at hr'
    cases output with
    | api | sql => cases hr'
    | case results => exact (h.case results houtput).mpr ⟨r', hr', hfailed⟩
    | foreach iterations =>
      obtain ⟨i, hi, hr'⟩ := List.mem_flatMap.mp hr'
      obtain ⟨l, hl⟩ := h.loop iterations houtput
      have hiteration := (h.iteration iterations houtput i hi).1.mpr ⟨r', hr', hfailed⟩
      exact hl.failed.mpr (.inl ⟨i, hi, hiteration⟩)

/-! ### Reports -/

/-- The report of a run between two states has no failure but those that there were, and all of them. -/
structure Reckons (s t : RunState σ) (steps : List Step) (report : CaseReport) : Prop where
  accounted : Throughout (e.Accounts steps s t) report.steps
  /-- Whatever is around a failure failed. -/
  risen : ∀ p q r r', resultAt report.steps p = some r → resultAt report.steps q = some r' → p <+: q →
    r'.isFailed = true → r.isFailed = true
  tripped : t.tripped = true → report.status = .interrupt
  latched : ∀ halt, t.tripped = false → t.latch = some halt → report.status = halt.status
  failed : t.isHalted = false →
    (report.status = .failed ↔ ∃ path r, resultAt report.steps path = some r ∧ r.isFailed = true)
  passed : t.isHalted = false →
    (report.status = .success ↔ ∀ path r, resultAt report.steps path = some r → r.isFailed = false)
  stopped : e.options.failedStop = true → report.status ≠ .failed

theorem reportOf_status {info : CaseInfo} {results : List StepResult} {u : RunState σ} :
    (e.reportOf info results u).status = if u.isHalted then u.status else StepResult.overall results := rfl

/-- No failure is swallowed, and none is invented. -/
theorem report_reckons_failures {caseId : CaseId} {report : CaseReport}
    (h : (e.runCase caseId).run s = (.ok report, t)) :
    ∃ steps, e.repository.steps caseId = .ok steps ∧ e.Reckons s t steps report := by
  obtain ⟨info, steps, results, u, v, hsteps, hfirst, hgroup, hlast, rfl⟩ := runCase_inversion h
  have hhappens : Happens (e.group steps "" 0 none) results s t := ⟨u, v, .quiet hfirst, hgroup, .quiet hlast⟩
  have haccounts : Throughout (e.Accounts steps s t) results := fun path r hr =>
    (throughout_belongs (Happens.belongs hhappens fun step hmem => .here hmem) path r hr).accounts
  have hrises : Throughout StepResult.Rises results := fun path r hr => (haccounts path r hr).rises
  have hstatus : v.status = t.status := by
    simp only [RunState.status, hlast.tripped, hlast.latch]
  have hhalted : v.isHalted = t.isHalted := by
    rw [RunState.isHalted, hstatus, RunState.isHalted]
  have hawake : t.isHalted = false → (e.reportOf info results v).status = StepResult.overall results := by
    intro ht
    rw [reportOf_status, hhalted, ht]
    rfl
  have hasleep : t.isHalted = true → (e.reportOf info results v).status = t.status := by
    intro ht
    rw [reportOf_status, hhalted, ht, hstatus]
    rfl
  refine ⟨steps, hsteps, haccounts, fun p q r r' hr hr' hpq => isFailed_of_prefix hrises hpq hr hr', ?_, ?_, ?_, ?_,
    ?_⟩
  · intro htripped
    rw [hasleep ((RunState.isHalted_iff t).mpr (.inl htripped)), RunState.status, htripped]
    rfl
  · intro halt htripped hlatch
    rw [hasleep ((RunState.isHalted_iff t).mpr (.inr (by simp [hlatch]))), RunState.status, htripped, hlatch]
    rfl
  · intro ht
    rw [hawake ht]
    exact overall_eq_failed_iff hrises
  · intro ht
    rw [hawake ht, ← not_iff_not, ← ne_eq, StepResult.overall_ne_success, overall_eq_failed_iff hrises]
    simp [reportOf]
  · intro hstop hfailed
    cases ht : t.isHalted with
    | true =>
      rw [hasleep ht] at hfailed
      rw [RunState.isHalted, hfailed] at ht
      cases ht
    | false =>
      have hcalm := (group_orders hstop 0 steps "" none u results v hgroup).calm (hhalted.trans ht)
      rw [hawake ht, overall_eq_failed_iff hrises] at hfailed
      obtain ⟨path, r, hr, hr'⟩ := hfailed
      have hnone : r.isFailed = false := hcalm path r hr
      rw [hnone] at hr'
      cases hr'

/-! ### A loop with a break condition that has no answer -/

def brokenLoop : Suite :=
  { Suite.empty with
    cases := [
      ⟨1, "outer", some 1, [.caseRef ⟨1, "inner", 0, true, .default, none⟩ 2]⟩,
      ⟨2, "inner", some 1, [.foreach ⟨2, "loop", 0, true, .default, none⟩
        (.number (.ofInt64 2)) (some "nonsense")
        [.sql ⟨3, "ask", 0, true, .default, none⟩ ⟨"main", none, "select 1", none⟩]]⟩] }

/-- No expression has a value. -/
def mute : Evaluator := ⟨fun text _ _ => .ok text, fun _ _ _ => .error .undefinedExpression⟩

def brokenLoopEngine : Engine Unit :=
  ⟨mute, .ofSuite brokenLoop, unasked, brokenLoop.config, ⟨1, false, false⟩, 0⟩

/-- The loop fails without an iteration, and the reference to its case and the case around it fail with it. -/
theorem broken_loop_reckons_failures :
    ∃ report t, (brokenLoopEngine.runCase 1).run (.start .empty false ()) = (.ok report, t) ∧
      (report.status, report.steps.map StepResult.status,
        (report.steps.flatMap StepResult.inner).map StepResult.status) = (.failed, [.failed], [.failed]) ∧
      ∃ steps, brokenLoopEngine.repository.steps 1 = .ok steps ∧
        brokenLoopEngine.Reckons (.start .empty false ()) t steps report := by
  have hstatus : ((brokenLoopEngine.runCase 1).run (.start .empty false ())).1.toOption.map (fun report =>
      (report.status, report.steps.map StepResult.status,
        (report.steps.flatMap StepResult.inner).map StepResult.status)) = some (.failed, [.failed], [.failed]) := by
    decide +kernel
  rcases hrun : (brokenLoopEngine.runCase 1).run (.start .empty false ()) with ⟨c | report, t⟩
  · rw [hrun] at hstatus
    cases hstatus
  · rw [hrun] at hstatus
    exact ⟨report, t, rfl, Option.some.inj hstatus, report_reckons_failures hrun⟩

end Engine

end Casebook
