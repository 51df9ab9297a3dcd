import Casebook.Proofs.Batch.Delivery
import Casebook.Proofs.Batch.HaltedBatch

/-! Batches in terms of the runs of single cases.  A batch on a pool is a run of the pool to its end; so with either
mode the outcomes are those of the cases in their order. -/
namespace Casebook

namespace BatchRunner

variable {σ : Type} (b : BatchRunner σ)

theorem run_bind {α β : Type} (x : BatchM σ α) (k : α → BatchM σ β) (s : BatchState σ) :
    (x >>= k).run s = (k (x.run s).1).run (x.run s).2 := rfl

/-- From states of a kind, every case has an outcome of a kind and leaves such a state. -/
structure Steady (I : BatchState σ → Prop) (Q : CasePlan → CaseOutcome → Prop) : Prop where
  runOne : ∀ plan s, I s → Q plan ((b.runOne plan).run s).1 ∧ I ((b.runOne plan).run s).2
  marked : ∀ label finished s, I s → I (s.marked label finished)
  noted : ∀ (n : Notice) s, I s → I { s with run := s.run.noted n }

variable {b} {I : BatchState σ → Prop} {Q : CasePlan → CaseOutcome → Prop}

/-! ### On a pool -/

/-- A pool that started with plans, and took in all messages that were sent; these have outcomes of a kind. -/
def Holds (workers : Nat) (plans : List CasePlan) (Q : CasePlan → CaseOutcome → Prop)
    (pool : Pool CasePlan CaseOutcome) : Prop :=
  pool.sent = [] ∧ ∃ events, Pool.Run workers (.ofJobs plans) events pool ∧
    ∀ m ∈ Pool.answersIn events, ∃ plan, plans[m.1]? = some plan ∧ Q plan m.2

variable {workers : Nat} {plans : List CasePlan} {pool : Pool CasePlan CaseOutcome} {s : BatchState σ}

theorem Holds.ofJobs : Holds workers plans Q (.ofJobs plans) := by
  refine ⟨rfl, [], .none _, fun m hm => ?_⟩
  rw [Pool.answersIn, List.filterMap_nil] at hm
  exact absurd hm List.not_mem_nil

theorem Holds.started (h : Holds workers plans Q pool) (hfree : pool.awaited < workers) {job : Nat × CasePlan}
    {rest : List (Nat × CasePlan)} (hpending : pool.pending = job :: rest) : Holds workers plans Q pool.started := by
  obtain ⟨hsent, events, hrun, hanswers⟩ := h
  refine ⟨?_, events ++ [.started job], .step hrun (.start hfree hpending), ?_⟩
  · rw [Pool.started_eq hpending]
    exact hsent
  · rw [Pool.answersIn_started]
    exact hanswers

/-- A worker sends the outcome of its case, and the master takes it in. -/
theorem Holds.delivered (h : Holds workers plans Q pool) (hfull : pool.IsFull workers) {place : Nat}
    {job : Nat × CasePlan} (hjob : pool.running[place]? = some job) {outcome : CaseOutcome} (hQ : Q job.2 outcome) :
    Holds workers plans Q (pool.answered place outcome).received ∧
      (pool.answered place outcome).received.running = pool.running.eraseIdx place ∧
      (pool.answered place outcome).received.pending = pool.pending ∧
      (pool.answered place outcome).received.awaited = pool.awaited - 1 := by
  obtain ⟨hsent, events, hrun, hanswers⟩ := h
  have hstands := Pool.Stands.ofRun hrun
  have hmem : job ∈ pool.running := List.mem_of_getElem? hjob
  have hawaited : pool.awaited ≠ 0 := by
    have hlength := List.length_pos_of_mem hmem
    have hcount := hstands.awaited_eq
    omega
  have hanswered := Pool.answered_eq hjob outcome
  have hmessage : (pool.answered place outcome).sent = [(job.1, outcome)] := by
    rw [hanswered, hsent]
    rfl
  have hreceive : Pool.Step workers (pool.answered place outcome) (.received (job.1, outcome))
      (pool.answered place outcome).received := by
    refine .receive ?_ ?_ hmessage
    · rw [hanswered]
      exact hfull
    · rw [hanswered]
      exact hawaited
  refine ⟨⟨?_, _, .step (.step hrun (.answer outcome hjob)) hreceive, ?_⟩, ?_⟩
  · rw [Pool.received_eq hmessage]
  · intro m hm
    rw [Pool.answersIn_received, Pool.answersIn_answered, List.mem_append, List.mem_singleton] at hm
    rcases hm with hm | rfl
    · exact hanswers m hm
    · exact ⟨job.2, hstands.getElem?_of_running hmem, hQ⟩
  · rw [Pool.received_eq hmessage, hanswered]
    exact ⟨rfl, rfl, rfl⟩

theorem handOut_holds (hsteady : b.Steady I Q) {free : Nat} (hfree : pool.awaited + free = workers)
    (h : Holds workers plans Q pool) (hI : I s) :
    let q := ((handOut free pool).run s).1
    Holds workers plans Q q ∧ q.IsFull workers ∧
      q.pending.length + q.running.length = pool.pending.length + pool.running.length ∧
      I ((handOut free pool).run s).2 := by
  induction free generalizing pool s with
  | zero => exact ⟨h, .inl (Nat.le_of_eq hfree.symm), rfl, hI⟩
  | succ free ih =>
    unfold handOut
    split
    case h_1 hpending => exact ⟨h, .inr hpending, rfl, hI⟩
    case h_2 position plan rest hpending =>
      have hstarted := Pool.started_eq hpending
      have hrest : pool.started.awaited + free = workers := by
        rw [hstarted]
        show pool.awaited + 1 + free = workers
        omega
      obtain ⟨hholds, hfull, hcount, hI⟩ :=
        ih hrest (h.started (by omega) hpending) (hsteady.marked plan.label none s hI)
      refine ⟨hholds, hfull, ?_, hI⟩
      rw [run_bind]
      refine hcount.trans ?_
      rw [hstarted, hpending]
      simp
      omega

/-- A pool with enough rounds comes to its end, where all messages were taken in. -/
theorem runPool_holds (hsteady : b.Steady I Q) (rounds : Nat) (schedule : List Nat)
    (hrounds : pool.pending.length + pool.running.length < rounds) (h : Holds workers plans Q pool) (hI : I s) :
    let q := ((b.runPool workers rounds schedule pool).run s).1
    Holds workers plans Q q ∧ q.HasEnded workers ∧ I ((b.runPool workers rounds schedule pool).run s).2 := by
  induction rounds generalizing schedule pool s with
  | zero => exact absurd hrounds (Nat.not_lt_zero _)
  | succ rounds ih =>
    have hbounded : pool.awaited + (workers - pool.awaited) = workers := by
      obtain ⟨-, events, hrun, -⟩ := h
      exact Nat.add_sub_cancel' (Pool.Stands.ofRun hrun).bounded
    obtain ⟨hholds, hfull, hcount, hI⟩ := handOut_holds hsteady hbounded h hI
    unfold runPool
    simp only [run_bind]
    generalize ((handOut (workers - pool.awaited) pool).run s).1 = q at hholds hfull hcount ⊢
    generalize ((handOut (workers - pool.awaited) pool).run s).2 = t at hI ⊢
    split
    case isTrue hawaited => exact ⟨hholds, ⟨hfull, hawaited⟩, hI⟩
    case isFalse hawaited =>
      split
      case h_1 hnone =>
        have hrunning : q.awaited = q.running.length := by
          obtain ⟨hsent, events, hrun, -⟩ := hholds
          rw [(Pool.Stands.ofRun hrun).awaited_eq, hsent]
          rfl
        have hplace : q.place (schedule.head?.getD 0) < q.running.length :=
          Nat.mod_lt _ (by omega)
        rw [List.getElem?_eq_getElem hplace] at hnone
        cases hnone
      case h_2 position plan hjob =>
        obtain ⟨hQ, hI⟩ := hsteady.runOne plan t hI
        simp only [run_bind]
        generalize (b.runOne plan).run t = result at hQ hI ⊢
        obtain ⟨hdelivered, hrunning, hpending, -⟩ := hholds.delivered hfull hjob hQ
        have hplace := (List.getElem?_eq_some_iff.mp hjob).1
        refine ih schedule.tail ?_ hdelivered (hsteady.marked _ _ _ hI)
        rw [hrunning, hpending, List.length_eraseIdx, if_pos hplace]
        omega

theorem workerCount_pos (config : RunConfig) (cases : Nat) : 0 < config.workerCount cases :=
  Nat.lt_of_lt_of_le Nat.zero_lt_one (Nat.le_max_left _ _)

/-- A batch on a pool returns the answers at the end of a run of the pool. -/
theorem runParallel_holds (hsteady : b.Steady I Q) (schedule : List Nat) (plans : List CasePlan) (hI : I s) :
    ∃ pool, Holds (b.engine.config.workerCount plans.length) plans Q pool ∧
      pool.HasEnded (b.engine.config.workerCount plans.length) ∧
      ((b.runParallel schedule plans).run s).1 = pool.answers ∧ I ((b.runParallel schedule plans).run s).2 := by
  have hrounds : (Pool.ofJobs plans : Pool CasePlan CaseOutcome).pending.length +
      (Pool.ofJobs plans : Pool CasePlan CaseOutcome).running.length < plans.length + 1 := by
    simp [Pool.ofJobs]
  have hnoted := hsteady.noted
    ⟨.info, "Worker pool size: " ++ toString (b.engine.config.workerCount plans.length)⟩ s hI
  obtain ⟨hholds, hended, hI⟩ := runPool_holds hsteady (plans.length + 1) schedule hrounds .ofJobs hnoted
  exact ⟨_, hholds, hended, rfl, hI⟩

/-- The answers at the end of a pool are outcomes of the cases in their order. -/
theorem Holds.outcomes (h : Holds workers plans Q pool) (hworkers : 0 < workers) (hended : pool.HasEnded workers) :
    List.Forall₂ Q plans pool.answers := by
  obtain ⟨-, events, hrun, hanswers⟩ := h
  obtain ⟨hlength, hsent⟩ := (Pool.delivers hworkers hrun).answers hended
  refine List.forall₂_iff_get.mpr ⟨hlength.symm, fun i hplan hanswer => ?_⟩
  obtain ⟨plan, hposition, hQ⟩ := hanswers (i, _) ((hsent i _).mp (List.getElem?_eq_getElem hanswer))
  rw [List.getElem?_eq_getElem hplan] at hposition
  cases hposition
  exact hQ

/-! ### In both modes -/

theorem runSerial_outcomes (hsteady : b.Steady I Q) (plans : List CasePlan) (hI : I s) :
    List.Forall₂ Q plans ((b.runSerial plans).run s).1 ∧ I ((b.runSerial plans).run s).2 := by
  unfold runSerial
  induction plans generalizing s with
  | nil => exact ⟨.nil, hI⟩
  | cons plan plans ih =>
    have hstarted := hsteady.marked plan.label none s hI
    obtain ⟨hQ, hdone⟩ := hsteady.runOne plan _ hstarted
    have hfinished := hsteady.marked plan.label (some ((b.runOne plan).run (s.marked plan.label none)).1.status) _ hdone
    obtain ⟨hrest, hI⟩ := ih hfinished
    rw [List.mapM_cons]
    exact ⟨.cons hQ hrest, hI⟩

/-- In either mode there is one outcome for each case, in order. -/
theorem runPlans_outcomes (hsteady : b.Steady I Q) (mode : BatchMode) (schedule : List Nat) (plans : List CasePlan)
    (hI : I s) :
    List.Forall₂ Q plans ((b.runPlans mode schedule plans).run s).1 ∧
      I ((b.runPlans mode schedule plans).run s).2 := by
  cases mode with
  | serial => exact runSerial_outcomes hsteady plans hI
  | parallel =>
    obtain ⟨pool, hholds, hended, hanswers, hI⟩ := runParallel_holds hsteady schedule plans hI
    exact ⟨hanswers ▸ hholds.outcomes (workerCount_pos _ _) hended, hI⟩

variable (b) in
/-- Of any state at all, a case has an outcome that it has in some state. -/
theorem steady_anyhow : b.Steady (fun _ => True) fun plan o => ∃ s, ((b.runOne plan).run s).1 = o :=
  ⟨fun _ s _ => ⟨⟨s, rfl⟩, trivial⟩, fun _ _ _ _ => trivial, fun _ _ _ => trivial⟩

theorem length_runSerial (plans : List CasePlan) (s : BatchState σ) :
    ((b.runSerial plans).run s).1.length = plans.length :=
  (runSerial_outcomes b.steady_anyhow plans (s := s) trivial).1.length_eq.symm

theorem eq_map_of_forall₂ {o : CasePlan → CaseOutcome} {outcomes : List CaseOutcome}
    (h : List.Forall₂ (fun plan outcome => outcome = o plan) plans outcomes) : outcomes = plans.map o := by
  induction h with
  | nil => rfl
  | cons hhead _ ih => rw [hhead, ih, List.map_cons]

variable (b)

/-- A batch on a pool loses, doubles and misplaces nothing, whatever order its cases are done in. -/
structure PoolsSafely (plans : List CasePlan) : Prop where
  workers : b.engine.config.workerCount plans.length = max 1 (min plans.length b.engine.config.maxWorkers.toNat)
  reachable : ∀ events pool, Pool.Run (b.engine.config.workerCount plans.length) (.ofJobs plans) events pool →
    Pool.Delivers (β := CaseOutcome) (b.engine.config.workerCount plans.length) plans events pool
  /-- Whatever the schedule, the batch is a run to the end. -/
  ends : ∀ schedule s, ∃ events pool,
    Pool.Run (b.engine.config.workerCount plans.length) (.ofJobs plans) events pool ∧
    pool.HasEnded (b.engine.config.workerCount plans.length) ∧
    ((b.runParallel schedule plans).run s).1 = pool.answers ∧
    ∀ m ∈ Pool.answersIn events, ∃ plan t, plans[m.1]? = some plan ∧ ((b.runOne plan).run t).1 = m.2
  /-- With the outcomes of a serial batch, the batch returns what that returns. -/
  serial : ∀ s events pool, Pool.Run (b.engine.config.workerCount plans.length) (.ofJobs plans) events pool →
    pool.HasEnded (b.engine.config.workerCount plans.length) →
    (∀ i o, (i, o) ∈ Pool.answersIn events → ((b.runSerial plans).run s).1[i]? = some o) →
    pool.answers = ((b.runSerial plans).run s).1
  /-- Where the outcomes of cases depend on nothing else, both modes return them in order. -/
  steady : ∀ I o, b.Steady I (fun plan outcome => outcome = o plan) → ∀ schedule s t, I s → I t →
    ((b.runParallel schedule plans).run s).1 = plans.map o ∧ ((b.runSerial plans).run t).1 = plans.map o

theorem pool_loses_nothing (plans : List CasePlan) : b.PoolsSafely plans where
  workers := rfl
  reachable events pool hrun := Pool.delivers (workerCount_pos _ _) hrun
  ends schedule s := by
    obtain ⟨pool, ⟨-, events, hrun, hanswers⟩, hended, hresult, -⟩ :=
      runParallel_holds b.steady_anyhow schedule plans (s := s) trivial
    refine ⟨events, pool, hrun, hended, hresult, fun m hm => ?_⟩
    obtain ⟨plan, hplan, t, houtcome⟩ := hanswers m hm
    exact ⟨plan, t, hplan, houtcome⟩
  serial s events pool hrun hended hsame :=
    (Pool.delivers (workerCount_pos _ _) hrun).listed hended _ (length_runSerial plans s) hsame
  steady I o hsteady schedule s t hs ht :=
    ⟨eq_map_of_forall₂ (runPlans_outcomes hsteady .parallel schedule plans hs).1,
      eq_map_of_forall₂ (runSerial_outcomes hsteady plans ht).1⟩

/-- Of two cases on two workers the second one is done first, and the stop token is tripped in it; the outcomes are in
the order of the request. -/
theorem second_case_is_done_first :
    (((queryRunner.runParallel [1] [queryPlan 1, queryPlan 2]).run (.start ())).1.map fun outcome =>
        (outcome.caseId, outcome.report.map fun report => report.steps.map StepResult.status)) =
      [(1, some [.skip]), (2, some [.failed])] ∧
    queryRunner.PoolsSafely [queryPlan 1, queryPlan 2] :=
  ⟨by decide +kernel, queryRunner.pool_loses_nothing _⟩

end BatchRunner

end Casebook
