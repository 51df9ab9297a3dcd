import Casebook.Batch.Runner
import Casebook.Proofs.Run.Halting
import Mathlib.Data.List.Forall2

/-! Batches whose stop token is tripped: every case that is still to start is reported as
interrupted, without a call. -/
namespace Casebook

theorem Repository.ofSuite_caseInfo {suite : Suite} {id : CaseId} {info : CaseInfo}
    (h : (Repository.ofSuite suite).caseInfo id = .ok info) :
    ∃ c, suite.caseOf? id = some c ∧ c.info = info ∧ c.id = id := by
  simp only [Repository.ofSuite] at h
  cases hc : suite.caseOf? id with
  | none => simp [hc] at h
  | some c =>
    simp only [hc, Option.elim_some, Except.ok.injEq] at h
    exact ⟨c, rfl, h, by simpa using List.find?_some hc⟩

theorem Repository.ofSuite_of_caseOf? {suite : Suite} {id : CaseId} {c : Case}
    (h : suite.caseOf? id = some c) :
    (Repository.ofSuite suite).caseInfo id = .ok c.info ∧
      (Repository.ofSuite suite).steps id = .ok c.steps := by
  simp [Repository.ofSuite, h]

theorem Except.mapM_ok {ε α β : Type} {f : α → Except ε β} {as : List α} {bs : List β}
    (h : as.mapM f = .ok bs) : List.Forall₂ (fun a b => f a = .ok b) as bs := by
  induction as generalizing bs with
  | nil =>
    cases h
    exact .nil
  | cons a as ih =>
    rw [List.mapM_cons] at h
    cases ha : f a with
    | error e => rw [ha] at h; cases h
    | ok b =>
      cases has : as.mapM f with
      | error e => rw [ha, has] at h; cases h
      | ok bs' =>
        rw [ha, has] at h
        cases h
        exact .cons ha (ih has)

theorem exists_getElem?_of_forall₂ {α β : Type} {R : α → β → Prop} {as : List α} {bs : List β}
    (h : List.Forall₂ R as bs) {i : Nat} {x : α} (hx : as[i]? = some x) : ∃ y, bs[i]? = some y ∧ R x y := by
  obtain ⟨hi, rfl⟩ := List.getElem?_eq_some_iff.mp hx
  have hi' : i < bs.length := h.length_eq ▸ hi
  exact ⟨bs[i], List.getElem?_eq_getElem hi', h.get hi hi'⟩

namespace CasePlan

/-- Every case of a batch is admitted by itself. -/
theorem exists_ofId_of_mem {repository : Repository} {override : Option EnvId} {ids : List CaseId}
    {plans : List CasePlan} (h : ofIds repository override ids = .ok plans) {plan : CasePlan}
    (hplan : plan ∈ plans) : ∃ id, ofId repository override id = .ok plan := by
  unfold ofIds at h
  split at h
  · cases h
  · obtain ⟨i, hi⟩ := List.mem_iff_getElem?.mp hplan
    have hplans : List.Forall₂ (fun plan id => ofId repository override id = .ok plan) plans ids :=
      .flip (Except.mapM_ok h)
    obtain ⟨id, -, hid⟩ := exists_getElem?_of_forall₂ hplans hi
    exact ⟨id, hid⟩

/-- An admitted case is a case of the suite, and is to run in its own environment unless the settings name another. -/
theorem exists_case_of_ofId {suite : Suite} {override : Option EnvId} {id : CaseId} {plan : CasePlan}
    (h : ofId (.ofSuite suite) override id = .ok plan) :
    ∃ c, suite.caseOf? plan.info.id = some c ∧ plan.info = c.info ∧ override.or c.env = some plan.envId := by
  unfold ofId at h
  split at h
  · cases h
  · cases h
  · rename_i info hinfo
    obtain ⟨c, hc, rfl, rfl⟩ := Repository.ofSuite_caseInfo hinfo
    split at h
    · rename_i envId henv
      cases h
      exact ⟨c, hc, rfl, henv⟩
    · cases h

/-- Every admitted case is a case of the suite. -/
theorem exists_case_of_ofIds {suite : Suite} {override : Option EnvId} {ids : List CaseId}
    {plans : List CasePlan} (h : ofIds (.ofSuite suite) override ids = .ok plans) :
    ∀ plan ∈ plans, ∃ c, suite.caseOf? plan.info.id = some c := by
  intro plan hplan
  obtain ⟨id, hid⟩ := exists_ofId_of_mem h hplan
  obtain ⟨c, hc, -⟩ := exists_case_of_ofId hid
  exact ⟨c, hc⟩

end CasePlan

namespace BatchRunner

variable {σ : Type} (b : BatchRunner σ) {suite : Suite}

theorem run_runOne_tripped (hb : b.engine.repository = .ofSuite suite) {plan : CasePlan} {c : Case}
    (hc : suite.caseOf? plan.info.id = some c) {s : BatchState σ} (hs : s.run.tripped = true) :
    ∃ o t, (b.runOne plan).run s = (o, t) ∧ o.status = .interrupt ∧ t.run.tripped = true ∧
      t.run.calls = s.run.calls := by
  obtain ⟨hinfo, hsteps⟩ := Repository.ofSuite_of_caseOf? hc
  rw [← hb] at hinfo hsteps
  obtain ⟨report, t, hrun, hstatus, htripped, hcalls⟩ :=
    (b.engineOf plan).run_runCase_tripped hinfo hsteps (s := s.run.fresh (.withVars b.vars)) hs
  refine ⟨⟨plan.info.id, plan.info.name, report.status, none, some report⟩, { s with run := t }, ?_,
    hstatus, htripped,
    hcalls⟩
  unfold runOne
  simp only [StateT.run_bind, StateT.run_modifyGet]
  rw [hrun]
  rfl

theorem run_runMarked_tripped (hb : b.engine.repository = .ofSuite suite) {plan : CasePlan}
    {c : Case} (hc : suite.caseOf? plan.info.id = some c) {s : BatchState σ}
    (hs : s.run.tripped = true) :
    ∃ o t, (b.runMarked plan).run s = (o, t) ∧ o.status = .interrupt ∧ t.run.tripped = true ∧
      t.run.calls = s.run.calls := by
  obtain ⟨o, t, hrun, hstatus, htripped, hcalls⟩ :=
    b.run_runOne_tripped hb hc (s := s.marked plan.label none) hs
  refine ⟨o, t.marked plan.label (some o.status), ?_, hstatus, htripped, hcalls⟩
  unfold runMarked
  rw [StateT.run_bind]
  show ((b.runOne plan >>= _).run (s.marked plan.label none)) = _
  rw [StateT.run_bind, hrun]
  rfl

theorem run_runSerial_tripped (hb : b.engine.repository = .ofSuite suite) {plans : List CasePlan}
    (hplans : ∀ plan ∈ plans, ∃ c, suite.caseOf? plan.info.id = some c) {s : BatchState σ}
    (hs : s.run.tripped = true) :
    ∃ outcomes t, (b.runSerial plans).run s = (outcomes, t) ∧ outcomes.length = plans.length ∧
      (∀ o ∈ outcomes, o.status = .interrupt) ∧ t.run.calls = s.run.calls := by
  induction plans generalizing s with
  | nil => exact ⟨[], s, rfl, rfl, by simp, rfl⟩
  | cons plan plans ih =>
    obtain ⟨c, hc⟩ := hplans plan List.mem_cons_self
    obtain ⟨o, t, hrun, hstatus, htripped, hcalls⟩ := b.run_runMarked_tripped hb hc hs
    obtain ⟨os, u, hruns, hlength, hstatuses, hcalls'⟩ :=
      ih (fun plan hplan => hplans plan (List.mem_cons_of_mem _ hplan)) htripped
    refine ⟨o :: os, u, ?_, by simp [hlength], ?_, hcalls'.trans hcalls⟩
    · unfold runSerial at hruns ⊢
      rw [List.mapM_cons, StateT.run_bind, hrun]
      show ((plans.mapM b.runMarked >>= _).run t) = _
      rw [StateT.run_bind, hruns]
      rfl
    · intro o' ho'
      rcases List.mem_cons.mp ho' with rfl | ho'
      · exact hstatus
      · exact hstatuses o' ho'

/-- Halting is permanent and stops all new work, in every run of a case: once the run is halted it
stays halted, nothing starts, and every step that is reached is passed over.  Of a serial batch,
every case that starts after the stop token was tripped is interrupted, without a call. -/
theorem halting_is_permanent (b : BatchRunner σ) :
    (∀ (e : Engine σ) caseId s, (e.runCase caseId).HaltsForGood s) ∧
      ∀ suite ids before after, b.engine.repository = .ofSuite suite →
        CasePlan.ofIds b.engine.repository b.engine.config.envId ids = .ok (before ++ after) →
        ∀ s, ((b.runSerial before).run s).2.run.tripped = true →
          ∃ outcomes t,
            (b.runSerial (before ++ after)).run s =
              (((b.runSerial before).run s).1 ++ outcomes, t) ∧
            outcomes.length = after.length ∧ (∀ o ∈ outcomes, o.status = .interrupt) ∧
            t.run.calls = ((b.runSerial before).run s).2.run.calls := by
  refine ⟨fun e => e.runCase_haltsForGood, fun suite ids before after hb hplans s hs => ?_⟩
  rw [hb] at hplans
  have hfound : ∀ plan ∈ after, ∃ c, suite.caseOf? plan.info.id = some c := by
    intro plan hplan
    exact CasePlan.exists_case_of_ofIds hplans plan (List.mem_append_right _ hplan)
  obtain ⟨outcomes, t, hrun, hlength, hstatus, hcalls⟩ := b.run_runSerial_tripped hb hfound hs
  refine ⟨outcomes, t, ?_, hlength, hstatus, hcalls⟩
  unfold runSerial at hrun ⊢
  rw [List.mapM_append, StateT.run_bind]
  show ((after.mapM b.runMarked >>= _).run ((before.mapM b.runMarked).run s).2) = _
  rw [StateT.run_bind, hrun]
  rfl

/-! ### A database whose refusals trip the stop token -/

def refusing : Transport Unit where
  http _ w := (.quiet (some (.error .timeout)), w)
  connect _ w := (⟨.error (.connect "refused"), true, []⟩, w)
  execute _ _ w := (.quiet (.error .closed), w)
  close _ w := (.quiet (.ok ()), w)

def queryCase (id : CaseId) : Case :=
  ⟨id, "query", some 1,
    [.sql ⟨id, "ask", 0, true, .default, none⟩ ⟨"main", none, "select 1", none⟩]⟩

def twoQueries : Suite :=
  { Suite.empty with
    environments := [⟨1, "test", "", [("main", ⟨"sqlite", "", none⟩)]⟩]
    cases := [queryCase 1, queryCase 2] }

def queryPlan (id : CaseId) : CasePlan := ⟨(queryCase id).info, 1⟩

def queryRunner : BatchRunner Unit where
  engine := ⟨Template.evaluator, .ofSuite twoQueries, refusing, twoQueries.config,
    ⟨1, false, false⟩, 0⟩
  channel := ⟨fun _ _ => .ok .running, fun _ _ w => (.ok (), w)⟩
  save _ w := (.ok (), w)
  vars := []

/-- The stop token is tripped inside the first case; the second one is interrupted, and nothing more
is called. -/
theorem second_query_is_interrupted :
    queryRunner.engine.repository = .ofSuite twoQueries ∧
      CasePlan.ofIds queryRunner.engine.repository queryRunner.engine.config.envId [1, 2] =
        .ok ([queryPlan 1] ++ [queryPlan 2]) ∧
      ((queryRunner.runSerial [queryPlan 1]).run (.start ())).2.run.calls =
        #[.connect ⟨"sqlite", "", none⟩] ∧
      ((queryRunner.runSerial [queryPlan 1]).run (.start ())).2.run.tripped = true ∧
      ∃ outcomes t, (queryRunner.runSerial ([queryPlan 1] ++ [queryPlan 2])).run (.start ()) =
          (((queryRunner.runSerial [queryPlan 1]).run (.start ())).1 ++ outcomes, t) ∧
        outcomes.length = 1 ∧ (∀ o ∈ outcomes, o.status = .interrupt) ∧
        t.run.calls = ((queryRunner.runSerial [queryPlan 1]).run (.start ())).2.run.calls := by
  have htripped : ((queryRunner.runSerial [queryPlan 1]).run (.start ())).2.run.tripped = true := by
    decide +kernel
  have hplans :
      CasePlan.ofIds queryRunner.engine.repository queryRunner.engine.config.envId [1, 2] =
      .ok ([queryPlan 1] ++ [queryPlan 2]) := rfl
  refine ⟨rfl, hplans, by decide +kernel, htripped, ?_⟩
  exact (halting_is_permanent queryRunner).2 twoQueries [1, 2] [queryPlan 1] [queryPlan 2] rfl hplans
    (.start ()) htripped

end BatchRunner

end Casebook
