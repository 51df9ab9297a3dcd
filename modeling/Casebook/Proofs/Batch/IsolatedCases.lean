import Casebook.Proofs.Batch.Admitted
import Casebook.Proofs.Run.Isolation

/-! Cases of one batch share the stop token and the outside world, and nothing else.  Where the token is left alone and
the outside world has no memory, every case comes to what it comes to in a batch of its own.

Two transports are compared, since the calls of cases that run side by side come in between each other: to one of these
cases the others do no more than change the state of its transport, which still gives the same answers. -/
namespace Casebook

/-- What becomes of a case whose run came to a report, or was aborted. -/
def CasePlan.outcome (plan : CasePlan) : Except Abort CaseReport → CaseOutcome
  | .ok report => ⟨plan.info.id, plan.info.name, report.status, none, some report⟩
  | .error cause => ⟨plan.info.id, plan.info.name, .failed, some cause.message, none⟩

/-- A case is admitted as in a batch of its own. -/
theorem CasePlan.ofIds_alone {repository : Repository} {override : Option EnvId} {ids : List CaseId}
    {plans : List CasePlan} (h : ofIds repository override ids = .ok plans) :
    List.Forall₂ (fun id plan => ofIds repository override [id] = .ok [plan]) ids plans := by
  unfold ofIds at h
  split at h
  · cases h
  · refine (Except.mapM_ok h).imp fun id plan hid => ?_
    rw [ofIds, List.mapM_cons, hid]
    rfl

namespace BatchRunner

variable {σ : Type} (b : BatchRunner σ)

/-- The runner with another transport. -/
def within (t : Transport σ) : BatchRunner σ := { b with engine := b.engine.within t }

/-- The stop token was not tripped so far. -/
def Untripped (s : BatchState σ) : Prop := s.run.tripped = false

/-- The run of a case in a batch. -/
def caseRun (plan : CasePlan) (s : BatchState σ) : Except Abort CaseReport × RunState σ :=
  ((b.engineOf plan).runCase plan.info.id).run (s.run.fresh (.withVars b.vars))

theorem outcome_runOne (plan : CasePlan) (s : BatchState σ) :
    ((b.runOne plan).run s).1 = plan.outcome (b.caseRun plan s).1 := by
  show ((match (b.caseRun plan s).1 with | .ok _ => _ | .error _ => _ : BatchM σ CaseOutcome).run _).1 = _
  cases (b.caseRun plan s).1 <;> rfl

theorem tripped_runOne (plan : CasePlan) (s : BatchState σ) :
    ((b.runOne plan).run s).2.run.tripped = (b.caseRun plan s).2.tripped := by
  show ((match (b.caseRun plan s).1 with | .ok _ => _ | .error _ => _ : BatchM σ CaseOutcome).run _).2.run.tripped = _
  cases (b.caseRun plan s).1 <;> rfl

theorem world_runOne (plan : CasePlan) (s : BatchState σ) :
    ((b.runOne plan).run s).2.run.world = (b.caseRun plan s).2.world := by
  show ((match (b.caseRun plan s).1 with | .ok _ => _ | .error _ => _ : BatchM σ CaseOutcome).run _).2.run.world = _
  cases (b.caseRun plan s).1 <;> rfl

/-- What a case comes to in any batch whose stop token is left alone, with any transport that gives such answers. -/
def ComesTo (a : Answers) (plan : CasePlan) (o : CaseOutcome) : Prop :=
  ∀ t s, t.Gives a → Untripped s → (((b.within t).runOne plan).run s).1 = o

variable {b} {a : Answers} {s s' : BatchState σ}

/-- The run of a case starts with nothing of what was before but the stop token and the world. -/
theorem caseRun_agrees (h : b.engine.transport.Gives a) {t : Transport σ} (h' : t.Gives a) (plan : CasePlan)
    (hs : Untripped s) (hs' : Untripped s') :
    ((b.within t).caseRun plan s').1 = (b.caseRun plan s).1 ∧ (b.caseRun plan s).2.tripped = false := by
  have hfresh : (s.run.fresh (.withVars b.vars)).Alike (s'.run.fresh (.withVars b.vars)) := ⟨rfl, rfl, rfl, hs, hs'⟩
  obtain ⟨hr, ht⟩ := Engine.runCase_agrees (e := b.engineOf plan) h h' plan.info.id _ _ hfresh trivial trivial
  rw [Except.map_id] at hr
  exact ⟨hr, ht.untripped⟩

theorem steady_of_gives (h : b.engine.transport.Gives a) : b.Steady Untripped (b.ComesTo a) where
  runOne plan s hs := by
    refine ⟨fun t s' h' hs' => ?_, ?_⟩
    · rw [outcome_runOne, outcome_runOne, (caseRun_agrees h h' plan hs hs').1]
    · exact (b.tripped_runOne plan s).trans (caseRun_agrees h h plan hs hs).2
  marked _ _ _ hs := hs
  noted _ _ hs := hs

/-- A case in a batch of its own. -/
theorem runPlans_singleton {t : Transport σ} (h : t.Gives a) {plan : CasePlan} {o : CaseOutcome}
    (ho : b.ComesTo a plan o) (mode : BatchMode) (schedule : List Nat) (hs : Untripped s) :
    (((b.within t).runPlans mode schedule [plan]).run s).1 = [o] := by
  have houtcomes := (runPlans_outcomes (steady_of_gives (b := b.within t) h) mode schedule [plan] hs).1
  generalize (((b.within t).runPlans mode schedule [plan]).run s).1 = outcomes at houtcomes ⊢
  cases houtcomes with
  | cons hhead hrest =>
    cases hrest
    -- Both outcomes are that of the case from the state at hand.
    rw [← hhead t s h hs]
    exact congrArg (fun o => [o]) (ho t s h hs)

/-! ### Whole batches -/

/-- A part of a batch leaves the stop token alone, and comes to a value with a property. -/
def Yields {α : Type} (P : α → Prop) (x : BatchM σ α) : Prop :=
  ∀ s, Untripped s → P (x.run s).1 ∧ Untripped (x.run s).2

variable (b) in
/-- A batch came to a report of outcomes with a property, unless the status of the user or the reports could not be
written, or there is no time between two looks at the status. -/
def Reports (P : List CaseOutcome → Prop) : Except BatchError BatchReport → Prop
  | .ok report => P report.outcomes
  | .error (.status _) => True
  | .error (.save _) => True
  | .error .pollInterval => b.engine.config.pollInterval? = none
  | .error _ => False

section

variable {P : List CaseOutcome → Prop} {mode : BatchMode} {schedule : List Nat} {plans : List CasePlan}

theorem Ends.reports {user : String} {warning : Option String} {s : BatchState σ}
    {p : Except BatchError BatchReport × BatchState σ} (h : b.Ends user mode schedule plans warning s p)
    (hplans : Yields P (b.runPlans mode schedule plans)) (hs : Untripped s) : b.Reports P p.1 ∧ Untripped p.2 := by
  cases h with
  | unannounced _ ht => exact ⟨trivial, ht.tripped.trans hs⟩
  | untimed _ hnone ht => exact ⟨hnone, ht.tripped.trans hs⟩
  | @ran t u v outcomes saved w _ _ ht hrun _ hv _ =>
    obtain ⟨houtcomes, hu⟩ := hplans t (ht.tripped.trans hs)
    rw [hrun] at houtcomes hu
    refine ⟨?_, hv.tripped.trans hu⟩
    cases saved with
    | ok _ => exact houtcomes
    | error cause => trivial

theorem runBatch_reports {ids : List CaseId}
    (hids : CasePlan.ofIds b.engine.repository b.engine.config.envId ids = .ok plans)
    (hplans : Yields P (b.runPlans mode schedule plans)) (user : String) :
    Yields (b.Reports P) (b.runBatch user ids mode schedule) := by
  intro s hs
  obtain ⟨t, ht, hends⟩ := b.runBatch_ends hids user mode schedule s
  exact hends.reports hplans (ht.tripped.trans hs)

end

/-- A batch of one runner and a batch of one of its cases, on another runner with the same suite and settings. -/
structure Isolates (b b' : BatchRunner σ) : Prop where
  /-- In either mode and with any schedule, the outcome of a case is that of the case alone. -/
  plans : ∀ mode schedule (plans : List CasePlan) s, Untripped s → ∀ (i : Nat) plan, plans[i]? = some plan →
    ∃ o, ((b.runPlans mode schedule plans).run s).1[i]? = some o ∧
      ∀ mode' schedule' s', Untripped s' → ((b'.runPlans mode' schedule' [plan]).run s').1 = [o]
  /-- In the report of a batch, the outcome of a case is that in the report of a batch of its own. -/
  batches : ∀ user (ids : List CaseId) mode schedule s report, Untripped s →
    ((b.runBatch user ids mode schedule).run s).1 = .ok report → ∀ (i : Nat) id, ids[i]? = some id →
      ∃ o, report.outcomes[i]? = some o ∧ ∀ user' mode' schedule' s', Untripped s' →
        b'.Reports (· = [o]) ((b'.runBatch user' [id] mode' schedule').run s').1

theorem cases_are_isolated {t : Transport σ} (h : b.engine.transport.Gives a) (h' : t.Gives a) :
    b.Isolates (b.within t) where
  plans mode schedule plans s hs i plan hplan := by
    obtain ⟨houtcomes, -⟩ := runPlans_outcomes (steady_of_gives h) mode schedule plans hs
    obtain ⟨o, ho, hcomes⟩ := exists_getElem?_of_forall₂ houtcomes hplan
    exact ⟨o, ho, fun mode' schedule' s' hs' => runPlans_singleton h' hcomes mode' schedule' hs'⟩
  batches user ids mode schedule s report hs hreport i id hid := by
    cases hids : CasePlan.ofIds b.engine.repository b.engine.config.envId ids with
    | error fault =>
      unfold runBatch at hreport
      rw [hids] at hreport
      cases hreport
    | ok plans =>
      have hplans : Yields (List.Forall₂ (b.ComesTo a) plans) (b.runPlans mode schedule plans) :=
        fun s hs => runPlans_outcomes (steady_of_gives h) mode schedule plans hs
      have houtcomes := (runBatch_reports hids hplans user s hs).1
      rw [hreport] at houtcomes
      obtain ⟨plan, hplan, halone⟩ := exists_getElem?_of_forall₂ (CasePlan.ofIds_alone hids) hid
      obtain ⟨o, ho, hcomes⟩ := exists_getElem?_of_forall₂ houtcomes hplan
      refine ⟨o, ho, fun user' mode' schedule' s' hs' => ?_⟩
      have hsingle : Yields (fun outcomes => outcomes = [o]) ((b.within t).runPlans mode' schedule' [plan]) :=
        fun s hs => ⟨runPlans_singleton h' hcomes mode' schedule' hs,
          (runPlans_outcomes (steady_of_gives (b := b.within t) h') mode' schedule' [plan] hs).2⟩
      exact (runBatch_reports (b := b.within t) halone hsingle user' s' hs').1

/-! ### A case that breaks down, one that is latched, and one that passes -/

def mixedSuite : Suite :=
  { Suite.empty with
    config := { RunConfig.default with failedStop := true }
    environments := [⟨1, "test", "", [("down", ⟨"none", "", none⟩), ("main", ⟨"sqlite", "", none⟩)]⟩]
    cases := [
      ⟨1, "breaks down", some 1,
        [.api ⟨1, "get", 0, true, .default, none⟩ { ApiParams.new "GET" "/" with host := some "http://a.test" }]⟩,
      ⟨2, "is latched", some 1, [.sql ⟨2, "ask", 0, true, .default, none⟩ ⟨"down", none, "select 1", none⟩]⟩,
      ⟨3, "passes", some 1, [.sql ⟨3, "ask", 0, true, .default, none⟩ ⟨"main", none, "select 1", some "row"⟩]⟩] }

/-- Every request breaks the transport down, and only one kind of database answers. -/
def mixedAnswers : Answers where
  http _ := none
  connect target := if target.driver = "sqlite" then .ok () else .error (.connect "refused")
  execute _ _ := .ok []
  close _ statement := if statement.isSome then .ok () else .error .closed

def mixedRunner : BatchRunner (Option String × Nat) where
  engine := ⟨Template.evaluator, .ofSuite mixedSuite, mixedAnswers.transport (· + 1), mixedSuite.config,
    ⟨1, false, false⟩, 0⟩
  channel := ⟨fun _ _ => .ok .running, fun _ _ w => (.ok (), w)⟩
  save _ w := (.ok (), w)
  vars := []

def mixedPlans : List CasePlan := mixedSuite.cases.map fun c => ⟨c.info, 1⟩

/-- On three workers that are done in another order, the panic of the first case and the latch of the second one leave
the third one to pass, as it does alone. -/
theorem mixed_cases_are_isolated :
    CasePlan.ofIds mixedRunner.engine.repository mixedRunner.engine.config.envId [1, 2, 3] = .ok mixedPlans ∧
    ((mixedRunner.runPlans .parallel [2, 0] mixedPlans).run (.start (none, 0))).1.map CaseOutcome.status =
      [.failed, .failedStop, .success] ∧
    (((mixedRunner.within (mixedAnswers.transport id)).runPlans .serial [] (mixedPlans.drop 2)).run
      (.start (none, 7))).1.map CaseOutcome.status = [.success] ∧
    mixedRunner.engine.transport.Gives mixedAnswers ∧ (mixedAnswers.transport id).Gives mixedAnswers ∧
    mixedRunner.Isolates (mixedRunner.within (mixedAnswers.transport id)) := by
  have hgives : mixedRunner.engine.transport.Gives mixedAnswers := mixedAnswers.transport_gives _
  have hgives' : (mixedAnswers.transport id).Gives mixedAnswers := mixedAnswers.transport_gives _
  exact ⟨rfl, by decide +kernel, by decide +kernel, hgives, hgives', cases_are_isolated hgives hgives'⟩

end BatchRunner

end Casebook
