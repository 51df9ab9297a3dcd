import Casebook.Proofs.Batch.PoolRuns

/-! How batches of admitted cases end.  The user counts as running, then the cases run, then the user counts as waiting
again and the reports are saved; the first of these that goes wrong, but for the third, decides what the batch comes
to. -/
namespace Casebook

/-- From one state of a batch to another nothing happened but some notes, and the world became another. -/
def BatchState.Passes {σ : Type} (s : BatchState σ) (world : σ) (t : BatchState σ) : Prop :=
  ∃ notices, t = { s with run := { s.run with world, notices := s.run.notices ++ notices } }

namespace BatchState.Passes

variable {σ : Type} {s t u : BatchState σ} {w w' : σ}

theorem now (s : BatchState σ) (w : σ) : s.Passes w { s with run := { s.run with world := w } } :=
  ⟨#[], by rw [Array.append_empty]⟩

theorem trans (h : s.Passes w t) (k : t.Passes w' u) : s.Passes w' u := by
  obtain ⟨ns, rfl⟩ := h
  obtain ⟨ms, rfl⟩ := k
  exact ⟨ns ++ ms, by rw [Array.append_assoc]⟩

theorem noted (h : s.Passes w t) (n : Notice) : s.Passes w { t with run := t.run.noted n } := by
  obtain ⟨ns, rfl⟩ := h
  exact ⟨ns.push n, by simp [RunState.noted]⟩

theorem world (h : s.Passes w t) : t.run.world = w := by
  obtain ⟨ns, rfl⟩ := h
  rfl

theorem tripped (h : s.Passes w t) : t.run.tripped = s.run.tripped := by
  obtain ⟨ns, rfl⟩ := h
  rfl

theorem marks (h : s.Passes w t) : t.marks = s.marks := by
  obtain ⟨ns, rfl⟩ := h
  rfl

theorem mem_notices (h : s.Passes w t) {n : Notice} (hn : n ∈ s.run.notices) : n ∈ t.run.notices := by
  obtain ⟨ns, rfl⟩ := h
  exact Array.mem_append_left _ hn

end BatchState.Passes

namespace BatchRunner

variable {σ : Type} (b : BatchRunner σ)

theorem exists_run_request (user : String) (status : Status) (s : BatchState σ) :
    ∃ t, (b.request user status).run s = ((b.channel.set user status s.run.world).1, t) ∧
      s.Passes (b.channel.set user status s.run.world).2 t := by
  unfold request
  simp only [run_bind]
  show ∃ t, (if (b.channel.set user status s.run.world).1.isOk = true then _ else _ : BatchM σ _).run _ = _ ∧ _
  split
  · exact ⟨_, rfl, (BatchState.Passes.now s _).noted _⟩
  · exact ⟨_, rfl, .now s _⟩

theorem exists_run_saveReports (reports : List CaseReport) (s : BatchState σ) :
    ∃ t, (b.saveReports reports).run s = ((b.save reports s.run.world).1, t) ∧
      s.Passes (b.save reports s.run.world).2 t := by
  unfold saveReports
  simp only [run_bind]
  show ∃ t, (if (b.save reports s.run.world).1.isOk = true then _ else _ : BatchM σ _).run _ = _ ∧ _
  split
  · split
    · exact ⟨_, rfl, (BatchState.Passes.now s _).noted _⟩
    · exact ⟨_, rfl, .now s _⟩
  · exact ⟨_, rfl, .now s _⟩

/-- The note where a user could not be set to waiting. -/
def resetFailed (user : String) (cause : RepositoryError) : Notice :=
  ⟨.warn, "Failed to reset run status for '" ++ user ++ "': " ++ cause.message⟩

/-- How a batch of admitted cases ends. -/
inductive Ends (user : String) (mode : BatchMode) (schedule : List Nat) (plans : List CasePlan)
    (warning : Option String) (s : BatchState σ) : Except BatchError BatchReport × BatchState σ → Prop where
  /-- The user could not be set to running. -/
  | unannounced {cause : RepositoryError} {t : BatchState σ} :
    (b.channel.set user .running s.run.world).1 = .error cause →
    s.Passes (b.channel.set user .running s.run.world).2 t →
    Ends user mode schedule plans warning s (.error (.status cause), t)
  /-- There is no time between two looks at the status. -/
  | untimed {t : BatchState σ} :
    (b.channel.set user .running s.run.world).1 = .ok () → b.engine.config.pollInterval? = none →
    s.Passes (b.channel.set user .running s.run.world).2 t →
    Ends user mode schedule plans warning s (.error .pollInterval, t)
  /-- The cases ran, and the user was set to waiting if that could be done. -/
  | ran {t u v : BatchState σ} {outcomes : List CaseOutcome} {saved : Except RepositoryError Unit} {w : σ} :
    (b.channel.set user .running s.run.world).1 = .ok () → b.engine.config.pollInterval? ≠ none →
    s.Passes (b.channel.set user .running s.run.world).2 t →
    (b.runPlans mode schedule plans).run t = (outcomes, u) →
    b.save (outcomes.filterMap CaseOutcome.report) (b.channel.set user .waiting u.run.world).2 = (saved, w) →
    u.Passes w v →
    (∀ cause, (b.channel.set user .waiting u.run.world).1 = .error cause → resetFailed user cause ∈ v.run.notices) →
    Ends user mode schedule plans warning s
      ((saved.mapError .save).map fun _ => ⟨mode, outcomes, warning, u.marks.toList⟩, v)

theorem runAdmitted_ends (user : String) (mode : BatchMode) (schedule : List Nat) (plans : List CasePlan)
    (warning : Option String) (s : BatchState σ) :
    b.Ends user mode schedule plans warning s ((b.runAdmitted user mode schedule plans warning).run s) := by
  obtain ⟨t, hrequest, ht⟩ := b.exists_run_request user .running s
  unfold runAdmitted
  rw [run_bind, hrequest]
  cases hset : (b.channel.set user .running s.run.world).1 with
  | error cause => exact .unannounced hset ht
  | ok _ =>
    dsimp -zeta only
    split
    case isTrue hnone => exact .untimed hset (Option.isNone_iff_eq_none.mp hnone) ht
    case isFalse hsome =>
      have hinterval : b.engine.config.pollInterval? ≠ none := fun h => hsome (Option.isNone_iff_eq_none.mpr h)
      rw [run_bind, run_bind]
      rcases hplans : (b.runPlans mode schedule plans).run _ with ⟨outcomes, u⟩
      rw [run_bind]
      dsimp -zeta only
      extract_lets saving resetting
      have hsaving : ∀ v w, u.Passes w v → ∃ x,
          (saving ()).run v =
            (((b.save (outcomes.filterMap CaseOutcome.report) w).1.mapError .save).map fun _ =>
              ⟨mode, outcomes, warning, u.marks.toList⟩, x) ∧
          u.Passes (b.save (outcomes.filterMap CaseOutcome.report) w).2 x ∧
          ∀ n ∈ v.run.notices, n ∈ x.run.notices := by
        intro v w hv
        obtain ⟨x, hsave, hx⟩ := b.exists_run_saveReports (outcomes.filterMap CaseOutcome.report) v
        rw [hv.world] at hsave hx
        simp only [saving, run_bind, hsave]
        cases (b.save (outcomes.filterMap CaseOutcome.report) w).1 with
        | error cause => exact ⟨x, rfl, hv.trans hx, fun n => hx.mem_notices⟩
        | ok _ =>
          rw [← hv.marks, ← hx.marks]
          exact ⟨_, rfl, hv.trans (hx.noted _), fun n => (hx.noted _).mem_notices⟩
      have hresetting : ∀ v, u.Passes u.run.world v →
          b.Ends user mode schedule plans warning s ((resetting ()).run v) := by
        intro v hv
        obtain ⟨x, hreset, hx⟩ := b.exists_run_request user .waiting v
        rw [hv.world] at hreset hx
        simp only [resetting, run_bind, hreset]
        cases hwaiting : (b.channel.set user .waiting u.run.world).1 with
        | error cause =>
          obtain ⟨y, hsave, hy, hnotices⟩ := hsaving _ _ ((hv.trans hx).noted (resetFailed user cause))
          refine hsave ▸ .ran hset hinterval (ht.noted _) hplans rfl hy fun cause' hcause => ?_
          cases hwaiting.symm.trans hcause
          exact hnotices _ Array.mem_push_self
        | ok _ =>
          obtain ⟨y, hsave, hy, -⟩ := hsaving _ _ (hv.trans hx)
          refine hsave ▸ .ran hset hinterval (ht.noted _) hplans rfl hy fun cause' hcause => ?_
          cases hwaiting.symm.trans hcause
      split
      · exact hresetting _ ((BatchState.Passes.now u _).noted _)
      · exact hresetting _ (.now u _)

/-- A batch of admitted cases ends so, after a warning where their environments differ. -/
theorem runBatch_ends {ids : List CaseId} {plans : List CasePlan}
    (hids : CasePlan.ofIds b.engine.repository b.engine.config.envId ids = .ok plans) (user : String)
    (mode : BatchMode) (schedule : List Nat) (s : BatchState σ) :
    ∃ t, s.Passes s.run.world t ∧
      b.Ends user mode schedule plans (CasePlan.environmentWarning? plans) t
        ((b.runBatch user ids mode schedule).run s) := by
  unfold runBatch
  rw [hids]
  have hends := b.runAdmitted_ends user mode schedule plans (CasePlan.environmentWarning? plans)
  simp only
  split
  · exact ⟨_, (BatchState.Passes.now s _).noted _, hends _⟩
  · exact ⟨s, .now s _, hends s⟩

/-- The cases of a batch that came to a report were admitted, and the report has their outcomes. -/
theorem exists_run_of_report {user : String} {ids : List CaseId} {mode : BatchMode} {schedule : List Nat}
    {s : BatchState σ} {report : BatchReport} (h : ((b.runBatch user ids mode schedule).run s).1 = .ok report) :
    ∃ plans t, CasePlan.ofIds b.engine.repository b.engine.config.envId ids = .ok plans ∧
      ((b.runPlans mode schedule plans).run t).1 = report.outcomes := by
  cases hids : CasePlan.ofIds b.engine.repository b.engine.config.envId ids with
  | error fault =>
    unfold runBatch at h
    rw [hids] at h
    cases h
  | ok plans =>
    obtain ⟨t, -, hends⟩ := b.runBatch_ends hids user mode schedule s
    generalize (b.runBatch user ids mode schedule).run s = p at h hends
    cases hends with
    | unannounced => cases h
    | untimed => cases h
    | @ran t _ _ outcomes saved _ _ _ _ hplans =>
      refine ⟨plans, t, rfl, ?_⟩
      rw [hplans]
      cases saved <;> cases h
      rfl

end BatchRunner

end Casebook
