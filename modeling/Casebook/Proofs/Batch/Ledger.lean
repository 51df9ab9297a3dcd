import Casebook.Proofs.Batch.IsolatedCases
import Casebook.Proofs.Run.Reaching
import Casebook.Proofs.Suite.Seconds

/-! What batches ask of the status channel.  Once a user counts as running, the last status asked for is that the user
waits, whatever the cases, the transport and the archive do; but where the time between two looks at the status is too
great, the batch is given up while the user counts as running. -/
namespace Casebook

/-- The time between two looks at the status is no length of time. -/
def RunConfig.PollsEndlessly (config : RunConfig) : Prop :=
  config.pollIntervalSecs.isFinite = true ∧ Duration.endless ≤ config.pollIntervalSecs

instance (config : RunConfig) : Decidable config.PollsEndlessly := inferInstanceAs (Decidable (_ ∧ _))

namespace BatchRunner

variable {σ : Type} (b : BatchRunner σ)

/-! ### The world in a batch -/

/-- Cases do nothing to the world but make calls. -/
theorem steady_calls (w : σ) :
    b.Steady (fun s => b.engine.transport.Reaches w s.run.world) fun _ _ => True where
  runOne plan s hs := by
    have hcase := (b.engineOf plan).runCase_calls plan.info.id (s.run.fresh (.withVars b.vars))
    exact ⟨trivial, b.world_runOne plan s ▸ hs.trans hcase⟩
  marked _ _ _ hs := hs
  noted _ _ hs := hs

theorem runPlans_calls (mode : BatchMode) (schedule : List Nat) (plans : List CasePlan) (s : BatchState σ) :
    b.engine.transport.Reaches s.run.world ((b.runPlans mode schedule plans).run s).2.run.world :=
  (runPlans_outcomes (b.steady_calls s.run.world) mode schedule plans .refl).2

/-! ### Ledgers -/

/-- A view of the world that shows all statuses that were asked for, the latest one last.  Nothing but the channel
changes what it shows. -/
structure Ledger where
  writes : σ → List (String × Status)
  set : ∀ user status w, writes (b.channel.set user status w).2 = writes w ++ [(user, status)]
  save : ∀ reports w, writes (b.save reports w).2 = writes w
  moves : ∀ w w', b.engine.transport.Moves w w' → writes w' = writes w

end BatchRunner

/-- A transport in a world with something beside its own state. -/
def Transport.beside {σ τ : Type} (t : Transport σ) : Transport (σ × τ) where
  http request w := ((t.http request w.1).1, (t.http request w.1).2, w.2)
  connect target w := ((t.connect target w.1).1, (t.connect target w.1).2, w.2)
  execute target sql w := ((t.execute target sql w.1).1, (t.execute target sql w.1).2, w.2)
  close target w := ((t.close target w.1).1, (t.close target w.1).2, w.2)

namespace BatchRunner

variable {σ : Type} (b : BatchRunner σ)

/-- The runner in a world that also holds the statuses that were asked for. -/
def logged : BatchRunner (σ × List (String × Status)) where
  engine := { b.engine with transport := b.engine.transport.beside }
  channel.get user w := b.channel.get user w.1
  channel.set user status w :=
    ((b.channel.set user status w.1).1, (b.channel.set user status w.1).2, w.2 ++ [(user, status)])
  save reports w := ((b.save reports w.1).1, (b.save reports w.1).2, w.2)
  savedNote := b.savedNote
  vars := b.vars

/-- With a log beside it, every runner has a ledger. -/
def ledgerOfLog : b.logged.Ledger where
  writes := Prod.snd
  set _ _ _ := rfl
  save _ _ := rfl
  moves w w' h := by cases h <;> rfl

variable {b}

theorem Ledger.reaches (l : b.Ledger) {w w' : σ} (h : b.engine.transport.Reaches w w') : l.writes w' = l.writes w :=
  Transport.Reaches.eq l.moves h

/-! ### Batches -/

variable (b) in
/-- A batch that started in a world came to its end, and the user was set to waiting. -/
structure Settles (user : String) (start : σ) (p : Except BatchError BatchReport × BatchState σ) : Prop where
  /-- The batch comes to a report, unless that cannot be saved. -/
  returns : (∃ report, p.1 = .ok report) ∨ ∃ cause, p.1 = .error (.save cause)
  /-- After the calls of the cases the user is set to waiting; where that fails it is noted, and no more. -/
  resets : ∃ w reports, b.engine.transport.Reaches (b.channel.set user .running start).2 w ∧
    p.2.run.world = (b.save reports (b.channel.set user .waiting w).2).2 ∧
    ∀ cause, (b.channel.set user .waiting w).1 = .error cause → resetFailed user cause ∈ p.2.run.notices
  writes : ∀ l : b.Ledger, l.writes p.2.run.world = l.writes start ++ [(user, .running), (user, .waiting)]

variable (b) in
/-- What becomes of a batch once its user counts as running. -/
structure Resets (user : String) (start : σ) (p : Except BatchError BatchReport × BatchState σ) : Prop where
  settles : ¬ b.engine.config.PollsEndlessly → b.Settles user start p
  /-- Without a time between two looks at the status, the batch is given up as it is. -/
  endless : b.engine.config.PollsEndlessly →
    p.1 = .error .pollInterval ∧ p.2.run.world = (b.channel.set user .running start).2

theorem Ends.resets {user : String} {mode : BatchMode} {schedule : List Nat} {plans : List CasePlan}
    {warning : Option String} {s : BatchState σ} {p : Except BatchError BatchReport × BatchState σ}
    (h : b.Ends user mode schedule plans warning s p)
    (hrunning : (b.channel.set user .running s.run.world).1 = .ok ()) : b.Resets user s.run.world p := by
  have hinterval : b.engine.config.pollInterval? = none ↔ b.engine.config.PollsEndlessly :=
    b.engine.config.pollInterval?_eq_none_iff
  cases h with
  | unannounced hset => cases hrunning.symm.trans hset
  | untimed _ hnone ht => exact ⟨(absurd (hinterval.mp hnone) ·), fun _ => ⟨rfl, ht.world⟩⟩
  | @ran t u v outcomes saved w _ hsome ht hplans hsave hv hnoted =>
    refine ⟨fun _ => ?_, fun hendless => absurd (hinterval.mpr hendless) hsome⟩
    have hreaches := b.runPlans_calls mode schedule plans t
    rw [hplans, ht.world] at hreaches
    have hworld : v.run.world =
        (b.save (outcomes.filterMap CaseOutcome.report) (b.channel.set user .waiting u.run.world).2).2 := by
      rw [hv.world, hsave]
    refine ⟨?_, ⟨u.run.world, _, hreaches, hworld, hnoted⟩, fun l => ?_⟩
    · cases saved with
      | ok _ => exact .inl ⟨_, rfl⟩
      | error cause => exact .inr ⟨cause, rfl⟩
    · rw [hworld, l.save, l.set, l.reaches hreaches, l.set, List.append_assoc]
      rfl

/-- Once a batch has set its user to running, it comes to an end, and sets the user to waiting before that; but not
where there is no time between two looks at the status. -/
theorem user_is_set_to_waiting {ids : List CaseId} {plans : List CasePlan}
    (hids : CasePlan.ofIds b.engine.repository b.engine.config.envId ids = .ok plans) {user : String}
    {s : BatchState σ} (hrunning : (b.channel.set user .running s.run.world).1 = .ok ()) (mode : BatchMode)
    (schedule : List Nat) : b.Resets user s.run.world ((b.runBatch user ids mode schedule).run s) := by
  obtain ⟨t, ht, hends⟩ := b.runBatch_ends hids user mode schedule s
  have hworld : t.run.world = s.run.world := ht.world
  exact hworld ▸ hends.resets (hworld ▸ hrunning)

/-! ### A user who cannot be set to waiting, and one who is not -/

/-- A runner on a full disk: once cases ran, neither the status nor the reports can be written. -/
def fullRunner : BatchRunner ((Option String × Nat) × List (String × Status)) :=
  { mixedRunner with
    channel := ⟨fun _ _ => .ok .running,
      fun _ status w => (if status = .waiting then .error (.file "disk full") else .ok (), w)⟩
    save := fun _ w => (.error (.file "disk full"), w) : BatchRunner _ }.logged

/-- On the full disk, after a panic and a latch, the last that is asked for is still that the user waits. -/
theorem full_disk_is_asked_to_wait :
    CasePlan.ofIds fullRunner.engine.repository fullRunner.engine.config.envId [1, 2, 3] = .ok mixedPlans ∧
    (fullRunner.channel.set "u" .running ((none, 0), [])).1 = .ok () ∧
    ¬ fullRunner.engine.config.PollsEndlessly ∧
    ((fullRunner.runPlans .parallel [2, 0] mixedPlans).run (.start ((none, 0), []))).1.map CaseOutcome.status =
      [.failed, .failedStop, .success] ∧
    fullRunner.Resets "u" ((none, 0), [])
      ((fullRunner.runBatch "u" [1, 2, 3] .parallel [2, 0]).run (.start ((none, 0), []))) ∧
    ((fullRunner.runBatch "u" [1, 2, 3] .parallel [2, 0]).run (.start ((none, 0), []))).2.run.world.2 =
      [("u", .running), ("u", .waiting)] := by
  have hids : CasePlan.ofIds fullRunner.engine.repository fullRunner.engine.config.envId [1, 2, 3] =
      .ok mixedPlans := rfl
  have hrunning : (fullRunner.channel.set "u" .running ((none, 0), [])).1 = .ok () := rfl
  have hinterval : ¬ fullRunner.engine.config.PollsEndlessly := by decide +kernel
  have hresets := user_is_set_to_waiting hids (s := .start ((none, 0), [])) hrunning .parallel [2, 0]
  exact ⟨hids, hrunning, hinterval, by decide +kernel, hresets, (hresets.settles hinterval).writes (ledgerOfLog _)⟩

def emptyCase : Case := ⟨1, "only", some 1, []⟩

/-- A runner with statuses in memory, which looks at them every `1e30` seconds. -/
def rareRunner : BatchRunner (Dict Status) where
  engine := ⟨Template.evaluator,
    .ofSuite { Suite.empty with environments := [⟨1, "e", "http://a.test", []⟩], cases := [emptyCase] },
    ⟨fun _ w => (.quiet none, w), fun _ w => (.quiet (.ok ()), w), fun _ _ w => (.quiet (.ok []), w),
      fun _ w => (.quiet (.ok ()), w)⟩,
    { RunConfig.default with pollIntervalSecs := 1e30 }, ⟨1, false, false⟩, 0⟩
  channel := .memory
  save _ w := (.ok (), w)
  vars := []

/-- With that much time between two looks the batch is given up, and its user counts as running for ever. -/
theorem user_is_left_running :
    CasePlan.ofIds rareRunner.engine.repository rareRunner.engine.config.envId [1] = .ok [⟨emptyCase.info, 1⟩] ∧
    (rareRunner.channel.set "u" .running []).1 = .ok () ∧
    rareRunner.channel.get "u" ((rareRunner.runBatch "u" [1] .serial []).run (.start [])).2.run.world =
      .ok .running ∧
    ((rareRunner.runBatch "u" [1] .serial []).run (.start [])).1.map BatchReport.success = .error .pollInterval :=
  ⟨rfl, rfl, by decide +kernel, by decide +kernel⟩

end BatchRunner

end Casebook
