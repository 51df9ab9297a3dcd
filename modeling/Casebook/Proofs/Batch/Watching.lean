import Casebook.Batch.Watch
import Casebook.Proofs.Run.Halting

/-! The watch over a batch, and the runs that share its stop token.  The watch looks until the user is no longer running
or the batch is over, and trips the token if what ended it was an interrupt; a tripped token is seen by every run. -/
namespace Casebook

/-! ### Looks at the status -/

namespace Signal

def isPoll : Signal → Bool
  | .poll _ => true
  | .shutdown => false

/-- A look after which the watch goes on: the user is running, or the status cannot be read. -/
def Passes (s : Signal) : Prop := ∃ result, s = .poll result ∧ (result = .ok .running ∨ ∃ e, result = .error e)

theorem Passes.isPoll {s : Signal} (h : s.Passes) : s.isPoll = true := by
  obtain ⟨result, rfl, -⟩ := h
  rfl

end Signal

namespace Watch

variable {w : Watch} {s : Signal} {signals seen : List Signal}

theorem step_of_ended (h : w.ended = true) (s : Signal) : w.step s = w := if_pos h

theorem step_of_passes (h : w.ended = false) (hs : s.Passes) : w.step s = { w with polls := w.polls + 1 } := by
  obtain ⟨_, rfl, rfl | ⟨e, rfl⟩⟩ := hs
  all_goals simp [step, look, h]

/-- What the watch does not pass over ends it, and an interrupt trips. -/
theorem step_of_not_passes (h : w.ended = false) (hs : ¬s.Passes) :
    (w.step s).ended = true ∧ (w.step s).polls = w.polls + [s].countP Signal.isPoll ∧
      ((w.step s).tripped = true ↔ w.tripped = true ∨ s = .poll (.ok .interrupt)) := by
  cases s with
  | shutdown => simp [step, h, Signal.isPoll]
  | poll result =>
    rcases result with e | status
    · exact absurd ⟨_, rfl, .inr ⟨e, rfl⟩⟩ hs
    · cases status with
      | running => exact absurd ⟨_, rfl, .inl rfl⟩ hs
      | _ => simp [step, look, h, Signal.isPoll]

theorem foldl_of_ended (h : w.ended = true) (signals : List Signal) : signals.foldl step w = w := by
  induction signals with
  | nil => rfl
  | cons s signals ih => rw [List.foldl_cons, step_of_ended h, ih]

theorem foldl_of_passes (h : w.ended = false) (hseen : ∀ s ∈ seen, s.Passes) :
    seen.foldl step w = { w with polls := w.polls + seen.length } := by
  induction seen generalizing w with
  | nil => rfl
  | cons s seen ih =>
    rw [List.foldl_cons, step_of_passes h (hseen s List.mem_cons_self),
      ih (w := { w with polls := w.polls + 1 }) h fun t ht => hseen t (List.mem_cons_of_mem _ ht), List.length_cons,
      Nat.add_assoc, Nat.add_comm 1]

theorem run_append (signals more : List Signal) : run (signals ++ more) = more.foldl step (run signals) :=
  List.foldl_append

/-- The signals up to the first that ends the watch. -/
theorem exists_passing (signals : List Signal) :
    ∃ seen rest, signals = seen ++ rest ∧ (∀ s ∈ seen, s.Passes) ∧ ∀ s ∈ rest.head?, ¬s.Passes := by
  induction signals with
  | nil => exact ⟨[], [], rfl, nofun, nofun⟩
  | cons s signals ih =>
    by_cases hs : s.Passes
    · obtain ⟨seen, rest, rfl, hseen, hrest⟩ := ih
      exact ⟨s :: seen, rest, rfl, List.forall_mem_cons.mpr ⟨hs, hseen⟩, hrest⟩
    · exact ⟨[], s :: signals, rfl, nofun, by simpa using hs⟩

/-- The watch looks once for each signal that it passes over and for a look that ends it, and then no more. -/
theorem run_passing (hseen : ∀ s ∈ seen, s.Passes) {rest : List Signal} (hrest : ∀ s ∈ rest.head?, ¬s.Passes) :
    (run (seen ++ rest)).ended = !rest.isEmpty ∧
      (run (seen ++ rest)).polls = (seen ++ rest.head?.toList).countP Signal.isPoll ∧
      ((run (seen ++ rest)).tripped = true ↔ rest.head? = some (.poll (.ok .interrupt))) ∧
      (rest ≠ [] → ∀ more, run (seen ++ rest ++ more) = run (seen ++ rest)) := by
  have hpassed : run seen = ⟨false, false, seen.length⟩ := by
    rw [run, foldl_of_passes rfl hseen]
    simp [start]
  have hlength : seen.countP Signal.isPoll = seen.length :=
    List.countP_eq_length.mpr fun s hs => (hseen s hs).isPoll
  rw [List.countP_append, hlength]
  cases rest with
  | nil => simp [hpassed]
  | cons s rest =>
    obtain ⟨hended, hpolls, htripped⟩ := step_of_not_passes (w := run seen) (by rw [hpassed]) (hrest s rfl)
    have hrun : run (seen ++ s :: rest) = (run seen).step s := by
      rw [run_append, List.foldl_cons, foldl_of_ended hended]
    rw [hrun]
    refine ⟨hended, ?_, ?_, fun _ more => ?_⟩
    · rw [hpolls, hpassed]
      rfl
    · rw [htripped, hpassed]
      simp
    · rw [run_append, hrun, foldl_of_ended hended]

/-- How often was looked makes no difference to what follows. -/
theorem step_congr {w' : Watch} (h : w.ended = w'.ended ∧ w.tripped = w'.tripped) (s : Signal) :
    (w.step s).ended = (w'.step s).ended ∧ (w.step s).tripped = (w'.step s).tripped := by
  obtain ⟨hended, htripped⟩ := h
  cases hw : w.ended with
  | true => rw [step_of_ended hw, step_of_ended (hended ▸ hw)]; exact ⟨hended, htripped⟩
  | false =>
    have hw' : w'.ended = false := hended ▸ hw
    rcases s with _ | e | status
    · simp [step, hw, hw', htripped]
    · simp [step, look, hw, hw', htripped]
    · cases status <;> simp [step, look, hw, hw', htripped]

theorem foldl_congr {w' : Watch} (h : w.ended = w'.ended ∧ w.tripped = w'.tripped) (signals : List Signal) :
    (signals.foldl step w).ended = (signals.foldl step w').ended ∧
      (signals.foldl step w).tripped = (signals.foldl step w').tripped := by
  induction signals generalizing w w' with
  | nil => exact h
  | cons s signals ih => exact ih (step_congr h s)

/-- A failure to read the status neither ends the watch nor trips. -/
theorem run_error (before : List Signal) (e : RepositoryError) (after : List Signal) :
    (run (before ++ .poll (.error e) :: after)).ended = (run (before ++ after)).ended ∧
      (run (before ++ .poll (.error e) :: after)).tripped = (run (before ++ after)).tripped := by
  rw [run_append, run_append, List.foldl_cons]
  refine foldl_congr ?_ after
  cases hw : (run before).ended with
  | true => rw [step_of_ended hw]; exact ⟨hw, rfl⟩
  | false => exact ⟨by rw [step_of_passes hw ⟨_, rfl, .inr ⟨e, rfl⟩⟩, hw], by simp [step, look, hw]⟩

theorem tripped_step (h : w.tripped = true) (s : Signal) : (w.step s).tripped = true := by
  cases hw : w.ended with
  | true => rwa [step_of_ended hw]
  | false =>
    by_cases hs : s.Passes
    · rwa [step_of_passes hw hs]
    · exact (step_of_not_passes hw hs).2.2.mpr (.inl h)

end Watch

/-! ### Runs that share the stop token -/

theorem RunState.status_of_tripped {σ : Type} {r : RunState σ} (h : r.tripped = true) : r.status = .interrupt :=
  if_pos h

theorem Engine.tripped_runCase {σ : Type} (e : Engine σ) (caseId : CaseId) {r : RunState σ} (h : r.tripped = true) :
    ((e.runCase caseId).run r).2.tripped = true := by
  rcases e.runCase_follows caseId r with ⟨cause, hrun⟩ | hfollows
  · rwa [hrun]
  · exact hfollows.tripped h

/-- A stop token, the watch that may trip it, and the runs that have a clone of it. -/
structure Watched (σ : Type) where
  token : Bool
  watch : Watch
  runs : List (RunState σ)

/-- What happens to a watched batch: the watch meets a signal, a run begins, or a run goes on, where what it calls may
trip the token. -/
inductive Happening where
  | met (s : Signal)
  | began
  | went (trips : Bool)

def Happening.signal? : Happening → Option Signal
  | .met s => some s
  | _ => none

namespace Watched

variable {σ : Type}

def start : Watched σ := ⟨false, .start, []⟩

/-- A tripped token is tripped for all that have a clone. -/
def tripping (trips : Bool) (w : Watched σ) : Watched σ :=
  { w with token := w.token || trips, runs := w.runs.map fun r => { r with tripped := r.tripped || trips } }

/-- Whatever the latch of a run, its course may go on at any time. -/
inductive Step : Watched σ → Happening → Watched σ → Prop where
  | met (w : Watched σ) (s : Signal) :
    Step w (.met s) (tripping (w.watch.step s).tripped { w with watch := w.watch.step s })
  | began {w : Watched σ} {r : RunState σ} : r.tripped = w.token → Step w .began { w with runs := r :: w.runs }
  | went {token : Bool} {watch : Watch} {before after : List (RunState σ)} {r r' : RunState σ} {limits : CascadeLimits}
      {base : Nat} {c : Option Abort} :
    Course limits base r c r' → Step ⟨token, watch, before ++ r :: after⟩ (.went (r'.tripped && !r.tripped))
      (tripping r'.tripped ⟨token, watch, before ++ r' :: after⟩)

/-- From one moment of a batch to another. -/
inductive Steps : Watched σ → List Happening → Watched σ → Prop where
  | none (w : Watched σ) : Steps w [] w
  | step {u v w : Watched σ} {hs : List Happening} {h : Happening} :
    Steps u hs v → Step v h w → Steps u (hs ++ [h]) w

/-- All clones read the same, and the token is tripped if the watch has seen an interrupt, or a run has tripped it. -/
structure Shares (hs : List Happening) (w : Watched σ) : Prop where
  watch : w.watch = Watch.run (hs.filterMap Happening.signal?)
  token : w.token = true ↔ w.watch.tripped = true ∨ Happening.went true ∈ hs
  runs : ∀ r ∈ w.runs, r.tripped = w.token

variable {u v w : Watched σ} {hs later : List Happening} {h : Happening}

theorem token_tripping (trips : Bool) (w : Watched σ) :
    (w.tripping trips).token = true ↔ w.token = true ∨ trips = true := by
  rw [tripping, Bool.or_eq_true]

theorem Shares.step (hw : Shares hs w) (hstep : Step w h v) : Shares (hs ++ [h]) v := by
  cases hstep with
  | met _ s =>
    refine ⟨?_, ?_, fun r hr => ?_⟩
    · rw [List.filterMap_append, Watch.run_append, ← hw.watch]
      rfl
    · have hkept : w.watch.tripped = true → (w.watch.step s).tripped = true := fun h => Watch.tripped_step h s
      rw [token_tripping, List.mem_append, hw.token]
      simp only [tripping, List.mem_singleton, reduceCtorEq, or_false]
      rw [or_right_comm, or_iff_right_of_imp hkept]
    · obtain ⟨r', hr', rfl⟩ := List.mem_map.mp hr
      exact congrArg (· || (w.watch.step s).tripped) (hw.runs r' hr')
  | began hr =>
    refine ⟨?_, ?_, List.forall_mem_cons.mpr ⟨hr, hw.runs⟩⟩
    · rw [List.filterMap_append, hw.watch]
      exact congrArg Watch.run (List.append_nil _).symm
    · simpa using hw.token
  | @went token watch before after r r' limits base c hcourse =>
    have hr : r.tripped = token := hw.runs r (by simp)
    -- The run shares the token, so what it ends with is what all are to read: it cannot have lost an earlier trip.
    have hkept : token = true → r'.tripped = true := fun htoken => hcourse.tripped (hr.trans htoken)
    refine ⟨?_, ?_, fun x hx => ?_⟩
    · rw [List.filterMap_append]
      exact hw.watch.trans (congrArg Watch.run (List.append_nil _).symm)
    · have htoken := hw.token
      rw [token_tripping, List.mem_append, List.mem_singleton, Happening.went.injEq, hr]
      simp only [tripping] at htoken ⊢
      cases token <;> cases htripped : r'.tripped <;> simp_all
    · obtain ⟨y, hy, rfl⟩ := List.mem_map.mp hx
      rcases List.mem_append.mp hy with hy | hy
      · exact congrArg (· || r'.tripped) (hw.runs y (List.mem_append_left _ hy))
      · rcases List.mem_cons.mp hy with rfl | hy
        · show (y.tripped || y.tripped) = (token || y.tripped)
          cases token with
          | true => rw [hkept rfl]
          | false => exact Bool.or_self _
        · exact congrArg (· || r'.tripped) (hw.runs y (List.mem_append_right _ (List.mem_cons_of_mem _ hy)))

theorem Step.token (hstep : Step w h v) (hw : w.token = true) : v.token = true := by
  cases hstep with
  | met | went => exact Bool.or_eq_true_iff.mpr (.inl hw)
  | began => exact hw

theorem Shares.steps (hw : Shares hs w) (hsteps : Steps w later v) : Shares (hs ++ later) v := by
  induction hsteps with
  | none => rwa [List.append_nil]
  | step _ hstep ih =>
    rw [← List.append_assoc]
    exact ih.step hstep

theorem Steps.token (hsteps : Steps w later v) (hw : w.token = true) : v.token = true := by
  induction hsteps with
  | none => exact hw
  | step _ hstep ih => exact hstep.token ih

theorem Shares.start : Shares [] (start (σ := σ)) := ⟨rfl, by simp [Watched.start, Watch.start], nofun⟩

end Watched

/-! ### What the watch does -/

/-- The watch looks until the first result that is neither a running user nor a failure, or until the batch is over, and
never after that; failures neither end it nor trip.  It trips the stop token just if what ended it was an interrupt, and
a tripped token stays tripped, so that from then on every run that shares it is interrupted, whatever its latch. -/
theorem interrupts_trip_while_watched (signals : List Signal) :
    (∃ seen rest, signals = seen ++ rest ∧ (∀ s ∈ seen, s.Passes) ∧ (∀ s ∈ rest.head?, ¬s.Passes) ∧
      (Watch.run signals).ended = !rest.isEmpty ∧
      (Watch.run signals).polls = (seen ++ rest.head?.toList).countP Signal.isPoll ∧
      ((Watch.run signals).tripped = true ↔ rest.head? = some (.poll (.ok .interrupt))) ∧
      (rest ≠ [] → ∀ more, Watch.run (signals ++ more) = Watch.run signals)) ∧
    (∀ before e after, signals = before ++ .poll (.error e) :: after →
      (Watch.run signals).ended = (Watch.run (before ++ after)).ended ∧
        (Watch.run signals).tripped = (Watch.run (before ++ after)).tripped) ∧
    ∀ {σ : Type} {hs : List Happening} {w : Watched σ}, Watched.Steps .start hs w →
      hs.filterMap Happening.signal? = signals →
        w.watch = Watch.run signals ∧
        (w.token = true ↔ (Watch.run signals).tripped = true ∨ Happening.went true ∈ hs) ∧
        (∀ r ∈ w.runs, r.tripped = w.token) ∧
        (w.token = true → ∀ later v, Watched.Steps w later v →
          v.token = true ∧ ∀ r ∈ v.runs, r.status = .interrupt ∧
            ∀ (e : Engine σ) (caseId : CaseId), ((e.runCase caseId).run r).2.status = .interrupt) := by
  refine ⟨?_, ?_, ?_⟩
  · obtain ⟨seen, rest, rfl, hseen, hrest⟩ := Watch.exists_passing signals
    exact ⟨seen, rest, rfl, hseen, hrest, Watch.run_passing hseen hrest⟩
  · rintro before e after rfl
    exact Watch.run_error before e after
  · rintro σ hs w hsteps rfl
    have hw : Watched.Shares hs w := Watched.Shares.start.steps hsteps
    refine ⟨hw.watch, hw.watch ▸ hw.token, hw.runs, fun htoken later v hlater => ?_⟩
    have hv : v.token = true := hlater.token htoken
    refine ⟨hv, fun r hr => ?_⟩
    have htripped : r.tripped = true := ((hw.steps hlater).runs r hr).trans hv
    exact ⟨RunState.status_of_tripped htripped,
      fun e caseId => RunState.status_of_tripped (e.tripped_runCase caseId htripped)⟩

/-- A run that ended at a failed step, with its clone of the stop token. -/
def failedRun (tripped : Bool) : RunState Unit := { RunState.start .empty tripped () with latch := some .failedStop }

/-- A failure, a running user and an interrupt: the run that had ended at a failed step reads as interrupted, and still
does when the batch is over. -/
theorem failed_run_reads_as_interrupted :
    (failedRun false).status = .failedStop ∧
    Watched.Steps .start [.began, .met (.poll (.error (.caseNotFound 0))), .met (.poll (.ok .running)),
      .met (.poll (.ok .interrupt))] ⟨true, ⟨true, true, 3⟩, [failedRun true]⟩ ∧
    (Watch.run [.poll (.error (.caseNotFound 0)), .poll (.ok .running), .poll (.ok .interrupt)]).tripped = true ∧
    Watched.Steps ⟨true, ⟨true, true, 3⟩, [failedRun true]⟩ [.met .shutdown]
      ⟨true, ⟨true, true, 3⟩, [failedRun true]⟩ ∧
    (failedRun true).latch = some .failedStop ∧ (failedRun true).status = .interrupt := by
  have hbegan : Watched.Steps .start [.began] ⟨false, ⟨false, false, 0⟩, [failedRun false]⟩ :=
    .step (.none _) (.began rfl)
  have hfailure : Watched.Steps .start [.began, .met (.poll (.error (.caseNotFound 0)))]
      ⟨false, ⟨false, false, 1⟩, [failedRun false]⟩ := .step hbegan (.met _ _)
  have hrunning : Watched.Steps .start [.began, .met (.poll (.error (.caseNotFound 0))), .met (.poll (.ok .running))]
      ⟨false, ⟨false, false, 2⟩, [failedRun false]⟩ := .step hfailure (.met _ _)
  have hinterrupt : Watched.Steps .start [.began, .met (.poll (.error (.caseNotFound 0))),
      .met (.poll (.ok .running)), .met (.poll (.ok .interrupt))] ⟨true, ⟨true, true, 3⟩, [failedRun true]⟩ :=
    .step hrunning (.met _ _)
  have hshutdown : Watched.Steps ⟨true, ⟨true, true, 3⟩, [failedRun true]⟩ [.met .shutdown]
      ⟨true, ⟨true, true, 3⟩, [failedRun true]⟩ := .step (.none _) (.met _ _)
  obtain ⟨-, -, hshared⟩ := interrupts_trip_while_watched
    [.poll (.error (.caseNotFound 0)), .poll (.ok .running), .poll (.ok .interrupt)]
  obtain ⟨hwatch, -, -, hforGood⟩ := hshared hinterrupt rfl
  refine ⟨rfl, hinterrupt, ?_, hshutdown, rfl, ?_⟩
  · rw [← hwatch]
  · exact ((hforGood rfl _ _ hshutdown).2 _ List.mem_cons_self).1

end Casebook
