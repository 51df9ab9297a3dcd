import Casebook.Proofs.Run.Connections

/-! Retries.  An attempt that failed is made again while the run is not halted and retries are left; what a step comes
to is what its last attempt came to, and only that one may halt the run. -/
namespace Casebook

/-- The attempt that starts with an event. -/
def Event.attempt? : Event → Option (String × Nat)
  | .attempted label n => some (label, n)
  | _ => none

/-- Whether an event belongs to the attempts at a step that does not nest. -/
def Event.isOfAttempt : Event → Bool
  | .attempted .. | .called _ => true
  | _ => false

variable {σ : Type}

theorem Run.Exchange.latch_eq {s t : RunState σ} {cs : List Call} (h : Run.Exchange s cs t) : t.latch = s.latch := by
  induction h with
  | quiet h => exact h.latch
  | call => rfl
  | append _ _ ih₁ ih₂ => exact ih₂.trans ih₁

theorem RunState.latch_of_not_isHalted {s : RunState σ} (h : s.isHalted = false) : s.latch = none := by
  have hneither := (not_congr s.isHalted_iff).mp (by simp [h])
  exact not_not.mp (not_or.mp hneither).2

theorem RunState.latch_latched (h : Halt) {s : RunState σ} (hs : s.isHalted = false) :
    (s.latched h).latch = some h := by
  rw [RunState.latched, hs, if_neg Bool.false_ne_true]

/-- From one state to another the first attempts at a step were made and nothing else was done, so the run was not
latched. -/
structure RunState.Attempts (s : RunState σ) (label : String) (count : Nat) (t : RunState σ) : Prop where
  latch : t.latch = s.latch
  entries : ∃ entries, s.Adds entries t ∧ (∀ x ∈ entries, x.event.isOfAttempt = true) ∧
    entries.filterMap (·.event.attempt?) = (List.range count).map (label, ·)

namespace RunState.Attempts

variable {s t u : RunState σ} {label : String} {count : Nat}

theorem quiet (h : s.Quiet t) : s.Attempts label 0 t := ⟨h.latch, [], .quiet h, by simp, rfl⟩

theorem afterQuiet (hst : s.Quiet t) (h : t.Attempts label count u) : s.Attempts label count u := by
  obtain ⟨entries, htu, hall⟩ := h.entries
  exact ⟨h.latch.trans hst.latch, entries, (RunState.Adds.quiet hst).append htu, hall⟩

theorem thenQuiet (h : s.Attempts label count t) (htu : t.Quiet u) : s.Attempts label count u := by
  obtain ⟨entries, hst, hall, hnumbers⟩ := h.entries
  refine ⟨htu.latch.trans h.latch, entries, ?_, hall, hnumbers⟩
  have hsu := hst.append (.quiet htu)
  rwa [List.append_nil] at hsu

/-- One more attempt. -/
theorem next {calls : List Call} (h : s.Attempts label count t)
    (htu : Run.Exchange (t.recorded (.attempted label count)) calls u) : s.Attempts label (count + 1) u := by
  obtain ⟨entries, hst, hall, hnumbers⟩ := h.entries
  obtain ⟨called, hcalled, hevents, -⟩ := htu.entries
  have hcall : ∀ x ∈ called, ∃ c, x.event = .called c := by
    intro x hx
    obtain ⟨c, -, hc⟩ := List.mem_map.mp (hevents ▸ List.mem_map_of_mem hx)
    exact ⟨c, hc.symm⟩
  refine ⟨htu.latch_eq.trans h.latch, _, hst.append ((RunState.Adds.recorded _ t).append hcalled), fun x hx => ?_, ?_⟩
  · simp only [List.mem_append, List.mem_singleton] at hx
    rcases hx with hx | rfl | hx
    · exact hall x hx
    · rfl
    · obtain ⟨c, hc⟩ := hcall x hx
      rw [hc]
      rfl
  · have hnone : called.filterMap (·.event.attempt?) = [] := by
      refine List.filterMap_eq_nil_iff.mpr fun x hx => ?_
      obtain ⟨c, hc⟩ := hcall x hx
      rw [hc]
      rfl
    have hnumber : Event.attempt? (.attempted label count) = some (label, count) := rfl
    simp only [List.filterMap_append, List.filterMap_cons, hnumber, hnumbers, hnone,
      List.singleton_append, List.range_succ, List.map_append, List.map_cons, List.map_nil]

end RunState.Attempts

namespace Engine

/-- What is noted before the attempt of a number, of so many at most. -/
def retryNotice (label : String) (n most : Nat) : Notice :=
  ⟨.warn, "Retrying '" ++ label ++ "' (" ++ toString n ++ "/" ++ toString (most - 1) ++ ")"⟩

/-- So many attempts at a step failed without leaving the run halted, and each of them is made again. -/
inductive Retried (label : String) (x : Run σ Attempt) (most : Nat) (s : RunState σ) : Nat → RunState σ → Prop where
  | start : Retried label x most s 0 s
  | again {n : Nat} {t u : RunState σ} {a : Attempt} : Retried label x most s n t →
      (started label x n).run t = (.ok a, u) → a.passed = false → u.isHalted = false →
      Retried label x most s (n + 1) (u.noted (retryNotice label (n + 1) most))

/-- The attempt of a number, of `most` at most, is the last one: those before it were made again, and it is not. -/
structure IsLast (label : String) (x : Run σ Attempt) (most : Nat) (s : RunState σ) (n : Nat)
    (r : Except Abort Attempt) (u : RunState σ) : Prop where
  run : ∃ t, Retried label x most s n t ∧ (started label x n).run t = (r, u)
  lt : n < most
  ends : ∀ a, r = .ok a → a.passed = true ∨ u.isHalted = true ∨ n + 1 = most

variable {label : String} {x : Run σ Attempt} {most : Nat} {s : RunState σ}

/-- Retrying ends with the last attempt. -/
theorem exists_run_retrying {left n : Nat} {t : RunState σ} (hmost : n + left + 1 = most)
    (h : Retried label x most s n t) :
    ∃ k r u, IsLast label x most s k r u ∧ (retrying label x left n).run t = (r.map (·, k), u) := by
  induction left generalizing n t with
  | zero =>
    rcases hrun : (started label x n).run t with ⟨c | a, u⟩
    · exact ⟨n, .error c, u, ⟨⟨t, h, hrun⟩, by omega, nofun⟩, Run.run_bind_of_error hrun _⟩
    · exact ⟨n, .ok a, u, ⟨⟨t, h, hrun⟩, by omega, fun _ _ => .inr (.inr (by omega))⟩, Run.run_bind_of_ok hrun _⟩
  | succ left ih =>
    unfold retrying
    rcases hrun : (started label x n).run t with ⟨c | a, u⟩
    · exact ⟨n, .error c, u, ⟨⟨t, h, hrun⟩, by omega, nofun⟩, Run.run_bind_of_error hrun _⟩
    · rw [Run.run_bind_of_ok hrun]
      cases hpassed : a.passed with
      | true =>
        refine ⟨n, .ok a, u, ⟨⟨t, h, hrun⟩, by omega, fun b hb => ?_⟩, rfl⟩
        cases hb
        exact .inl hpassed
      | false =>
        rw [if_neg Bool.false_ne_true, Run.run_bind_of_ok (Run.run_isHalted u)]
        cases hhalted : u.isHalted with
        | true => exact ⟨n, .ok a, u, ⟨⟨t, h, hrun⟩, by omega, fun _ _ => .inr (.inl hhalted)⟩, rfl⟩
        | false =>
          rw [if_neg Bool.false_ne_true, Run.run_bind_of_ok (Run.run_note _ _ u)]
          refine ih (by omega) ?_
          have hagain := h.again hrun hpassed hhalted
          rwa [retryNotice, show most - 1 = n + left + 1 by omega] at hagain

/-- The attempts up to the last one at a step that does not nest, and how the last one can end. -/
theorem IsLast.attempts (hx : Run.Converses Conversation x) {n : Nat} {r : Except Abort Attempt} {u : RunState σ}
    (h : IsLast label x most s n r u) : s.Attempts label (n + 1) u ∧ ∀ c, r = .error c → c = .panic := by
  have hone : ∀ {k : Nat} {r : Except Abort Attempt} {t u : RunState σ}, s.Attempts label k t →
      (started label x k).run t = (r, u) →
      s.Attempts label (k + 1) u ∧ ∀ c, r = .error c → c = .panic := by
    intro k r t u ht hrun
    obtain ⟨calls, -, hcalls, hend, -⟩ := hx (t.recorded (.attempted label k))
    have hbody : x.run (t.recorded (.attempted label k)) = (r, u) :=
      (Run.run_bind_of_ok (Run.run_record _ t) _).symm.trans hrun
    rw [hbody] at hcalls hend
    refine ⟨ht.next hcalls, fun c hc => ?_⟩
    cases hc
    simpa [Abort.of?] using hend
  have hretried : ∀ {k : Nat} {t : RunState σ}, Retried label x most s k t → s.Attempts label k t := by
    intro k t hk
    induction hk with
    | start => exact .quiet (.refl s)
    | again _ hrun _ _ ih => exact (hone ih hrun).1.thenQuiet (.noted _ _)
  obtain ⟨t, ht, hrun⟩ := h.run
  exact hone (hretried ht) hrun

/-- No attempt at a step that does not nest is too deep. -/
theorem contained_of_converses (hx : Run.Converses Conversation x) (level : Nat) : contained label level x = x := by
  funext s
  obtain ⟨-, -, -, hend, -⟩ := hx s
  show (contained label level x).run s = x.run s
  rw [run_contained]
  split
  case h_1 hrun => simp [hrun, Abort.of?] at hend
  case h_2 => rfl

variable (e : Engine σ) {step : Step}

theorem body_converses (hstep : step.kind.isNested = false) (nest : Nest σ) (label : String) (level : Nat)
    (index : Option Nat) : Run.Converses Conversation (e.body nest step label level index) := by
  cases step with
  | api head p => exact e.api_converses head p label index
  | sql head p => exact e.sql_converses p label index
  | caseRef | foreach => cases hstep

theorem maxAttempts_pos (step : Step) : 0 < step.maxAttempts := by
  unfold Step.maxAttempts
  split <;> omega

theorem maxAttempts_le (step : Step) : step.maxAttempts ≤ 4294967295 := by
  unfold Step.maxAttempts
  split <;> omega

/-- A finished step is reported, without what need not be logged, and a failure may halt the run. -/
theorem exists_run_finish (step : Step) (r : StepResult) (s : RunState σ) :
    ∃ t, (e.finish step r).run s =
        (.ok (if e.options.onlyFailedLog && isSuppressed step r then r.stripped else r), t) ∧
      (t.latch = if r.isFailed = true ∧ e.options.failedStop = true ∧ s.isHalted = false then some .failedStop
        else s.latch) ∧ t.calls = s.calls := by
  unfold finish
  simp only
  have hfailed : (if e.options.onlyFailedLog && isSuppressed step r then r.stripped else r).isFailed = r.isFailed := by
    split <;> simp [StepResult.isFailed]
  generalize (if e.options.onlyFailedLog && isSuppressed step r then r.stripped else r) = r' at hfailed ⊢
  obtain ⟨_, t, hnote, hst, -⟩ := noteOutcome_silent r' s
  rw [Run.run_bind_of_ok hnote, Run.latchFailedStop, run_settle, hfailed, hst.isHalted]
  have hreported : (t.recorded (.reported r')).calls = s.calls := (RunState.calls_recorded rfl t).trans hst.calls
  refine ⟨_, rfl, ?_⟩
  split
  case isTrue hstop =>
    refine ⟨RunState.latch_latched _ (hst.isHalted.trans hstop.2.2), ?_⟩
    exact (RunState.calls_recorded rfl _).trans ((RunState.calls_latched _ _).trans hreported)
  case isFalse => exact ⟨hst.latch, hreported⟩

/-- A step whose run condition is met is attempted. -/
theorem run_executeWith_met (nest : Nest σ) (step : Step) (labels : String) (level : Nat) (index : Option Nat)
    {s : RunState σ} (hawake : s.isHalted = false)
    (hmet : ∀ condition, step.head.controller.runCondition = some condition →
      e.ev.condition condition s.scope index = .ok true) :
    (e.executeWith nest step labels level index).run s =
      (e.attempts nest step (labels ++ step.head.name) level index).run s := by
  unfold executeWith
  rw [Run.run_bind_of_ok (Run.run_isHalted s), hawake, if_neg Bool.false_ne_true]
  cases hcondition : step.head.controller.runCondition with
  | none => rfl
  | some condition => simp only [Run.run_bind_of_ok (Run.run_scope s), hmet condition hcondition]

/-- In a run that is not halted a step whose run condition is met is attempted until an attempt passes, the run is
halted or no retry is left.  It comes to what its last attempt came to, with the number of the attempts before that one,
and a failed step stops the run only then.  A nested step is attempted once. -/
theorem steps_are_retried (step : Step) (labels : String) (level : Nat) (index : Option Nat) {s : RunState σ}
    (hawake : s.isHalted = false)
    (hmet : ∀ condition, step.head.controller.runCondition = some condition →
      e.ev.condition condition s.scope index = .ok true) :
    let label := labels ++ step.head.name
    let attempt := contained label level (e.body e.group step label level index)
    ∃ s' n r u, (noteDelay step label).run s = (.ok (), s') ∧ IsLast label attempt step.maxAttempts s' n r u ∧
      (step.kind.isNested = false →
        step.maxAttempts = min (step.head.controller.retryCount.toNat + 1) 4294967295 ∧
        s.Attempts label (n + 1) u ∧ u.latch = none ∧ ∀ c, r = .error c → c = .panic) ∧
      (step.kind.isNested = true → n = 0) ∧
      (∀ c, r = .error c → (e.execute step labels level index).run s = (.error c, u)) ∧
      ∀ a, r = .ok a → ∃ result v, (e.execute step labels level index).run s = (.ok result, v) ∧
        (let full := a.result step label n
        result = if e.options.onlyFailedLog && isSuppressed step full then full.stripped else full) ∧
        result.status = a.status ∧ result.retries.toNat = n ∧
        v.latch = if a.passed = false ∧ e.options.failedStop = true ∧ u.isHalted = false then some .failedStop
          else u.latch := by
  intro label attempt
  obtain ⟨_, s', hdelay, hquiet, -⟩ := noteDelay_silent step label s
  have hpos := maxAttempts_pos step
  have hmax := maxAttempts_le step
  have hmost : 0 + (step.maxAttempts - 1) + 1 = step.maxAttempts := by omega
  have hstart : Retried label attempt step.maxAttempts s' 0 s' := .start
  obtain ⟨n, r, u, hlast, hretrying⟩ := exists_run_retrying hmost hstart
  have hexecute : (e.execute step labels level index).run s =
      (retrying label attempt (step.maxAttempts - 1) 0 >>= fun p => e.finish step (p.1.result step label p.2)).run s' := by
    rw [execute, run_executeWith_met e e.group step labels level index hawake hmet]
    exact Run.run_bind_of_ok hdelay _
  refine ⟨s', n, r, u, hdelay, hlast, fun hleaf => ?_, fun hnested => ?_, fun c hc => ?_, fun a ha => ?_⟩
  · have hconverses := body_converses e hleaf e.group label level index
    have hattempt : attempt = e.body e.group step label level index := contained_of_converses hconverses level
    obtain ⟨hattempts, hpanic⟩ := IsLast.attempts (hattempt ▸ hconverses) hlast
    have hawake' : s'.latch = none := RunState.latch_of_not_isHalted (hquiet.isHalted.trans hawake)
    refine ⟨by simp [Step.maxAttempts, hleaf], ?_, hattempts.latch.trans hawake', hpanic⟩
    exact hattempts.afterQuiet hquiet
  · have hlt := hlast.lt
    simp only [Step.maxAttempts, hnested, if_true] at hlt
    omega
  · rw [hexecute, Run.run_bind_of_error (by rw [hretrying, hc]; rfl)]
  · obtain ⟨v, hfinish, hlatch, -⟩ := exists_run_finish e step (a.result step label n) u
    rw [hexecute, Run.run_bind_of_ok (by rw [hretrying, ha]; rfl), hfinish]
    have hlt := hlast.lt
    have hnumber : (UInt32.ofNat n).toNat = n := by
      rw [UInt32.toNat_ofNat']
      omega
    refine ⟨_, v, rfl, rfl, ?_, ?_, ?_⟩
    · split
      · exact StepResult.status_stripped _
      · rfl
    · split
      · rw [StepResult.retries_stripped]
        exact hnumber
      · exact hnumber
    · simp only [hlatch, Attempt.isFailed_result, Bool.not_eq_true']

/-- A database that refuses the first statement and breaks off after the second one. -/
def flakyStep : Step :=
  .sql ⟨1, "ask", 0, true, { Controller.default with retryCount := 4 }, none⟩ ⟨"main", none, "select 1", some "row"⟩

/-- The step passes at its third attempt, with the failures of the first two counted. -/
theorem third_attempt_passes :
    let s : RunState Nat := .start .empty false 0
    let attempt := contained "ask" 0 (flakyEngine.body flakyEngine.group flakyStep "ask" 0 none)
    s.isHalted = false ∧ flakyStep.head.controller.runCondition = none ∧
    ∃ a u result v, IsLast "ask" attempt 5 s 2 (.ok a) u ∧
      (flakyEngine.execute flakyStep "" 0 none).run s = (.ok result, v) ∧
      result.status = .success ∧ result.retries = 2 := by
  intro s attempt
  have hrun : ((flakyEngine.execute flakyStep "" 0 none).run s).1.toOption.map (fun r => (r.status, r.retries)) =
      some (.success, 2) := by
    decide +kernel
  obtain ⟨s', n, r, u, hdelay, hlast, -, -, herror, hok⟩ :=
    flakyEngine.steps_are_retried flakyStep "" 0 none (s := s) rfl nofun
  cases hdelay
  rcases r with c | a
  · rw [herror c rfl] at hrun
    cases hrun
  · obtain ⟨result, v, hout, -, -, hretries, -⟩ := hok a rfl
    rw [hout] at hrun
    obtain ⟨hstatus, hnumber⟩ := Prod.mk.inj (Option.some.inj hrun)
    obtain rfl : n = 2 := by rw [← hretries, hnumber]; rfl
    exact ⟨rfl, rfl, a, u, result, v, hlast, hout, hstatus, hnumber⟩

end Engine

end Casebook
