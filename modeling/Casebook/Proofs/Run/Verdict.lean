import Mathlib.Data.List.Forall2
import Casebook.Proofs.Run.Growth
import Casebook.Proofs.Run.Recursion

/-! What the runs of steps come to.  Each lemma reads off a part of a run that came to a value how it got there;
together they say of every result of a group whose result it is, and which groups ran inside of it, and when. -/
namespace Casebook

namespace Engine

open Run (Returns Grows Happens)

variable {σ : Type} (e : Engine σ)

/-- The bound of a loop allows an iteration and the run is not halted, but the break condition has no answer. -/
def BreaksDown (bound : LoopBound) (breakCondition : Option String) (iteration : Nat) (s : RunState σ)
    (cause : ResolutionError) : Prop :=
  bound.allows iteration = true ∧ s.isHalted = false ∧ ∃ condition, breakCondition = some condition ∧
    e.ev.condition condition s.scope (some iteration) = .error cause

/-- The iterations of a loop between two moments, and what was wrong with its break condition at the second. -/
structure Iterated (bound : LoopBound) (breakCondition : Option String) (steps : List Step) (labels : String)
    (level : Nat) (iterations : List IterationResult) (fault : Option ResolutionError) (s t : RunState σ) : Prop where
  each : ∀ k i, iterations[k]? = some i →
    i = .mk (UInt64.ofNat k) (StepResult.overall i.steps) i.steps ∧
      Happens (e.group steps labels level (some k)) i.steps s t
  fault : ∀ cause, fault = some cause ↔ e.BreaksDown bound breakCondition iterations.length t cause

/-- What an attempt at a step of a label and a level came to, between two moments. -/
inductive Comes (label : String) (level : Nat) (index : Option Nat) (s t : RunState σ) : Step → Attempt → Prop where
  | refused (step : Step) (message : String) : Comes label level index s t step (.refused message)
  | api (head : StepHead) (p : ApiParams) {a : Attempt} (log : RequestLog) :
    a.output = some (.api log) → Comes label level index s t (.api head p) a
  | sql (head : StepHead) (p : SqlParams) {a : Attempt} (log : SqlLog) :
    a.output = some (.sql log) → Comes label level index s t (.sql head p) a
  | case (head : StepHead) {caseId : CaseId} {steps : List Step} {results : List StepResult} :
    e.repository.steps caseId = .ok steps → Happens (e.group steps (label ++ "-") level index) results s t →
    Comes label level index s t (.caseRef head caseId)
      ⟨StepResult.overall results == .success, none, some (.case results)⟩
  | loop (head : StepHead) {times : Json.Value} {breakCondition : Option String} {own steps : List Step}
      {bound : LoopBound} {a : Attempt} {u v : RunState σ} :
    s.IsBefore u → LoopBound.resolve e.ev times u.scope index = .ok bound → e.loopBody head.id own = .ok steps →
    (e.loop e.group head breakCondition bound steps (label ++ "-") level).run u = (.ok a, v) → v.IsBefore t →
    Comes label level index s t (.foreach head times breakCondition own) a

/-- What a step of a group came to, between two moments. -/
inductive Verdict (labels : String) (level : Nat) (index : Option Nat) (s t : RunState σ) (step : Step) :
    StepResult → Prop where
  | disabled : step.enabled = false →
    Verdict labels level index s t step (.bare step.id (labels ++ step.head.name) step.kind.name .disabled)
  /-- A step that was not attempted. -/
  | unstarted {status : Status} (message : Option String) : step.enabled = true → status = .skip ∨ status = .failed →
    Verdict labels level index s t step
      (.mk step.id (labels ++ step.head.name) step.kind.name status 0 message none)
  | attempted {a : Attempt} (n : Nat) : step.enabled = true →
    e.Comes (labels ++ step.head.name) (stepLevel step level) index s t step a →
    Verdict labels level index s t step (a.result step (labels ++ step.head.name) n)
  /-- Of a step that passed the log of failures keeps no more. -/
  | stripped {a : Attempt} (n : Nat) : step.enabled = true → a.passed = true →
    Verdict labels level index s t step (a.result step (labels ++ step.head.name) n).stripped

variable {e} {s s' t t' : RunState σ}

theorem Comes.widen {label : String} {level : Nat} {index : Option Nat} {step : Step} {a : Attempt}
    (hs : s'.IsBefore s) (h : e.Comes label level index s t step a) (ht : t.IsBefore t') :
    e.Comes label level index s' t' step a := by
  cases h with
  | refused message => exact .refused step _
  | api head p log h => exact .api head p log h
  | sql head p log h => exact .sql head p log h
  | case head hsteps hgroup => exact .case head hsteps (hgroup.widen hs ht)
  | loop head hu hbound hsteps hloop hv => exact .loop head (hs.trans hu) hbound hsteps hloop (hv.trans ht)

theorem Verdict.widen {labels : String} {level : Nat} {index : Option Nat} {step : Step} {r : StepResult}
    (hs : s'.IsBefore s) (h : e.Verdict labels level index s t step r) (ht : t.IsBefore t') :
    e.Verdict labels level index s' t' step r := by
  cases h with
  | disabled h => exact .disabled h
  | unstarted message henabled hstatus => exact .unstarted message henabled hstatus
  | attempted n henabled hcomes => exact .attempted n henabled (hcomes.widen hs ht)
  | stripped n henabled hpassed => exact .stripped n henabled hpassed

/-! ### Loops -/

theorem turn_inversion {name : String} {breakCondition : Option String} {iteration : Nat} {turn : Turn}
    (h : (e.turn name breakCondition iteration).run s = (.ok turn, t)) :
    t.scope = s.scope ∧ t.isHalted = s.isHalted ∧ ∀ cause, turn = .broken cause ↔ s.isHalted = false ∧
      ∃ condition, breakCondition = some condition ∧
        e.ev.condition condition s.scope (some iteration) = .error cause := by
  unfold Engine.turn at h
  rw [Run.run_bind_of_ok (Run.run_isHalted s)] at h
  cases hs : s.isHalted with
  | true =>
    rw [hs] at h
    cases h
    simp [hs]
  | false =>
    simp only [hs, Bool.false_eq_true, if_false] at h
    cases breakCondition with
    | none =>
      cases h
      simp [hs]
    | some condition =>
      simp only at h
      rw [Run.run_bind_of_ok (Run.run_scope s)] at h
      have hnoted : ∀ n, (s.noted n).isHalted = s.isHalted := fun n => (RunState.Quiet.noted n s).isHalted
      cases hcondition : e.ev.condition condition s.scope (some iteration) with
      | error cause =>
        simp only [hcondition] at h
        cases h
        refine ⟨rfl, (hnoted _).trans hs, fun cause' => ?_⟩
        simp [hcondition]
      | ok met =>
        cases met <;> simp only [hcondition] at h <;> cases h
        · simp [hs, hcondition]
        · refine ⟨rfl, (hnoted _).trans hs, fun cause => ?_⟩
          simp [hcondition]

/-- The iterations of a loop one after another, each with its group of steps, and how they ended. -/
theorem iterate_inversion {name : String} {breakCondition : Option String} {body : Nat → Run σ (List StepResult)}
    (hgrows : ∀ i, Grows (body i)) {bounded : Bool} {left start : Nat} {iterations : List IterationResult}
    {fault : Option ResolutionError}
    (h : (iterate (e.turn name breakCondition) body bounded left start).run s = (.ok (iterations, fault), t)) :
    s.IsBefore t ∧ (∀ k i, iterations[k]? = some i →
      i = .mk (UInt64.ofNat (start + k)) (StepResult.overall i.steps) i.steps ∧
        Happens (body (start + k)) i.steps s t) ∧
      (bounded = false → iterations.length < left) ∧
      ∀ cause, fault = some cause ↔ iterations.length < left ∧ t.isHalted = false ∧
        ∃ condition, breakCondition = some condition ∧
          e.ev.condition condition t.scope (some (start + iterations.length)) = .error cause := by
  induction left generalizing start s t iterations fault with
  | zero =>
    unfold iterate at h
    cases bounded with
    | true =>
      cases h
      simpa using RunState.IsBefore.refl s
    | false => cases h
  | succ left ih =>
    unfold iterate at h
    obtain ⟨turn, u, hturn, h⟩ := Run.exists_of_run_bind h
    have hu : s.IsBefore u := (Grows.silent (e.turn_silent name breakCondition start)).eq hturn
    obtain ⟨hscope, hhalted, hbroken⟩ := turn_inversion hturn
    cases turn with
    | stop | broken =>
      cases h
      refine ⟨hu, by simp, by simp, fun cause => ?_⟩
      have hcause := hbroken cause
      rw [hscope, hhalted]
      simpa using hcause
    | go =>
      obtain ⟨_, v, hrecord, h⟩ := Run.exists_of_run_bind h
      obtain ⟨results, w, hbody, h⟩ := Run.exists_of_run_bind h
      obtain ⟨⟨rest, fault'⟩, x, hrest, h⟩ := Run.exists_of_run_bind h
      cases h
      have hv : s.IsBefore v := hu.trans ((Grows.record _).eq hrecord)
      have hw : s.IsBefore w := hv.trans ((hgrows start).eq hbody)
      obtain ⟨hx, heach, hbounded, hfault⟩ := ih hrest
      have hnext : ∀ k, start + 1 + k = start + (k + 1) := by omega
      refine ⟨hw.trans hx, fun k i hk => ?_, fun hb => Nat.succ_lt_succ (hbounded hb), fun cause => ?_⟩
      · cases k with
        | zero =>
          cases hk
          exact ⟨rfl, v, w, hv, hbody, hx⟩
        | succ k =>
          obtain ⟨hi, hsteps⟩ := heach k i hk
          rw [hnext] at hi hsteps
          exact ⟨hi, hsteps.widen hw (.refl _)⟩
      · rw [hfault cause, hnext]
        simp

theorem loop_inversion {h : StepHead} {breakCondition : Option String} {bound : LoopBound} {steps : List Step}
    {labels : String} {level : Nat} {a : Attempt}
    (hrun : (e.loop e.group h breakCondition bound steps labels level).run s = (.ok a, t)) :
    s.IsBefore t ∧ ∃ iterations fault, e.Iterated bound breakCondition steps labels level iterations fault s t ∧
      a = ⟨fault.isNone && iterations.all fun i => i.status == .success,
        fault.map fun cause => "[Foreach] break condition failed: " ++ cause.message,
        some (.foreach iterations)⟩ := by
  unfold loop at hrun
  obtain ⟨_, u, hnote, hrun⟩ := Run.exists_of_run_bind hrun
  obtain ⟨_, v, hrecord, hrun⟩ := Run.exists_of_run_bind hrun
  obtain ⟨⟨iterations, fault⟩, w, hiterate, hrun⟩ := Run.exists_of_run_bind hrun
  cases hrun
  have hv : s.IsBefore v := ((Grows.silent (.note _ _)).eq hnote).trans ((Grows.record _).eq hrecord)
  obtain ⟨hw, heach, hbounded, hfault⟩ := iterate_inversion (fun i => e.group_grows _ _ _ _) hiterate
  have hallows : bound.allows iterations.length = true ↔ iterations.length < e.allowance bound := by
    cases bound with
    | times n => simp [LoopBound.allows, allowance]
    | forever => simpa [LoopBound.allows] using hbounded rfl
  refine ⟨hv.trans hw, iterations, fault, ⟨fun k i hk => ?_, fun cause => ?_⟩, rfl⟩
  · obtain ⟨hi, hsteps⟩ := heach k i hk
    rw [Nat.zero_add] at hi hsteps
    exact ⟨hi, hsteps.widen hv (.refl _)⟩
  · rw [hfault cause, Nat.zero_add, ← hallows]
    rfl

/-! ### Attempts -/

theorem caseRef_inversion {head : StepHead} {caseId : CaseId} {label : String} {level : Nat} {index : Option Nat}
    {a : Attempt} (h : (e.caseRef e.group caseId (label ++ "-") level index).run s = (.ok a, t)) :
    e.Comes label level index s t (.caseRef head caseId) a := by
  unfold caseRef at h
  simp only at h
  split at h
  · rw [Run.run_overflow] at h
    cases h
  · split at h
    · cases h
      exact .refused _ _
    · rename_i steps hsteps
      obtain ⟨_, u, hnote, h⟩ := Run.exists_of_run_bind h
      obtain ⟨_, v, hrecord, h⟩ := Run.exists_of_run_bind h
      obtain ⟨results, w, hgroup, h⟩ := Run.exists_of_run_bind h
      cases h
      have hv : s.IsBefore v := ((Grows.silent (.note _ _)).eq hnote).trans ((Grows.record _).eq hrecord)
      exact .case head hsteps ⟨v, _, hv, hgroup, .refl _⟩

theorem foreach_inversion {head : StepHead} {times : Json.Value} {breakCondition : Option String}
    {own : List Step} {label : String} {level : Nat} {index : Option Nat} {a : Attempt}
    (h : (e.foreach e.group head times breakCondition own (label ++ "-") level index).run s = (.ok a, t)) :
    e.Comes label level index s t (.foreach head times breakCondition own) a := by
  unfold foreach at h
  simp only at h
  split at h
  · rw [Run.run_overflow] at h
    cases h
  · rw [Run.run_bind_of_ok (Run.run_scope s)] at h
    split at h
    · cases h
      exact .refused _ _
    · rename_i bound hbound
      rw [Run.run_bind_of_ok (Run.run_record _ s)] at h
      split at h
      · cases h
        exact .refused _ _
      · rename_i steps hsteps
        exact .loop head (.recorded (.bounded bound) s) hbound hsteps h (.refl t)

/-- A part of a run one nested step deeper came to its value between the same moments. -/
theorem nested_inversion {α : Type} {x : Run σ α} {a : α} (h : (Run.nested x).run s = (.ok a, t)) :
    ∃ u v, s.IsBefore u ∧ x.run u = (.ok a, v) ∧ v.IsBefore t := by
  rw [Run.run_nested] at h
  have hvalue : (x.run { s with depth := s.depth + 1 }).1 = .ok a := congrArg Prod.fst h
  have hstate : { (x.run { s with depth := s.depth + 1 }).2 with depth := s.depth } = t := congrArg Prod.snd h
  refine ⟨{ s with depth := s.depth + 1 }, _, .refl s, Prod.ext hvalue rfl, ?_⟩
  rw [← hstate]
  exact .refl (x.run { s with depth := s.depth + 1 }).2

theorem body_inversion {step : Step} {label : String} {level : Nat} {index : Option Nat} {a : Attempt}
    (h : (e.body e.group step label level index).run s = (.ok a, t)) :
    e.Comes label level index s t step a := by
  cases step with
  | api head p =>
    obtain ⟨log, hlog⟩ := e.api_logs head p label index s a t h
    exact .api head p log hlog
  | sql head p =>
    obtain ⟨log, hlog⟩ := e.sql_logs p label index s a t h
    exact .sql head p log hlog
  | caseRef head caseId =>
    obtain ⟨u, v, hu, h, hv⟩ := nested_inversion h
    exact (caseRef_inversion h).widen hu hv
  | foreach head times breakCondition own =>
    obtain ⟨u, v, hu, h, hv⟩ := nested_inversion h
    exact (foreach_inversion h).widen hu hv

theorem contained_inversion {step : Step} {label : String} {level : Nat} {index : Option Nat} {a : Attempt}
    (h : (contained label level (e.body e.group step label level index)).run s = (.ok a, t)) :
    e.Comes label level index s t step a := by
  rw [run_contained] at h
  split at h
  · split at h <;> cases h
    exact .refused _ _
  · exact body_inversion h

/-- What retrying came to is what the last attempt came to. -/
theorem retrying_inversion {label : String} {x : Run σ Attempt} (hx : Grows x) {left n : Nat}
    {p : Attempt × Nat} (h : (retrying label x left n).run s = (.ok p, t)) : Happens x p.1 s t := by
  have hstarted : ∀ {n s a u}, (started label x n).run s = (.ok a, u) → Happens x a s u :=
    fun {n s a u} h => ⟨_, u, .recorded (.attempted label n) s, h, .refl u⟩
  induction left generalizing n s with
  | zero =>
    obtain ⟨a, u, hattempt, h⟩ := Run.exists_of_run_bind h
    cases h
    exact hstarted hattempt
  | succ left ih =>
    obtain ⟨a, u, hattempt, h⟩ := Run.exists_of_run_bind h
    split at h
    · cases h
      exact hstarted hattempt
    · rw [Run.run_bind_of_ok (Run.run_isHalted u)] at h
      split at h
      · cases h
        exact hstarted hattempt
      · obtain ⟨_, v, hnote, h⟩ := Run.exists_of_run_bind h
        have hu : s.IsBefore u := ((Grows.record (.attempted label n)).bind fun _ => hx).eq hattempt
        exact (ih h).widen (hu.trans ((Grows.silent (.note _ _)).eq hnote)) (.refl t)

/-! ### Steps -/

theorem settle_returns (r : StepResult) (halt : Run σ Unit) : Returns (· = r) (e.settle r halt) := by
  unfold settle
  intro s r' t h
  rw [Run.run_bind_of_ok (Run.run_report r s)] at h
  obtain ⟨_, u, -, h⟩ := Run.exists_of_run_bind h
  cases h
  rfl

theorem finish_returns (step : Step) (r : StepResult) :
    Returns (fun r' => r' = r ∨ r' = r.stripped ∧ isSuppressed step r = true) (e.finish step r) := by
  unfold finish
  refine .bind fun _ => (settle_returns _ _).mono fun r' hr' => ?_
  split at hr'
  case isTrue hsuppressed => exact .inr ⟨hr', (Bool.and_eq_true _ _ ▸ hsuppressed).2⟩
  case isFalse => exact .inl hr'

theorem attempts_inversion {step : Step} {labels : String} {level : Nat} {index : Option Nat} {r : StepResult}
    (henabled : step.enabled = true)
    (h : (e.attempts e.group step (labels ++ step.head.name) (stepLevel step level) index).run s = (.ok r, t)) :
    e.Verdict labels level index s t step r := by
  unfold attempts at h
  obtain ⟨_, u, hdelay, h⟩ := Run.exists_of_run_bind h
  obtain ⟨⟨a, n⟩, v, hretrying, h⟩ := Run.exists_of_run_bind h
  have hu : s.IsBefore u := (Grows.silent (noteDelay_silent step _)).eq hdelay
  have hv : v.IsBefore t := (e.finish_grows step _).eq h
  obtain ⟨_, _, hfirst, hcontained, hlast⟩ :=
    retrying_inversion (.contained _ _ (e.body_grows step _ level index)) hretrying
  have hcomes := (contained_inversion hcontained).widen (hu.trans hfirst) (hlast.trans hv)
  rcases finish_returns _ _ v r t h with rfl | ⟨rfl, hsuppressed⟩
  · exact .attempted n henabled hcomes
  · refine .stripped n henabled ?_
    cases hpassed : a.passed with
    | true => rfl
    | false =>
      have hfailed : (a.result step (labels ++ step.head.name) n).status = .failed := by
        simp [Attempt.result, StepResult.status, Attempt.status, hpassed]
      rw [isSuppressed_failed step _ hfailed] at hsuppressed
      cases hsuppressed

theorem executeWith_inversion {step : Step} {labels : String} {level : Nat} {index : Option Nat} {r : StepResult}
    (henabled : step.enabled = true)
    (h : (e.executeWith e.group step labels (stepLevel step level) index).run s = (.ok r, t)) :
    e.Verdict labels level index s t step r := by
  unfold executeWith at h
  rw [Run.run_bind_of_ok (Run.run_isHalted s)] at h
  split at h
  · obtain ⟨_, u, -, h⟩ := Run.exists_of_run_bind h
    obtain ⟨_, v, -, h⟩ := Run.exists_of_run_bind h
    cases h
    unfold interrupted
    split
    · exact .unstarted none henabled (.inl rfl)
    · exact .unstarted (some _) henabled (.inl rfl)
  · split at h
    · exact attempts_inversion henabled h
    · rw [Run.run_bind_of_ok (Run.run_scope s)] at h
      split at h
      · exact attempts_inversion henabled h
      · obtain ⟨_, u, -, h⟩ := Run.exists_of_run_bind h
        rcases finish_returns _ _ u r t h with rfl | ⟨rfl, -⟩
        · exact .unstarted (some _) henabled (.inl rfl)
        · exact .unstarted none henabled (.inl rfl)
      · obtain ⟨_, u, -, h⟩ := Run.exists_of_run_bind h
        cases settle_returns _ _ u r t h
        exact .unstarted (some _) henabled (.inr rfl)

theorem member_inversion {labels : String} {level : Nat} {index : Option Nat} {step : Step} {r : StepResult}
    (h : (e.member e.group labels level index step).run s = (.ok r, t)) :
    e.Verdict labels level index s t step r := by
  unfold member at h
  rw [Run.run_bind_of_ok (Run.run_record _ s)] at h
  split at h
  case isTrue henabled => exact (executeWith_inversion henabled h).widen (.recorded _ s) (.refl t)
  case isFalse hdisabled =>
    cases h
    exact .disabled (Bool.eq_false_iff.mpr hdisabled)

/-- A group runs its steps in their order, and comes to what they come to. -/
theorem group_members {steps : List Step} {labels : String} {level : Nat} {index : Option Nat}
    {results : List StepResult} (h : (e.group steps labels level index).run s = (.ok results, t)) :
    List.Forall₂ (fun step r => Happens (e.member e.group labels level index step) r s t) (Step.inOrder steps)
      results := by
  rw [e.group_eq level steps labels index] at h
  unfold groupWith at h
  generalize Step.inOrder steps = members at h ⊢
  have hmembers : ∀ {members : List Step} {s t results},
      (members.mapM (e.member e.group labels level index)).run s = (.ok results, t) →
        s.IsBefore t ∧
          List.Forall₂ (fun step r => Happens (e.member e.group labels level index step) r s t) members results := by
    intro members s t results h
    induction members generalizing s results with
    | nil =>
      cases h
      exact ⟨.refl _, .nil⟩
    | cons step members ih =>
      rw [List.mapM_cons] at h
      obtain ⟨r, u, hmember, h⟩ := Run.exists_of_run_bind h
      obtain ⟨rs, v, hmembers, h⟩ := Run.exists_of_run_bind h
      cases h
      have hu : s.IsBefore u := (e.member_grows labels level index step).eq hmember
      obtain ⟨hv, hrs⟩ := ih hmembers
      exact ⟨hu.trans hv, .cons ⟨s, u, .refl s, hmember, hv⟩ (hrs.imp fun _ _ hr => hr.widen hu (.refl _))⟩
  exact (hmembers h).2

/-- A group comes to one result for each of its steps, in their order. -/
theorem group_inversion {steps : List Step} {labels : String} {level : Nat} {index : Option Nat}
    {results : List StepResult} (h : (e.group steps labels level index).run s = (.ok results, t)) :
    List.Forall₂ (e.Verdict labels level index s t) (Step.inOrder steps) results :=
  (group_members h).imp fun _ _ ⟨_, _, hu, hmember, hv⟩ => (member_inversion hmember).widen hu hv

/-- The report on a case is about its steps and the state that they leave. -/
theorem runCase_inversion {caseId : CaseId} {report : CaseReport}
    (h : (e.runCase caseId).run s = (.ok report, t)) :
    ∃ info steps results u v, e.repository.steps caseId = .ok steps ∧ s.Quiet u ∧
      (e.group steps "" 0 none).run u = (.ok results, v) ∧ v.Quiet t ∧ report = e.reportOf info results v := by
  have hlift : ∀ {α : Type} {r : Except RepositoryError α} {a : α} {s t : RunState σ},
      (runCase.liftExcept r).run s = (.ok a, t) → r = .ok a ∧ s = t := by
    intro α r a s t h
    cases r with
    | error cause => cases h
    | ok a' =>
      cases h
      exact ⟨rfl, rfl⟩
  unfold runCase at h
  obtain ⟨info, u, hinfo, h⟩ := Run.exists_of_run_bind h
  obtain ⟨steps, v, hsteps, h⟩ := Run.exists_of_run_bind h
  obtain ⟨_, w, hnote, h⟩ := Run.exists_of_run_bind h
  obtain ⟨results, x, hgroup, h⟩ := Run.exists_of_run_bind h
  obtain ⟨-, hu⟩ := hlift hinfo
  obtain ⟨hok, hv⟩ := hlift hsteps
  have hw : s.Quiet w := by
    rw [hu, hv]
    cases hnote
    exact .noted _ v
  cases h
  exact ⟨info, steps, results, w, x, hok, hw, hgroup, .noted _ x, rfl⟩

end Engine

end Casebook
