import Casebook.Proofs.Run.EngineCourse

/-! Steps that need something the repository does not have.  They fail, and the run goes on. -/
namespace Casebook

/-- From states with a property a part of a run keeps it and comes to results of a kind, unless the
transport breaks down or a step nests too deep. -/
def Run.Ensures {σ α : Type} (I : RunState σ → Prop) (P : α → Prop) (x : Run σ α) : Prop :=
  ∀ s, I s → I (x.run s).2 ∧ (∀ a, (x.run s).1 = .ok a → P a) ∧
    ∀ c, (x.run s).1 = .error c → c = .panic ∨ ∃ kind limit, c = .tooDeep kind limit

namespace Run.Ensures

variable {σ α β : Type} {I : RunState σ → Prop} {P : α → Prop} {Q : β → Prop}

theorem pure {a : α} (h : P a) : Ensures I P (Pure.pure a) := by
  refine fun s hs => ⟨hs, fun b hb => ?_, nofun⟩
  cases hb
  exact h

theorem bind {x : Run σ α} {k : α → Run σ β} (hx : Ensures I P x)
    (hk : ∀ a, P a → Ensures I Q (k a)) : Ensures I Q (x >>= k) := by
  intro s hs
  obtain ⟨ht, ha, hc⟩ := hx s hs
  rcases h : x.run s with ⟨c | a, t⟩
  · rw [h] at ht hc
    rw [run_bind_of_error h]
    exact ⟨ht, nofun, fun c' hc' => hc c' (by cases hc'; rfl)⟩
  · rw [h] at ht ha
    rw [run_bind_of_ok h]
    exact hk a (ha a rfl) t ht

theorem mono {P' : α → Prop} {x : Run σ α} (hx : Ensures I P x) (h : ∀ a, P a → P' a) :
    Ensures I P' x := by
  intro s hs
  obtain ⟨ht, ha, hc⟩ := hx s hs
  exact ⟨ht, fun a hrun => h a (ha a hrun), hc⟩

end Run.Ensures

namespace Engine

open Run (Ensures)

variable {σ : Type} (e : Engine σ)

/-- The environment of a run is not at hand, in a case where that matters. -/
def Uncached (P : Prop) (s : RunState σ) : Prop := P → s.environments.lookup e.options.envId = none

/-- What a step needs and the repository does not have; an environment is only asked for where none
is at hand. -/
inductive Lacks (cause : RepositoryError) (s : RunState σ) : Step → Prop where
  | case (head : StepHead) {caseId : CaseId} :
    e.repository.steps caseId = .error cause → Lacks cause s (.caseRef head caseId)
  | tree {head : StepHead} (times : Json.Value) (breakCondition : Option String) :
    e.repository.loopTree head.id = .error cause →
      Lacks cause s (.foreach head times breakCondition [])
  | database (head : StepHead) (p : SqlParams) : s.environments.lookup e.options.envId = none →
    e.repository.environment e.options.envId = .error cause → Lacks cause s (.sql head p)
  | host (head : StepHead) {p : ApiParams} : p.hostSource = .environment →
    s.environments.lookup e.options.envId = none →
      e.repository.environment e.options.envId = .error cause →
    Lacks cause s (.api head p)
  | rules {head : StepHead} (p : ApiParams) : e.repository.rules head.id = .error cause →
      Lacks cause s (.api head p)

/-! ### Parts of attempts -/

section

variable {e} {P : Prop}

theorem note_ensures (level : NoticeLevel) (text : String) :
    Ensures (e.Uncached P) (fun _ => True) (Run.note level text) :=
      fun _ hs => ⟨hs, fun _ _ => trivial, nofun⟩

theorem scope_ensures :
    Ensures (e.Uncached P) (fun _ => True) Run.scope := fun _ hs => ⟨hs, fun _ _ => trivial, nofun⟩

theorem setScope_ensures (scope : Scope) :
    Ensures (e.Uncached P) (fun _ => True) (Run.setScope scope) :=
  fun _ hs => ⟨hs, fun _ _ => trivial, nofun⟩

theorem record_ensures (event : Event) :
    Ensures (e.Uncached P) (fun _ => True) (Run.record event) :=
  fun _ hs => ⟨hs, fun _ _ => trivial, nofun⟩

theorem overflow_ensures {α : Type} {Q : α → Prop} (kind : StepKind) (limit : UInt32) :
    Ensures (e.Uncached P) Q (Run.overflow kind limit) := by
  intro s hs
  rw [Run.run_overflow]
  refine ⟨hs, nofun, fun c hc => ?_⟩
  cases hc
  exact .inr ⟨kind, limit, rfl⟩

theorem call_ensures {α : Type} (c : Call) (f : σ → Reply α × σ) :
    Ensures (e.Uncached P) (fun _ => True) (Run.call c f) :=
  fun _ hs => ⟨hs, fun _ _ => trivial, nofun⟩

end

variable {P : Prop}

theorem latch_ensures (halt : Halt) (level : NoticeLevel) (text : String) :
    Ensures (e.Uncached P) (fun _ => True) (Run.latch halt level text) := by
  intro s hs
  rw [Run.run_latch]
  split
  · exact ⟨hs, fun _ _ => trivial, nofun⟩
  · have henvironments : ((s.noted ⟨level, text⟩).latched halt).environments = s.environments := by
      unfold RunState.latched
      split <;> rfl
    exact ⟨fun h => henvironments ▸ hs h, fun _ _ => trivial, nofun⟩

theorem environment_ensures {cause : RepositoryError}
    (hP : P → e.repository.environment e.options.envId = .error cause) :
    Ensures (e.Uncached P) (fun r => P → r = .error cause) e.environment := by
  intro s hs
  unfold environment
  rw [Run.run_bind, Run.run_get]
  simp only
  split
  case h_1 env henv =>
    refine ⟨hs, fun r _ h => ?_, nofun⟩
    rw [hs h] at henv
    cases henv
  case h_2 =>
    split
    case h_1 cause' hcause' =>
      refine ⟨hs, fun r hr h => ?_, nofun⟩
      cases hr
      exact hcause'.symm.trans (hP h) ▸ rfl
    case h_2 env henv =>
      have hvacuous : ∀ {p : Prop}, P → p := by
        intro p h
        rw [hP h] at henv
        cases henv
      exact ⟨fun h => hvacuous h, fun r _ h => hvacuous h, nofun⟩

theorem writeVariables_ensures (p : ApiParams) (label : String) (index : Option Nat) :
    Ensures (e.Uncached P) (fun _ => True) (e.writeVariables p label index) := by
  unfold writeVariables
  split
  · exact .pure trivial
  · refine .bind scope_ensures fun scope _ => .bind (setScope_ensures _) fun _ _ =>
      .bind (P := fun _ => True) ?_ ?_
    · generalize (e.ev.resolveParams _ _ index scope).written = written
      induction written with
      | nil => exact .pure trivial
      | cons pair written ih => exact .bind (note_ensures _ _) fun _ _ => ih
    · exact fun _ _ => .pure trivial

theorem environmentUrl_ensures (p : ApiParams) {cause : RepositoryError}
    (hP : P → p.hostSource = .environment ∧ e.repository.environment e.options.envId = .error cause) :
    Ensures (e.Uncached P) (fun url => P → url = .error cause) (e.environmentUrl p) := by
  unfold environmentUrl
  split
  · refine .bind (e.environment_ensures fun h => (hP h).2) fun r hr => .pure fun h => ?_
    rw [hr h]
    rfl
  case isFalse hsource => exact .pure fun h => absurd (hP h).1 hsource

/-- No request is made without a host. -/
theorem run_draft_of_hostText (p : ApiParams) (ev : Evaluator) (index : Option Nat)
    {url : Except RepositoryError String} (timeoutSecs : UInt64) {d : Draft} {fault : StepFault}
    (h : p.hostText ev index url d.scope = .error fault) :
    (p.draft ev index url timeoutSecs).run d = (.error fault, d) := by
  have hlift : ∀ {r : Except StepFault String} (k : String → Drafting HttpRequest),
    r = .error fault →
      ((liftM r : Drafting String) >>= k).run d = (.error fault, d) := by
    rintro _ k rfl
    rfl
  unfold ApiParams.draft
  exact hlift _ h

theorem makeRequest_ensures (h : StepHead) (p : ApiParams) (index : Option Nat)
    (url : Except RepositoryError String) (log : RequestLog) :
    Ensures (e.Uncached P) (fun made => p.hostSource = .environment → ∀ cause, url = .error cause →
      ∃ fault, made.1 = .error fault) (e.makeRequest h p index url log) := by
  unfold makeRequest
  refine .bind scope_ensures fun scope _ => .bind (setScope_ensures _) fun _ _ =>
    .pure fun hsource cause hurl => ?_
  have hhost : p.hostText e.ev index url scope = .error (.environment cause) := by
    unfold ApiParams.hostText
    rw [hsource, hurl]
    rfl
  exact ⟨_, congrArg Prod.fst (run_draft_of_hostText p e.ev index _ hhost)⟩

theorem send_ensures (request : HttpRequest) :
    Ensures (e.Uncached P) (fun _ => True) (e.send request) := by
  unfold send
  refine .bind (call_ensures _ _) fun answer _ => ?_
  split
  · exact .pure trivial
  · refine fun s hs => ⟨hs, nofun, fun c hc => ?_⟩
    cases hc
    exact .inl rfl

theorem judge_ensures (h : StepHead) (p : ApiParams) (label : String) (index : Option Nat)
    (response : HttpResponse) (log : RequestLog) :
    Ensures (e.Uncached P)
      (fun a => ∀ cause, e.repository.rules h.id = .error cause → a.passed = false)
      (e.judge h p label index response log) := by
  unfold judge
  split
  · refine .bind scope_ensures fun scope _ => .bind (setScope_ensures _) fun _ _ =>
      .pure fun cause hcause => ?_
    rw [hcause]
    rfl
  · exact .pure fun _ _ => rfl

theorem sqlTarget_ensures (p : SqlParams) {cause : RepositoryError}
    (hP : P → e.repository.environment e.options.envId = .error cause) :
    Ensures (e.Uncached P) (fun target => P → ∃ fault, target = .error fault) (e.sqlTarget p) := by
  unfold sqlTarget
  refine .bind (e.environment_ensures hP) fun r hr => ?_
  split
  · exact .pure fun _ => ⟨_, rfl⟩
  case h_2 env =>
    split
    · exact .pure fun h => by cases hr h
    · exact .pure fun h => by cases hr h

/-! ### Attempts -/

theorem api_ensures (h : StepHead) (p : ApiParams) (label : String) (index : Option Nat)
    {cause : RepositoryError}
    (hP : P → p.hostSource = .environment ∧ e.repository.environment e.options.envId = .error cause)
    (hlacks : P ∨ e.repository.rules h.id = .error cause) :
    Ensures (e.Uncached P) (·.passed = false) (e.api h p label index) := by
  unfold api
  refine .bind (e.writeVariables_ensures p label index) fun written _ => ?_
  split
  · exact .pure rfl
  · refine .bind (e.environmentUrl_ensures p hP) fun url hurl => ?_
    refine .bind (e.makeRequest_ensures h p index url _) fun made hmade => ?_
    split
    split
    · exact .pure rfl
    · refine .bind (e.send_ensures _) fun answer _ => ?_
      split
      · exact .pure rfl
      · rcases hlacks with hhost | hrules
        · obtain ⟨fault, hfault⟩ := hmade (hP hhost).1 cause (hurl hhost)
          cases hfault
        · exact (e.judge_ensures h p label index _ _).mono fun a ha => ha cause hrules

theorem sql_ensures (p : SqlParams) (label : String) (index : Option Nat) {cause : RepositoryError}
    (henvironment : e.repository.environment e.options.envId = .error cause) :
    Ensures (e.Uncached True) (·.passed = false) (e.sql p label index) := by
  unfold sql
  refine .bind (e.sqlTarget_ensures p fun _ => henvironment) fun target htarget => ?_
  obtain ⟨fault, rfl⟩ := htarget trivial
  exact .pure rfl

theorem caseRef_ensures (nest : Nest σ) {caseId : CaseId} (labels : String) (level : Nat)
    (index : Option Nat) {cause : RepositoryError}
    (hsteps : e.repository.steps caseId = .error cause) :
    Ensures (e.Uncached P) (·.passed = false) (e.caseRef nest caseId labels level index) := by
  unfold caseRef
  rw [hsteps]
  simp only
  split
  · exact overflow_ensures _ _
  · exact .pure rfl

theorem foreach_ensures (nest : Nest σ) {h : StepHead} (times : Json.Value)
    (breakCondition : Option String) (labels : String) (level : Nat) (index : Option Nat)
    {cause : RepositoryError} (htree : e.repository.loopTree h.id = .error cause) :
    Ensures (e.Uncached P) (·.passed = false)
      (e.foreach nest h times breakCondition [] labels level index) := by
  have hbody : e.loopBody h.id [] = .error cause := by
    unfold loopBody
    rw [htree]
    rfl
  unfold foreach
  rw [hbody]
  simp only
  split
  · exact overflow_ensures _ _
  · refine .bind scope_ensures fun scope _ => ?_
    split
    · exact .pure rfl
    · exact .bind (record_ensures _) fun _ _ => .pure rfl

/-- No attempt at a step that lacks something passes. -/
theorem exists_body_ensures (nest : Nest σ) {step : Step} (label : String) (level : Nat)
    (index : Option Nat) {cause : RepositoryError} {s : RunState σ}
    (hlacks : e.Lacks cause s step) :
    ∃ P, e.Uncached P s ∧
      Ensures (e.Uncached P) (·.passed = false) (e.body nest step label level index) := by
  have hnested : ∀ {x : Run σ Attempt}, Ensures (e.Uncached False) (·.passed = false) x →
      Ensures (e.Uncached False) (·.passed = false) (Run.nested x) :=
    fun hx s hs => hx { s with depth := s.depth + 1 } hs
  cases hlacks with
  | case _ hsteps => exact ⟨False, nofun, hnested (e.caseRef_ensures nest _ level index hsteps)⟩
  | tree times breakCondition htree =>
    exact ⟨False, nofun, hnested (e.foreach_ensures nest times breakCondition _ level index htree)⟩
  | database _ p hnone henvironment =>
    exact ⟨True, fun _ => hnone, e.sql_ensures p label index henvironment⟩
  | host h hsource hnone henvironment =>
    exact ⟨True, fun _ => hnone, e.api_ensures h _ label index (fun _ => ⟨hsource, henvironment⟩)
      (.inl trivial)⟩
  | rules p hrules => exact ⟨False, nofun, e.api_ensures _ p label index nofun (.inr hrules)⟩

theorem contained_ensures {x : Run σ Attempt} (hx : Ensures (e.Uncached P) (·.passed = false) x)
    (label : String) (level : Nat) :
    Ensures (e.Uncached P) (·.passed = false) (contained label level x) := by
  intro s hs
  obtain ⟨ht, ha, hc⟩ := hx s hs
  rw [run_contained]
  rcases h : x.run s with ⟨⟨kind, limit⟩ | _ | _ | _ | a, t⟩ <;> rw [h] at ht ha hc
  case error.tooDeep =>
    simp only
    split
    · refine ⟨ht, fun a ha => ?_, nofun⟩
      cases ha
      rfl
    · exact ⟨ht, nofun, hc⟩
  all_goals exact ⟨ht, ha, hc⟩

theorem retrying_ensures {x : Run σ Attempt} (hx : Ensures (e.Uncached P) (·.passed = false) x)
    (label : String) (left n : Nat) :
    Ensures (e.Uncached P) (fun p => p.1.passed = false) (retrying label x left n) := by
  have hstarted : ∀ n, Ensures (e.Uncached P) (·.passed = false) (started label x n) :=
    fun n => .bind (record_ensures _) fun _ _ => hx
  induction left generalizing n with
  | zero => exact .bind (hstarted n) fun a ha => .pure ha
  | succ left ih =>
    refine .bind (hstarted n) fun a ha => ?_
    rw [if_neg (by rw [ha]; exact Bool.false_ne_true)]
    refine .bind (P := fun _ => True) (fun s hs => ⟨hs, fun _ _ => trivial, nofun⟩)
      fun halted _ => ?_
    split
    · exact .pure ha
    · exact .bind (note_ensures _ _) fun _ _ => ih (n + 1)

theorem finish_ensures (step : Step) {r : StepResult} (hr : r.status = .failed) :
    Ensures (e.Uncached P) (·.isFailed = true) (e.finish step r) := by
  unfold finish settle haltAt noteOutcome
  rw [isSuppressed_failed step r hr, Bool.and_false]
  simp only [Bool.false_eq_true, if_false]
  refine .bind (P := fun _ => True) ?_ fun _ _ => .bind (P := (· = r)) ?_ fun r' hr' =>
    .bind (P := fun _ => True) ?_ ?_
  · split <;> exact note_ensures _ _
  · intro s hs
    refine ⟨hs, fun r' hr' => ?_, nofun⟩
    cases hr'
    rfl
  · split
    · exact e.latch_ensures _ _ _
    · exact .pure trivial
  · refine fun _ _ => .pure ?_
    rw [hr', StepResult.isFailed, hr]
    rfl

/-- A step that needs what the repository does not have fails, unless the transport breaks down or
it lies too deep. -/
theorem attempts_of_lacks (nest : Nest σ) {step : Step} (label : String) (level : Nat)
    (index : Option Nat) {cause : RepositoryError} {s : RunState σ}
    (hlacks : e.Lacks cause s step) :
    (∃ r t, (e.attempts nest step label level index).run s = (.ok r, t) ∧ r.isFailed = true) ∨
      ∃ c t, (e.attempts nest step label level index).run s = (.error c, t) ∧
        (c = .panic ∨ ∃ kind limit, c = .tooDeep kind limit) := by
  obtain ⟨P, hs, hbody⟩ := e.exists_body_ensures nest label level index hlacks
  have hattempts :
    Ensures (e.Uncached P) (·.isFailed = true) (e.attempts nest step label level index) := by
    have hdelay : Ensures (e.Uncached P) (fun _ => True) (noteDelay step label) := by
      unfold noteDelay
      split
      · exact note_ensures _ _
      · exact .pure trivial
    unfold attempts
    refine hdelay.bind fun _ _ =>
      (e.retrying_ensures (e.contained_ensures hbody label level) label _ 0).bind fun p hp => ?_
    refine e.finish_ensures step ?_
    show p.1.status = .failed
    unfold Attempt.status
    rw [hp]
    rfl
  obtain ⟨-, hr, hc⟩ := hattempts s hs
  rcases hrun : (e.attempts nest step label level index).run s with ⟨c | r, t⟩
  · rw [hrun] at hc
    exact .inr ⟨c, t, rfl, hc c rfl⟩
  · rw [hrun] at hr
    exact .inl ⟨r, t, rfl, hr r rfl⟩

end Engine

end Casebook
