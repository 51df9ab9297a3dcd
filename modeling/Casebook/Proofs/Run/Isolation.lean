import Casebook.Proofs.Run.Likeness

/-! Runs against an outside world without a memory.  Where every answer is a function of the call, a run goes by what
its state has of its own, so two runs that start alike come to the same, whatever became of the world in between. -/
namespace Casebook

/-! ### Answers that go by the call -/

/-- The answers of an outside world without a memory. -/
structure Answers where
  http : HttpRequest → Option (Except HttpError HttpResponse)
  connect : ConnectionTarget → Except SqlError Unit
  execute : ConnectionTarget → String → Except SqlError Rows
  /-- To closing a connection, by the statement that was sent over it. -/
  close : ConnectionTarget → Option String → Except SqlError Unit

/-- A reply with an answer, during which the stop token was not tripped. -/
def Reply.Gives {α : Type} (r : Reply α) (answer : α) : Prop := r.answer = answer ∧ r.trips = false

namespace Transport

variable {σ : Type}

/-- The state of a transport when a connection to a target was just opened, or just had a statement sent over it. -/
def Serves (t : Transport σ) (target : ConnectionTarget) : Option String → σ → Prop
  | none, w => ∃ v, (t.connect target v).2 = w
  | some sql, w => ∃ v, (t.execute target sql v).2 = w

/-- A transport that gives those answers, whatever calls it had before, and leaves the stop token alone. -/
structure Gives (t : Transport σ) (a : Answers) : Prop where
  http : ∀ request w, (t.http request w).1.Gives (a.http request)
  connect : ∀ target w, (t.connect target w).1.Gives (a.connect target)
  execute : ∀ target sql w, t.Serves target none w → (t.execute target sql w).1.Gives (a.execute target sql)
  close : ∀ target statement w, t.Serves target statement w →
    (t.close target w).1.Gives (a.close target statement)

end Transport

namespace Answers

variable (a : Answers)

/-- A transport with those answers.  Its state is the statement that was last sent over an open connection, and a number
that every call moves on. -/
def transport (next : Nat → Nat) : Transport (Option String × Nat) where
  http request w := (.quiet (a.http request), w.1, next w.2)
  connect target w := (.quiet (a.connect target), none, next w.2)
  execute target sql w := (.quiet (a.execute target sql), some sql, next w.2)
  close target w := (.quiet (a.close target w.1), w.1, next w.2)

theorem transport_gives (next : Nat → Nat) : (a.transport next).Gives a where
  http _ _ := ⟨rfl, rfl⟩
  connect _ _ := ⟨rfl, rfl⟩
  execute _ _ _ _ := ⟨rfl, rfl⟩
  close target statement w hw := by
    cases statement with
    | none =>
      obtain ⟨v, rfl⟩ := hw
      exact ⟨rfl, rfl⟩
    | some sql =>
      obtain ⟨v, rfl⟩ := hw
      exact ⟨rfl, rfl⟩

end Answers

namespace RunState.Alike

variable {σ : Type} {s s' : RunState σ}

theorem recorded (h : Alike s s') (event : Event) : Alike (s.recorded event) (s'.recorded event) :=
  ⟨h.latch, h.environments, h.scope, h.untripped, h.untripped'⟩

theorem atDepth (h : Alike s s') (n m : Nat) : Alike { s with depth := n } { s' with depth := m } :=
  ⟨h.latch, h.environments, h.scope, h.untripped, h.untripped'⟩

theorem latched (h : Alike s s') (halt : Halt) : Alike (s.latched halt) (s'.latched halt) := by
  unfold RunState.latched
  rw [h.isHalted]
  split
  · exact h
  · exact ⟨rfl, h.environments, h.scope, h.untripped, h.untripped'⟩

theorem answered (h : Alike s s') {α : Type} {r r' : Reply α} (hr : r.trips = false) (hr' : r'.trips = false)
    (w w' : σ) : Alike (s.answered r w) (s'.answered r' w') := by
  refine ⟨h.latch, h.environments, h.scope, ?_, ?_⟩
  · simp [RunState.answered, h.untripped, hr]
  · simp [RunState.answered, h.untripped', hr']

end RunState.Alike

/-! ### Parts of two runs -/

namespace Run

variable {σ α β γ δ : Type}

/-- From alike states, with the worlds of either run as asked, the second part of a run comes to a function of what the
first one comes to, and both come to alike states. -/
def Agrees (P P' : σ → Prop) (f : α → β) (x : Run σ α) (x' : Run σ β) : Prop :=
  ∀ s s', s.Alike s' → P s.world → P' s'.world → EndAlike RunState.Alike f (x.run s) (x'.run s')

/-- Nothing is asked of a world. -/
abbrev anywhere (_ : σ) : Prop := True

namespace Agrees

variable {P P' : σ → Prop}

theorem pure (f : α → β) (a : α) : Agrees P P' f (Pure.pure a : Run σ α) (Pure.pure (f a)) :=
  fun _ _ h _ _ => ⟨rfl, h⟩

theorem throw (f : α → β) (c : Abort) : Agrees P P' f (MonadExcept.throw c : Run σ α) (MonadExcept.throw c) :=
  fun _ _ h _ _ => ⟨rfl, h⟩

theorem bind {f : α → β} {g : γ → δ} {x : Run σ α} {x' : Run σ β} {k : α → Run σ γ} {k' : β → Run σ δ}
    (hx : Agrees P P' f x x') (hk : ∀ a, Agrees anywhere anywhere g (k a) (k' (f a))) :
    Agrees P P' g (x >>= k) (x' >>= k') :=
  fun s s' h hP hP' => EndAlike.bind (hx s s' h hP hP') fun a t t' ht => hk a t t' ht trivial trivial

/-- What comes after something silent finds the worlds as they were. -/
theorem silently {g : β → γ} {x : Run σ α} {k : α → Run σ β} {k' : α → Run σ γ} (hx : Silent x)
    (hk : ∀ a, Agrees P P' g (k a) (k' a)) : Agrees P P' g (x >>= k) (x >>= k') := by
  intro s s' h hP hP'
  obtain ⟨a, t, hrun, hquiet, -, halike⟩ := hx s
  obtain ⟨t', hrun', ht⟩ := halike s' h
  have hquiet' : s'.Quiet t' := by
    obtain ⟨_, _, hagain, hquiet', -⟩ := hx s'
    cases hagain.symm.trans hrun'
    exact hquiet'
  rw [run_bind_of_ok hrun, run_bind_of_ok hrun']
  exact hk a t t' ht (hquiet.world ▸ hP) (hquiet'.world ▸ hP')

theorem silent {x : Run σ α} (hx : Silent x) : Agrees P P' id x x := by
  intro s s' h _ _
  obtain ⟨a, t, hrun, -, -, halike⟩ := hx s
  obtain ⟨t', hrun', ht⟩ := halike s' h
  rw [hrun, hrun']
  exact ⟨rfl, ht⟩

/-- What comes after a call with one answer finds the worlds as the call left them. -/
theorem afterCall (answer : α) (Q Q' : σ → Prop) {g : β → γ} {c : Call} {call call' : σ → Reply α × σ}
    {k : α → Run σ β} {k' : α → Run σ γ} (hcall : ∀ w, P w → (call w).1.Gives answer ∧ Q (call w).2)
    (hcall' : ∀ w, P' w → (call' w).1.Gives answer ∧ Q' (call' w).2) (hk : Agrees Q Q' g (k answer) (k' answer)) :
    Agrees P P' g (Run.call c call >>= k) (Run.call c call' >>= k') := by
  intro s s' h hP hP'
  obtain ⟨⟨hanswer, htrips⟩, hQ⟩ := hcall s.world hP
  obtain ⟨⟨hanswer', htrips'⟩, hQ'⟩ := hcall' s'.world hP'
  rw [run_bind_of_ok (run_call c call s), run_bind_of_ok (run_call c call' s'), hanswer, hanswer']
  exact hk _ _ ((h.answered htrips htrips' _ _).recorded _) hQ hQ'

theorem record {g : α → β} {event : Event} {x : Run σ α} {x' : Run σ β} (hx : Agrees anywhere anywhere g x x') :
    Agrees P P' g (Run.record event >>= fun _ => x) (Run.record event >>= fun _ => x') := by
  intro s s' h _ _
  rw [run_bind_of_ok (run_record event s), run_bind_of_ok (run_record event s')]
  exact hx _ _ (h.recorded event) trivial trivial

theorem report (r : StepResult) : Agrees P P' id (Run.report r : Run σ StepResult) (Run.report r) :=
  fun _ _ h _ _ => ⟨rfl, h.recorded _⟩

theorem latch (halt : Halt) (level : NoticeLevel) (text : String) :
    Agrees P P' id (Run.latch halt level text : Run σ Unit) (Run.latch halt level text) := by
  intro s s' h _ _
  rw [run_latch, run_latch, h.isHalted]
  split
  · exact ⟨rfl, h⟩
  · exact ⟨rfl, ((h.noted _).latched halt).recorded _⟩

theorem nested {f : α → β} {x : Run σ α} {x' : Run σ β} (hx : Agrees anywhere anywhere f x x') :
    Agrees P P' f (Run.nested x) (Run.nested x') := by
  intro s s' h _ _
  obtain ⟨hr, ht⟩ := hx _ _ (h.atDepth (s.depth + 1) (s'.depth + 1)) trivial trivial
  rw [run_nested, run_nested]
  exact ⟨hr, ht.atDepth _ _⟩

theorem contained {f : Attempt → Attempt} {x x' : Run σ Attempt} (label : String) (level : Nat)
    (hf : ∀ message, f (.refused message) = .refused message) (hx : Agrees P P' f x x') :
    Agrees P P' f (Engine.contained label level x) (Engine.contained label level x') :=
  fun s s' h hP hP' => EndAlike.contained label level hf (fun _ _ n ht => ht.noted n) (hx s s' h hP hP')

theorem unlessHalted {f : α → β} {x y : Run σ α} {x' y' : Run σ β} (hx : Agrees P P' f x x')
    (hy : Agrees P P' f y y') :
    Agrees P P' f (Run.isHalted >>= fun halted => if halted = true then x else y)
      (Run.isHalted >>= fun halted => if halted = true then x' else y') := by
  refine silently .isHalted fun halted => ?_
  cases halted with
  | true => exact hx
  | false => exact hy

end Agrees

end Run

/-- Likeness of runs from alike states. -/
def Likeness.agreeing (σ : Type) : Likeness σ where
  Like _ := Run.Agrees Run.anywhere Run.anywhere
  Fits _ := True
  weaken := id
  pure := .pure
  throw := .throw
  bind _ := .bind
  silently := .silently
  record _ _ := .record
  nested := .nested
  contained := .contained
  unlessHalted := .unlessHalted

namespace Engine

open Run (Agrees anywhere)

variable {σ : Type} (e : Engine σ) (t : Transport σ)

/-- The engine with another transport. -/
def within : Engine σ := { e with transport := t }

@[simp] theorem ev_within : (e.within t).ev = e.ev := rfl

@[simp] theorem options_within : (e.within t).options = e.options := rfl

theorem settle_agrees (r : StepResult) (halt : Halt) (level : NoticeLevel) (text : String) :
    Agrees anywhere anywhere id (e.settle r (Run.latch halt level text))
      ((e.within t).settle r (Run.latch halt level text)) := by
  unfold settle haltAt
  refine .bind (.report r) fun r' => .bind (f := id) ?_ fun _ => .pure id r'
  rw [options_within, id_eq]
  split
  · exact .latch halt level text
  · exact .pure id ()

theorem finish_agrees (step : Step) (r : StepResult) :
    Agrees anywhere anywhere id (e.finish step r) ((e.within t).finish step r) :=
  .silently (noteOutcome_silent _) fun _ => e.settle_agrees t _ _ _ _

variable {e t} {a : Answers} (h : e.transport.Gives a) (h' : t.Gives a)

include h h'

theorem send_agrees (request : HttpRequest) :
    Agrees anywhere anywhere id (e.send request) ((e.within t).send request) := by
  unfold send
  refine .afterCall (a.http request) anywhere anywhere (fun w _ => ⟨h.http request w, trivial⟩)
    (fun w _ => ⟨h'.http request w, trivial⟩) ?_
  split
  · exact .pure id _
  · exact .throw id _

theorem api_agrees (head : StepHead) (p : ApiParams) (label : String) (index : Option Nat) :
    Agrees anywhere anywhere id (e.api head p label index) ((e.within t).api head p label index) := by
  unfold api
  refine .silently (e.writeVariables_silent p label index) fun written => ?_
  split
  · exact .pure id _
  · refine .silently (e.environmentUrl_silent p) fun url => ?_
    refine .silently (e.makeRequest_silent head p index url _) fun made => ?_
    split
    split
    · exact .pure id _
    · refine .bind (send_agrees h h' _) fun answer => ?_
      split
      · exact .pure id _
      · exact .silent (e.judge_silent head p label index _ _)

/-! ### Conversations with a database -/

theorem discard_agrees (target : ConnectionTarget) (statement : Option String) :
    Agrees (e.transport.Serves target statement) (t.Serves target statement) id (e.discard target)
      ((e.within t).discard target) := by
  unfold discard close
  refine .afterCall (a.close target statement) anywhere anywhere
    (fun w hw => ⟨h.close target statement w hw, trivial⟩) (fun w hw => ⟨h'.close target statement w hw, trivial⟩) ?_
  split
  · exact .silent (.note _ _)
  · exact .pure id ()

theorem queryAndClose_agrees (p : SqlParams) (label : String) (index : Option Nat) (target : ConnectionTarget)
    (log : SqlLog) :
    Agrees (e.transport.Serves target none) (t.Serves target none) id (e.queryAndClose p label index target log)
      ((e.within t).queryAndClose p label index target log) := by
  unfold queryAndClose
  refine .silently .scope fun scope => ?_
  -- What closing the connection is answered goes by how far the statement came.
  rw [ev_within]
  split
  · exact .bind (discard_agrees h h' target none) fun _ => .pure id _
  · rename_i sql _
    refine .silently (.note _ _) fun _ => ?_
    unfold query close
    refine .afterCall (a.execute target sql) (e.transport.Serves target (some sql))
      (t.Serves target (some sql)) (fun w hw => ⟨h.execute target sql w hw, w, rfl⟩)
      (fun w hw => ⟨h'.execute target sql w hw, w, rfl⟩) ?_
    split
    · exact .bind (discard_agrees h h' target (some sql)) fun _ => .pure id _
    · refine .afterCall (a.close target (some sql)) anywhere anywhere
        (fun w hw => ⟨h.close target (some sql) w hw, trivial⟩)
        (fun w hw => ⟨h'.close target (some sql) w hw, trivial⟩) ?_
      split <;> exact .pure id _

theorem sql_agrees (p : SqlParams) (label : String) (index : Option Nat) :
    Agrees anywhere anywhere id (e.sql p label index) ((e.within t).sql p label index) := by
  unfold sql
  refine .silently (e.sqlTarget_silent p) fun found => ?_
  split
  · exact .pure id _
  · rename_i target
    unfold connect
    refine .afterCall (a.connect target) (e.transport.Serves target none)
      (t.Serves target none) (fun w _ => ⟨h.connect target w, w, rfl⟩)
      (fun w _ => ⟨h'.connect target w, w, rfl⟩) ?_
    split
    · exact .pure id _
    · refine .bind (queryAndClose_agrees h h' p label index target _) fun (rows, log) => ?_
      rw [id_eq]
      simp only
      split
      · exact .pure id _
      · exact .pure id _
      · exact .silently (captureRow_silent _ _ _) fun _ => .pure id _

/-! ### Cases -/

theorem relates_within : (Likeness.agreeing σ).Relates id e (e.within t) where
  ev := rfl
  repository := rfl
  config := rfl
  fits := ⟨trivial, trivial, trivial, trivial, trivial⟩
  isFailed _ := rfl
  patience := .inl rfl
  api head p label index := by
    rw [Attempt.map_id_eq]
    exact api_agrees h h' head p label index
  sql p label index := by
    rw [Attempt.map_id_eq]
    exact sql_agrees h h' p label index
  interrupted _ _ := .report _
  disabled _ _ := .report _
  undecided _ _ _ := .silently (.note _ _) fun _ => e.settle_agrees t _ _ _ _
  unmet step _ := e.finish_agrees t step _
  finish step label attempt n := by
    rw [attempt.map_id]
    exact e.finish_agrees t step _

/-- From alike states a case comes to the same with any transport that gives the same answers. -/
theorem runCase_agrees (caseId : CaseId) :
    Agrees anywhere anywhere id (e.runCase caseId) ((e.within t).runCase caseId) := by
  rw [← CaseReport.map_id_eq]
  exact (relates_within h h').runCase rfl caseId

end Engine

end Casebook
