import Casebook.Proofs.Run.Unfolding
import Casebook.Run.Engine

/-! Attempts at api and sql steps, seen from outside: they make the calls of one conversation, and
do no more to the course of a run. -/
namespace Casebook

namespace RunState

variable {σ : Type}

@[simp] theorem isHalted_recorded (event : Event) (s : RunState σ) :
    (s.recorded event).isHalted = s.isHalted := rfl

@[simp] theorem depth_recorded (event : Event) (s : RunState σ) :
    (s.recorded event).depth = s.depth := rfl

@[simp] theorem journal_recorded (event : Event) (s : RunState σ) :
    (s.recorded event).journal.toList = s.journal.toList ++ [⟨event, s.depth, s.isHalted⟩] := by
  simp [recorded]

/-- Between two states nothing happened but looking up, resolving and noting. -/
structure Quiet (s t : RunState σ) : Prop where
  latch : t.latch = s.latch
  tripped : t.tripped = s.tripped
  depth : t.depth = s.depth
  journal : t.journal = s.journal
  world : t.world = s.world

namespace Quiet

variable {s t u : RunState σ}

theorem refl (s : RunState σ) : Quiet s s := ⟨rfl, rfl, rfl, rfl, rfl⟩

theorem trans (h : Quiet s t) (k : Quiet t u) : Quiet s u :=
  ⟨k.latch.trans h.latch, k.tripped.trans h.tripped, k.depth.trans h.depth,
    k.journal.trans h.journal,
    k.world.trans h.world⟩

theorem isHalted (h : Quiet s t) : t.isHalted = s.isHalted := by
  simp only [RunState.isHalted, RunState.status, h.latch, h.tripped]

theorem noted (n : Notice) (s : RunState σ) : Quiet s (s.noted n) := ⟨rfl, rfl, rfl, rfl, rfl⟩

end Quiet

/-- Two states of which no stop token was tripped, and which differ in nothing else that a run goes by. -/
structure Alike (s s' : RunState σ) : Prop where
  latch : s'.latch = s.latch
  environments : s'.environments = s.environments
  scope : s'.scope = s.scope
  untripped : s.tripped = false
  untripped' : s'.tripped = false

namespace Alike

variable {s s' : RunState σ}

theorem status (h : Alike s s') : s'.status = s.status := by
  simp only [RunState.status, h.latch, h.untripped, h.untripped']

theorem isHalted (h : Alike s s') : s'.isHalted = s.isHalted := by
  rw [RunState.isHalted, h.status, RunState.isHalted]

theorem noted (h : Alike s s') (n : Notice) : Alike (s.noted n) (s'.noted n) :=
  ⟨h.latch, h.environments, h.scope, h.untripped, h.untripped'⟩

end Alike

theorem isHalted_answered {α : Type} (reply : Reply α) (world : σ) {s : RunState σ}
    (h : s.isHalted = true) : (s.answered reply world).isHalted = true := by
  rw [isHalted_iff] at h ⊢
  rcases h with h | h
  · exact .inl (by simp [answered, h])
  · exact .inr h

end RunState

namespace Run

variable {σ α β : Type}

/-- A part of a run that comes to a value, makes no calls, and reads neither the journal nor the
notices nor the world. -/
def Silent (x : Run σ α) : Prop :=
  ∀ s, ∃ a t, x.run s = (.ok a, t) ∧ s.Quiet t ∧
    (∃ notes, t.notices = s.notices ++ notes ∧ ∀ journal notices,
      x.run { s with journal, notices } = (.ok a, { t with journal, notices := notices ++ notes })) ∧
    ∀ s', s.Alike s' → ∃ t', x.run s' = (.ok a, t') ∧ t.Alike t'

namespace Silent

/-- What alike states have in common can be read off them. -/
theorem read {x : Run σ α} (f : RunState σ → α) (hx : ∀ s, x.run s = (.ok (f s), s))
    (hrecords : ∀ s journal notices, f { s with journal, notices } = f s)
    (halike : ∀ s s', RunState.Alike s s' → f s' = f s) : Silent x := by
  refine fun s => ⟨f s, s, hx s, .refl s, ⟨#[], Array.append_empty.symm, fun journal notices => ?_⟩,
    fun s' h => ⟨s', by rw [hx, halike s s' h], h⟩⟩
  rw [hx, hrecords, Array.append_empty]

theorem pure (a : α) : Silent (Pure.pure a : Run σ α) :=
  read (fun _ => a) (fun _ => rfl) (fun _ _ _ => rfl) fun _ _ _ => rfl

theorem bind {x : Run σ α} {k : α → Run σ β} (hx : Silent x) (hk : ∀ a, Silent (k a)) :
    Silent (x >>= k) := by
  intro s
  obtain ⟨a, t, hxs, hst, ⟨notes, hnotes, hx⟩, hx'⟩ := hx s
  obtain ⟨b, u, hkt, htu, ⟨more, hmore, hk⟩, hk'⟩ := hk a t
  have hbind : (x >>= k).run s = (.ok b, u) := by rw [run_bind_of_ok hxs, hkt]
  refine ⟨b, u, hbind, hst.trans htu, ⟨notes ++ more, ?_, fun journal notices => ?_⟩, fun s' h => ?_⟩
  · rw [hmore, hnotes, Array.append_assoc]
  · rw [run_bind_of_ok (hx journal notices), hk, Array.append_assoc]
  · obtain ⟨t', hxs', ht⟩ := hx' s' h
    obtain ⟨u', hkt', hu⟩ := hk' t' ht
    exact ⟨u', by rw [run_bind_of_ok hxs', hkt'], hu⟩

theorem status : Silent (Run.status : Run σ Status) :=
  read RunState.status (fun _ => rfl) (fun _ _ _ => rfl) fun _ _ h => h.status

theorem isHalted : Silent (Run.isHalted : Run σ Bool) :=
  read RunState.isHalted (fun _ => rfl) (fun _ _ _ => rfl) fun _ _ h => h.isHalted

theorem note (level : NoticeLevel) (text : String) : Silent (Run.note level text : Run σ Unit) :=
  fun s => ⟨(), _, rfl, .noted _ s,
    ⟨_, Array.push_eq_append, fun _ _ => by rw [run_note, RunState.noted, Array.push_eq_append]; rfl⟩,
    fun _ h => ⟨_, rfl, h.noted _⟩⟩

theorem scope : Silent (Run.scope : Run σ Scope) :=
  read RunState.scope (fun _ => rfl) (fun _ _ _ => rfl) fun _ _ h => h.scope

theorem setScope (scope : Scope) : Silent (Run.setScope scope : Run σ Unit) :=
  fun _ => ⟨(), _, rfl, ⟨rfl, rfl, rfl, rfl, rfl⟩,
    ⟨#[], Array.append_empty.symm, fun _ _ => by rw [Array.append_empty]; rfl⟩,
    fun _ h => ⟨_, rfl, h.latch, h.environments, rfl, h.untripped, h.untripped'⟩⟩

theorem forM {γ : Type} {f : γ → Run σ Unit} (hf : ∀ c, Silent (f c)) (cs : List γ) :
    Silent (cs.forM f) := by
  induction cs with
  | nil => exact pure ()
  | cons c cs ih => exact bind (hf c) fun _ => ih

end Silent

/-- The calls made from one state to another. -/
inductive Exchange : RunState σ → List Call → RunState σ → Prop where
  | quiet {s t : RunState σ} : s.Quiet t → Exchange s [] t
  | call {γ : Type} (c : Call) (reply : Reply γ) (world : σ) (s : RunState σ) :
    Exchange s [c] ((s.answered reply world).recorded (.called c))
  | append {s t u : RunState σ} {cs ds : List Call} : Exchange s cs t → Exchange t ds u →
      Exchange s (cs ++ ds) u

theorem Exchange.depth_eq {s t : RunState σ} {cs : List Call} (h : Exchange s cs t) :
    t.depth = s.depth := by
  induction h with
  | quiet h => exact h.depth
  | call => rfl
  | append _ _ ih₁ ih₂ => exact ih₂.trans ih₁

/-- From a state on, a part of a run only adds to the journal and the notices, and does so without
reading them. -/
def Unread (x : Run σ α) (s : RunState σ) : Prop :=
  ∃ entries notes, (x.run s).2.journal = s.journal ++ entries ∧
    (x.run s).2.notices = s.notices ++ notes ∧
    ∀ journal notices, x.run { s with journal, notices } =
      ((x.run s).1,
        { (x.run s).2 with journal := journal ++ entries, notices := notices ++ notes })

namespace Unread

theorem ofSilent {x : Run σ α} (hx : Silent x) (s : RunState σ) : Unread x s := by
  obtain ⟨a, t, hxs, hst, ⟨notes, hnotes, hx⟩, -⟩ := hx s
  refine ⟨#[], notes, ?_, ?_, fun journal notices => ?_⟩
  · rw [hxs, hst.journal, Array.append_empty]
  · rw [hxs, hnotes]
  · rw [hx, hxs, Array.append_empty]

theorem throw (c : Abort) (s : RunState σ) : Unread (MonadExcept.throw c : Run σ α) s :=
  ⟨#[], #[], Array.append_empty.symm, Array.append_empty.symm,
    fun _ _ => by rw [Array.append_empty, Array.append_empty]; rfl⟩

theorem call (c : Call) (f : σ → Reply α × σ) (s : RunState σ) : Unread (Run.call c f) s := by
  have happend : ∀ notices : Array Notice,
      notices ++ (f s.world).1.notices = notices ++ (f s.world).1.notices.toArray :=
    fun notices => Array.toList_inj.mp (by rw [Array.toList_appendList, Array.toList_append])
  refine ⟨_, _, Array.push_eq_append, happend _, fun _ notices => ?_⟩
  rw [run_call, run_call, RunState.recorded, Array.push_eq_append, ← happend]
  rfl

theorem bind {x : Run σ α} {k : α → Run σ β} {s : RunState σ} (hx : Unread x s)
    (hk : ∀ a t, x.run s = (.ok a, t) → Unread (k a) t) : Unread (x >>= k) s := by
  obtain ⟨as, ns, hst, hnotes, hx⟩ := hx
  rcases h : x.run s with ⟨c | a, t⟩
  · refine ⟨as, ns, ?_, ?_, fun journal notices => ?_⟩
    · rw [run_bind_of_error h, ← hst, h]
    · rw [run_bind_of_error h, ← hnotes, h]
    · have hx := hx journal notices
      rw [h] at hx
      rw [run_bind_of_error hx, run_bind_of_error h]
  · obtain ⟨bs, ms, htu, hmore, hk⟩ := hk a t h
    rw [h] at hst hnotes
    refine ⟨as ++ bs, ns ++ ms, ?_, ?_, fun journal notices => ?_⟩
    · rw [run_bind_of_ok h, htu, hst, Array.append_assoc]
    · rw [run_bind_of_ok h, hmore, hnotes, Array.append_assoc]
    · have hx := hx journal notices
      rw [h] at hx
      rw [run_bind_of_ok hx, run_bind_of_ok h, hk, Array.append_assoc, Array.append_assoc]

end Unread

/-- A part of a run that makes such calls, and that only a breakdown of the transport aborts. -/
def Converses (P : List Call → Prop) (x : Run σ α) : Prop :=
  ∀ s, ∃ cs, P cs ∧ Exchange s cs (x.run s).2 ∧
    (Abort.of? (x.run s).1 = none ∨ Abort.of? (x.run s).1 = some .panic) ∧ Unread x s

namespace Converses

theorem silently {P : List Call → Prop} {x : Run σ α} (hx : Silent x) (hP : P []) :
    Converses P x := by
  intro s
  have hunread := Unread.ofSilent hx s
  obtain ⟨a, t, hxs, hst, -⟩ := hx s
  refine ⟨[], hP, ?_, ?_, hunread⟩
  · rw [hxs]
    exact .quiet hst
  · rw [hxs]
    exact .inl rfl

theorem mono {P Q : List Call → Prop} {x : Run σ α} (hx : Converses P x) (h : ∀ cs, P cs → Q cs) :
    Converses Q x := by
  intro s
  obtain ⟨cs, hcs, hs⟩ := hx s
  exact ⟨cs, h cs hcs, hs⟩

/-- A call always comes to a value, so what comes after is part of the same conversation. -/
theorem afterCall {P : List Call → Prop} {c : Call} {f : σ → Reply α × σ} {k : α → Run σ β}
    (hk : ∀ a, Converses (fun ds => P (c :: ds)) (k a)) : Converses P (Run.call c f >>= k) := by
  intro s
  have hunread : Unread (Run.call c f >>= k) s := .bind (.call c f s) fun a t _ => by
    obtain ⟨_, -, -, -, hunread⟩ := hk a t
    exact hunread
  obtain ⟨ds, hds, htu, hend, -⟩ := hk (f s.world).1.answer _
  have hrun := run_bind_of_ok (run_call c f s) k
  exact ⟨c :: ds, hds, hrun ▸ .append (.call c _ _ s) htu, hrun ▸ hend, hunread⟩

theorem bindSilent {P : List Call → Prop} {x : Run σ α} {k : α → Run σ β} (hx : Converses P x)
    (hk : ∀ a, Silent (k a)) : Converses P (x >>= k) := by
  intro s
  obtain ⟨cs, hcs, hst, hend, hunread⟩ := hx s
  have hunread : Unread (x >>= k) s := hunread.bind fun a t _ => .ofSilent (hk a) t
  rcases h : x.run s with ⟨c | a, t⟩
  · rw [h] at hst hend
    have hrun := run_bind_of_error h k
    exact ⟨cs, hcs, hrun ▸ hst, hrun ▸ hend, hunread⟩
  · rw [h] at hst
    obtain ⟨b, u, hku, htu, -⟩ := hk a t
    have hsu := hst.append (.quiet htu)
    rw [List.append_nil] at hsu
    have hrun := run_bind_of_ok h k
    rw [hku] at hrun
    exact ⟨cs, hcs, hrun ▸ hsu, hrun ▸ .inl rfl, hunread⟩

theorem afterSilent {P : List Call → Prop} {x : Run σ α} {k : α → Run σ β} (hx : Silent x)
    (hk : ∀ a, Converses P (k a)) : Converses P (x >>= k) := by
  intro s
  have hunread : Unread (x >>= k) s := (Unread.ofSilent hx s).bind fun a t _ => by
    obtain ⟨_, -, -, -, hunread⟩ := hk a t
    exact hunread
  obtain ⟨a, t, hxs, hst, -⟩ := hx s
  obtain ⟨cs, hcs, htu, hend, -⟩ := hk a t
  have hrun := run_bind_of_ok hxs k
  exact ⟨cs, hcs, hrun ▸ .append (.quiet hst) htu, hrun ▸ hend, hunread⟩

end Converses

end Run

/-- The calls of one attempt at an api or sql step. -/
inductive Conversation : List Call → Prop where
  | silent : Conversation []
  | request (r : HttpRequest) : Conversation [.http r]
  | refused (target : ConnectionTarget) : Conversation [.connect target]
  | dropped (target : ConnectionTarget) : Conversation [.connect target, .close]
  | queried (target : ConnectionTarget) (sql : String) :
      Conversation [.connect target, .execute sql, .close]

namespace Engine

open Run (Silent Converses)

variable {σ : Type} (e : Engine σ)

/-- Looking up the environment goes by the environments that were looked up before. -/
theorem exists_run_environment (known : List (EnvId × Environment)) :
    ∃ r environments, ∀ s : RunState σ, s.environments = known →
      e.environment.run s = (.ok r, { s with environments }) := by
  unfold environment
  simp only [Run.run_bind, Run.run_get]
  cases hcached : known.lookup e.options.envId with
  | some env => exact ⟨.ok env, known, fun s hs => by rw [← hs] at hcached ⊢; rw [hcached]; rfl⟩
  | none =>
    cases hfound : e.repository.environment e.options.envId with
    | error cause => exact ⟨.error cause, known, fun s hs => by rw [← hs] at hcached ⊢; rw [hcached]; rfl⟩
    | ok env =>
      exact ⟨.ok env, (env.id, env) :: known, fun s hs => by rw [← hs] at hcached ⊢; rw [hcached]; rfl⟩

theorem environment_silent : Silent e.environment := by
  intro s
  obtain ⟨r, environments, hrun⟩ := e.exists_run_environment s.environments
  refine ⟨r, _, hrun s rfl, ⟨rfl, rfl, rfl, rfl, rfl⟩,
    ⟨#[], Array.append_empty.symm, fun _ _ => by rw [Array.append_empty]; exact hrun _ rfl⟩,
    fun s' h => ?_⟩
  exact ⟨_, hrun s' h.environments, h.latch, rfl, h.scope, h.untripped, h.untripped'⟩

theorem writeVariables_silent (p : ApiParams) (label : String) (index : Option Nat) :
    Silent (e.writeVariables p label index) := by
  unfold writeVariables
  split
  · exact .pure _
  · refine .bind .scope fun scope => .bind (.setScope _) fun _ =>
      .bind (.forM (fun _ => .note _ _) _) fun _ => ?_
    exact .pure _

theorem environmentUrl_silent (p : ApiParams) : Silent (e.environmentUrl p) := by
  unfold environmentUrl
  split
  · exact .bind e.environment_silent fun _ => .pure _
  · exact .pure _

theorem makeRequest_silent (h : StepHead) (p : ApiParams) (index : Option Nat)
    (url : Except RepositoryError String) (log : RequestLog) :
    Silent (e.makeRequest h p index url log) := by
  unfold makeRequest
  exact .bind .scope fun _ => .bind (.setScope _) fun _ => .pure _

theorem judge_silent (h : StepHead) (p : ApiParams) (label : String) (index : Option Nat)
    (response : HttpResponse) (log : RequestLog) :
    Silent (e.judge h p label index response log) := by
  unfold judge
  split
  · exact .bind .scope fun _ => .bind (.setScope _) fun _ => .pure _
  · exact .pure _

theorem sqlTarget_silent (p : SqlParams) : Silent (e.sqlTarget p) := by
  unfold sqlTarget
  refine .bind e.environment_silent fun r => ?_
  split
  · exact .pure _
  · split <;> exact .pure _

theorem captureRow_silent (name label : String) (rows : Rows) :
    Silent (captureRow name label rows : Run σ Unit) := by
  unfold captureRow
  exact .bind (.note _ _) fun _ => .bind .scope fun _ => .setScope _

/-! ### Calls -/

theorem send_converses (request : HttpRequest) :
    Converses (· = [.http request]) (e.send request) := by
  intro s
  unfold send
  rw [Run.run_bind, Run.run_call]
  refine ⟨[.http request], rfl, ?_, ?_, .bind (.call _ _ s) fun answer t _ => ?_⟩
  · cases (e.transport.http request s.world).1.answer <;> exact .call _ _ _ s
  · cases (e.transport.http request s.world).1.answer with
    | some answer => exact .inl rfl
    | none => exact .inr rfl
  · cases answer with
    | some answer => exact .ofSilent (.pure _) t
    | none => exact .throw .panic t

theorem discard_converses (target : ConnectionTarget) :
    Converses (· = [.close]) (e.discard target) := by
  unfold discard close
  refine .afterCall fun r => .silently ?_ rfl
  split
  · exact .note _ _
  · exact .pure _

/-! ### Attempts -/

theorem api_converses (h : StepHead) (p : ApiParams) (label : String) (index : Option Nat) :
    Converses Conversation (e.api h p label index) := by
  unfold api
  refine .afterSilent (e.writeVariables_silent p label index) fun written => ?_
  split
  · exact .silently (.pure _) .silent
  · refine .afterSilent (e.environmentUrl_silent p) fun url => ?_
    refine .afterSilent (e.makeRequest_silent h p index url _) fun made => ?_
    split
    split
    · exact .silently (.pure _) .silent
    · refine .mono (.bindSilent (e.send_converses _) fun answer => ?_) fun cs hcs =>
        hcs ▸ .request _
      split
      · exact .pure _
      · exact e.judge_silent h p label index _ _

theorem queryAndClose_converses (p : SqlParams) (label : String) (index : Option Nat)
    (target : ConnectionTarget) (log : SqlLog) :
    Converses (fun cs => cs = [.close] ∨ ∃ sql, cs = [.execute sql, .close])
      (e.queryAndClose p label index target log) := by
  unfold queryAndClose
  refine .afterSilent .scope fun scope => ?_
  split
  · exact .mono (.bindSilent (e.discard_converses target) fun _ => .pure _) fun cs hcs => .inl hcs
  · refine .afterSilent (.note _ _) fun _ => ?_
    unfold query close
    refine .afterCall fun rows => ?_
    split
    · refine .mono (.bindSilent (e.discard_converses target) fun _ => .pure _) fun cs hcs => ?_
      exact .inr ⟨_, by rw [hcs]⟩
    · refine .afterCall fun closed => .silently ?_ (.inr ⟨_, rfl⟩)
      split <;> exact .pure _

theorem sql_converses (p : SqlParams) (label : String) (index : Option Nat) :
    Converses Conversation (e.sql p label index) := by
  unfold sql
  refine .afterSilent (e.sqlTarget_silent p) fun target => ?_
  split
  · exact .silently (.pure _) .silent
  · unfold connect
    refine .afterCall fun connected => ?_
    split
    · exact .silently (.pure _) (.refused _)
    · refine .mono (.bindSilent (e.queryAndClose_converses p label index _ _) fun queried => ?_)
        fun cs hcs => ?_
      · split
        split
        · exact .pure _
        · exact .pure _
        · exact .bind (captureRow_silent _ _ _) fun _ => .pure _
      · obtain rfl | ⟨sql, rfl⟩ := hcs
        · exact .dropped _
        · exact .queried _ _

end Engine

end Casebook
