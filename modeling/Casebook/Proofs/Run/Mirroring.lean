import Casebook.Proofs.Run.Likeness

/-! Runs that keep different records.  No part of a run reads the journal or the notices, so from states that differ in
those two runs go the same way; what tells them apart is what they record of it. -/
namespace Casebook

namespace Run

variable {σ α β γ δ : Type}

namespace Unread

theorem record (event : Event) (s : RunState σ) : Unread (Run.record event) s := by
  refine ⟨_, #[], Array.push_eq_append, Array.append_empty.symm, fun _ _ => ?_⟩
  rw [run_record, run_record, RunState.recorded, Array.push_eq_append, Array.append_empty]
  rfl

theorem latch (halt : Halt) (level : NoticeLevel) (text : String) (s : RunState σ) :
    Unread (Run.latch halt level text) s := by
  have hhalted : ∀ journal notices, RunState.isHalted { s with journal, notices } = s.isHalted :=
    fun _ _ => rfl
  cases hs : s.isHalted with
  | true =>
    have hrun : ∀ journal notices, (Run.latch halt level text).run { s with journal, notices } =
        (.ok (), { s with journal := journal ++ #[], notices := notices ++ #[] }) := by
      intro journal notices
      rw [run_latch, hhalted, hs, if_pos rfl, Array.append_empty, Array.append_empty]
    exact ⟨#[], #[], by rw [hrun], by rw [hrun], fun _ _ => by rw [hrun, hrun s.journal s.notices]⟩
  | false =>
    let t : RunState σ := { s with latch := some halt }
    have hrun : ∀ journal notices, (Run.latch halt level text).run { s with journal, notices } =
        (.ok (), { t with
          journal := journal ++ #[⟨.latched halt, t.depth, t.isHalted⟩]
          notices := notices ++ #[⟨level, text⟩] }) := by
      intro journal notices
      rw [run_latch, hhalted, hs, if_neg Bool.false_ne_true, RunState.latched, RunState.noted,
        if_neg (by rw [hhalted, hs]; exact Bool.false_ne_true), RunState.recorded, Array.push_eq_append,
        Array.push_eq_append]
      rfl
    exact ⟨_, _, by rw [hrun], by rw [hrun], fun _ _ => by rw [hrun, hrun s.journal s.notices]⟩

end Unread

/-- From related states the second part of a run comes to a function of what the first one comes to, in a related
state. -/
def Mirrors (R : RunState σ → RunState σ → Prop) (f : α → β) (x : Run σ α) (x' : Run σ β) : Prop :=
  ∀ s s', R s s' → EndAlike R f (x.run s) (x'.run s')

namespace Mirrors

variable {R : RunState σ → RunState σ → Prop} {f : α → β} {g : γ → δ} {x : Run σ α} {x' : Run σ β}
  {k : α → Run σ γ} {k' : β → Run σ δ}

theorem pure (f : α → β) (a : α) : Mirrors R f (Pure.pure a : Run σ α) (Pure.pure (f a)) :=
  fun _ _ h => ⟨rfl, h⟩

theorem bind (hx : Mirrors R f x x') (hk : ∀ a, Mirrors R g (k a) (k' (f a))) :
    Mirrors R g (x >>= k) (x' >>= k') :=
  fun s s' h => (hx s s' h).bind hk

theorem bindOf {P : α → Prop} (hP : Returns P x) (hx : Mirrors R f x x')
    (hk : ∀ a, P a → Mirrors R g (k a) (k' (f a))) : Mirrors R g (x >>= k) (x' >>= k') :=
  fun s s' h => (hx s s' h).bindOf fun a t t' hrun => hk a (hP s a t hrun) t t'

end Mirrors

end Run

namespace RunState

/-- A relation of states that differ only in their records.  It is kept where something is added to the records of both,
and where both report something. -/
structure Mirroring {σ : Type} (R : RunState σ → RunState σ → Prop) : Prop where
  eq {s s' : RunState σ} : R s s' → s' = { s with journal := s'.journal, notices := s'.notices }
  grow {s s' : RunState σ} (t : RunState σ) (entries : Array Entry) (notes : Array Notice) : R s s' →
    R { t with journal := s.journal ++ entries, notices := s.notices ++ notes }
      { t with journal := s'.journal ++ entries, notices := s'.notices ++ notes }
  reported {s s' : RunState σ} (r r' : StepResult) : R s s' →
    R (s.recorded (.reported r)) (s'.recorded (.reported r'))

namespace Mirroring

open Run (Mirrors Returns Silent Unread Converses)

variable {σ α β : Type} {R : RunState σ → RunState σ → Prop} (m : Mirroring R) {s s' : RunState σ}

include m

theorem scope (h : R s s') : s'.scope = s.scope := by rw [m.eq h]

theorem depth (h : R s s') : s'.depth = s.depth := by rw [m.eq h]

theorem world (h : R s s') : s'.world = s.world := by rw [m.eq h]

theorem status (h : R s s') : s'.status = s.status := by
  rw [m.eq h]
  rfl

/-- Only the records make a difference between related states. -/
theorem moved (h : R s s') (t : RunState σ) :
    R { t with journal := s.journal, notices := s.notices }
      { t with journal := s'.journal, notices := s'.notices } := by
  have hgrown := m.grow t #[] #[] h
  simpa only [Array.append_empty] using hgrown

theorem atDepth (h : R s s') (depth : Nat) : R { s with depth } { s' with depth } := by
  have hmoved := m.moved h { s with depth }
  rw [m.eq h]
  exact hmoved

theorem noted (h : R s s') (n : Notice) : R (s.noted n) (s'.noted n) := by
  have hgrown := m.grow s #[] #[n] h
  rw [Array.append_empty, Array.append_empty, ← Array.push_eq_append, ← Array.push_eq_append] at hgrown
  rw [m.eq h]
  exact hgrown

/-! ### Parts of runs -/

theorem unread {f : α → α} {x : Run σ α} (hx : ∀ s, Unread x s) (hf : Returns (fun a => f a = a) x) :
    Mirrors R f x x := by
  intro s s' h
  obtain ⟨entries, notes, hjournal, hnotices, hunread⟩ := hx s
  have hgrown := m.grow (x.run s).2 entries notes h
  have hrun := hunread s'.journal s'.notices
  rw [← m.eq h] at hrun
  rw [← hjournal, ← hnotices] at hgrown
  rw [hrun]
  refine ⟨?_, hgrown⟩
  rcases hs : x.run s with ⟨c | a, t⟩
  · rfl
  · simp only [Except.map]
    rw [hf s a t hs]

theorem converse {f : α → α} {P : List Call → Prop} {x : Run σ α} (hx : Converses P x)
    (hf : Returns (fun a => f a = a) x) : Mirrors R f x x := by
  refine m.unread (fun s => ?_) hf
  obtain ⟨_, -, -, -, hunread⟩ := hx s
  exact hunread

theorem silent {x : Run σ α} (hx : Silent x) : Mirrors R id x x :=
  m.unread (.ofSilent hx) fun _ _ _ _ => rfl

theorem record (event : Event) : Mirrors R id (Run.record event : Run σ Unit) (Run.record event) :=
  m.unread (.record event) fun _ _ _ _ => rfl

theorem latch (halt : Halt) (level : NoticeLevel) (text : String) :
    Mirrors R id (Run.latch halt level text : Run σ Unit) (Run.latch halt level text) :=
  m.unread (.latch halt level text) fun _ _ _ _ => rfl

theorem report {r r' : StepResult} {f : StepResult → StepResult} (h : f r = r') :
    Mirrors R f (Run.report r : Run σ StepResult) (Run.report r') := by
  intro s s' hs
  subst h
  exact ⟨rfl, m.reported r (f r) hs⟩

theorem nested {f : α → β} {x : Run σ α} {x' : Run σ β} (hx : Mirrors R f x x') :
    Mirrors R f (Run.nested x) (Run.nested x') := by
  intro s s' h
  obtain ⟨hr, ht⟩ := hx _ _ (m.atDepth h (s.depth + 1))
  rw [Run.run_nested, Run.run_nested, m.depth h]
  exact ⟨hr, m.atDepth ht s.depth⟩

theorem contained {f : Attempt → Attempt} {x x' : Run σ Attempt} (label : String) (level : Nat)
    (hf : ∀ message, f (.refused message) = .refused message) (hx : Mirrors R f x x') :
    Mirrors R f (Engine.contained label level x) (Engine.contained label level x') :=
  fun s s' h => .contained label level hf (fun _ _ n ht => m.noted ht n) (hx s s' h)

/-- Likeness up to records. -/
def likeness : Likeness σ where
  Like _ f x x' := Mirrors R f x x'
  Fits _ := True
  weaken := id
  pure := .pure
  throw _ _ _ _ h := ⟨rfl, h⟩
  bind _ := .bind
  silently hx hk := .bind (m.silent hx) hk
  record _ _ hx := .bind (m.record _) fun _ => hx
  nested := m.nested
  contained := m.contained
  unlessHalted hx hy := .bind (m.silent .isHalted) fun halted => by
    cases halted with
    | true => exact hx
    | false => exact hy

/-- Engines that stop alike settle like results alike. -/
theorem settle {e e' : Engine σ} (hstop : e'.options.failedStop = e.options.failedStop)
    {f : StepResult → StepResult} (hf : ∀ r, (f r).isFailed = r.isFailed) {r r' : StepResult} (h : f r = r')
    (halt : Halt) (level : NoticeLevel) (text : String) :
    Mirrors R f (e.settle r (Run.latch halt level text)) (e'.settle r' (Run.latch halt level text)) := by
  unfold Engine.settle Engine.haltAt
  refine .bind (m.report h) fun a => .bind (f := id) ?_ fun _ => .pure _ a
  rw [hf, hstop]
  split
  · exact m.latch halt level text
  · exact .pure id ()

end Mirroring

end RunState

end Casebook
