import Casebook.Proofs.Run.Halting
import Casebook.Proofs.Run.Likeness

/-! From any state of a run to a later one.  A relation of states that parts of runs respect one by one is respected by
whole runs; nothing is asked of how they end. -/
namespace Casebook

/-- A relation of earlier to later states that holds of whatever parts of runs do by themselves, but for calls, and of
what they do one after another. -/
structure Passage {σ : Type} (R : RunState σ → RunState σ → Prop) : Prop where
  quiet {s t : RunState σ} : s.Quiet t → R s t
  recorded (event : Event) (s : RunState σ) : R s (s.recorded event)
  latched (halt : Halt) (s : RunState σ) : R s (s.latched halt)
  trans {s t u : RunState σ} : R s t → R t u → R s u
  nested {s t : RunState σ} : R { s with depth := s.depth + 1 } t → R s { t with depth := s.depth }

namespace Run

variable {σ α β : Type}

/-- A part of a run, however it ends, leads from states to later ones. -/
def Leads (R : RunState σ → RunState σ → Prop) (x : Run σ α) : Prop := ∀ s, R s (x.run s).2

end Run

namespace Passage

open Run (Leads Silent)

variable {σ α β : Type} {R : RunState σ → RunState σ → Prop} (h : Passage R)

include h

theorem refl (s : RunState σ) : R s s := h.quiet (.refl s)

theorem bind {x : Run σ α} {k : α → Run σ β} (hx : Leads R x) (hk : ∀ a, Leads R (k a)) : Leads R (x >>= k) := by
  intro s
  have hs := hx s
  rcases hrun : x.run s with ⟨c | a, t⟩ <;> rw [hrun] at hs
  · rw [Run.run_bind_of_error hrun]
    exact hs
  · rw [Run.run_bind_of_ok hrun]
    exact h.trans hs (hk a t)

theorem silent {x : Run σ α} (hx : Silent x) : Leads R x := by
  intro s
  obtain ⟨a, t, hrun, hquiet, -⟩ := hx s
  rw [hrun]
  exact h.quiet hquiet

theorem throw (c : Abort) : Leads R (MonadExcept.throw c : Run σ α) := fun s => h.refl s

theorem record (event : Event) : Leads R (Run.record event : Run σ Unit) := fun s => h.recorded event s

theorem report (r : StepResult) : Leads R (Run.report r : Run σ StepResult) := fun s => h.recorded (.reported r) s

theorem latch (halt : Halt) (level : NoticeLevel) (text : String) :
    Leads R (Run.latch halt level text : Run σ Unit) := by
  intro s
  rw [Run.run_latch]
  split
  · exact h.refl s
  · have hnoted : R s (s.noted ⟨level, text⟩) := h.quiet (.noted _ s)
    exact h.trans hnoted (h.trans (h.latched halt _) (h.recorded _ _))

theorem inside {x : Run σ α} (hx : Leads R x) : Leads R (Run.nested x) := by
  intro s
  rw [Run.run_nested]
  exact h.nested (hx { s with depth := s.depth + 1 })

theorem contained {x : Run σ Attempt} (label : String) (level : Nat) (hx : Leads R x) :
    Leads R (Engine.contained label level x) := by
  intro s
  have hs := hx s
  rw [Engine.run_contained]
  split
  case h_1 hrun =>
    rw [hrun] at hs
    split
    · exact h.trans hs (h.quiet (.noted _ _))
    · exact hs
  case h_2 => exact hs

/-- Likeness of which nothing is asked but where the first part leads. -/
def likeness : Likeness σ where
  Like _ _ x _ := Leads R x
  Fits _ := True
  weaken := id
  pure _ a := h.silent (.pure a)
  throw _ := h.throw
  bind _ := h.bind
  silently hx hk := h.bind (h.silent hx) hk
  record _ _ hx := h.bind (h.record _) fun _ => hx
  nested := h.inside
  contained label level _ := h.contained label level
  unlessHalted hx hy := h.bind (h.silent .isHalted) fun halted => by
    cases halted with
    | true => exact hx
    | false => exact hy

variable (e : Engine σ)

theorem settle (r : StepResult) (halt : Halt) (level : NoticeLevel) (text : String) :
    Leads R (e.settle r (Run.latch halt level text)) := by
  unfold Engine.settle Engine.haltAt
  refine h.bind (h.report r) fun r' => h.bind ?_ fun _ => h.silent (.pure _)
  split
  · exact h.latch halt level text
  · exact h.silent (.pure _)

theorem finish (step : Step) (r : StepResult) : Leads R (e.finish step r) := by
  unfold Engine.finish
  exact h.bind (h.silent (Engine.noteOutcome_silent _)) fun _ => h.settle e _ _ _ _

variable {e}

/-- Runs of an engine lead where its attempts at api and sql steps lead. -/
theorem relates (hapi : ∀ head p label index, Leads R (e.api head p label index))
    (hsql : ∀ p label index, Leads R (e.sql p label index)) : h.likeness.Relates id e e where
  ev := rfl
  repository := rfl
  config := rfl
  fits := ⟨trivial, trivial, trivial, trivial, trivial⟩
  isFailed _ := rfl
  patience := .inl rfl
  api := hapi
  sql := hsql
  interrupted _ _ := h.report _
  disabled _ _ := h.report _
  undecided _ _ _ := h.bind (h.silent (.note _ _)) fun _ => h.settle e _ _ _ _
  unmet step _ := h.finish e step _
  finish step _ _ _ := h.finish e step _

end Passage

end Casebook
