import Casebook.Proofs.Run.Passage

/-! The journal of a run only grows, which puts the moments of a run in order. -/
namespace Casebook

/-- The journal of a later state begins with that of an earlier one. -/
def RunState.IsBefore {σ : Type} (s t : RunState σ) : Prop := ∃ entries, s.Adds entries t

namespace RunState.IsBefore

variable {σ : Type} {s t u : RunState σ}

theorem refl (s : RunState σ) : s.IsBefore s := ⟨[], .quiet (.refl s)⟩

theorem quiet (h : s.Quiet t) : s.IsBefore t := ⟨[], .quiet h⟩

theorem recorded (event : Event) (s : RunState σ) : s.IsBefore (s.recorded event) :=
  ⟨_, .recorded event s⟩

theorem latched (halt : Halt) (s : RunState σ) : s.IsBefore (s.latched halt) := ⟨[], .latched halt s⟩

theorem trans (h : s.IsBefore t) (k : t.IsBefore u) : s.IsBefore u := by
  obtain ⟨as, h⟩ := h
  obtain ⟨bs, k⟩ := k
  exact ⟨as ++ bs, h.append k⟩

theorem passage : Passage (@IsBefore σ) := ⟨quiet, recorded, latched, trans, id⟩

end RunState.IsBefore

namespace Run

variable {σ α β : Type}

/-- A part of a run, however it ends, only adds to the journal. -/
def Grows (x : Run σ α) : Prop := ∀ s : RunState σ, s.IsBefore (x.run s).2

namespace Grows

theorem eq {x : Run σ α} (hx : Grows x) {s t : RunState σ} {r : Except Abort α} (h : x.run s = (r, t)) :
    s.IsBefore t := by
  have hs := hx s
  rwa [h] at hs

theorem bind {x : Run σ α} {k : α → Run σ β} (hx : Grows x) (hk : ∀ a, Grows (k a)) : Grows (x >>= k) :=
  RunState.IsBefore.passage.bind hx hk

theorem silent {x : Run σ α} (hx : Silent x) : Grows x := RunState.IsBefore.passage.silent hx

theorem record (event : Event) : Grows (Run.record event : Run σ Unit) := fun s => .recorded event s

theorem converse {P : List Call → Prop} {x : Run σ α} (hx : Converses P x) : Grows x := by
  intro s
  obtain ⟨_, -, -, -, entries, _, hjournal, -⟩ := hx s
  exact ⟨entries.toList, by rw [RunState.Adds, hjournal, Array.toList_append]⟩

theorem contained {x : Run σ Attempt} (label : String) (level : Nat) (hx : Grows x) :
    Grows (Engine.contained label level x) := RunState.IsBefore.passage.contained label level hx

end Grows

/-- Between two moments of a run a part of it came to a value. -/
def Happens (x : Run σ α) (a : α) (s t : RunState σ) : Prop :=
  ∃ u v, s.IsBefore u ∧ x.run u = (.ok a, v) ∧ v.IsBefore t

namespace Happens

variable {x : Run σ α} {a : α} {s s' t t' : RunState σ}

theorem now (h : x.run s = (.ok a, t)) : Happens x a s t := ⟨s, t, .refl s, h, .refl t⟩

theorem widen (hs : s'.IsBefore s) (h : Happens x a s t) (ht : t.IsBefore t') : Happens x a s' t' := by
  obtain ⟨u, v, hu, hx, hv⟩ := h
  exact ⟨u, v, hs.trans hu, hx, hv.trans ht⟩

end Happens

end Run

namespace Engine

open Run (Grows)

variable {σ : Type} (e : Engine σ)

theorem finish_grows (step : Step) (r : StepResult) : Grows (e.finish step r) :=
  RunState.IsBefore.passage.finish e step r

theorem relates_growing : RunState.IsBefore.passage.likeness.Relates id e e :=
  RunState.IsBefore.passage.relates
    (fun head p label index => Grows.converse (e.api_converses head p label index))
    fun p label index => Grows.converse (e.sql_converses p label index)

theorem group_grows (steps : List Step) (labels : String) (level : Nat) (index : Option Nat) :
    Grows (e.group steps labels level index) :=
  e.relates_growing.group level steps labels index

theorem member_grows (labels : String) (level : Nat) (index : Option Nat) (step : Step) :
    Grows (e.member e.group labels level index step) :=
  e.relates_growing.member (fun _ => e.relates_growing.group (level + 1)) labels index step

theorem body_grows (step : Step) (label : String) (level : Nat) (index : Option Nat) :
    Grows (e.body e.group step label (stepLevel step level) index) :=
  e.relates_growing.body (fun _ => e.relates_growing.group (level + 1)) step label index

end Engine

end Casebook
