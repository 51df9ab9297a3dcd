import Casebook.Run.Request
import Casebook.Run.State

/-! How parts of a run act on a state.  Every part is a function from a state to a result, or to
what aborted the run, and the state after it. -/
namespace Casebook

/-- What aborted a part of a run. -/
def Abort.of? {α : Type} : Except Abort α → Option Abort
  | .ok _ => none
  | .error c => some c

namespace Run

variable {σ α β : Type}

theorem run_bind (x : Run σ α) (k : α → Run σ β) (s : RunState σ) :
    (x >>= k).run s = match x.run s with
      | (.ok a, t) => (k a).run t
      | (.error c, t) => (.error c, t) := by
  show (ExceptT.bindCont k (x.run s).1) (x.run s).2 = _
  rcases x.run s with ⟨c | a, t⟩ <;> rfl

theorem run_bind_of_ok {x : Run σ α} {s t : RunState σ} {a : α} (h : x.run s = (.ok a, t))
    (k : α → Run σ β) : (x >>= k).run s = (k a).run t := by
  rw [run_bind, h]

theorem run_bind_of_error {x : Run σ α} {s t : RunState σ} {c : Abort} (h : x.run s = (.error c, t))
    (k : α → Run σ β) : (x >>= k).run s = (.error c, t) := by
  rw [run_bind, h]

/-- What comes to a value did so in both of its parts. -/
theorem exists_of_run_bind {x : Run σ α} {k : α → Run σ β} {s u : RunState σ} {b : β}
    (h : (x >>= k).run s = (.ok b, u)) :
    ∃ a t, x.run s = (.ok a, t) ∧ (k a).run t = (.ok b, u) := by
  rcases hx : x.run s with ⟨c | a, t⟩
  · rw [run_bind_of_error hx] at h
    cases h
  · rw [run_bind_of_ok hx] at h
    exact ⟨a, t, rfl, h⟩

@[simp] theorem run_pure (a : α) (s : RunState σ) : (pure a : Run σ α).run s = (.ok a, s) := rfl

@[simp] theorem run_throw (c : Abort) (s : RunState σ) :
    (throw c : Run σ α).run s = (.error c, s) := rfl

theorem run_tryCatch (x : Run σ α) (handle : Abort → Run σ α) (s : RunState σ) :
    (tryCatch x handle).run s = match x.run s with
      | (.ok a, t) => (.ok a, t)
      | (.error c, t) => (handle c).run t := by
  simp only [tryCatch, tryCatchThe, MonadExceptOf.tryCatch, ExceptT.tryCatch, ExceptT.run,
    ExceptT.mk, bind,
    StateT.bind]
  rcases x s with ⟨c | a, t⟩ <;> rfl

@[simp] theorem run_get (s : RunState σ) : (get : Run σ (RunState σ)).run s = (.ok s, s) := rfl

@[simp] theorem run_modify (f : RunState σ → RunState σ) (s : RunState σ) :
    (modify f : Run σ Unit).run s = (.ok (), f s) := rfl

@[simp] theorem run_isHalted (s : RunState σ) :
    (isHalted : Run σ Bool).run s = (.ok s.isHalted, s) := rfl

@[simp] theorem run_scope (s : RunState σ) : (scope : Run σ Scope).run s = (.ok s.scope, s) := rfl

@[simp] theorem run_note (level : NoticeLevel) (text : String) (s : RunState σ) :
    (note level text).run s = (.ok (), s.noted ⟨level, text⟩) := rfl

@[simp] theorem run_record (event : Event) (s : RunState σ) :
    (record event).run s = (.ok (), s.recorded event) := rfl

@[simp] theorem run_report (r : StepResult) (s : RunState σ) :
    (report r).run s = (.ok r, s.recorded (.reported r)) := rfl

theorem run_latch (halt : Halt) (level : NoticeLevel) (text : String) (s : RunState σ) :
    (latch halt level text).run s =
      if s.isHalted then (.ok (), s)
      else (.ok (), (((s.noted ⟨level, text⟩).latched halt).recorded (.latched halt))) := by
  cases h : s.isHalted <;> simp [latch, run_bind, h]

theorem run_call (c : Call) (f : σ → Reply α × σ) (s : RunState σ) :
    (call c f).run s =
      (.ok (f s.world).1.answer, (s.answered (f s.world).1 (f s.world).2).recorded (.called c)) :=
        rfl

@[simp] theorem run_overflow (kind : StepKind) (limit : UInt32) (s : RunState σ) :
    (overflow kind limit : Run σ α).run s =
      (.error (.tooDeep kind limit), s.recorded (.overflowed kind limit)) := by
  simp [overflow, run_bind]

theorem run_nested (x : Run σ α) (s : RunState σ) :
    (nested x).run s =
      ((x.run { s with depth := s.depth + 1 }).1,
        { (x.run { s with depth := s.depth + 1 }).2 with depth := s.depth }) := rfl

end Run

theorem Drafting.run_bind {α β : Type} (x : Drafting α) (k : α → Drafting β) (d : Draft) :
    (x >>= k).run d = match x.run d with
      | (.ok a, d') => (k a).run d'
      | (.error fault, d') => (.error fault, d') := by
  show (ExceptT.bindCont k (x.run d).1).run (x.run d).2 = _
  rcases x.run d with ⟨fault | a, d'⟩ <;> rfl

end Casebook
