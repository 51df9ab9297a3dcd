import Casebook.Proofs.Run.Exchange

/-! What a run may do from one state to another.  A course is all that its steps, attempts, loops
and nested steps can do to the journal, to the latch, to the depth, and to how it ends; what always
holds of runs is read off courses. -/
namespace Casebook

/-- The limit for steps of a kind; steps that do not nest enter nothing. -/
def CascadeLimits.of (l : CascadeLimits) : StepKind → UInt32
  | .caseRef => l.caseRef
  | .foreach => l.foreach
  | .api | .sql => 0

/-- The deepest level that any kind of step may enter. -/
def CascadeLimits.deepest (l : CascadeLimits) : Nat := max l.caseRef.toNat l.foreach.toNat

theorem CascadeLimits.of_le_deepest (l : CascadeLimits) (kind : StepKind) :
    (l.of kind).toNat ≤ l.deepest := by
  cases kind with
  | caseRef => exact Nat.le_max_left _ _
  | foreach => exact Nat.le_max_right _ _
  | api | sql => exact Nat.zero_le _

/-- The message of a step inside which steps nest too deep. -/
def cascadeMessage (kind : StepKind) (limit : UInt32) : String :=
  "infinite loop or nesting too deep: " ++ (Abort.tooDeep kind limit).message

namespace StepResult

/-- A step that was reached but not started. -/
def IsPassedOver (r : StepResult) : Prop :=
  (r.status = .skip ∨ r.status = .disabled) ∧ r.output = none

/-- A step inside which steps nest too deep. -/
def IsCascadeFailure (kind : StepKind) (limit : UInt32) (r : StepResult) : Prop :=
  r.status = .failed ∧ r.message = some (cascadeMessage kind limit) ∧ r.output = none

end StepResult

variable {σ : Type}

/-- From one state to another, and to what aborts the run there, with `base` nested steps around
it. -/
inductive Course (limits : CascadeLimits) (base : Nat) :
    RunState σ → Option Abort → RunState σ → Prop where
  | quiet {s t : RunState σ} : s.Quiet t → Course limits base s none t
  | append {s t u : RunState σ} {c : Option Abort} :
    Course limits base s none t → Course limits base t c u → Course limits base s c u
  /-- A step is reached and not started. -/
  | pass {s t : RunState σ} {id : StepId} {label : String} {r : StepResult} :
    (s.recorded (.reached id label)).Quiet t → r.stepId = id → r.label = label → r.IsPassedOver →
    Course limits base s none (t.recorded (.reported r))
  | reach {s : RunState σ} (id : StepId) (label : String) :
    s.isHalted = false → Course limits base s none (s.recorded (.reached id label))
  /-- An attempt starts; all calls that it makes by itself follow at once. -/
  | attempt {s t : RunState σ} {label : String} {number : Nat} {calls : List Call}
      {c : Option Abort} :
    s.isHalted = false → Run.Exchange (s.recorded (.attempted label number)) calls t →
      Conversation calls →
    c = none ∨ c = some .panic → Course limits base s c t
  | bound {s : RunState σ} (b : LoopBound) :
    s.isHalted = false → Course limits base s none (s.recorded (.bounded b))
  | enter {s : RunState σ} {kind : StepKind} {level : Nat} :
    s.isHalted = false → s.depth = base + level → level ≤ (limits.of kind).toNat →
    Course limits base s none (s.recorded (.entered kind level))
  | iterate {s : RunState σ} (iteration : Nat) :
    s.isHalted = false → Course limits base s none (s.recorded (.iterated iteration))
  | overflow {s : RunState σ} {kind : StepKind} :
    s.isHalted = false → base + (limits.of kind).toNat < s.depth →
    Course limits base s (some (.tooDeep kind (limits.of kind)))
      (s.recorded (.overflowed kind (limits.of kind)))
  | report {s : RunState σ} (r : StepResult) : Course limits base s none (s.recorded (.reported r))
  | latch {s : RunState σ} (halt : Halt) :
    s.isHalted = false → Course limits base s none ((s.latched halt).recorded (.latched halt))
  /-- What happens inside a nested step. -/
  | nest {s t : RunState σ} {c : Option Abort} :
    s.depth ≤ base + limits.deepest → Course limits base { s with depth := s.depth + 1 } c t →
    Course limits base s c { t with depth := s.depth }
  /-- An outermost step fails at nesting that is too deep. -/
  | contain {s t u : RunState σ} {kind : StepKind} {limit : UInt32} {r : StepResult} :
    s.depth = base → Course limits base s (some (.tooDeep kind limit)) t → t.Quiet u →
    r.IsCascadeFailure kind limit → Course limits base s none (u.recorded (.reported r))
  /-- A loop without bound outlasts the patience of the engine. -/
  | exhaust {s t : RunState σ} :
    Course limits base (s.recorded (.bounded .forever)) none t → s.isHalted = false →
    Course limits base s (some .exhausted) t

namespace Course

variable {limits : CascadeLimits} {base : Nat} {s t : RunState σ} {c : Option Abort}

theorem depth_eq (h : Course limits base s c t) : t.depth = s.depth := by
  induction h with
  | quiet h => exact h.depth
  | append _ _ ih₁ ih₂ => exact ih₂.trans ih₁
  | pass h => exact h.depth
  | attempt _ h => exact h.depth_eq.trans rfl
  | latch halt h => simp [RunState.latched, h]
  | contain _ _ h _ ih => exact h.depth.trans ih
  | exhaust _ _ ih => exact ih
  | _ => rfl

end Course

/-- What a part of a run does from a state on is a course. -/
def Run.Follows {α : Type} (limits : CascadeLimits) (base : Nat) (x : Run σ α)
    (s : RunState σ) : Prop :=
  Course limits base s (Abort.of? (x.run s).1) (x.run s).2

namespace Run.Follows

variable {α β : Type} {limits : CascadeLimits} {base : Nat}

theorem silent {x : Run σ α} (hx : Run.Silent x) (s : RunState σ) : Follows limits base x s := by
  obtain ⟨a, t, hxs, hst, -⟩ := hx s
  unfold Follows
  rw [hxs]
  exact .quiet hst

theorem bind {x : Run σ α} {k : α → Run σ β} {s : RunState σ} (hx : Follows limits base x s)
    (hk : ∀ a t, x.run s = (.ok a, t) → Follows limits base (k a) t) :
    Follows limits base (x >>= k) s := by
  unfold Follows at hx ⊢
  rcases h : x.run s with ⟨c | a, t⟩
  · rw [h] at hx
    rw [Run.run_bind_of_error h]
    exact hx
  · rw [h] at hx
    rw [Run.run_bind_of_ok h]
    exact .append hx (hk a t h)

/-- What is read off a state does not change it. -/
theorem read {x : Run σ α} {k : α → Run σ β} {s : RunState σ} {a : α} (hx : x.run s = (.ok a, s))
    (hk : Follows limits base (k a) s) : Follows limits base (x >>= k) s := by
  unfold Follows
  rw [Run.run_bind_of_ok hx]
  exact hk

end Run.Follows

end Casebook
