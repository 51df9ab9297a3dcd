import Casebook.Proofs.Run.Likeness

/-! The steps of a level run the steps inside them one level deeper, and so on; limits make this
recursion one that ends.  It has a single solution, whatever refers to what, and its runs do not
depend on the patience of the engine unless that is what ends them. -/
namespace Casebook

namespace Engine

variable {σ : Type} (e : Engine σ)

/-- Two ways to run steps agree at a level. -/
def NestAgree (nest nest' : Nest σ) (level : Nat) : Prop :=
  ∀ steps labels index, nest steps labels level index = nest' steps labels level index

section

variable {e} {nest nest' : Nest σ} {level : Nat}

theorem caseRef_congr (h : level ≤ e.config.limits.caseRef.toNat → NestAgree nest nest' level)
    (caseId : CaseId) (labels : String) (index : Option Nat) :
    e.caseRef nest caseId labels level index = e.caseRef nest' caseId labels level index := by
  unfold caseRef
  simp only
  split
  case isTrue => rfl
  case isFalse hlimit => simp only [h (Nat.le_of_not_lt hlimit) _ labels index]

theorem foreach_congr (h : level ≤ e.config.limits.foreach.toNat → NestAgree nest nest' level)
    (head : StepHead) (times : Json.Value) (breakCondition : Option String) (own : List Step)
    (labels : String) (index : Option Nat) :
    e.foreach nest head times breakCondition own labels level index =
      e.foreach nest' head times breakCondition own labels level index := by
  unfold foreach loop
  simp only
  split
  case isTrue => rfl
  case isFalse hlimit => simp only [h (Nat.le_of_not_lt hlimit) _ labels]

theorem body_congr (h : level < e.deepest → NestAgree nest nest' (level + 1)) (step : Step)
    (label : String) (index : Option Nat) :
    e.body nest step label (stepLevel step level) index =
      e.body nest' step label (stepLevel step level) index := by
  cases step with
  | api | sql => rfl
  | caseRef head caseId =>
    have hle := fun hlimit => h (Nat.le_trans hlimit (Nat.le_max_left _ _))
    exact congrArg Run.nested (caseRef_congr hle caseId (label ++ "-") index)
  | foreach head times breakCondition own =>
    have hle := fun hlimit => h (Nat.le_trans hlimit (Nat.le_max_right _ _))
    exact congrArg Run.nested (foreach_congr hle head times breakCondition own (label ++ "-") index)

/-- Beyond the deepest level it does not matter how steps are run. -/
theorem groupWith_congr (h : level < e.deepest → NestAgree nest nest' (level + 1)) :
    NestAgree (e.groupWith nest) (e.groupWith nest') level := by
  intro steps labels index
  have hattempts : ∀ step label, e.attempts nest step label (stepLevel step level) index =
      e.attempts nest' step label (stepLevel step level) index := by
    intro step label
    unfold attempts
    rw [body_congr h]
  have hmember : e.member nest labels level index = e.member nest' labels level index := by
    funext step
    have hlevel : (if step.kind.isNested then level + 1 else level) = stepLevel step level := rfl
    unfold member executeWith
    rw [hlevel]
    simp only [hattempts]
  unfold groupWith
  rw [hmember]

end

/-- The recursion: groups run the groups inside them. -/
theorem group_eq (level : Nat) : NestAgree e.group (e.groupWith e.group) level := by
  intro steps labels index
  by_cases hlevel : level < e.deepest
  · obtain ⟨room, hroom⟩ : ∃ room, e.deepest - level = room + 1 := ⟨e.deepest - level - 1, by omega⟩
    have hnext : e.deepest - (level + 1) = room := by omega
    have hnest : NestAgree (e.groupWithin room) e.group (level + 1) := by
      intro steps labels index
      show _ = e.groupWithin (e.deepest - (level + 1)) steps labels (level + 1) index
      rw [hnext]
    show e.groupWithin (e.deepest - level) steps labels level index = _
    rw [hroom]
    exact groupWith_congr (fun _ => hnest) steps labels index
  · have hroom : e.deepest - level = 0 := by omega
    show e.groupWithin (e.deepest - level) steps labels level index = _
    rw [hroom]
    exact groupWith_congr (fun hlt => absurd hlt hlevel) steps labels index

/-- Whatever runs groups like this is `Engine.group`. -/
theorem eq_group {nest : Nest σ} (h : ∀ level, NestAgree nest (e.groupWith nest) level) :
    nest = e.group := by
  have hgroup : ∀ level, NestAgree nest e.group level := by
    intro level steps labels index
    refine e.group_induct
      (motive := fun level steps labels index x => nest steps labels level index = x) ?_ level steps
      labels index
    intro nest' level ih steps labels index
    rw [h]
    exact groupWith_congr ih steps labels index
  funext steps labels level index
  exact hgroup level steps labels index

end Engine

/-! ### Patience -/

namespace Run

variable {σ α β γ δ : Type}

/-- The second part of a run does as the first, unless the patience of the engine ended the
first. -/
def Outlives (f : α → β) (x : Run σ α) (x' : Run σ β) : Prop :=
  ∀ s, (∃ t, x.run s = (.error .exhausted, t)) ∨ x'.run s = ((x.run s).1.map f, (x.run s).2)

namespace Outlives

theorem bind {f : α → β} {g : γ → δ} {x : Run σ α} {x' : Run σ β} {k : α → Run σ γ}
    {k' : β → Run σ δ} (hx : Outlives f x x') (hk : ∀ a, Outlives g (k a) (k' (f a))) :
    Outlives g (x >>= k) (x' >>= k') := by
  intro s
  rcases hx s with ⟨t, hx⟩ | hx
  · exact .inl ⟨t, run_bind_of_error hx k⟩
  · rcases h : x.run s with ⟨c | a, t⟩
    · rw [h] at hx
      right
      rw [run_bind_of_error h, run_bind_of_error hx]
      rfl
    · rw [h] at hx
      rw [run_bind_of_ok h, run_bind_of_ok hx]
      exact hk a t

theorem refl (x : Run σ α) : Outlives id x x := by
  intro s
  right
  rcases x.run s with ⟨c | a, t⟩ <;> rfl

/-- After the same part of a run, the same holds of what follows. -/
theorem after {g : γ → δ} {x : Run σ α} {k : α → Run σ γ} {k' : α → Run σ δ}
    (hk : ∀ a, Outlives g (k a) (k' a)) : Outlives g (x >>= k) (x >>= k') :=
  (refl x).bind hk

theorem nested {f : α → β} {x : Run σ α} {x' : Run σ β} (hx : Outlives f x x') :
    Outlives f (Run.nested x) (Run.nested x') := by
  intro s
  rcases hx { s with depth := s.depth + 1 } with ⟨t, hx⟩ | hx
  · left
    rw [run_nested, hx]
    exact ⟨_, rfl⟩
  · right
    rw [run_nested, run_nested, hx]

theorem contained {f : Attempt → Attempt} {x x' : Run σ Attempt} (label : String) (level : Nat)
    (hf : ∀ message, f (.refused message) = .refused message) (hx : Outlives f x x') :
    Outlives f (Engine.contained label level x) (Engine.contained label level x') := by
  intro s
  rw [Engine.run_contained, Engine.run_contained]
  rcases hx s with ⟨t, hx⟩ | hx
  · rw [hx]
    exact .inl ⟨t, rfl⟩
  · right
    rw [hx]
    rcases x.run s with ⟨(⟨kind, limit⟩ | _ | _ | _) | a, t⟩ <;> try rfl
    have hrefused := hf (cascadeMessage kind limit)
    simp only [Except.map]
    split
    · simp only [hrefused]
    · rfl

end Outlives

end Run

/-- Likeness up to patience. -/
def Likeness.patient (σ : Type) : Likeness σ where
  Like _ f x x' := Run.Outlives f x x'
  Fits _ := True
  weaken := id
  pure _ _ _ := .inr rfl
  throw _ _ _ := .inr rfl
  bind _ := .bind
  silently _ hk := .after hk
  record _ _ hx := .after fun _ => hx
  nested := .nested
  contained := .contained
  unlessHalted hx hy := .after fun halted => by
    cases halted with
    | true => exact hx
    | false => exact hy

namespace Engine

variable {σ : Type} (e : Engine σ)

theorem relates_patience {patience : Nat} (hle : e.patience ≤ patience) :
    (Likeness.patient σ).Relates id e { e with patience } where
  ev := rfl
  repository := rfl
  config := rfl
  fits := ⟨trivial, trivial, trivial, trivial, trivial⟩
  isFailed _ := rfl
  patience := .inr ⟨hle, fun _ _ s => .inl ⟨s, rfl⟩⟩
  api head p label index := by
    rw [Attempt.map_id_eq]
    exact .refl (e.api head p label index)
  sql p label index := by
    rw [Attempt.map_id_eq]
    exact .refl (e.sql p label index)
  interrupted _ _ _ := .inr rfl
  disabled _ _ _ := .inr rfl
  undecided step label cause := .refl (e.undecided step label cause)
  unmet step label := .refl (e.finish step (unmet step label))
  finish step label a n := by
    rw [a.map_id]
    exact .refl (e.finish step (a.result step label n))

/-- A run of a case that the patience of the engine does not end is the same with more patience. -/
theorem runCase_outlives {patience : Nat} (hle : e.patience ≤ patience) (caseId : CaseId) :
    Run.Outlives id (e.runCase caseId) ({ e with patience }.runCase caseId) := by
  rw [← CaseReport.map_id_eq]
  exact (e.relates_patience hle).runCase rfl caseId

end Engine

end Casebook
