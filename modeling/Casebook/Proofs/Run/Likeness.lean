import Casebook.Proofs.Run.EngineCourse
import Casebook.Proofs.Run.ResultTree

/-! Two engines side by side.  A likeness relates parts of two runs and is kept by all that parts of
runs are made of; two engines that differ only in their options, their patience and what one of them
keeps of the steps of cases are then alike as soon as what they make of finished steps is. -/
namespace Casebook

namespace Run

variable {σ α β : Type}

/-- All results of a part of a run have a property. -/
def Returns (P : α → Prop) (x : Run σ α) : Prop := ∀ s a t, x.run s = (.ok a, t) → P a

namespace Returns

variable {P : α → Prop}

theorem pure {a : α} (h : P a) : Returns P (Pure.pure a : Run σ α) := by
  intro s b t hrun
  cases hrun
  exact h

theorem bind {x : Run σ β} {k : β → Run σ α} (h : ∀ b, Returns P (k b)) : Returns P (x >>= k) := by
  intro s a t hrun
  rw [run_bind] at hrun
  split at hrun
  · exact h _ _ _ _ hrun
  · cases hrun

theorem mono {Q : α → Prop} {x : Run σ α} (hx : Returns P x) (h : ∀ a, P a → Q a) :
    Returns Q x :=
  fun s a t hrun => h a (hx s a t hrun)

end Returns

/-- Parts of two runs end alike: the second one came to a function of what the first one came to, in a related state. -/
def EndAlike (R : RunState σ → RunState σ → Prop) (f : α → β) (p : Except Abort α × RunState σ)
    (p' : Except Abort β × RunState σ) : Prop := p'.1 = p.1.map f ∧ R p.2 p'.2

namespace EndAlike

variable {R : RunState σ → RunState σ → Prop}

/-- What follows has to end alike only after what the first part comes to. -/
theorem bindOf {γ δ : Type} {f : α → β} {g : γ → δ} {x : Run σ α} {x' : Run σ β} {k : α → Run σ γ} {k' : β → Run σ δ}
    {s s' : RunState σ} (hx : EndAlike R f (x.run s) (x'.run s'))
    (hk : ∀ a t t', x.run s = (.ok a, t) → R t t' → EndAlike R g ((k a).run t) ((k' (f a)).run t')) :
    EndAlike R g ((x >>= k).run s) ((x' >>= k').run s') := by
  obtain ⟨hr, ht⟩ := hx
  rw [run_bind, run_bind]
  rcases hs : x.run s with ⟨c | a, t⟩ <;> rcases hs' : x'.run s' with ⟨c' | a', t'⟩ <;> rw [hs, hs'] at hr ht
  · cases hr
    exact ⟨rfl, ht⟩
  · cases hr
  · cases hr
  · cases hr
    exact hk a t t' hs ht

theorem bind {γ δ : Type} {f : α → β} {g : γ → δ} {x : Run σ α} {x' : Run σ β} {k : α → Run σ γ} {k' : β → Run σ δ}
    {s s' : RunState σ} (hx : EndAlike R f (x.run s) (x'.run s'))
    (hk : ∀ a t t', R t t' → EndAlike R g ((k a).run t) ((k' (f a)).run t')) :
    EndAlike R g ((x >>= k).run s) ((x' >>= k').run s') :=
  bindOf hx fun a t t' _ => hk a t t'

theorem contained {f : Attempt → Attempt} {x x' : Run σ Attempt} {s s' : RunState σ} (label : String) (level : Nat)
    (hf : ∀ message, f (.refused message) = .refused message) (hR : ∀ t t' n, R t t' → R (t.noted n) (t'.noted n))
    (hx : EndAlike R f (x.run s) (x'.run s')) :
    EndAlike R f ((Engine.contained label level x).run s) ((Engine.contained label level x').run s') := by
  rw [Engine.run_contained, Engine.run_contained]
  rcases hs : x.run s with ⟨r, t⟩
  rcases hs' : x'.run s' with ⟨r', t'⟩
  rw [hs, hs'] at hx
  obtain ⟨hr, ht⟩ := hx
  cases hr
  rcases r with (⟨kind, limit⟩ | _ | _ | _) | a
  · simp only
    split
    · exact ⟨congrArg Except.ok (hf _).symm, hR t t' _ ht⟩
    · exact ⟨rfl, ht⟩
  all_goals exact ⟨rfl, ht⟩

end EndAlike

end Run

namespace Engine

open Run (Returns)

variable {σ : Type} (e : Engine σ)

theorem judge_logs (h : StepHead) (p : ApiParams) (label : String) (index : Option Nat)
    (response : HttpResponse) (log : RequestLog) :
    Returns (fun a => ∃ log, a.output = some (.api log)) (e.judge h p label index response log) := by
  unfold judge
  split
  · exact .bind fun _ => .bind fun _ => .pure ⟨_, rfl⟩
  · exact .pure ⟨_, rfl⟩

/-- All that an attempt at an api step leaves behind is a log. -/
theorem api_logs (h : StepHead) (p : ApiParams) (label : String) (index : Option Nat) :
    Returns (fun a => ∃ log, a.output = some (.api log)) (e.api h p label index) := by
  unfold api
  refine .bind fun written => ?_
  split
  · exact .pure ⟨_, rfl⟩
  · refine .bind fun url => .bind fun made => ?_
    split
    split
    · exact .pure ⟨_, rfl⟩
    · refine .bind fun answer => ?_
      split
      · exact .pure ⟨_, rfl⟩
      · exact e.judge_logs h p label index _ _

theorem sql_logs (p : SqlParams) (label : String) (index : Option Nat) :
    Returns (fun a => ∃ log, a.output = some (.sql log)) (e.sql p label index) := by
  unfold sql
  refine .bind fun target => ?_
  split
  · exact .pure ⟨_, rfl⟩
  · refine .bind fun connected => ?_
    split
    · exact .pure ⟨_, rfl⟩
    · refine .bind fun queried => ?_
      split
      split
      · exact .pure ⟨_, rfl⟩
      · exact .pure ⟨_, rfl⟩
      · exact .bind fun _ => .pure ⟨_, rfl⟩

theorem api_leaf (h : StepHead) (p : ApiParams) (label : String) (index : Option Nat) :
    Returns (·.inner = []) (e.api h p label index) := by
  refine (e.api_logs h p label index).mono ?_
  rintro a ⟨log, hlog⟩
  simp [Attempt.inner, hlog, StepOutput.inner]

theorem sql_leaf (p : SqlParams) (label : String) (index : Option Nat) :
    Returns (·.inner = []) (e.sql p label index) := by
  refine (e.sql_logs p label index).mono ?_
  rintro a ⟨log, hlog⟩
  simp [Attempt.inner, hlog, StepOutput.inner]

/-- Nothing in what an attempt at an api step comes to is changed with the results of steps. -/
theorem api_fixed (f : StepResult → StepResult) (h : StepHead) (p : ApiParams) (label : String)
    (index : Option Nat) : Returns (fun a => a.map f = a) (e.api h p label index) :=
  (e.api_leaf h p label index).mono fun _ ha => Attempt.map_of_inner ha f

theorem sql_fixed (f : StepResult → StepResult) (p : SqlParams) (label : String)
    (index : Option Nat) : Returns (fun a => a.map f = a) (e.sql p label index) :=
  (e.sql_leaf p label index).mono fun _ ha => Attempt.map_of_inner ha f

theorem api_recast (g : Recast) (h : StepHead) (p : ApiParams) (label : String) (index : Option Nat) :
    Returns (fun a => a.recast g = a) (e.api h p label index) :=
  (e.api_logs h p label index).mono fun _ ha => Attempt.recast_of_log (.inl ha) g

theorem sql_recast (g : Recast) (p : SqlParams) (label : String) (index : Option Nat) :
    Returns (fun a => a.recast g = a) (e.sql p label index) :=
  (e.sql_logs p label index).mono fun _ ha => Attempt.recast_of_log (.inr ha) g

end Engine

theorem StepResult.overall_map {f : StepResult → StepResult} (hf : ∀ r, (f r).isFailed = r.isFailed)
    (results : List StepResult) : overall (results.map f) = overall results := by
  have hany : (results.map f).any isFailed = results.any isFailed := by
    induction results with
    | nil => rfl
    | cons r results ih => rw [List.map_cons, List.any_cons, List.any_cons, hf, ih]
  unfold overall
  rw [hany]

/-- A relation between parts of two runs.  The second part does as the first, with a result that is
a function of that of the first; when `awake`, only from states that are not halted. -/
structure Likeness (σ : Type) where
  Like : {α β : Type} → (awake : Bool) → (α → β) → Run σ α → Run σ β → Prop
  /-- What is asked of a function of results where a run goes on from them. -/
  Fits : {α β : Type} → (α → β) → Prop
  weaken {α β : Type} {f : α → β} {x : Run σ α} {x' : Run σ β} : Like false f x x' →
    Like true f x x'
  pure {α β : Type} (f : α → β) (a : α) : Like false f (pure a) (pure (f a))
  throw {α β : Type} (f : α → β) (c : Abort) : Like false f (throw c) (throw c)
  bind {α β γ δ : Type} {awake : Bool} {f : α → β} {g : γ → δ} {x : Run σ α} {x' : Run σ β}
    {k : α → Run σ γ}
    {k' : β → Run σ δ} :
    Fits f → Like awake f x x' → (∀ a, Like false g (k a) (k' (f a))) →
      Like awake g (x >>= k) (x' >>= k')
  silently {α β γ : Type} {awake : Bool} {g : β → γ} {x : Run σ α} {k : α → Run σ β}
    {k' : α → Run σ γ} :
    Run.Silent x → (∀ a, Like awake g (k a) (k' a)) → Like awake g (x >>= k) (x >>= k')
  record {α β : Type} {awake : Bool} {g : α → β} {event : Event} {x : Run σ α} {x' : Run σ β} :
    event.call? = none → event.report? = none → Like awake g x x' →
    Like awake g (Run.record event >>= fun _ => x) (Run.record event >>= fun _ => x')
  nested {α β : Type} {f : α → β} {x : Run σ α} {x' : Run σ β} :
    Like true f x x' → Like true f (Run.nested x) (Run.nested x')
  contained {f : Attempt → Attempt} {x x' : Run σ Attempt} (label : String) (level : Nat) :
    (∀ message, f (.refused message) = .refused message) → Like true f x x' →
    Like true f (Engine.contained label level x) (Engine.contained label level x')
  unlessHalted {α β : Type} {f : α → β} {x y : Run σ α} {x' y' : Run σ β} : Like false f x x' →
    Like true f y y' →
    Like false f (Run.isHalted >>= fun halted => if halted = true then x else y)
      (Run.isHalted >>= fun halted => if halted = true then x' else y')

namespace Likeness

variable {σ : Type} (L : Likeness σ)

/-- Whatever a run does where the patience of the first engine is at its end, it counts as like
that. -/
def Forgives : Prop :=
  ∀ {α β : Type} (f : α → β) (x' : Run σ β), L.Like false f (MonadExcept.throw .exhausted) x'

/-- A way to change results fits wherever a run of an engine goes on from results. -/
structure FitsRecast (g : Recast) : Prop where
  result : L.Fits g.each
  results : L.Fits (List.map g.each)
  all : L.Fits g.all
  attempt : L.Fits (Attempt.recast g)
  attempts : L.Fits fun p : Attempt × Nat => (p.1.recast g, p.2)
  iterations : L.Fits fun p : List IterationResult × Option ResolutionError =>
    (p.1.map (IterationResult.map g.each), p.2)

/-- Two engines of which the second one keeps something of the steps of every case, and otherwise differs from the first
in its transport, its options and its patience; and what a likeness must know of them. -/
structure Accords (g : Recast) (keep : List Step → List Step) (e e' : Engine σ) : Prop where
  ev : e'.ev = e.ev
  config : e'.config = e.config
  loopTree : e'.repository.loopTree = e.repository.loopTree
  steps : ∀ caseId, e'.repository.steps caseId = (e.repository.steps caseId).map keep
  fits : L.FitsRecast g
  isFailed : ∀ r, (g.each r).isFailed = r.isFailed
  overall : ∀ results, StepResult.overall (g.all results) = StepResult.overall results
  patience : e'.patience = e.patience ∨ e.patience ≤ e'.patience ∧ L.Forgives
  api : ∀ head p label index, L.Like true (Attempt.recast g) (e.api head p label index)
    (e'.api head p label index)
  sql : ∀ p label index, L.Like true (Attempt.recast g) (e.sql p label index) (e'.sql p label index)
  interrupted : ∀ step label, L.Like false g.each (Run.report (Engine.interrupted step label))
    (Run.report (Engine.interrupted step label))
  disabled : ∀ (step : Step) label,
    L.Like false g.each (Run.report (.bare step.id label step.kind.name .disabled))
    (Run.report (.bare step.id label step.kind.name .disabled))
  undecided : ∀ step label cause, L.Like false g.each (e.undecided step label cause)
    (e'.undecided step label cause)
  unmet : ∀ step label, L.Like false g.each (e.finish step (Engine.unmet step label))
    (e'.finish step (Engine.unmet step label))
  finish : ∀ step label (a : Attempt) n, L.Like false g.each (e.finish step (a.result step label n))
    (e'.finish step ((a.recast g).result step label n))
  /-- Where steps are run alike, so are those that are kept. -/
  members : ∀ nest nest' labels level index,
    (∀ step, L.Like false g.each (e.member nest labels level index step)
      (e'.member nest' labels level index step)) →
    ∀ steps, L.Like false g.all (e.groupWith nest steps labels level index)
      (e'.groupWith nest' (keep steps) labels level index)

/-- The steps of a level are run alike, both those of loops and those that are kept of a case. -/
def NestsRecast (g : Recast) (keep : List Step → List Step) (nest nest' : Engine.Nest σ)
    (level : Nat) : Prop :=
  ∀ steps labels index,
    L.Like false (List.map g.each) (nest steps labels level index) (nest' steps labels level index) ∧
      L.Like false g.all (nest steps labels level index) (nest' (keep steps) labels level index)

variable {L} {g : Recast} {keep : List Step → List Step}

theorem started {x x' : Run σ Attempt} (hx : L.Like true (Attempt.recast g) x x') (label : String)
    (n : Nat) :
    L.Like true (Attempt.recast g) (Engine.started label x n) (Engine.started label x' n) :=
  L.record rfl rfl hx

theorem retrying (hf : L.Fits (Attempt.recast g)) {x x' : Run σ Attempt}
    (hx : L.Like true (Attempt.recast g) x x') (label : String) (left n : Nat) :
    L.Like true (fun p => (p.1.recast g, p.2)) (Engine.retrying label x left n)
      (Engine.retrying label x' left n) := by
  induction left generalizing n with
  | zero => exact L.bind hf (started hx label n) fun a => L.pure _ (a, n)
  | succ left ih =>
    refine L.bind hf (started hx label n) fun a => ?_
    show L.Like false _ (if a.passed = true then _ else _) (if a.passed = true then _ else _)
    split
    · exact L.pure _ (a, n)
    · exact L.unlessHalted (L.pure _ (a, n)) (L.silently (.note _ _) fun _ => ih (n + 1))

theorem overflow {α β : Type} (g : α → β) (kind : StepKind) (limit : UInt32) :
    L.Like true g (Run.overflow kind limit) (Run.overflow kind limit) :=
  L.record rfl rfl (L.weaken (L.throw g _))

/-- Steps that are run alike one by one are run alike one after another. -/
theorem mapM {f : StepResult → StepResult} {x x' : Step → Run σ StepResult} (hresult : L.Fits f)
    (hresults : L.Fits (List.map f)) (hx : ∀ step, L.Like false f (x step) (x' step)) (steps : List Step) :
    L.Like false (List.map f) (steps.mapM x) (steps.mapM x') := by
  induction steps with
  | nil => exact L.pure (List.map f) []
  | cons step steps ih =>
    rw [List.mapM_cons, List.mapM_cons]
    refine L.bind hresult (hx step) fun r => L.bind hresults ih fun rs => ?_
    exact L.pure (List.map f) (r :: rs)

namespace Accords

variable {e e' : Engine σ} (h : L.Accords g keep e e')

include h

theorem turn_eq : e'.turn = e.turn := by
  funext name breakCondition iteration
  unfold Engine.turn
  rw [h.ev]

theorem loopBody_eq : e'.loopBody = e.loopBody := by
  funext id own
  unfold Engine.loopBody
  rw [h.loopTree]

theorem overall_map (results : List StepResult) :
    StepResult.overall (results.map g.each) = StepResult.overall results :=
  StepResult.overall_map h.isFailed results

/-! ### Nested steps -/

variable {nest nest' : Engine.Nest σ} {level : Nat}

theorem caseRef (hnest : level ≤ e.config.limits.deepest → L.NestsRecast g keep nest nest' level)
    (caseId : CaseId) (labels : String) (index : Option Nat) :
    L.Like true (Attempt.recast g) (e.caseRef nest caseId labels level index)
      (e'.caseRef nest' caseId labels level index) := by
  unfold Engine.caseRef
  rw [h.steps, h.config]
  simp only
  split
  case isTrue => exact overflow _ _ _
  case isFalse hlimit =>
    have hdeepest : level ≤ e.config.limits.deepest :=
      Nat.le_trans (Nat.le_of_not_lt hlimit) (Nat.le_max_left _ _)
    cases e.repository.steps caseId with
    | error cause => exact L.weaken (L.pure _ (Attempt.refused _))
    | ok steps =>
      refine L.silently (.note _ _) fun _ => L.record rfl rfl ?_
      refine L.bind h.fits.all (L.weaken (hnest hdeepest steps _ _).2) fun results => ?_
      rw [h.overall]
      exact L.pure _ (Attempt.mk _ none (some (.case results)))

theorem iterate {body body' : Nat → Run σ (List StepResult)}
    (hbody : ∀ i, L.Like false (List.map g.each) (body i) (body' i)) (name : String)
    (breakCondition : Option String) {bounded : Bool} {left left' : Nat}
    (hleft : left' = left ∨ bounded = false ∧ left ≤ left' ∧ L.Forgives) (iteration : Nat) :
    L.Like false (fun p => (p.1.map (IterationResult.map g.each), p.2))
      (Engine.iterate (e.turn name breakCondition) body bounded left iteration)
      (Engine.iterate (e'.turn name breakCondition) body' bounded left' iteration) := by
  rw [h.turn_eq]
  induction left generalizing left' iteration with
  | zero =>
    rcases hleft with rfl | ⟨rfl, -, hforgives⟩
    · unfold Engine.iterate
      split
      · exact L.pure _ ([], none)
      · exact L.throw _ _
    · exact hforgives _ _
  | succ left ih =>
    obtain ⟨left', rfl⟩ : ∃ n, left' = n + 1 := by
      rcases hleft with rfl | ⟨-, hle, -⟩
      · exact ⟨left, rfl⟩
      · exact ⟨left' - 1, by omega⟩
    have hleft : left' = left ∨ bounded = false ∧ left ≤ left' ∧ L.Forgives := by
      rcases hleft with hleft | ⟨hbounded, hle, hforgives⟩
      · exact .inl (Nat.succ.inj hleft)
      · exact .inr ⟨hbounded, Nat.le_of_succ_le_succ hle, hforgives⟩
    unfold Engine.iterate
    refine L.silently (e.turn_silent name breakCondition iteration) fun turn => ?_
    cases turn with
    | stop => exact L.pure _ ([], none)
    | broken cause => exact L.pure _ ([], some cause)
    | go =>
      refine L.record rfl rfl (L.bind h.fits.results (hbody iteration) fun results => ?_)
      refine L.bind h.fits.iterations (ih hleft (iteration + 1)) fun rest => ?_
      rw [h.overall_map]
      exact L.pure _ (IterationResult.mk _ _ results :: rest.1, rest.2)

theorem loop (hnest : L.NestsRecast g keep nest nest' level) (head : StepHead) (breakCondition : Option String)
    (bound : LoopBound) (steps : List Step) (labels : String) :
    L.Like true (Attempt.recast g) (e.loop nest head breakCondition bound steps labels level)
      (e'.loop nest' head breakCondition bound steps labels level) := by
  have hleft : e'.allowance bound = e.allowance bound ∨
      (bound != .forever) = false ∧ e.allowance bound ≤ e'.allowance bound ∧ L.Forgives := by
    cases bound with
    | times n => exact .inl rfl
    | forever => exact h.patience.imp_right fun hpatience => ⟨rfl, hpatience⟩
  unfold Engine.loop
  refine L.silently (.note _ _) fun _ => L.record rfl rfl ?_
  refine L.bind h.fits.iterations (L.weaken (h.iterate (fun i => (hnest _ _ _).1) _ _ hleft 0))
    fun p => ?_
  have hall : (p.1.map (IterationResult.map g.each)).all (fun i => i.status == .success) =
      p.1.all fun i => i.status == .success := by
    rw [List.all_map]
    congr 1
    funext i
    rw [Function.comp_apply, IterationResult.status_map]
  simp only
  rw [hall]
  exact L.pure _ (Attempt.mk _ _ (some (.foreach p.1)))

theorem foreach (hnest : level ≤ e.config.limits.deepest → L.NestsRecast g keep nest nest' level)
    (head : StepHead) (times : Json.Value) (breakCondition : Option String) (own : List Step)
    (labels : String) (index : Option Nat) :
    L.Like true (Attempt.recast g) (e.foreach nest head times breakCondition own labels level index)
      (e'.foreach nest' head times breakCondition own labels level index) := by
  unfold Engine.foreach
  rw [h.ev, h.config, h.loopBody_eq]
  simp only
  split
  case isTrue => exact overflow _ _ _
  case isFalse hlimit =>
    have hdeepest : level ≤ e.config.limits.deepest :=
      Nat.le_trans (Nat.le_of_not_lt hlimit) (Nat.le_max_right _ _)
    refine L.silently .scope fun scope => ?_
    split
    · exact L.weaken (L.pure _ (Attempt.refused _))
    · refine L.record rfl rfl ?_
      split
      · exact L.weaken (L.pure _ (Attempt.refused _))
      · exact h.loop (hnest hdeepest) head breakCondition _ _ labels

/-! ### Steps and groups -/

theorem body (hnest : level < e.config.limits.deepest → L.NestsRecast g keep nest nest' (level + 1))
    (step : Step) (label : String) (index : Option Nat) :
    L.Like true (Attempt.recast g) (e.body nest step label (Engine.stepLevel step level) index)
      (e'.body nest' step label (Engine.stepLevel step level) index) := by
  cases step with
  | api head p => exact h.api head p label index
  | sql head p => exact h.sql p label index
  | caseRef head caseId => exact L.nested (h.caseRef hnest caseId _ index)
  | foreach head times breakCondition own =>
    exact L.nested (h.foreach hnest head times breakCondition own _ index)

theorem attempts (hnest : level < e.config.limits.deepest → L.NestsRecast g keep nest nest' (level + 1))
    (step : Step) (label : String) (index : Option Nat) :
    L.Like true g.each (e.attempts nest step label (Engine.stepLevel step level) index)
      (e'.attempts nest' step label (Engine.stepLevel step level) index) := by
  unfold Engine.attempts
  refine L.silently (Engine.noteDelay_silent step label) fun _ => ?_
  have hbody :=
    L.contained label (Engine.stepLevel step level) (fun _ => rfl) (h.body hnest step label index)
  refine L.bind h.fits.attempts (retrying h.fits.attempt hbody label _ 0) fun p => ?_
  exact h.finish step label p.1 p.2

theorem executeWith (hnest : level < e.config.limits.deepest → L.NestsRecast g keep nest nest' (level + 1))
    (step : Step) (labels : String) (index : Option Nat) :
    L.Like false g.each (e.executeWith nest step labels (Engine.stepLevel step level) index)
      (e'.executeWith nest' step labels (Engine.stepLevel step level) index) := by
  unfold Engine.executeWith
  rw [h.ev]
  have hattempts := h.attempts hnest step (labels ++ step.head.name) index
  refine L.unlessHalted ?_ ?_
  · exact L.silently .status fun status => L.silently (.note _ _) fun _ => h.interrupted step _
  · split
    · exact hattempts
    · refine L.silently .scope fun scope => ?_
      split
      · exact hattempts
      · exact L.silently (.note _ _) fun _ => L.weaken (h.unmet step _)
      · exact L.weaken (h.undecided step _ _)

theorem member (hnest : level < e.config.limits.deepest → L.NestsRecast g keep nest nest' (level + 1))
    (labels : String) (index : Option Nat) (step : Step) :
    L.Like false g.each (e.member nest labels level index step)
      (e'.member nest' labels level index step) := by
  unfold Engine.member
  refine L.record rfl rfl ?_
  split
  · exact h.executeWith hnest step labels index
  · exact h.disabled step _

theorem groupWith
    (hnest : level < e.config.limits.deepest → L.NestsRecast g keep nest nest' (level + 1)) :
    L.NestsRecast g keep (e.groupWith nest) (e'.groupWith nest') level := by
  intro steps labels index
  have hmember := h.member hnest labels index
  exact ⟨mapM h.fits.result h.fits.results hmember _, h.members nest nest' labels level index hmember steps⟩

/-- Engines of which finished steps are alike run the steps of every level alike. -/
theorem group (level : Nat) : L.NestsRecast g keep e.group e'.group level := by
  have hdeepest : e.deepest = e'.deepest := by
    unfold Engine.deepest
    rw [h.config]
  refine Engine.group_induct_levels hdeepest (motive := fun _ x x' => ∀ steps labels index,
    L.Like false (List.map g.each) (x steps labels index) (x' steps labels index) ∧
      L.Like false g.all (x steps labels index) (x' (keep steps) labels index)) ?_ level
  exact fun nest nest' level ih => h.groupWith ih

end Accords

/-! ### Engines with the same repository -/

section

variable (L)

/-- A function of results fits wherever a run of an engine goes on from results. -/
structure FitsResults (f : StepResult → StepResult) : Prop where
  result : L.Fits f
  results : L.Fits (List.map f)
  attempt : L.Fits (Attempt.map f)
  attempts : L.Fits fun p : Attempt × Nat => (p.1.map f, p.2)
  iterations : L.Fits fun p : List IterationResult × Option ResolutionError =>
    (p.1.map (IterationResult.map f), p.2)

/-- Two engines that differ in their transport, their options and their patience, and what a
likeness must know of them. -/
structure Relates (f : StepResult → StepResult) (e e' : Engine σ) : Prop where
  ev : e'.ev = e.ev
  repository : e'.repository = e.repository
  config : e'.config = e.config
  fits : L.FitsResults f
  isFailed : ∀ r, (f r).isFailed = r.isFailed
  patience : e'.patience = e.patience ∨ e.patience ≤ e'.patience ∧ L.Forgives
  api : ∀ head p label index, L.Like true (Attempt.map f) (e.api head p label index)
    (e'.api head p label index)
  sql : ∀ p label index, L.Like true (Attempt.map f) (e.sql p label index) (e'.sql p label index)
  interrupted : ∀ step label, L.Like false f (Run.report (Engine.interrupted step label))
    (Run.report (Engine.interrupted step label))
  disabled : ∀ (step : Step) label,
    L.Like false f (Run.report (.bare step.id label step.kind.name .disabled))
    (Run.report (.bare step.id label step.kind.name .disabled))
  undecided : ∀ step label cause, L.Like false f (e.undecided step label cause)
    (e'.undecided step label cause)
  unmet : ∀ step label, L.Like false f (e.finish step (Engine.unmet step label))
    (e'.finish step (Engine.unmet step label))
  finish : ∀ step label (a : Attempt) n, L.Like false f (e.finish step (a.result step label n))
    (e'.finish step ((a.map f).result step label n))

/-- The steps of a level are run alike. -/
def Nests (f : StepResult → StepResult) (nest nest' : Engine.Nest σ) (level : Nat) : Prop :=
  ∀ steps labels index, L.Like false (List.map f) (nest steps labels level index)
    (nest' steps labels level index)

end

variable {f : StepResult → StepResult}

theorem Nests.recast {nest nest' : Engine.Nest σ} {level : Nat} (h : L.Nests f nest nest' level) :
    L.NestsRecast (.pointwise f) id nest nest' level :=
  fun steps labels index => ⟨h steps labels index, h steps labels index⟩

namespace Relates

variable {e e' : Engine σ} (h : L.Relates f e e')

include h

theorem accords : L.Accords (.pointwise f) id e e' where
  ev := h.ev
  config := h.config
  loopTree := by rw [h.repository]
  steps caseId := by
    rw [h.repository]
    cases e.repository.steps caseId <;> rfl
  fits := {
    result := h.fits.result
    results := h.fits.results
    all := h.fits.results
    attempt := (Attempt.recast_pointwise f).symm ▸ h.fits.attempt
    attempts := (Attempt.recast_pointwise f).symm ▸ h.fits.attempts
    iterations := h.fits.iterations }
  isFailed := h.isFailed
  overall := StepResult.overall_map h.isFailed
  patience := h.patience
  api head p label index := (Attempt.recast_pointwise f).symm ▸ h.api head p label index
  sql p label index := (Attempt.recast_pointwise f).symm ▸ h.sql p label index
  interrupted := h.interrupted
  disabled := h.disabled
  undecided := h.undecided
  unmet := h.unmet
  finish step label a n := (Attempt.recast_pointwise f).symm ▸ h.finish step label a n
  members _ _ _ _ _ hmember _ := mapM h.fits.result h.fits.results hmember _

variable {nest nest' : Engine.Nest σ} {level : Nat}

theorem body (hnest : level < e.config.limits.deepest → L.Nests f nest nest' (level + 1))
    (step : Step) (label : String) (index : Option Nat) :
    L.Like true (Attempt.map f) (e.body nest step label (Engine.stepLevel step level) index)
      (e'.body nest' step label (Engine.stepLevel step level) index) :=
  Attempt.recast_pointwise f ▸ h.accords.body (fun hlt => (hnest hlt).recast) step label index

theorem member (hnest : level < e.config.limits.deepest → L.Nests f nest nest' (level + 1))
    (labels : String) (index : Option Nat) (step : Step) :
    L.Like false f (e.member nest labels level index step)
      (e'.member nest' labels level index step) :=
  h.accords.member (fun hlt => (hnest hlt).recast) labels index step

/-- Engines of which finished steps are alike run the steps of every level alike. -/
theorem group (level : Nat) : L.Nests f e.group e'.group level :=
  fun steps labels index => (h.accords.group level steps labels index).1

/-- In the same environment they report alike on every case. -/
theorem runCase (henv : e'.options.envId = e.options.envId) (caseId : CaseId) :
    L.Like false (CaseReport.map f) (e.runCase caseId) (e'.runCase caseId) := by
  unfold Engine.runCase
  rw [h.repository, henv]
  cases e.repository.caseInfo caseId with
  | error cause => exact L.throw _ (.repository cause)
  | ok found =>
    refine L.silently (.pure found) fun info => ?_
    cases e.repository.steps caseId with
    | error cause => exact L.throw _ (.repository cause)
    | ok found =>
      refine L.silently (.pure found) fun steps => L.silently (.note _ _) fun _ => ?_
      refine L.bind h.fits.results (h.group 0 steps "" none) fun results => ?_
      rw [StepResult.overall_map h.isFailed]
      exact L.silently .status fun status => L.silently (.note _ _) fun _ => L.pure (CaseReport.map f) _

end Relates

end Likeness

end Casebook
