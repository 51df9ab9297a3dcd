import Casebook.Proofs.Run.Failures

/-! The trail of a run: what it does from its first state to its last one, however it ends.  All that runs do to their
scope and to the world, they do in attempts at api and sql steps that their case contains; in between they only record
events, and latch themselves. -/
namespace Casebook

namespace Run

variable {σ α β : Type}

/-- A part of a run that comes to a value, and does no more than look things up and take notes. -/
def Still (x : Run σ α) : Prop := ∀ s, ∃ a t, x.run s = (.ok a, t) ∧ s.Quiet t ∧ t.scope = s.scope

namespace Still

theorem pure (a : α) : Still (Pure.pure a : Run σ α) := fun s => ⟨a, s, rfl, .refl s, rfl⟩

theorem bind {x : Run σ α} {k : α → Run σ β} (hx : Still x) (hk : ∀ a, Still (k a)) : Still (x >>= k) := by
  intro s
  obtain ⟨a, t, hxs, hst, hscope⟩ := hx s
  obtain ⟨b, u, hkt, htu, hscope'⟩ := hk a t
  exact ⟨b, u, by rw [run_bind_of_ok hxs, hkt], hst.trans htu, hscope'.trans hscope⟩

theorem status : Still (Run.status : Run σ Status) := fun s => ⟨_, s, rfl, .refl s, rfl⟩

theorem isHalted : Still (Run.isHalted : Run σ Bool) := fun s => ⟨_, s, rfl, .refl s, rfl⟩

theorem scope : Still (Run.scope : Run σ Scope) := fun s => ⟨_, s, rfl, .refl s, rfl⟩

theorem note (level : NoticeLevel) (text : String) : Still (Run.note level text : Run σ Unit) :=
  fun s => ⟨(), _, rfl, .noted _ s, rfl⟩

theorem forM {f : α → Run σ Unit} (hf : ∀ a, Still (f a)) (as : List α) : Still (as.forM f) := by
  induction as with
  | nil => exact pure ()
  | cons a as ih => exact bind (hf a) fun _ => ih

end Still

end Run

/-- What a run does: it records an event, or it attempts an api or sql step, from the state after the attempt was
recorded. -/
inductive Deed (σ : Type) where
  | event (x : Event)
  | api (head : StepHead) (params : ApiParams) (label : String) (number : Nat) (index : Option Nat) (start : RunState σ)
  | sql (head : StepHead) (params : SqlParams) (label : String) (number : Nat) (index : Option Nat) (start : RunState σ)

namespace Engine

open Run (Still)

variable {σ : Type} (e : Engine σ) (root : List Step)

/-- From one state to another by such deeds; all steps attempted are among some steps or inside of them. -/
inductive Trail : RunState σ → List (Deed σ) → RunState σ → Prop where
  | still {s t : RunState σ} : s.Quiet t → t.scope = s.scope → Trail s [] t
  | latched (halt : Halt) (s : RunState σ) : Trail s [] (s.latched halt)
  | event {x : Event} (s : RunState σ) : x.call? = none → Trail s [.event x] (s.recorded x)
  | api {head : StepHead} {params : ApiParams} (label : String) (number : Nat) (index : Option Nat) (s : RunState σ) :
    e.Contains root (.api head params) →
    Trail s [.api head params label number index (s.recorded (.attempted label number))]
      ((e.api head params label index).run (s.recorded (.attempted label number))).2
  | sql {head : StepHead} {params : SqlParams} (label : String) (number : Nat) (index : Option Nat) (s : RunState σ) :
    e.Contains root (.sql head params) →
    Trail s [.sql head params label number index (s.recorded (.attempted label number))]
      ((e.sql params label index).run (s.recorded (.attempted label number))).2
  | nested {s t : RunState σ} {deeds : List (Deed σ)} :
    Trail { s with depth := s.depth + 1 } deeds t → Trail s deeds { t with depth := s.depth }
  | append {s t u : RunState σ} {deeds later : List (Deed σ)} :
    Trail s deeds t → Trail t later u → Trail s (deeds ++ later) u

/-- However a part of a run ends, it leaves a trail. -/
def Walks {α : Type} (x : Run σ α) : Prop := ∀ s, ∃ deeds, e.Trail root s deeds (x.run s).2

namespace Walks

variable {e root} {α β : Type}

theorem still {x : Run σ α} (hx : Still x) : e.Walks root x := by
  intro s
  obtain ⟨a, t, hxs, hst, hscope⟩ := hx s
  rw [hxs]
  exact ⟨[], .still hst hscope⟩

theorem throw (c : Abort) : e.Walks root (MonadExcept.throw c : Run σ α) := fun s => ⟨[], .still (.refl s) rfl⟩

theorem bind {x : Run σ α} {k : α → Run σ β} (hx : e.Walks root x) (hk : ∀ a, e.Walks root (k a)) :
    e.Walks root (x >>= k) := by
  intro s
  obtain ⟨deeds, hst⟩ := hx s
  rcases hxs : x.run s with ⟨c | a, t⟩ <;> rw [hxs] at hst
  · rw [Run.run_bind_of_error hxs]
    exact ⟨deeds, hst⟩
  · obtain ⟨later, htu⟩ := hk a t
    rw [Run.run_bind_of_ok hxs]
    exact ⟨deeds ++ later, hst.append htu⟩

theorem record {x : Event} (hx : x.call? = none) : e.Walks root (Run.record x) := fun s => ⟨_, .event s hx⟩

theorem report (r : StepResult) : e.Walks root (Run.report r) := .bind (.record rfl) fun _ => .still (.pure r)

theorem latch (halt : Halt) (level : NoticeLevel) (text : String) : e.Walks root (Run.latch halt level text) := by
  intro s
  rw [Run.run_latch]
  split
  · exact ⟨[], .still (.refl s) rfl⟩
  · exact ⟨_, .append (.still (.noted ⟨level, text⟩ s) rfl) (.append (.latched halt _) (.event _ rfl))⟩

theorem overflow (kind : StepKind) (limit : UInt32) : e.Walks root (Run.overflow kind limit : Run σ α) :=
  .bind (.record rfl) fun _ => .throw _

theorem nested {x : Run σ α} (hx : e.Walks root x) : e.Walks root (Run.nested x) := by
  intro s
  obtain ⟨deeds, hst⟩ := hx { s with depth := s.depth + 1 }
  exact ⟨deeds, .nested hst⟩

end Walks

variable {e root}

/-- A failure that stands in for nesting that is too deep is only noted. -/
theorem Trail.contained {x : Run σ Attempt} {s t : RunState σ} {deeds : List (Deed σ)} (label : String) (level : Nat)
    (hx : e.Trail root s deeds (x.run t).2) : e.Trail root s deeds ((contained label level x).run t).2 := by
  rw [run_contained]
  split
  case h_1 kind limit u hrun =>
    rw [hrun] at hx
    split
    · have hnoted := hx.append (.still (.noted ⟨.error, "'" ++ label ++ "' exceeded the " ++ kind.nesting ++
        " nesting limit"⟩ u) rfl)
      rwa [List.append_nil] at hnoted
    · exact hx
  case h_2 => exact hx

/-! ### Reports -/

theorem noteOutcome_still (r : StepResult) : Still (noteOutcome r : Run σ Unit) := by
  unfold noteOutcome
  split <;> exact .note _ _

theorem noteDelay_still (step : Step) (label : String) : Still (noteDelay step label : Run σ Unit) := by
  unfold noteDelay
  split
  · exact .note _ _
  · exact .pure _

theorem turn_still (name : String) (breakCondition : Option String) (iteration : Nat) :
    Still (e.turn name breakCondition iteration) := by
  unfold turn
  refine .bind .isHalted fun halted => ?_
  split
  · exact .pure _
  · split
    · exact .pure _
    · refine .bind .scope fun scope => ?_
      split
      · exact .pure _
      · exact .bind (.note _ _) fun _ => .pure _
      · exact .bind (.note _ _) fun _ => .pure _

theorem settle_walks (r : StepResult) (halt : Halt) (level : NoticeLevel) (text : String) :
    e.Walks root (e.settle r (Run.latch halt level text)) := by
  unfold settle haltAt
  refine .bind (.report r) fun r' => .bind ?_ fun _ => .still (.pure _)
  split
  · exact .latch halt level text
  · exact .still (.pure _)

theorem finish_walks (step : Step) (r : StepResult) : e.Walks root (e.finish step r) := by
  unfold finish
  exact .bind (.still (noteOutcome_still _)) fun _ => settle_walks _ _ _ _

theorem undecided_walks (step : Step) (label : String) (cause : ResolutionError) :
    e.Walks root (e.undecided step label cause) := by
  unfold undecided
  exact .bind (.still (.note _ _)) fun _ => settle_walks _ _ _ _

/-! ### Nested steps -/

variable (e root) in
/-- The steps of a level leave trails, where they are among the given ones or inside of them. -/
def NestWalks (nest : Nest σ) (level : Nat) : Prop :=
  ∀ steps labels index, (∀ step ∈ steps, e.Contains root step) → e.Walks root (nest steps labels level index)

variable {nest : Nest σ} {level : Nat}

theorem caseRef_walks (hnest : level ≤ e.deepest → e.NestWalks root nest level) {head : StepHead} {caseId : CaseId}
    (hstep : e.Contains root (.caseRef head caseId)) (labels : String) (index : Option Nat) :
    e.Walks root (e.caseRef nest caseId labels level index) := by
  unfold caseRef
  simp only
  split
  case isTrue => exact .overflow _ _
  case isFalse hlimit =>
    have hdeepest : level ≤ e.deepest := Nat.le_trans (Nat.le_of_not_lt hlimit) (Nat.le_max_left _ _)
    split
    case h_1 => exact .still (.pure _)
    case h_2 steps hsteps =>
      refine .bind (.still (.note _ _)) fun _ => .bind (.record rfl) fun _ => .bind ?_ fun _ => .still (.pure _)
      exact hnest hdeepest steps labels index fun _ hmem => .case hstep hsteps hmem

theorem iterate_walks {turn : Nat → Run σ Turn} {body : Nat → Run σ (List StepResult)} (hturn : ∀ i, Still (turn i))
    (hbody : ∀ i, e.Walks root (body i)) (bounded : Bool) (left iteration : Nat) :
    e.Walks root (iterate turn body bounded left iteration) := by
  induction left generalizing iteration with
  | zero =>
    unfold iterate
    split
    · exact .still (.pure _)
    · exact .throw _
  | succ left ih =>
    unfold iterate
    refine .bind (.still (hturn iteration)) fun turn => ?_
    cases turn with
    | stop => exact .still (.pure _)
    | broken cause => exact .still (.pure _)
    | go =>
      exact .bind (.record rfl) fun _ => .bind (hbody iteration) fun _ => .bind (ih (iteration + 1)) fun _ =>
        .still (.pure _)

theorem foreach_walks (hnest : level ≤ e.deepest → e.NestWalks root nest level) {head : StepHead} {times : Json.Value}
    {breakCondition : Option String} {own : List Step}
    (hstep : e.Contains root (.foreach head times breakCondition own)) (labels : String) (index : Option Nat) :
    e.Walks root (e.foreach nest head times breakCondition own labels level index) := by
  unfold foreach
  simp only
  split
  case isTrue => exact .overflow _ _
  case isFalse hlimit =>
    have hdeepest : level ≤ e.deepest := Nat.le_trans (Nat.le_of_not_lt hlimit) (Nat.le_max_right _ _)
    refine .bind (.still .scope) fun scope => ?_
    split
    case h_1 => exact .still (.pure _)
    case h_2 bound _ =>
      refine .bind (.record rfl) fun _ => ?_
      split
      case h_1 => exact .still (.pure _)
      case h_2 body hbody =>
        have hinside : ∀ i, e.Walks root (nest body labels level (some i)) := fun i =>
          hnest hdeepest body labels (some i) fun _ hmem => .loop hstep (isBody_of_loopBody hbody) hmem
        unfold loop
        refine .bind (.still (.note _ _)) fun _ => .bind (.record rfl) fun _ => .bind ?_ fun _ => .still (.pure _)
        exact iterate_walks (turn_still _ _) hinside _ _ _

/-! ### Steps and groups -/

/-- An attempt at a step, at whatever level it lies. -/
theorem started_walks (hnest : level < e.deepest → e.NestWalks root nest (level + 1)) {step : Step}
    (hstep : e.Contains root step) (label : String) (index : Option Nat) (n : Nat) :
    e.Walks root (started label
      (contained label (stepLevel step level) (e.body nest step label (stepLevel step level) index)) n) := by
  intro s
  unfold started
  rw [Run.run_bind_of_ok (Run.run_record _ s)]
  cases step with
  | api head p => exact ⟨_, .contained label _ (.api label n index s hstep)⟩
  | sql head p => exact ⟨_, .contained label _ (.sql label n index s hstep)⟩
  | caseRef head caseId =>
    obtain ⟨deeds, hinside⟩ := Walks.nested (caseRef_walks hnest hstep (label ++ "-") index)
      (s.recorded (.attempted label n))
    exact ⟨_, .append (.event s rfl) (.contained label _ hinside)⟩
  | foreach head times breakCondition own =>
    obtain ⟨deeds, hinside⟩ := Walks.nested (foreach_walks hnest hstep (label ++ "-") index)
      (s.recorded (.attempted label n))
    exact ⟨_, .append (.event s rfl) (.contained label _ hinside)⟩

theorem retrying_walks {label : String} {x : Run σ Attempt} (hx : ∀ n, e.Walks root (started label x n))
    (left n : Nat) : e.Walks root (retrying label x left n) := by
  induction left generalizing n with
  | zero => exact .bind (hx n) fun a => .still (.pure _)
  | succ left ih =>
    unfold retrying
    refine .bind (hx n) fun a => ?_
    split
    · exact .still (.pure _)
    · refine .bind (.still .isHalted) fun halted => ?_
      split
      · exact .still (.pure _)
      · exact .bind (.still (.note _ _)) fun _ => ih (n + 1)

theorem attempts_walks (hnest : level < e.deepest → e.NestWalks root nest (level + 1)) {step : Step}
    (hstep : e.Contains root step) (label : String) (index : Option Nat) :
    e.Walks root (e.attempts nest step label (stepLevel step level) index) := by
  unfold attempts
  refine .bind (.still (noteDelay_still step label)) fun _ => ?_
  refine .bind (retrying_walks (started_walks hnest hstep label index) _ 0) fun _ => ?_
  exact finish_walks step _

theorem member_walks (hnest : level < e.deepest → e.NestWalks root nest (level + 1)) {step : Step}
    (hstep : e.Contains root step) (labels : String) (index : Option Nat) :
    e.Walks root (e.member nest labels level index step) := by
  have hattempts := attempts_walks hnest hstep (labels ++ step.head.name) index
  unfold member
  refine .bind (.record rfl) fun _ => ?_
  split
  · unfold executeWith
    refine .bind (.still .isHalted) fun halted => ?_
    split
    · exact .bind (.still .status) fun _ => .bind (.still (.note _ _)) fun _ => .report _
    · split
      · exact hattempts
      · refine .bind (.still .scope) fun scope => ?_
        split
        · exact hattempts
        · exact .bind (.still (.note _ _)) fun _ => finish_walks step _
        · exact undecided_walks step _ _
  · exact .report _

theorem groupWith_walks (hnest : level < e.deepest → e.NestWalks root nest (level + 1)) :
    e.NestWalks root (e.groupWith nest) level := by
  intro steps labels index hsteps
  have hordered : ∀ step ∈ Step.inOrder steps, e.Contains root step := fun step hmem =>
    hsteps step ((Step.isOrdering_inOrder steps).perm.mem_iff.mp hmem)
  unfold groupWith
  generalize Step.inOrder steps = members at hordered ⊢
  induction members with
  | nil => exact .still (.pure _)
  | cons step members ih =>
    rw [List.mapM_cons]
    refine .bind (member_walks hnest (hordered step List.mem_cons_self) labels index) fun _ => .bind ?_ fun _ =>
      .still (.pure _)
    exact ih fun step hmem => hordered step (List.mem_cons_of_mem _ hmem)

theorem group_walks (level : Nat) : e.NestWalks root e.group level := by
  intro steps labels index
  refine e.group_induct (motive := fun _ steps _ _ x => (∀ step ∈ steps, e.Contains root step) → e.Walks root x) ?_
    level steps labels index
  exact fun nest level ih => groupWith_walks ih

variable (e root)

/-- Every run of a case leaves a trail among the steps of the case. -/
theorem runCase_walks {caseId : CaseId} (hroot : e.repository.steps caseId = .ok root) :
    e.Walks root (e.runCase caseId) := by
  have hlift : ∀ {α : Type} (r : Except RepositoryError α), e.Walks root (runCase.liftExcept r) := by
    rintro α (cause | a)
    · exact .throw _
    · exact .still (.pure a)
  have hsteps : ∀ k : List Step → Run σ CaseReport, (runCase.liftExcept (.ok root) >>= k) = k root := fun _ => rfl
  unfold runCase
  rw [hroot]
  refine .bind (hlift _) fun info => ?_
  simp only [hsteps]
  refine .bind (.still (.note _ _)) fun _ => .bind (group_walks 0 root "" none fun _ hmem => .here hmem) fun _ => ?_
  exact .bind (.still .status) fun _ => .bind (.still (.note _ _)) fun _ => .still (.pure _)

/-- The steps of a case, none if there is no such case. -/
def stepsOf (caseId : CaseId) : List Step := (e.repository.steps caseId).toOption.getD []

/-- Every run leaves a trail; that of a case that is not there is empty. -/
theorem exists_trail (caseId : CaseId) (s : RunState σ) :
    ∃ deeds, e.Trail (e.stepsOf caseId) s deeds ((e.runCase caseId).run s).2 := by
  cases hsteps : e.repository.steps caseId with
  | ok root =>
    have hroot : e.stepsOf caseId = root := by simp [stepsOf, hsteps, Except.toOption]
    exact hroot ▸ e.runCase_walks root hsteps s
  | error cause =>
    refine ⟨[], ?_⟩
    cases hinfo : e.repository.caseInfo caseId with
    | error cause =>
      rw [e.run_runCase_missing (.inl hinfo) s]
      exact .still (.refl s) rfl
    | ok info =>
      rw [e.run_runCase_missing (.inr ⟨⟨info, hinfo⟩, hsteps⟩) s]
      exact .still (.refl s) rfl

end Engine

end Casebook
