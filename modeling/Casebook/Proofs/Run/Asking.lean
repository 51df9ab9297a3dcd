import Casebook.Proofs.Run.Failures

/-! What a run asks the repository for.  Besides the case itself these are the cases and the stored bodies that the
steps name which the run can come to; whatever the repository would say of others makes no difference. -/
namespace Casebook

/-- Another repository would answer a nested step as this one does. -/
structure Repository.Answers (r : Repository) (cases : CaseId → Except RepositoryError (List Step))
    (bodies : StepId → Except RepositoryError LoopTree) (step : Step) : Prop where
  case : ∀ head caseId, step = .caseRef head caseId → cases caseId = r.steps caseId
  loop : ∀ head times breakCondition own, step = .foreach head times breakCondition own →
    bodies head.id = r.loopTree head.id

theorem Run.mapM_congr {σ α β : Type} {f g : α → Run σ β} {as : List α} (h : ∀ a ∈ as, f a = g a) :
    as.mapM f = as.mapM g := by
  induction as with
  | nil => rfl
  | cons a as ih =>
    rw [List.mapM_cons, List.mapM_cons, h a List.mem_cons_self, ih fun b hb => h b (List.mem_cons_of_mem _ hb)]

namespace Engine

variable {σ : Type} (e : Engine σ)

/-- The engine with other answers to what nested steps ask for. -/
def answering (cases : CaseId → Except RepositoryError (List Step))
    (bodies : StepId → Except RepositoryError LoopTree) : Engine σ :=
  { e with repository := { e.repository with steps := cases, loopTree := bodies } }

/-! Api and sql steps, and whatever nested steps do else, are left as they are. -/

section

variable (cases : CaseId → Except RepositoryError (List Step)) (bodies : StepId → Except RepositoryError LoopTree)

theorem environment_answering : (e.answering cases bodies).environment = e.environment := rfl

theorem api_answering (h : StepHead) (p : ApiParams) (label : String) (index : Option Nat) :
    (e.answering cases bodies).api h p label index = e.api h p label index := by
  have hurl : (e.answering cases bodies).environmentUrl p = e.environmentUrl p := by
    unfold environmentUrl
    rw [environment_answering]
  unfold api
  rw [hurl]
  rfl

theorem sql_answering (p : SqlParams) (label : String) (index : Option Nat) :
    (e.answering cases bodies).sql p label index = e.sql p label index := by
  have htarget : (e.answering cases bodies).sqlTarget p = e.sqlTarget p := by
    unfold sqlTarget
    rw [environment_answering]
  unfold sql
  rw [htarget]
  rfl

variable {cases bodies}

theorem caseRef_answering (nest : Nest σ) {caseId : CaseId} (hcase : cases caseId = e.repository.steps caseId)
    (labels : String) (level : Nat) (index : Option Nat) :
    (e.answering cases bodies).caseRef nest caseId labels level index = e.caseRef nest caseId labels level index := by
  have hsteps : (e.answering cases bodies).repository.steps caseId = e.repository.steps caseId := hcase
  unfold caseRef
  rw [hsteps]
  rfl

theorem foreach_answering (nest : Nest σ) {head : StepHead} (hbody : bodies head.id = e.repository.loopTree head.id)
    (times : Json.Value) (breakCondition : Option String) (own : List Step) (labels : String) (level : Nat)
    (index : Option Nat) :
    (e.answering cases bodies).foreach nest head times breakCondition own labels level index =
      e.foreach nest head times breakCondition own labels level index := by
  have hsteps : (e.answering cases bodies).loopBody head.id own = e.loopBody head.id own := by
    have htree : (e.answering cases bodies).repository.loopTree head.id = e.repository.loopTree head.id := hbody
    unfold loopBody
    rw [htree]
  unfold foreach
  rw [hsteps]
  rfl

end

variable {e} {root : List Step} {nest nest' : Nest σ} {level : Nat}

variable (e root) in
/-- Two ways to run steps agree on those that are among some others or inside of them. -/
def AgreeInside (nest nest' : Nest σ) (level : Nat) : Prop :=
  ∀ steps labels index, (∀ step ∈ steps, e.Contains root step) →
    nest steps labels level index = nest' steps labels level index

theorem caseRef_inside (hnest : level ≤ e.config.limits.caseRef.toNat → e.AgreeInside root nest nest' level)
    {head : StepHead} {caseId : CaseId} (hstep : e.Contains root (.caseRef head caseId)) (labels : String)
    (index : Option Nat) :
    e.caseRef nest caseId labels level index = e.caseRef nest' caseId labels level index := by
  unfold caseRef
  simp only
  split
  case isTrue => rfl
  case isFalse hlimit =>
    cases hsteps : e.repository.steps caseId with
    | error cause => rfl
    | ok steps =>
      simp only [hnest (Nat.le_of_not_lt hlimit) steps labels index fun _ hmem => .case hstep hsteps hmem]

theorem foreach_inside (hnest : level ≤ e.config.limits.foreach.toNat → e.AgreeInside root nest nest' level)
    {head : StepHead} {times : Json.Value} {breakCondition : Option String} {own : List Step}
    (hstep : e.Contains root (.foreach head times breakCondition own)) (labels : String) (index : Option Nat) :
    e.foreach nest head times breakCondition own labels level index =
      e.foreach nest' head times breakCondition own labels level index := by
  unfold foreach
  simp only
  split
  case isTrue => rfl
  case isFalse hlimit =>
    cases hbody : e.loopBody head.id own with
    | error cause => rfl
    | ok body =>
      have hinside : ∀ i, nest body labels level (some i) = nest' body labels level (some i) := fun i =>
        hnest (Nat.le_of_not_lt hlimit) body labels (some i) fun _ hmem => .loop hstep (isBody_of_loopBody hbody) hmem
      unfold loop
      simp only [hinside]

section

variable {cases : CaseId → Except RepositoryError (List Step)} {bodies : StepId → Except RepositoryError LoopTree}
  (hanswers : ∀ step, e.Contains root step → e.repository.Answers cases bodies step)

include hanswers

theorem body_answering (hnest : level < e.deepest → e.AgreeInside root nest nest' (level + 1)) {step : Step}
    (hstep : e.Contains root step) (label : String) (index : Option Nat) :
    (e.answering cases bodies).body nest' step label (stepLevel step level) index =
      e.body nest step label (stepLevel step level) index := by
  cases step with
  | api head p => exact e.api_answering cases bodies head p label index
  | sql head p => exact e.sql_answering cases bodies p label index
  | caseRef head caseId =>
    have hle := fun hlimit => hnest (Nat.le_trans hlimit (Nat.le_max_left _ _))
    refine congrArg Run.nested (.trans ?_ (caseRef_inside hle hstep _ index).symm)
    exact e.caseRef_answering nest' ((hanswers _ hstep).case head caseId rfl) _ _ index
  | foreach head times breakCondition own =>
    have hle := fun hlimit => hnest (Nat.le_trans hlimit (Nat.le_max_right _ _))
    refine congrArg Run.nested (.trans ?_ (foreach_inside hle hstep _ index).symm)
    exact e.foreach_answering nest' ((hanswers _ hstep).loop head times breakCondition own rfl) _ _ _ _ _ index

theorem member_answering (hnest : level < e.deepest → e.AgreeInside root nest nest' (level + 1)) {step : Step}
    (hstep : e.Contains root step) (labels : String) (index : Option Nat) :
    (e.answering cases bodies).member nest' labels level index step = e.member nest labels level index step := by
  have hattempts : ∀ label, (e.answering cases bodies).attempts nest' step label (stepLevel step level) index =
      e.attempts nest step label (stepLevel step level) index := by
    intro label
    unfold attempts
    rw [body_answering hanswers hnest hstep]
    rfl
  have hexecute : (e.answering cases bodies).executeWith nest' step labels (stepLevel step level) index =
      e.executeWith nest step labels (stepLevel step level) index := by
    unfold executeWith
    simp only [hattempts]
    rfl
  have hlevel : (if step.kind.isNested then level + 1 else level) = stepLevel step level := rfl
  unfold member
  rw [hlevel, hexecute]

theorem groupWith_answering (hnest : level < e.deepest → e.AgreeInside root nest nest' (level + 1)) :
    e.AgreeInside root (e.groupWith nest) ((e.answering cases bodies).groupWith nest') level := by
  intro steps labels index hsteps
  unfold groupWith
  refine Run.mapM_congr fun step hmem => (member_answering hanswers hnest ?_ labels index).symm
  exact hsteps step ((Step.isOrdering_inOrder steps).perm.mem_iff.mp hmem)

theorem group_answering (level : Nat) : e.AgreeInside root e.group (e.answering cases bodies).group level := by
  have hdeepest : e.deepest = (e.answering cases bodies).deepest := rfl
  intro steps labels index
  refine group_induct₂ hdeepest
    (motive := fun _ steps _ _ x x' => (∀ step ∈ steps, e.Contains root step) → x = x') ?_ level steps labels index
  exact fun nest nest' level ih => groupWith_answering hanswers ih

/-- A run asks for the steps of its case, and for what the steps name that it can come to. -/
theorem runCase_answering {caseId : CaseId} (hroot : e.repository.steps caseId = .ok root)
    (hsame : cases caseId = .ok root) : (e.answering cases bodies).runCase caseId = e.runCase caseId := by
  have hsteps : (e.answering cases bodies).repository.steps caseId = .ok root := hsame
  have hinfo : (e.answering cases bodies).repository.caseInfo caseId = e.repository.caseInfo caseId := rfl
  have hgroup := group_answering hanswers 0 root "" none fun _ hmem => .here hmem
  have hlift : ∀ (r : List Step) (k : List Step → Run σ CaseReport),
      (runCase.liftExcept (.ok r) >>= k) = k r := fun _ _ => rfl
  unfold runCase
  rw [hsteps, hroot, hinfo]
  simp only [hlift]
  rw [hgroup]
  rfl

end

end Engine

end Casebook
