import Casebook.Proofs.Suite.Nesting
import Casebook.Proofs.Suite.Seconds
import Casebook.Proofs.Suite.StoredTree

/-! Suites that are fit to run.  Each check that is made one step, case or node after another is brought into a
statement on all of them; the ids that are handed on from one to the next only say that no id comes twice. -/
namespace Casebook

/-- A number of seconds that a controller may ask for. -/
structure IsDelay (x : Float) : Prop where
  finite : x.isFinite = true
  nonneg : 0.0 ≤ x
  le_day : x ≤ 86400.0

/-- A count, `true`, or any text. -/
inductive LoopBound.Plausible : Json.Value → Prop where
  | count {n : Int} {bounds : Decimal.minInt64 ≤ n ∧ n ≤ Decimal.maxNat64} : 0 ≤ n →
    Plausible (.number (.integer n bounds))
  | forever : Plausible (.bool true)
  | text (s : String) : Plausible (.string s)

theorem LoopBound.isPlausible_iff (v : Json.Value) : isPlausible v = true ↔ Plausible v := by
  constructor
  · intro h
    unfold isPlausible at h
    split at h
    case h_1 => exact .text _
    case h_2 => exact h ▸ .forever
    case h_3 => exact .count (of_decide_eq_true h)
    case h_4 => cases h
  · rintro (h | _ | _)
    · exact decide_eq_true h
    · rfl
    · rfl

namespace Suite

/-- The steps that are in no other step of a suite: those of the cases, then the stored ones. -/
def outermost (s : Suite) : List Step := s.cases.flatMap Case.steps ++ s.foreachSteps.map TreeNode.step

/-- A suite that is fit to run.  Steps are told apart by the paths to them. -/
structure WellFormed (s : Suite) : Prop where
  cases : (s.cases.map Case.id).Nodup
  environments : (s.environments.map Environment.id).Nodup
  steps : ∀ p q a b, Step.at? s.outermost p = some a → Step.at? s.outermost q = some b → a.id = b.id → p = q
  orders : ∀ c ∈ s.cases, (c.steps.map Step.order).Nodup
  env : ∀ c ∈ s.cases, ∀ id, c.env = some id → ∃ e ∈ s.environments, e.id = id
  references : ∀ p h d, Step.at? s.outermost p = some (.caseRef h d) → ∃ c ∈ s.cases, c.id = d
  loops : ∀ p h times br body, Step.at? s.outermost p = some (.foreach h times br body) → LoopBound.Plausible times
  retries : ∀ p a, Step.at? s.outermost p = some a → IsDelay a.head.controller.retryInterval
  sleeps : ∀ p a x, Step.at? s.outermost p = some a → a.head.controller.sleep = some x → IsDelay x
  owners : ∀ n ∈ s.foreachSteps, ∃ c ∈ s.cases, ∃ a ∈ c.steps, a.kind = .foreach ∧ a.id = n.owner
  trees : ∀ owner, LoopTree.IsTree (s.nodesOf owner)
  rules : ∀ r ∈ s.assertions, ∃ p a, Step.at? s.outermost p = some a ∧ a.id = r.stepId

/-! ### Steps -/

theorem isDelay_iff (x : Float) : isDelay x = true ↔ IsDelay x := by
  simp only [isDelay, Bool.and_eq_true, decide_eq_true_eq]
  constructor
  · rintro ⟨h0, h1⟩
    exact ⟨isFinite_of_le_of_le (by decide) (by decide) h0 h1, h0, h1⟩
  · exact fun h => ⟨h.nonneg, h.le_day⟩

/-- A step that is fit by itself. -/
structure Sound (cases : List CaseId) (s : Step) : Prop where
  reference : ∀ h d, s = .caseRef h d → d ∈ cases
  loop : ∀ h times br body, s = .foreach h times br body → LoopBound.Plausible times
  retry : IsDelay s.head.controller.retryInterval
  sleep : ∀ x, s.head.controller.sleep = some x → IsDelay x

theorem timingFaults_eq_nil (s : Step) :
    timingFaults s = [] ↔
      IsDelay s.head.controller.retryInterval ∧ ∀ x, s.head.controller.sleep = some x → IsDelay x := by
  simp only [timingFaults, List.append_eq_nil_iff, ite_eq_left_iff, List.cons_ne_nil, imp_false, not_not, isDelay_iff,
    Option.all_eq_true]

theorem kindFaults_eq_nil (cases : List CaseId) (s : Step) :
    kindFaults cases s = [] ↔
      (∀ h d, s = .caseRef h d → d ∈ cases) ∧
        ∀ h times br body, s = .foreach h times br body → LoopBound.Plausible times := by
  cases s with
  | api => simp [kindFaults]
  | sql => simp [kindFaults]
  | caseRef h d => simp [kindFaults]
  | foreach h times br body =>
    simp only [kindFaults, ite_eq_left_iff, List.cons_ne_nil, imp_false, not_not, LoopBound.isPlausible_iff,
      reduceCtorEq, false_imp_iff, implies_true, true_and, Step.foreach.injEq]
    exact ⟨fun h _ _ _ _ heq => heq.2.1 ▸ h, fun h => h _ _ _ _ ⟨rfl, rfl, rfl, rfl⟩⟩

/-- Fit steps that no id stands for twice, nor one of those that came before. -/
structure Admissible (cases : List CaseId) (seen : List StepId) (steps : List Step) : Prop where
  sound : ∀ s ∈ steps, Sound cases s
  fresh : ∀ id ∈ idsOf steps, id ∉ seen
  distinct : (idsOf steps).Nodup

theorem admissible_append {cases : List CaseId} {seen : List StepId} {as bs : List Step} :
    Admissible cases seen (as ++ bs) ↔ Admissible cases seen as ∧ Admissible cases (idsOf as ++ seen) bs := by
  have hids : idsOf (as ++ bs) = idsOf as ++ idsOf bs := List.map_append
  constructor
  · rintro ⟨hsound, hfresh, hdistinct⟩
    rw [hids] at hfresh hdistinct
    obtain ⟨has, hbs, hapart⟩ := List.nodup_append.mp hdistinct
    refine ⟨⟨fun s hs => hsound s (List.mem_append_left _ hs), fun id hid => hfresh id (List.mem_append_left _ hid),
      has⟩, fun s hs => hsound s (List.mem_append_right _ hs), fun id hid hmem => ?_, hbs⟩
    rcases List.mem_append.mp hmem with hmem | hmem
    · exact hapart id hmem id hid rfl
    · exact hfresh id (List.mem_append_right _ hid) hmem
  · rintro ⟨has, hbs⟩
    refine ⟨fun s hs => (List.mem_append.mp hs).elim (has.sound s) (hbs.sound s), fun id hid hmem => ?_, ?_⟩
    · rcases List.mem_append.mp (hids ▸ hid) with hid | hid
      · exact has.fresh id hid hmem
      · exact hbs.fresh id hid (List.mem_append_right _ hmem)
    · rw [hids]
      refine List.nodup_append.mpr ⟨has.distinct, hbs.distinct, ?_⟩
      rintro id hid _ hid' rfl
      exact hbs.fresh id hid' (List.mem_append_left _ hid)

theorem admissible_nil {cases : List CaseId} {seen : List StepId} : Admissible cases seen [] :=
  ⟨by simp, by simp [idsOf], List.nodup_nil⟩

theorem admissible_cons {cases : List CaseId} {seen : List StepId} {s : Step} {rest : List Step} :
    Admissible cases seen (s :: rest) ↔ Sound cases s ∧ s.id ∉ seen ∧ Admissible cases (s.id :: seen) rest := by
  have hone : Admissible cases seen [s] ↔ Sound cases s ∧ s.id ∉ seen := by
    constructor
    · exact fun h => ⟨h.sound s (List.mem_singleton.mpr rfl), h.fresh s.id (List.mem_singleton.mpr rfl)⟩
    · rintro ⟨hsound, hfresh⟩
      exact ⟨by simpa using hsound, by simpa [idsOf] using hfresh, List.nodup_singleton _⟩
  rw [← List.singleton_append, admissible_append, hone, and_assoc]
  rfl

theorem Admissible.seen_congr {cases : List CaseId} {seen seen' : List StepId} {steps : List Step}
    (hseen : ∀ id, id ∈ seen ↔ id ∈ seen') : Admissible cases seen steps ↔ Admissible cases seen' steps :=
  ⟨fun h => ⟨h.sound, fun id hid => (hseen id).not.mp (h.fresh id hid), h.distinct⟩,
    fun h => ⟨h.sound, fun id hid => (hseen id).not.mpr (h.fresh id hid), h.distinct⟩⟩

theorem stepFaults_eq_nil {cases : List CaseId} {seen : List StepId} {steps : List Step} :
    stepFaults cases seen steps = [] ↔ Admissible cases seen steps := by
  induction steps generalizing seen with
  | nil => exact iff_of_true rfl admissible_nil
  | cons s rest ih =>
    have hsound : Sound cases s ↔ timingFaults s = [] ∧ kindFaults cases s = [] := by
      rw [timingFaults_eq_nil, kindFaults_eq_nil]
      exact ⟨fun h => ⟨⟨h.retry, h.sleep⟩, h.reference, h.loop⟩, fun h => ⟨h.2.1, h.2.2, h.1.1, h.1.2⟩⟩
    rw [admissible_cons, hsound, stepFaults]
    simp only [List.append_eq_nil_iff, ih, List.contains_iff_mem, ite_eq_right_iff, List.cons_ne_nil, imp_false]
    tauto

/-! ### Cases and stored nodes -/

theorem repeated_eq_nil {α : Type} [BEq α] [LawfulBEq α] {seen xs : List α} :
    repeated seen xs = [] ↔ xs.Nodup ∧ ∀ x ∈ xs, x ∉ seen := by
  induction xs generalizing seen with
  | nil => simp [repeated]
  | cons x rest ih =>
    simp only [repeated, List.append_eq_nil_iff, ih, List.contains_iff_mem, ite_eq_right_iff, List.cons_ne_nil,
      imp_false, List.nodup_cons, List.forall_mem_cons]
    constructor
    · rintro ⟨hx, hrest, hapart⟩
      refine ⟨⟨fun hmem => hapart x hmem List.mem_cons_self, hrest⟩, hx, fun y hy hmem => ?_⟩
      exact hapart y hy (List.mem_cons_of_mem _ hmem)
    · rintro ⟨⟨hnew, hrest⟩, hx, hapart⟩
      refine ⟨hx, hrest, fun y hy hmem => ?_⟩
      rcases List.mem_cons.mp hmem with rfl | hmem
      · exact hnew hy
      · exact hapart y hy hmem

theorem topFaults_eq_nil {cases : List CaseId} {caseId : CaseId} {orders : List UInt32} {seen : List StepId}
    {steps : List Step} :
    topFaults cases caseId orders seen steps = [] ↔
      repeated orders (steps.map Step.order) = [] ∧ Admissible cases seen (Step.withInnerOfAll steps) := by
  induction steps generalizing orders seen with
  | nil => exact iff_of_true rfl ⟨rfl, admissible_nil⟩
  | cons s rest ih =>
    simp only [topFaults, List.map_cons, repeated, Step.withInnerOfAll, List.append_eq_nil_iff, stepFaults_eq_nil,
      ih, admissible_append, ite_eq_right_iff, List.cons_ne_nil, imp_false]
    tauto

theorem caseFaults_eq_nil {suite : Suite} {cases : List CaseId} {seen : List StepId} {cs : List Case} :
    caseFaults suite cases seen cs = [] ↔
      (∀ c ∈ cs, ∀ id, c.env = some id → ∃ e ∈ suite.environments, e.id = id) ∧
        (∀ c ∈ cs, (c.steps.map Step.order).Nodup) ∧
        Admissible cases seen (cs.flatMap fun c => Step.withInnerOfAll c.steps) := by
  induction cs generalizing seen with
  | nil => simpa [caseFaults] using admissible_nil
  | cons c rest ih =>
    cases henv : c.env <;>
      simp only [caseFaults, henv, List.append_eq_nil_iff, topFaults_eq_nil, repeated_eq_nil, ih, List.not_mem_nil,
        not_false_eq_true, implies_true, and_true, List.forall_mem_cons, List.flatMap_cons, admissible_append,
        reduceCtorEq, false_imp_iff, Option.some.injEq, forall_eq', ite_eq_left_iff, List.cons_ne_nil, imp_false,
        not_not, List.any_eq_true, beq_iff_eq] <;>
      tauto

theorem nodeFaults_eq_nil {cases : List CaseId} {owners seen : List StepId} {nodes : List TreeNode} :
    nodeFaults cases owners seen nodes = [] ↔
      (∀ n ∈ nodes, n.owner ∈ owners) ∧ Admissible cases seen (nodes.flatMap fun n => n.step.withInner) := by
  induction nodes generalizing seen with
  | nil => simpa [nodeFaults] using admissible_nil
  | cons n rest ih =>
    by_cases howner : n.owner ∈ owners
    · simp only [nodeFaults, List.contains_iff_mem, howner, if_true, List.append_eq_nil_iff, stepFaults_eq_nil, ih,
        List.forall_mem_cons, true_and, List.flatMap_cons, admissible_append]
      tauto
    · simp [nodeFaults, howner]

variable {s : Suite}

theorem withInnerOfAll_outermost :
    Step.withInnerOfAll s.outermost = s.caseSteps ++ s.foreachSteps.flatMap fun n => n.step.withInner := by
  simp only [outermost, caseSteps, Step.withInnerOfAll_eq, List.flatMap_append, List.flatMap_assoc, List.flatMap_map]

theorem mem_outermost {a : Step} :
    a ∈ s.caseSteps ++ s.foreachSteps.flatMap (fun n => n.step.withInner) ↔
      ∃ path, Step.at? s.outermost path = some a := by
  rw [← withInnerOfAll_outermost, Step.mem_withInnerOfAll]

/-! ### Stored bodies -/

theorem mem_loopOwners {owner : StepId} :
    owner ∈ s.loopOwners ↔ ∃ c ∈ s.cases, ∃ a ∈ c.steps, a.kind = .foreach ∧ a.id = owner := by
  simp only [loopOwners, idsOf, List.mem_map, List.mem_filter, List.mem_flatMap, Step.isForeach, beq_iff_eq]
  constructor
  · rintro ⟨a, ⟨⟨c, hc, ha⟩, hkind⟩, rfl⟩
    exact ⟨c, hc, a, ha, hkind, rfl⟩
  · rintro ⟨c, hc, a, ha, hkind, rfl⟩
    exact ⟨a, ⟨⟨c, hc, ha⟩, hkind⟩, rfl⟩

theorem ownedNodes_eq (howners : ∀ n ∈ s.foreachSteps, n.owner ∈ s.loopOwners) : s.ownedNodes = s.foreachSteps :=
  List.filter_eq_self.mpr fun n hn => List.contains_iff_mem.mpr (howners n hn)

/-- The stored nodes are among the steps of a suite, so no id stands for two of them. -/
theorem distinct_nodes (hdistinct : (idsOf (s.caseSteps ++ s.foreachSteps.flatMap fun n => n.step.withInner)).Nodup) :
    LoopTree.Distinct s.foreachSteps := by
  have hsub : (s.foreachSteps.map TreeNode.id).Sublist
      (idsOf (s.caseSteps ++ s.foreachSteps.flatMap fun n => n.step.withInner)) := by
    have hnodes : ∀ nodes : List TreeNode, (nodes.map TreeNode.id).Sublist
        (idsOf (nodes.flatMap fun n => n.step.withInner)) := by
      intro nodes
      induction nodes with
      | nil => exact List.nil_sublist _
      | cons n rest ih =>
        rw [List.flatMap_cons, Step.withInner_eq, idsOf, List.cons_append, List.map_cons, List.map_cons,
          List.map_append]
        exact (ih.trans (List.sublist_append_right _ _)).cons_cons _
    rw [idsOf, List.map_append]
    exact (hnodes _).trans (List.sublist_append_right _ _)
  exact hdistinct.sublist hsub

theorem LoopTree.Distinct.nodesOf (h : LoopTree.Distinct s.foreachSteps) (owner : StepId) :
    LoopTree.Distinct (s.nodesOf owner) :=
  List.Nodup.sublist (List.filter_sublist.map TreeNode.id) h

theorem exists_build_iff (h : LoopTree.Distinct s.foreachSteps) (owner : StepId) :
    (∃ tree, LoopTree.build owner (s.nodesOf owner) = .ok tree) ↔ LoopTree.IsTree (s.nodesOf owner) := by
  rw [LoopTree.exists_build_eq_ok]
  refine ⟨fun hbuilt => hbuilt.2.2, fun htree => ⟨fun n hn => ?_, LoopTree.Distinct.nodesOf h owner, htree⟩⟩
  simpa using (List.mem_filter.mp hn).2

theorem treeFaults_eq_nil (howners : ∀ n ∈ s.foreachSteps, n.owner ∈ s.loopOwners)
    (hdistinct : LoopTree.Distinct s.foreachSteps) :
    s.treeFaults = [] ↔ ∀ owner, LoopTree.IsTree (s.nodesOf owner) := by
  have hbuilt : s.treeFaults = [] ↔
      ∀ n ∈ s.foreachSteps, ∃ tree, LoopTree.build n.owner (s.nodesOf n.owner) = .ok tree := by
    rw [treeFaults, ownedNodes_eq howners, List.filterMap_eq_nil_iff]
    simp only [List.mem_eraseDups, List.mem_map, forall_exists_index, and_imp, forall_apply_eq_imp_iff₂]
    refine forall₂_congr fun n _ => ?_
    cases LoopTree.build n.owner (s.nodesOf n.owner) <;> simp
  rw [hbuilt]
  refine ⟨fun h owner => ?_, fun h n _ => (exists_build_iff hdistinct n.owner).mpr (h n.owner)⟩
  by_cases hnone : s.nodesOf owner = []
  · rw [hnone]
    exact ⟨by simp, by simp⟩
  · obtain ⟨n, hn⟩ := List.exists_mem_of_ne_nil _ hnone
    obtain ⟨hmem, howner⟩ := List.mem_filter.mp hn
    cases eq_of_beq howner
    exact (exists_build_iff hdistinct n.owner).mp (h n hmem)

theorem ruleFaults_eq_nil (howners : ∀ n ∈ s.foreachSteps, n.owner ∈ s.loopOwners) :
    s.ruleFaults = [] ↔ ∀ r ∈ s.assertions, ∃ p a, Step.at? s.outermost p = some a ∧ a.id = r.stepId := by
  rw [ruleFaults, List.filterMap_eq_nil_iff]
  refine forall₂_congr fun r _ => ?_
  have hknown : (idsOf s.knownSteps).contains r.stepId = true ↔
      ∃ p a, Step.at? s.outermost p = some a ∧ a.id = r.stepId := by
    simp only [knownSteps, ownedNodes_eq howners, List.contains_iff_mem, idsOf, List.mem_map, mem_outermost]
    exact ⟨fun ⟨a, ⟨p, hp⟩, hid⟩ => ⟨p, a, hp, hid⟩, fun ⟨p, a, hp, hid⟩ => ⟨a, ⟨p, hp⟩, hid⟩⟩
  rw [← hknown]
  cases (idsOf s.knownSteps).contains r.stepId <;> simp

/-! ### Whole suites -/

/-- What the checks ask of a suite, on the steps with all inside of them. -/
structure Checked (s : Suite) : Prop where
  cases : s.caseIds.Nodup
  environments : (s.environments.map Environment.id).Nodup
  env : ∀ c ∈ s.cases, ∀ id, c.env = some id → ∃ e ∈ s.environments, e.id = id
  orders : ∀ c ∈ s.cases, (c.steps.map Step.order).Nodup
  owners : ∀ n ∈ s.foreachSteps, n.owner ∈ s.loopOwners
  steps : Admissible s.caseIds [] (s.caseSteps ++ s.foreachSteps.flatMap fun n => n.step.withInner)
  trees : s.treeFaults = []
  rules : s.ruleFaults = []

theorem faults_eq_nil : s.faults = [] ↔ s.Checked := by
  have hseen : ∀ steps, Admissible s.caseIds (idsOf s.caseSteps).reverse steps ↔
      Admissible s.caseIds (idsOf s.caseSteps ++ []) steps := fun steps =>
    Admissible.seen_congr fun id => by simp
  have hfaults : s.faults = [] ↔
      s.caseIds.Nodup ∧ (s.environments.map Environment.id).Nodup ∧
        ((∀ c ∈ s.cases, ∀ id, c.env = some id → ∃ e ∈ s.environments, e.id = id) ∧
          (∀ c ∈ s.cases, (c.steps.map Step.order).Nodup) ∧ Admissible s.caseIds [] s.caseSteps) ∧
        ((∀ n ∈ s.foreachSteps, n.owner ∈ s.loopOwners) ∧
          Admissible s.caseIds (idsOf s.caseSteps ++ []) (s.foreachSteps.flatMap fun n => n.step.withInner)) ∧
        s.treeFaults = [] ∧ s.ruleFaults = [] := by
    simp only [faults, List.append_eq_nil_iff, List.map_eq_nil_iff, repeated_eq_nil, caseFaults_eq_nil,
      nodeFaults_eq_nil, hseen, List.not_mem_nil, not_false_eq_true, implies_true, and_true, and_assoc]
    rfl
  rw [hfaults]
  constructor
  · rintro ⟨hcases, henvironments, ⟨henv, horders, hfirst⟩, ⟨howners, hthen⟩, htrees, hrules⟩
    exact ⟨hcases, henvironments, henv, horders, howners, admissible_append.mpr ⟨hfirst, hthen⟩, htrees, hrules⟩
  · intro h
    obtain ⟨hfirst, hthen⟩ := admissible_append.mp h.steps
    exact ⟨h.cases, h.environments, ⟨h.env, h.orders, hfirst⟩, ⟨h.owners, hthen⟩, h.trees, h.rules⟩

theorem admissible_outermost :
    Admissible s.caseIds [] (s.caseSteps ++ s.foreachSteps.flatMap fun n => n.step.withInner) ↔
      (∀ p a, Step.at? s.outermost p = some a → Sound s.caseIds a) ∧
        ∀ p q a b, Step.at? s.outermost p = some a → Step.at? s.outermost q = some b → a.id = b.id → p = q := by
  rw [← Step.nodup_map_withInnerOfAll Step.id, withInnerOfAll_outermost]
  constructor
  · exact fun h => ⟨fun p a hp => h.sound a (mem_outermost.mpr ⟨p, hp⟩), h.distinct⟩
  · rintro ⟨hsound, hdistinct⟩
    refine ⟨fun a ha => ?_, fun _ _ => List.not_mem_nil, hdistinct⟩
    obtain ⟨p, hp⟩ := mem_outermost.mp ha
    exact hsound p a hp

theorem mem_caseIds {d : CaseId} : d ∈ s.caseIds ↔ ∃ c ∈ s.cases, c.id = d := List.mem_map

theorem Checked.wellFormed (h : s.Checked) : s.WellFormed := by
  obtain ⟨hsound, hdistinct⟩ := admissible_outermost.mp h.steps
  have hnodes := distinct_nodes h.steps.distinct
  exact {
    cases := h.cases
    environments := h.environments
    steps := hdistinct
    orders := h.orders
    env := h.env
    references := fun p hd d hp => mem_caseIds.mp ((hsound p _ hp).reference hd d rfl)
    loops := fun p hd times br body hp => (hsound p _ hp).loop hd times br body rfl
    retries := fun p a hp => (hsound p a hp).retry
    sleeps := fun p a x hp hx => (hsound p a hp).sleep x hx
    owners := fun n hn => mem_loopOwners.mp (h.owners n hn)
    trees := (treeFaults_eq_nil h.owners hnodes).mp h.trees
    rules := (ruleFaults_eq_nil h.owners).mp h.rules }

theorem WellFormed.checked (h : s.WellFormed) : s.Checked := by
  have howners : ∀ n ∈ s.foreachSteps, n.owner ∈ s.loopOwners := fun n hn => mem_loopOwners.mpr (h.owners n hn)
  have hsteps := admissible_outermost.mpr ⟨fun p a hp => {
    reference := fun hd d ha => mem_caseIds.mpr (h.references p hd d (ha ▸ hp))
    loop := fun hd times br body ha => h.loops p hd times br body (ha ▸ hp)
    retry := h.retries p a hp
    sleep := fun x hx => h.sleeps p a x hp hx }, h.steps⟩
  exact {
    cases := h.cases
    environments := h.environments
    env := h.env
    orders := h.orders
    owners := howners
    steps := hsteps
    trees := (treeFaults_eq_nil howners (distinct_nodes hsteps.distinct)).mpr h.trees
    rules := (ruleFaults_eq_nil howners).mpr h.rules }

/-- A suite passes just if it is well-formed. -/
theorem faults_eq_nil_iff_wellFormed (s : Suite) : s.faults = [] ↔ s.WellFormed :=
  faults_eq_nil.trans ⟨Checked.wellFormed, WellFormed.checked⟩

end Suite

end Casebook
