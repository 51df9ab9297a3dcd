import Casebook.Proofs.Suite.Nesting
import Casebook.Proofs.Suite.StoredTree

/-! How stored loop bodies are laid out.  A body is built of the nodes in any order or refused for a fault that they
have, and its steps are the nodes, each once and directly inside of its parent. -/
namespace Casebook

namespace LoopTree

/-! ### Faults -/

/-- What a fault says of the nodes of a step. -/
def Fault.Holds (owner : StepId) (nodes : List TreeNode) : Fault → Prop
  | .duplicate id => 1 < (nodes.map TreeNode.id).count id
  | .wrongOwner id expected found => expected = owner ∧ found ≠ owner ∧ ∃ n ∈ nodes, n.id = id ∧ n.owner = found
  | .danglingParent id p => (∃ n ∈ nodes, n.id = id ∧ n.parent = some p) ∧ ∀ m ∈ nodes, m.id ≠ p
  | .parentNotForeach id p =>
    (∃ n ∈ nodes, n.id = id ∧ n.parent = some p) ∧ ∃ m ∈ nodes, m.id = p ∧ m.step.kind ≠ .foreach
  | .unreachable ids =>
    ids ≠ [] ∧ ids.Pairwise (· < ·) ∧ ∀ id, id ∈ ids ↔ ∃ n ∈ nodes, n.id = id ∧ ¬Rooted nodes n

variable {owner : StepId} {nodes nodes' : List TreeNode} {f : Fault}

theorem rooted_congr (h : ∀ n, n ∈ nodes ↔ n ∈ nodes') {n : TreeNode} : Rooted nodes n ↔ Rooted nodes' n :=
  ⟨.mono fun m => (h m).mp, .mono fun m => (h m).mpr⟩

theorem IsTree.congr (h : ∀ n, n ∈ nodes ↔ n ∈ nodes') (htree : IsTree nodes) : IsTree nodes' := by
  refine ⟨fun n hn p hp => ?_, fun n hn => (rooted_congr h).mp (htree.rooted n ((h n).mpr hn))⟩
  obtain ⟨m, hm, hparent⟩ := htree.parents n ((h n).mpr hn) p hp
  exact ⟨m, (h m).mp hm, hparent⟩

theorem Fault.Holds.perm (h : nodes.Perm nodes') (hf : f.Holds owner nodes) : f.Holds owner nodes' := by
  have hrooted : ∀ n, Rooted nodes n ↔ Rooted nodes' n := fun n => rooted_congr fun m => h.mem_iff
  cases f with
  | duplicate id => rwa [Fault.Holds, ← (h.map TreeNode.id).count_eq]
  | wrongOwner id expected found => simpa only [Fault.Holds, h.mem_iff] using hf
  | danglingParent id p => simpa only [Fault.Holds, h.mem_iff] using hf
  | parentNotForeach id p => simpa only [Fault.Holds, h.mem_iff] using hf
  | unreachable ids => simpa only [Fault.Holds, h.mem_iff, hrooted] using hf

theorem listingFault?_holds {before : List TreeNode} (h : listingFault? owner (before.map TreeNode.id) nodes = some f) :
    f.Holds owner (before ++ nodes) := by
  induction nodes generalizing before with
  | nil => cases h
  | cons n rest ih =>
    have hmem : n ∈ before ++ n :: rest := List.mem_append_right before List.mem_cons_self
    unfold listingFault? at h
    by_cases howner : n.owner = owner
    · by_cases hseen : n.id ∈ before.map TreeNode.id
      · simp only [howner, ne_eq, not_true_eq_false, if_false, List.contains_iff_mem, hseen, if_true,
          Option.some.injEq] at h
        subst h
        have hbefore := List.count_pos_iff.mpr hseen
        simp only [Fault.Holds, List.map_append, List.map_cons, List.count_append, List.count_cons_self]
        omega
      · simp only [howner, ne_eq, not_true_eq_false, if_false, List.contains_iff_mem, hseen] at h
        have hholds : f.Holds owner ((n :: before) ++ rest) := ih h
        exact hholds.perm List.perm_middle.symm
    · simp only [howner, ne_eq, not_false_eq_true, if_true, Option.some.injEq] at h
      subst h
      exact ⟨rfl, howner, n, hmem, rfl, rfl⟩

/-- Whichever node is looked at, what is found to be wrong with its parent is so. -/
theorem parentFault?_holds {n : TreeNode} (hn : n ∈ nodes) (h : parentFault? nodes n = some f) :
    f.Holds owner nodes := by
  unfold parentFault? at h
  cases hparent : n.parent with
  | none => simp [hparent] at h
  | some p =>
    cases hfind : find? p nodes with
    | none =>
      have hnone : ∀ m ∈ nodes, m.id ≠ p := by simpa [find?] using hfind
      simp only [hparent, hfind, Option.some.injEq] at h
      subst h
      exact ⟨⟨n, hn, rfl, hparent⟩, hnone⟩
    | some m =>
      have hid : m.id = p := by simpa using List.find?_some hfind
      simp only [hparent, hfind, Option.ite_none_left_eq_some, Option.some.injEq] at h
      obtain ⟨hforeach, rfl⟩ := h
      have hkind : m.step.kind ≠ .foreach := by simpa [Step.isForeach] using hforeach
      exact ⟨⟨n, hn, rfl, hparent⟩, m, List.mem_of_find?_eq_some hfind, hid, hkind⟩

/-! ### The order of ids -/

theorem pairwise_byId (h : Distinct nodes) : (byId nodes).Pairwise fun a b => a.id < b.id := by
  have hle : (byId nodes).Pairwise fun a b => a.id ≤ b.id := by
    have hsorted : (byId nodes).Pairwise fun a b => decide (a.id ≤ b.id) = true := List.pairwise_mergeSort
      (fun a b c hab hbc => by simpa using UInt64.le_trans (by simpa using hab) (by simpa using hbc))
      (fun a b => by simpa using UInt64.le_total a.id b.id) nodes
    exact hsorted.imp fun h => by simpa using h
  have hne : (byId nodes).Pairwise fun a b => a.id ≠ b.id := List.pairwise_map.mp h.byId
  exact (hle.and hne).imp fun h => UInt64.lt_of_le_of_ne h.1 h.2

theorem byId_eq_of_perm (hdistinct : Distinct nodes) (h : nodes.Perm nodes') : byId nodes = byId nodes' := by
  have hdistinct' : Distinct nodes' := (h.map TreeNode.id).nodup_iff.mp hdistinct
  have hperm : (byId nodes).Perm (byId nodes') :=
    ((List.mergeSort_perm nodes _).trans h).trans (List.mergeSort_perm nodes' _).symm
  refine hperm.eq_of_pairwise (fun a b _ _ hab hba => ?_) (pairwise_byId hdistinct) (pairwise_byId hdistinct')
  exact absurd (UInt64.lt_trans hab hba) (UInt64.lt_irrefl a.id)

theorem pairwise_ids_filter (h : Distinct nodes) (p : TreeNode → Bool) :
    (((byId nodes).filter p).map TreeNode.id).Pairwise (· < ·) :=
  List.pairwise_map.mpr ((pairwise_byId h).sublist List.filter_sublist)

/-- A body is refused for a fault of its nodes. -/
theorem build_eq_error (h : build owner nodes = .error f) : f.Holds owner nodes := by
  have hsorted : (byId nodes).Perm nodes := List.mergeSort_perm nodes _
  unfold build at h
  cases hlisting : listingFault? owner [] nodes with
  | some g =>
    simp only [hlisting, Except.error.injEq] at h
    have hholds : g.Holds owner ([] ++ nodes) := listingFault?_holds hlisting
    exact h ▸ hholds
  | none =>
    obtain ⟨-, hdistinct, -⟩ := listingFault?_eq_none.mp hlisting
    simp only [hlisting] at h
    cases hparent : (byId nodes).findSome? (parentFault? (byId nodes)) with
    | some g =>
      simp only [hparent, Except.error.injEq] at h
      obtain ⟨n, hn, hfault⟩ := List.exists_of_findSome?_eq_some hparent
      exact h ▸ (parentFault?_holds hn hfault).perm hsorted
    | none =>
      simp only [hparent] at h
      split at h
      · cases h
      case isFalse hlost =>
        cases h
        refine ⟨by simpa using hlost, pairwise_ids_filter hdistinct _, fun id => ?_⟩
        have hrooted : ∀ n ∈ nodes, isRooted (byId nodes) (byId nodes).length n = true ↔ Rooted nodes n := by
          intro n hn
          rw [isRooted_length_iff hdistinct.byId (mem_byId.mpr hn)]
          exact rooted_congr fun m => mem_byId
        simp only [List.mem_map, List.mem_filter, mem_byId, Bool.not_eq_true']
        constructor
        · rintro ⟨n, ⟨hn, hn'⟩, rfl⟩
          exact ⟨n, hn, rfl, fun hr => by simp [(hrooted n hn).mpr hr] at hn'⟩
        · rintro ⟨n, hn, rfl, hr⟩
          exact ⟨n, ⟨hn, by simpa using mt (hrooted n hn).mp hr⟩, rfl⟩

/-! ### Levels and layers -/

variable {tree : LoopTree}

theorem mem_level {p : Option StepId} {n : TreeNode} : n ∈ tree.level p ↔ n ∈ tree.nodes ∧ n.parent = p := by
  simp [level]

theorem nodup_level (h : Distinct tree.nodes) (p : Option StepId) : (tree.level p).Nodup :=
  (List.Nodup.of_map _ h).filter _

/-- The nodes with so many ancestors, those inside of the same node together. -/
def layer (tree : LoopTree) : Nat → List TreeNode
  | 0 => tree.level none
  | r + 1 => (tree.layer r).flatMap fun n => tree.level (some n.id)

theorem hasRank_zero {n : TreeNode} : HasRank nodes 0 n ↔ n.parent = none := by
  simp [HasRank, isRooted]

theorem hasRank_succ (h : Distinct nodes) {r : Nat} {n : TreeNode} :
    HasRank nodes (r + 1) n ↔ ∃ m ∈ nodes, n.parent = some m.id ∧ HasRank nodes r m := by
  refine ⟨HasRank.parent, ?_⟩
  rintro ⟨m, hm, hparent, hrooted, hleast⟩
  have hfind := (find?_eq_some h).mpr ⟨hm, rfl⟩
  refine ⟨by simp [isRooted, hparent, hfind, hrooted], fun j hj => ?_⟩
  cases j with
  | zero => simp [isRooted, hparent]
  | succ j => simpa [isRooted, hparent, hfind] using hleast j (Nat.lt_of_succ_lt_succ hj)

theorem mem_layer (h : Distinct tree.nodes) {r : Nat} {n : TreeNode} :
    n ∈ tree.layer r ↔ n ∈ tree.nodes ∧ HasRank tree.nodes r n := by
  induction r generalizing n with
  | zero => rw [layer, mem_level, hasRank_zero]
  | succ r ih =>
    simp only [layer, List.mem_flatMap, ih, mem_level, hasRank_succ h]
    constructor
    · rintro ⟨m, ⟨hm, hrank⟩, hn, hparent⟩
      exact ⟨hn, m, hm, hparent, hrank⟩
    · rintro ⟨hn, m, hm, hparent, hrank⟩
      exact ⟨m, ⟨hm, hrank⟩, hn, hparent⟩

theorem nodup_layer (h : Distinct tree.nodes) (r : Nat) : (tree.layer r).Nodup := by
  induction r with
  | zero => exact nodup_level h none
  | succ r ih =>
    refine List.nodup_flatMap.mpr ⟨fun n _ => nodup_level h _, ih.imp_of_mem fun {a b} ha hb hne => ?_⟩
    -- What is inside of both would have the id of both as its parent.
    refine List.disjoint_left.mpr fun n hn hn' => hne ?_
    have hid : a.id = b.id := Option.some.inj ((mem_level.mp hn).2.symm.trans (mem_level.mp hn').2)
    exact List.inj_on_of_nodup_map h ((mem_layer h).mp ha).1 ((mem_layer h).mp hb).1 hid

theorem layers_perm (h : Distinct tree.nodes) (hrooted : ∀ n ∈ tree.nodes, Rooted tree.nodes n) :
    ((List.range tree.nodes.length).flatMap tree.layer).Perm tree.nodes := by
  have hdisjoint : (List.range tree.nodes.length).Pairwise (Function.onFun List.Disjoint tree.layer) := by
    refine List.nodup_range.imp fun {r l} hne => List.disjoint_left.mpr fun n hr hl => hne ?_
    exact ((mem_layer h).mp hr).2.unique ((mem_layer h).mp hl).2
  have hnodup := List.nodup_flatMap.mpr ⟨fun r _ => nodup_layer h r, hdisjoint⟩
  refine (List.perm_ext_iff_of_nodup hnodup (List.Nodup.of_map _ h)).mpr fun n => ?_
  simp only [List.mem_flatMap, List.mem_range, mem_layer h]
  constructor
  · rintro ⟨r, -, hn, -⟩
    exact hn
  · intro hn
    obtain ⟨r, hr⟩ := (hrooted n hn).exists_hasRank h
    exact ⟨r, hr.lt_length hn, hn, hr⟩

/-- Nodes to a depth, each before what is inside of it. -/
def below (tree : LoopTree) : Nat → List TreeNode → List TreeNode
  | 0, _ => []
  | depth + 1, nodes => nodes.flatMap fun n => n :: tree.below depth (tree.level (some n.id))

theorem below_flatMap {α : Type} (depth : Nat) (as : List α) (g : α → List TreeNode) :
    tree.below depth (as.flatMap g) = as.flatMap fun a => tree.below depth (g a) := by
  cases depth with
  | zero => simp [below]
  | succ depth => simp only [below, List.flatMap_assoc]

theorem below_layer_perm (depth r : Nat) :
    (tree.below depth (tree.layer r)).Perm ((List.range' r depth).flatMap tree.layer) := by
  induction depth generalizing r with
  | zero => exact .nil
  | succ depth ih =>
    have hsplit := List.flatMap_append_perm (tree.layer r) (fun n => [n])
      fun n => tree.below depth (tree.level (some n.id))
    have hinside : (tree.layer r).flatMap (fun n => tree.below depth (tree.level (some n.id))) =
        tree.below depth (tree.layer (r + 1)) := (below_flatMap depth _ _).symm
    rw [List.flatMap_singleton', hinside] at hsplit
    rw [List.range'_succ, List.flatMap_cons]
    exact hsplit.symm.trans ((ih (r + 1)).append_left _)

theorem below_perm (h : Distinct tree.nodes) (hrooted : ∀ n ∈ tree.nodes, Rooted tree.nodes n) :
    (tree.below tree.nodes.length (tree.level none)).Perm tree.nodes := by
  have hlayers : (tree.below tree.nodes.length (tree.layer 0)).Perm _ := below_layer_perm tree.nodes.length 0
  rw [← List.range_eq_range'] at hlayers
  exact hlayers.trans (layers_perm h hrooted)

/-! ### Laying out -/

/-- The levels are laid out with no bound to their depth: the steps of some nodes, of which the first takes place `k`,
and the nodes passed on the way. -/
inductive Laid (tree : LoopTree) : Nat → List TreeNode → List Step → List TreeNode → Prop where
  | done (k : Nat) : Laid tree k [] [] []
  | next {k : Nat} {n : TreeNode} {rest inside after : List TreeNode} {nested steps : List Step} :
    Laid tree 0 (tree.level (some n.id)) nested inside → Laid tree (k + 1) rest steps after →
      Laid tree k (n :: rest) (placed (UInt32.ofNat (k + 1)) nested n.step :: steps) (n :: inside ++ after)

theorem Laid.unique {k : Nat} {nodes passed passed' : List TreeNode} {steps steps' : List Step}
    (h : Laid tree k nodes steps passed) (h' : Laid tree k nodes steps' passed') :
    steps = steps' ∧ passed = passed' := by
  induction h generalizing steps' passed' with
  | done k =>
    cases h'
    exact ⟨rfl, rfl⟩
  | next _ _ ih_inside ih_rest =>
    cases h' with
    | next hinside hrest =>
      obtain ⟨rfl, rfl⟩ := ih_inside hinside
      obtain ⟨rfl, rfl⟩ := ih_rest hrest
      exact ⟨rfl, rfl⟩

theorem laid_mapIdx (depth : Nat) {nodes : List TreeNode}
    (hinside : ∀ n ∈ nodes, Laid tree 0 (tree.level (some n.id)) (tree.stepsFrom depth (tree.level (some n.id)))
      (tree.below depth (tree.level (some n.id)))) (k : Nat) :
    Laid tree k nodes
      (nodes.mapIdx fun i n => placed (UInt32.ofNat (k + i + 1)) (tree.stepsFrom depth (tree.level (some n.id))) n.step)
      (tree.below (depth + 1) nodes) := by
  induction nodes generalizing k with
  | nil => exact .done k
  | cons n rest ih =>
    have hlater : ∀ i, k + (i + 1) + 1 = k + 1 + i + 1 := by omega
    simp only [List.mapIdx_cons, hlater]
    exact .next (hinside n List.mem_cons_self) (ih (fun m hm => hinside m (List.mem_cons_of_mem n hm)) (k + 1))

/-- No level is as deep as there are nodes, so the bound on the depth cuts nothing off. -/
theorem laid_stepsFrom (h : Distinct tree.nodes) {depth r : Nat} (hdepth : tree.nodes.length ≤ r + depth)
    {nodes : List TreeNode} (hnodes : ∀ n ∈ nodes, n ∈ tree.layer r) :
    Laid tree 0 nodes (tree.stepsFrom depth nodes) (tree.below depth nodes) := by
  induction depth generalizing r nodes with
  | zero =>
    have hnil : nodes = [] := by
      refine List.eq_nil_iff_forall_not_mem.mpr fun n hn => ?_
      obtain ⟨hn, hrank⟩ := (mem_layer h).mp (hnodes n hn)
      have hlt := hrank.lt_length hn
      omega
    subst hnil
    exact .done 0
  | succ depth ih =>
    have hinside : ∀ n ∈ nodes, ∀ m ∈ tree.level (some n.id), m ∈ tree.layer (r + 1) := fun n hn m hm =>
      List.mem_flatMap.mpr ⟨n, hnodes n hn, hm⟩
    have hlaid := laid_mapIdx depth (fun n hn => ih (by omega) (hinside n hn)) 0
    simpa only [stepsFrom, Nat.zero_add] using hlaid

/-- What is stored inside of a node, laid out. -/
def inside (tree : LoopTree) (n : TreeNode) : List Step :=
  tree.stepsFrom tree.nodes.length (tree.level (some n.id))

theorem laid_inside (h : Distinct tree.nodes) (hrooted : ∀ n ∈ tree.nodes, Rooted tree.nodes n) {n : TreeNode}
    (hn : n ∈ tree.nodes) : ∃ passed, Laid tree 0 (tree.level (some n.id)) (tree.inside n) passed := by
  obtain ⟨r, hrank⟩ := (hrooted n hn).exists_hasRank h
  have hlayer : ∀ m ∈ tree.level (some n.id), m ∈ tree.layer (r + 1) := fun m hm =>
    List.mem_flatMap.mpr ⟨n, (mem_layer h).mpr ⟨hn, hrank⟩, hm⟩
  exact ⟨_, laid_stepsFrom h (Nat.le_add_left _ _) hlayer⟩

/-! ### Placements -/

/-- A step of a laid out body, the node that it is directly inside of and how many steps come before it there. -/
structure Placement where
  parent : Option StepId
  place : Nat
  step : Step

mutual
/-- A step and those inside of it, which are looked at only where the tree stores something inside of it. -/
def placementsOf (tree : LoopTree) (parent : Option StepId) (place : Nat) : Step → List Placement
  | .foreach h times breakCondition own =>
    ⟨parent, place, .foreach h times breakCondition own⟩ ::
      if (tree.children h.id).isEmpty then [] else placementsOfAll tree (some h.id) 0 own
  | s => [⟨parent, place, s⟩]

/-- Steps that follow each other, of which the first takes a place. -/
def placementsOfAll (tree : LoopTree) (parent : Option StepId) (place : Nat) : List Step → List Placement
  | [] => []
  | s :: rest => placementsOf tree parent place s ++ placementsOfAll tree parent (place + 1) rest
end

/-- All places of the body. -/
def placements (tree : LoopTree) : List Placement := placementsOfAll tree none 0 tree.steps

/-- A placement has a node directly inside of its parent, as the place of it says among the siblings; nothing of its
step is changed but the number, and for a loop with stored nodes the steps inside. -/
structure Shows (tree : LoopTree) (x : Placement) (n : TreeNode) : Prop where
  parent : x.parent = n.parent
  sibling : (tree.level n.parent)[x.place]? = some n
  kept : x.step = (n.step.withHead { n.step.head with order := UInt32.ofNat (x.place + 1) }).withOwn x.step.own
  own : tree.children n.id = [] → x.step.own = n.step.own

theorem placementsOf_eq (parent : Option StepId) (place : Nat) (s : Step) :
    placementsOf tree parent place s = ⟨parent, place, s⟩ ::
      if (tree.children s.id).isEmpty then [] else placementsOfAll tree (some s.id) 0 s.own := by
  cases s <;> simp [placementsOf, placementsOfAll, Step.own, Step.id, Step.head]

@[simp] theorem id_placed (order : UInt32) (nested : List Step) (s : Step) : (placed order nested s).id = s.id := by
  cases s <;> rfl

theorem placed_eq (order : UInt32) (nested : List Step) (s : Step) :
    placed order nested s = (s.withHead { s.head with order }).withOwn (placed order nested s).own := by
  cases s <;> rfl

theorem own_placed_nil (order : UInt32) (s : Step) : (placed order [] s).own = s.own := by
  cases s <;> rfl

theorem own_placed_of_foreach {order : UInt32} {nested : List Step} (hnested : nested ≠ []) {s : Step}
    (h : s.kind = .foreach) : (placed order nested s).own = nested := by
  cases s with
  | foreach head times breakCondition own => simp [placed, Step.own, hnested]
  | api head p => cases h
  | sql head p => cases h
  | caseRef head c => cases h

theorem children_eq_nil {id : StepId} : tree.children id = [] ↔ tree.level (some id) = [] := List.map_eq_nil_iff

/-- Only loops have nodes inside of them. -/
theorem IsTree.kind_of_level (htree : IsTree tree.nodes) (h : Distinct tree.nodes) {n : TreeNode} (hn : n ∈ tree.nodes)
    (hlevel : tree.level (some n.id) ≠ []) : n.step.kind = .foreach := by
  obtain ⟨m, hm⟩ := List.exists_mem_of_ne_nil _ hlevel
  obtain ⟨hm, hparent⟩ := mem_level.mp hm
  obtain ⟨n', hn', hid, hkind⟩ := htree.parents m hm n.id hparent
  exact List.inj_on_of_nodup_map h hn' hn hid ▸ hkind

/-- A placement has a node directly inside of its parent, and its step is that of the node with the stored steps. -/
structure Stands (tree : LoopTree) (x : Placement) (n : TreeNode) : Prop where
  parent : x.parent = n.parent
  sibling : (tree.level n.parent)[x.place]? = some n
  step : x.step = placed (UInt32.ofNat (x.place + 1)) (tree.inside n) n.step

theorem Laid.length_eq {k : Nat} {nodes passed : List TreeNode} {steps : List Step}
    (h : Laid tree k nodes steps passed) : steps.length = nodes.length := by
  induction h with
  | done k => rfl
  | next _ _ _ ih_rest => rw [List.length_cons, List.length_cons, ih_rest]

theorem inside_eq_nil (h : Distinct tree.nodes) (htree : IsTree tree.nodes) {n : TreeNode} (hn : n ∈ tree.nodes) :
    tree.inside n = [] ↔ tree.children n.id = [] := by
  obtain ⟨passed, hlaid⟩ := laid_inside h htree.rooted hn
  rw [children_eq_nil, ← List.length_eq_zero_iff, hlaid.length_eq, List.length_eq_zero_iff]

theorem Stands.shows (h : Distinct tree.nodes) (htree : IsTree tree.nodes) {x : Placement} {n : TreeNode}
    (hstands : tree.Stands x n) : tree.Shows x n := by
  have hn : n ∈ tree.nodes := (mem_level.mp (List.mem_of_getElem? hstands.sibling)).1
  refine ⟨hstands.parent, hstands.sibling, ?_, fun hnil => ?_⟩
  · rw [hstands.step]
    exact placed_eq _ _ _
  · rw [hstands.step, (inside_eq_nil h htree hn).mpr hnil]
    exact own_placed_nil _ _

theorem Laid.stands (htree : IsTree tree.nodes) (h : Distinct tree.nodes) {parent : Option StepId} {k : Nat}
    {nodes passed : List TreeNode} {steps : List Step} (hlaid : Laid tree k nodes steps passed)
    (hnodes : ∀ i n, nodes[i]? = some n → (tree.level parent)[k + i]? = some n) :
    List.Forall₂ tree.Stands (placementsOfAll tree parent k steps) passed := by
  induction hlaid generalizing parent with
  | done k => exact .nil
  | @next k n rest inside after nested steps hinside _ ih_inside ih_rest =>
    have hsibling : (tree.level parent)[k]? = some n := hnodes 0 n rfl
    obtain ⟨hn, rfl⟩ := mem_level.mp (List.mem_of_getElem? hsibling)
    have hlater := ih_rest fun i m hm => by
      simpa [Nat.add_assoc, Nat.add_comm 1] using hnodes (i + 1) m hm
    have hbelow : List.Forall₂ tree.Stands (placementsOfAll tree (some n.id) 0 nested) inside :=
      ih_inside fun i m hm => by simpa using hm
    obtain ⟨_, hstored⟩ := laid_inside h htree.rooted hn
    have hnested : nested = tree.inside n := (hinside.unique hstored).1
    have hstands : tree.Stands ⟨n.parent, k, placed (UInt32.ofNat (k + 1)) nested n.step⟩ n :=
      ⟨rfl, hsibling, by rw [hnested]⟩
    rw [placementsOfAll, placementsOf_eq, id_placed]
    by_cases hlevel : tree.level (some n.id) = []
    · rw [hlevel] at hinside
      cases hinside
      have hempty : (tree.children n.step.id).isEmpty = true := List.isEmpty_iff.mpr (children_eq_nil.mpr hlevel)
      rw [if_pos hempty]
      exact .cons hstands hlater
    · have hchildren : tree.children n.id ≠ [] := mt children_eq_nil.mp hlevel
      have hempty : ¬(tree.children n.step.id).isEmpty = true := mt List.isEmpty_iff.mp hchildren
      have hne : nested ≠ [] := hnested ▸ mt (inside_eq_nil h htree hn).mp hchildren
      rw [if_neg hempty, own_placed_of_foreach hne (htree.kind_of_level h hn hlevel)]
      exact List.rel_append (.cons hstands hbelow) hlater

/-! ### What is built -/

theorem tree_of_build (h : build owner nodes = .ok tree) :
    tree.nodes.Perm nodes ∧ Distinct tree.nodes ∧ IsTree tree.nodes := by
  obtain ⟨-, hdistinct, htree⟩ := exists_build_eq_ok.mp ⟨tree, h⟩
  have hnodes : tree.nodes = byId nodes := by rw [build_eq_ok h]
  have hperm : tree.nodes.Perm nodes := hnodes ▸ List.mergeSort_perm nodes _
  exact ⟨hperm, hnodes ▸ hdistinct.byId, htree.congr fun n => hperm.symm.mem_iff⟩

/-- Laying out a whole tree passes each node once. -/
theorem exists_laid_steps (h : Distinct tree.nodes) (htree : IsTree tree.nodes) :
    ∃ passed, passed.Perm tree.nodes ∧ Laid tree 0 (tree.level none) tree.steps passed ∧
      List.Forall₂ tree.Stands tree.placements passed := by
  have hlaid : Laid tree 0 (tree.level none) tree.steps (tree.below tree.nodes.length (tree.level none)) :=
    laid_stepsFrom h (Nat.le_add_left _ 0) fun n hn => hn
  exact ⟨_, below_perm h htree.rooted, hlaid, hlaid.stands htree h fun i n hn => by simpa using hn⟩

/-- The body of a loop as its nodes have it.  Roots and children are listed by their ids; laying out comes to an end,
with no other steps than those of the body, having passed each node once; and these are the nodes which the steps of the
body, level by level, show one after the other. -/
structure Lays (tree : LoopTree) (nodes : List TreeNode) : Prop where
  roots : tree.roots.Pairwise (· < ·) ∧ ∀ id, id ∈ tree.roots ↔ ∃ n ∈ nodes, n.id = id ∧ n.parent = none
  children : ∀ p, (tree.children p).Pairwise (· < ·) ∧
    ∀ id, id ∈ tree.children p ↔ ∃ n ∈ nodes, n.id = id ∧ n.parent = some p
  laid : ∃ passed : List TreeNode, passed.Perm nodes ∧
    (∀ steps passed', Laid tree 0 (tree.level none) steps passed' ↔ steps = tree.steps ∧ passed' = passed) ∧
    List.Forall₂ tree.Shows tree.placements passed

theorem lays_of_build (h : build owner nodes = .ok tree) : tree.Lays nodes := by
  obtain ⟨hperm, hdistinct, htree⟩ := tree_of_build h
  have hascending : ∀ p, ((tree.level p).map TreeNode.id).Pairwise (· < ·) := by
    intro p
    rw [level, build_eq_ok h]
    exact pairwise_ids_filter (exists_build_eq_ok.mp ⟨tree, h⟩).2.1 _
  have hlisted : ∀ p id, id ∈ (tree.level p).map TreeNode.id ↔ ∃ n ∈ nodes, n.id = id ∧ n.parent = p := by
    intro p id
    simp only [List.mem_map, mem_level, hperm.mem_iff]
    exact ⟨fun ⟨n, ⟨hn, hp⟩, hid⟩ => ⟨n, hn, hid, hp⟩, fun ⟨n, hn, hid, hp⟩ => ⟨n, ⟨hn, hp⟩, hid⟩⟩
  obtain ⟨passed, hpassed, hlaid, hstands⟩ := exists_laid_steps hdistinct htree
  refine ⟨⟨hascending none, hlisted none⟩, fun p => ⟨hascending (some p), hlisted (some p)⟩,
    passed, hpassed.trans hperm, ?_, hstands.imp fun _ _ => Stands.shows hdistinct htree⟩
  refine fun steps passed' => ⟨fun h => h.unique hlaid, ?_⟩
  rintro ⟨rfl, rfl⟩
  exact hlaid

/-- What comes of a list of nodes.  A body is built just of nodes of the owner without a repeated id that form a tree,
the same one in whichever order they come, and it has its steps laid out as the nodes say; or it is refused for a fault
that the nodes have, as is each that the parent of any node has. -/
structure Builds (owner : StepId) (nodes : List TreeNode) : Prop where
  built : (∃ tree, build owner nodes = .ok tree) ↔ (∀ n ∈ nodes, n.owner = owner) ∧ Distinct nodes ∧ IsTree nodes
  refused : ∀ f, build owner nodes = .error f → f.Holds owner nodes
  named : ∀ n ∈ nodes, ∀ f, parentFault? nodes n = some f → f.Holds owner nodes
  same : ∀ tree nodes', build owner nodes = .ok tree → nodes.Perm nodes' → build owner nodes' = .ok tree
  lays : ∀ tree, build owner nodes = .ok tree → tree.Lays nodes

theorem stored_nodes_are_laid_out (owner : StepId) (nodes : List TreeNode) : Builds owner nodes := by
  refine ⟨exists_build_eq_ok, fun f => build_eq_error, fun n hn f => parentFault?_holds hn,
    fun tree nodes' h hperm => ?_, fun tree => lays_of_build⟩
  obtain ⟨howners, hdistinct, htree⟩ := exists_build_eq_ok.mp ⟨tree, h⟩
  have hdistinct' : Distinct nodes' := (hperm.map TreeNode.id).nodup_iff.mp hdistinct
  have htree' : IsTree nodes' := htree.congr fun n => hperm.mem_iff
  obtain ⟨tree', h'⟩ := exists_build_eq_ok.mpr ⟨fun n hn => howners n (hperm.mem_iff.mpr hn), hdistinct', htree'⟩
  rw [h', build_eq_ok h, build_eq_ok h', byId_eq_of_perm hdistinct hperm]

end LoopTree

end Casebook
