import Mathlib.Data.List.Nodup
import Mathlib.Data.List.Perm.Subperm
import Mathlib.Data.Nat.Find
import Casebook.Suite.LoopTree

/-! Stored loop bodies that are trees: every parent is a foreach node of the list, and whoever goes from parent to
parent comes to a node without one.  These are the lists of which a body is built. -/
namespace Casebook

/-- Where no key occurs twice, the element with a key is the one that is found by it. -/
theorem find?_key_eq_some {α κ : Type} [BEq κ] [LawfulBEq κ] (key : α → κ) {as : List α} (h : (as.map key).Nodup)
    {k : κ} {a : α} : (as.find? fun x => key x == k) = some a ↔ a ∈ as ∧ key a = k := by
  constructor
  · intro hfind
    exact ⟨List.mem_of_find?_eq_some hfind, by simpa using List.find?_some hfind⟩
  · rintro ⟨ha, rfl⟩
    cases hfind : as.find? fun x => key x == key a with
    | none => simpa using List.find?_eq_none.mp hfind a ha
    | some b =>
      have hb : b ∈ as := List.mem_of_find?_eq_some hfind
      have hkey : key b = key a := by simpa using List.find?_some hfind
      rw [List.inj_on_of_nodup_map h hb ha hkey]

namespace LoopTree

/-- Going from parent to parent comes to an end. -/
inductive Rooted (nodes : List TreeNode) : TreeNode → Prop where
  | root {n : TreeNode} : n.parent = none → Rooted nodes n
  | inside {n m : TreeNode} : n.parent = some m.id → m ∈ nodes → Rooted nodes m → Rooted nodes n

structure IsTree (nodes : List TreeNode) : Prop where
  parents : ∀ n ∈ nodes, ∀ p, n.parent = some p → ∃ m ∈ nodes, m.id = p ∧ m.step.kind = .foreach
  rooted : ∀ n ∈ nodes, Rooted nodes n

/-- No id stands for two nodes. -/
def Distinct (nodes : List TreeNode) : Prop := (nodes.map TreeNode.id).Nodup

variable {nodes nodes' : List TreeNode}

theorem Rooted.mono (h : ∀ n ∈ nodes, n ∈ nodes') {n : TreeNode} (hn : Rooted nodes n) : Rooted nodes' n := by
  induction hn with
  | root hparent => exact .root hparent
  | inside hparent hm _ ih => exact .inside hparent (h _ hm) ih

theorem mem_byId {n : TreeNode} : n ∈ byId nodes ↔ n ∈ nodes := (List.mergeSort_perm nodes _).mem_iff

theorem Distinct.byId (h : Distinct nodes) : Distinct (byId nodes) :=
  ((List.mergeSort_perm nodes _).map TreeNode.id).nodup_iff.mpr h

theorem find?_eq_some (h : Distinct nodes) {id : StepId} {n : TreeNode} :
    find? id nodes = some n ↔ n ∈ nodes ∧ n.id = id := find?_key_eq_some TreeNode.id h

/-! ### Ancestors -/

theorem isRooted_succ {k : Nat} {n : TreeNode} (h : isRooted nodes k n = true) : isRooted nodes (k + 1) n = true := by
  induction k generalizing n with
  | zero =>
    have hparent : n.parent = none := Option.isNone_iff_eq_none.mp h
    simp [isRooted, hparent]
  | succ k ih =>
    unfold isRooted at h ⊢
    cases hparent : n.parent with
    | none => rfl
    | some p =>
      cases hfind : find? p nodes with
      | none => simp [hparent, hfind] at h
      | some m =>
        simp only [hparent, hfind, Option.any_some] at h ⊢
        exact ih h

theorem isRooted_mono {k l : Nat} (hle : k ≤ l) {n : TreeNode} (h : isRooted nodes k n = true) :
    isRooted nodes l n = true := by
  induction hle with
  | refl => exact h
  | step _ ih => exact isRooted_succ ih

theorem rooted_of_isRooted {k : Nat} {n : TreeNode} (h : isRooted nodes k n = true) : Rooted nodes n := by
  induction k generalizing n with
  | zero => exact .root (Option.isNone_iff_eq_none.mp h)
  | succ k ih =>
    unfold isRooted at h
    split at h
    case h_1 hparent => exact .root hparent
    case h_2 p hparent =>
      cases hfind : find? p nodes with
      | none => simp [hfind] at h
      | some m =>
        rw [hfind] at h
        have hid : m.id = p := by simpa using List.find?_some hfind
        exact .inside (hid ▸ hparent) (List.mem_of_find?_eq_some hfind) (ih h)

theorem exists_isRooted (hdistinct : Distinct nodes) {n : TreeNode} (h : Rooted nodes n) :
    ∃ k, isRooted nodes k n = true := by
  induction h with
  | root hparent => exact ⟨0, by simp [isRooted, hparent]⟩
  | @inside n m hparent hm _ ih =>
    obtain ⟨k, hk⟩ := ih
    have hfind := (find?_eq_some hdistinct).mpr ⟨hm, rfl⟩
    exact ⟨k + 1, by simp [isRooted, hparent, hfind, hk]⟩

/-- The number of ancestors of a node. -/
def HasRank (nodes : List TreeNode) (k : Nat) (n : TreeNode) : Prop :=
  isRooted nodes k n = true ∧ ∀ j < k, isRooted nodes j n = false

theorem HasRank.unique {k l : Nat} {n : TreeNode} (hk : HasRank nodes k n) (hl : HasRank nodes l n) : k = l := by
  rcases Nat.lt_trichotomy k l with h | h | h
  · exact absurd hk.1 (by simp [hl.2 k h])
  · exact h
  · exact absurd hl.1 (by simp [hk.2 l h])

theorem HasRank.parent {k : Nat} {n : TreeNode} (h : HasRank nodes (k + 1) n) :
    ∃ m ∈ nodes, n.parent = some m.id ∧ HasRank nodes k m := by
  obtain ⟨hrooted, hleast⟩ := h
  have hparent : n.parent ≠ none := fun hnone => by simpa [isRooted, hnone] using hleast 0 (Nat.succ_pos k)
  obtain ⟨p, hp⟩ := Option.ne_none_iff_exists'.mp hparent
  simp only [isRooted, hp] at hrooted
  cases hfind : find? p nodes with
  | none => simp [hfind] at hrooted
  | some m =>
    rw [hfind] at hrooted
    have hid : m.id = p := by simpa using List.find?_some hfind
    refine ⟨m, List.mem_of_find?_eq_some hfind, hid ▸ hp, hrooted, fun j hj => ?_⟩
    simpa [isRooted, hp, hfind] using hleast (j + 1) (Nat.succ_lt_succ hj)

theorem HasRank.below {k : Nat} {n : TreeNode} (hn : n ∈ nodes) (h : HasRank nodes k n) :
    ∀ j ≤ k, ∃ m ∈ nodes, HasRank nodes j m := by
  induction k generalizing n with
  | zero =>
    intro j hj
    cases Nat.le_zero.mp hj
    exact ⟨n, hn, h⟩
  | succ k ih =>
    intro j hj
    rcases Nat.lt_or_eq_of_le hj with hlt | rfl
    · obtain ⟨m, hm, -, hrank⟩ := h.parent
      exact ih hm hrank j (Nat.le_of_lt_succ hlt)
    · exact ⟨n, hn, h⟩

/-- There are nodes of all ranks up to that of a node, so no rank reaches their number. -/
theorem HasRank.lt_length {k : Nat} {n : TreeNode} (hn : n ∈ nodes) (h : HasRank nodes k n) : k < nodes.length := by
  choose m hm hrank using h.below hn
  let ranked := (List.range (k + 1)).attach.map fun j => m j.1 (Nat.le_of_lt_succ (List.mem_range.mp j.2))
  have hnodup : ranked.Nodup := by
    refine List.Nodup.map (fun i j hij => ?_) (List.nodup_attach.mpr List.nodup_range)
    have hi := hrank i.1 (Nat.le_of_lt_succ (List.mem_range.mp i.2))
    have hj := hrank j.1 (Nat.le_of_lt_succ (List.mem_range.mp j.2))
    rw [hij] at hi
    exact Subtype.ext (hi.unique hj)
  have hsub : ∀ x ∈ ranked, x ∈ nodes := by
    intro x hx
    obtain ⟨j, -, rfl⟩ := List.mem_map.mp hx
    exact hm _ _
  have hlength := (List.Nodup.subperm hnodup hsub).length_le
  simpa [ranked, Nat.succ_le_iff] using hlength

theorem Rooted.exists_hasRank (hdistinct : Distinct nodes) {n : TreeNode} (h : Rooted nodes n) :
    ∃ k, HasRank nodes k n := by
  have hexists := exists_isRooted hdistinct h
  exact ⟨Nat.find hexists, Nat.find_spec hexists, fun j hj => by simpa using Nat.find_min hexists hj⟩

/-- As many steps as there are nodes suffice to come to the end of the ancestors. -/
theorem isRooted_length_iff (hdistinct : Distinct nodes) {n : TreeNode} (hn : n ∈ nodes) :
    isRooted nodes nodes.length n = true ↔ Rooted nodes n := by
  refine ⟨rooted_of_isRooted, fun h => ?_⟩
  obtain ⟨k, hrank⟩ := h.exists_hasRank hdistinct
  exact isRooted_mono (Nat.le_of_lt (hrank.lt_length hn)) hrank.1

/-! ### Building -/

theorem listingFault?_eq_none {owner : StepId} {seen : List StepId} :
    listingFault? owner seen nodes = none ↔
      (∀ n ∈ nodes, n.owner = owner) ∧ Distinct nodes ∧ ∀ n ∈ nodes, n.id ∉ seen := by
  induction nodes generalizing seen with
  | nil => simp [listingFault?, Distinct]
  | cons n rest ih =>
    unfold listingFault?
    by_cases howner : n.owner = owner
    · by_cases hseen : n.id ∈ seen
      · simp [howner, hseen]
      · simp only [howner, ne_eq, not_true_eq_false, if_false, List.contains_iff_mem, hseen, ih, Distinct,
          List.map_cons, List.nodup_cons, List.forall_mem_cons, not_false_eq_true, true_and]
        simp only [List.mem_cons, not_or]
        constructor
        · rintro ⟨howners, hdistinct, hfresh⟩
          refine ⟨howners, ⟨fun hmem => ?_, hdistinct⟩, fun m hm => (hfresh m hm).2⟩
          obtain ⟨m, hm, hid⟩ := List.mem_map.mp hmem
          exact (hfresh m hm).1 hid
        · rintro ⟨howners, ⟨hnew, hdistinct⟩, hfresh⟩
          refine ⟨howners, hdistinct, fun m hm => ⟨fun hid => ?_, hfresh m hm⟩⟩
          exact hnew (hid ▸ List.mem_map_of_mem hm)
    · simp [howner]

theorem parentFault?_eq_none (hdistinct : Distinct nodes) (n : TreeNode) :
    parentFault? nodes n = none ↔
      ∀ p, n.parent = some p → ∃ m ∈ nodes, m.id = p ∧ m.step.kind = .foreach := by
  unfold parentFault?
  cases hparent : n.parent with
  | none => simp
  | some p =>
    simp only [Option.some.injEq, forall_eq']
    cases hfind : find? p nodes with
    | none =>
      have hnone : ∀ m ∈ nodes, m.id ≠ p := by simpa [find?] using hfind
      simp only [reduceCtorEq, false_iff, not_exists, not_and]
      exact fun m hm hid => absurd hid (hnone m hm)
    | some m =>
      obtain ⟨hm, hid⟩ := (find?_eq_some hdistinct).mp hfind
      have hkind : m.step.isForeach = true ↔ m.step.kind = .foreach := by simp [Step.isForeach]
      constructor
      · intro h
        refine ⟨m, hm, hid, hkind.mp ?_⟩
        by_contra hforeach
        simp [hforeach] at h
      · rintro ⟨m', hm', hid', hforeach⟩
        cases List.inj_on_of_nodup_map hdistinct hm' hm (hid'.trans hid.symm)
        simp [hkind.mpr hforeach]

/-- A body is built just of nodes of the owner without a repeated id that form a tree. -/
theorem exists_build_eq_ok {owner : StepId} :
    (∃ tree, build owner nodes = .ok tree) ↔
      (∀ n ∈ nodes, n.owner = owner) ∧ Distinct nodes ∧ IsTree nodes := by
  unfold build
  cases hlisting : listingFault? owner [] nodes with
  | some f =>
    have hsome : ¬((∀ n ∈ nodes, n.owner = owner) ∧ Distinct nodes) := fun h => by
      simpa [hlisting] using listingFault?_eq_none.mpr ⟨h.1, h.2, fun _ _ => List.not_mem_nil⟩
    simp only [reduceCtorEq, exists_false, false_iff]
    exact fun h => hsome ⟨h.1, h.2.1⟩
  | none =>
    obtain ⟨howners, hdistinct, -⟩ := listingFault?_eq_none.mp hlisting
    have hsorted := hdistinct.byId
    rw [and_iff_right howners, and_iff_right hdistinct]
    have hparents : (byId nodes).findSome? (parentFault? (byId nodes)) = none ↔
        ∀ n ∈ nodes, ∀ p, n.parent = some p → ∃ m ∈ nodes, m.id = p ∧ m.step.kind = .foreach := by
      simp only [List.findSome?_eq_none_iff, parentFault?_eq_none hsorted, mem_byId]
    have hrooted : ((byId nodes).filter fun n => !isRooted (byId nodes) (byId nodes).length n).isEmpty = true ↔
        ∀ n ∈ nodes, Rooted nodes n := by
      simp only [List.isEmpty_iff, List.filter_eq_nil_iff, Bool.not_eq_true', Bool.not_eq_false, mem_byId]
      refine forall₂_congr fun n hn => ?_
      rw [isRooted_length_iff hsorted (mem_byId.mpr hn)]
      exact ⟨.mono fun m hm => mem_byId.mp hm, .mono fun m hm => mem_byId.mpr hm⟩
    by_cases hfault : (byId nodes).findSome? (parentFault? (byId nodes)) = none
    · simp only [hfault]
      split
      case isTrue hempty => exact iff_of_true ⟨_, rfl⟩ ⟨hparents.mp hfault, hrooted.mp hempty⟩
      case isFalse hlost => exact iff_of_false (by simp) fun h => hlost (hrooted.mpr h.rooted)
    · obtain ⟨f, hf⟩ := Option.ne_none_iff_exists'.mp hfault
      simp only [hf]
      exact iff_of_false (by simp) fun h => hfault (hparents.mpr h.parents)

/-- The body that is built holds the nodes by their ids. -/
theorem build_eq_ok {owner : StepId} {tree : LoopTree} (h : build owner nodes = .ok tree) :
    tree = ⟨owner, byId nodes⟩ := by
  unfold build at h
  split at h
  · cases h
  · simp only at h
    split at h
    · cases h
    · split at h
      · exact (Except.ok.inj h).symm
      · cases h

end LoopTree

end Casebook
