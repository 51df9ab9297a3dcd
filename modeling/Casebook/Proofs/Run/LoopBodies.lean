import Casebook.Proofs.Run.StepTree
import Casebook.Proofs.Suite.LoopLayout

/-! Loops that have steps of their own and stored ones.  A run takes the steps of the loop itself before those stored
for it; inside of a stored body it is the other way round, so steps of a node with both are left out. -/
namespace Casebook

/-- The body of a loop where its own steps go before the stored ones. -/
def ownFirst (own stored : List Step) : List Step := if own.isEmpty then stored else own

/-- The body of a loop where the stored steps go before its own ones. -/
def storedFirst (own stored : List Step) : List Step := if stored.isEmpty then own else stored

theorem storedFirst_eq_ownFirst_iff {own stored : List Step} :
    storedFirst own stored = ownFirst own stored ↔ own = [] ∨ stored = [] ∨ stored = own := by
  cases own <;> cases stored <;> simp [storedFirst, ownFirst]

/-- A run takes the steps of a loop itself before those stored for it. -/
theorem Engine.loopBody_of_stored {σ : Type} {e : Engine σ} {id : StepId} {tree : LoopTree}
    (h : e.repository.loopTree id = .ok tree) (own : List Step) :
    e.loopBody id own = .ok (ownFirst own tree.steps) := by
  unfold loopBody ownFirst
  rw [h]
  split <;> rfl

namespace LoopTree

variable {owner : StepId} {nodes : List TreeNode} {tree : LoopTree}

theorem own_placed {s : Step} {nested : List Step} (h : nested ≠ [] → s.kind = .foreach) (order : UInt32) :
    (placed order nested s).own = storedFirst s.own nested := by
  by_cases hnested : nested = []
  · rw [hnested, own_placed_nil]
    rfl
  · rw [own_placed_of_foreach hnested (h hnested), storedFirst, if_neg (mt List.isEmpty_iff.mp hnested)]

/-- A placed step has the stored steps of its node inside, if there are any, and those of the node itself otherwise. -/
theorem Stands.own_eq (htree : IsTree tree.nodes) (h : Distinct tree.nodes) {x : Placement} {n : TreeNode}
    (hstands : tree.Stands x n) : x.step.own = storedFirst n.step.own (tree.inside n) := by
  have hn : n ∈ tree.nodes := (mem_level.mp (List.mem_of_getElem? hstands.sibling)).1
  rw [hstands.step]
  refine own_placed (fun hne => htree.kind_of_level h hn fun hlevel => hne ?_) _
  exact (inside_eq_nil h htree hn).mpr (children_eq_nil.mpr hlevel)

/-- How the loops of a stored body come by the steps inside of them.  Each node is shown by one step, which has what is
stored inside of the node before the steps of the node itself.  They come by them as loops outside of stored bodies do,
own steps first, just where no node has both, unless both are the same. -/
structure Fills (tree : LoopTree) (nodes passed : List TreeNode) : Prop where
  once : passed.Perm nodes
  shown : List.Forall₂ tree.Shows tree.placements passed
  stored : ∀ n ∈ nodes, ∃ inner, Laid tree 0 (tree.level (some n.id)) (tree.inside n) inner
  filled : tree.placements.map (·.step.own) = passed.map fun n => storedFirst n.step.own (tree.inside n)
  alike : (tree.placements.map (·.step.own) = passed.map fun n => ownFirst n.step.own (tree.inside n)) ↔
    ∀ n ∈ nodes, n.step.own = [] ∨ tree.children n.id = [] ∨ tree.inside n = n.step.own

theorem exists_fills (hdistinct : Distinct tree.nodes) (htree : IsTree tree.nodes) (hnodes : tree.nodes.Perm nodes) :
    ∃ passed, tree.Fills nodes passed := by
  obtain ⟨passed, hpassed, -, hstands⟩ := exists_laid_steps hdistinct htree
  have hperm : passed.Perm nodes := hpassed.trans hnodes
  have hfilled : tree.placements.map (·.step.own) =
      passed.map fun n => storedFirst n.step.own (tree.inside n) := by
    rw [← List.forall₂_eq_eq_eq, List.forall₂_map_left_iff, List.forall₂_map_right_iff]
    exact hstands.imp fun _ _ => Stands.own_eq htree hdistinct
  refine ⟨passed, hperm, hstands.imp fun _ _ => Stands.shows hdistinct htree, fun n hn => ?_, hfilled, ?_⟩
  · exact laid_inside hdistinct htree.rooted (hnodes.mem_iff.mpr hn)
  · rw [hfilled, List.map_inj_left]
    refine forall_congr' fun n => ?_
    rw [hperm.mem_iff]
    refine forall_congr' fun hn => ?_
    rw [storedFirst_eq_ownFirst_iff, inside_eq_nil hdistinct htree (hnodes.mem_iff.mpr hn)]

/-- Inside of a stored body the stored steps of a loop go before its own ones, while a run takes the own steps of a loop
before the body stored for it. -/
theorem stored_steps_go_first (h : build owner nodes = .ok tree) :
    (∃ passed, tree.Fills nodes passed) ∧
      ∀ {σ : Type} (e : Engine σ) (own : List Step), e.repository.loopTree owner = .ok tree →
        e.loopBody owner own = .ok (ownFirst own tree.steps) := by
  obtain ⟨hnodes, hdistinct, htree⟩ := tree_of_build h
  exact ⟨exists_fills hdistinct htree hnodes, fun e own he => Engine.loopBody_of_stored he own⟩

/-! ### Loops with one body and with two -/

def callOf (id : StepId) (c : CaseId) : Step := .caseRef ⟨id, "call", 0, true, .default, none⟩ c

def loopOf (id : StepId) (own : List Step) : Step :=
  .foreach ⟨id, "loop", 0, true, .default, none⟩ (.bool true) none own

/-- A loop with a step of its own and a loop with a stored one. -/
def apart : List TreeNode :=
  [⟨1, none, loopOf 10 [callOf 99 5]⟩, ⟨1, none, loopOf 20 []⟩, ⟨1, some 20, callOf 21 6⟩]

/-- A loop with a step of its own and a stored one. -/
def together : List TreeNode := [⟨1, none, loopOf 10 [callOf 99 5]⟩, ⟨1, some 10, callOf 11 6⟩]

def apartEngine : Engine Unit :=
  ⟨Template.evaluator, .ofSuite { Suite.empty with foreachSteps := apart }, Engine.unasked, .default,
    ⟨1, false, false⟩, 0⟩

theorem loops_with_one_body_keep_it : build 1 apart = .ok ⟨1, apart⟩ ∧
    (∃ passed, Fills ⟨1, apart⟩ apart passed) ∧
      (steps ⟨1, apart⟩).map (fun s => (s.id, s.own.map Step.id)) = [(10, [99]), (20, [21])] ∧
        apartEngine.repository.loopTree 1 = .ok ⟨1, apart⟩ ∧
          apartEngine.loopBody 1 [callOf 7 8] = .ok [callOf 7 8] := by
  have hsorted : byId apart = apart :=
    List.mergeSort_of_pairwise (by simp [apart, TreeNode.id, Step.id, Step.head, loopOf, callOf])
  have hbuild : build 1 apart = .ok ⟨1, apart⟩ := by
    unfold build
    rw [hsorted]
    rfl
  have hstored : apartEngine.repository.loopTree 1 = .ok ⟨1, apart⟩ := by
    show (build 1 apart).mapError RepositoryError.tree = _
    rw [hbuild]
    rfl
  obtain ⟨hfills, hbody⟩ := stored_steps_go_first hbuild
  exact ⟨hbuild, hfills, rfl, hstored, hbody apartEngine [callOf 7 8] hstored⟩

/-- A loop inside of a stored body loses its own step to a stored one; as the outermost loop it would keep it. -/
theorem own_step_gives_way_to_stored : build 1 together = .ok ⟨1, together⟩ ∧
    (together.map fun n => (n.id, n.step.own.map Step.id)) = [(10, [99]), (11, [])] ∧
      (steps ⟨1, together⟩).map (fun s => (s.id, s.own.map Step.id)) = [(10, [11])] ∧
        (ownFirst [callOf 99 5] [callOf 11 6]).map Step.id = [99] := by
  have hsorted : byId together = together :=
    List.mergeSort_of_pairwise (by simp [together, TreeNode.id, Step.id, Step.head, loopOf, callOf])
  refine ⟨?_, rfl, rfl, rfl⟩
  unfold build
  rw [hsorted]
  rfl

end LoopTree

end Casebook
