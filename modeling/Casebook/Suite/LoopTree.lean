import Casebook.Suite.Basic

/-! Stored loop bodies.  The nodes of a foreach step name the foreach node around them; together they form a tree
whose levels run in the order of their ids. -/
namespace Casebook

/-- The stored body of a foreach step. -/
structure LoopTree where
  owner : StepId
  /-- By ascending id. -/
  nodes : List TreeNode

namespace LoopTree

inductive Fault where
  | duplicate (node : StepId)
  | wrongOwner (node expected found : StepId)
  | danglingParent (node parent : StepId)
  | parentNotForeach (node parent : StepId)
  /-- These nodes lie on or below a cycle of parents. -/
  | unreachable (nodes : List StepId)
deriving DecidableEq, Repr

def Fault.message : Fault → String
  | .duplicate n => "foreach node " ++ toString n ++ " is listed twice"
  | .wrongOwner n e f =>
    "foreach node " ++ toString n ++ " belongs to step " ++ toString f ++ ", not " ++ toString e
  | .danglingParent n p => "foreach node " ++ toString n ++ " references missing parent " ++ toString p
  | .parentNotForeach n p =>
    "foreach node " ++ toString n ++ " has parent " ++ toString p ++ ", which is not a foreach step"
  | .unreachable ns =>
    "foreach nodes [" ++ ", ".intercalate (ns.map toString) ++ "] are unreachable from the root (cycle)"

/-- The first fault of a list of nodes taken by themselves; `seen` are the ids before it. -/
def listingFault? (owner : StepId) (seen : List StepId) : List TreeNode → Option Fault
  | [] => none
  | n :: rest =>
    if n.owner ≠ owner then some (.wrongOwner n.id owner n.owner)
    else if seen.contains n.id then some (.duplicate n.id)
    else listingFault? owner (n.id :: seen) rest

def find? (id : StepId) (nodes : List TreeNode) : Option TreeNode := nodes.find? fun n => n.id == id

/-- What is wrong with the parent of a node. -/
def parentFault? (nodes : List TreeNode) (n : TreeNode) : Option Fault :=
  match n.parent with
  | none => none
  | some p =>
    match find? p nodes with
    | none => some (.danglingParent n.id p)
    | some parent => if parent.step.isForeach then none else some (.parentNotForeach n.id p)

/-- Whether a node has no parent, or its ancestors come to such a node within a number of steps. -/
def isRooted (nodes : List TreeNode) : Nat → TreeNode → Bool
  | 0, n => n.parent.isNone
  | steps + 1, n =>
    match n.parent with
    | none => true
    | some p => (find? p nodes).any (isRooted nodes steps)

def byId (nodes : List TreeNode) : List TreeNode := nodes.mergeSort fun a b => a.id ≤ b.id

/-- The tree of the nodes of a foreach step. -/
def build (owner : StepId) (list : List TreeNode) : Except Fault LoopTree :=
  match listingFault? owner [] list with
  | some f => .error f
  | none =>
    let nodes := byId list
    match nodes.findSome? (parentFault? nodes) with
    | some f => .error f
    | none =>
      let lost := nodes.filter fun n => !isRooted nodes nodes.length n
      if lost.isEmpty then .ok ⟨owner, nodes⟩ else .error (.unreachable (lost.map TreeNode.id))

variable (tree : LoopTree)

def isEmpty : Bool := tree.nodes.isEmpty

/-- The nodes directly inside a node, or directly below the owner. -/
def level (parent : Option StepId) : List TreeNode := tree.nodes.filter fun n => n.parent == parent

def roots : List StepId := (tree.level none).map TreeNode.id

def children (id : StepId) : List StepId := (tree.level (some id)).map TreeNode.id

/-- A step at a place, with the stored steps of a foreach node in place of its own. -/
def placed (order : UInt32) (nested : List Step) : Step → Step
  | .foreach h times breakCondition own =>
    .foreach { h with order } times breakCondition (if nested.isEmpty then own else nested)
  | s => s.withHead { s.head with order }

/-- The steps of a level numbered from one, with the levels inside it to a depth. -/
def stepsFrom : Nat → List TreeNode → List Step
  | 0, _ => []
  | depth + 1, nodes => nodes.mapIdx fun k n =>
    placed (UInt32.ofNat (k + 1)) (stepsFrom depth (tree.level (some n.id))) n.step

/-- The body of the loop as nested steps. -/
def steps : List Step := tree.stepsFrom tree.nodes.length (tree.level none)

end LoopTree

end Casebook
