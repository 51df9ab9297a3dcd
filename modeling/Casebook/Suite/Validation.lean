import Casebook.Resolve.LoopBound
import Casebook.Suite.LoopTree

/-! What is checked of a suite before it runs.  All faults are collected, in the order of the suite.  Cycles of case
references are allowed and only reported. -/
namespace Casebook

namespace Step

mutual

/-- A step and all steps inside its loops, each before those inside it. -/
def withInner : Step → List Step
  | .foreach h times breakCondition steps => .foreach h times breakCondition steps :: withInnerOfAll steps
  | s => [s]

def withInnerOfAll : List Step → List Step
  | [] => []
  | s :: rest => withInner s ++ withInnerOfAll rest

end

end Step

namespace Suite

inductive Fault where
  | duplicateCase (id : CaseId)
  | duplicateEnvironment (id : EnvId)
  | duplicateStep (id : StepId)
  | duplicateOrder (caseId : CaseId) (order : UInt32)
  | unknownCase (step : StepId) (caseId : CaseId)
  | unknownEnvironment (caseId : CaseId) (env : EnvId)
  | unknownOwner (node owner : StepId)
  | brokenTree (owner : StepId) (cause : LoopTree.Fault)
  | timing (step : StepId) (field : String)
  | loopCount (step : StepId) (value : Json.Value)
  | unknownTarget (rule : UInt64) (step : StepId)

def Fault.message : Fault → String
  | .duplicateCase id => "Duplicate case ID: " ++ toString id
  | .duplicateEnvironment id => "Duplicate environment ID: " ++ toString id
  | .duplicateStep id => "Duplicate step ID: " ++ toString id
  | .duplicateOrder c o => "Case " ++ toString c ++ " has more than one step with order " ++ toString o
  | .unknownCase s c => "Step " ++ toString s ++ " references unknown case " ++ toString c
  | .unknownEnvironment c e => "Case " ++ toString c ++ " uses unknown environment " ++ toString e
  | .unknownOwner n o =>
    "Foreach node " ++ toString n ++ " belongs to " ++ toString o ++ ", which is not a foreach step"
  | .brokenTree o cause => "Foreach tree of step " ++ toString o ++ " is broken: " ++ cause.message
  | .timing s field => "Step " ++ toString s ++ ": " ++ field ++ " must be between 0 and 86400 seconds"
  | .loopCount s v => "Step " ++ toString s ++ ": invalid loop count " ++ v.text
  | .unknownTarget r s => "Assertion rule " ++ toString r ++ " targets unknown step " ++ toString s

/-- The elements that occurred before. -/
def repeated {α : Type} [BEq α] (seen : List α) : List α → List α
  | [] => []
  | x :: rest => (if seen.contains x then [x] else []) ++ repeated (x :: seen) rest

/-- Whether a number of seconds is within the range of delays. -/
def isDelay (x : Float) : Bool := 0.0 ≤ x && x ≤ Duration.maxDelay

def timingFaults (s : Step) : List Fault :=
  let c := s.head.controller
  (if isDelay c.retryInterval then [] else [.timing s.id "retry_interval_secs"]) ++
    (if c.sleep.all isDelay then [] else [.timing s.id "sleep_secs"])

/-- The faults of the parameters of a step, given which cases there are. -/
def kindFaults (cases : List CaseId) : Step → List Fault
  | .caseRef h c => if cases.contains c then [] else [.unknownCase h.id c]
  | .foreach h times _ _ => if LoopBound.isPlausible times then [] else [.loopCount h.id times]
  | _ => []

/-- The faults of steps taken one after another; `seen` are the ids before them. -/
def stepFaults (cases : List CaseId) (seen : List StepId) : List Step → List Fault
  | [] => []
  | s :: rest =>
    (if seen.contains s.id then [.duplicateStep s.id] else []) ++ timingFaults s ++ kindFaults cases s ++
      stepFaults cases (s.id :: seen) rest

def idsOf (steps : List Step) : List StepId := steps.map Step.id

/-- The faults of the top-level steps of a case and all inside them; `orders` are the orders before them. -/
def topFaults (cases : List CaseId) (caseId : CaseId) : List UInt32 → List StepId → List Step → List Fault
  | _, _, [] => []
  | orders, seen, s :: rest =>
    (if orders.contains s.order then [.duplicateOrder caseId s.order] else []) ++
      stepFaults cases seen s.withInner ++
      topFaults cases caseId (s.order :: orders) (idsOf s.withInner ++ seen) rest

def caseFaults (suite : Suite) (cases : List CaseId) : List StepId → List Case → List Fault
  | _, [] => []
  | seen, c :: rest =>
    (match c.env with
      | some e => if suite.environments.any fun x => x.id == e then [] else [.unknownEnvironment c.id e]
      | none => []) ++
      topFaults cases c.id [] seen c.steps ++
      caseFaults suite cases (idsOf (Step.withInnerOfAll c.steps) ++ seen) rest

def nodeFaults (cases : List CaseId) (owners : List StepId) : List StepId → List TreeNode → List Fault
  | _, [] => []
  | seen, n :: rest =>
    if owners.contains n.owner then
      stepFaults cases seen n.step.withInner ++
        nodeFaults cases owners (idsOf n.step.withInner ++ seen) rest
    else .unknownOwner n.id n.owner :: nodeFaults cases owners seen rest

variable (suite : Suite)

def caseIds : List CaseId := suite.cases.map Case.id

/-- The foreach steps that may own stored nodes. -/
def loopOwners : List StepId :=
  idsOf ((suite.cases.flatMap Case.steps).filter Step.isForeach)

/-- The stored nodes that have an owner. -/
def ownedNodes : List TreeNode := suite.foreachSteps.filter fun n => suite.loopOwners.contains n.owner

/-- All steps of cases, at any depth. -/
def caseSteps : List Step := suite.cases.flatMap fun c => Step.withInnerOfAll c.steps

/-- All steps that rules may refer to. -/
def knownSteps : List Step := suite.caseSteps ++ suite.ownedNodes.flatMap fun n => n.step.withInner

def treeFaults : List Fault :=
  (suite.ownedNodes.map TreeNode.owner).eraseDups.filterMap fun owner =>
    match LoopTree.build owner (suite.nodesOf owner) with
    | .ok _ => none
    | .error f => some (.brokenTree owner f)

def ruleFaults : List Fault :=
  let ids := idsOf suite.knownSteps
  suite.assertions.filterMap fun r => if ids.contains r.stepId then none else some (.unknownTarget r.id r.stepId)

/-- Everything that is wrong with a suite. -/
def faults : List Fault :=
  let cases := suite.caseIds
  (repeated [] cases).map .duplicateCase ++
    (repeated [] (suite.environments.map Environment.id)).map .duplicateEnvironment ++
    caseFaults suite cases [] suite.cases ++
    nodeFaults cases suite.loopOwners (idsOf suite.caseSteps).reverse suite.foreachSteps ++
    suite.treeFaults ++ suite.ruleFaults

/-! ### Cycles of references -/

/-- The cases that steps refer to, at any depth. -/
def referencesOf (steps : List Step) : List CaseId :=
  (Step.withInnerOfAll steps).filterMap fun
    | .caseRef _ c => some c
    | _ => none

/-- The case that holds a step at its top level. -/
def caseOfStep? (id : StepId) : Option CaseId :=
  (suite.cases.reverse.find? fun c => c.steps.any fun s => s.id == id).map Case.id

/-- The cases that a case refers to, in its steps and in the stored nodes that belong to them. -/
def referencesFrom (c : CaseId) : List CaseId :=
  referencesOf ((suite.cases.filter fun x => x.id == c).flatMap Case.steps) ++
    suite.foreachSteps.filterMap fun n =>
      match n.step with
      | .caseRef _ d => if suite.caseOfStep? n.owner = some c then some d else none
      | _ => none

/-- What is reached from a list of waiting cases, in a number of steps. -/
def reachedFrom (next : CaseId → List CaseId) : Nat → List CaseId → List CaseId → List CaseId
  | 0, _, seen => seen
  | _, [], seen => seen
  | steps + 1, c :: waiting, seen =>
    if seen.contains c then reachedFrom next steps waiting seen
    else reachedFrom next steps (next c ++ waiting) (c :: seen)

/-- How many references there are, each case and each case named by one counted once. -/
def referenceCount : Nat := (suite.caseIds.flatMap suite.referencesFrom).length

/-- The cases that can be reached from a case through one or more references. -/
def reachable (c : CaseId) : List CaseId :=
  let start := suite.referencesFrom c
  reachedFrom suite.referencesFrom (start.length + suite.referenceCount + 1) start []

/-- The cases that can reach themselves, in ascending order. -/
def cyclicCases : List CaseId :=
  (suite.caseIds.filter fun c => (suite.reachable c).contains c).mergeSort

def cycleWarning (c : CaseId) : String :=
  "Case " ++ toString c ++ " references itself through other cases; runs will stop at the nesting limit"

end Suite

end Casebook
