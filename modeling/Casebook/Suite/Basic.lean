import Casebook.Assertion.Rule

/-! Suites: run settings, environments, cases, stored loop bodies and assertion rules. -/
namespace Casebook

/-- What a run, a case or a step is doing, or has come to. -/
inductive Status where
  | running
  | success
  | failed
  /-- Stopped at the first failure. -/
  | failedStop
  | interrupt
  | waiting
  | skip
  | disabled
deriving DecidableEq, Repr

namespace Status

def all : List Status := [.running, .success, .failed, .failedStop, .interrupt, .waiting, .skip, .disabled]

def name : Status → String
  | .running => "RUNNING"
  | .success => "SUCCESS"
  | .failed => "FAILED"
  | .failedStop => "FAILED_STOP"
  | .interrupt => "INTERRUPT"
  | .waiting => "WAITING"
  | .skip => "SKIP"
  | .disabled => "DISABLED"

def ofName? (s : String) : Option Status := all.find? fun st => st.name == s

/-- Whether no further step may start. -/
def isHalted : Status → Bool
  | .interrupt | .failedStop => true
  | _ => false

/-- Whether a run is over. -/
def isTerminal : Status → Bool
  | .running | .waiting => false
  | _ => true

theorem ofName?_name (s : Status) : ofName? s.name = some s := by
  cases s <;> decide

end Status

/-- A node of a stored loop body. -/
structure TreeNode where
  /-- The top-level foreach step that the body belongs to. -/
  owner : StepId
  /-- The foreach node around this one; none directly below the owner. -/
  parent : Option StepId
  step : Step

def TreeNode.id (n : TreeNode) : StepId := n.step.id

/-- Where SQL goes. -/
structure ConnectionTarget where
  driver : String
  url : String
  database : Option String
deriving DecidableEq, Repr

structure Environment where
  id : EnvId
  name : String
  url : String
  databases : Dict ConnectionTarget
deriving DecidableEq, Repr

/-- A case without its steps. -/
structure CaseInfo where
  id : CaseId
  name : String
  envId : Option EnvId
deriving DecidableEq, Repr

structure Case where
  id : CaseId
  name : String
  env : Option EnvId
  steps : List Step

namespace Case

def info (c : Case) : CaseInfo := ⟨c.id, c.name, c.env⟩

def orderedSteps (c : Case) : List Step := Step.inOrder c.steps

end Case

/-- How deep case references and loops may nest. -/
structure CascadeLimits where
  caseRef : UInt32
  foreach : UInt32
deriving DecidableEq, Repr

def CascadeLimits.default : CascadeLimits := ⟨10, 15⟩

structure RunConfig where
  /-- The environment of every case; without it each case has its own. -/
  envId : Option EnvId
  /-- Stop at the first failed step. -/
  failedStop : Bool
  /-- Drop message and output of steps that passed. -/
  onlyFailedLog : Bool
  /-- Run the cases of a batch side by side. -/
  parallel : Bool
  defaultTimeoutSecs : UInt64
  maxWorkers : UInt64
  limits : CascadeLimits
  pollIntervalSecs : Float

namespace RunConfig

def default : RunConfig :=
  { envId := none, failedStop := false, onlyFailedLog := false, parallel := false, defaultTimeoutSecs := 60,
    maxWorkers := 5, limits := .default, pollIntervalSecs := 3.0 }

/-- The number of workers for a number of cases. -/
def workerCount (config : RunConfig) (cases : Nat) : Nat := max 1 (min cases config.maxWorkers.toNat)

/-- The time between two looks at the requested status, three seconds unless the setting is a positive number; a
setting beyond any length of time has no answer. -/
def pollInterval? (config : RunConfig) : Option Duration :=
  if config.pollIntervalSecs.isFinite && 0.0 < config.pollIntervalSecs then
    Duration.ofSeconds? config.pollIntervalSecs
  else some ⟨3, 0⟩

end RunConfig

structure Suite where
  config : RunConfig
  environments : List Environment
  /-- The variables that every run starts with. -/
  vars : Dict Json.Value
  cases : List Case
  foreachSteps : List TreeNode
  assertions : List AssertionRule

def Suite.empty : Suite := ⟨.default, [], [], [], [], []⟩

namespace Suite

variable (s : Suite)

/-- The last case of a number. -/
def caseOf? (id : CaseId) : Option Case := s.cases.reverse.find? fun c => c.id == id

/-- The last environment of a number. -/
def environmentOf? (id : EnvId) : Option Environment := s.environments.reverse.find? fun e => e.id == id

/-- The nodes of the stored body of a step, as they came. -/
def nodesOf (owner : StepId) : List TreeNode := s.foreachSteps.filter fun n => n.owner == owner

def rulesOf (step : StepId) : List AssertionRule := s.assertions.filter fun r => r.stepId == step

end Suite

end Casebook
