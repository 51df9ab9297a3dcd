import Casebook.Assertion.Report
import Casebook.Suite.Basic

/-! What became of steps and cases: a result for every step, and a report with statistics for every case. -/
namespace Casebook

/-- An HTTP exchange. -/
structure RequestLog where
  url : String
  method : String
  headers : Dict String
  query : Json.Value
  body : Json.Value
  statusCode : Option UInt16
  response : Json.Value
  responseHeaders : Dict String
  elapsedSecs : Float
  /-- The variables that were taken from the response. -/
  outputs : Json.Members
  assertions : List AssertionResult

/-- The log of a request of which only the method is known. -/
def RequestLog.ofMethod (method : String) : RequestLog :=
  { url := "", method, headers := [], query := .null, body := .null, statusCode := none, response := .null,
    responseHeaders := [], elapsedSecs := 0.0, outputs := [], assertions := [] }

/-- A statement sent to a database. -/
structure SqlLog where
  connection : String
  database : Option String
  sql : String
  rowCount : UInt64
  /-- The variable that received the first row. -/
  captured : Option String
deriving DecidableEq, Repr

mutual

/-- What a step left behind. -/
inductive StepOutput where
  | api (log : RequestLog)
  | sql (log : SqlLog)
  | case (results : List StepResult)
  | foreach (iterations : List IterationResult)

/-- The results of one pass through the body of a loop. -/
inductive IterationResult where
  | mk (index : UInt64) (status : Status) (steps : List StepResult)

/-- What became of a step; the label is the name of the step after those of the steps around it. -/
inductive StepResult where
  | mk (stepId : StepId) (label : String) (kind : String) (status : Status) (retries : UInt32)
    (message : Option String) (output : Option StepOutput)

end

namespace IterationResult

def index : IterationResult → UInt64
  | .mk i .. => i

def status : IterationResult → Status
  | .mk _ s _ => s

def steps : IterationResult → List StepResult
  | .mk _ _ ss => ss

end IterationResult

namespace StepResult

def stepId : StepResult → StepId
  | .mk id .. => id

def label : StepResult → String
  | .mk _ l .. => l

def kind : StepResult → String
  | .mk _ _ k .. => k

def status : StepResult → Status
  | .mk _ _ _ s .. => s

def retries : StepResult → UInt32
  | .mk _ _ _ _ r .. => r

def message : StepResult → Option String
  | .mk _ _ _ _ _ m _ => m

def output : StepResult → Option StepOutput
  | .mk _ _ _ _ _ _ o => o

/-- A result without retries, message and output. -/
def bare (stepId : StepId) (label kind : String) (status : Status) : StepResult :=
  .mk stepId label kind status 0 none none

def withMessage (message : String) : StepResult → StepResult
  | .mk id l k s r _ o => .mk id l k s r (some message) o

def withOutput (output : StepOutput) : StepResult → StepResult
  | .mk id l k s r m _ => .mk id l k s r m (some output)

/-- The result without its message and its output. -/
def stripped : StepResult → StepResult
  | .mk id l k s r _ _ => .mk id l k s r none none

@[simp] theorem stepId_stripped (r : StepResult) : r.stripped.stepId = r.stepId := by cases r; rfl

@[simp] theorem label_stripped (r : StepResult) : r.stripped.label = r.label := by cases r; rfl

@[simp] theorem kind_stripped (r : StepResult) : r.stripped.kind = r.kind := by cases r; rfl

@[simp] theorem status_stripped (r : StepResult) : r.stripped.status = r.status := by cases r; rfl

@[simp] theorem retries_stripped (r : StepResult) : r.stripped.retries = r.retries := by cases r; rfl

/-- Whether a step failed. -/
def isFailed (r : StepResult) : Bool := r.status == .failed

/-- The status of steps that ran one after another. -/
def overall (results : List StepResult) : Status := if results.any isFailed then .failed else .success

end StepResult

/-- The results of a case. -/
structure CaseReport where
  caseId : CaseId
  caseName : String
  status : Status
  environment : EnvId
  spentSecs : Float
  steps : List StepResult

/-- A float rounded to two decimals, halves away from zero. -/
def roundCents (x : Float) : Float := (x * 100.0).round / 100.0

namespace CaseReport

variable (r : CaseReport)

def total : Nat := r.steps.length

/-- The number of steps that were not disabled. -/
def enabled : Nat := r.steps.countP fun s => s.status != .disabled

def succeeded : Nat := r.steps.countP fun s => s.status == .success

/-- The share of the enabled steps that succeeded, in percent. -/
def successRate : Float :=
  if r.enabled = 0 then 0.0
  else roundCents (Float.ofNat r.succeeded * 100.0 / Float.ofNat r.enabled)

end CaseReport

end Casebook
