import Casebook.Resolve.Params
import Casebook.Suite.Duration

/-! Steps: what they do, when and how often. -/
namespace Casebook

abbrev StepId := UInt64
abbrev CaseId := UInt64
abbrev EnvId := UInt64

/-- Retries, delays and the condition under which a step runs. -/
structure Controller where
  /-- Attempts after the first one. -/
  retryCount : UInt32
  /-- Seconds between attempts. -/
  retryInterval : Float
  runCondition : Option String
  /-- Seconds before the first attempt. -/
  sleep : Option Float

namespace Controller

def default : Controller := ⟨0, 0.0, none, none⟩

/-- The time between attempts. -/
def interval (c : Controller) : Duration := .ofDelay c.retryInterval

/-- The time before the first attempt. -/
def delay? (c : Controller) : Option Duration :=
  match c.sleep with
  | some x => if 0.0 < x then some (.ofDelay x) else none
  | none => none

end Controller

/-- Where an api step takes its host from. -/
inductive HostSource where
  /-- The `host` field is a URL prefix. -/
  | literal
  /-- The URL of the environment of the run. -/
  | environment
  /-- The `host` field names a host of the scope. -/
  | named
deriving DecidableEq, Repr

/-- The part of a response that an output reads. -/
inductive ResponsePart where
  | body
  | headers
deriving DecidableEq, Repr

/-- A variable taken from a response. -/
structure OutputEntry where
  name : String
  /-- A dotted path, each segment of which may hold placeholders. -/
  path : String
  source : ResponsePart
deriving DecidableEq, Repr

/-- A name that ends in a question mark may be missing from the response. -/
def OutputEntry.isOptional (o : OutputEntry) : Bool := o.name.endsWith "?"

inductive OutputSpec where
  | table (entries : List OutputEntry)
  | code (expression : String)
deriving DecidableEq, Repr

/-- How an expected value relates to the value found. -/
inductive ExpectRule where
  | equal
  | notEqual
  | contain
  | notContain
deriving DecidableEq, Repr

structure ExpectEntry where
  path : String
  value : Json.Value
  type : ValueType
  rule : ExpectRule

inductive ExpectSpec where
  | table (entries : List ExpectEntry)
  /-- An expression that yields a truth value, or a list of one and a message. -/
  | code (expression : String)

/-- An HTTP request and what to make of its response. -/
structure ApiParams where
  method : String
  path : String
  host : Option String
  hostSource : HostSource
  /-- Variables that are written before anything else is resolved. -/
  vars : Option ParamSource
  headers : Option ParamSource
  query : Option ParamSource
  body : Option ParamSource
  outputs : Option OutputSpec
  expectations : Option ExpectSpec
  followRedirects : Bool

def ApiParams.new (method path : String) : ApiParams :=
  { method, path, host := none, hostSource := .literal, vars := none, headers := none, query := none,
    body := none, outputs := none, expectations := none, followRedirects := true }

structure SqlParams where
  /-- The name of a connection target of the environment. -/
  connection : String
  /-- Stands in for the database of the target. -/
  database : Option String
  sql : String
  /-- The variable that receives the first row. -/
  captureVar : Option String
deriving DecidableEq, Repr

/-- What all kinds of steps have. -/
structure StepHead where
  id : StepId
  name : String
  /-- The place among the steps of the case. -/
  order : UInt32
  enabled : Bool
  controller : Controller
  timeoutSecs : Option UInt64

/-- A step with a trimmed name that runs once and at once. -/
def StepHead.new (id : StepId) (name : String) (order : UInt32) : StepHead :=
  ⟨id, Text.trim name, order, true, .default, none⟩

inductive StepKind where
  | api
  | sql
  | caseRef
  | foreach
deriving DecidableEq, Repr

namespace StepKind

def name : StepKind → String
  | .api => "api"
  | .sql => "sql"
  | .caseRef => "case_ref"
  | .foreach => "foreach"

/-- Whether steps of this kind run other steps. -/
def isNested : StepKind → Bool
  | .api | .sql => false
  | .caseRef | .foreach => true

end StepKind

inductive Step where
  | api (head : StepHead) (params : ApiParams)
  | sql (head : StepHead) (params : SqlParams)
  | caseRef (head : StepHead) (caseId : CaseId)
  /-- A loop; without steps of its own its body comes from the stored tree. -/
  | foreach (head : StepHead) (times : Json.Value) (breakCondition : Option String) (steps : List Step)

namespace Step

def head : Step → StepHead
  | .api h _ => h
  | .sql h _ => h
  | .caseRef h _ => h
  | .foreach h .. => h

def withHead (h : StepHead) : Step → Step
  | .api _ p => .api h p
  | .sql _ p => .sql h p
  | .caseRef _ c => .caseRef h c
  | .foreach _ t b ss => .foreach h t b ss

def kind : Step → StepKind
  | .api .. => .api
  | .sql .. => .sql
  | .caseRef .. => .caseRef
  | .foreach .. => .foreach

def id (s : Step) : StepId := s.head.id

def order (s : Step) : UInt32 := s.head.order

def enabled (s : Step) : Bool := s.head.enabled

def isForeach (s : Step) : Bool := s.kind == .foreach

@[simp] theorem head_withHead (h : StepHead) (s : Step) : (s.withHead h).head = h := by
  cases s <;> rfl

@[simp] theorem kind_withHead (h : StepHead) (s : Step) : (s.withHead h).kind = s.kind := by
  cases s <;> rfl

/-- How often the body of a step may be attempted. -/
def maxAttempts (s : Step) : Nat :=
  if s.kind.isNested then 1 else min (s.head.controller.retryCount.toNat + 1) 4294967295

/-- Steps by ascending order, equal ones as they came. -/
def inOrder (steps : List Step) : List Step := steps.mergeSort fun a b => a.order ≤ b.order

end Step

end Casebook
