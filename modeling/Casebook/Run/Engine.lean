import Casebook.Resolve.LoopBound
import Casebook.Run.Request
import Casebook.Run.Response
import Casebook.Run.State

/-! The engine runs the steps of a case: api and sql steps against the transport, referenced cases and loops one level
deeper.  Levels are limited, so cases that refer to each other end. -/
namespace Casebook

/-- The settings of one run. -/
structure RunOptions where
  envId : EnvId
  /-- Latch the run at its first failed step. -/
  failedStop : Bool
  /-- Drop message and output of steps that passed. -/
  onlyFailedLog : Bool
deriving DecidableEq, Repr

structure Engine (σ : Type) where
  ev : Evaluator
  repository : Repository
  transport : Transport σ
  config : RunConfig
  options : RunOptions
  /-- How many iterations a loop without bound may take. -/
  patience : Nat

/-- What one attempt at a step came to. -/
structure Attempt where
  passed : Bool
  message : Option String
  output : Option StepOutput

namespace Attempt

def success (output : StepOutput) : Attempt := ⟨true, none, some output⟩

def failed (fault : StepFault) (output : StepOutput) : Attempt := ⟨false, some fault.message, some output⟩

/-- A failure that leaves nothing but a message. -/
def refused (message : String) : Attempt := ⟨false, some message, none⟩

def status (a : Attempt) : Status := if a.passed then .success else .failed

/-- The result of a step whose last attempt had a number. -/
def result (a : Attempt) (step : Step) (label : String) (number : Nat) : StepResult :=
  .mk step.id label step.kind.name a.status (UInt32.ofNat number) a.message a.output

end Attempt

namespace Engine

variable {σ : Type} (e : Engine σ)

/-! ### Calls -/

/-- The environment of the run, looked up once. -/
def environment : Run σ (Except RepositoryError Environment) := do
  match (← get).environments.lookup e.options.envId with
  | some env => return .ok env
  | none =>
    match e.repository.environment e.options.envId with
    | .error cause => return .error cause
    | .ok env =>
      modify fun s => { s with environments := (env.id, env) :: s.environments }
      return .ok env

def send (request : HttpRequest) : Run σ (Except HttpError HttpResponse) := do
  match ← Run.call (.http request) (e.transport.http request) with
  | some answer => return answer
  | none => throw .panic

def connect (target : ConnectionTarget) : Run σ (Except SqlError Unit) :=
  Run.call (.connect target) (e.transport.connect target)

def query (target : ConnectionTarget) (sql : String) : Run σ (Except SqlError Rows) :=
  Run.call (.execute sql) (e.transport.execute target sql)

def close (target : ConnectionTarget) : Run σ (Except SqlError Unit) :=
  Run.call .close (e.transport.close target)

/-! ### Api steps -/

/-- Writes the variables of a step. -/
def writeVariables (p : ApiParams) (label : String) (index : Option Nat) : Run σ (Except StepFault Unit) := do
  match p.vars with
  | none => return .ok ()
  | some source =>
    let r := e.ev.resolveParams source (.variable label) index (← Run.scope)
    Run.setScope r.scope
    r.written.forM fun (name, _) => Run.note .debug (label ++ " sets variable '" ++ name ++ "'")
    return (Stage.vars.mark r.result).map fun _ => ()

/-- The URL of the environment where a step needs it. -/
def environmentUrl (p : ApiParams) : Run σ (Except RepositoryError String) := do
  if p.hostSource = .environment then return (← e.environment).map Environment.url
  else return .ok ""

/-- Makes the request of a step, with the log of how far that went. -/
def makeRequest (h : StepHead) (p : ApiParams) (index : Option Nat) (url : Except RepositoryError String)
    (log : RequestLog) : Run σ (Except StepFault HttpRequest × RequestLog) := do
  let timeout := h.timeoutSecs.getD e.config.defaultTimeoutSecs
  let (request, draft) := (p.draft e.ev index url timeout).run ⟨log, ← Run.scope⟩
  Run.setScope draft.scope
  return (request, draft.log)

/-- Judges a response. -/
def judge (h : StepHead) (p : ApiParams) (label : String) (index : Option Nat) (response : HttpResponse)
    (log : RequestLog) : Run σ Attempt := do
  if response.isSuccess then
    let j := p.judge e.ev label index (e.repository.rules h.id) response log (← Run.scope)
    Run.setScope j.scope
    return ⟨j.message.isNone, j.message, some (.api j.log)⟩
  else return .failed (.status response.status) (.api (log.answered response))

/-- One attempt at an api step. -/
def api (h : StepHead) (p : ApiParams) (label : String) (index : Option Nat) : Run σ Attempt := do
  let log := RequestLog.ofMethod (Text.asciiUpper p.method)
  match ← e.writeVariables p label index with
  | .error fault => return .failed fault (.api log)
  | .ok () =>
    let (request, log) ← e.makeRequest h p index (← e.environmentUrl p) log
    match request with
    | .error fault => return .failed fault (.api log)
    | .ok request =>
      match ← e.send request with
      | .error cause => return .failed (.http cause) (.api log)
      | .ok response => e.judge h p label index response log

/-! ### Sql steps -/

/-- The target of a step in the environment of the run. -/
def sqlTarget (p : SqlParams) : Run σ (Except StepFault ConnectionTarget) := do
  match ← e.environment with
  | .error cause => return .error (.environment cause)
  | .ok env =>
    match Dict.get? p.connection env.databases with
    | none => return .error (.sql (.unknownTarget p.connection env.id))
    | some target => return .ok { target with database := p.database.or target.database }

/-- Closes a connection whose fate no longer matters. -/
def discard (target : ConnectionTarget) : Run σ Unit := do
  if let .error cause ← e.close target then
    Run.note .warn ("Failed to close database connection: " ++ cause.message)

/-- Sends the statement of a step over an open connection and closes the connection, whatever happens. -/
def queryAndClose (p : SqlParams) (label : String) (index : Option Nat) (target : ConnectionTarget) (log : SqlLog) :
    Run σ (Except StepFault Rows × SqlLog) := do
  match Stage.sql.mark (e.ev.renderText p.sql (← Run.scope) index) with
  | .error fault =>
    e.discard target
    return (.error fault, log)
  | .ok sql =>
    Run.note .debug (label ++ " executing: " ++ sql)
    match ← e.query target sql with
    | .error cause =>
      e.discard target
      return (.error (.sql cause), { log with sql })
    | .ok rows =>
      match ← e.close target with
      | .error cause => return (.error (.sql cause), { log with sql })
      | .ok () => return (.ok rows, { log with sql, rowCount := UInt64.ofNat rows.length })

/-- Keeps the first row in a variable. -/
def captureRow (name label : String) (rows : Rows) : Run σ Unit := do
  Run.note .debug (label ++ " sets variable '" ++ name ++ "'")
  Run.setScope ((← Run.scope).setVar label name ((rows.head?.map Json.Value.object).getD .null))

/-- One attempt at an sql step. -/
def sql (p : SqlParams) (label : String) (index : Option Nat) : Run σ Attempt := do
  let log : SqlLog := ⟨p.connection, p.database, p.sql, 0, none⟩
  match ← e.sqlTarget p with
  | .error fault => return .failed fault (.sql log)
  | .ok target =>
    match ← e.connect target with
    | .error cause => return .failed (.sql cause) (.sql log)
    | .ok () =>
      let (rows, log) ← e.queryAndClose p label index target log
      match rows, p.captureVar with
      | .error fault, _ => return .failed fault (.sql log)
      | .ok _, none => return .success (.sql log)
      | .ok rows, some name =>
        captureRow name label rows
        return .success (.sql { log with captured := some name })

/-! ### Nested steps -/

/-- A way to run steps one after another, under a text put before their labels, at a level and an iteration. -/
abbrev Nest (σ : Type) := List Step → String → Nat → Option Nat → Run σ (List StepResult)

/-- One attempt at a reference to a case. -/
def caseRef (nest : Nest σ) (caseId : CaseId) (labels : String) (level : Nat) (index : Option Nat) :
    Run σ Attempt := do
  let limit := e.config.limits.caseRef
  if limit.toNat < level then Run.overflow .caseRef limit
  else match e.repository.steps caseId with
    | .error cause => return .refused ("[Case] " ++ cause.message)
    | .ok steps =>
      Run.note .debug ("Entering case " ++ toString caseId ++ " at cascade level " ++ toString level)
      Run.record (.entered .caseRef level)
      let results ← nest steps labels level index
      return ⟨StepResult.overall results == .success, none, some (.case results)⟩

/-- Whether a loop may start its next iteration. -/
inductive Turn where
  | go
  | stop
  | broken (cause : ResolutionError)

/-- Looks whether the run is halted, and then at the break condition. -/
def turn (name : String) (breakCondition : Option String) (iteration : Nat) : Run σ Turn := do
  if ← Run.isHalted then return .stop
  match breakCondition with
  | none => return .go
  | some condition =>
    match e.ev.condition condition (← Run.scope) (some iteration) with
    | .ok false => return .go
    | .ok true =>
      Run.note .debug ("Foreach '" ++ name ++ "' break condition met at iteration " ++ toString iteration)
      return .stop
    | .error cause =>
      Run.note .warn ("Break condition of '" ++ name ++ "' failed: " ++ cause.message)
      return .broken cause

/-- The iterations of a loop from one on, at most `left` of them, and what is wrong with the break condition.  When
none is left, a loop without bound has outlasted the patience of the engine. -/
def iterate (turn : Nat → Run σ Turn) (body : Nat → Run σ (List StepResult)) (bounded : Bool) :
    (left iteration : Nat) → Run σ (List IterationResult × Option ResolutionError)
  | 0, _ => if bounded then return ([], none) else throw .exhausted
  | left + 1, iteration => do
    match ← turn iteration with
    | .stop => return ([], none)
    | .broken cause => return ([], some cause)
    | .go =>
      Run.record (.iterated iteration)
      let results ← body iteration
      let (rest, fault) ← iterate turn body bounded left (iteration + 1)
      return (.mk (UInt64.ofNat iteration) (StepResult.overall results) results :: rest, fault)

/-- The body of a loop: its own steps, or the stored ones. -/
def loopBody (id : StepId) (own : List Step) : Except RepositoryError (List Step) :=
  if own.isEmpty then (e.repository.loopTree id).map LoopTree.steps else .ok own

/-- The iterations that a bound leaves to a loop. -/
def allowance (bound : LoopBound) : Nat :=
  match bound with
  | .times n => n
  | .forever => e.patience

/-- Runs the steps of a loop as often as its bound says. -/
def loop (nest : Nest σ) (h : StepHead) (breakCondition : Option String) (bound : LoopBound) (steps : List Step)
    (labels : String) (level : Nat) : Run σ Attempt := do
  Run.note .debug ("Foreach '" ++ h.name ++ "' runs " ++ bound.text ++ " over " ++ toString steps.length ++ " steps")
  Run.record (.entered .foreach level)
  let (iterations, fault) ← iterate (e.turn h.name breakCondition) (fun i => nest steps labels level (some i))
    (bound != .forever) (e.allowance bound) 0
  return {
    passed := fault.isNone && iterations.all fun i => i.status == .success
    message := fault.map fun cause => "[Foreach] break condition failed: " ++ cause.message
    output := some (.foreach iterations) }

/-- One attempt at a loop. -/
def foreach (nest : Nest σ) (h : StepHead) (times : Json.Value) (breakCondition : Option String) (own : List Step)
    (labels : String) (level : Nat) (index : Option Nat) : Run σ Attempt := do
  let limit := e.config.limits.foreach
  if limit.toNat < level then Run.overflow .foreach limit
  else match LoopBound.resolve e.ev times (← Run.scope) index with
    | .error cause => return .refused ("[Foreach] " ++ cause.message)
    | .ok bound =>
      Run.record (.bounded bound)
      match e.loopBody h.id own with
      | .error cause => return .refused ("[Foreach] " ++ cause.message)
      | .ok steps => e.loop nest h breakCondition bound steps labels level

/-! ### Steps -/

/-- One attempt at a step. -/
def body (nest : Nest σ) (step : Step) (label : String) (level : Nat) (index : Option Nat) : Run σ Attempt :=
  match step with
  | .api h p => e.api h p label index
  | .sql _ p => e.sql p label index
  | .caseRef _ c => Run.nested (e.caseRef nest c (label ++ "-") level index)
  | .foreach h times breakCondition own =>
    Run.nested (e.foreach nest h times breakCondition own (label ++ "-") level index)

/-- At the outermost level, nesting that is too deep becomes a failure of the step. -/
def contained (label : String) (level : Nat) (attempt : Run σ Attempt) : Run σ Attempt :=
  tryCatch attempt fun
    | .tooDeep kind limit =>
      if level ≤ 1 then do
        Run.note .error ("'" ++ label ++ "' exceeded the " ++ kind.nesting ++ " nesting limit")
        return .refused ("infinite loop or nesting too deep: " ++ (Abort.tooDeep kind limit).message)
      else throw (.tooDeep kind limit)
    | cause => throw cause

/-- Starts the attempt of a number. -/
def started (label : String) (attempt : Run σ Attempt) (n : Nat) : Run σ Attempt := do
  Run.record (.attempted label n)
  attempt

/-- Attempts until one passes, the run is halted, or no retry is left; with the number of the last attempt, counted
from `n`. -/
def retrying (label : String) (attempt : Run σ Attempt) : (left n : Nat) → Run σ (Attempt × Nat)
  | 0, n => do return (← started label attempt n, n)
  | left + 1, n => do
    let a ← started label attempt n
    if a.passed then return (a, n)
    else if ← Run.isHalted then return (a, n)
    else
      Run.note .warn ("Retrying '" ++ label ++ "' (" ++ toString (n + 1) ++ "/" ++ toString (n + left + 1) ++ ")")
      retrying label attempt left (n + 1)

/-- The result of a step that was not started because the run is halted. -/
def interrupted (step : Step) (label : String) : StepResult :=
  let r := StepResult.bare step.id label step.kind.name .skip
  if step.kind.isNested then r else r.withMessage "execution interrupted"

/-- The result of a step whose run condition is not met. -/
def unmet (step : Step) (label : String) : StepResult :=
  (StepResult.bare step.id label step.kind.name .skip).withMessage "[Controller] run condition not met"

/-- Whether a result loses its message and output where only failures are logged. -/
def isSuppressed (step : Step) (r : StepResult) : Bool :=
  (r.status == .success || r.status == .skip) && step.kind != .caseRef

/-- Halts the run at a failure, where the options ask for that. -/
def haltAt (r : StepResult) (halt : Run σ Unit) : Run σ Unit :=
  if r.isFailed && e.options.failedStop then halt else return

/-- Reports what became of a step; a failure may halt the run. -/
def settle (r : StepResult) (halt : Run σ Unit) : Run σ StepResult := do
  let r ← Run.report r
  e.haltAt r halt
  return r

def noteOutcome (r : StepResult) : Run σ Unit :=
  if r.isFailed then Run.note .error ("Step '" ++ r.label ++ "' failed: " ++ r.message.getD "")
  else Run.note .info ("Step '" ++ r.label ++ "' finished: " ++ r.status.name)

/-- Suppresses what need not be logged, and latches the run at a failure. -/
def finish (step : Step) (r : StepResult) : Run σ StepResult := do
  let r := if e.options.onlyFailedLog && isSuppressed step r then r.stripped else r
  noteOutcome r
  e.settle r Run.latchFailedStop

/-- Notes the delay before a step. -/
def noteDelay (step : Step) (label : String) : Run σ Unit :=
  match step.head.controller.delay? with
  | some delay => Run.note .debug ("Sleeping " ++ delay.text ++ " before '" ++ label ++ "'")
  | none => return

/-- Attempts a step whose run condition is met. -/
def attempts (nest : Nest σ) (step : Step) (label : String) (level : Nat) (index : Option Nat) :
    Run σ StepResult := do
  noteDelay step label
  let (a, n) ← retrying label (contained label level (e.body nest step label level index)) (step.maxAttempts - 1) 0
  e.finish step (a.result step label n)

/-- What becomes of a step whose run condition has no answer. -/
def undecided (step : Step) (label : String) (cause : ResolutionError) : Run σ StepResult := do
  Run.note .error ("Run condition of '" ++ label ++ "' failed: " ++ cause.message)
  e.settle ((StepResult.bare step.id label step.kind.name .failed).withMessage ("[Controller] " ++ cause.message))
    Run.interrupt

/-- Runs an enabled step, with `nest` for the steps inside it. -/
def executeWith (nest : Nest σ) (step : Step) (labels : String) (level : Nat) (index : Option Nat) :
    Run σ StepResult := do
  let label := labels ++ step.head.name
  if ← Run.isHalted then
    Run.note .debug ("Skipping '" ++ label ++ "': run is " ++ (← Run.status).name)
    Run.report (interrupted step label)
  else match step.head.controller.runCondition with
    | none => e.attempts nest step label level index
    | some condition =>
      match e.ev.condition condition (← Run.scope) index with
      | .ok true => e.attempts nest step label level index
      | .ok false =>
        Run.note .debug ("Skipping '" ++ label ++ "': run condition not met")
        e.finish step (unmet step label)
      | .error cause => e.undecided step label cause

/-- Runs a step of a group, one level deeper if it nests; a disabled step is only reported. -/
def member (nest : Nest σ) (labels : String) (level : Nat) (index : Option Nat) (step : Step) :
    Run σ StepResult := do
  Run.record (.reached step.id (labels ++ step.head.name))
  if step.enabled then
    e.executeWith nest step labels (if step.kind.isNested then level + 1 else level) index
  else Run.report (.bare step.id (labels ++ step.head.name) step.kind.name .disabled)

/-- Runs steps in ascending order, with `nest` for the steps inside them. -/
def groupWith (nest : Nest σ) : Nest σ := fun steps labels level index =>
  (Step.inOrder steps).mapM (e.member nest labels level index)

/-- Runs steps where `room` more levels may be entered.  With no room left every nested step lies beyond its limit
and enters nothing. -/
def groupWithin (room : Nat) : Nest σ := fun steps labels level index =>
  match room with
  | 0 => e.groupWith (fun _ _ _ _ => return []) steps labels level index
  | room + 1 => e.groupWith (groupWithin room) steps labels level index

/-- The deepest level that any kind of step may enter. -/
def deepest : Nat := max e.config.limits.caseRef.toNat e.config.limits.foreach.toNat

/-- Runs the steps of a level. -/
def group : Nest σ := fun steps labels level index =>
  e.groupWithin (e.deepest - level) steps labels level index

/-- Runs a step that lies at a level. -/
def execute (step : Step) (labels : String) (level : Nat) (index : Option Nat) : Run σ StepResult :=
  e.executeWith e.group step labels level index

/-! ### Cases -/

/-- Runs a case and reports on it. -/
def runCase (caseId : CaseId) : Run σ CaseReport := do
  let info ← liftExcept (e.repository.caseInfo caseId)
  let steps ← liftExcept (e.repository.steps caseId)
  let name := toString info.id ++ " '" ++ info.name ++ "'"
  Run.note .info ("Running case " ++ name ++ " (" ++ toString steps.length ++ " steps)")
  let results ← e.group steps "" 0 none
  let latest ← Run.status
  let status := if latest.isHalted then latest else StepResult.overall results
  Run.note .info ("Case " ++ name ++ " finished: " ++ status.name)
  return ⟨info.id, info.name, status, e.options.envId, 0.0, results⟩
where
  liftExcept {α : Type} (r : Except RepositoryError α) : Run σ α :=
    match r with
    | .ok a => return a
    | .error cause => throw (.repository cause)

end Engine

end Casebook
