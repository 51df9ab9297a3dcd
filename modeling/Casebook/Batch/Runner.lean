import Casebook.Batch.Admission
import Casebook.Batch.Pool
import Casebook.Batch.StatusChannel
import Casebook.Batch.Timeline
import Casebook.Run.Engine

/-! Running cases together, one after another or on a pool of workers.  Every case has a run of its own; all runs share
the stop token and the outside world. -/
namespace Casebook

inductive BatchMode where
  | serial
  | parallel
deriving DecidableEq, Repr

def BatchMode.name : BatchMode → String
  | .serial => "serial"
  | .parallel => "parallel"

/-- What became of a case; a message without a report where the run was aborted. -/
structure CaseOutcome where
  caseId : CaseId
  caseName : String
  status : Status
  message : Option String
  report : Option CaseReport

structure BatchReport where
  mode : BatchMode
  /-- In the order of the request. -/
  outcomes : List CaseOutcome
  warning : Option String
  marks : List Mark

namespace BatchReport

variable (r : BatchReport)

def success : Nat := r.outcomes.countP fun o => o.status == .success

def failed : Nat := r.outcomes.length - r.success

def allPassed : Bool := r.failed == 0

end BatchReport

/-- What batches run with; the options of the engine give way to those of each case. -/
structure BatchRunner (σ : Type) where
  engine : Engine σ
  channel : StatusChannel σ
  save : List CaseReport → σ → Except RepositoryError Unit × σ
  /-- What is noted when a number of reports was saved. -/
  savedNote : Nat → Option String := fun _ => none
  /-- The variables that every case starts with. -/
  vars : Dict Json.Value

structure BatchState (σ : Type) where
  run : RunState σ
  marks : Array Mark

namespace BatchState

variable {σ : Type}

def start (world : σ) : BatchState σ := ⟨.start .empty false world, #[]⟩

/-- Marks a start or a finish at the next tick. -/
def marked (label : String) (finished : Option Status) (s : BatchState σ) : BatchState σ :=
  { s with marks := s.marks.push ⟨label, finished, s.marks.size⟩ }

end BatchState

namespace BatchRunner

variable {σ : Type} (b : BatchRunner σ)

abbrev BatchM (σ : Type) := StateM (BatchState σ)

def note (level : NoticeLevel) (text : String) : BatchM σ Unit :=
  modify fun s => { s with run := s.run.noted ⟨level, text⟩ }

def mark (label : String) (finished : Option Status) : BatchM σ Unit := modify (·.marked label finished)

/-- The engine of a case. -/
def engineOf (plan : CasePlan) : Engine σ :=
  let c := b.engine.config
  { b.engine with options := ⟨plan.envId, c.failedStop, c.onlyFailedLog⟩ }

/-- Runs a case in a fresh run. -/
def runOne (plan : CasePlan) : BatchM σ CaseOutcome := do
  let info := plan.info
  let result ← modifyGet fun s =>
    let (result, run) := ((b.engineOf plan).runCase info.id).run (s.run.fresh (.withVars b.vars))
    (result, { s with run })
  match result with
  | .ok report => return ⟨info.id, info.name, report.status, none, some report⟩
  | .error cause =>
    note .error ("Case " ++ toString info.id ++
      (if cause = .panic then " panicked" else " aborted: " ++ cause.message))
    return ⟨info.id, info.name, .failed, some cause.message, none⟩

/-- Runs a case between the marks of its start and its finish. -/
def runMarked (plan : CasePlan) : BatchM σ CaseOutcome := do
  mark plan.label none
  let outcome ← b.runOne plan
  mark plan.label (some outcome.status)
  return outcome

def runSerial (plans : List CasePlan) : BatchM σ (List CaseOutcome) := plans.mapM b.runMarked

/-- Hands out jobs of the pool while workers are free. -/
def handOut : (free : Nat) → Pool CasePlan CaseOutcome → BatchM σ (Pool CasePlan CaseOutcome)
  | 0, pool => return pool
  | free + 1, pool =>
    match pool.pending with
    | [] => return pool
    | (_, plan) :: _ => do
      mark plan.label none
      handOut free pool.started

/-- Hands out jobs, lets the worker that the schedule picks do its job and takes in its message, until no message is
awaited. -/
def runPool (workers : Nat) : (rounds : Nat) → (schedule : List Nat) → Pool CasePlan CaseOutcome →
    BatchM σ (Pool CasePlan CaseOutcome)
  | 0, _, pool => return pool
  | rounds + 1, schedule, pool => do
    let pool ← handOut (workers - pool.awaited) pool
    if pool.awaited = 0 then return pool
    let place := pool.place (schedule.head?.getD 0)
    match pool.running[place]? with
    | none => return pool
    | some (_, plan) =>
      let outcome ← b.runOne plan
      mark plan.label (some outcome.status)
      runPool workers rounds schedule.tail (pool.answered place outcome).received

/-- Every round but the last one takes in the message of a case. -/
def runParallel (schedule : List Nat) (plans : List CasePlan) : BatchM σ (List CaseOutcome) := do
  let workers := b.engine.config.workerCount plans.length
  note .info ("Worker pool size: " ++ toString workers)
  return (← b.runPool workers (plans.length + 1) schedule (.ofJobs plans)).answers

/-- Runs admitted cases. -/
def runPlans (mode : BatchMode) (schedule : List Nat) (plans : List CasePlan) : BatchM σ (List CaseOutcome) :=
  match mode with
  | .serial => b.runSerial plans
  | .parallel => b.runParallel schedule plans

/-- Writes the requested status of a user. -/
def request (user : String) (status : Status) : BatchM σ (Except RepositoryError Unit) := do
  let result ← modifyGet fun s =>
    let (result, world) := b.channel.set user status s.run.world
    (result, { s with run := { s.run with world } })
  if result.isOk then note .debug ("Requested status of '" ++ user ++ "' set to " ++ status.name)
  return result

def saveReports (reports : List CaseReport) : BatchM σ (Except RepositoryError Unit) := do
  let result ← modifyGet fun s =>
    let (result, world) := b.save reports s.run.world
    (result, { s with run := { s.run with world } })
  if result.isOk then
    if let some text := b.savedNote reports.length then note .info text
  return result

/-- Runs admitted cases while the user counts as running, and then saves their reports. -/
def runAdmitted (user : String) (mode : BatchMode) (schedule : List Nat) (plans : List CasePlan)
    (warning : Option String) : BatchM σ (Except BatchError BatchReport) := do
  match ← b.request user .running with
  | .error cause => return .error (.status cause)
  | .ok () =>
    if b.engine.config.pollInterval?.isNone then return .error .pollInterval
    note .info ("Running " ++ toString plans.length ++ " case(s) for '" ++ user ++ "' in " ++ mode.name ++ " mode")
    let outcomes ← b.runPlans mode schedule plans
    if !(← get).run.tripped then note .debug ("Interrupt coordinator for '" ++ user ++ "' shutting down")
    if let .error cause ← b.request user .waiting then
      note .warn ("Failed to reset run status for '" ++ user ++ "': " ++ cause.message)
    match ← b.saveReports (outcomes.filterMap CaseOutcome.report) with
    | .error cause => return .error (.save cause)
    | .ok () =>
      let report : BatchReport := ⟨mode, outcomes, warning, (← get).marks.toList⟩
      note .info ("Batch finished: " ++ toString report.success ++ " succeeded, " ++ toString report.failed ++
        " failed")
      return .ok report

/-- Runs a batch for a user. -/
def runBatch (user : String) (ids : List CaseId) (mode : BatchMode) (schedule : List Nat) :
    BatchM σ (Except BatchError BatchReport) := do
  match CasePlan.ofIds b.engine.repository b.engine.config.envId ids with
  | .error fault => return .error fault
  | .ok plans =>
    let warning := CasePlan.environmentWarning? plans
    if let some text := warning then note .warn text
    b.runAdmitted user mode schedule plans warning

end BatchRunner

end Casebook
