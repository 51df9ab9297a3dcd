import Casebook.Address.Check
import Casebook.Batch.Archive
import Casebook.Batch.Runner
import Casebook.Cli.Options
import Casebook.Run.SqlDriver
import Casebook.Suite.Loading
import Casebook.Template.Eval

/-! The program that runs the cases of a suite file.  Its world are files: nothing is sent to servers, and requests end
where their address has been checked. -/
namespace Casebook.Cli

structure World where
  files : FileStore
  archive : Archive

namespace World

def http (r : HttpRequest) : Reply (Option (Except HttpError HttpResponse)) where
  answer := some (.error ((Address.refusal? r.url r.method).getD (.other "no server can be reached")))
  trips := false
  notices := if (Address.check r.url).isOk then [⟨.debug, r.method ++ " " ++ r.url⟩] else []

/-- Opens a target; the file of a new SQLite database is empty. -/
def connect (t : ConnectionTarget) (w : World) : Reply (Except SqlError Unit) × World :=
  let notices := [⟨.debug, "Opening " ++ t.driver ++ " connection to " ++ t.url⟩]
  match t.open with
  | .error e => (⟨.error e, false, notices⟩, w)
  | .ok none => (⟨.ok (), false, notices⟩, w)
  | .ok (some name) =>
    if w.files.exists? name then (⟨.ok (), false, notices⟩, w)
    else (⟨.ok (), false, notices⟩, { w with files := w.files.put [name] "" })

def transport : Transport World where
  http r w := (http r, w)
  connect := connect
  execute _ _ w := (.quiet (.error (.query "no database engine")), w)
  close _ w := (.quiet (.ok ()), w)

/-- The statuses in a file of the world. -/
def channel (path : String) : StatusChannel World where
  get user w := (StatusChannel.file path).get user w.files
  set user status w :=
    let (result, files) := (StatusChannel.file path).set user status w.files
    (result, { w with files })

def save (reports : List CaseReport) (w : World) : Except RepositoryError Unit × World :=
  let (result, archive, files) := w.archive.save reports w.files
  (result, ⟨files, archive⟩)

end World

/-- What a call of the program leaves behind. -/
structure Outcome where
  /-- The lines of the standard output. -/
  output : List String
  notices : List Notice
  /-- The lines of the error output after the notices. -/
  errors : List String
  passed : Bool
  files : FileStore

namespace Outcome

/-- What is printed where the program fails with a message. -/
def failure (message : String) : List String := ["", "Error: " ++ message]

def exitCode (o : Outcome) : UInt8 := if o.passed then 0 else 1

/-- The lines of the error output. -/
def errorLines (verbose : Bool) (o : Outcome) : List String :=
  (o.notices.filter (·.isShown verbose)).map Notice.line ++ o.errors

end Outcome

/-! ### Reports -/

/-- A number of hundredths with two places. -/
def hundredths (n : Nat) : String := toString (n / 100) ++ "." ++ Text.padZeros 2 (n % 100)

/-- How many steps of a case succeeded. -/
def rate (r : CaseReport) : String :=
  toString r.succeeded ++ "/" ++ toString r.enabled ++ " steps, " ++
    hundredths (r.successRate * 100.0).round.toUInt64.toNat ++ "%"

def outcomeLines (o : CaseOutcome) : List String :=
  let status := Timeline.fit 12 o.status.name
  let line := "  " ++ status ++ " #" ++ toString o.caseId ++ " " ++ o.caseName ++ " " ++ (o.report.map rate).getD ""
  line :: (o.message.map ("               " ++ ·)).toList

/-- The summary of a batch, which took a number of hundredths of a second. -/
def summary (spent : Nat) (r : BatchReport) : List String :=
  (toString r.outcomes.length ++ " case(s) in " ++ r.mode.name ++ " mode: " ++ toString r.success ++ " succeeded, " ++
    toString r.failed ++ " failed (" ++ hundredths spent ++ "s)") ::
    (r.warning.map ("Warning: " ++ ·)).toList

def reportLines (spent : Nat) (r : BatchReport) : List String :=
  "" :: r.outcomes.flatMap outcomeLines ++ Timeline.chart 0 r.marks ++ summary spent r

/-! ### Running -/

/-- The settings of a suite under the options: flags can be raised only, and an environment replaces the suite's. -/
def Options.configOf (o : Options) (c : RunConfig) : RunConfig :=
  { c with
    failedStop := c.failedStop || o.failedStop
    onlyFailedLog := c.onlyFailedLog || o.onlyFailedLog
    parallel := c.parallel || o.parallel
    envId := o.envId.or c.envId }

/-- The cases that are asked for. -/
def Options.casesOf (o : Options) (s : Suite) : List CaseId := if o.caseIds.isEmpty then s.caseIds else o.caseIds

/-- Warnings of connections that no driver serves. -/
def driverWarnings (s : Suite) : List Notice :=
  s.environments.flatMap fun env => env.databases.filterMap fun (name, t) =>
    if (SqlDriver.ofName? t.driver).isSome then none
    else some ⟨.warn, "Connection '" ++ name ++ "' in environment '" ++ env.name ++ "' uses unknown driver '" ++
      t.driver ++ "'; its sql steps will fail"⟩

/-- The iterations that a loop without bound may take. -/
def patience : Nat := 1000000

def runner (o : Options) (s : Suite) : BatchRunner World where
  engine := {
    ev := Template.evaluator
    repository := .ofSuite s
    transport := World.transport
    config := o.configOf s.config
    options := ⟨0, false, false⟩
    patience }
  channel := World.channel o.statusFile
  save := World.save
  savedNote count := o.reportPath.map fun path => "Saved " ++ toString count ++ " case reports to " ++ path
  vars := s.vars

def runSuite (spent : Nat) (o : Options) (s : Suite) (fs : FileStore) : Outcome :=
  let config := o.configOf s.config
  let mode := if config.parallel then BatchMode.parallel else .serial
  let (result, st) := ((runner o s).runBatch o.user (o.casesOf s) mode []).run (.start ⟨fs, .empty o.reportPath⟩)
  let opening := (o.reportPath.map fun p => (⟨.info, "Reports: " ++ p⟩ : Notice)).toList ++ driverWarnings s
  let notices := opening ++ st.run.notices.toList
  let files := st.run.world.files
  match result with
  | .error e => ⟨banner, notices, Outcome.failure e.message, false, files⟩
  | .ok report =>
    ⟨banner ++ reportLines spent report, notices, [], report.allPassed, files⟩

/-- Loads a suite and runs its cases. -/
def runFile (spent : Nat) (o : Options) (fs : FileStore) : Outcome :=
  let (loading, result) := Suite.load o.suitePath fs
  let notices := ⟨.info, "Loading suite: " ++ o.suitePath⟩ :: loading
  match result with
  | .error e =>
    ⟨banner, notices ++ [⟨.error, "Failed to load suite: " ++ e.message⟩],
      Outcome.failure ("Could not load suite from '" ++ o.suitePath ++ "': " ++ e.message), false, fs⟩
  | .ok s =>
    let loaded : Notice := ⟨.info, "Suite loaded: " ++ toString s.cases.length ++ " cases, " ++
      toString s.environments.length ++ " environments"⟩
    let outcome := runSuite spent o s fs
    { outcome with notices := notices ++ loaded :: outcome.notices }

/-- Asks for an interrupt of the user's batch. -/
def requestInterrupt (o : Options) (fs : FileStore) : Outcome :=
  match (StatusChannel.file o.statusFile).set o.user .interrupt fs with
  | (.error e, files) => ⟨[], [], Outcome.failure e.message, false, files⟩
  | (.ok (), files) =>
    ⟨[], [⟨.debug, "Requested status of '" ++ o.user ++ "' set to " ++ Status.interrupt.name⟩,
      ⟨.info, "Interrupt requested for '" ++ o.user ++ "'"⟩], [], true, files⟩

/-- What the program does under options. -/
def perform (spent : Nat) (o : Options) (fs : FileStore) : Outcome :=
  if o.interrupt then requestInterrupt o fs else runFile spent o fs

/-- What the program does for its arguments. -/
def run (spent : Nat) (args : List String) (fs : FileStore) : Outcome :=
  match Command.ofArgs args with
  | .ok .help => ⟨usage, [], [], true, fs⟩
  | .ok .version => ⟨[appName ++ " " ++ version], [], [], true, fs⟩
  | .ok (.run o) => perform spent o fs
  | .error e => ⟨usage, [], ["Error: " ++ e.message, ""] ++ Outcome.failure e.message, false, fs⟩

/-- Whether the arguments ask for details. -/
def isVerbose (args : List String) : Bool :=
  match Command.ofArgs args with
  | .ok (.run o) => o.verbose
  | _ => false

end Casebook.Cli
