import Casebook.Batch.StatusChannel
import Casebook.Decimal.Numeral

/-! The command line: what its arguments ask for. -/
namespace Casebook.Cli

structure Options where
  suitePath : String
  /-- No ids stand for all cases. -/
  caseIds : List CaseId
  parallel : Bool
  failedStop : Bool
  onlyFailedLog : Bool
  envId : Option EnvId
  user : String
  statusFile : String
  reportPath : Option String
  interrupt : Bool
  verbose : Bool
deriving DecidableEq, Repr

def Options.default : Options where
  suitePath := "suite.yaml"
  caseIds := []
  parallel := false
  failedStop := false
  onlyFailedLog := false
  envId := none
  user := "default"
  statusFile := StatusChannel.defaultPath
  reportPath := none
  interrupt := false
  verbose := false

inductive ArgumentError where
  | missingValue (option : String)
  | badEnvironment (text : String)
  | badCase (text : String)
  | unknownOption (text : String)
deriving DecidableEq, Repr

def ArgumentError.message : ArgumentError → String
  | .missingValue option => option ++ " requires an argument"
  | .badEnvironment text => "Invalid environment id: " ++ text
  | .badCase text => "Invalid case id: " ++ text
  | .unknownOption text => "Unknown option: " ++ text

/-- An option that stands by itself. -/
inductive Flag where
  | parallel | failedStop | onlyFailedLog | interrupt | verbose
deriving DecidableEq, Repr

def Flag.ofText? (text : String) : Option Flag :=
  [("--parallel", .parallel), ("--failed-stop", .failedStop), ("--only-failed-log", .onlyFailedLog),
    ("--interrupt", .interrupt), ("--verbose", .verbose), ("-v", .verbose)].lookup text

/-- An option that a value follows. -/
inductive Setting where
  | env | user | statusFile | report
deriving DecidableEq, Repr

def Setting.ofText? (text : String) : Option Setting :=
  [("--env", .env), ("--user", .user), ("--status-file", .statusFile), ("--report", .report)].lookup text

namespace Options

def raise (f : Flag) (o : Options) : Options :=
  match f with
  | .parallel => { o with parallel := true }
  | .failedStop => { o with failedStop := true }
  | .onlyFailedLog => { o with onlyFailedLog := true }
  | .interrupt => { o with interrupt := true }
  | .verbose => { o with verbose := true }

/-- An id in decimal. -/
def id? (text : String) : Option UInt64 := (Decimal.nat64? text).map UInt64.ofNat

def assign (s : Setting) (value : String) (o : Options) : Except ArgumentError Options :=
  match s with
  | .env =>
    match id? value with
    | some n => .ok { o with envId := some n }
    | none => .error (.badEnvironment value)
  | .user => .ok { o with user := value }
  | .statusFile => .ok { o with statusFile := value }
  | .report => .ok { o with reportPath := some value }

/-- The first argument that is no option names the suite, and those after it are cases. -/
def place (suiteSeen : Bool) (text : String) (o : Options) : Except ArgumentError Options :=
  if suiteSeen then
    match id? text with
    | some n => .ok { o with caseIds := o.caseIds ++ [n] }
    | none => .error (.badCase text)
  else .ok { o with suitePath := text }

end Options

inductive Command where
  | help
  | version
  | run (options : Options)
deriving DecidableEq, Repr

namespace Command

/-- Reads arguments from left to right; a request for help or for the version ends them. -/
def read (o : Options) (suiteSeen : Bool) : List String → Except ArgumentError Command
  | [] => .ok (.run o)
  | arg :: rest =>
    if arg = "--help" ∨ arg = "-h" then .ok .help
    else if arg = "--version" ∨ arg = "-V" then .ok .version
    else match Flag.ofText? arg with
      | some f => read (o.raise f) suiteSeen rest
      | none =>
        match Setting.ofText? arg with
        | some s =>
          match rest with
          | [] => .error (.missingValue arg)
          | value :: rest =>
            match o.assign s value with
            | .ok o => read o suiteSeen rest
            | .error e => .error e
        | none =>
          if arg.startsWith "-" then .error (.unknownOption arg)
          else match o.place suiteSeen arg with
            | .ok o => read o true rest
            | .error e => .error e

def ofArgs (args : List String) : Except ArgumentError Command := read .default false args

end Command

/-! ### Texts -/

def appName : String := "CaseRunner"

def version : String := "0.1.0"

def banner : List String := ["", appName ++ " v" ++ version, "API and SQL Test Case Runner", ""]

def usage : List String := [
  "Usage: caserunner [OPTIONS] <SUITE_FILE> [CASE_ID...]",
  "",
  "Arguments:",
  "  <SUITE_FILE>         Path to suite YAML file",
  "  [CASE_ID...]         Cases to run (default: every case in the suite)",
  "",
  "Options:",
  "  --parallel           Run cases on the worker pool",
  "  --failed-stop        Stop a case at its first failed step",
  "  --only-failed-log    Keep output only for failed steps",
  "  --env ID             Run every case against this environment",
  "  --user NAME          User the run is recorded for (default: " ++ Options.default.user ++ ")",
  "  --status-file PATH   Run-status file (default: " ++ StatusChannel.defaultPath ++ ")",
  "  --report PATH        Write case reports as JSON",
  "  --interrupt          Request an interrupt of the user's running batch",
  "  --verbose            Enable debug logging",
  "  --help               Show this help message",
  "  --version            Show version information",
  "",
  "Examples:",
  "  caserunner suite.yaml",
  "  caserunner suite.yaml 1 2 --parallel --report results.json",
  "  caserunner --interrupt --user alice"]

end Casebook.Cli
