import Casebook.Files
import Casebook.Run.Notice
import Casebook.Suite.Codec
import Casebook.Suite.Validation
import Casebook.Yaml.Reading

/-! Loading suites from files.  A suite is read, checked, and handed out only if nothing is wrong with it. -/
namespace Casebook

inductive LoadError where
  | file (path : String) (fault : FileFault)
  /-- The text is no suite. -/
  | malformed
  | invalid (faults : List Suite.Fault)

def LoadError.message : LoadError → String
  | .file path fault => "failed to read suite file '" ++ path ++ "': " ++ fault.message
  | .malformed => "failed to parse suite YAML"
  | .invalid faults => "suite is invalid:\n" ++ "\n".intercalate (faults.map fun f => "  - " ++ f.message)

namespace Suite

/-! ### Notices -/

/-- The checked steps in the order of the check. -/
def checkedSteps (suite : Suite) : List Step := suite.knownSteps

/-- A remark about a request that has an address from elsewhere or none at all. -/
def addressNotice? : Step → Option Notice
  | .api h p =>
    if (Text.trim p.path).isEmpty && p.host.isNone then
      some ⟨.debug, "Step " ++ toString h.id ++ " has neither host nor path"⟩
    else none
  | _ => none

def readNotice (suite : Suite) : Notice :=
  ⟨.info, "Parsed suite: " ++ toString suite.cases.length ++ " cases, " ++ toString suite.environments.length ++
    " environments, " ++ toString suite.foreachSteps.length ++ " foreach nodes, " ++
    toString suite.assertions.length ++ " assertion rules"⟩

def checkNotices (suite : Suite) : List Notice :=
  ⟨.info, "Validating suite with " ++ toString suite.cases.length ++ " cases"⟩ ::
    suite.checkedSteps.filterMap addressNotice?

def passNotices (suite : Suite) : List Notice :=
  (suite.cyclicCases.map fun c => ⟨.warn, cycleWarning c⟩) ++
    [⟨.info, "Suite validated: " ++ toString suite.cases.length ++ " cases, " ++
      toString (idsOf suite.checkedSteps).eraseDups.length ++ " steps"⟩]

/-! ### Loading -/

/-- The suite that a text holds. -/
def parse (text : String) : List Notice × Except LoadError Suite :=
  match Yaml.Document.decode? Suite.decode? text with
  | none => ([], .error .malformed)
  | some suite =>
    let notices := suite.readNotice :: suite.checkNotices
    match suite.faults with
    | [] => (notices ++ suite.passNotices, .ok suite)
    | faults => (notices, .error (.invalid faults))

/-- The suite in a file. -/
def load (path : String) (fs : FileStore) : List Notice × Except LoadError Suite :=
  let opening : Notice := ⟨.info, "Loading suite from: " ++ path⟩
  match fs.read? path with
  | .error fault => ([opening], .error (.file path fault))
  | .ok text =>
    let size : Notice := ⟨.debug, "YAML content loaded (" ++ toString text.utf8ByteSize ++ " bytes)"⟩
    let (notices, result) := parse text
    (opening :: size :: notices, result)

end Suite

end Casebook
