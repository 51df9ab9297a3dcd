import Casebook.Run.Repository

/-! Which cases a batch admits.  All of them must exist and have an environment before any of them runs. -/
namespace Casebook

/-- A case that is ready to run. -/
structure CasePlan where
  info : CaseInfo
  envId : EnvId
deriving DecidableEq, Repr

def CasePlan.label (p : CasePlan) : String := "#" ++ toString p.info.id ++ " " ++ p.info.name

inductive BatchError where
  | empty
  | unknownCase (id : CaseId)
  | missingEnvironment (id : CaseId)
  | repository (cause : RepositoryError)
  /-- The status of the user could not be set to running. -/
  | status (cause : RepositoryError)
  | save (cause : RepositoryError)
  /-- No length of time is as long as the time between two looks at the status. -/
  | pollInterval
deriving DecidableEq, Repr

def BatchError.message : BatchError → String
  | .empty => "no cases selected"
  | .unknownCase id => "case " ++ toString id ++ " does not exist"
  | .missingEnvironment id => "case " ++ toString id ++ " has no environment"
  | .repository cause => cause.message
  | .status cause => "run status channel: " ++ cause.message
  | .save cause => "failed to save run results: " ++ cause.message
  | .pollInterval => "poll interval out of range"

namespace CasePlan

/-- Admits a case; the environment of the settings goes before that of the case. -/
def ofId (repository : Repository) (override : Option EnvId) (id : CaseId) : Except BatchError CasePlan :=
  match repository.caseInfo id with
  | .error (.caseNotFound _) => .error (.unknownCase id)
  | .error cause => .error (.repository cause)
  | .ok info =>
    match override.or info.envId with
    | some envId => .ok ⟨info, envId⟩
    | none => .error (.missingEnvironment id)

/-- Admits the cases of a batch; the first fault counts. -/
def ofIds (repository : Repository) (override : Option EnvId) (ids : List CaseId) :
    Except BatchError (List CasePlan) :=
  if ids.isEmpty then .error .empty else ids.mapM (ofId repository override)

/-- A warning where the cases of a batch run in different environments. -/
def environmentWarning? (plans : List CasePlan) : Option String :=
  let envs := (plans.map CasePlan.envId).mergeSort.eraseDups
  if 1 < envs.length then
    some ("selected cases use different environments: " ++ ", ".intercalate (envs.map toString))
  else none

end CasePlan

end Casebook
