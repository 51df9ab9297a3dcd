import Casebook.Suite.LoopTree

/-! Where runs find cases, loop bodies, rules and environments. -/
namespace Casebook

inductive RepositoryError where
  | caseNotFound (id : CaseId)
  | environmentNotFound (id : EnvId)
  | tree (cause : LoopTree.Fault)
  | file (detail : String)
  | serialization (detail : String)
deriving DecidableEq, Repr

def RepositoryError.message : RepositoryError → String
  | .caseNotFound id => "case " ++ toString id ++ " does not exist"
  | .environmentNotFound id => "environment " ++ toString id ++ " does not exist"
  | .tree cause => "invalid foreach tree: " ++ cause.message
  | .file detail => "I/O error: " ++ detail
  | .serialization detail => "serialization error: " ++ detail

structure Repository where
  caseInfo : CaseId → Except RepositoryError CaseInfo
  steps : CaseId → Except RepositoryError (List Step)
  /-- The stored body of a foreach step. -/
  loopTree : StepId → Except RepositoryError LoopTree
  /-- The rules of a step, disabled ones among them. -/
  rules : StepId → Except RepositoryError (List AssertionRule)
  environment : EnvId → Except RepositoryError Environment

/-- A repository that serves a suite. -/
def Repository.ofSuite (s : Suite) : Repository where
  caseInfo id := (s.caseOf? id).elim (.error (.caseNotFound id)) fun c => .ok c.info
  steps id := (s.caseOf? id).elim (.error (.caseNotFound id)) fun c => .ok c.steps
  loopTree id := (LoopTree.build id (s.nodesOf id)).mapError .tree
  rules id := .ok (s.rulesOf id)
  environment id := (s.environmentOf? id).elim (.error (.environmentNotFound id)) .ok

end Casebook
