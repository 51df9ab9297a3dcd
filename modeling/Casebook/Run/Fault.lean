import Casebook.Run.Repository
import Casebook.Run.Transport

/-! What makes a step fail. -/
namespace Casebook

/-- A stage of a step. -/
inductive Stage where
  | vars
  | request
  | header
  | query
  | body
  | output
  | expect
  | assert
  | sql
deriving DecidableEq, Repr

def Stage.tag : Stage → String
  | .vars => "[Variables]"
  | .request => "[Request]"
  | .header => "[Header]"
  | .query => "[Query]"
  | .body => "[Body]"
  | .output => "[Output]"
  | .expect => "[Expect]"
  | .assert => "[Assert]"
  | .sql => "[SQL]"

/-- Why a response is not what was expected. -/
inductive ExpectFault where
  | missingField (path : String)
  /-- The values do not stand in the relation that the rule asks for. -/
  | mismatch (rule : ExpectRule) (path expected actual : String)
  /-- An expression decided so, perhaps with a message. -/
  | refused (message : Option String)
deriving DecidableEq, Repr

def ExpectFault.message : ExpectFault → String
  | .missingField path => "field not found in response: " ++ path
  | .mismatch .equal path expected actual =>
    path ++ ": expected value " ++ expected ++ " is not equal to the response value " ++ actual
  | .mismatch .notEqual path expected actual =>
    path ++ ": expected value " ++ expected ++ " equals the response value " ++ actual ++ " (expected not equal)"
  | .mismatch .contain path expected actual =>
    path ++ ": response value " ++ actual ++ " does not contain expected value " ++ expected
  | .mismatch .notContain path expected actual =>
    path ++ ": response value " ++ actual ++ " contains expected value " ++ expected ++
      " (expected not to contain)"
  | .refused message => message.getD "response did not meet the expectation"

inductive StepFault where
  | resolution (stage : Stage) (cause : ResolutionError)
  | environment (cause : RepositoryError)
  | unknownHost (name : String)
  | http (cause : HttpError)
  | sql (cause : SqlError)
  /-- The status of a response is none of success. -/
  | status (code : UInt16)
  | missingOutput (path : String)
  | outputNotMap
  | expectation (cause : ExpectFault)
  | rules (cause : RepositoryError)

def StepFault.message : StepFault → String
  | .resolution stage cause => stage.tag ++ " " ++ cause.message
  | .environment cause => "[Environment] " ++ cause.message
  | .unknownHost name => "[Request] unknown host '" ++ name ++ "'"
  | .http cause => cause.message
  | .sql cause => cause.message
  | .status code =>
    if code = 404 then "request path does not exist" else "unexpected response status: " ++ toString code
  | .missingOutput path => "[Output] " ++ path ++ ": not found in response"
  | .outputNotMap => "[Output] returned data format does not meet requirements"
  | .expectation cause => "[Expect] " ++ cause.message
  | .rules cause => "[Assert] " ++ cause.message

/-- Says in which stage something could not be resolved. -/
def Stage.mark {α : Type} (stage : Stage) (r : Except ResolutionError α) : Except StepFault α :=
  r.mapError (.resolution stage)

end Casebook
