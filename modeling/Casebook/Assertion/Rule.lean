import Casebook.Assertion.Operator
import Casebook.Suite.Step

/-! Assertion rules and the responses they look at. -/
namespace Casebook

/-- The part of a response that a rule inspects. -/
inductive RuleKind where
  | jsonPath
  | regex
  | xpath
  | header
  | statusCode
deriving DecidableEq, Repr

def RuleKind.title : RuleKind → String
  | .jsonPath => "JSONPath"
  | .regex => "regex"
  | .xpath => "XPath"
  | .header => "header"
  | .statusCode => "status code"

structure AssertionRule where
  id : UInt64
  stepId : StepId
  kind : RuleKind
  /-- A path, a pattern or the name of a header. -/
  expression : String
  operator : Operator
  expected : Json.Value
  enabled : Bool

def AssertionRule.expectedText (r : AssertionRule) : String := r.expected.display

/-- A response as rules see it. -/
structure ResponseView where
  statusCode : UInt16
  headers : Dict String
  /-- The JSON value of the body, or its text. -/
  body : Json.Value

namespace ResponseView

/-- A header by its name, whatever the case of the ASCII letters in it. -/
def header? (name : String) (r : ResponseView) : Option String :=
  (r.headers.find? fun h => Text.asciiLower h.1 == Text.asciiLower name).map Prod.snd

/-- The body as text. -/
def bodyText (r : ResponseView) : String :=
  match r.body with
  | .string s => s
  | v => v.text

end ResponseView

end Casebook
