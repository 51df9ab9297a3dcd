import Casebook.Assertion.Rule
import Casebook.Json.Path
import Casebook.Json.Reader
import Casebook.Markup.XPath
import Casebook.Pattern.Search

/-! Checking a response against rules.  Each enabled rule gives one result, which depends on that rule and the response
alone; a rule that cannot be evaluated counts as failed. -/
namespace Casebook

/-- Why nothing could be taken from a response. -/
inductive ExtractionFault where
  | bodyNotJson
  | bodyNotMarkup
  | invalidPattern (pattern : String)
  | unreadable (message : String)

def ExtractionFault.message : ExtractionFault → String
  | .bodyNotJson => "response body is not valid JSON"
  | .bodyNotMarkup => "response body is not HTML/XML"
  | .invalidPattern p => "invalid regex '" ++ p ++ "'"
  | .unreadable message => message

namespace ResponseView

/-- The body as a JSON document. -/
def document? (r : ResponseView) : Option Json.Value :=
  match r.body with
  | .string s => Json.Value.ofText? s
  | v => some v

/-- The value of the first match of a pattern: the match without groups, the text of a single group, or the texts of
all groups. -/
def matchValue : List (Option String) → Json.Value
  | [whole] => .string (whole.getD "")
  | [_, group] => .string (group.getD "")
  | all => .array (all.tail.map fun g => .string (g.getD ""))

/-- The value that a rule looks at; none if nothing is there. -/
def extract (r : ResponseView) (rule : AssertionRule) : Except ExtractionFault (Option Json.Value) :=
  match rule.kind with
  | .jsonPath =>
    match r.document? with
    | none => .error .bodyNotJson
    | some doc => (doc.selectText rule.expression).mapError .unreadable |>.map List.head?
  | .regex =>
    match Pattern.Node.ofText? rule.expression with
    | none => .error (.invalidPattern rule.expression)
    | some p => .ok ((p.captures? r.bodyText).map matchValue)
  | .xpath =>
    match r.body with
    | .string body => (Markup.selectText rule.expression body).mapError .unreadable |>.map fun found =>
        found.head?.map fun t => (t.map Json.Value.string).getD .null
    | _ => .error .bodyNotMarkup
  | .header => .ok ((r.header? rule.expression).map .string)
  | .statusCode => .ok (some (.ofNat r.statusCode.toNat))

end ResponseView

/-- What became of a rule. -/
structure AssertionResult where
  ruleId : UInt64
  kind : RuleKind
  expression : String
  operator : Operator
  expected : Json.Value
  passed : Bool
  /-- The value that was found, if one was. -/
  actual : Option Json.Value
  message : String

structure AssertionReport where
  passed : Bool
  results : List AssertionResult
  summary : String

namespace AssertionRule

/-- What a rule speaks of. -/
def subject (rule : AssertionRule) : String :=
  match rule.kind with
  | .statusCode => "status code"
  | kind => kind.title ++ " '" ++ rule.expression ++ "'"

/-- Whether an operator makes sense of a value that is missing. -/
def acceptsMissing (rule : AssertionRule) : Bool :=
  rule.operator == .null || rule.operator == .empty

/-- The outcome of a rule on what was found: whether it passed, the value, and a message. -/
def judge (rule : AssertionRule) : Except ExtractionFault (Option Json.Value) → Bool × Option Json.Value × String
  | .error e => (false, none, rule.kind.title ++ " assertion error: " ++ e.message)
  | .ok actual =>
    if actual.isNone && !rule.acceptsMissing then (false, none, rule.subject ++ " matched nothing")
    else
      let relation := rule.subject ++ " " ++ rule.operator.name ++ " " ++ rule.expectedText
      if rule.operator.holds actual rule.expectedText then (true, actual, "assertion passed: " ++ relation)
      else
        (false, actual, "assertion failed: expected " ++ relation ++ ", actual " ++
          (actual.map Json.Value.display).getD "None")

def evaluate (rule : AssertionRule) (response : ResponseView) : AssertionResult :=
  let (passed, actual, message) := rule.judge (response.extract rule)
  { ruleId := rule.id, kind := rule.kind, expression := rule.expression, operator := rule.operator,
    expected := rule.expected, passed, actual, message }

/-- The enabled rules by ascending number, equal ones as they came. -/
def active (rules : List AssertionRule) : List AssertionRule :=
  (rules.filter AssertionRule.enabled).mergeSort fun a b => a.id ≤ b.id

end AssertionRule

namespace AssertionReport

def ofResults (results : List AssertionResult) : AssertionReport :=
  let failed := results.countP fun r => !r.passed
  let total := toString results.length
  { passed := failed == 0
    results
    summary :=
      if results.isEmpty then "no assertion rules"
      else if failed = 0 then "all assertions passed (" ++ total ++ ")"
      else "assertions failed: " ++ toString failed ++ "/" ++ total ++ " failed" }

/-- The report of all enabled rules. -/
def ofRules (response : ResponseView) (rules : List AssertionRule) : AssertionReport :=
  ofResults ((AssertionRule.active rules).map fun rule => rule.evaluate response)

end AssertionReport

end Casebook
