import Casebook.Run.Fault
import Casebook.Run.Result

/-! What an api step makes of its response: it captures variables, holds the response against its expectations, and
checks the assertion rules. -/
namespace Casebook

/-- The JSON value of a body, or its text. -/
def HttpResponse.document (r : HttpResponse) : Json.Value := (Json.Value.ofText? r.body).getD (.string r.body)

/-- The headers as an object with lower case names. -/
def HttpResponse.headerDocument (r : HttpResponse) : Json.Value :=
  .ofPairs (r.headers.map fun (k, v) => (Text.asciiLower k, .string v))

/-- A length of time in seconds. -/
def Duration.toFloat (d : Duration) : Float := Float.ofNat d.secs + Float.ofNat d.nanos / 1000000000.0

/-- A log with what came back. -/
def RequestLog.answered (r : HttpResponse) (log : RequestLog) : RequestLog :=
  { log with
    statusCode := some r.status
    elapsedSecs := roundCents r.elapsed.toFloat
    responseHeaders := r.headers
    response := r.document }

namespace Scope

/-- The scope with the response at hand, as expressions about it see it. -/
def withResponse (body headers : Json.Value) (s : Scope) : Scope :=
  { s with vars := (s.vars.insert "response" body).insert "headers" headers }

end Scope

namespace Json.Value

/-- Equality with all numbers compared as floats. -/
def looselyEqual (a b : Value) : Bool :=
  match a, b with
  | .number m, .number n => m.toFloat == n.toFloat
  | _, _ => a.same b

/-- Whether a text holds a text, a list an item, or an object a key. -/
def holds (whole part : Value) : Bool :=
  match whole with
  | .string s => Text.contains part.display s
  | .array items => items.any fun item => item.looselyEqual part
  | .object ms => (Dict.get? part.display ms).isSome
  | _ => false

end Json.Value

namespace ExpectRule

/-- Whether a value found stands to the expected one as the rule asks. -/
def isMet (rule : ExpectRule) (actual expected : Json.Value) : Bool :=
  match rule with
  | .equal => actual.looselyEqual expected
  | .notEqual => !actual.looselyEqual expected
  | .contain => actual.holds expected
  | .notContain => !actual.holds expected

end ExpectRule

namespace Evaluator

variable (ev : Evaluator) (index : Option Nat)

/-- The keys of a dotted path, each rendered by itself. -/
def pathKeys (path : String) (scope : Scope) : Except ResolutionError (List String) :=
  (Text.pieces "." path).mapM fun key => ev.renderText key scope index

/-- The name of a variable, and the value that an output takes from the response. -/
def outputValue (body headers : Json.Value) (entry : OutputEntry) (scope : Scope) :
    Except ResolutionError (String × Option Json.Value) := do
  let bare := String.ofList (entry.name.toList.reverse.dropWhile (· == '?')).reverse
  let name ← ev.renderText bare scope index
  let keys ← ev.pathKeys index entry.path scope
  match entry.source, keys with
  | .body, _ => return (name, body.follow? keys)
  | .headers, [] => return (name, some headers)
  | .headers, key :: rest => return (name, headers.follow? (Text.asciiLower key :: rest))

/-- Captures the entries of a table one after another, each seeing the variables before it. -/
def captureEntries (label : String) (body headers : Json.Value) :
    List OutputEntry → Json.Members → Scope → Except StepFault Json.Members × Scope
  | [], captured, scope => (.ok captured, scope)
  | entry :: rest, captured, scope =>
    match ev.outputValue index body headers entry scope with
    | .error e => (.error (.resolution .output e), scope)
    | .ok (name, some value) =>
      captureEntries label body headers rest (captured.insert name value) (scope.setVar label name value)
    | .ok (_, none) =>
      if entry.isOptional then captureEntries label body headers rest captured scope
      else (.error (.missingOutput entry.path), scope)

/-- Captures variables from a response; the variables are written also where a later one is missing. -/
def capture (outputs : Option OutputSpec) (label : String) (body headers : Json.Value) (scope : Scope) :
    Except StepFault Json.Members × Scope :=
  match outputs with
  | none => (.ok [], scope)
  | some (.table entries) => ev.captureEntries index label body headers entries [] scope
  | some (.code e) =>
    match ev.mapOf e (scope.withResponse body headers) index with
    | .ok ms => (.ok ms, scope.setVars label ms)
    | .error (.notAMap _) => (.error .outputNotMap, scope)
    | .error cause => (.error (.resolution .output cause), scope)

/-- Holds a response body against one expectation. -/
def expectEntry (body : Json.Value) (scope : Scope) (entry : ExpectEntry) : Except StepFault Unit := do
  let value ← Stage.expect.mark (ev.resolve scope index entry.value)
  let expected ← match entry.type.coerce? value with
    | some v => .ok v
    | none => .error (.resolution .expect (.coercion value entry.type))
  let keys ← Stage.expect.mark (ev.pathKeys index entry.path scope)
  match body.follow? keys with
  | none => .error (.expectation (.missingField entry.path))
  | some actual =>
    if entry.rule.isMet actual expected then .ok ()
    else .error (.expectation (.mismatch entry.rule entry.path expected.display actual.display))

/-- The refusal that the value of an expression spells out: false alone, or at the head of a list before a message. -/
def refusal? : Json.Value → Option (Option String)
  | .bool false => some none
  | .array (.bool false :: rest) => some (rest.head?.map Json.Value.display)
  | _ => none

/-- Holds a response against the expectations of a step. -/
def expects (expectations : Option ExpectSpec) (body headers : Json.Value) (scope : Scope) :
    Except StepFault Unit :=
  match expectations with
  | none => .ok ()
  | some (.table entries) => entries.forM (ev.expectEntry index body scope)
  | some (.code e) => do
    let verdict ← Stage.expect.mark (ev.value e (scope.withResponse body headers) index)
    match refusal? verdict with
    | some message => .error (.expectation (.refused message))
    | none => .ok ()

end Evaluator

/-- What an api step makes of a response: a message if it fails, the log, and the scope. -/
structure Judgement where
  message : Option String
  log : RequestLog
  scope : Scope

def failure? {α : Type} : Except StepFault α → Option String
  | .ok _ => none
  | .error fault => some fault.message

/-- Captures, expects and asserts.  A failed expectation hides what capturing said; failed assertions are put before
either. -/
def ApiParams.judge (p : ApiParams) (ev : Evaluator) (label : String) (index : Option Nat)
    (rules : Except RepositoryError (List AssertionRule)) (response : HttpResponse) (log : RequestLog)
    (scope : Scope) : Judgement :=
  let body := response.document
  let headers := response.headerDocument
  let (captured, scope) := ev.capture index p.outputs label body headers scope
  let log := { log.answered response with outputs := captured.toOption.getD [] }
  let expected := ev.expects index p.expectations body headers scope
  let message := (failure? expected).or (failure? captured)
  match rules with
  | .error cause => ⟨some (StepFault.rules cause).message, log, scope⟩
  | .ok rules =>
    let report := AssertionReport.ofRules ⟨response.status, response.headers, body⟩ rules
    let log := { log with assertions := report.results }
    if report.passed then ⟨message, log, scope⟩
    else ⟨some ("[Assert] " ++ report.summary ++ (message.map ("\n" ++ ·)).getD ""), log, scope⟩

end Casebook
