import Casebook.Assertion.Report
import Casebook.Record
import Casebook.Suite.Basic

/-! The JSON form of suites and their parts, and how they are read from any notation. -/
namespace Casebook

open Json (Value)
open Record

variable {ν : Type} [Source ν]

/-! ### Words -/

namespace Status

def toJson (s : Status) : Value := .string s.name

def decode? : Decoder ν Status := choice (all.map fun s => (s.name, s))

end Status

namespace ValueType

def toJson (t : ValueType) : Value := .string t.name

def decode? : Decoder ν ValueType := choice (all.map fun t => (t.name, t))

end ValueType

namespace HostSource

def name : HostSource → String
  | .literal => "literal"
  | .environment => "environment"
  | .named => "named"

def decode? : Decoder ν HostSource := choice ([.literal, .environment, .named].map fun s => (name s, s))

end HostSource

namespace ResponsePart

def name : ResponsePart → String
  | .body => "body"
  | .headers => "headers"

def decode? : Decoder ν ResponsePart := choice ([.body, .headers].map fun p => (name p, p))

end ResponsePart

namespace ExpectRule

def name : ExpectRule → String
  | .equal => "equal"
  | .notEqual => "not_equal"
  | .contain => "contain"
  | .notContain => "not_contain"

def decode? : Decoder ν ExpectRule := choice ([.equal, .notEqual, .contain, .notContain].map fun r => (name r, r))

end ExpectRule

namespace Operator

def toJson (o : Operator) : Value := .string o.name

def decode? : Decoder ν Operator := choice (all.map fun o => (o.name, o))

end Operator

namespace RuleKind

def name : RuleKind → String
  | .jsonPath => "jsonpath"
  | .regex => "regex"
  | .xpath => "xpath"
  | .header => "header"
  | .statusCode => "status_code"

def toJson (k : RuleKind) : Value := .string k.name

def decode? : Decoder ν RuleKind := choice ([.jsonPath, .regex, .xpath, .header, .statusCode].map fun k => (name k, k))

end RuleKind

/-! ### Parameters -/

namespace ParamEntry

def toJson (e : ParamEntry) : Value :=
  .ofPairs [("name", .string e.name), ("value", e.value), ("type", e.type.toJson)]

def decode? : Decoder ν ParamEntry := fun v => do
  let f ← fields ["name", "value", "type"] v
  some {
    name := ← required f "name" string
    value := ← withDefault f "value" anyValue .null
    type := ← withDefault f "type" ValueType.decode? .auto }

end ParamEntry

namespace ParamSource

def toJson : ParamSource → Value
  | .table rows => .ofTagged "mode" "data" "table" (.array (rows.map ParamEntry.toJson))
  | .json v => .ofTagged "mode" "data" "json" v
  | .text s => .ofTagged "mode" "data" "text" (.string s)
  | .code e => .ofTagged "mode" "data" "code" (.string e)

def decode? : Decoder ν ParamSource := tagged "mode" "data"
  [("table", fun v => (listOf ParamEntry.decode? v).map .table),
    ("json", fun v => (anyValue v).map .json),
    ("text", fun v => (string v).map .text),
    ("code", fun v => (string v).map .code)]

end ParamSource

namespace OutputEntry

def toJson (e : OutputEntry) : Value :=
  .ofPairs [("name", .string e.name), ("path", .string e.path), ("source", .string e.source.name)]

def decode? : Decoder ν OutputEntry := fun v => do
  let f ← fields ["name", "path", "source"] v
  some {
    name := ← required f "name" string
    path := ← required f "path" string
    source := ← withDefault f "source" ResponsePart.decode? .body }

end OutputEntry

namespace OutputSpec

def toJson : OutputSpec → Value
  | .table es => .ofTagged "mode" "data" "table" (.array (es.map OutputEntry.toJson))
  | .code e => .ofTagged "mode" "data" "code" (.string e)

def decode? : Decoder ν OutputSpec := tagged "mode" "data"
  [("table", fun v => (listOf OutputEntry.decode? v).map .table), ("code", fun v => (string v).map .code)]

end OutputSpec

namespace ExpectEntry

def toJson (e : ExpectEntry) : Value :=
  .ofPairs [("path", .string e.path), ("value", e.value), ("type", e.type.toJson),
    ("rule", .string e.rule.name)]

def decode? : Decoder ν ExpectEntry := fun v => do
  let f ← fields ["path", "value", "type", "rule"] v
  some {
    path := ← required f "path" string
    value := ← required f "value" anyValue
    type := ← withDefault f "type" ValueType.decode? .auto
    rule := ← withDefault f "rule" ExpectRule.decode? .equal }

end ExpectEntry

namespace ExpectSpec

def toJson : ExpectSpec → Value
  | .table es => .ofTagged "mode" "data" "table" (.array (es.map ExpectEntry.toJson))
  | .code e => .ofTagged "mode" "data" "code" (.string e)

def decode? : Decoder ν ExpectSpec := tagged "mode" "data"
  [("table", fun v => (listOf ExpectEntry.decode? v).map .table), ("code", fun v => (string v).map .code)]

end ExpectSpec

namespace ApiParams

def toJson (p : ApiParams) : Value :=
  .ofFields [
    ("method", some (.string p.method)),
    ("path", some (.string p.path)),
    ("host", p.host.map .string),
    ("host_source", some (.string p.hostSource.name)),
    ("variables", p.vars.map ParamSource.toJson),
    ("headers", p.headers.map ParamSource.toJson),
    ("query", p.query.map ParamSource.toJson),
    ("body", p.body.map ParamSource.toJson),
    ("outputs", p.outputs.map OutputSpec.toJson),
    ("expectations", p.expectations.map ExpectSpec.toJson),
    ("follow_redirects", some (.bool p.followRedirects))]

def decode? : Decoder ν ApiParams := fun v => do
  let f ← fields ["method", "path", "host", "host_source", "variables", "headers", "query", "body", "outputs",
    "expectations", "follow_redirects"] v
  some {
    method := ← withDefault f "method" string "GET"
    path := ← withDefault f "path" string ""
    host := ← maybe f "host" string
    hostSource := ← withDefault f "host_source" HostSource.decode? .literal
    vars := ← maybe f "variables" ParamSource.decode?
    headers := ← maybe f "headers" ParamSource.decode?
    query := ← maybe f "query" ParamSource.decode?
    body := ← maybe f "body" ParamSource.decode?
    outputs := ← maybe f "outputs" OutputSpec.decode?
    expectations := ← maybe f "expectations" ExpectSpec.decode?
    followRedirects := ← withDefault f "follow_redirects" bool true }

end ApiParams

namespace SqlParams

def toJson (p : SqlParams) : Value :=
  .ofFields [
    ("connection", some (.string p.connection)),
    ("database", p.database.map .string),
    ("sql", some (.string p.sql)),
    ("capture_var", p.captureVar.map .string)]

def decode? : Decoder ν SqlParams := fun v => do
  let f ← fields ["connection", "database", "sql", "capture_var"] v
  some {
    connection := ← required f "connection" string
    database := ← maybe f "database" string
    sql := ← required f "sql" string
    captureVar := ← maybe f "capture_var" string }

end SqlParams

/-! ### Steps -/

namespace Controller

def toJson (c : Controller) : Value :=
  .ofFields [
    ("retry_count", some (.ofUInt32 c.retryCount)),
    ("retry_interval_secs", some (.ofFloat c.retryInterval)),
    ("run_condition", c.runCondition.map .string),
    ("sleep_secs", c.sleep.map .ofFloat)]

def decode? : Decoder ν Controller := fun v => do
  let f ← fields ["retry_count", "retry_interval_secs", "run_condition", "sleep_secs"] v
  some {
    retryCount := ← withDefault f "retry_count" uint32 0
    retryInterval := ← withDefault f "retry_interval_secs" float 0.0
    runCondition := ← maybe f "run_condition" string
    sleep := ← maybe f "sleep_secs" float }

end Controller

namespace StepHead

/-- The fields of a head; they stand beside the kind of the step. -/
def jsonFields (h : StepHead) : List (String × Option Value) :=
  [("id", some (.ofUInt64 h.id)),
    ("name", some (.string h.name)),
    ("order", some (.ofUInt32 h.order)),
    ("enabled", some (.bool h.enabled)),
    ("controller", some h.controller.toJson),
    ("timeout_secs", h.timeoutSecs.map .ofUInt64)]

def fieldNames : List String := ["id", "name", "order", "enabled", "controller", "timeout_secs"]

def ofFields? (f : Fields ν) : Option StepHead := do
  some {
    id := ← required f "id" uint64
    name := ← withDefault f "name" string ""
    order := ← withDefault f "order" uint32 0
    enabled := ← withDefault f "enabled" bool true
    controller := ← withDefault f "controller" Controller.decode? .default
    timeoutSecs := ← maybe f "timeout_secs" uint64 }

end StepHead

namespace Step

/-- The fields of a step: those of its head, its kind and its parameters. -/
def assemble (h : StepHead) (kind : StepKind) (params : Value) : List (String × Option Value) :=
  h.jsonFields ++ [("type", some (.string kind.name)), ("params", some params)]

mutual

def jsonFields : Step → List (String × Option Value)
  | .api h p => assemble h .api p.toJson
  | .sql h p => assemble h .sql p.toJson
  | .caseRef h c => assemble h .caseRef (.ofPairs [("case_id", .ofUInt64 c)])
  | .foreach h times breakCondition steps =>
    let inner := toJsonList steps
    assemble h .foreach (.ofFields [
      ("times", some times),
      ("break_condition", breakCondition.map .string),
      ("steps", if inner.isEmpty then none else some (.array inner))])

def toJson (s : Step) : Value := .ofFields (jsonFields s)

def toJsonList : List Step → List Value
  | [] => []
  | s :: rest => .ofFields (jsonFields s) :: toJsonList rest

end

/-- A step in need of a head, from its kind and parameters; `steps?` reads the steps inside a loop. -/
def ofKind? (steps? : Decoder ν (List Step)) : Decoder ν (StepHead → Step) := tagged "type" "params"
  [("api", fun v => (ApiParams.decode? v).map fun p h => .api h p),
    ("sql", fun v => (SqlParams.decode? v).map fun p h => .sql h p),
    ("case_ref", fun v => do
      let f ← fields ["case_id"] v
      let c ← required f "case_id" uint64
      some fun h => .caseRef h c),
    ("foreach", fun v => do
      let f ← fields ["times", "break_condition", "steps"] v
      let times ← required f "times" anyValue
      let breakCondition ← maybe f "break_condition" string
      let steps ← withDefault f "steps" steps? []
      some fun h => .foreach h times breakCondition steps)]

/-- A step whose head stands beside its kind, with loops at most `depth` deep. -/
def decodeWithin? : Nat → Decoder ν Step
  | 0, _ => none
  | depth + 1, v => do
    let (f, rest) ← Source.split? StepHead.fieldNames v
    let head ← StepHead.ofFields? f
    let make ← ofKind? (listOf (decodeWithin? depth)) rest
    some (make head)

/-- Loops nest less deep than the value that holds them. -/
def decode? : Decoder ν Step := fun v => decodeWithin? (Source.depth v) v

/-- A step in need of a head. -/
def decodeKind? : Decoder ν (StepHead → Step) := ofKind? (listOf decode?)

end Step

namespace TreeNode

def toJson (n : TreeNode) : Value :=
  .ofFields (("owner_step_id", some (.ofUInt64 n.owner)) :: ("parent_id", n.parent.map .ofUInt64) ::
    n.step.jsonFields)

def decode? : Decoder ν TreeNode := fun v => do
  let (f, rest) ← Source.split? ["owner_step_id", "parent_id"] v
  some {
    owner := ← required f "owner_step_id" uint64
    parent := ← maybe f "parent_id" uint64
    step := ← Step.decode? rest }

end TreeNode

/-! ### Suites -/

namespace ConnectionTarget

def toJson (t : ConnectionTarget) : Value :=
  .ofFields [("driver", some (.string t.driver)), ("url", some (.string t.url)),
    ("database", t.database.map .string)]

def decode? : Decoder ν ConnectionTarget := fun v => do
  let f ← fields ["driver", "url", "database"] v
  some {
    driver := ← required f "driver" string
    url := ← required f "url" string
    database := ← maybe f "database" string }

end ConnectionTarget

namespace Environment

def toJson (e : Environment) : Value :=
  .ofFields [
    ("id", some (.ofUInt64 e.id)),
    ("name", some (.string e.name)),
    ("url", some (.string e.url)),
    ("databases", if e.databases.isEmpty then none
      else some (.object (e.databases.map fun (k, t) => (k, t.toJson))))]

def decode? : Decoder ν Environment := fun v => do
  let f ← fields ["id", "name", "url", "databases"] v
  some {
    id := ← required f "id" uint64
    name := ← withDefault f "name" string ""
    url := ← withDefault f "url" string ""
    databases := ← withDefault f "databases" (dictOf ConnectionTarget.decode?) [] }

end Environment

namespace CaseInfo

def toJson (c : CaseInfo) : Value :=
  .ofPairs [("id", .ofUInt64 c.id), ("name", .string c.name),
    ("env_id", (c.envId.map Value.ofUInt64).getD .null)]

end CaseInfo

namespace Case

def toJson (c : Case) : Value :=
  .ofFields [
    ("id", some (.ofUInt64 c.id)),
    ("name", some (.string c.name)),
    ("env", c.env.map .ofUInt64),
    ("steps", some (.array (Step.toJsonList c.steps)))]

def decode? : Decoder ν Case := fun v => do
  let f ← fields ["id", "name", "env", "steps"] v
  some {
    id := ← required f "id" uint64
    name := ← withDefault f "name" string ""
    env := ← maybe f "env" uint64
    steps := ← withDefault f "steps" (listOf Step.decode?) [] }

end Case

namespace AssertionRule

def toJson (r : AssertionRule) : Value :=
  .ofPairs [
    ("id", .ofUInt64 r.id),
    ("step_id", .ofUInt64 r.stepId),
    ("type", r.kind.toJson),
    ("expression", .string r.expression),
    ("operator", r.operator.toJson),
    ("expected_value", r.expected),
    ("enabled", .bool r.enabled)]

def decode? : Decoder ν AssertionRule := fun v => do
  let f ← fields ["id", "step_id", "type", "expression", "operator", "expected_value", "enabled"] v
  some {
    id := ← required f "id" uint64
    stepId := ← required f "step_id" uint64
    kind := ← required f "type" RuleKind.decode?
    expression := ← withDefault f "expression" string ""
    operator := ← required f "operator" Operator.decode?
    expected := ← withDefault f "expected_value" anyValue .null
    enabled := ← withDefault f "enabled" bool true }

end AssertionRule

namespace ResponseView

def decode? : Decoder ν ResponseView := fun v => do
  let f ← fields ["status_code", "headers", "body"] v
  some {
    statusCode := ← required f "status_code" uint16
    headers := ← required f "headers" (dictOf string)
    body := ← required f "body" anyValue }

end ResponseView

namespace AssertionResult

def toJson (r : AssertionResult) : Value :=
  .ofFields [
    ("rule_id", some (.ofUInt64 r.ruleId)),
    ("type", some r.kind.toJson),
    ("expression", some (.string r.expression)),
    ("operator", some r.operator.toJson),
    ("expected_value", some r.expected),
    ("passed", some (.bool r.passed)),
    ("actual_value", r.actual),
    ("message", some (.string r.message))]

def decode? : Decoder ν AssertionResult := fun v => do
  let f ← fields ["rule_id", "type", "expression", "operator", "expected_value", "passed", "actual_value", "message"] v
  some {
    ruleId := ← required f "rule_id" uint64
    kind := ← required f "type" RuleKind.decode?
    expression := ← required f "expression" string
    operator := ← required f "operator" Operator.decode?
    expected := ← required f "expected_value" anyValue
    passed := ← required f "passed" bool
    actual := ← maybe f "actual_value" anyValue
    message := ← required f "message" string }

end AssertionResult

namespace AssertionReport

def toJson (r : AssertionReport) : Value :=
  .ofPairs [("passed", .bool r.passed), ("results", .array (r.results.map AssertionResult.toJson)),
    ("summary", .string r.summary)]

end AssertionReport

namespace CascadeLimits

def toJson (l : CascadeLimits) : Value :=
  .ofPairs [("case_ref", .ofUInt32 l.caseRef), ("foreach", .ofUInt32 l.foreach)]

def decode? : Decoder ν CascadeLimits := fun v => do
  let f ← fields ["case_ref", "foreach"] v
  some {
    caseRef := ← withDefault f "case_ref" uint32 CascadeLimits.default.caseRef
    foreach := ← withDefault f "foreach" uint32 CascadeLimits.default.foreach }

end CascadeLimits

namespace RunConfig

def toJson (c : RunConfig) : Value :=
  .ofPairs [
    ("env_id", (c.envId.map Value.ofUInt64).getD .null),
    ("failed_stop", .bool c.failedStop),
    ("only_failed_log", .bool c.onlyFailedLog),
    ("parallel", .bool c.parallel),
    ("default_timeout_secs", .ofUInt64 c.defaultTimeoutSecs),
    ("max_workers", .ofUInt64 c.maxWorkers),
    ("limits", c.limits.toJson),
    ("poll_interval_secs", .ofFloat c.pollIntervalSecs)]

def decode? : Decoder ν RunConfig := fun v => do
  let f ← fields ["env_id", "failed_stop", "only_failed_log", "parallel", "default_timeout_secs", "max_workers",
    "limits", "poll_interval_secs"] v
  let d := RunConfig.default
  some {
    envId := ← maybe f "env_id" uint64
    failedStop := ← withDefault f "failed_stop" bool d.failedStop
    onlyFailedLog := ← withDefault f "only_failed_log" bool d.onlyFailedLog
    parallel := ← withDefault f "parallel" bool d.parallel
    defaultTimeoutSecs := ← withDefault f "default_timeout_secs" uint64 d.defaultTimeoutSecs
    maxWorkers := ← withDefault f "max_workers" uint64 d.maxWorkers
    limits := ← withDefault f "limits" CascadeLimits.decode? d.limits
    pollIntervalSecs := ← withDefault f "poll_interval_secs" float d.pollIntervalSecs }

end RunConfig

namespace Suite

def toJson (s : Suite) : Value :=
  .ofPairs [
    ("config", s.config.toJson),
    ("environments", .array (s.environments.map Environment.toJson)),
    ("variables", .object s.vars),
    ("cases", .array (s.cases.map Case.toJson)),
    ("foreach_steps", .array (s.foreachSteps.map TreeNode.toJson)),
    ("assertions", .array (s.assertions.map AssertionRule.toJson))]

def decode? : Decoder ν Suite := fun v => do
  let f ← fields ["config", "environments", "variables", "cases", "foreach_steps", "assertions"] v
  some {
    config := ← withDefault f "config" RunConfig.decode? .default
    environments := ← withDefault f "environments" (listOf Environment.decode?) []
    vars := ← withDefault f "variables" (dictOf anyValue) []
    cases := ← withDefault f "cases" (listOf Case.decode?) []
    foreachSteps := ← withDefault f "foreach_steps" (listOf TreeNode.decode?) []
    assertions := ← withDefault f "assertions" (listOf AssertionRule.decode?) [] }

end Suite

/-! ### Scopes -/

namespace Scope

def toJson (s : Scope) : Value :=
  .ofPairs [
    ("header", .ofTexts s.header),
    ("var", .object s.vars),
    ("host", .ofTexts s.host),
    ("provenance", .object (s.provenance.map fun (k, p) =>
      (k, .ofPairs [("step_label", .string p.stepLabel), ("value_type", .string p.valueType)])))]

end Scope

end Casebook
