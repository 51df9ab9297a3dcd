import Casebook.Run.Result
import Casebook.Suite.Codec

/-! The JSON form of results and reports. -/
namespace Casebook

open Json (Value)
open Record

namespace RequestLog

/-- Outputs and assertions are left out when there are none. -/
def toJson (l : RequestLog) : Value :=
  .ofFields [
    ("url", some (.string l.url)),
    ("method", some (.string l.method)),
    ("headers", some (.ofTexts l.headers)),
    ("query", some l.query),
    ("body", some l.body),
    ("status_code", l.statusCode.map fun n => .ofNat n.toNat),
    ("response", some l.response),
    ("response_headers", some (.ofTexts l.responseHeaders)),
    ("elapsed_secs", some (.ofFloat l.elapsedSecs)),
    ("outputs", if l.outputs.isEmpty then none else some (.object l.outputs)),
    ("assertions", if l.assertions.isEmpty then none else some (.array (l.assertions.map AssertionResult.toJson)))]

def ofJson? : Decoder Value RequestLog := fun v => do
  let f ← fields ["url", "method", "headers", "query", "body", "status_code", "response", "response_headers",
    "elapsed_secs", "outputs", "assertions"] v
  some {
    url := ← required f "url" string
    method := ← required f "method" string
    headers := ← required f "headers" (dictOf string)
    query := ← required f "query" anyValue
    body := ← required f "body" anyValue
    statusCode := ← maybe f "status_code" uint16
    response := ← required f "response" anyValue
    responseHeaders := ← required f "response_headers" (dictOf string)
    elapsedSecs := ← required f "elapsed_secs" float
    outputs := ← required f "outputs" (dictOf anyValue)
    assertions := ← required f "assertions" (listOf AssertionResult.decode?) }

end RequestLog

namespace SqlLog

def toJson (l : SqlLog) : Value :=
  .ofFields [
    ("connection", some (.string l.connection)),
    ("database", l.database.map .string),
    ("sql", some (.string l.sql)),
    ("row_count", some (.ofUInt64 l.rowCount)),
    ("captured", l.captured.map .string)]

def ofJson? : Decoder Value SqlLog := fun v => do
  let f ← fields ["connection", "database", "sql", "row_count", "captured"] v
  some {
    connection := ← required f "connection" string
    database := ← maybe f "database" string
    sql := ← required f "sql" string
    rowCount := ← required f "row_count" uint64
    captured := ← maybe f "captured" string }

end SqlLog

mutual

def StepOutput.toJson : StepOutput → Value
  | .api log => .ofTagged "type" "data" "api" log.toJson
  | .sql log => .ofTagged "type" "data" "sql" log.toJson
  | .case results => .ofTagged "type" "data" "case" (.array (StepResult.toJsonList results))
  | .foreach iterations => .ofTagged "type" "data" "foreach" (.array (IterationResult.toJsonList iterations))

def IterationResult.toJson : IterationResult → Value
  | .mk index status steps =>
    .ofPairs [("index", .ofUInt64 index), ("status", status.toJson), ("steps", .array (StepResult.toJsonList steps))]

def IterationResult.toJsonList : List IterationResult → List Value
  | [] => []
  | i :: rest => i.toJson :: IterationResult.toJsonList rest

def StepResult.toJson : StepResult → Value
  | .mk stepId label kind status retries message output =>
    .ofFields [
      ("step_id", some (.ofUInt64 stepId)),
      ("label", some (.string label)),
      ("kind", some (.string kind)),
      ("status", some status.toJson),
      ("retried_times", some (.ofUInt32 retries)),
      ("message", message.map .string),
      ("output", match output with
        | none => none
        | some o => some o.toJson)]

def StepResult.toJsonList : List StepResult → List Value
  | [] => []
  | r :: rest => r.toJson :: StepResult.toJsonList rest

end

namespace IterationResult

/-- An iteration whose results are read by `result?`. -/
def ofJsonWith? (result? : Decoder Value StepResult) : Decoder Value IterationResult := fun v => do
  let f ← fields ["index", "status", "steps"] v
  some (.mk (← required f "index" uint64) (← required f "status" Status.decode?)
    (← required f "steps" (listOf result?)))

end IterationResult

namespace StepOutput

/-- An output whose inner results are read by `result?`. -/
def ofJsonWith? (result? : Decoder Value StepResult) : Decoder Value StepOutput := tagged "type" "data"
  [("api", fun v => (RequestLog.ofJson? v).map .api),
    ("sql", fun v => (SqlLog.ofJson? v).map .sql),
    ("case", fun v => (listOf result? v).map .case),
    ("foreach", fun v => (listOf (IterationResult.ofJsonWith? result?) v).map .foreach)]

end StepOutput

namespace StepResult

/-- A result that nests at most `depth` deep. -/
def ofJsonWithin? : Nat → Decoder Value StepResult
  | 0, _ => none
  | depth + 1, v => do
    let f ← fields ["step_id", "label", "kind", "status", "retried_times", "message", "output"] v
    some (.mk (← required f "step_id" uint64) (← required f "label" string) (← required f "kind" string)
      (← required f "status" Status.decode?) (← required f "retried_times" uint32) (← maybe f "message" string)
      (← maybe f "output" (StepOutput.ofJsonWith? (ofJsonWithin? depth))))

/-- Results nest less deep than the value that holds them. -/
def ofJson? : Decoder Value StepResult := fun v => ofJsonWithin? v.depth v

/-- Whether the JSON form of a result can be read, and gives a result of the same form. -/
def readsBack (r : StepResult) : Bool := (ofJson? r.toJson).any fun other => other.toJson.same r.toJson

end StepResult

namespace StepOutput

def ofJson? : Decoder Value StepOutput := ofJsonWith? StepResult.ofJson?

end StepOutput

namespace CaseReport

/-- The JSON form of a report, without the times of the run. -/
def toJson (r : CaseReport) : Value :=
  .ofPairs [("case_id", .ofUInt64 r.caseId),
    ("case_name", .string r.caseName),
    ("status", r.status.toJson),
    ("environment", .ofUInt64 r.environment),
    ("total_steps", .ofNat r.total),
    ("enabled_steps", .ofNat r.enabled),
    ("success_steps", .ofNat r.succeeded),
    ("success_rate", .ofFloat r.successRate),
    ("steps", .array (StepResult.toJsonList r.steps))]

end CaseReport

end Casebook
