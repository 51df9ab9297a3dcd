import Casebook.Run.Fault
import Casebook.Run.Payload
import Casebook.Run.Result

/-! Making the request of an api step.  The log keeps what was settled before the first fault; the scope changes only
where the first header block of a run becomes its default headers. -/
namespace Casebook

/-- The media type of requests that name none. -/
def defaultContentType : String := "application/json"

/-- The name of the host of steps that name none. -/
def defaultHost : String := "default"

/-- A dictionary with a pair that gives way to one that is there already. -/
def Dict.insertNew {α : Type} (key : String) (value : α) (d : Dict α) : Dict α :=
  if (Dict.get? key d).isSome then d else Dict.insert key value d

/-- Headers with a content type. -/
def withContentType (headers : Dict String) : Dict String :=
  Dict.insertNew "content-type" defaultContentType headers

/-- Headers from resolved members, by lower case names. -/
def headersOf (ms : Json.Members) : Dict String :=
  withContentType (Dict.ofList (ms.map fun (k, v) => (Text.asciiLower k, v.display)))

/-- A request under construction. -/
structure Draft where
  log : RequestLog
  scope : Scope

abbrev Drafting := ExceptT StepFault (StateM Draft)

namespace ApiParams

variable (p : ApiParams) (ev : Evaluator) (index : Option Nat)

/-- The host of a step, given the URL of the environment. -/
def hostText (url : Except RepositoryError String) (scope : Scope) : Except StepFault String :=
  match p.hostSource with
  | .environment => url.mapError .environment
  | .named => do
    let name ← Stage.request.mark (ev.renderText (p.host.getD defaultHost) scope index)
    (Dict.get? name scope.host).elim (.error (.unknownHost name)) .ok
  | .literal =>
    match p.host.filter fun h => !(Text.trim h).isEmpty with
    | some h => Stage.request.mark (ev.renderText h scope index)
    | none => .ok ((Dict.get? defaultHost scope.host).getD "")

/-- The headers of a step, and the scope that they leave. -/
def resolveHeaders (scope : Scope) : Except StepFault (Dict String × Scope) :=
  match p.headers with
  | none => .ok (withContentType scope.header, scope)
  | some source => do
    let ms ← Stage.header.mark (ev.resolveMap source .regular index scope).result
    let headers := headersOf ms
    return (headers, if scope.header.isEmpty then { scope with header := headers } else scope)

def resolveQuery (scope : Scope) : Except StepFault Json.Members :=
  match p.query with
  | none => .ok []
  | some source => Stage.query.mark (ev.resolveMap source .regular index scope).result

def resolveBody (scope : Scope) : Except StepFault (Option Json.Value) :=
  match p.body with
  | none => .ok none
  | some source => (Stage.body.mark (ev.resolveParams source .regular index scope).result).map some

/-- Makes the request, given the URL of the environment. -/
def draft (url : Except RepositoryError String) (timeoutSecs : UInt64) : Drafting HttpRequest := do
  let host ← p.hostText ev index url (← get).scope
  let path ← Stage.request.mark (ev.renderText p.path (← get).scope index)
  modify fun d => { d with log := { d.log with url := host ++ path } }
  let (headers, scope) ← p.resolveHeaders ev index (← get).scope
  modify fun d => { log := { d.log with headers }, scope }
  let query ← p.resolveQuery ev index scope
  modify fun d => { d with log := { d.log with query := .object query } }
  let body ← p.resolveBody ev index scope
  modify fun d => { d with log := { d.log with body := body.getD .null } }
  return {
    method := (← get).log.method
    url := host ++ path
    headers
    query := query.map fun (k, v) => (k, v.display)
    body := body.bind fun b => payload? b ((Dict.get? "content-type" headers).getD defaultContentType)
    timeoutSecs
    followRedirects := p.followRedirects }

end ApiParams

end Casebook
