import Casebook.Run.Notice
import Casebook.Suite.Basic

/-! The outside world of a run: HTTP servers and databases.  A transport answers each call from a state of its own,
so an answer may depend on all calls before it. -/
namespace Casebook

/-- A request with nothing left to resolve. -/
structure HttpRequest where
  method : String
  url : String
  headers : Dict String
  query : List (String × String)
  body : Option String
  timeoutSecs : UInt64
  followRedirects : Bool
deriving DecidableEq, Repr

structure HttpResponse where
  status : UInt16
  headers : Dict String
  body : String
  elapsed : Duration
deriving DecidableEq, Repr

/-- Whether a status lies between 200 and 299. -/
def HttpResponse.isSuccess (r : HttpResponse) : Bool := 200 ≤ r.status && r.status < 300

inductive HttpError where
  | timeout
  | invalidAddress (detail : String)
  | missingAddress
  | other (detail : String)
deriving DecidableEq, Repr

def HttpError.message : HttpError → String
  | .timeout => "request timed out"
  | .invalidAddress detail => "invalid request address: " ++ detail
  | .missingAddress => "request address must not be empty"
  | .other detail => "request failed: " ++ detail

inductive SqlError where
  | unknownTarget (name : String) (environment : EnvId)
  | noDriver (driver : String)
  | connect (detail : String)
  | query (detail : String)
  | closed
deriving DecidableEq, Repr

def SqlError.message : SqlError → String
  | .unknownTarget name env =>
    "invalid connection: '" ++ name ++ "' is not defined for environment " ++ toString env
  | .noDriver driver => "no SQL driver configured for '" ++ driver ++ "'"
  | .connect detail => "database connection failed: " ++ detail
  | .query detail => "SQL execution failed: " ++ detail
  | .closed => "connection already closed"

/-- The rows of a statement, each by the names of its columns. -/
abbrev Rows := List Json.Members

/-- An answer from outside.  The stop token of the run may be tripped meanwhile. -/
structure Reply (α : Type) where
  answer : α
  trips : Bool
  notices : List Notice

/-- An answer that leaves the stop token alone. -/
def Reply.quiet {α : Type} (answer : α) : Reply α := ⟨answer, false, []⟩

structure Transport (σ : Type) where
  /-- Sends a request; without an answer the transport itself has broken down. -/
  http : HttpRequest → σ → Reply (Option (Except HttpError HttpResponse)) × σ
  connect : ConnectionTarget → σ → Reply (Except SqlError Unit) × σ
  execute : ConnectionTarget → String → σ → Reply (Except SqlError Rows) × σ
  close : ConnectionTarget → σ → Reply (Except SqlError Unit) × σ

/-- A call on the outside world. -/
inductive Call where
  | http (request : HttpRequest)
  | connect (target : ConnectionTarget)
  | execute (sql : String)
  | close
deriving DecidableEq, Repr

end Casebook
