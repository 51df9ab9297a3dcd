import Casebook.Files
import Casebook.Run.Repository
import Casebook.Suite.Codec

/-! The status that each user asks of a run.  It is kept in memory, or in a JSON file that others may write too. -/
namespace Casebook

open Json

/-- Where requested statuses are kept; a user without one is waiting. -/
structure StatusChannel (σ : Type) where
  get : String → σ → Except RepositoryError Status
  set : String → Status → σ → Except RepositoryError Unit × σ

namespace StatusChannel

/-- Statuses in memory. -/
def memory : StatusChannel (Dict Status) where
  get user statuses := .ok ((Dict.get? user statuses).getD .waiting)
  set user status statuses := (.ok (), Dict.insert user status statuses)

/-- The place of the file unless another is named. -/
def defaultPath : String := ".caserunner/status.json"

/-- A status as it may be written: its name, or an object of its name with null. -/
def status? (size : Nat) : List Char → Option (Status × List Char)
  | '"' :: rest => do
    let (name, rest) ← Reader.stringTail? size [] rest
    return (← Status.ofName? name, rest)
  | '{' :: rest => do
    let ([(name, ())], rest) ← Reader.object? Reader.null? size rest | none
    return (← Status.ofName? name, rest)
  | _ => none

/-- The statuses that a text holds; a blank text holds none. -/
def statusesOf (content : String) : Except RepositoryError (Dict Status) :=
  if (Text.trim content).isEmpty then .ok []
  else match Reader.entriesOf? status? content with
    | some entries => .ok (Dict.ofList entries)
    | none => .error (.serialization "invalid run statuses")

/-- The text of statuses. -/
def textOf (statuses : Dict Status) : String :=
  (Value.object (statuses.map fun (user, s) => (user, s.toJson))).pretty

def fileError (fault : FileFault) : RepositoryError := .file fault.message

def readAll (path : String) (fs : FileStore) : Except RepositoryError (Dict Status) :=
  if fs.exists? path then ((fs.read? path).mapError fileError).bind statusesOf else .ok []

/-- Statuses in a file. -/
def file (path : String) : StatusChannel FileStore where
  get user fs := (readAll path fs).map fun statuses => (Dict.get? user statuses).getD .waiting
  set user status fs :=
    match readAll path fs with
    | .error e => (.error e, fs)
    | .ok statuses =>
      let (fs, result) := fs.writeWithin path (textOf (Dict.insert user status statuses))
      (result.mapError fileError, fs)

end StatusChannel

end Casebook
