import Casebook.Run.Transport
import Casebook.Text.Basic
import Casebook.Text.LetterCase

/-! Database drivers by name, and the file that a SQLite target opens. -/
namespace Casebook

inductive SqlDriver where
  | sqlite
  | postgres
  | mysql
deriving DecidableEq, Repr

namespace SqlDriver

/-- The driver of a name, whatever the case of its letters. -/
def ofName? (name : String) : Option SqlDriver :=
  [("sqlite", .sqlite), ("sqlite3", .sqlite), ("postgres", .postgres), ("postgresql", .postgres),
    ("mysql", .mysql), ("mariadb", .mysql)].lookup (Text.asciiLower name)

end SqlDriver

/-- What follows a prefix, or the text itself. -/
def Text.withoutPrefix (start s : String) : Option String :=
  if start.toList.isPrefixOf s.toList then some (String.ofList (s.toList.drop start.length)) else none

namespace ConnectionTarget

/-- The file of a SQLite target: its database, or else its URL without the scheme. -/
def sqlitePath (t : ConnectionTarget) : String :=
  match t.database.filter fun d => !d.isEmpty with
  | some d => d
  | none =>
    ((Text.withoutPrefix "sqlite://" t.url).or (Text.withoutPrefix "sqlite:" t.url)).getD t.url

end ConnectionTarget

/-- Where a SQLite database lives. -/
inductive SqlitePlace where
  /-- In memory, or in a file that vanishes. -/
  | transient
  | file (path : String)
deriving DecidableEq, Repr

def SqlitePlace.ofPath (path : String) : SqlitePlace :=
  if path = ":memory:" ∨ path = "" then .transient else .file path

/-- The name of a file that lies directly in the working directory. -/
def localName? (path : String) : Option String :=
  match (Text.pieces "/" path).filter fun part => part != "." with
  | [name] => if name.isEmpty ∨ name = ".." then none else some name
  | _ => none

/-- Opens a target in a directory without subdirectories: the name of the file that this creates, if it creates one.
Servers are out of reach. -/
def ConnectionTarget.open (t : ConnectionTarget) : Except SqlError (Option String) :=
  match SqlDriver.ofName? t.driver with
  | none => .error (.noDriver t.driver)
  | some .sqlite =>
    match SqlitePlace.ofPath t.sqlitePath with
    | .transient => .ok none
    | .file path =>
      match localName? path with
      | some name => .ok (some name)
      | none => .error (.connect ("unable to open database file: " ++ path))
  | some _ => .error (.connect ("invalid connection URL: " ++ t.url))

/-- Whether statements can still be sent over a connection. -/
structure SqlConnection where
  isOpen : Bool
deriving DecidableEq, Repr

namespace SqlConnection

def opened : SqlConnection := ⟨true⟩

/-- Closing again changes nothing. -/
def close (_ : SqlConnection) : SqlConnection := ⟨false⟩

/-- Why a connection refuses all statements. -/
def refusal? (c : SqlConnection) : Option SqlError := if c.isOpen then none else some .closed

end SqlConnection

end Casebook
