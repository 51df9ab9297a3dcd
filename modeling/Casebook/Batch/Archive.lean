import Casebook.Files
import Casebook.Run.Repository
import Casebook.Run.ResultCodec

/-! The reports of finished cases.  Where a path is given, each save writes all reports so far to the file there. -/
namespace Casebook

structure Archive where
  path : Option String
  saved : List CaseReport

namespace Archive

def empty (path : Option String) : Archive := ⟨path, []⟩

/-- The text of a file of reports. -/
def textOf (reports : List CaseReport) : String := (Json.Value.array (reports.map CaseReport.toJson)).pretty

/-- Adds reports; they count as saved even where the file cannot be written. -/
def save (reports : List CaseReport) (a : Archive) (fs : FileStore) :
    Except RepositoryError Unit × Archive × FileStore :=
  let a := { a with saved := a.saved ++ reports }
  match a.path with
  | none => (.ok (), a, fs)
  | some path =>
    let (fs, result) := fs.writeWithin path (textOf a.saved)
    (result.mapError fun fault => .file fault.message, a, fs)

end Archive

end Casebook
