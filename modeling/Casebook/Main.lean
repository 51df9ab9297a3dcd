import Casebook.Cli.Program

/-! The program as a process: files and streams around `Cli.run`. -/
namespace Casebook.Cli

/-- The content of a file that can be read. -/
def readText? (path : String) : IO (Option String) := do
  try return some (← IO.FS.readFile path) catch _ => return none

/-- The directory that a file lies in. -/
def directoryOf (path : String) : String := "/".intercalate (Text.pieces "/" path).dropLast

/-- The files that a call of the program may read or write. -/
def pathsOf (args : List String) : List String :=
  match Command.ofArgs args with
  | .ok (.run o) => [o.suitePath, o.statusFile] ++ o.reportPath.toList
  | _ => []

def readFiles (paths : List String) : IO FileStore :=
  paths.foldlM (fun fs path => do
    match ← readText? path with
    | some content => return (fs.writeWithin path content).1
    | none => return fs) .empty

/-- Writes the files that have changed. -/
def writeFiles (paths : List String) (before after : FileStore) : IO Unit :=
  for path in paths do
    let content := (after.read? path).toOption
    if content ≠ (before.read? path).toOption then
      if let some content := content then
        let directory := directoryOf path
        unless directory.isEmpty do IO.FS.createDirAll directory
        IO.FS.writeFile path content

end Casebook.Cli

def main (args : List String) : IO UInt32 := do
  let paths := Casebook.Cli.pathsOf args
  let before ← Casebook.Cli.readFiles paths
  let outcome := Casebook.Cli.run 0 args before
  Casebook.Cli.writeFiles paths before outcome.files
  for line in outcome.errorLines (Casebook.Cli.isVerbose args) do
    IO.eprintln line
  for line in outcome.output do
    IO.println line
  return outcome.exitCode.toUInt32
