import Casebook.Text.Basic

/-! Files in directories below a working directory. -/
namespace Casebook

/-- The names on the way from the working directory. -/
abbrev Place := List String

inductive FileFault where
  | missing
  | taken
  | notDirectory
  | isDirectory
deriving DecidableEq, Repr

def FileFault.message : FileFault → String
  | .missing => "No such file or directory (os error 2)"
  | .taken => "File exists (os error 17)"
  | .notDirectory => "Not a directory (os error 20)"
  | .isDirectory => "Is a directory (os error 21)"

/-- Goes one name further; two points go back. -/
def Place.enter (p : Place) (name : String) : Place :=
  if name = "" ∨ name = "." then p
  else if name = ".." then p.dropLast
  else p ++ [name]

def Place.ofPath (path : String) : Place := (Text.pieces "/" path).foldl Place.enter []

/-- The places on the way to a place, nearest first, without the place itself. -/
def Place.ancestors (p : Place) : List Place := (List.range (p.length - 1)).map fun n => p.take (n + 1)

structure FileStore where
  files : List (Place × String)
  directories : List Place
deriving DecidableEq, Repr

namespace FileStore

def empty : FileStore := ⟨[], []⟩

variable (fs : FileStore)

def contents? (p : Place) : Option String := fs.files.lookup p

def isDirectory (p : Place) : Bool := p.isEmpty || fs.directories.contains p

/-- What keeps a place from being reached. -/
def obstacle? (p : Place) : Option FileFault :=
  p.ancestors.findSome? fun a =>
    if fs.isDirectory a then none
    else if (fs.contents? a).isSome then some .notDirectory
    else some .missing

def exists? (path : String) : Bool :=
  let p := Place.ofPath path
  path != "" && (fs.obstacle? p).isNone && (fs.isDirectory p || (fs.contents? p).isSome)

def read? (path : String) : Except FileFault String :=
  let p := Place.ofPath path
  if path = "" then .error .missing
  else match fs.obstacle? p with
    | some fault => .error fault
    | none =>
      if fs.isDirectory p then .error .isDirectory
      else (fs.contents? p).elim (.error .missing) .ok

/-- Puts a text at a place. -/
def put (p : Place) (content : String) : FileStore :=
  { fs with files := (p, content) :: fs.files.filter fun f => f.1 != p }

def write (path content : String) : Except FileFault FileStore :=
  let p := Place.ofPath path
  if path = "" then .error .missing
  else match fs.obstacle? p with
    | some fault => .error fault
    | none =>
      if fs.isDirectory p || path.endsWith "/" then .error .isDirectory
      else .ok (fs.put p content)

/-- Makes a directory and those around it. -/
def makeDirectories (p : Place) : Except FileFault FileStore :=
  if p.ancestors.any fun a => (fs.contents? a).isSome then .error .notDirectory
  else if (fs.contents? p).isSome then .error .taken
  else .ok { fs with directories := (p.ancestors ++ [p]).filter (fun d => !fs.isDirectory d) ++ fs.directories }

/-- Writes a file after making the directory that it lies in. -/
def writeWithin (path content : String) : FileStore × Except FileFault Unit :=
  match fs.makeDirectories (Place.ofPath path).dropLast with
  | .error fault => (fs, .error fault)
  | .ok made =>
    match made.write path content with
    | .error fault => (made, .error fault)
    | .ok written => (written, .ok ())

end FileStore

end Casebook
