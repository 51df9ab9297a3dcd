import Casebook.Template.Arith

/-! The arguments of calls.  Those by place come first; those by name follow as one map, which counts as a further
argument where nobody asks for names. -/
namespace Casebook.Template

open Decimal

abbrev Args := List Value

/-- The arguments by name. -/
abbrev Named := List (Value × Value)

namespace Args

/-- Takes the arguments by name off the end. -/
def split (args : Args) : Args × Named :=
  match args.getLast? with
  | some (.map es true) => (args.dropLast, es)
  | _ => (args, [])

/-- One more argument by name. -/
def add (args : Args) (name : String) (v : Value) : Args :=
  let (plain, named) := args.split
  plain ++ [.map (Value.insertEntry (.text name) v named) true]

@[simp] theorem split_nil : split [] = ([], []) := rfl

theorem split_append_named (args : Args) (es : Named) : split (args ++ [.map es true]) = (args, es) := by
  simp [split]

end Args

/-- Reading arguments from left to right. -/
abbrev Take := StateT Args (Except Fault)

namespace Take

/-- Reads all arguments; more of them than asked for are refused. -/
def all {α : Type} (args : Args) (take : Take α) : Except Fault α := do
  let (a, rest) ← take.run args
  if rest.isEmpty then return a else throw .tooManyArguments

/-- Reads nothing. -/
def nothing (args : Args) : Except Fault Unit := all args (pure ())

def next? : Take (Option Value) := fun args =>
  match args with
  | [] => .ok (none, [])
  | v :: rest => .ok (some v, rest)

/-- An argument that must be given. -/
def required {α : Type} (read : Value → Except Fault α) : Take α := do
  match ← next? with
  | some v => read v
  | none => throw .missingArgument

/-- A value, unless it is null or does not exist. -/
def unlessNull {α : Type} (read : Value → Except Fault α) : Option Value → Except Fault (Option α)
  | none | some .null | some (.undefined _) => .ok none
  | some v => some <$> read v

/-- An argument that may be left out. -/
def optional {α : Type} (read : Value → Except Fault α) : Take (Option α) := do
  unlessNull read (← next?)

/-- All arguments that are left. -/
def rest : Take Args := fun args => .ok (args, [])

end Take

namespace Named

/-- The argument of a name. -/
def get? (named : Named) (name : String) : Option Value := Value.find? (.text name) named

def optional {α : Type} (named : Named) (name : String) (read : Value → Except Fault α) : Except Fault (Option α) :=
  Take.unlessNull read (named.get? name)

/-- Refuses names that nobody asked for. -/
def only (named : Named) (names : List String) : Except Fault Unit :=
  if named.all fun (k, _) => match k with
    | .string s _ => names.contains s
    | _ => true
  then .ok () else .error .tooManyArguments

end Named

namespace Value

def any (v : Value) : Except Fault Value := .ok v

/-- The text that a value prints as; arguments by name are no text. -/
def textOf : Value → Except Fault String
  | .undefined false => .error .undefinedValue
  | .map _ true => .error .invalidOperation
  | v => .ok v.display

/-- The same, with the mark of safe texts. -/
def stringOf : Value → Except Fault Value
  | .string s safe => .ok (.string s safe)
  | v => text <$> textOf v

/-- A value that must be a text. -/
def wordOf : Value → Except Fault String
  | .string s _ => .ok s
  | _ => .error .invalidOperation

def intOf (lo hi : Int) (v : Value) : Except Fault Int :=
  match v.intIn? lo hi with
  | some n => .ok n
  | none => .error .invalidOperation

def longOf (v : Value) : Except Fault Int := intOf minInt64 maxInt64 v

def natOf (v : Value) : Except Fault Nat := Int.toNat <$> intOf 0 maxNat64 v

/-- A flag is the truth of its value. -/
def flagOf (v : Value) : Except Fault Bool := .ok v.truthy

end Value

end Casebook.Template
