import Casebook.Template.Argument
import Casebook.Template.Expr
import Casebook.Template.Filter

/-! What a template works on while it is filled in: the names that are known, the macros and records made so far, and
the text written.

Names live in frames, innermost first.  A macro sees none of the frames around its call: it has a frame of its own,
which reads further names from a store.  The store belongs to the frame where the macro was made and follows what is
assigned there. -/
namespace Casebook.Template

/-- A running loop. -/
structure Running where
  depth : Nat
  /-- What runs when the loop is started again from within, if it may be. -/
  again : Option (Target × List Stmt)

structure Frame where
  vars : List (String × Value) := []
  loop : Option Running := none
  /-- The store that a macro reads names from. -/
  enclosed : Option Nat := none
  /-- The store of the macros made in this frame. -/
  store : Option Nat := none

structure Closure where
  signature : Signature
  body : List Stmt
  usesCaller : Bool
  store : Nat

/-- A part of the template that goes by a name. -/
structure Section where
  name : String
  required : Bool
  body : List Stmt

structure Machine where
  /-- Innermost first. -/
  frames : List Frame
  /-- How deep the calls around the frames are nested. -/
  outer : Nat
  closures : List Closure
  stores : List (List (String × Value))
  records : List (List (Value × Value))
  /-- The values that a loop was last asked about, by the number of the loop. -/
  watched : List (Nat × Args)
  loops : Nat
  sections : List Section
  out : String
  html : Bool

abbrev Eval := StateT Machine (Except Fault)

namespace Eval

/-! ### Records -/

mutual

/-- Replaces the records inside a value. -/
def replaceRecords (f : Nat → Value) : Value → Value
  | .record id => f id
  | .seq xs shape => .seq (replaceItems f xs) shape
  | .repeated xs times => .repeated (replaceItems f xs) times
  | .map es named => .map (replaceEntries f es) named
  | v => v

def replaceItems (f : Nat → Value) : List Value → List Value
  | [] => []
  | x :: xs => replaceRecords f x :: replaceItems f xs

def replaceEntries (f : Nat → Value) : List (Value × Value) → List (Value × Value)
  | [] => []
  | (k, v) :: es => (k, replaceRecords f v) :: replaceEntries f es

end

/-- A value with its records written out as maps, to the given depth. -/
def expand (records : List (List (Value × Value))) : Nat → Value → Value
  | 0, v => v
  | fuel + 1, v => replaceRecords (fun id => expand records fuel (.map (records[id]?.getD []) false)) v

/-- The present contents of a value. -/
def settle (v : Value) : Eval Value := do
  let m ← get
  return if m.records.isEmpty then v else expand m.records (m.records.length + 1) v

/-- Truth of a value that must exist. -/
def truth (v : Value) : Eval Bool := do
  match v with
  | .undefined false => throw .undefinedValue
  | _ => return (← settle v).truthy

/-- A value to compute with, which must exist. -/
def existing (v : Value) : Eval Value := do
  match v with
  | .undefined false => throw .undefinedValue
  | _ => settle v

/-- The attribute or item of a value; asking what does not exist is a fault. -/
def part (v key : Value) : Eval Value := do
  match v with
  | .undefined _ => throw .undefinedValue
  | .record id =>
    let m ← get
    return (Value.find? key (m.records[id]?.getD [])).getD .missing
  | _ => return Value.item v key

/-- Makes a record from a map or from arguments by name. -/
def newRecord (args : Args) : Eval Value := do
  let base ← liftM (Take.all args (Take.optional Value.pairs))
  let entries ← (base.getD []).mapM fun (k, v) => match k with
    | .string s _ => pure (Value.text s, v)
    | _ => throw .invalidOperation
  let m ← get
  set { m with records := m.records ++ [Value.sortEntries entries] }
  return .record m.records.length

/-- Sets an attribute of a record, found along a path of names. -/
def setPart (v : Value) (path : List String) (new : Value) : Eval Unit := do
  match path, v with
  | [name], .record id =>
    modify fun m => { m with records := m.records.modify id (Value.insertEntry (.text name) new) }
  | [], _ | [_], _ => throw .invalidOperation
  | name :: rest, v => do setPart (← part v (.text name)) rest new

/-! ### Names -/

def builtins : List String := ["range", "dict", "debug", "namespace"]

def lookupFrames (stores : List (List (String × Value))) (name : String) : List Frame → Option Value
  | [] => none
  | f :: rest =>
    ((f.vars.lookup name).or (f.enclosed.bind fun id => (stores[id]?.getD []).lookup name)).or
      (lookupFrames stores name rest)

def lookup? (name : String) : Eval (Option Value) := do
  let m ← get
  match lookupFrames m.stores name m.frames with
  | some v => return some v
  | none => return if builtins.contains name then some (.builtin name) else none

/-- Names with one of them set. -/
def put (name : String) (v : Value) (vars : List (String × Value)) : List (String × Value) :=
  (name, v) :: vars.filter (·.1 != name)

@[simp] theorem lookup_put (name : String) (v : Value) (vars : List (String × Value)) :
    (put name v vars).lookup name = some v := by
  simp [put]

/-- Sets a name in the innermost frame and in its store. -/
def assign (name : String) (v : Value) : Eval Unit :=
  modify fun m =>
    match m.frames with
    | f :: rest =>
      { m with
        frames := { f with vars := put name v f.vars } :: rest
        stores := match f.store with
          | some id => m.stores.modify id (put name v)
          | none => m.stores }
    | [] => m

/-- How deep frames and calls may nest. -/
def maxDepth : Nat := 500

/-- How much deeper the inside of a macro counts. -/
def macroDepth : Nat := 4

def depth : Eval Nat := do
  let m ← get
  return m.frames.length + m.outer

def withFrame {α : Type} (f : Frame) (act : Eval α) : Eval α := do
  if maxDepth < (← depth) then throw .invalidOperation
  modify fun m => { m with frames := f :: m.frames }
  let a ← act
  modify fun m => { m with frames := m.frames.drop 1 }
  return a

/-- The innermost running loop. -/
def running? : Eval (Option Running) := do return (← get).frames.findSome? fun f => f.loop

/-- The store of the innermost frame, which holds some names from now on. -/
def enclose (names : List String) : Eval Nat := do
  let m ← get
  let id ← match m.frames with
    | { store := some id, .. } :: _ => pure id
    | f :: rest =>
      let id := m.stores.length
      set { m with frames := { f with store := some id } :: rest, stores := m.stores ++ [[]] }
      pure id
    | [] => throw .invalidOperation
  for name in names do
    let v := (← lookup? name).getD .missing
    modify fun m => { m with
      stores := m.stores.modify id fun vars => if (vars.lookup name).isSome then vars else put name v vars }
  return id

/-- Makes a macro. -/
def newMacro (name : String) (signature : Signature) (body : List Stmt) (free : List String) : Eval Value := do
  let usesCaller := free.contains "caller"
  let store ← enclose (free.filter (· != "caller"))
  let m ← get
  let made : Closure := ⟨signature, body, usesCaller, store⟩
  set { m with closures := m.closures ++ [made] }
  return .closure m.closures.length name signature.params usesCaller

/-! ### Output -/

def write (s : String) : Eval Unit := modify fun m => { m with out := m.out ++ s }

/-- Prints a value that must exist. -/
def emit (v : Value) : Eval Unit := do
  let v ← existing v
  write (if (← get).html then v.htmlText else v.display)

/-- What an action writes, kept apart from the output; it is safe where HTML is written. -/
def capture (act : Eval Unit) : Eval Value := do
  let before := (← get).out
  modify fun m => { m with out := "" }
  act
  let m ← get
  set { m with out := before }
  return .string m.out m.html

/-- Whether a value turns HTML on. -/
def htmlMode : Value → Except Fault Bool
  | .string s _ => if s = "html" then .ok true else if s = "none" then .ok false else .error .invalidOperation
  | v => .ok (Value.equal v (.bool true))

end Eval

end Casebook.Template
