import Casebook.Resolve.Evaluator

/-! Resolving values and parameter blocks in a scope. -/
namespace Casebook

/-- A row of a parameter table. -/
structure ParamEntry where
  name : String
  value : Json.Value
  type : ValueType

/-- A parameter block. -/
inductive ParamSource where
  | table (rows : List ParamEntry)
  | json (value : Json.Value)
  | text (s : String)
  | code (expression : String)

/-- Whether resolved values are only returned, or also become variables written by the step of that label. -/
inductive ParamRole where
  | regular
  | variable (label : String)
deriving DecidableEq, Repr

/-- The variables that resolved pairs become under a role. -/
def ParamRole.writes (role : ParamRole) (pairs : List (String × Json.Value)) : List (String × Json.Value) :=
  match role with
  | .regular => []
  | .variable _ => pairs

/-- The scope after pairs were resolved under a role. -/
def ParamRole.write (role : ParamRole) (pairs : List (String × Json.Value)) (scope : Scope) : Scope :=
  match role with
  | .regular => scope
  | .variable label => scope.setVars label pairs

/-- What came of a block: its result, the scope that it leaves, and the variables written to it in order. -/
structure Resolved (α : Type) where
  result : Except ResolutionError α
  scope : Scope
  written : List (String × Json.Value)

namespace Resolved

variable {α β : Type}

/-- A result that writes nothing. -/
def pure (result : Except ResolutionError α) (scope : Scope) : Resolved α := ⟨result, scope, []⟩

/-- A result after resolved pairs were written under a role. -/
def after (role : ParamRole) (pairs : List (String × Json.Value)) (result : Except ResolutionError α)
    (scope : Scope) : Resolved α :=
  ⟨result, role.write pairs scope, role.writes pairs⟩

def bind (r : Resolved α) (f : α → Except ResolutionError β) : Resolved β :=
  ⟨r.result.bind f, r.scope, r.written⟩

end Resolved

namespace Evaluator

variable (ev : Evaluator)

mutual

/-- Resolves a value: strings are rendered, containers part by part; keys that render alike keep the last value. -/
def resolve (scope : Scope) (index : Option Nat) : Json.Value → Except ResolutionError Json.Value
  | .string s => ev.renderValue s scope index
  | .array xs => do return .array (← resolveItems scope index xs)
  | .object ms => do return .ofPairs (← resolveMembers scope index ms)
  | v => return v

def resolveItems (scope : Scope) (index : Option Nat) :
    List Json.Value → Except ResolutionError (List Json.Value)
  | [] => return []
  | x :: xs => do
    let y ← resolve scope index x
    return y :: (← resolveItems scope index xs)

def resolveMembers (scope : Scope) (index : Option Nat) :
    List (String × Json.Value) → Except ResolutionError (List (String × Json.Value))
  | [] => return []
  | (k, v) :: ms => do
    let key ← ev.renderText k scope index
    let value ← resolve scope index v
    return (key, value) :: (← resolveMembers scope index ms)

end

/-- The name and value of a row. -/
def resolveRow (scope : Scope) (index : Option Nat) (row : ParamEntry) :
    Except ResolutionError (String × Json.Value) := do
  let name ← ev.renderText row.name scope index
  let value ← ev.resolve scope index row.value
  match row.type.coerce? value with
  | some v => return (name, v)
  | none => throw (.coercion value row.type)

/-- The pairs of the rows before the first that cannot be resolved, and what is wrong with that one.  Under the role
of variables each row sees those before it. -/
def resolveRows (role : ParamRole) (index : Option Nat) :
    List ParamEntry → Scope → List (String × Json.Value) × Option ResolutionError
  | [], _ => ([], none)
  | row :: rest, scope =>
    match ev.resolveRow scope index row with
    | .error e => ([], some e)
    | .ok pair =>
      let (pairs, fault) := resolveRows role index rest (role.write [pair] scope)
      (pair :: pairs, fault)

/-- Resolves the rows of a table to a map, the last of equal names winning. -/
def resolveTable (role : ParamRole) (index : Option Nat) (rows : List ParamEntry) (scope : Scope) :
    Resolved Json.Value :=
  let (pairs, fault) := ev.resolveRows role index rows scope
  .after role pairs (fault.elim (.ok (.ofPairs pairs)) .error) scope

/-- The members of a JSON object as rows of a table. -/
def rowsOfMembers (ms : Json.Members) : List ParamEntry := ms.map fun (k, v) => ⟨k, v, .auto⟩

/-- Resolves a parameter block. -/
def resolveParams (source : ParamSource) (role : ParamRole) (index : Option Nat) (scope : Scope) :
    Resolved Json.Value :=
  match source with
  | .table rows => ev.resolveTable role index rows scope
  | .json (.object ms) => ev.resolveTable role index (rowsOfMembers ms) scope
  | .json v => .pure (ev.resolve scope index v) scope
  | .text s => .pure ((ev.renderText s scope index).map .string) scope
  | .code e =>
    match role with
    | .regular => .pure (ev.value e scope index) scope
    | .variable _ =>
      match ev.mapOf e scope index with
      | .ok ms => .after role ms (.ok (.object ms)) scope
      | .error e => .pure (.error e) scope

/-- The members of a value that must be a map. -/
def membersOf : Json.Value → Except ResolutionError Json.Members
  | .object ms => .ok ms
  | v => .error (.notAMap v.kindName)

/-- Resolves a parameter block that must come to a map. -/
def resolveMap (source : ParamSource) (role : ParamRole) (index : Option Nat) (scope : Scope) :
    Resolved Json.Members :=
  match source, role with
  | .code e, .regular => .pure (ev.mapOf e scope index) scope
  | _, _ => (ev.resolveParams source role index scope).bind membersOf

end Evaluator

end Casebook
