import Casebook.Json.Value

/-! The variables of a run: default headers, named hosts, general variables, and for each variable the step that
wrote it. -/
namespace Casebook

/-- The name of the kind of a value, as recorded with variables. -/
def Json.Value.kindName : Json.Value → String
  | .null => "null"
  | .bool _ => "boolean"
  | .number (.real ..) => "float"
  | .number (.integer ..) => "integer"
  | .string _ => "string"
  | .array _ => "list"
  | .object _ => "object"

/-- Where a variable came from. -/
structure Provenance where
  stepLabel : String
  valueType : String
deriving DecidableEq, Repr

structure Scope where
  /-- Default request headers. -/
  header : Dict String
  vars : Dict Json.Value
  /-- Named hosts. -/
  host : Dict String
  provenance : Dict Provenance

namespace Scope

def empty : Scope := ⟨[], [], [], []⟩

instance : Inhabited Scope := ⟨empty⟩

def withVars (vars : Dict Json.Value) : Scope := { empty with vars := vars }

/-- Sets a variable and records the step that did so. -/
def setVar (origin name : String) (value : Json.Value) (s : Scope) : Scope :=
  { s with
    vars := s.vars.insert name value
    provenance := s.provenance.insert name ⟨origin, value.kindName⟩ }

/-- Sets variables one after another. -/
def setVars (origin : String) (pairs : List (String × Json.Value)) (s : Scope) : Scope :=
  pairs.foldl (fun s p => s.setVar origin p.1 p.2) s

def getVar (name : String) (s : Scope) : Option Json.Value := s.vars.get? name

@[simp] theorem setVar_header (o n : String) (v : Json.Value) (s : Scope) :
    (s.setVar o n v).header = s.header := rfl

@[simp] theorem setVar_host (o n : String) (v : Json.Value) (s : Scope) :
    (s.setVar o n v).host = s.host := rfl

theorem getVar_setVar_self (o n : String) (v : Json.Value) (s : Scope) :
    (s.setVar o n v).getVar n = some v := Dict.get?_insert_self n v s.vars

theorem getVar_setVar_of_ne {o n m : String} (h : m ≠ n) (v : Json.Value) (s : Scope) :
    (s.setVar o n v).getVar m = s.getVar m := Dict.get?_insert_of_ne h v s.vars

end Scope

end Casebook
