import Casebook.Template.Expr

/-! The names that a part of a template takes from its surroundings: those that it uses and that nothing within binds
first. -/
namespace Casebook.Template

namespace Expr

mutual

/-- The names that an expression uses. -/
def names : Expr → List String
  | .const _ => []
  | .name id => [id]
  | .neg e => names e
  | .not e => names e
  | .binary _ l r => names l ++ names r
  | .compare e rest => names e ++ rowNames rest
  | .both l r => names l ++ names r
  | .either l r => names l ++ names r
  | .choose c yes no => names c ++ names yes ++ optionNames no
  | .filter _ operand args => optionNames operand ++ argNames args
  | .test _ operand args => names operand ++ argNames args
  | .attr e _ => names e
  | .item e index => names e ++ names index
  | .slice e start stop step => names e ++ optionNames start ++ optionNames stop ++ optionNames step
  | .call callee args => names callee ++ argNames args
  | .list es => itemNames es
  | .dict es => entryNames es

def optionNames : Option Expr → List String
  | none => []
  | some e => names e

def itemNames : List Expr → List String
  | [] => []
  | e :: es => names e ++ itemNames es

def rowNames : List (CompareOp × Expr) → List String
  | [] => []
  | (_, e) :: es => names e ++ rowNames es

def entryNames : List (Expr × Expr) → List String
  | [] => []
  | (k, v) :: es => names k ++ names v ++ entryNames es

def argNames : List Arg → List String
  | [] => []
  | .plain e :: args => names e ++ argNames args
  | .keyword _ e :: args => names e ++ argNames args
  | .spread e :: args => names e ++ argNames args
  | .spreadKeywords e :: args => names e ++ argNames args

end

end Expr

namespace Target

mutual

/-- The names that a target binds. -/
def binds : Target → List String
  | .name id => [id]
  | .part .. => []
  | .tuple ts => bindsAll ts

def bindsAll : List Target → List String
  | [] => []
  | t :: ts => binds t ++ bindsAll ts

end

mutual

/-- The names whose values a target changes a part of. -/
def uses : Target → List String
  | .name _ => []
  | .part id _ => [id]
  | .tuple ts => usesAll ts

def usesAll : List Target → List String
  | [] => []
  | t :: ts => uses t ++ usesAll ts

end

end Target

/-- The names that are not bound. -/
def unbound (bound used : List String) : List String := used.filter fun name => !bound.contains name

theorem mem_unbound {bound used : List String} {name : String} :
    name ∈ unbound bound used ↔ name ∈ used ∧ name ∉ bound := by
  simp [unbound]

namespace Stmt

/-- The names that a statement binds for those after it. -/
def binds : Stmt → List String
  | .set target _ => target.binds
  | .setBlock target _ _ => target.binds
  | .define name _ _ => [name]
  | .load _ _ (some id) => [id]
  | _ => []

/-- The unbound names in bindings, each of which knows those before it, and all names bound after them. -/
def bindingNames (bound : List String) : List (Target × Expr) → List String × List String
  | [] => ([], bound)
  | (t, e) :: rest =>
    let (used, inner) := bindingNames (t.binds ++ bound) rest
    (unbound bound e.names ++ used, inner)

mutual

/-- The names that a statement takes from its surroundings, besides those in `bound`. -/
def free (bound : List String) : Stmt → List String
  | .text _ => []
  | .emit e => unbound bound e.names
  | .loop target source guard _ body otherwise =>
    let inner := "loop" :: (target.binds ++ bound)
    unbound bound source.names ++ unbound inner (Expr.optionNames guard) ++ freeAll inner body ++
      freeAll bound otherwise
  | .branch test yes no => unbound bound test.names ++ freeAll bound yes ++ freeAll bound no
  | .bind bindings body =>
    let (used, inner) := bindingNames bound bindings
    used ++ freeAll inner body
  | .set target e => unbound bound (target.uses ++ e.names)
  | .setBlock target filter body =>
    unbound bound (target.uses ++ Expr.optionNames filter) ++ freeAll bound body
  | .autoEscape e body => unbound bound e.names ++ freeAll bound body
  | .filterBlock filter body => unbound bound filter.names ++ freeAll bound body
  | .section _ _ body => freeAll bound body
  | .define name signature body =>
    let inner := signature.params ++ name :: bound
    unbound inner (Expr.itemNames signature.defaults) ++ freeAll inner body
  | .callBlock call signature body =>
    let inner := signature.params ++ bound
    unbound bound call.names ++ unbound inner (Expr.itemNames signature.defaults) ++ freeAll inner body
  | .run call => unbound bound call.names
  | .load e _ _ => unbound bound e.names
  | .extend e => unbound bound e.names

/-- The same for statements one after another. -/
def freeAll (bound : List String) : List Stmt → List String
  | [] => []
  | s :: rest => free bound s ++ freeAll (s.binds ++ bound) rest

end

end Stmt

/-- The names that a macro takes from its surroundings, each once. -/
def Signature.free (signature : Signature) (body : List Stmt) : List String :=
  (unbound signature.params (Expr.itemNames signature.defaults) ++
    Stmt.freeAll signature.params body).eraseDups

end Casebook.Template
