import Casebook.Template.Value

/-! Expressions and statements of the template language. -/
namespace Casebook.Template

inductive BinaryOp where
  | add | sub | mul | div | floorDiv | mod | pow | concat
deriving DecidableEq, Repr

inductive CompareOp where
  | eq | ne | lt | le | gt | ge | isIn | notIn
deriving DecidableEq, Repr

mutual

inductive Expr where
  | const (v : Value)
  | name (id : String)
  | neg (e : Expr)
  | not (e : Expr)
  | binary (op : BinaryOp) (left right : Expr)
  /-- A row of comparisons, all of which must hold between neighbours. -/
  | compare (first : Expr) (rest : List (CompareOp × Expr))
  | both (left right : Expr)
  | either (left right : Expr)
  | choose (test yes : Expr) (no : Option Expr)
  /-- A filter; without an operand it applies to the text of the block that it belongs to. -/
  | filter (name : String) (operand : Option Expr) (args : List Arg)
  | test (name : String) (operand : Expr) (args : List Arg)
  | attr (e : Expr) (name : String)
  | item (e index : Expr)
  | slice (e : Expr) (start stop step : Option Expr)
  | call (callee : Expr) (args : List Arg)
  | list (items : List Expr)
  | dict (entries : List (Expr × Expr))

inductive Arg where
  | plain (e : Expr)
  | keyword (name : String) (e : Expr)
  | spread (e : Expr)
  | spreadKeywords (e : Expr)

end

instance : Inhabited Expr := ⟨.const .null⟩

/-- What a value is assigned to. -/
inductive Target where
  | name (id : String)
  /-- A part of a record, by the names that lead to it. -/
  | part (id : String) (path : List String)
  | tuple (targets : List Target)

/-- The parameters of a macro; the defaults belong to the last ones. -/
structure Signature where
  params : List String
  defaults : List Expr

inductive Stmt where
  | text (s : String)
  | emit (e : Expr)
  | loop (target : Target) (source : Expr) (guard : Option Expr) (recursive : Bool) (body otherwise : List Stmt)
  | branch (test : Expr) (yes no : List Stmt)
  | bind (bindings : List (Target × Expr)) (body : List Stmt)
  | set (target : Target) (e : Expr)
  | setBlock (target : Target) (filter : Option Expr) (body : List Stmt)
  | autoEscape (e : Expr) (body : List Stmt)
  | filterBlock (filter : Expr) (body : List Stmt)
  /-- A part of the template that goes by a name; a required one is there to be replaced. -/
  | section (name : String) (required : Bool) (body : List Stmt)
  | define (name : String) (signature : Signature) (body : List Stmt)
  | callBlock (call : Expr) (signature : Signature) (body : List Stmt)
  | run (call : Expr)
  /-- Another template, or the first of several that exists, perhaps under a name. -/
  | load (e : Expr) (ignoreMissing : Bool) (id : Option String)
  | extend (e : Expr)

end Casebook.Template
