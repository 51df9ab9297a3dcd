import Casebook.Template.Arith

/-! Expressions that stand for one value, whatever the names of a template mean. -/
namespace Casebook.Template

namespace Expr

/-- The value of a literal. -/
def literal? : Expr → Option Value
  | .const v => some v
  | _ => none

mutual

/-- The value of an expression made of literals and operators.  Lists and maps count if they hold literals alone, and
an operation that fails has no value. -/
def constant? : Expr → Option Value
  | .const v => some v
  | .neg e => (constant? e).bind fun v => v.neg.toOption
  | .not e => (constant? e).map fun v => .bool !v.truthy
  | .binary op l r => do (Value.binary op (← constant? l) (← constant? r)).toOption
  | .compare e rest => do
    let v ← constant? e
    constantRow? v rest
  | .both l r => do
    let a ← constant? l
    let b ← constant? r
    some (if a.truthy && b.truthy then b else .bool false)
  | .either l r => do
    let a ← constant? l
    let b ← constant? r
    some (if a.truthy then a else b)
  | .list es => (es.mapM literal?).map Value.list
  | .dict es => (es.mapM fun (k, v) => do some (← literal? k, ← literal? v)).map Value.ofEntries
  | _ => none

/-- Comparisons between neighbours, the first of which is known. -/
def constantRow? : Value → List (CompareOp × Expr) → Option Value
  | _, [] => some (.bool true)
  | a, (op, e) :: rest => do
    let b ← constant? e
    let holds ← (Value.compareBy op a b).toOption
    let more ← constantRow? b rest
    some (if holds then more else .bool false)

end

@[simp] theorem constant?_const (v : Value) : constant? (.const v) = some v := by simp [constant?]

@[simp] theorem constant?_name (id : String) : constant? (.name id) = none := by simp [constant?]

/-- An operation on two values that are known is known as soon as it can be carried out. -/
theorem constant?_binary {op : BinaryOp} {l r : Expr} {a b v : Value} (hl : constant? l = some a)
    (hr : constant? r = some b) (h : Value.binary op a b = .ok v) : constant? (.binary op l r) = some v := by
  simp [constant?, hl, hr, h, Except.toOption]

end Expr

end Casebook.Template
