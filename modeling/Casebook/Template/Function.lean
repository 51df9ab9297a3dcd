import Casebook.Template.Filter

/-! Functions of the template language, except those that make records. -/
namespace Casebook.Template

open Decimal

namespace Value

/-- The most members that `range` produces. -/
def maxRange : Nat := 100000

/-- Whole numbers from a first one, or zero, up to but without a last one. -/
def rangeOf (args : Args) : Except Fault Value := do
  let (a, b, step) ← Take.all args do
    return (← Take.required longOf, ← Take.optional longOf, ← Take.optional longOf)
  let step := step.getD 1
  if step = 0 then throw .invalidOperation
  let (start, stop) := match b with
    | some u => (a, u)
    | none => (0, a)
  let span : Int := if 0 < step then stop - start else start - stop
  let count := ((max 0 span + (step.natAbs : Int) - 1) / step.natAbs).toNat
  if maxRange < count then throw .invalidOperation
  return .seq ((List.range count).map fun (i : Nat) => ofInt (start + i * step)) .iterator

/-- A map from another map and the arguments by name. -/
def dictOf (args : Args) : Except Fault Value := do
  let (plain, named) := args.split
  let base ← Take.all plain (Take.optional pairs)
  return ofEntries (base.getD [] ++ named)

/-- The arguments of a call on several lines. -/
def debugText (args : Args) : String :=
  match args with
  | [v] => pretty 0 v
  | _ => pretty 0 (list args)

end Value

end Casebook.Template
