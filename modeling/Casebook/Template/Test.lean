import Casebook.Template.Argument
import Casebook.Text.LetterCase

/-! The tests of the template language: `x is even`, `x is in xs`. -/
namespace Casebook.Template

namespace Value

def testNames : List String :=
  ["undefined", "defined", "none", "safe", "escaped", "odd", "even", "number", "integer", "int", "float", "string",
    "sequence", "iterable", "mapping", "boolean", "startingwith", "endingwith", "lower", "upper", "sameas", "eq",
    "equalto", "==", "ne", "!=", "lt", "lessthan", "<", "le", "<=", "gt", "greaterthan", ">", "ge", ">=", "in",
    "true", "false", "filter", "test", "divisibleby"]

def filterNames : List String :=
  ["safe", "escape", "e", "lower", "upper", "title", "capitalize", "replace", "length", "count", "dictsort", "items",
    "reverse", "trim", "join", "split", "lines", "default", "d", "round", "abs", "int", "float", "attr", "first",
    "last", "min", "max", "sort", "list", "bool", "slice", "batch", "indent", "string", "pprint", "unique", "select",
    "reject", "selectattr", "rejectattr", "map", "groupby", "chain", "zip", "sum", "format"]

def isInt : Value → Bool
  | .int .. => true
  | _ => false

def isFloat : Value → Bool
  | .float _ => true
  | _ => false

def isOfKind (k : Kind) (v : Value) : Bool := v.kind == k

/-- Whether a value is a whole number whose remainder by two is as asked. -/
def hasParity (odd : Bool) (v : Value) : Bool :=
  (v.intIn? Decimal.minInt128 Decimal.maxInt128).any fun n => (n % 2 != 0) == odd

def isTruth (b : Bool) : Value → Bool
  | .bool c => b == c
  | _ => false

/-- A test with no operand besides the value. -/
def plainTest? : String → Option (Value → Bool)
  | "undefined" => some isUndefined
  | "defined" => some fun v => !v.isUndefined
  | "none" => some (isOfKind .null)
  | "safe" | "escaped" => some isSafe
  | "odd" => some (hasParity true)
  | "even" => some (hasParity false)
  | "number" => some (isOfKind .number)
  | "integer" | "int" => some isInt
  | "float" => some isFloat
  | "string" => some (isOfKind .string)
  | "sequence" => some (isOfKind .sequence)
  | "iterable" => some fun v => v.kind != .bool && v.kind != .number && v.kind != .plain
  | "mapping" => some (isOfKind .map)
  | "boolean" => some (isOfKind .bool)
  | "true" => some (isTruth true)
  | "false" => some (isTruth false)
  | _ => none

/-- A test of a value that must be a text. -/
def wordTest? : String → Option (String → Bool)
  | "lower" => some fun s => s.toList.all Text.isLowerCase
  | "upper" => some fun s => s.toList.all Text.isUpperCase
  | "filter" => some filterNames.contains
  | "test" => some testNames.contains
  | _ => none

/-- A remainder of a division cut towards zero; nothing is left of zero by itself. -/
def divides (b a : Value) : Bool :=
  match operands? false a b with
  | some (.ints m n) => n != 0 && m.tmod n == 0
  | some (.floats x y) => remainder x y == 0.0
  | none => false

/-- Whether two values are of one kind and equal. -/
def sameAs (a b : Value) : Bool := a.kind == b.kind && a.isInt == b.isInt && equal a b

def isIn (v container : Value) : Except Fault Bool :=
  match container with
  | .undefined false => .error .undefinedValue
  | _ => .ok ((contains container v).toOption.getD false)

/-- A test with one operand besides the value. -/
def operandTest? : String → Option (Value → Value → Except Fault Bool)
  | "sameas" => some fun v w => .ok (sameAs v w)
  | "eq" | "equalto" | "==" => some (compareBy .eq)
  | "ne" | "!=" => some (compareBy .ne)
  | "lt" | "lessthan" | "<" => some (compareBy .lt)
  | "le" | "<=" => some (compareBy .le)
  | "gt" | "greaterthan" | ">" => some (compareBy .gt)
  | "ge" | ">=" => some (compareBy .ge)
  | "in" => some isIn
  | "divisibleby" => some fun v w => .ok (divides w v)
  | _ => none

/-- A test of two texts. -/
def textTest? : String → Option (List Char → List Char → Bool)
  | "startingwith" => some fun s start => start.isPrefixOf s
  | "endingwith" => some fun s ending => ending.isSuffixOf s
  | _ => none

/-- Decides a test. -/
def test (name : String) (v : Value) (args : Args) : Except Fault Bool :=
  match plainTest? name, wordTest? name, textTest? name, operandTest? name with
  | some t, _, _, _ => do
    Take.nothing args
    return t v
  | _, some t, _, _ => do
    let s ← wordOf v
    Take.nothing args
    return t s
  | _, _, some t, _ => do
    let s ← textOf v
    let w ← Take.all args (Take.required textOf)
    return t s.toList w.toList
  | _, _, _, some t => do
    let w ← Take.all args (Take.required any)
    t v w
  | _, _, _, _ => .error .unknownTest

/-- The members that pass, or do not pass, a test of themselves or of one of their parts. -/
def selectBy (invert : Bool) (part? : Option String) (args : Args) (vs : List Value) : Except Fault (List Value) := do
  let testName? ← Take.unlessNull textOf args.head?
  if testName?.any fun name => !testNames.contains name then throw .unknownTest
  vs.filterM fun v => do
    let subject ← match part? with
      | some p => path v p
      | none => pure v
    let passed ← match testName? with
      | some name => test name subject (args.drop 1)
      | none => pure subject.truthy
    return passed != invert

end Value

end Casebook.Template
