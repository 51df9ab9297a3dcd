/-! Why a template or an expression cannot be read or evaluated. -/
namespace Casebook.Template

inductive Fault where
  | badEscape
  | badStructure
  | cannotUnpack
  | invalidOperation
  | missingArgument
  | tooManyArguments
  | undefinedValue
  | unknownBlock
  | unknownFilter
  | unknownFunction
  | unknownMethod
  | unknownTest
  | templateNotFound
  | badInclude
  /-- A value that has no JSON form because of an integer beyond 64 bits. -/
  | numberOutOfRange
  /-- A value that has no JSON form because of a key that is no text. -/
  | keyNotText
  /-- A value that has no JSON form because of a key that is no finite number. -/
  | keyNotFinite
  /-- An expression that names nothing. -/
  | undefinedExpression
deriving DecidableEq, Repr

def Fault.message : Fault → String
  | .badEscape => "bad string escape"
  | .badStructure => "syntax error"
  | .cannotUnpack => "cannot unpack"
  | .invalidOperation => "invalid operation"
  | .missingArgument => "missing argument"
  | .tooManyArguments => "too many arguments"
  | .undefinedValue => "undefined value"
  | .unknownBlock => "unknown block"
  | .unknownFilter => "unknown filter"
  | .unknownFunction => "unknown function"
  | .unknownMethod => "unknown method"
  | .unknownTest => "unknown test"
  | .templateNotFound => "template not found"
  | .badInclude => "could not render include"
  | .numberOutOfRange => "number out of range"
  | .keyNotText => "key must be a string"
  | .keyNotFinite => "float key must be finite (got NaN or +/-inf)"
  | .undefinedExpression => "expression is undefined"

end Casebook.Template
