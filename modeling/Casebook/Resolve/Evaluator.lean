import Casebook.Resolve.ValueType
import Casebook.Scope
import Casebook.Template.Eval

/-! Rendering texts and evaluating expressions in a scope.  What a template or an expression means is given by an
`Evaluator`; the standard one is the template language. -/
namespace Casebook

inductive ResolutionError where
  | template (text : String) (cause : Template.Fault)
  | expression (text : String) (cause : Template.Fault)
  | coercion (value : Json.Value) (target : ValueType)
  | notAMap (kind : String)

def ResolutionError.message : ResolutionError → String
  | .template text cause => "template '" ++ text ++ "' failed: " ++ cause.message
  | .expression text cause => "expression '" ++ text ++ "' failed: " ++ cause.message
  | .coercion value target => "cannot convert " ++ value.text ++ " to " ++ target.name
  | .notAMap kind => "expected a map but got " ++ kind

/-- What an expression comes to. -/
structure Outcome where
  isUndefined : Bool
  truthy : Bool
  kind : Template.Kind
  json : Except Template.Fault Json.Value

/-- The meaning of templates and expressions in a scope at an iteration. -/
structure Evaluator where
  render : String → Scope → Option Nat → Except Template.Fault String
  evaluate : String → Scope → Option Nat → Except Template.Fault Outcome

namespace Template

def Value.outcome (v : Value) : Outcome := ⟨v.isUndefined, v.truthy, v.kind, v.toJson⟩

def texts (d : Dict String) : Value := .map (d.map fun (k, v) => (.text k, .text v)) false

/-- The names that templates see: the headers, the hosts, the iteration, and all variables not named like these. -/
def context (scope : Scope) (index : Option Nat) : List (String × Value) :=
  ("header", texts scope.header) :: ("host", texts scope.host) ::
    ("i", match index with
      | some i => .ofNat i
      | none => .null) ::
    scope.vars.map fun (k, v) => (k, .ofJson v)

/-- The template language as an evaluator. -/
def evaluator : Evaluator where
  render text scope index := Template.render text (context scope index)
  evaluate text scope index := (Template.evaluate text (context scope index)).map Value.outcome

end Template

/-- Whether a text contains the start of a placeholder or statement. -/
def isTemplated (text : String) : Bool :=
  Text.contains "\x7b\x7b" text || Text.contains "\x7b%" text

/-- The inside of a text that is one placeholder on one line with blanks around it, and holds no other marker. -/
def lonePlaceholder? (text : String) : Option String :=
  match Text.trimList Text.isBlank text.toList with
  | '{' :: '{' :: rest =>
    match rest.reverse with
    | '}' :: '}' :: inner =>
      let s := String.ofList inner.reverse
      if inner.contains '\n' || Text.contains "\x7b\x7b" s || Text.contains "\x7d\x7d" s then none
      else some (Text.trim s)
    | _ => none
  | _ => none

namespace Evaluator

variable (ev : Evaluator)

/-- Renders a text; one without markers stands for itself. -/
def renderText (text : String) (scope : Scope) (index : Option Nat) : Except ResolutionError String :=
  if isTemplated text then (ev.render text scope index).mapError (.template text)
  else .ok text

/-- The outcome of an expression that must not be undefined. -/
def outcomeOf (text : String) (scope : Scope) (index : Option Nat) : Except Template.Fault Outcome := do
  let o ← ev.evaluate text scope index
  if o.isUndefined then throw .undefinedExpression else return o

/-- The value of an expression. -/
def valueOf (text : String) (scope : Scope) (index : Option Nat) : Except Template.Fault Json.Value := do
  (← ev.outcomeOf text scope index).json

def value (text : String) (scope : Scope) (index : Option Nat) : Except ResolutionError Json.Value :=
  (ev.valueOf text scope index).mapError (.expression text)

/-- Whether an expression is true. -/
def condition (text : String) (scope : Scope) (index : Option Nat) : Except ResolutionError Bool :=
  (ev.outcomeOf text scope index).mapError (.expression text) |>.map Outcome.truthy

/-- The members of an expression that must be a map. -/
def mapOf (text : String) (scope : Scope) (index : Option Nat) : Except ResolutionError Json.Members := do
  let o ← (ev.outcomeOf text scope index).mapError (.expression text)
  if o.kind ≠ .map then throw (.notAMap o.kind.name)
  match ← o.json.mapError (.expression text) with
  | .object ms => return ms
  | other => throw (.notAMap other.text)

/-- Renders a text; a lone placeholder keeps the type of its value. -/
def renderValue (text : String) (scope : Scope) (index : Option Nat) : Except ResolutionError Json.Value :=
  if !isTemplated text then .ok (.string text)
  else match lonePlaceholder? text with
    | some e => (ev.valueOf e scope index).mapError (.template text)
    | none => (ev.renderText text scope index).map .string

end Evaluator

end Casebook
