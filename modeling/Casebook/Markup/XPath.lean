import Casebook.Decimal.Numeral
import Casebook.Markup.Document
import Casebook.Text.Category
import Casebook.Text.LetterCase

/-! Paths into documents: `/a/b` and `//a`, names or `*`, conditions `[n]`, `[last()]`, `[@a]` and `[@a='v']`, and at
the end perhaps `@a` or `text()`.  A path without a slash in front starts at the first element. -/
namespace Casebook.Markup.XPath

open Decimal

inductive Predicate where
  /-- The candidate at a position, counted from one. -/
  | position (n : Nat)
  | last
  | hasAttribute (name : String)
  | attributeIs (name value : String)
deriving DecidableEq, Repr

inductive Target where
  /-- Elements of a name, or all for `*`. -/
  | element (name : String)
  | attribute (name : String)
  | text
deriving DecidableEq, Repr

structure Step where
  /-- Whether the step looks at any depth. -/
  deep : Bool
  target : Target
  predicates : List Predicate
deriving DecidableEq, Repr

structure Path where
  absolute : Bool
  steps : List Step
deriving DecidableEq, Repr

inductive Fault where
  | empty
  | noSteps
  | earlyTarget
  | unsupportedStep (step : String)
  | unclosedPredicate
  | trailingText (rest : String)
  | zeroPosition
  | unquotedValue
  | unsupportedPredicate (inner : String)
deriving DecidableEq, Repr

/-- What is wrong with a path of that text. -/
def Fault.message (text : String) : Fault → String
  | .empty => "XPath expression is empty"
  | .noSteps => "XPath '" ++ text ++ "' has no steps"
  | .earlyTarget => "XPath '" ++ text ++ "': @attr and text() must be the last step"
  | .unsupportedStep step => "XPath '" ++ text ++ "' has unsupported step '" ++ step ++ "'"
  | .unclosedPredicate => "XPath '" ++ text ++ "' has an unclosed predicate"
  | .trailingText rest => "XPath '" ++ text ++ "' has trailing text '" ++ rest ++ "'"
  | .zeroPosition => "XPath '" ++ text ++ "': positions start at 1"
  | .unquotedValue => "XPath '" ++ text ++ "': predicate value must be quoted"
  | .unsupportedPredicate inner => "XPath '" ++ text ++ "' has unsupported predicate '[" ++ inner ++ "]'"

/-! ### Reading -/

/-- A step up to the slash that ends it, and what follows.  Slashes in brackets or quotes do not end a step. -/
def splitStep : Nat → Option Char → List Char → List Char × List Char
  | _, _, [] => ([], [])
  | depth, quote, c :: rest =>
    let push := fun (p : List Char × List Char) => (c :: p.1, p.2)
    match quote with
    | some q => push (splitStep depth (if c = q then none else some q) rest)
    | none =>
      if c = '\'' ∨ c = '"' then push (splitStep depth (some c) rest)
      else if c = '[' then push (splitStep (depth + 1) none rest)
      else if c = ']' then push (splitStep (depth - 1) none rest)
      else if c = '/' ∧ depth = 0 then ([], c :: rest)
      else push (splitStep depth none rest)

def isNameChar (c : Char) : Bool :=
  Text.isAlphanumeric c || c = '-' || c = '_' || c = ':' || c = '.'

def isName (cs : List Char) : Bool := !cs.isEmpty && cs.all isNameChar

def trimmed (cs : List Char) : List Char := Text.trimList Text.isBlank cs

def lowered (cs : List Char) : String := String.ofList (cs.map Char.toLower)

/-- The inside of a text between equal quotes. -/
def unquoted? : List Char → Option String
  | [] => none
  | q :: rest =>
    if (q = '\'' ∨ q = '"') ∧ rest.getLast? = some q then some (String.ofList rest.dropLast) else none

/-- A condition from the text between its brackets, trimmed. -/
def predicate? (inner : List Char) : Except Fault Predicate :=
  if inner = "last()".toList then .ok .last
  else match nat64? (String.ofList inner) with
    | some 0 => .error .zeroPosition
    | some n => .ok (.position n)
    | none =>
      match inner with
      | '@' :: inside =>
        match Text.breakOn ['='] inside with
        | none => .ok (.hasAttribute (lowered (trimmed inside)))
        | some (name, value) =>
          match unquoted? (trimmed value) with
          | some v => .ok (.attributeIs (lowered (trimmed name)) v)
          | none => .error .unquotedValue
      | _ => .error (.unsupportedPredicate (String.ofList inner))

/-- The conditions of a step; each ends at the first closing bracket. -/
def predicatesFrom : Nat → List Char → Except Fault (List Predicate)
  | 0, _ => .ok []
  | fuel + 1, cs =>
    match trimmed cs with
    | [] => .ok []
    | '[' :: rest =>
      match Text.breakOn [']'] rest with
      | none => .error .unclosedPredicate
      | some (inner, after) => do
        let p ← predicate? (trimmed inner)
        return p :: (← predicatesFrom fuel after)
    | rest => .error (.trailingText (String.ofList rest))

def target? (head : List Char) : Option Target :=
  if head = "text()".toList then some .text
  else match head with
    | '@' :: name => some (.attribute (lowered name))
    | _ => if head = ['*'] || isName head then some (.element (lowered head)) else none

def step? (deep : Bool) (cs : List Char) : Except Fault Step :=
  let isHead := fun c => c != '['
  match target? (trimmed (cs.takeWhile isHead)) with
  | none => .error (.unsupportedStep (String.ofList cs))
  | some target => do
    return ⟨deep, target, ← predicatesFrom (cs.length + 1) (cs.dropWhile isHead)⟩

def stepsFrom : Nat → Bool → List Char → Except Fault (List Step)
  | 0, _, _ => .ok []
  | fuel + 1, deep, cs =>
    match cs with
    | [] => .ok []
    | '/' :: '/' :: rest => stepsFrom fuel true rest
    | '/' :: rest => stepsFrom fuel deep rest
    | _ => do
      let (raw, rest) := splitStep 0 none cs
      let s ← step? deep raw
      return s :: (← stepsFrom fuel false rest)

def Step.isElement (s : Step) : Bool :=
  match s.target with
  | .element _ => true
  | _ => false

/-- The path that a text writes. -/
def Path.ofText? (text : String) : Except Fault Path := do
  let cs := trimmed text.toList
  if cs.isEmpty then throw .empty
  let steps ← stepsFrom (cs.length + 1) false cs
  if steps.isEmpty then throw .noSteps
  if !steps.dropLast.all Step.isElement then throw .earlyTarget
  return ⟨cs.head? = some '/', steps⟩

/-! ### Selecting -/

def Predicate.apply (doc : Document) (nodes : List Nat) : Predicate → List Nat
  | .position n => (nodes[n - 1]?).toList
  | .last => nodes.getLast?.toList
  | .hasAttribute name => nodes.filter fun id => (Document.attribute? doc id name).isSome
  | .attributeIs name value => nodes.filter fun id => Document.attribute? doc id name == some value

/-- Leaves one of equal neighbours. -/
def dedupNeighbours : List Nat → List Nat
  | [] => []
  | [x] => [x]
  | x :: y :: rest => if x = y then dedupNeighbours (y :: rest) else x :: dedupNeighbours (y :: rest)

/-- The nodes that a step starts from. -/
def Step.bases (doc : Document) (s : Step) (context : List Nat) : List Nat :=
  dedupNeighbours (if s.deep then context.flatMap (Document.inside doc) else context)

/-- The elements inside `base` that a step finds. -/
def Step.elementsIn (doc : Document) (name : String) (predicates : List Predicate) (base : Nat) : List Nat :=
  let candidates := (Document.childrenOf doc base).filter fun c => name == "*" || Document.nameOf doc c == name
  predicates.foldl (Predicate.apply doc) candidates

/-- The texts that a path finds from a set of nodes: of an element its first text, or none without one. -/
def selectFrom (doc : Document) : List Step → List Nat → List (Option String)
  | [], context => context.map fun id => (Document.textsOf doc id).head?
  | s :: rest, context =>
    let bases := s.bases doc context
    match s.target with
    | .element name =>
      let found := bases.flatMap (Step.elementsIn doc name s.predicates)
      selectFrom doc rest (found.eraseDups.mergeSort)
    | .attribute name => bases.filterMap fun id => (Document.attribute? doc id name).map some
    | .text => bases.flatMap fun id => (Document.textsOf doc id).map some

def Path.select (path : Path) (doc : Document) : List (Option String) :=
  selectFrom doc path.steps (if path.absolute then [0] else (Document.childrenOf doc 0).take 1)

end XPath

/-- What a path in text form finds in a text. -/
def selectText (path body : String) : Except String (List (Option String)) := do
  let p ← (XPath.Path.ofText? path).mapError (XPath.Fault.message path)
  let doc ← (Document.ofText? body).mapError Fault.message
  return p.select doc

end Casebook.Markup
