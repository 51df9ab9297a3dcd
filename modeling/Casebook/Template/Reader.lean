import Casebook.Template.Expr
import Casebook.Template.Token

/-! Reading expressions and templates from their words.  Every function spends one unit of fuel per call, and the
entry points supply more of it than any text can use up. -/
namespace Casebook.Template

/-- What is left to read. -/
structure Input where
  words : List Token
  /-- Nested expressions and statements around the current one. -/
  depth : Nat
  /-- The names of the sections met so far. -/
  sections : List String
  inMacro : Bool

abbrev Read := StateT Input (Except Fault)

namespace Read

def fail {α : Type} : Read α := throw .badStructure

/-- The next word, without taking it. -/
def peek : Read (Option Token) := fun input =>
  match input.words with
  | .fault f :: _ => .error f
  | t :: _ => .ok (some t, input)
  | [] => .ok (none, input)

def next : Read (Option Token) := fun input =>
  match input.words with
  | .fault f :: _ => .error f
  | t :: rest => .ok (some t, { input with words := rest })
  | [] => .ok (none, input)

/-- Takes the next word if it is the given one. -/
def skip (t : Token) : Read Bool := do
  if (← peek) = some t then
    let _ ← next
    return true
  else return false

def expect (t : Token) : Read Unit := do
  if (← next) = some t then return () else fail

def expectWord : Read String := do
  match ← next with
  | some (.word s) => return s
  | _ => fail

/-- A name with dots in it. -/
def dottedName : Nat → Read String
  | 0 => fail
  | fuel + 1 => do
    let s ← expectWord
    if ← skip (.symbol .dot) then return s ++ "." ++ (← dottedName fuel) else return s

/-- Takes the words that say which names another template sees. -/
def skipContext : Read Unit := modify fun input =>
  match input.words with
  | .word w :: .word "context" :: rest =>
    if w = "with" ∨ w = "without" then { input with words := rest } else input
  | _ => input

/-- The most that expressions or statements may nest. -/
def maxDepth : Nat := 150

def enter : Read Unit := fun input =>
  if maxDepth ≤ input.depth then .error .badStructure
  else .ok ((), { input with depth := input.depth + 1 })

def leave : Read Unit := modify fun input => { input with depth := input.depth - 1 }

/-- Reads something that nests. -/
def nested {α : Type} (read : Read α) : Read α := do
  enter
  let a ← read
  leave
  return a

/-- Names that cannot be assigned to. -/
def reserved : List String := ["true", "True", "false", "False", "none", "None", "loop", "self"]

/-- Operands joined by operators of one rank, grouped from the left. -/
def leftRow (operand : Read Expr) (op? : Token → Option (Expr → Expr → Expr)) : Nat → Expr → Read Expr
  | 0, _ => fail
  | fuel + 1, left => do
    match (← peek).bind op? with
    | none => return left
    | some combine =>
      let _ ← next
      let right ← operand
      leftRow operand op? fuel (combine left right)

def powerOp? : Token → Option (Expr → Expr → Expr)
  | .symbol .power => some (.binary .pow)
  | _ => none

def productOp? : Token → Option (Expr → Expr → Expr)
  | .symbol .times => some (.binary .mul)
  | .symbol .divide => some (.binary .div)
  | .symbol .floorDivide => some (.binary .floorDiv)
  | .symbol .modulo => some (.binary .mod)
  | _ => none

def concatOp? : Token → Option (Expr → Expr → Expr)
  | .symbol .tilde => some (.binary .concat)
  | _ => none

def sumOp? : Token → Option (Expr → Expr → Expr)
  | .symbol .plus => some (.binary .add)
  | .symbol .minus => some (.binary .sub)
  | _ => none

def andOp? : Token → Option (Expr → Expr → Expr)
  | .word "and" => some .both
  | _ => none

def orOp? : Token → Option (Expr → Expr → Expr)
  | .word "or" => some .either
  | _ => none

def compareOp? : Token → Option CompareOp
  | .symbol .eq => some .eq
  | .symbol .ne => some .ne
  | .symbol .lt => some .lt
  | .symbol .le => some .le
  | .symbol .gt => some .gt
  | .symbol .ge => some .ge
  | .word "in" => some .isIn
  | _ => none

/-- Strings that stand next to each other form one string. -/
def adjacentStrings : Nat → String → Read String
  | 0, _ => fail
  | fuel + 1, s => do
    match ← peek with
    | some (.string t) =>
      let _ ← next
      adjacentStrings fuel (s ++ t)
    | _ => return s

/-- Items between separators up to a closing symbol; `first` tells that none was read yet. -/
def itemsUntil {α : Type} (close : Symbol) (item : Read α) : Nat → Bool → List α → Read (List α)
  | 0, _, _ => fail
  | fuel + 1, first, done => do
    if ← skip (.symbol close) then return done.reverse
    if !first then
      expect (.symbol .comma)
      if ← skip (.symbol close) then return done.reverse
    let x ← item
    itemsUntil close item fuel false (x :: done)

/-- Whether the operand of a test without brackets starts here. -/
def startsTestOperand : Option Token → Bool
  | some (.word w) => w ≠ "and" ∧ w ≠ "or" ∧ w ≠ "else" ∧ w ≠ "is"
  | some (.string _) | some (.int _) | some (.float _) => true
  | some (.symbol s) => s = .plus ∨ s = .minus ∨ s = .openBracket ∨ s = .openBrace
  | _ => false

mutual

def expr : Nat → Read Expr
  | 0 => fail
  | fuel + 1 => nested do
    let e ← disjunction fuel
    choices fuel e

/-- The `if ... else ...` parts after an expression. -/
def choices : Nat → Expr → Read Expr
  | 0, _ => fail
  | fuel + 1, e => do
    if ← skip (.word "if") then
      let test ← disjunction fuel
      let no ← if ← skip (.word "else") then some <$> expr fuel else pure none
      choices fuel (.choose test e no)
    else return e

def disjunction : Nat → Read Expr
  | 0 => fail
  | fuel + 1 => do leftRow (conjunction fuel) orOp? fuel (← conjunction fuel)

def conjunction : Nat → Read Expr
  | 0 => fail
  | fuel + 1 => do leftRow (negation fuel) andOp? fuel (← negation fuel)

def negation : Nat → Read Expr
  | 0 => fail
  | fuel + 1 => do
    if ← skip (.word "not") then return .not (← negation fuel)
    else comparison fuel

def comparison : Nat → Read Expr
  | 0 => fail
  | fuel + 1 => do
    let first ← sum fuel
    let rest ← comparisons fuel
    return if rest.isEmpty then first else .compare first rest

def comparisons : Nat → Read (List (CompareOp × Expr))
  | 0 => fail
  | fuel + 1 => do
    match ← peek with
    | some (.word "not") =>
      let _ ← next
      expect (.word "in")
      let e ← sum fuel
      return (.notIn, e) :: (← comparisons fuel)
    | some t =>
      match compareOp? t with
      | some op =>
        let _ ← next
        let e ← sum fuel
        return (op, e) :: (← comparisons fuel)
      | none => return []
    | none => return []

def sum : Nat → Read Expr
  | 0 => fail
  | fuel + 1 => do leftRow (concatenation fuel) sumOp? fuel (← concatenation fuel)

def concatenation : Nat → Read Expr
  | 0 => fail
  | fuel + 1 => do leftRow (product fuel) concatOp? fuel (← product fuel)

def product : Nat → Read Expr
  | 0 => fail
  | fuel + 1 => do leftRow (power fuel) productOp? fuel (← power fuel)

def power : Nat → Read Expr
  | 0 => fail
  | fuel + 1 => do leftRow (operand fuel) powerOp? fuel (← operand fuel)

/-- A signed expression with its postfixes and filters. -/
def operand : Nat → Read Expr
  | 0 => fail
  | fuel + 1 => do
    let e ← signed fuel
    let e ← postfixes fuel e
    filters fuel e

def signed : Nat → Read Expr
  | 0 => fail
  | fuel + 1 => do
    if ← skip (.symbol .minus) then return .neg (← signed fuel)
    else nested (primary fuel)

def postfixes : Nat → Expr → Read Expr
  | 0, _ => fail
  | fuel + 1, e => do
    match ← peek with
    | some (.symbol .dot) =>
      let _ ← next
      match ← next with
      | some (.word w) => postfixes fuel (.attr e w)
      | some (.int n) => postfixes fuel (.item e (.const (.ofLiteral n)))
      | _ => fail
    | some (.symbol .openBracket) =>
      let _ ← next
      postfixes fuel (← subscript fuel e)
    | some (.symbol .openParen) =>
      let _ ← next
      let args ← arguments fuel
      postfixes fuel (.call e args)
    | _ => return e

/-- An index or a range after its opening bracket. -/
def subscript : Nat → Expr → Read Expr
  | 0, _ => fail
  | fuel + 1, e => do
    let start ← if (← peek) = some (.symbol .colon) then pure none else some <$> expr fuel
    if ← skip (.symbol .colon) then
      let here ← peek
      let stop ← if here = some (.symbol .closeBracket) ∨ here = some (.symbol .colon) then pure none
        else some <$> expr fuel
      let step ← if ← skip (.symbol .colon) then
          if (← peek) = some (.symbol .closeBracket) then pure none else some <$> expr fuel
        else pure none
      expect (.symbol .closeBracket)
      return .slice e start stop step
    else
      expect (.symbol .closeBracket)
      match start with
      | some i => return .item e i
      | none => fail

def filters : Nat → Expr → Read Expr
  | 0, _ => fail
  | fuel + 1, e => do
    match ← peek with
    | some (.symbol .pipe) =>
      let _ ← next
      let name ← dottedName fuel
      let args ← optionalArguments fuel
      filters fuel (.filter name (some e) args)
    | some (.word "is") =>
      let _ ← next
      let negated ← skip (.word "not")
      let name ← dottedName fuel
      let here ← peek
      let args ← if here = some (.symbol .openParen) then optionalArguments fuel
        else if startsTestOperand here then do
          let a ← signed fuel
          let a ← postfixes fuel a
          pure [.plain a]
        else pure []
      let e := .test name e args
      filters fuel (if negated then .not e else e)
    | _ => return e

def optionalArguments : Nat → Read (List Arg)
  | 0 => fail
  | fuel + 1 => do
    if ← skip (.symbol .openParen) then arguments fuel else return []

/-- The arguments after an opening bracket; a positional one may not follow a keyword. -/
def arguments : Nat → Read (List Arg)
  | 0 => fail
  | fuel + 1 => do
    let args ← itemsUntil .closeParen (argument fuel) fuel true []
    let named : Arg → Bool
      | .keyword .. | .spreadKeywords _ => true
      | _ => false
    let positional : Arg → Bool
      | .plain _ => true
      | _ => false
    if ((args.dropWhile fun a => !named a).any positional) then fail
    if 2000 < args.length then fail
    return args

def argument : Nat → Read Arg
  | 0 => fail
  | fuel + 1 => do
    if ← skip (.symbol .power) then return .spreadKeywords (← expr fuel)
    if ← skip (.symbol .times) then return .spread (← expr fuel)
    match ← expr fuel with
    | .name id =>
      if ← skip (.symbol .assign) then return .keyword id (← expr fuel)
      else return .plain (.name id)
    | e => return .plain e

def primary : Nat → Read Expr
  | 0 => fail
  | fuel + 1 => do
    match ← next with
    | some (.word w) =>
      if w = "true" ∨ w = "True" then return .const (.bool true)
      else if w = "false" ∨ w = "False" then return .const (.bool false)
      else if w = "none" ∨ w = "None" then return .const .null
      else return .name w
    | some (.string s) => return .const (.text (← adjacentStrings fuel s))
    | some (.int n) => return .const (.ofLiteral n)
    | some (.float x) => return .const (.float x)
    | some (.symbol .openParen) =>
      if ← skip (.symbol .closeParen) then return .list []
      let e ← expr fuel
      if (← peek) = some (.symbol .comma) then
        return .list (← itemsUntil .closeParen (expr fuel) fuel false [e])
      else
        expect (.symbol .closeParen)
        return e
    | some (.symbol .openBracket) => return .list (← itemsUntil .closeBracket (expr fuel) fuel true [])
    | some (.symbol .openBrace) => return .dict (← itemsUntil .closeBrace (entry fuel) fuel true [])
    | _ => fail

def entry : Nat → Read (Expr × Expr)
  | 0 => fail
  | fuel + 1 => do
    let k ← expr fuel
    expect (.symbol .colon)
    let v ← expr fuel
    return (k, v)

end

/-! ### Statements -/

/-- A name that may be assigned to, with the parts that follow it when `dotted` holds. -/
def assignable (dotted : Bool) : Nat → Read Target
  | 0 => fail
  | fuel + 1 => do
    let id ← expectWord
    if reserved.contains id then fail
    if dotted then
      let path ← parts fuel []
      return if path.isEmpty then .name id else .part id path
    else return .name id
where
  parts : Nat → List String → Read (List String)
    | 0, path => return path.reverse
    | fuel + 1, path => do
      if ← skip (.symbol .dot) then parts fuel ((← expectWord) :: path)
      else return path.reverse

/-- Whether no further target follows here. -/
def endsTargets : Option Token → Bool
  | some (.symbol .closeParen) | some .endValue | some .endBlock | some (.word "in") => true
  | _ => false

mutual

/-- One name, or any number of names between commas. -/
def target (dotted : Bool) : Nat → Read Target
  | 0 => fail
  | fuel + 1 => do
    if endsTargets (← peek) then return .tuple []
    let first ← targetItem dotted fuel
    if (← peek) = some (.symbol .comma) then return .tuple (← targets dotted fuel [first])
    else return first

def targetItem (dotted : Bool) : Nat → Read Target
  | 0 => fail
  | fuel + 1 => do
    if ← skip (.symbol .openParen) then
      let t ← target dotted fuel
      expect (.symbol .closeParen)
      return t
    else assignable dotted fuel

def targets (dotted : Bool) : Nat → List Target → Read (List Target)
  | 0, _ => fail
  | fuel + 1, done => do
    if ← skip (.symbol .comma) then
      if endsTargets (← peek) then return done.reverse
      else targets dotted fuel ((← targetItem dotted fuel) :: done)
    else return done.reverse

end

/-- One expression, or a list of several between commas. -/
def valueRow (fuel : Nat) : Read Expr := do
  let first ← expr fuel
  if (← peek) = some (.symbol .comma) then return .list (← more fuel [first]) else return first
where
  more : Nat → List Expr → Read (List Expr)
    | 0, _ => fail
    | n + 1, done => do
      if ← skip (.symbol .comma) then
        if (← peek) = some .endBlock then return done.reverse
        else more n ((← expr fuel) :: done)
      else return done.reverse

/-- Filters that apply one after another to the text of a block. -/
def filterChain : Nat → Option Expr → Read Expr
  | 0, _ => fail
  | fuel + 1, done => do
    if (← peek) = some .endBlock then
      match done with
      | some e => return e
      | none => fail
    if done.isSome then expect (.symbol .pipe)
    let name ← dottedName fuel
    let args ← optionalArguments fuel
    filterChain fuel (some (.filter name done args))

/-- The parameters of a macro after the opening bracket. -/
def signature : Nat → Signature → Read Signature
  | 0, _ => fail
  | fuel + 1, s => do
    if ← skip (.symbol .closeParen) then return s
    if !s.params.isEmpty then
      expect (.symbol .comma)
      if ← skip (.symbol .closeParen) then return s
    match ← assignable false fuel with
    | .name id =>
      let s := { s with params := s.params ++ [id] }
      if ← skip (.symbol .assign) then
        let d ← expr fuel
        signature fuel { s with defaults := s.defaults ++ [d] }
      else if !s.defaults.isEmpty then fail
      else signature fuel s
    | _ => fail

/-- The bindings of a `with` statement. -/
def bindings : Nat → List (Target × Expr) → Read (List (Target × Expr))
  | 0, _ => fail
  | fuel + 1, done => do
    if (← peek) = some .endBlock then return done.reverse
    if !done.isEmpty then expect (.symbol .comma)
    let t ← targetItem false fuel
    expect (.symbol .assign)
    let e ← expr fuel
    bindings fuel ((t, e) :: done)

/-- Whether a statement is text of white space alone. -/
def isBlankText : Stmt → Bool
  | .text s => s.toList.all Text.isBlank
  | _ => false

def isCall : Expr → Bool
  | .call .. => true
  | _ => false

/-- Names after `import`, each with an optional new name. -/
def importedNames : Nat → Bool → Read Unit
  | 0, _ => fail
  | fuel + 1, first => do
    skipContext
    if (← peek) = some .endBlock then return ()
    if !first then
      expect (.symbol .comma)
      if (← peek) = some .endBlock then return ()
    let _ ← assignable false fuel
    if ← skip (.word "as") then
      let _ ← assignable false fuel
    importedNames fuel false

mutual

/-- Text, placeholders and statements up to a statement that starts with one of the words in `ends`, which is left
to be read; the end of the template ends them too. -/
def body (ends : List String) : Nat → List Stmt → Read (List Stmt)
  | 0, _ => fail
  | fuel + 1, done => do
    match ← next with
    | none => return done.reverse
    | some (.data s) => body ends fuel (.text s :: done)
    | some .beginValue =>
      let e ← expr fuel
      expect .endValue
      body ends fuel (.emit e :: done)
    | some .beginBlock =>
      match ← peek with
      | none => fail
      | some (.word w) =>
        if ends.contains w then return done.reverse
        else
          let s ← nested (statement fuel)
          expect .endBlock
          body ends fuel (s :: done)
      | some _ => fail
    | some _ => fail

def statement : Nat → Read Stmt
  | 0 => fail
  | fuel + 1 => do
    match ← expectWord with
    | "for" =>
      let t ← target false fuel
      expect (.word "in")
      let source ← disjunction fuel
      let guard ← if ← skip (.word "if") then some <$> expr fuel else pure none
      let recursive ← skip (.word "recursive")
      expect .endBlock
      let items ← body ["endfor", "else"] fuel []
      let otherwise ← if ← skip (.word "else") then do
          expect .endBlock
          body ["endfor"] fuel []
        else pure []
      let _ ← next
      return .loop t source guard recursive items otherwise
    | "if" => condition fuel
    | "with" =>
      let bs ← bindings fuel []
      expect .endBlock
      let b ← body ["endwith"] fuel []
      let _ ← next
      return .bind bs b
    | "set" =>
      let t ← target true fuel
      let single : Bool := match t with
        | .tuple _ => false
        | _ => true
      let here ← peek
      if single ∧ (here = some .endBlock ∨ here = some (.symbol .pipe)) then
        let filter ← if ← skip (.symbol .pipe) then some <$> filterChain fuel none else pure none
        expect .endBlock
        let b ← body ["endset"] fuel []
        let _ ← next
        return .setBlock t filter b
      else
        expect (.symbol .assign)
        return .set t (← valueRow fuel)
    | "autoescape" =>
      let e ← expr fuel
      expect .endBlock
      let b ← body ["endautoescape"] fuel []
      let _ ← next
      return .autoEscape e b
    | "filter" =>
      let f ← filterChain fuel none
      expect .endBlock
      let b ← body ["endfilter"] fuel []
      let _ ← next
      return .filterBlock f b
    | "block" =>
      let input ← get
      if input.inMacro then fail
      let name ← expectWord
      if input.sections.contains name then fail
      modify fun input => { input with sections := name :: input.sections }
      let _ ← skip (.word "scoped")
      let required ← skip (.word "required")
      expect .endBlock
      let b ← body ["endblock"] fuel []
      if required ∧ !b.all isBlankText then fail
      let _ ← next
      match ← peek with
      | some (.word w) =>
        if w ≠ name then fail
        let _ ← next
      | _ => pure ()
      return .section name required b
    | "macro" =>
      let name ← expectWord
      expect (.symbol .openParen)
      let s ← signature fuel ⟨[], []⟩
      let b ← definition "endmacro" fuel
      return .define name s b
    | "call" =>
      let s ← if ← skip (.symbol .openParen) then signature fuel ⟨[], []⟩ else pure ⟨[], []⟩
      let e ← expr fuel
      if !isCall e then fail
      let b ← definition "endcall" fuel
      return .callBlock e s b
    | "do" =>
      let e ← expr fuel
      if !isCall e then fail
      return .run e
    | "extends" => return .extend (← expr fuel)
    | "include" =>
      let e ← expr fuel
      skipContext
      let ignoreMissing ← skip (.word "ignore")
      if ignoreMissing then expect (.word "missing")
      skipContext
      return .load e ignoreMissing none
    | "import" =>
      let e ← expr fuel
      expect (.word "as")
      match ← assignable false fuel with
      | .name id =>
        skipContext
        return .load e false (some id)
      | _ => fail
    | "from" =>
      let e ← expr fuel
      expect (.word "import")
      importedNames fuel true
      return .load e false none
    | _ => fail

/-- The rest of an `if` statement after its first word. -/
def condition : Nat → Read Stmt
  | 0 => fail
  | fuel + 1 => do
    let test ← disjunction fuel
    expect .endBlock
    let yes ← body ["endif", "else", "elif"] fuel []
    match ← next with
    | some (.word "else") =>
      expect .endBlock
      let no ← body ["endif"] fuel []
      let _ ← next
      return .branch test yes no
    | some (.word "elif") => return .branch test yes [← condition fuel]
    | _ => return .branch test yes []

/-- The body of a macro. -/
def definition (close : String) : Nat → Read (List Stmt)
  | 0 => fail
  | fuel + 1 => do
    expect .endBlock
    let outer := (← get).inMacro
    modify fun input => { input with inMacro := true }
    let b ← body [close] fuel []
    let _ ← next
    modify fun input => { input with inMacro := outer }
    return b

end

end Read

/-- More fuel than reading these words can use. -/
def readingFuel (words : List Token) : Nat := 40 * (words.length + 2)

/-- Reads a whole template. -/
def readTemplate (text : String) : Except Fault (List Stmt) :=
  let words := Token.ofTemplate text
  (Read.body [] (readingFuel words) []).run' ⟨words, 0, [], false⟩

/-- Reads an expression with nothing after it. -/
def readExpression (text : String) : Except Fault Expr :=
  let words := Token.ofExpression text
  let whole : Read Expr := do
    let e ← Read.expr (readingFuel words)
    match ← Read.next with
    | none => return e
    | some _ => Read.fail
  whole.run' ⟨words, 0, [], false⟩

end Casebook.Template
