import Casebook.Decimal.Numeral
import Casebook.Text.Basic

/-! The tokens of an HTML or XML text.  Reading is lenient: attributes may lack a value or its quotes, faulty ones
are dropped, and tags need not match; comments, declarations and instructions leave no token. -/
namespace Casebook.Markup

inductive Token where
  /-- A start tag, with its name and attributes as they are written. -/
  | opening (name : String) (attributes : List (String × String))
  /-- A tag that ends itself. -/
  | empty (name : String) (attributes : List (String × String))
  | closing (name : String)
  /-- Text between tags, with its ends trimmed and its entities replaced. -/
  | text (content : String)
  /-- A literal section, as it is. -/
  | literal (content : String)
deriving DecidableEq, Repr

/-- Why a text is no markup. -/
inductive Fault where
  | unclosedTag
  | unclosedComment
  | unclosedLiteral
  | unclosedDoctype
  | unclosedInstruction
  | unknownDeclaration
  | namelessDoctype
  /-- An end tag with no start tag left to match. -/
  | unmatchedEnd
  | noElements
deriving DecidableEq, Repr

def Fault.message : Fault → String
  | .noElements => "cannot parse body as HTML or XML: no elements"
  | _ => "cannot parse body as HTML or XML"

/-- The blanks of markup. -/
def isSpace (c : Char) : Bool := c = ' ' || c = '\t' || c = '\n' || c = '\r'

/-! ### Entities -/

/-- The character of a number, which must be one and not zero. -/
def charOf? (n : Nat) : Option Char :=
  if h : n.isValidChar then (if n = 0 then none else some (Char.ofNatAux n h)) else none

/-- The character that an entity stands for. -/
def entity? (name : List Char) : Option Char :=
  match name with
  | '#' :: 'x' :: digits => (Decimal.natIn? 16 digits).bind charOf?
  | '#' :: digits => (Decimal.natIn? 10 digits).bind charOf?
  | _ =>
    match String.ofList name with
    | "lt" => some '<'
    | "gt" => some '>'
    | "amp" => some '&'
    | "apos" => some '\''
    | "quot" => some '"'
    | _ => none

/-- Replaces entities; `started` holds what was read since an ampersand, in reverse. -/
def unescapeFrom? : Option (List Char) → List Char → Option (List Char)
  | none, [] => some []
  | some _, [] => none
  | none, c :: rest =>
    if c = '&' then unescapeFrom? (some []) rest else (unescapeFrom? none rest).map (c :: ·)
  | some name, c :: rest =>
    if c = ';' then (entity? name.reverse).bind fun e => (unescapeFrom? none rest).map (e :: ·)
    else if c = '&' then none
    else unescapeFrom? (some (c :: name)) rest

/-- A text with its entities replaced; one with an entity that has no meaning stays as it is. -/
def unescape (cs : List Char) : List Char := (unescapeFrom? none cs).getD cs

/-! ### Attributes -/

/-- What comes after the name of an attribute. -/
inductive AfterKey where
  | nothing
  /-- The next attribute begins here. -/
  | another (rest : List Char)
  | equals (rest : List Char)

def afterKey (cs : List Char) : AfterKey :=
  match cs.dropWhile isSpace with
  | [] => .nothing
  | '=' :: rest => .equals rest
  | rest => .another rest

/-- A value in quotes, and what follows the closing one. -/
def quotedValue? (quote : Char) (cs : List Char) : Option (List Char × List Char) :=
  match cs.dropWhile (· != quote) with
  | [] => none
  | _ :: rest => some (cs.takeWhile (· != quote), rest)

/-- The attributes in the inside of a tag.  A name that was `seen` is passed over with its value. -/
def attributesFrom : Nat → List (List Char) → List Char → List (List Char × List Char)
  | 0, _, _ => []
  | fuel + 1, seen, cs =>
    match cs.dropWhile isSpace with
    | [] => []
    | c :: more =>
      let isKey := fun x => x != '=' && !isSpace x
      let key := c :: more.takeWhile isKey
      let known := seen.contains key
      let entry (value : List Char) (rest : List Char) :=
        (key, value) :: attributesFrom fuel (key :: seen) rest
      match afterKey (more.dropWhile isKey) with
      | .nothing => if known then [] else [(key, [])]
      | .another rest => if known then attributesFrom fuel seen rest else entry [] rest
      | .equals rest =>
        if known then attributesFrom fuel seen (rest.dropWhile fun x => !isSpace x)
        else match rest.dropWhile isSpace with
          | [] => []
          | q :: value =>
            if q = '"' ∨ q = '\'' then
              match quotedValue? q value with
              | some (inside, rest) => entry inside rest
              | none => []
            else entry (q :: value.takeWhile fun x => !isSpace x) (value.dropWhile fun x => !isSpace x)

def attributes (cs : List Char) : List (String × String) :=
  (attributesFrom (cs.length + 1) [] cs).map fun (k, v) => (String.ofList k, String.ofList (unescape v))

/-! ### Tags and other markup -/

/-- The inside of a tag up to the `>` that is not in quotes, and what follows it. -/
def splitTag : Option Char → List Char → Option (List Char × List Char)
  | _, [] => none
  | none, c :: rest =>
    if c = '>' then some ([], rest)
    else (splitTag (if c = '"' ∨ c = '\'' then some c else none) rest).map fun (a, b) => (c :: a, b)
  | some q, c :: rest =>
    (splitTag (if c = q then none else some q) rest).map fun (a, b) => (c :: a, b)

/-- The text before the first `>` whose reversed preceding text satisfies `done`, and what follows. -/
def splitAt (done : List Char → Bool) (before : List Char) : List Char → Option (List Char × List Char)
  | [] => none
  | c :: rest =>
    if c = '>' && done before then some (before.reverse, rest) else splitAt done (c :: before) rest

/-- The text up to the `>` that is not matched by a `<`, and what follows. -/
def splitNested : Nat → List Char → Option (List Char × List Char)
  | _, [] => none
  | depth, c :: rest =>
    let push := fun (p : List Char × List Char) => (c :: p.1, p.2)
    if c = '<' then (splitNested (depth + 1) rest).map push
    else if c = '>' then
      match depth with
      | 0 => some ([], rest)
      | depth + 1 => (splitNested depth rest).map push
    else (splitNested depth rest).map push

/-- The token of a tag that is no end tag, from its inside. -/
def Token.ofTag (inside : List Char) : Token :=
  let isName := fun c => !isSpace c
  let make (f : String → List (String × String) → Token) (cs : List Char) :=
    f (String.ofList (cs.takeWhile isName)) (attributes (cs.dropWhile isName))
  match inside.reverse with
  | '/' :: before => make .empty before.reverse
  | _ => make .opening inside

/-- What stands behind `<`: perhaps a token, and the rest. -/
abbrev Scanned := Except Fault (Option Token × List Char)

/-- Markup that begins with `<!`; `cs` begins with the exclamation mark. -/
def scanDeclaration (cs : List Char) : Scanned :=
  match cs with
  | _ :: '[' :: _ =>
    match splitAt (fun before => before.take 2 = [']', ']']) [] cs with
    | some (inside, rest) =>
      if "![CDATA[".toList.isPrefixOf inside then
        let content := (inside.drop 8).take (inside.length - 10)
        .ok (some (.literal (String.ofList content)), rest)
      else .error .unclosedLiteral
    | none => .error .unclosedLiteral
  | _ :: '-' :: _ =>
    match splitAt (fun before => before.take 2 = ['-', '-'] && 4 < before.length) [] cs with
    | some (inside, rest) =>
      if "!--".toList.isPrefixOf inside then .ok (none, rest) else .error .unclosedComment
    | none => .error .unclosedComment
  | _ :: d :: _ =>
    if d = 'D' ∨ d = 'd' then
      match splitNested 0 cs with
      | some (inside, rest) =>
        if (inside.take 8).map Char.toLower = "!doctype".toList then
          if (inside.drop 8).all isSpace then .error .namelessDoctype else .ok (none, rest)
        else .error .unclosedDoctype
      | none => .error .unclosedDoctype
    else .error .unknownDeclaration
  | _ => .error .unknownDeclaration

/-- Markup that begins with `<?`; `cs` begins with the question mark. -/
def scanInstruction (cs : List Char) : Scanned :=
  match splitAt (fun before => before.head? = some '?') [] cs with
  | some (inside, rest) => if 1 < inside.length then .ok (none, rest) else .error .unclosedInstruction
  | none => .error .unclosedInstruction

/-- An end tag; `cs` begins with the slash. -/
def scanClosing (cs : List Char) : Scanned :=
  match splitTag none cs with
  | some (inside, rest) =>
    let name := ((inside.drop 1).reverse.dropWhile isSpace).reverse
    .ok (some (.closing (String.ofList name)), rest)
  | none => .error .unclosedTag

def scanMarkup (cs : List Char) : Scanned :=
  match cs with
  | '!' :: _ => scanDeclaration cs
  | '?' :: _ => scanInstruction cs
  | '/' :: _ => scanClosing cs
  | _ =>
    match splitTag none cs with
    | some (inside, rest) => .ok (some (.ofTag inside), rest)
    | none => .error .unclosedTag

/-- The text up to the next tag as a token, unless it is blank. -/
def textToken? (cs : List Char) : Option Token :=
  let trimmed := Text.trimList isSpace cs
  if trimmed.isEmpty then none else some (.text (String.ofList (unescape trimmed)))

/-- How many start tags wait for an end tag after a token. -/
def openAfter (count : Nat) : Token → Except Fault Nat
  | .opening .. => .ok (count + 1)
  | .closing _ => if count = 0 then .error .unmatchedEnd else .ok (count - 1)
  | _ => .ok count

/-- The tokens of a text, of which `count` start tags before it wait for an end tag. -/
def tokensFrom : Nat → Nat → List Char → Except Fault (List Token)
  | 0, _, _ => .ok []
  | fuel + 1, count, cs =>
    let before := (textToken? (cs.takeWhile (· != '<'))).toList
    match cs.dropWhile (· != '<') with
    | [] => .ok before
    | _ :: rest => do
      let (token, rest) ← scanMarkup rest
      let count ← match token with
        | some t => openAfter count t
        | none => pure count
      return before ++ token.toList ++ (← tokensFrom fuel count rest)

/-- The tokens of a text; a mark of the byte order at its beginning does not count. -/
def tokens (text : String) : Except Fault (List Token) :=
  let cs := match text.toList with
    | '\uFEFF' :: rest => rest
    | cs => cs
  tokensFrom (cs.length + 1) 0 cs

end Casebook.Markup
