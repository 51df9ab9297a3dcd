import Casebook.Text.Form
import Casebook.Yaml.Scalar

/-! Texts as tokens.  Collections without brackets begin and end where the indentation changes.  Whether a scalar is
a key shows only at the colon behind it, which then marks it as one. -/
namespace Casebook.Yaml

inductive Token where
  | version (major minor : Nat)
  | tagShorthand (handle expansion : String)
  | documentStart
  | documentEnd
  | sequenceStart
  | mappingStart
  | collectionEnd
  | flowSequenceStart
  | flowSequenceEnd
  | flowMappingStart
  | flowMappingEnd
  | item
  | comma
  | key
  | value
  | alias (name : String)
  | anchor (name : String)
  | tag (handle suffix : String)
  | scalar (style : ScalarStyle) (text : String)
deriving DecidableEq

/-- A place where a key may have begun, before the token with this number. -/
structure KeyStart where
  token : Nat
  index : Nat
  line : Nat
  column : Nat
  /-- Nothing but a key may stand here. -/
  required : Bool

/-- A text that has been read up to a cursor. -/
structure Scan where
  cursor : Cursor
  tokens : Array Token
  /-- The column of the innermost collection without brackets, and those of the collections around it. -/
  indent : Int
  outer : List Int
  /-- Where a key may have begun, innermost first: one entry more than there are open brackets. -/
  keyStart : Option KeyStart
  outerKeys : List (Option KeyStart)
  keyAllowed : Bool

abbrev Scanner := StateT Scan Option

namespace Scan

def start (cs : List Char) : Scan := ⟨.start cs, #[], -1, [], none, [], true⟩

def inFlow (s : Scan) : Bool := !s.outerKeys.isEmpty

end Scan

namespace Scanner

def refuse {α : Type} : Scanner α := fun _ => none

def push (t : Token) : Scanner Unit := modify fun s => { s with tokens := s.tokens.push t }

def forward (n : Nat) : Scanner Unit := modify fun s => { s with cursor := s.cursor.forward n }

def allowKey (b : Bool) : Scanner Unit := modify fun s => { s with keyAllowed := b }

/-- Runs a reader at the cursor. -/
def read {α : Type} (reader : Cursor → Option (α × Cursor)) : Scanner α := fun s =>
  (reader s.cursor).map fun (x, c) => (x, { s with cursor := c })

/-! ### Keys and indentation -/

/-- Gives up the key that may have begun. -/
def dropKey : Scanner Unit := do
  let s ← get
  if s.keyStart.any (·.required) then refuse
  else set { s with keyStart := none }

/-- Notes that a key may begin here. -/
def noteKey : Scanner Unit := do
  let s ← get
  if s.keyAllowed then
    dropKey
    let c := s.cursor
    modify fun t => { t with keyStart := some ⟨s.tokens.size, c.index, c.line, c.column, !s.inFlow && s.indent == (c.column : Int)⟩ }

/-- A key ends on its line and within 1024 characters. -/
def isStale (c : Cursor) (k : KeyStart) : Bool := k.line < c.line || k.index + 1024 < c.index

/-- Gives up keys that can no longer be completed. -/
def dropStaleKeys : Scanner Unit := do
  let s ← get
  let stale := fun (k : Option KeyStart) => k.any (isStale s.cursor)
  if (s.keyStart :: s.outerKeys).any fun k => stale k && k.any (·.required) then refuse
  else
    let fresh := fun k => if stale k then none else k
    set { s with keyStart := fresh s.keyStart, outerKeys := s.outerKeys.map fresh }

/-- Begins a collection before the token with number `place` if the column is beyond the indentation. -/
def openAt (column place : Nat) (t : Token) : Scanner Unit := modify fun s =>
  if !s.inFlow && s.indent < (column : Int) then
    { s with indent := column, outer := s.indent :: s.outer, tokens := s.tokens.insertIdxIfInBounds place t }
  else s

/-- Begins a collection here. -/
def openHere (t : Token) : Scanner Unit := do
  let s ← get
  openAt s.cursor.column s.tokens.size t

/-- The collections that end at a column: the number of their ends, and the state after them. -/
def closings (column : Int) : Int → List Int → Nat × Int × List Int
  | indent, [] => (0, indent, [])
  | indent, next :: outer =>
    if column < indent then
      let (n, rest) := closings column next outer
      (n + 1, rest)
    else (0, indent, next :: outer)

/-- Ends the collections that are indented beyond a column. -/
def closeTo (column : Int) : Scanner Unit := modify fun s =>
  if s.inFlow then s
  else
    let (n, indent, outer) := closings column s.indent s.outer
    { s with indent, outer, tokens := s.tokens ++ Array.replicate n Token.collectionEnd }

/-! ### Blanks -/

/-- Moves over blanks, comments and line breaks.  Outside of brackets a tab is refused where a key may begin. -/
def skipToToken : Nat → Scanner Unit
  | 0 => refuse
  | fuel + 1 => do
    let s ← get
    let skips := fun d => d = ' ' || ((s.inFlow || !s.keyAllowed) && d = '\t')
    let c := (s.cursor.skipWhile skips).skipComment
    if c.sees isBreak then
      set { s with cursor := c.nextLine.2, keyAllowed := s.keyAllowed || !s.inFlow }
      skipToToken fuel
    else set { s with cursor := c }

/-! ### Names and tags -/

/-- One or more letters of a name. -/
def name (c : Cursor) : Option (String × Cursor) :=
  let w := c.rest.takeWhile isNameChar
  if w.isEmpty then none else some (String.ofList w, c.forward w.length)

/-- The name of an anchor, which a blank or a sign follows. -/
def anchorName (c : Cursor) : Option (String × Cursor) := do
  let (n, c) ← name c
  if endsWord c.rest || c.sees fun d => "?:,]\x7d%@`".toList.contains d then some (n, c) else none

/-- The bytes of a sequence of percent escapes that stand for one character. -/
def escapedChar? (cs : List Char) : Option (Char × Nat) := do
  let byte (i : Nat) : Option Nat :=
    match cs.drop (3 * i) with
    | '%' :: a :: b :: _ => Decimal.natIn? 16 [a, b]
    | _ => none
  let first ← byte 0
  let size ← if first < 0x80 then some 1 else if first / 32 = 6 then some 2
    else if first / 16 = 14 then some 3 else if first / 8 = 30 then some 4 else none
  let lead := if size = 1 then first else first % 1 <<< (7 - size)
  let code ← (List.range (size - 1)).foldlM (fun n i => do
    let b ← byte (i + 1)
    if b / 64 = 2 then some (64 * n + b % 64) else none) lead
  some (Char.ofNat code, 3 * size)

def isTagChar (verbatim : Bool) (d : Char) : Bool :=
  isNameChar d || ";/?:@&=+$.!~*'()".toList.contains d || (verbatim && ",[]".toList.contains d)

/-- The characters of a tag, with percent escapes undone. -/
def tagText? (verbatim : Bool) : Nat → String → Cursor → Option (String × Cursor)
  | 0, _, _ => none
  | fuel + 1, done, c =>
    match c.peek? with
    | none => some (done, c)
    | some d =>
      if d = '%' then
        match escapedChar? c.rest with
        | some (e, size) => tagText? verbatim fuel (done.push e) (c.forward size)
        | none => none
      else if isTagChar verbatim d then tagText? verbatim fuel (done.push d) (c.forward 1)
      else some (done, c)

/-- The characters of a tag, of which there is at least one. -/
def someTagText (verbatim : Bool) (c : Cursor) : Option (String × Cursor) :=
  (tagText? verbatim (c.rest.length + 1) "" c).filter fun (t, _) => !t.isEmpty

/-- The handle of a tag: an exclamation mark, which may be repeated after letters. -/
def handle (c : Cursor) : String × Cursor :=
  let w := (c.rest.drop 1).takeWhile isNameChar
  let size := w.length + 1
  let size := if (c.rest.drop size).head? = some '!' then size + 1 else size
  (String.ofList (c.rest.take size), c.forward size)

/-- A tag: `!<text>`, `!handle!suffix`, `!suffix` or `!`.  A handle that is no handle belongs to the suffix. -/
def tagParts (c : Cursor) : Option ((String × String) × Cursor) := do
  if (c.rest.drop 1).head? = some '<' then
    let (t, c) ← someTagText true (c.forward 2)
    if c.peek? = some '>' then some (("", t), c.forward 1) else none
  else
    let (h, after) := handle c
    if h.length > 1 && h.endsWith "!" then
      let (t, c) ← someTagText false after
      some ((h, t), c)
    else
      let (t, c) ← tagText? false (after.rest.length + 1) ((h.drop 1).toString) after
      some (if t.isEmpty then ("", "!") else ("!", t), c)

/-! ### Directives -/

/-- A number of at most nine digits. -/
def smallNumber? (c : Cursor) : Option (Nat × Cursor) :=
  let ds := c.rest.takeWhile Char.isDigit
  if ds.isEmpty ∨ 9 < ds.length then none else some (Decimal.natOfDigits ds, c.forward ds.length)

/-- A directive after its sign. -/
def directive (c : Cursor) : Option (Token × Cursor) := do
  let (n, c) ← name c
  if !endsWord c.rest then none
  let c := c.skipWhile isBlank
  let (t, c) ← match n with
    | "YAML" => do
      let (major, c) ← smallNumber? c
      if c.peek? ≠ some '.' then none
      let (minor, c) ← smallNumber? (c.forward 1)
      some (Token.version major minor, c)
    | "TAG" => do
      if c.peek? ≠ some '!' then none
      let (h, c) := handle c
      if !(h = "!" || (h.length > 1 && h.endsWith "!")) || !c.sees isBlank then none
      let (expansion, c) ← someTagText true (c.skipWhile isBlank)
      if !endsWord c.rest then none
      some (Token.tagShorthand h expansion, c)
    | _ => none
  some (t, ← c.restOfLine?)

/-! ### Tokens -/

/-- A token that stands between documents. -/
def betweenDocuments (token : Scanner Token) : Scanner Unit := do
  closeTo (-1)
  dropKey
  allowKey false
  push (← token)

/-- A sign after which a key may or may not begin. -/
def sign (t : Token) (keyAfter : Bool) : Scanner Unit := do
  dropKey
  allowKey keyAfter
  forward 1
  push t

def openBracket (t : Token) : Scanner Unit := do
  noteKey
  modify fun s => { s with keyStart := none, outerKeys := s.keyStart :: s.outerKeys }
  allowKey true
  forward 1
  push t

def closeBracket (t : Token) : Scanner Unit := do
  dropKey
  modify fun s => match s.outerKeys with
    | [] => s
    | k :: outer => { s with keyStart := k, outerKeys := outer }
  allowKey false
  forward 1
  push t

/-- The sign of an item or of a key, which begins a collection where there is none. -/
def entrySign (opening t : Token) (keyAfter : Bool) : Scanner Unit := do
  let s ← get
  if !s.inFlow then
    if s.keyAllowed then openHere opening else refuse
  sign t keyAfter

/-- The colon in front of a value.  What was noted as a key becomes one. -/
def valueSign : Scanner Unit := do
  let s ← get
  match s.keyStart with
  | some k =>
    set { s with keyStart := none, tokens := s.tokens.insertIdxIfInBounds k.token Token.key }
    openAt k.column k.token .mappingStart
    allowKey false
    forward 1
    push .value
  | none => entrySign .mappingStart .value (!s.inFlow)

/-- A token that may belong to a key. -/
def inKey (token : Scanner Token) : Scanner Unit := do
  noteKey
  allowKey false
  push (← token)

def tagToken : Scanner Token := do
  let (h, t) ← read tagParts
  let s ← get
  if endsWord s.cursor.rest || (s.inFlow && s.cursor.peek? = some ',') then return .tag h t else refuse

def quotedToken (quote : Char) : Scanner Token := do
  forward 1
  return .scalar .quoted (← read fun c => quoted? quote (c.rest.length + 1) "" c)

def blockToken (style : ScalarStyle) : Scanner Unit := do
  dropKey
  allowKey true
  forward 1
  let s ← get
  push (.scalar style (← read (block? style s.indent)))

/-- After a plain scalar that a line break follows, a key may begin. -/
def plainToken : Scanner Token := do
  let s ← get
  let (t, gap) ← read fun c =>
    (plain? s.inFlow (s.indent + 1) (c.rest.length + 1) "" .empty c).map fun (t, gap, c) => ((t, gap), c)
  if gap.lineBreak.isSome then allowKey true
  return .scalar .plain t

/-- Whether a plain scalar may begin with these characters. -/
def startsPlain (inFlow : Bool) (cs : List Char) : Bool :=
  match cs with
  | [] => false
  | d :: rest =>
    if d = '-' then !rest.head?.any isBlank
    else if d = '?' || d = ':' then !inFlow && !endsWord rest
    else !endsWord cs && !"[]\x7b\x7d,#&*!|>'\"%@`".toList.contains d

/-- Reads a token; tells whether there was one. -/
def token : Scanner Bool := do
  let s ← get
  skipToToken (s.cursor.rest.length + 1)
  dropStaleKeys
  let s ← get
  closeTo s.cursor.column
  match s.cursor.rest with
  | [] =>
    closeTo (-1)
    dropKey
    return false
  | d :: rest =>
    let endsSign := endsWord rest
    if s.cursor.column = 0 && d = '%' then betweenDocuments (do forward 1; read directive)
    else if s.cursor.atDocumentSign then
      betweenDocuments (do forward 3; return if d = '-' then .documentStart else .documentEnd)
    else if d = '[' then openBracket .flowSequenceStart
    else if d = '{' then openBracket .flowMappingStart
    else if d = ']' then closeBracket .flowSequenceEnd
    else if d = '}' then closeBracket .flowMappingEnd
    else if d = ',' then sign .comma true
    else if d = '-' && endsSign then entrySign .sequenceStart .item true
    else if d = '?' && (s.inFlow || endsSign) then entrySign .mappingStart .key (!s.inFlow)
    else if d = ':' && (s.inFlow || endsSign) then valueSign
    else if d = '*' then inKey (do forward 1; return .alias (← read anchorName))
    else if d = '&' then inKey (do forward 1; return .anchor (← read anchorName))
    else if d = '!' then inKey tagToken
    else if d = '|' && !s.inFlow then blockToken .literal
    else if d = '>' && !s.inFlow then blockToken .folded
    else if d = '\'' || d = '"' then inKey (quotedToken d)
    else if startsPlain s.inFlow s.cursor.rest then inKey plainToken
    else refuse
    return true

/-- Reads the tokens up to the end of the text. -/
def tokens : Nat → Scanner Unit
  | 0 => refuse
  | fuel + 1 => do if ← token then tokens fuel

end Scanner

namespace Token

/-- The tokens of a text.  Byte order marks in front of it count for nothing. -/
def ofText? (text : String) : Option (List Token) :=
  let mark := fun (d : Char) => d.toNat = 0xFEFF
  let cs := if text.toList.head?.any mark then text.toList.drop 1 else text.toList
  if !cs.all isAllowed then none
  else
    let cs := if cs.head?.any mark then cs.drop 1 else cs
    ((Scanner.tokens (cs.length + 1)).run (.start cs)).map fun (_, s) => s.tokens.toList

end Token

end Casebook.Yaml
