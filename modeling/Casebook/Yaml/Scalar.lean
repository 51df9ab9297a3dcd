import Casebook.Decimal.Numeral
import Casebook.Yaml.Cursor

/-! The text of scalars: plain, quoted, and in blocks of lines.  Lines are folded: a single line break counts as a
space, and of several the first does not count. -/
namespace Casebook.Yaml

inductive ScalarStyle where
  | plain | quoted | literal | folded
deriving DecidableEq

/-- The blanks and line breaks between two words. -/
structure Gap where
  blanks : List Char
  /-- The first line break, if there is any; a line break that was escaped is empty. -/
  lineBreak : Option (List Char)
  moreBreaks : List Char

namespace Gap

def empty : Gap := ⟨[], none, []⟩

/-- A gap that begins with an escaped line break. -/
def escaped : Gap := ⟨[], some [], []⟩

/-- What folding leaves of a gap. -/
def text (g : Gap) : List Char :=
  match g.lineBreak with
  | none => g.blanks
  | some ['\n'] => if g.moreBreaks.isEmpty then [' '] else g.moreBreaks
  | some b => b ++ g.moreBreaks

/-- Reads blanks and line breaks.  A tab in front of column `indent` of a further line is refused. -/
def read? (indent : Int) : Nat → Gap → Cursor → Option (Gap × Cursor)
  | 0, _, _ => none
  | fuel + 1, g, c =>
    match c.peek? with
    | none => some (g, c)
    | some d =>
      if isBlank d then
        if g.lineBreak.isSome then
          if c.column < indent ∧ d = '\t' then none else read? indent fuel g (c.forward 1)
        else read? indent fuel { g with blanks := g.blanks ++ [d] } (c.forward 1)
      else if isBreak d then
        let (b, c) := c.nextLine
        if g.lineBreak.isSome then read? indent fuel { g with moreBreaks := g.moreBreaks ++ b } c
        else read? indent fuel { g with blanks := [], lineBreak := some b } c
      else some (g, c)

end Gap

/-! ### Plain scalars -/

def flowSigns : List Char := [',', '[', ']', '{', '}']

/-- The characters up to the next blank or sign.  Inside brackets a colon right before a sign is refused. -/
def plainWord? (flow : Bool) : List Char → Option (List Char)
  | [] => some []
  | d :: rest =>
    if endsWord (d :: rest) then some []
    else if flow && d = ':' && rest.head?.any (fun e => e = '?' || flowSigns.contains e) then none
    else if (d = ':' && endsWord rest) || (flow && flowSigns.contains d) then some []
    else (plainWord? flow rest).map (d :: ·)

/-- A plain scalar: words whose further lines are indented by `indent` columns outside of brackets.  Also tells the
gap after the last word, over which the cursor has moved. -/
def plain? (flow : Bool) (indent : Int) : Nat → String → Gap → Cursor → Option (String × Gap × Cursor)
  | 0, _, _, _ => none
  | fuel + 1, done, gap, c =>
    if c.atDocumentSign || c.peek? = some '#' then some (done, gap, c)
    else do
      let word ← plainWord? flow c.rest
      if word.isEmpty then some (done, gap, c)
      else
        let done := done ++ String.ofList (gap.text ++ word)
        let (gap, c) ← Gap.read? indent (c.rest.length + 1) .empty (c.forward word.length)
        if gap.text.isEmpty then some (done, gap, c)
        else if !flow && (c.column : Int) < indent then some (done, gap, c)
        else plain? flow indent fuel done gap c

/-! ### Quoted scalars -/

/-- A character by its code, written in a fixed number of hexadecimal digits. -/
def codePoint? (size : Nat) (cs : List Char) : Option Char := do
  let digits := cs.take size
  if digits.length ≠ size then none
  let n ← Decimal.natIn? 16 digits
  if (0xD800 ≤ n ∧ n ≤ 0xDFFF) ∨ 0x10FFFF < n then none
  some (Char.ofNat n)

/-- The escapes of one letter. -/
def letterEscapes : List (Char × Nat) :=
  [('0', 0), ('a', 7), ('b', 8), ('t', 9), ('\t', 9), ('n', 10), ('v', 11), ('f', 12), ('r', 13), ('e', 27),
    (' ', 32), ('"', 34), ('/', 47), ('\\', 92), ('N', 0x85), ('_', 0xA0), ('L', 0x2028), ('P', 0x2029)]

/-- The character of an escape after its backslash, and the number of characters that it takes. -/
def escape? : List Char → Option (Char × Nat)
  | [] => none
  | d :: rest =>
    let coded (size : Nat) := (codePoint? size rest).map (·, size + 1)
    match d with
    | 'x' => coded 2
    | 'u' => coded 4
    | 'U' => coded 8
    | _ => (letterEscapes.lookup d).map fun n => (Char.ofNat n, 1)

/-- The characters up to the next blank or the closing quote, and whether an escaped line break ended them. -/
def quotedWord? (quote : Char) : Nat → String → Cursor → Option (String × Bool × Cursor)
  | 0, _, _ => none
  | fuel + 1, done, c =>
    match c.rest with
    | [] => some (done, false, c)
    | d :: rest =>
      if endsWord (d :: rest) then some (done, false, c)
      else if d = quote then
        if quote = '\'' ∧ rest.head? = some '\'' then quotedWord? quote fuel (done.push quote) (c.forward 2)
        else some (done, false, c)
      else if quote = '"' ∧ d = '\\' then
        if rest.head?.any isBreak then some (done, true, (c.forward 1).nextLine.2)
        else match escape? rest with
          | some (e, size) => quotedWord? quote fuel (done.push e) (c.forward (size + 1))
          | none => none
      else quotedWord? quote fuel (done.push d) (c.forward 1)

/-- A quoted scalar after its opening quote. -/
def quoted? (quote : Char) : Nat → String → Cursor → Option (String × Cursor)
  | 0, _, _ => none
  | fuel + 1, done, c =>
    if c.atDocumentSign || c.isEnd then none
    else do
      let (done, escaped, c) ← quotedWord? quote (c.rest.length + 1) done c
      if c.peek? = some quote then some (done, c.forward 1)
      else
        let (gap, c) ← Gap.read? 0 (c.rest.length + 1) (if escaped then .escaped else .empty) c
        quoted? quote fuel (done ++ String.ofList gap.text) c

/-! ### Blocks of lines -/

/-- What becomes of the line breaks at the end of a block. -/
inductive Chomping where
  | strip | clip | keep

namespace Chomping

def ofSign? : Char → Option Chomping
  | '+' => some .keep
  | '-' => some .strip
  | _ => none

end Chomping

/-- The signs behind the one that begins a block: chomping, and the number of columns that its lines are indented,
in any order; no number is zero. -/
def blockHeader? (c : Cursor) : Option (Chomping × Nat × Cursor) := do
  let width (c : Cursor) : Option (Nat × Cursor) :=
    match c.peek? with
    | some d => if d = '0' then none else if d.isDigit then some (Decimal.digitValue d, c.forward 1) else some (0, c)
    | none => some (0, c)
  match c.peek?.bind Chomping.ofSign? with
  | some chomping =>
    let (n, c) ← width (c.forward 1)
    some (chomping, n, ← c.restOfLine?)
  | none =>
    let (n, c) ← width c
    match if n = 0 then none else c.peek?.bind Chomping.ofSign? with
    | some chomping => some (chomping, n, ← (c.forward 1).restOfLine?)
    | none => some (.clip, n, ← c.restOfLine?)

/-- Moves over empty lines and the indentation of the next line, with the breaks of the empty lines and the greatest
column reached.  Where `indent` is zero the indentation is not yet known. -/
def emptyLines? (indent : Nat) : Nat → List Char → Nat → Cursor → Option (List Char × Nat × Cursor)
  | 0, _, _, _ => none
  | fuel + 1, breaks, widest, c =>
    let spaces := (c.rest.takeWhile (· = ' ')).length
    let c := c.forward (if indent = 0 then spaces else min spaces (indent - c.column))
    let widest := max widest c.column
    if (indent = 0 ∨ c.column < indent) ∧ c.peek? = some '\t' then none
    else if c.sees isBreak then
      let (b, c) := c.nextLine
      emptyLines? indent fuel (breaks ++ b) widest c
    else some (breaks, widest, c)

/-- A block that is being read. -/
structure Block where
  text : String
  /-- The break after the last line. -/
  lineBreak : List Char
  /-- The breaks of the empty lines after it. -/
  moreBreaks : List Char
  /-- Whether the last line begins with a blank, which keeps the breaks around it. -/
  indented : Bool

namespace Block

/-- Adds a line; folding joins it with the line before. -/
def addLine (style : ScalarStyle) (line : List Char) (b : Block) : Block :=
  let indented := line.head?.any isBlank
  let folds := style = .folded && b.lineBreak.head? = some '\n' && !b.indented && !indented
  let lineBreak := if folds then (if b.moreBreaks.isEmpty then [' '] else []) else b.lineBreak
  { b with text := b.text ++ String.ofList (lineBreak ++ b.moreBreaks ++ line), indented }

/-- The lines that begin at column `indent`. -/
def lines? (style : ScalarStyle) (indent : Nat) : Nat → Block → Cursor → Option (Block × Cursor)
  | 0, _, _ => none
  | fuel + 1, b, c =>
    if c.column = indent && !c.isEnd then do
      let line := c.rest.takeWhile fun d => !isBreak d
      let b := b.addLine style line
      let (lineBreak, c) := (c.forward line.length).nextLine
      let (moreBreaks, _, c) ← emptyLines? indent (c.rest.length + 1) [] 0 c
      lines? style indent fuel { b with lineBreak, moreBreaks } c
    else some (b, c)

def finish (chomping : Chomping) (b : Block) : String :=
  match chomping with
  | .strip => b.text
  | .clip => b.text ++ String.ofList b.lineBreak
  | .keep => b.text ++ String.ofList (b.lineBreak ++ b.moreBreaks)

end Block

/-- A block after its first sign, inside of a collection that is indented by `outer` columns, or by -1 where there is
none. -/
def block? (style : ScalarStyle) (outer : Int) (c : Cursor) : Option (String × Cursor) := do
  let (chomping, width, c) ← blockHeader? c
  let given := if width = 0 then 0 else (max outer 0).toNat + width
  let (moreBreaks, widest, c) ← emptyLines? given (c.rest.length + 1) [] 0 c
  let indent := if given = 0 then max widest (max (outer + 1) 1).toNat else given
  let (b, c) ← Block.lines? style indent (c.rest.length + 1) ⟨"", [], moreBreaks, false⟩ c
  some (b.finish chomping, c)

end Casebook.Yaml
