/-! A place in a text, counted in lines and columns. -/
namespace Casebook.Yaml

def isBlank (c : Char) : Bool := c = ' ' || c = '\t'

/-- Line feed, carriage return, next line, line separator and paragraph separator end a line. -/
def isBreak (c : Char) : Bool :=
  c = '\n' || c = '\r' || c.toNat = 0x85 || c.toNat = 0x2028 || c.toNat = 0x2029

/-- The letters of the names of anchors, tag handles and directives. -/
def isNameChar (c : Char) : Bool := c.isAlphanum || c = '_' || c = '-'

/-- Whether a text may hold a character: control characters other than tabs and line breaks are refused. -/
def isAllowed (c : Char) : Bool :=
  let n := c.toNat
  n = 0x9 || n = 0xA || n = 0xD || n = 0x85 || (0x20 ≤ n && n ≤ 0x7E) || (0xA0 ≤ n && n ≤ 0xFFFD) || 0x10000 ≤ n

/-- Whether a word ends before these characters: at a blank, at a line break and at the end of the text. -/
def endsWord : List Char → Bool
  | [] => true
  | c :: _ => isBlank c || isBreak c

structure Cursor where
  rest : List Char
  index : Nat
  line : Nat
  column : Nat

namespace Cursor

def start (cs : List Char) : Cursor := ⟨cs, 0, 0, 0⟩

def peek? (c : Cursor) : Option Char := c.rest.head?

def isEnd (c : Cursor) : Bool := c.rest.isEmpty

/-- Whether the next character has a property. -/
def sees (c : Cursor) (p : Char → Bool) : Bool := c.peek?.any p

/-- Whether a line ends here. -/
def endsLine (c : Cursor) : Bool := c.isEnd || c.sees isBreak

/-- Moves over characters of one line. -/
def forward (n : Nat) (c : Cursor) : Cursor :=
  { c with rest := c.rest.drop n, index := c.index + n, column := c.column + n }

/-- Moves over the characters in front that have a property, none of which is a line break. -/
def skipWhile (p : Char → Bool) (c : Cursor) : Cursor := c.forward (c.rest.takeWhile p).length

/-- Moves over a comment. -/
def skipComment (c : Cursor) : Cursor :=
  if c.peek? = some '#' then c.skipWhile fun d => !isBreak d else c

/-- Moves over a line break, and says what it stands for: mostly a line feed. -/
def nextLine (c : Cursor) : List Char × Cursor :=
  match c.rest with
  | '\r' :: '\n' :: rest => (['\n'], ⟨rest, c.index + 2, c.line + 1, 0⟩)
  | d :: rest =>
    if isBreak d then
      (if 0x2028 ≤ d.toNat then [d] else ['\n'], ⟨rest, c.index + 1, c.line + 1, 0⟩)
    else ([], c)
  | [] => ([], c)

/-- Moves over blanks, a comment and a line break; nothing else may stand on the line. -/
def restOfLine? (c : Cursor) : Option Cursor :=
  let c := (c.skipWhile isBlank).skipComment
  if c.endsLine then some c.nextLine.2 else none

/-- Whether a word stands here, ended by a blank, a line break or the end of the text. -/
def atWord (w : String) (c : Cursor) : Bool :=
  w.toList.isPrefixOf c.rest && endsWord (c.rest.drop w.length)

/-- Whether a line begins here with the sign that starts or ends a document. -/
def atDocumentSign (c : Cursor) : Bool := c.column = 0 && (c.atWord "---" || c.atWord "...")

end Cursor

end Casebook.Yaml
