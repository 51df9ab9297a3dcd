import Casebook.Decimal.Numeral
import Casebook.Json.Reader
import Casebook.Template.Fault
import Casebook.Text.Basic

/-! The words of templates and expressions.

A template is text with `{{ ... }}` placeholders, `{% ... %}` statements and `{# ... #}` comments.  A minus sign
inside a marker removes the white space on its outer side.  Faults are words too: they count only when a reader
reaches them. -/
namespace Casebook.Template

inductive Symbol where
  | plus | minus | times | divide | floorDivide | power | modulo
  | dot | comma | colon | tilde | assign | pipe
  | eq | ne | gt | ge | lt | le
  | openParen | closeParen | openBracket | closeBracket | openBrace | closeBrace
deriving DecidableEq, Repr

inductive Token where
  | data (s : String)
  | beginValue
  | endValue
  | beginBlock
  | endBlock
  | word (s : String)
  | string (s : String)
  | int (n : Nat)
  | float (x : Float)
  | symbol (s : Symbol)
  | fault (f : Fault)
deriving DecidableEq

namespace Token

def isAsciiBlank (c : Char) : Bool :=
  c = ' ' || c = '\t' || c = '\n' || c = '\r' || c.toNat = 12

def startsWord (c : Char) : Bool := c = '_' || c.isAlpha

def continuesWord (c : Char) : Bool := c = '_' || c.isAlphanum

/-- The two-character symbols. -/
def pairSymbol? : Char → Char → Option Symbol
  | '/', '/' => some .floorDivide
  | '*', '*' => some .power
  | '=', '=' => some .eq
  | '!', '=' => some .ne
  | '>', '=' => some .ge
  | '<', '=' => some .le
  | _, _ => none

/-- The one-character symbols. -/
def symbol? : Char → Option Symbol
  | '+' => some .plus
  | '-' => some .minus
  | '*' => some .times
  | '/' => some .divide
  | '%' => some .modulo
  | '.' => some .dot
  | ',' => some .comma
  | ':' => some .colon
  | '~' => some .tilde
  | '|' => some .pipe
  | '=' => some .assign
  | '>' => some .gt
  | '<' => some .lt
  | '(' => some .openParen
  | ')' => some .closeParen
  | '[' => some .openBracket
  | ']' => some .closeBracket
  | '{' => some .openBrace
  | '}' => some .closeBrace
  | _ => none

/-- How a symbol changes the number of open brackets. -/
def balanceOf : Symbol → Int
  | .openParen | .openBracket | .openBrace => 1
  | .closeParen | .closeBracket | .closeBrace => -1
  | _ => 0

/-! ### Numbers -/

/-- The parts of a number that may follow one another. -/
inductive NumberPart where
  | radix
  | whole
  | fraction
  | exponent
  | signedExponent
deriving DecidableEq

/-- The part that a character belongs to when it continues a number.  A point needs a digit after it: `digitNext`
tells whether there is one. -/
def NumberPart.step (base : Nat) (part : NumberPart) (c : Char) (digitNext : Bool) : Option NumberPart :=
  if c = '_' then some part
  else if c.isDigit then
    match part with
    | .exponent => some .signedExponent
    | _ => some part
  else if part = .whole ∧ c = '.' then if digitNext then some .fraction else none
  else if (part = .whole ∨ part = .fraction) ∧ (c = 'e' ∨ c = 'E') then some .exponent
  else if part = .exponent ∧ (c = '+' ∨ c = '-') then some .signedExponent
  else if part = .radix ∧ base = 16 ∧ (Json.Reader.hexDigit? c).isSome then some .radix
  else none

/-- The longest number at the front of a text: its part at the end, its characters and the rest. -/
def spanNumber (base : Nat) : NumberPart → List Char → NumberPart × List Char × List Char
  | part, [] => (part, [], [])
  | part, c :: rest =>
    match part.step base c (rest.head?.any Char.isDigit) with
    | some next =>
      let (last, taken, rest) := spanNumber base next rest
      (last, c :: taken, rest)
    | none => (part, [], c :: rest)

/-- The value of digits in a base, if all of them are below it. -/
def digitsIn? (base : Nat) (cs : List Char) : Option Nat :=
  if cs.isEmpty then none
  else cs.foldl (fun acc c => do
    let n ← acc
    let d ← Json.Reader.hexDigit? c
    if d < base then some (n * base + d) else none) (some 0)

/-- A whole number below the bound of 128 bits. -/
def wholeToken (base : Nat) (digits : List Char) : Token :=
  match digitsIn? base digits with
  | some n => if n < 1 <<< 128 then .int n else .fault .badStructure
  | none => .fault .badStructure

/-- A number word and the rest of the text. -/
def number (cs : List Char) : Token × List Char :=
  let (base, body) : Nat × List Char := match cs with
    | '0' :: b :: rest =>
      if b = 'b' ∨ b = 'B' then (2, rest)
      else if b = 'o' ∨ b = 'O' then (8, rest)
      else if b = 'x' ∨ b = 'X' then (16, rest)
      else (10, cs)
    | _ => (10, cs)
  let (part, taken, rest) := spanNumber base (if base = 10 then .whole else .radix) body
  let digits := taken.filter (· != '_')
  let token : Token :=
    if taken.getLast? = some '_' then .fault .badStructure
    else if part = .whole ∨ part = .radix then wholeToken base digits
    else match Decimal.float? (String.ofList digits) with
      | some x => .float x
      | none => .fault .badStructure
  (token, rest)

/-- The position that a point leads to, if digits follow it, and the rest of the text. -/
def position (cs : List Char) : List Token × List Char :=
  let digits := cs.takeWhile Char.isDigit
  (if digits.isEmpty then [] else [wholeToken 10 digits], cs.dropWhile Char.isDigit)

/-! ### Strings -/

/-- The characters of a string up to its closing quote, escapes untouched, and the rest. -/
def spanString (quote : Char) : List Char → Option (List Char × List Char)
  | [] => none
  | '\\' :: c :: rest => (spanString quote rest).map fun (s, rest) => ('\\' :: c :: s, rest)
  | c :: rest =>
    if c = quote then some ([], rest)
    else if c = '\\' then none
    else (spanString quote rest).map fun (s, rest) => (c :: s, rest)

/-- The digits of an octal escape, at most three. -/
def octal (cs : List Char) : List Char :=
  (cs.take 3).takeWhile fun c => '0' ≤ c && c ≤ '7'

/-- The value of a hexadecimal escape with a fixed count of characters, the first of which may be a plus sign. -/
def hexEscape? (count : Nat) (cs : List Char) : Option Nat :=
  let taken := cs.take count
  if taken.length < count then none
  else match taken with
    | '+' :: digits => digitsIn? 16 digits
    | digits => digitsIn? 16 digits

/-- Resolves the escapes of a string.  `high` is the first half of a surrogate pair that awaits the second, and
`done` holds the characters so far, last first. -/
def unescape : Nat → Option Nat → List Char → List Char → Except Fault String
  | 0, _, _, _ => .error .badEscape
  | _ + 1, high, done, [] =>
    if high.isSome then .error .badEscape else .ok (String.ofList done.reverse)
  | fuel + 1, high, done, '\\' :: 'u' :: rest =>
    match hexEscape? 4 rest with
    | none => .error .badEscape
    | some n =>
      let surrogate := 0xD800 ≤ n ∧ n ≤ 0xDFFF
      match high with
      | none =>
        if surrogate then unescape fuel (some n) done (rest.drop 4)
        else unescape fuel none (Char.ofNat n :: done) (rest.drop 4)
      | some h =>
        if h ≤ 0xDBFF ∧ 0xDC00 ≤ n ∧ n ≤ 0xDFFF then
          let c := Char.ofNat (0x10000 + (h - 0xD800) * 0x400 + (n - 0xDC00))
          unescape fuel none (c :: done) (rest.drop 4)
        else .error .badEscape
  | fuel + 1, high, done, c :: rest =>
    if high.isSome then .error .badEscape
    else if c ≠ '\\' then unescape fuel none (c :: done) rest
    else match rest with
      | [] => .error .badEscape
      | d :: rest =>
        if d = '"' ∨ d = '\\' ∨ d = '/' ∨ d = '\'' then unescape fuel none (d :: done) rest
        else if d = 'b' then unescape fuel none (Char.ofNat 8 :: done) rest
        else if d = 'f' then unescape fuel none (Char.ofNat 12 :: done) rest
        else if d = 'n' then unescape fuel none ('\n' :: done) rest
        else if d = 'r' then unescape fuel none ('\r' :: done) rest
        else if d = 't' then unescape fuel none ('\t' :: done) rest
        else if d = 'x' then
          match hexEscape? 2 rest with
          | some n => unescape fuel none (Char.ofNat n :: done) (rest.drop 2)
          | none => .error .badEscape
        else if '0' ≤ d ∧ d ≤ '7' then
          let ds := octal (d :: rest)
          match (digitsIn? 8 ds).filter (· < 256) with
          | some n => unescape fuel none (Char.ofNat n :: done) (rest.drop (ds.length - 1))
          | none => .error .badEscape
        else unescape fuel none (d :: '\\' :: done) rest

/-- A string word after its opening quote, and the rest of the text. -/
def stringToken (quote : Char) (cs : List Char) : Token × List Char :=
  match spanString quote cs with
  | none => (.fault .badStructure, [])
  | some (body, rest) =>
    match unescape (body.length + 1) none [] body with
    | .ok s => (.string s, rest)
    | .error f => (.fault f, rest)

/-! ### Markers -/

/-- What the text around a word is. -/
inductive Mode where
  /-- Template text; white space at its start is dropped when `trimmed` holds. -/
  | outside (trimmed : Bool)
  /-- A placeholder with `open` brackets. -/
  | value (balance : Int)
  /-- A statement. -/
  | block (balance : Int)
  /-- An expression that stands alone. -/
  | bare
deriving DecidableEq

def Mode.balance : Mode → Int
  | .value b => b
  | .block b => b
  | _ => 0

def Mode.shift (d : Int) : Mode → Mode
  | .value b => .value (b + d)
  | .block b => .block (b + d)
  | m => m

/-- The character that closes a mode before the brace. -/
def Mode.closer? : Mode → Option Char
  | .value _ => some '}'
  | .block _ => some '%'
  | _ => none

def Mode.endToken : Mode → Token
  | .value _ => .endValue
  | _ => .endBlock

/-- The end marker of a mode at the front of a text: whether it trims what follows, and the rest. -/
def closing? (mode : Mode) (cs : List Char) : Option (Bool × List Char) :=
  match mode.closer? with
  | none => none
  | some c =>
    if mode.balance ≠ 0 then none
    else match cs with
      | '-' :: a :: '}' :: rest => if a = c then some (true, rest) else none
      | '+' :: a :: '}' :: rest => if a = c then some (false, rest) else none
      | a :: '}' :: rest => if a = c then some (false, rest) else none
      | _ => none

/-- The text before the first start marker, the marker's character, and what follows the marker. -/
def opening? : List Char → Option (List Char × Char × List Char)
  | '{' :: m :: rest =>
    if m = '{' ∨ m = '%' ∨ m = '#' then some ([], m, rest)
    else (opening? (m :: rest)).map fun (before, k, after) => ('{' :: before, k, after)
  | c :: rest => (opening? rest).map fun (before, k, after) => (c :: before, k, after)
  | [] => none

/-- Skips a bare tag such as `raw`, up to and with the end of its block: whether it trims, and the rest. -/
def skipTag? (name : String) (cs : List Char) : Option (Bool × List Char) :=
  let cs := cs.dropWhile isAsciiBlank
  if !name.toList.isPrefixOf cs then none
  else match (cs.drop name.length).dropWhile isAsciiBlank with
    | '-' :: '%' :: '}' :: rest => some (true, rest)
    | '+' :: '%' :: '}' :: rest => some (false, rest)
    | '%' :: '}' :: rest => some (false, rest)
    | _ => none

/-- Drops a white space control sign. -/
def dropSign : List Char → List Char
  | '-' :: rest => rest
  | '+' :: rest => rest
  | cs => cs

/-- The text of a raw block up to its end tag, whether the end tag trims before and after itself, and the rest. -/
def rawBody? : List Char → Option (List Char × Bool × Bool × List Char)
  | '{' :: '%' :: rest =>
    match skipTag? "endraw" (dropSign rest) with
    | some (trims, after) => some ([], rest.head? == some '-', trims, after)
    | none => (rawBody? ('%' :: rest)).map fun (b, t, u, a) => ('{' :: b, t, u, a)
  | c :: rest => (rawBody? rest).map fun (b, t, u, a) => (c :: b, t, u, a)
  | [] => none

def dataToken (cs : List Char) : List Token :=
  if cs.isEmpty then [] else [.data (String.ofList cs)]

def trimEndList (cs : List Char) : List Char := (cs.reverse.dropWhile Text.isBlank).reverse

/-- The words of a text in a mode; `fuel` bounds the number of steps. -/
def scan : Nat → Mode → List Char → List Token
  | 0, _, _ => []
  | fuel + 1, .outside trimmed, cs =>
    let cs := if trimmed then cs.dropWhile Text.isBlank else cs
    match opening? cs with
    | none => dataToken cs
    | some (before, marker, rest) =>
      let before := if rest.head? = some '-' then trimEndList before else before
      dataToken before ++
        if marker = '#' then
          let rest := dropSign rest
          match Text.breakOn ['#', '\x7d'] rest with
          | none => [.fault .badStructure]
          | some (comment, after) => scan fuel (.outside (comment.getLast? == some '-')) after
        else if marker = '{' then .beginValue :: scan fuel (.value 0) (dropSign rest)
        else match skipTag? "raw" (dropSign rest) with
          | none => .beginBlock :: scan fuel (.block 0) (dropSign rest)
          | some (trims, body) =>
            match rawBody? body with
            | none => [.fault .badStructure]
            | some (raw, trimsEnd, trimsAfter, after) =>
              let raw := if trims then raw.dropWhile Text.isBlank else raw
              let raw := if trimsEnd then trimEndList raw else raw
              dataToken raw ++ scan fuel (.outside trimsAfter) after
  | fuel + 1, mode, cs =>
    match cs.dropWhile isAsciiBlank with
    | [] => []
    | c :: rest =>
      match closing? mode (c :: rest) with
      | some (trims, after) => mode.endToken :: scan fuel (.outside trims) after
      | none =>
        match rest.head?.bind (pairSymbol? c) with
        | some s => .symbol s :: scan fuel mode (rest.drop 1)
        | none =>
          match symbol? c with
          | some .dot =>
            let (at?, rest) := position rest
            .symbol .dot :: (at? ++ scan fuel mode rest)
          | some s => .symbol s :: scan fuel (mode.shift (balanceOf s)) rest
          | none =>
            if c = '\'' ∨ c = '"' then
              let (t, rest) := stringToken c rest
              t :: scan fuel mode rest
            else if c.isDigit then
              let (t, rest) := number (c :: rest)
              t :: scan fuel mode rest
            else if startsWord c then
              .word (String.ofList (c :: rest.takeWhile continuesWord)) ::
                scan fuel mode (rest.dropWhile continuesWord)
            else [.fault .badStructure]

/-- Removes one line end from the end of a template. -/
def dropLineEnd (cs : List Char) : List Char :=
  let cs := match cs.reverse with
    | '\n' :: rest => rest.reverse
    | _ => cs
  match cs.reverse with
  | '\r' :: rest => rest.reverse
  | _ => cs

/-- The words of a template. -/
def ofTemplate (text : String) : List Token :=
  let cs := dropLineEnd text.toList
  scan (2 * cs.length + 2) (.outside false) cs

/-- The words of an expression. -/
def ofExpression (text : String) : List Token :=
  scan (text.length + 2) .bare text.toList

end Token

end Casebook.Template
