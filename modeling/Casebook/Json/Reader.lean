import Casebook.Json.Value

/-! Reading JSON text.  Arrays and objects nest at most 127 deep; an integer outside the 64 bit ranges becomes a
float, and a number too great for a float is refused. -/
namespace Casebook.Json.Reader

open Decimal

def isBlank (c : Char) : Bool := c = ' ' || c = '\n' || c = '\t' || c = '\r'

def skipBlank (cs : List Char) : List Char := cs.dropWhile isBlank

/-- The value of a hexadecimal digit. -/
def hexDigit? (c : Char) : Option Nat :=
  if c.isDigit then some (c.toNat - '0'.toNat)
  else if 'a' ≤ c ∧ c ≤ 'f' then some (c.toNat - 'a'.toNat + 10)
  else if 'A' ≤ c ∧ c ≤ 'F' then some (c.toNat - 'A'.toNat + 10)
  else none

/-- Four hexadecimal digits and what follows them. -/
def hexQuad? : List Char → Option (Nat × List Char)
  | a :: b :: c :: d :: rest => do
    let a ← hexDigit? a
    let b ← hexDigit? b
    let c ← hexDigit? c
    let d ← hexDigit? d
    some (((a * 16 + b) * 16 + c) * 16 + d, rest)
  | _ => none

/-- The character of an escape, after its backslash.  The halves of a surrogate pair must stand together. -/
def escape? : List Char → Option (Char × List Char)
  | '"' :: rest => some ('"', rest)
  | '\\' :: rest => some ('\\', rest)
  | '/' :: rest => some ('/', rest)
  | 'b' :: rest => some (Char.ofNat 8, rest)
  | 'f' :: rest => some (Char.ofNat 12, rest)
  | 'n' :: rest => some ('\n', rest)
  | 'r' :: rest => some ('\r', rest)
  | 't' :: rest => some ('\t', rest)
  | 'u' :: rest => do
    let (n, rest) ← hexQuad? rest
    if 0xDC00 ≤ n ∧ n ≤ 0xDFFF then none
    else if 0xD800 ≤ n ∧ n ≤ 0xDBFF then
      match rest with
      | '\\' :: 'u' :: rest => do
        let (m, rest) ← hexQuad? rest
        if 0xDC00 ≤ m ∧ m ≤ 0xDFFF then
          some (Char.ofNat (0x10000 + (n - 0xD800) * 0x400 + (m - 0xDC00)), rest)
        else none
      | _ => none
    else some (Char.ofNat n, rest)
  | _ => none

/-- The rest of a string after its opening quote; `done` holds the characters read, last first. -/
def stringTail? : Nat → List Char → List Char → Option (String × List Char)
  | 0, _, _ => none
  | _ + 1, _, [] => none
  | fuel + 1, done, c :: rest =>
    if c = '"' then some (String.ofList done.reverse, rest)
    else if c = '\\' then
      match escape? rest with
      | some (e, rest) => stringTail? fuel (e :: done) rest
      | none => none
    else if c.toNat < 32 then none
    else stringTail? fuel (c :: done) rest

/-- Digits gathered into a 64 bit number while they fit. -/
structure Significand where
  value : Nat
  /-- Digits left out at the end, which still count for the size. -/
  skipped : Nat
  rest : List Char

/-- Takes the digits of the whole part; those past the 64 bit range are only counted. -/
def wholeDigits (m : Nat) : List Char → Significand
  | [] => ⟨m, 0, []⟩
  | c :: rest =>
    if c.isDigit then
      let next := 10 * m + digitValue c
      if next < 1 <<< 64 then wholeDigits next rest
      else
        let more := (c :: rest).takeWhile Char.isDigit
        ⟨m, more.length, rest.dropWhile Char.isDigit⟩
    else ⟨m, 0, c :: rest⟩

/-- Takes the digits of the fraction; those past the 64 bit range are dropped. `taken` counts the ones used. -/
def fractionDigits (m taken : Nat) : List Char → Nat × Nat × List Char
  | [] => (m, taken, [])
  | c :: rest =>
    if c.isDigit then
      let next := 10 * m + digitValue c
      if next < 1 <<< 64 then fractionDigits next (taken + 1) rest
      else (m, taken, rest.dropWhile Char.isDigit)
    else (m, taken, c :: rest)

/-- The power of ten as the nearest float. -/
def powerOfTen (n : Nat) : Float := Float.ofScientific 1 false n

/-- Scales a float by a power of ten in at most one division or product per 308 places, each rounded by itself;
`fuel` bounds the number of steps. -/
def scale? : Nat → Float → Int → Option Float
  | 0, x, _ => some x
  | fuel + 1, x, e =>
    if e.natAbs ≤ 308 then
      if 0 ≤ e then
        let y := x * powerOfTen e.natAbs
        if y.isFinite then some y else none
      else some (x / powerOfTen e.natAbs)
    else if x == 0.0 then some x
    else if 0 ≤ e then none
    else scale? fuel (x / powerOfTen 308) (e + 308)

/-- A float from a significand and a power of ten. -/
def float? (negative : Bool) (m : Nat) (e : Int) : Option Number := do
  let x ← scale? 8 (Float.ofNat m) (max e (-2000))
  Number.ofFloat? (if negative then -x else x)

/-- The exponent after its letter. -/
def exponent? : List Char → Option (Int × List Char)
  | '+' :: rest => digits rest 1
  | '-' :: rest => digits rest (-1)
  | rest => digits rest 1
where
  digits (cs : List Char) (sign : Int) : Option (Int × List Char) :=
    let (ds, rest) := spanDigits cs
    if ds.isEmpty then none else some (sign * natOfDigits ds, rest)

/-- Whether a number ends before an exponent. -/
def startsExponent : List Char → Bool
  | c :: _ => c = 'e' || c = 'E'
  | [] => false

/-- What follows the digits of a significand: an exponent, or nothing. -/
def finish? (negative : Bool) (m : Nat) (e : Int) (cs : List Char) : Option (Number × List Char) :=
  if startsExponent cs then do
    let (k, rest) ← exponent? (cs.drop 1)
    some (← float? negative m (e + k), rest)
  else do some (← float? negative m e, cs)

/-- An integer without fraction and exponent; minus zero is a float. -/
def plainInteger? (negative : Bool) (m : Nat) : Option Number :=
  if negative then
    if m = 0 ∨ 1 <<< 63 < m then Number.ofFloat? (-(Float.ofNat m)) else Number.ofInt? (-(m : Int))
  else Number.ofInt? m

/-- A number without its sign. -/
def unsigned? (negative : Bool) (cs : List Char) : Option (Number × List Char) :=
  match cs with
  | [] => none
  | c :: rest =>
    if !c.isDigit then none
    else if c = '0' && rest.head?.any Char.isDigit then none
    else
      let s := wholeDigits 0 cs
      match s.rest with
      | '.' :: more =>
        if !more.head?.any Char.isDigit then none
        else
          let (m, taken, rest) := fractionDigits s.value 0 more
          finish? negative m ((s.skipped : Int) - taken) rest
      | rest =>
        if startsExponent rest || s.skipped ≠ 0 then finish? negative s.value s.skipped rest
        else (plainInteger? negative s.value).map (·, rest)

/-- Removes a word from the front of the text. -/
def word? (w : List Char) (cs : List Char) : Option (List Char) :=
  if w.isPrefixOf cs then some (cs.drop w.length) else none

def null? (cs : List Char) : Option (Unit × List Char) := (word? "null".toList cs).map ((), ·)

/-- A value that holds no other. -/
def scalar? (fuel : Nat) : List Char → Option (Value × List Char)
  | '"' :: rest => (stringTail? fuel [] rest).map fun (s, rest) => (.string s, rest)
  | 'n' :: rest => (word? "ull".toList rest).map (.null, ·)
  | 't' :: rest => (word? "rue".toList rest).map (.bool true, ·)
  | 'f' :: rest => (word? "alse".toList rest).map (.bool false, ·)
  | '-' :: rest => (unsigned? true rest).map fun (n, rest) => (.number n, rest)
  | cs => (unsigned? false cs).map fun (n, rest) => (.number n, rest)

/-- The items of an array from the first one on, up to and with the closing bracket. -/
def items? (item? : List Char → Option (Value × List Char)) :
    Nat → List Value → List Char → Option (List Value × List Char)
  | 0, _, _ => none
  | fuel + 1, done, cs => do
    let (v, rest) ← item? (skipBlank cs)
    match skipBlank rest with
    | ',' :: rest => items? item? fuel (v :: done) rest
    | ']' :: rest => some ((v :: done).reverse, rest)
    | _ => none

/-- The entries of an object from the first one on, as they are written, up to and with the closing brace. -/
def entries? {α : Type} (item? : List Char → Option (α × List Char)) (size : Nat) :
    Nat → List (String × α) → List Char → Option (List (String × α) × List Char)
  | 0, _, _ => none
  | fuel + 1, done, cs => do
    match skipBlank cs with
    | '"' :: rest =>
      let (k, rest) ← stringTail? size [] rest
      match skipBlank rest with
      | ':' :: rest =>
        let (v, rest) ← item? (skipBlank rest)
        match skipBlank rest with
        | ',' :: rest => entries? item? size fuel ((k, v) :: done) rest
        | '}' :: rest => some (((k, v) :: done).reverse, rest)
        | _ => none
      | _ => none
    | _ => none

/-- The entries of an object after its opening brace. -/
def object? {α : Type} (item? : List Char → Option (α × List Char)) (size : Nat) (cs : List Char) :
    Option (List (String × α) × List Char) :=
  match skipBlank cs with
  | '}' :: rest => some ([], rest)
  | rest => entries? item? size size [] rest

/-- A value with at most `depth - 1` arrays and objects around one another; `size` bounds the length of the text. -/
def value? (size : Nat) : Nat → List Char → Option (Value × List Char)
  | 0, _ => none
  | depth + 1, cs =>
    match cs with
    | '[' :: rest =>
      if depth = 0 then none
      else match skipBlank rest with
        | ']' :: rest => some (.array [], rest)
        | rest => (items? (value? size depth) size [] rest).map fun (xs, rest) => (.array xs, rest)
    | '{' :: rest =>
      if depth = 0 then none
      else (object? (value? size depth) size rest).map fun (es, rest) => (.object (Dict.ofList es), rest)
    | cs => scalar? size cs

/-- Reads all of a text, with nothing but blanks around what it holds; the number bounds the length of the text. -/
def whole? {α : Type} (read? : Nat → List Char → Option (α × List Char)) (text : String) : Option α :=
  let cs := text.toList
  match read? (cs.length + 1) (skipBlank cs) with
  | some (a, rest) => if (skipBlank rest).isEmpty then some a else none
  | none => none

/-- The entries of the object that a text holds. -/
def entriesOf? {α : Type} (item? : Nat → List Char → Option (α × List Char)) : String → Option (List (String × α)) :=
  whole? fun size cs =>
    match cs with
    | '{' :: rest => object? (item? size) size rest
    | _ => none

end Casebook.Json.Reader

namespace Casebook.Json

/-- Reads one JSON value with nothing but blanks around it. -/
def Value.ofText? : String → Option Value := Reader.whole? fun size => Reader.value? size 128

end Casebook.Json
