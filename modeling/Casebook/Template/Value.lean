import Casebook.Decimal.Shortest
import Casebook.Json.Writer
import Casebook.Template.Fault
import Casebook.Text.LetterCase
import Casebook.Text.Quoted

/-! The values that template expressions compute with: their kinds, truth, order, equality and texts, and their
exchange with JSON. -/
namespace Casebook.Template

open Decimal

/-- The words that integers come in. -/
inductive IntSize where
  | signed64
  | unsigned64
  | signed128
  | unsigned128
deriving DecidableEq, Repr

/-- How a sequence comes about. -/
inductive Shape where
  | list
  /-- A key and the members that share it, which also go by names. -/
  | group
  /-- Produced on demand, of a length known beforehand. -/
  | iterator
  /-- Produced on demand, until it ends. -/
  | stream
  /-- Produced on demand, until something is met that is no sequence. -/
  | brokenStream
deriving DecidableEq, Repr

inductive Value where
  /-- A name or part that does not exist; a silent one prints as nothing. -/
  | undefined (silent : Bool)
  | null
  | bool (b : Bool)
  | int (n : Int) (size : IntSize)
  | float (x : Float)
  | string (s : String) (safe : Bool)
  | seq (items : List Value) (shape : Shape)
  /-- Items that come again and again. -/
  | repeated (items : List Value) (times : Nat)
  /-- Entries in ascending key order; `named` marks the arguments by name of a call. -/
  | map (entries : List (Value × Value)) (named : Bool)
  | builtin (name : String)
  /-- A macro, by its number in the store of closures, with what it tells about itself. -/
  | closure (id : Nat) (name : String) (params : List String) (usesCaller : Bool)
  /-- A mutable record, by its number in the store of records. -/
  | record (id : Nat)
  /-- The state of a running loop; its neighbours are undefined at the ends. -/
  | loop (id index : Nat) (count : Option Nat) (depth : Nat) (previous next : Value)

instance : Inhabited Value := ⟨.null⟩

/-- The kinds of values in their order. -/
inductive Kind where
  | undefined
  | null
  | bool
  | number
  | string
  | sequence
  | map
  | iterator
  | plain
deriving DecidableEq, Repr

def Kind.name : Kind → String
  | .undefined => "undefined"
  | .null => "none"
  | .bool => "bool"
  | .number => "number"
  | .string => "string"
  | .sequence => "sequence"
  | .map => "map"
  | .iterator => "iterator"
  | .plain => "plain object"

def Kind.rank : Kind → Nat
  | .undefined => 0
  | .null => 1
  | .bool => 2
  | .number => 3
  | .string => 4
  | .sequence => 6
  | .map => 7
  | .iterator => 8
  | .plain => 9

/-- The greatest integer of a size. -/
def IntSize.max : IntSize → Int
  | .signed64 => maxInt64
  | .unsigned64 => maxNat64
  | .signed128 => maxInt128
  | .unsigned128 => maxNat128

/-- The kind of a sequence. -/
def Shape.kind : Shape → Kind
  | .list | .group => .sequence
  | .iterator | .stream | .brokenStream => .iterator

namespace Value

def kind : Value → Kind
  | .undefined _ => .undefined
  | .null => .null
  | .bool _ => .bool
  | .int .. => .number
  | .float _ => .number
  | .string .. => .string
  | .seq _ shape => shape.kind
  | .repeated .. => .iterator
  | .map .. => .map
  | .record _ => .map
  | .builtin _ => .plain
  | .closure .. => .plain
  | .loop .. => .plain

/-- A plain text. -/
def text (s : String) : Value := .string s false

/-- A list. -/
def list (items : List Value) : Value := .seq items .list

/-- The value of a name that does not exist. -/
def missing : Value := .undefined false

def isUndefined : Value → Bool
  | .undefined _ => true
  | _ => false

/-- Whether a text must not be escaped again. -/
def isSafe : Value → Bool
  | .string _ safe => safe
  | _ => false

/-- A number of items or characters. -/
def ofNat (n : Nat) : Value := .int n .unsigned64

/-- Truth: nothing, zero and everything known to be empty are false. -/
def truthy : Value → Bool
  | .undefined _ => false
  | .null => false
  | .bool b => b
  | .int n _ => n != 0
  | .float x => !(x == 0.0)
  | .string s _ => !s.isEmpty
  | .seq xs .list => !xs.isEmpty
  | .seq xs .iterator => !xs.isEmpty
  | .repeated xs times => !xs.isEmpty && times != 0
  | .map es _ => !es.isEmpty
  | _ => true

/-! ### Numbers -/

/-- An integer that was computed with. -/
def ofInt (n : Int) : Value :=
  .int n (if minInt64 ≤ n ∧ n ≤ maxInt64 then .signed64 else .signed128)

/-- A whole number that was written down. -/
def ofLiteral (n : Nat) : Value :=
  .int n (if (n : Int) ≤ maxNat64 then .unsigned64 else .unsigned128)

/-- The nearest float of an integer that survives the way there and back.  The way back is clamped to the size of the
integer, so the greatest integer of a size survives too. -/
def exactFloat? (n : Int) (size : IntSize) : Option Float :=
  let x := Float.ofInt n
  if (Binary64.ofFloat x).truncate = n ∨ n = size.max then some x else none

/-- The float of a number; unless `lossy` holds, an integer must survive the way there and back. -/
def toFloat? (lossy : Bool) : Value → Option Float
  | .bool b => some (Float.ofNat b.toNat)
  | .int n size => if lossy then some (Float.ofInt n) else exactFloat? n size
  | .float x => some x
  | _ => none

/-- A boolean counts as an integer; an integer must fit into a signed word of 128 bits. -/
def wide? : Value → Option Int
  | .bool b => some b.toNat
  | .int n _ => if n ≤ maxInt128 then some n else none
  | _ => none

/-- Two operands brought to one kind of number. -/
inductive Operands where
  | ints (m n : Int)
  | floats (x y : Float)

/-- The signed reading of an unsigned word of 128 bits. -/
def signed128 (n : Int) : Int := if n ≤ maxInt128 then n else n - maxNat128 - 1

/-- Brings operands together: as floats if one is a float, else as signed integers. -/
def operands? (lossy : Bool) (a b : Value) : Option Operands :=
  match a, b with
  | .float x, _ => (b.toFloat? lossy).map (.floats x)
  | _, .float y => (a.toFloat? lossy).map (.floats · y)
  | .int m .unsigned128, .int n .unsigned128 => some (.ints (signed128 m) (signed128 n))
  | _, _ => do some (.ints (← a.wide?) (← b.wide?))

/-- The sign bit, exponent and fraction of a float as one number that orders floats totally. -/
def totalKey (x : Float) : Int :=
  let bits : Nat := x.toBits.toNat
  if bits < 1 <<< 63 then bits else -((bits - 1 <<< 63 : Nat) : Int) - 1

/-- Floats in their order; both zeros are equal, and a float that is no number has a place too. -/
def compareFloats (x y : Float) : Ordering :=
  if x == y then .eq else compare (totalKey x) (totalKey y)

/-- A float compared with an integer that is no float, exactly where the float is finite. -/
def compareFloatInt (x : Float) (n : Int) : Ordering :=
  if x.isFinite then
    let b := Binary64.ofFloat x
    match compare b.truncate n with
    | .eq => if b.isIntegral then .eq else if b.negative then .lt else .gt
    | o => o
  else compareFloats x 0.0

def orderNumbers (a b : Value) : Ordering :=
  match operands? false a b with
  | some (.ints m n) => compare m n
  | some (.floats x y) => compareFloats x y
  | none =>
    match a, b with
    | .float x, .int n _ => compareFloatInt x n
    | .int m _, .float y => (compareFloatInt y m).swap
    | .int m _, .int n _ => compare m n
    | _, _ => .eq

/-- The whole number that a value stands for.  A float stands for what it is cut to, if that gives the float back: so
the float next above the signed words stands for the greatest of them. -/
def asInt? : Value → Option Int
  | .bool b => some b.toNat
  | .int n _ => some n
  | .float x =>
    if x.isFinite && isWhole x then
      let n := (Binary64.ofFloat x).truncate
      if minInt64 ≤ n ∧ n ≤ maxInt64 + 1 then some (min n maxInt64) else none
    else none
  | _ => none

/-- The whole number that a value stands for, within bounds. -/
def intIn? (lo hi : Int) (v : Value) : Option Int :=
  v.asInt?.filter fun n => lo ≤ n && n ≤ hi

/-! ### Texts -/

/-- Floats stand in full, without an exponent. -/
def plainLayout : Layout := ⟨.up, fun _ => true, ""⟩

/-- Floats inside containers keep an exponent for very small and very great numbers. -/
def nestedLayout : Layout := ⟨.up, fun lead => -4 ≤ lead && lead ≤ 15, ""⟩

/-- The text of a float; a whole number in exponent form carries no point. -/
def floatText (layout : Layout) (x : Float) : String :=
  if x.isFinite then layout.render x
  else if x.isNaN then "NaN"
  else if x < 0.0 then "-inf"
  else "inf"

def boolText (b : Bool) : String := if b then "True" else "False"

/-- The text of a sequence whose length is not known. -/
def streamText : String := "<iterator>"

/-- The full name that a function prints as. -/
def builtinText (name : String) : String := "minijinja::functions::builtins::" ++ name

/-- The members of a repetition. -/
def unrolled (items : List Value) (times : Nat) : List Value := (List.replicate times items).flatten

/-- Texts between brackets. -/
def bracketed (texts : List String) : String := "[" ++ ", ".intercalate texts ++ "]"

mutual

/-- The text of a value inside a container. -/
def nestedText : Value → String
  | .undefined _ => "undefined"
  | .null => "None"
  | .bool b => boolText b
  | .int n _ => toString n
  | .float x => floatText nestedLayout x
  | .string s _ => Text.quote s
  | .seq xs .list => bracketed (itemTexts xs)
  | .seq xs .group => bracketed (itemTexts xs)
  | .seq xs .iterator => bracketed (itemTexts xs)
  | .seq .. => streamText
  | .repeated xs times => bracketed (List.replicate times (itemTexts xs)).flatten
  | .map es _ => "\x7b" ++ ", ".intercalate (entryTexts es) ++ "\x7d"
  | .builtin name => builtinText name
  | .closure _ name _ _ => "<macro " ++ name ++ ">"
  | .record _ => "\x7b\x7d"
  | .loop _ index count _ _ _ => "<loop " ++ toString index ++ "/" ++ toString (count.getD 0) ++ ">"

def itemTexts : List Value → List String
  | [] => []
  | x :: xs => nestedText x :: itemTexts xs

def entryTexts : List (Value × Value) → List String
  | [] => []
  | (k, v) :: es => (nestedText k ++ ": " ++ nestedText v) :: entryTexts es

end

/-- The text that a value prints as. -/
def display : Value → String
  | .undefined _ => ""
  | .string s _ => s
  | .float x => floatText plainLayout x
  | v => nestedText v

/-! ### Order and equality -/

mutual

/-- The order of values: by kind first; numbers by size, texts by code points, containers item by item. -/
def order : Value → Value → Ordering
  | .bool a, .bool b => compare a.toNat b.toNat
  | .string s _, .string t _ => compare s t
  | .seq xs s, .seq ys t =>
    (compare s.kind.rank t.kind.rank).then (orderItems xs ys)
  | .map es _, .map fs _ => orderEntries es fs
  | .record a, .record b => compare a b
  | v, w =>
    if v.kind ≠ w.kind then compare v.kind.rank w.kind.rank
    else if v.kind = .number then orderNumbers v w
    else if v.kind = .plain then compare v.nestedText w.nestedText
    else .eq

def orderItems : List Value → List Value → Ordering
  | [], [] => .eq
  | [], _ => .lt
  | _, [] => .gt
  | x :: xs, y :: ys => (order x y).then (orderItems xs ys)

def orderEntries : List (Value × Value) → List (Value × Value) → Ordering
  | [], [] => .eq
  | [], _ => .lt
  | _, [] => .gt
  | (k, v) :: es, (l, w) :: fs => ((order k l).then (order v w)).then (orderEntries es fs)

end

mutual

/-- Equality: numbers and booleans by their value, sequences of every shape item by item. -/
def equal : Value → Value → Bool
  | .undefined _, .undefined _ => true
  | .null, .null => true
  | .string s _, .string t _ => s == t
  | .seq xs _, .seq ys _ => equalItems xs ys
  | .map es _, .map fs _ => equalEntries es fs
  | .record a, .record b => a == b
  | v, w =>
    match operands? false v w with
    | some (.ints m n) => m == n
    | some (.floats x y) => x == y
    | none => v.kind == .plain && w.kind == .plain && v.nestedText == w.nestedText

def equalItems : List Value → List Value → Bool
  | [], [] => true
  | x :: xs, y :: ys => equal x y && equalItems xs ys
  | _, _ => false

def equalEntries : List (Value × Value) → List (Value × Value) → Bool
  | [], [] => true
  | (k, v) :: es, (l, w) :: fs => order k l == .eq && equal v w && equalEntries es fs
  | _, _ => false

end

/-- Puts an entry at its place in the key order. -/
def insertEntry (key value : Value) : List (Value × Value) → List (Value × Value)
  | [] => [(key, value)]
  | (k, v) :: rest =>
    match order key k with
    | .lt => (key, value) :: (k, v) :: rest
    | .eq => (k, value) :: rest
    | .gt => (k, v) :: insertEntry key value rest

/-- Entries in the key order, the last of equal keys winning. -/
def sortEntries (entries : List (Value × Value)) : List (Value × Value) :=
  entries.foldl (fun es e => insertEntry e.1 e.2 es) []

/-- A map from entries in any order. -/
def ofEntries (entries : List (Value × Value)) : Value := .map (sortEntries entries) false

/-- The value of a key. -/
def find? (key : Value) (entries : List (Value × Value)) : Option Value :=
  (entries.find? fun e => order key e.1 == .eq).map Prod.snd

/-! ### JSON -/

mutual

/-- The value of a JSON value. -/
def ofJson : Json.Value → Value
  | .null => .null
  | .bool b => .bool b
  | .number (.integer n _) => .int n (if 0 ≤ n then .unsigned64 else .signed64)
  | .number (.real x _) => .float x
  | .string s => text s
  | .array xs => list (ofJsonItems xs)
  | .object ms => .map (ofJsonMembers ms) false

def ofJsonItems : List Json.Value → List Value
  | [] => []
  | x :: xs => ofJson x :: ofJsonItems xs

def ofJsonMembers : List (String × Json.Value) → List (Value × Value)
  | [] => []
  | (k, v) :: ms => (text k, ofJson v) :: ofJsonMembers ms

end

/-- The JSON key for a key of a map. -/
def keyText : Value → Except Fault String
  | .string s _ => .ok s
  | .int n _ => .ok (toString n)
  | .bool b => .ok (if b then "true" else "false")
  | .float x => if x.isFinite then .ok (Json.floatLayout.render x) else .error .keyNotFinite
  | _ => .error .keyNotText

mutual

/-- The JSON form of a value: what does not exist becomes null, as do floats that are not finite. -/
def toJson : Value → Except Fault Json.Value
  | .undefined _ => .ok .null
  | .null => .ok .null
  | .bool b => .ok (.bool b)
  | .int n _ => match Json.Number.ofInt? n with
    | some m => .ok (.number m)
    | none => .error .numberOutOfRange
  | .float x => .ok (Json.Value.ofFloat x)
  | .string s _ => .ok (.string s)
  | .seq xs shape => do
    let items ← toJsonItems xs
    if shape = .brokenStream then .error .invalidOperation else .ok (.array items)
  | .repeated xs times => do
    let items ← toJsonItems xs
    .ok (.array (List.replicate times items).flatten)
  | .map es _ => do .ok (Json.Value.ofPairs (← toJsonEntries es))
  | v => .ok (.string (nestedText v))

def toJsonItems : List Value → Except Fault (List Json.Value)
  | [] => .ok []
  | x :: xs => do
    let y ← toJson x
    let ys ← toJsonItems xs
    .ok (y :: ys)

def toJsonEntries : List (Value × Value) → Except Fault (List (String × Json.Value))
  | [] => .ok []
  | (k, v) :: es => do
    let key ← keyText k
    let value ← toJson v
    let rest ← toJsonEntries es
    .ok ((key, value) :: rest)

end

end Value

end Casebook.Template
