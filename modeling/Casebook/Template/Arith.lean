import Casebook.Template.Expr
import Casebook.Text.Basic

/-! The operators of expressions.  Integers have 128 bits and never wrap around: an operation that would is
refused.  Division and remainder of integers are Euclidean. -/
namespace Casebook.Template

open Decimal

namespace Value

def ofWide (n : Int) : Except Fault Value :=
  if minInt128 ≤ n ∧ n ≤ maxInt128 then .ok (ofInt n) else .error .invalidOperation

/-- Cuts the fraction off. -/
def cut (x : Float) : Float := if x < 0.0 then x.ceil else x.floor

/-- The remainder of a division cut towards zero, exactly; its sign is that of the dividend. -/
def remainder (x y : Float) : Float :=
  if x.isNaN || y.isNaN || !x.isFinite || y == 0.0 then 0.0 / 0.0
  else if !y.isFinite || x == 0.0 then x
  else
    let a := Binary64.ofFloat x
    let b := Binary64.ofFloat y
    let e := min a.exponent b.exponent
    let r := a.significand <<< (a.exponent - e).toNat % b.significand <<< (b.exponent - e).toNat
    let size := (Float.ofNat r).scaleB e
    if a.negative then -size else size

/-- The quotient that leaves a remainder which is not negative. -/
def floatQuotient (x y : Float) : Float :=
  let q := cut (x / y)
  if remainder x y < 0.0 then (if 0.0 < y then q - 1.0 else q + 1.0) else q

/-- A power of an integer, unless it leaves 128 bits. -/
def intPower (m n : Int) : Except Fault Value :=
  if n < 0 ∨ 4294967296 ≤ n then .error .invalidOperation
  else if n = 0 ∨ m = 1 then .ok (ofInt 1)
  else if m = 0 then .ok (ofInt 0)
  else if m = -1 then .ok (ofInt (if n % 2 = 0 then 1 else -1))
  else if 127 < n then .error .invalidOperation
  else ofWide (Int.pow m n.toNat)

/-- The members of a sequence, as far as they can be produced. -/
def members? : Value → Option (List Value)
  | .seq xs _ => some xs
  | .repeated xs times => some (unrolled xs times)
  | _ => none

/-- Whether the length of a sequence is known before its members are. -/
def isSized : Value → Bool
  | .seq _ .stream | .seq _ .brokenStream => false
  | _ => true

/-- How often something is repeated. -/
def count? (v : Value) : Option Nat := (v.intIn? 0 maxNat64).map Int.toNat

/-- The longest text that repetition may build. -/
def maxRepeated : Nat := 100000000

/-- Longer repetitions are not written out. -/
def maxUnrolled : Nat := 1000000

def repeatText (s : String) (n : Nat) : Except Fault Value :=
  if s.isEmpty then .ok (text "")
  else if s.length * n ≤ maxRepeated then .ok (text (String.join (List.replicate n s)))
  else .error .invalidOperation

def repeatItems (xs : List Value) (n : Nat) : Value :=
  if xs.isEmpty then .seq [] .iterator
  else if xs.length * n ≤ maxUnrolled then .seq (unrolled xs n) .iterator
  else .repeated xs n

def repeat? (v : Value) (n : Nat) : Except Fault Value :=
  match v with
  | .string s _ => repeatText s n
  | .repeated xs times => .ok (repeatItems xs (times * n))
  | _ =>
    match v.members? with
    | some xs => if v.isSized then .ok (repeatItems xs n) else .error .invalidOperation
    | none => .error .invalidOperation

/-- Two sequences one after the other. -/
def append (a b : Value) (xs ys : List Value) : Value :=
  .seq (xs ++ ys) (if a.isSized && b.isSized then .iterator else .stream)

def add (a b : Value) : Except Fault Value :=
  match a, b with
  | .string s _, .string t _ => .ok (text (s ++ t))
  | _, _ =>
    match a.members?, b.members? with
    | some xs, some ys => .ok (append a b xs ys)
    | _, _ =>
      match operands? true a b with
      | some (.ints m n) => ofWide (m + n)
      | some (.floats x y) => .ok (.float (x + y))
      | none => .error .invalidOperation

def sub (a b : Value) : Except Fault Value :=
  match operands? true a b with
  | some (.ints m n) => ofWide (m - n)
  | some (.floats x y) => .ok (.float (x - y))
  | none => .error .invalidOperation

def isRepeatable : Value → Bool
  | .string .. => true
  | .seq .. => true
  | .repeated .. => true
  | _ => false

/-- The operand that is repeated, if there is one, and how often: texts come before sequences. -/
def repetition? (a b : Value) : Option (Value × Value) :=
  if a.kind = .string then some (a, b)
  else if b.kind = .string then some (b, a)
  else if a.isRepeatable then some (a, b)
  else if b.isRepeatable then some (b, a)
  else none

def mul (a b : Value) : Except Fault Value :=
  match repetition? a b with
  | some (v, times) =>
    match times.count? with
    | some n => repeat? v n
    | none => .error .invalidOperation
  | none =>
    match operands? true a b with
    | some (.ints m n) => ofWide (m * n)
    | some (.floats x y) => .ok (.float (x * y))
    | none => .error .invalidOperation

def div (a b : Value) : Except Fault Value :=
  match a.toFloat? true, b.toFloat? true with
  | some x, some y => .ok (.float (x / y))
  | _, _ => .error .invalidOperation

def floorDiv (a b : Value) : Except Fault Value :=
  match operands? true a b with
  | some (.ints m n) => if n = 0 then .error .invalidOperation else ofWide (m / n)
  | some (.floats x y) => .ok (.float (floatQuotient x y))
  | none => .error .invalidOperation

def mod (a b : Value) : Except Fault Value :=
  match operands? true a b with
  | some (.ints m n) => if n = 0 then .error .invalidOperation else ofWide (m % n)
  | some (.floats x y) => .ok (.float (remainder x y))
  | none => .error .invalidOperation

def pow (a b : Value) : Except Fault Value :=
  match operands? true a b with
  | some (.ints m n) => intPower m n
  | some (.floats x y) => .ok (.float (x.pow y))
  | none => .error .invalidOperation

def neg : Value → Except Fault Value
  | .int n _ => ofWide (-n)
  | .float x => .ok (.float (-x))
  | _ => .error .invalidOperation

def binary (op : BinaryOp) (a b : Value) : Except Fault Value :=
  match op with
  | .add => add a b
  | .sub => sub a b
  | .mul => mul a b
  | .div => div a b
  | .floorDiv => floorDiv a b
  | .mod => mod a b
  | .pow => pow a b
  | .concat => .ok (text (a.display ++ b.display))

/-- Whether `item` occurs in `container`. -/
def contains (container item : Value) : Except Fault Bool :=
  match container with
  | .undefined _ => .ok false
  | .string s _ => .ok (Text.contains item.display s)
  | .map es _ => .ok (find? item es).isSome
  | .builtin _ | .closure .. | .loop .. => .ok false
  | .seq xs _ => .ok (xs.any (equal · item))
  | .repeated xs times => .ok (times != 0 && xs.any (equal · item))
  | _ => .error .invalidOperation

def compareBy (op : CompareOp) (a b : Value) : Except Fault Bool :=
  match op with
  | .eq => .ok (equal a b)
  | .ne => .ok (!equal a b)
  | .lt => .ok (order a b == .lt)
  | .le => .ok (order a b != .gt)
  | .gt => .ok (order a b == .gt)
  | .ge => .ok (order a b != .lt)
  | .isIn => contains b a
  | .notIn => (contains b a).map (!·)

/-- What iterating over a value yields: members, keys of a map or characters; nothing for what does not exist. -/
def walk : Value → Except Fault (List Value)
  | .undefined _ => .ok []
  | .null => .ok []
  | .string s _ => .ok (s.toList.map fun c => text (String.singleton c))
  | .map es _ => .ok (es.map Prod.fst)
  | .seq _ .brokenStream => .error .invalidOperation
  | v =>
    match v.members? with
    | some xs => .ok xs
    | none => .error .invalidOperation

/-- What iterating over a value that must exist yields. -/
def iterate : Value → Except Fault (List Value)
  | .undefined false => .error .undefinedValue
  | v => v.walk

/-- The number of members, entries or characters, if it is known. -/
def size? : Value → Option Nat
  | .string s _ => some s.length
  | .map es _ => some es.length
  | .repeated xs times => some (xs.length * times)
  | .seq xs shape => if isSized (.seq xs shape) then some xs.length else none
  | _ => none

/-- A position that may count from the end, where the end is known. -/
def position? (index : Value) (size : Option Nat) : Option Nat :=
  (index.intIn? minInt64 maxInt64).bind fun i =>
    if 0 ≤ i then some i.toNat
    else size.bind fun n => if -i ≤ n then some (n - (-i).toNat) else none

/-- The attributes of a running loop. -/
def loopAttr (index : Nat) (count : Option Nat) (depth : Nat) (previous next : Value) : String → Option Value
  | "index0" => some (ofNat index)
  | "index" => some (ofNat (index + 1))
  | "length" => some ((count.map ofNat).getD missing)
  | "revindex" => some ((count.map fun n => ofNat (n - index)).getD missing)
  | "revindex0" => some ((count.map fun n => ofNat (n - index - 1)).getD missing)
  | "first" => some (.bool (index == 0))
  | "last" => some (.bool (match count with
    | some n => index + 1 == n
    | none => next.isUndefined))
  | "depth" => some (ofNat (depth + 1))
  | "depth0" => some (ofNat depth)
  | "previtem" => some previous
  | "nextitem" => some next
  | _ => none

/-- What a value tells under a name. -/
def attr? (v : Value) (name : String) : Option Value :=
  match v with
  | .map es _ => find? (text name) es
  | .loop _ index count depth previous next => loopAttr index count depth previous next name
  | .closure _ own params usesCaller =>
    match name with
    | "name" => some (text own)
    | "arguments" => some (list (params.map text))
    | "caller" => some (.bool usesCaller)
    | _ => none
  | .seq [k, xs] .group =>
    match name with
    | "grouper" => some k
    | "list" => some xs
    | _ => none
  | _ => none

/-- The part of a value under a key. -/
def item? (v key : Value) : Option Value :=
  match v, key with
  | .map es _, _ => find? key es
  | .repeated xs times, _ =>
    (position? key (some (xs.length * times))).bind fun i =>
      if i < xs.length * times then xs[i % xs.length]? else none
  | .string s _, _ =>
    ((position? key (some s.length)).bind fun i => s.toList[i]?).map fun c => text (String.singleton c)
  | .seq xs _, _ =>
    match key with
    | .string name _ => v.attr? name
    | _ => (position? key v.size?).bind fun i => xs[i]?
  | _, .string name _ => v.attr? name
  | _, _ => none

/-- The part of a value under a key, or nothing. -/
def item (v key : Value) : Value := (v.item? key).getD missing

/-- The part of a value under a dotted path of names and positions. -/
def path (v : Value) (p : String) : Except Fault Value :=
  (Text.pieces "." p).foldlM (fun v part =>
    if v.isUndefined then .error .undefinedValue
    else match Decimal.nat64? part with
      | some n => .ok (item v (ofNat n))
      | none => .ok ((v.attr? part).getD missing)) v

/-- The part of a value under a path, or another value where there is none. -/
def pathOr (fallback v : Value) (p : String) : Value :=
  match path v p with
  | .ok w => if w.isUndefined then fallback else w
  | .error _ => fallback

/-- Every `step`-th item, from the first one on. -/
def every {α : Type} (step : Nat) : Nat → List α → List α
  | 0, _ => []
  | _, [] => []
  | fuel + 1, x :: xs => x :: every step fuel (xs.drop (step - 1))

/-- A range of a list; positions count from the end when negative, and are cut to the list. -/
def forward {α : Type} (xs : List α) (start stop : Option Int) (step : Nat) : List α :=
  let n : Int := xs.length
  let place (i : Int) : Int := max 0 (min n (if i < 0 then i + n else i))
  let s := place (start.getD 0)
  let e := place (stop.getD n)
  every step xs.length ((xs.drop s.toNat).take (e - s).toNat)

/-- A range of a list of unknown length; the end counts as the start does. -/
def forwardUnsized {α : Type} (xs : List α) (start stop : Option Int) (step : Nat) : List α :=
  let s := (start.getD 0).toNat
  let e := (stop.getD 0).toNat
  every step xs.length ((xs.drop s).take (e - s))

/-- A range of a list in reverse.  A range down to the first item holds that item. -/
def backward {α : Type} (xs : List α) (start stop : Option Int) (step : Nat) : List α :=
  let n := xs.length
  let place (i : Int) : Nat := (if i < 0 then i + n else i).toNat
  let s := match start with
    | some i => min (place i) (n - 1)
    | none => n - 1
  let e := (stop.map place).getD 0
  every step n ((xs.take (s + 1)).drop (if e = 0 then 0 else e + 1)).reverse

/-- A bound of a range; null leaves it open. -/
def bound : Option Value → Except Fault (Option Int)
  | none => .ok none
  | some .null => .ok none
  | some v => match v.intIn? minInt64 maxInt64 with
    | some n => .ok (some n)
    | none => .error .invalidOperation

/-- A range of a text or sequence. -/
def slice (v : Value) (start stop step : Option Value) : Except Fault Value := do
  let s ← bound start
  let e ← bound stop
  let k ← bound step
  let k := k.getD 1
  let cut {α : Type} (xs : List α) : List α :=
    if k < 0 then backward xs s e k.natAbs
    else if v.isSized then forward xs s e k.natAbs
    else forwardUnsized xs s e k.natAbs
  if k = 0 then .error .invalidOperation
  else match v with
    | .string t _ => .ok (text (String.ofList (cut t.toList)))
    | .undefined _ | .null => .ok (list [])
    | .seq _ .brokenStream => .error .invalidOperation
    | _ => match v.members? with
      | some xs => .ok (.seq (cut xs) (if k < 0 || v.isSized then .iterator else .stream))
      | none => .error .invalidOperation

end Value

end Casebook.Template
