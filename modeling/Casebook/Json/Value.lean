import Casebook.Decimal.Numeral
import Casebook.Dict

/-! JSON values.  Numbers are 64 bit integers, signed or unsigned, or finite floats; an object lists its members
in ascending key order, each key once. -/
namespace Casebook.Json

open Decimal

inductive Number where
  | integer (n : Int) (bounds : minInt64 ≤ n ∧ n ≤ maxNat64)
  | real (x : Float) (finite : x.isFinite = true)
deriving DecidableEq

namespace Number

/-- An integer that fits into 64 bits. -/
def ofInt? (n : Int) : Option Number :=
  if h : minInt64 ≤ n ∧ n ≤ maxNat64 then some (.integer n h) else none

/-- A float that is finite. -/
def ofFloat? (x : Float) : Option Number :=
  if h : x.isFinite = true then some (.real x h) else none

def ofInt64 (n : Int) : Number :=
  .integer (max minInt64 (min maxInt64 n)) (by simp only [minInt64, maxInt64, maxNat64]; omega)

@[simp] theorem ofInt?_eq_some {n : Int} (h : minInt64 ≤ n ∧ n ≤ maxNat64) :
    ofInt? n = some (.integer n h) := by simp [ofInt?, h]

@[simp] theorem ofFloat?_eq_some {x : Float} (h : x.isFinite = true) :
    ofFloat? x = some (.real x h) := by simp [ofFloat?, h]

/-- The nearest float. -/
def toFloat : Number → Float
  | .integer n _ => Float.ofInt n
  | .real x _ => x

/-- The number as an integer, unless it was written as a float. -/
def toInt? : Number → Option Int
  | .integer n _ => some n
  | .real _ _ => none

/-- Equality of numbers of one kind; floats compare as floats, so the two zeros are equal. -/
def same : Number → Number → Bool
  | .integer m _, .integer n _ => m == n
  | .real x _, .real y _ => x == y
  | _, _ => false

end Number

inductive Value where
  | null
  | bool (b : Bool)
  | number (n : Number)
  | string (s : String)
  | array (items : List Value)
  | object (members : List (String × Value))

/-- The members of an object. -/
abbrev Members := Dict Value

instance : Inhabited Value := ⟨.null⟩

namespace Value

def ofNat (n : Nat) : Value := .number (.integer (min n 18446744073709551615) (by
  simp only [minInt64, maxNat64]; omega))

/-- An integer within bounds, and null beyond them. -/
def ofInt (n : Int) : Value := ((Number.ofInt? n).map .number).getD .null

/-- A float; what JSON cannot hold becomes null. -/
def ofFloat (x : Float) : Value := ((Number.ofFloat? x).map .number).getD .null

/-- An object from pairs in any order. -/
def ofPairs (pairs : List (String × Value)) : Value := .object (Dict.ofList pairs)

/-- The member of an object. -/
def get? (key : String) : Value → Option Value
  | .object ms => ms.lookup key
  | _ => none

def isNull : Value → Bool
  | .null => true
  | _ => false

def asString? : Value → Option String
  | .string s => some s
  | _ => none

def asBool? : Value → Option Bool
  | .bool b => some b
  | _ => none

def asInt? : Value → Option Int
  | .number n => n.toInt?
  | _ => none

def asArray? : Value → Option (List Value)
  | .array items => some items
  | _ => none

def asObject? : Value → Option Members
  | .object ms => some ms
  | _ => none

mutual

/-- How deep a value nests: one for a value without parts. -/
def depth : Value → Nat
  | .array xs => depthOfItems xs + 1
  | .object ms => depthOfMembers ms + 1
  | _ => 1

def depthOfItems : List Value → Nat
  | [] => 0
  | x :: xs => max (depth x) (depthOfItems xs)

def depthOfMembers : List (String × Value) → Nat
  | [] => 0
  | (_, v) :: ms => max (depth v) (depthOfMembers ms)

end

mutual

/-- Equality of values, with numbers compared by `Number.same`. -/
def same : Value → Value → Bool
  | .null, .null => true
  | .bool a, .bool b => a == b
  | .number m, .number n => m.same n
  | .string s, .string t => s == t
  | .array xs, .array ys => sameItems xs ys
  | .object ms, .object ns => sameMembers ms ns
  | _, _ => false

def sameItems : List Value → List Value → Bool
  | [], [] => true
  | x :: xs, y :: ys => same x y && sameItems xs ys
  | _, _ => false

def sameMembers : List (String × Value) → List (String × Value) → Bool
  | [], [] => true
  | (k, v) :: ms, (l, w) :: ns => k == l && same v w && sameMembers ms ns
  | _, _ => false

end

mutual

/-- Every object, at any depth, lists its keys in strictly ascending order. -/
def Canonical : Value → Prop
  | .array xs => CanonicalItems xs
  | .object ms => Dict.Sorted ms ∧ CanonicalMembers ms
  | _ => True

def CanonicalItems : List Value → Prop
  | [] => True
  | x :: xs => Canonical x ∧ CanonicalItems xs

def CanonicalMembers : List (String × Value) → Prop
  | [] => True
  | (_, v) :: ms => Canonical v ∧ CanonicalMembers ms

end

theorem canonicalItems_iff {xs : List Value} : CanonicalItems xs ↔ ∀ x ∈ xs, x.Canonical := by
  induction xs with
  | nil => simp [CanonicalItems]
  | cons x xs ih => simp [CanonicalItems, ih]

theorem canonicalMembers_iff {ms : Members} : CanonicalMembers ms ↔ ∀ m ∈ ms, m.2.Canonical := by
  induction ms with
  | nil => simp [CanonicalMembers]
  | cons m ms ih => simp [CanonicalMembers, ih]

end Value

end Casebook.Json
