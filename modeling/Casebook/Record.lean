import Casebook.Json.Value

/-! Reading typed data out of the nodes of a notation.  JSON values are one notation: a record is an object, or an
array of its fields in order, and fields that a record does not have are ignored. -/
namespace Casebook

open Json (Value)

namespace Record

abbrev Decoder (ν α : Type) := ν → Option α

/-- The fields of a record by name. -/
abbrev Fields (ν : Type) := String → Option ν

/-- A notation for data: what a node says when it is read as a value of some type. -/
class Source (ν : Type) where
  bool? : Decoder ν Bool
  text? : Decoder ν String
  /-- A natural number below a limit. -/
  natBelow? : Nat → Decoder ν Nat
  float? : Decoder ν Float
  json? : Decoder ν Value
  /-- The node itself, or nothing where it stands for nothing. -/
  present? : Decoder ν (Option ν)
  items? : Decoder ν (List ν)
  dict? : Decoder ν (Dict ν)
  /-- The fields of a record whose fields have these names. -/
  fields? : List String → Decoder ν (Fields ν)
  /-- The fields with these names, and a node of the other fields, which are those of another record. -/
  split? : List String → Decoder ν (Fields ν × ν)
  /-- The name of a choice between names. -/
  choice? : List String → Decoder ν String
  /-- A bound on how deep the node nests. -/
  depth : ν → Nat

/-- The members of an object as fields. -/
def ofMembers (ms : Json.Members) : Fields Value := fun name => Dict.get? name ms

instance : Source Value where
  bool? := Value.asBool?
  text? := Value.asString?
  natBelow? limit v := v.asInt?.bind fun n => if 0 ≤ n ∧ n < limit then some n.toNat else none
  float?
    | .number n => some n.toFloat
    | _ => none
  json? := some
  present?
    | .null => some none
    | v => some (some v)
  items? := Value.asArray?
  dict? := Value.asObject?
  fields? names
    | .object ms => some (ofMembers ms)
    | .array xs => if xs.length ≤ names.length then some fun name => (names.zip xs).lookup name else none
    | _ => none
  split? _
    | .object ms => some (ofMembers ms, .object ms)
    | _ => none
  choice? names
    | .string s => if s ∈ names then some s else none
    | .object [(s, .null)] => if s ∈ names then some s else none
    | _ => none
  depth := Value.depth

section Decoders

variable {ν : Type} [Source ν] {α : Type}

def anyValue : Decoder ν Value := Source.json?

def bool : Decoder ν Bool := Source.bool?

def string : Decoder ν String := Source.text?

def uint16 : Decoder ν UInt16 := fun v => (Source.natBelow? (65536) v).map UInt16.ofNat

def uint32 : Decoder ν UInt32 := fun v => (Source.natBelow? (4294967296) v).map UInt32.ofNat

def uint64 : Decoder ν UInt64 := fun v => (Source.natBelow? (18446744073709551616) v).map UInt64.ofNat

def float : Decoder ν Float := Source.float?

def optional (d : Decoder ν α) : Decoder ν (Option α) := fun v => do
  match ← Source.present? v with
  | none => some none
  | some v => (d v).map some

def listOf (d : Decoder ν α) : Decoder ν (List α) := fun v => (Source.items? v).bind fun xs => xs.mapM d

def dictOf (d : Decoder ν α) : Decoder ν (Dict α) := fun v =>
  (Source.dict? v).bind fun ms => ms.mapM fun (k, w) => (d w).map (k, ·)

/-- One of some names. -/
def choice (names : List (String × α)) : Decoder ν α := fun v =>
  (Source.choice? (names.map Prod.fst) v).bind fun name => names.lookup name

def fields (names : List String) : Decoder ν (Fields ν) := Source.fields? names

def required (f : Fields ν) (name : String) (d : Decoder ν α) : Option α := (f name).bind d

def withDefault (f : Fields ν) (name : String) (d : Decoder ν α) (default : α) : Option α :=
  match f name with
  | none => some default
  | some v => d v

/-- A field that may be absent or null. -/
def maybe (f : Fields ν) (name : String) (d : Decoder ν α) : Option (Option α) :=
  withDefault f name (optional d) none

/-- A choice between contents, with the name of the choice in one field and the content in another. -/
def tagged (tag content : String) (choices : List (String × Decoder ν α)) : Decoder ν α := fun v => do
  let f ← fields [tag, content] v
  required f content (← required f tag (choice choices))

end Decoders

end Record

namespace Json.Value

/-- An object from pairs, leaving out those without a value. -/
def ofFields (pairs : List (String × Option Value)) : Value :=
  ofPairs (pairs.filterMap fun (k, v) => v.map (k, ·))

def ofUInt64 (n : UInt64) : Value := ofNat n.toNat

def ofUInt32 (n : UInt32) : Value := ofNat n.toNat

def ofTexts (d : Dict String) : Value := .object (d.map fun (k, v) => (k, .string v))

/-- A choice with its name and its content in two fields. -/
def ofTagged (tag content name : String) (v : Value) : Value :=
  ofPairs [(tag, .string name), (content, v)]

end Json.Value

end Casebook
