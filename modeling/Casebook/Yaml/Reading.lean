import Casebook.Record
import Casebook.Yaml.Datum

/-! Reading records out of documents.  What a scalar is read as depends on the type that is asked for: a name may be
written as a number.  Where the fields of two records stand side by side, those of the second are settled as data
first. -/
namespace Casebook.Yaml

open Json (Value)
open Record

inductive Reading where
  /-- A node of a document, with collections that nest at most `room` deep. -/
  | written (document : Document) (room : Nat) (node : Node)
  | settled (d : Datum)

namespace Reading

/-- How deep the collections of a document nest. -/
def maxDepth : Nat := 128

def integerBelow? (limit : Nat) (n : Int) : Option Nat := if 0 ≤ n ∧ n < limit then some n.toNat else none

/-! ### Nodes -/

/-- The text of a scalar that is read as a truth value or a number: one without quotes, or a block with a tag. -/
def bareText? (tagName : String) : Node → Option String
  | .scalar _ .plain s => some s
  | .scalar (some t) .literal s => if t = standardTag tagName then some s else none
  | _ => none

/-- Whether a scalar stands for an empty collection. -/
def standsForNothing : Node → Bool
  | .scalar _ .plain s => s.isEmpty
  | _ => false

/-- Whether a node stands for nothing.  A tag that says so must be right. -/
def isAbsent? : Node → Option Bool
  | .scalar none .plain s => some (s.isEmpty || Literal.isNull s)
  | .scalar (some t) .plain s =>
    if t = standardTag "null" then if Literal.isNull s then some true else none else some false
  | _ => some false

/-- The entries of a mapping, or of nothing. -/
def entries? (d : Document) (room : Nat) (n : Node) : Option (List (String × Reading)) := do
  match ← d.follow? n with
  | .mapping _ es =>
    match room with
    | 0 => none
    | room + 1 => es.mapM fun (k, v) => do some (← d.keyText? k, .written d room v)
  | n => if standsForNothing n then some [] else none

def items? (d : Document) (room : Nat) (n : Node) : Option (List Reading) := do
  match ← d.follow? n with
  | .sequence _ xs =>
    match room with
    | 0 => none
    | room + 1 => some (xs.map (.written d room))
  | n => if standsForNothing n then some [] else none

/-- The name of a choice: a scalar, or the tag of a scalar that says nothing else. -/
def choiceName? (n : Node) : Option String :=
  match n with
  | .scalar tag style s =>
    match ownTag? tag with
    | none => some s
    | some t => if style = .plain && (s.isEmpty || Literal.isNull s) then some t else none
  | .sequence .. | .mapping .. | .alias _ => none

/-- The entries with these names as fields, none of which may be there twice. -/
def pick? (names : List String) (es : List (String × Reading)) : Option (Fields Reading) :=
  let known := es.filter fun p => p.1 ∈ names
  if (known.map Prod.fst).eraseDups.length = known.length then some fun name => known.lookup name else none

/-! ### Data -/

def dictOfData? : Datum → Option (Dict Reading)
  | .map es => (es.mapM fun
      | (Datum.text k, v) => some (k, settled v)
      | _ => none).map Dict.ofList
  | _ => none

/-- The entries of a record, whose fields may be named by their places. -/
def fieldEntries? (names : List String) (es : List (Datum × Datum)) : Option (List (String × Reading)) :=
  (es.mapM fun
    | (Datum.text k, v) => some (some (k, settled v))
    | (Datum.integer n, v) => if 0 ≤ n then some (names[n.toNat]?.map (·, settled v)) else none
    | _ => none).map (List.filterMap id)

def choiceOfDatum? : Datum → Option String
  | .text s => some s
  | .map [(.text s, .null)] => some s
  | .map [(.text s, .map [])] => some s
  | _ => none

/-! ### Both -/

def depth : Reading → Nat
  | .written _ room _ => room + 1
  | .settled d => d.depth

def bool? : Decoder Reading Bool
  | .written d _ n => do Literal.bool? (← bareText? "bool" (← d.follow? n))
  | .settled (.bool b) => some b
  | _ => none

def text? : Decoder Reading String
  | .written d _ n => d.keyText? n
  | .settled (.text s) => some s
  | _ => none

def natBelow? (limit : Nat) : Decoder Reading Nat
  | .written d _ n => do integerBelow? limit (← Literal.nat64? (← bareText? "int" (← d.follow? n)))
  | .settled (.integer n) => integerBelow? limit n
  | _ => none

def float? : Decoder Reading Float
  | .written d _ n => do Literal.float? (← bareText? "float" (← d.follow? n))
  | .settled (.integer n) => some (Float.ofInt n)
  | .settled (.real x) => some x
  | _ => none

def json? : Decoder Reading Value
  | .written d room n => d.json? room n
  | .settled v => v.json?

def present? : Decoder Reading (Option Reading)
  | .written d room n => do
    let n ← d.follow? n
    some (if ← isAbsent? n then none else some (.written d room n))
  | .settled .null => some none
  | v => some (some v)

def allItems? : Decoder Reading (List Reading)
  | .written d room n => items? d room n
  | .settled (.list xs) => some (xs.map .settled)
  | _ => none

def dict? : Decoder Reading (Dict Reading)
  | .written d room n => (entries? d room n).map Dict.ofList
  | .settled v => dictOfData? v

def fields? (names : List String) : Decoder Reading (Fields Reading)
  | .written d room n => (entries? d room n).bind (pick? names)
  | .settled (.map es) => (fieldEntries? names es).bind (pick? names)
  | .settled (.list xs) =>
    if xs.length ≤ names.length then some fun name => (names.zip (xs.map .settled)).lookup name else none
  | _ => none

/-- What the other fields of a record say as data. -/
def rest? (names : List String) (es : List (String × Reading)) : Option Reading := do
  let others := es.filter fun p => p.1 ∉ names
  let data ← others.mapM fun (k, v) => do
    match v with
    | .written d room n => some (Datum.text k, ← d.datum? room n)
    | .settled v => some (Datum.text k, v)
  some (.settled (.map data))

def split? (names : List String) : Decoder Reading (Fields Reading × Reading) := fun v => do
  let es ← match v with
    | .written d room n => entries? d room n
    | .settled (.map es) => fieldEntries? [] es
    | _ => none
  some (← pick? names es, ← rest? names es)

def choice? (names : List String) : Decoder Reading String := fun v => do
  let name ← match v with
    | .written d _ n => (d.follow? n).bind choiceName?
    | .settled v => choiceOfDatum? v
  if name ∈ names then some name else none

instance : Source Reading where
  bool?
  text?
  natBelow?
  float?
  json?
  present?
  items? := allItems?
  dict?
  fields?
  split?
  choice?
  depth

end Reading

namespace Document

/-- What is left of a number of aliases that may be followed, after those of a node and of what they stand for. -/
def spend (d : Document) : Nat → Node → Nat → Option Nat
  | room, n, budget => do
    let (n, budget) ← match n with
      | .alias _ => if budget = 0 then none else some (← d.follow? n, budget - 1)
      | _ => some (n, budget)
    match n, room with
    | .sequence _ xs, room + 1 => xs.foldlM (fun b x => spend d room x b) budget
    | .mapping _ es, room + 1 => es.foldlM (fun b (k, v) => do spend d room v (← spend d room k b)) budget
    | _, _ => some budget

/-- The record that a text holds.  Aliases may be followed a hundred times for each of the document's parts. -/
def decode? {α : Type} (decoder : Decoder Reading α) (text : String) : Option α := do
  let d ← ofText? text
  let _ ← d.spend Reading.maxDepth d.root (100 * d.size)
  decoder (.written d Reading.maxDepth d.root)

end Document

end Casebook.Yaml
