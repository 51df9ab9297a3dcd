import Casebook.Json.Value
import Casebook.Yaml.Literal
import Casebook.Yaml.Node

/-! Nodes as data that say themselves what they are.  A tag of one's own says nothing about data, so a node with one
is refused. -/
namespace Casebook.Yaml

open Json (Value)

inductive Datum where
  | null
  | bool (b : Bool)
  | integer (n : Int)
  | real (x : Float)
  | text (s : String)
  | list (items : List Datum)
  | map (entries : List (Datum × Datum))

instance : Inhabited Datum := ⟨.null⟩

/-! ### Tags -/

/-- The tags of the notation itself. -/
def standardTag (name : String) : String := "tag:yaml.org,2002:" ++ name

/-- The name in a tag of one's own. -/
def ownTag? (tag : Option String) : Option String :=
  tag.bind fun t =>
    if t.startsWith "!" then some (if t = "!" then t else (t.drop 1).toString) else none

namespace Literal

/-- What a scalar says under its tag and style. -/
def ofScalar? (tag : Option String) (style : ScalarStyle) (s : String) : Option Literal :=
  match tag with
  | none => some (if style = .plain then ofPlain s else .text)
  | some t =>
    if (ownTag? tag).isSome then none
    else if t = standardTag "bool" then (bool? s).map .bool
    else if t = standardTag "int" then integer? s
    else if t = standardTag "float" then (float? s).map .real
    else if t = standardTag "null" then if isNull s then some .null else none
    else some .text

end Literal

namespace Datum

/-- A scalar as data; an integer of more than 64 bits is refused. -/
def ofScalar? (tag : Option String) (style : ScalarStyle) (s : String) : Option Datum := do
  match ← Literal.ofScalar? tag style s with
  | .null => some .null
  | .bool b => some (.bool b)
  | .integer n => some (.integer n)
  | .wideInteger => none
  | .real x => some (.real x)
  | .text => some (.text s)

end Datum

namespace Document

/-- The node that stands for a node: an alias stands for what its anchor marks. -/
def follow? (d : Document) : Node → Option Node
  | .alias n => d.marked? n
  | n => some n

/-- The text of a key. -/
def keyText? (d : Document) (n : Node) : Option String := do
  match ← d.follow? n with
  | .scalar _ _ s => some s
  | _ => none

/-- A node as data, with collections that nest at most `room` deep. -/
def datum? (d : Document) : Nat → Node → Option Datum
  | room, n => do
    match ← d.follow? n, room with
    | .scalar tag style s, _ => Datum.ofScalar? tag style s
    | .sequence tag xs, room + 1 =>
      if (ownTag? tag).isSome then none
      (xs.mapM (datum? d room)).map .list
    | .mapping tag es, room + 1 =>
      if (ownTag? tag).isSome then none
      (es.mapM fun (k, v) => do some (← datum? d room k, ← datum? d room v)).map .map
    | _, _ => none

/-- A node as a JSON value; the keys of mappings are texts, however they are written. -/
def json? (d : Document) : Nat → Node → Option Value
  | room, n => do
    match ← d.follow? n, room with
    | .scalar tag style s, _ =>
      match ← Literal.ofScalar? tag style s with
      | .null => some .null
      | .bool b => some (.bool b)
      | .integer n => some (.ofInt n)
      | .wideInteger => none
      | .real x => some (.ofFloat x)
      | .text => some (.string s)
    | .sequence tag xs, room + 1 =>
      if (ownTag? tag).isSome then none
      (xs.mapM (json? d room)).map .array
    | .mapping tag es, room + 1 =>
      if (ownTag? tag).isSome then none
      (es.mapM fun (k, v) => do some (← d.keyText? k, ← json? d room v)).map Value.ofPairs
    | _, _ => none

end Document

namespace Datum

mutual

/-- Data as a JSON value; the keys of maps must be texts. -/
def json? : Datum → Option Value
  | .null => some .null
  | .bool b => some (.bool b)
  | .integer n => some (.ofInt n)
  | .real x => some (.ofFloat x)
  | .text s => some (.string s)
  | .list xs => (jsonItems? xs).map .array
  | .map es => (jsonEntries? es).map Value.ofPairs

def jsonItems? : List Datum → Option (List Value)
  | [] => some []
  | x :: xs => do some ((← json? x) :: (← jsonItems? xs))

def jsonEntries? : List (Datum × Datum) → Option (List (String × Value))
  | [] => some []
  | (.text k, v) :: es => do some ((k, ← json? v) :: (← jsonEntries? es))
  | _ => none

end

mutual

/-- How deep data nest: one without parts. -/
def depth : Datum → Nat
  | .list xs => depthOfItems xs + 1
  | .map es => depthOfEntries es + 1
  | _ => 1

def depthOfItems : List Datum → Nat
  | [] => 0
  | x :: xs => max (depth x) (depthOfItems xs)

def depthOfEntries : List (Datum × Datum) → Nat
  | [] => 0
  | (_, v) :: es => max (depth v) (depthOfEntries es)

end

end Datum

end Casebook.Yaml
