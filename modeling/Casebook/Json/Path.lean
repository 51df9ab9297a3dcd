import Casebook.Json.Value
import Casebook.Text.Basic

/-! Paths into JSON documents.  A path starts with `$` and goes on with `.name`, `['name']`, `[position]`, `.*`, and
after two points with the same at any depth. -/
namespace Casebook.Json

open Decimal

/-- A step of a path. -/
inductive Segment where
  | member (key : String)
  /-- An element of an array; a negative position counts from the end. -/
  | index (i : Int)
  | wildcard
  /-- Members of that name of the node and of everything below it. -/
  | descendant (key : String)
  | anyDescendant
deriving DecidableEq, Repr

abbrev Path := List Segment

namespace Value

/-- Members in key order, or elements in their order. -/
def children : Value → List Value
  | .object ms => ms.map Prod.snd
  | .array xs => xs
  | _ => []

mutual

/-- A value and everything below it, each before what is below it. -/
def descendants : Value → List Value
  | .array xs => .array xs :: descendantsOfItems xs
  | .object ms => .object ms :: descendantsOfMembers ms
  | v => [v]

def descendantsOfItems : List Value → List Value
  | [] => []
  | x :: xs => descendants x ++ descendantsOfItems xs

def descendantsOfMembers : List (String × Value) → List Value
  | [] => []
  | (_, v) :: ms => descendants v ++ descendantsOfMembers ms

end

/-- The element at a position, which may count from the end. -/
def element? (i : Int) : Value → Option Value
  | .array xs =>
    let p := if i < 0 then (xs.length : Int) + i else i
    if 0 ≤ p then xs[p.toNat]? else none
  | _ => none

end Value

/-- What a step leads to from a value. -/
def Segment.step (v : Value) : Segment → List Value
  | .member key => (v.get? key).toList
  | .index i => (v.element? i).toList
  | .wildcard => v.children
  | .descendant key => v.descendants.filterMap (Value.get? key)
  | .anyDescendant => v.descendants.flatMap Value.children

/-- Everything that a path leads to. -/
def Path.select (path : Path) (root : Value) : List Value :=
  path.foldl (fun nodes s => nodes.flatMap fun v => s.step v) [root]

namespace Path

inductive Fault where
  | noRoot
  | indexAfterDescent
  | emptySegment
  | unexpected (c : Char)
  | unclosedBracket
  | invalidIndex (text : String)
deriving DecidableEq, Repr

/-- What is wrong with a path of that text. -/
def Fault.message (text : String) : Fault → String
  | .noRoot => "JSONPath '" ++ text ++ "' must start with '$'"
  | .indexAfterDescent => "JSONPath '" ++ text ++ "' does not support indexes after '..'"
  | .emptySegment => "JSONPath '" ++ text ++ "' has an empty segment"
  | .unexpected c => "JSONPath '" ++ text ++ "' has unexpected character '" ++ String.singleton c ++ "'"
  | .unclosedBracket => "JSONPath '" ++ text ++ "' has an unclosed '['"
  | .invalidIndex index => "JSONPath '" ++ text ++ "' has invalid index '" ++ index ++ "'"

/-- Whether a character may stand in a name after a point. -/
def isNameChar (c : Char) : Bool := c != '.' && c != '['

/-- The segment of a name after one point. -/
def namedSegment (name : List Char) : Except Fault Segment :=
  let s := Text.trim (String.ofList name)
  if s.isEmpty then .error .emptySegment
  else if s = "*" then .ok .wildcard
  else .ok (.member s)

/-- The inside of a text between quotes. -/
def unquoted? (cs : List Char) : Option String :=
  match cs with
  | q :: rest =>
    if (q = '\'' ∨ q = '"') ∧ rest.getLast? = some q then some (String.ofList rest.dropLast) else none
  | [] => none

/-- The segment between brackets. -/
def bracketSegment (inner : List Char) : Except Fault Segment :=
  let cs := Text.trimList Text.isBlank inner
  if cs = ['*'] then .ok .wildcard
  else match unquoted? cs with
    | some key => .ok (.member key)
    | none =>
      match int64? (String.ofList cs) with
      | some i => .ok (.index i)
      | none => .error (.invalidIndex (String.ofList cs))

/-- A segment after two points. -/
def deepened : Segment → Except Fault Segment
  | .member key => .ok (.descendant key)
  | .wildcard => .ok .anyDescendant
  | _ => .error .indexAfterDescent

/-- The text up to a closing bracket and what follows the bracket. -/
def splitBracket (cs : List Char) : Option (List Char × List Char) :=
  match cs with
  | [] => none
  | c :: rest =>
    if c = ']' then some ([], rest)
    else (splitBracket rest).map fun (inner, after) => (c :: inner, after)

theorem splitBracket_length {cs inner after : List Char} (h : splitBracket cs = some (inner, after)) :
    after.length < cs.length := by
  induction cs generalizing inner with
  | nil => simp [splitBracket] at h
  | cons c rest ih =>
    simp only [splitBracket] at h
    split at h
    · simp_all
    · obtain ⟨⟨i, a⟩, hs, he⟩ := Option.map_eq_some_iff.1 h
      simp only [Prod.mk.injEq] at he
      obtain ⟨-, rfl⟩ := he
      exact Nat.lt_succ_of_lt (ih hs)

/-- The segments after the `$`. -/
def segments (cs : List Char) : Except Fault Path :=
  match cs with
  | [] => .ok []
  | '.' :: '.' :: '[' :: rest =>
    match h : splitBracket rest with
    | none => .error .unclosedBracket
    | some (inner, after) => do
      have := splitBracket_length h
      let s ← deepened (← bracketSegment inner)
      return s :: (← segments after)
  | '.' :: '.' :: rest => do
    let s ← deepened (← namedSegment (rest.takeWhile isNameChar))
    have := (List.dropWhile_suffix isNameChar (l := rest)).length_le
    return s :: (← segments (rest.dropWhile isNameChar))
  | '.' :: rest => do
    let s ← namedSegment (rest.takeWhile isNameChar)
    have := (List.dropWhile_suffix isNameChar (l := rest)).length_le
    return s :: (← segments (rest.dropWhile isNameChar))
  | '[' :: rest =>
    match h : splitBracket rest with
    | none => .error .unclosedBracket
    | some (inner, after) => do
      have := splitBracket_length h
      let s ← bracketSegment inner
      return s :: (← segments after)
  | c :: _ => .error (.unexpected c)
termination_by cs.length
decreasing_by all_goals simp only [List.length_cons]; omega

/-- The path that a text writes; blanks around it do not count. -/
def ofText? (text : String) : Except Fault Path :=
  match Text.trimList Text.isBlank text.toList with
  | '$' :: rest => segments rest
  | _ => .error .noRoot

end Path

/-- What a path in text form leads to. -/
def Value.selectText (text : String) (root : Value) : Except String (List Value) :=
  match Path.ofText? text with
  | .ok path => .ok (path.select root)
  | .error f => .error (f.message text)

/-- Follows plain keys: names of members, and positions in arrays. -/
def Value.follow? : List String → Value → Option Value
  | [], v => some v
  | key :: keys, v =>
    let next := match v with
      | .object ms => Dict.get? key ms
      | .array xs => (nat64? key).bind fun i => xs[i]?
      | _ => none
    next.bind (follow? keys)

end Casebook.Json
