import Casebook.Yaml.Token

/-! The nodes of a document.  An alias names an anchor by its number; what the anchor marks is looked up in the
document as a whole. -/
namespace Casebook.Yaml

inductive Node where
  | scalar (tag : Option String) (style : ScalarStyle) (text : String)
  | sequence (tag : Option String) (items : List Node)
  | mapping (tag : Option String) (entries : List (Node × Node))
  | alias (anchor : Nat)

namespace Node

/-- What stands where nothing is written. -/
def blank : Node := .scalar none .plain ""

end Node

/-- What is known of a document while its tokens are read. -/
structure Draft where
  tokens : List Token
  /-- What the handles of tags stand for. -/
  shorthands : List (String × String)
  /-- The numbers of anchors by name.  A name that is used again gets the number of names so far. -/
  anchors : List (String × Nat)
  /-- The place of the node that an anchor marks; of equal numbers the last counts. -/
  places : List (Nat × Nat)
  /-- The marked nodes by their places. -/
  marked : List (Nat × Node)
  /-- The number of scalars, aliases, and beginnings and ends of collections so far. -/
  size : Nat

abbrev Drafting := StateT Draft Option

namespace Drafting

def refuse {α : Type} : Drafting α := fun _ => none

def peek? : Drafting (Option Token) := return (← get).tokens.head?

def skip : Drafting Unit := modify fun s => { s with tokens := s.tokens.drop 1 }

def count (n : Nat) : Drafting Unit := modify fun s => { s with size := s.size + n }

/-- Moves over a token if it is the next one. -/
def take (t : Token) : Drafting Bool := do
  if (← peek?) == some t then skip; return true
  else return false

def expect (t : Token) : Drafting Unit := do if !(← take t) then refuse

/-- Whether one of some tokens is next. -/
def sees (ts : List Token) : Drafting Bool := return (← peek?).any ts.contains

def blank : Drafting Node := do count 1; return .blank

/-! ### Anchors and tags -/

/-- Gives a number to a name. -/
def number (name : String) : Drafting Nat := do
  let s ← get
  let n := s.anchors.length
  let others := s.anchors.filter fun p => p.1 != name
  set { s with anchors := (name, n) :: others, places := (n, s.size) :: s.places }
  return n

/-- Notes the node of an anchor that began at a place. -/
def mark (place : Option Nat) (n : Node) : Drafting Node := do
  match place with
  | some p => modify fun s => { s with marked := (p, n) :: s.marked }
  | none => pure ()
  return n

/-- The tag that a handle and a suffix stand for. -/
def expand (handle suffix : String) : Drafting String := do
  if handle.isEmpty then return suffix
  match (← get).shorthands.lookup handle with
  | some expansion => return expansion ++ suffix
  | none => refuse

/-- A name and a tag in front of a node, in any order. -/
def properties : Drafting (Option String × Option String) := do
  let anchor? : Drafting (Option String) := do
    match ← peek? with
    | some (.anchor name) => skip; return some name
    | _ => return none
  let tag? : Drafting (Option String) := do
    match ← peek? with
    | some (.tag h t) => skip; return some (← expand h t)
    | _ => return none
  match ← anchor? with
  | some name => return (some name, ← tag?)
  | none =>
    match ← tag? with
    | some t => return (← anchor?, some t)
    | none => return (none, none)

/-! ### Collections -/

/-- The items of a sequence without brackets; `ends` are the tokens that leave an item blank. -/
def items (node : Drafting Node) (ends : List Token) : Nat → List Node → Drafting (List Node)
  | 0, _ => refuse
  | fuel + 1, done => do
    if ← take .item then
      let n ← if ← sees (.item :: ends) then blank else node
      items node ends fuel (n :: done)
    else return done.reverse

/-- The entries of a mapping without brackets. -/
def entries (node : Drafting Node) : Nat → List (Node × Node) → Drafting (List (Node × Node))
  | 0, _ => refuse
  | fuel + 1, done => do
    let part : Drafting Node := do if ← sees [.key, .value, .collectionEnd] then blank else node
    if ← take .key then
      let k ← part
      let v ← if ← take .value then part else blank
      entries node fuel ((k, v) :: done)
    else
      expect .collectionEnd
      return done.reverse

/-- A mapping of one entry inside a sequence in brackets, after the sign of its key. -/
def soleEntry (node : Drafting Node) : Drafting Node := do
  count 2
  let k ← if ← sees [.value, .comma, .flowSequenceEnd] then do skip; blank else node
  let v ← do
    if ← take .value then
      if ← sees [.comma, .flowSequenceEnd] then blank else node
    else blank
  return .mapping none [(k, v)]

/-- The items of a sequence in brackets, with its end. -/
def flowItems (node : Drafting Node) : Nat → List Node → Drafting (List Node)
  | 0, _ => refuse
  | fuel + 1, done => do
    if ← take .flowSequenceEnd then return done.reverse
    if !done.isEmpty then expect .comma
    if ← take .flowSequenceEnd then return done.reverse
    let n ← if ← take .key then soleEntry node else node
    flowItems node fuel (n :: done)

/-- The entries of a mapping in brackets, with its end. -/
def flowEntries (node : Drafting Node) : Nat → List (Node × Node) → Drafting (List (Node × Node))
  | 0, _ => refuse
  | fuel + 1, done => do
    if ← take .flowMappingEnd then return done.reverse
    if !done.isEmpty then expect .comma
    if ← take .flowMappingEnd then return done.reverse
    let ends := [Token.comma, .flowMappingEnd]
    if ← take .key then
      let k ← if ← sees (.value :: ends) then blank else node
      let v ← do
        if ← take .value then
          if ← sees ends then blank else node
        else blank
      flowEntries node fuel ((k, v) :: done)
    else
      let k ← node
      flowEntries node fuel ((k, ← blank) :: done)

/-! ### Nodes -/

/-- Where a node stands, which says what collections may begin. -/
inductive Place where
  /-- Inside brackets. -/
  | flow
  /-- An item of a sequence, or a document. -/
  | block
  /-- A key or a value of a mapping without brackets, where a sequence need not be indented. -/
  | entry
deriving DecidableEq

/-- A node that nests at most as deep as the fuel. -/
def node (size : Nat) : Nat → Place → Drafting Node
  | 0, _ => refuse
  | fuel + 1, place => do
    match ← peek? with
    | some (.alias name) =>
      skip
      count 1
      match (← get).anchors.lookup name with
      | some n => return .alias n
      | none => refuse
    | _ =>
      let (anchor, tag) ← properties
      let at? ← match anchor with
        | some name => do
          let s ← get
          let _ ← number name
          pure (some s.size)
        | none => pure none
      let inner := node size fuel
      match ← peek? with
      | some (.scalar style text) =>
        skip
        count 1
        mark at? (.scalar (tag.filter (· ≠ "!")) style text)
      | some .flowSequenceStart =>
        skip
        count 2
        mark at? (.sequence tag (← flowItems (inner .flow) size []))
      | some .flowMappingStart =>
        skip
        count 2
        mark at? (.mapping tag (← flowEntries (inner .flow) size []))
      | some .item =>
        if place = .entry then
          count 2
          mark at? (.sequence tag (← items (inner .block) [.key, .value, .collectionEnd] size []))
        else if anchor.isSome || tag.isSome then do count 1; mark at? (.scalar tag .plain "")
        else refuse
      | some .sequenceStart =>
        if place = .flow then refuse
        skip
        count 2
        let xs ← items (inner .block) [.collectionEnd] size []
        expect .collectionEnd
        mark at? (.sequence tag xs)
      | some .mappingStart =>
        if place = .flow then refuse
        skip
        count 2
        mark at? (.mapping tag (← entries (inner .entry) size []))
      | _ =>
        if anchor.isSome || tag.isSome then do count 1; mark at? (.scalar tag .plain "")
        else refuse

end Drafting

/-- A document with what its anchors mark. -/
structure Document where
  root : Node
  anchors : List (Nat × Node)
  /-- The number of scalars, aliases, and beginnings and ends of collections. -/
  size : Nat

namespace Document

/-- The handles of tags that need no directive. -/
def defaultShorthands : List (String × String) := [("!", "!"), ("!!", "tag:yaml.org,2002:")]

/-- The directives in front of a document: at most one version, which is 1.1 or 1.2, and no handle twice. -/
def directives : Nat → Bool → List (String × String) → Drafting (List (String × String))
  | 0, _, _ => Drafting.refuse
  | fuel + 1, versioned, handles => do
    match ← Drafting.peek? with
    | some (.version major minor) =>
      if versioned || major ≠ 1 || (minor ≠ 1 && minor ≠ 2) then Drafting.refuse
      Drafting.skip
      directives fuel true handles
    | some (.tagShorthand h expansion) =>
      if (handles.lookup h).isSome then Drafting.refuse
      Drafting.skip
      directives fuel versioned ((h, expansion) :: handles)
    | _ => return handles

/-- Reads one document, which is all that the tokens hold.  Nothing at all is a blank document. -/
def read (size : Nat) : Drafting Node := do
  if (← Drafting.peek?).isNone then return .blank
  let before := (← get).tokens.length
  let handles ← directives (size + 1) false []
  let directed := (← get).tokens.length < before
  modify fun s => { s with shorthands := handles ++ defaultShorthands }
  let explicit ← Drafting.take .documentStart
  if directed && !explicit then Drafting.refuse
  let ends ← do
    match ← Drafting.peek? with
    | none | some .documentStart | some .documentEnd | some (.version ..) | some (.tagShorthand ..) => pure true
    | _ => pure false
  let root ← if explicit && ends then Drafting.blank else Drafting.node size (size + 1) .block
  if (← get).tokens.all (· == .documentEnd) then return root else Drafting.refuse

/-- The document that a text holds. -/
def ofText? (text : String) : Option Document := do
  let tokens ← Token.ofText? text
  let (root, s) ← (read (tokens.length + 1)).run ⟨tokens, [], [], [], [], 0⟩
  let anchors := s.places.filterMap fun (n, p) => (s.marked.lookup p).map (n, ·)
  some ⟨root, anchors, s.size⟩

/-- The node that an anchor marks. -/
def marked? (d : Document) (anchor : Nat) : Option Node := d.anchors.lookup anchor

end Document

end Casebook.Yaml
