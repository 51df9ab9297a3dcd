import Casebook.Markup.Token

/-! Documents: elements under a root that is no element itself, numbered in the order of their start tags. -/
namespace Casebook.Markup

/-- An element, or the root. -/
structure Node where
  name : String
  attributes : List (String × String)
  /-- The texts directly inside, in their order. -/
  texts : List String
  /-- The numbers of the elements directly inside. -/
  children : List Nat
deriving DecidableEq, Repr, Inhabited

def Node.root : Node := ⟨"", [], [], []⟩

/-- The nodes by their number; node 0 is the root. -/
abbrev Document := Array Node

/-- Elements that never have an end tag. -/
def voidElements : List String :=
  ["area", "base", "br", "col", "embed", "hr", "img", "input", "link", "meta", "param", "source", "track", "wbr"]

/-- A name in lower case and without what stands before its first colon. -/
def localName (name : String) : String :=
  let cs := name.toList
  let cs := match cs.dropWhile (· != ':') with
    | _ :: rest => rest
    | [] => cs
  String.ofList (cs.map Char.toLower)

/-- A document under construction, with the open nodes, the innermost first. -/
structure Builder where
  nodes : Document
  stack : List Nat

namespace Builder

def initial : Builder := ⟨#[.root], [0]⟩

/-- The node that receives what comes next. -/
def top (b : Builder) : Nat := b.stack.headD 0

/-- Adds an element to the innermost open node. -/
def addElement (name : String) (attributes : List (String × String)) (b : Builder) : Builder :=
  let node : Node := ⟨localName name, attributes.map fun (k, v) => (localName k, v), [], []⟩
  let id := b.nodes.size
  { b with nodes := (b.nodes.modify b.top fun n => { n with children := n.children ++ [id] }).push node }

def addText (text : String) (b : Builder) : Builder :=
  { b with nodes := b.nodes.modify b.top fun n => { n with texts := n.texts ++ [text] } }

/-- The open nodes after an end tag of that name: without the innermost one of that name and all inside it. -/
def closed (nodes : Document) (name : String) : List Nat → Option (List Nat)
  | [] => none
  | id :: rest =>
    if id ≠ 0 ∧ (nodes[id]?.map Node.name) = some name then some rest else closed nodes name rest

def step (b : Builder) : Token → Builder
  | .opening name attributes =>
    let id := b.nodes.size
    let b := b.addElement name attributes
    if voidElements.contains (localName name) then b else { b with stack := id :: b.stack }
  | .empty name attributes => b.addElement name attributes
  | .closing name => { b with stack := (closed b.nodes (localName name) b.stack).getD b.stack }
  | .text s => b.addText s
  | .literal s => b.addText s

end Builder

namespace Document

def ofTokens (tokens : List Token) : Document := (tokens.foldl Builder.step .initial).nodes

/-- The document of a text, which must hold an element. -/
def ofText? (text : String) : Except Fault Document := do
  let doc := ofTokens (← tokens text)
  if doc.size ≤ 1 then throw .noElements else return doc

variable (doc : Document)

def childrenOf (id : Nat) : List Nat := (doc[id]?.map Node.children).getD []

def textsOf (id : Nat) : List String := (doc[id]?.map Node.texts).getD []

def nameOf (id : Nat) : String := (doc[id]?.map Node.name).getD ""

/-- The first attribute of that name. -/
def attribute? (id : Nat) (name : String) : Option String :=
  doc[id]?.bind fun n => n.attributes.lookup name

/-- A node and the nodes inside it, to the given depth, in document order. -/
def insideFrom : Nat → Nat → List Nat
  | 0, id => [id]
  | depth + 1, id => id :: (childrenOf doc id).flatMap (insideFrom depth)

/-- A node and all nodes inside it. -/
def inside (id : Nat) : List Nat := insideFrom doc doc.size id

end Document

end Casebook.Markup
