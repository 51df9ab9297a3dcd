import Mathlib
import Casebook.Proofs.Markup.Tree

/-! Document order.  The tokens of a text bring elements, attributes and texts into a document, each of them once, and
the order in which they do so is the order of the document. -/
namespace Casebook.Markup

/-- What a path can select. -/
inductive Item where
  | element (id : Nat)
  | attr (id : Nat) (name : String)
  /-- The text at a position among the texts directly inside of a node. -/
  | text (id position : Nat)
deriving DecidableEq, Repr

namespace Document

variable {doc : Document}

/-- Whether a document has an item.  Its root is no element. -/
def Has (doc : Document) : Item → Prop
  | .element id => 0 < id ∧ id < doc.size
  | .attr id name => (attribute? doc id name).isSome
  | .text id position => position < (textsOf doc id).length

theorem attribute?_eq (id : Nat) (name : String) :
    attribute? doc id name = (doc[id]?.map Node.attributes).bind fun l => l.lookup name := by
  rw [Option.bind_map]
  rfl

theorem lt_size_of_attribute? {id : Nat} {name : String} (h : (attribute? doc id name).isSome) : id < doc.size := by
  by_contra hge
  simp [attribute?, Array.getElem?_eq_none (Nat.le_of_not_lt hge)] at h

theorem lt_size_of_textsOf {id k : Nat} (h : k < (textsOf doc id).length) : id < doc.size := by
  by_contra hge
  simp [textsOf, Array.getElem?_eq_none (Nat.le_of_not_lt hge)] at h

end Document

namespace Builder

open Document

variable {b : Builder}

/-! ### What a token adds -/

/-- What a token adds to a document: an element and its attributes, or a text in the innermost open node. -/
def added (b : Builder) : Token → List Item
  | .opening _ attributes | .empty _ attributes =>
    .element b.nodes.size :: (attributes.map fun x => localName x.1).dedup.map (.attr b.nodes.size)
  | .closing _ => []
  | .text _ | .literal _ => [.text b.top (textsOf b.nodes b.top).length]

/-- What tokens add to a document, in their order. -/
def addedBy : Builder → List Token → List Item
  | _, [] => []
  | b, t :: ts => b.added t ++ addedBy (b.step t) ts

theorem addedBy_concat (b : Builder) (ts : List Token) (t : Token) :
    b.addedBy (ts ++ [t]) = b.addedBy ts ++ (ts.foldl step b).added t := by
  induction ts generalizing b with
  | nil => simp [addedBy]
  | cons t' ts ih => simp [addedBy, ih]

section AddElement

variable (name : String) (attributes : List (String × String))

/-- The nodes that were there before change only in the elements inside of them. -/
theorem map_getElem?_addElement {α : Type} {f : Node → α} (hf : ∀ n ids, f { n with children := ids } = f n) (i : Nat) :
    (b.addElement name attributes).nodes[i]?.map f =
      if i = b.nodes.size then
        some (f ⟨localName name, attributes.map fun x => (localName x.1, x.2), [], []⟩)
      else b.nodes[i]?.map f := by
  rw [getElem?_addElement]
  split
  case isTrue => rfl
  case isFalse =>
    split
    case isTrue => simp [Option.map_map, Function.comp_def, hf]
    case isFalse => rfl

theorem textsOf_addElement (i : Nat) : textsOf (b.addElement name attributes).nodes i = textsOf b.nodes i := by
  rw [textsOf, map_getElem?_addElement name attributes fun _ _ => rfl]
  by_cases hi : i = b.nodes.size <;> simp [hi, textsOf]

theorem attribute?_addElement (i : Nat) (a : String) : attribute? (b.addElement name attributes).nodes i a =
    if i = b.nodes.size then (attributes.map fun x => (localName x.1, x.2)).lookup a
    else attribute? b.nodes i a := by
  rw [attribute?_eq, map_getElem?_addElement name attributes fun _ _ => rfl]
  split
  case isTrue => rfl
  case isFalse => rw [attribute?_eq]

theorem has_addElement (hb : b.Sound) (item : Item) : Has (b.addElement name attributes).nodes item ↔
    Has b.nodes item ∨ item ∈ b.added (.empty name attributes) := by
  cases item with
  | element id =>
    have hpos := hb.pos
    simp [Has, added]
    omega
  | attr id a =>
    have hadded : Item.attr id a ∈ b.added (.empty name attributes) ↔
        id = b.nodes.size ∧ ∃ x ∈ attributes, localName x.1 = a := by
      simp only [added, List.mem_cons, List.mem_map, List.mem_dedup, reduceCtorEq, false_or, Item.attr.injEq,
        exists_eq_right_right]
      rw [and_comm, eq_comm]
    rw [hadded, Has, Has, attribute?_addElement]
    split
    case isTrue hid =>
      have hnone : ¬(attribute? b.nodes id a).isSome := fun h => absurd (lt_size_of_attribute? h) (by omega)
      have hlookup : ((attributes.map fun x => (localName x.1, x.2)).lookup a).isSome ↔
          ∃ x ∈ attributes, localName x.1 = a := by
        rw [List.lookup_isSome_iff]
        constructor
        · rintro ⟨p, hp, heq⟩
          obtain ⟨x, hx, rfl⟩ := List.mem_map.mp hp
          exact ⟨x, hx, (beq_iff_eq.mp heq).symm⟩
        · rintro ⟨x, hx, rfl⟩
          exact ⟨_, List.mem_map_of_mem hx, beq_self_eq_true _⟩
      rw [hlookup, or_iff_right hnone, and_iff_right hid]
    case isFalse hid => simp [hid]
  | text id k => simp [Has, textsOf_addElement, added]

end AddElement

section AddText

variable (text : String)

theorem textsOf_addText (htop : b.top < b.nodes.size) (i : Nat) :
    textsOf (b.addText text).nodes i = if i = b.top then textsOf b.nodes i ++ [text] else textsOf b.nodes i := by
  simp only [textsOf, addText, Array.getElem?_modify]
  by_cases hi : i = b.top
  · simp [hi, htop]
  · simp [hi, eq_comm (a := b.top)]

theorem attribute?_addText (i : Nat) (a : String) :
    attribute? (b.addText text).nodes i a = attribute? b.nodes i a := by
  simp only [attribute?_eq, addText, Array.getElem?_modify]
  split <;> simp [Option.map_map, Function.comp_def]

theorem has_addText (hb : b.Sound) (item : Item) : Has (b.addText text).nodes item ↔
    Has b.nodes item ∨ item ∈ b.added (.text text) := by
  cases item with
  | element id => simp [Has, added]
  | attr id a => simp [Has, added, attribute?_addText]
  | text id k =>
    simp only [Has, textsOf_addText text hb.top_lt, added, List.mem_singleton, Item.text.injEq]
    split
    case isTrue hid =>
      simp [hid]
      omega
    case isFalse hid => simp [hid]

end AddText

theorem nodes_step_opening (name : String) (attributes : List (String × String)) :
    (b.step (.opening name attributes)).nodes = (b.addElement name attributes).nodes := by
  simp only [step]
  split <;> rfl

/-- A token adds what it adds and takes nothing away. -/
theorem has_step (hb : b.Sound) (t : Token) (item : Item) :
    Has (b.step t).nodes item ↔ Has b.nodes item ∨ item ∈ b.added t := by
  cases t with
  | opening name attributes =>
    rw [nodes_step_opening]
    exact has_addElement name attributes hb item
  | empty name attributes => exact has_addElement name attributes hb item
  | closing name => simp [step, added]
  | text s => exact has_addText s hb item
  | literal s => exact has_addText s hb item

theorem within_step (hb : b.Sound) (t : Token) {i x : Nat} (h : Within b.nodes i x) : Within (b.step t).nodes i x := by
  have htext : ∀ s, Within (b.addText s).nodes = Within b.nodes := fun s => by
    rw [Within, Within, funext (childrenOf_addText s)]
  cases t with
  | opening name attributes =>
    rw [nodes_step_opening]
    exact within_addElement hb name attributes h
  | empty name attributes => exact within_addElement hb name attributes h
  | closing name => exact h
  | text s => exact (htext s).symm ▸ h
  | literal s => exact (htext s).symm ▸ h

end Builder

/-! ### Document order -/

namespace Document

/-- Whether an item may come before another one of its kind. -/
def Precedes (doc : Document) : Item → Item → Prop
  | .element i, .element j => i < j
  | .attr i a, .attr j a' => i ≤ j ∧ (i = j → a ≠ a')
  | .text i k, .text j l => (i = j → k < l) ∧ (j < i → Within doc j i)
  | _, _ => True

/-- All that tokens bring into a document, in their order. -/
def itemsOf (ts : List Token) : List Item := Builder.initial.addedBy ts

theorem mem_itemsOf {ts : List Token} {item : Item} : item ∈ itemsOf ts ↔ Has (ofTokens ts) item := by
  unfold itemsOf ofTokens
  induction ts using List.reverseRecOn generalizing item with
  | nil =>
    have hnone : ¬Has Builder.initial.nodes item := by
      cases item with
      | element id =>
        simp [Has, Builder.initial]
        omega
      | attr id a => cases id <;> simp [Has, attribute?, Builder.initial, Node.root]
      | text id k => cases id <;> simp [Has, textsOf, Builder.initial, Node.root]
    simp [Builder.addedBy, hnone]
  | append_singleton ts t ih =>
    rw [Builder.addedBy_concat, List.mem_append, ih, List.foldl_concat,
      Builder.has_step (Builder.sound_foldl ts)]

theorem Precedes.step {b : Builder} (hb : b.Sound) (t : Token) {x y : Item} (h : Precedes b.nodes x y) :
    Precedes (b.step t).nodes x y := by
  cases x <;> cases y <;> first | exact h | skip
  exact ⟨h.1, fun hlt => Builder.within_step hb t (h.2 hlt)⟩

theorem mem_added {b : Builder} {t : Token} {item : Item} (h : item ∈ b.added t) :
    item = .element b.nodes.size ∨ (∃ a, item = .attr b.nodes.size a) ∨
      item = .text b.top (textsOf b.nodes b.top).length := by
  cases t with
  | opening name attributes | empty name attributes =>
    rcases List.mem_cons.mp h with rfl | h
    · exact .inl rfl
    · obtain ⟨a, -, rfl⟩ := List.mem_map.mp h
      exact .inr (.inl ⟨a, rfl⟩)
  | closing name => cases h
  | text s | literal s => exact .inr (.inr (List.mem_singleton.mp h))

/-- What was there precedes what a token adds: new elements and attributes are those of the last node, and a new text
stands in an open node, inside of which all later nodes lie. -/
theorem precedes_added {b : Builder} (hb : b.Sound) {t : Token} {x y : Item} (hx : Has b.nodes x)
    (hy : y ∈ b.added t) : Precedes b.nodes x y := by
  rcases mem_added hy with rfl | ⟨a, rfl⟩ | rfl
  · cases x with
    | element i => exact hx.2
    | _ => trivial
  · cases x with
    | attr i a' =>
      have hlt := lt_size_of_attribute? hx
      exact ⟨hlt.le, fun heq => absurd heq hlt.ne⟩
    | _ => trivial
  · cases x with
    | text i k =>
      refine ⟨fun heq => ?_, fun hlt => ?_⟩
      · subst heq
        exact hx
      · exact hb.open_within _ (Builder.Sound.top_open b) i hlt.le (lt_size_of_textsOf hx)
    | _ => trivial

theorem added_pairwise (doc : Document) (b : Builder) (t : Token) : (b.added t).Pairwise (Precedes doc) := by
  cases t with
  | opening name attributes | empty name attributes =>
    refine List.pairwise_cons.mpr ⟨fun y hy => ?_, ?_⟩
    · obtain ⟨a, -, rfl⟩ := List.mem_map.mp hy
      trivial
    · exact List.pairwise_map.mpr ((List.nodup_dedup _).imp fun hne => ⟨le_rfl, fun _ => hne⟩)
  | closing name => exact List.Pairwise.nil
  | text s | literal s => exact List.pairwise_singleton _ _

theorem itemsOf_pairwise (ts : List Token) : (itemsOf ts).Pairwise (Precedes (ofTokens ts)) := by
  unfold ofTokens
  induction ts using List.reverseRecOn with
  | nil => exact List.Pairwise.nil
  | append_singleton ts t ih =>
    have hb := Builder.sound_foldl ts
    rw [itemsOf, Builder.addedBy_concat, List.foldl_concat, List.pairwise_append]
    refine ⟨ih.imp fun h => h.step hb t, added_pairwise _ _ t, fun x hx y hy => ?_⟩
    exact (precedes_added hb (mem_itemsOf.mp hx) hy).step hb t

theorem nodup_itemsOf (ts : List Token) : (itemsOf ts).Nodup := by
  refine (itemsOf_pairwise ts).imp fun {x y} h heq => ?_
  subst heq
  cases x with
  | element i => exact lt_irrefl _ h
  | attr i a => exact h.2 rfl rfl
  | text i k => exact lt_irrefl _ (h.1 rfl)

end Document

end Casebook.Markup
