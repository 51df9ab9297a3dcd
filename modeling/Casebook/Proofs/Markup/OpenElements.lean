import Mathlib
import Casebook.Proofs.Markup.Order

/-! Documents under construction.  The open nodes lead from the root down to the innermost one, each a child of the one
outside of it.  Only the innermost one receives what comes next, so that a node stays as it is once it is not open. -/
namespace Casebook.Markup

namespace Document

variable {doc : Document}

/-- An element of that name. -/
def IsNamed (doc : Document) (name : String) (id : Nat) : Prop := id ≠ 0 ∧ (doc[id]?.map Node.name) = some name

instance (name : String) (id : Nat) : Decidable (doc.IsNamed name id) := inferInstanceAs (Decidable (_ ∧ _))

/-- An element that never has an end tag. -/
def IsVoid (doc : Document) (id : Nat) : Prop := nameOf doc id ∈ voidElements

/-! ### Walks -/

/-- A walk through a row of nodes lists each of them and, before it goes on, what a walk through its children lists. -/
inductive Walks (doc : Document) : List Nat → List Nat → Prop where
  | done : Walks doc [] []
  | visit {id : Nat} {ids inner outer : List Nat} :
    Walks doc (childrenOf doc id) inner → Walks doc ids outer → Walks doc (id :: ids) (id :: (inner ++ outer))

namespace Walks

variable {ids listed listed' : List Nat}

theorem unique (h : Walks doc ids listed) (h' : Walks doc ids listed') : listed = listed' := by
  induction h generalizing listed' with
  | done =>
    cases h'
    rfl
  | visit _ _ ihinner ihouter =>
    cases h' with
    | visit hinner houter => rw [ihinner hinner, ihouter houter]

/-- A walk through one node. -/
theorem node {id : Nat} (h : Walks doc (childrenOf doc id) listed) : Walks doc [id] (id :: listed) := by
  simpa using Walks.visit h .done

theorem flatMap {f : Nat → List Nat} (h : ∀ id ∈ ids, Walks doc [id] (f id)) : Walks doc ids (ids.flatMap f) := by
  induction ids with
  | nil => exact .done
  | cons id ids ih =>
    have hids := ih fun other hother => h other (List.mem_cons_of_mem _ hother)
    have hid := h id List.mem_cons_self
    rw [List.flatMap_cons]
    generalize f id = listed at hid
    cases hid with
    | visit hinner houter =>
      cases houter
      simpa using Walks.visit hinner hids

end Walks

namespace Numbered

/-- The children of a node have greater numbers, so that a walk ends before the depth does. -/
theorem walks_insideFrom (h : Numbered doc) {depth i : Nat} (hdepth : doc.size ≤ i + depth + 1) :
    Walks doc [i] (insideFrom doc depth i) := by
  induction depth generalizing i with
  | zero =>
    have hnone : childrenOf doc i = [] := by
      apply List.eq_nil_iff_forall_not_mem.mpr
      intro c hc
      have hlt := h.child_lt hc
      omega
    apply Walks.node
    rw [hnone]
    exact .done
  | succ depth ih =>
    apply Walks.node
    apply Walks.flatMap
    intro c hc
    have hlt := h.child_lt hc
    exact ih (by omega)

theorem walks_iff (h : Numbered doc) {i : Nat} {listed : List Nat} : Walks doc [i] listed ↔ listed = inside doc i := by
  have hinside : Walks doc [i] (inside doc i) := h.walks_insideFrom (by omega)
  constructor
  · exact fun hlisted => hlisted.unique hinside
  · rintro rfl
    exact hinside

end Numbered

end Document

namespace Builder

open Document

variable {b : Builder}

/-! ### End tags -/

section Closed

variable {nodes : Document} {name : String} {stack rest : List Nat}

theorem closed_cons (id : Nat) : closed nodes name (id :: stack) =
    if IsNamed nodes name id then some stack else closed nodes name stack := rfl

theorem closed_eq_none_iff : closed nodes name stack = none ↔ ∀ s ∈ stack, ¬ IsNamed nodes name s := by
  induction stack with
  | nil => simp [closed]
  | cons id stack ih =>
    rw [closed_cons]
    by_cases hid : IsNamed nodes name id
    · simp [hid]
    · simp [hid, ih]

/-- What is closed is the innermost open element of the name, with the open elements inside of it. -/
theorem exists_of_closed (h : closed nodes name stack = some rest) :
    ∃ inner id, stack = inner ++ id :: rest ∧ IsNamed nodes name id ∧ ∀ s ∈ inner, ¬ IsNamed nodes name s := by
  induction stack with
  | nil => cases h
  | cons id stack ih =>
    rw [closed_cons] at h
    by_cases hid : IsNamed nodes name id
    · rw [if_pos hid] at h
      cases h
      exact ⟨[], id, rfl, hid, by simp⟩
    · rw [if_neg hid] at h
      obtain ⟨inner, target, rfl, htarget, hinner⟩ := ih h
      exact ⟨id :: inner, target, rfl, htarget, by simpa [hid] using hinner⟩

end Closed

/-! ### Names and parts of nodes -/

theorem nameOf_addElement (name : String) (attributes : List (String × String)) (i : Nat) :
    nameOf (b.addElement name attributes).nodes i =
      if i = b.nodes.size then localName name else nameOf b.nodes i := by
  rw [nameOf, map_getElem?_addElement name attributes fun _ _ => rfl]
  by_cases hi : i = b.nodes.size <;> simp [hi, nameOf]

theorem nameOf_addText (text : String) (i : Nat) : nameOf (b.addText text).nodes i = nameOf b.nodes i := by
  simp only [nameOf, addText, Array.getElem?_modify]
  split <;> simp [Function.comp_def]

theorem childrenOf_size : childrenOf b.nodes b.nodes.size = [] := by simp [childrenOf]

theorem textsOf_size : textsOf b.nodes b.nodes.size = [] := by simp [textsOf]

/-! ### The way to the innermost node -/

/-- Documents under construction whose open nodes lead down from the root, and whose void elements are empty. -/
structure Rooted (b : Builder) : Prop extends b.Sound where
  outermost : b.stack.getLast? = some 0
  chain : b.stack.IsChain fun inner outer => inner ∈ childrenOf b.nodes outer
  void : ∀ i, IsVoid b.nodes i → i ∉ b.stack ∧ childrenOf b.nodes i = [] ∧ textsOf b.nodes i = []

namespace Rooted

theorem top_mem (h : b.Rooted) : b.top ∈ b.stack := by
  have houtermost := h.outermost
  unfold top
  cases hstack : b.stack with
  | nil => simp [hstack] at houtermost
  | cons id rest => simp

theorem ne_top (h : b.Rooted) {i : Nat} (hi : i ∉ b.stack) : i ≠ b.top := by
  rintro rfl
  exact hi h.top_mem

/-- The stack with its innermost node. -/
theorem exists_stack_eq (h : b.Rooted) : ∃ rest, b.stack = b.top :: rest := by
  have htop := h.top_mem
  unfold top at htop ⊢
  cases hstack : b.stack with
  | nil => simp [hstack] at htop
  | cons id rest => exact ⟨rest, rfl⟩

theorem addElement (h : b.Rooted) (name : String) (attributes : List (String × String)) :
    (b.addElement name attributes).Rooted where
  toSound := sound_addElement h.toSound name attributes
  outermost := h.outermost
  chain := h.chain.imp fun _ _ hc => (mem_childrenOf_addElement h.toSound name attributes).mpr (.inl hc)
  void := by
    intro i hi
    have htop := h.toSound.top_lt
    rw [IsVoid, nameOf_addElement] at hi
    rw [childrenOf_addElement htop, textsOf_addElement]
    by_cases hsize : i = b.nodes.size
    · subst hsize
      rw [if_neg htop.ne', childrenOf_size, textsOf_size]
      exact ⟨fun hmem => (h.open_lt _ hmem).ne rfl, rfl, rfl⟩
    · rw [if_neg hsize] at hi
      obtain ⟨hopen, hchildren, htexts⟩ := h.void i hi
      rw [if_neg (h.ne_top hopen)]
      exact ⟨hopen, hchildren, htexts⟩

theorem addText (h : b.Rooted) (text : String) : (b.addText text).Rooted where
  toSound := sound_addText h.toSound text
  outermost := h.outermost
  chain := h.chain.imp fun _ _ hc => by simpa using hc
  void := by
    intro i hi
    rw [IsVoid, nameOf_addText] at hi
    obtain ⟨hopen, hchildren, htexts⟩ := h.void i hi
    rw [childrenOf_addText, textsOf_addText text h.toSound.top_lt, if_neg (h.ne_top hopen)]
    exact ⟨hopen, hchildren, htexts⟩

/-- The child that was added last, unless it is void, is open with those outside of it. -/
theorem opened (h : b.Rooted) {id : Nat} (hid : id + 1 = b.nodes.size) (hnew : ∀ s ∈ b.stack, s < id)
    (hchild : id ∈ childrenOf b.nodes b.top) (hname : ¬ IsVoid b.nodes id) :
    Rooted { b with stack := id :: b.stack } where
  toSound := h.toSound.opened hid hnew
  outermost := by
    rw [List.getLast?_cons, h.outermost]
    rfl
  chain := by
    obtain ⟨rest, hstack⟩ := h.exists_stack_eq
    have hchain := h.chain
    rw [hstack] at hchain ⊢
    exact .cons_cons hchild hchain
  void := by
    intro i hi
    obtain ⟨hopen, hempty⟩ := h.void i hi
    refine ⟨fun hmem => ?_, hempty⟩
    rcases List.mem_cons.mp hmem with rfl | hmem
    · exact hname hi
    · exact hopen hmem

/-- What is left open is not empty, since the root is no element of any name. -/
theorem closed (h : b.Rooted) {name : String} {rest : List Nat} (hclosed : closed b.nodes name b.stack = some rest) :
    Rooted { b with stack := rest } := by
  obtain ⟨inner, id, hstack, hid, -⟩ := exists_of_closed hclosed
  have hsuffix := closed_suffix hclosed
  refine ⟨h.toSound.ofSublist hsuffix.sublist, ?_, h.chain.suffix hsuffix, fun i hi => ?_⟩
  · have houtermost := h.outermost
    rw [hstack] at houtermost
    cases rest with
    | nil => simp [hid.1] at houtermost
    | cons s rest => simpa using houtermost
  · obtain ⟨hopen, hempty⟩ := h.void i hi
    exact ⟨fun hmem => hopen (hsuffix.subset hmem), hempty⟩

theorem initial : Builder.initial.Rooted where
  toSound := sound_initial
  outermost := rfl
  chain := by simp [Builder.initial]
  void := by
    intro i hi
    have hname : nameOf Builder.initial.nodes i = "" := by cases i <;> rfl
    rw [IsVoid, hname] at hi
    exact absurd hi (by decide)

theorem step (h : b.Rooted) (t : Token) : (b.step t).Rooted := by
  cases t with
  | opening name attributes =>
    have hadded := h.addElement name attributes
    have hname : nameOf (b.addElement name attributes).nodes b.nodes.size = localName name := by
      rw [nameOf_addElement, if_pos rfl]
    have hchild : b.nodes.size ∈ childrenOf (b.addElement name attributes).nodes b.top := by
      rw [mem_childrenOf_addElement h.toSound]
      exact .inr ⟨rfl, rfl⟩
    by_cases hvoid : localName name ∈ voidElements
    · simpa [Builder.step, hvoid] using hadded
    · have hnot : ¬ IsVoid (b.addElement name attributes).nodes b.nodes.size := by rwa [IsVoid, hname]
      have hopened := hadded.opened (size_addElement ..).symm (fun s hs => h.open_lt s hs) hchild hnot
      simpa [Builder.step, hvoid] using hopened
  | empty name attributes => exact h.addElement name attributes
  | closing name =>
    cases hclosed : Builder.closed b.nodes (localName name) b.stack with
    | none => simpa [Builder.step, hclosed] using h
    | some rest => simpa [Builder.step, hclosed] using h.closed hclosed
  | text s => exact h.addText s
  | literal s => exact h.addText s

theorem foldl (h : b.Rooted) (ts : List Token) : (ts.foldl Builder.step b).Rooted := by
  induction ts generalizing b with
  | nil => exact h
  | cons t ts ih => exact ih (h.step t)

/-! ### Nodes that are not open -/

theorem getElem?_addElement_of_ne {i : Nat} (hlt : i < b.nodes.size) (hi : i ≠ b.top) (name : String)
    (attributes : List (String × String)) : (b.addElement name attributes).nodes[i]? = b.nodes[i]? := by
  rw [getElem?_addElement, if_neg hlt.ne, if_neg hi]

theorem getElem?_addText_of_ne {i : Nat} (hi : i ≠ b.top) (text : String) :
    (b.addText text).nodes[i]? = b.nodes[i]? := by
  simp [Builder.addText, Array.getElem?_modify, hi.symm]

/-- A node that is not open stays so, and keeps its texts and children. -/
theorem getElem?_step (h : b.Rooted) {i : Nat} (hlt : i < b.nodes.size) (hi : i ∉ b.stack) (t : Token) :
    (b.step t).nodes[i]? = b.nodes[i]? ∧ i < (b.step t).nodes.size ∧ i ∉ (b.step t).stack := by
  have hne := h.ne_top hi
  have hadded : ∀ name attributes, (b.addElement name attributes).nodes[i]? = b.nodes[i]? ∧
      i < (b.addElement name attributes).nodes.size := by
    intro name attributes
    rw [getElem?_addElement_of_ne hlt hne, size_addElement]
    exact ⟨rfl, by omega⟩
  have htext : ∀ text, (b.addText text).nodes[i]? = b.nodes[i]? ∧ i < (b.addText text).nodes.size := by
    intro text
    rw [getElem?_addText_of_ne hne, size_addText]
    exact ⟨rfl, hlt⟩
  cases t with
  | opening name attributes =>
    obtain ⟨hsame, hsize⟩ := hadded name attributes
    by_cases hvoid : localName name ∈ voidElements
    · simpa [Builder.step, hvoid] using ⟨hsame, hlt.le, hi⟩
    · simpa [Builder.step, hvoid] using ⟨hsame, hlt.le, hlt.ne, hi⟩
  | empty name attributes =>
    obtain ⟨hsame, hsize⟩ := hadded name attributes
    exact ⟨hsame, hsize, hi⟩
  | closing name =>
    refine ⟨rfl, hlt, fun hmem => hi ?_⟩
    cases hclosed : Builder.closed b.nodes (localName name) b.stack with
    | none => simpa [Builder.step, hclosed] using hmem
    | some rest =>
      have hrest : i ∈ rest := by simpa [Builder.step, hclosed] using hmem
      exact (closed_suffix hclosed).subset hrest
  | text s =>
    obtain ⟨hsame, hsize⟩ := htext s
    exact ⟨hsame, hsize, hi⟩
  | literal s =>
    obtain ⟨hsame, hsize⟩ := htext s
    exact ⟨hsame, hsize, hi⟩

theorem getElem?_foldl (h : b.Rooted) {i : Nat} (hlt : i < b.nodes.size) (hi : i ∉ b.stack) (ts : List Token) :
    (ts.foldl Builder.step b).nodes[i]? = b.nodes[i]? := by
  induction ts generalizing b with
  | nil => rfl
  | cons t ts ih =>
    obtain ⟨hsame, hlt, hi⟩ := h.getElem?_step hlt hi t
    exact (ih (h.step t) hlt hi).trans hsame

/-- An element whose tag ends itself stays empty. -/
theorem getElem?_foldl_empty (h : b.Rooted) (name : String) (attributes : List (String × String)) (ts : List Token) :
    (ts.foldl Builder.step (b.step (.empty name attributes))).nodes[b.nodes.size]? =
      some ⟨localName name, attributes.map fun x => (localName x.1, x.2), [], []⟩ := by
  have hlt : b.nodes.size < (b.addElement name attributes).nodes.size := by simp
  have hopen : b.nodes.size ∉ b.stack := fun hmem => (h.open_lt _ hmem).ne rfl
  rw [(h.step (.empty name attributes)).getElem?_foldl hlt hopen]
  show (b.addElement name attributes).nodes[b.nodes.size]? = _
  rw [getElem?_addElement, if_pos rfl]

/-- Every node but the root is a child. -/
theorem exists_parent (h : b.Rooted) {c : Nat} (hpos : 0 < c) (hlt : c < b.nodes.size) :
    ∃ i, c ∈ childrenOf b.nodes i := by
  have hwithin : Within b.nodes 0 c := h.open_within 0 (.inl rfl) c (Nat.zero_le c) hlt
  rcases hwithin.cases_tail with rfl | ⟨i, -, hc⟩
  · exact absurd hpos (Nat.lt_irrefl 0)
  · exact ⟨i, hc⟩

/-- Of the open nodes, those inside of one are those that were opened after it, and that one. -/
theorem within_iff (h : b.Rooted) {inner outer : List Nat} {id s : Nat} (hstack : b.stack = inner ++ id :: outer)
    (hs : s ∈ b.stack) : Within b.nodes id s ↔ s ∉ outer := by
  have hid : id ∈ b.stack := by simp [hstack]
  have hdescending := h.descending
  rw [hstack, List.pairwise_append, List.pairwise_cons] at hdescending
  obtain ⟨-, ⟨houter, -⟩, hinner⟩ := hdescending
  constructor
  · intro hwithin hmem
    have hle := h.numbered.le_of_within hwithin
    have hlt := houter s hmem
    omega
  · intro hmem
    apply h.open_within id (.inr hid) s _ (h.open_lt s hs)
    rw [hstack] at hs
    rcases List.mem_append.mp hs with hs | hs
    · exact (hinner s hs id List.mem_cons_self).le
    · rcases List.mem_cons.mp hs with rfl | hs
      · exact le_rfl
      · exact absurd hs hmem

end Rooted

/-! ### Whole documents -/

/-- What an end tag of a name that is open does: it closes the innermost element of that name, with all inside of it. -/
structure Closes (name : String) (b b' : Builder) : Prop where
  nodes_eq : b'.nodes = b.nodes
  innermost : ∃ inner id, b.stack = inner ++ id :: b'.stack ∧ IsNamed b.nodes name id ∧
    (∀ s ∈ inner, ¬ IsNamed b.nodes name s) ∧ ∀ s ∈ b.stack, s ∉ b'.stack ↔ Within b.nodes id s

/-- How a document stands after tokens. -/
structure Stands (tokens : List Token) (b : Builder) : Prop where
  /-- Every node but the root is a child of one node, which comes before it, and of no other. -/
  parent : ∀ c, 0 < c → c < b.nodes.size →
    ∃ i < c, c ∈ childrenOf b.nodes i ∧ ∀ j, c ∈ childrenOf b.nodes j → j = i
  children : ∀ i, ∀ c ∈ childrenOf b.nodes i, 0 < c ∧ c < b.nodes.size
  ascending : ∀ i, (childrenOf b.nodes i).Pairwise (· < ·)
  outermost : b.stack.getLast? = some 0
  chain : b.stack.IsChain fun inner outer => inner ∈ childrenOf b.nodes outer
  void : ∀ i, IsVoid b.nodes i → childrenOf b.nodes i = [] ∧ textsOf b.nodes i = []
  /-- The element of a tag that ends itself is as it was when it came. -/
  empty : ∀ before name attributes after, tokens = before ++ .empty name attributes :: after →
    b.nodes[(Document.ofTokens before).size]? =
      some ⟨localName name, attributes.map fun x => (localName x.1, x.2), [], []⟩
  unmatched : ∀ name, (∀ s ∈ b.stack, ¬ IsNamed b.nodes (localName name) s) → b.step (.closing name) = b
  matched : ∀ name, ∀ s ∈ b.stack, IsNamed b.nodes (localName name) s →
    b.Closes (localName name) (b.step (.closing name))
  /-- The nodes inside of a node are what a walk lists, which comes to its end. -/
  walks : ∀ i listed, Walks b.nodes [i] listed ↔ listed = inside b.nodes i
  inside_ascending : ∀ i, (inside b.nodes i).Pairwise (· < ·)
  mem_inside : ∀ i x, x ∈ inside b.nodes i ↔ Within b.nodes i x

/-- Whatever the tokens, balanced or not, a document is a tree in document order. -/
theorem documents_are_trees (ts : List Token) : (ts.foldl step initial).Stands ts := by
  have h := Rooted.initial.foldl ts
  constructor
  case parent =>
    intro c hpos hlt
    obtain ⟨i, hc⟩ := h.exists_parent hpos hlt
    exact ⟨i, (h.numbered.child_lt hc).1, hc, fun j hj => h.numbered.parent_unique hj hc⟩
  case children =>
    intro i c hc
    have hlt := h.numbered.child_lt hc
    omega
  case ascending => exact h.numbered.children_ascending
  case outermost => exact h.outermost
  case chain => exact h.chain
  case void => exact fun i hi => (h.void i hi).2
  case empty =>
    rintro before name attributes after rfl
    rw [List.foldl_append, List.foldl_cons]
    exact (Rooted.initial.foldl before).getElem?_foldl_empty name attributes after
  case unmatched =>
    intro name hnone
    simp [step, closed_eq_none_iff.mpr hnone]
  case matched =>
    intro name s hs hname
    cases hclosed : closed (ts.foldl step initial).nodes (localName name) (ts.foldl step initial).stack with
    | none => exact absurd hname (closed_eq_none_iff.mp hclosed s hs)
    | some rest =>
      obtain ⟨inner, id, hstack, hid, hinner⟩ := exists_of_closed hclosed
      have hstep : (ts.foldl step initial).step (.closing name) = { ts.foldl step initial with stack := rest } := by
        simp [step, hclosed]
      rw [hstep]
      exact ⟨rfl, inner, id, hstack, hid, hinner, fun s hs => (h.within_iff hstack hs).symm⟩
  case walks => exact fun i listed => h.numbered.walks_iff
  case inside_ascending => exact h.numbered.inside_ascending
  case mem_inside => exact fun i x => h.numbered.mem_inside

/-- An end tag closes what is open inside of its element; one that has none is passed over. -/
example : ([.opening "ul" [], .opening "li" [], .closing "p", .opening "b" [], .closing "ul", .text "x"].foldl step
    initial).stack = [0] := by decide +kernel

end Builder

end Casebook.Markup
