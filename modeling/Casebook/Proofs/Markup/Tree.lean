import Mathlib
import Casebook.Markup.Document

/-! Documents as trees.  Nodes are numbered as a walk meets them that goes into each node before it goes on, so that the
nodes inside of a node are those that follow it up to some number. -/
namespace Casebook.Markup

namespace Document

/-! ### Nodes inside of nodes -/

/-- Whether the second node is the first one or lies inside it. -/
def Within (doc : Document) : Nat → Nat → Prop := Relation.ReflTransGen fun i c => c ∈ childrenOf doc i

/-- Documents whose nodes are numbered as a walk meets them that goes into each node before it goes on. -/
structure Numbered (doc : Document) : Prop where
  child_lt : ∀ {i c : Nat}, c ∈ childrenOf doc i → i < c ∧ c < doc.size
  parent_unique : ∀ {i j c : Nat}, c ∈ childrenOf doc i → c ∈ childrenOf doc j → i = j
  children_ascending : ∀ i, (childrenOf doc i).Pairwise (· < ·)
  /-- Between a node and one inside it there are only nodes inside it. -/
  convex : ∀ {i j x : Nat}, Within doc i x → i ≤ j → j ≤ x → Within doc i j

namespace Numbered

variable {doc : Document}

theorem le_of_within (h : Numbered doc) {i x : Nat} (hx : Within doc i x) : i ≤ x := by
  induction hx with
  | refl => exact le_rfl
  | tail _ hc ih => exact ih.trans (h.child_lt hc).1.le

theorem within_of_mem_insideFrom {depth i x : Nat} (hx : x ∈ insideFrom doc depth i) : Within doc i x := by
  induction depth generalizing i with
  | zero =>
    rw [insideFrom, List.mem_singleton] at hx
    exact hx ▸ .refl
  | succ depth ih =>
    rw [insideFrom, List.mem_cons, List.mem_flatMap] at hx
    rcases hx with rfl | ⟨c, hc, hx⟩
    · exact .refl
    · exact .head hc (ih hx)

theorem mem_insideFrom (h : Numbered doc) {depth i x : Nat} (hx : Within doc i x) (hdepth : x - i ≤ depth) :
    x ∈ insideFrom doc depth i := by
  induction depth generalizing i with
  | zero =>
    have hle := h.le_of_within hx
    have heq : x = i := by omega
    simp [insideFrom, heq]
  | succ depth ih =>
    rcases hx.cases_head with rfl | ⟨c, hc, hx⟩
    · simp [insideFrom]
    · have hlt := (h.child_lt hc).1
      have hmem : x ∈ insideFrom doc depth c := ih hx (by omega)
      simp only [insideFrom, List.mem_cons, List.mem_flatMap]
      exact .inr ⟨c, hc, hmem⟩

theorem mem_inside (h : Numbered doc) {i x : Nat} : x ∈ inside doc i ↔ Within doc i x := by
  refine ⟨within_of_mem_insideFrom, fun hx => h.mem_insideFrom hx ?_⟩
  rcases hx.cases_tail with rfl | ⟨j, -, hc⟩
  · omega
  · have hlt := (h.child_lt hc).2
    omega

/-- What lies inside one child comes before the next child and what lies inside that. -/
theorem lt_of_within_children (h : Numbered doc) {i c d x y : Nat} (hc : c ∈ childrenOf doc i)
    (hd : d ∈ childrenOf doc i) (hlt : c < d) (hx : Within doc c x) (hy : Within doc d y) : x < y := by
  have hdy := h.le_of_within hy
  by_contra hge
  have hcd : Within doc c d := h.convex hx hlt.le (by omega)
  rcases hcd.cases_tail with rfl | ⟨j, hj, hdj⟩
  · omega
  · have hij : i = j := h.parent_unique hd hdj
    have hci := (h.child_lt hc).1
    have hcj := h.le_of_within hj
    omega

theorem insideFrom_ascending (h : Numbered doc) (depth i : Nat) : (insideFrom doc depth i).Pairwise (· < ·) := by
  induction depth generalizing i with
  | zero => exact List.pairwise_singleton _ _
  | succ depth ih =>
    rw [insideFrom, List.pairwise_cons, List.flatMap, List.pairwise_flatten]
    refine ⟨fun x hx => ?_, ?_, ?_⟩
    · obtain ⟨c, hc, hx⟩ := List.mem_flatMap.mp hx
      exact (h.child_lt hc).1.trans_le (h.le_of_within (within_of_mem_insideFrom hx))
    · simpa using fun c _ => ih c
    · rw [List.pairwise_map]
      refine (h.children_ascending i).imp_of_mem fun hc hd hlt x hx y hy => ?_
      exact h.lt_of_within_children hc hd hlt (within_of_mem_insideFrom hx) (within_of_mem_insideFrom hy)

theorem congr (h : Numbered doc) {doc' : Document} (hsize : doc'.size = doc.size)
    (hchildren : childrenOf doc' = childrenOf doc) : Numbered doc' := by
  have hwithin : Within doc' = Within doc := by rw [Within, Within, hchildren]
  constructor
  · rw [hchildren, hsize]
    exact h.child_lt
  · rw [hchildren]
    exact h.parent_unique
  · rw [hchildren]
    exact h.children_ascending
  · rw [hwithin]
    exact h.convex

theorem inside_ascending (h : Numbered doc) (i : Nat) : (inside doc i).Pairwise (· < ·) :=
  h.insideFrom_ascending _ i

end Numbered

end Document

/-! ### Adding a node or a text -/

namespace Builder

open Document

variable {b : Builder}

@[simp] theorem stack_addElement (name : String) (attributes : List (String × String)) :
    (b.addElement name attributes).stack = b.stack := rfl

@[simp] theorem size_addElement (name : String) (attributes : List (String × String)) :
    (b.addElement name attributes).nodes.size = b.nodes.size + 1 := by
  simp [addElement]

@[simp] theorem size_addText (text : String) : (b.addText text).nodes.size = b.nodes.size := by
  simp [addText]

/-- Adding an element to the innermost open node. -/
theorem getElem?_addElement (name : String) (attributes : List (String × String))
    (i : Nat) : (b.addElement name attributes).nodes[i]? =
      if i = b.nodes.size then
        some ⟨localName name, attributes.map fun x => (localName x.1, x.2), [], []⟩
      else if i = b.top then (b.nodes[i]?).map fun n => { n with children := n.children ++ [b.nodes.size] }
      else b.nodes[i]? := by
  simp only [addElement, Array.getElem?_push, Array.size_modify, Array.getElem?_modify]
  by_cases hi : i = b.nodes.size
  · simp [hi]
  · simp [hi, eq_comm (a := b.top)]

theorem childrenOf_addElement (htop : b.top < b.nodes.size) (name : String) (attributes : List (String × String))
    (i : Nat) : childrenOf (b.addElement name attributes).nodes i =
      if i = b.top then childrenOf b.nodes i ++ [b.nodes.size] else childrenOf b.nodes i := by
  rw [childrenOf, getElem?_addElement]
  by_cases hi : i = b.nodes.size
  · have hne : b.nodes.size ≠ b.top := by omega
    simp [hi, hne, childrenOf]
  · by_cases ht : i = b.top
    · simp [ht, childrenOf, htop, htop.ne]
    · simp [hi, ht, childrenOf]

@[simp] theorem childrenOf_addText (text : String) (i : Nat) :
    childrenOf (b.addText text).nodes i = childrenOf b.nodes i := by
  simp only [childrenOf, addText, Array.getElem?_modify]
  split <;> simp [Function.comp_def]

/-- Documents under construction, whose open nodes are those that the last node lies inside of. -/
structure Sound (b : Builder) : Prop where
  numbered : Numbered b.nodes
  pos : 0 < b.nodes.size
  /-- The innermost open node stands first. -/
  descending : b.stack.Pairwise (· > ·)
  open_lt : ∀ s ∈ b.stack, s < b.nodes.size
  open_within : ∀ s, s = 0 ∨ s ∈ b.stack → ∀ x, s ≤ x → x < b.nodes.size → Within b.nodes s x

namespace Sound

theorem top_open (b : Builder) : b.top = 0 ∨ b.top ∈ b.stack := by
  unfold top
  cases b.stack <;> simp

theorem top_lt (h : b.Sound) : b.top < b.nodes.size := by
  rcases top_open b with htop | htop
  · exact htop ▸ h.pos
  · exact h.open_lt _ htop

theorem le_top (h : b.Sound) {s : Nat} (hs : s = 0 ∨ s ∈ b.stack) : s ≤ b.top := by
  rcases hs with rfl | hs
  · exact Nat.zero_le _
  · have hdesc := h.descending
    unfold top
    cases hstack : b.stack with
    | nil => simp [hstack] at hs
    | cons t rest =>
      rw [hstack] at hs hdesc
      rcases List.mem_cons.mp hs with rfl | hs
      · simp
      · exact ((List.pairwise_cons.mp hdesc).1 s hs).le

end Sound

section AddElement

variable (h : b.Sound) (name : String) (attributes : List (String × String))

include h

theorem mem_childrenOf_addElement {i c : Nat} : c ∈ childrenOf (b.addElement name attributes).nodes i ↔
    c ∈ childrenOf b.nodes i ∨ i = b.top ∧ c = b.nodes.size := by
  rw [childrenOf_addElement h.top_lt]
  split
  case isTrue hi => simp [hi]
  case isFalse hi => simp [hi]

theorem within_addElement {i x : Nat} (hx : Within b.nodes i x) : Within (b.addElement name attributes).nodes i x :=
  Relation.ReflTransGen.mono (fun _ _ hc => (mem_childrenOf_addElement h name attributes).mpr (.inl hc)) i x hx

/-- The nodes that were there before lie inside of the same nodes as before. -/
theorem within_of_addElement {i x : Nat} (hx : Within (b.addElement name attributes).nodes i x)
    (hlt : x < b.nodes.size) : Within b.nodes i x := by
  induction hx with
  | refl => exact .refl
  | tail _ hc ih =>
    rcases (mem_childrenOf_addElement h name attributes).mp hc with hc | ⟨-, rfl⟩
    · exact .tail (ih ((h.numbered.child_lt hc).1.trans hlt)) hc
    · omega

theorem size_within_addElement {i : Nat} (hi : i = 0 ∨ i ∈ b.stack) :
    Within (b.addElement name attributes).nodes i b.nodes.size := by
  have hadded : b.nodes.size ∈ childrenOf (b.addElement name attributes).nodes b.top :=
    (mem_childrenOf_addElement h name attributes).mpr (.inr ⟨rfl, rfl⟩)
  have htop : Within b.nodes i b.top := h.open_within i hi _ (h.le_top hi) h.top_lt
  exact .tail (within_addElement h name attributes htop) hadded

theorem numbered_addElement : Numbered (b.addElement name attributes).nodes where
  child_lt := by
    intro i c hc
    rw [size_addElement]
    rcases (mem_childrenOf_addElement h name attributes).mp hc with hc | ⟨rfl, rfl⟩
    · have hlt := h.numbered.child_lt hc
      omega
    · have hlt := h.top_lt
      omega
  parent_unique := by
    intro i j c hi hj
    have hold : ∀ {k}, c ∈ childrenOf b.nodes k → c ≠ b.nodes.size := fun hk => (h.numbered.child_lt hk).2.ne
    rcases (mem_childrenOf_addElement h name attributes).mp hi with hi | ⟨rfl, rfl⟩ <;>
      rcases (mem_childrenOf_addElement h name attributes).mp hj with hj | ⟨rfl, hc⟩
    · exact h.numbered.parent_unique hi hj
    · exact absurd hc (hold hi)
    · exact absurd rfl (hold hj)
    · rfl
  children_ascending := by
    intro i
    rw [childrenOf_addElement h.top_lt]
    split
    case isTrue =>
      rw [List.pairwise_append]
      refine ⟨h.numbered.children_ascending i, List.pairwise_singleton _ _, fun c hc d hd => ?_⟩
      rw [List.mem_singleton.mp hd]
      exact (h.numbered.child_lt hc).2
    case isFalse => exact h.numbered.children_ascending i
  convex := by
    intro i j x hx hij hjx
    rcases hx.cases_tail with heq | ⟨p, hp, hc⟩
    · obtain rfl : i = j := by omega
      exact .refl
    rcases (mem_childrenOf_addElement h name attributes).mp hc with hold | ⟨rfl, rfl⟩
    · have hlt := (h.numbered.child_lt hold).2
      exact within_addElement h name attributes
        (h.numbered.convex (within_of_addElement h name attributes hx hlt) hij hjx)
    · rcases hjx.lt_or_eq with hjlt | rfl
      · -- before the new node, what follows the innermost open node lies inside of it
        have htop := within_of_addElement h name attributes hp h.top_lt
        refine within_addElement h name attributes ?_
        by_cases hle : j ≤ b.top
        · exact h.numbered.convex htop hij hle
        · exact htop.trans (h.open_within _ (Sound.top_open b) j (by omega) hjlt)
      · exact hx

theorem sound_addElement : (b.addElement name attributes).Sound where
  numbered := numbered_addElement h name attributes
  pos := by simp
  descending := h.descending
  open_lt := fun s hs => by
    have hlt := h.open_lt s hs
    rw [size_addElement]
    omega
  open_within := by
    intro s hs x hsx hx
    rw [size_addElement] at hx
    rcases (Nat.lt_succ_iff.mp hx).lt_or_eq with hlt | rfl
    · exact within_addElement h name attributes (h.open_within s hs x hsx hlt)
    · exact size_within_addElement h name attributes hs

end AddElement

/-- Open nodes with another node among them in which the last node lies. -/
theorem Sound.opened (h : b.Sound) {id : Nat} (hid : id + 1 = b.nodes.size) (hnew : ∀ s ∈ b.stack, s < id) :
    Sound { b with stack := id :: b.stack } where
  numbered := h.numbered
  pos := h.pos
  descending := List.pairwise_cons.mpr ⟨hnew, h.descending⟩
  open_lt := by
    intro s hs
    rcases List.mem_cons.mp hs with rfl | hs
    · exact Nat.lt_of_succ_le hid.le
    · exact h.open_lt s hs
  open_within := by
    intro s hs x hsx hx
    rcases hs with rfl | hs
    · exact h.open_within 0 (.inl rfl) x hsx hx
    rcases List.mem_cons.mp hs with rfl | hs
    · obtain rfl : s = x := by
        have : x < b.nodes.size := hx
        omega
      exact .refl
    · exact h.open_within s (.inr hs) x hsx hx

theorem Sound.ofSublist (h : b.Sound) {stack : List Nat} (hstack : stack.Sublist b.stack) :
    Sound { b with stack := stack } where
  numbered := h.numbered
  pos := h.pos
  descending := h.descending.sublist hstack
  open_lt := fun s hs => h.open_lt s (hstack.subset hs)
  open_within := fun s hs => h.open_within s (hs.imp_right fun hs => hstack.subset hs)

theorem closed_suffix {nodes : Document} {name : String} {stack rest : List Nat}
    (h : closed nodes name stack = some rest) : rest <:+ stack := by
  induction stack with
  | nil => cases h
  | cons id stack ih =>
    rw [closed] at h
    split at h
    case isTrue =>
      cases h
      exact List.suffix_cons id _
    case isFalse => exact (ih h).trans (List.suffix_cons id stack)

theorem sound_addText (h : b.Sound) (text : String) : (b.addText text).Sound := by
  have hchildren : childrenOf (b.addText text).nodes = childrenOf b.nodes := funext (childrenOf_addText text)
  have hwithin : Within (b.addText text).nodes = Within b.nodes := by rw [Within, Within, hchildren]
  refine ⟨h.numbered.congr (size_addText text) hchildren, ?_, h.descending, ?_, ?_⟩
  · rw [size_addText]
    exact h.pos
  · rw [size_addText]
    exact h.open_lt
  · rw [size_addText, hwithin]
    exact h.open_within

theorem sound_initial : initial.Sound := by
  have hchildren : ∀ i, childrenOf initial.nodes i = [] := by
    intro i
    cases i <;> rfl
  have hwithin : ∀ {i x}, Within initial.nodes i x → i = x := by
    intro i x hx
    rcases hx.cases_tail with rfl | ⟨j, -, hc⟩
    · rfl
    · simp [hchildren] at hc
  refine ⟨⟨?_, ?_, ?_, ?_⟩, ?_, ?_, ?_, ?_⟩
  · simp [hchildren]
  · simp [hchildren]
  · simp [hchildren]
  · intro i j x hx hij hjx
    obtain rfl := hwithin hx
    obtain rfl : i = j := le_antisymm hij hjx
    exact .refl
  · decide
  · simp [initial]
  · simp [initial]
  · intro s _ x hsx hx
    obtain rfl : s = x := by
      have : x < 1 := hx
      omega
    exact .refl

theorem sound_step (h : b.Sound) (t : Token) : (b.step t).Sound := by
  cases t with
  | opening name attributes =>
    simp only [step]
    split
    case isTrue => exact sound_addElement h name attributes
    case isFalse =>
      exact (sound_addElement h name attributes).opened (size_addElement ..).symm fun s hs => h.open_lt s hs
  | empty name attributes => exact sound_addElement h name attributes
  | closing name =>
    refine h.ofSublist ?_
    cases hclosed : closed b.nodes (localName name) b.stack with
    | none => exact List.Sublist.refl _
    | some rest => exact (closed_suffix hclosed).sublist
  | text s => exact sound_addText h s
  | literal s => exact sound_addText h s


theorem sound_foldl (ts : List Token) : (ts.foldl step initial).Sound := by
  induction ts using List.reverseRecOn with
  | nil => exact sound_initial
  | append_singleton ts t ih =>
    rw [List.foldl_concat]
    exact sound_step ih t

end Builder

end Casebook.Markup
