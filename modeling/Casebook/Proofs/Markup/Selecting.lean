import Mathlib
import Casebook.Markup.XPath
import Casebook.Proofs.Markup.Order
import Casebook.Proofs.Markup.Reading

/-! What a path selects.  Its steps lead from node to node, and it reports the items that they lead to: elements once
and in the order of the document, attributes and texts once for each run of nodes that come to them. -/
namespace Casebook.Markup

/-! ### Ascending lists -/

section Lists

variable {α : Type}

theorem nodup_eraseDups [BEq α] [LawfulBEq α] (l : List α) : l.eraseDups.Nodup := by
  induction hsize : l.length using Nat.strongRecOn generalizing l with
  | ind n ih =>
    cases l with
    | nil => simp
    | cons a l =>
      have hlt : (l.filter fun b => !b == a).length < n := by
        have hle := List.length_filter_le (fun b => !b == a) l
        simp only [List.length_cons] at hsize
        omega
      rw [List.eraseDups_cons, List.nodup_cons]
      exact ⟨by simp, ih _ hlt _ rfl⟩

theorem ascending_mergeSort_eraseDups (l : List Nat) : (l.eraseDups.mergeSort).Pairwise (· < ·) := by
  have hsorted : (l.eraseDups.mergeSort).Pairwise fun a b => decide (a ≤ b) = true :=
    List.pairwise_mergeSort (by simp; omega) (by simp; omega) _
  have hnodup : (l.eraseDups.mergeSort).Nodup := (List.mergeSort_perm _ _).nodup_iff.mpr (nodup_eraseDups l)
  exact hsorted.imp₂ (fun _ _ hle hne => lt_of_le_of_ne (of_decide_eq_true hle) hne) hnodup

/-- Lists that ascend and have the same members are the same. -/
theorem eq_of_ascending {l l' : List Nat} (h : l.Pairwise (· < ·)) (h' : l'.Pairwise (· < ·))
    (hmem : ∀ x, x ∈ l ↔ x ∈ l') : l = l' := by
  refine List.Perm.eq_of_pairwise (fun _ _ _ _ hlt hgt => absurd hlt hgt.asymm) h h' ?_
  exact (List.perm_ext_iff_of_nodup (h.imp ne_of_lt) (h'.imp ne_of_lt)).mpr hmem

/-- Of two members of a list that are not in the one order, the pair in the other order is part of the list. -/
theorem pair_sublist {R : α → α → Prop} {all : List α} (hall : all.Pairwise R) {x y : α} (hx : x ∈ all) (hy : y ∈ all)
    (hne : x ≠ y) (hnot : ¬R y x) : [x, y].Sublist all := by
  induction all with
  | nil => cases hx
  | cons a all ih =>
    obtain ⟨hfirst, hall⟩ := List.pairwise_cons.mp hall
    rcases List.mem_cons.mp hx with rfl | hxall
    · exact (List.singleton_sublist.mpr ((List.mem_cons.mp hy).resolve_left (Ne.symm hne))).cons_cons x
    · rcases List.mem_cons.mp hy with rfl | hyall
      · exact absurd (hfirst x hxall) hnot
      · exact (ih hall hxall hyall).cons a

/-- A list is part of another one that has all its members once, if it has them in the order of the other one. -/
theorem sublist_of_pairs {l all : List α} (hnodup : all.Nodup) (hmem : ∀ x ∈ l, x ∈ all)
    (hpairs : l.Pairwise fun x y => [x, y].Sublist all) : l.Sublist all := by
  induction all generalizing l with
  | nil =>
    rw [List.eq_nil_iff_forall_not_mem.mpr fun x hx => absurd (hmem x hx) List.not_mem_nil]
  | cons a all ih =>
    obtain ⟨ha, hnodup⟩ := List.nodup_cons.mp hnodup
    -- a pair that does not begin with the first member lies in the rest
    have hrest : ∀ {x y : α}, [x, y].Sublist (a :: all) → y ∈ all ∧ (x ≠ a → [x, y].Sublist all) := by
      intro x y hpair
      cases hpair with
      | cons _ hpair => exact ⟨hpair.subset (by simp), fun _ => hpair⟩
      | cons_cons _ hpair => exact ⟨hpair.subset (by simp), fun hne => absurd rfl hne⟩
    have hbelow : ∀ {l : List α}, a ∉ l → (∀ x ∈ l, x ∈ a :: all) → (l.Pairwise fun x y => [x, y].Sublist (a :: all)) →
        l.Sublist all := by
      intro l hal hmem hpairs
      refine ih hnodup (fun x hx => ?_) (hpairs.imp_of_mem fun hx _ hpair => ?_)
      · exact (List.mem_cons.mp (hmem x hx)).resolve_left fun heq => hal (heq ▸ hx)
      · exact (hrest hpair).2 fun heq => hal (heq ▸ hx)
    cases l with
    | nil => exact List.nil_sublist _
    | cons x l =>
      obtain ⟨hfirst, hpairs⟩ := List.pairwise_cons.mp hpairs
      have hl : a ∉ l := fun hal => ha (hrest (hfirst a hal)).1
      by_cases hx : x = a
      · subst hx
        exact (hbelow hl (fun y hy => hmem y (List.mem_cons_of_mem _ hy)) hpairs).cons_cons x
      · refine (hbelow ?_ hmem (List.pairwise_cons.mpr ⟨hfirst, hpairs⟩)).cons a
        simp [hl, Ne.symm hx]

/-- Members that give nothing do not matter. -/
theorem flatMap_filter {β : Type} {f : α → List β} {p : α → Bool} (h : ∀ x, p x = false → f x = []) (l : List α) :
    (l.filter p).flatMap f = l.flatMap f := by
  induction l with
  | nil => rfl
  | cons x l ih => cases hx : p x <;> simp [hx, ih, h]

theorem toList_getElem?_sublist (l : List α) (k : Nat) : (l[k]?).toList.Sublist l := by
  cases h : l[k]? with
  | none => exact List.nil_sublist l
  | some x => exact List.singleton_sublist.mpr (List.mem_of_getElem? h)

theorem toList_getLast?_sublist (l : List α) : l.getLast?.toList.Sublist l := by
  cases h : l.getLast? with
  | none => exact List.nil_sublist l
  | some x => exact List.singleton_sublist.mpr (List.mem_of_getLast? h)

end Lists

namespace Document

variable {doc : Document}

/-- What is reported of an item: the first text of an element, the value of an attribute, or a text. -/
def value (doc : Document) : Item → Option String
  | .element id => (textsOf doc id).head?
  | .attr id name => attribute? doc id name
  | .text id position => (textsOf doc id)[position]?

end Document

namespace XPath

open Document

variable {doc : Document} {context : List Nat} {s : Step}

/-! ### Steps -/

/-- Whether a step that starts from a node looks into another one. -/
def Step.LooksInto (doc : Document) (s : Step) (start base : Nat) : Prop :=
  if s.deep then Within doc start base else base = start

/-- What a step takes that starts from a node. -/
inductive Step.Takes (doc : Document) (s : Step) (start : Nat) : Item → Prop where
  | element {name : String} {base id : Nat} (htarget : s.target = .element name) (hbase : s.LooksInto doc start base)
    (hid : id ∈ Step.elementsIn doc name s.predicates base) : Takes doc s start (.element id)
  | attr {name : String} {base : Nat} (htarget : s.target = .attribute name) (hbase : s.LooksInto doc start base)
    (hname : (attribute? doc base name).isSome) : Takes doc s start (.attr base name)
  | text {base position : Nat} (htarget : s.target = .text) (hbase : s.LooksInto doc start base)
    (hposition : position < (textsOf doc base).length) : Takes doc s start (.text base position)

/-- The elements that a step finds. -/
def Step.elements (doc : Document) (s : Step) (context : List Nat) : List Nat :=
  match s.target with
  | .element name => ((s.bases doc context).flatMap (Step.elementsIn doc name s.predicates)).eraseDups.mergeSort
  | _ => []

/-- The items that a step finds. -/
def Step.items (doc : Document) (s : Step) (context : List Nat) : List Item :=
  match s.target with
  | .element _ => (s.elements doc context).map .element
  | .attribute name =>
    ((s.bases doc context).filter fun base => (attribute? doc base name).isSome).map (.attr · name)
  | .text => (s.bases doc context).flatMap fun base => (List.range (textsOf doc base).length).map (.text base)

theorem mem_dedupNeighbours {l : List Nat} {x : Nat} : x ∈ dedupNeighbours l ↔ x ∈ l := by
  fun_induction dedupNeighbours l <;> simp_all

theorem dedupNeighbours_sublist (l : List Nat) : (dedupNeighbours l).Sublist l := by
  fun_induction dedupNeighbours l with
  | case1 => exact List.Sublist.refl _
  | case2 x => exact List.Sublist.refl _
  | case3 x rest ih => exact ih.cons x
  | case4 x y rest _ ih => exact ih.cons_cons x

theorem dedupNeighbours_of_ascending {l : List Nat} (h : l.Pairwise (· < ·)) : dedupNeighbours l = l := by
  fun_induction dedupNeighbours l with
  | case1 => rfl
  | case2 x => rfl
  | case3 x rest _ => exact absurd ((List.pairwise_cons.mp h).1 x List.mem_cons_self) (lt_irrefl x)
  | case4 x y rest _ ih => rw [ih (List.pairwise_cons.mp h).2]

theorem mem_bases (hdoc : Numbered doc) {base : Nat} :
    base ∈ s.bases doc context ↔ ∃ start ∈ context, s.LooksInto doc start base := by
  rw [Step.bases, mem_dedupNeighbours]
  unfold Step.LooksInto
  split
  case isTrue => simp [List.mem_flatMap, hdoc.mem_inside]
  case isFalse => simp

theorem elements_ascending (s : Step) (context : List Nat) : (s.elements doc context).Pairwise (· < ·) := by
  unfold Step.elements
  split
  · exact ascending_mergeSort_eraseDups _
  · exact List.Pairwise.nil

theorem mem_elements (hdoc : Numbered doc) {id : Nat} :
    id ∈ s.elements doc context ↔ ∃ start ∈ context, s.Takes doc start (.element id) := by
  unfold Step.elements
  split
  case h_1 name htarget =>
    simp only [List.mem_mergeSort, List.mem_eraseDups, List.mem_flatMap, mem_bases hdoc]
    constructor
    · rintro ⟨base, ⟨start, hstart, hbase⟩, hid⟩
      exact ⟨start, hstart, .element htarget hbase hid⟩
    · rintro ⟨start, hstart, htakes⟩
      cases htakes with
      | element htarget' hbase hid =>
        cases htarget.symm.trans htarget'
        exact ⟨_, ⟨start, hstart, hbase⟩, hid⟩
  case h_2 hother =>
    simp only [List.not_mem_nil, false_iff, not_exists, not_and]
    rintro start - (htarget | _ | _)
    exact hother _ htarget

theorem mem_items (hdoc : Numbered doc) {item : Item} :
    item ∈ s.items doc context ↔ ∃ start ∈ context, s.Takes doc start item := by
  unfold Step.items
  split
  case h_1 name htarget =>
    rw [List.mem_map]
    constructor
    · rintro ⟨id, hid, rfl⟩
      exact (mem_elements hdoc).mp hid
    · rintro ⟨start, hstart, htakes⟩
      cases htakes with
      | element htarget' hbase hid =>
        exact ⟨_, (mem_elements hdoc).mpr ⟨start, hstart, .element htarget' hbase hid⟩, rfl⟩
      | attr htarget' => cases htarget.symm.trans htarget'
      | text htarget' => cases htarget.symm.trans htarget'
  case h_2 name htarget =>
    simp only [List.mem_map, List.mem_filter, mem_bases hdoc]
    constructor
    · rintro ⟨base, ⟨⟨start, hstart, hbase⟩, hname⟩, rfl⟩
      exact ⟨start, hstart, .attr htarget hbase hname⟩
    · rintro ⟨start, hstart, htakes⟩
      cases htakes with
      | element htarget' => cases htarget.symm.trans htarget'
      | attr htarget' hbase hname =>
        cases htarget.symm.trans htarget'
        exact ⟨_, ⟨⟨start, hstart, hbase⟩, hname⟩, rfl⟩
      | text htarget' => cases htarget.symm.trans htarget'
  case h_3 htarget =>
    simp only [List.mem_flatMap, List.mem_map, List.mem_range, mem_bases hdoc]
    constructor
    · rintro ⟨base, ⟨start, hstart, hbase⟩, position, hposition, rfl⟩
      exact ⟨start, hstart, .text htarget hbase hposition⟩
    · rintro ⟨start, hstart, htakes⟩
      cases htakes with
      | element htarget' => cases htarget.symm.trans htarget'
      | attr htarget' => cases htarget.symm.trans htarget'
      | text htarget' hbase hposition => exact ⟨_, ⟨start, hstart, hbase⟩, _, hposition, rfl⟩

theorem map_value_texts (base : Nat) :
    ((List.range (textsOf doc base).length).map (.text base)).map (value doc) = (textsOf doc base).map some := by
  rw [List.map_map]
  refine List.ext_getElem (by simp) fun k hk _ => ?_
  simp at hk
  simp [value, hk]

/-- What a step reports is what is to be reported of the items that it finds. -/
theorem selectFrom_singleton (s : Step) (context : List Nat) :
    selectFrom doc [s] context = (s.items doc context).map (value doc) := by
  rw [selectFrom]
  unfold Step.items Step.elements
  cases htarget : s.target with
  | element name => simp [selectFrom, value, Function.comp_def]
  | «attribute» name =>
    dsimp only
    induction s.bases doc context with
    | nil => rfl
    | cons base bases ih =>
      cases hvalue : attribute? doc base name <;> simp [hvalue, value, ih]
  | text => simp only [List.map_flatMap, map_value_texts]

/-! ### Paths -/

/-- The elements that steps find one after the other. -/
def elementsOf (doc : Document) (steps : List Step) (context : List Nat) : List Nat :=
  steps.foldl (fun context s => s.elements doc context) context

/-- Whether steps lead from a node to another one. -/
inductive Leads (doc : Document) : List Step → Nat → Nat → Prop where
  | nil (id : Nat) : Leads doc [] id id
  | cons {s : Step} {steps : List Step} {start next id : Nat} (htakes : s.Takes doc start (.element next))
    (hsteps : Leads doc steps next id) : Leads doc (s :: steps) start id

theorem elementsOf_ascending (steps : List Step) {context : List Nat} (h : context.Pairwise (· < ·)) :
    (elementsOf doc steps context).Pairwise (· < ·) := by
  induction steps generalizing context with
  | nil => exact h
  | cons s steps ih => exact ih (elements_ascending s context)

theorem mem_elementsOf (hdoc : Numbered doc) {steps : List Step} {id : Nat} :
    id ∈ elementsOf doc steps context ↔ ∃ start ∈ context, Leads doc steps start id := by
  induction steps generalizing context with
  | nil =>
    constructor
    · exact fun hid => ⟨id, hid, .nil id⟩
    · rintro ⟨_, hstart, ⟨⟩⟩
      exact hstart
  | cons s steps ih =>
    change id ∈ elementsOf doc steps (s.elements doc context) ↔ _
    rw [ih]
    constructor
    · rintro ⟨next, hnext, hsteps⟩
      obtain ⟨start, hstart, htakes⟩ := (mem_elements hdoc).mp hnext
      exact ⟨start, hstart, .cons htakes hsteps⟩
    · rintro ⟨start, hstart, hsteps⟩
      cases hsteps with
      | cons htakes hsteps => exact ⟨_, (mem_elements hdoc).mpr ⟨start, hstart, htakes⟩, hsteps⟩

theorem selectFrom_append {steps : List Step} (hsteps : ∀ s ∈ steps, s.isElement = true) (rest : List Step)
    (context : List Nat) :
    selectFrom doc (steps ++ rest) context = selectFrom doc rest (elementsOf doc steps context) := by
  induction steps generalizing context with
  | nil => rfl
  | cons s steps ih =>
    have hs := hsteps s List.mem_cons_self
    rw [List.cons_append, selectFrom]
    unfold Step.isElement at hs
    split at hs
    case h_1 name htarget =>
      simp only [htarget]
      rw [ih fun s hs => hsteps s (List.mem_cons_of_mem _ hs)]
      simp [elementsOf, Step.elements, htarget]
    case h_2 => cases hs

namespace Path

/-- Where a path starts: at the root, or at the first element inside of it. -/
def start (doc : Document) (path : Path) : List Nat :=
  if path.absolute then [0] else (childrenOf doc 0).take 1

/-- The elements that a path of element steps finds. -/
def elements (doc : Document) (path : Path) : List Nat := elementsOf doc path.steps (path.start doc)

/-- Where the last step of a path starts. -/
def origins (doc : Document) (path : Path) : List Nat := elementsOf doc path.steps.dropLast (path.start doc)

/-- The items that a path finds. -/
def items (doc : Document) (path : Path) : List Item :=
  match path.steps.getLast? with
  | some s => s.items doc (path.origins doc)
  | none => []

/-- Whether the last step of a path takes an item when it starts from a node that the other steps lead to. -/
inductive Takes (doc : Document) (path : Path) (origin : Nat) (item : Item) : Prop where
  | intro {steps : List Step} {s : Step} {first : Nat} (hsteps : path.steps = steps ++ [s])
    (hfirst : first ∈ path.start doc) (hleads : Leads doc steps first origin) (htakes : s.Takes doc origin item)

/-- Whether a path leads to an item. -/
def Selects (doc : Document) (path : Path) (item : Item) : Prop := ∃ origin, path.Takes doc origin item

variable {path : Path}

theorem start_ascending (doc : Document) (path : Path) : (path.start doc).Pairwise (· < ·) := by
  unfold start
  split
  · exact List.pairwise_singleton _ _
  · cases childrenOf doc 0 <;> simp

theorem origins_ascending (doc : Document) (path : Path) : (path.origins doc).Pairwise (· < ·) :=
  elementsOf_ascending _ (path.start_ascending doc)

theorem takes_iff (hdoc : Numbered doc) {origin : Nat} {item : Item} :
    path.Takes doc origin item ↔
      origin ∈ path.origins doc ∧ ∃ s, path.steps.getLast? = some s ∧ s.Takes doc origin item := by
  rw [origins, mem_elementsOf hdoc]
  constructor
  · rintro ⟨hsteps, hfirst, hleads, htakes⟩
    rw [hsteps, List.dropLast_concat, List.getLast?_concat]
    exact ⟨⟨_, hfirst, hleads⟩, _, rfl, htakes⟩
  · rintro ⟨⟨first, hfirst, hleads⟩, s, hlast, htakes⟩
    exact ⟨(List.dropLast_append_getLast? s hlast).symm, hfirst, hleads, htakes⟩

theorem mem_items (hdoc : Numbered doc) {item : Item} : item ∈ path.items doc ↔ path.Selects doc item := by
  unfold Selects items
  simp only [takes_iff hdoc]
  cases path.steps.getLast? with
  | none => simp
  | some s => simp [XPath.mem_items hdoc]

/-- A path whose steps but for the last one are element steps reports what is to be reported of its items. -/
theorem select_eq (hne : path.steps ≠ []) (helements : ∀ s ∈ path.steps.dropLast, s.isElement = true) :
    path.select doc = (path.items doc).map (value doc) := by
  have hlast := List.getLast?_eq_getLast_of_ne_nil hne
  have hsteps : path.steps = path.steps.dropLast ++ [path.steps.getLast hne] := (List.dropLast_append_getLast hne).symm
  have hitems : path.items doc = (path.steps.getLast hne).items doc (path.origins doc) := by rw [items, hlast]
  rw [hitems, ← selectFrom_singleton, select]
  conv_lhs => rw [hsteps]
  exact selectFrom_append helements _ _

/-- A path of element steps reports the first texts of the elements that it finds. -/
theorem select_of_elements (h : ∀ s ∈ path.steps, s.isElement = true) :
    path.select doc = (path.elements doc).map fun id => (textsOf doc id).head? := by
  have hselect : selectFrom doc (path.steps ++ []) (path.start doc) = selectFrom doc [] (path.elements doc) :=
    selectFrom_append h [] _
  rwa [List.append_nil] at hselect

end Path

/-! ### Items in document order -/

theorem apply_sublist (p : Predicate) (nodes : List Nat) : (p.apply doc nodes).Sublist nodes := by
  cases p with
  | position n => exact toList_getElem?_sublist nodes (n - 1)
  | last => exact toList_getLast?_sublist nodes
  | hasAttribute name => exact List.filter_sublist
  | attributeIs name v => exact List.filter_sublist

theorem foldl_apply_sublist (predicates : List Predicate) (nodes : List Nat) :
    (predicates.foldl (Predicate.apply doc) nodes).Sublist nodes := by
  induction predicates generalizing nodes with
  | nil => exact List.Sublist.refl _
  | cons p predicates ih => exact (ih _).trans (apply_sublist p nodes)

theorem mem_childrenOf_of_elementsIn {name : String} {predicates : List Predicate} {base id : Nat}
    (h : id ∈ Step.elementsIn doc name predicates base) : id ∈ childrenOf doc base :=
  List.mem_of_mem_filter ((foldl_apply_sublist predicates _).subset h)

theorem Step.Takes.has (hdoc : Numbered doc) {start : Nat} {item : Item} (h : s.Takes doc start item) :
    Has doc item := by
  cases h with
  | element _ _ hid =>
    have hlt := hdoc.child_lt (mem_childrenOf_of_elementsIn hid)
    exact ⟨Nat.zero_lt_of_lt hlt.1, hlt.2⟩
  | attr _ _ hname => exact hname
  | text _ _ hposition => exact hposition

/-- Among nodes of which a step comes to each from one node of its context only, it comes to each once and in their
order. -/
theorem filter_bases_ascending (hdoc : Numbered doc) (hcontext : context.Pairwise (· < ·)) {p : Nat → Bool}
    (honce : ∀ c ∈ context, ∀ c' ∈ context, ∀ base, p base = true →
      s.LooksInto doc c base → s.LooksInto doc c' base → c = c') :
    ((s.bases doc context).filter p).Pairwise (· < ·) := by
  refine List.Pairwise.sublist ((dedupNeighbours_sublist _).filter p) ?_
  split
  case isFalse => exact hcontext.filter p
  case isTrue hdeep =>
    have hlooks : ∀ {c base}, s.LooksInto doc c base ↔ Within doc c base := by simp [Step.LooksInto, hdeep]
    rw [List.filter_flatMap, List.pairwise_flatMap]
    refine ⟨fun c _ => (hdoc.inside_ascending c).filter p, hcontext.imp_of_mem fun {c c'} hc hc' hlt x hx y hy => ?_⟩
    obtain ⟨hx, -⟩ := List.mem_filter.mp hx
    obtain ⟨hy, hpy⟩ := List.mem_filter.mp hy
    have hcx := hdoc.mem_inside.mp hx
    have hcy := hdoc.mem_inside.mp hy
    by_contra hge
    have hboth : Within doc c y := hdoc.convex hcx (hlt.le.trans (hdoc.le_of_within hcy)) (by omega)
    exact absurd (honce c hc c' hc' y hpy (hlooks.mpr hboth) (hlooks.mpr hcy)) hlt.ne

/-- An item comes behind the ones that it precedes only where it is a text further inside. -/
theorem items_ordered (hdoc : Numbered doc) (hcontext : context.Pairwise (· < ·))
    (honce : ∀ c ∈ context, ∀ c' ∈ context, ∀ item, s.Takes doc c item → s.Takes doc c' item →
      (∃ id, item = .element id) ∨ c = c') :
    (s.items doc context).Pairwise fun x y => x ≠ y ∧
      (¬Precedes doc y x ∨ ∃ i k j l, x = .text i k ∧ y = .text j l ∧ i < j ∧ Within doc i j) := by
  unfold Step.items
  split
  case h_1 name htarget =>
    refine List.pairwise_map.mpr ((elements_ascending s context).imp fun {i j} hlt => ⟨?_, .inl ?_⟩)
    · simpa using hlt.ne
    · exact hlt.asymm
  case h_2 name htarget =>
    refine List.pairwise_map.mpr ((filter_bases_ascending hdoc hcontext ?_).imp fun {i j} hlt => ⟨?_, .inl ?_⟩)
    · intro c hc c' hc' base hbase hlooks hlooks'
      simpa using honce c hc c' hc' _ (.attr htarget hlooks hbase) (.attr htarget hlooks' hbase)
    · simpa using hlt.ne
    · exact fun h => absurd h.1 hlt.not_ge
  case h_3 htarget =>
    -- the nodes that have texts are come to once each, and in their order
    have hbases : ((s.bases doc context).filter fun base => decide (0 < (textsOf doc base).length)).Pairwise
        (· < ·) := by
      refine filter_bases_ascending hdoc hcontext fun c hc c' hc' base hbase hlooks hlooks' => ?_
      have hposition := of_decide_eq_true hbase
      simpa using honce c hc c' hc' _ (.text htarget hlooks hposition) (.text htarget hlooks' hposition)
    rw [← flatMap_filter (p := fun base => decide (0 < (textsOf doc base).length)) (by simp), List.pairwise_flatMap]
    refine ⟨fun i _ => ?_, hbases.imp fun {i j} hlt x hx y hy => ?_⟩
    · refine List.pairwise_map.mpr (List.pairwise_lt_range.imp fun {k l} hlt => ⟨?_, .inl ?_⟩)
      · simpa using hlt.ne
      · exact fun h => (h.1 rfl).asymm hlt
    · obtain ⟨k, -, rfl⟩ := List.mem_map.mp hx
      obtain ⟨l, -, rfl⟩ := List.mem_map.mp hy
      refine ⟨by simpa using fun heq => absurd heq hlt.ne, ?_⟩
      by_cases hwithin : Within doc i j
      · exact .inr ⟨i, k, j, l, rfl, rfl, hlt, hwithin⟩
      · exact .inl fun h => hwithin (h.2 hlt)

/-- Any two items that a step finds stand in the document in the order in which they are found. -/
theorem items_pairs {ts : List Token} (hdoc : Numbered (ofTokens ts)) (hcontext : context.Pairwise (· < ·))
    (honce : ∀ c ∈ context, ∀ c' ∈ context, ∀ item, s.Takes (ofTokens ts) c item → s.Takes (ofTokens ts) c' item →
      (∃ id, item = .element id) ∨ c = c')
    (houtward : ∀ i k j l, .text i k ∈ s.items (ofTokens ts) context → .text j l ∈ s.items (ofTokens ts) context →
      i < j → Within (ofTokens ts) i j → [Item.text i k, Item.text j l].Sublist (itemsOf ts)) :
    (s.items (ofTokens ts) context).Pairwise fun x y => [x, y].Sublist (itemsOf ts) := by
  have hmem : ∀ {item}, item ∈ s.items (ofTokens ts) context → item ∈ itemsOf ts := fun {item} hitem => by
    obtain ⟨c, -, htakes⟩ := (mem_items hdoc).mp hitem
    exact mem_itemsOf.mpr (htakes.has hdoc)
  refine (items_ordered hdoc hcontext honce).imp_of_mem fun {x y} hx hy hordered => ?_
  obtain ⟨hne, hnot | ⟨i, k, j, l, rfl, rfl, hlt, hwithin⟩⟩ := hordered
  · exact pair_sublist (itemsOf_pairwise ts) (hmem hx) (hmem hy) hne hnot
  · exact houtward i k j l hx hy hlt hwithin

/-- Whether a path comes to each attribute and each text from one node only, and selects no text that stands in the
document behind a selected text of an element inside of its own. -/
structure Path.Orderly (ts : List Token) (path : Path) : Prop where
  once : ∀ {c c' : Nat} {item : Item}, path.Takes (ofTokens ts) c item → path.Takes (ofTokens ts) c' item →
    (∃ id, item = .element id) ∨ c = c'
  outward : ∀ {i k j l : Nat}, path.Selects (ofTokens ts) (.text i k) → path.Selects (ofTokens ts) (.text j l) →
    i < j → Within (ofTokens ts) i j → [Item.text i k, Item.text j l].Sublist (itemsOf ts)

/-- Paths of element steps select neither attributes nor texts. -/
theorem Path.orderly_of_elements {path : Path} (h : ∀ s ∈ path.steps, s.isElement = true) (ts : List Token) :
    path.Orderly ts := by
  have hitem : ∀ {c item}, path.Takes (ofTokens ts) c item → ∃ id, item = .element id := by
    rintro c item ⟨hsteps, -, -, htakes⟩
    have hs := h _ (hsteps ▸ List.mem_append_right _ (List.mem_singleton.mpr rfl))
    cases htakes with
    | element => exact ⟨_, rfl⟩
    | attr htarget => simp [Step.isElement, htarget] at hs
    | text htarget => simp [Step.isElement, htarget] at hs
  refine ⟨fun htakes _ => .inl (hitem htakes), ?_⟩
  rintro i k j l ⟨c, htakes⟩
  obtain ⟨id, hid⟩ := hitem htakes
  cases hid

theorem Path.items_sublist {path : Path} {ts : List Token} (h : path.Orderly ts) :
    (path.items (ofTokens ts)).Sublist (itemsOf ts) := by
  have hdoc : Numbered (ofTokens ts) := (Builder.sound_foldl ts).numbered
  refine sublist_of_pairs (nodup_itemsOf ts) (fun item hitem => ?_) ?_
  · obtain ⟨c, -, -, -, htakes⟩ := (mem_items hdoc).mp hitem
    exact mem_itemsOf.mpr (htakes.has hdoc)
  unfold items
  cases hlast : path.steps.getLast? with
  | none => exact List.Pairwise.nil
  | some s =>
    have htakes : ∀ {c item}, c ∈ path.origins (ofTokens ts) → s.Takes (ofTokens ts) c item →
        path.Takes (ofTokens ts) c item := fun hc htakes => (takes_iff hdoc).mpr ⟨hc, s, hlast, htakes⟩
    have hselects : ∀ {item}, item ∈ s.items (ofTokens ts) (path.origins (ofTokens ts)) →
        path.Selects (ofTokens ts) item := fun hitem => by
      obtain ⟨c, hc, hs⟩ := (XPath.mem_items hdoc).mp hitem
      exact ⟨c, htakes hc hs⟩
    refine items_pairs hdoc (path.origins_ascending _) ?_ ?_
    · exact fun c hc c' hc' item hs hs' => h.once (htakes hc hs) (htakes hc' hs')
    · exact fun i k j l hi hj => h.outward (hselects hi) (hselects hj)

/-- A path comes to an attribute of its own element only, unless its last step looks deeper. -/
theorem Path.orderly_of_shallow_attribute {path : Path} {s : Step} {name : String}
    (hlast : path.steps.getLast? = some s) (hdeep : s.deep = false) (htarget : s.target = .attribute name)
    (ts : List Token) : path.Orderly ts := by
  have hitem : ∀ {c item}, path.Takes (ofTokens ts) c item → item = .attr c name := by
    rintro c item ⟨hsteps, -, -, htakes⟩
    rw [hsteps, List.getLast?_concat, Option.some.injEq] at hlast
    subst hlast
    cases htakes with
    | element htarget' => cases htarget.symm.trans htarget'
    | text htarget' => cases htarget.symm.trans htarget'
    | attr htarget' hbase =>
      cases htarget.symm.trans htarget'
      rw [Step.LooksInto, hdeep] at hbase
      rw [hbase]
  refine ⟨fun htakes htakes' => .inr ?_, ?_⟩
  · exact (Item.attr.inj ((hitem htakes).symm.trans (hitem htakes'))).1
  · rintro i k j l ⟨c, htakes⟩
    cases hitem htakes

end XPath

theorem Document.exists_tokens {body : String} {doc : Document} (h : Document.ofText? body = .ok doc) :
    ∃ ts, tokens body = .ok ts ∧ doc = Document.ofTokens ts := by
  obtain ⟨ts, htokens, h⟩ := bind_eq_ok.mp h
  refine ⟨ts, htokens, ?_⟩
  by_cases hsize : (ofTokens ts).size ≤ 1
  · simp only [if_pos hsize] at h
    cases h
  · simp only [if_neg hsize] at h
    cases h
    rfl

open XPath Document

theorem selectText_eq {text body : String} {path : Path} {doc : Document} (hpath : Path.ofText? text = .ok path)
    (hdoc : Document.ofText? body = .ok doc) : selectText text body = .ok (path.select doc) := by
  simp only [selectText, hpath, hdoc]
  rfl

/-- A path reports the items that it leads to; it reports each of them once and in the order of the document unless it
comes to an attribute or a text from several nodes, or to a text behind one that stands further inside. -/
theorem selected_items_are_a_node_set {text body : String} {path : Path} {doc : Document}
    (hpath : Path.ofText? text = .ok path) (hdoc : Document.ofText? body = .ok doc) :
    ∃ (ts : List Token) (items : List Item), tokens body = .ok ts ∧ doc = ofTokens ts ∧
      selectText text body = .ok (items.map (value doc)) ∧
      (∀ item, item ∈ items ↔ path.Selects doc item) ∧ (itemsOf ts).Nodup ∧
      ((∀ s ∈ path.steps, s.isElement = true) ∨ path.Orderly ts → items.Sublist (itemsOf ts)) := by
  obtain ⟨ts, htokens, rfl⟩ := exists_tokens hdoc
  obtain ⟨-, -, hne, helements, -⟩ := Path.steps_of_ok hpath
  have hnumbered : Numbered (ofTokens ts) := (Builder.sound_foldl ts).numbered
  refine ⟨ts, path.items (ofTokens ts), htokens, rfl, ?_, fun item => Path.mem_items hnumbered, nodup_itemsOf ts, ?_⟩
  · rw [selectText_eq hpath hdoc, Path.select_eq hne helements]
  · rintro (hall | horderly)
    · exact Path.items_sublist (Path.orderly_of_elements hall ts)
    · exact Path.items_sublist horderly


theorem nested_elements_are_selected_once : ∃ (ts : List Token) (items : List Item),
    tokens "<a>one<a>two<a>three</a></a></a>" = .ok ts ∧
      selectText "//a//a" "<a>one<a>two<a>three</a></a></a>" = .ok (items.map (value (ofTokens ts))) ∧
        items.Sublist (itemsOf ts) := by
  have hpath : Path.ofText? "//a//a" = .ok ⟨true, [⟨true, .element "a", []⟩, ⟨true, .element "a", []⟩]⟩ := by
    decide +kernel
  have hdoc : Document.ofText? "<a>one<a>two<a>three</a></a></a>" =
      .ok #[⟨"", [], [], [1]⟩, ⟨"a", [], ["one"], [2]⟩, ⟨"a", [], ["two"], [3]⟩, ⟨"a", [], ["three"], []⟩] := by
    decide +kernel
  obtain ⟨ts, items, htokens, hts, hselect, -, -, horder⟩ := selected_items_are_a_node_set hpath hdoc
  exact ⟨ts, items, htokens, hts ▸ hselect, horder (.inl (by simp [Step.isElement]))⟩

/-- Two nested elements that look for the same attribute both report it. -/
theorem nested_elements_repeat_attribute : ∃ ts, tokens "<a><a><b x=\"1\"/></a></a>" = .ok ts ∧
    itemsOf ts = [.element 1, .element 2, .element 3, .attr 3 "x"] ∧
      selectText "//a//@x" "<a><a><b x=\"1\"/></a></a>" = .ok [some "1", some "1"] := by
  refine ⟨[.opening "a" [], .opening "a" [], .empty "b" [("x", "1")], .closing "a", .closing "a"], by decide +kernel,
    by decide +kernel, ?_⟩
  have hpath : Path.ofText? "//a//@x" = .ok ⟨true, [⟨true, .element "a", []⟩, ⟨true, .attribute "x", []⟩]⟩ := by
    decide +kernel
  have hdoc : Document.ofText? "<a><a><b x=\"1\"/></a></a>" =
      .ok #[⟨"", [], [], [1]⟩, ⟨"a", [], [], [2]⟩, ⟨"a", [], [], [3]⟩, ⟨"b", [("x", "1")], [], []⟩] := by
    decide +kernel
  rw [selectText_eq hpath hdoc]
  cbv

end Casebook.Markup
