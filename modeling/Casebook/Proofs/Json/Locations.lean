import Mathlib
import Casebook.Json.Path

/-! Where the values that a path selects lie.  A location goes down into a document step by step, and a path selects one
value for each way to cut a location into pieces that its segments match, in the order in which the segments come to
their pieces. -/
namespace Casebook.Json

/-! ### Locations -/

/-- One step down into a document: to a member of an object, or to an element of an array. -/
inductive Key where
  | member (name : String)
  | element (position : Nat)
deriving DecidableEq, Repr

abbrev Location := List Key

namespace Value

/-- What lies one step below a value. -/
def child? : Key → Value → Option Value
  | .member name, .object ms => Dict.get? name ms
  | .element p, .array xs => xs[p]?
  | _, _ => none

/-- What lies at a location below a value. -/
def at? : Location → Value → Option Value
  | [], v => some v
  | k :: l, v => (v.child? k).bind (at? l)

@[simp] theorem at?_nil (v : Value) : v.at? [] = some v := rfl

theorem at?_cons (k : Key) (l : Location) (v : Value) : v.at? (k :: l) = (v.child? k).bind (at? l) := rfl

@[simp] theorem at?_singleton (k : Key) (v : Value) : v.at? [k] = v.child? k := by
  rw [at?_cons]
  exact Option.bind_fun_some _

theorem at?_append (l m : Location) (v : Value) : v.at? (l ++ m) = (v.at? l).bind (at? m) := by
  induction l generalizing v with
  | nil => rfl
  | cons k l ih =>
    rw [List.cons_append, at?_cons, at?_cons, Option.bind_assoc]
    exact congrArg _ (funext ih)

end Value

/-- Whether a segment leads from a value to a location below it, if anything lies there. -/
def Segment.Matches (v : Value) (l : Location) : Segment → Prop
  | .member name => l = [.member name]
  | .index i => ∃ xs p, v = .array xs ∧ l = [.element p] ∧ (p : Int) = if i < 0 then (xs.length : Int) + i else i
  | .wildcard => ∃ k, l = [k]
  | .descendant name => ∃ above, l = above ++ [.member name]
  | .anyDescendant => ∃ above k, l = above ++ [k]

/-- Whether each segment of a path matches its piece of a location at the value where the piece starts. -/
inductive Path.Splits : Path → Value → List Location → Prop where
  | nil (v : Value) : Splits [] v []
  | cons {s : Segment} {path : Path} {v w : Value} {piece : Location} {pieces : List Location} :
    s.Matches v piece → v.at? piece = some w → Splits path w pieces → Splits (s :: path) v (piece :: pieces)

/-! ### Values listed once for each way to them -/

section Lists

variable {α β γ : Type}

/-- Values in some order, one for each way that leads to a value. -/
structure Lists (Leads : α → Value → Prop) (values : List Value) (ways : List (α × Value)) : Prop where
  listed : ways.map Prod.snd = values
  once : (ways.map Prod.fst).Nodup
  leads : ∀ a w, (a, w) ∈ ways ↔ Leads a w

/-- Values in the order of the ways that lead to them. -/
structure ListsBy (Earlier : α → α → Prop) (Leads : α → Value → Prop) (values : List Value)
    (ways : List (α × Value)) : Prop where
  listed : ways.map Prod.snd = values
  ordered : ways.Pairwise fun x y => Earlier x.1 y.1
  leads : ∀ a w, (a, w) ∈ ways ↔ Leads a w

namespace ListsBy

variable {R : α → α → Prop} {Leads : α → Value → Prop} {values : List Value} {ways : List (α × Value)}

theorem lists (h : ListsBy R Leads values ways) (hirrefl : ∀ a, ¬R a a) : Lists Leads values ways := by
  refine ⟨h.listed, List.pairwise_map.mpr (h.ordered.imp fun {x y} hxy heq => ?_), h.leads⟩
  rw [heq] at hxy
  exact hirrefl _ hxy

theorem mem (h : ListsBy R Leads values ways) {a : α} {w : Value} (hw : Leads a w) : w ∈ values := by
  rw [← h.listed]
  exact List.mem_map_of_mem ((h.leads a w).mpr hw)

theorem congr {Leads' : α → Value → Prop} (h : ListsBy R Leads values ways) (heq : ∀ a w, Leads a w ↔ Leads' a w) :
    ListsBy R Leads' values ways :=
  ⟨h.listed, h.ordered, fun a w => (h.leads a w).trans (heq a w)⟩

/-- A way that leads to one value or to none. -/
theorem ofOption (R : α → α → Prop) (a : α) (o : Option Value) :
    ListsBy R (fun b w => b = a ∧ o = some w) o.toList (o.toList.map (a, ·)) := by
  cases o with
  | none => exact ⟨rfl, .nil, fun b w => by simp⟩
  | some v =>
    refine ⟨rfl, List.pairwise_singleton _ _, fun b w => ?_⟩
    simp [Prod.ext_iff, eq_comm (a := w)]

/-- Other names for the ways. -/
theorem rename (h : ListsBy R Leads values ways) {S : β → β → Prop} {f : α → β}
    (hf : ∀ a a', R a a' → S (f a) (f a')) :
    ListsBy S (fun b w => ∃ a, b = f a ∧ Leads a w) values (ways.map fun way => (f way.1, way.2)) := by
  refine ⟨?_, List.pairwise_map.mpr (h.ordered.imp (hf _ _)), fun b w => ?_⟩
  · rw [← h.listed, List.map_map]
    rfl
  · simp [← h.leads, Prod.ext_iff, and_comm, eq_comm (a := b)]

/-- Ways that go on from the values listed: `join` makes one way of two, which comes where the first of them does, and
behind the same first one where the second does. -/
theorem flatMap {R' : β → β → Prop} {S : γ → γ → Prop} {Leads' : Value → β → Value → Prop} {more : Value → List Value}
    (h : ListsBy R Leads values ways) (join : α → β → γ)
    (hmore : ∀ a w, Leads a w → ∃ onward, ListsBy R' (Leads' w) (more w) onward)
    (houter : ∀ {a a' b b'}, R a a' → S (join a b) (join a' b'))
    (hinner : ∀ {a b b'}, R' b b' → S (join a b) (join a b')) :
    ∃ joined, ListsBy S (fun c x => ∃ a b w, c = join a b ∧ Leads a w ∧ Leads' w b x) (values.flatMap more) joined := by
  have hexists : ∀ w, ∃ onward, (∃ a, Leads a w) → ListsBy R' (Leads' w) (more w) onward := by
    intro w
    by_cases hw : ∃ a, Leads a w
    · obtain ⟨a, ha⟩ := hw
      obtain ⟨onward, honward⟩ := hmore a w ha
      exact ⟨onward, fun _ => honward⟩
    · exact ⟨[], fun hw' => absurd hw' hw⟩
  choose onward honward using hexists
  have hway : ∀ way ∈ ways, Leads way.1 way.2 := fun way hmem => (h.leads way.1 way.2).mp hmem
  have hnext : ∀ way ∈ ways, ListsBy R' (Leads' way.2) (more way.2) (onward way.2) :=
    fun way hmem => honward way.2 ⟨way.1, hway way hmem⟩
  refine ⟨ways.flatMap fun way => (onward way.2).map fun next => (join way.1 next.1, next.2), ?_, ?_, ?_⟩
  · rw [← h.listed, List.map_flatMap, List.flatMap_map]
    refine List.flatMap_congr fun way hmem => ?_
    rw [← (hnext way hmem).listed, List.map_map]
    rfl
  · refine List.pairwise_flatMap.mpr ⟨fun way hmem => ?_, h.ordered.imp fun hway x hx y hy => ?_⟩
    · exact List.pairwise_map.mpr ((hnext way hmem).ordered.imp hinner)
    · obtain ⟨next, -, rfl⟩ := List.mem_map.mp hx
      obtain ⟨next', -, rfl⟩ := List.mem_map.mp hy
      exact houter hway
  · intro c x
    simp only [List.mem_flatMap, List.mem_map, Prod.mk.injEq]
    constructor
    · rintro ⟨way, hmem, next, hn, rfl, rfl⟩
      exact ⟨way.1, next.1, way.2, rfl, hway way hmem, ((hnext way hmem).leads _ _).mp hn⟩
    · rintro ⟨a, b, w, rfl, ha, hb⟩
      have hmem : (a, w) ∈ ways := (h.leads a w).mpr ha
      exact ⟨(a, w), hmem, (b, x), ((hnext _ hmem).leads b x).mpr hb, rfl, rfl⟩

end ListsBy

end Lists

/-! ### The order of locations -/

/-- Members come by their names, elements by their positions. -/
def Key.Precedes : Key → Key → Prop
  | .member name, .member name' => name < name'
  | .element p, .element q => p < q
  | _, _ => False

theorem Key.Precedes.irrefl (k : Key) : ¬k.Precedes k := by
  cases k with
  | member name => exact String.lt_irrefl name
  | element p => exact Nat.lt_irrefl p

/-- The order of a document: a value comes before what is below it, and what is below a key before what is below later
ones. -/
abbrev Location.Before : Location → Location → Prop := List.Lex Key.Precedes

theorem Location.Before.irrefl (l : Location) : ¬l.Before l := List.lex_irrefl Key.Precedes.irrefl l

/-- The order of a descent: it goes by the values that it looks into, and in each of them by the keys. -/
inductive Location.LooksBefore : Location → Location → Prop where
  | above {l m : Location} {j k : Key} : l.Before m → LooksBefore (l ++ [j]) (m ++ [k])
  | beside {l : Location} {j k : Key} : j.Precedes k → LooksBefore (l ++ [j]) (l ++ [k])

theorem Location.LooksBefore.irrefl (l : Location) : ¬l.LooksBefore l := by
  -- Both sides of a pair are looked at by their last keys, so that they may be told apart.
  suffices h : ∀ m : Location, l.LooksBefore m → l ≠ m from fun hl => h l hl rfl
  rintro _ (⟨h⟩ | ⟨h⟩) heq
  · rw [(List.append_inj' heq rfl).1] at h
    exact Before.irrefl _ h
  · rw [(List.cons.inj (List.append_inj' heq rfl).2).1] at h
    exact Key.Precedes.irrefl _ h

/-- The order in which a segment comes to locations. -/
def Segment.Visits : Segment → Location → Location → Prop
  | .descendant _ | .anyDescendant => Location.LooksBefore
  | _ => Location.Before

/-- The order in which a path comes to locations, each cut into pieces for its segments. -/
inductive Path.Visits : Path → List Location → List Location → Prop where
  | first {s : Segment} {path : Path} {piece piece' : Location} {pieces pieces' : List Location} :
    s.Visits piece piece' → Visits (s :: path) (piece :: pieces) (piece' :: pieces')
  | later {s : Segment} {path : Path} {piece : Location} {pieces pieces' : List Location} :
    Visits path pieces pieces' → Visits (s :: path) (piece :: pieces) (piece :: pieces')

theorem Segment.visits_irrefl (s : Segment) (l : Location) : ¬s.Visits l l := by
  cases s with
  | descendant | anyDescendant => exact Location.LooksBefore.irrefl l
  | _ => exact Location.Before.irrefl l

theorem Path.visits_irrefl (path : Path) (pieces : List Location) : ¬path.Visits pieces pieces := by
  induction path generalizing pieces with
  | nil => exact nofun
  | cons s path ih =>
    rintro (h | h)
    · exact s.visits_irrefl _ h
    · exact ih _ h

/-! ### Below a value -/

namespace Value

theorem Canonical.child? {v w : Value} {k : Key} (hv : v.Canonical) (h : v.child? k = some w) : w.Canonical := by
  cases v with
  | array xs =>
    cases k with
    | member name => cases h
    | element p => exact canonicalItems_iff.mp hv w (List.mem_of_getElem? h)
  | object ms =>
    cases k with
    | member name => exact canonicalMembers_iff.mp hv.2 _ (hv.1.get?_eq_some_iff.mp h)
    | element p => cases h
  | _ => cases k <;> cases h

theorem Canonical.at? {v w : Value} {l : Location} (hv : v.Canonical) (h : v.at? l = some w) : w.Canonical := by
  induction l generalizing v with
  | nil =>
    cases h
    exact hv
  | cons k l ih =>
    obtain ⟨u, hu, hw⟩ := Option.bind_eq_some_iff.mp h
    exact ih (hv.child? hu) hw

/-- The children of a value lie one step below it. -/
theorem exists_lists_children {v : Value} (hv : v.Canonical) :
    ∃ ways, ListsBy Key.Precedes (fun k w => v.child? k = some w) v.children ways := by
  cases v with
  | array xs =>
    refine ⟨xs.zipIdx.map fun x => (.element x.2, x.1), ?_, ?_, ?_⟩
    · simp [children, Function.comp_def]
    · have hpositions : (xs.zipIdx.map Prod.snd).Pairwise (· < ·) := by
        rw [List.zipIdx_map_snd]
        exact List.pairwise_lt_range' 1
      exact List.pairwise_map.mpr ((List.pairwise_map.mp hpositions).imp fun {x y} hxy => hxy)
    · rintro (name | p) w
      · simp [Value.child?]
      · simp [Value.child?, List.mem_zipIdx_iff_getElem?]
  | object ms =>
    refine ⟨ms.map fun m => (.member m.1, m.2), ?_, ?_, ?_⟩
    · simp [children, Function.comp_def]
    · have hnames : (ms.map Prod.fst).Pairwise (· < ·) := hv.1
      exact List.pairwise_map.mpr ((List.pairwise_map.mp hnames).imp fun {x y} hxy => hxy)
    · rintro (name | p) w
      · simp [Value.child?, hv.1.get?_eq_some_iff]
      · simp [Value.child?]
  | _ => exact ⟨[], rfl, .nil, fun k w => by cases k <;> simp [Value.child?]⟩

theorem descendantsOfItems_eq (xs : List Value) : descendantsOfItems xs = xs.flatMap descendants := by
  induction xs with
  | nil => rfl
  | cons x xs ih => rw [descendantsOfItems, ih, List.flatMap_cons]

theorem descendantsOfMembers_eq (ms : Members) : descendantsOfMembers ms = (ms.map Prod.snd).flatMap descendants := by
  induction ms with
  | nil => rfl
  | cons m ms ih => rw [descendantsOfMembers, ih, List.map_cons, List.flatMap_cons]

theorem descendants_eq (v : Value) : v.descendants = v :: v.children.flatMap descendants := by
  cases v with
  | array xs => rw [descendants, descendantsOfItems_eq]; rfl
  | object ms => rw [descendants, descendantsOfMembers_eq]; rfl
  | _ => rfl

theorem sizeOf_child {v w : Value} {k : Key} (hv : v.Canonical) (h : v.child? k = some w) : sizeOf w < sizeOf v := by
  cases v with
  | array xs =>
    cases k with
    | member name => cases h
    | element p =>
      have := List.sizeOf_lt_of_mem (List.mem_of_getElem? h)
      simp
      omega
  | object ms =>
    cases k with
    | member name =>
      have := List.sizeOf_lt_of_mem (hv.1.get?_eq_some_iff.mp h)
      simp at this ⊢
      omega
    | element p => cases h
  | _ => cases k <;> cases h

/-- A value and what is below it lie at all the locations that there are, in the order of the document. -/
theorem exists_lists_descendants {v : Value} (hv : v.Canonical) :
    ∃ ways, ListsBy Location.Before (fun l w => v.at? l = some w) v.descendants ways := by
  induction hsize : sizeOf v using Nat.strongRecOn generalizing v with
  | ind size ih =>
    obtain ⟨keys, hkeys⟩ := exists_lists_children hv
    have hbelow : ∀ k w, v.child? k = some w →
        ∃ ways, ListsBy Location.Before (fun l x => w.at? l = some x) w.descendants ways :=
      fun k w hw => ih _ (hsize ▸ sizeOf_child hv hw) (hv.child? hw) rfl
    obtain ⟨below, h⟩ := hkeys.flatMap (S := Location.Before) List.cons hbelow .rel .cons
    refine ⟨([], v) :: below, ?_, ?_, ?_⟩
    · rw [List.map_cons, h.listed, descendants_eq]
    · refine List.pairwise_cons.mpr ⟨fun way hway => ?_, h.ordered⟩
      obtain ⟨k, l, w, hl, -⟩ := (h.leads way.1 way.2).mp hway
      rw [hl]
      exact .nil
    · intro l w
      rw [List.mem_cons, h.leads]
      cases l with
      | nil => simp [Prod.ext_iff, eq_comm (a := w)]
      | cons k l => simp [at?_cons, Option.bind_eq_some_iff]

end Value

/-! ### Segments and paths -/

/-- The member of a name lies one step below an object. -/
theorem Value.lists_member (v : Value) (name : String) :
    ListsBy Key.Precedes (fun k w => k = .member name ∧ v.child? k = some w) (v.get? name).toList
      ((v.get? name).toList.map (.member name, ·)) := by
  have hchild : v.child? (.member name) = v.get? name := by cases v <;> rfl
  refine (ListsBy.ofOption _ (Key.member name) (v.get? name)).congr fun k w => and_congr_right ?_
  rintro rfl
  rw [hchild]

/-- The element of a position lies one step below an array, if the position is one of the array. -/
theorem Value.exists_lists_element (v : Value) (i : Int) :
    ∃ ways, ListsBy Location.Before (fun l w => (Segment.index i).Matches v l ∧ v.at? l = some w)
      (v.element? i).toList ways := by
  cases v with
  | array xs =>
    simp only [element?]
    generalize hp : (if i < 0 then (xs.length : Int) + i else i) = p
    by_cases hnonneg : 0 ≤ p
    · rw [if_pos hnonneg]
      refine ⟨_, (ListsBy.ofOption _ [Key.element p.toNat] xs[p.toNat]?).congr fun l w => ?_⟩
      constructor
      · rintro ⟨rfl, hw⟩
        exact ⟨⟨xs, p.toNat, rfl, rfl, by rw [hp]; omega⟩, (at?_singleton _ _).trans hw⟩
      · rintro ⟨⟨_, q, hxs, rfl, hq⟩, hw⟩
        cases hxs
        rw [hp] at hq
        rw [at?_singleton] at hw
        obtain rfl : q = p.toNat := by omega
        exact ⟨rfl, hw⟩
    · rw [if_neg hnonneg]
      refine ⟨[], rfl, .nil, fun l w => ⟨nofun, ?_⟩⟩
      rintro ⟨⟨_, q, hxs, -, hq⟩, -⟩
      cases hxs
      omega
  | _ => exact ⟨[], rfl, .nil, fun l w => ⟨nofun, fun h => by obtain ⟨⟨_, _, hxs, -⟩, -⟩ := h; cases hxs⟩⟩

/-- What lies one step below anything that lies somewhere below a value. -/
theorem Value.exists_lists_below {v : Value} (hv : v.Canonical) (IsNext : Key → Prop) {more : Value → List Value}
    (hmore : ∀ {w : Value}, w.Canonical →
      ∃ ways, ListsBy Key.Precedes (fun k x => IsNext k ∧ w.child? k = some x) (more w) ways) :
    ∃ ways, ListsBy Location.LooksBefore (fun l x => (∃ above k, l = above ++ [k] ∧ IsNext k) ∧ v.at? l = some x)
      (v.descendants.flatMap more) ways := by
  obtain ⟨all, hall⟩ := exists_lists_descendants hv
  obtain ⟨ways, h⟩ := hall.flatMap (fun above k => above ++ [k]) (fun _ _ hw => hmore (hv.at? hw))
    Location.LooksBefore.above .beside
  refine ⟨ways, h.congr fun l x => ?_⟩
  constructor
  · rintro ⟨above, k, w, rfl, hw, hk, hx⟩
    refine ⟨⟨above, k, rfl, hk⟩, ?_⟩
    rw [at?_append, hw, Option.bind_some, at?_singleton, hx]
  · rintro ⟨⟨above, k, rfl, hk⟩, hx⟩
    rw [at?_append] at hx
    obtain ⟨w, hw, hx⟩ := Option.bind_eq_some_iff.mp hx
    exact ⟨above, k, w, rfl, hw, hk, (at?_singleton k w).symm.trans hx⟩

/-- A segment steps to what lies where it matches. -/
theorem Segment.exists_lists_step {v : Value} (hv : v.Canonical) (s : Segment) :
    ∃ ways, ListsBy s.Visits (fun l w => s.Matches v l ∧ v.at? l = some w) (s.step v) ways := by
  cases s with
  | member name =>
    refine ⟨_, ((v.lists_member name).rename (f := fun k => [k]) fun _ _ => .rel).congr fun l w => ?_⟩
    constructor
    · rintro ⟨_, rfl, rfl, hw⟩
      exact ⟨rfl, (Value.at?_singleton _ v).trans hw⟩
    · rintro ⟨rfl, hw⟩
      exact ⟨_, rfl, rfl, (Value.at?_singleton _ v).symm.trans hw⟩
  | index i => exact v.exists_lists_element i
  | wildcard =>
    obtain ⟨ways, h⟩ := Value.exists_lists_children hv
    refine ⟨_, (h.rename (f := fun k => [k]) fun _ _ => .rel).congr fun l w => ?_⟩
    constructor
    · rintro ⟨k, rfl, hw⟩
      exact ⟨⟨k, rfl⟩, (Value.at?_singleton k v).trans hw⟩
    · rintro ⟨⟨k, rfl⟩, hw⟩
      exact ⟨k, rfl, (Value.at?_singleton k v).symm.trans hw⟩
  | descendant name =>
    obtain ⟨ways, h⟩ := Value.exists_lists_below hv (· = .member name) fun {w} _ => ⟨_, w.lists_member name⟩
    rw [step, List.filterMap_eq_flatMap_toList]
    refine ⟨ways, h.congr fun l w => ?_⟩
    simp [Matches]
  | anyDescendant =>
    obtain ⟨ways, h⟩ := Value.exists_lists_below hv (fun _ => True) fun hw => by
      simpa using Value.exists_lists_children hw
    refine ⟨ways, h.congr fun l w => ?_⟩
    simp [Matches]

theorem Path.select_cons (s : Segment) (path : Path) (v : Value) :
    Path.select (s :: path) v = (s.step v).flatMap path.select := by
  have hfold : ∀ (path : Path) (nodes : List Value),
      path.foldl (fun nodes s => nodes.flatMap fun v => s.step v) nodes = nodes.flatMap path.select := by
    intro path
    induction path with
    | nil => exact fun nodes => (List.flatMap_singleton' nodes).symm
    | cons s path ih =>
      intro nodes
      rw [List.foldl_cons, ih, List.flatMap_assoc]
      refine List.flatMap_congr fun v _ => ?_
      rw [Path.select, List.foldl_cons, ih, List.flatMap_singleton]
  rw [Path.select, List.foldl_cons, hfold, List.flatMap_singleton]

/-- A path selects what lies at the end of the ways that it splits into pieces, in the order in which it comes there. -/
theorem Path.exists_listsBy_select {v : Value} (hv : v.Canonical) (path : Path) :
    ∃ ways, ListsBy path.Visits (fun pieces w => path.Splits v pieces ∧ v.at? pieces.flatten = some w)
      (path.select v) ways := by
  induction path generalizing v with
  | nil =>
    refine ⟨[([], v)], rfl, List.pairwise_singleton _ _, fun pieces w => ?_⟩
    rw [List.mem_singleton, Prod.mk.injEq]
    constructor
    · rintro ⟨rfl, rfl⟩
      exact ⟨.nil _, rfl⟩
    · rintro ⟨hsplits, hw⟩
      cases hsplits
      exact ⟨rfl, (Option.some.inj hw).symm⟩
  | cons s path ih =>
    rw [select_cons]
    obtain ⟨first, hfirst⟩ := s.exists_lists_step hv
    obtain ⟨ways, h⟩ := hfirst.flatMap List.cons (fun _ _ hw => ih (hv.at? hw.2)) Path.Visits.first .later
    refine ⟨ways, h.congr fun pieces w => ?_⟩
    constructor
    · rintro ⟨piece, rest, u, rfl, ⟨hmatch, hu⟩, hsplits, hw⟩
      refine ⟨.cons hmatch hu hsplits, ?_⟩
      rw [List.flatten_cons, Value.at?_append, hu, Option.bind_some, hw]
    · rintro ⟨hsplits, hw⟩
      cases hsplits with
      | cons hmatch hu hsplits =>
        rw [List.flatten_cons, Value.at?_append, hu, Option.bind_some] at hw
        exact ⟨_, _, _, rfl, ⟨hmatch, hu⟩, hsplits, hw⟩

theorem Path.exists_lists_select {v : Value} (hv : v.Canonical) (path : Path) :
    ∃ ways, Lists (fun pieces w => path.Splits v pieces ∧ v.at? pieces.flatten = some w) (path.select v) ways := by
  obtain ⟨ways, h⟩ := path.exists_listsBy_select hv
  exact ⟨ways, h.lists path.visits_irrefl⟩

/-- A path that can be read selects one value for each way to split a location into pieces that its segments match, the
value at that location. -/
theorem selected_values_lie_at_locations {text : String} {path : Path} {root : Value}
    (hpath : Path.ofText? text = .ok path) (hroot : root.Canonical) :
    ∃ found ways, root.selectText text = .ok found ∧
      Lists (fun pieces w => path.Splits root pieces ∧ root.at? pieces.flatten = some w) found ways := by
  obtain ⟨ways, h⟩ := path.exists_lists_select hroot
  refine ⟨path.select root, ways, ?_, h⟩
  rw [Value.selectText, hpath]

/-- The last items of lists named `a`, of which one is in the other. -/
theorem last_items_lie_at_locations :
    ∃ root found, Path.ofText? "$..a[-1]" = .ok [.descendant "a", .index (-1)] ∧ root.Canonical ∧
      root.selectText "$..a[-1]" = .ok found ∧ found.length = 2 ∧
      ∃ ways, Lists (fun pieces w => Path.Splits [.descendant "a", .index (-1)] root pieces ∧
        root.at? pieces.flatten = some w) found ways := by
  have hpath : Path.ofText? "$..a[-1]" = .ok [.descendant "a", .index (-1)] := by cbv
  have hroot : (Value.object [("a", .array [.null, .object [("a", .array [.bool true])]])]).Canonical := by
    simp [Value.Canonical, Value.CanonicalItems, Value.CanonicalMembers, Dict.Sorted, Dict.keys]
  obtain ⟨found, ways, hfound, h⟩ := selected_values_lie_at_locations hpath hroot
  refine ⟨_, found, hpath, hroot, hfound, ?_, ways, h⟩
  rw [Value.selectText, hpath] at hfound
  cases hfound
  rfl

end Casebook.Json
