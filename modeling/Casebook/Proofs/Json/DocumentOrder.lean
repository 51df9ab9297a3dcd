import Casebook.Assertion.Report
import Casebook.Proofs.Json.OrderedPaths

/-! The order of what a path selects.  A descent comes to what is one step below a value before it looks deeper, so for
most paths that descend there are documents whose matches come in another order than in the document, and for all that
descend twice documents whose matches come more than once. -/
namespace Casebook.Json

variable {v w root : Value} {s : Segment} {path : Path}

/-! ### Documents with two values -/

theorem Value.canonical_null : Value.null.Canonical := trivial

theorem Value.canonical_bool (b : Bool) : (Value.bool b).Canonical := trivial

namespace Segment

/-- What a segment does where it lands, without its descent. -/
def landing : Segment → Segment
  | .descendant name => .member name
  | .anyDescendant => .wildcard
  | s => s

/-- The first key of a value that the segment can go into. -/
def firstKey : Segment → Key
  | .index _ => .element 0
  | _ => .member ""

/-- A name that the segment can go to. -/
def name : Segment → String
  | .member name | .descendant name => name
  | _ => "*"

/-- A position that an index has in an array that is longer by one than it counts. -/
def position (i : Int) : Nat := if i < 0 then 1 else i.natAbs

/-- A key that the segment can go to, behind the first one if it goes there at all. -/
def key : Segment → Key
  | .index i => .element (position i)
  | s => .member s.name

/-- A document with one value at the first key and another at the key of the segment, which wins if both are one. -/
def fork (first value : Value) : Segment → Value
  | .index i => .array ((first :: List.replicate i.natAbs .null).set (position i) value)
  | s => .object (Dict.insert s.name value [("", first)])

abbrev wrap (value : Value) (s : Segment) : Value := s.fork .null value

theorem position_lt (i : Int) : position i < i.natAbs + 1 := by
  rw [position]
  split <;> omega

theorem child?_fork_key (first value : Value) (s : Segment) : (s.fork first value).child? s.key = some value := by
  cases s with
  | index i => exact List.getElem?_set_self (by simpa using position_lt i)
  | _ => exact Dict.get?_insert_self ..

theorem child?_fork_firstKey (first value : Value) (hs : s.firstKey ≠ s.key) :
    (s.fork first value).child? s.firstKey = some first := by
  cases s with
  | index i => exact List.getElem?_set_ne fun h => hs (congrArg Key.element h.symm)
  | _ => exact Dict.get?_insert_of_ne (fun h => hs (congrArg Key.member h)) ..

theorem sorted_singleton (m : String × Value) : Dict.Sorted [m] := List.pairwise_singleton _ _

theorem child?_fork {first value : Value} {k : Key} (h : (s.fork first value).child? k = some w) :
    k = s.key ∧ w = value ∨ k = s.firstKey ∧ w = first ∨ w = .null := by
  have hobject : ∀ {name : String} {k : Key}, (Value.object (Dict.insert name value [("", first)])).child? k = some w →
      k = .member name ∧ w = value ∨ k = .member "" ∧ w = first ∨ w = .null := by
    intro name k h
    cases k with
    | member other =>
      rw [Value.child?] at h
      rcases eq_or_ne other name with rfl | hother
      · rw [Dict.get?_insert_self] at h
        exact .inl ⟨rfl, (Option.some.inj h).symm⟩
      · rw [Dict.get?_insert_of_ne hother, (sorted_singleton _).get?_eq_some_iff, List.mem_singleton,
          Prod.mk.injEq] at h
        exact .inr (.inl ⟨congrArg Key.member h.1, h.2⟩)
    | element p => cases h
  cases s with
  | index i =>
    cases k with
    | member name => cases h
    | element p =>
      rw [fork, Value.child?] at h
      rcases eq_or_ne (position i) p with rfl | hp
      · rw [List.getElem?_set_self (by simpa using position_lt i)] at h
        exact .inl ⟨rfl, (Option.some.inj h).symm⟩
      · rw [List.getElem?_set_ne hp] at h
        cases p with
        | zero => exact .inr (.inl ⟨rfl, (Option.some.inj h).symm⟩)
        | succ p => exact .inr (.inr (List.eq_of_mem_replicate (List.mem_of_getElem? h)))
  | _ => exact hobject h

theorem canonical_fork {first value : Value} (hfirst : first.Canonical) (hvalue : value.Canonical) (s : Segment) :
    (s.fork first value).Canonical := by
  have hobject : ∀ name, (Value.object (Dict.insert name value [("", first)])).Canonical := by
    intro name
    refine ⟨(sorted_singleton _).insert .., Value.canonicalMembers_iff.mpr fun m hm => ?_⟩
    rcases Dict.mem_of_mem_insert hm with rfl | hm
    · exact hvalue
    · rwa [List.mem_singleton.mp hm]
  cases s with
  | index i =>
    refine Value.canonicalItems_iff.mpr fun x hx => ?_
    rcases List.mem_or_eq_of_mem_set hx with hx | rfl
    · rcases List.mem_cons.mp hx with rfl | hx
      · exact hfirst
      · rw [List.eq_of_mem_replicate hx]
        exact Value.canonical_null
    · exact hvalue
  | _ => exact hobject _

theorem mem_landing_fork (first value : Value) (s : Segment) : value ∈ s.landing.step (s.fork first value) := by
  cases s with
  | member name | descendant name => exact Option.mem_toList.mpr (Dict.get?_insert_self ..)
  | index i =>
    have hposition : (if i < 0 then ((i.natAbs + 1 : Nat) : Int) + i else i) = position i := by
      rw [position]
      split <;> omega
    refine Option.mem_toList.mpr ?_
    rw [fork, Value.element?, List.length_set, List.length_cons, List.length_replicate, hposition]
    exact (if_pos (Int.natCast_nonneg _)).trans (child?_fork_key first value (.index i))
  | wildcard | anyDescendant =>
    have h := ((sorted_singleton ("", first)).insert "*" value).get?_eq_some_iff.mp (Dict.get?_insert_self ..)
    exact List.mem_map_of_mem h

theorem mem_step_of_landing (h : w ∈ s.landing.step v) : w ∈ s.step v := by
  have hself : v ∈ v.descendants := by
    rw [Value.descendants_eq]
    exact List.mem_cons_self
  cases s with
  | descendant name => exact List.mem_filterMap.mpr ⟨v, hself, Option.mem_toList.mp h⟩
  | anyDescendant => exact List.mem_flatMap.mpr ⟨v, hself, h⟩
  | _ => exact h

theorem mem_step_wrap (value : Value) (s : Segment) : value ∈ s.step (s.wrap value) :=
  mem_step_of_landing (mem_landing_fork .null value s)

theorem step_descent (hs : s.isDescent = true) (v : Value) : s.step v = v.descendants.flatMap s.landing.step := by
  cases s with
  | descendant name => exact List.filterMap_eq_flatMap_toList ..
  | anyDescendant => rfl
  | _ => cases hs

end Segment

theorem pair_sublist_flatMap {values : List Value} {f : Value → List Value} {x y : Value} (h : [v, w].Sublist values)
    (hx : x ∈ f v) (hy : y ∈ f w) : [x, y].Sublist (values.flatMap f) := by
  refine List.Sublist.trans ?_ (h.flatMap f)
  rw [List.flatMap_cons, List.flatMap_singleton]
  exact (List.singleton_sublist.mpr hx).append (List.singleton_sublist.mpr hy)

/-- A descent comes to what is one step below a value before it comes to what is one step below a deeper one. -/
theorem Segment.pair_sublist_step (hs : s.isDescent = true) (hv : v.Canonical) {k : Key} {l : Location}
    (h : v.at? (k :: l) = some w) {x y : Value} (hx : x ∈ s.landing.step v) (hy : y ∈ s.landing.step w) :
    [x, y].Sublist (s.step v) := by
  obtain ⟨u, hu, hw⟩ := Option.bind_eq_some_iff.mp h
  obtain ⟨children, hchildren⟩ := Value.exists_lists_children hv
  obtain ⟨below, hbelow⟩ := Value.exists_lists_descendants (hv.child? hu)
  rw [step_descent hs, Value.descendants_eq]
  refine pair_sublist_flatMap (List.Sublist.cons_cons v (List.singleton_sublist.mpr ?_)) hx hy
  exact List.mem_flatMap.mpr ⟨u, hchildren.mem hu, hbelow.mem hw⟩

theorem Path.pair_sublist_select {x y : Value} (h : [v, w].Sublist (s.step root)) (hx : x ∈ path.select v)
    (hy : y ∈ path.select w) : [x, y].Sublist (select (s :: path) root) := by
  rw [select_cons]
  exact pair_sublist_flatMap h hx hy

theorem Path.mem_select_append {path' : Path} (hw : w ∈ path.select v) {x : Value} (hx : x ∈ path'.select w) :
    x ∈ select (path ++ path') v := by
  induction path generalizing v with
  | nil =>
    rwa [← List.mem_singleton.mp hw]
  | cons s path ih =>
    rw [select_cons, List.mem_flatMap] at hw
    obtain ⟨u, hu, hw⟩ := hw
    rw [List.cons_append, select_cons, List.mem_flatMap]
    exact ⟨u, hu, ih hw⟩

/-! ### Flags in a document -/

/-- A document with one value where a path can go to. -/
def Path.wrap (value : Value) (path : Path) : Value := path.foldr (fun s v => s.wrap v) value

theorem Path.mem_select_wrap (value : Value) (path : Path) : value ∈ path.select (path.wrap value) := by
  induction path with
  | nil => exact List.mem_singleton_self value
  | cons s path ih =>
    rw [select_cons, List.mem_flatMap]
    exact ⟨wrap value path, s.mem_step_wrap _, ih⟩

theorem Path.canonical_wrap {value : Value} (hvalue : value.Canonical) (path : Path) : (path.wrap value).Canonical := by
  induction path with
  | nil => exact hvalue
  | cons s path ih => exact s.canonical_fork Value.canonical_null ih

theorem Path.at?_wrap (value : Value) (path : Path) : (path.wrap value).at? (path.map Segment.key) = some value := by
  induction path with
  | nil => rfl
  | cons s path ih =>
    rw [List.map_cons, Value.at?_cons]
    exact Option.bind_eq_some_iff.mpr ⟨_, s.child?_fork_key _ _, ih⟩

/-- A flag lies at one location at most. -/
def Value.Flags (v : Value) (b : Bool) (l : Location) : Prop := ∀ m, v.at? m = some (.bool b) → m = l

/-- A flag lies nowhere. -/
def Value.Lacks (v : Value) (b : Bool) : Prop := ∀ m, v.at? m ≠ some (.bool b)

namespace Segment

variable {first value : Value} {b : Bool} {l : Location}

theorem at?_fork (h : (s.fork first value).at? l = some (.bool b)) :
    (∃ m, l = s.key :: m ∧ value.at? m = some (.bool b)) ∨
      ∃ m, l = s.firstKey :: m ∧ first.at? m = some (.bool b) := by
  cases l with
  | nil => cases s <;> cases h
  | cons k l =>
    obtain ⟨u, hu, hbool⟩ := Option.bind_eq_some_iff.mp h
    rcases child?_fork hu with ⟨rfl, rfl⟩ | ⟨rfl, rfl⟩ | rfl
    · exact .inl ⟨l, rfl, hbool⟩
    · exact .inr ⟨l, rfl, hbool⟩
    · cases l with
      | nil => cases hbool
      | cons k l => cases k <;> cases hbool

theorem flags_fork (hfirst : first.Lacks b) (hvalue : value.Flags b l) : (s.fork first value).Flags b (s.key :: l) := by
  intro m hm
  rcases at?_fork hm with ⟨m, rfl, hlies⟩ | ⟨m, rfl, hlies⟩
  · rw [hvalue m hlies]
  · exact absurd hlies (hfirst m)

theorem flags_fork_first (hfirst : first.Flags b l) (hvalue : value.Lacks b) :
    (s.fork first value).Flags b (s.firstKey :: l) := by
  intro m hm
  rcases at?_fork hm with ⟨m, rfl, hlies⟩ | ⟨m, rfl, hlies⟩
  · exact absurd hlies (hvalue m)
  · rw [hfirst m hlies]

theorem lacks_fork (hfirst : first.Lacks b) (hvalue : value.Lacks b) : (s.fork first value).Lacks b := by
  intro m hm
  rcases at?_fork hm with ⟨m, rfl, hlies⟩ | ⟨m, rfl, hlies⟩
  · exact hvalue m hlies
  · exact hfirst m hlies

end Segment

theorem Value.lacks_null (b : Bool) : Value.null.Lacks b := by
  rintro (_ | ⟨k, m⟩) hm
  · cases hm
  · cases k <;> cases hm

theorem Value.flags_bool (b : Bool) : (Value.bool b).Flags b [] := by
  rintro (_ | ⟨k, m⟩) hm
  · rfl
  · cases k <;> cases hm

theorem Value.lacks_bool {b c : Bool} (h : b ≠ c) : (Value.bool b).Lacks c := by
  rintro (_ | ⟨k, m⟩) hm
  · cases hm
    exact h rfl
  · cases k <;> cases hm

theorem Path.flags_wrap {value : Value} {b : Bool} {l : Location} (h : value.Flags b l) (path : Path) :
    (path.wrap value).Flags b (path.map Segment.key ++ l) := by
  induction path with
  | nil => exact h
  | cons s path ih => exact Segment.flags_fork (Value.lacks_null b) ih

theorem Path.lacks_wrap {value : Value} {b : Bool} (h : value.Lacks b) (path : Path) : (path.wrap value).Lacks b := by
  induction path with
  | nil => exact h
  | cons s path ih => exact Segment.lacks_fork (Value.lacks_null b) ih

/-- A path comes to a flag at one location and then to a flag at a location that should not follow. -/
def Path.Misplaces (R : Location → Location → Prop) (path : Path) (root : Value) : Prop :=
  ∃ b c l m, [.bool b, .bool c].Sublist (path.select root) ∧ root.Flags b l ∧ root.Flags c m ∧ ¬R l m

variable {R : Location → Location → Prop}

theorem Path.Misplaces.not_locates (h : path.Misplaces R root) : ¬path.Locates R root (path.select root) := by
  rintro ⟨locations, hvalues, hordered, -⟩
  obtain ⟨b, c, l, m, hsublist, hl, hm, hmisplaced⟩ := h
  -- The order of the values is that of the locations, and a flag tells at which of them it lies.
  have hpair := hsublist.map some
  rw [← hvalues] at hpair
  obtain ⟨pair, hpair, hmap⟩ := List.sublist_map_iff.mp hpair
  obtain ⟨x, rest, rfl, hx, hrest⟩ := List.map_eq_cons_iff.mp hmap.symm
  obtain ⟨y, rest, rfl, hy, hrest⟩ := List.map_eq_cons_iff.mp hrest
  rw [hl x hx, hm y hy] at hpair
  exact hmisplaced (List.rel_of_pairwise_cons (hordered.sublist hpair) List.mem_cons_self)

theorem Key.Precedes.not_before {j k : Key} (h : j.Precedes k) (l m : Location) :
    ¬Location.Before (k :: l) (j :: m) := by
  rintro (_ | hkeys | _)
  · cases j <;> cases k
    · exact String.lt_asymm h hkeys
    · exact h
    · exact h
    · exact Nat.lt_asymm h hkeys
  · exact Key.Precedes.irrefl _ h

theorem Location.Before.of_cons {k : Key} {l m : Location} (h : Location.Before (k :: l) (k :: m)) : l.Before m := by
  rcases h with _ | hkeys | hbefore
  · exact absurd hkeys (Key.Precedes.irrefl k)
  · exact hbefore

theorem Location.Before.of_append {x l m : Location} (h : Location.Before (x ++ l) (x ++ m)) : l.Before m := by
  induction x with
  | nil => exact h
  | cons k x ih => exact ih h.of_cons

theorem Segment.firstKey_isFirst (s : Segment) : s.firstKey.IsFirst := by
  cases s with
  | index i => exact .inr rfl
  | _ => exact .inl rfl

theorem Segment.firstKey_precedes_key (hs : s.firstKey ≠ s.key) : s.firstKey.Precedes s.key :=
  (s.firstKey_isFirst.eq_or_precedes (child?_fork_firstKey .null .null hs) (child?_fork_key .null .null s)).resolve_left
    hs.symm

theorem Segment.firstKey_ne_key (hs : s.isFirst = false) (hdescent : s ≠ .descendant "") : s.firstKey ≠ s.key := by
  cases s with
  | member name =>
    intro h
    obtain rfl : "" = name := Key.member.inj h
    cases hs
  | descendant name =>
    intro h
    obtain rfl : "" = name := Key.member.inj h
    exact hdescent rfl
  | index i =>
    intro h
    have hi : i = 0 := by
      have := Key.element.inj h
      rw [position] at this
      split at this <;> omega
    rw [hi] at hs
    cases hs
  | wildcard | anyDescendant => exact fun h => absurd (Key.member.inj h) (by decide)

namespace Path

/-- A descent comes to what lies under the first key after what it is asked for. -/
theorem exists_misplaces_descent (hs : s.isDescent = true) (hkey : s.firstKey ≠ s.key) (path : Path) :
    ∃ root : Value, root.Canonical ∧ Misplaces Location.Before (s :: path) root := by
  have hroot : (s.fork (wrap (.bool false) (s :: path)) (wrap (.bool true) path)).Canonical :=
    s.canonical_fork (canonical_wrap (Value.canonical_bool false) _) (canonical_wrap (Value.canonical_bool true) _)
  have hsteps : [wrap (.bool true) path, wrap (.bool false) path].Sublist
      (s.step (s.fork (wrap (.bool false) (s :: path)) (wrap (.bool true) path))) :=
    Segment.pair_sublist_step hs hroot (l := [])
      ((Value.at?_singleton _ _).trans (Segment.child?_fork_firstKey _ _ hkey))
      (s.mem_landing_fork _ _) (s.mem_landing_fork _ _)
  exact ⟨_, hroot, true, false, _, _, pair_sublist_select hsteps (path.mem_select_wrap _) (path.mem_select_wrap _),
    Segment.flags_fork (lacks_wrap (Value.lacks_bool (by decide)) _) (flags_wrap (Value.flags_bool true) path),
    Segment.flags_fork_first (flags_wrap (Value.flags_bool false) _) (lacks_wrap (Value.lacks_bool (by decide)) path),
    (Segment.firstKey_precedes_key hkey).not_before _ _⟩

/-- After a descent, what a path selects in a value comes before what it selects deeper in that value. -/
theorem pair_sublist_nested {d : Segment} {mins : Path} {inner x y : Value} {l : Location} (hd : d.isDescent = true)
    (hinner : inner.Canonical) (hx : x ∈ path.select inner)
    (hdeep : inner.at? l = some (wrap (path.wrap y) (d :: mins))) :
    [x, y].Sublist (select (d :: (mins ++ path)) (wrap inner (d :: mins))) := by
  have hlocation : (wrap inner (d :: mins)).at? (d.key :: (mins.map Segment.key ++ l)) =
      some (wrap (path.wrap y) (d :: mins)) := by
    rw [← List.cons_append, ← List.map_cons, Value.at?_append, at?_wrap, Option.bind_some, hdeep]
  exact pair_sublist_select
    (Segment.pair_sublist_step hd (canonical_wrap hinner _) hlocation (d.mem_landing_fork _ _) (d.mem_landing_fork _ _))
    (mem_select_append (mins.mem_select_wrap inner) hx)
    (mem_select_append (mins.mem_select_wrap (path.wrap y)) (path.mem_select_wrap y))

/-- After a descent, a step to another key than the first comes to what lies under the first key too late. -/
theorem exists_misplaces_step {d : Segment} (hd : d.isDescent = true) (hkey : s.firstKey ≠ s.key) (mins path : Path) :
    ∃ root : Value, root.Canonical ∧ Misplaces Location.Before (d :: (mins ++ s :: path)) root := by
  have hdeep : (wrap (wrap (.bool false) (s :: path)) (d :: mins)).Canonical :=
    canonical_wrap (canonical_wrap (Value.canonical_bool false) _) _
  have hinner := s.canonical_fork hdeep (canonical_wrap (Value.canonical_bool true) path)
  have hx : .bool true ∈ select (s :: path) (s.fork (wrap (wrap (.bool false) (s :: path)) (d :: mins))
      (wrap (.bool true) path)) := by
    rw [select_cons, List.mem_flatMap]
    exact ⟨_, Segment.mem_step_of_landing (s.mem_landing_fork _ _), path.mem_select_wrap _⟩
  refine ⟨_, canonical_wrap hinner (d :: mins), true, false, _, _,
    pair_sublist_nested hd hinner hx ((Value.at?_singleton _ _).trans (Segment.child?_fork_firstKey _ _ hkey)),
    flags_wrap (Segment.flags_fork (lacks_wrap (lacks_wrap (Value.lacks_bool (by decide)) _) _)
      (flags_wrap (Value.flags_bool true) path)) _,
    flags_wrap (Segment.flags_fork_first (flags_wrap (flags_wrap (Value.flags_bool false) _) _)
      (lacks_wrap (Value.lacks_bool (by decide)) path)) _,
    fun h => (Segment.firstKey_precedes_key hkey).not_before _ _ h.of_append⟩

/-- Two descents come to the same location from the two values above it. -/
theorem exists_misplaces_descents {d : Segment} (hR : ∀ l, ¬R l l) (hd : d.isDescent = true) (hs : s.isDescent = true)
    (mins path : Path) : ∃ root : Value, root.Canonical ∧ Misplaces R (d :: (mins ++ s :: path)) root := by
  have hinner : (wrap (wrap (.bool true) (s :: path)) (d :: mins)).Canonical :=
    canonical_wrap (canonical_wrap (Value.canonical_bool true) _) _
  have hx : .bool true ∈ select (s :: path) (wrap (wrap (.bool true) (s :: path)) (d :: mins)) := by
    obtain ⟨ways, h⟩ := Value.exists_lists_descendants hinner
    rw [select_cons, Segment.step_descent hs, List.mem_flatMap]
    exact ⟨_, List.mem_flatMap.mpr ⟨_, h.mem (at?_wrap _ _), s.mem_landing_fork _ _⟩, path.mem_select_wrap _⟩
  have hflags := flags_wrap (flags_wrap (flags_wrap (Value.flags_bool true) (s :: path)) (d :: mins)) (d :: mins)
  exact ⟨_, canonical_wrap hinner (d :: mins), true, true, _, _, pair_sublist_nested hd hinner hx (Value.at?_nil _),
    hflags, hflags, hR _⟩

/-- What a path misplaces is misplaced one step down as well. -/
theorem exists_misplaces_cons (hR : ∀ {k l m}, R (k :: l) (k :: m) → R l m) (s : Segment)
    (h : ∃ root : Value, root.Canonical ∧ path.Misplaces R root) :
    ∃ root : Value, root.Canonical ∧ Misplaces R (s :: path) root := by
  obtain ⟨root, hroot, b, c, l, m, hsublist, hl, hm, hmisplaced⟩ := h
  refine ⟨s.wrap root, s.canonical_fork Value.canonical_null hroot, b, c, _, _, hsublist.trans ?_,
    Segment.flags_fork (Value.lacks_null b) hl, Segment.flags_fork (Value.lacks_null c) hm, fun h => hmisplaced (hR h)⟩
  rw [select_cons, ← List.flatMap_singleton path.select]
  exact (List.singleton_sublist.mpr (s.mem_step_wrap root)).flatMap path.select

/-- A path that descends twice comes to a location of some document twice. -/
theorem exists_misplaces_of_descents (hpath : ¬path.countP Segment.isDescent ≤ 1) :
    ∃ root : Value, root.Canonical ∧ path.Misplaces (· ≠ ·) root := by
  induction path with
  | nil => exact absurd (Nat.zero_le 1) hpath
  | cons s path ih =>
    rw [List.countP_cons] at hpath
    cases hs : s.isDescent with
    | false =>
      rw [hs] at hpath
      exact exists_misplaces_cons (fun h heq => h (congrArg _ heq)) s (ih hpath)
    | true =>
      rw [if_pos hs] at hpath
      obtain ⟨t, ht, htd⟩ := List.countP_pos_iff.mp (show 0 < path.countP Segment.isDescent by omega)
      obtain ⟨mins, rest, rfl⟩ := List.append_of_mem ht
      exact exists_misplaces_descents (fun l h => h rfl) hs htd mins rest

/-- A path that is not orderly loses the order of some document. -/
theorem exists_misplaces_of_not_isOrderly (hpath : ¬path.isOrderly = true) :
    ∃ root : Value, root.Canonical ∧ path.Misplaces Location.Before root := by
  induction path with
  | nil => exact absurd rfl hpath
  | cons s path ih =>
    cases hs : s.isDescent with
    | false =>
      rw [isOrderly_cons hs] at hpath
      exact exists_misplaces_cons Location.Before.of_cons s (ih hpath)
    | true =>
      -- What is not first is either the name that the descent looks for or a later segment of the path.
      rw [isOrderly_descent hs, not_and] at hpath
      by_cases hempty : s = .descendant ""
      · have hlater := hpath hempty
        push Not at hlater
        obtain ⟨t, ht, hfirst⟩ := hlater
        obtain ⟨mins, rest, rfl⟩ := List.append_of_mem ht
        cases htd : t.isDescent with
        | true => exact exists_misplaces_descents Location.Before.irrefl hs htd mins rest
        | false =>
          refine exists_misplaces_step hs (Segment.firstKey_ne_key (by simpa using hfirst) ?_) mins rest
          rintro rfl
          cases htd
      · refine exists_misplaces_descent hs (Segment.firstKey_ne_key ?_ hempty) path
        cases s with
        | descendant | anyDescendant => rfl
        | _ => cases hs

theorem forall_locates_once_iff :
    (∀ root : Value, root.Canonical → path.Locates (· ≠ ·) root (path.select root)) ↔
      path.countP Segment.isDescent ≤ 1 := by
  constructor
  · intro h
    by_contra hpath
    obtain ⟨root, hroot, hmisplaces⟩ := exists_misplaces_of_descents hpath
    exact hmisplaces.not_locates (h root hroot)
  · exact fun hpath root hroot => locates_once hroot hpath

theorem forall_locates_in_order_iff :
    (∀ root : Value, root.Canonical → path.Locates Location.Before root (path.select root)) ↔
      path.isOrderly = true := by
  constructor
  · intro h
    by_contra hpath
    obtain ⟨root, hroot, hmisplaces⟩ := exists_misplaces_of_not_isOrderly hpath
    exact hmisplaces.not_locates (h root hroot)
  · exact fun hpath root hroot => locates_in_order hroot hpath

end Path

/-! ### The order of matches -/

/-- What a path in text form finds lies at the locations that the path splits, in the order in which it visits them.  It
comes to each location once in every document just if it descends once at most, and in the order of the document in
every document just if it is orderly; what a rule then looks at is the match that comes first in the document. -/
theorem matches_come_as_visited {text : String} {path : Path} (hpath : Path.ofText? text = .ok path) :
    (∀ root : Value, root.Canonical → ∃ found ways, root.selectText text = .ok found ∧
      ListsBy path.Visits (fun pieces w => path.Splits root pieces ∧ root.at? pieces.flatten = some w) found ways) ∧
    ((∀ root : Value, root.Canonical → ∃ found, root.selectText text = .ok found ∧ path.Locates (· ≠ ·) root found) ↔
      path.countP Segment.isDescent ≤ 1) ∧
    ((∀ root : Value, root.Canonical → ∃ found, root.selectText text = .ok found ∧
      path.Locates Location.Before root found) ↔ path.isOrderly = true) ∧
    (path.isOrderly = true → ∀ (response : ResponseView) (rule : AssertionRule) (doc : Value), rule.kind = .jsonPath →
      rule.expression = text → response.document? = some doc → doc.Canonical →
        ∃ actual, response.extract rule = .ok actual ∧ path.FindsFirst doc actual) := by
  have hselect : ∀ root : Value, root.selectText text = .ok (path.select root) := by
    intro root
    rw [Value.selectText, hpath]
  refine ⟨fun root hroot => ?_, ?_, ?_, ?_⟩
  · obtain ⟨ways, h⟩ := path.exists_listsBy_select hroot
    exact ⟨_, ways, hselect root, h⟩
  · simp [hselect, Path.forall_locates_once_iff]
  · simp [hselect, Path.forall_locates_in_order_iff]
  · intro horderly response rule doc hkind htext hdoc hcanonical
    refine ⟨(path.select doc).head?, ?_, (Path.locates_in_order hcanonical horderly).findsFirst⟩
    simp only [ResponseView.extract, hkind, hdoc, htext, hselect]
    rfl

/-- Two elements of a list, of which a rule looks at the first, and what a path comes to that descends twice. -/
theorem items_come_in_order_and_names_below_names_twice :
    ∃ items names : Path, Path.ofText? "$.a[*]" = .ok items ∧ Path.ofText? "$..a..b" = .ok names ∧
      (∀ root : Value, root.Canonical → ∃ found, root.selectText "$.a[*]" = .ok found ∧
        items.Locates Location.Before root found) ∧
      (∃ actual, ResponseView.extract ⟨200, [], .object [("a", .array [.bool true, .null])]⟩
        ⟨1, 1, .jsonPath, "$.a[*]", .notNull, .null, true⟩ = .ok actual ∧
          items.FindsFirst (.object [("a", .array [.bool true, .null])]) actual) ∧
      ¬∀ root : Value, root.Canonical → ∃ found, root.selectText "$..a..b" = .ok found ∧
        names.Locates (· ≠ ·) root found := by
  have hitems : Path.ofText? "$.a[*]" = .ok [.member "a", .wildcard] := by decide +kernel
  have hnames : Path.ofText? "$..a..b" = .ok [.descendant "a", .descendant "b"] := by decide +kernel
  have hdoc : (Value.object [("a", .array [.bool true, .null])]).Canonical := by
    simp [Value.Canonical, Value.CanonicalItems, Value.CanonicalMembers, Dict.Sorted, Dict.keys]
  obtain ⟨-, -, horder, hfirst⟩ := matches_come_as_visited hitems
  obtain ⟨-, honce, -, -⟩ := matches_come_as_visited hnames
  exact ⟨_, _, hitems, hnames, horder.mpr rfl, hfirst rfl _ _ _ rfl rfl rfl hdoc,
    fun h => absurd (honce.mp h) (by decide)⟩

theorem Value.at?_object {ms : Members} (hms : Dict.Sorted ms) {b : Bool} {l : Location}
    (h : (Value.object ms).at? l = some (.bool b)) :
    ∃ m ∈ ms, ∃ rest, l = .member m.1 :: rest ∧ m.2.at? rest = some (.bool b) := by
  rcases l with _ | ⟨k, rest⟩
  · cases h
  · obtain ⟨u, hu, hrest⟩ := Option.bind_eq_some_iff.mp h
    cases k with
    | member name => exact ⟨(name, u), hms.get?_eq_some_iff.mp hu, rest, rfl, hrest⟩
    | element p => cases hu

theorem Value.lacks_object {ms : Members} (hms : Dict.Sorted ms) {b : Bool} (h : ∀ m ∈ ms, m.2.Lacks b) :
    (Value.object ms).Lacks b := by
  intro l hl
  obtain ⟨m, hm, rest, -, hrest⟩ := at?_object hms hl
  exact h m hm rest hrest

theorem Value.flags_object {ms : Members} (hms : Dict.Sorted ms) {b : Bool} {name : String} {l : Location}
    (h : ∀ m ∈ ms, m.1 = name ∧ m.2.Flags b l ∨ m.2.Lacks b) : (Value.object ms).Flags b (.member name :: l) := by
  intro k hk
  obtain ⟨m, hm, rest, rfl, hrest⟩ := at?_object hms hk
  rcases h m hm with ⟨rfl, hflags⟩ | hlacks
  · rw [hflags rest hrest]
  · exact absurd hrest (hlacks rest)

/-- A member `z` of a member `a` comes after the `z` beside that `a`, although the document has it first, and a member
`b` below two members `a` comes twice. -/
theorem descents_leave_the_order :
    (∃ path root found, Path.ofText? "$..z" = .ok path ∧ root = .object [("a", .object [("z", .bool true)]),
      ("z", .bool false)] ∧ root.Canonical ∧ root.selectText "$..z" = .ok found ∧ found = [.bool false, .bool true] ∧
      ¬path.Locates Location.Before root found) ∧
    ∃ path root found, Path.ofText? "$..a..b" = .ok path ∧ root = .object [("a", .object [("a", .object [("b",
      .bool true)])])] ∧ root.Canonical ∧ root.selectText "$..a..b" = .ok found ∧ found = [.bool true, .bool true] ∧
      ¬path.Locates (· ≠ ·) root found := by
  have hsingle : ∀ m : String × Value, Dict.Sorted [m] := Segment.sorted_singleton
  constructor
  · have hpath : Path.ofText? "$..z" = .ok [.descendant "z"] := by decide +kernel
    have hkeys : Key.Precedes (.member "a") (.member "z") := show "a" < "z" by decide
    have hpair : Dict.Sorted [("a", Value.object [("z", .bool true)]), ("z", .bool false)] :=
      List.pairwise_pair.mpr hkeys
    have hbelow : (Value.object [("a", .object [("z", .bool true)]), ("z", .bool false)]).Flags true
        [.member "a", .member "z"] := by
      refine Value.flags_object hpair (List.forall_mem_cons.mpr ⟨.inl ⟨rfl, ?_⟩, ?_⟩)
      · exact Value.flags_object (hsingle _) (List.forall_mem_singleton.mpr (.inl ⟨rfl, Value.flags_bool true⟩))
      · exact List.forall_mem_singleton.mpr (.inr (Value.lacks_bool (by decide)))
    have hbeside : (Value.object [("a", .object [("z", .bool true)]), ("z", .bool false)]).Flags false
        [.member "z"] := by
      refine Value.flags_object hpair (List.forall_mem_cons.mpr ⟨.inr ?_, ?_⟩)
      · exact Value.lacks_object (hsingle _) (List.forall_mem_singleton.mpr (Value.lacks_bool (by decide)))
      · exact List.forall_mem_singleton.mpr (.inl ⟨rfl, Value.flags_bool false⟩)
    have hnot : ¬Location.Before [.member "z"] [.member "a", .member "z"] := hkeys.not_before _ _
    refine ⟨_, _, _, hpath, rfl, ?_, ?_, rfl, Path.Misplaces.not_locates ⟨_, _, _, _, .refl _, hbeside, hbelow, hnot⟩⟩
    · simp [Value.Canonical, Value.CanonicalMembers, hpair, hsingle]
    · rw [Value.selectText, hpath]
      rfl
  · have hpath : Path.ofText? "$..a..b" = .ok [.descendant "a", .descendant "b"] := by decide +kernel
    have hflags : (Value.object [("a", .object [("a", .object [("b", .bool true)])])]).Flags true
        [.member "a", .member "a", .member "b"] :=
      Value.flags_object (hsingle _) (List.forall_mem_singleton.mpr (.inl ⟨rfl, Value.flags_object (hsingle _)
        (List.forall_mem_singleton.mpr (.inl ⟨rfl, Value.flags_object (hsingle _) (List.forall_mem_singleton.mpr
          (.inl ⟨rfl, Value.flags_bool true⟩))⟩))⟩))
    refine ⟨_, _, _, hpath, rfl, ?_, ?_, rfl,
      Path.Misplaces.not_locates ⟨_, _, _, _, .refl _, hflags, hflags, fun h => h rfl⟩⟩
    · simp [Value.Canonical, Value.CanonicalMembers, hsingle]
    · rw [Value.selectText, hpath]
      rfl

end Casebook.Json
