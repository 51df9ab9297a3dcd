import Casebook.Proofs.Json.Locations

/-! Paths whose matches come once, and in the order of the document.  A path that descends once at most has one way to
each location, and the segments that go one step down keep the order of the document. -/
namespace Casebook.Json

/-! ### Descents and first keys -/

/-- Whether a segment leads down to any depth. -/
def Segment.isDescent : Segment → Bool
  | .descendant _ | .anyDescendant => true
  | _ => false

/-- Whether a segment leads to the first key that a value can have. -/
def Segment.isFirst : Segment → Bool
  | .member name => name == ""
  | .index i => i == 0
  | _ => false

/-- Nothing in an object comes before this member, or in an array before this element. -/
def Key.IsFirst (k : Key) : Prop := k = .member "" ∨ k = .element 0

/-- Whether a path does not descend, or descends once and from there on asks for first keys alone. -/
def Path.isOrderly : Path → Bool
  | [] => true
  | .descendant name :: path => name == "" && path.all Segment.isFirst
  | .anyDescendant :: _ => false
  | _ :: path => isOrderly path

/-- A path matches a location in a document. -/
def Path.Reaches (path : Path) (root : Value) (l : Location) : Prop :=
  ∃ pieces, path.Splits root pieces ∧ pieces.flatten = l

/-- The values found are those at the locations that a path matches, one for each of them, in some order. -/
def Path.Locates (R : Location → Location → Prop) (path : Path) (root : Value) (found : List Value) : Prop :=
  ∃ locations : List Location, locations.map (fun l => root.at? l) = found.map some ∧ locations.Pairwise R ∧
    ∀ l, l ∈ locations ↔ path.Reaches root l

variable {v w root : Value} {s : Segment} {path : Path} {pieces pieces' : List Location}

theorem Segment.Matches.exists_eq (hs : s.isDescent = false) {l : Location} (h : s.Matches v l) : ∃ k, l = [k] := by
  cases s with
  | member name => exact ⟨_, h⟩
  | index i =>
    obtain ⟨_, p, -, hl, -⟩ := h
    exact ⟨_, hl⟩
  | wildcard => exact h
  | descendant name => cases hs
  | anyDescendant => cases hs

theorem Segment.isDescent_of_isFirst (hs : s.isFirst = true) : s.isDescent = false := by
  cases s with
  | descendant | anyDescendant => cases hs
  | _ => rfl

theorem Segment.Matches.isFirst (hs : s.isFirst = true) {l : Location} (h : s.Matches v l) {k : Key} (hk : k ∈ l) :
    k.IsFirst := by
  cases s with
  | member name =>
    rw [show name = "" by simpa [Segment.isFirst] using hs] at h
    exact .inl (List.mem_singleton.mp (h ▸ hk))
  | index i =>
    obtain ⟨xs, p, -, rfl, hp⟩ := h
    have hi : i = 0 := by simpa [Segment.isFirst] using hs
    obtain rfl : p = 0 := by simpa [hi] using hp
    exact .inr (List.mem_singleton.mp hk)
  | _ => cases hs

theorem Path.Splits.exists_at? (h : path.Splits v pieces) : ∃ w, v.at? pieces.flatten = some w := by
  induction h with
  | nil v => exact ⟨v, rfl⟩
  | cons _ hw _ ih =>
    obtain ⟨x, hx⟩ := ih
    exact ⟨x, by rw [List.flatten_cons, Value.at?_append, hw, Option.bind_some, hx]⟩

theorem Path.Splits.length_flatten (hpath : ∀ s ∈ path, s.isDescent = false) (h : path.Splits v pieces) :
    pieces.flatten.length = path.length := by
  induction h with
  | nil v => rfl
  | cons hmatch _ _ ih =>
    obtain ⟨k, rfl⟩ := hmatch.exists_eq (hpath _ List.mem_cons_self)
    rw [List.flatten_cons, List.length_append, ih fun s hs => hpath s (List.mem_cons_of_mem _ hs),
      List.length_singleton, List.length_cons, Nat.add_comm]

theorem Path.Splits.isFirst (hpath : ∀ s ∈ path, s.isFirst = true) (h : path.Splits v pieces) {k : Key}
    (hk : k ∈ pieces.flatten) : k.IsFirst := by
  induction h with
  | nil v => cases hk
  | cons hmatch _ _ ih =>
    rcases List.mem_append.mp hk with hk | hk
    · exact hmatch.isFirst (hpath _ List.mem_cons_self) hk
    · exact ih (fun s hs => hpath s (List.mem_cons_of_mem _ hs)) hk

/-- Where a path descends once at most, there is one way to split a location: all pieces but one are of length one. -/
theorem Path.Splits.unique (hpath : path.countP Segment.isDescent ≤ 1) (h : path.Splits v pieces)
    (h' : path.Splits v pieces') (heq : pieces.flatten = pieces'.flatten) : pieces = pieces' := by
  induction h generalizing pieces' with
  | nil v =>
    cases h'
    rfl
  | @cons s path v u piece pieces hmatch hu hsplits ih =>
    cases h' with
    | @cons _ _ _ u' piece' pieces' hmatch' hu' hsplits' =>
      rw [List.flatten_cons, List.flatten_cons] at heq
      rw [List.countP_cons] at hpath
      have hsame : piece = piece' ∧ pieces.flatten = pieces'.flatten := by
        cases hs : s.isDescent with
        | false =>
          obtain ⟨k, rfl⟩ := hmatch.exists_eq hs
          obtain ⟨k', rfl⟩ := hmatch'.exists_eq hs
          exact List.append_inj heq rfl
        | true =>
          have hnone : path.countP Segment.isDescent = 0 := by
            rw [if_pos hs] at hpath
            omega
          have hplain : ∀ t ∈ path, t.isDescent = false := by simpa [List.countP_eq_zero] using hnone
          refine List.append_inj' heq ?_
          rw [hsplits.length_flatten hplain, hsplits'.length_flatten hplain]
      obtain ⟨rfl, hrest⟩ := hsame
      obtain rfl : u = u' := Option.some.inj (hu.symm.trans hu')
      rw [ih (by omega) hsplits' hrest]

/-! ### Paths that keep the order -/

/-- What comes before another location is above it, or beside it with all that is below the two. -/
theorem Location.Before.above_or_beside {l m : Location} (h : l.Before m) :
    (∃ k rest, m = l ++ k :: rest) ∨ ∀ x y, Location.Before (l ++ x) (m ++ y) := by
  induction h with
  | nil => exact .inl ⟨_, _, rfl⟩
  | cons _ ih =>
    rcases ih with ⟨k, rest, rfl⟩ | hbeside
    · exact .inl ⟨k, rest, rfl⟩
    · exact .inr fun x y => .cons (hbeside x y)
  | rel hkeys => exact .inr fun x y => .rel hkeys

theorem Key.IsFirst.eq_or_precedes {k k' : Key} (hk : k.IsFirst) (hv : v.child? k = some w) {w' : Value}
    (hv' : v.child? k' = some w') : k' = k ∨ k.Precedes k' := by
  rcases hk with rfl | rfl
  · cases v with
    | object ms =>
      cases k' with
      | member name =>
        rcases eq_or_ne name "" with rfl | hname
        · exact .inl rfl
        · exact .inr (String.lt_iff_toList_lt.mpr (by
            cases h : name.toList with
            | nil => exact absurd (String.toList_eq_nil_iff.mp h) hname
            | cons c cs => exact List.nil_lt_cons c cs))
      | element p => cases hv'
    | _ => cases hv
  · cases v with
    | array xs =>
      cases k' with
      | member name => cases hv'
      | element p =>
        rcases Nat.eq_zero_or_pos p with rfl | hp
        · exact .inl rfl
        · exact .inr hp
    | _ => cases hv

/-- A location of first keys comes before the longer ones. -/
theorem Location.before_of_isFirst {l m : Location} (hl : ∀ k ∈ l, k.IsFirst) (hv : v.at? l = some w) {w' : Value}
    (hv' : v.at? m = some w') (hlength : l.length < m.length) : l.Before m := by
  induction l generalizing v m with
  | nil =>
    cases m with
    | nil => cases hlength
    | cons k m => exact .nil
  | cons k l ih =>
    cases m with
    | nil => cases hlength
    | cons k' m =>
      obtain ⟨u, hu, hw⟩ := Option.bind_eq_some_iff.mp hv
      obtain ⟨u', hu', hw'⟩ := Option.bind_eq_some_iff.mp hv'
      rcases (hl k List.mem_cons_self).eq_or_precedes hu hu' with rfl | hprecedes
      · obtain rfl : u = u' := Option.some.inj (hu.symm.trans hu')
        exact .cons (ih (fun j hj => hl j (List.mem_cons_of_mem _ hj)) hw hw' (Nat.lt_of_succ_lt_succ hlength))
      · exact .rel hprecedes

theorem Path.isOrderly_of_isFirst (hpath : ∀ s ∈ path, s.isFirst = true) : path.isOrderly = true := by
  induction path with
  | nil => rfl
  | cons s path ih =>
    have hs := hpath s List.mem_cons_self
    have hrest := ih fun t ht => hpath t (List.mem_cons_of_mem _ ht)
    cases s with
    | descendant | anyDescendant => cases hs
    | _ => exact hrest

theorem Path.isOrderly_cons (hs : s.isDescent = false) : isOrderly (s :: path) = path.isOrderly := by
  cases s with
  | descendant | anyDescendant => cases hs
  | _ => rfl

theorem Path.isOrderly_descent (hs : s.isDescent = true) :
    isOrderly (s :: path) = true ↔ s = .descendant "" ∧ ∀ t ∈ path, t.isFirst = true := by
  cases s with
  | descendant name => simp [isOrderly]
  | anyDescendant => simp [isOrderly]
  | _ => cases hs

/-- Segments that go one step down come to locations in the order of the document. -/
theorem Segment.Visits.before {l m : Location} (hs : s.isDescent = false) (hl : s.Matches v l) (hm : s.Matches v m)
    (h : s.Visits l m) (x y : Location) : Location.Before (l ++ x) (m ++ y) := by
  have hbefore : l.Before m := by
    cases s with
    | descendant | anyDescendant => cases hs
    | _ => exact h
  obtain ⟨j, rfl⟩ := hl.exists_eq hs
  obtain ⟨k, rfl⟩ := hm.exists_eq hs
  cases hbefore with
  | rel hkeys => exact .rel hkeys
  | cons hnil => cases hnil

/-- First keys behind a place come before equally many keys behind a later place, be that below the first or not. -/
theorem Location.Before.append_of_isFirst {l m x y : Location} (h : l.Before m) (hx : ∀ k ∈ x, k.IsFirst)
    (hlength : x.length = y.length) (hv : v.at? (l ++ x) = some w) {w' : Value} (hv' : v.at? (m ++ y) = some w') :
    Location.Before (l ++ x) (m ++ y) := by
  rcases h.above_or_beside with ⟨k, rest, rfl⟩ | hbeside
  · rw [List.append_assoc] at hv' ⊢
    rw [Value.at?_append] at hv hv'
    obtain ⟨u, hu, hw⟩ := Option.bind_eq_some_iff.mp hv
    rw [hu, Option.bind_some] at hv'
    refine List.Lex.append_left _ (Location.before_of_isFirst hx hw hv' ?_) _
    simp [hlength]
  · exact hbeside x y

/-- A descent to the first member of whatever is below, and then to first keys, comes to what is above something before
that, and to first keys before others. -/
theorem Location.LooksBefore.before {l m : Location} (hpath : ∀ s ∈ path, s.isFirst = true) (h : l.LooksBefore m)
    (hsplits : Path.Splits (.descendant "" :: path) v (l :: pieces))
    (hsplits' : Path.Splits (.descendant "" :: path) v (m :: pieces')) :
    Location.Before (l ++ pieces.flatten) (m ++ pieces'.flatten) := by
  obtain ⟨x, hx⟩ := hsplits.exists_at?
  obtain ⟨x', hx'⟩ := hsplits'.exists_at?
  rcases hsplits with _ | ⟨⟨above, hl⟩, -, hrest⟩
  rcases hsplits' with _ | ⟨⟨above', hm⟩, -, hrest'⟩
  have hplain : ∀ s ∈ path, s.isDescent = false := fun s hs => Segment.isDescent_of_isFirst (hpath s hs)
  have hlength : pieces.flatten.length = pieces'.flatten.length :=
    (hrest.length_flatten hplain).trans (hrest'.length_flatten hplain).symm
  have hfirst : ∀ k ∈ Key.member "" :: pieces.flatten, k.IsFirst :=
    List.forall_mem_cons.mpr ⟨.inl rfl, fun k hk => hrest.isFirst hpath hk⟩
  -- One value looked into comes before the other: in the same value there is but one member of that name.
  rcases h with ⟨habove⟩ | ⟨hkeys⟩
  · obtain ⟨rfl, hj⟩ := List.append_inj' hl rfl
    obtain ⟨rfl, hk⟩ := List.append_inj' hm rfl
    rw [List.flatten_cons, hj, List.append_assoc] at hx
    rw [List.flatten_cons, hk, List.append_assoc] at hx'
    rw [hj, hk, List.append_assoc, List.append_assoc]
    exact habove.append_of_isFirst hfirst (congrArg (· + 1) hlength) hx hx'
  · obtain ⟨-, hj⟩ := List.append_inj' hl rfl
    obtain ⟨-, hk⟩ := List.append_inj' hm rfl
    rw [(List.cons.inj hj).1, (List.cons.inj hk).1] at hkeys
    exact absurd hkeys (Key.Precedes.irrefl _)

theorem Path.Visits.before (hpath : path.isOrderly = true) (h : path.Visits pieces pieces')
    (hsplits : path.Splits v pieces) (hsplits' : path.Splits v pieces') :
    Location.Before pieces.flatten pieces'.flatten := by
  -- The induction is on where the two ways part: what they share up to there is a prefix of both locations.
  induction h generalizing v with
  | @first s path piece piece' pieces pieces' hvisits =>
    obtain ⟨⟩ | @⟨_, _, _, u, _, _, hmatch, hu, hrest⟩ := hsplits
    obtain ⟨⟩ | @⟨_, _, _, u', _, _, hmatch', hu', hrest'⟩ := hsplits'
    rw [List.flatten_cons, List.flatten_cons]
    cases hs : s.isDescent with
    | false => exact hvisits.before hs hmatch hmatch' _ _
    | true =>
      obtain ⟨rfl, hfirst⟩ := (isOrderly_descent hs).mp hpath
      exact Location.LooksBefore.before hfirst hvisits (.cons hmatch hu hrest) (.cons hmatch' hu' hrest')
  | @later s path piece pieces pieces' hvisits ih =>
    obtain ⟨⟩ | @⟨_, _, _, u, _, _, hmatch, hu, hrest⟩ := hsplits
    obtain ⟨⟩ | @⟨_, _, _, u', _, _, hmatch', hu', hrest'⟩ := hsplits'
    obtain rfl : u = u' := Option.some.inj (hu.symm.trans hu')
    have hrestOrderly : path.isOrderly = true := by
      cases hs : s.isDescent with
      | false => rwa [isOrderly_cons hs] at hpath
      | true => exact isOrderly_of_isFirst ((isOrderly_descent hs).mp hpath).2
    exact List.Lex.append_left _ (ih hrestOrderly hrest hrest') _

/-- The values that a path selects lie at its locations, in the order in which it comes there. -/
theorem Path.locates_select {R : Location → Location → Prop} (hroot : root.Canonical)
    (hR : ∀ {pieces pieces'}, path.Visits pieces pieces' → path.Splits root pieces → path.Splits root pieces' →
      R pieces.flatten pieces'.flatten) : path.Locates R root (path.select root) := by
  obtain ⟨ways, h⟩ := path.exists_listsBy_select hroot
  have hsplits : ∀ way ∈ ways, path.Splits root way.1 ∧ root.at? way.1.flatten = some way.2 :=
    fun way hway => (h.leads way.1 way.2).mp hway
  refine ⟨ways.map fun way => way.1.flatten, ?_, ?_, fun l => ?_⟩
  · rw [← h.listed, List.map_map, List.map_map]
    exact List.map_congr_left fun way hway => (hsplits way hway).2
  · refine List.pairwise_map.mpr (h.ordered.imp_of_mem fun {x y} hx hy hvisits => ?_)
    exact hR hvisits (hsplits x hx).1 (hsplits y hy).1
  · constructor
    · intro hl
      obtain ⟨way, hway, rfl⟩ := List.mem_map.mp hl
      exact ⟨way.1, (hsplits way hway).1, rfl⟩
    · rintro ⟨pieces, hpieces, rfl⟩
      obtain ⟨w, hw⟩ := hpieces.exists_at?
      exact List.mem_map.mpr ⟨(pieces, w), (h.leads pieces w).mpr ⟨hpieces, hw⟩, rfl⟩

theorem Path.locates_once (hroot : root.Canonical) (hpath : path.countP Segment.isDescent ≤ 1) :
    path.Locates (· ≠ ·) root (path.select root) :=
  locates_select hroot fun {pieces _} hvisits h h' heq => path.visits_irrefl pieces (h.unique hpath h' heq ▸ hvisits)

theorem Path.locates_in_order (hroot : root.Canonical) (hpath : path.isOrderly = true) :
    path.Locates Location.Before root (path.select root) :=
  locates_select hroot fun hvisits h h' => hvisits.before hpath h h'

/-- A value that lies where a path first comes to in the document; none if it comes nowhere. -/
def Path.FindsFirst (path : Path) (root : Value) : Option Value → Prop
  | none => ∀ l, ¬path.Reaches root l
  | some w => ∃ l, path.Reaches root l ∧ root.at? l = some w ∧ ∀ m, path.Reaches root m → m = l ∨ l.Before m

theorem Path.Locates.findsFirst {found : List Value} (h : path.Locates Location.Before root found) :
    path.FindsFirst root found.head? := by
  obtain ⟨locations, hvalues, hordered, hreaches⟩ := h
  cases found with
  | nil =>
    rw [List.map_nil, List.map_eq_nil_iff] at hvalues
    subst hvalues
    exact fun l hl => List.not_mem_nil ((hreaches l).mpr hl)
  | cons w found =>
    obtain ⟨l, rest, rfl, hw, -⟩ := List.map_eq_cons_iff.mp hvalues
    refine ⟨l, (hreaches l).mp List.mem_cons_self, hw, fun m hm => ?_⟩
    exact (List.mem_cons.mp ((hreaches m).mpr hm)).imp_right (List.rel_of_pairwise_cons hordered)

end Casebook.Json
