import Mathlib
import Casebook.Proofs.Decimal.Digits
import Casebook.Proofs.Markup.Conditions

/-! Positions behind attributes and texts.  A path of element steps that ends in `@a` or `text()` reports all that its
elements have there; a position in brackets behind that is read, and not looked at. -/
namespace Casebook.Markup

/-! ### What an element has, and the one at a position -/

section Picks

variable {α β : Type}

/-- A position among what an element has, counted from one, or the last one. -/
inductive Place where
  | nth (n : Nat)
  | last
deriving DecidableEq, Repr

namespace Place

/-- The text of a position, as it stands in brackets. -/
def written : Place → List Char
  | .nth n => (toString n).toList
  | .last => "last()".toList

/-- What stands at a position of a list, if anything does. -/
def pick : Place → List α → List α
  | .nth n, l => (l[n - 1]?).toList
  | .last, l => l.getLast?.toList

theorem pick_sublist (place : Place) (l : List α) : (place.pick l).Sublist l := by
  cases place with
  | nth n => exact toList_getElem?_sublist l (n - 1)
  | last => exact toList_getLast?_sublist l

/-- A position picks everything where there is nothing, or where it is the position of the only one. -/
theorem pick_eq_self_iff {place : Place} (hplace : place ≠ .nth 0) {l : List α} :
    place.pick l = l ↔ l = [] ∨ l.length = 1 ∧ (place = .nth 1 ∨ place = .last) := by
  rcases l with _ | ⟨x, _ | ⟨y, l⟩⟩
  · cases place <;> simp [pick]
  · cases place with
    | nth n =>
      obtain _ | _ | n := n
      · exact absurd rfl hplace
      · simp [pick]
      · simp [pick]
    | last => simp [pick]
  · have hshort : (place.pick (x :: y :: l)).length ≤ 1 := by
      unfold pick
      cases place <;> exact Option.length_toList_le
    refine iff_of_false (fun heq => ?_) (by simp)
    simp [heq] at hshort

end Place

theorem flatMap_eq_iff_of_sublist {f g : α → List β} (h : ∀ x, (g x).Sublist (f x)) {l : List α} :
    l.flatMap f = l.flatMap g ↔ ∀ x ∈ l, g x = f x := by
  refine ⟨fun heq => ?_, fun hall => List.flatMap_congr fun x hx => (hall x hx).symm⟩
  induction l with
  | nil => simp
  | cons x l ih =>
    have hrest : (l.flatMap g).Sublist (l.flatMap f) := List.Sublist.flatMap_right l fun x _ => h x
    have hlength := congrArg List.length heq
    simp only [List.flatMap_cons, List.length_append] at hlength
    have hfirst : g x = f x := (h x).eq_of_length_le (by have := hrest.length_le; omega)
    simp only [List.flatMap_cons, hfirst, List.append_cancel_left_eq] at heq
    exact List.forall_mem_cons.mpr ⟨hfirst, ih heq⟩

end Picks

open XPath Document Decimal

/-- What a path of element steps can end in. -/
inductive Leaf where
  | text
  | attr (name : String)
deriving DecidableEq, Repr

namespace Leaf

/-- Whether the name of an attribute has nothing in it that ends a name in a path. -/
def IsNamed : Leaf → Prop
  | .text => True
  | .attr name => ∀ c ∈ name.toList, c ≠ '/' ∧ c ≠ '[' ∧ Text.isBlank c = false

def written : Leaf → List Char
  | .text => "text()".toList
  | .attr name => '@' :: name.toList

/-- What an element has. -/
def values (doc : Document) : Leaf → Nat → List (Option String)
  | .text, id => (textsOf doc id).map some
  | .attr name, id => (attributeNamed? doc id name).toList.map some

def target : Leaf → Target
  | .text => .text
  | .attr name => .attribute (lowered name.toList)

variable {leaf : Leaf} {inner : List Char}

theorem notMem_written (h : leaf.IsNamed) : '/' ∉ leaf.written ∧ '[' ∉ leaf.written := by
  cases leaf with
  | text => simp [written]
  | attr name =>
    have hslash : '/' ∉ name.toList := fun hmem => (h _ hmem).1 rfl
    have hopen : '[' ∉ name.toList := fun hmem => (h _ hmem).2.1 rfl
    simp [written, hslash, hopen]

theorem trimmed_written (h : leaf.IsNamed) : trimmed leaf.written = leaf.written := by
  cases leaf with
  | text => decide +kernel
  | attr name =>
    exact Text.trimList_eq_self_of_forall (List.forall_mem_cons.mpr ⟨by decide, fun c hc => (h c hc).2.2⟩)

theorem target?_written (leaf : Leaf) : target? leaf.written = some leaf.target := by
  cases leaf with
  | text => rfl
  | attr name =>
    have htext : '@' :: name.toList ≠ "text()".toList := by
      intro heq
      cases (List.cons.inj heq).1
    rw [written, target?, if_neg htext]
    rfl

theorem exists_written (leaf : Leaf) : ∃ c rest, leaf.written = c :: rest ∧ c ≠ '/' := by
  cases leaf with
  | text => exact ⟨_, _, rfl, by decide⟩
  | attr name => exact ⟨_, _, rfl, by decide⟩

/-- The last step of a path, with a condition of any kind. -/
theorem steps?_written (h : leaf.IsNamed) (hclose : ']' ∉ inner) (hslash : '/' ∉ inner) :
    steps? false (leaf.written ++ '[' :: (inner ++ [']'])) =
      (predicate? (trimmed inner)).map fun p => [⟨false, leaf.target, [p]⟩] := by
  obtain ⟨hname, hopen⟩ := notMem_written h
  have hnone : '/' ∉ leaf.written ++ '[' :: (inner ++ [']']) := by simp [hname, hslash]
  obtain ⟨next, hscan⟩ := scan_of_notMem hnone (0, none)
  have htarget : target? (trimmed leaf.written) = some leaf.target := by rw [trimmed_written h, target?_written]
  have hread := steps?_append false (by simp) hscan (.inl rfl)
  rw [List.append_nil, step?_append hopen (.inr ⟨_, rfl⟩) htarget, conditions?_bracket hclose,
    conditions?_of_blank (List.forall_mem_nil _)] at hread
  rw [hread]
  cases predicate? (trimmed inner) <;> rfl

/-- As the last step of a path, a leaf reports all that the elements have, whatever its conditions are. -/
theorem selectFrom_leaf (ts : List Token) (leaf : Leaf) (ps : List Predicate) {context : List Nat}
    (h : context.Pairwise (· < ·)) : selectFrom (ofTokens ts) [⟨false, leaf.target, ps⟩] context =
      context.flatMap (leaf.values (ofTokens ts)) := by
  have hbases : Step.bases (ofTokens ts) ⟨false, leaf.target, ps⟩ context = context := dedupNeighbours_of_ascending h
  rw [selectFrom, hbases]
  cases leaf with
  | text => rfl
  | attr name =>
    simp only [target, List.filterMap_eq_flatMap_toList, Option.toList_map, ← attributeNamed?_eq]
    rfl

end Leaf

/-- A position in brackets behind a leaf, as it stands behind a path. -/
def Leaf.writtenAt (leaf : Leaf) (place : Place) : List Char :=
  '/' :: (leaf.written ++ '[' :: (place.written ++ [']']))

theorem Place.notMem_written (place : Place) : ']' ∉ place.written ∧ '/' ∉ place.written := by
  cases place with
  | nth n =>
    have hdigits : ∀ c ∈ (Place.nth n).written, c.isDigit = true := fun c hc =>
      isDigit_of_mem (by simpa [written, toString, Nat.repr] using hc)
    refine ⟨fun hmem => ?_, fun hmem => ?_⟩ <;> cases hdigits _ hmem
  | last => simp [written]

/-- Behind a path of element steps, a leaf with a position is one more step of the path. -/
theorem XPath.Path.exists_leaf_step {text : String} {path path' : Path} {leaf : Leaf} {place : Place}
    (hpath : ofText? text = .ok path) (helements : ∀ s ∈ path.steps, s.isElement = true)
    (hend : (trimmed text.toList).getLast? ≠ some '/') (hleaf : leaf.IsNamed)
    (haccepted : ofText? (text ++ String.ofList (leaf.writtenAt place)) = .ok path') :
    ∃ p, path' = ⟨path.absolute, path.steps ++ [⟨false, leaf.target, [p]⟩]⟩ := by
  obtain ⟨e⟩ := exists_ending hpath hend
  have hlast : e.last.isElement = true := helements _ (by simp [e.steps_eq])
  have hsteps := Leaf.steps?_written hleaf place.notMem_written.1 place.notMem_written.2
  obtain ⟨c, rest, hwritten, hc⟩ := leaf.exists_written
  have hclose : (c :: (rest ++ '[' :: (place.written ++ [']']))).getLast? = some ']' := by
    rw [← List.cons_append, List.getLast?_append, ← List.cons_append, List.getLast?_concat]
    rfl
  rw [Leaf.writtenAt, hwritten, List.cons_append] at haccepted
  rw [hwritten, List.cons_append] at hsteps
  obtain ⟨more, hmore, h⟩ := e.append_slash hlast hc hclose (by decide) haccepted
  rw [hsteps] at hmore
  obtain ⟨p, -, rfl⟩ := map_eq_ok.mp hmore
  exact ⟨p, (ofSteps?_eq_ok_iff.mp h).2.2⟩

/-- A path of element steps that ends in a leaf with a position, where it is read, reports all that its elements have
there.  That is what stands at the position only where every element has nothing, or one thing and the position is
its own. -/
theorem leaf_with_position_selects {text body : String} {path path' : Path} {doc : Document} {leaf : Leaf}
    {place : Place} (hpath : Path.ofText? text = .ok path) (helements : ∀ s ∈ path.steps, s.isElement = true)
    (hend : (trimmed text.toList).getLast? ≠ some '/') (hleaf : leaf.IsNamed) (hplace : place ≠ .nth 0)
    (haccepted : Path.ofText? (text ++ String.ofList (leaf.writtenAt place)) = .ok path')
    (hdoc : Document.ofText? body = .ok doc) :
    selectText (text ++ String.ofList (leaf.writtenAt place)) body =
        .ok ((path.elements doc).flatMap (leaf.values doc)) ∧
      (selectText (text ++ String.ofList (leaf.writtenAt place)) body =
          .ok ((path.elements doc).flatMap fun id => place.pick (leaf.values doc id)) ↔
        ∀ id ∈ path.elements doc, leaf.values doc id = [] ∨
          (leaf.values doc id).length = 1 ∧ (place = .nth 1 ∨ place = .last)) := by
  obtain ⟨p, rfl⟩ := Path.exists_leaf_step hpath helements hend hleaf haccepted
  obtain ⟨ts, -, rfl⟩ := exists_tokens hdoc
  have hascending : (path.elements (ofTokens ts)).Pairwise (· < ·) := elementsOf_ascending _ (path.start_ascending _)
  have hselect : selectText (text ++ String.ofList (leaf.writtenAt place)) body =
      .ok ((path.elements (ofTokens ts)).flatMap (leaf.values (ofTokens ts))) := by
    rw [selectText_eq haccepted hdoc, ← Leaf.selectFrom_leaf ts leaf [p] hascending]
    exact congrArg _ (selectFrom_append helements _ _)
  refine ⟨hselect, ?_⟩
  rw [hselect, Except.ok.injEq, flatMap_eq_iff_of_sublist fun id => place.pick_sublist _]
  simp only [Place.pick_eq_self_iff hplace]

theorem only_text_is_the_last :
    selectText "/r/a/text()[last()]" "<r><a>x</a><a>y</a></r>" = .ok [some "x", some "y"] := by
  have hpath : Path.ofText? "/r/a" = .ok ⟨true, [⟨false, .element "r", []⟩, ⟨false, .element "a", []⟩]⟩ := by
    decide +kernel
  have haccepted : Path.ofText? ("/r/a" ++ String.ofList (Leaf.text.writtenAt .last)) =
      .ok ⟨true, [⟨false, .element "r", []⟩, ⟨false, .element "a", []⟩, ⟨false, .text, [.last]⟩]⟩ := by decide +kernel
  have hdoc : Document.ofText? "<r><a>x</a><a>y</a></r>" =
      .ok #[⟨"", [], [], [1]⟩, ⟨"r", [], [], [2, 3]⟩, ⟨"a", [], ["x"], []⟩, ⟨"a", [], ["y"], []⟩] := by decide +kernel
  have hfound : Path.elements #[⟨"", [], [], [1]⟩, ⟨"r", [], [], [2, 3]⟩, ⟨"a", [], ["x"], []⟩, ⟨"a", [], ["y"], []⟩]
      ⟨true, [⟨false, .element "r", []⟩, ⟨false, .element "a", []⟩]⟩ = [2, 3] := by cbv
  have hselect := leaf_with_position_selects hpath (by simp [Step.isElement]) (by decide +kernel)
    (show Leaf.text.IsNamed from trivial) (by decide) haccepted hdoc
  have hpicked := hselect.2.mpr (by rw [hfound]; decide)
  have htext : "/r/a" ++ String.ofList (Leaf.text.writtenAt .last) = "/r/a/text()[last()]" := by decide +kernel
  rw [htext, hfound] at hpicked
  rw [hpicked]
  cbv

/-- Of two texts, both are reported where the second one is asked for. -/
theorem second_text_is_not_picked : ∃ doc path, Document.ofText? "<a>x<b/>y</a>" = .ok doc ∧
    Path.ofText? "/a" = .ok path ∧ path.elements doc = [1] ∧ textsOf doc 1 = ["x", "y"] ∧
      selectText "/a/text()[2]" "<a>x<b/>y</a>" = .ok [some "x", some "y"] := by
  have hread : Path.ofText? "/a/text()[2]" =
      .ok ⟨true, [⟨false, .element "a", []⟩, ⟨false, .text, [.position 2]⟩]⟩ := by decide +kernel
  have hdoc : Document.ofText? "<a>x<b/>y</a>" =
      .ok #[⟨"", [], [], [1]⟩, ⟨"a", [], ["x", "y"], [2]⟩, ⟨"b", [], [], []⟩] := by decide +kernel
  refine ⟨_, ⟨true, [⟨false, .element "a", []⟩]⟩, hdoc, by decide +kernel, by cbv, by decide +kernel, ?_⟩
  rw [selectText_eq hread hdoc]
  cbv

end Casebook.Markup
