import Mathlib
import Casebook.Proofs.Markup.Selecting

/-! Conditions on the value of an attribute.  The value stands in quotes, and the condition is read as it is meant
unless the value has a closing bracket in it: a step ends outside of quotes, but a condition at the first bracket. -/
namespace Casebook.Markup

open XPath Decimal

namespace Document

/-- The value of the first attribute of a name, whatever the case of the letters in either. -/
def attributeNamed? (doc : Document) (id : Nat) (name : String) : Option String :=
  doc[id]?.bind fun n =>
    (n.attributes.find? fun entry => lowered entry.1.toList == lowered name.toList).map Prod.snd

theorem lowered_localName (name : String) : lowered (localName name).toList = localName name := by
  simp [lowered, localName, Function.comp_def]

theorem localName_of_mem_addedBy {b : Builder} {ts : List Token} {id : Nat} {a : String}
    (h : .attr id a ∈ b.addedBy ts) : ∃ name, a = localName name := by
  induction ts generalizing b with
  | nil => cases h
  | cons t ts ih =>
    rcases List.mem_append.mp h with h | h
    · cases t with
      | opening name attributes | empty name attributes =>
        simp only [Builder.added, List.mem_cons, reduceCtorEq, List.mem_map, List.mem_dedup, Item.attr.injEq,
          false_or] at h
        obtain ⟨_, ⟨x, -, rfl⟩, -, rfl⟩ := h
        exact ⟨_, rfl⟩
      | closing name => cases h
      | text s | literal s => simp [Builder.added] at h
    · exact ih h

/-- The names of attributes are in lower case. -/
theorem lowered_of_mem_attributes {ts : List Token} {id : Nat} {n : Node} (hn : (ofTokens ts)[id]? = some n)
    {entry : String × String} (hentry : entry ∈ n.attributes) : lowered entry.1.toList = entry.1 := by
  have hhas : Has (ofTokens ts) (.attr id entry.1) := by
    rw [Has, attribute?, hn, Option.bind_some, List.lookup_isSome_iff]
    exact ⟨entry, hentry, beq_self_eq_true _⟩
  obtain ⟨name, hname⟩ := localName_of_mem_addedBy (mem_itemsOf.mpr hhas)
  rw [hname, lowered_localName]

theorem find?_eq_lookup {l : List (String × String)} (h : ∀ entry ∈ l, lowered entry.1.toList = entry.1) (a : String) :
    (l.find? fun entry => lowered entry.1.toList == a).map Prod.snd = l.lookup a := by
  induction l with
  | nil => rfl
  | cons entry l ih =>
    obtain ⟨key, value⟩ := entry
    have hfirst : lowered key.toList = key := h _ List.mem_cons_self
    have hrest := ih fun entry hentry => h entry (List.mem_cons_of_mem _ hentry)
    by_cases ha : key = a
    · subst ha
      simp [hfirst]
    · have hlookup : (a == key) = false := beq_eq_false_iff_ne.mpr (Ne.symm ha)
      simpa [List.lookup, hfirst, ha, hlookup] using hrest

theorem attributeNamed?_eq (ts : List Token) (id : Nat) (name : String) :
    attributeNamed? (ofTokens ts) id name = attribute? (ofTokens ts) id (lowered name.toList) := by
  unfold attributeNamed? attribute?
  cases hn : (ofTokens ts)[id]? with
  | none => rfl
  | some n => exact find?_eq_lookup (fun entry hentry => lowered_of_mem_attributes hn hentry) _

end Document

namespace XPath

/-- The text of a condition that asks for the value of an attribute. -/
def valueCondition (name : String) (quote : Char) (value : String) : List Char :=
  '[' :: '@' :: (name.toList ++ '=' :: quote :: (value.toList ++ [quote, ']']))

section Predicates

variable {name : List Char} {q : Char}

theorem isBlank_of_quote (hq : q = '\'' ∨ q = '"') : Text.isBlank q = false := by
  rcases hq with rfl | rfl <;> decide

theorem ne_quote (hq : q = '\'' ∨ q = '"') : ']' ≠ q := by
  rcases hq with rfl | rfl <;> decide

theorem trimmed_name (h : ∀ c ∈ name, isNameChar c = true) : trimmed name = name :=
  Text.trimList_eq_self_of_forall fun c hc => isBlank_of_isNameChar (h c hc)

theorem nat64?_at (inner : List Char) : nat64? (String.ofList ('@' :: inner)) = none := by
  simp [nat64?, intIn?, nat?]

/-- A condition on the value of an attribute asks for what the quotes are around, and there must be quotes. -/
theorem predicate?_value (hname : ∀ c ∈ name, isNameChar c = true) (hq : q = '\'' ∨ q = '"')
    (value : List Char) : predicate? (trimmed ('@' :: (name ++ '=' :: q :: value))) =
      (unquoted? (trimmed (q :: value))).elim (.error .unquotedValue) fun v =>
        .ok (.attributeIs (lowered name) v) := by
  have hblank := isBlank_of_quote hq
  have hequals : '=' ∉ name := fun hmem => absurd (hname _ hmem) (by decide)
  have hvalue : trimmed (q :: value) = q :: value.rdropWhile Text.isBlank := Text.trimList_cons hblank value
  have hidem : trimmed (trimmed (q :: value)) = trimmed (q :: value) := by
    rw [hvalue, trimmed, Text.trimList_cons hblank, List.rdropWhile_idempotent]
  have htrimmed : trimmed ('@' :: (name ++ '=' :: q :: value)) = '@' :: (name ++ '=' :: trimmed (q :: value)) := by
    rw [trimmed, Text.trimList_cons (by decide), Text.rdropWhile_append_cons (by decide), hvalue]
    exact congrArg _ (congrArg _ (congrArg _ (Text.rdropWhile_append_cons hblank [] value)))
  have hlast : '@' :: (name ++ '=' :: trimmed (q :: value)) ≠ "last()".toList := by
    intro heq
    cases (List.cons.inj heq).1
  rw [htrimmed, predicate?, if_neg hlast, nat64?_at]
  cases hunquoted : unquoted? (trimmed (q :: value)) <;>
    simp only [Text.breakOn_singleton hequals, hidem, hunquoted, trimmed_name hname, Option.elim]

theorem unquoted?_quoted (hq : q = '\'' ∨ q = '"') (value : List Char) :
    unquoted? (q :: (value ++ [q])) = some (String.ofList value) := by
  rw [unquoted?, List.getLast?_concat, List.dropLast_concat, if_pos ⟨hq, rfl⟩]

theorem unquoted?_open {value : List Char} (hvalue : q ∉ value) : unquoted? (q :: value) = none :=
  if_neg fun h => hvalue (List.mem_of_getLast? h.2)

theorem predicate?_quoted (hname : ∀ c ∈ name, isNameChar c = true) (hq : q = '\'' ∨ q = '"')
    (value : List Char) : predicate? (trimmed ('@' :: (name ++ '=' :: q :: (value ++ [q])))) =
      .ok (.attributeIs (lowered name) (String.ofList value)) := by
  have hblank := isBlank_of_quote hq
  have htrimmed : trimmed (q :: (value ++ [q])) = q :: (value ++ [q]) := Text.trimList_eq_self hblank hblank value
  rw [predicate?_value hname hq, htrimmed, unquoted?_quoted hq, Option.elim_some]

theorem predicate?_open (hname : ∀ c ∈ name, isNameChar c = true) (hq : q = '\'' ∨ q = '"') {value : List Char}
    (hvalue : q ∉ value) :
    predicate? (trimmed ('@' :: (name ++ '=' :: q :: value))) = .error .unquotedValue := by
  have hblank := isBlank_of_quote hq
  have htrimmed : trimmed (q :: value) = q :: value.rdropWhile Text.isBlank := Text.trimList_cons hblank value
  have hrest : q ∉ value.rdropWhile Text.isBlank := fun hmem => hvalue ((List.rdropWhile_prefix _ _).subset hmem)
  rw [predicate?_value hname hq, htrimmed, unquoted?_open hrest, Option.elim_none]

end Predicates

/-! ### Paths with a condition on a value -/

section Path

variable {text name value : String} {path : Path} {q : Char}

/-- Up to the end of the value, a condition on a value has no closing bracket of its own. -/
theorem notMem_value (hname : isName name.toList = true) (hq : q = '\'' ∨ q = '"') {cs : List Char} (hcs : ']' ∉ cs) :
    ']' ∉ '@' :: (name.toList ++ '=' :: q :: cs) := by
  have hclose : ']' ∉ name.toList := fun hmem => absurd (isNameChar_of_isName hname _ hmem) (by decide)
  simp [hclose, hcs, ne_quote hq]

namespace Path.Ending

variable (e : Ending text path) (helements : ∀ s ∈ path.steps, s.isElement = true)
  (hname : isName name.toList = true) (hq : q = '\'' ∨ q = '"')

include e helements hname hq

/-- A condition on a value behind a path is one more condition of its last step. -/
theorem append_value (hvalue : ']' ∉ value.toList) :
    ofText? (text ++ String.ofList (valueCondition name q value)) =
      .ok ⟨path.absolute, e.before ++ [e.last.narrow [.attributeIs (lowered name.toList) value]]⟩ := by
  have hlast : e.last.isElement = true := helements _ (by simp [e.steps_eq])
  have hbefore : ∀ s ∈ e.before, s.isElement = true := fun s hs =>
    helements s (e.steps_eq ▸ List.mem_append_left _ hs)
  have hinside : ']' ∉ value.toList ++ [q] := by simp [hvalue, ne_quote hq]
  have hcondition : valueCondition name q value =
      '[' :: ('@' :: (name.toList ++ '=' :: q :: (value.toList ++ [q])) ++ [']']) := by
    simp [valueCondition]
  obtain ⟨more, tail, hnil, hread⟩ :=
    e.append_bracket hlast (notMem_value hname hq hinside) (u := []) rfl (by decide)
  obtain ⟨rfl, rfl⟩ := List.append_eq_nil_iff.mp hnil.symm
  rw [hcondition, hread, predicate?_quoted (isNameChar_of_isName hname) hq,
    conditions?_of_blank (List.forall_mem_nil _), String.ofList_toList]
  exact ofSteps?_eq_ok_iff.mpr ⟨by simp, by simpa using hbefore, rfl⟩

/-- A closing bracket in the value closes the condition, and leaves a value that is not in quotes. -/
theorem append_cut_value (hvalue : q ∉ value.toList) (hclose : ']' ∈ value.toList) :
    ofText? (text ++ String.ofList (valueCondition name q value)) = .error .unquotedValue := by
  have hlast : e.last.isElement = true := helements _ (by simp [e.steps_eq])
  obtain ⟨inside, more, hsplit, hinside⟩ := List.eq_append_cons_of_mem hclose
  have hopen : q ∉ inside := fun hmem => hvalue (hsplit ▸ List.mem_append_left _ hmem)
  have hcondition : valueCondition name q value =
      '[' :: ('@' :: (name.toList ++ '=' :: q :: inside) ++ ']' :: (more ++ [q, ']'])) := by
    simp [valueCondition, hsplit]
  have hend : (']' :: (more ++ [q, ']'])).getLast? = some ']' := by
    rw [← List.cons_append, List.getLast?_append]
    rfl
  obtain ⟨more, tail, -, hread⟩ := e.append_bracket hlast (notMem_value hname hq hinside) hend (by decide)
  rw [hcondition, hread, predicate?_open (isNameChar_of_isName hname) hq hopen]
  rfl

end Path.Ending

/-- A further condition on a value leaves the elements that have it. -/
theorem Step.elements_value (doc : Document) (s : Step) (name value : String) (context : List Nat) :
    (s.narrow [.attributeIs name value]).elements doc context =
      (s.elements doc context).filter fun id => Document.attribute? doc id name == some value := by
  refine eq_of_ascending (elements_ascending _ _) ((elements_ascending _ _).filter _) fun id => ?_
  rw [List.mem_filter]
  obtain ⟨deep, target, predicates⟩ := s
  cases target with
  | element tag =>
    simp only [elements, narrow, bases, List.mem_mergeSort, List.mem_eraseDups, List.mem_flatMap, elementsIn,
      List.foldl_concat, Predicate.apply, List.mem_filter]
    constructor
    · rintro ⟨base, hbase, hid, hvalue⟩
      exact ⟨⟨base, hbase, hid⟩, hvalue⟩
    · rintro ⟨⟨base, hbase, hid⟩, hvalue⟩
      exact ⟨base, hbase, hid, hvalue⟩
  | «attribute» tag => simp [elements, narrow]
  | text => simp [elements, narrow]

end Path

end XPath

open XPath Document

/-- A path of element steps with a condition on the value of an attribute finds the elements that have it, whatever
stands in the value but a closing bracket, with which the condition is refused. -/
theorem value_condition_selects {text name value : String} {path : Path} {q : Char}
    (hpath : Path.ofText? text = .ok path) (helements : ∀ s ∈ path.steps, s.isElement = true)
    (hend : (trimmed text.toList).getLast? ≠ some '/') (hname : isName name.toList = true) (hq : q = '\'' ∨ q = '"')
    (hvalue : q ∉ value.toList) (body : String) :
    selectText (text ++ String.ofList (valueCondition name q value)) body =
      if ']' ∈ value.toList then
        .error (XPath.Fault.unquotedValue.message (text ++ String.ofList (valueCondition name q value)))
      else ((Document.ofText? body).mapError Fault.message).map fun doc =>
        ((path.elements doc).filter fun id => attributeNamed? doc id name == some value).map fun id =>
          (textsOf doc id).head? := by
  obtain ⟨e⟩ := Path.exists_ending hpath hend
  split
  case isTrue hclose =>
    rw [selectText, e.append_cut_value helements hname hq hvalue hclose]
    rfl
  case isFalse hclose =>
    have hread := e.append_value helements hname hq hclose
    cases hdoc : Document.ofText? body with
    | error fault =>
      rw [selectText, hread, hdoc]
      rfl
    | ok doc =>
      obtain ⟨ts, -, rfl⟩ := exists_tokens hdoc
      have hall : ∀ s ∈ e.before ++ [e.last.narrow [.attributeIs (lowered name.toList) value]],
          s.isElement = true := by
        simpa [e.steps_eq, or_imp, forall_and] using helements
      have hfound : Path.elements (ofTokens ts) ⟨path.absolute,
          e.before ++ [e.last.narrow [.attributeIs (lowered name.toList) value]]⟩ =
          (path.elements (ofTokens ts)).filter fun id => attributeNamed? (ofTokens ts) id name == some value := by
        simp only [attributeNamed?_eq, Path.elements, elementsOf, e.steps_eq, List.foldl_concat]
        exact Step.elements_value _ _ _ _ _
      rw [selectText_eq hread hdoc, Path.select_of_elements hall, hfound]
      rfl

theorem value_with_slash_is_found :
    selectText "//a[@X='b/c [=']" "<r><a x='b'/><a x='b/c [='>t</a></r>" = .ok [some "t"] := by
  have hpath : Path.ofText? "//a" = .ok ⟨true, [⟨true, .element "a", []⟩]⟩ := by decide +kernel
  have hname : isName "X".toList = true := by decide +kernel
  have hvalue : '\'' ∉ "b/c [=".toList := by decide +kernel
  have hdoc : Document.ofText? "<r><a x='b'/><a x='b/c [='>t</a></r>" =
      .ok #[⟨"", [], [], [1]⟩, ⟨"r", [], [], [2, 3]⟩, ⟨"a", [("x", "b")], [], []⟩,
        ⟨"a", [("x", "b/c [=")], ["t"], []⟩] := by decide +kernel
  have hselect := value_condition_selects hpath (by simp [Step.isElement]) (by decide +kernel) hname (.inl rfl) hvalue
    "<r><a x='b'/><a x='b/c [='>t</a></r>"
  have htext : "//a" ++ String.ofList (valueCondition "X" '\'' "b/c [=") = "//a[@X='b/c [=']" := by decide +kernel
  rw [htext, if_neg (by decide +kernel), hdoc] at hselect
  rw [hselect]
  cbv

/-- An element has the value, and the condition that asks for it is refused. -/
theorem value_with_bracket_is_refused : ∃ doc path, Document.ofText? "<a x='b]c'>t</a>" = .ok doc ∧
    Path.ofText? "//a" = .ok path ∧ path.elements doc = [1] ∧ attributeNamed? doc 1 "x" = some "b]c" ∧
      selectText "//a[@x='b]c']" "<a x='b]c'>t</a>" =
        .error "XPath '//a[@x='b]c']': predicate value must be quoted" := by
  have hread : Path.ofText? "//a[@x='b]c']" = .error .unquotedValue := by decide +kernel
  refine ⟨#[⟨"", [], [], [1]⟩, ⟨"a", [("x", "b]c")], ["t"], []⟩], ⟨true, [⟨true, .element "a", []⟩]⟩, by decide +kernel,
    by decide +kernel, by cbv, by decide +kernel, ?_⟩
  rw [selectText, hread]
  decide +kernel

end Casebook.Markup
