import Mathlib
import Casebook.Proofs.Markup.Positions

/-! Names with prefixes.  A document keeps the names of its elements and attributes without what stands before their
first colon, and a path looks for a name as it is written in it: it finds what is written with the same name, unless
that has a colon. -/
namespace Casebook.Markup

open XPath Document

/-! ### Start tags -/

/-- The name and the attributes of a start tag, as they are written. -/
def Token.startTag? : Token → Option (String × List (String × String))
  | .opening name attributes | .empty name attributes => some (name, attributes)
  | _ => none

/-- The start tags among tokens; the one at a position is that of the element with the next number. -/
def startTags (ts : List Token) : List (String × List (String × String)) := ts.filterMap Token.startTag?

/-- The value of the first attribute of a tag that has a name when its own prefix is left out. -/
def valueIn? (name : String) (tag : String × List (String × String)) : Option String :=
  (tag.2.find? fun x => localName x.1 == name).map Prod.snd

theorem localName_eq_lowered_iff (name : String) : localName name = lowered name.toList ↔ ':' ∉ name.toList := by
  have hall : (∀ c ∈ name.toList, (c != ':') = true) ↔ ':' ∉ name.toList := by
    simp only [bne_iff_ne]
    exact ⟨fun h hmem => h _ hmem rfl, fun h c hc heq => h (heq ▸ hc)⟩
  rw [← hall, ← List.dropWhile_eq_nil_iff]
  unfold localName lowered
  constructor
  · intro h
    by_contra hne
    obtain ⟨c, rest, hrest⟩ := List.exists_cons_of_ne_nil hne
    -- what is left behind the colon is shorter than the name
    have hsuffix := (List.dropWhile_suffix (l := name.toList) (· != ':')).length_le
    have hlength := congrArg String.length h
    simp only [hrest, String.length_ofList, List.length_map, List.length_cons] at hlength hsuffix
    omega
  · intro hnil
    simp only [hnil]

theorem lookup_map_localName (attributes : List (String × String)) (a : String) :
    (attributes.map fun x => (localName x.1, x.2)).lookup a =
      (attributes.find? fun x => localName x.1 == a).map Prod.snd := by
  induction attributes with
  | nil => rfl
  | cons x attributes ih =>
    by_cases ha : localName x.1 = a
    · simp [ha]
    · have hlookup : (a == localName x.1) = false := beq_eq_false_iff_ne.mpr (Ne.symm ha)
      simpa [List.lookup, ha, hlookup] using ih

/-- What a start tag says of its element. -/
def tagged (tag : String × List (String × String)) : String × List (String × String) :=
  (localName tag.1, tag.2.map fun x => (localName x.1, x.2))

/-- The elements of a document have the names that their start tags have, but for the prefixes. -/
theorem names_ofTokens (ts : List Token) :
    (ofTokens ts).toList.map (fun n => (n.name, n.attributes)) = ("", []) :: (startTags ts).map tagged := by
  unfold ofTokens startTags
  induction ts using List.reverseRecOn with
  | nil => rfl
  | append_singleton ts t ih =>
    rw [List.foldl_concat, List.filterMap_append, List.map_append, ← List.cons_append, ← ih]
    generalize ts.foldl Builder.step Builder.initial = b
    have hadd : ∀ name attributes, (b.addElement name attributes).nodes.toList.map (fun n => (n.name, n.attributes)) =
        b.nodes.toList.map (fun n => (n.name, n.attributes)) ++ [tagged (name, attributes)] := by
      intro name attributes
      refine List.ext_getElem? fun i => ?_
      rw [List.getElem?_map, Array.getElem?_toList, Builder.map_getElem?_addElement name attributes fun _ _ => rfl]
      rcases lt_trichotomy i b.nodes.size with hi | rfl | hi
      · simp [hi.ne, List.getElem?_append, hi]
      · simp [tagged]
      · rw [if_neg hi.ne', Array.getElem?_eq_none hi.le, List.getElem?_eq_none (by simpa using hi)]
        rfl
    have htext : ∀ text, (b.addText text).nodes.toList.map (fun n => (n.name, n.attributes)) =
        b.nodes.toList.map (fun n => (n.name, n.attributes)) := by
      intro text
      refine List.ext_getElem? fun i => ?_
      simp only [List.getElem?_map, Array.getElem?_toList, Builder.addText, Array.getElem?_modify]
      split <;> simp [Option.map_map, Function.comp_def]
    cases t with
    | opening name attributes =>
      rw [Builder.nodes_step_opening]
      exact hadd name attributes
    | empty name attributes => exact hadd name attributes
    | closing name => exact (List.append_nil _).symm
    | text s | literal s => exact (htext s).trans (List.append_nil _).symm

theorem names_succ (ts : List Token) (k : Nat) :
    ((ofTokens ts)[k + 1]?.map fun n => (n.name, n.attributes)) = (startTags ts)[k]?.map tagged := by
  simpa using congrArg (·[k + 1]?) (names_ofTokens ts)

theorem nameOf_succ (ts : List Token) (k : Nat) :
    nameOf (ofTokens ts) (k + 1) = ((startTags ts)[k]?.map fun tag => localName tag.1).getD "" := by
  have hname := congrArg (Option.map Prod.fst) (names_succ ts k)
  simp only [Option.map_map, Function.comp_def] at hname
  rw [nameOf, hname]
  rfl

theorem attribute?_succ (ts : List Token) (k : Nat) (a : String) :
    attribute? (ofTokens ts) (k + 1) a = (startTags ts)[k]?.bind (valueIn? a) := by
  have hattributes := congrArg (Option.map Prod.snd) (names_succ ts k)
  simp only [Option.map_map, Function.comp_def] at hattributes
  rw [attribute?_eq, hattributes, Option.bind_map]
  simp only [Function.comp_def, tagged, lookup_map_localName]
  rfl

theorem attribute?_zero (ts : List Token) (a : String) : attribute? (ofTokens ts) 0 a = none := by
  have hroot : (ofTokens ts)[0]?.map (fun n => (n.name, n.attributes)) = some ("", []) := by
    rw [← Array.getElem?_toList, ← List.getElem?_map, names_ofTokens]
    rfl
  have hattributes := congrArg (Option.map Prod.snd) hroot
  simp only [Option.map_map, Function.comp_def] at hattributes
  rw [attribute?_eq, hattributes]
  rfl

theorem size_ofTokens (ts : List Token) : (ofTokens ts).size = (startTags ts).length + 1 := by
  simpa using congrArg List.length (names_ofTokens ts)

/-! ### Paths that look for a name anywhere -/

theorem inside_root (ts : List Token) : inside (ofTokens ts) 0 = List.range (ofTokens ts).size := by
  have hsound := Builder.sound_foldl ts
  have hdoc : Numbered (ofTokens ts) := hsound.numbered
  refine eq_of_ascending (hdoc.inside_ascending 0) List.pairwise_lt_range fun x => ?_
  rw [hdoc.mem_inside, List.mem_range]
  constructor
  · intro hx
    rcases hx.cases_tail with rfl | ⟨j, -, hc⟩
    · exact hsound.pos
    · exact (hdoc.child_lt hc).2
  · exact hsound.open_within 0 (.inl rfl) x (Nat.zero_le x)

theorem lowered_ne_star {cs : List Char} (h : isName cs = true) : lowered cs ≠ "*" := by
  intro hstar
  have hmap : cs.map Char.toLower = ['*'] := by simpa [lowered] using congrArg String.toList hstar
  obtain ⟨c, rfl, hc⟩ := List.map_eq_singleton_iff.mp hmap
  have hname := isNameChar_of_isName h c (List.mem_singleton_self c)
  -- no letter of ASCII has a star as its lower case
  have hstar : c = '*' := by
    unfold Char.toLower at hc
    split at hc
    case isTrue hupper =>
      have hlow : 65 ≤ c.toNat := UInt32.le_iff_toNat_le.mp hupper.1
      have hhigh : c.toNat ≤ 90 := UInt32.le_iff_toNat_le.mp hupper.2
      have hsum : (c.toNat + 32) % 2 ^ 32 = 42 := congrArg Char.toNat hc
      omega
    case isFalse => exact hc
  rw [hstar] at hname
  exact absurd hname (by decide)

theorem mem_elements_named {ts : List Token} {name : String} (hname : name ≠ "*") {id : Nat} :
    id ∈ Path.elements (ofTokens ts) ⟨true, [⟨true, .element name, []⟩]⟩ ↔
      0 < id ∧ id < (ofTokens ts).size ∧ nameOf (ofTokens ts) id = name := by
  have hsound := Builder.sound_foldl ts
  have hdoc : Numbered (ofTokens ts) := hsound.numbered
  have hin : ∀ base, id ∈ Step.elementsIn (ofTokens ts) name [] base ↔
      id ∈ childrenOf (ofTokens ts) base ∧ nameOf (ofTokens ts) id = name := by
    simp [Step.elementsIn, hname]
  change id ∈ XPath.Step.elements (ofTokens ts) ⟨true, .element name, []⟩ [0] ↔ _
  rw [mem_elements hdoc]
  constructor
  · rintro ⟨start, -, htakes⟩
    cases htakes with
    | element htarget hbase hid =>
      cases htarget
      obtain ⟨hchild, hid⟩ := (hin _).mp hid
      have hlt := hdoc.child_lt hchild
      exact ⟨Nat.zero_lt_of_lt hlt.1, hlt.2, hid⟩
  · rintro ⟨hpos, hlt, hid⟩
    -- an element lies inside of the root, and so does the node that it is a child of
    have hwithin : Within (ofTokens ts) 0 id := hsound.open_within 0 (.inl rfl) id (Nat.zero_le id) hlt
    rcases hwithin.cases_tail with rfl | ⟨base, hbase, hchild⟩
    · exact absurd hpos (lt_irrefl 0)
    · exact ⟨0, List.mem_singleton_self 0, .element rfl hbase ((hin base).mpr ⟨hchild, hid⟩)⟩

theorem filterMap_range_bind {α β : Type} (f : α → Option β) (l : List α) :
    (List.range l.length).filterMap (fun k => l[k]?.bind f) = l.filterMap f := by
  induction l with
  | nil => rfl
  | cons x l ih =>
    rw [List.length_cons, List.range_succ_eq_map, List.filterMap_cons, List.filterMap_map, List.filterMap_cons, ← ih]
    rfl

theorem select_attribute_named (ts : List Token) (a : String) :
    Path.select ⟨true, [⟨true, .attribute a, []⟩]⟩ (ofTokens ts) =
      ((startTags ts).filterMap (valueIn? a)).map some := by
  have hbases : Step.bases (ofTokens ts) ⟨true, .attribute a, []⟩ [0] = List.range ((startTags ts).length + 1) := by
    change dedupNeighbours ([0].flatMap (inside (ofTokens ts))) = _
    rw [List.flatMap_singleton, inside_root, size_ofTokens, dedupNeighbours_of_ascending List.pairwise_lt_range]
  change (Step.bases (ofTokens ts) ⟨true, .attribute a, []⟩ [0]).filterMap
    (fun id => (attribute? (ofTokens ts) id a).map some) = _
  rw [hbases, ← List.map_filterMap, List.range_succ_eq_map, List.filterMap_cons, attribute?_zero, List.filterMap_map]
  simp only [Function.comp_def, attribute?_succ, filterMap_range_bind]

/-- Two slashes in front of a step that has no conditions. -/
theorem ofText?_anywhere {cs : List Char} (hne : cs ≠ [])
    (hcs : ∀ c ∈ cs, c ≠ '/' ∧ c ≠ '[' ∧ Text.isBlank c = false) {target : Target}
    (htarget : target? cs = some target) :
    Path.ofText? (String.ofList ('/' :: '/' :: cs)) = .ok ⟨true, [⟨true, target, []⟩]⟩ := by
  have hslash : '/' ∉ cs := fun hmem => (hcs _ hmem).1 rfl
  have hopen : '[' ∉ cs := fun hmem => (hcs _ hmem).2.1 rfl
  have hblank : ∀ c ∈ cs, Text.isBlank c = false := fun c hc => (hcs c hc).2.2
  have htrimmed : trimmed ('/' :: '/' :: cs) = '/' :: '/' :: cs :=
    Text.trimList_eq_self_of_forall (by simpa using ⟨by decide, hblank⟩)
  obtain ⟨next, hscan⟩ := scan_of_notMem hslash (0, none)
  have hstep : step? true cs = .ok ⟨true, target, []⟩ := by
    have hread := step?_append hopen (.inl rfl) (Text.trimList_eq_self_of_forall hblank ▸ htarget)
    rw [List.append_nil, conditions?_of_blank (List.forall_mem_nil _)] at hread
    exact hread true
  have hsteps := steps?_append true hne hscan (.inl rfl)
  rw [List.append_nil, hstep] at hsteps
  rw [Path.ofText?_eq, String.toList_ofList, htrimmed, if_neg (List.cons_ne_nil _ _), steps?_slashes, hsteps]
  rfl

/-! ### Names as they are written -/

theorem isNamed_of_isName {t : String} (h : isName t.toList = true) : (Leaf.attr t).IsNamed := by
  intro c hc
  have hname := isNameChar_of_isName h c hc
  obtain ⟨-, -, hopen, -, hslash⟩ := isPlain_of_isNameChar hname
  exact ⟨hslash, hopen, isBlank_of_isNameChar hname⟩

theorem target?_of_isName {cs : List Char} (h : isName cs = true) : target? cs = some (.element (lowered cs)) := by
  have hall := isNameChar_of_isName h
  have htext : cs ≠ "text()".toList := by
    rintro rfl
    exact absurd (hall '(' (by decide)) (by decide)
  unfold target?
  rw [if_neg htext]
  split
  case h_1 => exact absurd (hall '@' List.mem_cons_self) (by decide)
  case h_2 => rw [if_pos (by simp [h])]

theorem ofText?_element_named {t : String} (ht : isName t.toList = true) :
    Path.ofText? ("//" ++ t) = .ok ⟨true, [⟨true, .element (lowered t.toList), []⟩]⟩ := by
  have hne : t.toList ≠ [] := by
    intro hnil
    simp [isName, hnil] at ht
  have htext : "//" ++ t = String.ofList ('/' :: '/' :: t.toList) := by
    rw [← String.toList_inj]
    simp
  rw [htext]
  exact ofText?_anywhere hne (isNamed_of_isName ht) (target?_of_isName ht)

theorem ofText?_attribute_named {u : String} (hu : (Leaf.attr u).IsNamed) :
    Path.ofText? ("//@" ++ u) = .ok ⟨true, [⟨true, .attribute (lowered u.toList), []⟩]⟩ := by
  have htext : "//@" ++ u = String.ofList ('/' :: '/' :: (Leaf.attr u).written) := by
    rw [← String.toList_inj]
    simp [Leaf.written]
  have hcs : ∀ c ∈ (Leaf.attr u).written, c ≠ '/' ∧ c ≠ '[' ∧ Text.isBlank c = false :=
    List.forall_mem_cons.mpr ⟨by decide, hu⟩
  rw [htext]
  exact ofText?_anywhere (List.cons_ne_nil _ _) hcs (Leaf.attr u).target?_written

/-- An element is found by its name as it is written, unless the name has a prefix.  So is the value of an attribute, if
no attribute before it in its tag differs from it in prefix and case only. -/
theorem written_names_are_found {body : String} {doc : Document} (hdoc : Document.ofText? body = .ok doc) :
    ∃ ts, tokens body = .ok ts ∧ doc = ofTokens ts ∧
      (∀ t : String, isName t.toList = true → ∃ path, Path.ofText? ("//" ++ t) = .ok path ∧
        selectText ("//" ++ t) body = .ok ((path.elements doc).map fun id => (textsOf doc id).head?) ∧
        ∀ k attributes, (startTags ts)[k]? = some (t, attributes) → (k + 1 ∈ path.elements doc ↔ ':' ∉ t.toList)) ∧
      ∀ u : String, (Leaf.attr u).IsNamed → ∃ values, selectText ("//@" ++ u) body = .ok values ∧
        values = ((startTags ts).filterMap (valueIn? (lowered u.toList))).map some ∧
        ∀ tag ∈ startTags ts, ∀ value, (tag.2.find? fun x => localName x.1 == localName u) = some (u, value) →
          ':' ∉ u.toList → some value ∈ values := by
  obtain ⟨ts, htokens, rfl⟩ := exists_tokens hdoc
  refine ⟨ts, htokens, rfl, fun t ht => ?_, fun u hu => ?_⟩
  · have hpath := ofText?_element_named ht
    refine ⟨_, hpath, ?_, fun k attributes htag => ?_⟩
    · rw [selectText_eq hpath hdoc, Path.select_of_elements (by simp [Step.isElement])]
    · have hlt : k < (startTags ts).length := (List.getElem?_eq_some_iff.mp htag).1
      rw [mem_elements_named (lowered_ne_star ht), size_ofTokens, nameOf_succ, htag, ← localName_eq_lowered_iff]
      simp [hlt]
  · refine ⟨_, selectText_eq (ofText?_attribute_named hu) hdoc, select_attribute_named ts _, ?_⟩
    intro tag htag value hvalue hcolon
    rw [select_attribute_named, ← (localName_eq_lowered_iff u).mpr hcolon]
    refine List.mem_map_of_mem (List.mem_filterMap.mpr ⟨tag, htag, ?_⟩)
    rw [valueIn?, hvalue]
    rfl

theorem names_with_capitals_are_found : ∃ path values,
    Path.ofText? "//Item" = .ok path ∧ 2 ∈ path.elements (ofTokens [.opening "Order" [("Data-Id", "7")],
      .empty "Item" [], .closing "Order"]) ∧
    selectText "//@Data-Id" "<Order Data-Id='7'><Item/></Order>" = .ok values ∧ some "7" ∈ values := by
  have htokens : tokens "<Order Data-Id='7'><Item/></Order>" =
      .ok [.opening "Order" [("Data-Id", "7")], .empty "Item" [], .closing "Order"] := by rfl
  have hdoc : Document.ofText? "<Order Data-Id='7'><Item/></Order>" =
      .ok (ofTokens [.opening "Order" [("Data-Id", "7")], .empty "Item" [], .closing "Order"]) := by rfl
  obtain ⟨ts, hts, -, helements, hattributes⟩ := written_names_are_found hdoc
  obtain rfl := Except.ok.inj (htokens.symm.trans hts)
  obtain ⟨path, hpath, -, hitem⟩ := helements "Item" (by rfl)
  obtain ⟨values, hselect, -, hvalues⟩ := hattributes "Data-Id" (isNamed_of_isName (by rfl))
  exact ⟨path, values, hpath, (hitem 1 [] rfl).mpr (by decide), hselect,
    hvalues ("Order", [("Data-Id", "7")]) (by simp [startTags, Token.startTag?]) "7" (by rfl) (by decide)⟩

/-- Neither an element nor an attribute with a prefix is found by the name that stands in its tag, and an attribute
behind one of the same name with a prefix is not found either. -/
theorem prefixed_names_are_not_found :
    tokens "<soap:Body x:id='1' id='2'>t</soap:Body>" =
      .ok [.opening "soap:Body" [("x:id", "1"), ("id", "2")], .text "t", .closing "soap:Body"] ∧
    (∀ name ∈ ["soap:Body", "x:id", "id"], isName name.toList = true) ∧
    selectText "//soap:Body" "<soap:Body x:id='1' id='2'>t</soap:Body>" = .ok [] ∧
    selectText "//@x:id" "<soap:Body x:id='1' id='2'>t</soap:Body>" = .ok [] ∧
    selectText "//@id" "<soap:Body x:id='1' id='2'>t</soap:Body>" = .ok [some "1"] := by
  have hdoc : Document.ofText? "<soap:Body x:id='1' id='2'>t</soap:Body>" =
      .ok #[⟨"", [], [], [1]⟩, ⟨"body", [("id", "1"), ("id", "2")], ["t"], []⟩] := by rfl
  refine ⟨by rfl, by decide, ?_, ?_, ?_⟩
  · rw [selectText_eq (show Path.ofText? _ = .ok ⟨true, [⟨true, .element "soap:body", []⟩]⟩ by rfl) hdoc]
    cbv
  · rw [selectText_eq (show Path.ofText? _ = .ok ⟨true, [⟨true, .attribute "x:id", []⟩]⟩ by rfl) hdoc]
    cbv
  · rw [selectText_eq (show Path.ofText? _ = .ok ⟨true, [⟨true, .attribute "id", []⟩]⟩ by rfl) hdoc]
    cbv

end Casebook.Markup
