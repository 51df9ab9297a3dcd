import Mathlib
import Casebook.Json.Path
import Casebook.Proofs.Decimal.Digits
import Casebook.Proofs.Text

/-! The texts of paths.  Each segment has several spellings, and a path is read from the spellings of its segments, one
after the other. -/
namespace Casebook.Json

open Decimal

/-! ### Spellings -/

/-- A name that a point may stand before: not empty, without blanks at its ends, not the wildcard, and without the start
of another segment inside. -/
structure IsPointed (name : String) : Prop where
  ne_empty : name ≠ ""
  ne_wildcard : name ≠ "*"
  trimmed : Text.trim name = name
  within : ∀ c ∈ name.toList, c ≠ '.' ∧ c ≠ '['

namespace Segment

/-- What may stand behind a point, and the segment that it means. -/
inductive Named : List Char → Segment → Prop where
  | name {key : String} (h : IsPointed key) : Named key.toList (.member key)
  | any : Named ['*'] .wildcard

/-- What may stand in brackets, and the segment that it means.  The first closing bracket ends it. -/
inductive Bracketed : List Char → Segment → Prop where
  | quoted {key : String} {q : Char} (hq : q = '\'' ∨ q = '"') (h : ']' ∉ key.toList) :
    Bracketed (q :: (key.toList ++ [q])) (.member key)
  | any : Bracketed ['*'] .wildcard
  | position {i : Int} {cs : List Char} (h : WritesInt cs i) (hlo : minInt64 ≤ i) (hhi : i ≤ maxInt64) :
    Bracketed cs (.index i)

/-- A segment that leads one step down, and the one that leads to the same at any depth. -/
inductive Deepens : Segment → Segment → Prop where
  | member (key : String) : Deepens (.member key) (.descendant key)
  | wildcard : Deepens .wildcard .anyDescendant

/-- The ways to write a segment. -/
inductive Spelled : Segment → List Char → Prop where
  | point {s : Segment} {cs : List Char} (h : Named cs s) : Spelled s ('.' :: cs)
  | brackets {s : Segment} {cs : List Char} (h : Bracketed cs s) : Spelled s ('[' :: (cs ++ [']']))
  | deepPoint {s t : Segment} {cs : List Char} (h : Named cs s) (hdeep : s.Deepens t) : Spelled t ('.' :: '.' :: cs)
  | deepBrackets {s t : Segment} {cs : List Char} (h : Bracketed cs s) (hdeep : s.Deepens t) :
    Spelled t ('.' :: '.' :: '[' :: (cs ++ [']']))

end Segment

/-- The ways to write a path: its segments one after the other, each in any of its spellings. -/
inductive Path.Spelled : Path → List Char → Prop where
  | nil : Spelled [] []
  | cons {s : Segment} {path : Path} {cs more : List Char} (hs : s.Spelled cs) (hpath : Spelled path more) :
    Spelled (s :: path) (cs ++ more)

/-! ### What stands behind a point -/

namespace Path

variable {s t : Segment} {path : Path}

/-- What may follow a name: nothing, or the start of another segment. -/
def Ends (cs : List Char) : Prop := ∀ c, cs.head? = some c → isNameChar c = false

section Named

variable {name more : List Char} (hname : ∀ c ∈ name, isNameChar c = true) (hmore : Ends more)

include hname hmore

theorem takeWhile_isNameChar : (name ++ more).takeWhile isNameChar = name := by
  rw [List.takeWhile_append_of_pos hname]
  cases more with
  | nil => simp
  | cons c more => simp [hmore c rfl]

theorem dropWhile_isNameChar : (name ++ more).dropWhile isNameChar = more := by
  rw [List.dropWhile_append_of_pos hname]
  cases more with
  | nil => simp
  | cons c more => simp [hmore c rfl]

variable (hne : name ≠ [])

include hne

omit hmore in
theorem isNameChar_of_append {c : Char} {rest : List Char} (h : name ++ more = c :: rest) : isNameChar c = true := by
  obtain ⟨d, name, rfl⟩ := List.exists_cons_of_ne_nil hne
  cases h
  exact hname _ List.mem_cons_self

theorem segments_point (hs : namedSegment name = .ok s) (hpath : segments more = .ok path) :
    segments ('.' :: (name ++ more)) = .ok (s :: path) := by
  have hfirst : ∀ rest, name ++ more ≠ '.' :: rest := fun rest heq =>
    absurd (isNameChar_of_append hname hne heq) (by decide)
  rw [segments]
  · simp [takeWhile_isNameChar hname hmore, dropWhile_isNameChar hname hmore, hs, hpath, bind, Except.bind, pure,
      Except.pure]
  · exact fun rest heq => hfirst _ heq
  · exact fun rest heq => hfirst _ heq

theorem segments_deepPoint (hs : namedSegment name = .ok s) (ht : deepened s = .ok t)
    (hpath : segments more = .ok path) : segments ('.' :: '.' :: (name ++ more)) = .ok (t :: path) := by
  have hfirst : ∀ rest, name ++ more ≠ '[' :: rest := fun rest heq =>
    absurd (isNameChar_of_append hname hne heq) (by decide)
  rw [segments]
  · simp [takeWhile_isNameChar hname hmore, dropWhile_isNameChar hname hmore, hs, ht, hpath, bind, Except.bind, pure,
      Except.pure]
  · exact hfirst

end Named

/-! ### What stands in brackets -/

section Brackets

variable {inner : List Char} (h : ']' ∉ inner) (after : List Char)

include h

theorem splitBracket_append : splitBracket (inner ++ ']' :: after) = some (inner, after) := by
  induction inner with
  | nil => simp [splitBracket]
  | cons c inner ih =>
    simp only [List.mem_cons, not_or] at h
    simp [splitBracket, ih h.2, Ne.symm h.1]

theorem segments_brackets (hs : bracketSegment inner = .ok s) (hpath : segments after = .ok path) :
    segments ('[' :: (inner ++ ']' :: after)) = .ok (s :: path) := by
  have hsplit := splitBracket_append h after
  rw [segments]
  split <;> simp_all [bind, Except.bind, pure, Except.pure]

theorem segments_deepBrackets (hs : bracketSegment inner = .ok s) (ht : deepened s = .ok t)
    (hpath : segments after = .ok path) :
    segments ('.' :: '.' :: '[' :: (inner ++ ']' :: after)) = .ok (t :: path) := by
  have hsplit := splitBracket_append h after
  rw [segments]
  split <;> simp_all [bind, Except.bind, pure, Except.pure]

end Brackets

theorem bracketSegment_quoted {q : Char} (hq : q = '\'' ∨ q = '"') (key : String) :
    bracketSegment (q :: (key.toList ++ [q])) = .ok (.member key) := by
  have hblank : Text.isBlank q = false := by rcases hq with rfl | rfl <;> decide
  have htrim : Text.trimList Text.isBlank (q :: (key.toList ++ [q])) = q :: (key.toList ++ [q]) :=
    Text.trimList_eq_self hblank hblank _
  have hinside : unquoted? (q :: (key.toList ++ [q])) = some key := by simp [unquoted?, hq]
  simp [bracketSegment, htrim, hinside]

theorem bracketSegment_position {i : Int} {cs : List Char} (h : WritesInt cs i) (hlo : minInt64 ≤ i)
    (hhi : i ≤ maxInt64) : bracketSegment cs = .ok (.index i) := by
  have htrim : Text.trimList Text.isBlank cs = cs := Text.trimList_eq_self_of_forall fun c hc => by
    rcases h.signs c hc with rfl | rfl | hdigit
    · decide
    · decide
    · exact Text.isBlank_of_isDigit hdigit
  have hread : int64? (String.ofList cs) = some i := by
    rw [int64?, String.toList_ofList, intIn?_eq_some_iff (by decide)]
    exact ⟨h, hlo, hhi⟩
  have hstar : cs ≠ ['*'] := by
    rintro rfl
    simpa using h.signs '*' (List.mem_singleton.mpr rfl)
  have hquote : unquoted? cs = none := by
    cases cs with
    | nil => rfl
    | cons c rest =>
      have hc : ¬(c = '\'' ∨ c = '"') := by
        rintro (rfl | rfl) <;> simpa using h.signs _ List.mem_cons_self
      simp [unquoted?, hc]
  simp [bracketSegment, htrim, hstar, hquote, hread]

end Path

/-! ### Segments -/

namespace Segment

namespace Named

variable {cs : List Char} {s : Segment}

theorem ne_nil (h : Named cs s) : cs ≠ [] := by
  cases h with
  | name h => exact fun hnil => h.ne_empty (String.toList_eq_nil_iff.mp hnil)
  | any => simp

theorem isNameChar (h : Named cs s) : ∀ c ∈ cs, Path.isNameChar c = true := by
  cases h with
  | name h => exact fun c hc => by simpa [Path.isNameChar] using h.within c hc
  | any => simp [Path.isNameChar]

theorem isBlank_last (h : Named cs s) {c : Char} (hc : cs.getLast? = some c) : Text.isBlank c = false := by
  cases h with
  | name h =>
    have htrim := congrArg String.toList h.trimmed
    rw [Text.trim, Text.trimWith, String.toList_ofList] at htrim
    exact (Text.trimList_eq_self_iff.mp htrim).2 c hc
  | any =>
    cases hc
    decide

theorem namedSegment_eq (h : Named cs s) : Path.namedSegment cs = .ok s := by
  cases h with
  | name h => simp [Path.namedSegment, h.trimmed, h.ne_empty, h.ne_wildcard]
  | any => decide

end Named

namespace Bracketed

variable {cs : List Char} {s : Segment}

theorem notMem_bracket (h : Bracketed cs s) : ']' ∉ cs := by
  cases h with
  | quoted hq h => rcases hq with rfl | rfl <;> simp [h]
  | any => decide
  | position h => exact fun hmem => by simpa using h.signs ']' hmem

theorem bracketSegment_eq (h : Bracketed cs s) : Path.bracketSegment cs = .ok s := by
  cases h with
  | quoted hq => exact Path.bracketSegment_quoted hq _
  | any => decide
  | position h hlo hhi => exact Path.bracketSegment_position h hlo hhi

end Bracketed

theorem Deepens.deepened_eq {s t : Segment} (h : s.Deepens t) : Path.deepened s = .ok t := by
  cases h <;> rfl

namespace Spelled

variable {s : Segment} {cs : List Char}

/-- A segment may follow a name. -/
theorem ends (h : s.Spelled cs) (more : List Char) : Path.Ends (cs ++ more) := by
  intro c hc
  cases h <;> cases hc <;> rfl

theorem isBlank_last (h : s.Spelled cs) {c : Char} (hc : cs.getLast? = some c) : Text.isBlank c = false := by
  have hbracket : Text.isBlank ']' = false := by decide
  have hname : ∀ {name : List Char} {s : Segment}, Named name s →
      ∀ before : List Char, (before ++ name).getLast? = some c → Text.isBlank c = false := by
    intro name s h before hc
    rw [List.getLast?_append_of_ne_nil _ h.ne_nil] at hc
    exact h.isBlank_last hc
  have hclosed : ∀ before : List Char, (before ++ [']']).getLast? = some c → Text.isBlank c = false := by
    intro before hc
    rw [List.getLast?_concat] at hc
    cases hc
    exact hbracket
  cases h with
  | point h => exact hname h ['.'] hc
  | brackets h => exact hclosed ('[' :: _) hc
  | deepPoint h => exact hname h ['.', '.'] hc
  | deepBrackets h => exact hclosed ('.' :: '.' :: '[' :: _) hc

/-- A segment is read in front of others. -/
theorem segments_append (h : s.Spelled cs) {more : List Char} {path : Path} (hmore : Path.Ends more)
    (hpath : Path.segments more = .ok path) : Path.segments (cs ++ more) = .ok (s :: path) := by
  cases h with
  | point h => exact Path.segments_point h.isNameChar hmore h.ne_nil h.namedSegment_eq hpath
  | brackets h =>
    rw [List.cons_append, List.append_assoc]
    exact Path.segments_brackets h.notMem_bracket more h.bracketSegment_eq hpath
  | deepPoint h hdeep =>
    exact Path.segments_deepPoint h.isNameChar hmore h.ne_nil h.namedSegment_eq hdeep.deepened_eq hpath
  | deepBrackets h hdeep =>
    rw [List.cons_append, List.cons_append, List.cons_append, List.append_assoc]
    exact Path.segments_deepBrackets h.notMem_bracket more h.bracketSegment_eq hdeep.deepened_eq hpath

end Spelled

end Segment

namespace Path.Spelled

variable {path : Path} {cs : List Char}

theorem ends (h : path.Spelled cs) : Ends cs := by
  cases h with
  | nil => exact nofun
  | cons hs => exact hs.ends _

theorem isBlank_last (h : path.Spelled cs) {c : Char} (hc : cs.getLast? = some c) : Text.isBlank c = false := by
  induction h with
  | nil => cases hc
  | cons hs hpath ih =>
    rw [List.getLast?_append, Option.or_eq_some_iff] at hc
    rcases hc with hc | ⟨-, hc⟩
    · exact ih hc
    · exact hs.isBlank_last hc

theorem segments_eq (h : path.Spelled cs) : segments cs = .ok path := by
  induction h with
  | nil => rw [segments]
  | cons hs hpath ih => exact hs.segments_append hpath.ends ih

end Path.Spelled

/-- A path is read from each of its spellings, with any blanks around it. -/
theorem spelled_path_is_read {path : Path} {cs : List Char} (h : path.Spelled cs) {before after : List Char}
    (hbefore : ∀ c ∈ before, Text.isBlank c = true) (hafter : ∀ c ∈ after, Text.isBlank c = true) :
    Path.ofText? (String.ofList (before ++ ('$' :: cs ++ after))) = .ok path := by
  have htrim : Text.trimList Text.isBlank ('$' :: cs) = '$' :: cs := by
    refine Text.trimList_eq_self_iff.mpr ⟨fun c hc => ?_, fun c hc => ?_⟩
    · cases hc
      decide
    · rw [List.getLast?_cons] at hc
      cases hlast : cs.getLast? with
      | none =>
        rw [hlast] at hc
        cases hc
        decide
      | some d =>
        rw [hlast] at hc
        cases hc
        exact h.isBlank_last hlast
  rw [Path.ofText?, String.toList_ofList, Text.trimList_append hbefore hafter, htrim]
  exact h.segments_eq

/-- Keys that look like a wildcard, hold a blank or are empty. -/
theorem varied_spelling_is_read :
    Path.Spelled [.member "*", .index (-1), .descendant "a b", .wildcard, .descendant ""]
      "['*'][-1]..a b.*..[\"\"]".toList ∧
    Path.ofText? " $['*'][-1]..a b.*..[\"\"]\n" =
      .ok [.member "*", .index (-1), .descendant "a b", .wildcard, .descendant ""] := by
  have hname : IsPointed "a b" := ⟨by decide, by decide, by cbv, by simp⟩
  have hpath : Path.Spelled [.member "*", .index (-1), .descendant "a b", .wildcard, .descendant ""]
      "['*'][-1]..a b.*..[\"\"]".toList :=
    .cons (.brackets (.quoted (q := '\'') (.inl rfl) (by decide))) <|
      .cons (.brackets (.position (writesInt_toString (-1)) (by decide) (by decide))) <|
      .cons (.deepPoint (.name hname) (.member _)) <|
      .cons (.point .any) <|
      .cons (.deepBrackets (.quoted (q := '"') (.inr rfl) (by decide)) (.member _)) .nil
  exact ⟨hpath, @spelled_path_is_read _ _ hpath [' '] ['\n'] (by simp; decide) (by simp; decide)⟩

end Casebook.Json
