import Mathlib.Data.List.Infix
import Casebook.Proofs.Template.Reading

/-! One step of scanning inside of a marker: the words that a text starts with, and what is left of it.  A word that
stands before a blank or a brace is the same with and without it. -/
namespace Casebook.Template.Token

/-! ### What stands outside of words -/

/-- Characters that no word goes on with: blanks, and the brace that ends a placeholder. -/
def Bounds (c : Char) : Prop := c.toNat ≤ 32 ∨ 125 ≤ c.toNat

theorem bounds_of_isBlank {c : Char} (h : Text.isBlank c = true) : Bounds c := by
  obtain ⟨⟨first, last⟩, hrange, hwithin⟩ := List.any_eq_true.mp h
  simp only [Bool.and_eq_true, decide_eq_true_eq] at hwithin
  have hranges : ∀ r ∈ Text.blankRanges, r.2 ≤ 32 ∨ 125 ≤ r.1 := by decide
  rcases hranges _ hrange with hlow | hhigh
  · exact .inl (by omega)
  · exact .inr (by omega)

theorem bounds_brace : Bounds '}' := by
  exact .inr (by decide)

theorem Bounds.ne {c d : Char} (h : Bounds c) (hd : 32 < d.toNat ∧ d.toNat < 125) : c ≠ d := by
  rintro rfl
  rcases h with h | h <;> omega

theorem Bounds.not_between {c : Char} (h : Bounds c) (lo hi : Char) (hlo : 32 < lo.toNat) (hhi : hi.toNat < 125) :
    ¬(lo ≤ c ∧ c ≤ hi) := by
  rintro ⟨hlow, hhigh⟩
  have hlow : lo.toNat ≤ c.toNat := UInt32.le_iff_toNat_le.mp hlow
  have hhigh : c.toNat ≤ hi.toNat := UInt32.le_iff_toNat_le.mp hhigh
  rcases h with h | h <;> omega

theorem Bounds.isDigit_eq {c : Char} (h : Bounds c) : c.isDigit = false := by
  have hrange := h.not_between '0' '9' (by decide) (by decide)
  simpa [Char.isDigit, Char.le_def] using hrange

theorem Bounds.isAlpha_eq {c : Char} (h : Bounds c) : c.isAlpha = false := by
  have hupper : c.isUpper = false := decide_eq_false (h.not_between 'A' 'Z' (by decide) (by decide))
  have hlower : c.isLower = false := Bool.eq_false_iff.mpr fun hc =>
    h.not_between 'a' 'z' (by decide) (by decide) ((Bool.and_eq_true_iff.mp hc).imp of_decide_eq_true of_decide_eq_true)
  exact Bool.or_eq_false_iff.mpr ⟨hupper, hlower⟩

theorem Bounds.continuesWord_eq {c : Char} (h : Bounds c) : continuesWord c = false := by
  have hunderscore : c ≠ '_' := h.ne (by decide)
  simp [continuesWord, Char.isAlphanum, h.isDigit_eq, h.isAlpha_eq, hunderscore]

theorem Bounds.hexDigit?_eq {c : Char} (h : Bounds c) : Json.Reader.hexDigit? c = none := by
  have hlower := h.not_between 'a' 'f' (by decide) (by decide)
  have hupper := h.not_between 'A' 'F' (by decide) (by decide)
  simp [Json.Reader.hexDigit?, h.isDigit_eq, hlower, hupper]

theorem Bounds.step_eq {d : Char} (h : Bounds d) (base : Nat) (part : NumberPart) (digitNext : Bool) :
    part.step base d digitNext = none := by
  have hne : d ≠ '_' ∧ d ≠ '.' ∧ d ≠ 'e' ∧ d ≠ 'E' ∧ d ≠ '+' ∧ d ≠ '-' :=
    ⟨h.ne (by decide), h.ne (by decide), h.ne (by decide), h.ne (by decide), h.ne (by decide), h.ne (by decide)⟩
  obtain ⟨h1, h2, h3, h4, h5, h6⟩ := hne
  simp [NumberPart.step, h1, h2, h3, h4, h5, h6, h.isDigit_eq, h.hexDigit?_eq]

theorem Bounds.pairSymbol?_eq {d : Char} (h : Bounds d) (c : Char) : pairSymbol? c d = none := by
  unfold pairSymbol?
  split
  · exact absurd rfl (h.ne (d := '/') (by decide))
  · exact absurd rfl (h.ne (d := '*') (by decide))
  all_goals first | exact absurd rfl (h.ne (d := '=') (by decide)) | rfl

/-! ### Words with something after them -/

/-- The base of a number and its digits. -/
def radix (cs : List Char) : Nat × List Char :=
  match cs with
  | '0' :: b :: rest =>
    if b = 'b' ∨ b = 'B' then (2, rest)
    else if b = 'o' ∨ b = 'O' then (8, rest)
    else if b = 'x' ∨ b = 'X' then (16, rest)
    else (10, cs)
  | _ => (10, cs)

/-- The word of a number with some characters. -/
def numberToken (base : Nat) (part : NumberPart) (taken : List Char) : Token :=
  let digits := taken.filter (· != '_')
  if taken.getLast? = some '_' then .fault .badStructure
  else if part = .whole ∨ part = .radix then wholeToken base digits
  else match Decimal.float? (String.ofList digits) with
    | some x => .float x
    | none => .fault .badStructure

theorem number_eq (cs : List Char) :
    number cs =
      let span := spanNumber (radix cs).1 (if (radix cs).1 = 10 then .whole else .radix) (radix cs).2
      (numberToken (radix cs).1 span.1 span.2.1, span.2.2) := rfl

/-- The words and the rest of a text that starts with a character. -/
def lexeme (c : Char) (rest : List Char) : List Token × List Char :=
  match rest.head?.bind (pairSymbol? c) with
  | some s => ([.symbol s], rest.drop 1)
  | none =>
    match symbol? c with
    | some .dot => (.symbol .dot :: (position rest).1, (position rest).2)
    | some s => ([.symbol s], rest)
    | none =>
      if c = '\'' ∨ c = '"' then ([(stringToken c rest).1], (stringToken c rest).2)
      else if c.isDigit then ([(number (c :: rest)).1], (number (c :: rest)).2)
      else if startsWord c then
        ([.word (String.ofList (c :: rest.takeWhile continuesWord))], rest.dropWhile continuesWord)
      else ([.fault .badStructure], [])

theorem takeWhile_append_stop {p : Char → Bool} {d : Char} (hp : p d = false) (cs tail : List Char) :
    (cs ++ d :: tail).takeWhile p = cs.takeWhile p := by
  induction cs with
  | nil => simp [hp]
  | cons c cs ih => simp [List.takeWhile_cons, ih]

theorem dropWhile_append_stop {p : Char → Bool} {d : Char} (hp : p d = false) (cs tail : List Char) :
    (cs ++ d :: tail).dropWhile p = cs.dropWhile p ++ d :: tail := by
  induction cs with
  | nil => simp [hp]
  | cons c cs ih =>
    simp only [List.cons_append, List.dropWhile_cons, ih]
    split <;> rfl

theorem spanString_cons {quote c : Char} (hc : c ≠ '\\') (cs : List Char) :
    spanString quote (c :: cs) =
      if c = quote then some ([], cs) else (spanString quote cs).map fun span => (c :: span.1, span.2) := by
  rw [spanString.eq_3 quote c cs fun _ _ h _ => hc h, if_neg hc]

theorem spanString_append {quote : Char} (hquote : quote ≠ '\\') {cs body rest : List Char}
    (h : spanString quote cs = some (body, rest)) (tail : List Char) :
    spanString quote (cs ++ tail) = some (body, rest ++ tail) := by
  induction cs using spanString.induct quote generalizing body with
  | case1 => cases h
  | case2 c cs ih =>
    rw [spanString] at h
    obtain ⟨⟨body', rest'⟩, hspan, heq⟩ := Option.map_eq_some_iff.mp h
    cases heq
    simp [spanString, ih hspan]
  | case3 cs =>
    rw [spanString_cons hquote, if_pos rfl] at h
    cases h
    rw [List.cons_append, spanString_cons hquote, if_pos rfl]
  | case4 cs hcs hne =>
    rw [spanString.eq_3 _ _ _ hcs, if_neg hne, if_pos rfl] at h
    cases h
  | case5 c cs _ hne hc ih =>
    rw [spanString_cons hc, if_neg hne] at h
    obtain ⟨⟨body', rest'⟩, hspan, heq⟩ := Option.map_eq_some_iff.mp h
    cases heq
    rw [List.cons_append, spanString_cons hc, if_neg hne, ih hspan]
    rfl

theorem stringToken_append {quote : Char} (hquote : quote ≠ '\\') {cs : List Char}
    (h : (stringToken quote cs).1.isFault = false) (tail : List Char) :
    stringToken quote (cs ++ tail) = ((stringToken quote cs).1, (stringToken quote cs).2 ++ tail) := by
  unfold stringToken at h ⊢
  cases hspan : spanString quote cs with
  | none =>
    rw [hspan] at h
    cases h
  | some span =>
    obtain ⟨body, rest⟩ := span
    rw [spanString_append hquote hspan]
    dsimp only
    split <;> rfl

section Append

variable {d : Char} (hd : Bounds d) (tail : List Char)
include hd

theorem spanNumber_append (base : Nat) (part : NumberPart) (cs : List Char) :
    spanNumber base part (cs ++ d :: tail) =
      ((spanNumber base part cs).1, (spanNumber base part cs).2.1, (spanNumber base part cs).2.2 ++ d :: tail) := by
  induction cs generalizing part with
  | nil => simp [spanNumber, hd.step_eq]
  | cons c cs ih =>
    have hnext : (cs ++ d :: tail).head?.any Char.isDigit = cs.head?.any Char.isDigit := by
      cases cs <;> simp [hd.isDigit_eq]
    simp only [List.cons_append, spanNumber, hnext]
    split
    · rw [ih]
    · rfl

theorem radix_append (c : Char) (cs : List Char) :
    radix (c :: cs ++ d :: tail) = ((radix (c :: cs)).1, (radix (c :: cs)).2 ++ d :: tail) := by
  cases cs with
  | nil =>
    have hne : d ≠ 'b' ∧ d ≠ 'B' ∧ d ≠ 'o' ∧ d ≠ 'O' ∧ d ≠ 'x' ∧ d ≠ 'X' :=
      ⟨hd.ne (by decide), hd.ne (by decide), hd.ne (by decide), hd.ne (by decide), hd.ne (by decide),
        hd.ne (by decide)⟩
    obtain ⟨h1, h2, h3, h4, h5, h6⟩ := hne
    by_cases hc : c = '0'
    · simp [radix, hc, h1, h2, h3, h4, h5, h6]
    · simp [radix, hc]
  | cons b cs =>
    by_cases hc : c = '0'
    · subst hc
      simp only [radix, List.cons_append]
      split_ifs <;> rfl
    · simp [radix, hc]

theorem number_append (c : Char) (cs : List Char) :
    number (c :: cs ++ d :: tail) = ((number (c :: cs)).1, (number (c :: cs)).2 ++ d :: tail) := by
  simp only [number_eq, radix_append hd, spanNumber_append hd]

theorem position_append (cs : List Char) :
    position (cs ++ d :: tail) = ((position cs).1, (position cs).2 ++ d :: tail) := by
  simp only [position, takeWhile_append_stop hd.isDigit_eq, dropWhile_append_stop hd.isDigit_eq]

theorem lexeme_append {c : Char} {cs : List Char} (h : ∀ t ∈ (lexeme c cs).1, t.isFault = false) :
    lexeme c (cs ++ d :: tail) = ((lexeme c cs).1, (lexeme c cs).2 ++ d :: tail) := by
  have hpair : (cs ++ d :: tail).head?.bind (pairSymbol? c) = cs.head?.bind (pairSymbol? c) := by
    cases cs <;> simp [hd.pairSymbol?_eq]
  unfold lexeme at h ⊢
  rw [hpair]
  split
  case h_1 s hs =>
    cases cs with
    | nil => cases hs
    | cons => rfl
  case h_2 hnone =>
    rw [hnone] at h
    dsimp only at h
    split
    case h_1 => rw [position_append hd]
    case h_2 => rfl
    case h_3 hsymbol =>
      rw [hsymbol] at h
      dsimp only at h
      split
      case isTrue hquote =>
        rw [if_pos hquote] at h
        have hescape : c ≠ '\\' := by
          rintro rfl
          revert hquote
          decide
        rw [stringToken_append hescape (h _ (List.mem_singleton_self _))]
      case isFalse hquote =>
        rw [if_neg hquote] at h
        split
        case isTrue => rw [← List.cons_append, number_append hd]
        case isFalse hdigit =>
          rw [if_neg hdigit] at h
          split
          case isTrue =>
            rw [takeWhile_append_stop hd.continuesWord_eq, dropWhile_append_stop hd.continuesWord_eq]
          case isFalse hword =>
            rw [if_neg hword] at h
            cases h _ (List.mem_singleton_self _)

end Append

/-! ### What a word leaves -/

theorem spanString_suffix {quote : Char} {cs body rest : List Char} (h : spanString quote cs = some (body, rest)) :
    rest <:+ cs := by
  induction cs using spanString.induct quote generalizing body with
  | case1 => cases h
  | case2 c cs ih =>
    rw [spanString] at h
    obtain ⟨⟨body', rest'⟩, hspan, heq⟩ := Option.map_eq_some_iff.mp h
    cases heq
    exact ((ih hspan).trans (List.suffix_cons _ _)).trans (List.suffix_cons _ _)
  | case3 cs hcs =>
    rw [spanString.eq_3 _ _ _ hcs, if_pos rfl] at h
    cases h
    exact List.suffix_cons _ _
  | case4 cs hcs hne =>
    rw [spanString.eq_3 _ _ _ hcs, if_neg hne, if_pos rfl] at h
    cases h
  | case5 c cs _ hne hc ih =>
    rw [spanString_cons hc, if_neg hne] at h
    obtain ⟨⟨body', rest'⟩, hspan, heq⟩ := Option.map_eq_some_iff.mp h
    cases heq
    exact (ih hspan).trans (List.suffix_cons _ _)

theorem stringToken_suffix (quote : Char) (cs : List Char) : (stringToken quote cs).2 <:+ cs := by
  unfold stringToken
  split
  · exact List.nil_suffix
  · rename_i hspan
    split <;> exact spanString_suffix hspan

theorem spanNumber_suffix (base : Nat) (part : NumberPart) (cs : List Char) :
    (spanNumber base part cs).2.2 <:+ cs := by
  induction cs generalizing part with
  | nil => exact List.suffix_refl _
  | cons c cs ih =>
    unfold spanNumber
    split
    · exact (ih _).trans (List.suffix_cons _ _)
    · exact List.suffix_refl _

theorem radix_eq (c : Char) (cs : List Char) :
    radix (c :: cs) = (10, c :: cs) ∨ ∃ base b rest, cs = b :: rest ∧ radix (c :: cs) = (base, rest) := by
  unfold radix
  split
  · rename_i b rest heq
    cases heq
    split_ifs
    · exact .inr ⟨2, b, rest, rfl, rfl⟩
    · exact .inr ⟨8, b, rest, rfl, rfl⟩
    · exact .inr ⟨16, b, rest, rfl, rfl⟩
    · exact .inl rfl
  · exact .inl rfl

/-- A number takes its first digit. -/
theorem number_suffix {c : Char} (hc : c.isDigit = true) (cs : List Char) : (number (c :: cs)).2 <:+ cs := by
  have hwhole : ∀ next, NumberPart.step 10 .whole c next = some .whole := by
    intro next
    have hne : c ≠ '_' := by
      rintro rfl
      revert hc
      decide
    simp [NumberPart.step, hc, hne]
  rcases radix_eq c cs with hplainly | ⟨base, b, rest, rfl, hbased⟩
  · rw [number_eq, hplainly]
    dsimp only
    rw [if_pos rfl]
    simp only [spanNumber, hwhole]
    exact spanNumber_suffix _ _ _
  · rw [number_eq, hbased]
    exact (spanNumber_suffix _ _ _).trans (List.suffix_cons _ _)

/-- A word takes at least one character. -/
theorem lexeme_suffix (c : Char) (cs : List Char) : (lexeme c cs).2 <:+ cs := by
  unfold lexeme
  split
  · exact List.drop_suffix _ _
  split
  · exact List.dropWhile_suffix _
  · exact List.suffix_refl _
  split_ifs with _ hdigit
  · exact stringToken_suffix _ _
  · exact number_suffix hdigit _
  · exact List.dropWhile_suffix _
  · exact List.nil_suffix

/-- Words that leave the brackets and the placeholder as they are. -/
structure Plain (t : Token) : Prop where
  balance : t.balance = 0
  inside : t ≠ .endValue

theorem plain_fault (f : Fault) : Plain (.fault f) := ⟨rfl, by simp⟩

theorem plain_wholeToken (base : Nat) (digits : List Char) : Plain (wholeToken base digits) := by
  unfold wholeToken
  split
  · split
    · exact ⟨rfl, by simp⟩
    · exact plain_fault _
  · exact plain_fault _

theorem plain_numberToken (base : Nat) (part : NumberPart) (taken : List Char) :
    Plain (numberToken base part taken) := by
  unfold numberToken
  dsimp only
  split_ifs
  · exact plain_fault _
  · exact plain_wholeToken _ _
  · split
    · exact ⟨rfl, by simp⟩
    · exact plain_fault _

theorem plain_stringToken (quote : Char) (cs : List Char) : Plain (stringToken quote cs).1 := by
  unfold stringToken
  split
  · exact plain_fault _
  · split
    · exact ⟨rfl, by simp⟩
    · exact plain_fault _

theorem position_fst (cs : List Char) : (position cs).1 = [] ∨ ∃ t, (position cs).1 = [t] ∧ Plain t := by
  unfold position
  dsimp only
  split
  · exact .inl rfl
  · exact .inr ⟨_, rfl, plain_wholeToken _ _⟩

theorem balance_position (cs : List Char) : balanceOfAll (position cs).1 = 0 := by
  rcases position_fst cs with h | ⟨t, h, ht⟩
  · rw [h, balanceOfAll_nil]
  · simp [h, ht.balance]

theorem balance_pairSymbol {c d : Char} {s : Symbol} (h : pairSymbol? c d = some s) : balanceOf s = 0 := by
  unfold pairSymbol? at h
  split at h <;> cases h <;> rfl

theorem endValue_notMem_lexeme (c : Char) (cs : List Char) : .endValue ∉ (lexeme c cs).1 := by
  have hlone : ∀ {t}, Plain t → Token.endValue ∉ [t] := fun h hmem => h.inside (List.mem_singleton.mp hmem).symm
  unfold lexeme
  split
  · simp
  split
  · rcases position_fst cs with h | ⟨t, h, ht⟩
    · simp [h]
    · simpa [h] using ht.inside.symm
  · simp
  split_ifs
  · exact hlone (plain_stringToken _ _)
  · exact hlone (plain_numberToken _ _ _)
  · simp
  · exact hlone (plain_fault _)

theorem lexeme_blank {c : Char} (hc : Text.isBlank c = true) (cs : List Char) :
    lexeme c cs = ([.fault .badStructure], []) := by
  have hbounds := bounds_of_isBlank hc
  have hpair : ∀ d, pairSymbol? c d = none := by
    intro d
    unfold pairSymbol?
    split
    case h_7 => rfl
    all_goals cases hc
  have hsymbol : symbol? c = none := by
    unfold symbol?
    split
    case h_20 => rfl
    all_goals cases hc
  have hquote : ¬(c = '\'' ∨ c = '"') := by
    rintro (rfl | rfl) <;> cases hc
  have hword : startsWord c = false := by
    have hunderscore : c ≠ '_' := hbounds.ne (by decide)
    simp [startsWord, hbounds.isAlpha_eq, hunderscore]
  have hnone : cs.head?.bind (pairSymbol? c) = none := by
    cases cs <;> simp [hpair]
  simp [lexeme, hnone, hsymbol, hquote, hbounds.isDigit_eq, hword]

end Casebook.Template.Token
