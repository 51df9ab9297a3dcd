import Mathlib.Data.List.DropRight
import Casebook.Proofs.Template.Words
import Casebook.Proofs.Text

/-! Scanning an expression on its own and in a placeholder.  A placeholder gives the words of its inside, unless a blank
of another script stands around them. -/
namespace Casebook.Template

/-- A text around one placeholder, by the characters around and inside of it. -/
def around (before inner after : List Char) : String :=
  String.ofList (before ++ '{' :: '{' :: (inner ++ '}' :: '}' :: after))

namespace Token

/-! ### Scanning inside of a marker -/

/-- Not in the text around markers. -/
def Mode.Inside (mode : Mode) : Prop := ∀ t, mode ≠ .outside t

theorem Mode.inside_bare : Mode.bare.Inside := fun _ h => (nomatch h)

theorem Mode.inside_value (b : Int) : (Mode.value b).Inside := fun _ h => (nomatch h)

theorem scan_eq_nil {mode : Mode} (hmode : mode.Inside) {cs : List Char}
    (hcs : cs.dropWhile isAsciiBlank = []) (fuel : Nat) : scan (fuel + 1) mode cs = [] := by
  rw [scan.eq_3 _ _ _ hmode, hcs]

theorem scan_nil (fuel : Nat) (mode : Mode) (hmode : mode.Inside) : scan fuel mode [] = [] := by
  cases fuel with
  | zero => rfl
  | succ fuel => exact scan_eq_nil hmode rfl fuel

theorem Mode.shift_zero (mode : Mode) : mode.shift 0 = mode := by
  cases mode <;> simp [Mode.shift]

/-- One step inside of a marker. -/
theorem scan_succ {mode : Mode} (hmode : mode.Inside) {cs rest : List Char} {c : Char} (fuel : Nat)
    (hcs : cs.dropWhile isAsciiBlank = c :: rest) (hopen : closing? mode (c :: rest) = none) :
    scan (fuel + 1) mode cs =
      (lexeme c rest).1 ++ scan fuel (mode.shift (balanceOfAll (lexeme c rest).1)) (lexeme c rest).2 := by
  rw [scan.eq_3 _ _ _ hmode]
  simp only [hcs, hopen]
  split
  case h_1 s hs =>
    obtain ⟨d, -, hd⟩ := Option.bind_eq_some_iff.mp hs
    simp [lexeme, hs, balance_pairSymbol hd, Mode.shift_zero]
  case h_2 hnone =>
    split
    case h_1 hdot => simp [lexeme, hnone, hdot, balance_position, balanceOf, Mode.shift_zero]
    case h_2 s hs hsymbol => simp [lexeme, hnone, hsymbol]
    case h_3 hsymbol =>
      split_ifs with hquote hdigit hword
      · simp [lexeme, hnone, hsymbol, hquote, (plain_stringToken c rest).balance, Mode.shift_zero]
      · simp [lexeme, hnone, hsymbol, hquote, hdigit, number_eq, (plain_numberToken _ _ _).balance, Mode.shift_zero]
      · simp [lexeme, hnone, hsymbol, hquote, hdigit, hword, Mode.shift_zero]
      · simp [lexeme, hnone, hsymbol, hquote, hdigit, hword, balance, scan_nil, hmode, Mode.shift_zero]

/-- Blanks in front do not matter inside of a marker. -/
theorem scan_congr {mode : Mode} (hmode : mode.Inside) {cs cs' : List Char}
    (h : cs.dropWhile isAsciiBlank = cs'.dropWhile isAsciiBlank) (fuel : Nat) :
    scan (fuel + 1) mode cs = scan (fuel + 1) mode cs' := by
  rw [scan.eq_3 _ _ _ hmode, scan.eq_3 _ _ _ hmode, h]

/-! ### Placeholders -/

theorem closing?_value {b : Int} {cs after : List Char} {trims : Bool}
    (h : closing? (.value b) cs = some (trims, after)) :
    b = 0 ∧ (cs = '-' :: '}' :: '}' :: after ∨ cs = '+' :: '}' :: '}' :: after ∨ cs = '}' :: '}' :: after) := by
  rw [closing?, Mode.closer?] at h
  by_cases hb : b = 0
  swap
  · cases (if_pos hb).symm.trans h
  have hmatch := (if_neg (not_not.mpr hb)).symm.trans h
  refine ⟨hb, ?_⟩
  split at hmatch
  case h_4 => cases hmatch
  all_goals
    split at hmatch
    case isFalse => cases hmatch
    case isTrue heq =>
      cases hmatch
      simp [heq]

/-- What stands before the end of a placeholder, if an end marker starts there too early. -/
theorem eq_of_closing {b : Int} {cs after after' : List Char} {trims : Bool} (hcs : cs ≠ [])
    (hpair : ¬['}', '}'] <:+: cs) (h : closing? (.value b) (cs ++ '}' :: '}' :: after) = some (trims, after')) :
    b = 0 ∧ (cs = ['}'] ∨ ∃ s, (s = '-' ∨ s = '+') ∧ (cs = [s] ∨ cs = [s, '}'])) := by
  obtain ⟨hb, hfront⟩ := closing?_value h
  refine ⟨hb, ?_⟩
  have hsign : ∀ s, cs ++ '}' :: '}' :: after = s :: '}' :: '}' :: after' → cs = [s] ∨ cs = [s, '}'] := by
    intro s heq
    rcases cs with _ | ⟨c, _ | ⟨d, _ | ⟨e, cs⟩⟩⟩
    · exact absurd rfl hcs
    · simp_all
    · simp_all
    · simp only [List.cons_append, List.cons.injEq] at heq
      obtain ⟨rfl, rfl, rfl, -⟩ := heq
      exact absurd ⟨[c], cs, rfl⟩ hpair
  rcases hfront with heq | heq | heq
  · exact .inr ⟨'-', .inl rfl, hsign _ heq⟩
  · exact .inr ⟨'+', .inr rfl, hsign _ heq⟩
  · rcases cs with _ | ⟨c, _ | ⟨d, cs⟩⟩
    · exact absurd rfl hcs
    · simp_all
    · simp only [List.cons_append, List.cons.injEq] at heq
      obtain ⟨rfl, rfl, -⟩ := heq
      exact absurd ⟨[], cs, rfl⟩ hpair

/-- No end marker stands where words go on. -/
theorem closing?_eq_none {b : Int} {c : Char} {rest ws : List Char} {f : Nat}
    (hpair : ¬['}', '}'] <:+: c :: rest ++ ws)
    (hws : Text.Blank ws) (hf : rest.length + 1 < f)
    (hbalance : b + balanceOfAll (scan f .bare (c :: rest)) = 0)
    (hsign : endsSigned false (scan f .bare (c :: rest)) = false) (after : List Char) :
    closing? (.value b) (c :: rest ++ (ws ++ '}' :: '}' :: after)) = none := by
  rw [← List.append_assoc]
  cases hclosing : closing? (.value b) (c :: rest ++ ws ++ '}' :: '}' :: after) with
  | none => rfl
  | some found =>
    obtain ⟨rfl, hearly⟩ := eq_of_closing (by simp) hpair hclosing
    rw [Int.zero_add] at hbalance
    obtain ⟨k, rfl⟩ := Nat.exists_eq_add_of_le' hf
    rcases hearly with hbrace | ⟨s, hs, hlone | hbraced⟩
    · simp only [List.cons_append, List.cons.injEq, List.append_eq_nil_iff] at hbrace
      obtain ⟨rfl, rfl, rfl⟩ := hbrace
      have hscan : scan (k + 2) .bare ['}'] = [.symbol .closeBrace] := rfl
      cases (congrArg balanceOfAll hscan).symm.trans hbalance
    · simp only [List.cons_append, List.cons.injEq, List.append_eq_nil_iff] at hlone
      obtain ⟨rfl, rfl, rfl⟩ := hlone
      have hscan : endsSigned false (scan (k + 2) .bare [c]) = true := by
        rcases hs with rfl | rfl <;> rfl
      cases hscan.symm.trans hsign
    · simp only [List.cons_append, List.cons.injEq, List.append_eq_singleton_iff] at hbraced
      obtain ⟨rfl, ⟨rfl, rfl⟩ | ⟨rfl, rfl⟩⟩ := hbraced
      · cases hws '}' (List.mem_singleton_self _)
      · have hscan : balanceOfAll (scan (k + 3) .bare [c, '}']) = -1 := by
          rcases hs with rfl | rfl <;> rfl
        cases hscan.symm.trans hbalance

theorem endsSigned_eq_false {before : Bool} {ts : List Token} (h : endsSigned before ts = false) :
    endsSigned false ts = false := by
  cases ts with
  | nil => rfl
  | cons => exact h

theorem scan_value_append {ws : List Char} (hws : Text.Blank ws) (after : List Char) (f : Nat)
    (cs : List Char) (b : Int) (g : Nat) (hpair : ¬['}', '}'] <:+: cs ++ ws) (hf : cs.length < f) (hg : f ≤ g)
    (hsound : ∀ t ∈ scan f .bare cs, t.isFault = false) (hsign : endsSigned false (scan f .bare cs) = false)
    (hbalance : b + balanceOfAll (scan f .bare cs) = 0) :
    ∃ g', g ≤ g' + f ∧ scan g (.value b) (cs ++ (ws ++ '}' :: '}' :: after)) =
      scan f .bare cs ++ scan (g' + 1) (.value 0) (ws ++ '}' :: '}' :: after) := by
  obtain ⟨d, tail, htail, hd⟩ : ∃ d tail, ws ++ '}' :: '}' :: after = d :: tail ∧ Bounds d := by
    cases ws with
    | nil => exact ⟨'}', _, rfl, bounds_brace⟩
    | cons w ws => exact ⟨w, _, rfl, bounds_of_isBlank (hws w (List.mem_cons_self ..))⟩
  induction f generalizing cs b g with
  | zero => exact absurd hf (Nat.not_lt_zero _)
  | succ f ih =>
    obtain ⟨g, rfl⟩ := Nat.exists_eq_add_of_le' (Nat.le_trans (Nat.le_add_left 1 f) hg)
    cases hcs : cs.dropWhile isAsciiBlank with
    | nil =>
      have hnone : scan (f + 1) .bare cs = [] := scan_eq_nil Mode.inside_bare hcs f
      rw [hnone, balanceOfAll_nil, Int.add_zero] at hbalance
      refine ⟨g, by omega, ?_⟩
      rw [hnone, hbalance, List.nil_append]
      exact scan_congr (Mode.inside_value 0) (by simp [List.dropWhile_append, hcs]) g
    | cons c rest =>
      have hsuffix : c :: rest <:+ cs := hcs ▸ List.dropWhile_suffix _
      have hlength : rest.length + 1 ≤ cs.length := hsuffix.length_le
      have hstart : (cs ++ (ws ++ '}' :: '}' :: after)).dropWhile isAsciiBlank =
          c :: (rest ++ (ws ++ '}' :: '}' :: after)) := by
        simp [List.dropWhile_append, hcs]
      have hskip : scan (f + 1) .bare cs = scan (f + 1) .bare (c :: rest) := by
        refine scan_congr Mode.inside_bare ?_ f
        rw [← hcs, List.dropWhile_idempotent]
      have hpair' : ¬['}', '}'] <:+: c :: rest ++ ws := fun h =>
        hpair (h.trans (List.suffix_append_self_iff.mpr hsuffix).isInfix)
      have hopen : closing? (.value b) (c :: rest ++ (ws ++ '}' :: '}' :: after)) = none :=
        closing?_eq_none hpair' hws (Nat.lt_of_le_of_lt hlength hf) (hskip ▸ hbalance) (hskip ▸ hsign) _
      have hstep : scan (f + 1) .bare cs = (lexeme c rest).1 ++ scan f .bare (lexeme c rest).2 :=
        scan_succ Mode.inside_bare f hcs rfl
      rw [hstep] at hsound hsign hbalance ⊢
      have hlexeme := lexeme_append hd tail fun t ht => hsound t (List.mem_append_left _ ht)
      rw [← htail] at hlexeme
      rw [scan_succ (Mode.inside_value b) g hstart hopen, hlexeme]
      have hrest : (lexeme c rest).2 <:+ c :: rest := (lexeme_suffix c rest).trans (List.suffix_cons _ _)
      have hpair'' : ¬['}', '}'] <:+: (lexeme c rest).2 ++ ws := fun h =>
        hpair' (h.trans (List.suffix_append_self_iff.mpr hrest).isInfix)
      have hlength' : (lexeme c rest).2.length < f := by
        have := (lexeme_suffix c rest).length_le
        omega
      rw [balanceOfAll_append, ← Int.add_assoc] at hbalance
      rw [endsSigned_append] at hsign
      obtain ⟨g', hg', hscan⟩ := ih (lexeme c rest).2 (b + balanceOfAll (lexeme c rest).1) g hpair'' hlength'
        (by omega) (fun t ht => hsound t (List.mem_append_right _ ht)) (endsSigned_eq_false hsign) hbalance
      refine ⟨g', by omega, ?_⟩
      rw [Mode.shift, hscan, List.append_assoc]

/-- Blanks in front of a word: one of another script is a fault. -/
theorem scan_blanks {ws : List Char} (hws : Text.Blank ws) (cs : List Char)
    (b : Int) (g : Nat) :
    scan (g + 1) (.value b) (ws ++ cs) = scan (g + 1) (.value b) cs ∨
      scan (g + 1) (.value b) (ws ++ cs) = [.fault .badStructure] := by
  cases hblank : ws.dropWhile isAsciiBlank with
  | nil => exact .inl (scan_congr (Mode.inside_value b) (by simp [List.dropWhile_append, hblank]) g)
  | cons c rest =>
    refine .inr ?_
    have hc : Text.isBlank c = true := hws c ((List.dropWhile_suffix _).subset (hblank ▸ List.mem_cons_self ..))
    have hopen : closing? (.value b) (c :: (rest ++ cs)) = none := by
      cases hclosing : closing? (.value b) (c :: (rest ++ cs)) with
      | none => rfl
      | some found =>
        exfalso
        rcases (closing?_value hclosing).2 with heq | heq | heq
        all_goals
          obtain ⟨rfl, -⟩ := List.cons.inj heq
          cases hc
    rw [scan_succ (Mode.inside_value b) g (by simp [List.dropWhile_append, hblank]) hopen, lexeme_blank hc, scan_nil]
    · rfl
    · exact fun _ h => by cases h

theorem endValue_notMem_scan (f : Nat) (cs : List Char) : .endValue ∉ scan f .bare cs := by
  induction f generalizing cs with
  | zero => exact List.not_mem_nil
  | succ f ih =>
    cases hcs : cs.dropWhile isAsciiBlank with
    | nil =>
      rw [scan_eq_nil Mode.inside_bare hcs]
      exact List.not_mem_nil
    | cons c rest =>
      rw [scan_succ Mode.inside_bare f hcs rfl, List.mem_append]
      exact fun h => h.elim (endValue_notMem_lexeme c rest) (ih _)

theorem scan_closing (g : Nat) (after : List Char) :
    scan (g + 1) (.value 0) ('}' :: '}' :: after) = .endValue :: scan g (.outside false) after := rfl

theorem opening?_cons {c : Char} (hc : c ≠ '{') (cs : List Char) :
    opening? (c :: cs) = (opening? cs).map fun found => (c :: found.1, found.2) :=
  opening?.eq_2 c cs fun _ _ h _ => hc h

theorem opening?_append {before : List Char} (hbefore : '{' ∉ before) (rest : List Char) :
    opening? (before ++ '{' :: '{' :: rest) = some (before, '{', rest) := by
  induction before with
  | nil => rfl
  | cons c before ih =>
    obtain ⟨hc, hbefore⟩ := not_or.mp (mt List.mem_cons.mpr hbefore)
    rw [List.cons_append, opening?_cons (Ne.symm hc), ih hbefore]
    rfl

theorem opening?_eq_none {cs : List Char} (hcs : '{' ∉ cs) : opening? cs = none := by
  induction cs with
  | nil => rfl
  | cons c cs ih =>
    obtain ⟨hc, hcs⟩ := not_or.mp (mt List.mem_cons.mpr hcs)
    rw [opening?_cons (Ne.symm hc), ih hcs]
    rfl

/-- A text without its last character, if that is a given one. -/
def withoutLast (c : Char) (cs : List Char) : List Char := if cs.getLast? = some c then cs.dropLast else cs

theorem dropLineEnd_eq (cs : List Char) : dropLineEnd cs = withoutLast '\r' (withoutLast '\n' cs) := by
  rcases List.eq_nil_or_concat' cs with rfl | ⟨init, c, rfl⟩
  · rfl
  by_cases hc : c = '\n'
  · subst hc
    rcases List.eq_nil_or_concat' init with rfl | ⟨init, d, rfl⟩
    · rfl
    · by_cases hd : d = '\r' <;> simp [dropLineEnd, withoutLast, hd]
  · by_cases hd : c = '\r' <;> simp [dropLineEnd, withoutLast, hc, hd]

theorem withoutLast_append {c d : Char} (hne : d ≠ c) (cs after : List Char) :
    ∃ after', after' <+: after ∧ withoutLast c (cs ++ d :: after) = cs ++ d :: after' := by
  rcases List.eq_nil_or_concat' after with rfl | ⟨init, e, rfl⟩
  · exact ⟨[], List.prefix_refl _, by simp [withoutLast, hne]⟩
  · unfold withoutLast
    split
    · have hlast : cs ++ d :: (init ++ [e]) = (cs ++ d :: init) ++ [e] := by simp
      exact ⟨init, List.prefix_append _ _, by rw [hlast, List.dropLast_concat]⟩
    · exact ⟨_, List.prefix_refl _, rfl⟩

/-- A placeholder whose start has no sign. -/
theorem scan_opening {before rest : List Char} (hbefore : '{' ∉ before) (hminus : rest.head? ≠ some '-')
    (hplus : rest.head? ≠ some '+') (g : Nat) :
    scan (g + 1) (.outside false) (before ++ '{' :: '{' :: rest) =
      dataToken before ++ .beginValue :: scan g (.value 0) rest := by
  have hsign : dropSign rest = rest := by
    unfold dropSign
    split
    · exact absurd rfl hminus
    · exact absurd rfl hplus
    · rfl
  rw [scan]
  simp [opening?_append hbefore, hminus, hsign]

/-- Leaving out a line end at the end of a template keeps the end of a placeholder. -/
theorem dropLineEnd_append (cs after : List Char) :
    ∃ after', after' <+: after ∧ dropLineEnd (cs ++ '}' :: after) = cs ++ '}' :: after' := by
  obtain ⟨mid, hmid, hnewline⟩ := withoutLast_append (c := '\n') (d := '}') (by decide) cs after
  obtain ⟨after', hafter, hreturn⟩ := withoutLast_append (c := '\r') (d := '}') (by decide) cs mid
  exact ⟨after', hafter.trans hmid, by rw [dropLineEnd_eq, hnewline, hreturn]⟩

/-- An expression with blanks around it in a placeholder. -/
theorem scan_placeholder {ws cs ws' after : List Char} (hws : Text.Blank ws)
    (hws' : Text.Blank ws') (hafter : '{' ∉ after) (hpair : ¬['}', '}'] <:+: cs ++ ws')
    {ts : List Token} (hts : scan (cs.length + 2) .bare cs = ts) (hends : Ends 0 ts)
    (hsound : ∀ t ∈ ts, t.isFault = false) {g : Nat} (hg : cs.length + 3 ≤ g)
    {words : List Token} (hwords : scan g (.value 0) (ws ++ (cs ++ (ws' ++ '}' :: '}' :: after))) = words) :
    .endValue ∉ words ∨ words = ts ++ .endValue :: dataToken after := by
  have hbad : Token.endValue ∉ [Token.fault .badStructure] := by simp
  have hinner : .endValue ∉ ts := hts ▸ endValue_notMem_scan _ cs
  obtain ⟨g, rfl⟩ := Nat.exists_eq_add_of_le' (Nat.le_trans (Nat.le_add_left 1 _) hg)
  rcases scan_blanks hws (cs ++ (ws' ++ '}' :: '}' :: after)) 0 g with hfront | hfront
  swap
  · refine .inl ?_
    rwa [← hwords, hfront]
  subst hts
  obtain ⟨g', hg', happend⟩ := scan_value_append hws' after (cs.length + 2) cs 0 (g + 1) hpair (by omega) (by omega)
    hsound (hends.signed false) (by rw [hends.balance]; rfl)
  rw [hfront, happend] at hwords
  obtain ⟨k, rfl⟩ : ∃ k, g' = k + 1 := ⟨g' - 1, by omega⟩
  rcases scan_blanks hws' ('}' :: '}' :: after) 0 (k + 1) with hback | hback
  · refine .inr ?_
    have hdata : scan (k + 1) (.outside false) after = dataToken after := by
      rw [scan]
      simp [opening?_eq_none hafter]
    rw [← hdata, ← scan_closing, ← hback, hwords]
  · refine .inl ?_
    rw [← hwords, hback, List.mem_append]
    exact fun h => h.elim hinner hbad

/-- A placeholder does not start with a plus sign if its expression does not. -/
theorem head?_ne_plus {cs : List Char} (hspans : Spans (ofExpression (String.ofList (Text.trimList Text.isBlank cs)))) :
    cs.head? ≠ some '+' := by
  intro hplus
  obtain ⟨ws, ws', hws, hws', hcs⟩ := Text.exists_trimList Text.isBlank cs
  have hblank : Text.isBlank '+' = false := rfl
  have hfirst : ∀ ws : List Char, Text.Blank ws → ws.head? ≠ some '+' := by
    intro ws hws hhead
    cases (hws '+' (List.mem_of_head? hhead)).symm.trans hblank
  rw [hcs] at hplus
  cases ws with
  | cons c ws => exact hfirst _ hws hplus
  | nil =>
    cases htrim : Text.trimList Text.isBlank cs with
    | nil =>
      rw [htrim] at hplus
      exact hfirst _ hws' hplus
    | cons c rest =>
      rw [htrim] at hplus hspans
      cases hplus
      obtain ⟨t, ht, hne⟩ := hspans.head
      have hlexeme : lexeme '+' rest = ([.symbol .plus], rest) := by
        cases rest <;> rfl
      have hscan : scan (rest.length + 3) .bare ('+' :: rest) = (lexeme '+' rest).1 ++ scan (rest.length + 2)
          (Mode.bare.shift (balanceOfAll (lexeme '+' rest).1)) (lexeme '+' rest).2 :=
        scan_succ Mode.inside_bare _ rfl rfl
      rw [hlexeme] at hscan
      rw [ofExpression, String.toList_ofList, String.length_ofList, List.length_cons, Nat.add_right_comm, hscan] at ht
      exact hne (Option.some.inj ht).symm

/-- The words of a text around one placeholder, where the inside is an expression on its own: they are the words of the
expression in a placeholder, or the placeholder never ends. -/
theorem ofTemplate_placeholder {before inner after : List Char} (hbefore : Text.Blank before)
    (hafter : Text.Blank after) (hhead : inner.head? ≠ some '-')
    (hpair : ¬['}', '}'] <:+: inner)
    {ts : List Token} (hts : ofExpression (String.ofList (Text.trimList Text.isBlank inner)) = ts) (hspans : Spans ts)
    (hsound : ∀ t ∈ ts, t.isFault = false) :
    ∃ words, ofTemplate (around before inner after) =
        dataToken before ++ .beginValue :: words ∧
      (.endValue ∉ words ∨
        ∃ after', Text.Blank after' ∧ words = ts ++ .endValue :: dataToken after') := by
  obtain ⟨ws, ws', hws, hws', hinner⟩ := Text.exists_trimList Text.isBlank inner
  obtain ⟨after', hsub, hdrop⟩ := dropLineEnd_append (before ++ '{' :: '{' :: (inner ++ ['}'])) after
  have hafter' : Text.Blank after' := fun c hc => hafter c (hsub.subset hc)
  have hbrace : ∀ ws : List Char, Text.Blank ws → '{' ∉ ws := by
    intro ws hws hmem
    cases hws _ hmem
  have hdrop' : dropLineEnd (before ++ '{' :: '{' :: (inner ++ '}' :: '}' :: after)) =
      before ++ '{' :: '{' :: (inner ++ '}' :: '}' :: after') := by
    simpa using hdrop
  have hends : ∀ s, s ≠ '}' → inner.head? ≠ some s → (inner ++ '}' :: '}' :: after').head? ≠ some s := by
    intro s hs
    cases inner <;> simp [hs.symm]
  have hminus := hends '-' (by decide) hhead
  have hplus := hends '+' (by decide) (head?_ne_plus (hts ▸ hspans))
  rw [ofTemplate, around, String.toList_ofList, hdrop', scan_opening (hbrace _ hbefore) hminus hplus]
  refine ⟨_, rfl, ?_⟩
  rw [ofExpression, String.toList_ofList, String.length_ofList] at hts
  have hpair' : ¬['}', '}'] <:+: Text.trimList Text.isBlank inner ++ ws' := fun h =>
    hpair (h.trans ⟨ws, [], by rw [List.append_nil, ← hinner]⟩)
  have hlength : (Text.trimList Text.isBlank inner).length ≤ inner.length := by
    have := congrArg List.length hinner
    simp only [List.length_append] at this
    omega
  have hsplit : inner ++ '}' :: '}' :: after' =
      ws ++ (Text.trimList Text.isBlank inner ++ (ws' ++ '}' :: '}' :: after')) := by
    rw [← List.append_assoc _ ws', ← List.append_assoc ws, ← hinner]
  rw [hsplit]
  refine (scan_placeholder hws hws' (hbrace _ hafter') hpair' hts hspans.toEnds hsound ?_ rfl).imp_right fun h => ?_
  · simp only [List.length_append, List.length_cons]
    omega
  · exact ⟨after', hafter', h⟩

end Token

end Casebook.Template
