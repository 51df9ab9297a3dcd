import Mathlib
import Casebook.Text.Basic

/-! Trimming and cutting texts: what is left of a text between blanks, and where a text is cut. -/
namespace Casebook.Text

/-! ### Trimming -/

/-- Nothing but blanks. -/
def Blank (cs : List Char) : Prop := ∀ c ∈ cs, isBlank c = true

section Trim

variable {p : Char → Bool}

theorem exists_trimList (p : Char → Bool) (cs : List Char) :
    ∃ ws ws', (∀ c ∈ ws, p c = true) ∧ (∀ c ∈ ws', p c = true) ∧ cs = ws ++ (trimList p cs ++ ws') := by
  refine ⟨cs.takeWhile p, ((cs.dropWhile p).reverse.takeWhile p).reverse, ?_, ?_, ?_⟩
  · exact fun c hc => List.mem_takeWhile_imp hc
  · exact fun c hc => List.mem_takeWhile_imp (List.mem_reverse.mp hc)
  · rw [trimList, ← List.reverse_append, List.takeWhile_append_dropWhile, List.reverse_reverse,
      List.takeWhile_append_dropWhile]

theorem trimList_append {ws ws' : List Char} (hws : ∀ c ∈ ws, p c = true) (hws' : ∀ c ∈ ws', p c = true)
    (cs : List Char) : trimList p (ws ++ (cs ++ ws')) = trimList p cs := by
  unfold trimList
  rw [List.dropWhile_append_of_pos hws, List.dropWhile_append]
  split
  case isTrue hcs =>
    rw [List.isEmpty_iff] at hcs
    rw [hcs, List.dropWhile_eq_nil_iff.mpr hws']
  case isFalse =>
    rw [List.reverse_append, List.dropWhile_append_of_pos fun c hc => hws' c (List.mem_reverse.mp hc)]

/-- A text stays as it is where neither its first nor its last character is trimmed. -/
theorem trimList_eq_self_iff {cs : List Char} :
    trimList p cs = cs ↔ (∀ c, cs.head? = some c → p c = false) ∧ ∀ c, cs.getLast? = some c → p c = false := by
  have hright : trimList p cs = (cs.dropWhile p).rdropWhile p := rfl
  have hhead : cs.dropWhile p = cs ↔ ∀ c, cs.head? = some c → p c = false := by
    cases cs <;> simp [List.dropWhile_eq_self_iff]
  have hlast : cs.rdropWhile p = cs ↔ ∀ c, cs.getLast? = some c → p c = false := by
    cases cs using List.reverseRecOn <;> simp [List.rdropWhile_eq_self_iff]
  rw [hright, ← hhead, ← hlast]
  constructor
  · intro h
    have hkeep : cs.dropWhile p = cs := by
      refine (List.dropWhile_suffix p).eq_of_length_le ?_
      have hle := (List.rdropWhile_prefix p (cs.dropWhile p)).length_le
      rwa [h] at hle
    rw [hkeep] at h
    exact ⟨hkeep, h⟩
  · rintro ⟨hkeep, h⟩
    rw [hkeep, h]

theorem rdropWhile_append_cons {c : Char} (hc : p c = false) (front cs : List Char) :
    (front ++ c :: cs).rdropWhile p = front ++ c :: cs.rdropWhile p := by
  induction cs using List.reverseRecOn with
  | nil => simpa using List.rdropWhile_concat_neg p front c (by simp [hc])
  | append_singleton cs d ih =>
    have hsplit : front ++ c :: (cs ++ [d]) = front ++ c :: cs ++ [d] := by simp
    rw [hsplit, List.rdropWhile_concat, List.rdropWhile_concat, ih]
    split
    · rfl
    · exact hsplit.symm

/-- A text that starts with a character that stays is trimmed at its end only. -/
theorem trimList_cons {c : Char} (hc : p c = false) (cs : List Char) :
    trimList p (c :: cs) = c :: cs.rdropWhile p := by
  rw [trimList, List.dropWhile_cons_of_neg (by simp [hc])]
  exact rdropWhile_append_cons hc [] cs

theorem trimList_rdropWhile (cs : List Char) : trimList p (cs.rdropWhile p) = trimList p cs := by
  have hcs : cs.rdropWhile p ++ cs.rtakeWhile p = cs := List.rdropWhile_append_rtakeWhile
  have hend : ∀ c ∈ cs.rtakeWhile p, p c = true := fun c hc => List.mem_rtakeWhile_imp hc
  have htrim := trimList_append (List.forall_mem_nil _) hend (cs.rdropWhile p)
  rw [← htrim, List.nil_append, hcs]

theorem trimList_eq_self {c d : Char} (hc : p c = false) (hd : p d = false) (cs : List Char) :
    trimList p (c :: (cs ++ [d])) = c :: (cs ++ [d]) := by
  simp [trimList, hc, hd]

theorem trimList_eq_self_of_forall {cs : List Char} (h : ∀ c ∈ cs, p c = false) : trimList p cs = cs :=
  trimList_eq_self_iff.mpr ⟨fun c hc => h c (List.mem_of_head? hc), fun c hc => h c (List.mem_of_getLast? hc)⟩

end Trim

theorem isBlank_of_isDigit {c : Char} (h : c.isDigit = true) : isBlank c = false := by
  obtain ⟨hlow, hhigh⟩ := Bool.and_eq_true_iff.mp h
  have hlow : 48 ≤ c.toNat := UInt32.le_iff_toNat_le.mp (of_decide_eq_true hlow)
  have hhigh : c.toNat ≤ 57 := UInt32.le_iff_toNat_le.mp (of_decide_eq_true hhigh)
  simp only [isBlank, inRanges, blankRanges, List.any_cons, List.any_nil, Bool.or_false,
    Bool.or_eq_false_iff, Bool.and_eq_false_iff, decide_eq_false_iff_not]
  omega

/-! ### Cutting -/

theorem not_infix_of_breakOn {needle cs : List Char} (h : breakOn needle cs = none) : ¬needle <:+: cs := by
  induction cs with
  | nil =>
    rw [breakOn] at h
    intro hinfix
    rw [List.infix_nil.mp hinfix] at h
    cases h
  | cons c cs ih =>
    rw [breakOn] at h
    split at h
    case isTrue => cases h
    case isFalse hprefix =>
      rw [List.infix_cons_iff, not_or]
      exact ⟨mt List.isPrefixOf_iff_prefix.mpr hprefix, ih (Option.map_eq_none_iff.mp h)⟩

/-- A text is cut at the first occurrence of a character. -/
theorem breakOn_singleton {c : Char} {before : List Char} (h : c ∉ before) (after : List Char) :
    breakOn [c] (before ++ c :: after) = some (before, after) := by
  induction before with
  | nil => simp [breakOn]
  | cons d before ih =>
    obtain ⟨hd, hbefore⟩ := not_or.mp (mt List.mem_cons.mpr h)
    rw [List.cons_append, breakOn, if_neg (by simpa using hd), ih hbefore]
    rfl

theorem notMem_of_breakOn {c : Char} {cs before after : List Char} (h : breakOn [c] cs = some (before, after)) :
    c ∉ before := by
  induction cs generalizing before with
  | nil => cases h
  | cons d cs ih =>
    rw [breakOn] at h
    split at h
    case isTrue =>
      cases h
      exact List.not_mem_nil
    case isFalse hd =>
      obtain ⟨⟨before, after⟩, hcs, heq⟩ := Option.map_eq_some_iff.mp h
      cases heq
      simpa using ⟨fun heq => hd (by simp [heq]), ih hcs⟩

theorem contains_iff (needle s : String) : contains needle s = true ↔ needle.toList <:+: s.toList := by
  unfold contains
  cases h : breakOn needle.toList s.toList with
  | none => simpa using not_infix_of_breakOn h
  | some cut => simpa using ⟨cut.1, cut.2, (breakOn_eq_append h).symm⟩

/-- The pieces between the occurrences of a character. -/
theorem piecesList_singleton {cs : List Char} {fuel : Nat} (h : cs.length ≤ fuel) (c : Char) :
    piecesList [c] fuel cs = cs.splitOn c := by
  induction fuel generalizing cs with
  | zero =>
    obtain rfl := List.length_eq_zero_iff.mp (Nat.le_zero.mp h)
    rfl
  | succ fuel ih =>
    rw [piecesList]
    cases hcut : breakOn [c] cs with
    | none =>
      have hc : c ∉ cs := fun hmem => not_infix_of_breakOn hcut ((List.singleton_infix_iff c cs).mpr hmem)
      exact (List.splitOn_eq_singleton hc).symm
    | some cut =>
      obtain ⟨before, after⟩ := cut
      have hcs : cs = before ++ c :: after := by simpa using breakOn_eq_append hcut
      rw [hcs, List.splitOn_append_cons_self_of_not_mem (notMem_of_breakOn hcut)]
      rw [hcs, List.length_append, List.length_cons] at h
      exact congrArg _ (ih (by omega))

theorem pieces_singleton {needle : String} {c : Char} (h : needle.toList = [c]) (s : String) :
    pieces needle s = (s.toList.splitOn c).map String.ofList := by
  have hfuel : s.toList.length ≤ min (s.length + 1) (s.length + 1) := by
    rw [Nat.min_self, String.length_toList]
    exact Nat.le_succ _
  rw [pieces, piecesUpTo, h, piecesList_singleton hfuel]

theorem splitFirst_singleton {needle : String} {c : Char} (h : needle.toList = [c]) {before : List Char}
    (hc : c ∉ before) (after : List Char) : splitFirst needle (String.ofList (before ++ c :: after)) =
      some (String.ofList before, String.ofList after) := by
  rw [splitFirst, h, String.toList_ofList, breakOn_singleton hc]
  rfl

/-! ### Replacing -/

theorem intercalate_splitOn_eq_flatMap (new : List Char) (c : Char) (cs : List Char) :
    new.intercalate (cs.splitOn c) = cs.flatMap fun d => if d = c then new else [d] := by
  induction cs with
  | nil => rfl
  | cons d cs ih =>
    rw [List.splitOn_cons_eq_if_modifyHead, List.flatMap_cons, ← ih]
    by_cases hd : d = c
    · simp [hd, List.intercalate_cons_of_ne_nil (List.splitOn_ne_nil c cs)]
    · obtain ⟨piece, pieces, hpieces⟩ := List.exists_cons_of_ne_nil (List.splitOn_ne_nil c cs)
      simp [hd, hpieces, List.intercalate_cons_cons_left]

/-- Replacing a character puts the new text for each of its occurrences and leaves the other characters. -/
theorem toList_replaceAll_singleton {old : String} {c : Char} (h : old.toList = [c]) (new s : String) :
    (replaceAll old new s).toList = s.toList.flatMap fun d => if d = c then new.toList else [d] := by
  have hold : old.isEmpty = false := by
    refine Bool.eq_false_iff.mpr fun hempty => ?_
    simp [String.isEmpty_iff.mp hempty] at h
  rw [replaceAll, hold, if_neg Bool.false_ne_true, String.toList_intercalate, pieces_singleton h, List.map_map]
  simpa [Function.comp_def] using intercalate_splitOn_eq_flatMap new.toList c s.toList

theorem flatMap_intercalate {α β : Type} (f : α → List β) (sep : List α) (l : List (List α)) :
    (sep.intercalate l).flatMap f = (sep.flatMap f).intercalate (l.map (·.flatMap f)) := by
  induction l with
  | nil => rfl
  | cons x l ih =>
    cases l with
    | nil => simp
    | cons y l =>
      rw [List.intercalate_cons_cons, List.flatMap_append, List.flatMap_append, ih]
      exact List.intercalate_cons_cons.symm

theorem mem_of_mem_intercalate {α : Type} {sep : List α} {l : List (List α)} {x : α} (h : x ∈ sep.intercalate l) :
    x ∈ sep ∨ ∃ xs ∈ l, x ∈ xs := by
  induction l with
  | nil => cases h
  | cons xs l ih =>
    cases l with
    | nil => exact .inr ⟨xs, List.mem_singleton_self xs, by simpa using h⟩
    | cons ys l =>
      rw [List.intercalate_cons_cons, List.mem_append, List.mem_append] at h
      rcases h with (hxs | hsep) | htail
      · exact .inr ⟨xs, List.mem_cons_self, hxs⟩
      · exact .inl hsep
      · exact (ih htail).imp_right fun ⟨zs, hzs, hx⟩ => ⟨zs, List.mem_cons_of_mem xs hzs, hx⟩

end Casebook.Text
