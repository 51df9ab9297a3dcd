import Casebook.Json.Reader
import Casebook.Json.Writer
import Mathlib.Data.List.DropRight
import Mathlib.Data.List.Forall2

/-! Reading JSON: strings with any characters in them and objects over several lines are read back as they were written,
entries that one reader of items accepts are accepted by every reader that accepts more, and every object that is read
lists each key once. -/
namespace Casebook.Json

namespace Reader

theorem hexDigit?_digitChar : ∀ {n : Nat}, n < 16 → hexDigit? (Nat.digitChar n) = some n := by
  decide

/-- A control character is read back from its number. -/
theorem escape?_hexPair {n : Nat} (h : n < 32) (rest : List Char) :
    escape? ('u' :: '0' :: '0' :: ((hexPair n).toList ++ rest)) = some (Char.ofNat n, rest) := by
  have hzero : hexDigit? '0' = some 0 := rfl
  have hhigh : hexDigit? (Nat.digitChar (n / 16 % 16)) = some (n / 16 % 16) := hexDigit?_digitChar (by omega)
  have hlow : hexDigit? (Nat.digitChar (n % 16)) = some (n % 16) := hexDigit?_digitChar (by omega)
  have hn : ((0 * 16 + 0) * 16 + n / 16 % 16) * 16 + n % 16 = n := by omega
  simp only [hexPair, String.toList_ofList, List.cons_append, List.nil_append, escape?, hexQuad?, hzero, hhigh, hlow,
    Option.bind_eq_bind, Option.bind_some, hn]
  rw [if_neg (by omega), if_neg (by omega)]

/-- A character is written as an escape that stands for it, or as it is. -/
theorem escapeChar_cases (c : Char) :
    (∃ word, (escapeChar c).toList = '\\' :: word ∧ ∀ rest, escape? (word ++ rest) = some (c, rest)) ∨
      (escapeChar c).toList = [c] ∧ c ≠ '"' ∧ c ≠ '\\' ∧ ¬c.toNat < 32 := by
  have hnumber : ∀ {n : Nat}, c.toNat = n → Char.ofNat n = c := by
    rintro n rfl
    exact Char.ofNat_toNat c
  by_cases hplain : c ≠ '"' ∧ c ≠ '\\' ∧ ¬c.toNat < 32
  · obtain ⟨hquote, hslash, hcontrol⟩ := hplain
    refine .inr ⟨?_, hquote, hslash, hcontrol⟩
    have hnot : ∀ d : Char, d.toNat < 32 → c ≠ d := by
      rintro d hd rfl
      exact hcontrol hd
    rw [escapeChar, if_neg hquote, if_neg hslash, if_neg (hnot _ (by decide)), if_neg (hnot _ (by decide)),
      if_neg (hnot _ (by decide)), if_neg (by omega), if_neg (by omega), if_neg hcontrol, String.toList_singleton]
  · left
    unfold escapeChar
    split
    case isTrue h => subst h; exact ⟨['"'], rfl, fun _ => rfl⟩
    split
    case isTrue h => subst h; exact ⟨['\\'], rfl, fun _ => rfl⟩
    split
    case isTrue h => subst h; exact ⟨['n'], rfl, fun _ => rfl⟩
    split
    case isTrue h => subst h; exact ⟨['r'], rfl, fun _ => rfl⟩
    split
    case isTrue h => subst h; exact ⟨['t'], rfl, fun _ => rfl⟩
    split
    case isTrue h => exact ⟨['b'], rfl, fun _ => by rw [← hnumber h]; rfl⟩
    split
    case isTrue h => exact ⟨['f'], rfl, fun _ => by rw [← hnumber h]; rfl⟩
    split
    case isTrue h =>
      refine ⟨'u' :: '0' :: '0' :: (hexPair c.toNat).toList, String.toList_append, fun rest => ?_⟩
      exact (escape?_hexPair h rest).trans (by rw [Char.ofNat_toNat])
    case isFalse hquote hslash _ _ _ _ _ hcontrol => exact absurd ⟨hquote, hslash, hcontrol⟩ hplain

theorem stringTail?_escapeChar (fuel : Nat) (done : List Char) (c : Char) (rest : List Char) :
    stringTail? (fuel + 1) done ((escapeChar c).toList ++ rest) = stringTail? fuel (c :: done) rest := by
  rcases escapeChar_cases c with ⟨word, hword, hescape⟩ | ⟨hword, hquote, hslash, hcontrol⟩
  · rw [hword, List.cons_append, stringTail?, if_neg (by decide), if_pos rfl, hescape]
  · rw [hword, List.singleton_append, stringTail?, if_neg hquote, if_neg hslash, if_neg hcontrol]

end Reader

/-- The characters of a string as they stand between its quotes. -/
def escaped (cs : List Char) : List Char := cs.flatMap fun c => (escapeChar c).toList

theorem toList_quoted (s : String) : (quoted s).toList = '"' :: (escaped s.toList ++ ['"']) := by
  have hfold : ∀ (cs : List Char) (out : String),
      (cs.foldl (fun out c => out ++ escapeChar c) out).toList = out.toList ++ escaped cs := by
    intro cs
    induction cs with
    | nil => simp [escaped]
    | cons c cs ih =>
      intro out
      rw [List.foldl_cons, ih, String.toList_append, List.append_assoc]
      rfl
  rw [quoted, String.toList_append, String.foldl_eq_foldl_toList, hfold]
  rfl

theorem length_le_escaped (cs : List Char) : cs.length ≤ (escaped cs).length := by
  induction cs with
  | nil => exact Nat.le_refl _
  | cons c cs ih =>
    have hc : 0 < (escapeChar c).toList.length := by
      rcases Reader.escapeChar_cases c with ⟨word, hword, -⟩ | ⟨hword, -⟩ <;> simp [hword]
    simp only [escaped, List.flatMap_cons, List.length_append, List.length_cons] at ih ⊢
    omega

theorem length_lt_quoted (s : String) : s.length < (quoted s).length := by
  have hlength := congrArg List.length (toList_quoted s)
  have hle := length_le_escaped s.toList
  simp only [List.length_cons, List.length_append, String.length_toList, List.length_nil] at hlength hle
  omega

namespace Reader

theorem stringTail?_escaped {fuel : Nat} {cs : List Char} (h : cs.length < fuel) (done rest : List Char) :
    stringTail? fuel done (escaped cs ++ '"' :: rest) = some (String.ofList (done.reverse ++ cs), rest) := by
  induction cs generalizing fuel done with
  | nil =>
    obtain ⟨fuel, rfl⟩ : ∃ n, fuel = n + 1 := ⟨fuel - 1, by simp at h; omega⟩
    simp [escaped, stringTail?]
  | cons c cs ih =>
    obtain ⟨fuel, rfl⟩ : ∃ n, fuel = n + 1 := ⟨fuel - 1, by simp at h; omega⟩
    have hcs : cs.length < fuel := by simpa using h
    have hsplit : escaped (c :: cs) ++ '"' :: rest = (escapeChar c).toList ++ (escaped cs ++ '"' :: rest) := by
      simp [escaped]
    rw [hsplit, stringTail?_escapeChar, ih hcs]
    simp

/-- A string is read back from between its quotes. -/
theorem stringTail?_quoted {s : String} {size : Nat} (h : s.length < size) (rest : List Char) :
    stringTail? size [] (escaped s.toList ++ '"' :: rest) = some (s, rest) := by
  rw [stringTail?_escaped (by rwa [String.length_toList])]
  simp

theorem skipBlank_lineAt (depth : Nat) (rest : List Char) :
    skipBlank ((lineAt depth).toList ++ rest) = skipBlank rest := by
  have hblank : ∀ n, ("".pushn ' ' n).toList = List.replicate n ' ' := by
    intro n
    induction n with
    | zero => rfl
    | succ n ih => rw [List.replicate_succ', ← ih, ← String.toList_push]; rfl
  rw [lineAt, String.toList_append, hblank]
  have hskip : ∀ n, skipBlank (List.replicate n ' ' ++ rest) = skipBlank rest := by
    intro n
    induction n with
    | zero => rfl
    | succ n ih => exact ih
  exact hskip _

theorem entries?_skipBlank {α : Type} (item? : List Char → Option (α × List Char)) (size fuel : Nat)
    (done : List (String × α)) (cs : List Char) :
    entries? item? size fuel done (skipBlank cs) = entries? item? size fuel done cs := by
  have hskip : skipBlank (skipBlank cs) = skipBlank cs := List.dropWhile_idempotent _ _
  cases fuel with
  | zero => rfl
  | succ fuel => rw [entries?, entries?, hskip]

/-- An entry is read back from its line, if its item is. -/
theorem entries?_line {α : Type} {item? : List Char → Option (α × List Char)} {size depth : Nat} {key : String} {a : α}
    {text : String} (hkey : key.length < size) {tail : List Char}
    (hitem : item? (skipBlank (text.toList ++ tail)) = some (a, tail)) (fuel : Nat) (done : List (String × α)) :
    entries? item? size (fuel + 1) done
        ((lineAt depth ++ quoted key ++ ": " ++ text).toList ++ tail) =
      match skipBlank tail with
      | ',' :: rest => entries? item? size fuel ((key, a) :: done) rest
      | '}' :: rest => some (((key, a) :: done).reverse, rest)
      | _ => none := by
  have hquote : ∀ rest, skipBlank ('"' :: rest) = '"' :: rest := fun _ => rfl
  have hcolon : ∀ rest, skipBlank (':' :: rest) = ':' :: rest := fun _ => rfl
  have hspaced : item? (skipBlank (' ' :: (text.toList ++ tail))) = some (a, tail) := hitem
  simp only [String.toList_append, toList_quoted, List.append_assoc, List.cons_append, List.nil_append]
  rw [entries?, skipBlank_lineAt, hquote]
  simp only [stringTail?_quoted hkey, Option.bind_eq_bind, Option.bind_some]
  rw [show ": ".toList = [':', ' '] from rfl, List.cons_append, List.cons_append, List.nil_append, hcolon]
  refine (congrArg (Option.bind · _) hspaced).trans ?_
  rfl

/-- The entries of an object are read back from the lines written for them, if each item is read back from its own. -/
theorem entries?_pretty {α : Type} {item? : List Char → Option (α × List Char)} {toJson : α → Value} {size depth : Nat}
    {es : List (String × α)} (hne : es ≠ []) (hkeys : ∀ e ∈ es, e.1.length < size)
    (hitem : ∀ e ∈ es, ∀ rest,
      item? (skipBlank (((toJson e.2).prettyAt (depth + 1)).toList ++ rest)) = some (e.2, rest))
    {fuel : Nat} (hfuel : es.length ≤ fuel) (done : List (String × α)) (rest : List Char) :
    entries? item? size fuel done ((Value.prettyMembers depth (es.map fun e => (e.1, toJson e.2))).toList ++
      ((lineAt depth).toList ++ '}' :: rest)) = some (done.reverse ++ es, rest) := by
  have hbrace : skipBlank ('}' :: rest) = '}' :: rest := rfl
  have hcomma : ∀ rest, skipBlank (',' :: rest) = ',' :: rest := fun _ => rfl
  induction es generalizing fuel done with
  | nil => exact absurd rfl hne
  | cons e es ih =>
    obtain ⟨fuel, rfl⟩ : ∃ n, fuel = n + 1 := ⟨fuel - 1, by simp at hfuel; omega⟩
    have hkey := hkeys e List.mem_cons_self
    have hvalue := hitem e List.mem_cons_self
    cases es with
    | nil =>
      rw [List.map_cons, List.map_nil, Value.prettyMembers, entries?_line hkey (hvalue _), skipBlank_lineAt, hbrace]
      simp
    | cons e' es =>
      have hrest := ih (List.cons_ne_nil _ _) (fun e he => hkeys e (List.mem_cons_of_mem _ he))
        (fun e he => hitem e (List.mem_cons_of_mem _ he)) (Nat.le_of_succ_le_succ hfuel) ((e.1, e.2) :: done)
      rw [List.map_cons, List.map_cons, Value.prettyMembers, String.toList_append, String.toList_append, List.append_assoc,
        List.append_assoc, entries?_line hkey (hvalue _)]
      rw [show ",".toList = [','] from rfl, List.singleton_append, hcomma]
      simp only
      rw [← List.map_cons (f := fun e : String × α => (e.1, toJson e.2)), hrest]
      simp

end Reader

/-- The lines of an object are long enough for each of its members, and there are no more members than characters. -/
theorem length_prettyMembers (depth : Nat) (ms : List (String × Value)) :
    ms.length ≤ (Value.prettyMembers depth ms).length ∧
      ∀ m ∈ ms, m.1.length + (m.2.prettyAt (depth + 1)).length < (Value.prettyMembers depth ms).length := by
  induction ms with
  | nil => exact ⟨Nat.le_refl _, nofun⟩
  | cons m ms ih =>
    obtain ⟨k, v⟩ := m
    have hkey := length_lt_quoted k
    cases ms with
    | nil => simp [Value.prettyMembers]; omega
    | cons m' ms =>
      obtain ⟨hlength, hmembers⟩ := ih
      simp only [Value.prettyMembers, String.length_append, List.mem_cons, forall_eq_or_imp] at hmembers ⊢
      simp only [List.length_cons] at hlength ⊢
      refine ⟨by omega, by omega, by omega, fun m hm => ?_⟩
      have hlt := hmembers.2 m hm
      omega

/-- The lines of an object start with the quote of its first key. -/
theorem Reader.exists_skipBlank_prettyMembers (depth : Nat) (m : String × Value) (ms : List (String × Value))
    (rest : List Char) :
    ∃ more, skipBlank ((Value.prettyMembers depth (m :: ms)).toList ++ rest) = '"' :: more := by
  have hquote : ∀ rest, skipBlank ('"' :: rest) = '"' :: rest := fun _ => rfl
  obtain ⟨k, v⟩ := m
  cases ms <;>
    simp only [Value.prettyMembers, String.toList_append, toList_quoted, List.append_assoc, List.cons_append,
      skipBlank_lineAt, hquote] <;>
    exact ⟨_, rfl⟩

/-- An object over several lines holds the entries that it was written from, if each item is read back from its own
lines. -/
theorem Reader.entriesOf?_pretty {α : Type} {item? : Nat → List Char → Option (α × List Char)} {toJson : α → Value}
    (es : List (String × α))
    (hitem : ∀ e ∈ es, ∀ size, ((toJson e.2).prettyAt 1).length ≤ size → ∀ rest,
      item? size (skipBlank (((toJson e.2).prettyAt 1).toList ++ rest)) = some (e.2, rest)) :
    entriesOf? item? (Value.object (es.map fun e => (e.1, toJson e.2))).pretty = some es := by
  unfold entriesOf? whole?
  cases es with
  | nil =>
    have htext : (Value.object []).pretty = "\x7b\x7d" := by
      simp [Value.pretty, Value.prettyAt, Value.text, Value.membersText]
    rw [List.map_nil, htext]
    rfl
  | cons e es =>
    obtain ⟨hlength, hmembers⟩ := length_prettyMembers 0 ((e :: es).map fun e => (e.1, toJson e.2))
    have htext : (Value.object ((e :: es).map fun e => (e.1, toJson e.2))).pretty.toList =
        '{' :: ((Value.prettyMembers 0 ((e :: es).map fun e => (e.1, toJson e.2))).toList ++
          ((lineAt 0).toList ++ ['}'])) := by
      rw [List.map_cons, Value.pretty, Value.prettyAt, String.toList_append, String.toList_append, String.toList_append,
        List.append_assoc, List.append_assoc]
      rfl
    have hbrace : ∀ rest, skipBlank ('{' :: rest) = '{' :: rest := fun _ => rfl
    simp only [htext, hbrace]
    generalize hlines : (Value.prettyMembers 0 ((e :: es).map fun e => (e.1, toJson e.2))) = lines at hlength hmembers ⊢
    generalize hsize : ('{' :: (lines.toList ++ ((lineAt 0).toList ++ ['}']))).length + 1 = size
    have hlt : lines.length < size := by
      rw [← hsize, List.length_cons, List.length_append, String.length_toList]
      omega
    have hmember : ∀ e' ∈ e :: es, e'.1.length + ((toJson e'.2).prettyAt 1).length < lines.length :=
      fun e' he' => hmembers (e'.1, toJson e'.2) (List.mem_map_of_mem he')
    have hentries : entries? (item? size) size size [] (lines.toList ++ ((lineAt 0).toList ++ ['}'])) =
        some (e :: es, []) := by
      rw [← hlines]
      refine entries?_pretty (List.cons_ne_nil _ _) (fun e' he' => ?_) (fun e' he' => hitem e' he' size ?_) ?_ [] []
      · have := hmember e' he'
        omega
      · have := hmember e' he'
        omega
      · rw [List.length_map] at hlength
        omega
    have hobject : object? (item? size) size (lines.toList ++ ((lineAt 0).toList ++ ['}'])) = some (e :: es, []) := by
      obtain ⟨more, hmore⟩ := exists_skipBlank_prettyMembers 0 (e.1, toJson e.2) (es.map fun e => (e.1, toJson e.2))
        ((lineAt 0).toList ++ ['}'])
      rw [← List.map_cons (f := fun e : String × α => (e.1, toJson e.2)), hlines] at hmore
      rw [← entries?_skipBlank, hmore] at hentries
      rw [object?, hmore]
      exact hentries
    rw [hobject]
    rfl

namespace Reader

variable {α β : Type} {item? : List Char → Option (α × List Char)} {item'? : List Char → Option (β × List Char)}
  {R : α → β → Prop}

/-- The entries that a reader of items finds are also found by one that accepts what the first one accepts. -/
theorem exists_entries? (hitem : ∀ cs a rest, item? cs = some (a, rest) → ∃ b, item'? cs = some (b, rest) ∧ R a b)
    {size fuel : Nat} {done es : List (String × α)} {done' : List (String × β)} {cs rest : List Char}
    (hdone : List.Forall₂ (fun e e' => e.1 = e'.1 ∧ R e.2 e'.2) done done')
    (h : entries? item? size fuel done cs = some (es, rest)) :
    ∃ es', entries? item'? size fuel done' cs = some (es', rest) ∧
      List.Forall₂ (fun e e' => e.1 = e'.1 ∧ R e.2 e'.2) es es' := by
  induction fuel generalizing done done' cs with
  | zero => cases h
  | succ fuel ih =>
    unfold entries? at h ⊢
    split at h
    · simp only [Option.bind_eq_bind, Option.bind_eq_some_iff, Prod.exists] at h
      obtain ⟨key, afterKey, hkey, h⟩ := h
      simp only [hkey, Option.bind_eq_bind, Option.bind_some]
      split at h
      · simp only [Option.bind_eq_some_iff, Prod.exists] at h
        obtain ⟨a, afterItem, ha, h⟩ := h
        obtain ⟨b, hb, hab⟩ := hitem _ _ _ ha
        simp only [hb, Option.bind_some]
        have hnext : List.Forall₂ (fun e e' => e.1 = e'.1 ∧ R e.2 e'.2) ((key, a) :: done) ((key, b) :: done') :=
          .cons ⟨rfl, hab⟩ hdone
        split at h
        · exact ih hnext h
        · cases h
          exact ⟨_, rfl, List.forall₂_reverse_iff.mpr hnext⟩
        · cases h
      · cases h
    · cases h

theorem exists_object? (hitem : ∀ cs a rest, item? cs = some (a, rest) → ∃ b, item'? cs = some (b, rest) ∧ R a b)
    {size : Nat} {es : List (String × α)} {cs rest : List Char} (h : object? item? size cs = some (es, rest)) :
    ∃ es', object? item'? size cs = some (es', rest) ∧ List.Forall₂ (fun e e' => e.1 = e'.1 ∧ R e.2 e'.2) es es' := by
  unfold object? at h ⊢
  split at h
  · cases h
    exact ⟨[], rfl, .nil⟩
  · exact exists_entries? hitem .nil h

/-! ### Keys -/

theorem canonical_of_items? {item? : List Char → Option (Value × List Char)}
    (hitem : ∀ cs v rest, item? cs = some (v, rest) → v.Canonical) {fuel : Nat} {done xs : List Value}
    {cs rest : List Char} (hdone : ∀ x ∈ done, x.Canonical) (h : items? item? fuel done cs = some (xs, rest)) :
    ∀ x ∈ xs, x.Canonical := by
  induction fuel generalizing done cs with
  | zero => cases h
  | succ fuel ih =>
    unfold items? at h
    simp only [Option.bind_eq_bind, Option.bind_eq_some_iff, Prod.exists] at h
    obtain ⟨v, after, hv, h⟩ := h
    have hnext : ∀ x ∈ v :: done, x.Canonical := List.forall_mem_cons.mpr ⟨hitem _ _ _ hv, hdone⟩
    split at h
    · exact ih hnext h
    · cases h
      exact fun x hx => hnext x (List.mem_reverse.mp hx)
    · cases h

theorem canonical_of_scalar? {fuel : Nat} {cs rest : List Char} {v : Value} (h : scalar? fuel cs = some (v, rest)) :
    v.Canonical := by
  unfold scalar? at h
  split at h <;> obtain ⟨_, -, heq⟩ := Option.map_eq_some_iff.mp h <;> cases heq <;> trivial

theorem canonical_of_value? {size depth : Nat} {cs rest : List Char} {v : Value}
    (h : value? size depth cs = some (v, rest)) : v.Canonical := by
  induction depth generalizing cs rest v with
  | zero => cases h
  | succ depth ih =>
    unfold value? at h
    split at h
    · split at h
      · cases h
      split at h
      · cases h
        exact trivial
      · obtain ⟨⟨xs, after⟩, hxs, heq⟩ := Option.map_eq_some_iff.mp h
        cases heq
        exact Value.canonicalItems_iff.mpr (canonical_of_items? (fun _ _ _ => ih) (List.forall_mem_nil _) hxs)
    · split at h
      · cases h
      · obtain ⟨⟨es, after⟩, hes, heq⟩ := Option.map_eq_some_iff.mp h
        cases heq
        obtain ⟨_, -, hread⟩ := exists_object? (R := fun (w _ : Value) => w.Canonical)
          (fun _ w _ hw => ⟨w, hw, ih hw⟩) hes
        have hcanonical : ∀ m ∈ es, m.2.Canonical :=
          ((List.forall₂_and_left _ _).mp (hread.imp fun _ _ h => And.symm h)).1
        exact ⟨Dict.sorted_ofList es,
          Value.canonicalMembers_iff.mpr fun m hm => hcanonical m (Dict.mem_of_mem_ofList hm)⟩
    · exact canonical_of_scalar? h

end Reader

/-- A document that is read lists each key of an object once, in ascending order. -/
theorem Value.canonical_of_ofText? {text : String} {v : Value} (h : Value.ofText? text = some v) : v.Canonical := by
  unfold Value.ofText? Reader.whole? at h
  dsimp only at h
  split at h
  · next hread =>
    split at h
    · cases h
      exact Reader.canonical_of_value? hread
    · cases h
  · cases h

end Casebook.Json
