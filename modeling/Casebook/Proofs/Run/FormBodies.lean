import Mathlib
import Casebook.Json.Reader
import Casebook.Proofs.Text
import Casebook.Run.Payload

/-! Bodies that are forms.  They are ASCII text without blanks and plus signs, and reading one as a form gives back the
names and the texts of the members of its object. -/
namespace Casebook

namespace Text.Form

/-! ### Reading forms -/

/-- The bytes that stand in a form, between its separators.  A plus sign stands for a blank. -/
def bytes? : List Char → Option (List UInt8)
  | [] => some []
  | '%' :: high :: low :: rest => do
    let h ← Json.Reader.hexDigit? high
    let l ← Json.Reader.hexDigit? low
    return UInt8.ofNat (16 * h + l) :: (← bytes? rest)
  | c :: rest =>
    if c = '%' ∨ 128 ≤ c.toNat then none
    else (bytes? rest).map ((if c = '+' then 32 else UInt8.ofNat c.toNat) :: ·)

/-- The text of which a form has the bytes. -/
def text? (s : String) : Option String := do String.fromUTF8? (← bytes? s.toList).toByteArray

/-- The name and the value on either side of the first equals sign; without one there is no value. -/
def pair? (piece : String) : Option (String × String) := do
  let (name, value) := (splitFirst "=" piece).getD (piece, "")
  return (← text? name, ← text? value)

/-- The pairs of a form, which stand between ampersands; where nothing stands between them there is no pair. -/
def decode? (form : String) : Option (List (String × String)) :=
  ((pieces "&" form).filter fun piece => piece != "").mapM pair?

/-! ### What stands for a byte -/

/-- What stands for a byte once no plus sign stands for a blank. -/
def spelled (b : UInt8) : List Char :=
  if isPlain b then [Char.ofNat b.toNat] else ['%', hexDigit (b.toNat / 16), hexDigit (b.toNat % 16)]

/-- A character that a form can have between its separators, but for the percent sign. -/
def IsMark (c : Char) : Prop := c.toNat < 128 ∧ c ∉ [' ', '+', '&', '=', '%']

instance (c : Char) : Decidable (IsMark c) := inferInstanceAs (Decidable (_ ∧ _))

theorem isMark_of_isPlain {b : UInt8} (h : isPlain b = true) :
    IsMark (Char.ofNat b.toNat) ∧ (Char.ofNat b.toNat).toNat = b.toNat := by
  have hall : ∀ n < 256, isPlain (UInt8.ofNat n) = true → IsMark (Char.ofNat n) ∧ (Char.ofNat n).toNat = n := by
    decide +kernel
  exact hall b.toNat b.toNat_lt (by rwa [UInt8.ofNat_toNat])

theorem isMark_hexDigit : ∀ n < 16, IsMark (hexDigit n) ∧ Json.Reader.hexDigit? (hexDigit n) = some n := by
  decide

theorem toNat_div_lt (b : UInt8) : b.toNat / 16 < 16 ∧ b.toNat % 16 < 16 := by
  have hlt := b.toNat_lt
  omega

theorem isMark_of_mem_spelled {b : UInt8} {c : Char} (h : c ∈ spelled b) : IsMark c ∨ c = '%' := by
  unfold spelled at h
  split at h
  case isTrue hplain =>
    rw [List.mem_singleton] at h
    exact .inl (h ▸ (isMark_of_isPlain hplain).1)
  case isFalse =>
    simp only [List.mem_cons, List.not_mem_nil, or_false] at h
    rcases h with rfl | rfl | rfl
    · exact .inr rfl
    · exact .inl (isMark_hexDigit _ (toNat_div_lt b).1).1
    · exact .inl (isMark_hexDigit _ (toNat_div_lt b).2).1

theorem not_isMark_of_mem {c : Char} (h : c ∈ [' ', '+', '&', '=', '%']) : ¬IsMark c := fun hc => hc.2 h

/-- Where escapes are put for plus signs, they are put for blanks only. -/
theorem flatMap_escapeByte (b : UInt8) :
    ((escapeByte b).flatMap fun c => if c = '+' then "%20".toList else [c]) = spelled b := by
  have hkeep : ∀ {c}, IsMark c → c ≠ '+' := by
    rintro c hc rfl
    exact not_isMark_of_mem (by decide) hc
  unfold escapeByte spelled
  by_cases hblank : b = 32
  · subst hblank
    decide
  by_cases hplain : isPlain b = true
  · simp [hblank, hplain, hkeep (isMark_of_isPlain hplain).1]
  · have hhigh := hkeep (isMark_hexDigit _ (toNat_div_lt b).1).1
    have hlow := hkeep (isMark_hexDigit _ (toNat_div_lt b).2).1
    simp [hblank, hplain, hhigh, hlow]

theorem bytes?_spelled (b : UInt8) (rest : List Char) :
    bytes? (spelled b ++ rest) = (bytes? rest).map (b :: ·) := by
  unfold spelled
  split
  case isTrue hplain =>
    obtain ⟨hmark, hcode⟩ := isMark_of_isPlain hplain
    have hpercent : Char.ofNat b.toNat ≠ '%' := fun heq => not_isMark_of_mem (by decide) (heq ▸ hmark)
    have hplus : Char.ofNat b.toNat ≠ '+' := fun heq => not_isMark_of_mem (by decide) (heq ▸ hmark)
    have hlow : ¬128 ≤ (Char.ofNat b.toNat).toNat := Nat.not_le.mpr hmark.1
    rw [List.singleton_append, bytes?, if_neg (not_or.mpr ⟨hpercent, hlow⟩), if_neg hplus, hcode, UInt8.ofNat_toNat]
    exact fun _ _ _ heq _ => hpercent heq
  case isFalse =>
    have hhigh := (isMark_hexDigit _ (toNat_div_lt b).1).2
    have hlow := (isMark_hexDigit _ (toNat_div_lt b).2).2
    have hbyte : UInt8.ofNat (16 * (b.toNat / 16) + b.toNat % 16) = b := by
      rw [Nat.div_add_mod, UInt8.ofNat_toNat]
    simp only [List.cons_append, List.nil_append, bytes?, hhigh, hlow, Option.bind_eq_bind, Option.bind_some, hbyte]
    cases bytes? rest <;> rfl

/-- What stands for a text. -/
def escaped (s : String) : List Char := (s.toList.flatMap String.utf8EncodeChar).flatMap spelled

theorem isMark_of_mem_escaped {s : String} {c : Char} (h : c ∈ escaped s) : IsMark c ∨ c = '%' := by
  obtain ⟨b, -, hc⟩ := List.mem_flatMap.mp h
  exact isMark_of_mem_spelled hc

theorem notMem_escaped {c : Char} (h : c ∈ [' ', '+', '&', '=']) (s : String) : c ∉ escaped s := by
  intro hmem
  rcases isMark_of_mem_escaped hmem with hc | rfl
  · exact not_isMark_of_mem (List.mem_append_left ['%'] h) hc
  · exact absurd h (by decide)

theorem bytes?_flatMap_spelled (bs : List UInt8) : bytes? (bs.flatMap spelled) = some bs := by
  induction bs with
  | nil => rfl
  | cons b bs ih => rw [List.flatMap_cons, bytes?_spelled, ih, Option.map_some]

theorem text?_escaped (s : String) : text? (String.ofList (escaped s)) = some s := by
  have hbytes : (s.toList.flatMap String.utf8EncodeChar).toByteArray = s.toByteArray := String.utf8Encode_toList
  rw [text?, String.toList_ofList, escaped, bytes?_flatMap_spelled, Option.bind_eq_bind, Option.bind_some, hbytes,
    String.fromUTF8?, dif_pos s.isValidUTF8]
  rfl

/-! ### Pairs -/

/-- What stands for a pair, between ampersands. -/
def escapedPair (pair : String × String) : List Char := escaped pair.1 ++ '=' :: escaped pair.2

theorem isMark_of_mem_escapedPair {pair : String × String} {c : Char} (h : c ∈ escapedPair pair) :
    IsMark c ∨ c = '%' ∨ c = '=' := by
  rcases List.mem_append.mp h with hc | hc
  · exact (isMark_of_mem_escaped hc).imp_right .inl
  rcases List.mem_cons.mp hc with rfl | hc
  · exact .inr (.inr rfl)
  · exact (isMark_of_mem_escaped hc).imp_right .inl

theorem pair?_escapedPair (pair : String × String) : pair? (String.ofList (escapedPair pair)) = some pair := by
  have hcut : splitFirst "=" (String.ofList (escapedPair pair)) =
      some (String.ofList (escaped pair.1), String.ofList (escaped pair.2)) :=
    splitFirst_singleton rfl (notMem_escaped (by decide) pair.1) _
  simp [pair?, hcut, text?_escaped]

theorem toList_formText (pairs : List (String × String)) :
    (formText pairs).toList = ['&'].intercalate (pairs.map escapedPair) := by
  have hescape : ∀ s, (escape s).toList.flatMap (fun c => if c = '+' then "%20".toList else [c]) = escaped s := by
    intro s
    have htext : (escape s).toList = (s.toList.flatMap String.utf8EncodeChar).flatMap escapeByte :=
      String.toList_ofList
    rw [htext, escaped]
    generalize s.toList.flatMap String.utf8EncodeChar = bs
    rw [List.flatMap_assoc]
    exact List.flatMap_congr fun b _ => flatMap_escapeByte b
  rw [formText, toList_replaceAll_singleton (c := '+') rfl, encode, String.toList_intercalate, flatMap_intercalate,
    List.map_map, List.map_map]
  refine congrArg _ (List.map_congr_left fun pair _ => ?_)
  simp only [Function.comp_apply, String.toList_append, List.flatMap_append, hescape]
  exact List.append_assoc _ _ _

theorem isMark_of_mem_formText {pairs : List (String × String)} {c : Char} (h : c ∈ (formText pairs).toList) :
    IsMark c ∨ c ∈ ['%', '=', '&'] := by
  rw [toList_formText] at h
  rcases mem_of_mem_intercalate h with hc | ⟨cs, hcs, hc⟩
  · obtain rfl := List.mem_singleton.mp hc
    exact .inr (by decide)
  obtain ⟨pair, -, rfl⟩ := List.mem_map.mp hcs
  rcases isMark_of_mem_escapedPair hc with hmark | rfl | rfl
  · exact .inl hmark
  · exact .inr (by decide)
  · exact .inr (by decide)

/-- A form without blanks reads back as the pairs it was written from. -/
theorem decode?_formText (pairs : List (String × String)) : decode? (formText pairs) = some pairs := by
  have hpieces : ((pieces "&" (formText pairs)).filter fun piece => piece != "") =
      pairs.map fun pair => String.ofList (escapedPair pair) := by
    rw [pieces_singleton (c := '&') rfl, toList_formText]
    cases pairs with
    | nil => rfl
    | cons pair pairs =>
      have hamp : ∀ cs ∈ (pair :: pairs).map escapedPair, '&' ∉ cs := by
        intro cs hcs hmem
        obtain ⟨other, -, rfl⟩ := List.mem_map.mp hcs
        rcases isMark_of_mem_escapedPair hmem with hc | hc | hc
        · exact not_isMark_of_mem (by decide) hc
        · exact absurd hc (by decide)
        · exact absurd hc (by decide)
      rw [List.splitOn_intercalate _ hamp (List.cons_ne_nil _ _), List.map_map]
      refine List.filter_eq_self.mpr fun piece hpiece => ?_
      obtain ⟨other, -, rfl⟩ := List.mem_map.mp hpiece
      simp [escapedPair, String.ext_iff]
  have hpair : (pair? ∘ fun pair => String.ofList (escapedPair pair)) = pure := by
    funext pair
    rw [Function.comp_apply, pair?_escapedPair]
    rfl
  rw [decode?, hpieces, List.mapM_map, hpair]
  simpa using List.mapM_pure (m := Option) (l := pairs) (f := id)

end Text.Form

/-! ### Bodies of requests -/

theorem BodyFormat.ofContentType_eq_form {contentType : String}
    (hform : "urlencoded".toList <:+: (Text.asciiLower contentType).toList ∨
      "text/plain".toList <:+: (Text.asciiLower contentType).toList)
    (hjson : ¬"application/json".toList <:+: (Text.asciiLower contentType).toList)
    (hhtml : ¬"text/html".toList <:+: (Text.asciiLower contentType).toList) :
    BodyFormat.ofContentType contentType = .form := by
  rw [← Text.contains_iff, ← Text.contains_iff] at hform
  rw [← Text.contains_iff] at hjson hhtml
  rw [BodyFormat.ofContentType, if_neg hjson, if_neg hhtml, if_pos (Bool.or_eq_true_iff.mpr hform)]

/-- The body that is sent for an object as a form is ASCII text without blanks and plus signs.  It reads back as the
members of the object, by name in ascending order and with the text of each value; an empty object is sent as the empty
text. -/
theorem form_body_is_decodable {ms : Json.Members} {contentType : String}
    (hbody : (Json.Value.object ms).Canonical)
    (hform : "urlencoded".toList <:+: (Text.asciiLower contentType).toList ∨
      "text/plain".toList <:+: (Text.asciiLower contentType).toList)
    (hjson : ¬"application/json".toList <:+: (Text.asciiLower contentType).toList)
    (hhtml : ¬"text/html".toList <:+: (Text.asciiLower contentType).toList) :
    ∃ form, payload? (.object ms) contentType = some form ∧
      (∀ c ∈ form.toList, c.toNat < 128 ∧ c ≠ ' ' ∧ c ≠ '+') ∧
      Text.Form.decode? form = some (ms.map fun (name, value) => (name, value.display)) ∧
      (ms.map fun (name, _) => name).Pairwise (· < ·) ∧ (form = "" ↔ ms = []) := by
  have hsent : payload? (.object ms) contentType =
      some (formText (ms.map fun (name, value) => (name, value.display))) := by
    rw [payload?, BodyFormat.ofContentType_eq_form hform hjson hhtml]
    rfl
  have hreads := Text.Form.decode?_formText (ms.map fun (name, value) => (name, value.display))
  refine ⟨_, hsent, fun c hc => ?_, hreads, hbody.1, fun hempty => ?_, ?_⟩
  · rcases Text.Form.isMark_of_mem_formText hc with hmark | hmark
    · exact ⟨hmark.1, fun heq => Text.Form.not_isMark_of_mem (by decide) (heq ▸ hmark),
        fun heq => Text.Form.not_isMark_of_mem (by decide) (heq ▸ hmark)⟩
    · fin_cases hmark <;> decide
  · rw [hempty] at hreads
    exact List.map_eq_nil_iff.mp (Option.some_inj.mp hreads).symm
  · rintro rfl
    rfl

theorem separators_in_names_and_values_are_read_back :
    ∃ form, payload? (.object [("", .null), ("a&b=c", .string "1+1 = 2%"), ("ä", .array [.bool true])])
        "Text/Plain; charset=utf-8" = some form ∧
      (∀ c ∈ form.toList, c.toNat < 128 ∧ c ≠ ' ' ∧ c ≠ '+') ∧
      Text.Form.decode? form = some [("", ""), ("a&b=c", "1+1 = 2%"), ("ä", "[true]")] ∧
      ["", "a&b=c", "ä"].Pairwise (· < ·) ∧
      (form = "" ↔ [("", .null), ("a&b=c", .string "1+1 = 2%"), ("ä", .array [.bool true])] = ([] : Json.Members)) := by
  have hbody : (Json.Value.object
      [("", .null), ("a&b=c", .string "1+1 = 2%"), ("ä", .array [.bool true])]).Canonical := by
    constructor
    · rw [Dict.Sorted]
      decide +kernel
    · simp [Json.Value.CanonicalMembers, Json.Value.CanonicalItems, Json.Value.Canonical]
  exact form_body_is_decodable hbody (.inr (by decide +kernel))
    (by decide +kernel) (by decide +kernel)

end Casebook
