import Mathlib.Data.List.Induction
import Mathlib.Data.List.Nodup
import Casebook.Record

/-! Records in JSON: what is read back from an object that was put together from fields. -/
namespace Casebook

namespace Dict

variable {α : Type} {pairs : List (String × α)}

theorem ofList_concat (pairs : List (String × α)) (p : String × α) :
    ofList (pairs ++ [p]) = insert p.1 p.2 (ofList pairs) := by
  simp [ofList]

theorem mem_keys_ofList {key : String} : key ∈ keys (ofList pairs) ↔ key ∈ pairs.map Prod.fst := by
  induction pairs using List.reverseRecOn with
  | nil => simp [ofList, keys]
  | append_singleton pairs p ih =>
    rw [ofList_concat, mem_keys_insert, ih, List.map_append, List.mem_append, or_comm]
    simp

theorem get?_ofList (pairs : List (String × α)) (key : String) :
    get? key (ofList pairs) = pairs.reverse.lookup key := by
  induction pairs using List.reverseRecOn with
  | nil => rfl
  | append_singleton pairs p ih =>
    rw [ofList_concat, List.reverse_concat, List.lookup_cons, ← ih]
    by_cases hkey : key = p.1
    · rw [hkey, get?_insert_self, beq_self_eq_true]
    · rw [get?_insert_of_ne hkey, beq_eq_false_iff_ne.mpr hkey]

/-- A key has the value of the last pair with it. -/
theorem get?_ofList_eq_some_iff {key : String} {value : α} : get? key (ofList pairs) = some value ↔
    ∃ before after, pairs = before ++ (key, value) :: after ∧ ∀ p ∈ after, p.1 ≠ key := by
  rw [get?_ofList, List.lookup_eq_some_iff]
  constructor
  · rintro ⟨after, before, hpairs, hafter⟩
    refine ⟨before.reverse, after.reverse, ?_, fun p hp => ?_⟩
    · rw [← List.reverse_reverse pairs, hpairs]
      simp
    · exact (bne_iff_ne.mp (hafter p (List.mem_reverse.mp hp))).symm
  · rintro ⟨before, after, rfl, hafter⟩
    refine ⟨after.reverse, before.reverse, by simp, fun p hp => ?_⟩
    exact bne_iff_ne.mpr (hafter p (List.mem_reverse.mp hp)).symm

theorem get?_ofList_of_notMem {key : String} (h : key ∉ pairs.map Prod.fst) : get? key (ofList pairs) = none := by
  rw [get?_ofList, List.lookup_eq_none_iff]
  intro p hp
  rw [bne_iff_ne]
  rintro rfl
  exact h (List.mem_map_of_mem (List.mem_reverse.mp hp))

/-- Where no key is there twice, each keeps its value. -/
theorem get?_ofList_of_mem (hkeys : (pairs.map Prod.fst).Nodup) {p : String × α} (hp : p ∈ pairs) :
    get? p.1 (ofList pairs) = some p.2 := by
  obtain ⟨before, after, rfl⟩ := List.append_of_mem hp
  rw [List.map_append, List.map_cons, List.nodup_append, List.nodup_cons] at hkeys
  refine get?_ofList_eq_some_iff.mpr ⟨before, after, rfl, fun q hq heq => ?_⟩
  exact hkeys.2.1.1 (heq ▸ List.mem_map_of_mem hq)

theorem Sorted.exists_get? {d : Dict α} {key : String} (h : Sorted d) (hkey : key ∈ keys d) :
    ∃ value, get? key d = some value := by
  obtain ⟨p, hp, rfl⟩ := List.mem_map.mp hkey
  exact ⟨p.2, h.get?_eq_some_iff.mpr hp⟩

theorem mem_of_get? {d : Dict α} {key : String} {value : α} (h : get? key d = some value) : (key, value) ∈ d := by
  induction d with
  | nil => cases h
  | cons p rest ih =>
    rw [get?, List.lookup_cons] at h
    split at h
    case h_1 hkey =>
      cases h
      rw [beq_iff_eq.mp hkey]
      exact List.mem_cons_self
    case h_2 => exact List.mem_cons_of_mem _ (ih h)

end Dict

namespace Json.Value

theorem depth_lt_of_mem_items {xs : List Value} {x : Value} (h : x ∈ xs) : depth x < depth (.array xs) := by
  rw [depth]
  induction xs with
  | nil => cases h
  | cons y xs ih =>
    rw [depthOfItems]
    rcases List.mem_cons.mp h with rfl | h
    · omega
    · have hrest := ih h
      omega

theorem depth_lt_of_mem_members {ms : Members} {name : String} {v : Value} (h : (name, v) ∈ ms) :
    depth v < depth (.object ms) := by
  rw [depth]
  induction ms with
  | nil => cases h
  | cons p ms ih =>
    rw [depthOfMembers]
    rcases List.mem_cons.mp h with rfl | h
    · dsimp only
      omega
    · have hrest := ih h
      omega

end Json.Value

namespace Record

open Json (Value Members)

/-! ### Fields -/

/-- Fields hold some pairs: the value of each pair that has one, and nothing for a pair without one. -/
def Holds (f : Fields Value) (pairs : List (String × Option Value)) : Prop := ∀ p ∈ pairs, f p.1 = p.2

variable {f : Fields Value} {pairs : List (String × Option Value)}

@[simp] theorem holds_nil (f : Fields Value) : Holds f [] := by simp [Holds]

@[simp] theorem holds_cons {p : String × Option Value} : Holds f (p :: pairs) ↔ f p.1 = p.2 ∧ Holds f pairs := by
  simp [Holds]

theorem holds_append {others : List (String × Option Value)} :
    Holds f (pairs ++ others) ↔ Holds f pairs ∧ Holds f others := by
  simp [Holds, or_imp, forall_and]

theorem keys_filterMap_sublist (pairs : List (String × Option Value)) :
    ((pairs.filterMap fun (k, v) => v.map (k, ·)).map Prod.fst).Sublist (pairs.map Prod.fst) := by
  induction pairs with
  | nil => exact .slnil
  | cons p pairs ih =>
    obtain ⟨k, v⟩ := p
    cases v with
    | none => exact ih.cons k
    | some v => exact ih.cons_cons k

/-- An object of fields with distinct names holds them. -/
theorem exists_holds (hnames : (pairs.map Prod.fst).Nodup) :
    ∃ ms, Value.ofFields pairs = .object ms ∧ Holds (ofMembers ms) pairs := by
  refine ⟨_, rfl, ?_⟩
  have hkeys := hnames.sublist (keys_filterMap_sublist pairs)
  rintro ⟨name, value⟩ hp
  cases value with
  | some v => exact Dict.get?_ofList_of_mem hkeys (List.mem_filterMap.mpr ⟨(name, some v), hp, rfl⟩)
  | none =>
    refine Dict.get?_ofList_of_notMem fun hmem => ?_
    obtain ⟨⟨_, v⟩, hq, rfl⟩ := List.mem_map.mp hmem
    obtain ⟨⟨k, o⟩, ho, hsome⟩ := List.mem_filterMap.mp hq
    cases o with
    | none => cases hsome
    | some v =>
      cases hsome
      -- Two fields of one name would be one field.
      cases List.inj_on_of_nodup_map hnames hp ho rfl

/-- A field that is an object of fields. -/
theorem exists_holds_of_field {name : String} (h : f name = some (Value.ofFields pairs))
    (hnames : (pairs.map Prod.fst).Nodup) : ∃ ms, f name = some (.object ms) ∧ Holds (ofMembers ms) pairs := by
  obtain ⟨ms, hms, hholds⟩ := exists_holds hnames
  exact ⟨ms, hms ▸ h, hholds⟩

theorem ofPairs_eq (members : List (String × Value)) :
    Value.ofPairs members = .ofFields (members.map fun p => (p.1, some p.2)) := by
  simp [Value.ofPairs, Value.ofFields, List.filterMap_map]

@[simp] theorem fields_object (names : List String) (ms : Members) : fields names (.object ms) = some (ofMembers ms) :=
  rfl

variable {α : Type} {d : Decoder Value α} {name : String} {v : Value} {a : α}

/-- What a decoder makes of an object of fields is what it makes of every object that holds them. -/
theorem decodes_ofFields {o : Option α} (hnames : (pairs.map Prod.fst).Nodup)
    (h : ∀ ms, Holds (ofMembers ms) pairs → d (.object ms) = o) : d (Value.ofFields pairs) = o := by
  obtain ⟨ms, hms, hholds⟩ := exists_holds hnames
  rw [hms]
  exact h ms hholds

theorem decodes_ofPairs {o : Option α} {members : List (String × Value)} (hnames : (members.map Prod.fst).Nodup)
    (h : ∀ ms, Holds (ofMembers ms) (members.map fun p => (p.1, some p.2)) → d (.object ms) = o) :
    d (Value.ofPairs members) = o := by
  rw [ofPairs_eq]
  refine decodes_ofFields ?_ h
  rwa [List.map_map]

theorem depth_lt_ofFields (name : String) {pairs : List (String × Option Value)} (hnames : (pairs.map Prod.fst).Nodup)
    (h : (name, some v) ∈ pairs) : Value.depth v < Value.depth (.ofFields pairs) := by
  obtain ⟨ms, hms, hholds⟩ := exists_holds hnames
  rw [hms]
  exact Value.depth_lt_of_mem_members (Dict.mem_of_get? (hholds _ h))

theorem required_eq (h : f name = some v) (hd : d v = some a) : required f name d = some a := by
  rw [required, h, Option.bind_some, hd]

theorem required_of_none (h : f name = none) (d : Decoder Value α) : required f name d = none := by
  rw [required, h, Option.bind_none]

theorem required_eq_none (h : f name = some v) (hd : d v = none) : required f name d = none := by
  rw [required, h, Option.bind_some, hd]

theorem withDefault_eq (h : f name = some v) (hd : d v = some a) (default : α) :
    withDefault f name d default = some a := by
  rw [withDefault, h]
  exact hd

theorem withDefault_absent (h : f name = none) (default : α) : withDefault f name d default = some default := by
  rw [withDefault, h]

theorem present?_of_ne_null (h : v ≠ .null) : Source.present? v = some (some v) := by
  cases v with
  | null => exact absurd rfl h
  | _ => rfl

/-- A decoder that does not read null reads what is there. -/
theorem optional_eq (hnull : d .null = none) (hd : d v = some a) : optional d v = some (some a) := by
  have hpresent : Source.present? v = some (some v) := present?_of_ne_null fun h => by
    rw [h, hnull] at hd
    cases hd
  simp [optional, hpresent, hd]

/-- A field that is left out where it has no value. -/
theorem maybe_eq {toJson : α → Value} {o : Option α} (h : f name = o.map toJson) (hnull : d .null = none)
    (hd : ∀ a ∈ o, d (toJson a) = some a) : maybe f name d = some o := by
  cases o with
  | none => exact withDefault_absent h none
  | some a =>
    rw [Option.map_some] at h
    exact withDefault_eq h (optional_eq hnull (hd a rfl)) none

/-- A field that is there, and not null. -/
theorem maybe_of_ne_null (h : f name = some v) (hnull : v ≠ .null) (d : Decoder Value α) :
    maybe f name d = (d v).map some := by
  simp [maybe, withDefault, optional, h, present?_of_ne_null hnull]

/-- What is read from an optional field was read from a value other than null. -/
theorem exists_of_maybe (h : maybe f name d = some (some a)) : ∃ v, v ≠ .null ∧ d v = some a := by
  rw [maybe, withDefault] at h
  split at h
  · cases h
  · rename_i v _
    refine ⟨v, ?_⟩
    cases v with
    | null => cases h
    | _ => exact ⟨nofun, by simpa [optional, Source.present?] using h⟩

/-- A field that is null where it has no value. -/
theorem maybe_eq_of_getD {toJson : α → Value} {o : Option α} (h : f name = some ((o.map toJson).getD .null))
    (hnull : d .null = none) (hd : ∀ a ∈ o, d (toJson a) = some a) : maybe f name d = some o := by
  cases o with
  | none => exact withDefault_eq (d := optional d) h rfl none
  | some a => exact withDefault_eq h (optional_eq hnull (hd a rfl)) none

/-- A list that is left out where it is empty. -/
theorem withDefault_nil_eq {d : Decoder Value (List α)} {as : List α} {isEmpty : Bool} (hempty : isEmpty = as.isEmpty)
    (h : f name = if isEmpty then none else some v) (hd : as ≠ [] → d v = some as) :
    withDefault f name d [] = some as := by
  subst hempty
  cases as with
  | nil => exact withDefault_absent h []
  | cons a as => exact withDefault_eq h (hd (List.cons_ne_nil _ _)) []

/-! ### Values -/

theorem bool_eq (b : Bool) : bool (Value.bool b) = some b := rfl

theorem string_eq (s : String) : string (Value.string s) = some s := rfl

theorem anyValue_eq (v : Value) : anyValue v = some v := rfl

theorem natBelow?_ofNat {limit n : Nat} (hlimit : limit ≤ 18446744073709551616) (h : n < limit) :
    Source.natBelow? limit (Value.ofNat n) = some n := by
  have hmin : min (n : Int) 18446744073709551615 = n := by omega
  have hbounds : 0 ≤ (n : Int) ∧ (n : Int) < limit := by omega
  simp only [Source.natBelow?, Value.ofNat, Value.asInt?, Json.Number.toInt?, Option.bind_some, hmin, hbounds,
    Int.toNat_natCast, and_self, if_true]

theorem uint16_eq (n : UInt16) : uint16 (Value.ofNat n.toNat) = some n := by
  rw [uint16, natBelow?_ofNat (by decide) n.toNat_lt, Option.map_some, UInt16.ofNat_toNat]

theorem uint32_eq (n : UInt32) : uint32 (Value.ofUInt32 n) = some n := by
  rw [uint32, Value.ofUInt32, natBelow?_ofNat (by decide) n.toNat_lt, Option.map_some, UInt32.ofNat_toNat]

theorem uint64_eq (n : UInt64) : uint64 (Value.ofUInt64 n) = some n := by
  rw [uint64, Value.ofUInt64, natBelow?_ofNat (by decide) n.toNat_lt, Option.map_some, UInt64.ofNat_toNat]

theorem float_eq {x : Float} (h : x.isFinite = true) : float (Value.ofFloat x) = some x := by
  rw [Value.ofFloat, Json.Number.ofFloat?_eq_some h]
  rfl

theorem mapM_eq {β : Type} {g : β → Option α} {h : α → β} {as : List α} (hg : ∀ a ∈ as, g (h a) = some a) :
    (as.map h).mapM g = some as := by
  induction as with
  | nil => rfl
  | cons a as ih =>
    rw [List.map_cons, List.mapM_cons, hg a List.mem_cons_self, ih fun b hb => hg b (List.mem_cons_of_mem _ hb)]
    rfl

theorem listOf_eq {toJson : α → Value} {as : List α} (hd : ∀ a ∈ as, d (toJson a) = some a) :
    listOf d (.array (as.map toJson)) = some as :=
  mapM_eq hd

theorem dictOf_eq {toJson : α → Value} {as : Dict α} (hd : ∀ p ∈ as, d (toJson p.2) = some p.2) :
    dictOf d (.object (as.map fun p => (p.1, toJson p.2))) = some as := by
  refine mapM_eq (h := fun p : String × α => (p.1, toJson p.2)) fun p hp => ?_
  simp only [hd p hp, Option.map_some]

/-- What is read from a list was read from its items. -/
theorem exists_of_mapM {β : Type} {g : β → Option α} {bs : List β} {as : List α} (h : bs.mapM g = some as) :
    ∀ a ∈ as, ∃ b ∈ bs, g b = some a := by
  induction bs generalizing as with
  | nil =>
    cases h
    simp
  | cons b bs ih =>
    rw [List.mapM_cons] at h
    obtain ⟨a, ha, h⟩ := Option.bind_eq_some_iff.mp h
    obtain ⟨rest, hrest, h⟩ := Option.bind_eq_some_iff.mp h
    cases h
    intro a' ha'
    rcases List.mem_cons.mp ha' with rfl | ha'
    · exact ⟨b, List.mem_cons_self, ha⟩
    · obtain ⟨b', hb', hg⟩ := ih hrest a' ha'
      exact ⟨b', List.mem_cons_of_mem _ hb', hg⟩

theorem exists_of_listOf {as : List α} (h : listOf d v = some as) : ∀ a ∈ as, ∃ w, d w = some a := by
  obtain ⟨xs, -, h⟩ := Option.bind_eq_some_iff.mp h
  intro a ha
  obtain ⟨w, -, hw⟩ := exists_of_mapM h a ha
  exact ⟨w, hw⟩

theorem mapM_eq_none {β : Type} {g : β → Option α} {bs : List β} {b : β} (hmem : b ∈ bs) (hb : g b = none) :
    bs.mapM g = none := by
  induction bs with
  | nil => cases hmem
  | cons c bs ih =>
    rw [List.mapM_cons]
    rcases List.mem_cons.mp hmem with rfl | hmem
    · rw [hb]
      rfl
    · rw [ih hmem]
      cases g c <;> rfl

/-- A list with an item that cannot be read. -/
theorem listOf_eq_none {β : Type} {toJson : β → Value} {bs : List β} {b : β} (hmem : b ∈ bs)
    (hb : d (toJson b) = none) : listOf d (.array (bs.map toJson)) = none :=
  mapM_eq_none (List.mem_map_of_mem hmem) hb

theorem texts_eq (d : Dict String) : dictOf string (Value.ofTexts d) = some d := by
  have hread : dictOf string (Value.object (d.map fun p => (p.1, .string p.2))) = some d := dictOf_eq fun _ _ => rfl
  exact hread

theorem values_eq (ms : Json.Members) : dictOf anyValue (Value.object ms) = some ms := by
  have hread : dictOf anyValue (Value.object (ms.map fun p => (p.1, id p.2))) = some ms :=
    dictOf_eq fun p _ => anyValue_eq p.2
  simpa using hread

/-- The contents of a choice are read as those of its name. -/
theorem tagged_eq {tag content : String} {choices : List (String × Decoder Value α)} {ms : Members}
    (htag : ofMembers ms tag = some (.string name)) (hcontent : ofMembers ms content = some v)
    (hname : choices.lookup name = some d) : tagged tag content choices (.object ms) = d v := by
  have hmem : name ∈ choices.map Prod.fst := List.mem_map_of_mem (Dict.mem_of_get? hname)
  have hchoice : choice choices (Value.string name) = some d := by
    simp only [choice, Source.choice?, hmem, if_true, Option.bind_some, hname]
  simp only [tagged, fields_object, required, htag, hcontent, hchoice, Option.bind_eq_bind, Option.bind_some]

/-- A content is read in one of the ways to choose from. -/
theorem exists_of_tagged {tag content : String} {choices : List (String × Decoder Value α)}
    (h : tagged tag content choices v = some a) : ∃ p ∈ choices, ∃ w, p.2 w = some a := by
  simp only [tagged, required, choice, Option.bind_eq_bind, Option.bind_eq_some_iff] at h
  obtain ⟨f, -, reader, ⟨_, -, name, -, hname⟩, w, -, hread⟩ := h
  exact ⟨(name, reader), Dict.mem_of_get? hname, w, hread⟩

theorem tagged_ofTagged {tag content : String} {choices : List (String × Decoder Value α)} (hne : tag ≠ content)
    (hname : choices.lookup name = some d) (v : Value) :
    tagged tag content choices (.ofTagged tag content name v) = d v := by
  let members : List (String × Option Value) := [(tag, some (.string name)), (content, some v)]
  have hnames : (members.map Prod.fst).Nodup := by simp [members, hne]
  obtain ⟨ms, hms, hholds⟩ := exists_holds hnames
  simp only [members, holds_cons, holds_nil, and_true] at hholds
  rw [Value.ofTagged, ofPairs_eq]
  exact hms ▸ tagged_eq hholds.1 hholds.2 hname

end Record

end Casebook
