/-! Dictionaries: lists of pairs in strictly ascending key order. -/
namespace Casebook

abbrev Dict (α : Type) := List (String × α)

namespace Dict

variable {α : Type}

/-- Puts a pair at its place in the key order; an earlier value of the same key gives way. -/
def insert (key : String) (value : α) : Dict α → Dict α
  | [] => [(key, value)]
  | (k, v) :: rest =>
    if key < k then (key, value) :: (k, v) :: rest
    else if key = k then (key, value) :: rest
    else (k, v) :: insert key value rest

def get? (key : String) (d : Dict α) : Option α := d.lookup key

def keys (d : Dict α) : List String := d.map Prod.fst

/-- The dictionary of a list of pairs, the last of equal keys winning. -/
def ofList (pairs : List (String × α)) : Dict α :=
  pairs.foldl (fun d p => insert p.1 p.2 d) []

/-- The keys ascend strictly. -/
def Sorted (d : Dict α) : Prop := d.keys.Pairwise (· < ·)

theorem get?_insert_self (key : String) (value : α) (d : Dict α) :
    get? key (insert key value d) = some value := by
  induction d with
  | nil => simp [get?, insert]
  | cons p rest ih =>
    obtain ⟨k, v⟩ := p
    simp only [insert, get?] at ih ⊢
    split
    · simp
    · split
      · simp
      · rename_i hne
        simp [List.lookup_cons, beq_eq_false_iff_ne.2 hne, ih]

theorem get?_insert_of_ne {key other : String} (h : other ≠ key) (value : α) (d : Dict α) :
    get? other (insert key value d) = get? other d := by
  induction d with
  | nil => simp [get?, insert, List.lookup_cons, beq_eq_false_iff_ne.2 h]
  | cons p rest ih =>
    obtain ⟨k, v⟩ := p
    simp only [insert, get?] at ih ⊢
    split
    · simp [List.lookup_cons, beq_eq_false_iff_ne.2 h]
    · split
      · rename_i hk
        subst hk
        simp [List.lookup_cons, beq_eq_false_iff_ne.2 h]
      · simp only [List.lookup_cons, ih]

theorem mem_keys_insert {key other : String} {value : α} {d : Dict α} :
    other ∈ keys (insert key value d) ↔ other = key ∨ other ∈ keys d := by
  induction d with
  | nil => simp [keys, insert]
  | cons p rest ih =>
    obtain ⟨k, v⟩ := p
    simp only [insert, keys] at ih ⊢
    split
    · simp
    · split
      · rename_i hk
        subst hk
        simp
      · simp only [List.map_cons, List.mem_cons, ih]
        constructor
        · rintro (h | h | h) <;> simp [h]
        · rintro (h | h | h) <;> simp [h]

theorem Sorted.insert {d : Dict α} (h : Sorted d) (key : String) (value : α) :
    Sorted (Dict.insert key value d) := by
  induction d with
  | nil => simp [Sorted, Dict.insert, keys]
  | cons p rest ih =>
    obtain ⟨k, v⟩ := p
    have hp : (∀ a ∈ keys rest, k < a) ∧ Sorted rest := by
      simpa [Sorted, keys] using h
    simp only [Dict.insert]
    split
    · rename_i hlt
      simp only [Sorted, keys, List.map_cons, List.pairwise_cons, List.mem_cons, forall_eq_or_imp]
      exact ⟨⟨hlt, fun a ha => String.lt_trans hlt (hp.1 a ha)⟩, hp.1, hp.2⟩
    · split
      · rename_i hk
        subst hk
        simp only [Sorted, keys, List.map_cons, List.pairwise_cons]
        exact ⟨hp.1, hp.2⟩
      · rename_i hnlt hne
        have hlt : k < key := Std.lt_of_le_of_ne (Std.not_lt.1 hnlt) (Ne.symm hne)
        have := ih hp.2
        simp only [Sorted, keys, List.map_cons, List.pairwise_cons] at this ⊢
        refine ⟨fun a ha => ?_, this⟩
        rcases mem_keys_insert.1 (show a ∈ keys (Dict.insert key value rest) from ha) with rfl | h
        · exact hlt
        · exact hp.1 a h

theorem sorted_ofList (pairs : List (String × α)) : Sorted (ofList pairs) := by
  suffices h : ∀ (d : Dict α), Sorted d → Sorted (pairs.foldl (fun d p => Dict.insert p.1 p.2 d) d) from
    h [] (by simp [Sorted, keys])
  induction pairs with
  | nil => exact fun d hd => hd
  | cons p rest ih => exact fun d hd => ih _ (hd.insert p.1 p.2)

theorem mem_of_mem_insert {key : String} {value : α} {d : Dict α} {p : String × α}
    (h : p ∈ insert key value d) : p = (key, value) ∨ p ∈ d := by
  induction d with
  | nil => simpa [insert] using h
  | cons q rest ih =>
    simp only [insert] at h
    split at h
    · simpa using h
    · split at h
      · rcases List.mem_cons.1 h with h | h
        · exact .inl h
        · exact .inr (List.mem_cons_of_mem _ h)
      · rcases List.mem_cons.1 h with h | h
        · exact .inr (h ▸ List.mem_cons_self)
        · exact (ih h).imp_right (List.mem_cons_of_mem _)

/-- A dictionary holds no other pairs than those it is made of. -/
theorem mem_of_mem_ofList {pairs : List (String × α)} {p : String × α} (h : p ∈ ofList pairs) : p ∈ pairs := by
  suffices hfold : ∀ d : Dict α, p ∈ pairs.foldl (fun d p => Dict.insert p.1 p.2 d) d → p ∈ d ∨ p ∈ pairs from
    (hfold [] h).resolve_left nofun
  clear h
  induction pairs with
  | nil => exact fun d h => .inl h
  | cons q rest ih =>
    intro d h
    rcases ih _ h with h | h
    · rcases mem_of_mem_insert h with rfl | h
      · exact .inr List.mem_cons_self
      · exact .inl h
    · exact .inr (List.mem_cons_of_mem _ h)

/-- The value of a key stands beside it. -/
theorem Sorted.get?_eq_some_iff {d : Dict α} (h : Sorted d) {key : String} {value : α} :
    get? key d = some value ↔ (key, value) ∈ d := by
  induction d with
  | nil => simp [get?]
  | cons p rest ih =>
    obtain ⟨k, v⟩ := p
    obtain ⟨hfirst, hrest⟩ := List.pairwise_cons.1 h
    rw [List.mem_cons, ← ih hrest, get?, List.lookup_cons]
    by_cases hk : key = k
    · subst hk
      have hnot : get? key rest ≠ some value := fun hget =>
        String.lt_irrefl key (hfirst key (List.mem_map_of_mem ((ih hrest).1 hget)))
      simp [hnot, eq_comm]
    · simp [hk, beq_eq_false_iff_ne.2 hk, get?]

theorem insert_of_forall_lt {key : String} {d : Dict α} (h : ∀ k ∈ keys d, k < key) (value : α) :
    insert key value d = d ++ [(key, value)] := by
  induction d with
  | nil => rfl
  | cons p rest ih =>
    obtain ⟨k, v⟩ := p
    have hk : k < key := h k List.mem_cons_self
    have hrest : ∀ k ∈ keys rest, k < key := fun k hk => h k (List.mem_cons_of_mem _ hk)
    rw [insert, if_neg (String.lt_asymm hk), if_neg (Std.ne_of_lt hk).symm, ih hrest, List.cons_append]

/-- A dictionary is the one of its own pairs. -/
theorem Sorted.ofList_eq {d : Dict α} (h : Sorted d) : ofList d = d := by
  suffices happend : ∀ done rest : Dict α, Sorted (done ++ rest) →
      rest.foldl (fun d p => Dict.insert p.1 p.2 d) done = done ++ rest from happend [] d h
  intro done rest hsorted
  induction rest generalizing done with
  | nil => simp
  | cons p rest ih =>
    have hlt : ∀ k ∈ keys done, k < p.1 := by
      intro k hk
      have hsplit : (keys done ++ keys (p :: rest)).Pairwise (· < ·) := by
        rw [keys, keys, ← List.map_append]
        exact hsorted
      exact (List.pairwise_append.mp hsplit).2.2 k hk p.1 List.mem_cons_self
    have hnext : Sorted ((done ++ [p]) ++ rest) := by
      rw [List.append_assoc]
      exact hsorted
    rw [List.foldl_cons, insert_of_forall_lt hlt, ih _ hnext, List.append_assoc]
    rfl

end Dict

end Casebook
