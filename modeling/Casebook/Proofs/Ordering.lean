import Mathlib

/-! Lists in the order of a key, where members of the same key stay in the order in which they came. -/
namespace Casebook

section

variable {α κ : Type} {key : α → κ} {l l' ordered ordered' : List α}

theorem head_le_of_mem [LE κ] [Std.IsLinearOrder κ] {a b : α} (h : (b :: l).Pairwise fun a b => key a ≤ key b)
    (ha : a ∈ b :: l) : key b ≤ key a := by
  rcases List.mem_cons.mp ha with rfl | ha
  · exact Std.le_refl _
  · exact (List.pairwise_cons.mp h).1 a ha

variable [DecidableEq κ]

theorem mem_iff_of_filter_key (h : ∀ k, (l.filter fun a => key a == k) = l'.filter fun a => key a == k) (c : α) :
    c ∈ l ↔ c ∈ l' := by
  have hc := congrArg (c ∈ ·) (h (key c))
  simpa using hc

variable [LE κ]

/-- A list has the members of another in ascending order of their keys, and those of equal keys as they came. -/
structure IsOrderedBy (key : α → κ) (l ordered : List α) : Prop where
  perm : ordered.Perm l
  ascending : ordered.Pairwise fun a b => key a ≤ key b
  stable : ∀ k, (ordered.filter fun a => key a == k) = l.filter fun a => key a == k

/-- Members that are left out leave the others in their order. -/
theorem IsOrderedBy.filter (h : IsOrderedBy key l ordered) (p : α → Bool) :
    IsOrderedBy key (l.filter p) (ordered.filter p) where
  perm := h.perm.filter p
  ascending := h.ascending.filter p
  stable k := by rw [List.filter_comm, h.stable, List.filter_comm]

variable [Std.IsLinearOrder κ]

theorem isOrderedBy_mergeSort [DecidableLE κ] (key : α → κ) (l : List α) :
    IsOrderedBy key l (l.mergeSort fun a b => key a ≤ key b) := by
  have htrans : ∀ a b c : α, decide (key a ≤ key b) = true → decide (key b ≤ key c) = true →
      decide (key a ≤ key c) = true := by
    intro a b c hab hbc
    simp only [decide_eq_true_eq] at hab hbc ⊢
    exact Std.le_trans hab hbc
  have htotal : ∀ a b : α, (decide (key a ≤ key b) || decide (key b ≤ key a)) = true := by
    intro a b
    simpa using Std.le_total
  refine ⟨List.mergeSort_perm l _, (List.pairwise_mergeSort htrans htotal l).imp of_decide_eq_true, fun k => ?_⟩
  have hequal : ∀ a ∈ l.filter (fun a => key a == k), key a = k := by
    intro a ha
    simpa using (List.mem_filter.mp ha).2
  have hpairwise : (l.filter fun a => key a == k).Pairwise fun a b => decide (key a ≤ key b) = true := by
    refine List.pairwise_iff_forall_sublist.mpr fun {a b} hab => ?_
    rw [hequal a (hab.subset (by simp)), hequal b (hab.subset (by simp))]
    exact decide_eq_true (Std.le_refl k)
  have hsublist : (l.filter fun a => key a == k).Sublist (l.mergeSort fun a b => key a ≤ key b) :=
    List.sublist_mergeSort htrans htotal hpairwise List.filter_sublist
  have hfiltered := hsublist.filter fun a => key a == k
  rw [List.filter_filter] at hfiltered
  simp only [Bool.and_self] at hfiltered
  exact (hfiltered.eq_of_length ((List.mergeSort_perm l _).filter _).length_eq.symm).symm

/-- Ascending lists in which the same members have each key are the same. -/
theorem eq_of_filter_key (hl : l.Pairwise fun a b => key a ≤ key b) (hl' : l'.Pairwise fun a b => key a ≤ key b)
    (h : ∀ k, (l.filter fun a => key a == k) = l'.filter fun a => key a == k) : l = l' := by
  induction l generalizing l' with
  | nil =>
    exact (List.eq_nil_iff_forall_not_mem.mpr fun c hc =>
      List.not_mem_nil ((mem_iff_of_filter_key h c).mpr hc)).symm
  | cons a l ih =>
    have hmem := mem_iff_of_filter_key h
    cases l' with
    | nil => exact absurd ((hmem a).mp List.mem_cons_self) List.not_mem_nil
    | cons b l' =>
      have hkey : key a = key b :=
        Std.le_antisymm (head_le_of_mem hl ((hmem b).mpr List.mem_cons_self))
          (head_le_of_mem hl' ((hmem a).mp List.mem_cons_self))
      have hheads := h (key b)
      rw [List.filter_cons, List.filter_cons, hkey, if_pos (beq_self_eq_true _),
        if_pos (beq_self_eq_true _)] at hheads
      obtain rfl := (List.cons.inj hheads).1
      have htails : ∀ k, (l.filter fun a => key a == k) = l'.filter fun a => key a == k := by
        intro k
        have h := h k
        rw [List.filter_cons, List.filter_cons] at h
        split at h
        · exact (List.cons.inj h).2
        · exact h
      rw [ih (List.pairwise_cons.mp hl).2 (List.pairwise_cons.mp hl').2 htails]

namespace IsOrderedBy

theorem unique (h : IsOrderedBy key l ordered) (h' : IsOrderedBy key l ordered') : ordered = ordered' :=
  eq_of_filter_key h.ascending h'.ascending fun k => (h.stable k).trans (h'.stable k).symm

/-- Where no two members have the same key, it does not matter in which order they come. -/
theorem eq_of_perm (h : IsOrderedBy key l ordered) (h' : IsOrderedBy key l' ordered') (hkeys : (l.map key).Nodup)
    (hperm : l'.Perm l) : ordered' = ordered := by
  refine List.Perm.eq_of_pairwise (fun a b ha hb hab hba => ?_) h'.ascending h.ascending
    (h'.perm.trans (hperm.trans h.perm.symm))
  have hal : a ∈ l := hperm.mem_iff.mp (h'.perm.mem_iff.mp ha)
  exact List.inj_on_of_nodup_map hkeys hal (h.perm.mem_iff.mp hb) (Std.le_antisymm hab hba)

end IsOrderedBy

end

end Casebook
