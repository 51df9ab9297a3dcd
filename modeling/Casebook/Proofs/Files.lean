import Casebook.Files

/-! Writing a file.  Whether that succeeds does not depend on the text, and what was written is read until the next
write. -/
namespace Casebook

theorem Place.length_lt_of_mem_ancestors {p a : Place} (h : a ∈ p.ancestors) : a.length < p.length := by
  simp only [ancestors, List.mem_map, List.mem_range] at h
  obtain ⟨n, hn, rfl⟩ := h
  rw [List.length_take]
  omega

/-- The directories around a place lie elsewhere. -/
theorem Place.ne_of_mem_around {p a : Place} (hp : p ≠ []) (h : a ∈ Place.ancestors p.dropLast ++ [p.dropLast]) :
    a ≠ p := by
  rintro rfl
  have hpos : 0 < a.length := List.length_pos_iff.mpr hp
  have hshorter : a.dropLast.length = a.length - 1 := List.length_dropLast
  rcases List.mem_append.mp h with h | h
  · have hlt := Place.length_lt_of_mem_ancestors h
    omega
  · rw [← List.mem_singleton.mp h] at hshorter
    omega

namespace FileStore

/-- Whether a path leads to where a file can be written. -/
def Writable (fs : FileStore) (path : String) : Prop := (fs.writeWithin path "").2 = .ok ()

variable {fs made : FileStore} {p : Place} {path content : String}

/-- The store with the directories that lead to a place. -/
def withDirectories (fs : FileStore) (p : Place) : FileStore :=
  { fs with directories := (p.ancestors ++ [p]).filter (fun d => !fs.isDirectory d) ++ fs.directories }

theorem isDirectory_withDirectories {a : Place} :
    (fs.withDirectories p).isDirectory a = true ↔ fs.isDirectory a = true ∨ a ∈ p.ancestors ++ [p] := by
  simp only [isDirectory, withDirectories, Bool.or_eq_true, List.contains_iff_mem, List.mem_append, List.mem_filter,
    Bool.not_eq_true', Bool.or_eq_false_iff]
  by_cases hempty : a.isEmpty = true <;> by_cases hmem : a ∈ fs.directories <;> simp [hempty, hmem]

theorem makeDirectories_eq_ok (h : ∀ a ∈ p.ancestors ++ [p], fs.contents? a = none) :
    fs.makeDirectories p = .ok (fs.withDirectories p) := by
  unfold makeDirectories
  rw [if_neg, if_neg]
  · rfl
  · simp [h p (by simp)]
  · simp only [List.any_eq_true, not_exists, not_and]
    intro a ha
    simp [h a (List.mem_append_left _ ha)]

theorem eq_of_makeDirectories (h : fs.makeDirectories p = .ok made) :
    made = fs.withDirectories p ∧ ∀ a ∈ p.ancestors ++ [p], fs.contents? a = none := by
  unfold makeDirectories at h
  split at h
  · cases h
  · split at h
    · cases h
    · rename_i hancestors hplace
      cases h
      refine ⟨rfl, fun a ha => ?_⟩
      simp only [List.any_eq_true, not_exists, not_and, Bool.not_eq_true, Option.isSome_eq_false_iff,
        Option.isNone_iff_eq_none] at hancestors hplace
      rcases List.mem_append.mp ha with ha | ha
      · exact hancestors a ha
      · cases List.mem_singleton.mp ha
        exact hplace

theorem contents?_put (fs : FileStore) (p q : Place) (content : String) :
    (fs.put p content).contents? q = if q = p then some content else fs.contents? q := by
  unfold contents? put
  rw [List.lookup_cons]
  by_cases h : q = p
  · simp [h]
  · rw [beq_eq_false_iff_ne.mpr h, if_neg h]
    show List.lookup q (fs.files.filter fun f => f.1 != p) = fs.files.lookup q
    induction fs.files with
    | nil => rfl
    | cons f files ih =>
      by_cases hf : f.1 = p
      · rw [List.filter_cons_of_neg (by simp [hf]), ih, List.lookup_cons, hf, beq_eq_false_iff_ne.mpr h]
      · rw [List.filter_cons_of_pos (by simp [hf]), List.lookup_cons, List.lookup_cons, ih]

theorem isDirectory_put (fs : FileStore) (p q : Place) (content : String) :
    (fs.put p content).isDirectory q = fs.isDirectory q := by
  unfold isDirectory
  rfl

theorem obstacle?_eq_none : fs.obstacle? p = none ↔ ∀ a ∈ p.ancestors, fs.isDirectory a = true := by
  unfold obstacle?
  rw [List.findSome?_eq_none_iff]
  refine forall₂_congr fun a _ => ?_
  cases fs.isDirectory a with
  | true => simp
  | false => cases (fs.contents? a).isSome <;> simp

/-- The store with the directory of a file, and those around it. -/
def prepared (fs : FileStore) (path : String) : FileStore := fs.withDirectories (Place.ofPath path).dropLast

theorem contents?_prepared (fs : FileStore) (path : String) (q : Place) :
    (fs.prepared path).contents? q = fs.contents? q := by
  simp only [contents?, prepared, withDirectories]

/-- What is needed of a store to write a file: no file stands in the way of its directories, and it is none itself. -/
structure Takes (fs : FileStore) (path : String) : Prop where
  named : path ≠ "" ∧ path.endsWith "/" = false
  free : ∀ a ∈ Place.ancestors (Place.ofPath path).dropLast ++ [(Place.ofPath path).dropLast], fs.contents? a = none
  reached : ∀ a ∈ (Place.ofPath path).ancestors, (fs.prepared path).isDirectory a = true
  notDirectory : (fs.prepared path).isDirectory (Place.ofPath path) = false

theorem Writable.takes (h : fs.Writable path) : fs.Takes path := by
  unfold Writable writeWithin at h
  split at h
  · cases h
  · rename_i made hmade
    obtain ⟨rfl, hfree⟩ := eq_of_makeDirectories hmade
    split at h
    · cases h
    · rename_i written hwritten
      unfold write at hwritten
      simp only at hwritten
      split at hwritten
      · cases hwritten
      · rename_i hnamed
        split at hwritten
        · cases hwritten
        · rename_i hobstacle
          split at hwritten
          · cases hwritten
          · rename_i hneither
            rw [Bool.or_eq_true, not_or, Bool.not_eq_true, Bool.not_eq_true] at hneither
            exact ⟨⟨hnamed, hneither.2⟩, hfree, obstacle?_eq_none.mp hobstacle, hneither.1⟩

theorem Takes.writeWithin_eq (h : fs.Takes path) (content : String) :
    fs.writeWithin path content = ((fs.prepared path).put (Place.ofPath path) content, .ok ()) := by
  have hobstacle := obstacle?_eq_none.mpr h.reached
  have hwrite : (fs.prepared path).write path content = .ok ((fs.prepared path).put (Place.ofPath path) content) := by
    simp [write, h.named, hobstacle, h.notDirectory]
  simp only [writeWithin, makeDirectories_eq_ok h.free]
  rw [prepared] at hwrite
  rw [hwrite]
  rfl

/-- A file that was written is there, holds what was written, and can be written again. -/
theorem Takes.written (h : fs.Takes path) (content : String) :
    let written := (fs.prepared path).put (Place.ofPath path) content
    written.exists? path = true ∧ written.read? path = .ok content ∧ written.Takes path := by
  intro written
  have hdirectory : ∀ a, written.isDirectory a = (fs.prepared path).isDirectory a := fun a => isDirectory_put _ _ a content
  have hobstacle : written.obstacle? (Place.ofPath path) = none :=
    obstacle?_eq_none.mpr fun a ha => (hdirectory a).trans (h.reached a ha)
  have hnone : written.isDirectory (Place.ofPath path) = false := (hdirectory _).trans h.notDirectory
  have hcontents : written.contents? (Place.ofPath path) = some content := by
    rw [contents?_put, if_pos rfl]
  have hroot : Place.ofPath path ≠ [] := by
    intro hnil
    rw [hnil] at hnone
    cases hnone
  refine ⟨?_, ?_, h.named, fun a ha => ?_, fun a ha => ?_, ?_⟩
  · simp [exists?, h.named.1, hobstacle, hcontents]
  · simp [read?, h.named.1, hobstacle, hnone, hcontents]
  · rw [contents?_put, if_neg (Place.ne_of_mem_around hroot ha), contents?_prepared]
    exact h.free a ha
  · rw [prepared, isDirectory_withDirectories]
    exact .inl ((hdirectory a).trans (h.reached a ha))
  · refine Bool.eq_false_iff.mpr fun hdirectory => ?_
    rw [prepared, isDirectory_withDirectories] at hdirectory
    rcases hdirectory with hdirectory | hmem
    · rw [hnone] at hdirectory
      cases hdirectory
    · exact Place.ne_of_mem_around hroot hmem rfl

/-- Only a file that is there is read. -/
theorem exists?_of_read? (h : fs.read? path = .ok content) : fs.exists? path = true := by
  unfold read? at h
  simp only at h
  split at h
  case isTrue => cases h
  case isFalse hnamed =>
    split at h
    case h_1 => cases h
    case h_2 hobstacle =>
      split at h
      case isTrue => cases h
      case isFalse =>
        cases hcontents : fs.contents? (Place.ofPath path) with
        | none =>
          rw [hcontents] at h
          cases h
        | some text => simp [exists?, hnamed, hobstacle, hcontents]

end FileStore

end Casebook
