import Mathlib.Data.List.Nodup
import Casebook.Suite.Validation

/-! Steps inside of steps.  A path leads to a step by its place in each list on the way, and the steps of a list with
all inside of their loops are listed once for each path. -/
namespace Casebook

namespace Step

/-- The steps of the loop that a step is. -/
def own : Step → List Step
  | .foreach _ _ _ steps => steps
  | _ => []

/-- The step with other steps inside of it, if it is a loop. -/
def withOwn (own : List Step) : Step → Step
  | .foreach h times breakCondition _ => .foreach h times breakCondition own
  | s => s

/-- The step that a path leads to. -/
def at? (steps : List Step) : List Nat → Option Step
  | [] => none
  | [k] => steps[k]?
  | k :: l :: path => steps[k]?.bind fun s => at? s.own (l :: path)

theorem at?_nil (path : List Nat) : at? [] path = none := by
  rcases path with _ | ⟨k, _ | ⟨l, path⟩⟩ <;> rfl

theorem withInner_eq (s : Step) : s.withInner = s :: withInnerOfAll s.own := by
  cases s <;> simp [withInner, withInnerOfAll, own]

theorem withInnerOfAll_cons (s : Step) (rest : List Step) :
    withInnerOfAll (s :: rest) = s :: (withInnerOfAll s.own ++ withInnerOfAll rest) := by
  rw [withInnerOfAll, withInner_eq, List.cons_append]

theorem withInnerOfAll_eq (steps : List Step) : withInnerOfAll steps = steps.flatMap withInner := by
  induction steps with
  | nil => rfl
  | cons s rest ih => rw [withInnerOfAll, ih, List.flatMap_cons]

/-! ### Places -/

/-- The path of a step after those of one step more. -/
def later : List Nat → List Nat
  | [] => []
  | k :: path => (k + 1) :: path

theorem later_injective : Function.Injective later := by
  intro p q h
  cases p <;> cases q <;> simp_all [later]

theorem at?_later (s : Step) (rest : List Step) (path : List Nat) :
    at? (s :: rest) (later path) = at? rest path := by
  rcases path with _ | ⟨k, _ | ⟨l, path⟩⟩ <;> rfl

/-- The steps of a list and those inside of them, in their order, each with the path to it. -/
structure Places (steps : List Step) (places : List (List Nat × Step)) : Prop where
  listed : places.map Prod.snd = withInnerOfAll steps
  once : (places.map Prod.fst).Nodup
  leads : ∀ path s, (path, s) ∈ places ↔ at? steps path = some s

namespace Places

variable {s : Step} {rest : List Step} {inner after : List (List Nat × Step)}

theorem ne_nil {steps : List Step} {places : List (List Nat × Step)} (h : Places steps places) {x : List Nat × Step}
    (hx : x ∈ places) : x.1 ≠ [] := by
  obtain ⟨_ | ⟨k, path⟩, y⟩ := x
  · cases (h.leads [] y).mp hx
  · exact List.cons_ne_nil _ _

/-- Paths go to the first step, to a step inside of it, or to a later step. -/
def join (s : Step) (inner after : List (List Nat × Step)) : List (List Nat × Step) :=
  ([0], s) :: (inner.map (fun x => (0 :: x.1, x.2)) ++ after.map fun x => (later x.1, x.2))

theorem once_join (hinner : Places s.own inner) (hafter : Places rest after) :
    ((join s inner after).map Prod.fst).Nodup := by
  have hpaths : (join s inner after).map Prod.fst =
      [0] :: ((inner.map Prod.fst).map (0 :: ·) ++ (after.map Prod.fst).map later) := by
    simp [join, Function.comp_def]
  have hinside := hinner.once.map (List.cons_injective (a := 0))
  have hlater := hafter.once.map later_injective
  have hfirst : [0] ∉ (inner.map Prod.fst).map (0 :: ·) := by
    simp only [List.mem_map, not_exists, not_and]
    rintro _ ⟨x, hx, rfl⟩ hpath
    exact hinner.ne_nil hx (List.cons.inj hpath).2
  have hzero : ∀ path ∈ (after.map Prod.fst).map later, path.head? ≠ some 0 := by
    intro path hpath
    obtain ⟨p, -, rfl⟩ := List.mem_map.mp hpath
    cases p <;> simp [later]
  rw [hpaths]
  refine List.nodup_cons.mpr ⟨fun hmem => ?_, hinside.append hlater fun path hpath hpath' => ?_⟩
  · rcases List.mem_append.mp hmem with hmem | hmem
    · exact hfirst hmem
    · exact hzero _ hmem rfl
  · obtain ⟨p, -, rfl⟩ := List.mem_map.mp hpath
    exact hzero _ hpath' rfl

theorem leads_join (hinner : Places s.own inner) (hafter : Places rest after) (path : List Nat) (x : Step) :
    (path, x) ∈ join s inner after ↔ at? (s :: rest) path = some x := by
  have hmem : (path, x) ∈ join s inner after ↔
      (path = [0] ∧ x = s) ∨ (∃ p, at? s.own p = some x ∧ 0 :: p = path) ∨
        ∃ p, at? rest p = some x ∧ later p = path := by
    simp [join, ← hinner.leads, ← hafter.leads]
  rw [hmem]
  rcases path with _ | ⟨_ | k, path⟩
  · simp only [at?, reduceCtorEq, false_and, and_false, exists_false, false_or, iff_false, not_exists, not_and]
    rintro (_ | ⟨k, p⟩) hp hlater
    · cases hp
    · cases hlater
  · have hnone : ∀ p, later p ≠ 0 :: path := by
      intro p
      cases p <;> simp [later]
    rcases path with _ | ⟨l, path⟩
    · simp [hnone, at?, eq_comm (a := x)]
    · simp [hnone, at?]
  · have hlater : ∀ p, later p = (k + 1) :: path ↔ p = k :: path := fun p =>
      later_injective.eq_iff (b := k :: path)
    simp [hlater, ← at?_later s rest (k :: path)]
    rfl

end Places

theorem exists_places (steps : List Step) : ∃ places, Places steps places := by
  induction hsize : sizeOf steps using Nat.strongRecOn generalizing steps with
  | ind size ih =>
    cases steps with
    | nil => exact ⟨[], rfl, List.nodup_nil, fun path s => by simp [at?_nil]⟩
    | cons s rest =>
      have hown : sizeOf s.own < size := by
        subst hsize
        cases s <;> simp [own] <;> omega
      have hrest : sizeOf rest < size := by
        rw [← hsize, List.cons.sizeOf_spec]
        omega
      obtain ⟨inner, hinner⟩ := ih _ hown _ rfl
      obtain ⟨after, hafter⟩ := ih _ hrest _ rfl
      refine ⟨Places.join s inner after, ?_, hinner.once_join hafter, hinner.leads_join hafter⟩
      rw [withInnerOfAll_cons, ← hinner.listed, ← hafter.listed]
      simp [Places.join, Function.comp_def]

theorem mem_withInnerOfAll {steps : List Step} {s : Step} :
    s ∈ withInnerOfAll steps ↔ ∃ path, at? steps path = some s := by
  obtain ⟨places, h⟩ := exists_places steps
  rw [← h.listed, List.mem_map]
  constructor
  · rintro ⟨⟨path, x⟩, hx, rfl⟩
    exact ⟨path, (h.leads path x).mp hx⟩
  · rintro ⟨path, hpath⟩
    exact ⟨(path, s), (h.leads path s).mpr hpath, rfl⟩

/-- Steps have no value twice just if no two paths lead to steps with the same value. -/
theorem nodup_map_withInnerOfAll {β : Type} (f : Step → β) (steps : List Step) :
    ((withInnerOfAll steps).map f).Nodup ↔
      ∀ p q a b, at? steps p = some a → at? steps q = some b → f a = f b → p = q := by
  obtain ⟨places, h⟩ := exists_places steps
  rw [← h.listed, List.map_map, List.nodup_map_iff_inj_on (List.Nodup.of_map _ h.once)]
  constructor
  · intro hinj p q a b hp hq hab
    have hpair := hinj (p, a) ((h.leads p a).mpr hp) (q, b) ((h.leads q b).mpr hq) hab
    exact congrArg Prod.fst hpair
  · rintro hinj ⟨p, a⟩ hp ⟨q, b⟩ hq hab
    rw [h.leads] at hp hq
    cases hinj p q a b hp hq hab
    cases hp.symm.trans hq
    rfl

end Step

end Casebook
