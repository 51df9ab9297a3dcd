import Mathlib.Logic.Relation
import Mathlib.Data.List.Pairwise
import Casebook.Proofs.Suite.WellFormed

/-! Cases that come back to themselves.  The search looks at the references of the steps of a case and at the stored
nodes that refer to a case themselves, and finds whatever these lead to.  The loops that a stored node carries with it
are run as well, and references in them are not looked at. -/
namespace Casebook

namespace Suite

/-! ### The search -/

section Search

variable {next : CaseId → List CaseId} {all waiting seen : List CaseId}

/-- How much of a search is ahead, if no other cases than these lead on. -/
def ahead (next : CaseId → List CaseId) (all waiting seen : List CaseId) : Nat :=
  waiting.length + ((all.filter fun c => !seen.contains c).flatMap next).length

theorem ahead_cons_seen (c : CaseId) : ahead next all (c :: waiting) seen = ahead next all waiting seen + 1 := by
  simp only [ahead, List.length_cons]
  omega

/-- To go on from a case uses its references up. -/
theorem ahead_cons_new {c : CaseId} (hall : all.Nodup) (hleaf : ∀ d ∉ all, next d = []) (hnew : c ∉ seen) :
    ahead next all (c :: waiting) seen = ahead next all (next c ++ waiting) (c :: seen) + 1 := by
  have hrest : ((all.filter fun d => !seen.contains d).flatMap next).length =
      (next c).length + ((all.filter fun d => !(c :: seen).contains d).flatMap next).length := by
    by_cases hc : c ∈ all
    · have hperm : (all.filter fun d => !seen.contains d).Perm (c :: all.filter fun d => !(c :: seen).contains d) := by
        refine (List.perm_ext_iff_of_nodup (hall.filter _) ?_).mpr fun d => ?_
        · exact List.nodup_cons.mpr ⟨by simp, hall.filter _⟩
        · by_cases hd : d = c
          · simp [hd, hc, hnew]
          · simp [hd]
      rw [(hperm.flatMap_right next).length_eq, List.flatMap_cons, List.length_append]
    · have hsame : (all.filter fun d => !seen.contains d) = all.filter fun d => !(c :: seen).contains d := by
        refine List.filter_congr fun d hd => ?_
        have hne : d ≠ c := fun heq => hc (heq ▸ hd)
        simp [hne]
      rw [hleaf c hc, hsame, List.length_nil, Nat.zero_add]
  simp only [ahead, List.length_cons, List.length_append]
  omega

/-- What a search may find: what it has seen, and what the waiting cases lead to. -/
def Found (next : CaseId → List CaseId) (waiting seen : List CaseId) (d : CaseId) : Prop :=
  d ∈ seen ∨ ∃ c ∈ waiting, Relation.ReflTransGen (fun a b => b ∈ next a) c d

/-- Whatever cases that were seen lead to was seen or is waiting. -/
def Explored (next : CaseId → List CaseId) (waiting seen : List CaseId) : Prop :=
  ∀ c ∈ seen, ∀ d ∈ next c, d ∈ seen ∨ d ∈ waiting

theorem Explored.found {c d : CaseId} (h : Explored next waiting seen) (hc : c ∈ seen)
    (hd : Relation.ReflTransGen (fun a b => b ∈ next a) c d) : Found next waiting seen d := by
  induction hd using Relation.ReflTransGen.head_induction_on with
  | refl => exact .inl hc
  | @head a b hab hbd ih =>
    rcases h a hc b hab with hb | hb
    · exact ih hb
    · exact .inr ⟨b, hb, hbd⟩

theorem found_cons_seen {c : CaseId} (h : Explored next (c :: waiting) seen) (hc : c ∈ seen) (d : CaseId) :
    Explored next waiting seen ∧ (Found next (c :: waiting) seen d ↔ Found next waiting seen d) := by
  have hexplored : Explored next waiting seen := by
    intro a ha b hb
    rcases h a ha b hb with hseen | hwaiting
    · exact .inl hseen
    · rcases List.mem_cons.mp hwaiting with rfl | hwaiting
      · exact .inl hc
      · exact .inr hwaiting
  refine ⟨hexplored, fun hd => ?_, fun hd => ?_⟩
  · rcases hd with hd | ⟨a, ha, had⟩
    · exact .inl hd
    · rcases List.mem_cons.mp ha with rfl | ha
      · exact hexplored.found hc had
      · exact .inr ⟨a, ha, had⟩
  · exact hd.imp id fun ⟨a, ha, had⟩ => ⟨a, List.mem_cons_of_mem _ ha, had⟩

theorem found_cons_new {c : CaseId} (h : Explored next (c :: waiting) seen) (d : CaseId) :
    Explored next (next c ++ waiting) (c :: seen) ∧
      (Found next (c :: waiting) seen d ↔ Found next (next c ++ waiting) (c :: seen) d) := by
  refine ⟨fun a ha b hb => ?_, fun hd => ?_, fun hd => ?_⟩
  · rcases List.mem_cons.mp ha with rfl | ha
    · exact .inr (List.mem_append_left _ hb)
    · rcases h a ha b hb with hseen | hwaiting
      · exact .inl (List.mem_cons_of_mem _ hseen)
      · rcases List.mem_cons.mp hwaiting with rfl | hwaiting
        · exact .inl List.mem_cons_self
        · exact .inr (List.mem_append_right _ hwaiting)
  · rcases hd with hd | ⟨a, ha, had⟩
    · exact .inl (List.mem_cons_of_mem _ hd)
    · rcases List.mem_cons.mp ha with rfl | ha
      · rcases Relation.ReflTransGen.cases_head had with rfl | ⟨b, hb, hbd⟩
        · exact .inl List.mem_cons_self
        · exact .inr ⟨b, List.mem_append_left _ hb, hbd⟩
      · exact .inr ⟨a, List.mem_append_right _ ha, had⟩
  · rcases hd with hd | ⟨a, ha, had⟩
    · rcases List.mem_cons.mp hd with rfl | hd
      · exact .inr ⟨d, List.mem_cons_self, .refl⟩
      · exact .inl hd
    · rcases List.mem_append.mp ha with ha | ha
      · exact .inr ⟨c, List.mem_cons_self, .head ha had⟩
      · exact .inr ⟨a, List.mem_cons_of_mem _ ha, had⟩

/-- A search with enough steps comes to its end: it finds all there is, and further steps change nothing. -/
theorem reachedFrom_spec (hall : all.Nodup) (hleaf : ∀ d ∉ all, next d = []) {steps : Nat}
    (hsteps : ahead next all waiting seen ≤ steps) (hexplored : Explored next waiting seen) :
    (∀ d, d ∈ reachedFrom next steps waiting seen ↔ Found next waiting seen d) ∧
      ∀ more, reachedFrom next (steps + more) waiting seen = reachedFrom next steps waiting seen := by
  have hdone : ∀ {seen' : List CaseId} (d : CaseId), d ∈ seen' ↔ Found next [] seen' d := by simp [Found]
  induction steps generalizing waiting seen with
  | zero =>
    have hempty : waiting = [] := List.length_eq_zero_iff.mp (by simp only [ahead] at hsteps; omega)
    subst hempty
    refine ⟨hdone, fun more => ?_⟩
    cases more <;> simp [reachedFrom]
  | succ steps ih =>
    cases waiting with
    | nil => exact ⟨hdone, fun more => by simp [Nat.add_right_comm _ 1 more, reachedFrom]⟩
    | cons c waiting =>
      by_cases hc : c ∈ seen
      · have hfound := found_cons_seen hexplored hc
        rw [ahead_cons_seen] at hsteps
        obtain ⟨hspec, hmore⟩ := ih (Nat.le_of_succ_le_succ hsteps) (hfound c).1
        simp only [Nat.add_right_comm _ 1 _, reachedFrom, List.contains_iff_mem, hc, if_true]
        exact ⟨fun d => (hspec d).trans (hfound d).2.symm, hmore⟩
      · have hfound := found_cons_new hexplored
        rw [ahead_cons_new hall hleaf hc] at hsteps
        obtain ⟨hspec, hmore⟩ := ih (Nat.le_of_succ_le_succ hsteps) (hfound c).1
        simp only [Nat.add_right_comm _ 1 _, reachedFrom, List.contains_iff_mem, hc, if_false]
        exact ⟨fun d => (hspec d).trans (hfound d).2.symm, hmore⟩

end Search

/-! ### References -/

/-- One of the steps, or one inside of them, refers to a case. -/
def Mentions (steps : List Step) (d : CaseId) : Prop := ∃ path h, Step.at? steps path = some (.caseRef h d)

/-- A case refers to another in one of its steps, or in a stored node of one of its loops or inside of that node. -/
def Refers (s : Suite) (c d : CaseId) : Prop :=
  ∃ x ∈ s.cases, x.id = c ∧
    (Mentions x.steps d ∨ ∃ a ∈ x.steps, a.kind = .foreach ∧ ∃ n ∈ s.nodesOf a.id, Mentions [n.step] d)

/-- The references that are looked at: those in steps, and the stored nodes that are references. -/
def RefersPlainly (s : Suite) (c d : CaseId) : Prop :=
  ∃ x ∈ s.cases, x.id = c ∧
    (Mentions x.steps d ∨ ∃ a ∈ x.steps, a.kind = .foreach ∧ ∃ n ∈ s.nodesOf a.id, ∃ h, n.step = .caseRef h d)

variable {s : Suite}

theorem mem_referencesOf {steps : List Step} {d : CaseId} : d ∈ referencesOf steps ↔ Mentions steps d := by
  simp only [referencesOf, List.mem_filterMap, Step.mem_withInnerOfAll, Mentions]
  constructor
  · rintro ⟨a, ⟨path, hpath⟩, ha⟩
    cases a <;> cases ha
    exact ⟨path, _, hpath⟩
  · rintro ⟨path, h, hpath⟩
    exact ⟨_, ⟨path, hpath⟩, rfl⟩

theorem mentions_iff_exists {steps : List Step} {d : CaseId} : Mentions steps d ↔ ∃ a ∈ steps, Mentions [a] d := by
  have hsteps : referencesOf steps = steps.flatMap fun a => referencesOf [a] := by
    simp only [referencesOf, Step.withInnerOfAll_eq, List.filterMap_flatMap, List.flatMap_cons, List.flatMap_nil,
      List.append_nil]
  simp only [← mem_referencesOf, hsteps, List.mem_flatMap]

theorem mentions_singleton {a : Step} {d : CaseId} :
    Mentions [a] d ↔ (∃ h, a = .caseRef h d) ∨ Mentions a.own d := by
  constructor
  · rintro ⟨_ | ⟨_ | k, _ | ⟨l, path⟩⟩, h, hpath⟩
    · cases hpath
    · exact .inl ⟨h, by simpa [Step.at?] using hpath⟩
    · exact .inr ⟨l :: path, h, by simpa [Step.at?] using hpath⟩
    · simp [Step.at?] at hpath
    · simp [Step.at?] at hpath
  · rintro (⟨h, rfl⟩ | ⟨path, h, hpath⟩)
    · exact ⟨[0], h, rfl⟩
    · cases path with
      | nil => cases hpath
      | cons l path => exact ⟨0 :: l :: path, h, by simpa [Step.at?] using hpath⟩

theorem mentions_flatMap {cases : List Case} {d : CaseId} :
    Mentions (cases.flatMap Case.steps) d ↔ ∃ x ∈ cases, Mentions x.steps d := by
  rw [mentions_iff_exists]
  simp only [List.mem_flatMap]
  constructor
  · rintro ⟨a, ⟨x, hx, ha⟩, hd⟩
    exact ⟨x, hx, mentions_iff_exists.mpr ⟨a, ha, hd⟩⟩
  · rintro ⟨x, hx, hd⟩
    obtain ⟨a, ha, hd⟩ := mentions_iff_exists.mp hd
    exact ⟨a, ⟨x, hx, ha⟩, hd⟩

theorem RefersPlainly.refers {c d : CaseId} (h : s.RefersPlainly c d) : s.Refers c d := by
  obtain ⟨x, hx, hid, hd⟩ := h
  refine ⟨x, hx, hid, hd.imp id ?_⟩
  rintro ⟨a, ha, hkind, n, hn, hstep⟩
  exact ⟨a, ha, hkind, n, hn, mentions_singleton.mpr (.inl hstep)⟩

/-- Stored nodes that carry no references with them. -/
def StoresPlainly (s : Suite) : Prop := ∀ n ∈ s.foreachSteps, ∀ d, ¬Mentions n.step.own d

theorem Refers.plainly (hplain : s.StoresPlainly) {c d : CaseId} (h : s.Refers c d) : s.RefersPlainly c d := by
  obtain ⟨x, hx, hid, hd⟩ := h
  refine ⟨x, hx, hid, hd.imp id ?_⟩
  rintro ⟨a, ha, hkind, n, hn, hd⟩
  rcases mentions_singleton.mp hd with hstep | hown
  · exact ⟨a, ha, hkind, n, hn, hstep⟩
  · exact absurd hown (hplain n (List.mem_filter.mp hn).1 d)

/-- A step of one case is not a step of another. -/
theorem Checked.case_unique (h : s.Checked) {x y : Case} (hx : x ∈ s.cases) (hy : y ∈ s.cases) {a b : Step}
    (ha : a ∈ x.steps) (hb : b ∈ y.steps) (hid : a.id = b.id) : x = y := by
  have hdistinct : (idsOf s.caseSteps).Nodup := (admissible_append.mp h.steps).1.distinct
  rw [idsOf, caseSteps, List.map_flatMap, List.nodup_flatMap] at hdistinct
  have hids : ∀ {z : Case} {e : Step}, e ∈ z.steps → e.id ∈ (Step.withInnerOfAll z.steps).map Step.id := by
    intro z e he
    refine List.mem_map_of_mem ?_
    rw [Step.withInnerOfAll_eq]
    exact List.mem_flatMap.mpr ⟨e, he, by simp [Step.withInner_eq]⟩
  have hsymm : Std.Symm (Function.onFun List.Disjoint fun z : Case => (Step.withInnerOfAll z.steps).map Step.id) :=
    ⟨fun _ _ => List.disjoint_comm.mp⟩
  by_contra hne
  exact hdistinct.2.forall hx hy hne (hids ha) (hid ▸ hids hb)

theorem caseOfStep?_eq_some (h : s.Checked) {id : StepId} {c : CaseId} :
    s.caseOfStep? id = some c ↔ ∃ x ∈ s.cases, x.id = c ∧ ∃ a ∈ x.steps, a.id = id := by
  simp only [caseOfStep?, Option.map_eq_some_iff]
  constructor
  · rintro ⟨x, hfind, rfl⟩
    have hx : x ∈ s.cases := List.mem_reverse.mp (List.mem_of_find?_eq_some hfind)
    have hholds := List.find?_some hfind
    simp only [List.any_eq_true, beq_iff_eq] at hholds
    exact ⟨x, hx, rfl, hholds⟩
  · rintro ⟨x, hx, rfl, a, ha, rfl⟩
    cases hfind : s.cases.reverse.find? fun c => c.steps.any fun s => s.id == a.id with
    | none =>
      have hnone := List.find?_eq_none.mp hfind x (List.mem_reverse.mpr hx)
      simp only [List.any_eq_true, beq_iff_eq, not_exists, not_and] at hnone
      exact absurd rfl (hnone a ha)
    | some y =>
      have hy : y ∈ s.cases := List.mem_reverse.mp (List.mem_of_find?_eq_some hfind)
      have hholds := List.find?_some hfind
      simp only [List.any_eq_true, beq_iff_eq] at hholds
      obtain ⟨b, hb, hid⟩ := hholds
      exact ⟨y, rfl, congrArg Case.id (h.case_unique hy hx hb ha hid)⟩

theorem mem_referencesFrom (h : s.Checked) {c d : CaseId} : d ∈ s.referencesFrom c ↔ s.RefersPlainly c d := by
  have hsteps : d ∈ referencesOf ((s.cases.filter fun x => x.id == c).flatMap Case.steps) ↔
      ∃ x ∈ s.cases, x.id = c ∧ Mentions x.steps d := by
    simp only [mem_referencesOf, mentions_flatMap, List.mem_filter, beq_iff_eq, and_assoc]
  rw [referencesFrom, List.mem_append, hsteps, List.mem_filterMap]
  refine Iff.trans (b := (∃ x ∈ s.cases, x.id = c ∧ Mentions x.steps d) ∨
    ∃ n ∈ s.foreachSteps, (∃ hd, n.step = .caseRef hd d) ∧ s.caseOfStep? n.owner = some c) ?_ ⟨?_, ?_⟩
  · refine or_congr_right (exists_congr fun n => and_congr_right fun _ => ?_)
    cases n.step <;> simp [and_comm, eq_comm]
  · rintro (⟨x, hx, hid, hd⟩ | ⟨n, hn, hstep, hcase⟩)
    · exact ⟨x, hx, hid, .inl hd⟩
    · obtain ⟨y, hy, a, ha, hkind, howner⟩ := mem_loopOwners.mp (h.owners n hn)
      obtain ⟨x, hx, hid, b, hb, hb'⟩ := (caseOfStep?_eq_some h).mp hcase
      obtain rfl : x = y := h.case_unique hx hy hb ha (hb'.trans howner.symm)
      exact ⟨x, hx, hid, .inr ⟨a, ha, hkind, n, List.mem_filter.mpr ⟨hn, by simp [howner]⟩, hstep⟩⟩
  · rintro ⟨x, hx, hid, hd | ⟨a, ha, -, n, hn, hstep⟩⟩
    · exact .inl ⟨x, hx, hid, hd⟩
    · obtain ⟨hn, howner⟩ := List.mem_filter.mp hn
      exact .inr ⟨n, hn, hstep, (caseOfStep?_eq_some h).mpr ⟨x, hx, hid, a, ha, (eq_of_beq howner).symm⟩⟩

/-! ### Cycles -/

theorem referencesFrom_eq_nil (h : s.Checked) {c : CaseId} (hc : c ∉ s.caseIds) : s.referencesFrom c = [] := by
  refine List.eq_nil_iff_forall_not_mem.mpr fun d hd => hc ?_
  obtain ⟨x, hx, hid, -⟩ := (mem_referencesFrom h).mp hd
  exact mem_caseIds.mpr ⟨x, hx, hid⟩

/-- The steps that are allowed to the search suffice. -/
theorem reachedFrom_references (h : s.Checked) (c : CaseId) {steps : Nat}
    (hsteps : (s.referencesFrom c).length + s.referenceCount ≤ steps) :
    (∀ d, d ∈ reachedFrom s.referencesFrom steps (s.referencesFrom c) [] ↔ Relation.TransGen s.RefersPlainly c d) ∧
      ∀ more, reachedFrom s.referencesFrom (steps + more) (s.referencesFrom c) [] =
        reachedFrom s.referencesFrom steps (s.referencesFrom c) [] := by
  have hahead : ahead s.referencesFrom s.caseIds (s.referencesFrom c) [] ≤ steps := by
    simpa [ahead, referenceCount] using hsteps
  obtain ⟨hspec, hmore⟩ := reachedFrom_spec h.cases (fun d => referencesFrom_eq_nil h) hahead fun _ hc => by cases hc
  have hrefers : (fun a b => b ∈ s.referencesFrom a) = s.RefersPlainly := by
    funext a b
    exact propext (mem_referencesFrom h)
  refine ⟨fun d => (hspec d).trans ?_, hmore⟩
  rw [Relation.TransGen.head'_iff, Found, hrefers]
  simp only [List.not_mem_nil, false_or, mem_referencesFrom h]

theorem mem_reachable (h : s.Checked) {c d : CaseId} :
    d ∈ s.reachable c ↔ Relation.TransGen s.RefersPlainly c d :=
  (reachedFrom_references h c (Nat.le_succ _)).1 d

theorem mem_cyclicCases (h : s.Checked) {c : CaseId} :
    c ∈ s.cyclicCases ↔ Relation.TransGen s.RefersPlainly c c := by
  have hcase : Relation.TransGen s.RefersPlainly c c → c ∈ s.caseIds := by
    intro hcycle
    obtain ⟨d, ⟨x, hx, hid, -⟩, -⟩ := Relation.TransGen.head'_iff.mp hcycle
    exact mem_caseIds.mpr ⟨x, hx, hid⟩
  rw [cyclicCases, (List.mergeSort_perm _ _).mem_iff, List.mem_filter, List.contains_iff_mem, mem_reachable h]
  exact and_iff_right_of_imp hcase

theorem cyclicCases_ascending (h : s.Checked) : s.cyclicCases.Pairwise (· < ·) := by
  have hnodup : s.cyclicCases.Nodup := (List.mergeSort_perm _ _).nodup_iff.mpr (h.cases.filter _)
  have hsorted : s.cyclicCases.Pairwise fun a b => decide (a ≤ b) = true :=
    List.pairwise_mergeSort
      (fun a b c hab hbc => by simpa using UInt64.le_trans (by simpa using hab) (by simpa using hbc))
      (fun a b => by simpa using UInt64.le_total a b) _
  exact (hsorted.and hnodup).imp fun ⟨hle, hne⟩ => UInt64.lt_of_le_of_ne (of_decide_eq_true hle) hne

/-- What the search for cycles says of a suite. -/
structure FindsCycles (s : Suite) : Prop where
  ascending : s.cyclicCases.Pairwise (· < ·)
  plain : ∀ c, c ∈ s.cyclicCases ↔ Relation.TransGen s.RefersPlainly c c
  sound : ∀ c ∈ s.cyclicCases, Relation.TransGen s.Refers c c
  complete : s.StoresPlainly → ∀ c, c ∈ s.cyclicCases ↔ Relation.TransGen s.Refers c c
  ends : ∀ c steps, (s.referencesFrom c).length + s.referenceCount ≤ steps →
    reachedFrom s.referencesFrom steps (s.referencesFrom c) [] = s.reachable c

theorem findsCycles (h : s.faults = []) : s.FindsCycles := by
  have hchecked := faults_eq_nil.mp h
  have hsound : ∀ c ∈ s.cyclicCases, Relation.TransGen s.Refers c c := fun c hc =>
    Relation.TransGen.mono (fun _ _ => RefersPlainly.refers) _ _ ((mem_cyclicCases hchecked).mp hc)
  have hcomplete : s.StoresPlainly → ∀ c, Relation.TransGen s.Refers c c → c ∈ s.cyclicCases := fun hplain c hc =>
    (mem_cyclicCases hchecked).mpr (Relation.TransGen.mono (fun _ _ => Refers.plainly hplain) _ _ hc)
  have hends : ∀ c steps, (s.referencesFrom c).length + s.referenceCount ≤ steps →
      reachedFrom s.referencesFrom steps (s.referencesFrom c) [] = s.reachable c := by
    intro c steps hsteps
    have hmore := (reachedFrom_references hchecked c le_rfl).2
    rw [← Nat.add_sub_cancel' hsteps, hmore, reachable, hmore]
  exact {
    ascending := cyclicCases_ascending hchecked
    plain := fun c => mem_cyclicCases hchecked
    sound := hsound
    complete := fun hplain c => ⟨hsound c, hcomplete hplain c⟩
    ends := hends }

/-- Two cases that refer to each other. -/
def mutualCases : Suite :=
  { Suite.empty with
    cases := [⟨2, "b", none, [.caseRef (.new 20 "back" 1) 1]⟩, ⟨1, "a", none, [.caseRef (.new 10 "forth" 1) 2]⟩] }

theorem findsCycles_mutualCases :
    mutualCases.faults = [] ∧ mutualCases.FindsCycles ∧ 1 ∈ mutualCases.cyclicCases := by
  have h : mutualCases.faults = [] := by decide
  have hforth : mutualCases.RefersPlainly 1 2 := ⟨_, .tail _ (.head _), rfl, .inl ⟨[0], _, rfl⟩⟩
  have hback : mutualCases.RefersPlainly 2 1 := ⟨_, .head _, rfl, .inl ⟨[0], _, rfl⟩⟩
  exact ⟨h, findsCycles h, ((findsCycles h).plain 1).mpr (.tail (.single hforth) hback)⟩

/-- A case whose loop has a stored node that is a loop around a reference to the case. -/
def hiddenReference : Suite :=
  { Suite.empty with
    cases := [⟨1, "self", none, [.foreach (.new 10 "loop" 1) (.number (.ofInt64 1)) none []]⟩]
    foreachSteps := [⟨10, none, .foreach (.new 20 "inner" 0) (.number (.ofInt64 1)) none
      [.caseRef (.new 21 "again" 1) 1]⟩] }

/-- The suite passes, its case refers to itself, and no cycle is found. -/
theorem hiddenReference_not_found :
    hiddenReference.faults = [] ∧ Relation.TransGen hiddenReference.Refers 1 1 ∧ hiddenReference.cyclicCases = [] := by
  refine ⟨by decide +kernel, .single ?_, by decide +kernel⟩
  exact ⟨_, List.mem_singleton.mpr rfl, rfl, .inr ⟨_, List.mem_singleton.mpr rfl, rfl, _, List.mem_singleton.mpr rfl,
    [0, 0], _, rfl⟩⟩

end Suite

end Casebook
