import Casebook.Proofs.Batch.IsolatedCases
import Casebook.Proofs.Run.Asking
import Casebook.Proofs.Run.Messages
import Casebook.Proofs.Suite.References

/-! Runs over a suite that passes.  It has every case and every stored body that its runs ask for, so no result says
that one is missing; and in a batch where every case has its own environment, it has those too. -/
namespace Casebook

/-! ### Stored bodies -/

namespace LoopTree

open Suite (Mentions mentions_iff_exists mentions_singleton)

theorem mem_nodes_of_build {owner : StepId} {nodes : List TreeNode} {tree : LoopTree} (h : build owner nodes = .ok tree)
    {n : TreeNode} (hn : n ∈ tree.nodes) : n ∈ nodes := by
  rw [build_eq_ok h] at hn
  exact mem_byId.mp hn

theorem mentions_placed {order : UInt32} {nested : List Step} {step : Step} {d : CaseId}
    (h : Mentions [placed order nested step] d) : Mentions [step] d ∨ Mentions nested d := by
  rw [mentions_singleton] at h ⊢
  cases step with
  | api head p =>
    rcases h with ⟨_, h⟩ | ⟨path, _, h⟩
    · cases h
    · cases (Step.at?_nil path).symm.trans h
  | sql head p =>
    rcases h with ⟨_, h⟩ | ⟨path, _, h⟩
    · cases h
    · cases (Step.at?_nil path).symm.trans h
  | caseRef head c =>
    rcases h with ⟨_, h⟩ | ⟨path, _, h⟩
    · cases h
      exact .inl (.inl ⟨_, rfl⟩)
    · cases (Step.at?_nil path).symm.trans h
  | foreach head times breakCondition own =>
    rcases h with ⟨_, h⟩ | h
    · cases h
    · simp only [placed, Step.own] at h
      split at h
      · exact .inl (.inr h)
      · exact .inr h

variable {tree : LoopTree} {d : CaseId}

/-- A level of a body refers to no case but those that its nodes refer to. -/
theorem mentions_stepsFrom {depth : Nat} {nodes : List TreeNode} (hnodes : ∀ n ∈ nodes, n ∈ tree.nodes)
    (h : Mentions (tree.stepsFrom depth nodes) d) : ∃ n ∈ tree.nodes, Mentions [n.step] d := by
  induction depth generalizing nodes with
  | zero =>
    obtain ⟨path, _, hpath⟩ := h
    cases (Step.at?_nil path).symm.trans hpath
  | succ depth ih =>
    obtain ⟨a, ha, hd⟩ := mentions_iff_exists.mp h
    obtain ⟨k, hk, rfl⟩ := List.mem_mapIdx.mp ha
    rcases mentions_placed hd with hd | hd
    · exact ⟨nodes[k], hnodes _ (List.getElem_mem hk), hd⟩
    · exact ih (fun n hn => (List.mem_filter.mp hn).1) hd

theorem mentions_steps (h : Mentions tree.steps d) : ∃ n ∈ tree.nodes, Mentions [n.step] d :=
  mentions_stepsFrom (fun _ hn => (List.mem_filter.mp hn).1) h

end LoopTree

/-! ### Suites -/

namespace Suite

variable {s : Suite}

/-- Every case that some steps refer to is there. -/
def Resolved (s : Suite) (steps : List Step) : Prop := ∀ d, Mentions steps d → d ∈ s.caseIds

theorem Resolved.of_mem {steps : List Step} (h : s.Resolved steps) {step : Step} (hstep : step ∈ steps) :
    s.Resolved [step] := fun d hd => h d (mentions_iff_exists.mpr ⟨step, hstep, hd⟩)

namespace Checked

variable (h : s.Checked)

include h

theorem resolved_outermost : s.Resolved s.outermost := by
  rintro d ⟨path, head, hpath⟩
  exact ((admissible_outermost.mp h.steps).1 path _ hpath).reference head d rfl

theorem resolved_steps {c : Case} (hc : c ∈ s.cases) : s.Resolved c.steps := by
  intro d hd
  obtain ⟨a, ha, hd⟩ := mentions_iff_exists.mp hd
  exact (h.resolved_outermost.of_mem (List.mem_append_left _ (List.mem_flatMap.mpr ⟨c, hc, ha⟩))) d hd

theorem resolved_body {id : StepId} {tree : LoopTree} (htree : LoopTree.build id (s.nodesOf id) = .ok tree) :
    s.Resolved tree.steps := by
  intro d hd
  obtain ⟨n, hn, hd⟩ := LoopTree.mentions_steps hd
  have hstored : n ∈ s.foreachSteps := (List.mem_filter.mp (LoopTree.mem_nodes_of_build htree hn)).1
  exact (h.resolved_outermost.of_mem (List.mem_append_right _ (List.mem_map_of_mem hstored))) d hd

theorem exists_build (id : StepId) : ∃ tree, LoopTree.build id (s.nodesOf id) = .ok tree := by
  have hnodes := distinct_nodes h.steps.distinct
  exact (exists_build_iff hnodes id).mpr ((treeFaults_eq_nil h.owners hnodes).mp h.trees id)

theorem caseOf?_eq {c : Case} (hc : c ∈ s.cases) : s.caseOf? c.id = some c :=
  (find?_key_eq_some Case.id (by simpa [caseIds] using h.cases)).mpr ⟨List.mem_reverse.mpr hc, rfl⟩

theorem exists_environment {c : Case} (hc : c ∈ s.cases) {id : EnvId} (henv : c.env = some id) :
    ∃ env, s.environmentOf? id = some env := by
  obtain ⟨env, hmem, hid⟩ := h.env c hc id henv
  exact ⟨env, (find?_key_eq_some Environment.id (by simpa using h.environments)).mpr ⟨List.mem_reverse.mpr hmem, hid⟩⟩

end Checked

theorem mem_of_caseOf? {id : CaseId} {c : Case} (h : s.caseOf? id = some c) : c ∈ s.cases :=
  List.mem_reverse.mp (List.mem_of_find?_eq_some h)

end Suite

namespace Engine

open Run (Happens)

variable {σ : Type} {e : Engine σ} {suite : Suite}

/-- Whatever a run can come to refers to cases that are there. -/
theorem resolved_inside (hrepository : e.repository = .ofSuite suite) (h : suite.Checked) {root : List Step}
    (hroot : suite.Resolved root) {step : Step} (hstep : e.Contains root step) : suite.Resolved [step] := by
  induction hstep with
  | here hmem => exact hroot.of_mem hmem
  | @case head caseId inner step _ hsteps hmem _ =>
    rw [hrepository] at hsteps
    cases hcase : suite.caseOf? caseId with
    | none => simp [Repository.ofSuite, hcase] at hsteps
    | some c =>
      cases (Repository.ofSuite_of_caseOf? hcase).2.symm.trans hsteps
      exact (h.resolved_steps (Suite.mem_of_caseOf? hcase)).of_mem hmem
  | @loop head times breakCondition own body step _ hbody hmem ih =>
    rcases hbody with ⟨-, rfl⟩ | ⟨-, tree, htree, rfl⟩
    · exact fun d hd => ih d (Suite.mentions_singleton.mpr (.inr (Suite.mentions_iff_exists.mpr ⟨step, hmem, hd⟩)))
    · obtain ⟨built, hbuilt⟩ := h.exists_build head.id
      rw [hrepository] at htree
      simp only [Repository.ofSuite, hbuilt] at htree
      cases htree
      exact (h.resolved_body hbuilt).of_mem hmem

theorem finds_inside (hrepository : e.repository = .ofSuite suite) (h : suite.Checked) {root : List Step}
    (hroot : suite.Resolved root) {step : Step} (hstep : e.Contains root step) : e.Finds step := by
  have hresolved := resolved_inside hrepository h hroot hstep
  constructor
  · rintro head caseId rfl
    have hmem := hresolved caseId (Suite.mentions_singleton.mpr (.inl ⟨head, rfl⟩))
    obtain ⟨c, hc, rfl⟩ := Suite.mem_caseIds.mp hmem
    rw [hrepository]
    exact ⟨c.steps, (Repository.ofSuite_of_caseOf? (h.caseOf?_eq hc)).2⟩
  · rintro head times breakCondition own rfl
    obtain ⟨tree, htree⟩ := h.exists_build head.id
    rw [hrepository]
    exact ⟨tree, by simp only [Repository.ofSuite, htree]; rfl⟩

/-! ### Results -/

variable (e) in
/-- A result is what one of some steps, or a step inside of them, came to between two moments. -/
def Stems (steps : List Step) (s t : RunState σ) (r : StepResult) : Prop :=
  ∃ labels level index step, e.Contains steps step ∧ Happens (e.member e.group labels level index step) r s t

variable {steps : List Step} {s t : RunState σ}

theorem Stems.belongs {r : StepResult} (h : e.Stems steps s t r) : e.Belongs steps s t r := by
  obtain ⟨labels, level, index, step, hstep, u, v, hu, hmember, hv⟩ := h
  exact ⟨labels, level, index, step, hstep, (member_inversion hmember).widen hu hv⟩

theorem Happens.stems {inner : List Step} {labels : String} {level : Nat} {index : Option Nat}
    {results : List StepResult} (h : Happens (e.group inner labels level index) results s t)
    (hinner : ∀ step ∈ inner, e.Contains steps step) : ∀ r ∈ results, e.Stems steps s t r := by
  intro r hr
  obtain ⟨u, v, hu, hgroup, hv⟩ := h
  obtain ⟨k, hk, rfl⟩ := List.mem_iff_getElem.mp hr
  have hmembers := group_members hgroup
  have hk' : k < (Step.inOrder inner).length := hmembers.length_eq ▸ hk
  have hmem : (Step.inOrder inner)[k] ∈ inner :=
    (Step.isOrdering_inOrder inner).perm.mem_iff.mp (List.getElem_mem hk')
  exact ⟨labels, level, index, _, hinner _ hmem, (hmembers.get hk' hk).widen hu hv⟩

theorem Stems.inner {r r' : StepResult} (h : e.Stems steps s t r) (hr' : r' ∈ r.inner) : e.Stems steps s t r' := by
  obtain ⟨_, _, _, _, _, hinner, hgroup, hr'⟩ := h.belongs.exists_group hr'
  exact Happens.stems hgroup hinner r' hr'

/-- No result of a run whose repository has all that is asked for says otherwise. -/
theorem report_worded {caseId : CaseId} {report : CaseReport} (hsteps : e.repository.steps caseId = .ok steps)
    (hfinds : ∀ step, e.Contains steps step → e.Finds step) (h : (e.runCase caseId).run s = (.ok report, t)) :
    Throughout e.Worded report.steps := by
  obtain ⟨info, found, results, u, v, hfound, -, hgroup, -, rfl⟩ := runCase_inversion h
  cases hsteps.symm.trans hfound
  have hstems := Happens.stems (.now hgroup) fun step hmem => Contains.here hmem
  intro path r hr
  obtain ⟨labels, level, index, step, hstep, u, v, -, hmember, -⟩ :=
    throughout_of_inner (fun _ _ => Stems.inner) hstems path r hr
  exact member_worded (hfinds step hstep) labels level index u r v hmember

end Engine

/-- A result that does not say that a case or a stored body is missing. -/
structure StepResult.IsSupplied (r : StepResult) : Prop where
  case : ∀ rest, r.message ≠ some ("[Case] " ++ rest)
  loop : ∀ rest, r.message ≠ some ("[Foreach] invalid foreach tree" ++ rest)

/-- A result that does not say that an environment is missing. -/
def StepResult.HasEnvironment (r : StepResult) : Prop := ∀ rest, r.message ≠ some ("[Environment] " ++ rest)

namespace Engine

variable {σ : Type} {e : Engine σ} {r : StepResult}

theorem Says.ne_append {message other : String} (h : e.Says message) (hheads : messageHeads.all (apart other) = true)
    (henvironment : apart "[Environment] " other = true) (rest : String) : message ≠ other ++ rest := by
  rcases h with h | ⟨cause, -, rfl⟩
  · exact h.ne_append hheads rest
  · exact append_ne_append henvironment cause.message rest

theorem Worded.isSupplied (h : e.Worded r) : r.IsSupplied where
  case rest hmessage := (h _ hmessage).ne_append (by decide) (by decide) rest rfl
  loop rest hmessage := (h _ hmessage).ne_append (by decide) (by decide) rest rfl

theorem Worded.hasEnvironment (h : e.Worded r) {env : Environment}
    (henv : e.repository.environment e.options.envId = .ok env) : r.HasEnvironment := by
  intro rest hmessage
  rcases h _ hmessage with h | ⟨cause, hcause, -⟩
  · exact h.ne_append (by decide) rest rfl
  · cases henv.symm.trans hcause

variable (e) in
/-- A run of a case finds all that it asks for. -/
structure Supplied (c : Case) : Prop where
  starts : e.repository.caseInfo c.id = .ok c.info ∧ e.repository.steps c.id = .ok c.steps
  finds : ∀ step, e.Contains c.steps step → e.Finds step
  /-- Whatever the repository would say of anything else makes no difference to the run. -/
  asks : ∀ cases bodies, cases c.id = .ok c.steps →
    (∀ step, e.Contains c.steps step → e.repository.Answers cases bodies step) →
    (e.answering cases bodies).runCase c.id = e.runCase c.id
  results : ∀ s report t, (e.runCase c.id).run s = (.ok report, t) → Throughout StepResult.IsSupplied report.steps

variable {suite : Suite} {c : Case}

theorem worded_of_checked (hrepository : e.repository = .ofSuite suite) (h : suite.Checked) (hc : c ∈ suite.cases)
    {s t : RunState σ} {report : CaseReport} (hrun : (e.runCase c.id).run s = (.ok report, t)) :
    Throughout e.Worded report.steps := by
  have hsteps : e.repository.steps c.id = .ok c.steps :=
    hrepository ▸ (Repository.ofSuite_of_caseOf? (h.caseOf?_eq hc)).2
  exact report_worded hsteps (fun step hstep => finds_inside hrepository h (h.resolved_steps hc) hstep) hrun

theorem supplied_of_checked (hrepository : e.repository = .ofSuite suite) (h : suite.Checked) (hc : c ∈ suite.cases) :
    e.Supplied c := by
  have hstarts := Repository.ofSuite_of_caseOf? (h.caseOf?_eq hc)
  rw [← hrepository] at hstarts
  exact {
    starts := hstarts
    finds := fun step hstep => finds_inside hrepository h (h.resolved_steps hc) hstep
    asks := fun cases bodies hsame hanswers => runCase_answering hanswers hstarts.2 hsame
    results := fun s report t hrun path r hr => (worded_of_checked hrepository h hc hrun path r hr).isSupplied }

end Engine

/-! ### Batches -/

namespace BatchRunner

variable {σ : Type} {b : BatchRunner σ} {suite : Suite}

variable (b) in
/-- An outcome whose report says neither that a case or a stored body is missing nor, where every case has its own
environment, that this is. -/
def Finds (o : CaseOutcome) : Prop :=
  ∀ report, o.report = some report → Throughout StepResult.IsSupplied report.steps ∧
    (b.engine.config.envId = none → Throughout StepResult.HasEnvironment report.steps)

theorem runOne_finds (hrepository : b.engine.repository = .ofSuite suite) (h : suite.Checked) {id : CaseId}
    {plan : CasePlan} (hplan : CasePlan.ofId b.engine.repository b.engine.config.envId id = .ok plan)
    (s : BatchState σ) : b.Finds ((b.runOne plan).run s).1 := by
  rw [hrepository] at hplan
  obtain ⟨c, hcase, hinfo, henv⟩ := CasePlan.exists_case_of_ofId hplan
  have hc := Suite.mem_of_caseOf? hcase
  intro report hreport
  rw [outcome_runOne] at hreport
  rcases hrun : b.caseRun plan s with ⟨cause | made, t⟩ <;> rw [hrun] at hreport <;> cases hreport
  rw [caseRun, hinfo] at hrun
  have hworded := Engine.worded_of_checked (e := b.engineOf plan) hrepository h hc hrun
  refine ⟨fun path r hr => (hworded path r hr).isSupplied, fun hnone path r hr => ?_⟩
  rw [hnone] at henv
  obtain ⟨env, hfound⟩ := h.exists_environment hc henv
  have hlookup : b.engine.repository.environment plan.envId = .ok env := by
    rw [hrepository]
    simp only [Repository.ofSuite, hfound, Option.elim_some]
  exact (hworded path r hr).hasEnvironment hlookup

theorem runPlans_finds (hrepository : b.engine.repository = .ofSuite suite) (h : suite.Checked) {ids : List CaseId}
    {plans : List CasePlan} (hids : CasePlan.ofIds b.engine.repository b.engine.config.envId ids = .ok plans)
    (mode : BatchMode) (schedule : List Nat) (s : BatchState σ) :
    ∀ o ∈ ((b.runPlans mode schedule plans).run s).1, b.Finds o := by
  have hsteady : b.Steady (fun _ => True) fun plan o =>
      (∃ id, CasePlan.ofId b.engine.repository b.engine.config.envId id = .ok plan) → b.Finds o :=
    ⟨fun plan s _ => ⟨fun ⟨_, hplan⟩ => runOne_finds hrepository h hplan s, trivial⟩, fun _ _ _ _ => trivial,
      fun _ _ _ => trivial⟩
  have houtcomes := (runPlans_outcomes hsteady mode schedule plans (s := s) trivial).1
  intro o ho
  obtain ⟨i, hi⟩ := List.mem_iff_getElem?.mp ho
  obtain ⟨plan, hplan, hfinds⟩ := exists_getElem?_of_forall₂ houtcomes.flip hi
  exact hfinds (CasePlan.exists_ofId_of_mem hids (List.mem_of_getElem? hplan))

theorem runBatch_finds (hrepository : b.engine.repository = .ofSuite suite) (h : suite.Checked) {user : String}
    {ids : List CaseId} {mode : BatchMode} {schedule : List Nat} {s : BatchState σ} {report : BatchReport}
    (hreport : ((b.runBatch user ids mode schedule).run s).1 = .ok report) : ∀ o ∈ report.outcomes, b.Finds o := by
  obtain ⟨plans, t, hids, houtcomes⟩ := b.exists_run_of_report hreport
  rw [← houtcomes]
  exact runPlans_finds hrepository h hids mode schedule t

end BatchRunner

/-- Whatever runs over a suite ask for, it has. -/
structure Suite.Supplies (s : Suite) : Prop where
  runs : ∀ {σ : Type} (e : Engine σ), e.repository = .ofSuite s → ∀ c ∈ s.cases, e.Supplied c
  outcomes : ∀ {σ : Type} (b : BatchRunner σ), b.engine.repository = .ofSuite s → ∀ ids plans,
    CasePlan.ofIds b.engine.repository b.engine.config.envId ids = .ok plans → ∀ mode schedule t,
    ∀ o ∈ ((b.runPlans mode schedule plans).run t).1, b.Finds o
  batches : ∀ {σ : Type} (b : BatchRunner σ), b.engine.repository = .ofSuite s →
    ∀ user ids mode schedule t report, ((b.runBatch user ids mode schedule).run t).1 = .ok report →
    ∀ o ∈ report.outcomes, b.Finds o

theorem Suite.supplies {s : Suite} (h : s.faults = []) : s.Supplies := by
  have hchecked := faults_eq_nil.mp h
  exact {
    runs := fun _ he _ hc => Engine.supplied_of_checked he hchecked hc
    outcomes := fun _ hb _ _ hids mode schedule t => BatchRunner.runPlans_finds hb hchecked hids mode schedule t
    batches := fun _ hb _ _ _ _ _ _ hreport => BatchRunner.runBatch_finds hb hchecked hreport }

/-- Two cases, the first of which comes to the second one from a loop in a stored body. -/
def storedSuite : Suite :=
  { Suite.empty with
    environments := [⟨1, "test", "", [("main", ⟨"sqlite", "", none⟩)]⟩]
    cases := [
      ⟨1, "outer", some 1, [.foreach (.new 10 "loop" 0) (.number (.ofInt64 1)) none []]⟩,
      ⟨2, "inner", some 1, [.sql (.new 20 "ask" 0) ⟨"main", none, "select 1", none⟩]⟩]
    foreachSteps := [
      ⟨10, none, .foreach (.new 11 "again" 0) (.number (.ofInt64 2)) none [.caseRef (.new 12 "refer" 0) 2]⟩] }

def storedRunner : BatchRunner (Option String × Nat) :=
  { BatchRunner.mixedRunner with engine := { BatchRunner.mixedRunner.engine with repository := .ofSuite storedSuite } }

/-- The loop and the case that is referred to are found, so the first case passes. -/
theorem stored_suite_supplies :
    storedSuite.faults = [] ∧ storedSuite.Supplies ∧
    ((storedRunner.runPlans .serial [] [⟨⟨1, "outer", some 1⟩, 1⟩]).run (.start (none, 0))).1.map CaseOutcome.status =
      [.success] := by
  have h : storedSuite.faults = [] := by decide +kernel
  exact ⟨h, Suite.supplies h, by decide +kernel⟩

end Casebook
