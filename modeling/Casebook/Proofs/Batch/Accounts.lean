import Casebook.Proofs.Batch.Ledger

/-! What a batch owes to its request.  It is refused as a whole for its first case that cannot be admitted, and nothing
is touched then; once it comes to a report, every request has its outcome there, each outcome is counted once, and what
was saved, in one go, is what the outcomes hold. -/
namespace Casebook

/-- A traversal fails at the first element that fails. -/
theorem Except.exists_first_of_mapM {ε α β : Type} {f : α → Except ε β} {as : List α} {e : ε}
    (h : as.mapM f = .error e) :
    ∃ before a after, as = before ++ a :: after ∧ (∀ x ∈ before, ∃ b, f x = .ok b) ∧ f a = .error e := by
  induction as with
  | nil => cases h
  | cons a as ih =>
    rw [List.mapM_cons] at h
    cases ha : f a with
    | error e' =>
      rw [ha] at h
      cases h
      exact ⟨[], a, as, rfl, by simp, ha⟩
    | ok b =>
      cases has : as.mapM f with
      | ok bs =>
        rw [ha, has] at h
        cases h
      | error e' =>
        rw [ha, has] at h
        cases h
        obtain ⟨before, c, after, rfl, hbefore, hc⟩ := ih has
        refine ⟨a :: before, c, after, rfl, ?_, hc⟩
        intro x hx
        rcases List.mem_cons.mp hx with rfl | hx
        · exact ⟨b, ha⟩
        · exact hbefore x hx

theorem exists_between_of_forall₂ {α β γ : Type} {R : α → β → Prop} {S : β → γ → Prop} {as : List α} {bs : List β}
    {cs : List γ} (h : List.Forall₂ R as bs) (k : List.Forall₂ S bs cs) :
    List.Forall₂ (fun a c => ∃ b, R a b ∧ S b c) as cs := by
  induction h generalizing cs with
  | nil =>
    cases k
    exact .nil
  | cons hab _ ih =>
    cases k with
    | cons hbc hrest => exact .cons ⟨_, hab, hbc⟩ (ih hrest)

theorem one_lt_length_eraseDups_iff {α : Type} [BEq α] [LawfulBEq α] {as : List α} :
    1 < as.eraseDups.length ↔ ∃ a ∈ as, ∃ b ∈ as, a ≠ b := by
  cases as with
  | nil => simp
  | cons a as =>
    have hrest : 1 < (a :: as).eraseDups.length ↔ ∃ b ∈ as, b ≠ a := by
      have hmem : ∀ b, b ∈ (as.filter fun b => !b == a).eraseDups ↔ b ∈ as ∧ b ≠ a := by simp
      rw [List.eraseDups_cons, List.length_cons, Nat.lt_add_left_iff_pos, List.length_pos_iff_exists_mem]
      simp only [hmem]
    rw [hrest]
    constructor
    · rintro ⟨b, hb, hne⟩
      exact ⟨b, List.mem_cons_of_mem _ hb, a, List.mem_cons_self, hne⟩
    · rintro ⟨b, hb, c, hc, hne⟩
      by_cases hba : b = a
      · have hca : c ≠ a := fun h => hne (hba.trans h.symm)
        exact ⟨c, (List.mem_cons.mp hc).resolve_left hca, hca⟩
      · exact ⟨b, (List.mem_cons.mp hb).resolve_left hba, hba⟩

namespace CasePlan

variable {repository : Repository} {override : Option EnvId} {id : CaseId} {ids : List CaseId} {plans : List CasePlan}

/-- Why a case is not admitted. -/
inductive Offends (repository : Repository) (override : Option EnvId) (id : CaseId) : BatchError → Prop where
  | unknown {d : CaseId} : repository.caseInfo id = .error (.caseNotFound d) →
    Offends repository override id (.unknownCase id)
  | unread {cause : RepositoryError} : repository.caseInfo id = .error cause → (∀ d, cause ≠ .caseNotFound d) →
    Offends repository override id (.repository cause)
  | homeless {info : CaseInfo} : repository.caseInfo id = .ok info → override = none → info.envId = none →
    Offends repository override id (.missingEnvironment id)

theorem ofId_eq_error_iff {error : BatchError} :
    ofId repository override id = .error error ↔ Offends repository override id error := by
  constructor
  · intro h
    unfold ofId at h
    split at h
    case h_1 d hinfo =>
      cases h
      exact .unknown hinfo
    case h_2 cause hcause hinfo =>
      cases h
      exact .unread hinfo fun d hd => hcause d hd
    case h_3 info hinfo =>
      split at h
      case h_1 => cases h
      case h_2 hnone =>
        cases h
        obtain ⟨hoverride, henv⟩ := Option.or_eq_none_iff.mp hnone
        exact .homeless hinfo hoverride henv
  · intro h
    unfold ofId
    cases h with
    | unknown hinfo => rw [hinfo]
    | @unread cause hinfo hcause =>
      rw [hinfo]
      cases cause <;> first | rfl | exact absurd rfl (hcause _)
    | homeless hinfo hoverride henv =>
      rw [hinfo]
      simp only [hoverride, henv, Option.or_none]

/-- The environment that a case is to run in: that of the settings, or else its own. -/
def environment? (repository : Repository) (override : Option EnvId) (id : CaseId) : Option EnvId :=
  override.or ((repository.caseInfo id).toOption.bind CaseInfo.envId)

theorem environment?_of_ofId {plan : CasePlan} (h : ofId repository override id = .ok plan) :
    environment? repository override id = some plan.envId ∧ repository.caseInfo id = .ok plan.info := by
  unfold ofId at h
  split at h
  case h_1 => cases h
  case h_2 => cases h
  case h_3 info hinfo =>
    split at h
    case h_1 envId henv =>
      cases h
      refine ⟨?_, hinfo⟩
      rw [environment?, hinfo]
      exact henv
    case h_2 => cases h

theorem ofIds_ok (h : ofIds repository override ids = .ok plans) :
    List.Forall₂ (fun id plan => ofId repository override id = .ok plan) ids plans := by
  unfold ofIds at h
  split at h
  · cases h
  · exact Except.mapM_ok h

/-- One case that is not admitted keeps the whole batch out. -/
theorem exists_first_of_offends (hid : id ∈ ids) {error : BatchError} (h : Offends repository override id error) :
    ∃ before first after error', ids = before ++ first :: after ∧
      (∀ d ∈ before, ∃ plan, ofId repository override d = .ok plan) ∧
      Offends repository override first error' ∧ ofIds repository override ids = .error error' := by
  have hne : ids.isEmpty = false := List.isEmpty_eq_false_iff_exists_mem.mpr ⟨id, hid⟩
  have hids : ofIds repository override ids = ids.mapM (ofId repository override) := by
    simp only [ofIds, hne, Bool.false_eq_true, if_false]
  rw [hids]
  cases hmap : ids.mapM (ofId repository override) with
  | ok plans =>
    obtain ⟨i, hi⟩ := List.mem_iff_getElem?.mp hid
    obtain ⟨plan, -, hplan⟩ := exists_getElem?_of_forall₂ (Except.mapM_ok hmap) hi
    cases (ofId_eq_error_iff.mpr h).symm.trans hplan
  | error error' =>
    obtain ⟨before, first, after, hsplit, hbefore, hfirst⟩ := Except.exists_first_of_mapM hmap
    exact ⟨before, first, after, error', hsplit, hbefore, ofId_eq_error_iff.mp hfirst, rfl⟩

theorem isSome_environmentWarning?_iff :
    (environmentWarning? plans).isSome = true ↔ ∃ p ∈ plans, ∃ q ∈ plans, p.envId ≠ q.envId := by
  have hlength : (environmentWarning? plans).isSome = true ↔
      1 < (plans.map CasePlan.envId).mergeSort.eraseDups.length := by
    simp only [environmentWarning?]
    split <;> simp [*]
  rw [hlength, one_lt_length_eraseDups_iff]
  simp only [List.mem_mergeSort, List.mem_map, exists_exists_and_eq_and]

/-- There is a warning where two cases of the request are to run in different environments. -/
theorem warns_iff (h : ofIds repository override ids = .ok plans) :
    (environmentWarning? plans).isSome = true ↔
      ∃ i ∈ ids, ∃ j ∈ ids, environment? repository override i ≠ environment? repository override j := by
  have hsame : List.Forall₂ (fun id plan => environment? repository override id = some plan.envId) ids plans :=
    (ofIds_ok h).imp fun id plan hid => (environment?_of_ofId hid).1
  have henv : ids.map (environment? repository override) = plans.map (some ∘ CasePlan.envId) := by
    rw [← List.forall₂_eq_eq_eq, List.forall₂_map_left_iff, List.forall₂_map_right_iff]
    exact hsame
  have hids : (∃ i ∈ ids, ∃ j ∈ ids, environment? repository override i ≠ environment? repository override j) ↔
      ∃ a ∈ ids.map (environment? repository override), ∃ b ∈ ids.map (environment? repository override), a ≠ b := by
    simp only [List.mem_map, exists_exists_and_eq_and]
  rw [isSome_environmentWarning?_iff, hids, henv]
  simp only [List.mem_map, exists_exists_and_eq_and, Function.comp_apply, ne_eq, Option.some.injEq]

end CasePlan

namespace BatchRunner

variable {σ : Type} (b : BatchRunner σ)

/-! ### What is saved -/

/-- A view of the world that shows all that was saved, one entry for each time, the latest one last.  Nothing but saving
changes what it shows. -/
structure Shelf where
  saves : σ → List (List CaseReport)
  save : ∀ reports w, saves (b.save reports w).2 = saves w ++ [reports]
  set : ∀ user status w, saves (b.channel.set user status w).2 = saves w
  moves : ∀ w w', b.engine.transport.Moves w w' → saves w' = saves w

/-- The runner in a world that also holds what was saved. -/
def filed : BatchRunner (σ × List (List CaseReport)) where
  engine := { b.engine with transport := b.engine.transport.beside }
  channel.get user w := b.channel.get user w.1
  channel.set user status w := ((b.channel.set user status w.1).1, (b.channel.set user status w.1).2, w.2)
  save reports w := ((b.save reports w.1).1, (b.save reports w.1).2, w.2 ++ [reports])
  savedNote := b.savedNote
  vars := b.vars

/-- With a file of them beside it, every runner has a shelf of what it saved. -/
def shelfOfFile : b.filed.Shelf where
  saves := Prod.snd
  save _ _ := rfl
  set _ _ _ := rfl
  moves w w' h := by cases h <;> rfl

/-! ### Refused batches -/

theorem run_runBatch_refused {ids : List CaseId} {error : BatchError}
    (h : CasePlan.ofIds b.engine.repository b.engine.config.envId ids = .error error) (user : String)
    (mode : BatchMode) (schedule : List Nat) (s : BatchState σ) :
    (b.runBatch user ids mode schedule).run s = (.error error, s) := by
  unfold runBatch
  rw [h]
  rfl

/-! ### Batches with a report -/

/-- What a report and the world after a batch owe to the request. -/
structure Accounts (ids : List CaseId) (start : σ) (report : BatchReport) (world : σ) : Prop where
  /-- Each request has one outcome, in its place: what became of a run of its case. -/
  outcomes : List.Forall₂ (fun id o => ∃ plan t,
    CasePlan.ofId b.engine.repository b.engine.config.envId id = .ok plan ∧ o = plan.outcome (b.caseRun plan t).1)
    ids report.outcomes
  named : ∀ suite, b.engine.repository = .ofSuite suite → report.outcomes.map CaseOutcome.caseId = ids
  success : report.success = (report.outcomes.map CaseOutcome.status).count .success
  total : report.success + report.failed = ids.length
  /-- All reports are saved in one go. -/
  saved : ∀ l : b.Shelf, l.saves world = l.saves start ++ [report.outcomes.filterMap CaseOutcome.report]
  warning : report.warning.isSome = true ↔ ∃ i ∈ ids, ∃ j ∈ ids,
    CasePlan.environment? b.engine.repository b.engine.config.envId i ≠
      CasePlan.environment? b.engine.repository b.engine.config.envId j

/-- What becomes of a request: it is refused as it came, or accounted for. -/
structure Answered (user : String) (ids : List CaseId) (mode : BatchMode) (schedule : List Nat) (s : BatchState σ) :
    Prop where
  empty : ids = [] → (b.runBatch user ids mode schedule).run s = (.error .empty, s)
  /-- The first case that is not admitted decides, and nothing is touched. -/
  refused : ∀ id ∈ ids, (∃ error, CasePlan.Offends b.engine.repository b.engine.config.envId id error) →
    ∃ before first after error, ids = before ++ first :: after ∧
      (∀ d ∈ before, ¬ ∃ error, CasePlan.Offends b.engine.repository b.engine.config.envId d error) ∧
      CasePlan.Offends b.engine.repository b.engine.config.envId first error ∧
      (b.runBatch user ids mode schedule).run s = (.error error, s)
  accounts : ∀ report, ((b.runBatch user ids mode schedule).run s).1 = .ok report →
    b.Accounts ids s.run.world report ((b.runBatch user ids mode schedule).run s).2.run.world

variable {b}

theorem success_add_failed (report : BatchReport) : report.success + report.failed = report.outcomes.length :=
  Nat.add_sub_cancel' (List.countP_le_length)

theorem caseId_of_ofSuite {suite : Suite} {override : Option EnvId} {id : CaseId} {plan : CasePlan}
    (h : CasePlan.ofId (.ofSuite suite) override id = .ok plan) : plan.info.id = id := by
  obtain ⟨c, -, hinfo, rfl⟩ := Repository.ofSuite_caseInfo (CasePlan.environment?_of_ofId h).2
  rw [← hinfo]
  rfl

@[simp] theorem caseId_outcome (plan : CasePlan) (result : Except Abort CaseReport) :
    (plan.outcome result).caseId = plan.info.id := by
  cases result <;> rfl

theorem Shelf.reaches (l : b.Shelf) {w w' : σ} (h : b.engine.transport.Reaches w w') : l.saves w' = l.saves w :=
  Transport.Reaches.eq l.moves h

theorem runPlans_caseRuns (mode : BatchMode) (schedule : List Nat) (plans : List CasePlan) (s : BatchState σ) :
    List.Forall₂ (fun plan o => ∃ t, o = plan.outcome (b.caseRun plan t).1) plans
      ((b.runPlans mode schedule plans).run s).1 := by
  refine (runPlans_outcomes b.steady_anyhow mode schedule plans (s := s) trivial).1.imp fun plan o ho => ?_
  obtain ⟨t, rfl⟩ := ho
  exact ⟨t, b.outcome_runOne plan t⟩

theorem Ends.accounts {user : String} {ids : List CaseId} {mode : BatchMode} {schedule : List Nat}
    {plans : List CasePlan} {s : BatchState σ} {p : Except BatchError BatchReport × BatchState σ}
    (hids : CasePlan.ofIds b.engine.repository b.engine.config.envId ids = .ok plans)
    (h : b.Ends user mode schedule plans (CasePlan.environmentWarning? plans) s p) {report : BatchReport}
    (hreport : p.1 = .ok report) : b.Accounts ids s.run.world report p.2.run.world := by
  cases h with
  | unannounced => cases hreport
  | untimed => cases hreport
  | @ran t u v outcomes saved w _ _ ht hplans hsave hv _ =>
    cases saved with
    | error cause => cases hreport
    | ok _ =>
      cases hreport
      have hruns := runPlans_caseRuns (b := b) mode schedule plans t
      have hcalls := b.runPlans_calls mode schedule plans t
      rw [hplans] at hruns hcalls
      have houtcomes : List.Forall₂ (fun id o => ∃ plan t,
          CasePlan.ofId b.engine.repository b.engine.config.envId id = .ok plan ∧ o = plan.outcome (b.caseRun plan t).1)
          ids outcomes :=
        (exists_between_of_forall₂ (CasePlan.ofIds_ok hids) hruns).imp fun id o ⟨plan, hid, t, ho⟩ => ⟨plan, t, hid, ho⟩
      refine ⟨houtcomes, fun suite hsuite => ?_, ?_, ?_, fun l => ?_, CasePlan.warns_iff hids⟩
      · rw [← List.forall₂_eq_eq_eq, List.forall₂_map_left_iff]
        refine (houtcomes.imp fun id o => ?_).flip
        rintro ⟨plan, t, hid, rfl⟩
        rw [hsuite] at hid
        exact (caseId_outcome plan _).trans (caseId_of_ofSuite hid)
      · rw [BatchReport.success, List.count, List.countP_map]
        rfl
      · rw [success_add_failed, houtcomes.length_eq]
      · have hworld : v.run.world =
            (b.save (outcomes.filterMap CaseOutcome.report) (b.channel.set user .waiting u.run.world).2).2 := by
          rw [hv.world, hsave]
        rw [hworld, l.save, l.set, l.reaches hcalls, ht.world, l.set]

variable (b)

/-- A batch is refused as a whole before anything is done, for its first case that is not admitted; and once it comes to
a report, that and what was saved are exactly the outcomes of what was asked for. -/
theorem batch_is_accounted_for (user : String) (ids : List CaseId) (mode : BatchMode) (schedule : List Nat)
    (s : BatchState σ) : b.Answered user ids mode schedule s where
  empty hids := by
    subst hids
    exact b.run_runBatch_refused rfl user mode schedule s
  refused id hid herror := by
    obtain ⟨error, herror⟩ := herror
    obtain ⟨before, first, after, error', hsplit, hbefore, hfirst, hids⟩ :=
      CasePlan.exists_first_of_offends hid herror
    refine ⟨before, first, after, error', hsplit, ?_, hfirst, b.run_runBatch_refused hids user mode schedule s⟩
    rintro d hd ⟨e, he⟩
    obtain ⟨plan, hplan⟩ := hbefore d hd
    cases (CasePlan.ofId_eq_error_iff.mpr he).symm.trans hplan
  accounts report hreport := by
    cases hids : CasePlan.ofIds b.engine.repository b.engine.config.envId ids with
    | error error =>
      rw [b.run_runBatch_refused hids] at hreport
      cases hreport
    | ok plans =>
      obtain ⟨t, ht, hends⟩ := b.runBatch_ends hids user mode schedule s
      have haccounts := hends.accounts hids hreport
      rwa [ht.world] at haccounts

/-- The plans of the mixed cases, the last one asked for twice. -/
def repeatedPlans : List CasePlan := [3, 1, 2, 3].filterMap fun id => mixedPlans.find? (·.info.id == id)

/-- A case that is asked for twice counts twice, and a case that broke down counts without a report; an unknown case
keeps the others out. -/
theorem repeated_case_counts_twice :
    let p := (mixedRunner.filed.runBatch "u" [3, 1, 2, 3] .parallel [2, 0]).run (.start ((none, 0), []))
    p.1.toOption.map (fun report => (report.success, report.failed, report.outcomes.map CaseOutcome.caseId)) =
      some (2, 2, [3, 1, 2, 3]) ∧
    p.2.run.world.2.map (·.map CaseReport.caseId) = [[3, 2, 3]] ∧
    mixedRunner.filed.Answered "u" [3, 1, 2, 3] .parallel [2, 0] (.start ((none, 0), [])) ∧
    mixedRunner.filed.Answered "u" [3, 9, 8] .serial [] (.start ((none, 0), [])) ∧
    CasePlan.Offends mixedRunner.filed.engine.repository none 9 (.unknownCase 9) := by
  have hids : CasePlan.ofIds mixedRunner.filed.engine.repository mixedRunner.filed.engine.config.envId [3, 1, 2, 3] =
      .ok repeatedPlans := rfl
  have hwarning : CasePlan.environmentWarning? repeatedPlans = none := by
    rw [← Option.not_isSome_iff_eq_none, CasePlan.isSome_environmentWarning?_iff]
    decide
  have hrun : mixedRunner.filed.runBatch "u" [3, 1, 2, 3] .parallel [2, 0] =
      mixedRunner.filed.runAdmitted "u" .parallel [2, 0] repeatedPlans none := by
    unfold runBatch
    rw [hids]
    simp only [hwarning]
  rw [hrun]
  exact ⟨by decide +kernel, by decide +kernel, mixedRunner.filed.batch_is_accounted_for _ _ _ _ _,
    mixedRunner.filed.batch_is_accounted_for _ _ _ _ _, .unknown rfl⟩

end BatchRunner

end Casebook
