import Casebook.Proofs.Run.Mirroring

/-! Logging only failures leaves out what passed steps say, and changes nothing else.  The run that
does so and the run that logs everything go through the same states but for what they report, and
the report of the one is that of the other with such messages and outputs left out. -/
namespace Casebook

/-! ### Erasure -/

namespace StepResult

/-- Whether the log of failures leaves out what a result says. -/
def isErasable (r : StepResult) : Bool :=
  r.kind != StepKind.caseRef.name &&
    (r.status == .success || r.status == .skip && r.message != some "execution interrupted")

def pruned (r : StepResult) : StepResult := if r.isErasable then r.stripped else r

end StepResult

theorem StepKind.name_bne_caseRef (kind : StepKind) :
    (kind.name != StepKind.caseRef.name) = (kind != .caseRef) := by
  cases kind <;> decide

mutual

/-- A result as the log of failures keeps it, with all results inside it. -/
def StepResult.erased : StepResult → StepResult
  | .mk id label kind status retries message output =>
    (StepResult.mk id label kind status retries message (erasedOutput output)).pruned

def erasedOutput : Option StepOutput → Option StepOutput
  | none => none
  | some output => some output.erased

def StepOutput.erased : StepOutput → StepOutput
  | .api log => .api log
  | .sql log => .sql log
  | .case results => .case (erasedAll results)
  | .foreach iterations => .foreach (erasedIterations iterations)

def erasedAll : List StepResult → List StepResult
  | [] => []
  | r :: results => r.erased :: erasedAll results

def IterationResult.erased : IterationResult → IterationResult
  | .mk index status steps => .mk index status (erasedAll steps)

def erasedIterations : List IterationResult → List IterationResult
  | [] => []
  | i :: iterations => i.erased :: erasedIterations iterations

end

/-- The report with every result in it erased. -/
def CaseReport.erased (r : CaseReport) : CaseReport :=
  { r with steps := r.steps.map StepResult.erased }

theorem erasedAll_eq_map (results : List StepResult) :
    erasedAll results = results.map StepResult.erased := by
  induction results with
  | nil => rfl
  | cons r results ih => rw [erasedAll, ih, List.map_cons]

theorem erasedIterations_eq_map (iterations : List IterationResult) :
    erasedIterations iterations = iterations.map (IterationResult.map StepResult.erased) := by
  induction iterations with
  | nil => rfl
  | cons i iterations ih =>
    cases i
    rw [erasedIterations, ih, List.map_cons, IterationResult.erased, erasedAll_eq_map,
      IterationResult.map]

theorem erasedOutput_eq_map (output : Option StepOutput) :
    erasedOutput output = output.map (StepOutput.map StepResult.erased) := by
  rcases output with _ | ⟨log⟩ | ⟨log⟩ | ⟨results⟩ | ⟨iterations⟩
  · rfl
  · rfl
  · rfl
  · rw [erasedOutput, StepOutput.erased, erasedAll_eq_map]
    rfl
  · rw [erasedOutput, StepOutput.erased, erasedIterations_eq_map]
    rfl

namespace StepResult

@[simp] theorem status_erased (r : StepResult) : r.erased.status = r.status := by
  cases r
  unfold erased pruned
  split
  · exact status_stripped _
  · rfl

theorem isFailed_erased (r : StepResult) : r.erased.isFailed = r.isFailed := by
  unfold isFailed
  rw [status_erased]

/-- A result without an output loses its message or stays as it is. -/
theorem erased_of_output {r : StepResult} (h : r.output = none) : r.erased = r.pruned := by
  cases r
  cases h
  rfl

theorem pruned_of_not_erasable {r : StepResult} (h : r.isErasable = false) : r.pruned = r := by
  unfold pruned
  rw [h]
  rfl

theorem countP_erased (p : Status → Bool) (results : List StepResult) :
    (results.map erased).countP (fun r => p r.status) = results.countP fun r => p r.status := by
  rw [List.countP_map]
  congr 1
  funext r
  rw [Function.comp_apply, status_erased]

end StepResult

namespace CaseReport

variable (r : CaseReport)

theorem total_erased : r.erased.total = r.total := List.length_map _

theorem enabled_erased : r.erased.enabled = r.enabled :=
  StepResult.countP_erased (· != .disabled) r.steps

theorem succeeded_erased : r.erased.succeeded = r.succeeded :=
  StepResult.countP_erased (· == .success) r.steps

theorem successRate_erased : r.erased.successRate = r.successRate := by
  unfold successRate
  rw [enabled_erased, succeeded_erased]

end CaseReport

/-! ### States that differ in what was reported -/

/-- What the journal holds besides reports. -/
def RunState.work {σ : Type} (s : RunState σ) : List Entry :=
  s.journal.toList.filter fun x => x.report?.isNone

/-- The second state is the first one but for the reports in the journal. -/
structure RunState.Same {σ : Type} (s s' : RunState σ) : Prop where
  eq : s' = { s with journal := s'.journal }
  work : s'.work = s.work

namespace RunState.Same

variable {σ : Type} {s s' : RunState σ}

theorem refl (s : RunState σ) : Same s s := ⟨rfl, rfl⟩

theorem calls (h : Same s s') : s'.calls = s.calls := by
  have hcalls : ∀ s : RunState σ, s.calls.toList = s.work.filterMap Entry.call? := by
    intro s
    simp only [RunState.calls, RunState.work, Array.toList_filterMap, List.filterMap_filter]
    congr 1
    funext x
    rcases x with ⟨event, depth, halted⟩
    cases event <;> rfl
  exact Array.toList_inj.mp (by rw [hcalls, hcalls, h.work])

theorem mirroring : Mirroring (@Same σ) where
  eq h := by rw [h.eq]
  grow t entries notes h := by
    refine ⟨?_, ?_⟩
    · rw [h.eq]
    · have hwork := h.work
      simp only [RunState.work, Array.toList_append, List.filter_append] at hwork ⊢
      rw [hwork]
  reported {s s'} r r' h := by
    refine ⟨?_, ?_⟩
    · rw [h.eq]
      rfl
    · have hwork := h.work
      simp only [RunState.work, journal_recorded, List.filter_append] at hwork ⊢
      rw [hwork]
      rfl

theorem scope (h : Same s s') : s'.scope = s.scope := mirroring.scope h

theorem status (h : Same s s') : s'.status = s.status := mirroring.status h

end RunState.Same

/-! ### Two engines -/

namespace Engine

open Run (Mirrors)
open RunState (Same)
open RunState.Same (mirroring)

variable {σ : Type} (e : Engine σ)

/-- The engine with or without the log of failures only. -/
def logging (onlyFailed : Bool) : Engine σ :=
  { e with options := { e.options with onlyFailedLog := onlyFailed } }

theorem noteOutcome_eq {r r' : StepResult} (hstatus : r'.status = r.status)
    (hlabel : r'.label = r.label) (hmessage : r.isFailed = true → r'.message = r.message) :
    (noteOutcome r' : Run σ Unit) = noteOutcome r := by
  have hfailed : r'.isFailed = r.isFailed := by
    unfold StepResult.isFailed
    rw [hstatus]
  unfold noteOutcome
  rw [hfailed, hstatus, hlabel]
  split
  case isTrue h => rw [hmessage h]
  case isFalse => rfl

/-- What the engine makes of a finished step. -/
def logged (step : Step) (r : StepResult) : StepResult :=
  if isSuppressed step r then r.stripped else r

theorem finish_mirrors {step : Step} {r r' : StepResult} (h : r.erased = logged step r')
    (hstatus : r'.status = r.status) (hlabel : r'.label = r.label)
    (hmessage : r.isFailed = true → r'.message = r.message) :
    Mirrors Same StepResult.erased ((e.logging false).finish step r)
      ((e.logging true).finish step r') := by
  have hfull : (e.logging false).finish step r =
      noteOutcome r >>= fun _ => (e.logging false).settle r Run.latchFailedStop := rfl
  have hlogged : (e.logging true).finish step r' =
      noteOutcome (logged step r') >>= fun _ =>
        (e.logging true).settle (logged step r') Run.latchFailedStop := rfl
  have hnote : (noteOutcome (logged step r') : Run σ Unit) = noteOutcome r := by
    unfold logged
    split
    case isTrue hsuppressed =>
      refine noteOutcome_eq (by rw [StepResult.status_stripped, hstatus])
        (by rw [StepResult.label_stripped, hlabel]) ?_
      intro hfailed
      have hr' : r'.status = .failed := hstatus.trans (by simpa [StepResult.isFailed] using hfailed)
      rw [isSuppressed_failed step r' hr'] at hsuppressed
      cases hsuppressed
    case isFalse => exact noteOutcome_eq hstatus hlabel hmessage
  rw [hfull, hlogged, hnote]
  exact .bind (mirroring.silent (noteOutcome_silent r)) fun _ =>
    mirroring.settle rfl StepResult.isFailed_erased h _ _ _

/-- Erasing a result is what the engine does to it, where it was not interrupted. -/
theorem pruned_eq_logged {step : Step} {r : StepResult} (hkind : r.kind = step.kind.name)
    (hskip : r.status = .skip → r.message ≠ some "execution interrupted") :
    r.pruned = logged step r := by
  have herasable : r.isErasable = isSuppressed step r := by
    unfold StepResult.isErasable isSuppressed
    rw [hkind, StepKind.name_bne_caseRef, Bool.and_comm]
    cases hstatus : r.status with
    | skip =>
      have hmessage : (r.message != some "execution interrupted") = true :=
        bne_iff_ne.mpr (hskip hstatus)
      rw [hmessage]
      rfl
    | _ => rfl
  unfold StepResult.pruned logged
  rw [herasable]

theorem erased_result (a : Attempt) (step : Step) (label : String) (n : Nat) :
    (a.result step label n).erased =
      logged step ((a.map StepResult.erased).result step label n) := by
  have hpruned :
      (a.result step label n).erased = ((a.map StepResult.erased).result step label n).pruned := by
    show StepResult.pruned
      (.mk step.id label step.kind.name a.status _ a.message (erasedOutput a.output)) = _
    rw [erasedOutput_eq_map]
    rfl
  have hstatus : ((a.map StepResult.erased).result step label n).status = a.status := rfl
  rw [hpruned]
  refine pruned_eq_logged rfl fun hskip => ?_
  rw [hstatus, Attempt.status] at hskip
  split at hskip <;> cases hskip

theorem erased_interrupted (step : Step) (label : String) :
    (interrupted step label).erased = interrupted step label := by
  rw [StepResult.erased_of_output (isPassedOver_interrupted step label).2]
  unfold interrupted
  split
  · unfold StepResult.pruned
    split <;> rfl
  · refine StepResult.pruned_of_not_erasable ?_
    simp [StepResult.isErasable, StepResult.withMessage, StepResult.bare, StepResult.status,
      StepResult.message]

theorem erased_unmet (step : Step) (label : String) :
    (unmet step label).erased = logged step (unmet step label) := by
  have hmessage : (unmet step label).message ≠ some "execution interrupted" := by
    simp [unmet, StepResult.withMessage, StepResult.bare, StepResult.message]
  have houtput : (unmet step label).output = none := rfl
  rw [StepResult.erased_of_output houtput]
  exact pruned_eq_logged rfl fun _ => hmessage

theorem relates_logging :
    mirroring.likeness.Relates StepResult.erased (e.logging false) (e.logging true) where
  ev := rfl
  repository := rfl
  config := rfl
  fits := ⟨trivial, trivial, trivial, trivial, trivial⟩
  isFailed := StepResult.isFailed_erased
  patience := .inl rfl
  api head p label index := mirroring.converse (e.api_converses head p label index)
    (e.api_fixed StepResult.erased head p label index)
  sql p label index := mirroring.converse (e.sql_converses p label index)
    (e.sql_fixed StepResult.erased p label index)
  interrupted step label := mirroring.report (erased_interrupted step label)
  disabled step label := mirroring.report (StepResult.pruned_of_not_erasable (Bool.and_false _))
  undecided step label cause := by
    refine .bind (mirroring.silent (.note _ _)) fun _ =>
      mirroring.settle rfl StepResult.isFailed_erased ?_ _ _ _
    exact StepResult.pruned_of_not_erasable (Bool.and_false _)
  unmet step label := e.finish_mirrors (erased_unmet step label) rfl rfl nofun
  finish step label a n := e.finish_mirrors (erased_result a step label n) rfl rfl fun _ => rfl

/-- Logging only failures changes what a run of a case reports, and nothing else it does. -/
theorem runCase_mirrors (caseId : CaseId) :
    Mirrors Same CaseReport.erased ((e.logging false).runCase caseId)
      ((e.logging true).runCase caseId) :=
  e.relates_logging.runCase rfl caseId

/-- Logging only failures is nothing but suppression: the run makes the same calls, ends with the
same scope and in the same status, and its report is the full one erased, with the same status and
the same statistics. -/
theorem log_of_failures_is_suppression (caseId : CaseId) (s : RunState σ) :
    let full := ((e.logging false).runCase caseId).run s
    let logged := ((e.logging true).runCase caseId).run s
    logged.1 = full.1.map CaseReport.erased ∧ logged.2.calls = full.2.calls ∧
      logged.2.scope = full.2.scope ∧
      logged.2.status = full.2.status ∧ full.2.Same logged.2 ∧
      ∀ r : CaseReport, r.erased.status = r.status ∧ r.erased.total = r.total ∧
        r.erased.enabled = r.enabled ∧
        r.erased.succeeded = r.succeeded ∧ r.erased.successRate = r.successRate := by
  intro full logged
  obtain ⟨hreport, hsame⟩ := e.runCase_mirrors caseId s s (.refl s)
  refine ⟨hreport, hsame.calls, hsame.scope, hsame.status, hsame, fun r => ?_⟩
  exact ⟨rfl, r.total_erased, r.enabled_erased, r.succeeded_erased, r.successRate_erased⟩

end Engine

end Casebook
