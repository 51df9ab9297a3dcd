import Casebook.Proofs.Run.LoopTurns
import Casebook.Proofs.Run.Looks

/-! The iteration that expressions see.  Every expression of a step is looked at in the iteration of the innermost loop
around the step, also across references to cases; a loop inside of that one has iterations of its own, and leaves the
outer one as it was. -/
namespace Casebook

/-- In an expression of the template language the iteration goes by the name `i`, whatever variables there are. -/
theorem Template.evaluate_iteration (scope : Scope) (index : Option Nat) :
    evaluator.evaluate "i" scope index = .ok (index.elim Value.null Value.ofNat).outcome := by
  have hread : readExpression "i" = .ok (.name "i") := rfl
  have hexpr : Eval.expr (Eval.invoke Eval.maxCalls) (.name "i") = do
      return (← Eval.lookup? "i").getD .missing := by
    rw [Eval.expr]
  have hvalue : Template.evaluate "i" (context scope index) = .ok (index.elim .null .ofNat) := by
    unfold Template.evaluate
    rw [hread]
    show StateT.run' (Eval.expr (Eval.invoke Eval.maxCalls) (.name "i") >>= Eval.settle) _ = _
    rw [hexpr]
    cases index <;> rfl
  show (Template.evaluate "i" (context scope index)).map Value.outcome = _
  rw [hvalue]
  rfl

namespace Engine

open Run (Still)

variable {σ : Type} {e : Engine σ}

/-- Evaluators that answer alike for the iteration of a look agree at it. -/
theorem agrees_of_during {ev : Evaluator} {l : Look σ} (h : ev.during l.index = e.ev.during l.index) :
    e.Agrees ev l := by
  rcases l with ⟨text | times | text | ⟨head, p, label⟩ | ⟨p, label⟩, s⟩
  · exact congrArg (·.condition text s.scope (Look.index ⟨.runCondition text, s⟩)) h
  · have hresolve := LoopBound.resolve_during ev (Look.index ⟨.times times, s⟩) times s.scope
    rw [h, LoopBound.resolve_during] at hresolve
    exact hresolve.symm
  · exact congrArg (·.condition text s.scope (Look.index ⟨.breakCondition text, s⟩)) h
  · have hgiven := (e.given ev).api_during (Look.index ⟨.api head p label, s⟩) head p label
    rw [given_ev, h] at hgiven
    exact congrArg (·.run s) (hgiven.symm.trans (e.api_during _ head p label))
  · have hgiven := (e.given ev).sql_during (Look.index ⟨.sql p label, s⟩) p label
    rw [given_ev, h] at hgiven
    exact congrArg (·.run s) (hgiven.symm.trans (e.sql_during _ p label))

/-- Steps that are run at the iteration around them are run with heed. -/
def NestHeeds (e : Engine σ) (nest : Evaluator → Nest σ) : Prop :=
  ∀ steps labels level (s : RunState σ), e.Heeds true (fun ev => nest ev steps labels level s.iteration) s

variable {nest : Evaluator → Nest σ} {outer : Bool}

theorem report_heeds (r : StepResult) (s : RunState σ) : e.Heeds outer (fun _ => Run.report r) s :=
  .bind (.record rfl rfl s) fun _ t _ => .still (.pure r) t

theorem latch_heeds (halt : Halt) (level : NoticeLevel) (text : String) (s : RunState σ) :
    e.Heeds outer (fun _ => Run.latch halt level text) s := by
  refine ⟨[], ?_, fun _ _ => rfl⟩
  rw [Run.run_latch]
  split
  · exact .still (.refl s) rfl
  · exact .append (.still (.noted ⟨level, text⟩ s) rfl) (.append (.latched halt _) (.event _ rfl fun _ => rfl))

theorem settle_heeds (r : StepResult) (halt : Halt) (level : NoticeLevel) (text : String) (s : RunState σ) :
    e.Heeds outer (fun _ => e.settle r (Run.latch halt level text)) s := by
  unfold settle haltAt
  refine .bind (report_heeds r s) fun r' t _ => .bind ?_ fun _ u _ => .still (.pure _) u
  split
  · exact latch_heeds halt level text t
  · exact .still (.pure _) t

theorem finish_heeds (step : Step) (r : StepResult) (s : RunState σ) :
    e.Heeds outer (fun _ => e.finish step r) s := by
  unfold finish
  exact .bind (.still (noteOutcome_still _) s) fun _ t _ => settle_heeds _ _ _ _ t

theorem undecided_heeds (step : Step) (label : String) (cause : ResolutionError) (s : RunState σ) :
    e.Heeds outer (fun _ => e.undecided step label cause) s := by
  unfold undecided
  exact .bind (.still (.note _ _) s) fun _ t _ => settle_heeds _ _ _ _ t

/-! ### Nested steps -/

theorem overflow_heeds {α : Type} (kind : StepKind) (limit : UInt32) (s : RunState σ) :
    e.Heeds outer (fun _ => (Run.overflow kind limit : Run σ α)) s :=
  .bind (.record rfl rfl s) fun _ t _ => .throw _ t

/-- A referenced case is in the iteration that the step is in which refers to it. -/
theorem caseRef_heeds (hnest : e.NestHeeds nest) (caseId : CaseId) (labels : String) (level : Nat) {index : Option Nat}
    {s : RunState σ} (hindex : (framesAt (s.depth - 1) s.past).findSome? Frame.iteration? = index) :
    e.Heeds false (fun ev => (e.given ev).caseRef (nest ev) caseId labels level index) s := by
  show e.Heeds false (fun ev => if e.config.limits.caseRef.toNat < level then _ else _) s
  split
  case isTrue => exact overflow_heeds _ _ s
  case isFalse =>
    simp only [given_repository]
    cases e.repository.steps caseId with
    | error cause => exact .still (.pure _) s
    | ok steps =>
      refine .bind (.still (.note _ _) s) fun _ t ht => .bind (.recordInside rfl t) fun _ u hu => ?_
      cases ht
      cases hu
      have hentered : ∀ n, ((s.noted n).recorded (.entered .caseRef level)).iteration = index := by
        intro n
        rw [RunState.iteration, RunState.frames_frame rfl]
        exact hindex
      rw [← hentered]
      exact (hnest steps labels level _).inside.bind fun results v _ => .still (.pure _) v

/-- A break condition is looked at for the iteration to come, and not in a halted run. -/
theorem turn_heeds (name : String) (breakCondition : Option String) {iteration : Nat} {s : RunState σ}
    (hupcoming : s.upcoming = some iteration) :
    e.Heeds outer (fun ev => (e.given ev).turn name breakCondition iteration) s := by
  refine .read (Run.run_isHalted s) ?_
  cases hhalted : s.isHalted with
  | true => exact .still (.pure _) s
  | false =>
    cases breakCondition with
    | none => exact .still (.pure _) s
    | some condition =>
      refine .read (Run.run_scope s) ?_
      have hanswer : ∀ ev, e.Agrees ev ⟨.breakCondition condition, s⟩ →
          ev.condition condition s.scope (some iteration) = e.ev.condition condition s.scope (some iteration) := by
        intro ev hagrees
        rw [← hupcoming]
        exact hagrees
      cases hmet : e.ev.condition condition s.scope (some iteration) with
      | error cause =>
        apply Heeds.asks (.breakCondition condition) hhalted rfl
        · intro ev hagrees
          rw [given_ev, hanswer ev hagrees, hmet]
        · exact .bind (.still (.note _ _) s) fun _ t _ => .still (.pure _) t
      | ok met =>
        apply Heeds.asks (.breakCondition condition) hhalted rfl
        · intro ev hagrees
          rw [given_ev, hanswer ev hagrees, hmet]
        · cases met with
          | true => exact .bind (.still (.note _ _) s) fun _ t _ => .still (.pure _) t
          | false => exact .still (.pure _) s

theorem iterate_heeds (hnest : e.NestHeeds nest) (name : String) (breakCondition : Option String) (steps : List Step)
    (labels : String) (level : Nat) (bounded : Bool) (left : Nat) {iteration : Nat} {s : RunState σ}
    (hupcoming : s.upcoming = some iteration) :
    e.Heeds false (fun ev => iterate ((e.given ev).turn name breakCondition)
      (fun i => nest ev steps labels level (some i)) bounded left iteration) s := by
  induction left generalizing iteration s with
  | zero =>
    cases bounded with
    | true => exact .still (.pure _) s
    | false => exact .throw _ s
  | succ left ih =>
    simp only [iterate]
    refine (turn_heeds name breakCondition hupcoming).bind fun turn t _ => ?_
    cases turn with
    | stop => exact .still (.pure _) t
    | broken cause => exact .still (.pure _) t
    | go =>
      refine .bind (.recordInside rfl t) fun _ u hu => ?_
      cases hu
      have hbody := hnest steps labels level (t.recorded (.iterated iteration))
      rw [RunState.iteration_iterated] at hbody
      refine hbody.inside.bind fun results v hv => ?_
      have hnext : v.upcoming = some (iteration + 1) :=
        (hbody.around hv).upcoming_eq.trans (RunState.upcoming_iterated iteration t)
      exact (ih hnext).bind fun rest w _ => .still (.pure _) w

/-- A loop finds its bound in the iteration around it, and counts its own ones from zero. -/
theorem foreach_heeds (hnest : e.NestHeeds nest) (head : StepHead) (times : Json.Value) (breakCondition : Option String)
    (own : List Step) (labels : String) (level : Nat) {s : RunState σ} (hawake : s.isHalted = false) :
    e.Heeds false
      (fun ev => (e.given ev).foreach (nest ev) head times breakCondition own labels level s.iteration) s := by
  show e.Heeds false (fun ev => if e.config.limits.foreach.toNat < level then _ else _) s
  split
  case isTrue => exact overflow_heeds _ _ s
  case isFalse =>
    refine .read (Run.run_scope s) ?_
    have hanswer : ∀ ev, e.Agrees ev ⟨.times times, s⟩ → LoopBound.resolve ev times s.scope s.iteration =
        LoopBound.resolve e.ev times s.scope s.iteration := fun ev hagrees => hagrees
    cases hbound : LoopBound.resolve e.ev times s.scope s.iteration with
    | error cause =>
      apply Heeds.asks (.times times) hawake rfl
      · intro ev hagrees
        rw [given_ev, hanswer ev hagrees, hbound]
      · exact .still (.pure _) s
    | ok bound =>
      apply Heeds.asks (.times times) hawake rfl
      · intro ev hagrees
        rw [given_ev, hanswer ev hagrees, hbound]
      · refine .bind (.record rfl rfl s) fun _ t _ => ?_
        simp only [given_loopBody]
        cases e.loopBody head.id own with
        | error cause => exact .still (.pure _) t
        | ok steps =>
          refine .bind (.still (.note _ _) t) fun _ u _ => .bind (.recordInside rfl u) fun _ v hv => ?_
          cases hv
          have hturns := iterate_heeds hnest head.name breakCondition steps labels level (bound != .forever)
            (e.allowance bound) (RunState.upcoming_entered level u)
          exact hturns.bind fun _ w _ => .still (.pure _) w

/-! ### Steps and groups -/

/-- An attempt at a step, in the iteration around it. -/
theorem started_heeds (hnest : e.NestHeeds nest) (step : Step) (label : String) (level n : Nat) {s : RunState σ}
    (hawake : s.isHalted = false) :
    e.Heeds true (fun ev => started label (contained label level
      ((e.given ev).body (nest ev) step label level s.iteration)) n) s := by
  refine .bind (.record rfl rfl s) fun _ t ht => .contained label level ?_
  cases ht
  have hsame : (s.recorded (.attempted label n)).iteration = s.iteration := RunState.iteration_recorded rfl s
  cases step with
  | api head p =>
    rw [← hsame]
    exact .attempt (.api head p label) hawake rfl fun ev hagrees => hagrees
  | sql head p =>
    rw [← hsame]
    exact .attempt (.sql p label) hawake rfl fun ev hagrees => hagrees
  | caseRef head caseId => exact .nested (caseRef_heeds hnest caseId (label ++ "-") level hsame)
  | foreach head times breakCondition own =>
    refine .nested ?_
    have hdeeper : ({ s.recorded (.attempted label n) with depth := s.depth + 1 } : RunState σ).iteration =
        s.iteration := by
      rw [RunState.iteration, RunState.frames_deeper rfl, RunState.iteration]
    rw [← hdeeper]
    exact foreach_heeds hnest head times breakCondition own (label ++ "-") level hawake

theorem retrying_heeds {x : Evaluator → Run σ Attempt} {label : String} {index : Option Nat}
    (hx : ∀ n (s : RunState σ), s.isHalted = false → s.iteration = index →
      e.Heeds true (fun ev => started label (x ev) n) s)
    (left n : Nat) {s : RunState σ} (hawake : s.isHalted = false) (hindex : s.iteration = index) :
    e.Heeds true (fun ev => retrying label (x ev) left n) s := by
  induction left generalizing n s with
  | zero => exact (hx n s hawake hindex).bind fun a t _ => .still (.pure _) t
  | succ left ih =>
    have hstarted := hx n s hawake hindex
    refine hstarted.bind fun a t ht => ?_
    have hsame : t.iteration = index := (hstarted.around ht).iteration_eq.trans hindex
    split
    · exact .still (.pure _) t
    · refine .read (Run.run_isHalted t) ?_
      cases hhalted : t.isHalted with
      | true => exact .still (.pure _) t
      | false =>
        refine .bind (.still (.note _ _) t) fun _ u hu => ?_
        cases hu
        exact ih (n + 1) hhalted hsame

theorem attempts_heeds (hnest : e.NestHeeds nest) (step : Step) (label : String) (level : Nat) {s : RunState σ}
    (hawake : s.isHalted = false) :
    e.Heeds true (fun ev => (e.given ev).attempts (nest ev) step label level s.iteration) s := by
  have hdelay : e.Heeds true (fun _ => noteDelay step label) s := .still (noteDelay_still step label) s
  refine hdelay.bind fun _ t ht => ?_
  have hsame : t.iteration = s.iteration := (hdelay.around ht).iteration_eq
  obtain ⟨_, t', hrun, hquiet, -⟩ := noteDelay_silent step label s
  cases ht.symm.trans hrun
  have hstarted : ∀ n (u : RunState σ), u.isHalted = false → u.iteration = s.iteration →
      e.Heeds true (fun ev => started label (contained label level
        ((e.given ev).body (nest ev) step label level s.iteration)) n) u := by
    intro n u hu hiteration
    rw [← hiteration]
    exact started_heeds hnest step label level n hu
  have hretrying := retrying_heeds hstarted (step.maxAttempts - 1) 0 (hquiet.isHalted.trans hawake) hsame
  exact hretrying.bind fun p u _ => finish_heeds step _ u

/-- The run condition of a step is looked at in the iteration around it, and not in a halted run. -/
theorem executeWith_heeds (hnest : e.NestHeeds nest) (step : Step) (labels : String) (level : Nat) (s : RunState σ) :
    e.Heeds true (fun ev => (e.given ev).executeWith (nest ev) step labels level s.iteration) s := by
  refine .read (Run.run_isHalted s) ?_
  cases hhalted : s.isHalted with
  | true =>
    exact .bind (.still .status s) fun _ t _ => .bind (.still (.note _ _) t) fun _ u _ => report_heeds _ u
  | false =>
    have hattempts := attempts_heeds hnest step (labels ++ step.head.name) level hhalted
    simp only [Bool.false_eq_true, if_false]
    cases step.head.controller.runCondition with
    | none => exact hattempts
    | some condition =>
      refine .read (Run.run_scope s) ?_
      have hanswer : ∀ ev, e.Agrees ev ⟨.runCondition condition, s⟩ → ev.condition condition s.scope s.iteration =
          e.ev.condition condition s.scope s.iteration := fun ev hagrees => hagrees
      cases hmet : e.ev.condition condition s.scope s.iteration with
      | error cause =>
        apply Heeds.asks (.runCondition condition) hhalted rfl
        · intro ev hagrees
          rw [given_ev, hanswer ev hagrees, hmet]
        · exact undecided_heeds step _ cause s
      | ok met =>
        apply Heeds.asks (.runCondition condition) hhalted rfl
        · intro ev hagrees
          rw [given_ev, hanswer ev hagrees, hmet]
        · cases met with
          | true => exact hattempts
          | false => exact .bind (.still (.note _ _) s) fun _ t _ => finish_heeds step _ t

theorem member_heeds (hnest : e.NestHeeds nest) (labels : String) (level : Nat) (step : Step) (s : RunState σ) :
    e.Heeds true (fun ev => (e.given ev).member (nest ev) labels level s.iteration step) s := by
  refine .bind (.record rfl rfl s) fun _ t ht => ?_
  cases ht
  rw [← RunState.iteration_recorded (x := .reached step.id (labels ++ step.head.name)) rfl s]
  split
  · exact executeWith_heeds hnest step labels _ _
  · exact report_heeds _ _

theorem groupWith_heeds (hnest : e.NestHeeds nest) : e.NestHeeds fun ev => (e.given ev).groupWith (nest ev) := by
  intro steps labels level s
  have hmember : ∀ step (t : RunState σ), t.iteration = s.iteration →
      e.Heeds true (fun ev => (e.given ev).member (nest ev) labels level s.iteration step) t := by
    intro step t ht
    rw [← ht]
    exact member_heeds hnest labels level step t
  exact Heeds.mapM hmember (Step.inOrder steps) rfl

/-- The steps of a level are run with heed. -/
theorem group_heeds : e.NestHeeds fun ev => (e.given ev).group := by
  have hwithin : ∀ room, e.NestHeeds fun ev => (e.given ev).groupWithin room := by
    intro room
    induction room with
    | zero => exact groupWith_heeds fun _ _ _ s => .still (.pure []) s
    | succ room ih => exact groupWith_heeds ih
  exact fun steps labels level s => hwithin (e.deepest - level) steps labels level s

/-- A case that is run outside of all loops is run with heed. -/
theorem runCase_heeds (caseId : CaseId) {s : RunState σ} (houtside : s.iteration = none) :
    e.Heeds true (fun ev => (e.given ev).runCase caseId) s := by
  have hlift : ∀ {α : Type} (r : Except RepositoryError α) (t : RunState σ),
      e.Heeds true (fun _ => runCase.liftExcept r) t := by
    rintro α (cause | a) t
    · exact .throw _ t
    · exact .still (.pure a) t
  refine (hlift (e.repository.caseInfo caseId) s).bind fun info t ht => ?_
  refine (hlift (e.repository.steps caseId) t).bind fun steps u hu => ?_
  refine .bind (.still (.note _ _) u) fun _ v hv => ?_
  cases hv
  have hfound : u.iteration = none :=
    ((hlift _ t).around hu).iteration_eq.trans (((hlift _ s).around ht).iteration_eq.trans houtside)
  have hgroup : ∀ n, e.Heeds true (fun ev => (e.given ev).group steps "" 0 none) (u.noted n) := by
    intro n
    have hnoted : (u.noted n).iteration = none := hfound
    rw [← hnoted]
    exact group_heeds steps "" 0 (u.noted n)
  refine (hgroup _).bind fun results w _ => .bind (.still .status w) fun _ x _ => ?_
  exact .bind (.still (.note _ _) x) fun _ y _ => .still (.pure _) y

/-- How an engine runs loops, and which iteration the expressions inside of them see. -/
structure RunsLoops (e : Engine σ) : Prop where
  /-- A loop within its limit finds its bound once, in the scope before it and the iteration around it, and then takes
  its turns.  Its iterations are counted from zero, and none of them is beyond the bound. -/
  turns : ∀ {head : StepHead} {times : Json.Value} (breakCondition : Option String) {own steps : List Step}
    (labels : String) {level : Nat} {index : Option Nat} {bound : LoopBound} {s : RunState σ},
    level ≤ e.config.limits.foreach.toNat → LoopBound.resolve e.ev times s.scope index = .ok bound →
    e.loopBody head.id own = .ok steps →
    ∃ s' iterations outcome t, s.Unmoved s' ∧
      e.Turns bound breakCondition steps labels level 0 s' iterations outcome t ∧
      (e.foreach e.group head times breakCondition own labels level index).run s =
        (outcome.map (LoopEnd.attempt iterations), t) ∧
      iterations.map IterationResult.index = (List.range iterations.length).map UInt64.ofNat ∧
      ∀ n, bound = .times n → iterations.length ≤ n ∧
        (n ≤ 999 ∨ n ≤ 100000 ∧ ∃ text items, times = .string text ∧ isTemplated (Text.trim text) = true ∧
          e.ev.renderValue (Text.trim text) s.scope index = .ok (.array items) ∧ n = min items.length 100000)
  /-- In an iteration of a loop that one is seen, whatever loops there are around it. -/
  inside : ∀ (s : RunState σ) (iteration : Nat), (s.recorded (.iterated iteration)).iteration = some iteration
  /-- Steps go by what their expressions come to, each looked at in the iteration that the run is in then.  They leave
  the run in the iteration in which they found it. -/
  steps : ∀ (steps : List Step) (labels : String) (level : Nat) (s : RunState σ),
    e.Heeds true (fun ev => (e.given ev).group steps labels level s.iteration) s ∧
      ((e.group steps labels level s.iteration).run s).2.frames = s.frames
  /-- So do cases, outside of all loops. -/
  case : ∀ (caseId : CaseId) {s : RunState σ}, s.iteration = none →
    e.Heeds true (fun ev => (e.given ev).runCase caseId) s ∧ ((e.runCase caseId).run s).2.frames = s.frames
  /-- Nothing that is looked at asks about another iteration. -/
  alone : ∀ {ev : Evaluator} {l : Look σ}, ev.during l.index = e.ev.during l.index → e.Agrees ev l
  /-- The iteration has a name in the template language. -/
  named : ∀ scope index, Template.evaluator.evaluate "i" scope index =
    .ok (index.elim Template.Value.null Template.Value.ofNat).outcome

theorem loops_take_turns (e : Engine σ) : e.RunsLoops where
  turns breakCondition _ _ labels _ _ _ _ hlimit hbound hbody := by
    obtain ⟨s', iterations, outcome, t, hmoved, hturns, hrun⟩ :=
      exists_run_foreach_turns breakCondition labels hlimit hbound hbody
    refine ⟨s', iterations, outcome, t, hmoved, hturns, hrun, ?_, fun n hn => ?_⟩
    · rw [hturns.indices, List.range_eq_range']
    · subst hn
      have hle := hturns.length_le (Nat.zero_le n)
      rw [Nat.zero_add] at hle
      exact ⟨hle, LoopBound.of_resolve_times hbound⟩
  steps steps labels level s := by
    have hgroup := group_heeds (e := e) steps labels level s
    exact ⟨hgroup, (hgroup.around rfl).frames_eq⟩
  inside s iteration := RunState.iteration_iterated iteration s
  case caseId s houtside := by
    have hcase := runCase_heeds (e := e) caseId houtside
    exact ⟨hcase, (hcase.around rfl).frames_eq⟩
  alone := agrees_of_during
  named := Template.evaluate_iteration

/-! ### A loop in a case inside of a loop -/

/-- Every text comes to the iteration. -/
def telling : Evaluator where
  render _ _ index := .ok (index.elim "none" toString)
  evaluate _ _ index := .ok ⟨false, true, .number, .ok (index.elim .null .ofNat)⟩

def woundCases : Suite :=
  { Suite.empty with
    cases := [
      ⟨1, "outer", some 1, [.foreach ⟨1, "twice", 0, true, .default, none⟩ (.number (.ofInt64 2)) none
        [.caseRef ⟨2, "inner", 0, true, .default, none⟩ 2]]⟩,
      ⟨2, "inner", some 1, [.foreach ⟨3, "thrice", 0, true, .default, none⟩ (.number (.ofInt64 3)) none
        [.api ⟨4, "tell", 0, true, .default, none⟩ (.new "GET" "\x7b\x7b i \x7d\x7d")]]⟩] }

def woundEngine : Engine Unit where
  ev := telling
  repository := .ofSuite woundCases
  transport := { unasked with http _ _ := (.quiet (some (.ok ⟨200, [], "", ⟨0, 0⟩⟩)), ()) }
  config := .default
  options := ⟨1, false, false⟩
  patience := 0

example :
    ((woundEngine.runCase 1).run (.start .empty false ())).2.journal.toList.filterMap (fun x => match x.event with
      | .called (.http request) => some request.url
      | _ => none) = ["0", "1", "2", "0", "1", "2"] := by
  decide +kernel

end Engine

end Casebook
