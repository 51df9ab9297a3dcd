import Mathlib.Data.Nat.Find
import Casebook.Proofs.Run.ApiVerdicts
import Casebook.Proofs.Run.LoopTurns
import Casebook.Proofs.Run.Retrying

/-! How deep steps may nest.  References to cases and loops count their levels together, but each kind has its own
limit, so a chain of them runs just if every step of it lies within the limit of its kind; else the first that does not
is what the outermost step fails for. -/
namespace Casebook

namespace RunState

variable {σ : Type}

theorem Dealt.calls {t : Transport σ} {s u : RunState σ} {dealings : List Dealing} (h : s.Dealt t dealings u) :
    u.calls.toList = s.calls.toList ++ dealings.map Dealing.call := by
  have hevents : ∀ v : RunState σ, v.calls.toList = v.events.filterMap Event.call? := by
    intro v
    rw [RunState.calls, Array.toList_filterMap, RunState.events, List.filterMap_map]
    rfl
  rw [hevents, hevents, h.events, List.filterMap_append, List.filterMap_map]
  simp [Function.comp_def, Event.call?]

end RunState

/-- An enabled step without a controller. -/
def Step.IsPlain (step : Step) : Prop := step.enabled = true ∧ step.head.controller = .default

/-! ### Chains -/

/-- A step around another one. -/
inductive Link where
  | caseRef (head : StepHead) (caseId : CaseId)
  | foreach (head : StepHead) (times : Json.Value)

namespace Link

def kind : Link → StepKind
  | .caseRef .. => .caseRef
  | .foreach .. => .foreach

/-- The step, with another one inside of it if it is a loop. -/
def step (inner : Step) : Link → Step
  | .caseRef head caseId => .caseRef head caseId
  | .foreach head times => .foreach head times none [inner]

def name : Link → String
  | .caseRef head _ => head.name
  | .foreach head _ => head.name

theorem head_step (link : Link) (inner : Step) : (link.step inner).head.name = link.name := by
  cases link <;> rfl

/-- The iteration inside, which is the first one of a loop. -/
def index (around : Option Nat) : Link → Option Nat
  | .caseRef .. => around
  | .foreach .. => some 0

/-- Steps around each other, with a step inside of all of them. -/
def chain (leaf : Step) : List Link → Step
  | [] => leaf
  | link :: rest => link.step (chain leaf rest)

/-- The text before the label of the innermost step. -/
def labels (around : String) : List Link → String
  | [] => around
  | link :: rest => labels (around ++ link.name ++ "-") rest

/-- The iteration of the innermost step. -/
def innermost (around : Option Nat) : List Link → Option Nat
  | [] => around
  | link :: rest => innermost (link.index around) rest

end Link

namespace Engine

variable {σ : Type} (e : Engine σ)

/-- The step around another one is plain and has it as its only step: the case that it refers to has, or it is a loop
that runs once. -/
def Holds (inner : Step) (link : Link) : Prop :=
  (link.step inner).IsPlain ∧
    match link with
    | .caseRef _ caseId => e.repository.steps caseId = .ok [inner]
    | .foreach _ times => ∀ scope index, LoopBound.resolve e.ev times scope index = .ok (.times 1)

/-- Each step of a chain has the next as its only step. -/
def HoldsAll (leaf : Step) : List Link → Prop
  | [] => leaf.IsPlain
  | link :: rest => e.Holds (Link.chain leaf rest) link ∧ HoldsAll leaf rest

/-- The limit for the kind of a step. -/
def limitOf (link : Link) : UInt32 := e.config.limits.of link.kind

/-! ### Single steps -/

theorem run_retrying_zero (label : String) (attempt : Run σ Attempt) (s : RunState σ) :
    (retrying label attempt 0 0).run s = match attempt.run (s.recorded (.attempted label 0)) with
      | (.ok a, t) => (.ok (a, 0), t)
      | (.error c, t) => (.error c, t) := by
  unfold retrying started
  rw [Run.run_bind, Run.run_bind_of_ok (Run.run_record _ s)]
  rcases attempt.run (s.recorded (.attempted label 0)) with ⟨c | a, t⟩ <;> rfl

theorem run_group_singleton (step : Step) (labels : String) (level : Nat) (index : Option Nat) (s : RunState σ) :
    (e.group [step] labels level index).run s = match (e.member e.group labels level index step).run s with
      | (.ok r, t) => (.ok [r], t)
      | (.error c, t) => (.error c, t) := by
  rw [e.group_eq level [step] labels index, groupWith, Step.inOrder, List.mergeSort_singleton, List.mapM_cons,
    Run.run_bind]
  rcases (e.member e.group labels level index step).run s with ⟨c | r, t⟩ <;> rfl

/-- A group of a plain step attempts it once, and has one result. -/
theorem run_group_plain {step : Step} (hplain : step.IsPlain) (labels : String) (level : Nat) (index : Option Nat)
    {s : RunState σ} (hawake : s.isHalted = false) :
    let attempt := contained (labels ++ step.head.name) (stepLevel step level)
      (e.body e.group step (labels ++ step.head.name) (stepLevel step level) index)
    ∃ s', s.Unmoved s' ∧
      (∀ a t, attempt.run s' = (.ok a, t) → ∃ r u, (e.group [step] labels level index).run s = (.ok [r], u) ∧
        u.calls = t.calls ∧ r.status = a.status ∧ (a.passed = false → r.message = a.message ∧ r.output = a.output)) ∧
      ∀ c t, attempt.run s' = (.error c, t) → (e.group [step] labels level index).run s = (.error c, t) := by
  intro attempt
  obtain ⟨henabled, hcontroller⟩ := hplain
  have hreached : (s.recorded (.reached step.id (labels ++ step.head.name))).isHalted = false := hawake
  have hmember : (e.member e.group labels level index step).run s =
      (e.attempts e.group step (labels ++ step.head.name) (stepLevel step level) index).run
        (s.recorded (.reached step.id (labels ++ step.head.name))) := by
    have hmet : ∀ condition, step.head.controller.runCondition = some condition →
        e.ev.condition condition (s.recorded (.reached step.id (labels ++ step.head.name))).scope index = .ok true := by
      rw [hcontroller]
      nofun
    rw [← run_executeWith_met e e.group step labels _ index hreached hmet]
    unfold member
    rw [Run.run_bind_of_ok (Run.run_record _ s), if_pos henabled]
    rfl
  have honce : step.maxAttempts - 1 = 0 := by
    unfold Step.maxAttempts
    rw [hcontroller]
    split <;> rfl
  have hundelayed : noteDelay step (labels ++ step.head.name) = (pure () : Run σ Unit) := by
    unfold noteDelay
    rw [hcontroller]
    rfl
  have hmoved : s.Unmoved ((s.recorded (.reached step.id (labels ++ step.head.name))).recorded
      (.attempted (labels ++ step.head.name) 0)) := ((RunState.Unmoved.refl s).recorded rfl).recorded rfl
  refine ⟨_, hmoved, ?_⟩
  rw [run_group_singleton, hmember]
  unfold attempts
  rw [hundelayed, honce, Run.run_bind_of_ok (Run.run_pure () _), Run.run_bind, run_retrying_zero]
  refine ⟨fun a t ha => ?_, fun c t hc => ?_⟩
  · obtain ⟨u, hfinish, -, hcalls⟩ := exists_run_finish e step (a.result step (labels ++ step.head.name) 0) t
    rw [ha]
    dsimp only
    rw [hfinish]
    refine ⟨_, u, rfl, hcalls, ?_, fun hfailed => ?_⟩
    · split
      · exact StepResult.status_stripped _
      · rfl
    · have hstatus : (a.result step (labels ++ step.head.name) 0).status = .failed := by
        simp [Attempt.result, StepResult.status, Attempt.status, hfailed]
      rw [isSuppressed_failed step _ hstatus, Bool.and_false]
      exact ⟨rfl, rfl⟩
  · rw [hc]

/-! ### Links -/

/-- A reference within its limit runs the steps of its case. -/
theorem exists_run_caseRef {caseId : CaseId} {steps : List Step} (hsteps : e.repository.steps caseId = .ok steps)
    {level : Nat} (hlimit : level ≤ e.config.limits.caseRef.toNat) (labels : String) (index : Option Nat)
    (s : RunState σ) :
    ∃ s', s.Unmoved s' ∧ (e.caseRef e.group caseId labels level index).run s =
      match (e.group steps labels level index).run s' with
      | (.ok results, t) => (.ok ⟨StepResult.overall results == .success, none, some (.case results)⟩, t)
      | (.error c, t) => (.error c, t) := by
  have hmoved : s.Unmoved ((s.noted ⟨.debug, "Entering case " ++ toString caseId ++ " at cascade level " ++
      toString level⟩).recorded (.entered .caseRef level)) := ((RunState.Unmoved.refl s).noted _).recorded rfl
  refine ⟨_, hmoved, ?_⟩
  rw [caseRef, if_neg (Nat.not_lt.mpr hlimit), hsteps]
  dsimp only
  rw [Run.run_bind_of_ok (Run.run_note _ _ s), Run.run_bind_of_ok (Run.run_record _ _), Run.run_bind]
  rcases (e.group steps labels level index).run _ with ⟨c | results, t⟩ <;> rfl

/-- A loop within its limit that is bounded by one runs its steps once. -/
theorem exists_run_foreach {times : Json.Value} {s : RunState σ} {index : Option Nat}
    (hbound : LoopBound.resolve e.ev times s.scope index = .ok (.times 1)) {level : Nat}
    (hlimit : level ≤ e.config.limits.foreach.toNat) (hawake : s.isHalted = false) (head : StepHead) (step : Step)
    (labels : String) :
    let run := (e.foreach e.group head times none [step] labels level index).run s
    ∃ s', s.Unmoved s' ∧
      (∀ results t, (e.group [step] labels level (some 0)).run s' = (.ok results, t) →
        ∃ a u, run = (.ok a, u) ∧ t.Quiet u ∧ a.passed = (StepResult.overall results == .success)) ∧
      ∀ c t, (e.group [step] labels level (some 0)).run s' = (.error c, t) → run = (.error c, t) := by
  intro run
  have hbody : e.loopBody head.id [step] = .ok [step] := rfl
  have hfirst : ∀ {u : RunState σ}, u.isHalted = false → e.loopEnd? (.times 1) none 0 u = none := by
    intro u hu
    simp [loopEnd?, LoopBound.allows, hu]
  have hsecond : ∀ u : RunState σ, e.loopEnd? (.times 1) none 1 u = some .counted := fun _ => rfl
  obtain ⟨s', iterations, outcome, t, hmoved, hturns, hrun⟩ := exists_run_foreach_turns none labels hlimit hbound hbody
  refine ⟨s'.recorded (.iterated 0), hmoved.recorded rfl, fun results u hgroup => ?_, fun c u hgroup => ?_⟩
  · cases hturns with
    | ends hending => cases (hfirst (hmoved.awake hawake)).symm.trans hending
    | aborts _ hother => cases hgroup.symm.trans hother
    | exhausts _ hforever => cases hforever
    | next _ hsame hrest =>
      cases hgroup.symm.trans hsame
      cases hrest with
      | ends hending hquiet =>
        cases (hsecond u).symm.trans hending
        refine ⟨_, t, hrun, hquiet, ?_⟩
        simp [LoopEnd.attempt, LoopEnd.fault?, IterationResult.status]
      | next hnone => cases (hsecond u).symm.trans hnone
      | aborts hnone => cases (hsecond u).symm.trans hnone
      | exhausts _ hforever => cases hforever
  · cases hturns with
    | ends hending => cases (hfirst (hmoved.awake hawake)).symm.trans hending
    | next _ hother => cases hgroup.symm.trans hother
    | exhausts _ hforever => cases hforever
    | aborts _ hsame =>
      cases hgroup.symm.trans hsame
      exact hrun

variable {e} {link : Link} {inner : Step} {level : Nat} {s : RunState σ}

/-- A step within its limit runs the one inside of it, and passes if that does. -/
theorem exists_run_body (hholds : e.Holds inner link) (hlimit : level ≤ (e.limitOf link).toNat)
    (hawake : s.isHalted = false) (label : String) (index : Option Nat) :
    ∃ s', s.Unmoved s' ∧
      (∀ results t, (e.group [inner] (label ++ "-") level (link.index index)).run s' = (.ok results, t) →
        ∃ a u, (e.body e.group (link.step inner) label level index).run s = (.ok a, u) ∧ u.calls = t.calls ∧
          a.passed = (StepResult.overall results == .success)) ∧
      ∀ c t, (e.group [inner] (label ++ "-") level (link.index index)).run s' = (.error c, t) →
        ∃ u, (e.body e.group (link.step inner) label level index).run s = (.error c, u) ∧ u.calls = t.calls := by
  have hdeeper : s.Unmoved { s with depth := s.depth + 1 } := (RunState.Unmoved.refl s).deeper _
  obtain ⟨-, hinner⟩ := hholds
  cases link with
  | caseRef head caseId =>
    obtain ⟨s', hmoved, hrun⟩ := e.exists_run_caseRef hinner hlimit (label ++ "-") index { s with depth := s.depth + 1 }
    refine ⟨s', hdeeper.trans hmoved, ?_⟩
    have hbody := Run.run_nested (e.caseRef e.group caseId (label ++ "-") level index) s
    rw [hrun] at hbody
    refine ⟨fun results t hgroup => ?_, fun c t hgroup => ?_⟩ <;>
      rw [show (e.group [inner] (label ++ "-") level index).run s' = _ from hgroup] at hbody
    · exact ⟨_, _, hbody, rfl, rfl⟩
    · exact ⟨_, hbody, rfl⟩
  | foreach head times =>
    obtain ⟨s', hmoved, hok, herror⟩ := e.exists_run_foreach (s := { s with depth := s.depth + 1 })
      (hinner s.scope index) hlimit hawake head inner (label ++ "-")
    have hbody := Run.run_nested (e.foreach e.group head times none [inner] (label ++ "-") level index) s
    refine ⟨s', hdeeper.trans hmoved, fun results t hgroup => ?_, fun c t hgroup => ?_⟩
    · obtain ⟨a, u, hrun, hquiet, hpassed⟩ := hok results t hgroup
      rw [hrun] at hbody
      exact ⟨a, _, hbody, hquiet.calls, hpassed⟩
    · rw [herror c t hgroup] at hbody
      exact ⟨_, hbody, rfl⟩

/-- A step beyond its limit is not entered. -/
theorem exists_run_body_beyond (hlimit : (e.limitOf link).toNat < level) (label : String) (index : Option Nat)
    (s : RunState σ) :
    ∃ t, (e.body e.group (link.step inner) label level index).run s =
      (.error (.tooDeep link.kind (e.limitOf link)), t) ∧ t.calls = s.calls := by
  have hcalls : ∀ kind limit, ({ s with depth := s.depth + 1 }.recorded (.overflowed kind limit)).calls = s.calls :=
    fun kind limit => RunState.calls_recorded rfl _
  cases link with
  | caseRef head caseId =>
    have hover : e.caseRef e.group caseId (label ++ "-") level index =
        Run.overflow .caseRef e.config.limits.caseRef := if_pos hlimit
    have hbody := Run.run_nested (e.caseRef e.group caseId (label ++ "-") level index) s
    rw [hover, Run.run_overflow] at hbody
    exact ⟨_, (congrArg (fun x => (Run.nested x).run s) hover).trans hbody, hcalls .caseRef _⟩
  | foreach head times =>
    have hover : e.foreach e.group head times none [inner] (label ++ "-") level index =
        Run.overflow .foreach e.config.limits.foreach := if_pos hlimit
    have hbody := Run.run_nested (e.foreach e.group head times none [inner] (label ++ "-") level index) s
    rw [hover, Run.run_overflow] at hbody
    exact ⟨_, (congrArg (fun x => (Run.nested x).run s) hover).trans hbody, hcalls .foreach _⟩

/-! ### Attempts that pass -/

/-- An attempt at an api step passes just if one does that starts with the same scope, environments and world, and then
it has made one request. -/
theorem exists_run_api_of_unmoved {head : StepHead} {p : ApiParams} {label : String} {index : Option Nat}
    {s s' t : RunState σ} {a : Attempt} (hmoved : s.Unmoved s') (hrun : (e.api head p label index).run s = (.ok a, t))
    (hpassed : a.passed = true) :
    ∃ a' t' request, (e.api head p label index).run s' = (.ok a', t') ∧ a'.passed = true ∧
      t'.calls.toList = s.calls.toList ++ [.http request] := by
  obtain ⟨u, hquiet, -, hopening⟩ := e.exists_run_opening head p label index s
  obtain ⟨u', hquiet', -, hopening'⟩ := e.exists_run_opening head p label index s'
  have hresolves : ∀ {parts}, e.Resolves p label index s parts → e.Resolves p label index s' parts := by
    rintro parts ⟨hvars, hmakes⟩
    rw [← hmoved.scope] at hvars hmakes
    rw [← hmoved.environments] at hmakes
    exact ⟨hvars, hmakes⟩
  rcases hopening with ⟨parts, hparts, hscope, hsent⟩ | ⟨-, fault, log, hfailed⟩
  · rcases hopening' with ⟨parts', hparts', hscope', hsent'⟩ | ⟨hnone, -⟩
    · obtain rfl := (hresolves hparts).unique hparts'
      obtain ⟨w, -, hkept, hexchange⟩ := e.exists_run_exchange head p label index parts u
      obtain ⟨w', hdealt, hkept', hexchange'⟩ := e.exists_run_exchange head p label index parts u'
      have hworld : u'.world = u.world := hquiet'.world.trans (hmoved.world.trans hquiet.world.symm)
      have hcalls : w'.calls.toList = s.calls.toList ++ [.http (e.requestOf head p parts)] := by
        rw [hdealt.calls, hquiet'.calls, hmoved.calls]
        rfl
      rw [← hsent, hrun] at hexchange
      rw [← hsent', hworld] at hexchange'
      rcases hanswer : e.answerTo head p parts u.world with _ | ⟨cause | response⟩ <;>
        rw [hanswer] at hexchange hexchange'
      · cases hexchange
      · cases hexchange
        cases hpassed
      · dsimp only at hexchange hexchange'
        rw [run_judge, hkept, hscope] at hexchange
        rw [run_judge, hkept', hscope'] at hexchange'
        by_cases hstatus : response.isSuccess = true
        · rw [if_pos hstatus] at hexchange hexchange'
          cases hexchange
          exact ⟨_, _, _, hexchange', hpassed, hcalls⟩
        · rw [if_neg hstatus] at hexchange
          cases hexchange
          cases hpassed
    · exact absurd (hresolves hparts) (hnone parts)
  · cases hrun.symm.trans hfailed
    cases hpassed

/-! ### Runs of chains -/

variable {links : List Link} {leaf : Step}

theorem stepLevel_step (link : Link) (inner : Step) (level : Nat) :
    stepLevel (link.step inner) level = level + 1 := by
  cases link <;> rfl

/-- Within all limits each step passes as the one inside of it does. -/
theorem exists_run_chain {head : StepHead} {p : ApiParams} (hchain : e.HoldsAll (.api head p) links) {labels : String}
    {index : Option Nat} {s₀ t₀ : RunState σ} {a₀ : Attempt} (hmoved : s₀.Unmoved s) (hawake : s₀.isHalted = false)
    (hrun : (e.api head p (Link.labels labels links ++ head.name) (Link.innermost index links)).run s₀ = (.ok a₀, t₀))
    (hpassed : a₀.passed = true)
    (hwithin : ∀ j link, links[j]? = some link → level + j + 1 ≤ (e.limitOf link).toNat) :
    ∃ r t request, (e.group [Link.chain (.api head p) links] labels level index).run s = (.ok [r], t) ∧
      r.status = .success ∧ t.calls.toList = s₀.calls.toList ++ [.http request] := by
  induction links generalizing level labels index s with
  | nil =>
    obtain ⟨s', hmoved', hgroup, -⟩ := e.run_group_plain hchain labels level index (hmoved.awake hawake)
    obtain ⟨a, t, request, hapi, ha, hcalls⟩ := exists_run_api_of_unmoved (hmoved.trans hmoved') hrun hpassed
    change (e.api head p (labels ++ head.name) index).run s' = (.ok a, t) at hapi
    have hattempt : (contained (labels ++ head.name) level (e.api head p (labels ++ head.name) index)).run s' =
        (.ok a, t) := by rw [run_contained, hapi]
    obtain ⟨r, u, hout, hsame, hstatus, -⟩ := hgroup a t hattempt
    refine ⟨r, u, request, hout, ?_, hsame ▸ hcalls⟩
    rw [hstatus, Attempt.status, if_pos ha]
  | cons link rest ih =>
    obtain ⟨hholds, hrest⟩ := hchain
    have hlimit : level + 1 ≤ (e.limitOf link).toNat := hwithin 0 link rfl
    have hdeeper : ∀ j link', rest[j]? = some link' → level + 1 + j + 1 ≤ (e.limitOf link').toNat := by
      intro j link' hlink
      have hle := hwithin (j + 1) link' hlink
      omega
    obtain ⟨s', hmoved', hgroup, -⟩ := e.run_group_plain hholds.1 labels level index (hmoved.awake hawake)
    obtain ⟨s'', hmoved'', hinner, -⟩ := exists_run_body hholds hlimit ((hmoved.trans hmoved').awake hawake)
      (labels ++ link.name) index
    obtain ⟨r, t, request, hout, hstatus, hcalls⟩ := ih hrest ((hmoved.trans hmoved').trans hmoved'') hrun hdeeper
    obtain ⟨a, u, hbody, hsame, ha⟩ := hinner [r] t hout
    rw [stepLevel_step, Link.head_step] at hgroup
    obtain ⟨r', v, hout', hsame', hstatus', -⟩ := hgroup a u (by rw [run_contained, hbody])
    have hpass : a.passed = true := by
      rw [ha]
      simp [StepResult.overall, StepResult.isFailed, hstatus]
    refine ⟨r', v, request, hout', ?_, ?_⟩
    · rw [hstatus', Attempt.status, if_pos hpass]
    · rw [hsame', hsame, hcalls]

theorem HoldsAll.isPlain (h : e.HoldsAll leaf (link :: links)) : (Link.chain leaf (link :: links)).IsPlain := h.1.1

/-- Where a step lies beyond its limit, that aborts the attempts around it. -/
theorem exists_run_body_chain (hchain : e.HoldsAll leaf (link :: links)) (hlevel : 0 < level)
    (hawake : s.isHalted = false) {j : Nat} {deep : Link} (hdeep : (link :: links)[j]? = some deep)
    (hbeyond : (e.limitOf deep).toNat < level + j)
    (hwithin : ∀ i < j, ∀ link', (link :: links)[i]? = some link' → level + i ≤ (e.limitOf link').toNat)
    (label : String) (index : Option Nat) :
    ∃ t, (e.body e.group (Link.chain leaf (link :: links)) label level index).run s =
      (.error (.tooDeep deep.kind (e.limitOf deep)), t) ∧ t.calls = s.calls := by
  induction j generalizing link links level label index s with
  | zero =>
    cases hdeep
    exact exists_run_body_beyond hbeyond label index s
  | succ j ih =>
    cases links with
    | nil => cases hdeep
    | cons next rest =>
      obtain ⟨hholds, hrest⟩ := hchain
      obtain ⟨s', hmoved, -, hbody⟩ := exists_run_body hholds (hwithin 0 (Nat.succ_pos j) link rfl) hawake label index
      obtain ⟨s'', hmoved', -, hgroup⟩ := e.run_group_plain hrest.isPlain (label ++ "-") level (link.index index)
        (hmoved.awake hawake)
      have hdeeper : ∀ i < j, ∀ link', (next :: rest)[i]? = some link' → level + 1 + i ≤ (e.limitOf link').toNat := by
        intro i hi link' hlink
        have hle := hwithin (i + 1) (Nat.succ_lt_succ hi) link' hlink
        omega
      obtain ⟨t, hinner, hcalls⟩ := ih hrest (Nat.succ_pos level) ((hmoved.trans hmoved').awake hawake) hdeep
        (by omega) hdeeper (label ++ "-" ++ next.name) (link.index index)
      have houter : ¬level + 1 ≤ 1 := by omega
      have hout := hgroup (.tooDeep deep.kind (e.limitOf deep)) t (by
        rw [Link.chain, stepLevel_step, Link.head_step, run_contained, ← Link.chain, hinner]
        exact if_neg houter)
      obtain ⟨u, hbody, hsame⟩ := hbody _ t hout
      exact ⟨u, hbody, hsame.trans (hcalls.trans (hmoved.trans hmoved').calls)⟩

/-- What a chain comes to at the outermost level.  It passes with one request just if no step is beyond its limit; else
it fails for the first that is, and makes no request. -/
structure Reaches (links : List Link) (leaf : Step) (labels : String) (index : Option Nat) (s : RunState σ) : Prop where
  passes : (∃ r t request, (e.group [Link.chain leaf links] labels 0 index).run s = (.ok [r], t) ∧
      r.status = .success ∧ t.calls.toList = s.calls.toList ++ [.http request]) ↔
    ∀ j link, links[j]? = some link → j + 1 ≤ (e.limitOf link).toNat
  fails : ∀ j link, links[j]? = some link → (e.limitOf link).toNat < j + 1 →
    (∀ i < j, ∀ link', links[i]? = some link' → i + 1 ≤ (e.limitOf link').toNat) →
    ∃ r t, (e.group [Link.chain leaf links] labels 0 index).run s = (.ok [r], t) ∧
      r.IsCascadeFailure link.kind (e.limitOf link) ∧ t.calls = s.calls

theorem exists_run_group_beyond (hchain : e.HoldsAll leaf links) (hawake : s.isHalted = false) (labels : String)
    (index : Option Nat) {j : Nat} {deep : Link} (hdeep : links[j]? = some deep)
    (hbeyond : (e.limitOf deep).toNat < j + 1)
    (hwithin : ∀ i < j, ∀ link', links[i]? = some link' → i + 1 ≤ (e.limitOf link').toNat) :
    ∃ r t, (e.group [Link.chain leaf links] labels 0 index).run s = (.ok [r], t) ∧
      r.IsCascadeFailure deep.kind (e.limitOf deep) ∧ t.calls = s.calls := by
  cases links with
  | nil => cases hdeep
  | cons link rest =>
    obtain ⟨s', hmoved, hgroup, -⟩ := e.run_group_plain hchain.isPlain labels 0 index hawake
    obtain ⟨t, hbody, hcalls⟩ := exists_run_body_chain hchain Nat.one_pos (hmoved.awake hawake) hdeep
      (by omega) (fun i hi link' hlink => Nat.add_comm i 1 ▸ hwithin i hi link' hlink) (labels ++ link.name) index
    obtain ⟨r, u, hout, hsame, hstatus, hkept⟩ := hgroup (.refused (cascadeMessage deep.kind (e.limitOf deep))) _ (by
      rw [Link.chain, stepLevel_step, Link.head_step, run_contained, ← Link.chain, hbody]
      exact if_pos (Nat.le_refl 1))
    obtain ⟨hmessage, houtput⟩ := hkept rfl
    exact ⟨r, u, hout, ⟨hstatus, hmessage, houtput⟩, hsame.trans (hcalls.trans hmoved.calls)⟩

/-- A chain around an api step of which an attempt would pass runs as deep as the limits of its steps allow. -/
theorem chains_end_at_their_limits (e : Engine σ) {links : List Link} {head : StepHead} {p : ApiParams}
    (hchain : e.HoldsAll (.api head p) links) {labels : String} {index : Option Nat} {s : RunState σ}
    (hawake : s.isHalted = false)
    (hpasses : ∃ a, ((e.api head p (Link.labels labels links ++ head.name) (Link.innermost index links)).run s).1 =
      .ok a ∧ a.status = .success) : e.Reaches links (.api head p) labels index s := by
  obtain ⟨a, hrun, hstatus⟩ := hpasses
  have hpassed : a.passed = true := by
    by_contra hfailed
    simp [Attempt.status, hfailed] at hstatus
  refine ⟨⟨?_, fun hwithin => ?_⟩, fun j link hlink hbeyond hwithin =>
    exists_run_group_beyond hchain hawake labels index hlink hbeyond hwithin⟩
  · rintro ⟨r, t, request, hout, hsuccess, -⟩
    -- Otherwise there is a first step beyond its limit, for which the chain fails.
    by_contra hnot
    have hbeyond : ∃ j link, links[j]? = some link ∧ (e.limitOf link).toNat < j + 1 := by
      simpa only [not_forall, Nat.not_le, exists_prop] using hnot
    obtain ⟨link, hlink, hlimit⟩ := Nat.find_spec hbeyond
    obtain ⟨r', t', hout', hcascade, -⟩ := exists_run_group_beyond hchain hawake labels index hlink hlimit
      fun i hi link' hlink' => by
        by_contra hover
        exact Nat.find_min hbeyond hi ⟨link', hlink', Nat.lt_of_not_le hover⟩
    cases hout.symm.trans hout'
    cases hsuccess.symm.trans hcascade.1
  · exact exists_run_chain hchain (.refl s) hawake (Prod.ext hrun rfl) hpassed fun j link hlink => by
      have hle := hwithin j link hlink
      omega

/-! ### A reference inside of a loop -/

/-- A case with the health check as its only step, to which references may not be nested. -/
def healthCaseEngine : Engine Unit :=
  { healthEngine with
    repository := .ofSuite { Suite.empty with cases := [⟨2, "health", some 1, [.api healthHead healthParams]⟩] }
    config := { RunConfig.default with limits := ⟨1, 15⟩ } }

def healthLoop : Link := .foreach ⟨3, "loop", 0, true, .default, none⟩ (.number (.ofInt64 1))

def healthReference : Link := .caseRef ⟨4, "check", 0, true, .default, none⟩ 2

/-- The reference is the second step of its chain and the first beyond its limit. -/
theorem nested_reference_ends_at_its_limit :
    let s : RunState Unit := .start .empty false ()
    let leaf : Step := .api healthHead healthParams
    s.isHalted = false ∧ healthCaseEngine.HoldsAll leaf [healthLoop, healthReference] ∧
      ∃ r t, (healthCaseEngine.group [Link.chain leaf [healthLoop, healthReference]] "" 0 none).run s = (.ok [r], t) ∧
        r.IsCascadeFailure .caseRef 1 ∧ t.calls = s.calls := by
  intro s leaf
  have hchain : healthCaseEngine.HoldsAll leaf [healthLoop, healthReference] :=
    ⟨⟨⟨rfl, rfl⟩, fun _ _ => rfl⟩, ⟨⟨rfl, rfl⟩, rfl⟩, rfl, rfl⟩
  have hpasses : ((healthCaseEngine.api healthHead healthParams
      (Link.labels "" [healthLoop, healthReference] ++ healthHead.name)
      (Link.innermost none [healthLoop, healthReference])).run s).1.toOption.map Attempt.status = some .success := by
    decide +kernel
  have hreaches : healthCaseEngine.Reaches [healthLoop, healthReference] leaf "" none s := by
    refine healthCaseEngine.chains_end_at_their_limits hchain rfl ?_
    rcases hrun : ((healthCaseEngine.api healthHead healthParams
      (Link.labels "" [healthLoop, healthReference] ++ healthHead.name)
      (Link.innermost none [healthLoop, healthReference])).run s).1 with c | a <;> rw [hrun] at hpasses
    · cases hpasses
    · exact ⟨a, rfl, Option.some.inj hpasses⟩
  have hlimit : healthCaseEngine.limitOf healthReference = 1 := rfl
  have hbeyond := hreaches.fails 1 healthReference rfl (by rw [hlimit]; decide) fun i hi link hlink => by
    obtain rfl := Nat.lt_one_iff.mp hi
    cases hlink
    decide
  rw [hlimit] at hbeyond
  exact ⟨rfl, hchain, hbeyond⟩

end Engine

end Casebook
