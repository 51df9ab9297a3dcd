import Casebook.Proofs.Resolve.LoopCounts
import Casebook.Proofs.Run.Halting
import Casebook.Proofs.Run.Recursion

/-! The turns of a loop.  Its bound is found once, before it starts.  Before each iteration the loop ends if the bound
is reached, if the run is halted, or if the break condition holds or has no answer in the scope that the iteration
before left; otherwise the iteration runs the steps of the loop. -/
namespace Casebook

namespace RunState

variable {σ : Type}

/-- Between two states nothing was called, and nothing changed that an attempt goes by. -/
structure Unmoved (s t : RunState σ) : Prop where
  latch : t.latch = s.latch
  tripped : t.tripped = s.tripped
  environments : t.environments = s.environments
  scope : t.scope = s.scope
  world : t.world = s.world
  calls : t.calls = s.calls

namespace Unmoved

variable {s t u : RunState σ}

theorem refl (s : RunState σ) : s.Unmoved s := ⟨rfl, rfl, rfl, rfl, rfl, rfl⟩

theorem trans (h : s.Unmoved t) (k : t.Unmoved u) : s.Unmoved u :=
  ⟨k.latch.trans h.latch, k.tripped.trans h.tripped, k.environments.trans h.environments, k.scope.trans h.scope,
    k.world.trans h.world, k.calls.trans h.calls⟩

theorem recorded (h : s.Unmoved t) {event : Event} (hcall : event.call? = none) : s.Unmoved (t.recorded event) :=
  ⟨h.latch, h.tripped, h.environments, h.scope, h.world, (calls_recorded hcall t).trans h.calls⟩

theorem noted (h : s.Unmoved t) (n : Notice) : s.Unmoved (t.noted n) :=
  ⟨h.latch, h.tripped, h.environments, h.scope, h.world, h.calls⟩

theorem deeper (h : s.Unmoved t) (depth : Nat) : s.Unmoved { t with depth } :=
  ⟨h.latch, h.tripped, h.environments, h.scope, h.world, h.calls⟩

theorem awake (h : s.Unmoved t) (hs : s.isHalted = false) : t.isHalted = false := by
  simpa only [RunState.isHalted, RunState.status, h.latch, h.tripped] using hs

end Unmoved

end RunState

/-! ### Bounds -/

/-- A loop that counts runs 999 times at most, or over the items of a list that a template comes to, and over 100000 of
them at most. -/
theorem LoopBound.of_resolve_times {ev : Evaluator} {times : Json.Value} {scope : Scope} {index : Option Nat} {n : Nat}
    (h : resolve ev times scope index = .ok (.times n)) :
    n ≤ 999 ∨ n ≤ 100000 ∧ ∃ text items, times = .string text ∧ isTemplated (Text.trim text) = true ∧
      ev.renderValue (Text.trim text) scope index = .ok (.array items) ∧ n = min items.length 100000 := by
  refine (exists_items_of_resolve h).imp_right ?_
  rintro ⟨text, items, htext, hcomes, rfl⟩
  exact ⟨Nat.min_le_right _ _, text, items, htext, hcomes.templated, hcomes.value, rfl⟩

/-! ### Iterations -/

/-- What ends a loop. -/
inductive LoopEnd where
  | counted
  | halted
  /-- The break condition holds. -/
  | met
  /-- The break condition has no answer. -/
  | broken (cause : ResolutionError)

namespace LoopEnd

def fault? : LoopEnd → Option ResolutionError
  | .broken cause => some cause
  | _ => none

/-- How the look before an iteration shows it. -/
def turn (ending : LoopEnd) : Engine.Turn := ending.fault?.elim .stop .broken

/-- The attempt at a loop that ended so after some iterations. -/
def attempt (iterations : List IterationResult) (ending : LoopEnd) : Attempt where
  passed := ending.fault?.isNone && iterations.all fun i => i.status == .success
  message := ending.fault?.map fun cause => "[Foreach] break condition failed: " ++ cause.message
  output := some (.foreach iterations)

end LoopEnd

namespace Engine

variable {σ : Type} (e : Engine σ) (bound : LoopBound) (breakCondition : Option String)

/-- What ends a loop before an iteration, if anything does: its bound comes first, then whether the run is halted, and
its break condition last. -/
def loopEnd? (iteration : Nat) (s : RunState σ) : Option LoopEnd :=
  if bound.allows iteration = false then some .counted
  else if s.isHalted = true then some .halted
  else breakCondition.bind fun condition =>
    match e.ev.condition condition s.scope (some iteration) with
    | .ok false => none
    | .ok true => some .met
    | .error cause => some (.broken cause)

/-- The iterations of a loop from one on, and what ends it or aborts the run in one of them.  Each iteration starts from
the state that the one before left. -/
inductive Turns (steps : List Step) (labels : String) (level : Nat) :
    Nat → RunState σ → List IterationResult → Except Abort LoopEnd → RunState σ → Prop where
  | ends {iteration : Nat} {s t : RunState σ} {ending : LoopEnd} :
    e.loopEnd? bound breakCondition iteration s = some ending → s.Quiet t → t.scope = s.scope →
    Turns steps labels level iteration s [] (.ok ending) t
  | next {iteration : Nat} {s t u : RunState σ} {results : List StepResult} {rest : List IterationResult}
      {outcome : Except Abort LoopEnd} :
    e.loopEnd? bound breakCondition iteration s = none →
    (e.group steps labels level (some iteration)).run (s.recorded (.iterated iteration)) = (.ok results, t) →
    Turns steps labels level (iteration + 1) t rest outcome u →
    Turns steps labels level iteration s
      (.mk (UInt64.ofNat iteration) (StepResult.overall results) results :: rest) outcome u
  | aborts {iteration : Nat} {s t : RunState σ} {c : Abort} :
    e.loopEnd? bound breakCondition iteration s = none →
    (e.group steps labels level (some iteration)).run (s.recorded (.iterated iteration)) = (.error c, t) →
    Turns steps labels level iteration s [] (.error c) t
  /-- A loop without bound outlasts the patience of the engine. -/
  | exhausts {iteration : Nat} (s : RunState σ) : bound = .forever → iteration = e.patience →
    Turns steps labels level iteration s [] (.error .exhausted) s

variable {e bound breakCondition} {steps : List Step} {labels : String} {level : Nat}

namespace Turns

variable {iteration : Nat} {s t : RunState σ} {iterations : List IterationResult} {outcome : Except Abort LoopEnd}

/-- Iterations are counted up by one. -/
theorem indices (h : e.Turns bound breakCondition steps labels level iteration s iterations outcome t) :
    iterations.map IterationResult.index = (List.range' iteration iterations.length).map UInt64.ofNat := by
  induction h with
  | ends | aborts | exhausts => rfl
  | next _ _ _ ih =>
    rw [List.map_cons, ih, List.length_cons, List.range'_succ, List.map_cons]
    rfl

theorem allows_of_none {j : Nat} {u : RunState σ} (h : e.loopEnd? bound breakCondition j u = none) :
    bound.allows j = true := by
  unfold loopEnd? at h
  split at h
  · cases h
  case isFalse hallows => exact Bool.not_eq_false _ ▸ hallows

/-- No iteration is beyond the bound. -/
theorem length_le {n : Nat} (h : e.Turns (.times n) breakCondition steps labels level iteration s iterations outcome t)
    (hn : iteration ≤ n) : iteration + iterations.length ≤ n := by
  induction h with
  | ends => exact hn
  | aborts => exact hn
  | exhausts _ hforever => cases hforever
  | next hnone _ _ ih =>
    have hlt : _ < n := of_decide_eq_true (allows_of_none hnone)
    have hle := ih hlt
    rw [List.length_cons]
    omega

end Turns

/-- The look before an iteration that the bound allows; it goes on from the state that it found. -/
theorem exists_run_turn {iteration : Nat} (hallows : bound.allows iteration = true) (name : String) (s : RunState σ) :
    ∃ t, (e.turn name breakCondition iteration).run s =
        (.ok ((e.loopEnd? bound breakCondition iteration s).elim .go LoopEnd.turn), t) ∧
      s.Quiet t ∧ t.scope = s.scope ∧ (e.loopEnd? bound breakCondition iteration s = none → t = s) := by
  unfold loopEnd? turn
  rw [hallows, if_neg (by decide), Run.run_bind_of_ok (Run.run_isHalted s)]
  cases hhalted : s.isHalted with
  | true => exact ⟨s, rfl, .refl s, rfl, fun _ => rfl⟩
  | false =>
    rw [if_neg Bool.false_ne_true, if_neg Bool.false_ne_true]
    cases breakCondition with
    | none => exact ⟨s, rfl, .refl s, rfl, fun _ => rfl⟩
    | some condition =>
      dsimp only [Option.bind_some]
      rw [Run.run_bind_of_ok (Run.run_scope s)]
      cases e.ev.condition condition s.scope (some iteration) with
      | error cause => exact ⟨_, rfl, .noted _ s, rfl, nofun⟩
      | ok met =>
        cases met with
        | true => exact ⟨_, rfl, .noted _ s, rfl, nofun⟩
        | false => exact ⟨s, rfl, .refl s, rfl, fun _ => rfl⟩

/-- A loop takes its turns. -/
theorem exists_run_iterate (breakCondition : Option String) (steps : List Step) (labels : String) (level : Nat)
    (name : String) {left iteration : Nat} (hleft : iteration + left = e.allowance bound) (s : RunState σ) :
    ∃ iterations outcome t, e.Turns bound breakCondition steps labels level iteration s iterations outcome t ∧
      (iterate (e.turn name breakCondition) (fun i => e.group steps labels level (some i)) (bound != .forever) left
        iteration).run s = (outcome.map fun ending => (iterations, ending.fault?), t) := by
  -- The induction is on the iterations that the bound leaves.
  induction left generalizing iteration s with
  | zero =>
    cases bound with
    | forever =>
      exact ⟨[], .error .exhausted, s, .exhausts s rfl hleft, rfl⟩
    | times n =>
      obtain rfl : iteration = n := hleft
      have hcounted : e.loopEnd? (.times iteration) breakCondition iteration s = some .counted :=
        if_pos (decide_eq_false (Nat.lt_irrefl iteration))
      exact ⟨[], .ok .counted, s, .ends hcounted (.refl s) rfl, rfl⟩
  | succ left ih =>
    have hallows : bound.allows iteration = true := by
      cases bound with
      | forever => rfl
      | times n =>
        have hlt : iteration < n := by
          simp only [allowance] at hleft
          omega
        exact decide_eq_true hlt
    obtain ⟨t, hturn, hquiet, hscope, hsame⟩ := exists_run_turn hallows name s
    unfold iterate
    rw [Run.run_bind_of_ok hturn]
    cases hending : e.loopEnd? bound breakCondition iteration s with
    | some ending =>
      refine ⟨[], .ok ending, t, .ends hending hquiet hscope, ?_⟩
      cases ending <;> rfl
    | none =>
      obtain rfl := hsame hending
      dsimp only [Option.elim_none]
      rw [Run.run_bind_of_ok (Run.run_record _ _)]
      rcases hbody : (e.group steps labels level (some iteration)).run (t.recorded (.iterated iteration)) with
        ⟨c | results, u⟩
      · exact ⟨[], .error c, u, .aborts hending hbody, Run.run_bind_of_error hbody _⟩
      · have hnext : iteration + 1 + left = e.allowance bound := by omega
        obtain ⟨rest, outcome, v, hrest, hrun⟩ := ih hnext u
        refine ⟨_, outcome, v, .next hending hbody hrest, ?_⟩
        rw [Run.run_bind_of_ok hbody, Run.run_bind, hrun]
        cases outcome <;> rfl

/-- A loop within its limit, with a bound and a body, takes its turns from where it was started. -/
theorem exists_run_foreach_turns (breakCondition : Option String) (labels : String) {times : Json.Value}
    {own : List Step} {index : Option Nat} {head : StepHead} {s : RunState σ}
    (hlimit : level ≤ e.config.limits.foreach.toNat)
    (hbound : LoopBound.resolve e.ev times s.scope index = .ok bound) (hbody : e.loopBody head.id own = .ok steps) :
    ∃ s' iterations outcome t, s.Unmoved s' ∧
      e.Turns bound breakCondition steps labels level 0 s' iterations outcome t ∧
      (e.foreach e.group head times breakCondition own labels level index).run s =
        (outcome.map (LoopEnd.attempt iterations), t) := by
  have hmoved : s.Unmoved (((s.recorded (.bounded bound)).noted ⟨.debug, "Foreach '" ++ head.name ++ "' runs " ++
      bound.text ++ " over " ++ toString steps.length ++ " steps"⟩).recorded (.entered .foreach level)) :=
    (((RunState.Unmoved.refl s).recorded rfl).noted _).recorded rfl
  obtain ⟨iterations, outcome, t, hturns, hrun⟩ :=
    exists_run_iterate breakCondition steps labels level head.name (Nat.zero_add (e.allowance bound)) _
  refine ⟨_, iterations, outcome, t, hmoved, hturns, ?_⟩
  rw [foreach, if_neg (Nat.not_lt.mpr hlimit), Run.run_bind_of_ok (Run.run_scope s), hbound]
  dsimp only
  rw [Run.run_bind_of_ok (Run.run_record _ s), hbody]
  dsimp only
  unfold loop
  rw [Run.run_bind_of_ok (Run.run_note _ _ _), Run.run_bind_of_ok (Run.run_record _ _), Run.run_bind, hrun]
  cases outcome <;> rfl

end Engine

end Casebook
