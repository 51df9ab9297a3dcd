import Casebook.Proofs.Run.Course

/-! What the engine does is a course, from one attempt up to the group of steps of a level. -/
namespace Casebook

namespace Run

variable {σ : Type} {limits : CascadeLimits} {base : Nat}

theorem latch_follows (halt : Halt) (level : NoticeLevel) (text : String) (s : RunState σ) :
    Follows limits base (latch halt level text) s := by
  unfold Follows
  rw [run_latch]
  cases h : s.isHalted with
  | true => exact .quiet (.refl s)
  | false => exact .append (.quiet (.noted _ s)) (.latch halt h)

end Run

namespace Engine

open Run (Silent Converses Follows)

variable {σ : Type} (e : Engine σ) {limits : CascadeLimits} {base : Nat}

/-! ### Reports -/

theorem noteOutcome_silent (r : StepResult) : Silent (noteOutcome r : Run σ Unit) := by
  unfold noteOutcome
  split <;> exact .note _ _

theorem noteDelay_silent (step : Step) (label : String) :
    Silent (noteDelay step label : Run σ Unit) := by
  unfold noteDelay
  split
  · exact .note _ _
  · exact .pure _

theorem haltAt_follows (r : StepResult) {halt : Run σ Unit} (h : ∀ s, Follows limits base halt s)
    (s : RunState σ) : Follows limits base (e.haltAt r halt) s := by
  unfold haltAt
  split
  · exact h s
  · exact .silent (.pure _) s

theorem settle_follows (r : StepResult) {halt : Run σ Unit} (h : ∀ s, Follows limits base halt s)
    (s : RunState σ) : Follows limits base (e.settle r halt) s := by
  unfold settle
  refine .bind (.report r) fun r t _ => .bind (e.haltAt_follows r h t) fun _ u _ => ?_
  exact .silent (.pure _) u

/-- A failure is reported and may halt the run; any other result is reported. -/
theorem run_settle (r : StepResult) (halt : Halt) (level : NoticeLevel) (text : String)
    (s : RunState σ) :
    (e.settle r (Run.latch halt level text)).run s = (.ok r,
      if r.isFailed = true ∧ e.options.failedStop = true ∧ s.isHalted = false then
        (((s.recorded (.reported r)).noted ⟨level, text⟩).latched halt).recorded (.latched halt)
      else s.recorded (.reported r)) := by
  unfold settle haltAt
  rw [Run.run_bind_of_ok (Run.run_report r s), Run.run_bind]
  by_cases hhalts : r.isFailed = true ∧ e.options.failedStop = true
  · have hboth : (r.isFailed && e.options.failedStop) = true := by
      rw [hhalts.1, hhalts.2, Bool.and_self]
    rw [if_pos hboth, Run.run_latch, RunState.isHalted_recorded]
    cases s.isHalted with
    | true => simp only [if_true, Bool.true_eq_false, and_false, if_false, Run.run_pure]
    | false => simp only [Bool.false_eq_true, if_false, hhalts, and_self, if_true, Run.run_pure]
  · have hboth : ¬(r.isFailed && e.options.failedStop) = true := by rwa [Bool.and_eq_true]
    rw [if_neg hboth, if_neg fun h => hhalts ⟨h.1, h.2.1⟩]
    rfl

theorem finish_follows (step : Step) (r : StepResult) (s : RunState σ) :
    Follows limits base (e.finish step r) s := by
  unfold finish
  refine .bind (.silent (noteOutcome_silent _) s) fun _ t _ => ?_
  exact e.settle_follows _ (Run.latch_follows _ _ _) t

theorem undecided_follows (step : Step) (label : String) (cause : ResolutionError)
    (s : RunState σ) : Follows limits base (e.undecided step label cause) s := by
  unfold undecided
  refine .bind (.silent (.note _ _) s) fun _ t _ => ?_
  exact e.settle_follows _ (Run.latch_follows _ _ _) t

/-! ### Attempts -/

theorem run_contained (label : String) (level : Nat) (x : Run σ Attempt) (s : RunState σ) :
    (contained label level x).run s = match x.run s with
      | (.error (.tooDeep kind limit), t) =>
        if level ≤ 1 then
          (.ok (.refused (cascadeMessage kind limit)),
            t.noted ⟨.error, "'" ++ label ++ "' exceeded the " ++ kind.nesting ++ " nesting limit"⟩)
        else (.error (.tooDeep kind limit), t)
      | r => r := by
  unfold contained
  rw [Run.run_tryCatch]
  rcases x.run s with ⟨(_ | _ | _ | _) | a, t⟩ <;> try rfl
  simp only
  split <;> rfl

theorem started_leaf_follows {label : String} {level : Nat} {x : Run σ Attempt}
    (hx : Converses Conversation x) (n : Nat) {s : RunState σ} (hs : s.isHalted = false) :
    Follows limits base (started label (contained label level x) n) s := by
  obtain ⟨calls, hcalls, hst, hend, -⟩ := hx (s.recorded (.attempted label n))
  have hrun : (contained label level x).run (s.recorded (.attempted label n)) =
      x.run (s.recorded (.attempted label n)) := by
    rw [run_contained]
    rcases h : x.run (s.recorded (.attempted label n)) with
      ⟨(_ | _ | _ | _) | a, t⟩ <;> rw [h] at hend <;>
      simp [Abort.of?] at hend ⊢
  unfold Follows started
  rw [Run.run_bind_of_ok (Run.run_record _ s), hrun]
  exact .attempt hs hst hcalls hend

theorem retrying_leaf_follows {label : String} {level : Nat} {x : Run σ Attempt}
    (hx : Converses Conversation x) (left n : Nat) {s : RunState σ} (hs : s.isHalted = false) :
    Follows limits base (retrying label (contained label level x) left n) s := by
  induction left generalizing n s with
  | zero => exact .bind (started_leaf_follows hx n hs) fun a t _ => .silent (.pure _) t
  | succ left ih =>
    refine .bind (started_leaf_follows hx n hs) fun a t _ => ?_
    split
    · exact .silent (.pure _) t
    · refine .read (Run.run_isHalted t) ?_
      cases ht : t.isHalted with
      | true => exact .silent (.pure _) t
      | false =>
        exact .bind (.silent (.note _ _) t) fun _ u hu => ih (n + 1) (by cases hu; exact ht)

/-- Nesting was too deep inside of the only attempt at an outermost step, and its failure is still
to be reported. -/
def Overflows (limits : CascadeLimits) (base : Nat) (x : Run σ (Attempt × Nat))
    (s : RunState σ) : Prop :=
  ∃ kind limit t u, s.depth = base ∧ Course limits base s (some (.tooDeep kind limit)) t ∧
    t.Quiet u ∧
    x.run s = (.ok (.refused (cascadeMessage kind limit), 0), u)

theorem retrying_nested_follows {label : String} {level : Nat} {x : Run σ Attempt} {s : RunState σ}
    (hx : Follows limits base x (s.recorded (.attempted label 0))) (hs : s.isHalted = false)
    (hlevel : level ≤ 1 → s.depth = base) :
    Follows limits base (retrying label (contained label level x) 0 0) s ∨
      Overflows limits base (retrying label (contained label level x) 0 0) s := by
  have hstart : Course limits base s none (s.recorded (.attempted label 0)) :=
    .attempt hs (.quiet (.refl _)) .silent (.inl rfl)
  have hrun : (started label (contained label level x) 0).run s =
      (contained label level x).run (s.recorded (.attempted label 0)) :=
        Run.run_bind_of_ok (Run.run_record _ s) _
  unfold Follows at hx
  rw [run_contained] at hrun
  rcases h : x.run (s.recorded (.attempted label 0)) with ⟨c | a, t⟩
  · rw [h] at hx hrun
    by_cases hdeep : ∃ kind limit, c = .tooDeep kind limit ∧ level ≤ 1
    · obtain ⟨kind, limit, rfl, hle⟩ := hdeep
      simp only [hle, if_true] at hrun
      refine .inr ⟨kind, limit, t, _, hlevel hle, .append hstart hx, ?_, Run.run_bind_of_ok hrun _⟩
      exact .noted _ t
    · left
      have hrun : (started label (contained label level x) 0).run s = (.error c, t) := by
        rw [hrun]
        cases c with
        | tooDeep kind limit =>
          simp only [show ¬level ≤ 1 from fun hle => hdeep ⟨kind, limit, rfl, hle⟩, if_false]
        | _ => rfl
      unfold Follows retrying
      rw [Run.run_bind_of_error hrun]
      exact .append hstart hx
  · left
    rw [h] at hx hrun
    unfold Follows retrying
    rw [Run.run_bind_of_ok hrun]
    exact .append hstart hx

theorem isSuppressed_failed (step : Step) (r : StepResult) (h : r.status = .failed) :
    isSuppressed step r = false := by
  simp [isSuppressed, h]

theorem finish_contained_follows (step : Step) {s t u : RunState σ} {kind : StepKind}
    {limit : UInt32} {r : StepResult} (hbase : s.depth = base)
    (hover : Course limits base s (some (.tooDeep kind limit)) t) (htu : t.Quiet u)
    (hr : r.IsCascadeFailure kind limit) :
    Course limits base s (Abort.of? ((e.finish step r).run u).1) ((e.finish step r).run u).2 := by
  unfold finish
  rw [isSuppressed_failed step r hr.1, Bool.and_false]
  simp only [Bool.false_eq_true, if_false]
  obtain ⟨_, v, hnote, huv, -⟩ := noteOutcome_silent r u
  rw [Run.run_bind_of_ok hnote]
  unfold settle
  rw [Run.run_bind_of_ok (Run.run_report r v)]
  refine .append (.contain hbase hover (htu.trans huv) hr) ?_
  refine Follows.bind (e.haltAt_follows r (Run.latch_follows _ _ _) _) fun _ w _ => ?_
  exact .silent (.pure _) w

/-- An attempted step is reported, also where nesting was too deep inside of it. -/
theorem attempts_follows {nest : Nest σ} {step : Step} {label : String} {level : Nat}
    {index : Option Nat} {s : RunState σ}
    (h : ∀ t, s.Quiet t →
      Follows limits base
        (retrying label (contained label level (e.body nest step label level index))
          (step.maxAttempts - 1) 0) t ∨
      Overflows limits base
        (retrying label (contained label level (e.body nest step label level index))
          (step.maxAttempts - 1) 0) t) :
    Follows limits base (e.attempts nest step label level index) s := by
  unfold attempts
  obtain ⟨a, t, hdelay, hst, -⟩ := noteDelay_silent step label s
  unfold Follows
  rw [Run.run_bind_of_ok hdelay]
  refine .append (.quiet hst) ?_
  rcases h t hst with htry | ⟨kind, limit, u, v, hbase, hover, huv, hrun⟩
  · exact Follows.bind htry fun r u _ => e.finish_follows _ _ u
  · rw [Run.run_bind_of_ok hrun]
    exact e.finish_contained_follows step hbase hover huv ⟨rfl, rfl, rfl⟩

/-! ### Nested steps -/

/-- What `nest` does at a level is a course. -/
def NestFollows (limits : CascadeLimits) (base : Nat) (nest : Nest σ) (level : Nat) : Prop :=
  ∀ steps labels index s, s.depth = base + level →
    Follows limits base (nest steps labels level index) s

theorem overflow_follows {α : Type} {level : Nat} (kind : StepKind) {s : RunState σ}
    (hs : s.isHalted = false) (hdepth : s.depth = base + level)
    (hlimit : (limits.of kind).toNat < level) :
    Follows limits base (Run.overflow kind (limits.of kind) : Run σ α) s := by
  unfold Follows
  rw [Run.run_overflow]
  refine .overflow hs ?_
  rw [hdepth]
  exact Nat.add_lt_add_left hlimit base

theorem caseRef_follows {nest : Nest σ} {level : Nat}
    (hnest : level ≤ e.config.limits.deepest → NestFollows e.config.limits base nest level)
    (caseId : CaseId) (labels : String) (index : Option Nat) {s : RunState σ}
    (hs : s.isHalted = false) (hdepth : s.depth = base + level) :
    Follows e.config.limits base (e.caseRef nest caseId labels level index) s := by
  unfold caseRef
  simp only
  split
  case isTrue hlimit => exact overflow_follows .caseRef hs hdepth hlimit
  case isFalse hlimit =>
    have hle : level ≤ (e.config.limits.of .caseRef).toNat := Nat.le_of_not_lt hlimit
    split
    · exact .silent (.pure _) s
    · refine .bind (.silent (.note _ _) s) fun _ t ht => ?_
      cases ht
      refine .bind (.enter hs hdepth hle) fun _ t ht => ?_
      cases ht
      refine .bind (hnest (Nat.le_trans hle (e.config.limits.of_le_deepest _)) _ _ _ _ hdepth)
        fun results t _ => ?_
      exact .silent (.pure _) t

theorem turn_silent (name : String) (breakCondition : Option String) (iteration : Nat) :
    Silent (e.turn name breakCondition iteration) := by
  unfold turn
  refine .bind .isHalted fun halted => ?_
  split
  · exact .pure _
  · split
    · exact .pure _
    · refine .bind .scope fun scope => ?_
      split
      · exact .pure _
      · exact .bind (.note _ _) fun _ => .pure _
      · exact .bind (.note _ _) fun _ => .pure _

theorem run_turn (name : String) (breakCondition : Option String) (iteration : Nat)
    (s : RunState σ) :
    ∃ turn t, (e.turn name breakCondition iteration).run s = (.ok turn, t) ∧ s.Quiet t ∧
      (turn = .go → s.isHalted = false) := by
  obtain ⟨turn, t, hrun, hst, -⟩ := e.turn_silent name breakCondition iteration s
  refine ⟨turn, t, hrun, hst, fun hgo => ?_⟩
  cases hs : s.isHalted with
  | false => rfl
  | true =>
    unfold Engine.turn at hrun
    rw [Run.run_bind_of_ok (Run.run_isHalted s), hs, hgo] at hrun
    cases hrun

/-- A part of a run follows a course, which for a loop without bound may end where the patience of
the engine does. -/
def Outlasts {α : Type} (limits : CascadeLimits) (base : Nat) (bounded : Bool) (x : Run σ α)
    (s : RunState σ) : Prop :=
  Follows limits base x s ∨
    bounded = false ∧ ∃ t, x.run s = (.error .exhausted, t) ∧ Course limits base s none t

theorem Outlasts.bind {α β : Type} {bounded : Bool} {x : Run σ α} {k : α → Run σ β} {s : RunState σ}
    (hx : Outlasts limits base bounded x s)
    (hk : ∀ a t, x.run s = (.ok a, t) → Outlasts limits base bounded (k a) t) :
    Outlasts limits base bounded (x >>= k) s := by
  rcases hx with hx | ⟨hb, t, hxs, hst⟩
  · rcases h : x.run s with ⟨c | a, t⟩
    · exact .inl (.bind hx fun a t hxs => by rw [h] at hxs; cases hxs)
    · have hst : Course limits base s none t := by
        unfold Follows at hx
        rw [h] at hx
        exact hx
      rcases hk a t h with hk | ⟨hb, u, hku, htu⟩
      · exact .inl (.bind hx fun b u hxs => by rw [h] at hxs; cases hxs; exact hk)
      · have hbind : (x >>= k).run s = (.error .exhausted, u) := by
          rw [Run.run_bind_of_ok h, hku]
        exact .inr ⟨hb, u, hbind, hst.append htu⟩
  · exact .inr ⟨hb, t, Run.run_bind_of_error hxs k, hst⟩

theorem iterate_outlasts {name : String} {breakCondition : Option String}
    {body : Nat → Run σ (List StepResult)} {bounded : Bool} {depth : Nat}
    (hbody : ∀ i s, s.depth = depth → Follows limits base (body i) s) (left iteration : Nat)
    {s : RunState σ} (hdepth : s.depth = depth) :
    Outlasts limits base bounded
      (iterate (e.turn name breakCondition) body bounded left iteration) s := by
  induction left generalizing iteration s with
  | zero =>
    unfold iterate
    cases bounded with
    | true => exact .inl (.silent (.pure _) s)
    | false => exact .inr ⟨rfl, s, rfl, .quiet (.refl s)⟩
  | succ left ih =>
    unfold iterate
    obtain ⟨turn, t, hturn, hst, hgo⟩ := e.run_turn name breakCondition iteration s
    have hfollows : Follows limits base (e.turn name breakCondition iteration) s := by
      unfold Follows
      rw [hturn]
      exact .quiet hst
    refine .bind (.inl hfollows) fun turn' t' ht' => ?_
    rw [hturn] at ht'
    cases ht'
    cases turn with
    | stop => exact .inl (.silent (.pure _) t)
    | broken cause => exact .inl (.silent (.pure _) t)
    | go =>
      have ht : t.isHalted = false := hst.isHalted.trans (hgo rfl)
      refine .bind (.inl (.iterate iteration ht)) fun _ u hu => ?_
      cases hu
      have hbody := hbody iteration (t.recorded (.iterated iteration)) (hst.depth.trans hdepth)
      refine .bind (.inl hbody) fun results u hu => ?_
      have hdepth : u.depth = depth := by
        unfold Follows at hbody
        rw [hu] at hbody
        exact hbody.depth_eq.trans (hst.depth.trans hdepth)
      refine .bind (ih (iteration + 1) hdepth) fun rest v _ => ?_
      exact .inl (.silent (.pure _) v)

theorem loop_outlasts {nest : Nest σ} {level : Nat}
    (hnest : NestFollows e.config.limits base nest level) (h : StepHead)
    (breakCondition : Option String) (bound : LoopBound) (steps : List Step) (labels : String)
    {s : RunState σ} (hs : s.isHalted = false) (hdepth : s.depth = base + level)
    (hle : level ≤ (e.config.limits.of .foreach).toNat) :
    Outlasts e.config.limits base (bound != .forever)
      (e.loop nest h breakCondition bound steps labels level) s := by
  unfold loop
  refine .bind (.inl (.silent (.note _ _) s)) fun _ t ht => ?_
  cases ht
  refine .bind (.inl (.enter hs hdepth hle)) fun _ t ht => ?_
  cases ht
  refine .bind (e.iterate_outlasts (fun i s hs => hnest _ _ _ _ hs) _ _ hdepth) fun r t _ => ?_
  exact .inl (.silent (.pure _) t)

theorem foreach_follows {nest : Nest σ} {level : Nat}
    (hnest : level ≤ e.config.limits.deepest → NestFollows e.config.limits base nest level)
    (h : StepHead) (times : Json.Value) (breakCondition : Option String) (own : List Step)
    (labels : String) (index : Option Nat) {s : RunState σ} (hs : s.isHalted = false)
    (hdepth : s.depth = base + level) :
    Follows e.config.limits base
      (e.foreach nest h times breakCondition own labels level index) s := by
  unfold foreach
  simp only
  split
  case isTrue hlimit => exact overflow_follows .foreach hs hdepth hlimit
  case isFalse hlimit =>
    have hle : level ≤ (e.config.limits.of .foreach).toNat := Nat.le_of_not_lt hlimit
    have hnest := hnest (Nat.le_trans hle (e.config.limits.of_le_deepest _))
    refine .read (Run.run_scope s) ?_
    split
    · exact .silent (.pure _) s
    · rename_i bound _
      unfold Follows
      rw [Run.run_bind_of_ok (Run.run_record _ s)]
      split
      · exact .bound bound hs
      · rename_i steps _
        have hloop := e.loop_outlasts hnest h breakCondition bound steps labels
          (s := s.recorded (.bounded bound)) hs hdepth hle
        rcases hloop with hloop | ⟨hbound, t, hrun, hst⟩
        · exact .append (.bound bound hs) hloop
        · have hforever : bound = .forever := by simpa using hbound
          subst hforever
          rw [hrun]
          exact .exhaust hst hs

/-! ### Steps and groups -/

/-- The level of a step in a group of a level. -/
def stepLevel (step : Step) (level : Nat) : Nat := if step.kind.isNested then level + 1 else level

theorem nested_follows {level : Nat} {x : Run σ Attempt}
    (hx : ∀ t, t.isHalted = false → t.depth = base + (level + 1) → Follows limits base x t)
    (hlevel : level ≤ limits.deepest) {s : RunState σ} (hs : s.isHalted = false)
    (hdepth : s.depth = base + level) : Follows limits base (Run.nested x) s := by
  unfold Follows
  rw [Run.run_nested]
  have hlimit : s.depth ≤ base + limits.deepest := by omega
  refine .nest hlimit (hx _ hs ?_)
  show s.depth + 1 = base + (level + 1)
  rw [hdepth, Nat.add_assoc]

theorem attempts_step_follows {nest : Nest σ} {level : Nat}
    (hlevel : level ≤ e.config.limits.deepest)
    (hnest : level < e.config.limits.deepest → NestFollows e.config.limits base nest (level + 1))
    (step : Step) (label : String) (index : Option Nat) {s : RunState σ} (hs : s.isHalted = false)
    (hdepth : s.depth = base + level) :
    Follows e.config.limits base (e.attempts nest step label (stepLevel step level) index) s := by
  refine e.attempts_follows fun t hst => ?_
  have ht : t.isHalted = false := hst.isHalted.trans hs
  have htdepth : t.depth = base + level := hst.depth.trans hdepth
  have houtermost : level + 1 ≤ 1 → t.depth = base := by
    intro h
    rw [htdepth, Nat.le_zero.mp (Nat.le_of_succ_le_succ h), Nat.add_zero]
  cases step with
  | api h p => exact .inl (retrying_leaf_follows (e.api_converses h p label index) _ 0 ht)
  | sql h p => exact .inl (retrying_leaf_follows (e.sql_converses p label index) _ 0 ht)
  | caseRef h c =>
    refine retrying_nested_follows (nested_follows (fun u hu hudepth => ?_) hlevel ht htdepth) ht
      houtermost
    exact e.caseRef_follows hnest c _ index hu hudepth
  | foreach h times breakCondition own =>
    refine retrying_nested_follows (nested_follows (fun u hu hudepth => ?_) hlevel ht htdepth) ht
      houtermost
    exact e.foreach_follows hnest h times breakCondition own _ index hu hudepth

theorem executeWith_follows {nest : Nest σ} {level : Nat} (hlevel : level ≤ e.config.limits.deepest)
    (hnest : level < e.config.limits.deepest → NestFollows e.config.limits base nest (level + 1))
    (step : Step) (labels : String) (index : Option Nat) {s : RunState σ} (hs : s.isHalted = false)
    (hdepth : s.depth = base + level) :
    Follows e.config.limits base
      (e.executeWith nest step labels (stepLevel step level) index) s := by
  have hattempts :=
    e.attempts_step_follows hlevel hnest step (labels ++ step.head.name) index hs hdepth
  unfold executeWith
  refine .read (Run.run_isHalted s) ?_
  rw [hs]
  simp only [Bool.false_eq_true, if_false]
  split
  · exact hattempts
  · refine .read (Run.run_scope s) ?_
    split
    · exact hattempts
    · exact .bind (.silent (.note _ _) s) fun _ t _ => e.finish_follows step _ t
    · exact e.undecided_follows step _ _ s

theorem isPassedOver_interrupted (step : Step) (label : String) :
    (interrupted step label).IsPassedOver := by
  unfold interrupted
  split <;> exact ⟨.inl rfl, rfl⟩

theorem stepId_interrupted (step : Step) (label : String) :
    (interrupted step label).stepId = step.id := by
  unfold interrupted
  split <;> rfl

theorem label_interrupted (step : Step) (label : String) :
    (interrupted step label).label = label := by
  unfold interrupted
  split <;> rfl

/-- In a halted run a step is only reported. -/
theorem run_executeWith_halted (nest : Nest σ) (step : Step) (labels : String) (level : Nat)
    (index : Option Nat) {s : RunState σ} (hs : s.isHalted = true) :
    ∃ t, s.Quiet t ∧ (e.executeWith nest step labels level index).run s =
      (.ok (interrupted step (labels ++ step.head.name)),
        t.recorded (.reported (interrupted step (labels ++ step.head.name)))) := by
  unfold executeWith
  rw [Run.run_bind_of_ok (Run.run_isHalted s)]
  simp only [hs, if_true]
  exact ⟨_, .noted _ s, rfl⟩

theorem member_follows {nest : Nest σ} {level : Nat} (hlevel : level ≤ e.config.limits.deepest)
    (hnest : level < e.config.limits.deepest → NestFollows e.config.limits base nest (level + 1))
    (labels : String) (index : Option Nat) (step : Step) {s : RunState σ}
    (hdepth : s.depth = base + level) :
    Follows e.config.limits base (e.member nest labels level index step) s := by
  unfold member Follows
  rw [Run.run_bind_of_ok (Run.run_record _ s)]
  split
  · cases hs : s.isHalted with
    | false =>
      refine .append (.reach step.id (labels ++ step.head.name) hs) ?_
      exact e.executeWith_follows hlevel hnest step labels index (s := s.recorded _) hs hdepth
    | true =>
      obtain ⟨t, hst, hrun⟩ :=
        e.run_executeWith_halted nest step labels (stepLevel step level) index
        (s := s.recorded (.reached step.id (labels ++ step.head.name))) hs
      unfold stepLevel at hrun
      rw [hrun]
      exact .pass hst (stepId_interrupted step _) (label_interrupted step _)
        (isPassedOver_interrupted step _)
  · exact .pass (.refl _) rfl rfl ⟨.inr rfl, rfl⟩

theorem groupWith_follows {nest : Nest σ} {level : Nat} (hlevel : level ≤ e.config.limits.deepest)
    (hnest : level < e.config.limits.deepest → NestFollows e.config.limits base nest (level + 1)) :
    NestFollows e.config.limits base (e.groupWith nest) level := by
  intro steps labels index s hdepth
  unfold groupWith
  generalize Step.inOrder steps = members
  induction members generalizing s with
  | nil => exact .silent (.pure _) s
  | cons step members ih =>
    rw [List.mapM_cons]
    have hmember := e.member_follows hlevel hnest labels index step hdepth
    refine .bind hmember fun r t ht => ?_
    have hdepth : t.depth = base + level := by
      unfold Follows at hmember
      rw [ht] at hmember
      exact hmember.depth_eq.trans hdepth
    exact .bind (ih t hdepth) fun rs u _ => .silent (.pure _) u

/-- What holds of how two engines run the groups of a level, where it holds of how they run the groups one level deeper
that may be entered, holds of how they run the groups of every level. -/
theorem group_induct_levels {e e' : Engine σ} (hdeepest : e.deepest = e'.deepest)
    {motive : Nat → (List Step → String → Option Nat → Run σ (List StepResult)) →
      (List Step → String → Option Nat → Run σ (List StepResult)) → Prop}
    (step : ∀ nest nest' level,
      (level < e.deepest → motive (level + 1) (fun steps labels index => nest steps labels (level + 1) index)
        fun steps labels index => nest' steps labels (level + 1) index) →
      motive level (fun steps labels index => e.groupWith nest steps labels level index)
        fun steps labels index => e'.groupWith nest' steps labels level index)
    (level : Nat) :
    motive level (fun steps labels index => e.group steps labels level index)
      fun steps labels index => e'.group steps labels level index := by
  have hwithin : ∀ room level, e.deepest - level = room →
      motive level (fun steps labels index => e.groupWithin room steps labels level index)
        fun steps labels index => e'.groupWithin room steps labels level index := by
    intro room
    induction room with
    | zero =>
      intro level hroom
      exact step _ _ level fun hlt => absurd (Nat.sub_pos_of_lt hlt) (by omega)
    | succ room ih =>
      intro level hroom
      exact step _ _ level fun hlt => ih (level + 1) (by omega)
  unfold group
  rw [← hdeepest]
  exact hwithin _ level rfl

/-- What holds of the groups of a level in two engines, where it holds of the groups one level
deeper that may be entered, holds of the groups of every level. -/
theorem group_induct₂ {e e' : Engine σ} (hdeepest : e.deepest = e'.deepest)
    {motive : Nat → List Step → String → Option Nat → Run σ (List StepResult) →
      Run σ (List StepResult) → Prop}
    (step : ∀ nest nest' level,
      (level < e.deepest → ∀ steps labels index,
        motive (level + 1) steps labels index (nest steps labels (level + 1) index)
          (nest' steps labels (level + 1) index)) →
      ∀ steps labels index, motive level steps labels index
        (e.groupWith nest steps labels level index) (e'.groupWith nest' steps labels level index))
    (level : Nat) (steps : List Step) (labels : String) (index : Option Nat) :
    motive level steps labels index (e.group steps labels level index)
      (e'.group steps labels level index) :=
  group_induct_levels hdeepest
    (motive := fun level x x' => ∀ steps labels index,
      motive level steps labels index (x steps labels index) (x' steps labels index))
    step level steps labels index

theorem group_induct
    {motive : Nat → List Step → String → Option Nat → Run σ (List StepResult) → Prop}
    (step : ∀ nest level,
      (level < e.deepest → ∀ steps labels index,
        motive (level + 1) steps labels index (nest steps labels (level + 1) index)) →
      ∀ steps labels index,
        motive level steps labels index (e.groupWith nest steps labels level index))
    (level : Nat) (steps : List Step) (labels : String) (index : Option Nat) :
    motive level steps labels index (e.group steps labels level index) := by
  have hrefl : e.deepest = e.deepest := rfl
  refine group_induct₂ hrefl
    (motive := fun level steps labels index x _ => motive level steps labels index x) ?_
    level steps labels index
  exact fun nest _ level ih => step nest level ih

theorem group_follows {level : Nat} (hlevel : level ≤ e.deepest) :
    NestFollows e.config.limits base e.group level := by
  intro steps labels index
  refine e.group_induct
    (motive := fun level _ _ _ x => level ≤ e.deepest → ∀ s, s.depth = base + level →
      Follows e.config.limits base x s)
    (fun nest level ih steps labels index hlevel => ?_) level steps labels index hlevel
  exact e.groupWith_follows hlevel (fun hlt steps labels index => ih hlt steps labels index hlt)
    steps labels index

/-! ### Cases -/

/-- The report on a case from the results of its steps and the state they leave. -/
def reportOf (info : CaseInfo) (results : List StepResult) (s : RunState σ) : CaseReport :=
  ⟨info.id, info.name, if s.isHalted then s.status else StepResult.overall results, e.options.envId,
    0.0, results⟩

/-- A case that is not found leaves the run as it was. -/
theorem run_runCase_missing {caseId : CaseId} {cause : RepositoryError}
    (h : e.repository.caseInfo caseId = .error cause ∨
      (∃ info, e.repository.caseInfo caseId = .ok info) ∧ e.repository.steps caseId = .error cause)
    (s : RunState σ) : (e.runCase caseId).run s = (.error (.repository cause), s) := by
  unfold runCase
  rcases h with h | ⟨⟨info, hinfo⟩, hsteps⟩
  · rw [h]
    rfl
  · rw [hinfo, hsteps]
    rfl

/-- A case that is found runs the group of its steps between two notes. -/
theorem run_runCase_found {caseId : CaseId} {info : CaseInfo} {steps : List Step}
    (hinfo : e.repository.caseInfo caseId = .ok info)
    (hsteps : e.repository.steps caseId = .ok steps) (s : RunState σ) :
    ∃ s', s.Quiet s' ∧
      ((∃ results t u, (e.group steps "" 0 none).run s' = (.ok results, t) ∧ t.Quiet u ∧
          (e.runCase caseId).run s = (.ok (e.reportOf info results t), u)) ∨
        ∃ c t, (e.group steps "" 0 none).run s' = (.error c, t) ∧
          (e.runCase caseId).run s = (.error c, t)) := by
  refine ⟨_, .noted
    ⟨.info, "Running case " ++ (toString info.id ++ " '" ++ info.name ++ "'") ++ " (" ++
    toString steps.length ++ " steps)"⟩ s, ?_⟩
  unfold runCase
  rw [hinfo, hsteps]
  rw [Run.run_bind_of_ok
    (show (runCase.liftExcept (.ok info) : Run σ CaseInfo).run s = (.ok info, s) from rfl),
    Run.run_bind_of_ok
      (show (runCase.liftExcept (.ok steps) : Run σ (List Step)).run s = (.ok steps, s) from rfl)]
  simp only
  rw [Run.run_bind_of_ok (Run.run_note _ _ s)]
  rcases h : (e.group steps "" 0 none).run _ with ⟨c | results, t⟩
  · exact .inr ⟨c, t, rfl, Run.run_bind_of_error h _⟩
  · refine .inl ⟨results, t, _, rfl, ?_, Run.run_bind_of_ok h _⟩
    exact .noted _ t

/-- A case is not found and the run stays as it was, or what follows is a course. -/
theorem runCase_follows (caseId : CaseId) (s : RunState σ) :
    (∃ cause, (e.runCase caseId).run s = (.error (.repository cause), s)) ∨
      Follows e.config.limits s.depth (e.runCase caseId) s := by
  cases hinfo : e.repository.caseInfo caseId with
  | error cause => exact .inl ⟨cause, e.run_runCase_missing (.inl hinfo) s⟩
  | ok info =>
    cases hsteps : e.repository.steps caseId with
    | error cause => exact .inl ⟨cause, e.run_runCase_missing (.inr ⟨⟨info, hinfo⟩, hsteps⟩) s⟩
    | ok steps =>
      right
      obtain ⟨s', hquiet, hrun⟩ := e.run_runCase_found hinfo hsteps s
      have hnest : NestFollows e.config.limits s.depth e.group 0 := e.group_follows (Nat.zero_le _)
      have hgroup := hnest steps "" none s' hquiet.depth
      unfold Follows at hgroup ⊢
      rcases hrun with ⟨results, t, u, hrun, htu, hcase⟩ | ⟨c, t, hrun, hcase⟩
      · rw [hrun] at hgroup
        rw [hcase]
        exact .append (.quiet hquiet) (.append hgroup (.quiet htu))
      · rw [hrun] at hgroup
        rw [hcase]
        exact .append (.quiet hquiet) hgroup

end Engine

end Casebook
