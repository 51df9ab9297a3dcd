import Casebook.Proofs.Run.FailedStop

/-! A run that stops at the first failure fails along a single chain.  Whatever encloses a failure
may fail with it, and all that comes later, at whatever depth, is passed over. -/
namespace Casebook

/-! ### Results in order -/

/-- No result failed, at any depth. -/
def Calm (results : List StepResult) : Prop :=
  ∀ path r, resultAt results path = some r → r.isFailed = false

/-- What comes after a failed result, at any depth, was passed over. -/
def Tidy (results : List StepResult) : Prop :=
  ∀ p q r r', resultAt results p = some r → r.isFailed = true → Precedes p q →
    resultAt results q = some r' →
    r'.IsPassedOver

/-- Results of a part of a run between two moments, halted or not at either. -/
structure Orderly (first : Bool) (results : List StepResult) (last : Bool) : Prop where
  tidy : Tidy results
  calm : last = false → Calm results
  idle : first = true → last = true ∧ ∀ r ∈ results, r.IsPassedOver

theorem StepResult.IsPassedOver.isFailed {r : StepResult} (h : r.IsPassedOver) :
    r.isFailed = false := by
  unfold StepResult.isFailed
  rcases h.1 with h | h <;> rw [h] <;> decide

/-- There is nothing inside of results that were passed over. -/
theorem mem_of_resultAt {results : List StepResult} (h : ∀ r ∈ results, r.IsPassedOver)
    {path : List Nat} {r : StepResult} (hr : resultAt results path = some r) : r ∈ results := by
  rcases path with _ | ⟨k, _ | ⟨l, path⟩⟩
  · cases hr
  · exact List.mem_of_getElem? hr
  · obtain ⟨r', hk, hr⟩ := Option.bind_eq_some_iff.mp hr
    have hinner : r'.inner = [] := StepResult.inner_of_output (h r' (List.mem_of_getElem? hk)).2
    rw [hinner, resultAt_nil] at hr
    cases hr

theorem resultAt_singleton {r r' : StepResult} {k : Nat} {path : List Nat}
    (h : resultAt [r] (k :: path) = some r') :
    path = [] ∧ r' = r ∨ resultAt r.inner path = some r' := by
  have hk : ∀ a, [r][k]? = some a → a = r :=
    fun a ha => List.mem_singleton.mp (List.mem_of_getElem? ha)
  cases path with
  | nil => exact .inl ⟨rfl, hk r' h⟩
  | cons l path =>
    obtain ⟨a, ha, hr'⟩ := Option.bind_eq_some_iff.mp h
    rw [hk a ha] at hr'
    exact .inr hr'

namespace Calm

variable {as bs : List StepResult}

theorem append (ha : Calm as) (hb : Calm bs) : Calm (as ++ bs) := by
  intro path r hr
  cases path with
  | nil => cases hr
  | cons k path =>
    by_cases hk : k < as.length
    · rw [resultAt_append_left hk] at hr
      exact ha _ r hr
    · rw [resultAt_append_right (Nat.le_of_not_lt hk)] at hr
      exact hb _ r hr

theorem ofPassedOver (h : ∀ r ∈ as, r.IsPassedOver) : Calm as :=
  fun _ r hr => (h r (mem_of_resultAt h hr)).isFailed

/-- A result that did not fail, and none inside of it did. -/
theorem enclosed {r : StepResult} (hr : r.isFailed = false) (h : Calm r.inner) : Calm [r] := by
  intro path r' hr'
  cases path with
  | nil => cases hr'
  | cons k path =>
    rcases resultAt_singleton hr' with ⟨-, rfl⟩ | hr'
    · exact hr
    · exact h path r' hr'

end Calm

namespace Tidy

variable {as bs : List StepResult}

theorem ofCalm (h : Calm as) : Tidy as := by
  intro p q r r' hr hfailed
  rw [h p r hr] at hfailed
  cases hfailed

/-- What follows results of which one failed must be passed over. -/
theorem append (ha : Tidy as) (hb : Tidy bs) (h : Calm as ∨ ∀ r ∈ bs, r.IsPassedOver) :
    Tidy (as ++ bs) := by
  intro p q r r' hr hfailed hpq hr'
  rcases p with _ | ⟨i, p⟩
  · cases hr
  rcases q with _ | ⟨j, q⟩
  · cases hr'
  by_cases hi : i < as.length
  · rw [resultAt_append_left hi] at hr
    by_cases hj : j < as.length
    · rw [resultAt_append_left hj] at hr'
      exact ha _ _ r r' hr hfailed hpq hr'
    · rw [resultAt_append_right (Nat.le_of_not_lt hj)] at hr'
      rcases h with hcalm | hpassed
      · rw [hcalm _ r hr] at hfailed
        cases hfailed
      · exact hpassed r' (mem_of_resultAt hpassed hr')
  · have hj : as.length ≤ j := by
      rcases hpq with hij | ⟨rfl, -⟩ <;> omega
    rw [resultAt_append_right (Nat.le_of_not_lt hi)] at hr
    rw [resultAt_append_right hj] at hr'
    have hshift : Precedes ((i - as.length) :: p) ((j - as.length) :: q) := by
      rcases hpq with hij | ⟨rfl, hpq⟩
      · exact .inl (by omega)
      · exact .inr ⟨rfl, hpq⟩
    exact hb _ _ r r' hr hfailed hshift hr'

/-- A result, whatever it is, comes after no other one. -/
theorem enclosed {r : StepResult} (h : Tidy r.inner) : Tidy [r] := by
  intro p q a b ha hfailed hpq hb
  rcases p with _ | ⟨i, p⟩
  · cases ha
  rcases q with _ | ⟨j, q⟩
  · cases hb
  have hinside : Precedes p q := by
    rcases hpq with hij | ⟨-, hpq⟩
    · have hj : [r][j]? = none :=
        List.getElem?_eq_none (Nat.succ_le_of_lt (Nat.lt_of_le_of_lt (Nat.zero_le i) hij))
      cases q <;> simp [resultAt, hj] at hb
    · exact hpq
  rcases resultAt_singleton ha with ⟨rfl, -⟩ | ha
  · cases hinside
  rcases resultAt_singleton hb with ⟨rfl, -⟩ | hb
  · cases p <;> cases hinside
  exact h p q a b ha hfailed hinside hb

end Tidy

namespace Orderly

variable {first mid last : Bool} {as bs : List StepResult}

theorem nil (h : first = true → last = true) : Orderly first [] last where
  tidy := .ofCalm (.ofPassedOver (by simp))
  calm _ := .ofPassedOver (by simp)
  idle hfirst := ⟨h hfirst, by simp⟩

theorem append (ha : Orderly first as mid) (hb : Orderly mid bs last) :
    Orderly first (as ++ bs) last where
  tidy := by
    refine ha.tidy.append hb.tidy ?_
    cases mid with
    | false => exact .inl (ha.calm rfl)
    | true => exact .inr (hb.idle rfl).2
  calm hlast := by
    cases mid with
    | false => exact (ha.calm rfl).append (hb.calm hlast)
    | true =>
      rw [(hb.idle rfl).1] at hlast
      cases hlast
  idle hfirst := by
    obtain ⟨hmid, has⟩ := ha.idle hfirst
    obtain ⟨hlast, hbs⟩ := hb.idle hmid
    exact ⟨hlast, fun r hr => (List.mem_append.mp hr).elim (has r) (hbs r)⟩

theorem passedOver {r : StepResult} (hr : r.IsPassedOver) (h : first = true → last = true) :
    Orderly first [r] last := by
  have hall : ∀ r' ∈ [r], r'.IsPassedOver := by
    intro r' hr'
    rw [List.mem_singleton.mp hr']
    exact hr
  exact ⟨.ofCalm (.ofPassedOver hall), fun _ => .ofPassedOver hall, fun hfirst => ⟨h hfirst, hall⟩⟩

/-- A step that was started halts the run if it failed, or if it was halted from inside. -/
theorem enclosed {r : StepResult} (h : Orderly false r.inner mid)
    (hr : r.isFailed = true → last = true) (hlast : mid = true → last = true) :
    Orderly false [r] last where
  tidy := .enclosed h.tidy
  calm hfalse := by
    subst hfalse
    exact .enclosed (Bool.eq_false_iff.mpr fun hfailed => Bool.false_ne_true (hr hfailed))
      (h.calm (Bool.eq_false_iff.mpr fun hmid => Bool.false_ne_true (hlast hmid)))
  idle := nofun

theorem weaken (h : Orderly first as last) : Orderly false as last := ⟨h.tidy, h.calm, nofun⟩

end Orderly

namespace Run

variable {σ α β γ : Type}

/-- Where a part of a run comes to an end, the results in what it comes to are in order. -/
def Orders (first : Bool) (f : α → List StepResult) (x : Run σ α) (s : RunState σ) : Prop :=
  ∀ a t, x.run s = (.ok a, t) → Orderly first (f a) t.isHalted

namespace Orders

variable {first : Bool} {f : α → List StepResult} {g : β → List StepResult}
  {h : γ → List StepResult} {s : RunState σ}

theorem pure {a : α} (ha : Orderly first (f a) s.isHalted) :
    Orders first f (Pure.pure a : Run σ α) s := by
  intro b t hrun
  cases hrun
  exact ha

theorem error {x : Run σ α} {c : Abort} (hx : (x.run s).1 = .error c) : Orders first f x s := by
  intro a t hrun
  rw [hrun] at hx
  cases hx

theorem leaf {x : Run σ α} (hx : Returns (f · = []) x) (s : RunState σ) : Orders false f x s := by
  intro a t hrun
  have ha : f a = [] := hx s a t hrun
  rw [ha]
  exact .nil nofun

theorem bind {x : Run σ α} {k : α → Run σ β} (hx : Orders first f x s)
    (hk : ∀ a t, Orderly first (f a) t.isHalted → Orders first g (k a) t) :
    Orders first g (x >>= k) s := by
  intro b u hrun
  obtain ⟨a, t, hst, htu⟩ := exists_of_run_bind hrun
  exact hk a t (hx a t hst) b u htu

theorem silently {x : Run σ α} {k : α → Run σ β} (hx : Silent x)
    (hk : ∀ a t, s.Quiet t → Orders first g (k a) t) : Orders first g (x >>= k) s := by
  intro b u hrun
  obtain ⟨a, t, hst, hquiet, -⟩ := hx s
  rw [run_bind_of_ok hst] at hrun
  exact hk a t hquiet b u hrun

/-- What is read off a state does not change it. -/
theorem read {x : Run σ α} {k : α → Run σ β} {a : α} (hx : x.run s = (.ok a, s))
    (hk : Orders first g (k a) s) : Orders first g (x >>= k) s := by
  intro b u hrun
  rw [run_bind_of_ok hx] at hrun
  exact hk b u hrun

theorem record {event : Event} {x : Run σ α} (hx : Orders first f x (s.recorded event)) :
    Orders first f (Run.record event >>= fun _ => x) s := hx

/-- The results of one part of a run, and then those of another. -/
theorem append {x : Run σ α} {y : Run σ β} {join : α → β → γ} (hx : Orders first f x s)
    (hy : ∀ t, Orders t.isHalted g y t) (hjoin : ∀ a b, h (join a b) = f a ++ g b) :
    Orders first h (x >>= fun a => y >>= fun b => Pure.pure (join a b)) s := by
  intro c u hrun
  obtain ⟨a, t, hst, hrest⟩ := exists_of_run_bind hrun
  obtain ⟨b, v, htv, hend⟩ := exists_of_run_bind hrest
  cases hend
  rw [hjoin]
  exact (hx a t hst).append (hy t b u htv)

theorem nested {x : Run σ α} (hx : Orders first f x { s with depth := s.depth + 1 }) :
    Orders first f (Run.nested x) s := by
  intro a t hrun
  rw [run_nested] at hrun
  rcases hinside : x.run { s with depth := s.depth + 1 } with ⟨result, u⟩
  rw [hinside] at hrun
  obtain ⟨rfl, rfl⟩ := Prod.mk.inj hrun
  exact hx a u hinside

theorem contained {x : Run σ Attempt} (label : String) (level : Nat)
    (hx : Orders false Attempt.inner x s) :
    Orders false Attempt.inner (Engine.contained label level x) s := by
  intro a t hrun
  rw [Engine.run_contained] at hrun
  split at hrun
  · split at hrun
    · cases hrun
      exact .nil nofun
    · cases hrun
  · exact hx a t hrun

theorem retrying {x : Run σ Attempt} (hx : ∀ s, Orders false Attempt.inner x s) (label : String)
    (left n : Nat) (s : RunState σ) :
    Orders false (fun p => p.1.inner) (Engine.retrying label x left n) s := by
  have hstarted : ∀ n s, Orders false Attempt.inner (Engine.started label x n) s :=
    fun n s => .record (hx _)
  induction left generalizing n s with
  | zero => exact .bind (hstarted n s) fun a t ha => .pure ha
  | succ left ih =>
    refine .bind (hstarted n s) fun a t ha => ?_
    split
    · exact .pure ha
    · refine .read (run_isHalted t) ?_
      split
      · exact .pure ha
      · exact .silently (.note _ _) fun _ u _ => ih (n + 1) u

end Orders

end Run

namespace Engine

open Run (Orders)

variable {σ : Type} {e : Engine σ}

/-! ### Steps -/

/-- A failure that is settled leaves the run halted. -/
theorem settle_orders (hstop : e.options.failedStop = true) {r : StepResult} (halt : Halt)
    (level : NoticeLevel) (text : String) {s : RunState σ} (h : Orderly false r.inner s.isHalted) :
    Orders false (fun r => [r]) (e.settle r (Run.latch halt level text)) s := by
  intro a t hrun
  rw [run_settle] at hrun
  cases hrun
  split
  case isTrue =>
    have hhalted := RunState.isHalted_latched halt ((s.recorded (.reported r)).noted ⟨level, text⟩)
    exact h.enclosed (fun _ => hhalted) fun _ => hhalted
  case isFalse hends =>
    refine h.enclosed (fun hfailed => ?_) id
    exact Bool.of_not_eq_false fun hs => hends ⟨hfailed, hstop, hs⟩

theorem finish_orders (hstop : e.options.failedStop = true) (step : Step) {r : StepResult}
    {s : RunState σ} (h : Orderly false r.inner s.isHalted) :
    Orders false (fun r => [r]) (e.finish step r) s := by
  unfold finish
  refine .silently (noteOutcome_silent _) fun _ t hquiet => settle_orders hstop _ _ _ ?_
  rw [hquiet.isHalted]
  split
  · cases r
    exact .nil nofun
  · exact h

/-! ### Nested steps -/

/-- The results of the steps of a level are in order. -/
def NestOrders (nest : Nest σ) (level : Nat) : Prop :=
  ∀ steps labels index s, Orders s.isHalted id (nest steps labels level index) s

variable {nest : Nest σ} {level : Nat}

theorem NestOrders.awake (h : NestOrders nest level) (steps : List Step) (labels : String)
    (index : Option Nat) (s : RunState σ) : Orders false id (nest steps labels level index) s :=
  fun results t hrun => (h steps labels index s results t hrun).weaken

theorem caseRef_orders (hnest : level ≤ e.deepest → NestOrders nest level) (caseId : CaseId)
    (labels : String) (index : Option Nat) (s : RunState σ) :
    Orders false Attempt.inner (e.caseRef nest caseId labels level index) s := by
  unfold caseRef
  simp only
  split
  case isTrue => exact .error (by rw [Run.run_overflow])
  case isFalse hlimit =>
    have hle : level ≤ e.deepest := Nat.le_trans (Nat.le_of_not_lt hlimit) (Nat.le_max_left _ _)
    split
    · exact .pure (.nil nofun)
    · refine .silently (.note _ _) fun _ t _ => .record ?_
      exact .bind ((hnest hle).awake _ _ _ _) fun results u h => .pure h

theorem iterate_orders {name : String} {breakCondition : Option String}
    {body : Nat → Run σ (List StepResult)} (hbody : ∀ i s, Orders s.isHalted id (body i) s)
    (bounded : Bool) (left iteration : Nat) (s : RunState σ) :
    Orders s.isHalted (fun p => p.1.flatMap IterationResult.steps)
      (iterate (e.turn name breakCondition) body bounded left iteration) s := by
  induction left generalizing iteration s with
  | zero =>
    unfold iterate
    split
    · exact .pure (.nil id)
    · exact .error rfl
  | succ left ih =>
    unfold iterate
    refine .silently (e.turn_silent name breakCondition iteration) fun turn t hquiet => ?_
    rw [← hquiet.isHalted]
    cases turn with
    | stop => exact .pure (.nil id)
    | broken cause => exact .pure (.nil id)
    | go =>
      exact .record (.append (hbody iteration _) (ih (iteration + 1)) fun results rest =>
        List.flatMap_cons)

theorem foreach_orders (hnest : level ≤ e.deepest → NestOrders nest level) (h : StepHead)
    (times : Json.Value) (breakCondition : Option String) (own : List Step) (labels : String)
    (index : Option Nat) (s : RunState σ) :
    Orders false Attempt.inner
      (e.foreach nest h times breakCondition own labels level index) s := by
  unfold foreach
  simp only
  split
  case isTrue => exact .error (by rw [Run.run_overflow])
  case isFalse hlimit =>
    have hle : level ≤ e.deepest := Nat.le_trans (Nat.le_of_not_lt hlimit) (Nat.le_max_right _ _)
    refine .silently .scope fun scope t _ => ?_
    split
    · exact .pure (.nil nofun)
    · refine .record ?_
      split
      · exact .pure (.nil nofun)
      · unfold loop
        refine .silently (.note _ _) fun _ u _ => .record ?_
        refine .bind (f := fun p => p.1.flatMap IterationResult.steps) ?_ fun p v hp => .pure hp
        intro p v hrun
        exact (iterate_orders (fun i s => hnest hle _ _ _ s) _ _ _ _ p v hrun).weaken

/-! ### Groups -/

theorem body_orders (hnest : level < e.deepest → NestOrders nest (level + 1)) (step : Step)
    (label : String) (index : Option Nat) (s : RunState σ) :
    Orders false Attempt.inner (e.body nest step label (stepLevel step level) index) s := by
  cases step with
  | api head p => exact .leaf (e.api_leaf head p label index) s
  | sql head p => exact .leaf (e.sql_leaf p label index) s
  | caseRef head caseId => exact .nested (caseRef_orders hnest caseId _ index _)
  | foreach head times breakCondition own =>
    exact .nested (foreach_orders hnest head times breakCondition own _ index _)

theorem attempts_orders (hstop : e.options.failedStop = true)
    (hnest : level < e.deepest → NestOrders nest (level + 1)) (step : Step) (label : String)
    (index : Option Nat) (s : RunState σ) :
    Orders false (fun r => [r]) (e.attempts nest step label (stepLevel step level) index) s := by
  unfold attempts
  refine .silently (noteDelay_silent step label) fun _ t _ => ?_
  have hcontained :=
    fun s => Orders.contained label (stepLevel step level) (body_orders hnest step label index s)
  exact .bind (.retrying hcontained label _ 0 t) fun p u hp => finish_orders hstop step hp

theorem executeWith_orders (hstop : e.options.failedStop = true)
    (hnest : level < e.deepest → NestOrders nest (level + 1)) (step : Step) (labels : String)
    (index : Option Nat) (s : RunState σ) :
    Orders s.isHalted (fun r => [r])
      (e.executeWith nest step labels (stepLevel step level) index) s := by
  cases hs : s.isHalted with
  | true =>
    obtain ⟨t, hquiet, hrun⟩ :=
      e.run_executeWith_halted nest step labels (stepLevel step level) index hs
    intro r u hu
    rw [hrun] at hu
    cases hu
    exact .passedOver (isPassedOver_interrupted step _) fun _ => hquiet.isHalted.trans hs
  | false =>
    have hattempts := attempts_orders hstop hnest step (labels ++ step.head.name) index
    unfold executeWith
    refine .read (Run.run_isHalted s) ?_
    rw [hs]
    simp only [Bool.false_eq_true, if_false]
    split
    · exact hattempts s
    · refine .silently .scope fun scope t _ => ?_
      split
      · exact hattempts t
      · exact .silently (.note _ _) fun _ u _ => finish_orders hstop step (.nil nofun)
      · exact .silently (.note _ _) fun _ u _ => settle_orders hstop _ _ _ (.nil nofun)

theorem member_orders (hstop : e.options.failedStop = true)
    (hnest : level < e.deepest → NestOrders nest (level + 1)) (labels : String) (index : Option Nat)
    (step : Step) (s : RunState σ) :
    Orders s.isHalted (fun r => [r]) (e.member nest labels level index step) s := by
  unfold member
  refine .record ?_
  split
  · exact executeWith_orders hstop hnest step labels index (s.recorded _)
  · intro r t hrun
    cases hrun
    exact .passedOver ⟨.inr rfl, rfl⟩ id

theorem groupWith_orders (hstop : e.options.failedStop = true)
    (hnest : level < e.deepest → NestOrders nest (level + 1)) :
    NestOrders (e.groupWith nest) level := by
  intro steps labels index s
  unfold groupWith
  generalize Step.inOrder steps = members
  induction members generalizing s with
  | nil => exact .pure (.nil id)
  | cons step members ih =>
    rw [List.mapM_cons]
    exact .append (member_orders hstop hnest labels index step s) ih fun r results => rfl

theorem group_orders (hstop : e.options.failedStop = true) (level : Nat) :
    NestOrders e.group level := by
  intro steps labels index
  refine e.group_induct (motive := fun level _ _ _ x => ∀ s, Orders s.isHalted id x s) ?_ level
    steps labels index
  exact fun nest level ih steps labels index s => groupWith_orders hstop ih steps labels index s

theorem tidy_steps (hstop : e.options.failedStop = true) {caseId : CaseId} {s t : RunState σ}
    {report : CaseReport} (h : (e.runCase caseId).run s = (.ok report, t)) : Tidy report.steps := by
  unfold runCase at h
  obtain ⟨info, u, -, h⟩ := Run.exists_of_run_bind h
  obtain ⟨steps, v, -, h⟩ := Run.exists_of_run_bind h
  obtain ⟨_, w, -, h⟩ := Run.exists_of_run_bind h
  obtain ⟨results, x, hgroup, h⟩ := Run.exists_of_run_bind h
  cases h
  exact (group_orders hstop 0 steps "" none w results x hgroup).tidy

end Engine

/-! ### Runs of cases -/

/-- What the run of a case that stops at the first failure has to do with the one that goes on, from
the same state. -/
structure CutShort (s : RunState σ)
    (stopped going : Except Abort CaseReport × RunState σ) : Prop where
  /-- The run that stops makes the first of the calls, and reports the same up to the first failure;
  without one it is the same run. -/
  journals : ∃ as bs, s.Adds as stopped.2 ∧ s.Adds bs going.2 ∧ callsIn as <+: callsIn bs ∧
    uptoFailure (reportsIn as) = uptoFailure (reportsIn bs) ∧
      (¬HasFailure (reportsIn as) → going = stopped)
  /-- Of two failures one encloses the other. -/
  chain : ∀ report, stopped.1 = .ok report → ∀ p q r r', resultAt report.steps p = some r →
    r.isFailed = true →
    resultAt report.steps q = some r' → r'.isFailed = true → p <+: q ∨ q <+: p
  /-- What comes after a failure and does not enclose it is passed over. -/
  rest : ∀ report, stopped.1 = .ok report → ∀ p q r r', resultAt report.steps p = some r →
    r.isFailed = true →
    Precedes p q → resultAt report.steps q = some r' → r'.status = .skip ∨ r'.status = .disabled

namespace Engine

variable (e : Engine σ)

/-- Stopping at the first failure does nothing but cut a run short. -/
theorem failed_stop_cuts_short (caseId : CaseId) (s : RunState σ) :
    CutShort s (((e.stopping true).runCase caseId).run s)
      (((e.stopping false).runCase caseId).run s) := by
  have htidy : ∀ report, (((e.stopping true).runCase caseId).run s).1 = .ok report →
      Tidy report.steps :=
    fun report h => tidy_steps (e := e.stopping true) rfl (Prod.ext h rfl)
  refine ⟨?_, fun report h p q r r' hr hfailed hr' hfailed' => ?_,
    fun report h p q r r' hr hfailed hpq hr' => ?_⟩
  · rcases (e.runCase_cuts caseId).together s nofun with ⟨heq, -, as, hst, hfailure⟩ | hparted
    · have hsame : ((e.stopping false).runCase caseId).run s =
          ((e.stopping true).runCase caseId).run s := by
        rw [heq]
        rcases ((e.stopping true).runCase caseId).run s with ⟨c | report, t⟩ <;> rfl
      rw [hsame]
      exact ⟨as, as, hst, hst, List.prefix_refl _, rfl, fun _ => rfl⟩
    · obtain ⟨as, bs, hst, hsu, hcalls, hfailure, hreports⟩ := hparted.entries
      exact ⟨as, bs, hst, hsu, hcalls, hreports, fun hnone => absurd hfailure hnone⟩
  · rcases prefix_or_precedes p q with hpq | hqp | hpq | hqp
    · exact .inl hpq
    · exact .inr hqp
    · have hpassed := htidy report h p q r r' hr hfailed hpq hr'
      rw [hpassed.isFailed] at hfailed'
      cases hfailed'
    · have hpassed := htidy report h q p r' r hr' hfailed' hqp hr
      rw [hpassed.isFailed] at hfailed
      cases hfailed
  · exact (htidy report h p q r r' hr hfailed hpq hr').1

end Engine

end Casebook
