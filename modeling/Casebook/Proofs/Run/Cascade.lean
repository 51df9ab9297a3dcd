import Casebook.Proofs.Run.Halting
import Casebook.Proofs.Run.Lookup
import Casebook.Proofs.Run.Recursion
import Casebook.Template.Eval

/-! Nesting has its limits.  What is entered in a run lies within the limit of its kind, and where
steps nest deeper the outermost step around them fails. -/
namespace Casebook

/-- Whether an event says that steps nest. -/
def Event.nests : Event → Bool
  | .entered .. | .overflowed .. => true
  | _ => false

/-- Entries of a part of a run that ends in an abort or goes on: nothing nests deeper than one level
beyond the limits, nothing is entered beyond the limit of its kind, and where a step lies too deep
the next thing is the failure of the outermost step around it, unless that is still to come. -/
structure WithinLimits (limits : CascadeLimits) (base floor : Nat) (c : Option Abort)
    (entries : List Entry) : Prop where
  depths : ∀ x ∈ entries, floor ≤ x.depth ∧ x.depth ≤ base + limits.deepest + 1
  enters : ∀ x ∈ entries, ∀ kind level, x.event = .entered kind level →
    x.depth = base + level ∧ level ≤ (limits.of kind).toNat
  overflows : ∀ before x after kind limit, entries = before ++ x :: after →
    x.event = .overflowed kind limit →
    (after = [] ∧ c = some (.tooDeep kind limit)) ∨
      ∃ y rest r, after = y :: rest ∧ y.event = .reported r ∧ y.depth = base ∧
        r.IsCascadeFailure kind limit
  tooDeep : ∀ kind limit, c = some (.tooDeep kind limit) →
    ∃ before x, entries = before ++ [x] ∧ x.event = .overflowed kind limit
  exhausted : c = some .exhausted → ∃ x ∈ entries, x.event = .bounded .forever
  found : ∀ cause, c ≠ some (.repository cause)

namespace WithinLimits

variable {limits : CascadeLimits} {base floor : Nat} {c : Option Abort} {as bs : List Entry}

theorem mono {floor' : Nat} (h : WithinLimits limits base floor c as) (hle : floor' ≤ floor) :
    WithinLimits limits base floor' c as :=
  { h with depths := fun x hx => ⟨Nat.le_trans hle (h.depths x hx).1, (h.depths x hx).2⟩ }

/-- Entries at one depth where nothing nests. -/
theorem plain {depth : Nat} (hdepth : depth ≤ base + limits.deepest + 1)
    (h : ∀ x ∈ as, x.depth = depth ∧ x.event.nests = false) (hc : c = none ∨ c = some .panic) :
    WithinLimits limits base depth c as where
  depths x hx := by
    rw [(h x hx).1]
    exact ⟨Nat.le_refl _, hdepth⟩
  enters x hx kind level hlevel := by
    have hnests := (h x hx).2
    rw [hlevel] at hnests
    cases hnests
  overflows before x after kind limit has hx := by
    have hnests := (h x (has ▸ List.mem_append_right _ List.mem_cons_self)).2
    rw [hx] at hnests
    cases hnests
  tooDeep kind limit h := by rcases hc with rfl | rfl <;> cases h
  exhausted h := by rcases hc with rfl | rfl <;> cases h
  found cause h := by rcases hc with rfl | rfl <;> cases h

theorem append (ha : WithinLimits limits base floor none as)
    (hb : WithinLimits limits base floor c bs) : WithinLimits limits base floor c (as ++ bs) where
  depths x hx := (List.mem_append.mp hx).elim (ha.depths x) (hb.depths x)
  enters x hx := (List.mem_append.mp hx).elim (ha.enters x) (hb.enters x)
  overflows before x after kind limit h hx := by
    rcases append_eq_append_cons h with ⟨mid, has, rfl⟩ | ⟨mid, rfl, hbs⟩
    · rcases ha.overflows before x mid kind limit has hx with ⟨-, hnone⟩ | ⟨y, rest, r, rfl, hr⟩
      · cases hnone
      · exact .inr ⟨y, rest ++ bs, r, rfl, hr⟩
    · exact hb.overflows mid x after kind limit hbs hx
  tooDeep kind limit hc := by
    obtain ⟨before, x, rfl, hx⟩ := hb.tooDeep kind limit hc
    exact ⟨as ++ before, x, (List.append_assoc ..).symm, hx⟩
  exhausted hc := by
    obtain ⟨x, hx, hbound⟩ := hb.exhausted hc
    exact ⟨x, List.mem_append_right _ hx, hbound⟩
  found := hb.found

/-- The failure of the outermost step contains nesting that is too deep. -/
theorem contain {kind : StepKind} {limit : UInt32} {y : Entry} {r : StepResult}
    (ha : WithinLimits limits base base (some (.tooDeep kind limit)) as)
    (hy : y.event = .reported r) (hdepth : y.depth = base) (hr : r.IsCascadeFailure kind limit) :
    WithinLimits limits base base none (as ++ [y]) where
  depths x hx := by
    rcases List.mem_append.mp hx with hx | hx
    · exact ha.depths x hx
    · cases List.mem_singleton.mp hx
      rw [hdepth]
      exact ⟨Nat.le_refl _, by omega⟩
  enters x hx kind level hlevel := by
    rcases List.mem_append.mp hx with hx | hx
    · exact ha.enters x hx kind level hlevel
    · cases List.mem_singleton.mp hx
      rw [hy] at hlevel
      cases hlevel
  overflows before x after kind' limit' h hx := by
    rcases append_eq_append_cons h with ⟨mid, has, rfl⟩ | ⟨mid, rfl, hbs⟩
    · rcases ha.overflows before x mid kind' limit' has hx with ⟨rfl, hc⟩ | ⟨z, rest, r', rfl, hr'⟩
      · cases hc
        exact .inr ⟨y, [], r, rfl, hy, hdepth, hr⟩
      · exact .inr ⟨z, rest ++ [y], r', rfl, hr'⟩
    · obtain ⟨-, rfl, -⟩ := singleton_eq_append_cons hbs
      rw [hy] at hx
      cases hx
  tooDeep _ _ := nofun
  exhausted := nofun
  found _ := nofun

end WithinLimits

variable {σ : Type}

/-- The calls of a conversation are made at the depth where it starts. -/
theorem Run.Exchange.depths {s t : RunState σ} {cs : List Call} (h : Run.Exchange s cs t) :
    ∃ entries, s.Adds entries t ∧ ∀ x ∈ entries, x.depth = s.depth ∧
      ∃ call, x.event = .called call := by
  induction h with
  | quiet h => exact ⟨[], .quiet h, by simp⟩
  | call c reply world s =>
    refine ⟨_, .recorded _ (s.answered reply world), fun x hx => ?_⟩
    cases List.mem_singleton.mp hx
    exact ⟨rfl, c, rfl⟩
  | append hst _ ih₁ ih₂ =>
    obtain ⟨as, hst', has⟩ := ih₁
    obtain ⟨bs, htu, hbs⟩ := ih₂
    refine ⟨as ++ bs, hst'.append htu, fun x hx =>
      (List.mem_append.mp hx).elim (has x) fun hx => ?_⟩
    rw [← hst.depth_eq]
    exact hbs x hx

namespace WithinLimits

variable {limits : CascadeLimits} {base : Nat}

theorem recorded (event : Event) (s : RunState σ) (hdepth : s.depth ≤ base + limits.deepest + 1)
    (hevent : event.nests = false) :
    WithinLimits limits base s.depth none [⟨event, s.depth, s.isHalted⟩] := by
  refine plain hdepth (fun x hx => ?_) (.inl rfl)
  cases List.mem_singleton.mp hx
  exact ⟨rfl, hevent⟩

theorem entered {kind : StepKind} {level : Nat} (s : RunState σ)
    (hdepth : s.depth ≤ base + limits.deepest + 1) (hlevel : s.depth = base + level)
    (hlimit : level ≤ (limits.of kind).toNat) :
    WithinLimits limits base s.depth none [⟨.entered kind level, s.depth, s.isHalted⟩] where
  depths := by simpa using hdepth
  enters x hx kind' level' h := by
    cases List.mem_singleton.mp hx
    cases h
    exact ⟨hlevel, hlimit⟩
  overflows before x after kind' limit' h hx := by
    obtain ⟨-, rfl, -⟩ := singleton_eq_append_cons h
    cases hx
  tooDeep kind' limit' h := by cases h
  exhausted h := by cases h
  found cause h := by cases h

theorem overflowed {kind : StepKind} {limit : UInt32} (s : RunState σ)
    (hdepth : s.depth ≤ base + limits.deepest + 1) :
    WithinLimits limits base s.depth (some (.tooDeep kind limit))
      [⟨.overflowed kind limit, s.depth, s.isHalted⟩] where
  depths := by simpa using hdepth
  enters x hx kind' level h := by
    cases List.mem_singleton.mp hx
    cases h
  overflows before x after kind' limit' h hx := by
    obtain ⟨-, rfl, rfl⟩ := singleton_eq_append_cons h
    cases hx
    exact .inl ⟨rfl, rfl⟩
  tooDeep kind' limit' h := by
    cases h
    exact ⟨[], _, rfl, rfl⟩
  exhausted h := by cases h
  found cause h := by cases h

/-- A loop without bound may be why the patience of the engine is at its end. -/
theorem exhaust {floor : Nat} {x : Entry} {as : List Entry}
    (h : WithinLimits limits base floor none as) (hx : x ∈ as)
    (hbound : x.event = .bounded .forever) :
    WithinLimits limits base floor (some .exhausted) as where
  depths := h.depths
  enters := h.enters
  overflows before y after kind limit has hy := by
    rcases h.overflows before y after kind limit has hy with ⟨-, hnone⟩ | hr
    · cases hnone
    · exact .inr hr
  tooDeep kind limit h := by cases h
  exhausted _ := ⟨x, hx, hbound⟩
  found cause h := by cases h

end WithinLimits

/-- A run that starts within the limits keeps to them. -/
theorem Course.withinLimits {limits : CascadeLimits} {base : Nat} {s t : RunState σ}
    {c : Option Abort} (h : Course limits base s c t) (hbase : base ≤ s.depth)
    (hdepth : s.depth ≤ base + limits.deepest + 1) :
    ∃ entries, s.Adds entries t ∧ WithinLimits limits base s.depth c entries := by
  induction h with
  | quiet h => exact ⟨[], .quiet h, .plain hdepth (by simp) (.inl rfl)⟩
  | @append s t u c hst _ ih₁ ih₂ =>
    obtain ⟨as, hadds, ha⟩ := ih₁ hbase hdepth
    have hst := hst.depth_eq
    obtain ⟨bs, hadds', hb⟩ := ih₂ (hst ▸ hbase) (hst ▸ hdepth)
    exact ⟨as ++ bs, hadds.append hadds', ha.append (hst ▸ hb)⟩
  | @pass s t id label r hst =>
    refine ⟨_, (RunState.Adds.recorded _ s).append
      ((RunState.Adds.quiet hst).append (.recorded _ t)), ?_⟩
    refine .append (.recorded _ s hdepth rfl) ?_
    have ht : t.depth = s.depth := hst.depth
    rw [← ht] at hdepth ⊢
    exact .recorded _ t hdepth rfl
  | reach id label => exact ⟨_, .recorded _ _, .recorded _ _ hdepth rfl⟩
  | @attempt s t label number calls c _ hst _ hc =>
    obtain ⟨entries, hadds, hentries⟩ := hst.depths
    refine ⟨_, (RunState.Adds.recorded _ s).append hadds, .append (.recorded _ s hdepth rfl) ?_⟩
    refine .plain hdepth (fun x hx => ?_) hc
    obtain ⟨hx, call, hcall⟩ := hentries x hx
    rw [hcall]
    exact ⟨hx, rfl⟩
  | bound b => exact ⟨_, .recorded _ _, .recorded _ _ hdepth rfl⟩
  | enter _ hlevel hlimit => exact ⟨_, .recorded _ _, .entered _ hdepth hlevel hlimit⟩
  | iterate i => exact ⟨_, .recorded _ _, .recorded _ _ hdepth rfl⟩
  | overflow => exact ⟨_, .recorded _ _, .overflowed _ hdepth⟩
  | report r => exact ⟨_, .recorded _ _, .recorded _ _ hdepth rfl⟩
  | @latch s halt hs =>
    refine ⟨_, (RunState.Adds.latched halt s).append (.recorded _ (s.latched halt)), ?_⟩
    have hlatched : (s.latched halt).depth = s.depth := by simp [RunState.latched, hs]
    rw [← hlatched] at hdepth ⊢
    exact .recorded _ (s.latched halt) hdepth rfl
  | @nest s t c hle _ ih =>
    obtain ⟨entries, hadds, hentries⟩ := ih (Nat.le_succ_of_le hbase) (Nat.succ_le_succ hle)
    exact ⟨entries, hadds, hentries.mono (Nat.le_succ _)⟩
  | @contain s t u kind limit r hs hst htu hr ih =>
    obtain ⟨entries, hadds, hentries⟩ := ih hbase hdepth
    refine ⟨_, hadds.append ((RunState.Adds.quiet htu).append (.recorded _ u)), ?_⟩
    rw [hs] at hentries ⊢
    exact hentries.contain rfl (htu.depth.trans (hst.depth_eq.trans hs)) hr
  | @exhaust s t _ _ ih =>
    obtain ⟨entries, hadds, hentries⟩ := ih hbase hdepth
    have hall := WithinLimits.append (.recorded (.bounded .forever) s hdepth rfl) hentries
    refine ⟨_, (RunState.Adds.recorded _ s).append hadds, ?_⟩
    exact hall.exhaust (List.mem_append_left _ List.mem_cons_self) rfl

/-! ### Reports -/

/-- What is reported at a depth. -/
def reportsAt (depth : Nat) (entries : List Entry) : List StepResult :=
  entries.filterMap fun x => if x.depth = depth then x.report? else none

theorem reportsAt_append (depth : Nat) (as bs : List Entry) :
    reportsAt depth (as ++ bs) = reportsAt depth as ++ reportsAt depth bs :=
      List.filterMap_append ..

theorem reportsAt_eq_nil {depth : Nat} {entries : List Entry}
    (h : ∀ x ∈ entries, depth < x.depth ∨ x.report? = none) : reportsAt depth entries = [] := by
  refine List.filterMap_eq_nil_iff.mpr fun x hx => ?_
  split
  case isTrue hdepth => exact (h x hx).resolve_left (by omega)
  case isFalse => rfl

namespace Run

variable {α β : Type}

/-- A part of a run does not end for nesting that is too deep, and what it reports at the depth of
its start has a property. -/
def Tells (P : α → List StepResult → Prop) (x : Run σ α) (s : RunState σ) : Prop :=
  (∃ c t, x.run s = (.error c, t) ∧ ∀ kind limit, c ≠ .tooDeep kind limit) ∨
    ∃ a t entries, x.run s = (.ok a, t) ∧ t.depth = s.depth ∧ s.Adds entries t ∧
      P a (reportsAt s.depth entries)

/-- However a part of a run ends, it reports nothing at the depth of its start. -/
def Mute (x : Run σ α) (s : RunState σ) : Prop :=
  ∃ entries, (x.run s).2.depth = s.depth ∧ s.Adds entries (x.run s).2 ∧
    reportsAt s.depth entries = []

namespace Tells

theorem bind {P : α → List StepResult → Prop} {Q : β → List StepResult → Prop} {x : Run σ α}
    {k : α → Run σ β} {s : RunState σ} (hx : Tells P x s)
    (hk : ∀ a t rs, x.run s = (.ok a, t) → t.depth = s.depth → P a rs →
      Tells (fun b rs' => Q b (rs ++ rs')) (k a) t) : Tells Q (x >>= k) s := by
  rcases hx with ⟨c, t, hrun, hc⟩ | ⟨a, t, as, hrun, hdepth, hst, ha⟩
  · exact .inl ⟨c, t, run_bind_of_error hrun k, hc⟩
  · rcases hk a t _ hrun hdepth ha with ⟨c, u, hku, hc⟩ | ⟨b, u, bs, hku, hdepth', htu, hb⟩
    · have hbind : (x >>= k).run s = (.error c, u) := by rw [run_bind_of_ok hrun, hku]
      exact .inl ⟨c, u, hbind, hc⟩
    · have hbind : (x >>= k).run s = (.ok b, u) := by rw [run_bind_of_ok hrun, hku]
      refine .inr ⟨b, u, as ++ bs, hbind, hdepth'.trans hdepth, hst.append htu, ?_⟩
      rw [reportsAt_append, ← hdepth]
      rw [← hdepth] at hb
      exact hb

theorem silent {x : Run σ α} (hx : Silent x) (s : RunState σ) :
    Tells (fun _ rs => rs = []) x s := by
  obtain ⟨a, t, hrun, hst, -⟩ := hx s
  exact .inr ⟨a, t, [], hrun, hst.depth, .quiet hst, rfl⟩

theorem pure {P : α → List StepResult → Prop} {a : α} (h : P a []) (s : RunState σ) :
    Tells P (Pure.pure a) s := .inr ⟨a, s, [], rfl, rfl, .quiet (.refl s), h⟩

theorem record {event : Event} (h : event.report? = none) (s : RunState σ) :
    Tells (fun _ rs => rs = []) (Run.record event) s := by
  refine .inr
    ⟨(), _, _, run_record event s, rfl, .recorded event s, reportsAt_eq_nil fun x hx => ?_⟩
  cases List.mem_singleton.mp hx
  exact .inr h

theorem report (r : StepResult) (s : RunState σ) :
    Tells (fun a rs => rs = [a]) (Run.report r) s := by
  refine .inr ⟨r, _, _, run_report r s, rfl, .recorded _ s, ?_⟩
  simp [reportsAt, Entry.report?, Event.report?]

theorem latch (halt : Halt) (level : NoticeLevel) (text : String) (s : RunState σ) :
    Tells (fun _ rs => rs = []) (Run.latch halt level text) s := by
  cases hs : s.isHalted with
  | true =>
    have hrun : (Run.latch halt level text).run s = (.ok (), s) := by
      rw [run_latch, hs, if_pos rfl]
    exact .inr ⟨(), s, [], hrun, rfl, .quiet (.refl s), rfl⟩
  | false =>
    let t := (s.noted ⟨level, text⟩).latched halt
    have hrun : (Run.latch halt level text).run s = (.ok (), t.recorded (.latched halt)) := by
      rw [run_latch, hs, if_neg Bool.false_ne_true]
    have hdepth : t.depth = s.depth := by
      simp only [t, RunState.latched]
      split <;> rfl
    have hadds : s.Adds [] t := RunState.Adds.latched halt (s.noted ⟨level, text⟩)
    refine .inr
      ⟨(), _, _, hrun, hdepth, hadds.append (.recorded _ t), reportsAt_eq_nil fun x hx => ?_⟩
    cases List.mem_singleton.mp hx
    exact .inr rfl

end Tells

end Run

namespace Engine

open Run (Tells Mute)

variable (e : Engine σ)

theorem haltAt_tells (r : StepResult) {halt : Run σ Unit}
    (h : ∀ s, Tells (fun _ rs => rs = []) halt s) (s : RunState σ) :
    Tells (fun _ rs => rs = []) (e.haltAt r halt) s := by
  unfold haltAt
  split
  · exact h s
  · exact .silent (.pure _) s

theorem settle_tells (r : StepResult) {halt : Run σ Unit}
    (h : ∀ s, Tells (fun _ rs => rs = []) halt s) (s : RunState σ) :
    Tells (fun a rs => rs = [a]) (e.settle r halt) s := by
  unfold settle
  refine .bind (.report r s) fun a t rs _ _ hrs =>
    .bind (e.haltAt_tells a h t) fun _ u rs' _ _ hrs' => .pure ?_ u
  rw [hrs, hrs', List.append_nil, List.append_nil]

theorem finish_tells (step : Step) (r : StepResult) (s : RunState σ) :
    Tells (fun a rs => rs = [a]) (e.finish step r) s := by
  unfold finish
  refine .bind (.silent (noteOutcome_silent _) s) fun _ t rs _ _ hrs => ?_
  rw [hrs]
  exact e.settle_tells _ (Tells.latch _ _ _) t

theorem undecided_tells (step : Step) (label : String) (cause : ResolutionError) (s : RunState σ) :
    Tells (fun a rs => rs = [a]) (e.undecided step label cause) s := by
  unfold undecided
  refine .bind (.silent (.note _ _) s) fun _ t rs _ _ hrs => ?_
  rw [hrs]
  exact e.settle_tells _ (Tells.latch _ _ _) t

/-- Inside an outermost step everything is reported at a greater depth. -/
theorem body_mute (step : Step) (label : String) (index : Option Nat) {s : RunState σ}
    (hs : s.isHalted = false) : Mute (e.body e.group step label (stepLevel step 0) index) s := by
  have hleaf : ∀ {x : Run σ Attempt}, Run.Converses Conversation x → Mute x s := by
    intro x hx
    obtain ⟨calls, -, hst, -⟩ := hx s
    obtain ⟨entries, hadds, hentries⟩ := hst.depths
    refine ⟨entries, hst.depth_eq, hadds, reportsAt_eq_nil fun y hy => ?_⟩
    obtain ⟨-, call, hcall⟩ := hentries y hy
    exact .inr (by rw [Entry.report?, hcall]; rfl)
  have hnested : ∀ {x : Run σ Attempt},
      (∀ t : RunState σ, t.isHalted = false → t.depth = s.depth + 1 →
      Run.Follows e.config.limits s.depth x t) → Mute (Run.nested x) s := by
    intro x hx
    have hfollows := hx { s with depth := s.depth + 1 } hs rfl
    obtain ⟨entries, hadds, hentries⟩ :=
      Course.withinLimits hfollows (Nat.le_succ _) (Nat.succ_le_succ (Nat.le_add_right _ _))
    refine ⟨entries, rfl, hadds, reportsAt_eq_nil fun y hy => ?_⟩
    exact .inl (hentries.depths y hy).1
  have hnest : 1 ≤ e.config.limits.deepest → NestFollows e.config.limits s.depth e.group 1 :=
    fun h => e.group_follows h
  cases step with
  | api head p => exact hleaf (e.api_converses head p label index)
  | sql head p => exact hleaf (e.sql_converses p label index)
  | caseRef head caseId =>
    exact hnested fun t ht hdepth => e.caseRef_follows hnest caseId (label ++ "-") index ht hdepth
  | foreach head times breakCondition own =>
    exact hnested fun t ht hdepth =>
      e.foreach_follows hnest head times breakCondition own (label ++ "-") index ht hdepth

theorem contained_tells {x : Run σ Attempt} {s : RunState σ} (hx : Mute x s) (label : String)
    {level : Nat} (hlevel : level ≤ 1) :
    Tells (fun _ rs => rs = []) (contained label level x) s := by
  obtain ⟨entries, hdepth, hadds, hrs⟩ := hx
  have hrun := run_contained label level x s
  rcases h : x.run s with ⟨c | a, t⟩
  · rw [h] at hrun hdepth hadds
    cases c with
    | tooDeep kind limit =>
      simp only [hlevel, if_true] at hrun
      exact .inr ⟨_, _, entries, hrun, hdepth, hadds, hrs⟩
    | _ => exact .inl ⟨_, t, hrun, nofun⟩
  · rw [h] at hrun hdepth hadds
    exact .inr ⟨a, t, entries, hrun, hdepth, hadds, hrs⟩

theorem retrying_tells {label : String} {x : Run σ Attempt} {depth : Nat}
    (hx : ∀ s, s.isHalted = false → s.depth = depth → Tells (fun _ rs => rs = []) x s)
    (left n : Nat) {s : RunState σ} (hs : s.isHalted = false) (hdepth : s.depth = depth) :
    Tells (fun _ rs => rs = []) (retrying label x left n) s := by
  have hstarted : ∀ n s, s.isHalted = false → s.depth = depth →
      Tells (fun _ rs => rs = []) (started label x n) s := by
    intro n s hs hdepth
    refine .bind (.record rfl s) fun _ t rs hrun _ hrs => ?_
    cases hrun
    rw [hrs]
    exact hx _ hs hdepth
  induction left generalizing n s with
  | zero =>
    refine .bind (hstarted n s hs hdepth) fun a t rs _ _ hrs => ?_
    rw [hrs]
    exact .silent (.pure _) t
  | succ left ih =>
    refine .bind (hstarted n s hs hdepth) fun a t rs _ ht hrs => ?_
    rw [hrs]
    split
    · exact .silent (.pure _) t
    · refine .bind (.silent .isHalted t) fun halted u rs' hrun _ hrs' => ?_
      cases hrun
      rw [hrs']
      cases hhalted : t.isHalted with
      | true => exact .silent (.pure _) t
      | false =>
        refine .bind (.silent (.note _ _) t) fun _ u rs'' hrun _ hrs'' => ?_
        cases hrun
        rw [hrs'']
        exact ih (n + 1) hhalted (ht.trans hdepth)

theorem attempts_tells (step : Step) (label : String) (index : Option Nat) {s : RunState σ}
    (hs : s.isHalted = false) :
    Tells (fun a rs => rs = [a]) (e.attempts e.group step label (stepLevel step 0) index) s := by
  have hlevel : stepLevel step 0 ≤ 1 := by
    unfold stepLevel
    split <;> decide
  unfold attempts
  refine .bind (.silent (noteDelay_silent step label) s) fun _ t rs hrun hdepth hrs => ?_
  obtain ⟨_, u, hdelay, hst, -⟩ := noteDelay_silent step label s
  rw [hdelay] at hrun
  cases hrun
  rw [hrs]
  have hbody : ∀ u, u.isHalted = false → u.depth = s.depth → Tells (fun _ rs => rs = [])
      (contained label (stepLevel step 0) (e.body e.group step label (stepLevel step 0) index)) u :=
    fun u hu _ => contained_tells (e.body_mute step label index hu) label hlevel
  refine .bind (retrying_tells hbody _ 0 (hst.isHalted.trans hs) hdepth) fun p u rs' _ _ hrs' => ?_
  rw [hrs']
  exact e.finish_tells step _ u

theorem executeWith_tells (step : Step) (labels : String) (index : Option Nat) (s : RunState σ) :
    Tells (fun a rs => rs = [a])
      (e.executeWith e.group step labels (stepLevel step 0) index) s := by
  cases hs : s.isHalted with
  | true =>
    obtain ⟨t, hst, hrun⟩ :=
      e.run_executeWith_halted e.group step labels (stepLevel step 0) index hs
    refine .inr ⟨_, _, _, hrun, hst.depth, (RunState.Adds.quiet hst).append (.recorded _ t), ?_⟩
    simp [reportsAt, hst.depth, Entry.report?, Event.report?]
  | false =>
    have hattempts := e.attempts_tells step (labels ++ step.head.name) index hs
    unfold executeWith
    refine .bind (.silent .isHalted s) fun halted t rs hrun _ hrs => ?_
    cases hrun
    rw [hrs, hs]
    simp only [Bool.false_eq_true, if_false, List.nil_append]
    split
    · exact hattempts
    · refine .bind (.silent .scope s) fun scope t rs hrun _ hrs => ?_
      cases hrun
      rw [hrs]
      simp only [List.nil_append]
      split
      · exact hattempts
      · refine .bind (.silent (.note _ _) s) fun _ t rs _ _ hrs => ?_
        rw [hrs]
        exact e.finish_tells step _ t
      · exact e.undecided_tells step _ _ s

theorem member_tells (labels : String) (index : Option Nat) (step : Step) (s : RunState σ) :
    Tells (fun a rs => rs = [a]) (e.member e.group labels 0 index step) s := by
  unfold member
  refine .bind (.record rfl s) fun _ t rs _ _ hrs => ?_
  rw [hrs]
  split
  · exact e.executeWith_tells step labels index t
  · exact .report _ t

/-- The outermost group does not end for nesting that is too deep, and its results are what is
reported at its depth. -/
theorem group_tells (steps : List Step) (labels : String) (index : Option Nat) (s : RunState σ) :
    Tells (fun results rs => rs = results) (e.group steps labels 0 index) s := by
  rw [e.group_eq 0 steps labels index]
  unfold groupWith
  induction Step.inOrder steps generalizing s with
  | nil => exact .pure (P := fun results rs => rs = results) rfl s
  | cons step members ih =>
    rw [List.mapM_cons]
    refine .bind (e.member_tells labels index step s) fun r t rs _ _ hrs =>
      .bind (ih t) fun results u rs' _ _ hrs' => ?_
    exact .pure (by rw [hrs, hrs', List.append_nil]; rfl) u

/-! ### Runs of cases -/

end Engine

/-- How a run of a case nests, and how it ends. -/
structure BoundedRun (limits : CascadeLimits) (base : Nat) (result : Except Abort CaseReport)
    (entries : List Entry) : Prop where
  depths : ∀ x ∈ entries, base ≤ x.depth ∧ x.depth ≤ base + limits.deepest + 1
  /-- The level of a nested step counts it and the nested steps around it. -/
  enters : ∀ x ∈ entries, ∀ kind level, x.event = .entered kind level →
    x.depth = base + level ∧ level ≤ (limits.of kind).toNat
  /-- Nesting that is too deep fails the outermost step around it at once. -/
  overflows : ∀ before x after kind limit, entries = before ++ x :: after →
    x.event = .overflowed kind limit →
    ∃ y rest r, after = y :: rest ∧ y.event = .reported r ∧ y.depth = base ∧
      r.IsCascadeFailure kind limit
  /-- There is a report on the outermost steps, unless the transport broke down or a loop without
  bound was met. -/
  ends : (∃ report, result = .ok report ∧ report.steps = reportsAt base entries) ∨
    result = .error .panic ∨
    result = .error .exhausted ∧ ∃ x ∈ entries, x.event = .bounded .forever

namespace WithinLimits

variable {limits : CascadeLimits} {base : Nat} {as : List Entry}

/-- A run that ends in a report. -/
theorem boundedRun_ok (h : WithinLimits limits base base none as) {report : CaseReport}
    (hreport : report.steps = reportsAt base as) : BoundedRun limits base (.ok report) as where
  depths := h.depths
  enters := h.enters
  overflows before x after kind limit has hx := by
    rcases h.overflows before x after kind limit has hx with ⟨-, hnone⟩ | hr
    · cases hnone
    · exact hr
  ends := .inl ⟨report, rfl, hreport⟩

/-- A run that is aborted, and not for nesting that is too deep. -/
theorem boundedRun_error {c : Abort} (h : WithinLimits limits base base (some c) as)
    (hdeep : ∀ kind limit, c ≠ .tooDeep kind limit) : BoundedRun limits base (.error c) as where
  depths := h.depths
  enters := h.enters
  overflows before x after kind limit has hx := by
    rcases h.overflows before x after kind limit has hx with ⟨-, hc⟩ | hr
    · exact absurd (Option.some.inj hc) (hdeep kind limit)
    · exact hr
  ends := by
    right
    cases c with
    | tooDeep kind limit => exact absurd rfl (hdeep kind limit)
    | repository cause => exact absurd rfl (h.found cause)
    | panic => exact .inl rfl
    | exhausted => exact .inr ⟨rfl, h.exhausted rfl⟩

end WithinLimits

namespace Engine

variable (e : Engine σ)

theorem runCase_bounded {caseId : CaseId} {info : CaseInfo} {steps : List Step}
    (hinfo : e.repository.caseInfo caseId = .ok info)
    (hsteps : e.repository.steps caseId = .ok steps) (s : RunState σ) :
    ∃ entries, s.Adds entries ((e.runCase caseId).run s).2 ∧
      BoundedRun e.config.limits s.depth ((e.runCase caseId).run s).1 entries := by
  obtain ⟨s', hquiet, hrun⟩ := e.run_runCase_found hinfo hsteps s
  have hnest : NestFollows e.config.limits s'.depth e.group 0 := e.group_follows (Nat.zero_le _)
  have hgroup := hnest steps "" none s' rfl
  obtain ⟨entries, hadds, hentries⟩ :=
    Course.withinLimits hgroup (Nat.le_refl _) (Nat.le_add_right_of_le (Nat.le_add_right _ _))
  rw [hquiet.depth] at hentries
  have hall : s.Adds entries ((e.group steps "" 0 none).run s').2 :=
    (RunState.Adds.quiet hquiet).append hadds
  -- Both describe the same run of the outermost group, which ends in one way only.
  rcases e.group_tells steps "" none s' with
    ⟨c, t, hgroup, hdeep⟩ | ⟨results, t, entries', hgroup, -, hadds', hreports⟩
  · rw [hgroup] at hrun hall hentries
    rcases hrun with ⟨results, t', u, hsame, -⟩ | ⟨c', t', hsame, hcase⟩ <;> cases hsame
    rw [hcase]
    exact ⟨entries, hall, hentries.boundedRun_error hdeep⟩
  · rw [hgroup] at hrun hall hadds hentries
    rcases hrun with ⟨results', t', u, hsame, htu, hcase⟩ | ⟨c, t', hsame, -⟩ <;> cases hsame
    have heq : entries = entries' := List.append_cancel_left (hadds.symm.trans hadds')
    subst heq
    rw [hquiet.depth] at hreports
    rw [hcase]
    have hend := hall.append (RunState.Adds.quiet htu)
    rw [List.append_nil] at hend
    exact ⟨entries, hend, hentries.boundedRun_ok hreports.symm⟩

/-- The limits bound every run of an engine. -/
structure IsBounded : Prop where
  /-- The recursion of groups has one solution. -/
  recursion : ∀ nest : Nest σ, (∀ level, NestAgree nest (e.groupWith nest) level) ↔ nest = e.group
  /-- Only a loop without bound needs the patience of the engine: a run that it does not end is the
  same with more. -/
  patience : ∀ caseId patience s, e.patience ≤ patience →
    ((e.runCase caseId).run s).1 ≠ .error .exhausted →
    ({ e with patience }.runCase caseId).run s = (e.runCase caseId).run s
  /-- Nesting that is too deep does not leave the outermost group. -/
  contained : ∀ steps labels index s kind limit,
    ((e.group steps labels 0 index).run s).1 ≠ .error (.tooDeep kind limit)
  /-- A step that needs what the repository does not have fails. -/
  lacking : ∀ cause s step, e.Lacks cause s step → ∀ nest label level index,
    (∃ r t, (e.attempts nest step label level index).run s = (.ok r, t) ∧ r.isFailed = true) ∨
      ∃ c t, (e.attempts nest step label level index).run s = (.error c, t) ∧
        (c = .panic ∨ ∃ kind limit, c = .tooDeep kind limit)
  runs : ∀ caseId info steps s, e.repository.caseInfo caseId = .ok info →
    e.repository.steps caseId = .ok steps →
    ∃ entries, s.Adds entries ((e.runCase caseId).run s).2 ∧
      BoundedRun e.config.limits s.depth ((e.runCase caseId).run s).1 entries

/-- Whatever the cases refer to, the limits bound the runs of an engine, and nesting that is too
deep fails the outermost step around it. -/
theorem limits_bound_runs : e.IsBounded where
  recursion nest := by
    refine ⟨e.eq_group, ?_⟩
    rintro rfl
    exact e.group_eq
  patience caseId patience s hle hended := by
    rcases e.runCase_outlives hle caseId s with ⟨t, hrun⟩ | hrun
    · rw [hrun] at hended
      exact absurd rfl hended
    · rw [hrun]
      rcases (e.runCase caseId).run s with ⟨c | report, t⟩ <;> rfl
  contained steps labels index s kind limit h := by
    rcases e.group_tells steps labels index s with ⟨c, t, hrun, hdeep⟩ |
      ⟨results, t, entries, hrun, -⟩
    · rw [hrun] at h
      cases h
      exact hdeep kind limit rfl
    · rw [hrun] at h
      cases h
  lacking cause s step hlacks nest label level index :=
    e.attempts_of_lacks nest label level index hlacks
  runs caseId info steps s hinfo hsteps := e.runCase_bounded hinfo hsteps s

/-! ### A case that refers to itself -/

def circular : Suite :=
  { Suite.empty with
    cases := [⟨1, "circular", some 1, [.caseRef ⟨1, "again", 0, true, .default, none⟩ 1]⟩] }

def unasked : Transport Unit where
  http _ w := (.quiet none, w)
  connect _ w := (.quiet (.ok ()), w)
  execute _ _ w := (.quiet (.ok []), w)
  close _ w := (.quiet (.ok ()), w)

def circularEngine : Engine Unit :=
  ⟨Template.evaluator, .ofSuite circular, unasked, circular.config, ⟨1, false, false⟩, 0⟩

/-- It fails once, at its outermost step. -/
example :
    ((circularEngine.runCase 1).run (.start .empty false ())).1.toOption.map
        (fun report => report.steps.map fun r => (r.status, r.message)) =
      some [(.failed, some (cascadeMessage .caseRef 10))] := by
  decide +kernel

end Engine

end Casebook
