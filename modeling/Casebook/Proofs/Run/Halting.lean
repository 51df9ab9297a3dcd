import Casebook.Proofs.Run.EngineCourse

/-! A halted run stays halted and starts nothing.  In the journal everything after the first halted
entry is a report, a step passed over, or a call that ends what an attempt began. -/
namespace Casebook

/-- Whether an event starts an attempt, the steps inside a nested step, or an iteration. -/
def Event.isStart : Event → Bool
  | .attempted .. | .entered .. | .iterated _ => true
  | _ => false

/-- Whether an event is a request, or an attempt to connect. -/
def Event.isContact : Event → Bool
  | .called (.http _) | .called (.connect _) => true
  | _ => false

/-- Entries of a halted run: nothing starts, nobody is contacted, and every step that is reached is
passed over. -/
structure Stopped (entries : List Entry) : Prop where
  halted : ∀ x ∈ entries, x.halted = true ∧ x.event.isStart = false ∧ x.event.isContact = false
  passes : ∀ before x after id label, entries = before ++ x :: after → x.event = .reached id label →
    ∃ y rest r, after = y :: rest ∧ y.event = .reported r ∧ r.stepId = id ∧ r.label = label ∧
      r.IsPassedOver

/-- Entries between two moments of a run, halted or not at either: once halted it stays halted and
starts nothing. -/
structure HaltsForGood (first : Bool) (entries : List Entry) (last : Bool) : Prop where
  starts : ∀ x ∈ entries, x.event.isStart = true → x.halted = false
  atOnce : first = true → Stopped entries ∧ last = true
  later : ∀ before x after, entries = before ++ x :: after → x.halted = true →
    Stopped after ∧ last = true

/-- A place in two lists one after the other lies in the first or in the second. -/
theorem append_eq_append_cons {α : Type} {as bs before after : List α} {x : α}
    (h : as ++ bs = before ++ x :: after) :
    (∃ mid, as = before ++ x :: mid ∧ after = mid ++ bs) ∨
      ∃ mid, before = as ++ mid ∧ bs = mid ++ x :: after := by
  rcases List.append_eq_append_iff.mp h with ⟨mid, hbefore, hbs⟩ | ⟨mid, has, hrest⟩
  · exact .inr ⟨mid, hbefore, hbs⟩
  · cases mid with
    | nil => exact .inr ⟨[], by simpa using has.symm, by simpa using hrest.symm⟩
    | cons y mid =>
      rw [List.cons_append, List.cons.injEq] at hrest
      obtain ⟨rfl, rfl⟩ := hrest
      exact .inl ⟨mid, has, rfl⟩

theorem cons_eq_append_cons {α : Type} {as before after : List α} {x y : α}
    (h : y :: as = before ++ x :: after) :
    (before = [] ∧ x = y ∧ after = as) ∨ ∃ mid, before = y :: mid ∧ as = mid ++ x :: after := by
  cases before with
  | nil =>
    rw [List.nil_append, List.cons.injEq] at h
    exact .inl ⟨rfl, h.1.symm, h.2.symm⟩
  | cons z mid =>
    rw [List.cons_append, List.cons.injEq] at h
    obtain ⟨rfl, has⟩ := h
    exact .inr ⟨mid, rfl, has⟩

theorem singleton_eq_append_cons {α : Type} {before after : List α} {x y : α}
    (h : [y] = before ++ x :: after) : before = [] ∧ x = y ∧ after = [] := by
  rcases cons_eq_append_cons h with h | ⟨mid, -, h⟩
  · exact h
  · exact absurd h.symm (by simp)

namespace Stopped

theorem nil : Stopped [] := ⟨by simp, by simp⟩

theorem append {as bs : List Entry} (ha : Stopped as) (hb : Stopped bs) : Stopped (as ++ bs) where
  halted x hx := (List.mem_append.mp hx).elim (ha.halted x) (hb.halted x)
  passes before x after id label h hx := by
    rcases append_eq_append_cons h with ⟨mid, has, rfl⟩ | ⟨mid, rfl, hbs⟩
    · obtain ⟨y, rest, r, rfl, hr⟩ := ha.passes before x mid id label has hx
      exact ⟨y, rest ++ bs, r, rfl, hr⟩
    · exact hb.passes mid x after id label hbs hx

theorem singleton {x : Entry} (hhalted : x.halted = true) (hstart : x.event.isStart = false)
    (hcontact : x.event.isContact = false) (hreached : ∀ id label, x.event ≠ .reached id label) :
    Stopped [x] where
  halted y hy := by
    cases List.mem_singleton.mp hy
    exact ⟨hhalted, hstart, hcontact⟩
  passes before y after id label h hy := by
    obtain ⟨-, rfl, -⟩ := singleton_eq_append_cons h
    exact absurd hy (hreached id label)

/-- A step that is passed over. -/
theorem pass {x y : Entry} {id : StepId} {label : String} {r : StepResult} (hx : x.halted = true)
    (hy : y.halted = true) (hreached : x.event = .reached id label)
    (hreported : y.event = .reported r) (hid : r.stepId = id) (hlabel : r.label = label)
    (hr : r.IsPassedOver) : Stopped [x, y] where
  halted z hz := by
    rcases List.mem_cons.mp hz with rfl | hz
    · rw [hreached]
      exact ⟨hx, rfl, rfl⟩
    · cases List.mem_singleton.mp hz
      rw [hreported]
      exact ⟨hy, rfl, rfl⟩
  passes before z after id' label' h hz := by
    rcases cons_eq_append_cons h with ⟨-, rfl, rfl⟩ | ⟨mid, -, hmid⟩
    · obtain ⟨rfl, rfl⟩ := Event.reached.injEq .. ▸ hreached.symm.trans hz
      exact ⟨y, [], r, rfl, hreported, hid, hlabel, hr⟩
    · obtain ⟨-, rfl, -⟩ := singleton_eq_append_cons hmid
      rw [hreported] at hz
      cases hz

theorem suffix {as bs : List Entry} (h : Stopped as) (hbs : bs <:+ as) : Stopped bs where
  halted x hx := h.halted x (hbs.subset hx)
  passes mid x rest id label hmid hx := by
    obtain ⟨before, rfl⟩ := hbs
    have hall : before ++ bs = (before ++ mid) ++ x :: rest := by rw [hmid, List.append_assoc]
    exact h.passes (before ++ mid) x rest id label hall hx

end Stopped

namespace HaltsForGood

variable {first mid last : Bool} {as bs : List Entry}

theorem nil (halted : Bool) : HaltsForGood halted [] halted :=
  ⟨by simp, fun h => ⟨.nil, h⟩, by simp⟩

theorem ofStopped (h : Stopped as) : HaltsForGood true as true where
  starts x hx hstart := by rw [(h.halted x hx).2.1] at hstart; cases hstart
  atOnce _ := ⟨h, rfl⟩
  later before x after has _ := ⟨h.suffix ⟨before ++ [x], by rw [has, List.append_assoc]; rfl⟩, rfl⟩

theorem singleton {x : Entry} (h : x.event.isStart = true → x.halted = false) :
    HaltsForGood false [x] x.halted where
  starts y hy := by cases List.mem_singleton.mp hy; exact h
  atOnce := nofun
  later before y after hx hy := by
    obtain ⟨-, rfl, rfl⟩ := singleton_eq_append_cons hx
    exact ⟨.nil, hy⟩

theorem append (ha : HaltsForGood first as mid) (hb : HaltsForGood mid bs last) :
    HaltsForGood first (as ++ bs) last where
  starts x hx := (List.mem_append.mp hx).elim (ha.starts x) (hb.starts x)
  atOnce h := by
    obtain ⟨has, hmid⟩ := ha.atOnce h
    obtain ⟨hbs, hlast⟩ := hb.atOnce hmid
    exact ⟨has.append hbs, hlast⟩
  later before x after h hx := by
    rcases append_eq_append_cons h with ⟨rest, has, rfl⟩ | ⟨rest, rfl, hbs⟩
    · obtain ⟨hrest, hmid⟩ := ha.later before x rest has hx
      obtain ⟨hbs, hlast⟩ := hb.atOnce hmid
      exact ⟨hrest.append hbs, hlast⟩
    · exact hb.later rest x after hbs hx

end HaltsForGood

variable {σ : Type}

/-- The entries that the journal gained from one state to another. -/
def RunState.Adds (s : RunState σ) (entries : List Entry) (t : RunState σ) : Prop :=
  t.journal.toList = s.journal.toList ++ entries

namespace RunState.Adds

variable {s t u : RunState σ} {as bs : List Entry}

theorem quiet (h : s.Quiet t) : s.Adds [] t := by rw [Adds, h.journal, List.append_nil]

theorem recorded (event : Event) (s : RunState σ) :
    s.Adds [⟨event, s.depth, s.isHalted⟩] (s.recorded event) :=
  journal_recorded event s

theorem latched (halt : Halt) (s : RunState σ) : s.Adds [] (s.latched halt) := by
  unfold RunState.latched
  split <;> exact (List.append_nil _).symm

theorem append (ha : s.Adds as t) (hb : t.Adds bs u) : s.Adds (as ++ bs) u := by
  rw [Adds] at ha hb ⊢
  rw [hb, ha, List.append_assoc]

end RunState.Adds

/-- The calls of a conversation are entries, of which the first halted one is followed by halted
ones only. -/
theorem Run.Exchange.entries {s t : RunState σ} {cs : List Call} (h : Run.Exchange s cs t) :
    ∃ entries, s.Adds entries t ∧ entries.map Entry.event = cs.map Event.called ∧
      (s.isHalted = true → t.isHalted = true ∧ ∀ x ∈ entries, x.halted = true) ∧
      ∀ before x after, entries = before ++ x :: after → x.halted = true →
        t.isHalted = true ∧ ∀ y ∈ after, y.halted = true := by
  induction h with
  | quiet h =>
    refine ⟨[], .quiet h, rfl, fun hs => ⟨h.isHalted.trans hs, by simp⟩, by simp⟩
  | call c reply world s =>
    refine ⟨_, .recorded _ (s.answered reply world), rfl, fun hs => ?_,
      fun before x after hx hhalted => ?_⟩
    · have hanswered := RunState.isHalted_answered reply world hs
      exact ⟨hanswered, by simpa using hanswered⟩
    · obtain ⟨-, rfl, rfl⟩ := singleton_eq_append_cons hx
      exact ⟨hhalted, by simp⟩
  | append _ _ ih₁ ih₂ =>
    obtain ⟨as, hst, has, ha, ha'⟩ := ih₁
    obtain ⟨bs, htu, hbs, hb, hb'⟩ := ih₂
    refine ⟨as ++ bs, hst.append htu, by rw [List.map_append, List.map_append, has, hbs],
      fun hs => ?_,
      fun before x after h hx => ?_⟩
    · obtain ⟨ht, has⟩ := ha hs
      obtain ⟨hu, hbs⟩ := hb ht
      exact ⟨hu, fun x hx => (List.mem_append.mp hx).elim (has x) (hbs x)⟩
    · rcases append_eq_append_cons h with ⟨rest, has, rfl⟩ | ⟨rest, rfl, hbs⟩
      · obtain ⟨ht, hrest⟩ := ha' before x rest has hx
        obtain ⟨hu, hbs⟩ := hb ht
        exact ⟨hu, fun y hy => (List.mem_append.mp hy).elim (hrest y) (hbs y)⟩
      · exact hb' rest x after hbs hx

/-- Only the first call of a conversation contacts anybody. -/
theorem Conversation.tail_isContact {c : Call} {cs : List Call} (h : Conversation (c :: cs)) :
    ∀ d ∈ cs, (Event.called d).isContact = false := by
  cases h <;> simp [Event.isContact]

/-- Entries of calls of which none contacts anybody. -/
theorem Stopped.calls {entries : List Entry} {cs : List Call}
    (hevents : entries.map Entry.event = cs.map Event.called)
    (hhalted : ∀ x ∈ entries, x.halted = true)
    (hcs : ∀ c ∈ cs, (Event.called c).isContact = false) : Stopped entries := by
  have hcalled : ∀ x ∈ entries, ∃ c ∈ cs, x.event = .called c := by
    intro x hx
    obtain ⟨c, hc, hcx⟩ := List.mem_map.mp (hevents ▸ List.mem_map_of_mem hx)
    exact ⟨c, hc, hcx.symm⟩
  refine ⟨fun x hx => ?_, fun before x after id label h hx => ?_⟩
  · obtain ⟨c, hc, hcx⟩ := hcalled x hx
    have hx := hhalted x hx
    rw [hcx]
    exact ⟨hx, rfl, hcs c hc⟩
  · obtain ⟨c, -, hcx⟩ := hcalled x (by rw [h]; simp)
    rw [hcx] at hx
    cases hx

/-- An attempt contacts somebody at most at its start, before anything can halt it. -/
theorem HaltsForGood.attempt {x : Entry} {entries : List Entry} {cs : List Call} {last : Bool}
    (hx : x.halted = false) (hcs : Conversation cs)
    (hevents : entries.map Entry.event = cs.map Event.called)
    (hlater : ∀ before y after, entries = before ++ y :: after → y.halted = true →
      last = true ∧ ∀ z ∈ after, z.halted = true) : HaltsForGood false (x :: entries) last where
  starts y hy hstart := by
    rcases List.mem_cons.mp hy with rfl | hy
    · exact hx
    · obtain ⟨c, -, hcy⟩ := List.mem_map.mp (hevents ▸ List.mem_map_of_mem hy)
      rw [← hcy] at hstart
      cases hstart
  atOnce := nofun
  later before y after h hy := by
    rcases cons_eq_append_cons h with ⟨-, rfl, -⟩ | ⟨mid, -, hentries⟩
    · rw [hx] at hy
      cases hy
    · obtain ⟨hlast, hafter⟩ := hlater mid y after hentries hy
      refine ⟨?_, hlast⟩
      cases cs with
      | nil =>
        rw [List.map_nil, List.map_eq_nil_iff] at hevents
        rw [hevents] at hentries
        exact absurd hentries.symm (by simp)
      | cons c cs =>
        -- What follows any entry lies in the tail of the conversation.
        have htail : after <:+ entries.tail := by
          rw [hentries]
          cases mid with
          | nil => exact List.suffix_refl _
          | cons z mid => exact ⟨mid ++ [y], by simp⟩
        obtain ⟨front, hfront⟩ := htail
        have hmap : (front ++ after).map Entry.event = cs.map Event.called := by
          rw [hfront, List.map_tail, hevents]
          rfl
        rw [List.map_append] at hmap
        obtain ⟨cs₁, cs₂, rfl, -, hafter'⟩ := List.map_eq_append_iff.mp hmap.symm
        exact .calls hafter'.symm hafter fun d hd =>
          hcs.tail_isContact d (List.mem_append_right _ hd)

theorem HaltsForGood.recorded (event : Event) {s : RunState σ} (hs : s.isHalted = false) :
    HaltsForGood s.isHalted [⟨event, s.depth, s.isHalted⟩] (s.recorded event).isHalted := by
  rw [RunState.isHalted_recorded, hs]
  exact .singleton fun _ => rfl

theorem HaltsForGood.reported (r : StepResult) (s : RunState σ) :
    HaltsForGood s.isHalted [⟨.reported r, s.depth, s.isHalted⟩]
      (s.recorded (.reported r)).isHalted := by
  cases hs : s.isHalted with
  | false => exact hs ▸ .recorded _ hs
  | true =>
    rw [RunState.isHalted_recorded, hs]
    exact .ofStopped (.singleton rfl rfl rfl nofun)

/-- Once halted, a run stays so and starts nothing. -/
theorem Course.haltsForGood {limits : CascadeLimits} {base : Nat} {s t : RunState σ}
    {c : Option Abort} (h : Course limits base s c t) :
    ∃ entries, s.Adds entries t ∧ HaltsForGood s.isHalted entries t.isHalted := by
  induction h with
  | quiet h => exact ⟨[], .quiet h, h.isHalted ▸ .nil _⟩
  | append _ _ ih₁ ih₂ =>
    obtain ⟨as, hst, ha⟩ := ih₁
    obtain ⟨bs, htu, hb⟩ := ih₂
    exact ⟨as ++ bs, hst.append htu, ha.append hb⟩
  | @pass s t id label r hst hid hlabel hr =>
    refine ⟨_, (RunState.Adds.recorded _ s).append
      ((RunState.Adds.quiet hst).append (.recorded _ t)), ?_⟩
    have ht : t.isHalted = s.isHalted := hst.isHalted
    rw [RunState.isHalted_recorded, ht]
    cases hs : s.isHalted with
    | true => exact .ofStopped (.pass rfl rfl rfl rfl hid hlabel hr)
    | false =>
      have hreached : HaltsForGood false [⟨.reached id label, s.depth, false⟩] false :=
        .singleton nofun
      exact hreached.append (.singleton nofun)
  | reach id label hs => exact ⟨_, .recorded _ _, .recorded _ hs⟩
  | @attempt s t label number calls c hs hst hcs =>
    obtain ⟨entries, hadds, hevents, -, hlater⟩ := hst.entries
    refine ⟨_, (RunState.Adds.recorded _ s).append hadds, ?_⟩
    rw [hs]
    exact .attempt rfl hcs hevents hlater
  | bound b hs => exact ⟨_, .recorded _ _, .recorded _ hs⟩
  | enter hs => exact ⟨_, .recorded _ _, .recorded _ hs⟩
  | iterate i hs => exact ⟨_, .recorded _ _, .recorded _ hs⟩
  | overflow hs => exact ⟨_, .recorded _ _, .recorded _ hs⟩
  | report r => exact ⟨_, .recorded _ _, .reported r _⟩
  | @latch s halt hs =>
    refine ⟨_, (RunState.Adds.latched halt s).append (.recorded _ (s.latched halt)), ?_⟩
    rw [hs]
    exact .singleton nofun
  | nest _ _ ih => exact ih
  | contain _ _ htu _ ih =>
    obtain ⟨entries, hst, hentries⟩ := ih
    refine ⟨_, hst.append ((RunState.Adds.quiet htu).append (.recorded _ _)), hentries.append ?_⟩
    rw [← htu.isHalted]
    exact .reported _ _
  | exhaust _ hs ih =>
    obtain ⟨entries, hst, hentries⟩ := ih
    exact ⟨_, (RunState.Adds.recorded _ _).append hst, (HaltsForGood.recorded _ hs).append hentries⟩

/-! ### Halted runs -/

namespace RunState

variable {s t : RunState σ}

theorem Adds.calls {entries : List Entry} (h : s.Adds entries t) :
    t.calls.toList = s.calls.toList ++ entries.filterMap Entry.call? := by
  simp only [RunState.calls, Array.toList_filterMap]
  rw [show t.journal.toList = _ from h, List.filterMap_append]

theorem Adds.calls_eq (h : s.Adds [] t) : t.calls = s.calls :=
  Array.toList_inj.mp (by rw [h.calls, List.filterMap_nil, List.append_nil])

theorem Quiet.calls (h : s.Quiet t) : t.calls = s.calls := (Adds.quiet h).calls_eq

theorem calls_recorded {event : Event} (h : event.call? = none) (s : RunState σ) :
    (s.recorded event).calls = s.calls :=
  Array.toList_inj.mp (by rw [(Adds.recorded event s).calls]; simp [Entry.call?, h])

theorem calls_latched (halt : Halt) (s : RunState σ) : (s.latched halt).calls = s.calls := by
  unfold latched
  split <;> rfl

end RunState

theorem Run.Exchange.tripped {s t : RunState σ} {cs : List Call} (h : Run.Exchange s cs t)
    (hs : s.tripped = true) : t.tripped = true := by
  induction h with
  | quiet h => exact h.tripped.trans hs
  | call => simp [RunState.recorded, RunState.answered, hs]
  | append _ _ ih₁ ih₂ => exact ih₂ (ih₁ hs)

namespace Course

variable {limits : CascadeLimits} {base : Nat} {s t : RunState σ} {c : Option Abort}

/-- A tripped stop token stays tripped. -/
theorem tripped (h : Course limits base s c t) (hs : s.tripped = true) : t.tripped = true := by
  induction h with
  | quiet h => exact h.tripped.trans hs
  | append _ _ ih₁ ih₂ => exact ih₂ (ih₁ hs)
  | pass h => exact h.tripped.trans hs
  | attempt _ h => exact h.tripped hs
  | latch halt h => simpa [RunState.recorded, RunState.latched, h] using hs
  | nest _ _ ih => exact ih hs
  | contain _ _ h _ ih => exact h.tripped.trans (ih hs)
  | exhaust _ _ ih => exact ih hs
  | _ => exact hs

theorem isHalted (h : Course limits base s c t) (hs : s.isHalted = true) : t.isHalted = true := by
  obtain ⟨_, -, hentries⟩ := h.haltsForGood
  exact (hentries.atOnce hs).2

/-- From a halted state on, a run is not aborted and makes no calls. -/
theorem idle (h : Course limits base s c t) (hs : s.isHalted = true) :
    c = none ∧ t.calls = s.calls := by
  have hcontra : ∀ {p : Prop} {u : RunState σ}, u.isHalted = false → u.isHalted = true → p :=
    fun hfalse htrue => absurd (hfalse.symm.trans htrue) Bool.false_ne_true
  induction h with
  | quiet h => exact ⟨rfl, h.calls⟩
  | append hst _ ih₁ ih₂ =>
    obtain ⟨hc, hcalls⟩ := ih₂ (hst.isHalted hs)
    exact ⟨hc, hcalls.trans (ih₁ hs).2⟩
  | pass h =>
    exact ⟨rfl, (RunState.calls_recorded rfl _).trans
      (h.calls.trans (RunState.calls_recorded rfl _))⟩
  | report r => exact ⟨rfl, RunState.calls_recorded rfl _⟩
  | nest _ _ ih => exact ih hs
  | contain _ _ _ _ ih => exact absurd (ih hs).1 (Option.some_ne_none _)
  | reach _ _ h | attempt h | bound _ h | enter h | iterate _ h | overflow h | latch _ h
  | exhaust _ h =>
    exact hcontra h hs

end Course

/-- What a run does from a state on, up to its end: once it is halted it stays halted, and no
attempt, no nested step and no iteration starts, no request is sent and no connection is made, and
every step that is reached is passed over. -/
def Run.HaltsForGood {α : Type} (x : Run σ α) (s : RunState σ) : Prop :=
  ∃ entries, s.Adds entries (x.run s).2 ∧
    Casebook.HaltsForGood s.isHalted entries (x.run s).2.isHalted

theorem Engine.runCase_haltsForGood (e : Engine σ) (caseId : CaseId) (s : RunState σ) :
    (e.runCase caseId).HaltsForGood s := by
  rcases e.runCase_follows caseId s with ⟨cause, hrun⟩ | hfollows
  · unfold Run.HaltsForGood
    rw [hrun]
    exact ⟨[], .quiet (.refl s), .nil _⟩
  · exact hfollows.haltsForGood

/-- In a run whose stop token is tripped, a case that is found is reported as interrupted without a
call. -/
theorem Engine.run_runCase_tripped (e : Engine σ) {caseId : CaseId} {info : CaseInfo}
    {steps : List Step} (hinfo : e.repository.caseInfo caseId = .ok info)
    (hsteps : e.repository.steps caseId = .ok steps) {s : RunState σ} (hs : s.tripped = true) :
    ∃ report t, (e.runCase caseId).run s = (.ok report, t) ∧ report.status = .interrupt ∧
      t.tripped = true ∧
      t.calls = s.calls := by
  obtain ⟨s', hquiet, hrun⟩ := e.run_runCase_found hinfo hsteps s
  have hnest : Engine.NestFollows e.config.limits s'.depth e.group 0 :=
    e.group_follows (Nat.zero_le _)
  have hgroup := hnest steps "" none s' rfl
  unfold Run.Follows at hgroup
  have htripped : s'.tripped = true := hquiet.tripped.trans hs
  have hhalted : s'.isHalted = true := (RunState.isHalted_iff s').2 (.inl htripped)
  rcases hrun with ⟨results, t, u, hrun, htu, hcase⟩ | ⟨c, t, hrun, hcase⟩
  · rw [hrun] at hgroup
    have ht : t.tripped = true := hgroup.tripped htripped
    refine ⟨_, u, hcase, ?_, htu.tripped.trans ht, ?_⟩
    · have hthalted : t.isHalted = true := hgroup.isHalted hhalted
      simp [reportOf, hthalted, RunState.status, ht]
    · exact htu.calls.trans ((hgroup.idle hhalted).2.trans hquiet.calls)
  · rw [hrun] at hgroup
    exact absurd (hgroup.idle hhalted).1 (Option.some_ne_none _)

end Casebook
