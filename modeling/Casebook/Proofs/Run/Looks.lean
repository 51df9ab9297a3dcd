import Casebook.Proofs.Run.Cascade
import Casebook.Proofs.Run.OneIteration
import Casebook.Proofs.Run.Trail

/-! What runs look at.  The expressions of steps are all that a run asks its evaluator about, and the journal of the run
tells which iteration of which loop it is in when it does. -/
namespace Casebook

/-! ### Nested steps around a state -/

/-- A nested step that others lie in: a reference to a case, or a loop in an iteration if it is in one. -/
inductive Frame where
  | case
  | loop (iteration : Option Nat)

namespace Frame

def iteration? : Frame → Option Nat
  | .case => none
  | .loop iteration => iteration

/-- The iteration that a loop comes to next. -/
def next? : Frame → Option Nat
  | .case => none
  | .loop iteration => some (iteration.elim 0 (· + 1))

end Frame

/-- Where in a nested step a run is after an event, if the event tells. -/
def Event.frame? : Event → Option Frame
  | .iterated i => some (.loop (some i))
  | .entered .foreach _ => some (.loop none)
  | .entered _ _ => some .case
  | _ => none

/-- The nested steps around a depth, innermost first, from what happened before, latest first. -/
def framesAt : Nat → List Entry → List Frame
  | _, [] => []
  | depth, x :: past =>
    if depth < x.depth then framesAt depth past
    else match x.event.frame? with
      | some frame => frame :: framesAt (x.depth - 1) past
      | none => framesAt x.depth past

theorem framesAt_of_lt {depth : Nat} {x : Entry} (h : depth < x.depth) (past : List Entry) :
    framesAt depth (x :: past) = framesAt depth past := if_pos h

theorem framesAt_plain {depth : Nat} {x : Entry} (hdepth : x.depth ≤ depth) (h : x.event.frame? = none)
    (past : List Entry) : framesAt depth (x :: past) = framesAt x.depth past := by
  rw [framesAt, if_neg (Nat.not_lt.mpr hdepth), h]

theorem framesAt_frame {depth : Nat} {x : Entry} {frame : Frame} (hdepth : x.depth ≤ depth)
    (h : x.event.frame? = some frame) (past : List Entry) :
    framesAt depth (x :: past) = frame :: framesAt (x.depth - 1) past := by
  rw [framesAt, if_neg (Nat.not_lt.mpr hdepth), h]

namespace RunState

variable {σ : Type}

/-- What happened so far, latest first. -/
def past (s : RunState σ) : List Entry := s.journal.toList.reverse

/-- The nested steps that a run is in, innermost first. -/
def frames (s : RunState σ) : List Frame := framesAt s.depth s.past

/-- The iteration of the innermost loop that a run is in, if it is in any. -/
def iteration (s : RunState σ) : Option Nat := s.frames.findSome? Frame.iteration?

/-- The iteration that the innermost nested step comes to next, if that is a loop. -/
def upcoming (s : RunState σ) : Option Nat := s.frames.head?.bind Frame.next?

theorem past_recorded (x : Event) (s : RunState σ) : (s.recorded x).past = ⟨x, s.depth, s.isHalted⟩ :: s.past := by
  simp [past]

theorem frames_recorded {x : Event} (h : x.frame? = none) (s : RunState σ) : (s.recorded x).frames = s.frames := by
  rw [frames, past_recorded]
  exact framesAt_plain (Nat.le_refl s.depth) h s.past

theorem frames_frame {x : Event} {frame : Frame} (h : x.frame? = some frame) (s : RunState σ) :
    (s.recorded x).frames = frame :: framesAt (s.depth - 1) s.past := by
  rw [frames, past_recorded]
  exact framesAt_frame (Nat.le_refl s.depth) h s.past

theorem iteration_recorded {x : Event} (h : x.frame? = none) (s : RunState σ) :
    (s.recorded x).iteration = s.iteration := by
  rw [iteration, frames_recorded h, iteration]

/-- In an iteration of a loop that one is seen. -/
theorem iteration_iterated (i : Nat) (s : RunState σ) : (s.recorded (.iterated i)).iteration = some i := by
  rw [iteration, frames_frame rfl]
  rfl

theorem upcoming_iterated (i : Nat) (s : RunState σ) : (s.recorded (.iterated i)).upcoming = some (i + 1) := by
  rw [upcoming, frames_frame rfl]
  rfl

/-- A loop that was just entered comes to its first iteration. -/
theorem upcoming_entered (level : Nat) (s : RunState σ) : (s.recorded (.entered .foreach level)).upcoming = some 0 := by
  rw [upcoming, frames_frame rfl]
  rfl

/-- An attempt at a nested step starts where the run was before. -/
theorem frames_deeper {x : Event} (h : x.frame? = none) (s : RunState σ) :
    ({ s.recorded x with depth := s.depth + 1 } : RunState σ).frames = s.frames := by
  change framesAt (s.depth + 1) (s.recorded x).past = s.frames
  rw [past_recorded]
  exact framesAt_plain (Nat.le_succ s.depth) h s.past

/-- What is recorded between two states lies at the depth of the first one or deeper; seen from outside of nested steps,
nothing at that depth itself tells of a place in one. -/
structure Around (outer : Bool) (s t : RunState σ) : Prop where
  depth : t.depth = s.depth
  entries : ∃ entries, s.Adds entries t ∧ ∀ x ∈ entries, s.depth ≤ x.depth ∧
    (outer = true → x.depth = s.depth → x.event.frame? = none)

namespace Around

variable {outer : Bool} {s t u : RunState σ}

theorem quiet (h : s.Quiet t) : Around outer s t := ⟨h.depth, [], .quiet h, by simp⟩

theorem latched (halt : Halt) (s : RunState σ) : Around outer s (s.latched halt) where
  depth := by
    unfold RunState.latched
    split <;> rfl
  entries := ⟨[], .latched halt s, by simp⟩

theorem recorded {x : Event} (h : outer = true → x.frame? = none) (s : RunState σ) :
    Around outer s (s.recorded x) := by
  refine ⟨rfl, _, .recorded x s, fun y hy => ?_⟩
  cases List.mem_singleton.mp hy
  exact ⟨Nat.le_refl _, fun houter _ => h houter⟩

theorem exchange {calls : List Call} (h : Run.Exchange s calls t) : Around outer s t := by
  obtain ⟨entries, hadds, hdepths⟩ := h.depths
  refine ⟨h.depth_eq, entries, hadds, fun x hx => ?_⟩
  obtain ⟨hdepth, call, hcall⟩ := hdepths x hx
  exact ⟨Nat.le_of_eq hdepth.symm, fun _ _ => by rw [hcall]; rfl⟩

theorem append (hst : Around outer s t) (htu : Around outer t u) : Around outer s u := by
  obtain ⟨hdepth, as, has, hfirst⟩ := hst
  obtain ⟨hdepth', bs, hbs, hsecond⟩ := htu
  rw [hdepth] at hdepth' hsecond
  exact ⟨hdepth', as ++ bs, has.append hbs, fun x hx => (List.mem_append.mp hx).elim (hfirst x) (hsecond x)⟩

/-- Inside of a nested step all is deeper. -/
theorem nested (h : Around false { s with depth := s.depth + 1 } t) : Around outer s { t with depth := s.depth } := by
  obtain ⟨-, entries, hadds, hdeeper⟩ := h
  refine ⟨rfl, entries, hadds, fun x hx => ?_⟩
  have hlt : s.depth + 1 ≤ x.depth := (hdeeper x hx).1
  exact ⟨by omega, fun _ hdepth => by omega⟩

/-- Outside of nested steps a run comes back to the place where it was. -/
theorem frames_eq (h : Around true s t) : t.frames = s.frames := by
  obtain ⟨hdepth, entries, hadds, hplain⟩ := h
  have hpast : t.past = entries.reverse ++ s.past := by
    unfold past
    rw [hadds, List.reverse_append]
  have hskip : ∀ xs : List Entry, (∀ x ∈ xs, x ∈ entries) → framesAt s.depth (xs ++ s.past) = s.frames := by
    intro xs hxs
    induction xs with
    | nil => rfl
    | cons x xs ih =>
      obtain ⟨hle, hplaces⟩ := hplain x (hxs x List.mem_cons_self)
      rw [List.cons_append, ← ih fun y hy => hxs y (List.mem_cons_of_mem x hy)]
      rcases Nat.lt_or_eq_of_le hle with hlt | heq
      · exact framesAt_of_lt hlt _
      · rw [framesAt_plain (Nat.le_of_eq heq.symm) (hplaces rfl heq.symm), ← heq]
  rw [frames, hdepth, hpast]
  exact hskip _ fun x hx => List.mem_reverse.mp hx

theorem iteration_eq (h : Around true s t) : t.iteration = s.iteration := by rw [iteration, h.frames_eq, iteration]

theorem upcoming_eq (h : Around true s t) : t.upcoming = s.upcoming := by rw [upcoming, h.frames_eq, upcoming]

end Around

end RunState

/-! ### Looks -/

/-- What is resolved in the scope of a state. -/
inductive Subject where
  | runCondition (text : String)
  /-- The bound of a loop. -/
  | times (value : Json.Value)
  | breakCondition (text : String)
  /-- All expressions of an attempt. -/
  | api (head : StepHead) (params : ApiParams) (label : String)
  | sql (params : SqlParams) (label : String)

/-- A look at the expressions of a step, at a state of a run. -/
structure Look (σ : Type) where
  subject : Subject
  start : RunState σ

/-- The iteration that expressions see: that of the innermost loop around, but for a break condition, which is looked at
before its loop comes to the iteration. -/
def Look.index {σ : Type} (l : Look σ) : Option Nat :=
  match l.subject with
  | .breakCondition _ => l.start.upcoming
  | _ => l.start.iteration

namespace Engine

open Run (Still)

variable {σ : Type} (e : Engine σ)

/-- An evaluator answers as that of the engine at a look. -/
def Agrees (ev : Evaluator) (l : Look σ) : Prop :=
  match l.subject with
  | .runCondition text | .breakCondition text =>
    ev.condition text l.start.scope l.index = e.ev.condition text l.start.scope l.index
  | .times value =>
    LoopBound.resolve ev value l.start.scope l.index = LoopBound.resolve e.ev value l.start.scope l.index
  | .api head p label => ((e.given ev).api head p label l.index).run l.start = (e.api head p label l.index).run l.start
  | .sql p label => ((e.given ev).sql p label l.index).run l.start = (e.sql p label l.index).run l.start

/-- The state after a look, which an attempt changes. -/
def lookedAt (l : Look σ) : RunState σ :=
  match l.subject with
  | .api head p label => ((e.api head p label l.index).run l.start).2
  | .sql p label => ((e.sql p label l.index).run l.start).2
  | _ => l.start

/-- From one state to another with such looks on the way, none of them in a halted run.  Outside of nested steps no
event tells of a place in one. -/
inductive Looks : Bool → RunState σ → List (Look σ) → RunState σ → Prop where
  | still {outer : Bool} {s t : RunState σ} : s.Quiet t → t.scope = s.scope → Looks outer s [] t
  | latched {outer : Bool} (halt : Halt) (s : RunState σ) : Looks outer s [] (s.latched halt)
  | event {outer : Bool} {x : Event} (s : RunState σ) : x.call? = none → (outer = true → x.frame? = none) →
    Looks outer s [] (s.recorded x)
  | look {outer : Bool} (subject : Subject) {s : RunState σ} : s.isHalted = false →
    Looks outer s [⟨subject, s⟩] (e.lookedAt ⟨subject, s⟩)
  | nested {outer : Bool} {s t : RunState σ} {looks : List (Look σ)} :
    Looks false { s with depth := s.depth + 1 } looks t → Looks outer s looks { t with depth := s.depth }
  | append {outer : Bool} {s t u : RunState σ} {looks later : List (Look σ)} :
    Looks outer s looks t → Looks outer t later u → Looks outer s (looks ++ later) u

variable {e}

theorem Looks.inside {outer : Bool} {s t : RunState σ} {looks : List (Look σ)} (h : e.Looks outer s looks t) :
    e.Looks false s looks t := by
  induction h with
  | still hquiet hscope => exact .still hquiet hscope
  | latched halt s => exact .latched halt s
  | event s hcall => exact .event s hcall nofun
  | look subject hawake => exact .look subject hawake
  | nested h => exact .nested h
  | append _ _ ih₁ ih₂ => exact ih₁.append ih₂

theorem agrees_self (l : Look σ) : e.Agrees e.ev l := by
  rcases l with ⟨_ | _ | _ | _ | _, start⟩ <;> exact rfl

theorem around_lookedAt {outer : Bool} (subject : Subject) (s : RunState σ) :
    RunState.Around outer s (e.lookedAt ⟨subject, s⟩) := by
  cases subject with
  | api head p label =>
    obtain ⟨calls, -, hcalls, -⟩ := e.api_converses head p label (Look.index ⟨.api head p label, s⟩) s
    exact .exchange hcalls
  | sql p label =>
    obtain ⟨calls, -, hcalls, -⟩ := e.sql_converses p label (Look.index ⟨.sql p label, s⟩) s
    exact .exchange hcalls
  | runCondition | times | breakCondition => exact .quiet (.refl s)

theorem Looks.around {outer : Bool} {s t : RunState σ} {looks : List (Look σ)} (h : e.Looks outer s looks t) :
    RunState.Around outer s t := by
  induction h with
  | still hquiet => exact .quiet hquiet
  | latched halt s => exact .latched halt s
  | event s _ hplaces => exact .recorded hplaces s
  | look subject => exact around_lookedAt subject _
  | nested _ ih => exact .nested ih
  | append _ _ ih₁ ih₂ => exact ih₁.append ih₂

/-! ### Parts of runs that go by what they look at -/

variable (e) in
/-- A part of a run goes by the answers to its looks: with whatever evaluator gives the same ones it does the same. -/
def Heeds {α : Type} (outer : Bool) (x : Evaluator → Run σ α) (s : RunState σ) : Prop :=
  ∃ looks, e.Looks outer s looks ((x e.ev).run s).2 ∧
    ∀ ev, (∀ l ∈ looks, e.Agrees ev l) → (x ev).run s = (x e.ev).run s

namespace Heeds

variable {α β : Type} {outer : Bool} {s t : RunState σ}

theorem around {x : Evaluator → Run σ α} (hx : e.Heeds true x s) {r : Except Abort α} (hrun : (x e.ev).run s = (r, t)) :
    RunState.Around true s t := by
  obtain ⟨looks, hlooks, -⟩ := hx
  rw [hrun] at hlooks
  exact hlooks.around

theorem inside {x : Evaluator → Run σ α} (hx : e.Heeds outer x s) : e.Heeds false x s := by
  obtain ⟨looks, hlooks, hsame⟩ := hx
  exact ⟨looks, hlooks.inside, hsame⟩

theorem still {x : Run σ α} (hx : Still x) (s : RunState σ) : e.Heeds outer (fun _ => x) s := by
  obtain ⟨a, t, hrun, hquiet, hscope⟩ := hx s
  rw [Heeds, hrun]
  exact ⟨[], .still hquiet hscope, fun _ _ => rfl⟩

theorem throw (c : Abort) (s : RunState σ) : e.Heeds outer (fun _ => (MonadExcept.throw c : Run σ α)) s :=
  ⟨[], .still (.refl s) rfl, fun _ _ => rfl⟩

theorem record {x : Event} (hcall : x.call? = none) (hplain : x.frame? = none) (s : RunState σ) :
    e.Heeds outer (fun _ => Run.record x) s :=
  ⟨[], .event s hcall fun _ => hplain, fun _ _ => rfl⟩

/-- Inside of a nested step an event may tell of a place in it. -/
theorem recordInside {x : Event} (hcall : x.call? = none) (s : RunState σ) :
    e.Heeds false (fun _ => Run.record x) s :=
  ⟨[], .event s hcall nofun, fun _ _ => rfl⟩

theorem bind {x : Evaluator → Run σ α} {k : Evaluator → α → Run σ β} (hx : e.Heeds outer x s)
    (hk : ∀ a t, (x e.ev).run s = (.ok a, t) → e.Heeds outer (fun ev => k ev a) t) :
    e.Heeds outer (fun ev => x ev >>= k ev) s := by
  obtain ⟨looks, hlooks, hsame⟩ := hx
  rcases hrun : (x e.ev).run s with ⟨c | a, t⟩ <;> rw [hrun] at hlooks hsame
  · refine ⟨looks, ?_, fun ev hev => ?_⟩
    · rw [Run.run_bind_of_error hrun]
      exact hlooks
    · rw [Run.run_bind_of_error hrun, Run.run_bind_of_error (hsame ev hev)]
  · obtain ⟨later, hlater, hsame'⟩ := hk a t hrun
    refine ⟨looks ++ later, ?_, fun ev hev => ?_⟩
    · rw [Run.run_bind_of_ok hrun]
      exact hlooks.append hlater
    · have hfirst : ∀ l ∈ looks, e.Agrees ev l := fun l hl => hev l (List.mem_append_left later hl)
      have hsecond : ∀ l ∈ later, e.Agrees ev l := fun l hl => hev l (List.mem_append_right looks hl)
      rw [Run.run_bind_of_ok hrun, Run.run_bind_of_ok (hsame ev hfirst)]
      exact hsame' ev hsecond

/-- What is read off a state does not change it. -/
theorem read {x : Run σ α} {k : Evaluator → α → Run σ β} {a : α} (hx : x.run s = (.ok a, s))
    (hk : e.Heeds outer (fun ev => k ev a) s) : e.Heeds outer (fun ev => x >>= k ev) s := by
  obtain ⟨looks, hlooks, hsame⟩ := hk
  refine ⟨looks, ?_, fun ev hev => ?_⟩
  · rw [Run.run_bind_of_ok hx]
    exact hlooks
  · rw [Run.run_bind_of_ok hx, Run.run_bind_of_ok hx]
    exact hsame ev hev

/-- An attempt is one look. -/
theorem attempt {x : Evaluator → Run σ α} (subject : Subject) (hawake : s.isHalted = false)
    (hlooked : e.lookedAt ⟨subject, s⟩ = ((x e.ev).run s).2)
    (hagrees : ∀ ev, e.Agrees ev ⟨subject, s⟩ → (x ev).run s = (x e.ev).run s) : e.Heeds outer x s := by
  refine ⟨[⟨subject, s⟩], ?_, fun ev hev => hagrees ev (hev _ List.mem_cons_self)⟩
  rw [← hlooked]
  exact .look subject hawake

/-- What goes on after a look goes by its answer. -/
theorem asks {x y : Evaluator → Run σ α} (subject : Subject) (hawake : s.isHalted = false)
    (hlooked : e.lookedAt ⟨subject, s⟩ = s) (hanswer : ∀ ev, e.Agrees ev ⟨subject, s⟩ → (x ev).run s = (y ev).run s)
    (hy : e.Heeds outer y s) : e.Heeds outer x s := by
  have hlook : e.Looks outer s [⟨subject, s⟩] (e.lookedAt ⟨subject, s⟩) := .look subject hawake
  have hself : (x e.ev).run s = (y e.ev).run s := hanswer e.ev (agrees_self _)
  rw [hlooked] at hlook
  obtain ⟨looks, hlooks, hsame⟩ := hy
  refine ⟨_, hlook.append (hself ▸ hlooks), fun ev hev => ?_⟩
  rw [hanswer ev (hev _ List.mem_cons_self), hself]
  exact hsame ev fun l hl => hev l (List.mem_append_right _ hl)

theorem nested {x : Evaluator → Run σ α} (hx : e.Heeds false x { s with depth := s.depth + 1 }) :
    e.Heeds outer (fun ev => Run.nested (x ev)) s := by
  obtain ⟨looks, hlooks, hsame⟩ := hx
  refine ⟨looks, .nested hlooks, fun ev hev => ?_⟩
  rw [Run.run_nested, Run.run_nested, hsame ev hev]

theorem contained {x : Evaluator → Run σ Attempt} (label : String) (level : Nat) (hx : e.Heeds outer x s) :
    e.Heeds outer (fun ev => Engine.contained label level (x ev)) s := by
  obtain ⟨looks, hlooks, hsame⟩ := hx
  refine ⟨looks, ?_, fun ev hev => ?_⟩
  · rw [run_contained]
    split
    case h_1 kind limit t hrun =>
      rw [hrun] at hlooks
      split
      · have hnoted := hlooks.append (.still (.noted ⟨.error, "'" ++ label ++ "' exceeded the " ++ kind.nesting ++
          " nesting limit"⟩ t) rfl)
        rwa [List.append_nil] at hnoted
      · exact hlooks
    case h_2 => exact hlooks
  · rw [run_contained, run_contained, hsame ev hev]

/-- Steps that are run with heed one by one are so run one after another. -/
theorem mapM {x : Evaluator → Step → Run σ StepResult} {index : Option Nat}
    (hx : ∀ step t, t.iteration = index → e.Heeds true (fun ev => x ev step) t) (steps : List Step)
    (hs : s.iteration = index) : e.Heeds true (fun ev => steps.mapM (x ev)) s := by
  induction steps generalizing s with
  | nil => exact .still (.pure []) s
  | cons step steps ih =>
    have hstep := hx step s hs
    simp only [List.mapM_cons]
    refine hstep.bind fun r t hrun => ?_
    have ht : t.iteration = index := (hstep.around hrun).iteration_eq.trans hs
    exact (ih ht).bind fun rs u _ => .still (.pure _) u

end Heeds

end Engine

end Casebook
