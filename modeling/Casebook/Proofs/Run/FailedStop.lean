import Casebook.Proofs.Run.Halting
import Casebook.Proofs.Run.Likeness

/-! Stopping at the first failure only cuts a run short.  The run that stops and the run that goes
on do the same until a step has failed; from there on the one makes no more calls. -/
namespace Casebook

/-! ### Journals -/

/-- The calls among entries. -/
def callsIn (entries : List Entry) : List Call := entries.filterMap Entry.call?

/-- The results among entries, in the order in which they were reported. -/
def reportsIn (entries : List Entry) : List StepResult := entries.filterMap Entry.report?

/-- Results up to the first failure, that one included. -/
def uptoFailure : List StepResult → List StepResult
  | [] => []
  | r :: rs => if r.isFailed then [r] else r :: uptoFailure rs

@[simp] theorem callsIn_append (as bs : List Entry) :
    callsIn (as ++ bs) = callsIn as ++ callsIn bs :=
  List.filterMap_append ..

@[simp] theorem reportsIn_append (as bs : List Entry) :
    reportsIn (as ++ bs) = reportsIn as ++ reportsIn bs :=
  List.filterMap_append ..

/-- Whether a failure is among results. -/
def HasFailure (results : List StepResult) : Prop := ∃ r ∈ results, r.isFailed = true

theorem HasFailure.append {as bs : List StepResult} :
    HasFailure (as ++ bs) ↔ HasFailure as ∨ HasFailure bs := by
  constructor
  · rintro ⟨r, hr, hfailed⟩
    rcases List.mem_append.mp hr with hr | hr
    · exact .inl ⟨r, hr, hfailed⟩
    · exact .inr ⟨r, hr, hfailed⟩
  · rintro (⟨r, hr, hfailed⟩ | ⟨r, hr, hfailed⟩)
    · exact ⟨r, List.mem_append_left _ hr, hfailed⟩
    · exact ⟨r, List.mem_append_right _ hr, hfailed⟩

theorem uptoFailure_append_of_failure {as : List StepResult} (h : HasFailure as)
    (bs : List StepResult) : uptoFailure (as ++ bs) = uptoFailure as := by
  induction as with
  | nil =>
    obtain ⟨r, hr, -⟩ := h
    cases hr
  | cons a as ih =>
    rw [List.cons_append, uptoFailure, uptoFailure]
    cases ha : a.isFailed with
    | true => rfl
    | false =>
      have has : HasFailure as := by
        obtain ⟨r, hr, hfailed⟩ := h
        rcases List.mem_cons.mp hr with rfl | hr
        · rw [ha] at hfailed
          cases hfailed
        · exact ⟨r, hr, hfailed⟩
      rw [ih has]

theorem uptoFailure_append {as : List StepResult} (h : ¬HasFailure as) (bs : List StepResult) :
    uptoFailure (as ++ bs) = as ++ uptoFailure bs := by
  induction as with
  | nil => rfl
  | cons a as ih =>
    have ha : a.isFailed = false := Bool.eq_false_iff.mpr fun ha => h ⟨a, List.mem_cons_self, ha⟩
    have has : ¬HasFailure as := fun ⟨r, hr, hfailed⟩ => h ⟨r, List.mem_cons_of_mem a hr, hfailed⟩
    rw [List.cons_append, uptoFailure, ha, if_neg Bool.false_ne_true, ih has, List.cons_append]

theorem hasFailure_uptoFailure {as : List StepResult} :
    HasFailure (uptoFailure as) ↔ HasFailure as := by
  induction as with
  | nil => exact Iff.rfl
  | cons a as ih =>
    have hcons : ∀ bs, HasFailure (a :: bs) ↔ a.isFailed = true ∨ HasFailure bs :=
      fun bs => by simp [HasFailure]
    unfold uptoFailure
    rw [hcons]
    cases ha : a.isFailed with
    | true => simp [HasFailure, ha]
    | false =>
      rw [if_neg Bool.false_ne_true, hcons, ha, ih]

variable {σ : Type}

/-- Two runs have parted: the first one was halted by a failure, and up to there the second one did
the same. -/
structure Parted (s t u : RunState σ) : Prop where
  awake : s.isHalted = false
  halted : t.isHalted = true
  entries : ∃ as bs, s.Adds as t ∧ s.Adds bs u ∧ callsIn as <+: callsIn bs ∧
    HasFailure (reportsIn as) ∧
    uptoFailure (reportsIn as) = uptoFailure (reportsIn bs)

namespace Parted

variable {s t u v w : RunState σ}

/-- What both runs did before goes before. -/
theorem after {as : List Entry} (hst : s.Adds as t) (has : ¬HasFailure (reportsIn as))
    (hs : s.isHalted = false) (h : Parted t u v) : Parted s u v := by
  obtain ⟨bs, cs, hbs, hcs, hcalls, hfailure, heq⟩ := h.entries
  refine ⟨hs, h.halted, as ++ bs, as ++ cs, hst.append hbs, hst.append hcs, ?_, ?_, ?_⟩
  · rw [callsIn_append, callsIn_append]
    exact (List.prefix_append_right_inj _).mpr hcalls
  · rw [reportsIn_append]
    exact HasFailure.append.mpr (.inr hfailure)
  · rw [reportsIn_append, reportsIn_append, uptoFailure_append has, uptoFailure_append has, heq]

/-- Whatever comes after, as long as the first run makes no calls. -/
theorem goOn {ds es : List Entry} (h : Parted s t u) (htv : t.Adds ds v) (hds : callsIn ds = [])
    (hv : v.isHalted = true) (huw : u.Adds es w) : Parted s v w := by
  obtain ⟨as, bs, hbs, hcs, hcalls, hfailure, heq⟩ := h.entries
  have hfailure' : HasFailure (reportsIn bs) := by
    rw [← hasFailure_uptoFailure, ← heq, hasFailure_uptoFailure]
    exact hfailure
  refine ⟨h.awake, hv, as ++ ds, bs ++ es, hbs.append htv, hcs.append huw, ?_, ?_, ?_⟩
  · rw [callsIn_append, callsIn_append, hds, List.append_nil]
    exact hcalls.trans (List.prefix_append _ _)
  · rw [reportsIn_append]
    exact HasFailure.append.mpr (.inl hfailure)
  · rw [reportsIn_append, reportsIn_append, uptoFailure_append_of_failure hfailure,
      uptoFailure_append_of_failure hfailure', heq]

end Parted

namespace Run

variable {α β γ δ : Type}

/-- The first part of a run does as the second until a failure halts it; a halted one makes no
calls. -/
structure Cuts (awake : Bool) (f : α → β) (x : Run σ α) (x' : Run σ β) : Prop where
  idle : awake = false → ∀ s : RunState σ, s.isHalted = true →
    ∃ entries, s.Adds entries (x.run s).2 ∧ callsIn entries = [] ∧
    (x.run s).2.isHalted = true
  adds : ∀ s : RunState σ, ∃ entries, s.Adds entries (x'.run s).2
  together : ∀ s : RunState σ, (awake = true → s.isHalted = false) →
    (x'.run s = ((x.run s).1.map f, (x.run s).2) ∧
      (s.isHalted = true → (x.run s).2.isHalted = true) ∧
      ∃ entries, s.Adds entries (x.run s).2 ∧
        (HasFailure (reportsIn entries) → (x.run s).2.isHalted = true)) ∨
    Parted s (x.run s).2 (x'.run s).2

namespace Cuts

variable {awake : Bool}

theorem weaken {f : α → β} {x : Run σ α} {x' : Run σ β} (h : Cuts false f x x') :
    Cuts true f x x' :=
  ⟨nofun, h.adds, fun s _ => h.together s nofun⟩

theorem pure (f : α → β) (a : α) : Cuts false f (Pure.pure a : Run σ α) (Pure.pure (f a)) where
  idle _ s hs := ⟨[], .quiet (.refl s), rfl, hs⟩
  adds s := ⟨[], .quiet (.refl s)⟩
  together s _ := .inl ⟨rfl, id, [], .quiet (.refl s), fun ⟨_, hr, _⟩ => by cases hr⟩

theorem throw (f : α → β) (c : Abort) : Cuts false f (throw c : Run σ α) (throw c) where
  idle _ s hs := ⟨[], .quiet (.refl s), rfl, hs⟩
  adds s := ⟨[], .quiet (.refl s)⟩
  together s _ := .inl ⟨rfl, id, [], .quiet (.refl s), fun ⟨_, hr, _⟩ => by cases hr⟩

/-- What a part of a run adds, and then what follows it from there. -/
theorem rest_adds {x : Run σ α} {k : α → Run σ γ} {s : RunState σ}
    (hk : ∀ a (t : RunState σ), ∃ entries, t.Adds entries ((k a).run t).2) :
    ∃ entries, (x.run s).2.Adds entries ((x >>= k).run s).2 := by
  rcases h : x.run s with ⟨c | a, t⟩
  · rw [run_bind_of_error h]
    exact ⟨[], .quiet (.refl t)⟩
  · rw [run_bind_of_ok h]
    exact hk a t

/-- Where the first part left the run halted, what follows makes no calls. -/
theorem rest_idle {g : γ → δ} {x : Run σ α} {k : α → Run σ γ} {k' : α → Run σ δ}
    (hk : ∀ a, Cuts false g (k a) (k' a)) {s : RunState σ} (hs : (x.run s).2.isHalted = true) :
    ∃ entries, (x.run s).2.Adds entries ((x >>= k).run s).2 ∧ callsIn entries = [] ∧
      ((x >>= k).run s).2.isHalted = true := by
  rcases h : x.run s with ⟨c | a, t⟩ <;> rw [h] at hs
  · rw [run_bind_of_error h]
    exact ⟨[], .quiet (.refl t), rfl, hs⟩
  · rw [run_bind_of_ok h]
    exact (hk a).idle rfl t hs

/-- Two runs that went on together part in what follows, or go on together. -/
theorem rest_together {g : γ → δ} {k : Run σ γ} {k' : Run σ δ} (hk : Cuts false g k k')
    {s t : RunState σ} (hhalted : s.isHalted = true → t.isHalted = true) {as : List Entry}
    (hst : s.Adds as t) (hfailure : HasFailure (reportsIn as) → t.isHalted = true) :
    (k'.run t = ((k.run t).1.map g, (k.run t).2) ∧
      (s.isHalted = true → (k.run t).2.isHalted = true) ∧
      ∃ entries, s.Adds entries (k.run t).2 ∧
        (HasFailure (reportsIn entries) → (k.run t).2.isHalted = true)) ∨
    Parted s (k.run t).2 (k'.run t).2 := by
  rcases hk.together t nofun with ⟨heq, hkeeps, bs, htu, hfailure'⟩ | hparted
  · left
    refine ⟨heq, fun hs => hkeeps (hhalted hs), as ++ bs, hst.append htu, fun hboth => ?_⟩
    rw [reportsIn_append] at hboth
    rcases HasFailure.append.mp hboth with h | h
    · exact hkeeps (hfailure h)
    · exact hfailure' h
  · right
    have ht : ¬t.isHalted = true := by simp [hparted.awake]
    have hs : s.isHalted = false := Bool.eq_false_iff.mpr fun hs => ht (hhalted hs)
    exact hparted.after hst (fun h => ht (hfailure h)) hs

theorem bind {f : α → β} {g : γ → δ} {x : Run σ α} {x' : Run σ β} {k : α → Run σ γ}
    {k' : β → Run σ δ} (hf : Function.Surjective f) (hx : Cuts awake f x x')
    (hk : ∀ a, Cuts false g (k a) (k' (f a))) : Cuts awake g (x >>= k) (x' >>= k') := by
  have hadds : ∀ b (u : RunState σ), ∃ entries, u.Adds entries ((k' b).run u).2 := by
    intro b u
    obtain ⟨a, rfl⟩ := hf b
    exact (hk a).adds u
  refine ⟨fun hawake s hs => ?_, fun s => ?_, fun s hs => ?_⟩
  · obtain ⟨as, hst, hcalls, ht⟩ := hx.idle hawake s hs
    obtain ⟨bs, htu, hcalls', hu⟩ := rest_idle hk ht
    have hboth : callsIn (as ++ bs) = [] := by simp [hcalls, hcalls']
    exact ⟨as ++ bs, hst.append htu, hboth, hu⟩
  · obtain ⟨as, hst⟩ := hx.adds s
    obtain ⟨bs, htu⟩ := rest_adds (x := x') (s := s) hadds
    exact ⟨as ++ bs, hst.append htu⟩
  · rcases hx.together s hs with ⟨heq, hhalted, as, hst, hfailure⟩ | hparted
    · rcases h : x.run s with ⟨c | a, t⟩ <;> rw [h] at heq hst hhalted hfailure
      · rw [run_bind_of_error h, run_bind_of_error heq]
        exact .inl ⟨rfl, hhalted, as, hst, hfailure⟩
      · rw [run_bind_of_ok h, run_bind_of_ok heq]
        exact rest_together (hk a) hhalted hst hfailure
    · right
      obtain ⟨ds, hds, hcalls, hhalted⟩ := rest_idle hk hparted.halted
      obtain ⟨es, hes⟩ := rest_adds (x := x') (s := s) hadds
      exact hparted.goOn hds hcalls hhalted hes

/-- After something that is neither a call nor a report, and does not halt the run, the same holds
of what follows. -/
theorem after {g : β → γ} {x : Run σ α} {k : α → Run σ β} {k' : α → Run σ γ}
    (hx : ∀ s, ∃ a t entries, x.run s = (.ok a, t) ∧ s.Adds entries t ∧ callsIn entries = [] ∧
      reportsIn entries = [] ∧ t.isHalted = s.isHalted)
    (hk : ∀ a, Cuts awake g (k a) (k' a)) : Cuts awake g (x >>= k) (x >>= k') := by
  refine ⟨fun hawake s hs => ?_, fun s => ?_, fun s hs => ?_⟩ <;>
    obtain ⟨a, t, as, hrun, hst, hcalls, hreports, hhalted⟩ := hx s
  · obtain ⟨bs, htu, hcalls', hu⟩ := (hk a).idle hawake t (hhalted.trans hs)
    rw [run_bind_of_ok hrun]
    have hboth : callsIn (as ++ bs) = [] := by simp [hcalls, hcalls']
    exact ⟨as ++ bs, hst.append htu, hboth, hu⟩
  · obtain ⟨bs, htu⟩ := (hk a).adds t
    rw [run_bind_of_ok hrun]
    exact ⟨as ++ bs, hst.append htu⟩
  · rw [run_bind_of_ok hrun, run_bind_of_ok hrun]
    have hnone : ¬HasFailure (reportsIn as) := by
      rw [hreports]
      rintro ⟨r, hr, -⟩
      cases hr
    have ht : awake = true → t.isHalted = false := fun hawake => hhalted.trans (hs hawake)
    rcases (hk a).together t ht with ⟨heq, hkeeps, bs, htu, hfailure⟩ | hparted
    · refine .inl ⟨heq, fun hs => hkeeps (hhalted.trans hs), as ++ bs, hst.append htu, ?_⟩
      intro hboth
      apply hfailure
      rw [reportsIn_append] at hboth
      exact (HasFailure.append.mp hboth).resolve_left hnone
    · exact .inr (hparted.after hst hnone (hhalted.symm.trans hparted.awake))

theorem silently {g : β → γ} {x : Run σ α} {k : α → Run σ β} {k' : α → Run σ γ} (hx : Silent x)
    (hk : ∀ a, Cuts awake g (k a) (k' a)) : Cuts awake g (x >>= k) (x >>= k') := by
  refine after (fun s => ?_) hk
  obtain ⟨a, t, hrun, hst, -⟩ := hx s
  exact ⟨a, t, [], hrun, .quiet hst, rfl, rfl, hst.isHalted⟩

theorem record {g : α → β} {event : Event} {x : Run σ α} {x' : Run σ β} (hcall : event.call? = none)
    (hreport : event.report? = none) (hx : Cuts awake g x x') :
    Cuts awake g (Run.record event >>= fun _ => x) (Run.record event >>= fun _ => x') := by
  refine after (fun s => ⟨(), _, _, run_record event s, .recorded event s, ?_, ?_, rfl⟩) fun _ => hx
  · simp [callsIn, Entry.call?, hcall]
  · simp [reportsIn, Entry.report?, hreport]

theorem converse {f : α → α} {x : Run σ α} (hx : Converses Conversation x)
    (hf : Returns (fun a => f a = a) x) : Cuts true f x x := by
  have hadds : ∀ s : RunState σ,
      ∃ entries, s.Adds entries (x.run s).2 ∧ reportsIn entries = [] := by
    intro s
    obtain ⟨calls, -, hst, -⟩ := hx s
    obtain ⟨entries, hadds, hevents, -⟩ := hst.entries
    refine ⟨entries, hadds, List.filterMap_eq_nil_iff.mpr fun y hy => ?_⟩
    obtain ⟨call, -, hcall⟩ := List.mem_map.mp (hevents ▸ List.mem_map_of_mem hy)
    rw [Entry.report?, ← hcall]
    rfl
  refine ⟨nofun, fun s => ?_, fun s hs => .inl ⟨?_, ?_, ?_⟩⟩
  · obtain ⟨entries, hst, -⟩ := hadds s
    exact ⟨entries, hst⟩
  · rcases h : x.run s with ⟨c | a, t⟩
    · rfl
    · simp only [Except.map]
      rw [hf s a t h]
  · rw [hs rfl]
    exact nofun
  · obtain ⟨entries, hst, hreports⟩ := hadds s
    refine ⟨entries, hst, ?_⟩
    rw [hreports]
    rintro ⟨r, hr, -⟩
    cases hr

theorem nested {f : α → β} {x : Run σ α} {x' : Run σ β} (hx : Cuts true f x x') :
    Cuts true f (Run.nested x) (Run.nested x') := by
  refine ⟨nofun, fun s => hx.adds { s with depth := s.depth + 1 }, fun s hs => ?_⟩
  rcases hx.together { s with depth := s.depth + 1 } hs with ⟨heq, hkeeps, hadds⟩ | hparted
  · left
    rw [run_nested, run_nested, heq]
    exact ⟨rfl, hkeeps, hadds⟩
  · exact .inr ⟨hparted.awake, hparted.halted, hparted.entries⟩

theorem contained {f : Attempt → Attempt} {x x' : Run σ Attempt} (label : String) (level : Nat)
    (hf : ∀ message, f (.refused message) = .refused message) (hx : Cuts true f x x') :
    Cuts true f (Engine.contained label level x) (Engine.contained label level x') := by
  have hquiet : ∀ (x : Run σ Attempt) s,
      (x.run s).2.Quiet ((Engine.contained label level x).run s).2 := by
    intro x s
    rw [Engine.run_contained]
    rcases x.run s with ⟨(⟨kind, limit⟩ | _ | _ | _) | a, t⟩
    · simp only
      split
      · exact .noted _ t
      · exact .refl t
    all_goals exact .refl t
  refine ⟨nofun, fun s => ?_, fun s hs => ?_⟩
  · obtain ⟨entries, hst⟩ := hx.adds s
    exact ⟨entries ++ [], hst.append (.quiet (hquiet x' s))⟩
  · rcases hx.together s hs with ⟨heq, hkeeps, entries, hst, hfailure⟩ | hparted
    · left
      refine ⟨?_, fun hs => (hquiet x s).isHalted.trans (hkeeps hs), entries ++ [],
        hst.append (.quiet (hquiet x s)),
        fun h => ?_⟩
      · rw [Engine.run_contained, Engine.run_contained, heq]
        rcases x.run s with ⟨(⟨kind, limit⟩ | _ | _ | _) | a, t⟩ <;> try rfl
        have hrefused := hf (cascadeMessage kind limit)
        simp only [Except.map]
        split
        · simp only [hrefused]
        · rfl
      · rw [List.append_nil] at h
        exact (hquiet x s).isHalted.trans (hfailure h)
    · right
      exact hparted.goOn (.quiet (hquiet x s)) rfl ((hquiet x s).isHalted.trans hparted.halted)
        (.quiet (hquiet x' s))

theorem unlessHalted {f : α → β} {x y : Run σ α} {x' y' : Run σ β} (hx : Cuts false f x x')
    (hy : Cuts true f y y') :
    Cuts false f (Run.isHalted >>= fun halted => if halted = true then x else y)
      (Run.isHalted >>= fun halted => if halted = true then x' else y') := by
  refine ⟨fun hawake s hs => ?_, fun s => ?_, fun s _ => ?_⟩ <;>
    simp only [run_bind_of_ok (run_isHalted s)]
  · rw [hs, if_pos rfl]
    exact hx.idle rfl s hs
  · split
    · exact hx.adds s
    · exact hy.adds s
  · split
    case isTrue => exact hx.together s nofun
    case isFalse hs => exact hy.together s fun _ => Bool.eq_false_iff.mpr hs

end Cuts

end Run

/-- Likeness up to the first failure. -/
def Likeness.cutShort (σ : Type) : Likeness σ where
  Like := Run.Cuts
  Fits := Function.Surjective
  weaken := .weaken
  pure := .pure
  throw := .throw
  bind := .bind
  silently := .silently
  record := .record
  nested := .nested
  contained := .contained
  unlessHalted := .unlessHalted

namespace Engine

open Run (Cuts)

variable (e : Engine σ)

/-- The engine that stops at the first failure, or that does not. -/
def stopping (failedStop : Bool) : Engine σ := { e with options := { e.options with failedStop } }

theorem report_cuts {r : StepResult} (hr : r.isFailed = false) :
    Cuts false id (Run.report r : Run σ StepResult) (Run.report r) := by
  have hcalls : ∀ s : RunState σ, callsIn [⟨.reported r, s.depth, s.isHalted⟩] = [] := fun _ => rfl
  refine ⟨fun _ s hs => ⟨_, .recorded _ s, hcalls s, hs⟩, fun s => ⟨_, .recorded _ s⟩,
    fun s _ => .inl ?_⟩
  refine ⟨rfl, id, _, .recorded _ s, fun ⟨r', hr', hfailed⟩ => ?_⟩
  cases List.mem_singleton.mp hr'
  rw [hr] at hfailed
  cases hfailed

/-- Settling a failure is where the run that stops is halted. -/
theorem settle_cuts (r : StepResult) (halt : Halt) (level : NoticeLevel) (text : String) :
    Cuts false id ((e.stopping true).settle r (Run.latch halt level text))
      ((e.stopping false).settle r (Run.latch halt level text)) := by
  have hgoing : ∀ s : RunState σ, ((e.stopping false).settle r (Run.latch halt level text)).run s =
      (.ok r, s.recorded (.reported r)) := by
    intro s
    rw [run_settle, if_neg fun h => Bool.false_ne_true h.2.1]
  refine ⟨fun _ s hs => ?_, fun s => ?_, fun s _ => ?_⟩
  · rw [run_settle, hs, if_neg (by simp)]
    exact ⟨_, .recorded _ s, rfl, hs⟩
  · rw [hgoing]
    exact ⟨_, .recorded _ s⟩
  · rw [hgoing, run_settle]
    by_cases hstop : r.isFailed = true ∧ s.isHalted = false
    · right
      rw [if_pos ⟨hstop.1, rfl, hstop.2⟩]
      let t := (s.recorded (.reported r)).noted ⟨level, text⟩
      have hadds : s.Adds [⟨.reported r, s.depth, s.isHalted⟩] (t.latched halt) := by
        have hreported : s.Adds _ t := .recorded (.reported r) s
        have hlatched := hreported.append (RunState.Adds.latched halt t)
        rw [List.append_nil] at hlatched
        exact hlatched
      refine ⟨hstop.2, RunState.isHalted_latched halt t, _, _,
        hadds.append (.recorded _ (t.latched halt)),
        .recorded _ s, List.nil_prefix, ⟨r, List.mem_cons_self, hstop.1⟩, ?_⟩
      simp [reportsIn, Entry.report?, Event.report?, uptoFailure, hstop.1]
    · left
      rw [if_neg fun h => hstop ⟨h.1, h.2.2⟩]
      refine ⟨rfl, id, _, .recorded _ s, fun ⟨r', hr', hfailed⟩ => ?_⟩
      cases List.mem_singleton.mp hr'
      exact Bool.of_not_eq_false fun hs => hstop ⟨hfailed, hs⟩

theorem finish_cuts (step : Step) (r : StepResult) :
    Cuts false id ((e.stopping true).finish step r) ((e.stopping false).finish step r) :=
  .silently (noteOutcome_silent _) fun _ => e.settle_cuts _ _ _ _

theorem relates_stopping :
    (Likeness.cutShort σ).Relates id (e.stopping true) (e.stopping false) where
  ev := rfl
  repository := rfl
  config := rfl
  fits := {
    result := fun r => ⟨r, rfl⟩
    results := fun rs => ⟨rs, List.map_id rs⟩
    attempt := fun a => ⟨a, a.map_id⟩
    attempts := fun (a, n) => ⟨(a, n), congrArg (·, n) a.map_id⟩
    iterations := fun (iterations, fault) => ⟨(iterations, fault), congrArg (·, fault) (by
      rw [show IterationResult.map id = id from funext IterationResult.map_id, List.map_id])⟩ }
  isFailed _ := rfl
  patience := .inl rfl
  api head p label index :=
    .converse (e.api_converses head p label index) (e.api_fixed id head p label index)
  sql p label index := .converse (e.sql_converses p label index) (e.sql_fixed id p label index)
  interrupted step label := by
    refine report_cuts ?_
    unfold interrupted
    split <;> rfl
  disabled step label := report_cuts rfl
  undecided step label cause := .silently (.note _ _) fun _ => e.settle_cuts _ _ _ _
  unmet step label := e.finish_cuts step _
  finish step label a n := by
    rw [a.map_id]
    exact e.finish_cuts step _

theorem runCase_cuts (caseId : CaseId) :
    Cuts false id ((e.stopping true).runCase caseId) ((e.stopping false).runCase caseId) := by
  rw [← CaseReport.map_id_eq]
  exact e.relates_stopping.runCase rfl caseId

end Engine

end Casebook
