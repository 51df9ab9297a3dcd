import Casebook.Batch.Pool
import Mathlib.Data.List.Nodup
import Mathlib.Data.List.Perm.Basic

/-! What a pool of workers may do, and what it has done in every state that it comes to.  Whenever its workers are done,
every job is handed out once, every message is taken in once, and every answer ends at the position of its job. -/
namespace Casebook

namespace Pool

variable {α β : Type}

theorem started_eq {p : Pool α β} {job : Nat × α} {rest : List (Nat × α)} (h : p.pending = job :: rest) :
    p.started = { p with pending := rest, awaited := p.awaited + 1, running := p.running ++ [job] } := by
  simp [started, h]

theorem answered_eq {p : Pool α β} {place : Nat} {job : Nat × α} (h : p.running[place]? = some job) (answer : β) :
    p.answered place answer =
      { p with running := p.running.eraseIdx place, sent := p.sent ++ [(job.1, answer)] } := by
  simp [answered, h]

theorem received_eq {p : Pool α β} {message : Nat × β} {rest : List (Nat × β)} (h : p.sent = message :: rest) :
    p.received =
      { p with awaited := p.awaited - 1, sent := rest, slots := p.slots.set message.1 (some message.2) } := by
  simp [received, h]

/-! ### Runs of a pool -/

/-- What happens to a pool; a message names the position of its job. -/
inductive Event (α β : Type) where
  | started (job : Nat × α)
  | answered (message : Nat × β)
  | received (message : Nat × β)

/-- No job can be handed out: enough messages are awaited, or no job is left. -/
def IsFull (workers : Nat) (p : Pool α β) : Prop := workers ≤ p.awaited ∨ p.pending = []

/-- The master hands out no more jobs and awaits no more messages. -/
def HasEnded (workers : Nat) (p : Pool α β) : Prop := p.IsFull workers ∧ p.awaited = 0

/-- The master hands out a job if it can, and waits for a message if not; any worker may send its answer. -/
inductive Step (workers : Nat) : Pool α β → Event α β → Pool α β → Prop where
  | start {p : Pool α β} {job : Nat × α} {rest : List (Nat × α)} :
    p.awaited < workers → p.pending = job :: rest → Step workers p (.started job) p.started
  | answer {p : Pool α β} {place : Nat} {job : Nat × α} (answer : β) :
    p.running[place]? = some job → Step workers p (.answered (job.1, answer)) (p.answered place answer)
  | receive {p : Pool α β} {message : Nat × β} {rest : List (Nat × β)} :
    p.IsFull workers → p.awaited ≠ 0 → p.sent = message :: rest → Step workers p (.received message) p.received

/-- A pool comes to another through events, the latest of which is the last. -/
inductive Run (workers : Nat) : Pool α β → List (Event α β) → Pool α β → Prop where
  | none (p : Pool α β) : Run workers p [] p
  | step {p q r : Pool α β} {events : List (Event α β)} {event : Event α β} :
    Run workers p events q → Step workers q event r → Run workers p (events ++ [event]) r

/-- The jobs that were handed out. -/
def startsIn (events : List (Event α β)) : List (Nat × α) :=
  events.filterMap fun
    | .started job => some job
    | _ => none

/-- The messages that were sent. -/
def answersIn (events : List (Event α β)) : List (Nat × β) :=
  events.filterMap fun
    | .answered message => some message
    | _ => none

/-- The messages that were taken in. -/
def receiptsIn (events : List (Event α β)) : List (Nat × β) :=
  events.filterMap fun
    | .received message => some message
    | _ => none

section Events

variable (events : List (Event α β)) (job : Nat × α) (message : Nat × β)

@[simp] theorem startsIn_started : startsIn (events ++ [.started job]) = startsIn events ++ [job] := by simp [startsIn]

@[simp] theorem startsIn_answered : startsIn (events ++ [.answered message]) = startsIn events := by simp [startsIn]

@[simp] theorem startsIn_received : startsIn (events ++ [.received message]) = startsIn events := by simp [startsIn]

@[simp] theorem answersIn_started : answersIn (events ++ [.started job]) = answersIn events := by simp [answersIn]

@[simp] theorem answersIn_answered : answersIn (events ++ [.answered message]) = answersIn events ++ [message] := by
  simp [answersIn]

@[simp] theorem answersIn_received : answersIn (events ++ [.received message]) = answersIn events := by
  simp [answersIn]

@[simp] theorem receiptsIn_started : receiptsIn (events ++ [.started job]) = receiptsIn events := by simp [receiptsIn]

@[simp] theorem receiptsIn_answered : receiptsIn (events ++ [.answered message]) = receiptsIn events := by
  simp [receiptsIn]

@[simp] theorem receiptsIn_received : receiptsIn (events ++ [.received message]) = receiptsIn events ++ [message] := by
  simp [receiptsIn]

end Events

/-- Where every place has an answer, the answers are what is at the places. -/
theorem map_some_answers {p : Pool α β} (h : ∀ slot ∈ p.slots, ∃ b, slot = some b) : p.answers.map some = p.slots := by
  unfold answers
  generalize p.slots = slots at h
  induction slots with
  | nil => rfl
  | cons slot slots ih =>
    obtain ⟨b, rfl⟩ := h slot List.mem_cons_self
    have hrest := ih fun slot hslot => h slot (List.mem_cons_of_mem _ hslot)
    show some b :: (slots.filterMap id).map some = some b :: slots
    rw [hrest]

/-! ### What every state keeps -/

/-- How a pool stands after events, from a start with jobs. -/
structure Stands (workers : Nat) (jobs : List α) (events : List (Event α β)) (p : Pool α β) : Prop where
  /-- Each job was handed out, in order, or is left. -/
  order : startsIn events ++ p.pending = jobs.mapIdx fun i a => (i, a)
  /-- Each worker sent its message, or is at its job. -/
  handed : ((answersIn events).map Prod.fst ++ p.running.map Prod.fst).Perm ((startsIn events).map Prod.fst)
  running : p.running ⊆ startsIn events
  /-- Each message was taken in, in order, or is on its way. -/
  messages : receiptsIn events ++ p.sent = answersIn events
  counted : p.awaited + (receiptsIn events).length = (startsIn events).length
  bounded : p.awaited ≤ workers
  places : p.slots.length = jobs.length
  kept : ∀ i b, p.slots[i]? = some (some b) ↔ (i, b) ∈ receiptsIn events
  measure : events.length + (3 * p.pending.length + 2 * p.running.length + p.sent.length) = 3 * jobs.length

namespace Stands

variable {workers : Nat} {jobs : List α} {events : List (Event α β)} {p q : Pool α β}

theorem ofJobs (workers : Nat) (jobs : List α) : Stands workers jobs ([] : List (Event α β)) (.ofJobs jobs) where
  order := rfl
  handed := .nil
  running := List.nil_subset _
  messages := rfl
  counted := rfl
  bounded := Nat.zero_le _
  places := List.length_replicate
  kept i b := by simp [Pool.ofJobs, receiptsIn, List.getElem?_replicate]
  measure := by simp [Pool.ofJobs]

/-- The positions of the jobs that were handed out are the first ones. -/
theorem positions (h : Stands workers jobs events p) :
    (startsIn events).map Prod.fst ++ p.pending.map Prod.fst = List.range jobs.length := by
  rw [← List.map_append, h.order]
  apply List.ext_getElem <;> simp

theorem nodup_starts (h : Stands workers jobs events p) : ((startsIn events).map Prod.fst).Nodup := by
  have hnodup := List.nodup_range (n := jobs.length)
  rw [← h.positions] at hnodup
  exact hnodup.of_append_left

theorem nodup_answers (h : Stands workers jobs events p) : ((answersIn events).map Prod.fst).Nodup :=
  (h.handed.nodup_iff.mpr h.nodup_starts).of_append_left

theorem lt_of_mem_answers (h : Stands workers jobs events p) {message : Nat × β} (hm : message ∈ answersIn events) :
    message.1 < jobs.length := by
  have hstart : message.1 ∈ (startsIn events).map Prod.fst :=
    h.handed.subset (List.mem_append_left _ (List.mem_map_of_mem hm))
  have hrange : message.1 ∈ List.range jobs.length := by
    rw [← h.positions]
    exact List.mem_append_left _ hstart
  exact List.mem_range.mp hrange

/-- The job that a worker is at is the one at its position. -/
theorem getElem?_of_running (h : Stands workers jobs events p) {job : Nat × α} (hjob : job ∈ p.running) :
    jobs[job.1]? = some job.2 := by
  have hmem : job ∈ jobs.mapIdx fun i a => (i, a) := by
    rw [← h.order]
    exact List.mem_append_left _ (h.running hjob)
  obtain ⟨i, hi, rfl⟩ := List.mem_mapIdx.mp hmem
  exact List.getElem?_eq_getElem hi

/-- The master awaits the messages of the workers that are at a job, and those on their way. -/
theorem awaited_eq (h : Stands workers jobs events p) : p.awaited = p.running.length + p.sent.length := by
  have hhanded := h.handed.length_eq
  have hmessages := congrArg List.length h.messages
  have hcounted := h.counted
  simp only [List.length_append, List.length_map] at hhanded hmessages
  omega

theorem started (h : Stands workers jobs events p) (hfree : p.awaited < workers) {job : Nat × α}
    {rest : List (Nat × α)} (hpending : p.pending = job :: rest) :
    Stands workers jobs (events ++ [.started job]) p.started := by
  rw [started_eq hpending]
  refine ⟨?_, ?_, ?_, ?_, ?_, hfree, h.places, ?_, ?_⟩
  · rw [startsIn_started, List.append_assoc, ← h.order, hpending]
    rfl
  · rw [startsIn_started, answersIn_started, List.map_append, List.map_append, ← List.append_assoc]
    exact h.handed.append_right _
  · rw [startsIn_started]
    exact List.append_subset.mpr ⟨List.subset_append_of_subset_left _ h.running, List.subset_append_right _ _⟩
  · rw [receiptsIn_started, answersIn_started]
    exact h.messages
  · have hcounted := h.counted
    simp
    omega
  · rw [receiptsIn_started]
    exact h.kept
  · have hmeasure := h.measure
    simp [hpending] at hmeasure ⊢
    omega

theorem answered (h : Stands workers jobs events p) {place : Nat} {job : Nat × α} (answer : β)
    (hrunning : p.running[place]? = some job) :
    Stands workers jobs (events ++ [.answered (job.1, answer)]) (p.answered place answer) := by
  obtain ⟨hplace, hjob⟩ := List.getElem?_eq_some_iff.mp hrunning
  rw [answered_eq hrunning]
  refine ⟨?_, ?_, ?_, ?_, ?_, h.bounded, h.places, ?_, ?_⟩
  · rw [startsIn_answered]
    exact h.order
  · have herased := (List.getElem_cons_eraseIdx_perm hplace).map Prod.fst
    rw [List.map_cons, hjob] at herased
    rw [startsIn_answered, answersIn_answered, List.map_append, List.append_assoc]
    exact (herased.append_left _).trans h.handed
  · rw [startsIn_answered]
    exact fun _ hjob => h.running (List.eraseIdx_subset hjob)
  · rw [receiptsIn_answered, answersIn_answered, ← h.messages, List.append_assoc]
  · rw [startsIn_answered, receiptsIn_answered]
    exact h.counted
  · rw [receiptsIn_answered]
    exact h.kept
  · have hmeasure := h.measure
    simp [List.length_eraseIdx, hplace] at hmeasure ⊢
    omega

theorem received (h : Stands workers jobs events p) {message : Nat × β} {rest : List (Nat × β)}
    (hsent : p.sent = message :: rest) :
    Stands workers jobs (events ++ [.received message]) p.received := by
  have hawaited := h.awaited_eq
  rw [received_eq hsent]
  refine ⟨?_, ?_, ?_, ?_, ?_, ?_, ?_, ?_, ?_⟩
  · rw [startsIn_received]
    exact h.order
  · rw [startsIn_received, answersIn_received]
    exact h.handed
  · rw [startsIn_received]
    exact h.running
  · rw [receiptsIn_received, answersIn_received, ← h.messages, hsent, List.append_assoc]
    rfl
  · have hcounted := h.counted
    simp [hsent] at hawaited ⊢
    omega
  · have hbounded := h.bounded
    simp
    omega
  · simpa using h.places
  · intro i b
    rw [receiptsIn_received, List.mem_append, List.mem_singleton, List.getElem?_set]
    have hanswers : answersIn events = receiptsIn events ++ message :: rest := by rw [← h.messages, hsent]
    split
    case isTrue hi =>
      have hplace : i < p.slots.length := by
        rw [h.places, ← hi]
        exact h.lt_of_mem_answers (by simp [hanswers])
      have hfresh : (i, b) ∉ receiptsIn events := by
        have hnodup := h.nodup_answers
        rw [hanswers, List.map_append, List.nodup_append] at hnodup
        intro hmem
        exact hnodup.2.2 i (List.mem_map_of_mem hmem) message.1 (by simp) hi.symm
      simp [hplace, hfresh, Prod.ext_iff, hi, eq_comm]
    case isFalse hi =>
      have hother : (i, b) ≠ message := by
        rintro rfl
        exact hi rfl
      simp [h.kept, hother]
  · have hmeasure := h.measure
    simp [hsent] at hmeasure ⊢
    omega

theorem step (h : Stands workers jobs events p) {event : Event α β} (hstep : Step workers p event q) :
    Stands workers jobs (events ++ [event]) q := by
  cases hstep with
  | start hfree hpending => exact h.started hfree hpending
  | answer answer hrunning => exact h.answered answer hrunning
  | receive _ _ hsent => exact h.received hsent

/-- Every run from a start with jobs comes to a pool that stands so. -/
theorem ofRun {events : List (Event α β)} {p : Pool α β} (h : Run workers (.ofJobs jobs) events p) :
    Stands workers jobs events p := by
  generalize hstart : Pool.ofJobs jobs = start at h
  induction h with
  | none =>
    subst hstart
    exact .ofJobs workers jobs
  | step _ hstep ih => exact ih.step hstep

/-! ### The end -/

theorem hasEnded_iff (h : Stands workers jobs events p) (hworkers : 0 < workers) :
    p.HasEnded workers ↔ (receiptsIn events).length = jobs.length := by
  have horder := congrArg List.length h.order
  have hcounted := h.counted
  simp only [List.length_append, List.length_mapIdx] at horder
  constructor
  · rintro ⟨hfull, hawaited⟩
    have hpending : p.pending = [] := hfull.resolve_left (by omega)
    rw [hpending, List.length_nil] at horder
    omega
  · intro hall
    have hpending : p.pending = [] := List.eq_nil_of_length_eq_zero (by omega)
    exact ⟨.inr hpending, by omega⟩

/-- While the end is not reached, something can happen. -/
theorem progress (h : Stands workers jobs events p) (hrunning : ¬p.HasEnded workers) (answer : β) :
    ∃ event q, Step workers p event q := by
  by_cases hfull : p.IsFull workers
  · have hawaited : p.awaited ≠ 0 := fun hawaited => hrunning ⟨hfull, hawaited⟩
    cases hsent : p.sent with
    | cons message rest => exact ⟨_, _, .receive hfull hawaited hsent⟩
    | nil =>
      cases hjobs : p.running with
      | cons job rest =>
        have hjob : p.running[0]? = some job := by rw [hjobs, List.getElem?_cons_zero]
        exact ⟨_, _, .answer answer hjob⟩
      | nil =>
        have hnone := h.awaited_eq
        rw [hsent, hjobs] at hnone
        exact absurd hnone hawaited
  · obtain ⟨hfree, hpending⟩ := not_or.mp hfull
    obtain ⟨job, rest, hpending⟩ := List.exists_cons_of_ne_nil hpending
    exact ⟨_, _, .start (Nat.lt_of_not_le hfree) hpending⟩

/-- At the end all messages were taken in, one from every position. -/
theorem receipts_of_hasEnded (h : Stands workers jobs events p) (hworkers : 0 < workers)
    (hended : p.HasEnded workers) :
    receiptsIn events = answersIn events ∧ ((receiptsIn events).map Prod.fst).Perm (List.range jobs.length) := by
  have hsent : p.sent = [] := by
    have hawaited := h.awaited_eq
    rw [hended.2] at hawaited
    exact List.eq_nil_of_length_eq_zero (by omega)
  have hall : receiptsIn events = answersIn events := by
    rw [← h.messages, hsent, List.append_nil]
  refine ⟨hall, ?_⟩
  have hsubset : (receiptsIn events).map Prod.fst ⊆ List.range jobs.length := by
    intro i hi
    obtain ⟨message, hmessage, rfl⟩ := List.mem_map.mp hi
    exact List.mem_range.mpr (h.lt_of_mem_answers (hall ▸ hmessage))
  have hnodup : ((receiptsIn events).map Prod.fst).Nodup := by
    rw [hall]
    exact h.nodup_answers
  have hlength := (h.hasEnded_iff hworkers).mp hended
  exact (List.subperm_of_subset hnodup hsubset).perm_of_length_le (by simp [hlength])

/-- At the end there is an answer for every job, and it is the one that its worker sent. -/
theorem answers_of_hasEnded (h : Stands workers jobs events p) (hworkers : 0 < workers)
    (hended : p.HasEnded workers) :
    p.answers.length = jobs.length ∧ ∀ i b, p.answers[i]? = some b ↔ (i, b) ∈ answersIn events := by
  obtain ⟨hall, hperm⟩ := h.receipts_of_hasEnded hworkers hended
  have hkept : p.answers.map some = p.slots := by
    refine map_some_answers fun slot hslot => ?_
    obtain ⟨i, hi, rfl⟩ := List.mem_iff_getElem.mp hslot
    have hposition : i ∈ (receiptsIn events).map Prod.fst :=
      hperm.mem_iff.mpr (List.mem_range.mpr (h.places ▸ hi))
    obtain ⟨⟨_, b⟩, hmessage, rfl⟩ := List.mem_map.mp hposition
    have hb := (h.kept _ b).mpr hmessage
    rw [List.getElem?_eq_getElem hi] at hb
    exact ⟨b, Option.some.inj hb⟩
  constructor
  · rw [← h.places, ← hkept, List.length_map]
  · intro i b
    rw [← hall, ← h.kept, ← hkept, List.getElem?_map]
    simp

end Stands

/-- What holds in every state of a pool that started with jobs. -/
structure Delivers (workers : Nat) (jobs : List α) (events : List (Event α β)) (p : Pool α β) : Prop
    extends Stands workers jobs events p where
  /-- The messages that are awaited are those of the workers at a job, and those on their way. -/
  inFlight : p.awaited = p.running.length + p.sent.length
  progress : ¬p.HasEnded workers → ∀ _ : β, ∃ event q, Step workers p event q
  ended : p.HasEnded workers ↔ (receiptsIn events).length = jobs.length
  answers : p.HasEnded workers →
    p.answers.length = jobs.length ∧ ∀ i b, p.answers[i]? = some b ↔ (i, b) ∈ answersIn events
  /-- With the outcomes of a list, the answers are that list. -/
  listed : p.HasEnded workers → ∀ outcomes : List β, outcomes.length = jobs.length →
    (∀ i b, (i, b) ∈ answersIn events → outcomes[i]? = some b) → p.answers = outcomes

/-- A pool with a worker delivers, whatever happens to it. -/
theorem delivers {workers : Nat} (hworkers : 0 < workers) {jobs : List α} {events : List (Event α β)} {p : Pool α β}
    (h : Run workers (.ofJobs jobs) events p) : Delivers workers jobs events p := by
  have hstands := Stands.ofRun h
  refine ⟨hstands, hstands.awaited_eq, hstands.progress, hstands.hasEnded_iff hworkers,
    hstands.answers_of_hasEnded hworkers, fun hended outcomes hlength houtcomes => ?_⟩
  obtain ⟨hanswers, hsent⟩ := hstands.answers_of_hasEnded hworkers hended
  apply List.ext_getElem?
  intro i
  by_cases hi : i < p.answers.length
  · have hanswer := List.getElem?_eq_getElem hi
    rw [hanswer, houtcomes i _ ((hsent i _).mp hanswer)]
  · rw [List.getElem?_eq_none (Nat.le_of_not_lt hi), List.getElem?_eq_none (by omega)]

end Pool

end Casebook
