import Mathlib
import Casebook.Proofs.Batch.Accounts
import Casebook.Proofs.Ordering
import Casebook.Proofs.Suite.Records

/-! How long the cases of a batch took.  A start gives way to a later one of the same label, and a finish takes the
start that is left, if there is one; still every label has a duration, since its first finish always finds a start. -/
namespace Casebook

/-- The mark with the time that a clock showed at its tick. -/
def Mark.timed (clock : Nat → Nat) (m : Mark) : Mark := { m with time := clock m.time }

@[simp] theorem Mark.label_timed (clock : Nat → Nat) (m : Mark) : (m.timed clock).label = m.label := rfl

@[simp] theorem Mark.finished_timed (clock : Nat → Nat) (m : Mark) : (m.timed clock).finished = m.finished := rfl

/-- The marks that a span lies between. -/
def Span.ends (s : Span) : List Mark := [⟨s.label, none, s.start⟩, ⟨s.label, some s.status, s.stop⟩]

namespace Timeline

/-! ### Starts and finishes -/

def starts (label : String) (marks : List Mark) : Nat := marks.countP fun m => m.label == label && m.finished.isNone

def finishes (label : String) (marks : List Mark) : Nat := marks.countP fun m => m.label == label && m.finished.isSome

section Counts

variable (label : String) (marks marks' : List Mark) (m : Mark)

@[simp] theorem starts_nil : starts label [] = 0 := rfl

@[simp] theorem finishes_nil : finishes label [] = 0 := rfl

@[simp] theorem starts_append : starts label (marks ++ marks') = starts label marks + starts label marks' :=
  List.countP_append

@[simp] theorem finishes_append : finishes label (marks ++ marks') = finishes label marks + finishes label marks' :=
  List.countP_append

theorem starts_cons : starts label (m :: marks) =
    starts label marks + if m.label = label ∧ m.finished = none then 1 else 0 := by
  simp [starts, List.countP_cons]

theorem finishes_cons : finishes label (m :: marks) =
    finishes label marks + if m.label = label ∧ m.finished ≠ none then 1 else 0 := by
  simp [finishes, List.countP_cons, Option.isSome_iff_ne_none]

@[simp] theorem starts_timed (clock : Nat → Nat) : starts label (marks.map (·.timed clock)) = starts label marks := by
  simp [starts, List.countP_map, Function.comp_def]

@[simp] theorem finishes_timed (clock : Nat → Nat) :
    finishes label (marks.map (·.timed clock)) = finishes label marks := by
  simp [finishes, List.countP_map, Function.comp_def]

end Counts

/-- Before each finish of a label there are more starts of it than finishes. -/
def StartsFirst (marks : List Mark) : Prop :=
  ∀ i m, marks[i]? = some m → m.finished ≠ none → finishes m.label (marks.take i) < starts m.label (marks.take i)

/-- Marks as batches make them. -/
structure Recorded (marks : List Mark) : Prop where
  timed : marks.Pairwise fun m n => m.time ≤ n.time
  started : StartsFirst marks
  /-- After each start of a label there is a finish of it. -/
  finished : ∀ i m, marks[i]? = some m → m.finished = none → 0 < finishes m.label (marks.drop (i + 1))

section

variable {marks before rest : List Mark} {waiting : Dict Nat}

theorem StartsFirst.of_append {m : Mark} (h : StartsFirst (before ++ m :: rest)) (hm : m.finished ≠ none) :
    finishes m.label before < starts m.label before := by
  have hlt := h before.length m (by simp) hm
  simpa using hlt

theorem Recorded.finishes_pos (h : Recorded marks) {m : Mark} (hm : m ∈ marks) : 0 < finishes m.label marks := by
  obtain ⟨i, hi⟩ := List.mem_iff_getElem?.mp hm
  have hsplit : finishes m.label marks =
      finishes m.label (marks.take (i + 1)) + finishes m.label (marks.drop (i + 1)) := by
    rw [← finishes_append, List.take_append_drop]
  by_cases hfinished : m.finished = none
  · have hlater := h.finished i m hi hfinished
    omega
  · have hnow : 0 < finishes m.label (marks.take (i + 1)) := by
      simp [List.take_add_one, hi, finishes_cons, hfinished]
    omega

/-! ### Starts that wait for a finish -/

/-- Starts that wait are among the marks so far, and no label that was started but never finished is without one. -/
structure Waits (before : List Mark) (waiting : Dict Nat) : Prop where
  mem : ∀ label time, Dict.get? label waiting = some time → ⟨label, none, time⟩ ∈ before
  exists_of_starts : ∀ label, 0 < starts label before → finishes label before = 0 →
    ∃ time, Dict.get? label waiting = some time

theorem get?_filter_self (label : String) (d : Dict Nat) : Dict.get? label (d.filter fun s => s.1 != label) = none := by
  apply List.lookup_eq_none_iff.mpr
  intro s hs
  have hne : s.1 ≠ label := by simpa using (List.mem_filter.mp hs).2
  simpa using hne.symm

theorem get?_filter_of_ne {label other : String} (h : other ≠ label) (d : Dict Nat) :
    Dict.get? other (d.filter fun s => s.1 != label) = Dict.get? other d := by
  induction d with
  | nil => rfl
  | cons p d ih =>
    obtain ⟨key, time⟩ := p
    simp only [Dict.get?] at ih ⊢
    by_cases hkey : key = label
    · subst hkey
      simp [List.lookup_cons, beq_eq_false_iff_ne.mpr h, ih]
    · by_cases hother : other = key
      · simp [hkey, hother]
      · simp [hkey, List.lookup_cons, beq_eq_false_iff_ne.mpr hother, ih]

namespace Waits

variable {label : String} {time : Nat}

theorem started (h : Waits before waiting) :
    Waits (before ++ [⟨label, none, time⟩]) (Dict.insert label time waiting) where
  mem := by
    intro other t ht
    by_cases hother : other = label
    · subst hother
      rw [Dict.get?_insert_self] at ht
      cases ht
      simp
    · rw [Dict.get?_insert_of_ne hother] at ht
      exact List.mem_append_left _ (h.mem other t ht)
  exists_of_starts := by
    intro other hstarts hfinishes
    by_cases hother : other = label
    · subst hother
      exact ⟨time, Dict.get?_insert_self ..⟩
    · rw [Dict.get?_insert_of_ne hother]
      apply h.exists_of_starts other
      · simpa [starts_cons, Ne.symm hother] using hstarts
      · simpa [finishes_cons] using hfinishes

/-- A finish takes the start of its label, if one waits. -/
theorem finished (h : Waits before waiting) (status : Status) :
    Waits (before ++ [⟨label, some status, time⟩]) (waiting.filter fun s => s.1 != label) where
  mem := by
    intro other t ht
    by_cases hother : other = label
    · rw [hother, get?_filter_self] at ht
      cases ht
    · rw [get?_filter_of_ne hother] at ht
      exact List.mem_append_left _ (h.mem other t ht)
  exists_of_starts := by
    intro other hstarts hfinishes
    have hother : other ≠ label := by
      rintro rfl
      simp [finishes_cons] at hfinishes
    rw [get?_filter_of_ne hother]
    apply h.exists_of_starts other
    · simpa [starts_cons] using hstarts
    · simpa [finishes_cons, hother.symm] using hfinishes

/-- A finish that takes no start. -/
theorem passed (h : Waits before waiting) (status : Status) :
    Waits (before ++ [⟨label, some status, time⟩]) waiting where
  mem other t ht := List.mem_append_left _ (h.mem other t ht)
  exists_of_starts := by
    intro other hstarts hfinishes
    apply h.exists_of_starts other
    · simpa [starts_cons] using hstarts
    · rw [finishes_append] at hfinishes
      omega

/-- A span lies between a start and a later finish of its label. -/
theorem ends_sublist (h : Waits before waiting) {s : Span} (hs : s ∈ spansFrom waiting rest) :
    s.ends.Sublist (before ++ rest) := by
  induction rest generalizing before waiting with
  | nil => simp [spansFrom] at hs
  | cons m rest ih =>
    rw [List.append_cons]
    obtain ⟨label, _ | status, time⟩ := m
    · exact ih h.started hs
    · simp only [spansFrom] at hs
      split at hs
      case h_1 start hstart =>
        rcases List.mem_cons.mp hs with rfl | hs
        · have hbefore : [⟨label, none, start⟩].Sublist before := List.singleton_sublist.mpr (h.mem label start hstart)
          have hnow : [⟨label, some status, time⟩].Sublist ([⟨label, some status, time⟩] ++ rest) := by simp
          rw [List.append_assoc]
          exact hbefore.append hnow
        · exact ih (h.finished status) hs
      case h_2 => exact ih (h.passed status) hs

/-- The first finish of a label ends a span. -/
theorem exists_span (h : Waits before waiting) (hfirst : StartsFirst (before ++ rest)) {label : String}
    (hbefore : finishes label before = 0) (hrest : 0 < finishes label rest) :
    ∃ s ∈ spansFrom waiting rest, s.label = label := by
  induction rest generalizing before waiting with
  | nil => simp at hrest
  | cons m rest ih =>
    have hfirst' := hfirst
    rw [List.append_cons] at hfirst'
    obtain ⟨other, _ | status, time⟩ := m
    · apply ih h.started hfirst'
      · simpa [finishes_cons] using hbefore
      · simpa [finishes_cons] using hrest
    · simp only [spansFrom]
      by_cases hother : other = label
      · subst hother
        have hstarts : finishes other before < starts other before := hfirst.of_append (by simp)
        obtain ⟨start, hstart⟩ := h.exists_of_starts other (by omega) hbefore
        rw [hstart]
        exact ⟨_, List.mem_cons_self, rfl⟩
      · have hbefore' : finishes label (before ++ [⟨other, some status, time⟩]) = 0 := by
          simpa [finishes_cons, hother] using hbefore
        have hrest' : 0 < finishes label rest := by simpa [finishes_cons, hother] using hrest
        split
        case h_1 start hstart =>
          obtain ⟨s, hs, hlabel⟩ := ih (h.finished status) hfirst' hbefore' hrest'
          exact ⟨s, List.mem_cons_of_mem _ hs, hlabel⟩
        case h_2 => exact ih (h.passed status) hfirst' hbefore' hrest'

end Waits

/-! ### Spans and durations -/

theorem waits_nil : Waits [] [] where
  mem := by simp [Dict.get?]
  exists_of_starts := by simp

theorem mem_spans {s : Span} : s ∈ spans marks ↔ s ∈ spansFrom [] marks := List.mem_mergeSort

theorem ends_sublist_of_mem_spans {s : Span} (hs : s ∈ spans marks) : s.ends.Sublist marks :=
  waits_nil.ends_sublist (mem_spans.mp hs)

theorem Recorded.exists_span (h : Recorded marks) {m : Mark} (hm : m ∈ marks) :
    ∃ s ∈ spans marks, s.label = m.label := by
  have hstarted : StartsFirst ([] ++ marks) := h.started
  obtain ⟨s, hs, hlabel⟩ := waits_nil.exists_span hstarted rfl (h.finishes_pos hm)
  exact ⟨s, mem_spans.mpr hs, hlabel⟩

theorem Recorded.start_le_stop (h : Recorded marks) {s : Span} (hs : s ∈ spans marks) : s.start ≤ s.stop := by
  have htimed := h.timed.sublist (ends_sublist_of_mem_spans hs)
  simpa [Span.ends] using htimed

theorem mem_keys_durations {label : String} :
    label ∈ Dict.keys (durations marks) ↔ ∃ s ∈ spans marks, s.label = label := by
  simp [durations, Dict.mem_keys_ofList]

theorem exists_span_of_get? {label : String} {d : Nat} (h : Dict.get? label (durations marks) = some d) :
    ∃ s ∈ spans marks, s.label = label ∧ d = s.stop - s.start := by
  obtain ⟨s, hs, hpair⟩ := List.mem_map.mp (Dict.mem_of_mem_ofList (Dict.mem_of_get? h))
  cases hpair
  exact ⟨s, hs, rfl, rfl⟩

/-- What the spans and durations of marks are. -/
structure Covers (marks : List Mark) : Prop where
  /-- Each label has one duration. -/
  keys : ∀ label, label ∈ Dict.keys (durations marks) ↔ ∃ m ∈ marks, m.label = label
  sorted : Dict.Sorted (durations marks)
  /-- A duration is that from a start of the label to a later finish. -/
  values : ∀ label d, Dict.get? label (durations marks) = some d →
    ∃ start status stop, [⟨label, none, start⟩, ⟨label, some status, stop⟩].Sublist marks ∧ start + d = stop
  spans : ∀ s ∈ spans marks, s.ends.Sublist marks ∧ s.start ≤ s.stop
  ordered : (Timeline.spans marks).Pairwise fun a b => a.start ≤ b.start

theorem Recorded.covers (h : Recorded marks) : Covers marks where
  keys := by
    intro label
    rw [mem_keys_durations]
    constructor
    · rintro ⟨s, hs, rfl⟩
      have hmem : ⟨s.label, none, s.start⟩ ∈ marks := (ends_sublist_of_mem_spans hs).subset (by simp [Span.ends])
      exact ⟨_, hmem, rfl⟩
    · rintro ⟨m, hm, rfl⟩
      exact h.exists_span hm
  sorted := Dict.sorted_ofList _
  values := by
    intro label d hd
    obtain ⟨s, hs, rfl, rfl⟩ := exists_span_of_get? hd
    have hle := h.start_le_stop hs
    exact ⟨s.start, s.status, s.stop, ends_sublist_of_mem_spans hs, by omega⟩
  spans s hs := ⟨ends_sublist_of_mem_spans hs, h.start_le_stop hs⟩
  ordered := (isOrderedBy_mergeSort Span.start _).ascending

/-! ### Marks at successive ticks -/

theorem StartsFirst.concat {m : Mark} (h : StartsFirst marks)
    (hm : m.finished ≠ none → finishes m.label marks < starts m.label marks) : StartsFirst (marks ++ [m]) := by
  intro i n hn hfinished
  by_cases hi : i < marks.length
  · rw [List.getElem?_append_left hi] at hn
    rw [List.take_append_of_le_length hi.le]
    exact h i n hn hfinished
  · have hlast : i = marks.length := by
      have hlt := (List.getElem?_eq_some_iff.mp hn).1
      simp at hlt
      omega
    subst hlast
    have hnew : m = n := by simpa using hn
    subst hnew
    simpa using hm hfinished

theorem StartsFirst.timed (h : StartsFirst marks) (clock : Nat → Nat) : StartsFirst (marks.map (·.timed clock)) := by
  intro i m hm hfinished
  rw [List.getElem?_map, Option.map_eq_some_iff] at hm
  obtain ⟨m, hm, rfl⟩ := hm
  simpa [← List.map_take] using h i m hm hfinished

theorem StartsFirst.finishes_le (h : StartsFirst marks) (label : String) (i : Nat) :
    finishes label (marks.take i) ≤ starts label (marks.take i) := by
  induction i with
  | zero => simp
  | succ i ih =>
    cases hm : marks[i]? with
    | none => simpa [List.take_add_one, hm] using ih
    | some m =>
      simp only [List.take_add_one, hm, Option.toList_some, starts_append, finishes_append, starts_cons, finishes_cons]
      by_cases hfinish : m.label = label ∧ m.finished ≠ none
      · obtain ⟨rfl, hfinished⟩ := hfinish
        have hlt := h i m hm hfinished
        simp [hfinished]
        omega
      · rw [if_neg hfinish]
        simp
        omega

theorem exists_of_starts_pos {label : String} (h : 0 < starts label marks) : ∃ m ∈ marks, m.label = label := by
  obtain ⟨m, hm, hstart⟩ := List.countP_pos_iff.mp h
  have hlabel : m.label = label ∧ m.finished = none := by simpa using hstart
  exact ⟨m, hm, hlabel.1⟩

/-- Marks at successive ticks, after which the cases of these labels are under way. -/
structure Underway (labels : List String) (marks : List Mark) : Prop where
  ticks : marks.map Mark.time = List.range marks.length
  started : StartsFirst marks
  starts_eq : ∀ label, starts label marks = finishes label marks + labels.count label

namespace Underway

variable {labels : List String} {label : String}

theorem nil : Underway [] [] := by
  constructor
  · rfl
  · simp [StartsFirst]
  · simp

theorem start (h : Underway labels marks) (label : String) :
    Underway (labels ++ [label]) (marks ++ [⟨label, none, marks.length⟩]) where
  ticks := by simp [h.ticks, List.range_succ]
  started := h.started.concat (by simp)
  starts_eq := by
    intro other
    have hother := h.starts_eq other
    by_cases hlabel : label = other
    · simp [starts_cons, finishes_cons, hlabel]
      omega
    · simp [starts_cons, finishes_cons, hlabel]
      omega

theorem starts_pos (h : Underway labels marks) (hlabel : label ∈ labels) :
    finishes label marks < starts label marks := by
  have hcount := List.count_pos_iff.mpr hlabel
  have hstarts := h.starts_eq label
  omega

theorem finish {rest : List String} (h : Underway labels marks) (hlabels : labels.Perm (label :: rest))
    (status : Status) : Underway rest (marks ++ [⟨label, some status, marks.length⟩]) where
  ticks := by simp [h.ticks, List.range_succ]
  started := h.started.concat fun _ => h.starts_pos (hlabels.mem_iff.mpr List.mem_cons_self)
  starts_eq := by
    intro other
    have hother := h.starts_eq other
    rw [hlabels.count_eq] at hother
    by_cases hlabel : label = other
    · simp [starts_cons, finishes_cons, hlabel] at hother ⊢
      omega
    · simp [starts_cons, finishes_cons, hlabel] at hother ⊢
      omega

/-- With no case under way, the marks are as batches make them, whatever times a clock gives them. -/
theorem recorded (h : Underway [] marks) {clock : Nat → Nat} (hclock : Monotone clock) :
    Recorded (marks.map (·.timed clock)) where
  timed := by
    have hticks : (marks.map Mark.time).Pairwise (· ≤ ·) := h.ticks ▸ List.pairwise_le_range
    rw [List.pairwise_map] at hticks ⊢
    exact hticks.imp fun hle => hclock hle
  started := h.started.timed clock
  finished := by
    intro i m hm hnone
    rw [List.getElem?_map, Option.map_eq_some_iff] at hm
    obtain ⟨m, hm, rfl⟩ := hm
    obtain ⟨hi, rfl⟩ := List.getElem?_eq_some_iff.mp hm
    have hsplit : marks = marks.take i ++ marks[i] :: marks.drop (i + 1) := by
      rw [← List.drop_eq_getElem_cons hi, List.take_append_drop]
    have hstart : marks[i].finished = none := hnone
    have hstarts := congrArg (starts marks[i].label) hsplit
    have hfinishes := congrArg (finishes marks[i].label) hsplit
    have hequal := h.starts_eq marks[i].label
    have hle := h.started.finishes_le marks[i].label i
    rw [starts_append, starts_cons, if_pos ⟨rfl, hstart⟩] at hstarts
    rw [finishes_append, finishes_cons, if_neg (by simp [hstart])] at hfinishes
    rw [List.count_nil] at hequal
    rw [← List.map_drop, finishes_timed, Mark.label_timed]
    omega

end Underway

end

end Timeline

namespace BatchRunner

open Timeline

variable {σ : Type} (b : BatchRunner σ)

/-! ### Marks of batches -/

/-- The marks of a batch, of whose labels some are pending and some under way. -/
structure Marks (labels pending running : List String) (s : BatchState σ) : Prop where
  underway : Underway running s.marks.toList
  mem_iff : ∀ label, label ∈ labels ↔ label ∈ pending ∨ ∃ m ∈ s.marks.toList, m.label = label

namespace Marks

variable {labels pending running : List String} {label : String} {s : BatchState σ}

theorem nil (hs : s.marks = #[]) : Marks labels labels [] s where
  underway := by simpa [hs] using Underway.nil
  mem_iff := by simp [hs]

theorem congr {t : BatchState σ} (h : Marks labels pending running s) (hmarks : t.marks = s.marks) :
    Marks labels pending running t where
  underway := hmarks ▸ h.underway
  mem_iff := hmarks ▸ h.mem_iff

theorem start (h : Marks labels (label :: pending) running s) :
    Marks labels pending (running ++ [label]) (s.marked label none) where
  underway := by simpa [BatchState.marked] using h.underway.start label
  mem_iff := by
    intro other
    rw [h.mem_iff]
    simp only [BatchState.marked, Array.toList_push, List.mem_append, List.mem_cons, List.not_mem_nil, or_false,
      or_and_right, exists_or, exists_eq_left, eq_comm (a := other)]
    rw [or_assoc, or_comm, or_assoc]

theorem finish {rest : List String} (h : Marks labels pending running s) (hrunning : running.Perm (label :: rest))
    (status : Status) : Marks labels pending rest (s.marked label (some status)) where
  underway := by simpa [BatchState.marked] using h.underway.finish hrunning status
  mem_iff := by
    intro other
    have hstarts := h.underway.starts_pos (hrunning.mem_iff.mpr List.mem_cons_self)
    obtain ⟨m, hm, rfl⟩ := exists_of_starts_pos (Nat.zero_lt_of_lt hstarts)
    rw [h.mem_iff]
    simp only [BatchState.marked, Array.toList_push, List.mem_append, List.mem_singleton, or_and_right, exists_or,
      exists_eq_left]
    have hsame : m.label = other → ∃ n ∈ s.marks.toList, n.label = other := fun hlabel => ⟨m, hm, hlabel⟩
    rw [or_iff_left_of_imp hsame]

end Marks

theorem marks_runOne (plan : CasePlan) (s : BatchState σ) : ((b.runOne plan).run s).2.marks = s.marks := by
  unfold runOne
  simp only [run_bind]
  split <;> rfl

variable {labels : List String} {s : BatchState σ}

theorem marks_runSerial {plans : List CasePlan} (h : Marks labels (plans.map CasePlan.label) [] s) :
    Marks labels [] [] ((b.runSerial plans).run s).2 := by
  unfold runSerial
  induction plans generalizing s with
  | nil => exact h
  | cons plan plans ih =>
    have hdone : Marks labels (plans.map CasePlan.label) [plan.label]
        ((b.runOne plan).run (s.marked plan.label none)).2 := h.start.congr (b.marks_runOne plan _)
    rw [List.mapM_cons]
    exact ih (hdone.finish (.refl _) _)

/-- The labels of jobs. -/
def jobLabels (jobs : List (Nat × CasePlan)) : List String := jobs.map fun job => job.2.label

/-- The marks of a batch are those of its pool. -/
def MarksPool (labels : List String) (p : Pool CasePlan CaseOutcome × BatchState σ) : Prop :=
  Marks labels (jobLabels p.1.pending) (jobLabels p.1.running) p.2

variable {pool : Pool CasePlan CaseOutcome}

theorem marksPool_handOut (free : Nat) (h : MarksPool labels (pool, s)) :
    MarksPool labels ((handOut free pool).run s) := by
  induction free generalizing pool s with
  | zero => exact h
  | succ free ih =>
    unfold handOut
    split
    case h_1 => exact h
    case h_2 position plan rest hpending =>
      have hstarted : MarksPool labels (pool.started, s.marked plan.label none) := by
        rw [MarksPool, hpending] at h
        rw [MarksPool, Pool.started_eq hpending]
        simpa [jobLabels] using h.start
      exact ih hstarted

/-- A case that is done is under way no more. -/
theorem marksPool_delivered (h : MarksPool labels (pool, s)) {place position : Nat} {plan : CasePlan}
    (hjob : pool.running[place]? = some (position, plan)) (outcome : CaseOutcome) :
    MarksPool labels ((pool.answered place outcome).received, s.marked plan.label (some outcome.status)) := by
  obtain ⟨hplace, hplan⟩ := List.getElem?_eq_some_iff.mp hjob
  have hperm := (List.getElem_cons_eraseIdx_perm hplace).symm.map fun job => job.2.label
  rw [List.map_cons, hplan] at hperm
  have hreceived : ∀ q : Pool CasePlan CaseOutcome,
      q.received.pending = q.pending ∧ q.received.running = q.running := by
    intro q
    unfold Pool.received
    split <;> exact ⟨rfl, rfl⟩
  rw [MarksPool, (hreceived _).1, (hreceived _).2, Pool.answered_eq hjob]
  exact h.finish hperm outcome.status

theorem marksPool_runPool (workers rounds : Nat) (schedule : List Nat) (h : MarksPool labels (pool, s)) :
    MarksPool labels ((b.runPool workers rounds schedule pool).run s) := by
  induction rounds generalizing schedule pool s with
  | zero => exact h
  | succ rounds ih =>
    have hhanded := marksPool_handOut (workers - pool.awaited) h
    unfold runPool
    simp only [run_bind]
    generalize (handOut (workers - pool.awaited) pool).run s = handed at hhanded ⊢
    split
    case isTrue => exact hhanded
    case isFalse =>
      split
      case h_1 => exact hhanded
      case h_2 position plan hjob =>
        simp only [run_bind]
        have hdone : MarksPool labels (handed.1, ((b.runOne plan).run handed.2).2) :=
          hhanded.congr (b.marks_runOne plan _)
        exact ih schedule.tail (marksPool_delivered hdone hjob _)

theorem marksPool_ofJobs (plans : List CasePlan) (hs : s.marks = #[]) :
    MarksPool (plans.map CasePlan.label) (Pool.ofJobs plans, s) := by
  have hpending : jobLabels (Pool.ofJobs plans : Pool CasePlan CaseOutcome).pending = plans.map CasePlan.label := by
    apply List.ext_getElem <;> simp [jobLabels, Pool.ofJobs]
  rw [MarksPool, hpending]
  exact .nil hs

/-- At the end of a pool no job is pending, and no worker is at one. -/
theorem Holds.eq_nil {workers : Nat} {plans : List CasePlan} {Q : CasePlan → CaseOutcome → Prop}
    (h : Holds workers plans Q pool) (hworkers : 0 < workers) (hended : pool.HasEnded workers) :
    pool.pending = [] ∧ pool.running = [] := by
  obtain ⟨-, events, hrun, -⟩ := h
  obtain ⟨hfull, hawaited⟩ := hended
  have hcount := (Pool.Stands.ofRun hrun).awaited_eq
  refine ⟨hfull.resolve_left (by omega), ?_⟩
  apply List.eq_nil_of_length_eq_zero
  omega

theorem marks_runParallel (schedule : List Nat) (plans : List CasePlan) (hs : s.marks = #[]) :
    Marks (plans.map CasePlan.label) [] [] ((b.runParallel schedule plans).run s).2 := by
  have hrounds : (Pool.ofJobs plans : Pool CasePlan CaseOutcome).pending.length +
      (Pool.ofJobs plans : Pool CasePlan CaseOutcome).running.length < plans.length + 1 := by
    simp [Pool.ofJobs]
  unfold runParallel
  simp only [run_bind]
  generalize hnoted : ((note _ _ : BatchM σ Unit).run s).2 = t
  have ht : t.marks = #[] := by rw [← hnoted, ← hs]; rfl
  have hpool := b.marksPool_runPool (b.engine.config.workerCount plans.length) (plans.length + 1) schedule
    (marksPool_ofJobs plans ht)
  have hjobs : Holds (b.engine.config.workerCount plans.length) plans
      (fun plan outcome => ∃ s, ((b.runOne plan).run s).1 = outcome) (Pool.ofJobs plans) := .ofJobs
  obtain ⟨hholds, hended, -⟩ := runPool_holds (s := t) b.steady_anyhow (plans.length + 1) schedule hrounds hjobs trivial
  obtain ⟨hpending, hrunning⟩ := hholds.eq_nil (workerCount_pos _ _) hended
  rw [MarksPool, hpending, hrunning] at hpool
  exact hpool

/-- In either mode, the marks of a batch are those of all its cases, and no case is left under way. -/
theorem marks_runPlans (mode : BatchMode) (schedule : List Nat) (plans : List CasePlan) (hs : s.marks = #[]) :
    Marks (plans.map CasePlan.label) [] [] ((b.runPlans mode schedule plans).run s).2 := by
  cases mode with
  | serial => exact b.marks_runSerial (.nil hs)
  | parallel => exact b.marks_runParallel schedule plans hs

/-- The marks of a batch of cases, as a clock times them. -/
def timedMarks (clock : Nat → Nat) (mode : BatchMode) (schedule : List Nat) (plans : List CasePlan)
    (s : BatchState σ) : List Mark :=
  ((b.runPlans mode schedule plans).run s).2.marks.toList.map (·.timed clock)

/-- Of marks as batches make them, all labels have durations, each from a start to a later finish.  Batches make such
marks, whichever mode and schedule they run in and whatever a clock shows that does not go back, and have a duration for
every case. -/
theorem durations_cover_cases :
    (∀ marks, Recorded marks → Covers marks) ∧
    ∀ clock, Monotone clock → ∀ mode schedule plans (s : BatchState σ), s.marks = #[] →
      Recorded (b.timedMarks clock mode schedule plans s) ∧
      ∀ label, label ∈ Dict.keys (durations (b.timedMarks clock mode schedule plans s)) ↔
        ∃ plan ∈ plans, plan.label = label := by
  refine ⟨fun marks hmarks => hmarks.covers, fun clock hclock mode schedule plans s hs => ?_⟩
  have hmarks := b.marks_runPlans mode schedule plans hs
  have hrecorded : Recorded (b.timedMarks clock mode schedule plans s) := hmarks.underway.recorded hclock
  refine ⟨hrecorded, fun label => ?_⟩
  have hlabels := hmarks.mem_iff label
  rw [hrecorded.covers.keys label]
  simpa [timedMarks] using hlabels.symm

/-- The marks of four cases on a pool, the first and the last of which are the same case. -/
def overlappingMarks : List Mark :=
  [⟨"#3 passes", none, 0⟩, ⟨"#1 breaks down", none, 0⟩, ⟨"#2 is latched", none, 1⟩, ⟨"#3 passes", none, 1⟩,
    ⟨"#2 is latched", some .failedStop, 2⟩, ⟨"#3 passes", some .success, 2⟩, ⟨"#1 breaks down", some .failed, 3⟩,
    ⟨"#3 passes", some .success, 3⟩]

/-- Two runs of one case that overlap leave it one duration, from the later start to the earlier finish. -/
theorem overlapping_runs_have_one_duration :
    Monotone (fun tick => tick / 2) ∧ (BatchState.start ((none, 0) : Option String × Nat)).marks = #[] ∧
    mixedRunner.timedMarks (· / 2) .parallel [2, 0] repeatedPlans (.start (none, 0)) = overlappingMarks ∧
    Recorded overlappingMarks ∧ Covers overlappingMarks ∧
    durations overlappingMarks = [("#1 breaks down", 3), ("#2 is latched", 1), ("#3 passes", 1)] := by
  have hclock : Monotone fun tick => tick / 2 := fun _ _ hle => Nat.div_le_div_right hle
  have hmarks : mixedRunner.timedMarks (· / 2) .parallel [2, 0] repeatedPlans (.start (none, 0)) =
      overlappingMarks := by decide +kernel
  obtain ⟨hcovers, hbatches⟩ := durations_cover_cases mixedRunner
  obtain ⟨hrecorded, -⟩ := hbatches _ hclock .parallel [2, 0] repeatedPlans (.start (none, 0)) rfl
  rw [hmarks] at hrecorded
  exact ⟨hclock, rfl, hmarks, hrecorded, hcovers _ hrecorded, by cbv⟩

end BatchRunner

end Casebook
