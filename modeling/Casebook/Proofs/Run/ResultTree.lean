import Casebook.Run.Engine

/-! Results hold the results of the steps inside them.  A path leads to a result by its place in
each list on the way, and of two paths that part one comes before the other. -/
namespace Casebook

/-! ### Results inside results -/

/-- The results directly inside an output, in the order of their steps. -/
def StepOutput.inner : StepOutput → List StepResult
  | .api _ | .sql _ => []
  | .case results => results
  | .foreach iterations => iterations.flatMap IterationResult.steps

def StepResult.inner (r : StepResult) : List StepResult := r.output.elim [] StepOutput.inner

def Attempt.inner (a : Attempt) : List StepResult := a.output.elim [] StepOutput.inner

@[simp] theorem Attempt.inner_result (a : Attempt) (step : Step) (label : String) (n : Nat) :
    (a.result step label n).inner = a.inner := rfl

@[simp] theorem Attempt.isFailed_result (a : Attempt) (step : Step) (label : String) (n : Nat) :
    (a.result step label n).isFailed = !a.passed := by
  cases h : a.passed <;> simp [Attempt.result, StepResult.isFailed, StepResult.status, Attempt.status, h]

theorem StepResult.inner_of_output {r : StepResult} (h : r.output = none) : r.inner = [] := by
  unfold StepResult.inner
  rw [h]
  rfl

/-! ### Changing results -/

def IterationResult.map (f : StepResult → StepResult) : IterationResult → IterationResult
  | .mk index status steps => .mk index status (steps.map f)

/-- The output with the results in it changed. -/
def StepOutput.map (f : StepResult → StepResult) : StepOutput → StepOutput
  | .api log => .api log
  | .sql log => .sql log
  | .case results => .case (results.map f)
  | .foreach iterations => .foreach (iterations.map (IterationResult.map f))

def Attempt.map (f : StepResult → StepResult) (a : Attempt) : Attempt :=
  { a with output := a.output.map (StepOutput.map f) }

def CaseReport.map (f : StepResult → StepResult) (r : CaseReport) : CaseReport := { r with steps := r.steps.map f }

theorem IterationResult.status_map (f : StepResult → StepResult) (i : IterationResult) :
    (i.map f).status = i.status := by
  cases i
  rfl

theorem IterationResult.map_id (i : IterationResult) : i.map id = i := by
  cases i
  simp [IterationResult.map]

theorem StepOutput.map_id (output : StepOutput) : output.map id = output := by
  cases output with
  | api | sql => rfl
  | case results => simp [StepOutput.map]
  | foreach iterations =>
    have hid : IterationResult.map id = id := funext IterationResult.map_id
    simp [StepOutput.map, hid]

theorem Attempt.map_id (a : Attempt) : a.map id = a := by
  have hid : StepOutput.map id = id := funext StepOutput.map_id
  simp [Attempt.map, hid]

theorem Attempt.map_id_eq : Attempt.map id = id := funext Attempt.map_id

theorem CaseReport.map_id_eq : CaseReport.map id = id := by
  funext r
  rw [CaseReport.map, List.map_id, id_eq]

/-- Where there are no results inside there is nothing to change. -/
theorem StepOutput.map_of_inner {output : StepOutput} (h : output.inner = [])
    (f : StepResult → StepResult) : output.map f = output := by
  cases output with
  | api | sql => rfl
  | case results =>
    have hresults : results = [] := h
    rw [hresults]
    rfl
  | foreach iterations =>
    have hsteps : ∀ i ∈ iterations, i.steps = [] := List.flatMap_eq_nil_iff.mp h
    have hmap : iterations.map (IterationResult.map f) = iterations.map id := by
      refine List.map_congr_left fun i hi => ?_
      have hi := hsteps i hi
      cases i
      cases hi
      rfl
    rw [StepOutput.map, hmap, List.map_id]

theorem Attempt.map_of_inner {a : Attempt} (h : a.inner = []) (f : StepResult → StepResult) :
    a.map f = a := by
  rcases a with ⟨passed, message, _ | output⟩
  · rfl
  · unfold Attempt.map
    rw [Option.map_some, StepOutput.map_of_inner h]

/-- A way to change results: each by itself, and those of the steps of a case all together. -/
structure Recast where
  each : StepResult → StepResult
  all : List StepResult → List StepResult

/-- Results of cases are changed one by one, too. -/
def Recast.pointwise (f : StepResult → StepResult) : Recast := ⟨f, List.map f⟩

def StepOutput.recast (g : Recast) : StepOutput → StepOutput
  | .api log => .api log
  | .sql log => .sql log
  | .case results => .case (g.all results)
  | .foreach iterations => .foreach (iterations.map (IterationResult.map g.each))

def Attempt.recast (g : Recast) (a : Attempt) : Attempt := { a with output := a.output.map (StepOutput.recast g) }

theorem Attempt.recast_pointwise (f : StepResult → StepResult) : Attempt.recast (.pointwise f) = Attempt.map f := by
  funext ⟨passed, message, output⟩
  rcases output with _ | _ | _ | _ | _ <;> rfl

/-- Logs hold no results to change. -/
theorem Attempt.recast_of_log {a : Attempt}
    (h : (∃ log, a.output = some (.api log)) ∨ ∃ log, a.output = some (.sql log)) (g : Recast) : a.recast g = a := by
  rcases a with ⟨passed, message, output⟩
  rcases h with ⟨log, h⟩ | ⟨log, h⟩ <;> cases h <;> rfl

/-! ### Paths -/

/-- The result that a path leads to. -/
def resultAt (results : List StepResult) : List Nat → Option StepResult
  | [] => none
  | [k] => results[k]?
  | k :: l :: path => results[k]?.bind fun r => resultAt r.inner (l :: path)

/-- Whether a path parts from another towards an earlier result. -/
def Precedes : List Nat → List Nat → Prop
  | i :: p, j :: q => i < j ∨ i = j ∧ Precedes p q
  | _, _ => False

/-- Of two paths one leads on from the other, or they part. -/
theorem prefix_or_precedes (p q : List Nat) : p <+: q ∨ q <+: p ∨ Precedes p q ∨ Precedes q p := by
  induction p generalizing q with
  | nil => exact .inl (List.nil_prefix)
  | cons i p ih =>
    cases q with
    | nil => exact .inr (.inl List.nil_prefix)
    | cons j q =>
      rcases Nat.lt_trichotomy i j with h | rfl | h
      · exact .inr (.inr (.inl (.inl h)))
      · rcases ih q with h | h | h | h
        · exact .inl (List.prefix_cons_inj i |>.mpr h)
        · exact .inr (.inl (List.prefix_cons_inj i |>.mpr h))
        · exact .inr (.inr (.inl (.inr ⟨rfl, h⟩)))
        · exact .inr (.inr (.inr (.inr ⟨rfl, h⟩)))
      · exact .inr (.inr (.inr (.inl h)))

theorem resultAt_nil (path : List Nat) : resultAt [] path = none := by
  rcases path with _ | ⟨k, _ | ⟨l, path⟩⟩ <;> rfl

theorem resultAt_append_left {as : List StepResult} {k : Nat} (h : k < as.length)
    (bs : List StepResult) (path : List Nat) :
    resultAt (as ++ bs) (k :: path) = resultAt as (k :: path) := by
  cases path with
  | nil => exact List.getElem?_append_left h
  | cons l path =>
    unfold resultAt
    rw [List.getElem?_append_left h]

theorem resultAt_append_right {as : List StepResult} {k : Nat} (h : as.length ≤ k)
    (bs : List StepResult) (path : List Nat) :
    resultAt (as ++ bs) (k :: path) = resultAt bs ((k - as.length) :: path) := by
  cases path with
  | nil => exact List.getElem?_append_right h
  | cons l path =>
    unfold resultAt
    rw [List.getElem?_append_right h]

end Casebook
