import Casebook.Proofs.Run.Alterations

/-! The scope over a run.  Nothing but attempts at api and sql steps changes it, so it stays consistent throughout. -/
namespace Casebook

namespace Engine

variable {σ : Type} (e : Engine σ)

/-- A deed leads from one scope to another. -/
def Leads : Deed σ → Scope → Scope → Prop
  | .event _, scope, next => next = scope
  | .api head p label _ index s, scope, next => s.scope = scope ∧ ((e.api head p label index).run s).2.scope = next
  | .sql _ p label _ index s, scope, next => s.scope = scope ∧ ((e.sql p label index).run s).2.scope = next

/-- A scope becomes another by deeds one after another, each of which alters what those before it left. -/
inductive Evolves : Scope → List (Deed σ) → List Change → Scope → Prop where
  | nil (scope : Scope) : Evolves scope [] [] scope
  | cons {scope last : Scope} {deed : Deed σ} {deeds : List (Deed σ)} {changes later : List Change} :
    e.Alters deed changes → e.Leads deed scope (scope.after changes) → Evolves (scope.after changes) deeds later last →
    Evolves scope (deed :: deeds) (changes ++ later) last

variable {e} {root : List Step}

namespace Evolves

variable {scope last : Scope} {deeds : List (Deed σ)} {changes : List Change}

theorem append {middle : Scope} {deeds' : List (Deed σ)} {changes' : List Change}
    (h : e.Evolves scope deeds changes middle) (h' : e.Evolves middle deeds' changes' last) :
    e.Evolves scope (deeds ++ deeds') (changes ++ changes') last := by
  induction h with
  | nil => exact h'
  | cons halters hleads _ ih =>
    rw [List.cons_append, List.append_assoc]
    exact .cons halters hleads (ih h')

theorem eq_after (h : e.Evolves scope deeds changes last) : last = scope.after changes := by
  induction h with
  | nil => rfl
  | cons _ _ _ ih => rw [ih, Scope.after_append]

theorem filterMap_headers? (h : e.Evolves scope deeds changes last) :
    changes.filterMap Change.headers? = deeds.filterMap e.headedBy := by
  induction h with
  | nil => rfl
  | @cons _ _ deed _ _ _ halters _ _ ih =>
    rw [List.filterMap_append, halters.filterMap_headers?, ih, List.filterMap_cons]
    cases e.headedBy deed <;> rfl

theorem sets (h : e.Evolves scope deeds changes last) {label name : String} {value : Json.Value}
    (hmem : .wrote label name value ∈ changes) :
    ∃ deed ∈ deeds, ∃ step, deed.step? = some step ∧ step.Sets e.ev label name value := by
  induction h with
  | nil => cases hmem
  | cons halters _ _ ih =>
    rcases List.mem_append.mp hmem with hmem | hmem
    · exact ⟨_, List.mem_cons_self, halters.sets hmem⟩
    · obtain ⟨deed, hdeed, hsets⟩ := ih hmem
      exact ⟨deed, List.mem_cons_of_mem _ hdeed, hsets⟩

end Evolves

/-- The scope evolves along a trail. -/
theorem Trail.evolves {s t : RunState σ} {deeds : List (Deed σ)} (h : e.Trail root s deeds t) :
    ∃ changes, e.Evolves s.scope deeds changes t.scope := by
  induction h with
  | still _ hscope => exact ⟨[], hscope ▸ .nil _⟩
  | latched halt s =>
    have hscope : (s.latched halt).scope = s.scope := by
      unfold RunState.latched
      split <;> rfl
    exact ⟨[], hscope ▸ .nil _⟩
  | event s hx => exact ⟨_, .cons (.event _) rfl (.nil _)⟩
  | @api head p label number index s hstep =>
    obtain ⟨changes, halters, hscope⟩ := e.api_alters head p label number index (s.recorded (.attempted label number))
    exact ⟨changes ++ [], .cons halters ⟨rfl, hscope⟩ (hscope ▸ .nil _)⟩
  | @sql head p label number index s hstep =>
    obtain ⟨changes, halters, hscope⟩ := e.sql_alters head p label number index (s.recorded (.attempted label number))
    exact ⟨changes ++ [], .cons halters ⟨rfl, hscope⟩ (hscope ▸ .nil _)⟩
  | nested _ ih => exact ih
  | append _ _ ih₁ ih₂ =>
    obtain ⟨changes, hevolves⟩ := ih₁
    obtain ⟨later, hevolves'⟩ := ih₂
    exact ⟨_, hevolves.append hevolves'⟩

theorem Trail.contains {s t : RunState σ} {deeds : List (Deed σ)} (h : e.Trail root s deeds t) {deed : Deed σ}
    (hdeed : deed ∈ deeds) {step : Step} (hstep : deed.step? = some step) : e.Contains root step := by
  induction h with
  | still => cases hdeed
  | latched => cases hdeed
  | event =>
    cases List.mem_singleton.mp hdeed
    cases hstep
  | api label number index s hcontains =>
    cases List.mem_singleton.mp hdeed
    cases hstep
    exact hcontains
  | sql label number index s hcontains =>
    cases List.mem_singleton.mp hdeed
    cases hstep
    exact hcontains
  | nested _ ih => exact ih hdeed
  | append _ _ ih₁ ih₂ =>
    rcases List.mem_append.mp hdeed with hdeed | hdeed
    · exact ih₁ hdeed
    · exact ih₂ hdeed

variable (e) in
/-- The scope stays consistent from one state of a run to another, over such deeds and such changes by them. -/
structure KeepsScope (root : List Step) (s : RunState σ) (deeds : List (Deed σ)) (changes : List Change)
    (t : RunState σ) : Prop where
  trail : e.Trail root s deeds t
  evolves : e.Evolves s.scope deeds changes t.scope
  scope : t.scope = s.scope.after changes
  steady : s.scope.Steady changes
  /-- The headers of the changes are those of the attempts that resolved a header block, in order. -/
  headed : changes.filterMap Change.headers? = deeds.filterMap e.headedBy
  headers : ∀ headers, .headed headers ∈ changes → IsHeaderSet headers
  sets : ∀ label name value, .wrote label name value ∈ changes →
    ∃ step, e.Contains root step ∧ step.Sets e.ev label name value
  /-- A name that no step of the case sets is left alone, be it one that expressions on a response see. -/
  unset : ∀ name, (∀ label value step, e.Contains root step → ¬step.Sets e.ev label name value) →
    ∀ seen, seen <+: changes → (s.scope.after seen).getVar name = s.scope.getVar name

theorem Trail.keepsScope {s t : RunState σ} {deeds : List (Deed σ)} (h : e.Trail root s deeds t)
    (hprovenance : s.scope.provenance = []) : ∃ changes, e.KeepsScope root s deeds changes t := by
  obtain ⟨changes, hevolves⟩ := h.evolves
  have hheaders : ∀ headers, .headed headers ∈ changes → IsHeaderSet headers := by
    intro headers hmem
    rw [← Change.mem_filterMap_headers?, hevolves.filterMap_headers?] at hmem
    obtain ⟨deed, -, hheaded⟩ := List.mem_filterMap.mp hmem
    exact isHeaderSet_of_headedBy hheaded
  have hsteady : s.scope.Steady changes :=
    Scope.steady hprovenance fun headers hmem => (hheaders headers hmem).ne_nil
  have hsets : ∀ label name value, .wrote label name value ∈ changes →
      ∃ step, e.Contains root step ∧ step.Sets e.ev label name value := by
    intro label name value hmem
    obtain ⟨deed, hdeed, step, hstep, hsets⟩ := hevolves.sets hmem
    exact ⟨step, h.contains hdeed hstep, hsets⟩
  refine ⟨changes, h, hevolves, hevolves.eq_after, hsteady, hevolves.filterMap_headers?, hheaders, hsets,
    fun name hnone seen hseen => ?_⟩
  cases hlast : (s.scope.after seen).getVar name with
  | none =>
    by_contra hfirst
    exact hsteady.kept [] seen List.nil_prefix hseen name (Ne.symm hfirst) hlast
  | some value =>
    rcases hsteady.set seen hseen name value hlast with hfirst | ⟨label, hmem, -⟩
    · exact hfirst.symm
    · obtain ⟨step, hstep, hset⟩ := hsets label name value (hseen.subset hmem)
      exact absurd hset (hnone label value step hstep)

/-- However a run ends, the scope has stayed consistent if nothing was on record at its start. -/
theorem scope_stays_consistent (e : Engine σ) {caseId : CaseId} {s : RunState σ} (h : s.scope.provenance = []) :
    ∃ deeds changes, e.KeepsScope (e.stepsOf caseId) s deeds changes ((e.runCase caseId).run s).2 := by
  obtain ⟨deeds, htrail⟩ := e.exists_trail caseId s
  exact ⟨deeds, htrail.keepsScope h⟩

/-! ### A loop with headers of its own in each iteration -/

/-- Every expression is a map of its text to the response, or to the iteration where there is no response. -/
def turning : Evaluator where
  render text _ _ := .ok text
  evaluate text scope index :=
    .ok ⟨false, true, .map, .ok (.object [(text, (scope.getVar "response").getD (.ofNat (index.getD 0)))])⟩

def turnCase : Case :=
  ⟨1, "turns", some 1, [.foreach ⟨1, "loop", 0, true, .default, none⟩ (.number (.ofInt64 2)) none
    [.api ⟨2, "call", 0, true, .default, none⟩ { ApiParams.new "GET" "/turn" with
      headers := some (.code "X-Turn")
      outputs := some (.code "headers") }]]⟩

def turnEngine : Engine Unit where
  ev := turning
  repository := .ofSuite { Suite.empty with cases := [turnCase] }
  transport := { unasked with http _ _ := (.quiet (some (.ok ⟨200, [], "true", ⟨0, 0⟩⟩)), ()) }
  config := .default
  options := ⟨1, false, false⟩
  patience := 0

/-- The headers of the first iteration stay.  The step sets the variable `headers` itself, and leaves none for the
response. -/
theorem headers_of_first_turn_stay :
    let t := ((turnEngine.runCase 1).run (.start .empty false ())).2
    t.scope.header = [("content-type", "application/json"), ("x-turn", "0")] ∧
    t.scope.vars.map Prod.fst = ["headers"] ∧ t.scope.provenance = [("headers", ⟨"loop-call", "boolean"⟩)] ∧
    ∃ deeds changes, turnEngine.KeepsScope (turnEngine.stepsOf 1) (.start .empty false ()) deeds changes t :=
  ⟨by decide +kernel, by decide +kernel, by decide +kernel, scope_stays_consistent turnEngine rfl⟩

end Engine

end Casebook
