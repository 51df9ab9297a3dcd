import Mathlib.Data.List.Induction
import Casebook.Scope

/-! Changes to a scope: a step sets a variable, or the first header block that an api step resolves becomes the default
headers.  What single changes keep, any number of them keeps. -/
namespace Casebook

/-! ### Changes -/

/-- A change to a scope: a step sets a variable, or an api step has resolved its header block. -/
inductive Change where
  | wrote (label name : String) (value : Json.Value)
  | headed (headers : Dict String)

namespace Change

def headers? : Change → Option (Dict String)
  | wrote .. => none
  | headed headers => some headers

/-- A step sets variables one after another. -/
def writes (label : String) (pairs : List (String × Json.Value)) : List Change :=
  pairs.map fun p => wrote label p.1 p.2

theorem filterMap_headers?_writes (label : String) (pairs : List (String × Json.Value)) :
    (writes label pairs).filterMap headers? = [] := by
  simp [writes, headers?]

theorem filterMap_headers?_headed (sets : List (Dict String)) :
    (sets.map headed).filterMap headers? = sets := by
  simp [headers?, Function.comp_def]

theorem mem_filterMap_headers? {headers : Dict String} {changes : List Change} :
    headers ∈ changes.filterMap headers? ↔ headed headers ∈ changes := by
  rw [List.mem_filterMap]
  constructor
  · rintro ⟨c, hc, hheaders⟩
    cases c with
    | wrote => cases hheaders
    | headed => cases hheaders; exact hc
  · exact fun hc => ⟨_, hc, rfl⟩

theorem mem_writes {label label' name : String} {value : Json.Value} {pairs : List (String × Json.Value)} :
    wrote label' name value ∈ writes label pairs ↔ label' = label ∧ (name, value) ∈ pairs := by
  simp [writes, eq_comm, and_comm]

end Change

namespace Scope

/-- Headers become the default ones where there are none yet. -/
def changed (s : Scope) : Change → Scope
  | .wrote label name value => s.setVar label name value
  | .headed headers => if s.header.isEmpty then { s with header := headers } else s

def after (s : Scope) (changes : List Change) : Scope := changes.foldl changed s

variable (s : Scope) (changes : List Change)

theorem after_append (later : List Change) : s.after (changes ++ later) = (s.after changes).after later :=
  List.foldl_append

theorem after_writes (label : String) (pairs : List (String × Json.Value)) :
    s.after (Change.writes label pairs) = s.setVars label pairs :=
  List.foldl_map

variable {s changes}

/-- What single changes keep is kept. -/
theorem after_induct {P : Scope → Prop} (hstep : ∀ s c, P s → P (changed s c)) (h : P s) (changes : List Change) :
    P (s.after changes) := by
  induction changes generalizing s with
  | nil => exact h
  | cons c changes ih => exact ih (hstep s c h)

theorem vars_changed_headed (s : Scope) (headers : Dict String) : (s.changed (.headed headers)).vars = s.vars := by
  unfold changed
  dsimp only
  split <;> rfl

theorem provenance_changed_headed (s : Scope) (headers : Dict String) :
    (s.changed (.headed headers)).provenance = s.provenance := by
  unfold changed
  dsimp only
  split <;> rfl

/-- Every name with a provenance is that of a variable, and the provenance has the type of its value. -/
def Recorded (s : Scope) : Prop :=
  ∀ name origin, Dict.get? name s.provenance = some origin →
    ∃ value, s.getVar name = some value ∧ origin.valueType = value.kindName

theorem Recorded.changed (h : s.Recorded) (c : Change) : (s.changed c).Recorded := by
  cases c with
  | wrote label name value =>
    intro other origin horigin
    by_cases hname : other = name
    · subst hname
      have hset : Dict.get? other (s.setVar label other value).provenance = some ⟨label, value.kindName⟩ :=
        Dict.get?_insert_self _ _ _
      cases hset.symm.trans horigin
      exact ⟨value, getVar_setVar_self _ _ _ _, rfl⟩
    · have hkept : Dict.get? other (s.setVar label name value).provenance = Dict.get? other s.provenance :=
        Dict.get?_insert_of_ne hname _ _
      obtain ⟨value', hvalue', htype⟩ := h other origin (hkept ▸ horigin)
      exact ⟨value', (getVar_setVar_of_ne hname _ _).trans hvalue', htype⟩
  | headed headers =>
    unfold Recorded getVar
    rw [vars_changed_headed, provenance_changed_headed]
    exact h

theorem getVar_changed_ne_none {name : String} (h : s.getVar name ≠ none) (c : Change) :
    (s.changed c).getVar name ≠ none := by
  cases c with
  | wrote label other value =>
    by_cases hname : name = other
    · subst hname
      have hset : (s.changed (.wrote label name value)).getVar name = some value := getVar_setVar_self _ _ _ _
      rw [hset]
      exact Option.some_ne_none value
    · have hkept : (s.changed (.wrote label other value)).getVar name = s.getVar name := getVar_setVar_of_ne hname _ _
      rwa [hkept]
  | headed headers =>
    unfold getVar
    rw [vars_changed_headed]
    exact h

theorem host_changed (s : Scope) (c : Change) : (s.changed c).host = s.host := by
  cases c with
  | wrote => rfl
  | headed =>
    unfold changed
    dsimp only
    split <;> rfl

theorem header_changed (h : s.header ≠ []) (c : Change) : (s.changed c).header = s.header := by
  cases c with
  | wrote => rfl
  | headed headers =>
    have hfalse : s.header.isEmpty = false := by simpa using h
    simp [changed, hfalse]

theorem host_after (s : Scope) (changes : List Change) : (s.after changes).host = s.host :=
  after_induct (P := fun t => t.host = s.host) (fun t c h => (host_changed t c).trans h) rfl changes

theorem header_after (h : s.header ≠ []) (changes : List Change) : (s.after changes).header = s.header := by
  refine after_induct (P := fun t => t.header = s.header) (fun t c ht => ?_) rfl changes
  rw [header_changed (ht ▸ h), ht]

/-- Where there are no headers yet, the first ones that were resolved stay. -/
theorem header_after_of_nil (h : s.header = []) (hsets : ∀ headers, .headed headers ∈ changes → headers ≠ []) :
    (s.after changes).header = ((changes.filterMap Change.headers?).head?).getD [] := by
  induction changes generalizing s with
  | nil => exact h
  | cons c changes ih =>
    have hrest : ∀ headers, .headed headers ∈ changes → headers ≠ [] := fun headers hmem =>
      hsets headers (List.mem_cons_of_mem _ hmem)
    cases c with
    | wrote label name value => exact ih h hrest
    | headed headers =>
      have hset : (s.changed (.headed headers)).header = headers := by simp [changed, h]
      have hne : headers ≠ [] := hsets headers List.mem_cons_self
      exact (header_after (hset.symm ▸ hne) changes).trans hset

/-- A variable is as it was, or as a step set it last, which its provenance then names. -/
theorem getVar_after {name : String} {value : Json.Value} (h : (s.after changes).getVar name = some value) :
    s.getVar name = some value ∨ ∃ label, .wrote label name value ∈ changes ∧
      Dict.get? name (s.after changes).provenance = some ⟨label, value.kindName⟩ := by
  induction changes using List.reverseRecOn with
  | nil => exact .inl h
  | append_singleton changes c ih =>
    have hlater : ∀ {u : Scope}, u.getVar name = (s.after changes).getVar name →
        Dict.get? name u.provenance = Dict.get? name (s.after changes).provenance → u.getVar name = some value →
        s.getVar name = some value ∨ ∃ label, .wrote label name value ∈ changes ++ [c] ∧
          Dict.get? name u.provenance = some ⟨label, value.kindName⟩ := by
      intro u hsame horigin hu
      rcases ih (hsame ▸ hu) with hold | ⟨label, hmem, hlabel⟩
      · exact .inl hold
      · exact .inr ⟨label, List.mem_append_left _ hmem, horigin.trans hlabel⟩
    rw [after_append] at h ⊢
    cases c with
    | wrote label other value' =>
      by_cases hname : name = other
      · subst hname
        have hset : ((s.after changes).after [.wrote label name value']).getVar name = some value' :=
          getVar_setVar_self _ _ _ _
        cases hset.symm.trans h
        exact .inr ⟨label, by simp, Dict.get?_insert_self _ _ _⟩
      · exact hlater (getVar_setVar_of_ne hname _ _) (Dict.get?_insert_of_ne hname _ _) h
    | headed headers =>
      exact hlater (congrArg (Dict.get? name) (vars_changed_headed _ headers))
        (congrArg (Dict.get? name) (provenance_changed_headed _ headers)) h

/-- What holds of a scope at every moment while it changes. -/
structure Steady (s : Scope) (changes : List Change) : Prop where
  recorded : ∀ seen, seen <+: changes → (s.after seen).Recorded
  /-- No variable is removed. -/
  kept : ∀ seen later, seen <+: later → later <+: changes → ∀ name,
    (s.after seen).getVar name ≠ none → (s.after later).getVar name ≠ none
  host : ∀ seen, seen <+: changes → (s.after seen).host = s.host
  /-- Headers that there are stay. -/
  header : ∀ seen later, seen <+: later → later <+: changes → (s.after seen).header ≠ [] →
    (s.after later).header = (s.after seen).header
  first : s.header = [] → ∀ seen, seen <+: changes →
    (s.after seen).header = ((seen.filterMap Change.headers?).head?).getD []
  set : ∀ seen, seen <+: changes → ∀ name value, (s.after seen).getVar name = some value →
    s.getVar name = some value ∨ ∃ label, .wrote label name value ∈ seen ∧
      Dict.get? name (s.after seen).provenance = some ⟨label, value.kindName⟩

theorem steady (hprovenance : s.provenance = []) (hsets : ∀ headers, .headed headers ∈ changes → headers ≠ []) :
    s.Steady changes where
  recorded seen _ := by
    have hstart : s.Recorded := by
      intro name origin horigin
      rw [hprovenance] at horigin
      cases horigin
    exact after_induct (P := Recorded) (fun _ c h => h.changed c) hstart seen
  kept := by
    rintro seen _ ⟨more, rfl⟩ - name hname
    rw [after_append]
    exact after_induct (P := fun t => t.getVar name ≠ none) (fun _ c h => getVar_changed_ne_none h c) hname more
  host seen _ := host_after s seen
  header := by
    rintro seen _ ⟨more, rfl⟩ - hheader
    rw [after_append]
    exact header_after hheader more
  first hnil seen hseen := header_after_of_nil hnil fun headers hmem => hsets headers (hseen.subset hmem)
  set _ _ _ _ h := getVar_after h

end Scope

end Casebook
