import Casebook.Proofs.Fallible
import Casebook.Proofs.Suite.Records
import Casebook.Resolve.Params

/-! Parameter blocks and the variables that they write.  A table writes row by row, so that an error leaves the rows
before it; the map of an expression is written as a whole or not at all, and nothing else writes. -/
namespace Casebook

/-! ### What a scope gains -/

namespace Scope

/-- One scope has the variables of a map, set by one step, on top of those of another. -/
structure Gains (label : String) (gained : Json.Members) (s t : Scope) : Prop where
  vars : ∀ name, t.getVar name = (Dict.get? name gained).or (s.getVar name)
  provenance : ∀ name, Dict.get? name t.provenance =
    ((Dict.get? name gained).map fun v => ⟨label, v.kindName⟩).or (Dict.get? name s.provenance)
  header : t.header = s.header
  host : t.host = s.host

variable (label : String) (s : Scope)

theorem setVars_concat (pairs : List (String × Json.Value)) (p : String × Json.Value) :
    s.setVars label (pairs ++ [p]) = (s.setVars label pairs).setVar label p.1 p.2 := by
  simp [setVars]

/-- Of variables set in turn the last of each name is gained. -/
theorem gains_setVars (pairs : List (String × Json.Value)) :
    s.Gains label (Dict.ofList pairs) (s.setVars label pairs) := by
  induction pairs using List.reverseRecOn with
  | nil => exact ⟨fun _ => rfl, fun _ => rfl, rfl, rfl⟩
  | append_singleton pairs p ih =>
    rw [setVars_concat, Dict.ofList_concat]
    refine ⟨fun name => ?_, fun name => ?_, ih.header, ih.host⟩
    · by_cases hname : name = p.1
      · rw [hname, getVar_setVar_self, Dict.get?_insert_self, Option.some_or]
      · rw [getVar_setVar_of_ne hname, Dict.get?_insert_of_ne hname, ih.vars]
    · change Dict.get? name (Dict.insert p.1 _ (s.setVars label pairs).provenance) = _
      by_cases hname : name = p.1
      · rw [hname, Dict.get?_insert_self, Dict.get?_insert_self, Option.map_some, Option.some_or]
      · rw [Dict.get?_insert_of_ne hname, Dict.get?_insert_of_ne hname, ih.provenance]

theorem gains_of_sorted {ms : Json.Members} (h : Dict.Sorted ms) : s.Gains label ms (s.setVars label ms) := by
  have hgains := s.gains_setVars label ms
  rwa [h.ofList_eq] at hgains

end Scope

namespace Evaluator

variable (ev : Evaluator)

/-! ### Maps -/

/-- The maps that expressions come to list each name once, in order. -/
def GivesMaps : Prop :=
  ∀ (expression : String) (scope : Scope) (index : Option Nat) (ms : Json.Members),
    ev.mapOf expression scope index = .ok ms → Dict.Sorted ms

theorem sorted_of_toJson {v : Template.Value} {ms : Json.Members} (h : v.toJson = .ok (.object ms)) :
    Dict.Sorted ms := by
  cases v with
  | map es kind =>
    rw [Template.Value.toJson] at h
    obtain ⟨pairs, -, hpairs⟩ := bind_eq_ok.mp h
    cases hpairs
    exact Dict.sorted_ofList pairs
  | int n size =>
    rw [Template.Value.toJson] at h
    split at h <;> cases h
  | float x =>
    rw [Template.Value.toJson, Json.Value.ofFloat] at h
    cases hx : Json.Number.ofFloat? x <;> rw [hx] at h <;> cases h
  | seq xs shape =>
    rw [Template.Value.toJson] at h
    obtain ⟨items, -, hitems⟩ := bind_eq_ok.mp h
    split at hitems <;> cases hitems
  | repeated xs times =>
    rw [Template.Value.toJson] at h
    obtain ⟨items, -, hitems⟩ := bind_eq_ok.mp h
    cases hitems
  | _ => cases h

/-- The maps of the template language are such. -/
theorem givesMaps_template : Template.evaluator.GivesMaps := by
  intro expression scope index ms h
  obtain ⟨o, ho, hmap⟩ := bind_eq_ok.mp h
  obtain ⟨o', hevaluate, hdefined⟩ := bind_eq_ok.mp (mapError_eq_ok.mp ho)
  split at hdefined
  · cases hdefined
  cases hdefined
  obtain ⟨v, -, rfl⟩ := map_eq_ok.mp hevaluate
  dsimp only at hmap
  split at hmap
  · cases hmap
  obtain ⟨json, hjson, hms⟩ := bind_eq_ok.mp hmap
  cases json with
  | object =>
    cases hms
    exact sorted_of_toJson (mapError_eq_ok.mp hjson)
  | _ => cases hms

/-! ### Rows -/

/-- Rows are resolved in turn, each in the scope that has the variables of those before it. -/
inductive Rows (label : String) (index : Option Nat) :
    List ParamEntry → List (String × Json.Value) → Scope → Scope → Prop where
  | nil (scope : Scope) : Rows label index [] [] scope scope
  | cons {row : ParamEntry} {rest : List ParamEntry} {name : String} {value : Json.Value}
      {pairs : List (String × Json.Value)} {s t : Scope} :
    ev.resolveRow s index row = .ok (name, value) →
    Rows label index rest pairs (s.setVar label name value) t →
    Rows label index (row :: rest) ((name, value) :: pairs) s t

variable (label : String) (index : Option Nat)

/-- How a table of variables ends: after its last row, or at the first that cannot be resolved. -/
inductive Tabulates (rows : List ParamEntry) (scope : Scope) : Resolved Json.Value → Prop where
  | complete {pairs : List (String × Json.Value)} {r : Resolved Json.Value} :
    ev.Rows label index rows pairs scope r.scope →
    scope.Gains label (Dict.ofList pairs) r.scope →
    r.result = .ok (.object (Dict.ofList pairs)) →
    Tabulates rows scope r
  | fails {done rest : List ParamEntry} {row : ParamEntry} {pairs : List (String × Json.Value)}
      {fault : ResolutionError} {r : Resolved Json.Value} :
    rows = done ++ row :: rest →
    ev.Rows label index done pairs scope r.scope →
    scope.Gains label (Dict.ofList pairs) r.scope →
    ev.resolveRow r.scope index row = .error fault →
    r.result = .error fault →
    Tabulates rows scope r

theorem rows_resolveRows (rows : List ParamEntry) (scope : Scope) :
    match ev.resolveRows (.variable label) index rows scope with
    | (pairs, none) => ev.Rows label index rows pairs scope (scope.setVars label pairs)
    | (pairs, some fault) => ∃ done row rest, rows = done ++ row :: rest ∧
        ev.Rows label index done pairs scope (scope.setVars label pairs) ∧
        ev.resolveRow (scope.setVars label pairs) index row = .error fault := by
  induction rows generalizing scope with
  | nil => exact .nil scope
  | cons row rest ih =>
    cases hrow : ev.resolveRow scope index row with
    | error fault =>
      simp only [resolveRows, hrow]
      exact ⟨[], row, rest, rfl, .nil scope, hrow⟩
    | ok pair =>
      obtain ⟨name, value⟩ := pair
      have hwrite : ParamRole.write (.variable label) [(name, value)] scope = scope.setVar label name value := rfl
      have hrest := ih (scope.setVar label name value)
      simp only [resolveRows, hrow, hwrite]
      rcases hres : ev.resolveRows (.variable label) index rest (scope.setVar label name value) with
        ⟨pairs, _ | fault⟩ <;> rw [hres] at hrest
      · exact .cons hrow hrest
      · obtain ⟨done, bad, after, rfl, hdone, hbad⟩ := hrest
        exact ⟨row :: done, bad, after, rfl, .cons hrow hdone, hbad⟩

theorem tabulates_resolveTable (rows : List ParamEntry) (scope : Scope) :
    ev.Tabulates label index rows scope (ev.resolveTable (.variable label) index rows scope) := by
  have hrows := ev.rows_resolveRows label index rows scope
  unfold resolveTable
  rcases hres : ev.resolveRows (.variable label) index rows scope with ⟨pairs, _ | fault⟩ <;> rw [hres] at hrows
  · exact .complete hrows (scope.gains_setVars label pairs) rfl
  · obtain ⟨done, row, rest, hsplit, hdone, hrow⟩ := hrows
    exact .fails hsplit hdone (scope.gains_setVars label pairs) hrow rfl

/-! ### Blocks -/

/-- What blocks of variables do in a scope, by their form. -/
structure WritesBlocks (scope : Scope) : Prop where
  /-- Tables write row by row. -/
  table : ∀ rows, ev.Tabulates label index rows scope (ev.resolveParams (.table rows) (.variable label) index scope)
  /-- JSON objects do as the tables of their members, which come in the order of their names. -/
  object : ∀ ms role, ev.resolveParams (.json (.object ms)) role index scope =
      ev.resolveParams (.table (rowsOfMembers ms)) role index scope ∧
    ev.resolveMap (.json (.object ms)) role index scope =
      ev.resolveMap (.table (rowsOfMembers ms)) role index scope ∧
    (Dict.Sorted ms → (rowsOfMembers ms).Pairwise fun a b => a.name < b.name)
  /-- Expressions write all of their map. -/
  map : ∀ expression ms, ev.mapOf expression scope index = .ok ms →
    (ev.resolveParams (.code expression) (.variable label) index scope).result = .ok (.object ms) ∧
      scope.Gains label ms (ev.resolveParams (.code expression) (.variable label) index scope).scope
  /-- Expressions that fail write nothing. -/
  noMap : ∀ expression fault, ev.mapOf expression scope index = .error fault →
    (ev.resolveParams (.code expression) (.variable label) index scope).result = .error fault ∧
      (ev.resolveParams (.code expression) (.variable label) index scope).scope = scope
  text : ∀ s, (ev.resolveParams (.text s) (.variable label) index scope).scope = scope
  other : ∀ v, (∀ ms, v ≠ .object ms) → (ev.resolveParams (.json v) (.variable label) index scope).scope = scope
  /-- Asking for a map changes neither what is written nor a result that is one. -/
  asMap : ∀ source, (ev.resolveMap source (.variable label) index scope).scope =
      (ev.resolveParams source (.variable label) index scope).scope ∧
    (∀ ms, (ev.resolveMap source (.variable label) index scope).result = .ok ms ↔
      (ev.resolveParams source (.variable label) index scope).result = .ok (.object ms)) ∧
    ∀ fault, (ev.resolveParams source (.variable label) index scope).result = .error fault →
      (ev.resolveMap source (.variable label) index scope).result = .error fault

theorem scope_resolveParams_regular (source : ParamSource) (scope : Scope) :
    (ev.resolveParams source .regular index scope).scope = scope := by
  unfold resolveParams
  split <;> rfl

theorem scope_resolveMap_regular (source : ParamSource) (scope : Scope) :
    (ev.resolveMap source .regular index scope).scope = scope := by
  cases source with
  | code e => rfl
  | table rows => exact ev.scope_resolveParams_regular index (.table rows) scope
  | json v => exact ev.scope_resolveParams_regular index (.json v) scope
  | text s => exact ev.scope_resolveParams_regular index (.text s) scope

theorem membersOf_eq_ok {v : Json.Value} {ms : Json.Members} : membersOf v = .ok ms ↔ v = .object ms := by
  cases v <;> simp [membersOf]

theorem resolveMap_variable (scope : Scope) (source : ParamSource) :
    (ev.resolveMap source (.variable label) index scope).scope =
        (ev.resolveParams source (.variable label) index scope).scope ∧
      (∀ ms, (ev.resolveMap source (.variable label) index scope).result = .ok ms ↔
        (ev.resolveParams source (.variable label) index scope).result = .ok (.object ms)) ∧
      ∀ fault, (ev.resolveParams source (.variable label) index scope).result = .error fault →
        (ev.resolveMap source (.variable label) index scope).result = .error fault := by
  have hmap : ev.resolveMap source (.variable label) index scope =
      (ev.resolveParams source (.variable label) index scope).bind membersOf := by
    cases source <;> rfl
  rw [hmap]
  refine ⟨rfl, fun ms => ?_, fun fault h => ?_⟩
  · refine bind_eq_ok.trans ⟨?_, fun h => ⟨_, h, rfl⟩⟩
    rintro ⟨v, hv, hms⟩
    rw [hv, membersOf_eq_ok.mp hms]
  · rw [Resolved.bind, h]
    rfl

/-- Plain blocks leave the scope as it is, and blocks of variables write what they come to. -/
theorem blocks_write_variables (hmaps : ev.GivesMaps) (scope : Scope) :
    (∀ source, (ev.resolveParams source .regular index scope).scope = scope ∧
      (ev.resolveMap source .regular index scope).scope = scope) ∧
    ev.WritesBlocks label index scope := by
  refine ⟨fun source => ?_, ?_⟩
  · exact ⟨ev.scope_resolveParams_regular index source scope, ev.scope_resolveMap_regular index source scope⟩
  · constructor
    case table => exact fun rows => ev.tabulates_resolveTable label index rows scope
    case object =>
      refine fun ms role => ⟨rfl, by cases role <;> rfl, fun hsorted => ?_⟩
      rw [rowsOfMembers, List.pairwise_map]
      exact List.pairwise_map.mp hsorted
    case map =>
      intro expression ms hms
      simp only [resolveParams, hms]
      exact ⟨rfl, scope.gains_of_sorted label (hmaps expression scope index ms hms)⟩
    case noMap =>
      intro expression fault hfault
      simp only [resolveParams, hfault]
      exact ⟨rfl, rfl⟩
    case text => exact fun _ => rfl
    case other =>
      intro v hv
      cases v with
      | object ms => exact absurd rfl (hv ms)
      | _ => rfl
    case asMap => exact ev.resolveMap_variable label index scope

/-- A row that cannot be converted ends a table, and the scope keeps the row before it. -/
theorem blocks_write_variables_halfway :
    Template.evaluator.GivesMaps ∧
      (Template.evaluator.resolveParams (.table [⟨"base", .ofNat 10, .auto⟩, ⟨"count", .string "many", .integer⟩])
        (.variable "1-setup") none .empty).scope.getVar "base" = some (.ofNat 10) := by
  refine ⟨givesMaps_template, ?_⟩
  have hbase : ∀ s, Template.evaluator.resolveRow s none ⟨"base", .ofNat 10, .auto⟩ = .ok ("base", .ofNat 10) := by
    intro s
    rfl
  have hcount : ∀ s, Template.evaluator.resolveRow s none ⟨"count", .string "many", .integer⟩ =
      .error (.coercion (.string "many") .integer) := by
    intro s
    rfl
  have hwrites := (blocks_write_variables Template.evaluator "1-setup" none givesMaps_template .empty).2
  cases hwrites.table [⟨"base", .ofNat 10, .auto⟩, ⟨"count", .string "many", .integer⟩] with
  | complete hrows hgains hresult =>
    cases hrows with
    | cons hfirst hrest =>
      cases hrest with
      | cons hsecond _ => cases (hcount _).symm.trans hsecond
  | @fails done rest row pairs fault _ hsplit hdone hgains hrow hresult =>
    cases hdone with
    | cons hfirst hrest =>
      obtain ⟨rfl, -⟩ := List.cons.inj hsplit
      cases (hbase _).symm.trans hfirst
      cases hrest with
      | nil =>
        rw [hgains.vars]
        rfl
      | cons hsecond _ =>
        obtain ⟨rfl, -⟩ := List.cons.inj (List.cons.inj hsplit).2
        cases (hcount _).symm.trans hsecond

end Evaluator

end Casebook
