import Casebook.Proofs.Resolve.Blocks
import Casebook.Proofs.Run.ApiVerdicts

/-! What the log of a request tells of the variables that were captured from its response.  It lists all of them where
capturing goes well, and none where an entry fails, also if variables of entries before that were written. -/
namespace Casebook

namespace Evaluator

variable (ev : Evaluator) (index : Option Nat) (label : String) (body headers : Json.Value)

/-! ### Entries -/

/-- Entries are taken from a response in turn, each in the scope that has the variables of those before it; one that
finds nothing is passed over if it is optional. -/
inductive Gathers : List OutputEntry → List (String × Json.Value) → Scope → Scope → Prop where
  | nil (scope : Scope) : Gathers [] [] scope scope
  | found {entry : OutputEntry} {rest : List OutputEntry} {name : String} {value : Json.Value}
      {pairs : List (String × Json.Value)} {s t : Scope} :
    ev.outputValue index body headers entry s = .ok (name, some value) →
    Gathers rest pairs (s.setVar label name value) t →
    Gathers (entry :: rest) ((name, value) :: pairs) s t
  | missed {entry : OutputEntry} {rest : List OutputEntry} {name : String} {pairs : List (String × Json.Value)}
      {s t : Scope} :
    ev.outputValue index body headers entry s = .ok (name, none) →
    entry.isOptional = true →
    Gathers rest pairs s t →
    Gathers (entry :: rest) pairs s t

/-- An entry ends the capture: it cannot be resolved, or what it must find is not there. -/
inductive Lacks (entry : OutputEntry) (scope : Scope) : StepFault → Prop where
  | unresolved {cause : ResolutionError} :
    ev.outputValue index body headers entry scope = .error cause → Lacks entry scope (.resolution .output cause)
  | missing {name : String} :
    ev.outputValue index body headers entry scope = .ok (name, none) → entry.isOptional = false →
    Lacks entry scope (.missingOutput entry.path)

/-- What a step captures, by its outputs: the variables that it writes in order, what stops it, and the scope that it
leaves. -/
inductive Collects : Option OutputSpec → Scope → List (String × Json.Value) → Option StepFault → Scope → Prop where
  | nothing (scope : Scope) : Collects none scope [] none scope
  | table {entries : List OutputEntry} {pairs : List (String × Json.Value)} {s t : Scope} :
    ev.Gathers index label body headers entries pairs s t → Collects (some (.table entries)) s pairs none t
  | halfway {done rest : List OutputEntry} {entry : OutputEntry} {pairs : List (String × Json.Value)}
      {fault : StepFault} {s t : Scope} :
    ev.Gathers index label body headers done pairs s t → ev.Lacks index body headers entry t fault →
    Collects (some (.table (done ++ entry :: rest))) s pairs (some fault) t
  | map {expression : String} {ms : Json.Members} {s : Scope} :
    ev.mapOf expression (s.withResponse body headers) index = .ok ms →
    Collects (some (.code expression)) s ms none (s.setVars label ms)
  | noMap {expression : String} {cause : ResolutionError} {fault : StepFault} {s : Scope} :
    ev.mapOf expression (s.withResponse body headers) index = .error cause →
    fault = .outputNotMap ∨ fault = .resolution .output cause →
    Collects (some (.code expression)) s [] (some fault) s

section Steps

variable {ev index label body headers} {entry : OutputEntry} {rest : List OutputEntry} {name : String}
  {pairs : List (String × Json.Value)} {fault : Option StepFault} {s t : Scope}

theorem Collects.found {value : Json.Value}
    (hvalue : ev.outputValue index body headers entry s = .ok (name, some value))
    (h : ev.Collects index label body headers (some (.table rest)) (s.setVar label name value) pairs fault t) :
    ev.Collects index label body headers (some (.table (entry :: rest))) s ((name, value) :: pairs) fault t := by
  cases h with
  | table hrest => exact .table (.found hvalue hrest)
  | halfway hdone hbad => exact .halfway (.found hvalue hdone) hbad

theorem Collects.missed (hvalue : ev.outputValue index body headers entry s = .ok (name, none))
    (hoptional : entry.isOptional = true)
    (h : ev.Collects index label body headers (some (.table rest)) s pairs fault t) :
    ev.Collects index label body headers (some (.table (entry :: rest))) s pairs fault t := by
  cases h with
  | table hrest => exact .table (.missed hvalue hoptional hrest)
  | halfway hdone hbad => exact .halfway (.missed hvalue hoptional hdone) hbad

end Steps

theorem collects_captureEntries (entries : List OutputEntry) (captured : Json.Members) (scope : Scope) :
    ∃ pairs fault, ev.Collects index label body headers (some (.table entries)) scope pairs fault
        (scope.setVars label pairs) ∧
      ev.captureEntries index label body headers entries captured scope =
        (fault.elim (.ok (pairs.foldl (fun d p => Dict.insert p.1 p.2 d) captured)) .error,
          scope.setVars label pairs) := by
  induction entries generalizing captured scope with
  | nil => exact ⟨[], none, .table (.nil scope), rfl⟩
  | cons entry rest ih =>
    rw [captureEntries]
    split
    case h_1 cause hcause => exact ⟨[], some _, .halfway (.nil scope) (.unresolved hcause), rfl⟩
    case h_2 name value hvalue =>
      obtain ⟨pairs, fault, hrest, hresult⟩ := ih (captured.insert name value) (scope.setVar label name value)
      exact ⟨(name, value) :: pairs, fault, hrest.found hvalue, hresult⟩
    case h_3 name hnone =>
      split
      case isTrue hoptional =>
        obtain ⟨pairs, fault, hrest, hresult⟩ := ih captured scope
        exact ⟨pairs, fault, hrest.missed hnone hoptional, hresult⟩
      case isFalse hrequired =>
        exact ⟨[], some _, .halfway (.nil scope) (.missing hnone (Bool.eq_false_iff.mpr hrequired)), rfl⟩

/-- What capturing writes, and what it gives to the log. -/
theorem exists_collects (hmaps : ev.GivesMaps) (outputs : Option OutputSpec) (scope : Scope) :
    ∃ pairs fault, ev.Collects index label body headers outputs scope pairs fault (scope.setVars label pairs) ∧
      ev.capture index outputs label body headers scope =
        (fault.elim (.ok (Dict.ofList pairs)) .error, scope.setVars label pairs) := by
  cases outputs with
  | none => exact ⟨[], none, .nothing scope, rfl⟩
  | some spec =>
    cases spec with
    | table entries => exact ev.collects_captureEntries index label body headers entries [] scope
    | code expression =>
      simp only [capture]
      split
      case h_1 ms hms =>
        refine ⟨ms, none, .map hms, ?_⟩
        rw [(hmaps _ _ _ _ hms).ofList_eq]
        rfl
      case h_2 hcause => exact ⟨[], some _, .noMap hcause (.inl rfl), rfl⟩
      case h_3 cause _ hcause => exact ⟨[], some _, .noMap hcause (.inr rfl), rfl⟩

end Evaluator

theorem Dict.ofList_eq_nil {α : Type} {pairs : List (String × α)} : ofList pairs = [] ↔ pairs = [] := by
  refine ⟨fun h => ?_, fun h => by rw [h]; rfl⟩
  have hkeys : ∀ key, key ∉ pairs.map Prod.fst := by
    intro key hkey
    have hmem := mem_keys_ofList.mpr hkey
    rw [h] at hmem
    cases hmem
  exact List.map_eq_nil_iff.mp (List.eq_nil_iff_forall_not_mem.mpr hkeys)

/-! ### Logs -/

theorem ApiParams.outputs_judge (p : ApiParams) (ev : Evaluator) (label : String) (index : Option Nat)
    (rules : Except RepositoryError (List AssertionRule)) (response : HttpResponse) (log : RequestLog)
    (scope : Scope) :
    (p.judge ev label index rules response log scope).log.outputs =
        (p.captured ev label index response scope).1.toOption.getD [] ∧
      (p.judge ev label index rules response log scope).scope = (p.captured ev label index response scope).2 := by
  unfold judge captured
  dsimp only
  split
  · exact ⟨rfl, rfl⟩
  · split <;> exact ⟨rfl, rfl⟩

/-- The captured variables in the log of an attempt at an api step. -/
def Attempt.outputs? (a : Attempt) : Option Json.Members :=
  match a.output with
  | some (.api log) => some log.outputs
  | _ => none

namespace Engine

variable {σ : Type}

/-- What an attempt captures from its response: the scope gains that and nothing else, and the log lists it, unless
something was written before capturing failed. -/
theorem log_lists_captured (e : Engine σ) (hmaps : e.ev.GivesMaps) (h : StepHead) (p : ApiParams) (label : String)
    (index : Option Nat) (s : RunState σ) {parts : RequestParts} {response : HttpResponse}
    (hparts : e.Resolves p label index s parts) (hanswer : e.answerTo h p parts s.world = some (.ok response))
    (hstatus : 200 ≤ response.status ∧ response.status ≤ 299) :
    ∃ (a : Attempt) (outputs : Json.Members) (pairs : List (String × Json.Value)) (fault : Option StepFault),
      ((e.api h p label index).run s).1 = .ok a ∧ a.outputs? = some outputs ∧
      e.ev.Collects index label response.document response.headerDocument p.outputs parts.scope pairs fault
        ((e.api h p label index).run s).2.scope ∧
      parts.scope.Gains label (Dict.ofList pairs) ((e.api h p label index).run s).2.scope ∧
      (outputs = Dict.ofList pairs ↔ fault = none ∨ pairs = []) ∧
      (fault ≠ none → outputs = []) := by
  obtain ⟨u, hquiet, -, hrun | ⟨hnone, -⟩⟩ := e.exists_run_opening h p label index s
  case inr => exact absurd hparts (hnone parts)
  obtain ⟨parts', hparts', hscope, hrun⟩ := hrun
  cases hparts'.unique hparts
  obtain ⟨w, -, hkept, hexchange⟩ := e.exists_run_exchange h p label index parts u
  rw [← hrun, hquiet.world, hanswer] at hexchange
  dsimp only at hexchange
  rw [run_judge, if_pos (HttpResponse.isSuccess_iff.mpr hstatus), hkept, hscope] at hexchange
  obtain ⟨houtputs, hleft⟩ := p.outputs_judge e.ev label index (e.repository.rules h.id) response
    ((RequestLog.ofMethod (Text.asciiUpper p.method)).made parts) parts.scope
  obtain ⟨pairs, fault, hcollects, hcapture⟩ :=
    e.ev.exists_collects index label response.document response.headerDocument hmaps p.outputs parts.scope
  rw [ApiParams.captured, hcapture] at houtputs hleft
  rw [hexchange]
  dsimp only
  rw [hleft]
  refine ⟨_, _, pairs, fault, rfl, rfl, hcollects, parts.scope.gains_setVars label pairs, ?_, ?_⟩ <;> rw [houtputs]
  · cases fault with
    | none => exact iff_of_true rfl (.inl rfl)
    | some fault => exact eq_comm.trans (Dict.ofList_eq_nil.trans (by simp))
  · intro hfault
    obtain ⟨fault, rfl⟩ := Option.ne_none_iff_exists'.mp hfault
    rfl

/-! ### A server that tells too little -/

/-- The health endpoint tells that the server is up, and not its load. -/
def loadParams : ApiParams :=
  { ApiParams.new "GET" "/health" with outputs := some (.table [⟨"up", "up", .body⟩, ⟨"load", "load", .body⟩]) }

def loadParts : RequestParts := ⟨"", "/health", [("content-type", "application/json")], [], none, .empty⟩

theorem resolves_loadParts : healthEngine.Resolves loadParams "health" none (.start .empty false ()) loadParts :=
  ⟨rfl, ⟨rfl, rfl, rfl, rfl, rfl⟩⟩

theorem load_failure_hides_up :
    ∃ outputs, ((healthEngine.api healthHead loadParams "health" none).run (.start .empty false ())).1.toOption.bind
        Attempt.outputs? = some outputs ∧
      ¬loadParts.scope.Gains "health" outputs
        ((healthEngine.api healthHead loadParams "health" none).run (.start .empty false ())).2.scope := by
  have hlogged : (((healthEngine.api healthHead loadParams "health" none).run (.start .empty false ())).1.toOption.bind
      Attempt.outputs?).map List.isEmpty = some true := by
    decide +kernel
  have hwritten : (((healthEngine.api healthHead loadParams "health" none).run (.start .empty false ())).2.scope.getVar
      "up").isSome = true := by
    decide +kernel
  obtain ⟨outputs, houtputs, hempty⟩ := Option.map_eq_some_iff.mp hlogged
  refine ⟨outputs, houtputs, fun hgains => ?_⟩
  rw [hgains.vars, List.isEmpty_iff.mp hempty] at hwritten
  cases hwritten

theorem load_failure_is_logged_empty :
    healthEngine.answerTo healthHead loadParams loadParts () =
        some (.ok ⟨200, [], "\x7b\"up\":true\x7d", ⟨0, 0⟩⟩) ∧
      ∃ a outputs, ((healthEngine.api healthHead loadParams "health" none).run (.start .empty false ())).1 = .ok a ∧
        a.outputs? = some outputs := by
  have hanswer : healthEngine.answerTo healthHead loadParams loadParts () =
      some (.ok ⟨200, [], "\x7b\"up\":true\x7d", ⟨0, 0⟩⟩) := rfl
  obtain ⟨a, outputs, -, -, hrun, houtputs, -⟩ := log_lists_captured healthEngine Evaluator.givesMaps_template
    healthHead loadParams "health" none (.start .empty false ()) resolves_loadParts hanswer (by decide)
  exact ⟨hanswer, a, outputs, hrun, houtputs⟩

end Engine

end Casebook
