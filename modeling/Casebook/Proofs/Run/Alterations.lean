import Casebook.Proofs.Run.Requests
import Casebook.Proofs.Run.ScopeChanges
import Casebook.Proofs.Suite.Records

/-! What attempts do to the scope.  One at an api step changes it by its variables, its headers and its outputs, and one
at an sql step by its row. -/
namespace Casebook

/-! ### Headers -/

/-- The small form of a letter is no capital. -/
theorem Text.isUpper_toLower (c : Char) : c.toLower.isUpper = false := by
  unfold Char.toLower
  split
  case isTrue h =>
    have hlow : 65 ≤ c.toNat := UInt32.le_iff_toNat_le.mp h.1
    have hhigh : c.toNat ≤ 90 := UInt32.le_iff_toNat_le.mp h.2
    have hsmall : (c.val + 32).toNat = c.toNat + 32 := by
      rw [UInt32.toNat_add]
      exact Nat.mod_eq_of_lt (by simp; omega)
    refine decide_eq_false fun hcapital => ?_
    have hupper : (c.val + 32).toNat ≤ 90 := UInt32.le_iff_toNat_le.mp hcapital.2
    omega
  case isFalse h => exact decide_eq_false h

/-- Headers with a content type, under names in lower case. -/
structure IsHeaderSet (headers : Dict String) : Prop where
  contentType : (Dict.get? "content-type" headers).isSome = true
  lower : ∀ name ∈ Dict.keys headers, ∀ c ∈ name.toList, c.isUpper = false

theorem IsHeaderSet.ne_nil {headers : Dict String} (h : IsHeaderSet headers) : headers ≠ [] := by
  rintro rfl
  cases h.contentType

theorem isHeaderSet_headersOf (ms : Json.Members) : IsHeaderSet (headersOf ms) where
  contentType := by
    unfold headersOf withContentType Dict.insertNew
    split
    case isTrue h => exact h
    case isFalse => rw [Dict.get?_insert_self]; rfl
  lower := by
    have hlower : ∀ name ∈ Dict.keys (Dict.ofList (ms.map fun p => (Text.asciiLower p.1, p.2.display))),
        ∀ c ∈ name.toList, c.isUpper = false := by
      intro name hname c hc
      rw [Dict.mem_keys_ofList, List.map_map] at hname
      obtain ⟨p, -, rfl⟩ := List.mem_map.mp hname
      change c ∈ (p.1.map Char.toLower).toList at hc
      rw [String.toList_map] at hc
      obtain ⟨c', -, rfl⟩ := List.mem_map.mp hc
      exact Text.isUpper_toLower c'
    intro name hname
    unfold headersOf withContentType Dict.insertNew at hname
    split at hname
    · exact hlower name hname
    · rcases Dict.mem_keys_insert.mp hname with rfl | hname
      · simp
      · exact hlower name hname

/-! ### Variables -/

namespace Evaluator

variable (ev : Evaluator) (index : Option Nat)

/-- A block of variables leaves the scope with what it wrote. -/
theorem scope_resolveParams (source : ParamSource) (label : String) (scope : Scope) :
    (ev.resolveParams source (.variable label) index scope).scope =
      scope.setVars label (ev.resolveParams source (.variable label) index scope).written := by
  unfold resolveParams
  split
  · rfl
  · rfl
  · rfl
  · rfl
  · dsimp only
    split <;> rfl

/-- The variables that the entries of a table take from a response, each in view of those before it. -/
inductive Takes (label : String) (body headers : Json.Value) :
    List OutputEntry → Scope → List (String × Json.Value) → Prop where
  | stop (entries : List OutputEntry) (scope : Scope) : Takes label body headers entries scope []
  | skip {entry : OutputEntry} {rest : List OutputEntry} {scope : Scope} {pairs : List (String × Json.Value)} :
    Takes label body headers rest scope pairs → Takes label body headers (entry :: rest) scope pairs
  | take {entry : OutputEntry} {rest : List OutputEntry} {scope : Scope} {name : String} {value : Json.Value}
      {pairs : List (String × Json.Value)} :
    ev.outputValue index body headers entry scope = .ok (name, some value) →
    Takes label body headers rest (scope.setVar label name value) pairs →
    Takes label body headers (entry :: rest) scope ((name, value) :: pairs)

theorem exists_takes (label : String) (body headers : Json.Value) (entries : List OutputEntry)
    (captured : Json.Members) (scope : Scope) :
    ∃ pairs, ev.Takes index label body headers entries scope pairs ∧
      (ev.captureEntries index label body headers entries captured scope).2 = scope.setVars label pairs := by
  induction entries generalizing captured scope with
  | nil => exact ⟨[], .stop _ _, rfl⟩
  | cons entry rest ih =>
    unfold captureEntries
    split
    case h_1 => exact ⟨[], .stop _ _, rfl⟩
    case h_2 name value hvalue =>
      obtain ⟨pairs, htakes, hscope⟩ := ih (captured.insert name value) (scope.setVar label name value)
      exact ⟨(name, value) :: pairs, .take hvalue htakes, hscope⟩
    case h_3 =>
      split
      · obtain ⟨pairs, htakes, hscope⟩ := ih captured scope
        exact ⟨pairs, .skip htakes, hscope⟩
      · exact ⟨[], .stop _ _, rfl⟩

/-- The variables that a step captures from a response. -/
inductive Captured (label : String) (body headers : Json.Value) (scope : Scope) :
    Option OutputSpec → List (String × Json.Value) → Prop where
  | nothing (outputs : Option OutputSpec) : Captured label body headers scope outputs []
  | table {entries : List OutputEntry} {pairs : List (String × Json.Value)} :
    ev.Takes index label body headers entries scope pairs →
    Captured label body headers scope (some (.table entries)) pairs
  | code {expression : String} {ms : Json.Members} :
    ev.mapOf expression (scope.withResponse body headers) index = .ok ms →
    Captured label body headers scope (some (.code expression)) ms

theorem exists_captured (outputs : Option OutputSpec) (label : String) (body headers : Json.Value) (scope : Scope) :
    ∃ pairs, ev.Captured index label body headers scope outputs pairs ∧
      (ev.capture index outputs label body headers scope).2 = scope.setVars label pairs := by
  unfold capture
  split
  · exact ⟨[], .nothing _, rfl⟩
  case h_2 entries =>
    obtain ⟨pairs, htakes, hscope⟩ := ev.exists_takes index label body headers entries [] scope
    exact ⟨pairs, .table htakes, hscope⟩
  · split
    case h_1 ms hms => exact ⟨ms, .code hms, rfl⟩
    · exact ⟨[], .nothing _, rfl⟩
    · exact ⟨[], .nothing _, rfl⟩

end Evaluator

namespace Drafting

variable {α β : Type}

theorem run_lift_bind (r : Except StepFault α) (k : α → Drafting β) (d : Draft) :
    ((liftM r : Drafting α) >>= k).run d = match r with
      | .ok a => (k a).run d
      | .error fault => (.error fault, d) := by
  cases r <;> rfl

/-- A part of making a request that leaves the scope as it is. -/
def Keeps (x : Drafting α) : Prop := ∀ d, (x.run d).2.scope = d.scope

namespace Keeps

theorem pure (a : α) : Keeps (Pure.pure a : Drafting α) := fun _ => rfl

theorem got : Keeps (get : Drafting Draft) := fun _ => rfl

theorem modified {f : Draft → Draft} (hf : ∀ d, (f d).scope = d.scope) : Keeps (modify f : Drafting Unit) := hf

theorem lift (r : Except StepFault α) : Keeps (liftM r : Drafting α) := fun _ => by cases r <;> rfl

theorem bind {x : Drafting α} {k : α → Drafting β} (hx : Keeps x) (hk : ∀ a, Keeps (k a)) : Keeps (x >>= k) := by
  intro d
  have hd := hx d
  rw [run_bind]
  rcases hrun : x.run d with ⟨fault | a, d'⟩ <;> rw [hrun] at hd
  · exact hd
  · exact (hk a d').trans hd

end Keeps

end Drafting

namespace ApiParams

variable (p : ApiParams) (ev : Evaluator) (index : Option Nat)

/-- The variables that a step writes before anything else is resolved. -/
def written (label : String) (scope : Scope) : List (String × Json.Value) :=
  (p.vars.map fun source => (ev.resolveParams source (.variable label) index scope).written).getD []

/-- The headers of a header block that can be resolved. -/
def ownHeaders? (scope : Scope) : Option (Dict String) :=
  p.headers.bind fun source => (ev.resolveMap source .regular index scope).result.toOption.map headersOf

/-- The headers of an attempt that comes to a host and to a path, and that resolves its header block then. -/
def headed? (url : Except RepositoryError String) (scope : Scope) : Option (Dict String) :=
  match p.hostText ev index url scope, ev.renderText p.path scope index with
  | .ok _, .ok _ => p.ownHeaders? ev index scope
  | _, _ => none

theorem isHeaderSet_of_headed? {url : Except RepositoryError String} {scope : Scope} {headers : Dict String}
    (h : p.headed? ev index url scope = some headers) : IsHeaderSet headers := by
  unfold headed? at h
  split at h
  · obtain ⟨source, -, hsource⟩ := Option.bind_eq_some_iff.mp h
    obtain ⟨ms, -, rfl⟩ := Option.map_eq_some_iff.mp hsource
    exact isHeaderSet_headersOf ms
  · cases h

theorem scope_resolveHeaders (scope : Scope) :
    match p.resolveHeaders ev index scope with
    | .ok (_, scope') => scope' = scope.after ((p.ownHeaders? ev index scope).toList.map .headed)
    | .error _ => p.ownHeaders? ev index scope = none := by
  unfold resolveHeaders ownHeaders?
  cases p.headers with
  | none => rfl
  | some source =>
    dsimp only [Option.bind_some]
    cases (ev.resolveMap source .regular index scope).result <;> rfl

/-- What a request under construction does to the scope. -/
theorem scope_run_draft (url : Except RepositoryError String) (timeoutSecs : UInt64) (d : Draft) :
    ((p.draft ev index url timeoutSecs).run d).2.scope =
      d.scope.after ((p.headed? ev index url d.scope).toList.map .headed) := by
  unfold draft headed?
  change (((liftM (p.hostText ev index url d.scope) : Drafting String) >>= _).run d).2.scope = _
  rw [Drafting.run_lift_bind]
  cases p.hostText ev index url d.scope with
  | error fault => rfl
  | ok host =>
    change (((liftM (Stage.request.mark (ev.renderText p.path d.scope index)) : Drafting String) >>= _).run
      d).2.scope = _
    rw [Drafting.run_lift_bind]
    cases ev.renderText p.path d.scope index with
    | error cause => rfl
    | ok path =>
      change (((liftM (p.resolveHeaders ev index d.scope) : Drafting (Dict String × Scope)) >>= _).run
        { d with log := { d.log with url := host ++ path } }).2.scope = _
      rw [Drafting.run_lift_bind]
      have hresolved := p.scope_resolveHeaders ev index d.scope
      rcases hmade : p.resolveHeaders ev index d.scope with fault | ⟨headers, scope⟩ <;> rw [hmade] at hresolved
      · dsimp only at hresolved ⊢
        rw [hresolved]
        rfl
      · refine Eq.trans ?_ hresolved
        have hkeeps : ∀ {x : Drafting HttpRequest} (d : Draft), x.Keeps → (x.run d).2.scope = d.scope :=
          fun d hx => hx d
        refine hkeeps ⟨_, scope⟩ (.bind (.lift _) fun query => ?_)
        refine .bind (.modified fun _ => rfl) fun _ => .bind (.lift _) fun body => ?_
        exact .bind (.modified fun _ => rfl) fun _ => .bind .got fun _ => .pure _

/-- What a step makes of a response does no more to the scope than what it captures. -/
theorem exists_captured (label : String) (rules : Except RepositoryError (List AssertionRule))
    (response : HttpResponse) (log : RequestLog) (scope : Scope) :
    ∃ pairs, ev.Captured index label response.document response.headerDocument scope p.outputs pairs ∧
      (p.judge ev label index rules response log scope).scope = scope.setVars label pairs := by
  obtain ⟨pairs, hcaptured, hscope⟩ :=
    ev.exists_captured index p.outputs label response.document response.headerDocument scope
  refine ⟨pairs, hcaptured, ?_⟩
  rw [← hscope]
  unfold judge
  dsimp only
  split
  · rfl
  · split <;> rfl

end ApiParams

/-! ### What steps set -/

/-- What a step may set: its own variables, its outputs, or the first row. -/
inductive Step.Sets (ev : Evaluator) (label : String) : Step → String → Json.Value → Prop where
  | variable {head : StepHead} {p : ApiParams} {source : ParamSource} {index : Option Nat} {scope : Scope}
      {name : String} {value : Json.Value} : p.vars = some source →
    (name, value) ∈ (ev.resolveParams source (.variable label) index scope).written →
    Sets ev label (.api head p) name value
  | entry {head : StepHead} {p : ApiParams} {entries : List OutputEntry} {entry : OutputEntry} {index : Option Nat}
      {body headers : Json.Value} {scope : Scope} {name : String} {value : Json.Value} :
    p.outputs = some (.table entries) → entry ∈ entries →
    ev.outputValue index body headers entry scope = .ok (name, some value) → Sets ev label (.api head p) name value
  | member {head : StepHead} {p : ApiParams} {expression : String} {ms : Json.Members} {index : Option Nat}
      {body headers : Json.Value} {scope : Scope} {name : String} {value : Json.Value} :
    p.outputs = some (.code expression) → ev.mapOf expression (scope.withResponse body headers) index = .ok ms →
    (name, value) ∈ ms → Sets ev label (.api head p) name value
  | row {head : StepHead} {p : SqlParams} {name : String} (rows : Rows) : p.captureVar = some name →
    Sets ev label (.sql head p) name ((rows.head?.map Json.Value.object).getD .null)

namespace Evaluator

variable {ev : Evaluator} {index : Option Nat} {label : String} {body headers : Json.Value} {name : String}
  {value : Json.Value}

theorem Takes.exists_entry {entries : List OutputEntry} {scope : Scope} {pairs : List (String × Json.Value)}
    (h : ev.Takes index label body headers entries scope pairs) (hmem : (name, value) ∈ pairs) :
    ∃ entry ∈ entries, ∃ scope', ev.outputValue index body headers entry scope' = .ok (name, some value) := by
  induction h with
  | stop => cases hmem
  | skip _ ih =>
    obtain ⟨entry, hentry, hvalue⟩ := ih hmem
    exact ⟨entry, List.mem_cons_of_mem _ hentry, hvalue⟩
  | take hvalue _ ih =>
    rcases List.mem_cons.mp hmem with heq | hmem
    · cases heq
      exact ⟨_, List.mem_cons_self, _, hvalue⟩
    · obtain ⟨entry, hentry, hvalue'⟩ := ih hmem
      exact ⟨entry, List.mem_cons_of_mem _ hentry, hvalue'⟩

theorem Captured.sets {head : StepHead} {p : ApiParams} {scope : Scope} {pairs : List (String × Json.Value)}
    (h : ev.Captured index label body headers scope p.outputs pairs) (hmem : (name, value) ∈ pairs) :
    (Step.api head p).Sets ev label name value := by
  generalize houtputs : p.outputs = outputs at h
  cases h with
  | nothing => cases hmem
  | table htakes =>
    obtain ⟨entry, hentry, scope', hvalue⟩ := htakes.exists_entry hmem
    exact .entry houtputs hentry hvalue
  | code hms => exact .member houtputs hms hmem

end Evaluator

/-- The step that a deed attempts. -/
def Deed.step? {σ : Type} : Deed σ → Option Step
  | .event _ => none
  | .api head p _ _ _ _ => some (.api head p)
  | .sql head p _ _ _ _ => some (.sql head p)

/-- Notes leave everything else as it is. -/
theorem Run.exists_run_forM_note {σ γ : Type} (level : NoticeLevel) (text : γ → String) (cs : List γ)
    (s : RunState σ) : ∃ notices, (cs.forM fun c => Run.note level (text c)).run s = (.ok (), { s with notices }) := by
  induction cs generalizing s with
  | nil => exact ⟨s.notices, rfl⟩
  | cons c cs ih =>
    obtain ⟨notices, hrun⟩ := ih (s.noted ⟨level, text c⟩)
    exact ⟨notices, hrun⟩

namespace Engine

open Run (Still)

variable {σ : Type} (e : Engine σ)

/-! ### Attempts -/

/-- The headers of an attempt at an api step, if it comes to resolve its header block. -/
def headedAt (p : ApiParams) (label : String) (index : Option Nat) (s : RunState σ) : Option (Dict String) :=
  match (e.writeVariables p label index).run s with
  | (.ok (.ok _), t) =>
    match (e.environmentUrl p).run t with
    | (.ok url, u) => p.headed? e.ev index url u.scope
    | _ => none
  | _ => none

/-- The changes by an attempt at an api step before its request is sent. -/
def opening (p : ApiParams) (label : String) (index : Option Nat) (s : RunState σ) : List Change :=
  Change.writes label (p.written e.ev index label s.scope) ++ (e.headedAt p label index s).toList.map .headed

/-- The changes by a deed. -/
inductive Alters : Deed σ → List Change → Prop where
  | event (x : Event) : Alters (.event x) []
  | unanswered (head : StepHead) (p : ApiParams) (label : String) (number : Nat) (index : Option Nat)
      (s : RunState σ) : Alters (.api head p label number index s) (e.opening p label index s)
  | answered (head : StepHead) {p : ApiParams} {label : String} (number : Nat) {index : Option Nat} {s : RunState σ}
      {request : HttpRequest} {world : σ} {response : HttpResponse} {pairs : List (String × Json.Value)} :
    (e.transport.http request world).1.answer = some (.ok response) →
    e.ev.Captured index label response.document response.headerDocument (s.scope.after (e.opening p label index s))
      p.outputs pairs →
    Alters (.api head p label number index s) (e.opening p label index s ++ Change.writes label pairs)
  | unkept (head : StepHead) (p : SqlParams) (label : String) (number : Nat) (index : Option Nat) (s : RunState σ) :
    Alters (.sql head p label number index s) []
  | kept (head : StepHead) {p : SqlParams} (label : String) (number : Nat) (index : Option Nat) (s : RunState σ)
      {name : String} (rows : Rows) : p.captureVar = some name →
    Alters (.sql head p label number index s) [.wrote label name ((rows.head?.map Json.Value.object).getD .null)]

theorem exists_run_writeVariables (p : ApiParams) (label : String) (index : Option Nat) (s : RunState σ) :
    ∃ t, (e.writeVariables p label index).run s = (.ok (p.resolveVars e.ev index label s.scope), t) ∧ s.Quiet t ∧
      t.environments = s.environments ∧ t.scope = s.scope.setVars label (p.written e.ev index label s.scope) := by
  unfold writeVariables ApiParams.written ApiParams.resolveVars
  cases p.vars with
  | none => exact ⟨s, rfl, .refl s, rfl, rfl⟩
  | some source =>
    obtain ⟨notices, hnotes⟩ := Run.exists_run_forM_note .debug
      (fun p : String × Json.Value => label ++ " sets variable '" ++ p.1 ++ "'")
      (e.ev.resolveParams source (.variable label) index s.scope).written
      { s with scope := (e.ev.resolveParams source (.variable label) index s.scope).scope }
    exact ⟨_, Run.run_bind_of_ok hnotes _, ⟨rfl, rfl, rfl, rfl, rfl⟩, rfl,
      e.ev.scope_resolveParams index source label s.scope⟩

theorem exists_run_makeRequest (h : StepHead) (p : ApiParams) (index : Option Nat)
    (url : Except RepositoryError String) (log : RequestLog) (s : RunState σ) :
    ∃ made t, (e.makeRequest h p index url log).run s = (.ok made, t) ∧ s.Quiet t ∧
      t.scope = s.scope.after ((p.headed? e.ev index url s.scope).toList.map .headed) ∧
      ((∃ parts, p.Makes e.ev index url s.scope parts ∧ t.scope = parts.scope ∧
          made = (.ok (p.request log.method (h.timeoutSecs.getD e.config.defaultTimeoutSecs) parts), log.made parts)) ∨
        (∀ parts, ¬p.Makes e.ev index url s.scope parts) ∧ ∃ fault log', made = (.error fault, log')) := by
  have hscope := p.scope_run_draft e.ev index url (h.timeoutSecs.getD e.config.defaultTimeoutSecs) ⟨log, s.scope⟩
  have hrun : ∀ {request draft}, (p.draft e.ev index url (h.timeoutSecs.getD e.config.defaultTimeoutSecs)).run
      ⟨log, s.scope⟩ = (request, draft) →
      (e.makeRequest h p index url log).run s = (.ok (request, draft.log), { s with scope := draft.scope }) := by
    intro request draft hdraft
    unfold makeRequest
    rw [Run.run_bind_of_ok (Run.run_scope s), hdraft]
    rfl
  rcases hdraft : (p.draft e.ev index url (h.timeoutSecs.getD e.config.defaultTimeoutSecs)).run ⟨log, s.scope⟩
    with ⟨fault | request, draft⟩ <;> rw [hdraft] at hscope
  · refine ⟨_, _, hrun hdraft, ⟨rfl, rfl, rfl, rfl, rfl⟩, hscope, .inr ⟨fun parts hparts => ?_, fault, draft.log, rfl⟩⟩
    cases (hparts.run_draft _).symm.trans hdraft
  · obtain ⟨parts, hparts⟩ := ApiParams.exists_makes hdraft
    cases (hparts.run_draft _).symm.trans hdraft
    exact ⟨_, _, hrun hdraft, ⟨rfl, rfl, rfl, rfl, rfl⟩, hscope, .inl ⟨parts, hparts, rfl, rfl⟩⟩

/-- The variables of a step can be resolved, and then all parts of its request. -/
structure Resolves (p : ApiParams) (label : String) (index : Option Nat) (s : RunState σ) (parts : RequestParts) :
    Prop where
  vars : p.resolveVars e.ev index label s.scope = .ok ()
  makes : p.Makes e.ev index (e.urlOf p s.environments)
    (s.scope.setVars label (p.written e.ev index label s.scope)) parts

/-- An attempt at an api step comes to its request just if it resolves all parts of it, and until then does no more to
the scope than to write the variables and the headers. -/
theorem exists_run_opening (h : StepHead) (p : ApiParams) (label : String) (index : Option Nat) (s : RunState σ) :
    ∃ u, s.Quiet u ∧ u.scope = s.scope.after (e.opening p label index s) ∧
      ((∃ parts, e.Resolves p label index s parts ∧ u.scope = parts.scope ∧
          (e.api h p label index).run s = (e.exchange h p label index parts).run u) ∨
        (∀ parts, ¬e.Resolves p label index s parts) ∧
          ∃ fault log, (e.api h p label index).run s = (.ok (.failed fault (.api log)), u)) := by
  obtain ⟨t, hwrite, hquiet, hknown, hwritten⟩ := e.exists_run_writeVariables p label index s
  unfold api
  rw [Run.run_bind_of_ok hwrite]
  cases hvars : p.resolveVars e.ev index label s.scope with
  | error fault =>
    rw [hvars] at hwrite
    have hopening : e.opening p label index s = Change.writes label (p.written e.ev index label s.scope) := by
      simp [opening, headedAt, hwrite]
    refine ⟨t, hquiet, ?_, .inr ⟨fun parts h => ?_, fault, _, rfl⟩⟩
    · rw [hopening, Scope.after_writes, hwritten]
    · cases hvars.symm.trans h.vars
  | ok _ =>
    obtain ⟨u, henvironment, hfound, hurl⟩ := e.exists_run_environmentUrl p t
    obtain ⟨made, v, hmake, hmade, hscope, hparts⟩ := e.exists_run_makeRequest h p index (e.urlOf p t.environments)
      (.ofMethod (Text.asciiUpper p.method)) u
    have hheaded : e.headedAt p label index s = p.headed? e.ev index (e.urlOf p t.environments) u.scope := by
      simp only [headedAt, hwrite, hvars, henvironment]
    have hopened : v.scope = s.scope.after (e.opening p label index s) := by
      rw [opening, Scope.after_append, hheaded, Scope.after_writes, ← hwritten, ← hurl, hscope]
    rw [hurl, hwritten, hknown] at hparts
    dsimp only
    rw [Run.run_bind_of_ok henvironment, Run.run_bind_of_ok hmake]
    refine ⟨v, (hquiet.trans hfound).trans hmade, hopened, ?_⟩
    rcases hparts with ⟨parts, hparts, hleft, rfl⟩ | ⟨hparts, fault, log, rfl⟩
    · exact .inl ⟨parts, ⟨hvars, hparts⟩, hleft, rfl⟩
    · exact .inr ⟨fun parts h => hparts parts h.makes, fault, log, rfl⟩

theorem run_send (request : HttpRequest) (s : RunState σ) :
    ((e.send request).run s).2.scope = s.scope ∧ ∀ response, ((e.send request).run s).1 = .ok (.ok response) →
      (e.transport.http request s.world).1.answer = some (.ok response) := by
  unfold send
  rw [Run.run_bind, Run.run_call]
  dsimp only
  split
  case h_1 answer hanswer =>
    refine ⟨rfl, fun response h => ?_⟩
    cases h
    exact hanswer
  case h_2 => exact ⟨rfl, nofun⟩

theorem exists_run_judge (h : StepHead) (p : ApiParams) (label : String) (index : Option Nat)
    (response : HttpResponse) (log : RequestLog) (s : RunState σ) :
    ∃ a t pairs, (e.judge h p label index response log).run s = (.ok a, t) ∧
      e.ev.Captured index label response.document response.headerDocument s.scope p.outputs pairs ∧
      t.scope = s.scope.after (Change.writes label pairs) := by
  unfold judge
  split
  · obtain ⟨pairs, hcaptured, hscope⟩ :=
      p.exists_captured e.ev index label (e.repository.rules h.id) response log s.scope
    exact ⟨_, _, pairs, rfl, hcaptured, hscope.trans (Scope.after_writes _ _ _).symm⟩
  · exact ⟨_, s, [], rfl, .nothing _, rfl⟩

theorem api_alters (h : StepHead) (p : ApiParams) (label : String) (number : Nat) (index : Option Nat)
    (s : RunState σ) :
    ∃ changes, e.Alters (.api h p label number index s) changes ∧
      ((e.api h p label index).run s).2.scope = s.scope.after changes := by
  have hunanswered : e.Alters (.api h p label number index s) (e.opening p label index s) := .unanswered ..
  obtain ⟨u, -, hopened, hrun⟩ := e.exists_run_opening h p label index s
  rcases hrun with ⟨parts, -, -, hrun⟩ | ⟨-, fault, log, hrun⟩ <;> rw [hrun]
  · obtain ⟨hsame, hanswer⟩ := e.run_send (e.requestOf h p parts) u
    unfold exchange
    rcases hsend : (e.send (e.requestOf h p parts)).run u with ⟨c | answer, w⟩ <;> rw [hsend] at hsame hanswer
    · rw [Run.run_bind_of_error hsend]
      exact ⟨_, hunanswered, hsame.trans hopened⟩
    · rw [Run.run_bind_of_ok hsend]
      have hsent : w.scope = s.scope.after (e.opening p label index s) := hsame.trans hopened
      cases answer with
      | error cause => exact ⟨_, hunanswered, hsent⟩
      | ok response =>
        obtain ⟨a, t', pairs, hjudge, hcaptured, hscope⟩ := e.exists_run_judge h p label index response _ w
        dsimp only
        rw [hjudge]
        refine ⟨_, .answered h number (hanswer response rfl) (hsent ▸ hcaptured), ?_⟩
        rw [Scope.after_append, ← hsent]
        exact hscope
  · exact ⟨_, hunanswered, hopened⟩

theorem sql_alters (h : StepHead) (p : SqlParams) (label : String) (number : Nat) (index : Option Nat)
    (s : RunState σ) :
    ∃ changes, e.Alters (.sql h p label number index s) changes ∧
      ((e.sql p label index).run s).2.scope = s.scope.after changes := by
  obtain ⟨a, t, dealings, hrun, hcloses⟩ := e.sql_closes_up p label index s
  rw [hrun]
  cases hpassed : a.passed with
  | false => exact ⟨[], .unkept .., hcloses.failed hpassed⟩
  | true =>
    obtain ⟨target, sql, rows, -, hkept⟩ := hcloses.passed hpassed
    cases hcapture : p.captureVar with
    | none =>
      rw [hcapture] at hkept
      exact ⟨[], .unkept .., hkept⟩
    | some name =>
      rw [hcapture] at hkept
      exact ⟨_, .kept h label number index s rows hcapture, hkept.1⟩

/-- The headers that a deed resolves. -/
def headedBy : Deed σ → Option (Dict String)
  | .api _ p label _ index s => e.headedAt p label index s
  | _ => none

variable {e}

theorem isHeaderSet_of_headedBy {deed : Deed σ} {headers : Dict String} (h : e.headedBy deed = some headers) :
    IsHeaderSet headers := by
  cases deed with
  | event => cases h
  | sql => cases h
  | api head p label number index s =>
    change e.headedAt p label index s = some headers at h
    unfold headedAt at h
    split at h
    · split at h
      · exact p.isHeaderSet_of_headed? e.ev index h
      · cases h
    · cases h

theorem filterMap_headers?_opening (p : ApiParams) (label : String) (index : Option Nat) (s : RunState σ) :
    (e.opening p label index s).filterMap Change.headers? = (e.headedAt p label index s).toList := by
  rw [opening, List.filterMap_append, Change.filterMap_headers?_writes, Change.filterMap_headers?_headed,
    List.nil_append]

/-- The attempts that resolve a header block are told by their changes, and only these. -/
theorem Alters.filterMap_headers? {deed : Deed σ} {changes : List Change} (h : e.Alters deed changes) :
    changes.filterMap Change.headers? = (e.headedBy deed).toList := by
  cases h with
  | event => rfl
  | unanswered => exact filterMap_headers?_opening ..
  | answered =>
    rw [List.filterMap_append, filterMap_headers?_opening, Change.filterMap_headers?_writes, List.append_nil]
    rfl
  | unkept => rfl
  | kept => rfl

theorem wrote_mem_opening {p : ApiParams} {label label' : String} {index : Option Nat} {s : RunState σ} {name : String}
    {value : Json.Value} (h : .wrote label' name value ∈ e.opening p label index s) :
    label' = label ∧ (name, value) ∈ p.written e.ev index label s.scope := by
  rcases List.mem_append.mp h with h | h
  · exact Change.mem_writes.mp h
  · obtain ⟨_, -, h⟩ := List.mem_map.mp h
    cases h

theorem sets_of_mem_written {head : StepHead} {p : ApiParams} {label : String} {index : Option Nat} {scope : Scope}
    {name : String} {value : Json.Value} (h : (name, value) ∈ p.written e.ev index label scope) :
    (Step.api head p).Sets e.ev label name value := by
  unfold ApiParams.written at h
  cases hvars : p.vars with
  | none =>
    rw [hvars] at h
    cases h
  | some source =>
    rw [hvars] at h
    exact .variable hvars h

theorem Alters.sets {deed : Deed σ} {changes : List Change} (h : e.Alters deed changes) {label name : String}
    {value : Json.Value} (hmem : .wrote label name value ∈ changes) :
    ∃ step, deed.step? = some step ∧ step.Sets e.ev label name value := by
  cases h with
  | event => cases hmem
  | unanswered =>
    obtain ⟨rfl, hwritten⟩ := wrote_mem_opening hmem
    exact ⟨_, rfl, sets_of_mem_written hwritten⟩
  | answered head number hanswer hcaptured =>
    rcases List.mem_append.mp hmem with hmem | hmem
    · obtain ⟨rfl, hwritten⟩ := wrote_mem_opening hmem
      exact ⟨_, rfl, sets_of_mem_written hwritten⟩
    · obtain ⟨rfl, hpairs⟩ := Change.mem_writes.mp hmem
      exact ⟨_, rfl, hcaptured.sets hpairs⟩
  | unkept => cases hmem
  | kept head label number index s rows hcapture =>
    cases List.mem_singleton.mp hmem
    exact ⟨_, rfl, .row rows hcapture⟩

end Engine

end Casebook
