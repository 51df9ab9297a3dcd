import Casebook.Proofs.Run.Likeness

/-! How messages begin.  A result that says that the repository lacks something begins otherwise than all results that
say anything else, so it is told by its message. -/
namespace Casebook

namespace Run.Returns

variable {σ α β : Type} {P : α → Prop} {Q : β → Prop}

theorem seq {x : Run σ β} {k : β → Run σ α} (hx : Returns Q x) (hk : ∀ b, Q b → Returns P (k b)) :
    Returns P (x >>= k) := by
  intro s a t hrun
  obtain ⟨b, u, hb, hrun⟩ := exists_of_run_bind hrun
  exact hk b (hx s b u hb) u a t hrun

theorem overflow (kind : StepKind) (limit : UInt32) : Returns P (Run.overflow kind limit : Run σ α) := by
  intro s a t hrun
  rw [run_overflow] at hrun
  cases hrun

theorem nested {x : Run σ α} (hx : Returns P x) : Returns P (Run.nested x) := by
  intro s a t hrun
  rw [run_nested] at hrun
  have hvalue : (x.run { s with depth := s.depth + 1 }).1 = .ok a := congrArg Prod.fst hrun
  exact hx _ a _ (Prod.ext hvalue rfl)

end Run.Returns

/-! ### Texts -/

/-- A text begins with one of some others. -/
def Opens (heads : List String) (text : String) : Prop := ∃ head ∈ heads, ∃ rest, text = head ++ rest

/-- Neither of two texts begins with the other. -/
def apart (a b : String) : Bool := !a.toList.isPrefixOf b.toList && !b.toList.isPrefixOf a.toList

theorem append_ne_append {a b : String} (h : apart a b = true) (c d : String) : a ++ c ≠ b ++ d := by
  intro heq
  have hlist : a.toList ++ c.toList = b.toList ++ d.toList := by
    rw [← String.toList_append, heq, String.toList_append]
  simp only [apart, Bool.and_eq_true, Bool.not_eq_true', Bool.eq_false_iff, ne_eq, List.isPrefixOf_iff_prefix] at h
  rcases List.append_eq_append_iff.mp hlist with ⟨l, hl, -⟩ | ⟨l, hl, -⟩
  · exact h.1 ⟨l, hl.symm⟩
  · exact h.2 ⟨l, hl.symm⟩

theorem Opens.ne_append {heads : List String} {text other : String} (h : Opens heads text)
    (hapart : heads.all (apart other) = true) (rest : String) : text ≠ other ++ rest := by
  obtain ⟨head, hhead, tail, rfl⟩ := h
  exact fun heq => append_ne_append (List.all_eq_true.mp hapart head hhead) rest tail heq.symm

theorem Opens.append {heads : List String} {text : String} (h : Opens heads text) (rest : String) :
    Opens heads (text ++ rest) := by
  obtain ⟨head, hhead, tail, rfl⟩ := h
  exact ⟨head, hhead, tail ++ rest, String.append_assoc ..⟩

theorem Opens.prepend {heads : List String} {text : String} (h : Opens heads text) (first : String) :
    Opens (heads.map (first ++ ·)) (first ++ text) := by
  obtain ⟨head, hhead, tail, rfl⟩ := h
  exact ⟨first ++ head, List.mem_map_of_mem hhead, tail, (String.append_assoc ..).symm⟩

theorem Opens.mono {heads heads' : List String} {text : String} (h : Opens heads text) (hsub : heads ⊆ heads') :
    Opens heads' text := by
  obtain ⟨head, hhead, hrest⟩ := h
  exact ⟨head, hsub hhead, hrest⟩

theorem opens_append {heads : List String} {head : String} (h : head ∈ heads) (rest : String) :
    Opens heads (head ++ rest) := ⟨head, h, rest, rfl⟩

theorem opens_self {heads : List String} {head : String} (h : head ∈ heads) : Opens heads head :=
  ⟨head, h, "", String.append_empty.symm⟩

/-! ### Messages of faults -/

def resolutionHeads : List String := ["template '", "expression '", "cannot convert ", "expected a map but got "]

def loopHeads : List String := "invalid loop count: " :: resolutionHeads

/-- What all messages begin with but those about what the repository lacks. -/
def messageHeads : List String := [
  "[Variables] ", "[Request] ", "[Header] ", "[Query] ", "[Body] ", "[Output] ", "[Expect] ", "[Assert] ", "[SQL] ",
  "[Request] unknown host '", "request timed out", "invalid request address: ", "request address must not be empty",
  "request failed: ", "request path does not exist", "unexpected response status: ", "invalid connection: '",
  "no SQL driver configured for '", "database connection failed: ", "SQL execution failed: ",
  "connection already closed", "[Foreach] break condition failed: ", "infinite loop or nesting too deep: ",
  "execution interrupted", "[Controller] "] ++ loopHeads.map ("[Foreach] " ++ ·)

theorem ResolutionError.opens (cause : ResolutionError) : Opens resolutionHeads cause.message := by
  cases cause with
  | template text cause => exact (((opens_append (by decide) text).append _).append _)
  | expression text cause => exact (((opens_append (by decide) text).append _).append _)
  | coercion value target => exact (((opens_append (by decide) value.text).append _).append _)
  | notAMap kind => exact opens_append (by decide) kind

theorem LoopBound.Fault.opens (cause : LoopBound.Fault) : Opens messageHeads ("[Foreach] " ++ cause.message) := by
  have hloop : Opens loopHeads cause.message := by
    cases cause with
    | invalid v => exact opens_append (by decide) v.text
    | resolution cause => exact cause.opens.mono (List.subset_cons_self _ _)
  exact (hloop.prepend "[Foreach] ").mono (List.subset_append_right _ _)

theorem HttpError.opens (cause : HttpError) : Opens messageHeads cause.message := by
  cases cause with
  | timeout => exact opens_self (by decide)
  | invalidAddress detail => exact opens_append (by decide) detail
  | missingAddress => exact opens_self (by decide)
  | other detail => exact opens_append (by decide) detail

theorem SqlError.opens (cause : SqlError) : Opens messageHeads cause.message := by
  cases cause with
  | unknownTarget name env => exact ((opens_append (by decide) name).append _).append _
  | noDriver driver => exact (opens_append (by decide) driver).append _
  | connect detail => exact opens_append (by decide) detail
  | query detail => exact opens_append (by decide) detail
  | closed => exact opens_self (by decide)

theorem StepFault.opens {fault : StepFault} (h : ∀ cause, fault ≠ .environment cause) :
    Opens messageHeads fault.message := by
  cases fault with
  | resolution stage cause =>
    have htag : Opens messageHeads (stage.tag ++ " ") := by
      cases stage <;> exact opens_self (by decide)
    exact htag.append cause.message
  | environment cause => exact absurd rfl (h cause)
  | unknownHost name => exact (opens_append (by decide) name).append _
  | http cause => exact cause.opens
  | sql cause => exact cause.opens
  | status code =>
    show Opens messageHeads (if code = 404 then _ else _)
    split
    · exact opens_self (by decide)
    · exact opens_append (by decide) (toString code)
  | missingOutput path => exact (opens_append (by decide) path).append _
  | outputNotMap => exact ⟨"[Output] ", by decide, "returned data format does not meet requirements", rfl⟩
  | expectation cause => exact opens_append (by decide) cause.message
  | rules cause => exact opens_append (by decide) cause.message

/-! ### Faults of parts of an attempt -/

/-- Whatever went wrong has a property. -/
def FaultsIn {α : Type} (P : StepFault → Prop) (r : Except StepFault α) : Prop := ∀ fault, r = .error fault → P fault

namespace FaultsIn

variable {α β : Type} {P : StepFault → Prop}

theorem ok (a : α) : FaultsIn P (.ok a) := nofun

theorem error {fault : StepFault} (h : P fault) : FaultsIn P (.error fault : Except StepFault α) := by
  rintro _ ⟨⟩
  exact h

theorem bind {r : Except StepFault α} {k : α → Except StepFault β} (hr : FaultsIn P r) (hk : ∀ a, FaultsIn P (k a)) :
    FaultsIn P (r >>= k) := by
  cases r with
  | error fault => exact error (hr fault rfl)
  | ok a => exact hk a

theorem map {r : Except StepFault α} (hr : FaultsIn P r) (f : α → β) : FaultsIn P (r.map f) := by
  cases r with
  | error fault => exact error (hr fault rfl)
  | ok a => exact ok (f a)

theorem forM {f : α → Except StepFault Unit} (hf : ∀ a, FaultsIn P (f a)) (as : List α) :
    FaultsIn P (as.forM f) := by
  induction as with
  | nil => exact ok ()
  | cons a as ih => exact bind (hf a) fun _ => ih

theorem mark (hP : ∀ stage cause, P (.resolution stage cause)) (stage : Stage) (r : Except ResolutionError α) :
    FaultsIn P (stage.mark r) := by
  cases r with
  | error cause => exact error (hP stage cause)
  | ok a => exact ok a

end FaultsIn

/-- Whatever goes wrong while a request is made has a property. -/
def DraftsIn {α : Type} (P : StepFault → Prop) (x : Drafting α) : Prop := ∀ d, FaultsIn P (x.run d).1

namespace DraftsIn

variable {α β : Type} {P : StepFault → Prop}

theorem pure (a : α) : DraftsIn P (Pure.pure a : Drafting α) := fun _ => .ok a

theorem lift {r : Except StepFault α} (hr : FaultsIn P r) : DraftsIn P (liftM r : Drafting α) := by
  intro d
  cases r with
  | error fault => exact .error (hr fault rfl)
  | ok a => exact .ok a

theorem got : DraftsIn P (get : Drafting Draft) := fun d => .ok d

theorem modified (f : Draft → Draft) : DraftsIn P (modify f : Drafting Unit) := fun _ => .ok ()

theorem bind {x : Drafting α} {k : α → Drafting β} (hx : DraftsIn P x) (hk : ∀ a, DraftsIn P (k a)) :
    DraftsIn P (x >>= k) := by
  intro d
  rw [Drafting.run_bind]
  rcases h : x.run d with ⟨fault | a, d'⟩
  · exact .error (hx d fault (by rw [h]))
  · exact hk a d'

end DraftsIn

section

variable {P : StepFault → Prop} (hP : ∀ fault, (∀ cause, fault ≠ .environment cause) → P fault)

include hP

theorem faultsIn_mark {α : Type} (stage : Stage) (r : Except ResolutionError α) : FaultsIn P (stage.mark r) :=
  .mark (fun _ _ => hP _ nofun) stage r

theorem draft_draftsIn (p : ApiParams) (ev : Evaluator) (index : Option Nat) {url : Except RepositoryError String}
    (hurl : ∀ cause, url = .error cause → P (.environment cause)) (timeoutSecs : UInt64) :
    DraftsIn P (p.draft ev index url timeoutSecs) := by
  have hhost : ∀ scope, FaultsIn P (p.hostText ev index url scope) := by
    intro scope
    unfold ApiParams.hostText
    split
    · cases url with
      | error cause => exact .error (hurl cause rfl)
      | ok text => exact .ok text
    · refine .bind (faultsIn_mark hP _ _) fun name => ?_
      cases Dict.get? name scope.host with
      | none => exact .error (hP _ nofun)
      | some host => exact .ok host
    · split
      · exact faultsIn_mark hP _ _
      · exact .ok _
  have hheaders : ∀ scope, FaultsIn P (p.resolveHeaders ev index scope) := by
    intro scope
    unfold ApiParams.resolveHeaders
    split
    · exact .ok _
    · exact .bind (faultsIn_mark hP _ _) fun _ => .ok _
  have hquery : ∀ scope, FaultsIn P (p.resolveQuery ev index scope) := by
    intro scope
    unfold ApiParams.resolveQuery
    split
    · exact .ok _
    · exact faultsIn_mark hP _ _
  have hbody : ∀ scope, FaultsIn P (p.resolveBody ev index scope) := by
    intro scope
    unfold ApiParams.resolveBody
    split
    · exact .ok _
    · exact .map (faultsIn_mark hP _ _) some
  unfold ApiParams.draft
  refine .bind .got fun _ => .bind (.lift (hhost _)) fun host => .bind .got fun _ => ?_
  refine .bind (.lift (faultsIn_mark hP _ _)) fun path => .bind (.modified _) fun _ => .bind .got fun _ => ?_
  refine .bind (.lift (hheaders _)) fun made => .bind (.modified _) fun _ => ?_
  refine .bind (.lift (hquery _)) fun query => .bind (.modified _) fun _ => ?_
  exact .bind (.lift (hbody _)) fun body => .bind (.modified _) fun _ => .bind .got fun _ => .pure _

theorem captureEntries_faultsIn (ev : Evaluator) (index : Option Nat) (label : String) (body headers : Json.Value)
    (entries : List OutputEntry) (captured : Json.Members) (scope : Scope) :
    FaultsIn P (ev.captureEntries index label body headers entries captured scope).1 := by
  induction entries generalizing captured scope with
  | nil => exact .ok _
  | cons entry rest ih =>
    unfold Evaluator.captureEntries
    split
    · exact .error (hP _ nofun)
    · exact ih _ _
    · split
      · exact ih _ _
      · exact .error (hP _ nofun)

theorem capture_faultsIn (ev : Evaluator) (index : Option Nat) (outputs : Option OutputSpec) (label : String)
    (body headers : Json.Value) (scope : Scope) :
    FaultsIn P (ev.capture index outputs label body headers scope).1 := by
  unfold Evaluator.capture
  split
  · exact .ok _
  · exact captureEntries_faultsIn hP ev index label body headers _ _ _
  · split
    · exact .ok _
    · exact .error (hP _ nofun)
    · exact .error (hP _ nofun)

theorem expects_faultsIn (ev : Evaluator) (index : Option Nat) (expectations : Option ExpectSpec)
    (body headers : Json.Value) (scope : Scope) :
    FaultsIn P (ev.expects index expectations body headers scope) := by
  unfold Evaluator.expects
  split
  · exact .ok ()
  · refine .forM (fun entry => ?_) _
    unfold Evaluator.expectEntry
    refine .bind (faultsIn_mark hP _ _) fun value => ?_
    extract_lets compared
    have hcompared : ∀ expected, FaultsIn P (compared expected) := by
      intro expected
      refine .bind (faultsIn_mark hP _ _) fun keys => ?_
      split
      · exact .error (hP _ nofun)
      · split
        · exact .ok ()
        · exact .error (hP _ nofun)
    split
    · exact .bind (.ok _) hcompared
    · exact .bind (.error (hP _ nofun)) hcompared
  · refine .bind (faultsIn_mark hP _ _) fun verdict => ?_
    split
    · exact .error (hP _ nofun)
    · exact .ok ()

end

/-- What a response is judged to lack opens like any fault but a missing environment. -/
theorem judge_opens (p : ApiParams) (ev : Evaluator) (label : String) (index : Option Nat)
    (rules : Except RepositoryError (List AssertionRule)) (response : HttpResponse) (log : RequestLog) (scope : Scope)
    (message : String) (h : (p.judge ev label index rules response log scope).message = some message) :
    Opens messageHeads message := by
  have hfailure : ∀ {α : Type} {r : Except StepFault α}, FaultsIn (fun fault => Opens messageHeads fault.message) r →
      ∀ text, failure? r = some text → Opens messageHeads text := by
    intro α r hr text htext
    cases r with
    | error fault =>
      cases htext
      exact hr fault rfl
    | ok a => cases htext
  unfold ApiParams.judge at h
  simp only at h
  split at h
  · cases h
    exact StepFault.opens nofun
  · split at h
    · rcases Option.or_eq_some_iff.mp h with h | ⟨-, h⟩
      · exact hfailure (expects_faultsIn (fun _ => StepFault.opens) ev index _ _ _ _) message h
      · exact hfailure (capture_faultsIn (fun _ => StepFault.opens) ev index _ label _ _ _) message h
    · cases h
      exact (opens_append (by decide) _).append _

namespace Engine

open Run (Returns)

variable {σ : Type} (e : Engine σ)

/-- What may go wrong: want of an environment only where the repository has none. -/
def Admits (fault : StepFault) : Prop :=
  ∀ cause, fault = .environment cause → e.repository.environment e.options.envId = .error cause

/-- What the message of an attempt may be, at a step for which the repository has all it asks for. -/
def Says (message : String) : Prop :=
  Opens messageHeads message ∨
    ∃ cause, e.repository.environment e.options.envId = .error cause ∧ message = "[Environment] " ++ cause.message

/-- The message of an attempt, if it has one. -/
def Speaks (a : Attempt) : Prop := ∀ message, a.message = some message → e.Says message

variable {e}

theorem admits_of_ne {fault : StepFault} (h : ∀ cause, fault ≠ .environment cause) : e.Admits fault :=
  fun cause hcause => absurd hcause (h cause)

theorem Admits.says {fault : StepFault} (h : e.Admits fault) : e.Says fault.message := by
  by_cases henv : ∃ cause, fault = .environment cause
  · obtain ⟨cause, rfl⟩ := henv
    exact .inr ⟨cause, h cause rfl, rfl⟩
  · exact .inl (StepFault.opens fun cause hcause => henv ⟨cause, hcause⟩)

theorem Admits.speaks {fault : StepFault} (h : e.Admits fault) (output : StepOutput) :
    e.Speaks (.failed fault output) := by
  rintro _ ⟨⟩
  exact h.says

theorem speaks_failed {fault : StepFault} (h : ∀ cause, fault ≠ .environment cause) (output : StepOutput) :
    e.Speaks (.failed fault output) := (admits_of_ne h).speaks output

theorem speaks_refused {message : String} (h : Opens messageHeads message) : e.Speaks (.refused message) := by
  rintro _ ⟨⟩
  exact .inl h

theorem speaks_of_none {a : Attempt} (h : a.message = none) : e.Speaks a :=
  fun _ hmessage => by cases h.symm.trans hmessage

/-! ### Attempts -/

variable (e)

theorem environment_returns :
    Returns (fun r => ∀ cause, r = .error cause → e.repository.environment e.options.envId = .error cause)
      e.environment := by
  unfold environment
  refine .bind fun s => ?_
  split
  · exact .pure nofun
  · split
    · rename_i cause hcause
      refine .pure fun cause' h => ?_
      cases h
      exact hcause
    · exact .bind fun _ => .pure nofun

theorem writeVariables_faultsIn (p : ApiParams) (label : String) (index : Option Nat) :
    Returns (FaultsIn e.Admits) (e.writeVariables p label index) := by
  unfold writeVariables
  split
  · exact .pure (.ok ())
  · exact .bind fun scope => .bind fun _ => .bind fun _ =>
      .pure (.map (faultsIn_mark (fun _ => admits_of_ne) _ _) _)

theorem environmentUrl_returns (p : ApiParams) :
    Returns (fun url => ∀ cause, url = .error cause → e.Admits (.environment cause)) (e.environmentUrl p) := by
  unfold environmentUrl
  split
  · refine .seq e.environment_returns fun r hr => .pure fun cause hcause => ?_
    cases r with
    | ok env => cases hcause
    | error found =>
      cases hcause
      rintro _ ⟨⟩
      exact hr _ rfl
  · exact .pure nofun

theorem makeRequest_faultsIn (h : StepHead) (p : ApiParams) (index : Option Nat)
    {url : Except RepositoryError String} (hurl : ∀ cause, url = .error cause → e.Admits (.environment cause))
    (log : RequestLog) : Returns (fun made => FaultsIn e.Admits made.1) (e.makeRequest h p index url log) := by
  unfold makeRequest
  exact .bind fun scope => .bind fun _ => .pure (draft_draftsIn (fun _ => admits_of_ne) p e.ev index hurl _ _)

theorem judge_speaks (h : StepHead) (p : ApiParams) (label : String) (index : Option Nat) (response : HttpResponse)
    (log : RequestLog) : Returns e.Speaks (e.judge h p label index response log) := by
  unfold judge
  split
  · exact .bind fun scope => .bind fun _ => .pure fun message hmessage =>
      .inl (judge_opens p e.ev label index _ response log scope message hmessage)
  · exact .pure (speaks_failed (by nofun) _)

theorem api_speaks (h : StepHead) (p : ApiParams) (label : String) (index : Option Nat) :
    Returns e.Speaks (e.api h p label index) := by
  unfold api
  refine .seq (e.writeVariables_faultsIn p label index) fun written hwritten => ?_
  split
  · exact .pure ((hwritten _ rfl).speaks _)
  · refine .seq (e.environmentUrl_returns p) fun url hurl => ?_
    refine .seq (e.makeRequest_faultsIn h p index hurl _) fun made hmade => ?_
    split
    split
    · exact .pure ((hmade _ rfl).speaks _)
    · refine .bind fun answer => ?_
      split
      · exact .pure (speaks_failed (by nofun) _)
      · exact e.judge_speaks h p label index _ _

theorem sqlTarget_faultsIn (p : SqlParams) : Returns (FaultsIn e.Admits) (e.sqlTarget p) := by
  unfold sqlTarget
  refine .seq e.environment_returns fun r hr => ?_
  split
  · refine .pure (.error ?_)
    rintro _ ⟨⟩
    exact hr _ rfl
  · split
    · exact .pure (.error (admits_of_ne nofun))
    · exact .pure (.ok _)

theorem queryAndClose_faultsIn (p : SqlParams) (label : String) (index : Option Nat) (target : ConnectionTarget)
    (log : SqlLog) : Returns (fun r => FaultsIn e.Admits r.1) (e.queryAndClose p label index target log) := by
  unfold queryAndClose
  refine .bind fun scope => ?_
  have hrendered := faultsIn_mark (P := e.Admits) (fun _ => admits_of_ne) Stage.sql (e.ev.renderText p.sql scope index)
  split
  case h_1 fault hfault => exact .bind fun _ => .pure (.error (hrendered fault hfault))
  case h_2 =>
    refine .bind fun _ => .bind fun rows => ?_
    split
    · exact .bind fun _ => .pure (.error (admits_of_ne nofun))
    · refine .bind fun closed => ?_
      split
      · exact .pure (.error (admits_of_ne nofun))
      · exact .pure (.ok _)

theorem sql_speaks (p : SqlParams) (label : String) (index : Option Nat) : Returns e.Speaks (e.sql p label index) := by
  unfold sql
  refine .seq (e.sqlTarget_faultsIn p) fun target htarget => ?_
  split
  · exact .pure ((htarget _ rfl).speaks _)
  · refine .bind fun connected => ?_
    split
    · exact .pure (speaks_failed (by nofun) _)
    · refine .seq (e.queryAndClose_faultsIn p label index _ _) fun queried hqueried => ?_
      split
      split
      · exact .pure ((hqueried _ rfl).speaks _)
      · exact .pure (speaks_of_none rfl)
      · exact .bind fun _ => .pure (speaks_of_none rfl)

/-- The repository has what a step asks it for: the steps of a case, or the stored body of a loop. -/
structure Finds (step : Step) : Prop where
  case : ∀ head caseId, step = .caseRef head caseId → ∃ steps, e.repository.steps caseId = .ok steps
  loop : ∀ head times breakCondition own, step = .foreach head times breakCondition own →
    ∃ tree, e.repository.loopTree head.id = .ok tree

variable {e} {nest : Nest σ}

theorem caseRef_speaks {caseId : CaseId} (h : ∃ steps, e.repository.steps caseId = .ok steps) (labels : String)
    (level : Nat) (index : Option Nat) : Returns e.Speaks (e.caseRef nest caseId labels level index) := by
  obtain ⟨steps, hsteps⟩ := h
  unfold caseRef
  rw [hsteps]
  simp only
  split
  · exact .overflow _ _
  · exact .bind fun _ => .bind fun _ => .bind fun results => .pure (speaks_of_none rfl)

theorem loop_speaks (h : StepHead) (breakCondition : Option String) (bound : LoopBound) (steps : List Step)
    (labels : String) (level : Nat) : Returns e.Speaks (e.loop nest h breakCondition bound steps labels level) := by
  unfold loop
  refine .bind fun _ => .bind fun _ => .bind fun ⟨iterations, fault⟩ => .pure fun message hmessage => .inl ?_
  obtain ⟨cause, -, rfl⟩ := Option.map_eq_some_iff.mp hmessage
  exact opens_append (by decide) cause.message

theorem foreach_speaks {h : StepHead} (hfinds : ∃ tree, e.repository.loopTree h.id = .ok tree) (times : Json.Value)
    (breakCondition : Option String) (own : List Step) (labels : String) (level : Nat) (index : Option Nat) :
    Returns e.Speaks (e.foreach nest h times breakCondition own labels level index) := by
  have hbody : ∃ steps, e.loopBody h.id own = .ok steps := by
    obtain ⟨tree, htree⟩ := hfinds
    unfold loopBody
    rw [htree]
    split
    · exact ⟨tree.steps, rfl⟩
    · exact ⟨own, rfl⟩
  obtain ⟨steps, hsteps⟩ := hbody
  unfold foreach
  rw [hsteps]
  simp only
  split
  · exact .overflow _ _
  · refine .bind fun scope => ?_
    split
    · exact .pure (speaks_refused (LoopBound.Fault.opens _))
    · exact .bind fun _ => loop_speaks h breakCondition _ steps labels level

theorem body_speaks {step : Step} (h : e.Finds step) (label : String) (level : Nat) (index : Option Nat) :
    Returns e.Speaks (e.body nest step label level index) := by
  cases step with
  | api head p => exact e.api_speaks head p label index
  | sql head p => exact e.sql_speaks p label index
  | caseRef head caseId => exact .nested (caseRef_speaks (h.case head caseId rfl) _ level index)
  | foreach head times breakCondition own =>
    exact .nested (foreach_speaks (h.loop head times breakCondition own rfl) times breakCondition own _ level index)

theorem contained_speaks {x : Run σ Attempt} (hx : Returns e.Speaks x) (label : String) (level : Nat) :
    Returns e.Speaks (contained label level x) := by
  intro s a t h
  rw [run_contained] at h
  split at h
  · split at h <;> cases h
    exact speaks_refused (opens_append (by decide) _)
  · exact hx s a t h

theorem retrying_speaks {x : Run σ Attempt} (hx : Returns e.Speaks x) (label : String) (left n : Nat) :
    Returns (fun p => e.Speaks p.1) (retrying label x left n) := by
  have hstarted : ∀ n, Returns e.Speaks (started label x n) := fun n => .bind fun _ => hx
  induction left generalizing n with
  | zero => exact .seq (hstarted n) fun a ha => .pure ha
  | succ left ih =>
    refine .seq (hstarted n) fun a ha => ?_
    split
    · exact .pure ha
    · refine .bind fun halted => ?_
      split
      · exact .pure ha
      · exact .bind fun _ => ih (n + 1)

/-! ### Results -/

variable (e) in
/-- The message of a result, if it has one. -/
def Worded (r : StepResult) : Prop := ∀ message, r.message = some message → e.Says message

theorem settle_worded {r : StepResult} (hr : e.Worded r) (halt : Run σ Unit) : Returns e.Worded (e.settle r halt) := by
  unfold settle
  intro s r' t h
  rw [Run.run_bind_of_ok (Run.run_report r s)] at h
  obtain ⟨_, u, -, h⟩ := Run.exists_of_run_bind h
  cases h
  exact hr

theorem finish_worded (step : Step) {r : StepResult} (hr : e.Worded r) : Returns e.Worded (e.finish step r) := by
  unfold finish
  refine .bind fun _ => settle_worded ?_ _
  split
  · cases r
    exact nofun
  · exact hr

theorem attempts_worded {step : Step} (h : e.Finds step) (label : String) (level : Nat) (index : Option Nat) :
    Returns e.Worded (e.attempts nest step label level index) := by
  unfold attempts
  exact .bind fun _ => .seq (retrying_speaks (contained_speaks (body_speaks h label level index) label level) label _ 0)
    fun p hp => finish_worded step hp

/-- A step for which the repository has all it asks for never says otherwise. -/
theorem member_worded {step : Step} (h : e.Finds step) (labels : String) (level : Nat) (index : Option Nat) :
    Returns e.Worded (e.member nest labels level index step) := by
  have hbare : ∀ status, e.Worded (.bare step.id (labels ++ step.head.name) step.kind.name status) := fun _ => nofun
  have hattempts : ∀ label level index, Returns e.Worded (e.attempts nest step label level index) := attempts_worded h
  have hreport : ∀ {r}, e.Worded r → Returns e.Worded (Run.report r : Run σ StepResult) := by
    intro r hr s r' t hrun
    cases hrun
    exact hr
  unfold member executeWith
  refine .bind fun _ => ?_
  split
  · refine .bind fun halted => ?_
    split
    · refine .bind fun status => .bind fun _ => hreport ?_
      unfold interrupted
      split
      · exact hbare _
      · rintro _ ⟨⟩
        exact .inl (opens_self (by decide))
    · split
      · exact hattempts _ _ _
      · refine .bind fun scope => ?_
        split
        · exact hattempts _ _ _
        · refine .bind fun _ => finish_worded step ?_
          rintro _ ⟨⟩
          exact .inl ⟨"[Controller] ", by decide, "run condition not met", rfl⟩
        · refine .bind fun _ => settle_worded ?_ _
          rintro _ ⟨⟩
          exact .inl (opens_append (by decide) _)
  · exact hreport (hbare _)

end Engine

end Casebook
