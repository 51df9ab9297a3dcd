import Casebook.Run.Engine

/-! Expressions during one iteration.  An attempt asks its evaluator about one iteration only, so it does the same with
an evaluator that answers for that one whatever it is asked about. -/
namespace Casebook

namespace Evaluator

/-- The evaluator during an iteration, whichever one it is asked about. -/
def during (ev : Evaluator) (index : Option Nat) : Evaluator where
  render text scope _ := ev.render text scope index
  evaluate text scope _ := ev.evaluate text scope index

variable (ev : Evaluator) (index : Option Nat)

mutual

theorem resolve_during (scope : Scope) :
    ∀ v : Json.Value, (ev.during index).resolve scope index v = ev.resolve scope index v
  | .string _ => rfl
  | .array xs => by rw [resolve, resolve, resolveItems_during scope xs]
  | .object ms => by rw [resolve, resolve, resolveMembers_during scope ms]
  | .null | .bool _ | .number _ => rfl

theorem resolveItems_during (scope : Scope) :
    ∀ xs : List Json.Value, (ev.during index).resolveItems scope index xs = ev.resolveItems scope index xs
  | [] => rfl
  | x :: xs => by rw [resolveItems, resolveItems, resolve_during scope x, resolveItems_during scope xs]

theorem resolveMembers_during (scope : Scope) : ∀ ms : List (String × Json.Value),
    (ev.during index).resolveMembers scope index ms = ev.resolveMembers scope index ms
  | [] => rfl
  | (k, v) :: ms => by
    rw [resolveMembers, resolveMembers, resolve_during scope v, resolveMembers_during scope ms]
    rfl

end

theorem resolveRow_during (scope : Scope) (row : ParamEntry) :
    (ev.during index).resolveRow scope index row = ev.resolveRow scope index row := by
  unfold resolveRow
  rw [resolve_during]
  rfl

theorem resolveRows_during (role : ParamRole) (rows : List ParamEntry) (scope : Scope) :
    (ev.during index).resolveRows role index rows scope = ev.resolveRows role index rows scope := by
  induction rows generalizing scope with
  | nil => rfl
  | cons row rows ih => simp only [resolveRows, resolveRow_during, ih]

theorem resolveParams_during (source : ParamSource) (role : ParamRole) (scope : Scope) :
    (ev.during index).resolveParams source role index scope = ev.resolveParams source role index scope := by
  cases source with
  | table rows => simp only [resolveParams, resolveTable, resolveRows_during]
  | json v =>
    cases v with
    | object ms => simp only [resolveParams, resolveTable, resolveRows_during]
    | null | bool | number | string | array => simp only [resolveParams, resolve_during]
  | text | code => rfl

theorem resolveMap_during (source : ParamSource) (role : ParamRole) (scope : Scope) :
    (ev.during index).resolveMap source role index scope = ev.resolveMap source role index scope := by
  unfold resolveMap
  rw [resolveParams_during]
  rfl

theorem captureEntries_during (label : String) (body headers : Json.Value) :
    (ev.during index).captureEntries index label body headers = ev.captureEntries index label body headers := by
  funext entries captured scope
  induction entries generalizing captured scope with
  | nil => rfl
  | cons entry entries ih =>
    have hvalue : (ev.during index).outputValue index body headers entry scope =
      ev.outputValue index body headers entry scope := rfl
    unfold captureEntries
    simp only [hvalue, ih]

theorem expectEntry_during (body : Json.Value) (scope : Scope) :
    (ev.during index).expectEntry index body scope = ev.expectEntry index body scope := by
  funext entry
  unfold expectEntry
  rw [resolve_during]
  rfl

end Evaluator

theorem LoopBound.resolve_during (ev : Evaluator) (index : Option Nat) (times : Json.Value) (scope : Scope) :
    resolve (ev.during index) times scope index = resolve ev times scope index := by
  have hvalue : ∀ word, (ev.during index).renderValue word scope index = ev.renderValue word scope index := fun _ => rfl
  unfold resolve
  simp only [hvalue]

namespace ApiParams

variable (p : ApiParams) (ev : Evaluator) (index : Option Nat)

theorem draft_during : p.draft (ev.during index) index = p.draft ev index := by
  have hheaders : p.resolveHeaders (ev.during index) index = p.resolveHeaders ev index := by
    funext scope
    unfold resolveHeaders
    simp only [Evaluator.resolveMap_during]
  have hquery : p.resolveQuery (ev.during index) index = p.resolveQuery ev index := by
    funext scope
    unfold resolveQuery
    simp only [Evaluator.resolveMap_during]
  have hbody : p.resolveBody (ev.during index) index = p.resolveBody ev index := by
    funext scope
    unfold resolveBody
    simp only [Evaluator.resolveParams_during]
  funext url timeoutSecs
  unfold draft
  rw [hheaders, hquery, hbody]
  rfl

theorem judge_during (label : String) : p.judge (ev.during index) label index = p.judge ev label index := by
  have hcapture : (ev.during index).capture index p.outputs = ev.capture index p.outputs := by
    funext label body headers scope
    unfold Evaluator.capture
    rw [Evaluator.captureEntries_during]
    rfl
  have hexpects : (ev.during index).expects index p.expectations = ev.expects index p.expectations := by
    funext body headers scope
    unfold Evaluator.expects
    rw [Evaluator.expectEntry_during]
    rfl
  funext rules response log scope
  unfold judge
  rw [hcapture, hexpects]

end ApiParams

namespace Engine

variable {σ : Type} (e : Engine σ) (index : Option Nat)

/-- The engine with another meaning of templates and expressions. -/
def given (ev : Evaluator) : Engine σ := { e with ev }

theorem given_ev (ev : Evaluator) : (e.given ev).ev = ev := rfl

theorem given_repository (ev : Evaluator) : (e.given ev).repository = e.repository := rfl

theorem given_loopBody (ev : Evaluator) : (e.given ev).loopBody = e.loopBody := rfl

/-- An attempt at an api step sees no other iteration than its own. -/
theorem api_during (head : StepHead) (p : ApiParams) (label : String) :
    (e.given (e.ev.during index)).api head p label index = e.api head p label index := by
  have hvars : (e.given (e.ev.during index)).writeVariables p label index = e.writeVariables p label index := by
    unfold writeVariables
    rw [given_ev]
    simp only [Evaluator.resolveParams_during]
  have hmake : (e.given (e.ev.during index)).makeRequest head p index = e.makeRequest head p index := by
    funext url log
    unfold makeRequest
    rw [given_ev, ApiParams.draft_during]
    rfl
  have hjudge : (e.given (e.ev.during index)).judge head p label index = e.judge head p label index := by
    funext response log
    unfold judge
    rw [given_ev, ApiParams.judge_during]
    rfl
  unfold api
  rw [hvars, hmake, hjudge]
  rfl

theorem sql_during (p : SqlParams) (label : String) :
    (e.given (e.ev.during index)).sql p label index = e.sql p label index := by
  have hquery : (e.given (e.ev.during index)).queryAndClose p label index = e.queryAndClose p label index := by
    funext target log
    unfold queryAndClose
    rfl
  unfold sql
  rw [hquery]
  rfl

end Engine

end Casebook
