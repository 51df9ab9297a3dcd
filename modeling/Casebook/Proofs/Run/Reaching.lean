import Casebook.Proofs.Run.Passage
import Mathlib.Logic.Relation

/-! What becomes of the outside world in a run.  However the run ends, and whatever it meets with on its way, calls on
its transport are all that it does to the world. -/
namespace Casebook

namespace Transport

variable {σ : Type} (t : Transport σ)

/-- What a call does to the world. -/
inductive Moves : σ → σ → Prop where
  | http (request : HttpRequest) (w : σ) : Moves w (t.http request w).2
  | connect (target : ConnectionTarget) (w : σ) : Moves w (t.connect target w).2
  | execute (target : ConnectionTarget) (sql : String) (w : σ) : Moves w (t.execute target sql w).2
  | close (target : ConnectionTarget) (w : σ) : Moves w (t.close target w).2

/-- What calls do to the world one after another. -/
abbrev Reaches : σ → σ → Prop := Relation.ReflTransGen t.Moves

theorem reaches_passage : Passage fun s s' : RunState σ => t.Reaches s.world s'.world where
  quiet h := h.world ▸ .refl
  recorded _ _ := .refl
  latched halt s := by
    unfold RunState.latched
    split <;> exact .refl
  trans := .trans
  nested := id

variable {t} in
/-- What no call changes about the world is the same wherever calls lead. -/
theorem Reaches.eq {α : Type} {view : σ → α} (hview : ∀ w w', t.Moves w w' → view w' = view w) {w w' : σ}
    (h : t.Reaches w w') : view w' = view w := by
  induction h with
  | refl => rfl
  | tail _ hmove ih => exact (hview _ _ hmove).trans ih

end Transport

namespace Engine

open Run (Silent)

variable {σ : Type} (e : Engine σ)

/-- However a part of a run ends, it does nothing to the world but make calls. -/
abbrev Calls {α : Type} (x : Run σ α) : Prop := Run.Leads (fun s s' => e.transport.Reaches s.world s'.world) x

namespace Calls

variable {e} {α β : Type}

theorem silent {x : Run σ α} (hx : Silent x) : e.Calls x := e.transport.reaches_passage.silent hx

theorem bind {x : Run σ α} {k : α → Run σ β} (hx : e.Calls x) (hk : ∀ a, e.Calls (k a)) : e.Calls (x >>= k) :=
  e.transport.reaches_passage.bind hx hk

theorem call {c : Call} {f : σ → Reply α × σ} (hf : ∀ w, e.transport.Moves w (f w).2) : e.Calls (Run.call c f) :=
  fun s => .single (hf s.world)

end Calls

theorem send_calls (request : HttpRequest) : e.Calls (e.send request) := by
  unfold send
  refine .bind (.call (.http request)) fun answer => ?_
  cases answer with
  | some answer => exact .silent (.pure _)
  | none => exact e.transport.reaches_passage.throw .panic

theorem connect_calls (target : ConnectionTarget) : e.Calls (e.connect target) := .call (.connect target)

theorem query_calls (target : ConnectionTarget) (sql : String) : e.Calls (e.query target sql) :=
  .call (.execute target sql)

theorem close_calls (target : ConnectionTarget) : e.Calls (e.close target) := .call (.close target)

theorem discard_calls (target : ConnectionTarget) : e.Calls (e.discard target) := by
  unfold discard
  refine .bind (e.close_calls target) fun closed => .silent ?_
  split
  · exact .note _ _
  · exact .pure _

theorem api_calls (h : StepHead) (p : ApiParams) (label : String) (index : Option Nat) :
    e.Calls (e.api h p label index) := by
  unfold api
  refine .bind (.silent (e.writeVariables_silent p label index)) fun written => ?_
  split
  · exact .silent (.pure _)
  · refine .bind (.silent (e.environmentUrl_silent p)) fun url => ?_
    refine .bind (.silent (e.makeRequest_silent h p index url _)) fun made => ?_
    split
    split
    · exact .silent (.pure _)
    · refine .bind (e.send_calls _) fun answer => .silent ?_
      split
      · exact .pure _
      · exact e.judge_silent h p label index _ _

theorem queryAndClose_calls (p : SqlParams) (label : String) (index : Option Nat) (target : ConnectionTarget)
    (log : SqlLog) : e.Calls (e.queryAndClose p label index target log) := by
  unfold queryAndClose
  refine .bind (.silent .scope) fun scope => ?_
  split
  · exact .bind (e.discard_calls target) fun _ => .silent (.pure _)
  · refine .bind (.silent (.note _ _)) fun _ => .bind (e.query_calls target _) fun rows => ?_
    split
    · exact .bind (e.discard_calls target) fun _ => .silent (.pure _)
    · refine .bind (e.close_calls target) fun closed => .silent ?_
      split <;> exact .pure _

theorem sql_calls (p : SqlParams) (label : String) (index : Option Nat) : e.Calls (e.sql p label index) := by
  unfold sql
  refine .bind (.silent (e.sqlTarget_silent p)) fun target => ?_
  split
  · exact .silent (.pure _)
  · refine .bind (e.connect_calls _) fun connected => ?_
    split
    · exact .silent (.pure _)
    · refine .bind (e.queryAndClose_calls p label index _ _) fun queried => .silent ?_
      split
      split
      · exact .pure _
      · exact .pure _
      · exact .bind (captureRow_silent _ _ _) fun _ => .pure _

/-- A run of a case does nothing to the world but make calls, also where it is aborted. -/
theorem runCase_calls (caseId : CaseId) : e.Calls (e.runCase caseId) :=
  (e.transport.reaches_passage.relates e.api_calls e.sql_calls).runCase rfl caseId

end Engine

end Casebook
