import Casebook.Proofs.Run.Trail

/-! Database connections.  Every connection that is opened is closed once in the attempt that opened it, whatever the
database answers, and an attempt at an sql step that does not pass leaves the scope as it was. -/
namespace Casebook

/-! ### Dealings with the outside world -/

/-- A call with its answer. -/
inductive Dealing where
  | http (request : HttpRequest) (answer : Option (Except HttpError HttpResponse))
  | connect (target : ConnectionTarget) (answer : Except SqlError Unit)
  | execute (target : ConnectionTarget) (sql : String) (answer : Except SqlError Rows)
  | close (target : ConnectionTarget) (answer : Except SqlError Unit)

namespace Dealing

def call : Dealing → Call
  | http request _ => .http request
  | connect target _ => .connect target
  | execute _ sql _ => .execute sql
  | close .. => .close

/-- Whether a connection was opened. -/
def opens : Dealing → Bool
  | connect _ (.ok _) => true
  | _ => false

/-- Whether a connection was to be closed. -/
def closes : Dealing → Bool
  | close .. => true
  | _ => false

end Dealing

/-- What is done over one connection: it is opened, at most one statement is sent over it, and it is closed. -/
inductive Session : List Dealing → Prop where
  | refused (target : ConnectionTarget) (cause : SqlError) : Session [.connect target (.error cause)]
  | unused (target : ConnectionTarget) (closed : Except SqlError Unit) :
    Session [.connect target (.ok ()), .close target closed]
  | used (target : ConnectionTarget) (sql : String) (rows : Except SqlError Rows) (closed : Except SqlError Unit) :
    Session [.connect target (.ok ()), .execute target sql rows, .close target closed]

/-- The dealings of one attempt at an api or sql step. -/
inductive Contact : List Dealing → Prop where
  | silent : Contact []
  | request (request : HttpRequest) (answer : Option (Except HttpError HttpResponse)) : Contact [.http request answer]
  | session {dealings : List Dealing} : Session dealings → Contact dealings

theorem Contact.countP_opens {dealings : List Dealing} (h : Contact dealings) :
    dealings.countP Dealing.opens = dealings.countP Dealing.closes := by
  cases h with
  | silent => rfl
  | request => rfl
  | session h => cases h <;> rfl

namespace Transport

variable {σ : Type} (t : Transport σ)

/-- The world goes from one state to another as the transport answers calls one after another. -/
inductive Trades : σ → List Dealing → σ → Prop where
  | none (w : σ) : Trades w [] w
  | http (request : HttpRequest) (w : σ) :
    Trades w [.http request (t.http request w).1.answer] (t.http request w).2
  | connect (target : ConnectionTarget) (w : σ) :
    Trades w [.connect target (t.connect target w).1.answer] (t.connect target w).2
  | execute (target : ConnectionTarget) (sql : String) (w : σ) :
    Trades w [.execute target sql (t.execute target sql w).1.answer] (t.execute target sql w).2
  | close (target : ConnectionTarget) (w : σ) :
    Trades w [.close target (t.close target w).1.answer] (t.close target w).2
  | append {w w' w'' : σ} {ds ds' : List Dealing} : Trades w ds w' → Trades w' ds' w'' → Trades w (ds ++ ds') w''

end Transport

/-! ### Parts of runs -/

/-- The events of a run so far. -/
def RunState.events {σ : Type} (s : RunState σ) : List Event := s.journal.toList.map Entry.event

/-- From one state of a run to another there were such dealings with a transport, and no other events. -/
structure RunState.Dealt {σ : Type} (t : Transport σ) (s : RunState σ) (dealings : List Dealing) (u : RunState σ) :
    Prop where
  events : u.events = s.events ++ dealings.map fun d => .called d.call
  trades : t.Trades s.world dealings u.world

namespace RunState

variable {σ : Type} {t : Transport σ} {s u v : RunState σ}

theorem events_recorded (x : Event) (s : RunState σ) : (s.recorded x).events = s.events ++ [x] := by
  simp [events]

namespace Dealt

variable {ds ds' : List Dealing}

theorem quiet (h : s.Quiet u) : s.Dealt t [] u where
  events := by simp [RunState.events, h.journal]
  trades := h.world ▸ .none _

theorem append (h : s.Dealt t ds u) (k : u.Dealt t ds' v) : s.Dealt t (ds ++ ds') v where
  events := by rw [k.events, h.events, List.map_append, List.append_assoc]
  trades := h.trades.append k.trades

theorem quietly (h : s.Dealt t ds u) (k : u.Quiet v) : s.Dealt t ds v := by
  have happend := h.append (.quiet k)
  rwa [List.append_nil] at happend

theorem afterQuiet (h : s.Quiet u) (k : u.Dealt t ds v) : s.Dealt t ds v := (Dealt.quiet h).append k

/-- A call that the transport answers. -/
theorem call {α : Type} {d : Dealing} {f : σ → Reply α × σ} (s : RunState σ) (h : t.Trades s.world [d] (f s.world).2) :
    s.Dealt t [d] ((s.answered (f s.world).1 (f s.world).2).recorded (.called d.call)) where
  events := events_recorded _ _
  trades := h

end Dealt

end RunState

/-- One scope differs from another in a variable that a step set, and in nothing else. -/
structure Scope.Captures (before after : Scope) (label name : String) (value : Json.Value) : Prop where
  header : after.header = before.header
  host : after.host = before.host
  kept : after.getVar name = some value
  provenance : Dict.get? name after.provenance = some ⟨label, value.kindName⟩
  others : ∀ other, other ≠ name → after.getVar other = before.getVar other ∧
    Dict.get? other after.provenance = Dict.get? other before.provenance

theorem Scope.Captures.setVar (label name : String) (value : Json.Value) (s : Scope) :
    s.Captures (s.setVar label name value) label name value where
  header := rfl
  host := rfl
  kept := getVar_setVar_self label name value s
  provenance := Dict.get?_insert_self _ _ _
  others _ hne := ⟨getVar_setVar_of_ne hne value s, Dict.get?_insert_of_ne hne _ _⟩

namespace Engine

open RunState (Dealt)

variable {σ : Type} (e : Engine σ)

/-! ### Attempts at sql steps -/

theorem environment_still : Run.Still e.environment := by
  intro s
  obtain ⟨r, environments, hrun⟩ := e.exists_run_environment s.environments
  exact ⟨r, _, hrun s rfl, ⟨rfl, rfl, rfl, rfl, rfl⟩, rfl⟩

theorem sqlTarget_still (p : SqlParams) : Run.Still (e.sqlTarget p) := by
  unfold sqlTarget
  refine .bind e.environment_still fun r => ?_
  split
  · exact .pure _
  · split <;> exact .pure _

theorem exists_run_connect (target : ConnectionTarget) (s : RunState σ) :
    ∃ answer t, (e.connect target).run s = (.ok answer, t) ∧ s.Dealt e.transport [.connect target answer] t ∧
      t.scope = s.scope :=
  ⟨_, _, Run.run_call _ _ s, .call s (.connect target s.world), rfl⟩

theorem exists_run_query (target : ConnectionTarget) (sql : String) (s : RunState σ) :
    ∃ answer t, (e.query target sql).run s = (.ok answer, t) ∧ s.Dealt e.transport [.execute target sql answer] t ∧
      t.scope = s.scope :=
  ⟨_, _, Run.run_call _ _ s, .call s (.execute target sql s.world), rfl⟩

theorem exists_run_close (target : ConnectionTarget) (s : RunState σ) :
    ∃ answer t, (e.close target).run s = (.ok answer, t) ∧ s.Dealt e.transport [.close target answer] t ∧
      t.scope = s.scope :=
  ⟨_, _, Run.run_call _ _ s, .call s (.close target s.world), rfl⟩

theorem exists_run_discard (target : ConnectionTarget) (s : RunState σ) :
    ∃ closed t, (e.discard target).run s = (.ok (), t) ∧ s.Dealt e.transport [.close target closed] t ∧
      t.scope = s.scope := by
  obtain ⟨closed, t, hclose, hdealt, hscope⟩ := e.exists_run_close target s
  unfold discard
  rw [Run.run_bind_of_ok hclose]
  cases closed with
  | error cause => exact ⟨_, _, rfl, hdealt.quietly (.noted _ t), hscope⟩
  | ok _ => exact ⟨_, t, rfl, hdealt, hscope⟩

/-- What goes on over an open connection; rows come of it only where the statement and the closing went well. -/
theorem exists_run_queryAndClose (p : SqlParams) (label : String) (index : Option Nat) (target : ConnectionTarget)
    (log : SqlLog) (s : RunState σ) :
    ∃ result t dealings, (e.queryAndClose p label index target log).run s = (.ok result, t) ∧
      s.Dealt e.transport dealings t ∧ t.scope = s.scope ∧ Session (.connect target (.ok ()) :: dealings) ∧
      ∀ rows, result.1 = .ok rows → ∃ sql, dealings = [.execute target sql (.ok rows), .close target (.ok ())] := by
  unfold queryAndClose
  rw [Run.run_bind_of_ok (Run.run_scope s)]
  split
  case h_1 fault _ =>
    obtain ⟨closed, t, hdiscard, hdealt, hscope⟩ := e.exists_run_discard target s
    exact ⟨_, t, _, Run.run_bind_of_ok hdiscard _, hdealt, hscope, .unused _ _, nofun⟩
  case h_2 sql _ =>
    have hnoted : s.Quiet (s.noted ⟨.debug, label ++ " executing: " ++ sql⟩) := .noted _ s
    obtain ⟨answer, t, hquery, hexecuted, hscope⟩ :=
      e.exists_run_query target sql (s.noted ⟨.debug, label ++ " executing: " ++ sql⟩)
    have hdealt := hexecuted.afterQuiet hnoted
    rw [Run.run_bind_of_ok (Run.run_note _ _ s), Run.run_bind_of_ok hquery]
    cases answer with
    | error cause =>
      obtain ⟨closed, u, hdiscard, hclosed, hscope'⟩ := e.exists_run_discard target t
      exact ⟨_, u, _, Run.run_bind_of_ok hdiscard _, hdealt.append hclosed, hscope'.trans hscope, .used _ _ _ _, nofun⟩
    | ok rows =>
      obtain ⟨closed, u, hclose, hclosed, hscope'⟩ := e.exists_run_close target t
      rw [Run.run_bind_of_ok hclose]
      cases closed with
      | error cause => exact ⟨_, u, _, rfl, hdealt.append hclosed, hscope'.trans hscope, .used _ _ _ _, nofun⟩
      | ok _ =>
        refine ⟨_, u, _, rfl, hdealt.append hclosed, hscope'.trans hscope, .used _ _ _ _, fun rows' hrows => ?_⟩
        cases hrows
        exact ⟨sql, rfl⟩

/-- What an attempt at an sql step comes to: it leaves no connection open, and only where it passed it keeps the first
row. -/
structure ClosesUp (p : SqlParams) (label : String) (s : RunState σ) (a : Attempt) (dealings : List Dealing)
    (t : RunState σ) : Prop where
  dealt : s.Dealt e.transport dealings t
  session : dealings = [] ∨ Session dealings
  failed : a.passed = false → t.scope = s.scope
  passed : a.passed = true → ∃ target sql rows,
    dealings = [.connect target (.ok ()), .execute target sql (.ok rows), .close target (.ok ())] ∧
      match p.captureVar with
      | none => t.scope = s.scope
      | some name =>
        t.scope = s.scope.setVar label name ((rows.head?.map Json.Value.object).getD .null) ∧
          s.scope.Captures t.scope label name ((rows.head?.map Json.Value.object).getD .null)

theorem sql_closes_up (p : SqlParams) (label : String) (index : Option Nat) (s : RunState σ) :
    ∃ a t dealings, (e.sql p label index).run s = (.ok a, t) ∧ e.ClosesUp p label s a dealings t := by
  unfold sql
  obtain ⟨found, t, htarget, hquiet, hscope⟩ := e.sqlTarget_still p s
  rw [Run.run_bind_of_ok htarget]
  cases found with
  | error fault => exact ⟨_, t, [], rfl, .quiet hquiet, .inl rfl, fun _ => hscope, nofun⟩
  | ok target =>
    obtain ⟨answer, u, hconnect, hopened, hscope'⟩ := e.exists_run_connect target t
    have hdealt := hopened.afterQuiet hquiet
    simp only
    rw [Run.run_bind_of_ok hconnect]
    cases answer with
    | error cause =>
      exact ⟨_, u, _, rfl, hdealt, .inr (.refused _ _), fun _ => hscope'.trans hscope, nofun⟩
    | ok _ =>
      obtain ⟨⟨rows, log⟩, v, dealings, hquery, hclosed, hsame, hsession, hrows⟩ :=
        e.exists_run_queryAndClose p label index target ⟨p.connection, p.database, p.sql, 0, none⟩ u
      have hscope : v.scope = s.scope := hsame.trans (hscope'.trans hscope)
      have hdealt := hdealt.append hclosed
      simp only
      rw [Run.run_bind_of_ok hquery]
      rcases rows with fault | rows
      · exact ⟨_, v, _, rfl, hdealt, .inr hsession, fun _ => hscope, nofun⟩
      · obtain ⟨sql, rfl⟩ := hrows rows rfl
        cases hcapture : p.captureVar with
        | none =>
          refine ⟨_, v, _, rfl, hdealt, .inr hsession, nofun, fun _ => ⟨target, sql, rows, rfl, ?_⟩⟩
          rw [hcapture]
          exact hscope
        | some name =>
          refine ⟨_, _, _, rfl, hdealt.quietly ⟨rfl, rfl, rfl, rfl, rfl⟩, .inr hsession, nofun,
            fun _ => ⟨target, sql, rows, rfl, ?_⟩⟩
          rw [hcapture]
          have hset : v.scope.setVar label name ((rows.head?.map Json.Value.object).getD .null) =
              s.scope.setVar label name ((rows.head?.map Json.Value.object).getD .null) := by
            rw [hscope]
          exact ⟨hset, hset ▸ .setVar _ _ _ _⟩

/-! ### Attempts at api steps -/

/-- A part of a run, however it ends, has such dealings as one attempt may have. -/
def MakesContact {α : Type} (x : Run σ α) : Prop :=
  ∀ s : RunState σ, ∃ dealings, Contact dealings ∧ s.Dealt e.transport dealings (x.run s).2

namespace MakesContact

variable {e} {α β : Type}

theorem silent {x : Run σ α} (hx : Run.Silent x) : e.MakesContact x := by
  intro s
  obtain ⟨a, t, hrun, hquiet, -⟩ := hx s
  rw [hrun]
  exact ⟨[], .silent, .quiet hquiet⟩

theorem afterSilent {x : Run σ α} {k : α → Run σ β} (hx : Run.Silent x) (hk : ∀ a, e.MakesContact (k a)) :
    e.MakesContact (x >>= k) := by
  intro s
  obtain ⟨a, t, hrun, hquiet, -⟩ := hx s
  obtain ⟨dealings, hcontact, hdealt⟩ := hk a t
  rw [Run.run_bind_of_ok hrun]
  exact ⟨dealings, hcontact, hdealt.afterQuiet hquiet⟩

theorem bindSilent {x : Run σ α} {k : α → Run σ β} (hx : e.MakesContact x) (hk : ∀ a, Run.Silent (k a)) :
    e.MakesContact (x >>= k) := by
  intro s
  obtain ⟨dealings, hcontact, hdealt⟩ := hx s
  refine ⟨dealings, hcontact, ?_⟩
  rcases hrun : x.run s with ⟨c | a, t⟩ <;> rw [hrun] at hdealt
  · rwa [Run.run_bind_of_error hrun]
  · obtain ⟨b, u, hrun', hquiet, -⟩ := hk a t
    rw [Run.run_bind_of_ok hrun, hrun']
    exact hdealt.quietly hquiet

end MakesContact

theorem send_makesContact (request : HttpRequest) : e.MakesContact (e.send request) := by
  intro s
  refine ⟨_, .request request (e.transport.http request s.world).1.answer, ?_⟩
  have hdealt : s.Dealt e.transport _ _ := .call s (.http request s.world)
  unfold send
  rw [Run.run_bind, Run.run_call]
  simp only
  split <;> exact hdealt

theorem api_makesContact (h : StepHead) (p : ApiParams) (label : String) (index : Option Nat) :
    e.MakesContact (e.api h p label index) := by
  unfold api
  refine .afterSilent (e.writeVariables_silent p label index) fun written => ?_
  split
  · exact .silent (.pure _)
  · refine .afterSilent (e.environmentUrl_silent p) fun url => ?_
    refine .afterSilent (e.makeRequest_silent h p index url _) fun made => ?_
    split
    split
    · exact .silent (.pure _)
    · refine .bindSilent (e.send_makesContact _) fun answer => ?_
      split
      · exact .pure _
      · exact e.judge_silent h p label index _ _

/-! ### Runs -/

end Engine

/-- A part of a run: an event apart from calls, or an attempt at an api or sql step with all its dealings. -/
inductive Part where
  | event (x : Event)
  | attempt (label : String) (number : Nat) (dealings : List Dealing)

namespace Part

/-- The calls of an attempt follow its start at once. -/
def events : Part → List Event
  | event x => [x]
  | attempt label number dealings => .attempted label number :: dealings.map fun d => .called d.call

def dealings : Part → List Dealing
  | event _ => []
  | attempt _ _ dealings => dealings

def IsOrderly : Part → Prop
  | event x => x.call? = none
  | attempt _ _ dealings => Contact dealings

theorem IsOrderly.countP_opens {part : Part} (h : part.IsOrderly) :
    part.dealings.countP Dealing.opens = part.dealings.countP Dealing.closes := by
  cases part with
  | event x => rfl
  | attempt label number dealings => exact Contact.countP_opens h

end Part

/-- A run went from one state to another in such parts. -/
structure RunState.Proceeds {σ : Type} (t : Transport σ) (s : RunState σ) (parts : List Part) (u : RunState σ) :
    Prop where
  orderly : ∀ part ∈ parts, part.IsOrderly
  events : u.events = s.events ++ parts.flatMap Part.events
  trades : t.Trades s.world (parts.flatMap Part.dealings) u.world

namespace RunState.Proceeds

variable {σ : Type} {t : Transport σ} {s u v : RunState σ} {parts later : List Part}

theorem still (hevents : u.events = s.events) (hworld : u.world = s.world) : s.Proceeds t [] u where
  orderly := by simp
  events := by simp [hevents]
  trades := hworld ▸ .none _

theorem event (x : Event) (s : RunState σ) (hx : x.call? = none) : s.Proceeds t [.event x] (s.recorded x) where
  orderly := by simpa [Part.IsOrderly] using hx
  events := by simp [events_recorded, Part.events]
  trades := .none _

theorem attempt (label : String) (number : Nat) {dealings : List Dealing} (hcontact : Contact dealings)
    (h : (s.recorded (.attempted label number)).Dealt t dealings u) :
    s.Proceeds t [.attempt label number dealings] u where
  orderly := by simpa [Part.IsOrderly] using hcontact
  events := by simp [h.events, events_recorded, Part.events]
  trades := by
    rw [List.flatMap_singleton]
    exact h.trades

theorem append (h : s.Proceeds t parts u) (k : u.Proceeds t later v) : s.Proceeds t (parts ++ later) v where
  orderly part hpart := (List.mem_append.mp hpart).elim (h.orderly part) (k.orderly part)
  events := by rw [k.events, h.events, List.flatMap_append, List.append_assoc]
  trades := by
    rw [List.flatMap_append]
    exact h.trades.append k.trades

/-- As many connections were closed as were opened. -/
theorem countP_opens (h : s.Proceeds t parts u) :
    (parts.flatMap Part.dealings).countP Dealing.opens = (parts.flatMap Part.dealings).countP Dealing.closes := by
  rw [List.countP_flatMap, List.countP_flatMap]
  congr 1
  exact List.map_congr_left fun part hpart => (h.orderly part hpart).countP_opens

end RunState.Proceeds

namespace Engine

open RunState (Dealt Proceeds)

variable {σ : Type} {e : Engine σ} {root : List Step}

/-- A trail is gone in parts. -/
theorem Trail.proceeds {s t : RunState σ} {deeds : List (Deed σ)} (h : e.Trail root s deeds t) :
    ∃ parts, s.Proceeds e.transport parts t := by
  induction h with
  | still hquiet _ => exact ⟨[], .still (by simp [RunState.events, hquiet.journal]) hquiet.world⟩
  | latched halt s =>
    refine ⟨[], ?_⟩
    unfold RunState.latched
    split <;> exact .still rfl rfl
  | event s hx => exact ⟨_, .event _ s hx⟩
  | @api head params label number index s _ =>
    obtain ⟨dealings, hcontact, hdealt⟩ := e.api_makesContact head params label index _
    exact ⟨_, .attempt label number hcontact hdealt⟩
  | @sql head params label number index s _ =>
    obtain ⟨a, t, dealings, hrun, hcloses⟩ := e.sql_closes_up params label index (s.recorded (.attempted label number))
    have hcontact : Contact dealings := by
      rcases hcloses.session with rfl | hsession
      · exact .silent
      · exact .session hsession
    rw [hrun]
    exact ⟨_, .attempt label number hcontact hcloses.dealt⟩
  | nested _ ih =>
    obtain ⟨parts, hparts⟩ := ih
    exact ⟨parts, hparts.orderly, hparts.events, hparts.trades⟩
  | append _ _ ih₁ ih₂ =>
    obtain ⟨parts, hparts⟩ := ih₁
    obtain ⟨later, hlater⟩ := ih₂
    exact ⟨_, hparts.append hlater⟩

variable (e) in
/-- An engine leaves no connection open. -/
structure ClosesConnections : Prop where
  /-- An attempt at an sql step comes to a value, and changes nothing unless it passes. -/
  attempt : ∀ (p : SqlParams) label index s, ∃ a t dealings,
    (e.sql p label index).run s = (.ok a, t) ∧ e.ClosesUp p label s a dealings t
  /-- A run of a case, however it ends, goes in parts, so each connection is closed in the attempt that opened it. -/
  run : ∀ caseId (s : RunState σ), ∃ parts, s.Proceeds e.transport parts ((e.runCase caseId).run s).2 ∧
    (parts.flatMap Part.dealings).countP Dealing.opens = (parts.flatMap Part.dealings).countP Dealing.closes

/-- Whatever the database answers, and however a run ends, no connection is left open or closed twice. -/
theorem connections_are_closed (e : Engine σ) : e.ClosesConnections where
  attempt := e.sql_closes_up
  run caseId s := by
    obtain ⟨deeds, htrail⟩ := e.exists_trail caseId s
    obtain ⟨parts, hparts⟩ := htrail.proceeds
    exact ⟨parts, hparts, hparts.countP_opens⟩

/-! ### A database that fails at first -/

/-- The first statement is refused, and the second connection cannot be closed. -/
def flakyDatabase : Transport Nat where
  http _ w := (.quiet (some (.error .timeout)), w)
  connect _ w := (.quiet (.ok ()), w + 1)
  execute _ _ w := (.quiet (if w = 1 then .error (.query "locked") else .ok [[("n", .ofNat w)]]), w)
  close _ w := (.quiet (if w = 2 then .error .closed else .ok ()), w)

def flakyCase : Case :=
  ⟨1, "flaky", some 1, [.sql ⟨1, "ask", 0, true, { Controller.default with retryCount := 4 }, none⟩
    ⟨"main", none, "select 1", some "row"⟩]⟩

def flakyEngine : Engine Nat where
  ev := Template.evaluator
  repository := .ofSuite { Suite.empty with
    environments := [⟨1, "test", "", [("main", ⟨"sqlite", "", none⟩)]⟩]
    cases := [flakyCase] }
  transport := flakyDatabase
  config := .default
  options := ⟨1, false, false⟩
  patience := 0

/-- The step passes at the third attempt, with its row from the third connection; all three were closed. -/
theorem third_connection_answers :
    let t := ((flakyEngine.runCase 1).run (.start .empty false 0)).2
    t.calls.toList.map (· == .close) = [false, false, true, false, false, true, false, false, true] ∧
    (t.scope.getVar "row").map (·.same (.object [("n", .ofNat 3)])) = some true ∧ flakyEngine.ClosesConnections :=
  ⟨by decide +kernel, by decide +kernel, connections_are_closed flakyEngine⟩

end Engine

end Casebook
