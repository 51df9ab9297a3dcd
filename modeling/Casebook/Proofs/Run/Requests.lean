import Casebook.Proofs.Run.Connections

/-! The requests of api steps.  A request is made where all its parts can be resolved, each in view of the scope that
those before it leave, and it is made up of these parts. -/
namespace Casebook

theorem Stage.mark_eq_ok {α : Type} {stage : Stage} {r : Except ResolutionError α} {a : α} :
    stage.mark r = .ok a ↔ r = .ok a := by
  cases r <;> simp [mark, Except.mapError]

/-- What a request is made of, and the scope that is left by then. -/
structure RequestParts where
  host : String
  path : String
  headers : Dict String
  query : Json.Members
  body : Option Json.Value
  scope : Scope

namespace ApiParams

variable (p : ApiParams) (ev : Evaluator) (index : Option Nat)

/-- What comes of resolving the variables of a step. -/
def resolveVars (label : String) (scope : Scope) : Except StepFault Unit :=
  match p.vars with
  | none => .ok ()
  | some source => (Stage.vars.mark (ev.resolveParams source (.variable label) index scope).result).map fun _ => ()

/-- Host, path, headers, query and body of a step can be resolved, the last two with the headers in the scope. -/
structure Makes (url : Except RepositoryError String) (scope : Scope) (parts : RequestParts) : Prop where
  host : p.hostText ev index url scope = .ok parts.host
  path : ev.renderText p.path scope index = .ok parts.path
  headers : p.resolveHeaders ev index scope = .ok (parts.headers, parts.scope)
  query : p.resolveQuery ev index parts.scope = .ok parts.query
  body : p.resolveBody ev index parts.scope = .ok parts.body

/-- The request that is made of its parts. -/
def request (method : String) (timeoutSecs : UInt64) (parts : RequestParts) : HttpRequest where
  method := method
  url := parts.host ++ parts.path
  headers := parts.headers
  query := parts.query.map fun (k, v) => (k, v.display)
  body := parts.body.bind fun b =>
    payload? b ((Dict.get? "content-type" parts.headers).getD defaultContentType)
  timeoutSecs := timeoutSecs
  followRedirects := p.followRedirects

variable {p ev index} {url : Except RepositoryError String} {scope : Scope} {parts parts' : RequestParts}

theorem Makes.unique (h : p.Makes ev index url scope parts) (h' : p.Makes ev index url scope parts') :
    parts = parts' := by
  obtain ⟨host, path, headers, query, body, left⟩ := parts
  obtain ⟨host', path', headers', query', body', left'⟩ := parts'
  obtain ⟨hhost, hpath, hheaders, hquery, hbody⟩ := h
  obtain ⟨hhost', hpath', hheaders', hquery', hbody'⟩ := h'
  cases hhost.symm.trans hhost'
  cases hpath.symm.trans hpath'
  cases hheaders.symm.trans hheaders'
  cases hquery.symm.trans hquery'
  cases hbody.symm.trans hbody'
  rfl

end ApiParams

/-- The log with the parts of a request. -/
def RequestLog.made (parts : RequestParts) (log : RequestLog) : RequestLog :=
  { log with
    url := parts.host ++ parts.path
    headers := parts.headers
    query := .object parts.query
    body := parts.body.getD .null }

namespace Drafting

variable {α : Type}

theorem run_pure (a : α) (d : Draft) : (pure a : Drafting α).run d = (.ok a, d) := rfl

theorem run_lift (r : Except StepFault α) (d : Draft) : (liftM r : Drafting α).run d = (r, d) := by
  cases r <;> rfl

theorem run_get (d : Draft) : (get : Drafting Draft).run d = (.ok d, d) := rfl

theorem run_modify (f : Draft → Draft) (d : Draft) : (modify f : Drafting Unit).run d = (.ok (), f d) := rfl

end Drafting

namespace ApiParams

variable {p : ApiParams} {ev : Evaluator} {index : Option Nat} {url : Except RepositoryError String}
  {parts : RequestParts} {d : Draft}

theorem Makes.run_draft (h : p.Makes ev index url d.scope parts) (timeoutSecs : UInt64) :
    (p.draft ev index url timeoutSecs).run d =
      (.ok (p.request d.log.method timeoutSecs parts), ⟨d.log.made parts, parts.scope⟩) := by
  simp only [draft, Drafting.run_bind, Drafting.run_get, Drafting.run_lift, Drafting.run_modify, Drafting.run_pure,
    h.host, Stage.mark_eq_ok.mpr h.path, h.headers, h.query, h.body]
  rfl

/-- A request has all its parts. -/
theorem exists_makes {timeoutSecs : UInt64} {request : HttpRequest} {d' : Draft}
    (h : (p.draft ev index url timeoutSecs).run d = (.ok request, d')) :
    ∃ parts, p.Makes ev index url d.scope parts := by
  simp only [draft, Drafting.run_bind, Drafting.run_get, Drafting.run_lift, Drafting.run_modify] at h
  cases hhost : p.hostText ev index url d.scope with
  | error fault =>
    simp only [hhost] at h
    cases h
  | ok host =>
    cases hpath : Stage.request.mark (ev.renderText p.path d.scope index) with
    | error cause =>
      simp only [hhost, hpath] at h
      cases h
    | ok path =>
      cases hheaders : p.resolveHeaders ev index d.scope with
      | error fault =>
        simp only [hhost, hpath, hheaders] at h
        cases h
      | ok made =>
        cases hquery : p.resolveQuery ev index made.2 with
        | error fault =>
          simp only [hhost, hpath, hheaders, hquery] at h
          cases h
        | ok query =>
          cases hbody : p.resolveBody ev index made.2 with
          | error fault =>
            simp only [hhost, hpath, hheaders, hquery, hbody] at h
            cases h
          | ok body =>
            exact ⟨⟨host, path, made.1, query, body, made.2⟩, hhost, Stage.mark_eq_ok.mp hpath, hheaders, hquery, hbody⟩

end ApiParams

namespace Engine

variable {σ : Type} (e : Engine σ)

/-- The environment of the run, where some were looked up before. -/
def environmentOf (known : List (EnvId × Environment)) : Except RepositoryError Environment :=
  (known.lookup e.options.envId).elim (e.repository.environment e.options.envId) .ok

/-- The URL that a step is given for its host. -/
def urlOf (p : ApiParams) (known : List (EnvId × Environment)) : Except RepositoryError String :=
  if p.hostSource = .environment then (e.environmentOf known).map Environment.url else .ok ""

theorem run_environment (s : RunState σ) : (e.environment.run s).1 = .ok (e.environmentOf s.environments) := by
  unfold environment environmentOf
  simp only [Run.run_bind, Run.run_get]
  cases s.environments.lookup e.options.envId with
  | some env => rfl
  | none => cases e.repository.environment e.options.envId <;> rfl

theorem exists_run_environmentUrl (p : ApiParams) (s : RunState σ) :
    ∃ t, (e.environmentUrl p).run s = (.ok (e.urlOf p s.environments), t) ∧ s.Quiet t ∧ t.scope = s.scope := by
  unfold environmentUrl urlOf
  by_cases hsource : p.hostSource = .environment
  · obtain ⟨r, t, hrun, hquiet, hscope⟩ := e.environment_still s
    have hvalue : r = e.environmentOf s.environments := by
      simpa [hrun] using e.run_environment s
    rw [if_pos hsource, if_pos hsource, Run.run_bind_of_ok hrun, hvalue]
    exact ⟨t, rfl, hquiet, hscope⟩
  · rw [if_neg hsource, if_neg hsource]
    exact ⟨s, rfl, .refl s, rfl⟩

/-- The request of a step. -/
def requestOf (h : StepHead) (p : ApiParams) (parts : RequestParts) : HttpRequest :=
  p.request (Text.asciiUpper p.method) (h.timeoutSecs.getD e.config.defaultTimeoutSecs) parts

/-- A request is sent, and what comes back is judged. -/
def exchange (h : StepHead) (p : ApiParams) (label : String) (index : Option Nat) (parts : RequestParts) :
    Run σ Attempt := do
  let log := (RequestLog.ofMethod (Text.asciiUpper p.method)).made parts
  match ← e.send (e.requestOf h p parts) with
  | .error cause => return .failed (.http cause) (.api log)
  | .ok response => e.judge h p label index response log

end Engine

end Casebook
