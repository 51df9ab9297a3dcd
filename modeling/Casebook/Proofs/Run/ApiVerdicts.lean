import Casebook.Proofs.Assertion.Reporting
import Casebook.Proofs.Run.Alterations

/-! When attempts at api steps pass.  One sends its request once all of it is resolved, and passes where nothing that it
makes of the response fails: the status, what it captures, what it expects and the rules of the step. -/
namespace Casebook

/-! ### Responses -/

/-- A response as rules look at it. -/
def HttpResponse.view (r : HttpResponse) : ResponseView := ⟨r.status, r.headers, r.document⟩

theorem HttpResponse.isSuccess_iff {r : HttpResponse} : r.isSuccess = true ↔ 200 ≤ r.status ∧ r.status ≤ 299 := by
  have hlt : r.status < 300 ↔ r.status ≤ 299 := by
    rw [UInt16.lt_iff_toNat_lt, UInt16.le_iff_toNat_le]
    exact Nat.lt_succ_iff
  simp [isSuccess, hlt]

/-! ### Verdicts -/

namespace ApiParams

variable (p : ApiParams) (ev : Evaluator) (label : String) (index : Option Nat) (rules : List AssertionRule)
  (response : HttpResponse) (scope : Scope)

/-- What a step captures from a response, and the scope that it leaves. -/
def captured : Except StepFault Json.Members × Scope :=
  ev.capture index p.outputs label response.document response.headerDocument scope

/-- What comes of the expectations of a step, in view of what it captured before. -/
def expected : Except StepFault Unit :=
  ev.expects index p.expectations response.document response.headerDocument
    (p.captured ev label index response scope).2

/-- What there is to say against a response.  A failed expectation hides what capturing said; failed rules are put
before either. -/
def verdict : Option String :=
  let message := (failure? (p.expected ev label index response scope)).or
    (failure? (p.captured ev label index response scope).1)
  let report := AssertionReport.ofRules response.view rules
  if report.passed then message else some ("[Assert] " ++ report.summary ++ (message.map ("\n" ++ ·)).getD "")

/-- A response meets all that a step asks of it. -/
structure Approves : Prop where
  status : 200 ≤ response.status ∧ response.status ≤ 299
  captures : ∃ ms, (p.captured ev label index response scope).1 = .ok ms
  expects : p.expected ev label index response scope = .ok ()
  asserts : ∀ rule ∈ rules, rule.enabled = true → (rule.evaluate response.view).passed = true

theorem failure?_eq_none {α : Type} {r : Except StepFault α} : failure? r = none ↔ ∃ a, r = .ok a := by
  cases r <;> simp [failure?]

/-- No failure is lost: a response against which nothing is said has passed every check. -/
theorem verdict_eq_none : p.verdict ev label index rules response scope = none ↔
    (∃ ms, (p.captured ev label index response scope).1 = .ok ms) ∧
      p.expected ev label index response scope = .ok () ∧
      ∀ rule ∈ rules, rule.enabled = true → (rule.evaluate response.view).passed = true := by
  have hexpected : failure? (p.expected ev label index response scope) = none ↔
      p.expected ev label index response scope = .ok () := by
    rw [failure?_eq_none]
    exact ⟨fun ⟨a, h⟩ => h, fun h => ⟨(), h⟩⟩
  unfold verdict
  by_cases hpassed : (AssertionReport.ofRules response.view rules).passed = true
  · have hrules := AssertionReport.passed_ofRules.mp hpassed
    simp only [hpassed, if_true, Option.or_eq_none_iff, hexpected, failure?_eq_none]
    exact ⟨fun h => ⟨h.2, h.1, hrules⟩, fun h => ⟨h.2.1, h.1⟩⟩
  · have hrules := mt AssertionReport.passed_ofRules.mpr hpassed
    simp only [hpassed, Bool.false_eq_true, if_false, reduceCtorEq, false_iff]
    exact fun h => hrules h.2.2

theorem judge_ok (log : RequestLog) :
    p.judge ev label index (.ok rules) response log scope =
      ⟨p.verdict ev label index rules response scope,
        { log.answered response with
          outputs := (p.captured ev label index response scope).1.toOption.getD []
          assertions := (AssertionRule.active rules).map fun rule => rule.evaluate response.view },
        (p.captured ev label index response scope).2⟩ := by
  unfold judge verdict
  dsimp only
  split
  case isTrue hpassed =>
    rw [if_pos (show (AssertionReport.ofRules response.view rules).passed = true from hpassed)]
    rfl
  case isFalse hfailed =>
    rw [if_neg (show ¬(AssertionReport.ofRules response.view rules).passed = true from hfailed)]
    rfl

end ApiParams

/-! ### Attempts -/

namespace Engine

variable {σ : Type} (e : Engine σ) (h : StepHead) (p : ApiParams) (label : String) (index : Option Nat)

/-- What the transport answers to the request of a step. -/
def answerTo (parts : RequestParts) (w : σ) : Option (Except HttpError HttpResponse) :=
  (e.transport.http (e.requestOf h p parts) w).1.answer

variable {e p label index} in
theorem Resolves.unique {s : RunState σ} {parts parts' : RequestParts} (h : e.Resolves p label index s parts)
    (h' : e.Resolves p label index s parts') : parts = parts' := h.makes.unique h'.makes

theorem exists_run_exchange (parts : RequestParts) (u : RunState σ) :
    ∃ w, u.Dealt e.transport [.http (e.requestOf h p parts) (e.answerTo h p parts u.world)] w ∧ w.scope = u.scope ∧
      (e.exchange h p label index parts).run u = match e.answerTo h p parts u.world with
        | none => (.error .panic, w)
        | some (.error cause) =>
          (.ok (.failed (.http cause) (.api ((RequestLog.ofMethod (Text.asciiUpper p.method)).made parts))), w)
        | some (.ok response) => (e.judge h p label index response
            ((RequestLog.ofMethod (Text.asciiUpper p.method)).made parts)).run w := by
  refine ⟨_, .call u (.http (e.requestOf h p parts) u.world), rfl, ?_⟩
  unfold exchange send answerTo
  dsimp only
  rw [Run.run_bind, Run.run_bind, Run.run_call]
  dsimp only
  rcases (e.transport.http (e.requestOf h p parts) u.world).1.answer with _ | ⟨cause | response⟩ <;> rfl

theorem run_judge (response : HttpResponse) (log : RequestLog) (w : RunState σ) :
    (e.judge h p label index response log).run w =
      if response.isSuccess then
        let j := p.judge e.ev label index (e.repository.rules h.id) response log w.scope
        (.ok ⟨j.message.isNone, j.message, some (.api j.log)⟩, { w with scope := j.scope })
      else (.ok (.failed (.status response.status) (.api (log.answered response))), w) := by
  unfold judge
  split <;> rfl

/-- What an attempt at an api step does.  It sends one request if it can resolve all of it, and else none; it passes
just if the response to that meets all that the step asks; every response with a good status is held against all of
that, the expectations in the scope that capturing left, whether that went well or not; and without one nothing is
captured. -/
structure Tries (rules : List AssertionRule) (s : RunState σ) : Prop where
  sent : ∀ parts, e.Resolves p label index s parts →
    s.Dealt e.transport [.http (e.requestOf h p parts) (e.answerTo h p parts s.world)]
      ((e.api h p label index).run s).2
  unsent : (∀ parts, ¬e.Resolves p label index s parts) → s.Dealt e.transport [] ((e.api h p label index).run s).2
  ends : (∃ a, ((e.api h p label index).run s).1 = .ok a) ∨
    ((e.api h p label index).run s).1 = .error .panic ∧
      ∃ parts, e.Resolves p label index s parts ∧ e.answerTo h p parts s.world = none
  passes : (∃ a, ((e.api h p label index).run s).1 = .ok a ∧ a.status = .success) ↔
    ∃ parts response, e.Resolves p label index s parts ∧ e.answerTo h p parts s.world = some (.ok response) ∧
      p.Approves e.ev label index rules response parts.scope
  judged : ∀ parts response, e.Resolves p label index s parts →
    e.answerTo h p parts s.world = some (.ok response) → 200 ≤ response.status → response.status ≤ 299 →
    ∃ log, ((e.api h p label index).run s).1 =
        .ok ⟨(p.verdict e.ev label index rules response parts.scope).isNone,
          p.verdict e.ev label index rules response parts.scope, some (.api log)⟩ ∧
      log.assertions = (AssertionRule.active rules).map (fun rule => rule.evaluate response.view) ∧
      ((e.api h p label index).run s).2.scope = (p.captured e.ev label index response parts.scope).2
  unkept : (∀ parts response, e.Resolves p label index s parts →
      e.answerTo h p parts s.world = some (.ok response) → ¬(200 ≤ response.status ∧ response.status ≤ 299)) →
    ((e.api h p label index).run s).2.scope = s.scope.after (e.opening p label index s)

variable {e h p label index} {rules : List AssertionRule} {s t : RunState σ}

/-- An attempt that is not sent fails for what could not be resolved. -/
theorem tries_of_unresolved {fault : StepFault} {log : RequestLog} (hnone : ∀ parts, ¬e.Resolves p label index s parts)
    (hrun : (e.api h p label index).run s = (.ok (.failed fault (.api log)), t)) (hquiet : s.Quiet t)
    (hopened : t.scope = s.scope.after (e.opening p label index s)) : e.Tries h p label index rules s where
  sent parts hparts := absurd hparts (hnone parts)
  unsent _ := hrun ▸ .quiet hquiet
  ends := .inl ⟨_, congrArg Prod.fst hrun⟩
  passes := by
    rw [hrun]
    refine iff_of_false ?_ fun ⟨parts, response, hparts, _⟩ => hnone parts hparts
    rintro ⟨a, ha, hstatus⟩
    cases ha
    cases hstatus
  judged parts _ hparts := absurd hparts (hnone parts)
  unkept _ := hrun ▸ hopened

/-- An attempt that is sent without coming to a response with a good status does not pass. -/
theorem tries_of_unanswered {parts : RequestParts} {outcome : Except Abort Attempt}
    (hparts : e.Resolves p label index s parts) (hrun : (e.api h p label index).run s = (outcome, t))
    (hdealt : s.Dealt e.transport [.http (e.requestOf h p parts) (e.answerTo h p parts s.world)] t)
    (hopened : t.scope = s.scope.after (e.opening p label index s))
    (houtcome : (∃ a, outcome = .ok a ∧ a.passed = false) ∨
      outcome = .error .panic ∧ e.answerTo h p parts s.world = none)
    (hbad : ∀ response, e.answerTo h p parts s.world = some (.ok response) →
      ¬(200 ≤ response.status ∧ response.status ≤ 299)) : e.Tries h p label index rules s where
  sent parts' hparts' := by
    rw [hparts'.unique hparts, hrun]
    exact hdealt
  unsent hnone := absurd hparts (hnone parts)
  ends := by
    rw [hrun]
    rcases houtcome with ⟨a, ha, -⟩ | ⟨hpanic, hanswer⟩
    · exact .inl ⟨a, ha⟩
    · exact .inr ⟨hpanic, parts, hparts, hanswer⟩
  passes := by
    rw [hrun]
    refine iff_of_false ?_ ?_
    · rintro ⟨a, ha, hstatus⟩
      rcases houtcome with ⟨a', ha', hfailed⟩ | ⟨hpanic, -⟩
      · cases ha.symm.trans ha'
        simp [Attempt.status, hfailed] at hstatus
      · cases ha.symm.trans hpanic
    · rintro ⟨parts', response, hparts', hanswer, happroves⟩
      rw [hparts'.unique hparts] at hanswer
      exact hbad response hanswer happroves.status
  judged parts' response hparts' hanswer hlow hhigh := by
    rw [hparts'.unique hparts] at hanswer
    exact absurd ⟨hlow, hhigh⟩ (hbad response hanswer)
  unkept _ := hrun ▸ hopened

/-- An attempt with a response of a good status passes just if the response is approved. -/
theorem tries_of_judged {parts : RequestParts} {response : HttpResponse} {log : RequestLog}
    (hparts : e.Resolves p label index s parts) (hanswer : e.answerTo h p parts s.world = some (.ok response))
    (hstatus : 200 ≤ response.status ∧ response.status ≤ 299)
    (hrun : (e.api h p label index).run s =
      (.ok ⟨(p.verdict e.ev label index rules response parts.scope).isNone,
        p.verdict e.ev label index rules response parts.scope, some (.api log)⟩, t))
    (hassertions : log.assertions = (AssertionRule.active rules).map fun rule => rule.evaluate response.view)
    (hdealt : s.Dealt e.transport [.http (e.requestOf h p parts) (e.answerTo h p parts s.world)] t)
    (hcaptured : t.scope = (p.captured e.ev label index response parts.scope).2) :
    e.Tries h p label index rules s where
  sent parts' hparts' := by
    rw [hparts'.unique hparts, hrun]
    exact hdealt
  unsent hnone := absurd hparts (hnone parts)
  ends := .inl ⟨_, congrArg Prod.fst hrun⟩
  passes := by
    have hverdict := p.verdict_eq_none e.ev label index rules response parts.scope
    rw [hrun]
    constructor
    · rintro ⟨a, ha, hpassed⟩
      cases ha
      have hnone : p.verdict e.ev label index rules response parts.scope = none := by
        simpa [Attempt.status] using hpassed
      obtain ⟨hcaptures, hexpects, hasserts⟩ := hverdict.mp hnone
      exact ⟨parts, response, hparts, hanswer, hstatus, hcaptures, hexpects, hasserts⟩
    · rintro ⟨parts', response', hparts', hanswer', happroves⟩
      rw [hparts'.unique hparts] at hanswer' happroves
      cases hanswer.symm.trans hanswer'
      have hnone := hverdict.mpr ⟨happroves.captures, happroves.expects, happroves.asserts⟩
      exact ⟨_, rfl, by simp [Attempt.status, hnone]⟩
  judged parts' response' hparts' hanswer' _ _ := by
    rw [hparts'.unique hparts] at hanswer' ⊢
    cases hanswer.symm.trans hanswer'
    rw [hrun]
    exact ⟨log, rfl, hassertions, hcaptured⟩
  unkept hbad := absurd hstatus (hbad parts response hparts hanswer)

/-- Whatever the scope, the index and the answer of the transport, an attempt at an api step passes on approval only. -/
theorem api_attempts_need_approval (e : Engine σ) {h : StepHead} {rules : List AssertionRule}
    (hrules : e.repository.rules h.id = .ok rules) (p : ApiParams) (label : String) (index : Option Nat)
    (s : RunState σ) : e.Tries h p label index rules s := by
  obtain ⟨u, hquiet, hopened, hrun⟩ := e.exists_run_opening h p label index s
  rcases hrun with ⟨parts, hparts, hscope, hrun⟩ | ⟨hnone, fault, log, hrun⟩
  · obtain ⟨w, hdealt, hkept, hexchange⟩ := e.exists_run_exchange h p label index parts u
    rw [← hrun, hquiet.world] at hexchange
    rw [hquiet.world] at hdealt
    have hsent := hdealt.afterQuiet hquiet
    have hleft : w.scope = s.scope.after (e.opening p label index s) := hkept.trans hopened
    rcases hanswer : e.answerTo h p parts s.world with _ | ⟨cause | response⟩ <;> rw [hanswer] at hexchange
    · exact tries_of_unanswered hparts hexchange hsent hleft (.inr ⟨rfl, hanswer⟩) fun response hok => by
        cases hanswer.symm.trans hok
    · refine tries_of_unanswered hparts hexchange hsent hleft (.inl ⟨_, rfl, rfl⟩) fun response hok => by
        cases hanswer.symm.trans hok
    · dsimp only at hexchange
      rw [run_judge, hrules] at hexchange
      by_cases hstatus : 200 ≤ response.status ∧ response.status ≤ 299
      · rw [if_pos (HttpResponse.isSuccess_iff.mpr hstatus), p.judge_ok, hkept, hscope] at hexchange
        exact tries_of_judged hparts hanswer hstatus hexchange rfl (hsent.quietly ⟨rfl, rfl, rfl, rfl, rfl⟩) rfl
      · rw [if_neg (mt HttpResponse.isSuccess_iff.mp hstatus)] at hexchange
        refine tries_of_unanswered hparts hexchange hsent hleft (.inl ⟨_, rfl, rfl⟩) fun response' hok => ?_
        cases hanswer.symm.trans hok
        exact hstatus
  · exact tries_of_unresolved hnone hrun hquiet hopened

/-! ### A server that is up -/

def healthHead : StepHead := ⟨1, "health", 0, true, .default, none⟩

def healthParams : ApiParams :=
  { ApiParams.new "GET" "/health" with
    outputs := some (.table [⟨"up", "up", .body⟩])
    expectations := some (.table [⟨"up", .bool true, .boolean, .equal⟩]) }

/-- The second rule would fail, and is disabled. -/
def healthRules : List AssertionRule :=
  [⟨1, 1, .statusCode, "", .eq, .ofNat 200, true⟩, ⟨2, 1, .statusCode, "", .eq, .ofNat 500, false⟩]

def healthEngine : Engine Unit where
  ev := Template.evaluator
  repository := .ofSuite { Suite.empty with assertions := healthRules }
  transport := { unasked with http _ _ := (.quiet (some (.ok ⟨200, [], "\x7b\"up\":true\x7d", ⟨0, 0⟩⟩)), ()) }
  config := .default
  options := ⟨1, false, false⟩
  patience := 0

theorem health_attempt_is_approved :
    let attempt := (healthEngine.api healthHead healthParams "health" none).run (.start .empty false ())
    attempt.1.toOption.map Attempt.status = some .success ∧ attempt.2.scope.vars.map Prod.fst = ["up"] ∧
      healthEngine.Tries healthHead healthParams "health" none healthRules (.start .empty false ()) :=
  ⟨by decide +kernel, by decide +kernel,
    api_attempts_need_approval healthEngine rfl healthParams "health" none (.start .empty false ())⟩

end Engine

end Casebook
