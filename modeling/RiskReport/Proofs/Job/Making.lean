import RiskReport.Access
import RiskReport.Job.Report
import RiskReport.Proofs.Program
import RiskReport.Proofs.Store.Lookup

/-!
# How a report is made and read

A service that works on a store in memory is answered by the store and by its collaborators, which
may succeed or fail in any way (`Surroundings`). This module follows the two services that make and
read a report through to their ends: making an unfinished report whose answers can be ranked leaves
it finished with what was written for it (`makeReport_outcome`), and reading a finished report shows
its rows (`fetchReport_outcome`). Neither depends on whether the visitor could be told.
-/

namespace RiskReport

open Program

/-- Whatever a service works with besides the store, and what the store takes from outside for each
request. -/
structure Surroundings where
  supply : StoreCall → Supply
  hedge : List ScoredRisk → Except HedgeError HedgeResult
  mail : Mail → Except MailError Unit
  enqueue : ReportId → Except EnqueueError Unit
  createPayment : NewPayment → Except PaymentError PaymentIntent
  clientSecret : String → Except PaymentError String

namespace Surroundings

/-- Answer a request of a service. -/
def answer (c : Surroundings) : (call : services.Call) → Memory → services.Answer call × Memory
  | .store call, m => m.answer (c.supply call) call
  | .hedge risks, m => (c.hedge risks, m)
  | .mail message, m => (c.mail message, m)
  | .enqueue report, m => (c.enqueue report, m)
  | .createPayment payment, m => (c.createPayment payment, m)
  | .clientSecret intent, m => (c.clientSecret intent, m)

/-- The texts written for some risks: none if there is no risk, or if writing them fails. -/
def written (c : Surroundings) (risks : List ScoredRisk) : HedgeResult :=
  if risks = [] then .nothing
  else
    match c.hedge risks with
    | .ok result => result
    | .error _ => .nothing

end Surroundings

variable {c : Surroundings} {m m' : Memory} {settings : JobSettings}

@[simp] theorem outcome_store (call : StoreCall) :
    (Service.store call).outcome c.answer m = m.answer (c.supply call) call :=
  outcome_request _ m

@[simp] theorem outcome_hedge (risks : List ScoredRisk) :
    (Service.hedge risks).outcome c.answer m = (c.hedge risks, m) :=
  outcome_request _ m

@[simp] theorem outcome_mail (message : Mail) :
    (Service.mail message).outcome c.answer m = (c.mail message, m) :=
  outcome_request _ m

@[simp] theorem outcome_jobLog (level : Log.Level) (message : String) (fields : Log.Fields) :
    (jobLog level message fields).outcome c.answer m = ((), m) :=
  outcome_report _ m

/-! ## Requests that only read -/

section

variable {supply : Supply}

@[simp] theorem answer_getSession (id : SessionId) :
    m.answer supply (.getSession id) = (.ok (m.sessions.get? id), m) := rfl

@[simp] theorem answer_answers (session : SessionId) :
    m.answer supply (.answers session) = (.ok (m.answersOf session), m) := rfl

@[simp] theorem answer_getReport (id : ReportId) :
    m.answer supply (.getReport id) = (.ok (m.reports.get? id), m) := rfl

@[simp] theorem answer_reportByToken (token : String) :
    m.answer supply (.reportByToken token) = (.ok (m.reportByToken token), m) := rfl

@[simp] theorem answer_riskResults (report : ReportId) :
    m.answer supply (.riskResults report) = (.ok (m.riskResults report), m) := rfl

end

/-! ## Making a report -/

theorem hedgesFor_outcome (risks : List ScoredRisk) :
    (hedgesFor settings risks).outcome c.answer m = (c.written risks, m) := by
  unfold hedgesFor Surroundings.written
  cases risks with
  | nil => rfl
  | cons r risks =>
    simp only [List.isEmpty_cons, reduceCtorEq, if_false, Bool.false_eq_true, bind_eq, outcome_bind,
      outcome_hedge]
    cases c.hedge (r :: risks) <;> rfl

/-- Telling the visitor changes nothing, whether it succeeds or not. -/
theorem announce_outcome (id : SessionId) (token : AccessToken) :
    (announce id token).outcome c.answer m = ((), m) := by
  unfold announce
  simp only [bind_eq, outcome_bind, outcome_store, answer_getSession]
  cases m.sessions.get? id with
  | none => rfl
  | some session =>
    dsimp only
    cases session.email.bind Text.trimmed? with
    | none => rfl
    | some recipient =>
      simp only [outcome_bind, outcome_mail]
      generalize c.mail _ = sent
      rcases sent with e | ⟨⟩ <;> rfl

theorem publish_outcome {session : SessionId} {results : ScoredReport} {r : Report}
    (h : m.answer (c.supply (.persistReport results)) (.persistReport results) = (.ok r, m')) :
    (publish session results).outcome c.answer m = (.ok (), m') := by
  unfold publish
  simp only [bind_eq, outcome_bind, outcome_store, h, outcome_jobLog, announce_outcome, pure_eq,
    outcome_done]

/-- The results of some risks of a report, with what was written for them. -/
def Surroundings.results (c : Surroundings) (id : ReportId) (risks : List ScoredRisk) :
    ScoredReport :=
  let hedges := c.written (ofTiers risks hedgedTiers)
  { report := id, risks, hedges := hedges.hedges, executiveSummary := hedges.executiveSummary,
    topPriorityHtml := hedges.topPriorityHtml }

/-- The store with some results kept. -/
def Memory.withResults (m : Memory) (supply : Supply) (r : Report) (p : ScoredReport) : Memory :=
  { m.insertReport (finished r p supply.now) with results := m.results.insert r.id (p.rows supply) }

/-- Whether the results of an unfinished report are kept is up to their rows. -/
theorem answer_persistReport_eq {supply : Supply} {p : ScoredReport} {r : Report}
    (found : m.reports.get? p.report = some r) (unfinished : r.status.isTerminal = false) :
    m.answer supply (.persistReport p) =
      match Memory.resultRows supply p with
      | .error e => (.error e, m)
      | .ok _ => (.ok (Memory.finished r p supply.now), m.withResults supply r p) := by
  simp only [Memory.answer, Memory.respond, Memory.persistReport_of_unfinished found unfinished]
  cases hrows : Memory.resultRows supply p with
  | error e => rfl
  | ok rows =>
    obtain ⟨-, rfl⟩ := (Memory.resultRows_eq_ok rows).1 hrows
    rfl

/-- The results of an unfinished report are kept, if no question has two. -/
theorem answer_persistReport {supply : Supply} {p : ScoredReport} {r : Report}
    (found : m.reports.get? p.report = some r) (unfinished : r.status.isTerminal = false)
    (distinct : (p.risks.map (·.questionId)).Nodup) :
    m.answer supply (.persistReport p) =
      (.ok (Memory.finished r p supply.now), m.withResults supply r p) := by
  rw [answer_persistReport_eq found unfinished,
    (Memory.resultRows_eq_ok _).2 ⟨distinct, rfl⟩]

/-- Results that are refused are not told of. -/
theorem publish_refused {session : SessionId} {results : ScoredReport} {e : StoreError}
    (h : m.answer (c.supply (.persistReport results)) (.persistReport results) = (.error e, m')) :
    (publish session results).outcome c.answer m = (.error (.store e), m') := by
  unfold publish
  simp only [bind_eq, outcome_bind, outcome_store, h, pure_eq, outcome_done]

/-- Answers that can be ranked are published with what was written for them. -/
theorem assess_ranked {id : ReportId} {rows : List AnswerRow} {risks : List ScoredRisk}
    (ranking : settings.thresholds.rank rows = .ok risks) (session : SessionId) :
    (assess settings id session rows).outcome c.answer m =
      (publish session (c.results id risks)).outcome c.answer m := by
  unfold assess
  simp only [ranking, bind_eq, outcome_bind, outcome_jobLog, hedgesFor_outcome]
  rfl

/-- Answers that cannot be ranked are not published. -/
theorem assess_unranked {id : ReportId} {rows : List AnswerRow} {e : QuestionError}
    (ranking : settings.thresholds.rank rows = .error e) (session : SessionId) :
    (assess settings id session rows).outcome c.answer m = (.error (.scoring e), m) := by
  unfold assess
  simp only [ranking, pure_eq, outcome_done]

theorem makeReport_missing {id : ReportId} (missing : m.reports.get? id = none) :
    (makeReport settings id).outcome c.answer m = (.error (.reportNotFound id), m) := by
  rw [makeReport, outcome_within]
  simp only [bind_eq, outcome_bind, outcome_store, answer_getReport, missing, pure_eq, outcome_done]

theorem makeReport_finished {id : ReportId} {r : Report} (found : m.reports.get? id = some r)
    (finished : r.status.isTerminal = true) :
    (makeReport settings id).outcome c.answer m = (.ok (), m) := by
  rw [makeReport, outcome_within]
  simp only [bind_eq, outcome_bind, outcome_store, answer_getReport, found, finished, if_true,
    outcome_jobLog, pure_eq, outcome_done]

theorem makeReport_unanswered {id : ReportId} {r : Report} (found : m.reports.get? id = some r)
    (unfinished : r.status.isTerminal = false) (unanswered : m.answersOf r.sessionId = []) :
    (makeReport settings id).outcome c.answer m = (.error (.noAnswers r.sessionId), m) := by
  rw [makeReport, outcome_within]
  simp only [bind_eq, outcome_bind, outcome_store, answer_getReport, found, unfinished,
    Bool.false_eq_true, if_false, answer_answers, unanswered, pure_eq, outcome_done]

/-- The answers to an unfinished report are assessed, if there are any. -/
theorem makeReport_unfinished {id : ReportId} {r : Report} (found : m.reports.get? id = some r)
    (unfinished : r.status.isTerminal = false) (answered : m.answersOf r.sessionId ≠ []) :
    (makeReport settings id).outcome c.answer m =
      (assess settings id r.sessionId (m.answersOf r.sessionId)).outcome c.answer m := by
  rw [makeReport, outcome_within]
  simp only [bind_eq, outcome_bind, outcome_store, answer_getReport, found, unfinished,
    Bool.false_eq_true, if_false, pure_eq, answer_answers]
  cases hrows : m.answersOf r.sessionId with
  | nil => exact absurd hrows answered
  | cons row rows => simp only [outcome_bind, outcome_jobLog]

/-- Making an unfinished report whose answers can be ranked leaves it finished. -/
theorem makeReport_outcome {id : ReportId} {r : Report} {risks : List ScoredRisk}
    (found : m.reports.get? id = some r) (unfinished : r.status.isTerminal = false)
    (answered : m.answersOf r.sessionId ≠ [])
    (ranking : settings.thresholds.rank (m.answersOf r.sessionId) = .ok risks)
    (distinct : (risks.map (·.questionId)).Nodup) :
    ∃ supply, (makeReport settings id).outcome c.answer m =
      (.ok (), m.withResults supply r (c.results id risks)) := by
  refine ⟨c.supply (.persistReport (c.results id risks)), ?_⟩
  rw [makeReport_unfinished found unfinished answered, assess_ranked ranking]
  exact publish_outcome (answer_persistReport found unfinished distinct)

/-! ## Reading a report -/

/-- What a reader sees of a report. -/
def Memory.shown (m : Memory) (r : Report) : ReportAccess :=
  if r.status = .ready then .ready (r.view (m.riskResults r.id) (m.sessions.get? r.sessionId))
  else .pending r.status

/-- The report that a token opens; blanks around the token do not count. -/
def Memory.opened? (m : Memory) (token : String) : Option Report :=
  if (Text.trim token).isEmpty then none else m.reportByToken (Text.trim token)

/-- What the holder of a token sees. -/
def Memory.access (m : Memory) (token : String) : ReportAccess :=
  ((m.opened? token).map m.shown).getD .notFound

/-- Reading a report shows what its token opens, and changes nothing. -/
theorem fetchReport_access (token : String) :
    (fetchReport token).outcome c.answer m = (.ok (m.access token), m) := by
  rw [fetchReport, outcome_traced]
  unfold lookupReport Memory.access Memory.opened?
  split_ifs with hblank
  · rfl
  · simp only [bind_eq, outcome_bind, outcome_store, answer_reportByToken]
    cases m.reportByToken (Text.trim token) with
    | none => rfl
    | some r =>
      simp only [Option.map_some, Option.getD_some, Memory.shown]
      by_cases hready : r.status = .ready
      · simp only [hready, ne_eq, not_true_eq_false, if_false, if_true, outcome_bind, outcome_store,
          answer_riskResults, answer_getSession, pure_eq, outcome_done]
      · simp only [hready, ne_eq, not_false_eq_true, if_true, if_false, pure_eq, outcome_done]

/-- Reading a ready report shows its rows. -/
theorem fetchReport_outcome {token : AccessToken} {r : Report} (urlSafe : token.UrlSafe)
    (found : m.reportByToken token.text = some r) (ready : r.status = .ready) :
    (fetchReport token.text).outcome c.answer m =
      (.ok (.ready (r.view (m.riskResults r.id) (m.sessions.get? r.sessionId))), m) := by
  rw [fetchReport_access, Memory.access, Memory.opened?, urlSafe.trim_eq, urlSafe.isEmpty_eq]
  simp only [Bool.false_eq_true, if_false, found, Option.map_some, Option.getD_some, Memory.shown,
    ready, if_true]

end RiskReport
