import RiskReport.Program
import RiskReport.Scoring.Ranking
import RiskReport.Table

/-!
# The requests of a store

A store keeps sessions with their answers, reports with their result rows, and the payment events
that have been seen. `StoreCall` lists what can be asked of it and `StoreCall.Value` what each
request yields if it succeeds. A request that finds its work already done says so in its value
(`Attachment.alreadyAttached`, `ReportInit.alreadyExists`, `EventRecord.duplicate`); it is no
failure.
-/

namespace RiskReport

/-- Why a store refuses a request. -/
inductive StoreError where
  | notFound (what : String)
  /-- Transactions got into each other's way; the whole request may be repeated. -/
  | serialization (detail : String)
  | conflict (detail : String)
  | database (detail : String)
  /-- A row could not be written or read. -/
  | corrupt (detail : String)
  deriving DecidableEq, Repr, Inhabited

/-- The wording of a refusal. -/
def StoreError.message : StoreError → String
  | .notFound what => "not found: " ++ what
  | .serialization detail => "serialization failure: " ++ detail
  | .conflict detail => "conflict: " ++ detail
  | .database detail => "database error: " ++ detail
  | .corrupt detail => "corrupt data: " ++ detail

/-- An answer to be kept, with the score that the visitor was shown for it. -/
structure NewAnswer where
  session : SessionId
  question : String
  text : String
  preview : Option RiskScore
  deriving DecidableEq, Repr, Inhabited

/-- A payment intent to be attached to a session. -/
structure NewIntent where
  session : SessionId
  customerRef : Option String
  intent : String
  email : Option String
  deriving DecidableEq, Repr, Inhabited

/-- What became of a payment intent to be attached. -/
inductive Attachment where
  | attached (session : Session)
  /-- The session already has an intent, which it keeps. -/
  | alreadyAttached (session : Session)
  deriving DecidableEq, Repr, Inhabited

/-- The session after the request. -/
def Attachment.session : Attachment → Session
  | .attached s | .alreadyAttached s => s

/-- What became of a report to be begun. -/
inductive ReportInit where
  | created (report : Report)
  /-- The session already has a report; nothing was changed. -/
  | alreadyExists (report : Report)
  deriving DecidableEq, Repr, Inhabited

/-- The report of the session. -/
def ReportInit.report : ReportInit → Report
  | .created r | .alreadyExists r => r

/-- Whether a payment event is to be handled. -/
inductive EventRecord where
  | recorded
  /-- The event has been handled, or somebody is handling it. -/
  | duplicate
  deriving DecidableEq, Repr, Inhabited

/-- The results of a report, ready to be kept. -/
structure ScoredReport where
  report : ReportId
  risks : List ScoredRisk
  /-- Hedges written for this report, by question. -/
  hedges : Table String String
  executiveSummary : String
  topPriorityHtml : String
  deriving DecidableEq, Repr, Inhabited

namespace ScoredReport

/-- The hedge written for a question, unless it is blank. -/
def hedge? (s : ScoredReport) (question : String) : Option String :=
  (s.hedges.get? question).filter fun text => !Text.isBlankText text

/-- The hedges that apply: texts that are not blank, for questions that are known. -/
def applicableHedges (s : ScoredReport) (known : String → Bool) : List (String × String) :=
  s.hedges.pairs.filter fun (question, text) => !Text.isBlankText text && known question

/-- The mean score, as the report keeps it. -/
def overall (s : ScoredReport) : Int := overallScore s.risks

/-- The number of critical risks, as the report keeps it. -/
def critical (s : ScoredReport) : Int := criticalCount s.risks

/-- The risks as they are kept with the report. -/
def snapshot (s : ScoredReport) : Json := .array (s.risks.map ScoredRisk.toJson)

end ScoredReport

/-- A whole number kept in `bits` bits; one that is too large wraps around. -/
def narrow (bits n : Nat) : Int := Int.bmod n (Nat.pow 2 bits)

/-- The row in which a risk is kept, without a hedge of its own. -/
def ScoredRisk.row (r : ScoredRisk) (id : RiskResultId) (report : ReportId) : RiskResult where
  id := id
  reportId := report
  questionId := r.questionId
  rank := narrow 32 r.rank
  riskName := r.riskName
  riskDesc := r.riskDesc
  probability := r.probability
  impact := r.impact
  score := narrow 16 r.score
  tier := r.tier
  hedge := r.hedge
  aiHedge := none
  sectionTitle := r.sectionTitle

/-- How long a recorded event is left to whoever recorded it. Afterwards its handler is taken for
dead, and the event may be recorded again. -/
def eventLease : Duration := .ofSeconds 300

/-- A request to a store. -/
inductive StoreCall where
  | createSession (anonToken : String)
  | getSession (id : SessionId)
  | upsertAnswer (answer : NewAnswer)
  /-- The answers of a session in the order of the questionnaire. -/
  | answers (session : SessionId)
  /-- Attach a payment intent unless the session has one. -/
  | attachIntent (intent : NewIntent)
  | markPaymentFailed (intent : String)
  | markRefunded (intent : String)
  /-- Mark the session of an intent as paid and begin its report. -/
  | initialiseReport (intent : String)
  | getReport (id : ReportId)
  | reportByToken (token : String)
  /-- The result rows of a report by their rank. -/
  | riskResults (report : ReportId)
  /-- Keep the results of a report and make it ready; a report that is ready stays as it is. -/
  | persistReport (results : ScoredReport)
  /-- Give a report up, unless it is ready. -/
  | markReportFailed (id : ReportId) (reason : String)
  /-- The unfinished reports begun at a time or later, the oldest first. -/
  | pendingReports (since : Instant)
  /-- Claim a payment event. -/
  | recordEvent (id kind : String) (payload : Json)
  /-- Close a payment event, as handled or with an error. -/
  | completeEvent (id : String) (error : Option String)
  deriving DecidableEq, Repr, Inhabited

/-- What a request yields if it succeeds. -/
def StoreCall.Value : StoreCall → Type
  | .createSession _ => Session
  | .getSession _ => Option Session
  | .upsertAnswer _ => Unit
  | .answers _ => List AnswerRow
  | .attachIntent _ => Attachment
  | .markPaymentFailed _ => Unit
  | .markRefunded _ => Unit
  | .initialiseReport _ => ReportInit
  | .getReport _ => Option Report
  | .reportByToken _ => Option Report
  | .riskResults _ => List RiskResult
  | .persistReport _ => Report
  | .markReportFailed .. => Unit
  | .pendingReports _ => List ReportId
  | .recordEvent .. => EventRecord
  | .completeEvent .. => Unit

/-- The requests of a store and their answers. -/
def storeInterface : Interface where
  Call := StoreCall
  Answer call := Except StoreError call.Value

end RiskReport
