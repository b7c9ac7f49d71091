import RiskReport.Database.Transaction

/-!
# The store in the database

`Database.serve` answers each request to a store by a dialogue with the database. Requests of
several statements are transactions, which are tried again when they get into the way of others:
a second try finds what the winner left and comes to the same end as a request that came late.
-/

namespace RiskReport.Database

open Log

/-! ## Single statements -/

/-- Begin a session. -/
def createSession (anonToken : String) : Dialogue Session := do
  let id ← mintId
  findOne "create_session" (.insertSession ⟨id⟩ anonToken) sessionOfRow

/-- Change the payment status of the session of an intent. -/
def setPaymentStatus (operation intent : String) (status : PaymentStatus) : Dialogue Unit := do
  if (← change operation (.setPaymentStatus intent status)) = 0 then
    throw (.notFound ("session for payment intent " ++ intent))

/-- Claim a payment event; an event that may not be claimed changes no row. -/
def recordEvent (id kind : String) (payload : Json) : Dialogue EventRecord := do
  if (← change "record_payment_event" (.claimEvent id kind payload)) = 0 then
    return .duplicate
  return .recorded

/-- Close a payment event. -/
def completeEvent (id : String) (error : Option String) : Dialogue Unit := do
  if (← change "complete_payment_event" (.closeEvent id error)) = 0 then
    throw (.notFound ("payment event " ++ id))

/-! ## Transactions -/

/-- Attach a payment intent, unless the session has one. -/
def attachWork (p : NewIntent) : Dialogue (Ending Attachment) := do
  match ← find? "select_session" (.selectSession p.session) sessionOfRow with
  | none => throw (.notFound ("session " ++ p.session.write))
  | some session =>
    if session.attachedIntent?.isSome then
      return .discard (.ok (.alreadyAttached session))
    else
      let session ← findOne "attach_payment_intent" (.attachIntent p) sessionOfRow
      return .keep (.attached session)

/-- The meaning of a report that could not be inserted: if somebody else inserted one, the
transaction is to be tried again. -/
def insertRefusal (session : SessionId) (f : Failure) : StoreError :=
  if f.isDuplicate then
    .serialization ("concurrent report creation for session " ++ session.write)
  else f.storeError "insert_report"

/-- Mark the session of an intent as paid and begin its report, unless it has one. -/
def initialiseWork (intent : String) : Dialogue (Ending ReportInit) := do
  match ← find? "mark_session_paid" (.markPaid intent) sessionIdOfRow with
  | none => throw (.notFound ("session for payment intent " ++ intent))
  | some session =>
    match ← find? "select_report" (.selectReportOfSession session) reportOfRow with
    | some report => return .discard (.ok (.alreadyExists report))
    | none =>
      let id ← mintId
      let token ← mintToken
      let report ←
        findOneOr (insertRefusal session) (.insertReport ⟨id⟩ session token) reportOfRow
      return .keep (.created report)

/-- The meaning of a result row that could not be inserted. -/
def resultRefusal (question : String) (f : Failure) : StoreError :=
  if f.isDuplicate then .conflict ("duplicate risk result for question " ++ question)
  else f.storeError "insert_risk_result"

/-- Keep the rows of a report; yields the row of each question, of several the last. -/
def insertResults (report : ReportId) :
    (rows : Table String RiskResultId) → List ScoredRisk → Dialogue (Table String RiskResultId)
  | rows, [] => return rows
  | rows, risk :: rest => do
    let id : RiskResultId := ⟨← mintId⟩
    let _ ← askOr (resultRefusal risk.questionId) (.insertResult (risk.row id report))
    insertResults report (rows.insert risk.questionId id) rest

/-- The hedges that apply, with the rows of their questions. -/
def hedgesToSet (rows : Table String RiskResultId) (results : ScoredReport) :
    List (RiskResultId × String) :=
  (results.applicableHedges rows.contains).filterMap fun (question, text) =>
    (rows.get? question).map (·, text)

/-- Put hedges into their rows. -/
def setHedges : List (RiskResultId × String) → Dialogue Unit
  | [] => return ()
  | (row, text) :: rest => do
    let _ ← ask "set_ai_hedge" (.setHedge row text)
    setHedges rest

/-- What comes of results for a report that is finished already. -/
def finishedBefore (report : Report) : Except StoreError Report :=
  if report.status = .ready then .ok report
  else
    .error (.conflict
      ("report " ++ report.id.write ++ " is already in " ++ report.status.text ++ " status"))

/-- Keep the results of a report and make it ready, unless it is finished. -/
def persistWork (results : ScoredReport) : Dialogue (Ending Report) := do
  match ← find? "select_report" (.selectReport results.report) reportOfRow with
  | none => throw (.notFound ("report " ++ results.report.write))
  | some current =>
    if current.status.isTerminal then return .discard (finishedBefore current)
    else
      let _ ← ask "set_report_processing" (.startProcessing results.report)
      let rows ← insertResults results.report .empty results.risks
      setHedges (hedgesToSet rows results)
      let report ← findOne "finalize_report"
        (.finishReport results.report results.overall results.critical
          results.executiveSummary results.topPriorityHtml results.snapshot) reportOfRow
      return .keep report

/-! ## Requests -/

/-- Answer a request by a dialogue, or by a transaction. -/
def answer : (call : StoreCall) → Asking (Except StoreError call.Value)
  | .createSession token => (createSession token).run
  | .getSession id => (find? "get_session" (.selectSession id) sessionOfRow).run
  | .upsertAnswer a => (discard (change "upsert_answer" (.upsertAnswer a)) : Dialogue Unit).run
  | .answers session =>
    (findAll "answers_for_session" (.selectAnswers session) answerOfRow).run
  | .attachIntent p => retrying "attach_payment_intent" (attachWork p)
  | .markPaymentFailed intent =>
    (setPaymentStatus "mark_session_payment_failed" intent .failed).run
  | .markRefunded intent => (setPaymentStatus "mark_session_refunded" intent .refunded).run
  | .initialiseReport intent => retrying "initialise_report" (initialiseWork intent)
  | .getReport id => (find? "get_report" (.selectReport id) reportOfRow).run
  | .reportByToken token =>
    (find? "get_report_by_access_token" (.selectReportByToken token) reportOfRow).run
  | .riskResults report => (findAll "list_risk_results" (.selectResults report) resultOfRow).run
  | .persistReport results => retrying "persist_scored_report" (persistWork results)
  | .markReportFailed id reason =>
    (discard (change "mark_report_failed" (.failReport id reason)) : Dialogue Unit).run
  | .pendingReports since =>
    (findAll "list_pending_reports" (.selectPending since) reportIdOfRow).run
  | .recordEvent id kind payload => (recordEvent id kind payload).run
  | .completeEvent id error => (completeEvent id error).run

/-- The span in which a request is answered. -/
def span (call : StoreCall) : Span :=
  let named (name : String) (fields : Fields) : Span := ⟨.database, name, fields⟩
  match call with
  | .createSession _ => named "create_session" []
  | .getSession id =>
    named "get_session" [("id", .shown id.describe), ("session_id", .shown id.write)]
  | .upsertAnswer a =>
    named "upsert_answer"
      [("session_id", .shown a.session.write), ("question_id", .shown a.question)]
  | .answers session => named "answers_for_session" [("session_id", .shown session.write)]
  | .attachIntent p => named "attach_payment_intent" [("session_id", .shown p.session.write)]
  | .markPaymentFailed intent =>
    named "mark_session_payment_failed" [("intent_ref", .text intent)]
  | .markRefunded intent => named "mark_session_refunded" [("intent_ref", .text intent)]
  | .initialiseReport intent => named "initialise_report" [("intent_ref", .text intent)]
  | .getReport id =>
    named "get_report" [("id", .shown id.describe), ("report_id", .shown id.write)]
  | .reportByToken _ => named "get_report_by_access_token" []
  | .riskResults report => named "list_risk_results" [("report_id", .shown report.write)]
  | .persistReport results =>
    named "persist_scored_report"
      [("report_id", .shown results.report.write), ("risk_count", .ofNat results.risks.length)]
  | .markReportFailed id reason =>
    named "mark_report_failed"
      [("id", .shown id.describe), ("reason", .text reason), ("report_id", .shown id.write)]
  | .pendingReports since => named "list_pending_reports" [("since", .shown since.write)]
  | .recordEvent id kind _ =>
    named "record_payment_event" [("event_id", .text id), ("event_type", .text kind)]
  | .completeEvent id error =>
    named "complete_payment_event"
      [("event_id", .text id), ("error", .shown (Text.option Text.quoted error))]

/-- Answer a request to the store from the database. -/
def serve (call : StoreCall) : Asking (Except StoreError call.Value) :=
  .traced (span call) StoreError.message (answer call)

end RiskReport.Database
