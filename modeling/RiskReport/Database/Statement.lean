import RiskReport.Database.Value

/-!
# Statements

What the program says to the database. A `Query` reads or changes rows; the other statements begin
and end transactions. `Query.text` and `Query.parameters` are what is sent for a query: its text
has numbered places, into which the parameters go.
-/

namespace RiskReport.Database

/-- A statement that reads or changes rows. -/
inductive Query where
  | insertSession (id : SessionId) (anonToken : String)
  | selectSession (id : SessionId)
  | upsertAnswer (answer : NewAnswer)
  /-- The answers of a session with their questions, in the order of the questionnaire. -/
  | selectAnswers (session : SessionId)
  | attachIntent (intent : NewIntent)
  | setPaymentStatus (intent : String) (status : PaymentStatus)
  /-- Mark the session of an intent as paid. -/
  | markPaid (intent : String)
  | selectReport (id : ReportId)
  | selectReportOfSession (session : SessionId)
  | selectReportByToken (token : String)
  | insertReport (id : ReportId) (session : SessionId) (token : AccessToken)
  | startProcessing (id : ReportId)
  /-- Keep a result row, without a hedge of its own. -/
  | insertResult (row : RiskResult)
  | setHedge (row : RiskResultId) (text : String)
  /-- Make a report ready with its totals, its texts and its risks. -/
  | finishReport (id : ReportId) (overall critical : Int) (summary topPriority : String)
      (snapshot : Json)
  | selectResults (report : ReportId)
  | failReport (id : ReportId) (reason : String)
  | selectPending (since : Instant)
  | claimEvent (id kind : String) (payload : Json)
  | closeEvent (id : String) (error : Option String)
  deriving DecidableEq, Repr, Inhabited

namespace Query

/-- The text of a query. -/
def text : Query → String
  | .insertSession .. => "INSERT INTO sessions (id, anon_token) VALUES ($1, $2) RETURNING *"
  | .selectSession _ => "SELECT * FROM sessions WHERE id = $1"
  | .upsertAnswer _ =>
    "INSERT INTO answers " ++
      "(session_id, question_id, answer_text, preview_probability, preview_impact) " ++
      "VALUES ($1, $2, $3, $4, $5) " ++
      "ON CONFLICT (session_id, question_id) DO UPDATE " ++
      "SET answer_text = EXCLUDED.answer_text, " ++
      "preview_probability = EXCLUDED.preview_probability, " ++
      "preview_impact = EXCLUDED.preview_impact, updated_at = now()"
  | .selectAnswers _ =>
    "SELECT a.question_id, a.answer_text, q.section_title, q.risk_name, q.risk_desc, q.hedge, " ++
      "q.scoring_config, q.is_scoring " ++
      "FROM answers a JOIN question_definitions q ON q.id = a.question_id " ++
      "WHERE a.session_id = $1 ORDER BY q.sort_order ASC, q.id ASC"
  | .attachIntent _ =>
    "UPDATE sessions SET customer_ref = NULLIF($2, ''), payment_intent_ref = $3, " ++
      "email = COALESCE(NULLIF($4, ''), email), updated_at = now() WHERE id = $1 RETURNING *"
  | .setPaymentStatus .. =>
    "UPDATE sessions SET payment_status = $2, updated_at = now() WHERE payment_intent_ref = $1"
  | .markPaid _ =>
    "UPDATE sessions SET payment_status = 'paid', paid_at = COALESCE(paid_at, now()), " ++
      "updated_at = now() WHERE payment_intent_ref = $1 RETURNING id"
  | .selectReport _ => "SELECT * FROM reports WHERE id = $1"
  | .selectReportOfSession _ => "SELECT * FROM reports WHERE session_id = $1"
  | .selectReportByToken _ => "SELECT * FROM reports WHERE access_token = $1"
  | .insertReport .. =>
    "INSERT INTO reports (id, session_id, status, access_token) " ++
      "VALUES ($1, $2, 'draft', $3) RETURNING *"
  | .startProcessing _ =>
    "UPDATE reports SET status = 'processing', updated_at = now() WHERE id = $1"
  | .insertResult _ =>
    "INSERT INTO risk_results ( id, report_id, question_id, rank, risk_name, risk_desc, " ++
      "probability, impact, score, tier, hedge, section ) " ++
      "VALUES ($1, $2, $3, $4, $5, $6, $7, $8, $9, $10, $11, $12)"
  | .setHedge .. => "UPDATE risk_results SET ai_hedge = $2 WHERE id = $1"
  | .finishReport .. =>
    "UPDATE reports SET status = 'ready', overall_score = $2, critical_count = $3, " ++
      "executive_summary = NULLIF($4, ''), top_priority_html = NULLIF($5, ''), " ++
      "risks_snapshot = $6, generated_at = now(), error_message = NULL, updated_at = now() " ++
      "WHERE id = $1 RETURNING *"
  | .selectResults _ => "SELECT * FROM risk_results WHERE report_id = $1 ORDER BY rank ASC"
  | .failReport .. =>
    "UPDATE reports SET status = 'error', error_message = $2, updated_at = now() " ++
      "WHERE id = $1 AND status <> 'ready'"
  | .selectPending _ =>
    "SELECT id FROM reports WHERE status IN ('draft', 'processing') AND created_at >= $1 " ++
      "ORDER BY created_at ASC, id ASC"
  | .claimEvent .. =>
    "INSERT INTO payment_events (event_id, event_type, payload) VALUES ($1, $2, $3) " ++
      "ON CONFLICT (event_id) DO UPDATE SET status = 'received', error = NULL, " ++
      "attempts = payment_events.attempts + 1, received_at = now() " ++
      "WHERE payment_events.status = 'failed' OR (payment_events.status = 'received' " ++
      "AND payment_events.received_at < now() - make_interval(secs => $4))"
  | .closeEvent .. =>
    "UPDATE payment_events SET status = $2, error = $3, processed_at = now() " ++
      "WHERE event_id = $1"

/-- The parameters of a kept result row. -/
def resultParameters (r : RiskResult) : List SqlValue :=
  [.uuid r.id.uuid, .uuid r.reportId.uuid, .text r.questionId, .int r.rank, .text r.riskName,
    .text r.riskDesc, .int r.probability, .int r.impact, .int r.score, .text r.tier.text,
    .text r.hedge, .text r.sectionTitle]

/-- The spelling of the status of a payment event that is closed. -/
def closedStatus (error : Option String) : String :=
  if error.isSome then "failed" else "processed"

/-- The parameters of a query. -/
def parameters : Query → List SqlValue
  | .insertSession id anonToken => [.uuid id.uuid, .text anonToken]
  | .selectSession id => [.uuid id.uuid]
  | .upsertAnswer a =>
    [.uuid a.session.uuid, .text a.question, .text a.text,
      .ofInt? (a.preview.map fun p => (p.probability : Int)),
      .ofInt? (a.preview.map fun p => (p.impact : Int))]
  | .selectAnswers session => [.uuid session.uuid]
  | .attachIntent p =>
    [.uuid p.session.uuid, .text (p.customerRef.getD ""), .text p.intent,
      .text (p.email.getD "")]
  | .setPaymentStatus intent status => [.text intent, .text status.text]
  | .markPaid intent => [.text intent]
  | .selectReport id => [.uuid id.uuid]
  | .selectReportOfSession session => [.uuid session.uuid]
  | .selectReportByToken token => [.text token]
  | .insertReport id session token => [.uuid id.uuid, .uuid session.uuid, .text token.text]
  | .startProcessing id => [.uuid id.uuid]
  | .insertResult row => resultParameters row
  | .setHedge row text => [.uuid row.uuid, .text text]
  | .finishReport id overall critical summary topPriority snapshot =>
    [.uuid id.uuid, .int overall, .int critical, .text summary, .text topPriority,
      .json snapshot]
  | .selectResults report => [.uuid report.uuid]
  | .failReport id reason => [.uuid id.uuid, .text reason]
  | .selectPending since => [.ofInstant since]
  | .claimEvent id kind payload => [.text id, .text kind, .json payload, .seconds eventLease]
  | .closeEvent id error => [.text id, .text (closedStatus error), .ofText? error]

end Query

/-- Anything that is said to the database. -/
inductive Statement where
  | begin
  /-- Isolate the transaction from all others. -/
  | isolate
  | query (q : Query)
  | commit
  | rollback
  deriving DecidableEq, Repr, Inhabited

namespace Statement

/-- The text of a statement. -/
def text : Statement → String
  | .begin => "BEGIN"
  | .isolate => "SET TRANSACTION ISOLATION LEVEL SERIALIZABLE"
  | .query q => q.text
  | .commit => "COMMIT"
  | .rollback => "ROLLBACK"

/-- The parameters of a statement, if it is sent with parameters. -/
def parameters? : Statement → Option (List SqlValue)
  | .isolate => some []
  | .query q => some q.parameters
  | .begin | .commit | .rollback => none

end Statement

end RiskReport.Database
