import RiskReport.Log.Line
import RiskReport.Rehearsal.Names
import RiskReport.Rehearsal.Scenario

/-!
# Accounts of scenarios

How what came of the steps of a scenario is written as JSON. A time that was stored during the
scenario is written as `NOW`.
-/

namespace RiskReport.Rehearsal

open Json

/-- An error: its kind and its wording. -/
def errorJson (kind message : String) : Json :=
  .record [("error", .string kind), ("message", .string message)]

/-- The answer of something that broke down. -/
def crashJson : Json := .record [("error", .string "panic")]

/-- A value with further fields. -/
def withFields (j : Json) (fields : List (String × Json)) : Json :=
  match j with
  | .object old => .record (old ++ fields)
  | j => j

/-- The kind of a store's refusal. -/
def storeErrorKind : StoreError → String
  | .notFound _ => "NotFound"
  | .serialization _ => "Serialization"
  | .conflict _ => "Conflict"
  | .database _ => "Database"
  | .corrupt _ => "Corrupt"

/-- A refusal of a store. -/
def storeErrorJson (e : StoreError) : Json := errorJson (storeErrorKind e) e.message

/-- A question that could not be scored. -/
def questionErrorJson (e : QuestionError) : Json := errorJson "Question" e.message

/-- A failure to deal with a payment. -/
def paymentErrorJson (e : PaymentError) : Json :=
  let kind := match e with
    | .missingField .. => "MissingField"
    | .sessionNotFound _ => "SessionNotFound"
    | .validation _ => "Validation"
    | .gateway _ => "Gateway"
    | .store _ => "Store"
  errorJson kind e.message

/-- A failure to make a report. -/
def jobErrorJson (e : JobError) : Json :=
  match e with
  | .reportNotFound _ => errorJson "ReportNotFound" e.message
  | .noAnswers _ => errorJson "NoAnswers" e.message
  | .scoring cause =>
    withFields (errorJson "Scoring" e.message) [("source", questionErrorJson cause)]
  | .store _ => errorJson "Store" e.message

/-- A refusal to queue a report. -/
def enqueueErrorJson (e : EnqueueError) : Json :=
  match e with
  | .full _ => errorJson "Full" e.message
  | .closed _ => errorJson "Closed" e.message

/-- Events with the spans they happened in. -/
def logJson (entries : List Log.Entry) : Json :=
  .array <| entries.map fun e =>
    .record [("level", .string e.event.level.text), ("message", .ofText? e.event.message),
      ("fields", .record (Log.fieldsJson e.event.fields)),
      ("spans", .array (e.spans.map fun s =>
        .record [("name", .string s.name), ("fields", .record (Log.fieldsJson s.fields))]))]

/-- How values of a store are written. -/
structure ValueForm where
  time : Instant → Json
  /-- What stands for nothing. -/
  unit : Json
  /-- Whether result rows have their identifiers. -/
  rowIds : Bool

namespace ValueForm

/-- A session. -/
def session (f : ValueForm) (s : Session) : Json :=
  withFields s.toJson [("paid_at", .ofOption f.time s.paidAt), ("created_at", f.time s.createdAt),
    ("updated_at", f.time s.updatedAt)]

/-- A report. -/
def report (f : ValueForm) (r : Report) : Json :=
  withFields r.toJson [("generated_at", .ofOption f.time r.generatedAt),
    ("created_at", f.time r.createdAt), ("updated_at", f.time r.updatedAt)]

/-- A result row. -/
def row (f : ValueForm) (r : RiskResult) : Json :=
  match r.toJson with
  | .object fields => .object (fields.filter fun field => f.rowIds || field.1 != "id")
  | j => j

/-- What became of an intent to be attached. -/
def attachment (f : ValueForm) (a : Attachment) : Json :=
  let outcome := match a with
    | .attached _ => "Attached"
    | .alreadyAttached _ => "AlreadyAttached"
  .record [("outcome", .string outcome), ("session", f.session a.session)]

/-- What became of a report to be begun. -/
def reportInit (f : ValueForm) (r : ReportInit) : Json :=
  let outcome := match r with
    | .created _ => "Created"
    | .alreadyExists _ => "AlreadyExists"
  .record [("outcome", .string outcome), ("report", f.report r.report)]

/-- Whether an event is to be handled. -/
def eventRecord : EventRecord → Json
  | .recorded => .string "Recorded"
  | .duplicate => .string "Duplicate"

/-- What a request to a store yields. -/
def value (f : ValueForm) : (call : StoreCall) → call.Value → Json
  | .createSession _, s => f.session s
  | .getSession _, s => .ofOption f.session s
  | .upsertAnswer _, _ => .string "ok"
  | .answers _, rows => .array (List.map AnswerRow.toJson rows)
  | .attachIntent _, a => f.attachment a
  | .markPaymentFailed _, _ => f.unit
  | .markRefunded _, _ => f.unit
  | .initialiseReport _, r => f.reportInit r
  | .getReport _, r => .ofOption f.report r
  | .reportByToken _, r => .ofOption f.report r
  | .riskResults _, rows => .array (List.map f.row rows)
  | .persistReport _, r => f.report r
  | .markReportFailed .., _ => f.unit
  | .pendingReports _, ids => .array (List.map ReportId.toJson ids)
  | .recordEvent .., r => eventRecord r
  | .completeEvent .., _ => f.unit

end ValueForm

/-- A time, unless it was stored during the scenario. -/
def World.timeJson (w : World) (t : Instant) : Json :=
  if Clock.covers w.readings t then .string "NOW" else t.toJson

/-- How the values of the rehearsed store are written. -/
def World.valueForm (w : World) : ValueForm where
  time := w.timeJson
  unit := .string "ok"
  rowIds := false

/-- What a request to the store is about. -/
def storeArguments : StoreCall → Json
  | .createSession token => .string token
  | .getSession id => id.toJson
  | .upsertAnswer a => a.session.toJson
  | .answers id => id.toJson
  | .attachIntent p =>
    .array [p.session.toJson, .ofText? p.customerRef, .string p.intent, .ofText? p.email]
  | .markPaymentFailed intent => .string intent
  | .markRefunded intent => .string intent
  | .initialiseReport intent => .string intent
  | .getReport id => id.toJson
  | .reportByToken token => .string token
  | .riskResults id => id.toJson
  | .persistReport p =>
    .array [p.report.toJson, .array (p.risks.map fun r => .string r.questionId)]
  | .markReportFailed id reason => .array [id.toJson, .string reason]
  | .pendingReports since => .bool (since == .earliest)
  | .recordEvent id kind _ => .array [.string id, .string kind]
  | .completeEvent id error => .array [.string id, .ofText? error]

/-- The name of a request of a service, and what it is about. -/
def callJson : ServiceCall → String × Json
  | .store call => (methodName call, storeArguments call)
  | .hedge risks => ("generate_hedges", .array (risks.map fun r => .string r.questionId))
  | .mail (.reportReady m) =>
    ("mail_report_ready",
      .array [.string m.recipient, .ofText? m.businessName, .string m.accessToken.text])
  | .mail (.receipt m) =>
    ("mail_receipt",
      .array [.string m.recipient, .ofText? m.businessName, .ofInt m.amountCents,
        .string m.currency])
  | .enqueue id => ("enqueue", id.toJson)
  | .createPayment p =>
    ("create_payment_intent",
      .array [.ofInt p.price.amountCents, .string p.price.currency, .string p.email,
        p.session.toJson])
  | .clientSecret intent => ("client_secret", .string intent)

/-- The journal, or what it says of some calls. -/
def journalJson (only : Option (List String)) (calls : List (Nat × ServiceCall)) : Json :=
  .array <| calls.filterMap fun (time, call) =>
    let (name, arguments) := callJson call
    if (only.map (·.contains name)).getD true then
      some (.record [("at_ms", .ofNat time), ("call", .string name), ("with", arguments)])
    else none

/-- What the holder of a token gets to see. -/
def accessJson (time : Instant → Json) : ReportAccess → Json
  | .notFound => .string "NotFound"
  | .pending status => .record [("pending", status.toJson)]
  | .ready view =>
    let stamp := view.generatedAt.toList.map fun t => ("generated_at", time t)
    .record [("ready", withFields view.toJson stamp)]

/-- What became of an event. -/
def dispositionJson : Disposition → Json
  | .duplicate => .string "Duplicate"
  | .processed => .string "Processed"
  | .ignored => .string "Ignored"

/-- What came of a step; of the journal, what it says of some calls. -/
def Outcome.toJson (w : World) (only : Option (List String)) : Outcome → Json
  | .done => .string "ok"
  | .refused e => storeErrorJson e
  | .store call value => w.valueForm.value call value
  | .event e =>
    .record [("attempts", .ofOption (fun (e : EventEntry) => .ofNat e.attempts) e),
      ("error", .ofText? (e.bind (·.error)))]
  | .journal calls => journalJson only calls
  | .processed (.ok d) => dispositionJson d
  | .processed (.error e) => paymentErrorJson e
  | .ticket (.ok t) =>
    .record [("client_secret", .string t.clientSecret), ("is_existing", .bool t.isExisting)]
  | .ticket (.error e) => paymentErrorJson e
  | .job (.ok ()) => .string "ok"
  | .job (.error e) => jobErrorJson e
  | .fetched (.ok a) => accessJson w.timeJson a
  | .fetched (.error e) => storeErrorJson e
  | .enqueued (.ok ()) => .string "ok"
  | .enqueued (.error e) => enqueueErrorJson e
  | .count n => .ofNat n
  | .flag b => .bool b
  | .stats s => s.toJson
  | .joined .stopped => .string "stopped"
  | .joined .running => .string "running"
  | .joined .notStarted => .string "not started"
  | .config c => c.toJson
  | .text s => .string s
  | .crashed => crashJson

/-- The names after a step. -/
def Names.after (n : Names) (w : World) : Outcome → Names
  | .store (.createSession _) session =>
    { sessions := n.sessions ++ [Session.id session], reports := w.memory.reports.rows }
  | _ => { n with reports := w.memory.reports.rows }

end RiskReport.Rehearsal
