import RiskReport.Rehearsal.Names
import RiskReport.Rehearsal.Scenario

/-!
# Scenarios as JSON

How the steps of a scenario are written. A step is an object whose field `do` says what is done;
its other fields say how. Identifiers may be given by names. Durations are given in milliseconds or
as durations.
-/

namespace RiskReport.Rehearsal.Script

open Json

/-- A duration, or a number of milliseconds. -/
def duration : Decoder Duration
  | .number (.int i) span => (Decoder.unsigned 64 (.number (.int i) span)).map Duration.ofMillis
  | n => Duration.decoder n

/-- A number of milliseconds or of calls. -/
def count : Decoder Nat := .unsigned 64

/-- Texts by keys. -/
def table : Decoder (Table String String) := fun n => (Decoder.map .string n).map Table.mk

/-- A field that may be null or missing and then has a value all the same. -/
def orElse {α : Type} (name : String) (d : Decoder α) (value : α) : Fields α :=
  (fun a : Option α => a.getD value) <$> Fields.optional name d

/-- A truth value that is false when it is null or missing. -/
def flag (name : String) : Fields Bool := orElse name .bool false

/-- A value of some fields. -/
def form {α : Type} (fields : Fields α) : Decoder α := .untagged "step" fields

/-- A refusal of a kind with a wording. -/
def storeError (kind message : String) : Except Cause StoreError :=
  match kind with
  | "NotFound" => .ok (.notFound message)
  | "Serialization" => .ok (.serialization message)
  | "Conflict" => .ok (.conflict message)
  | "Database" => .ok (.database message)
  | "Corrupt" => .ok (.corrupt message)
  | _ => .error (.malformed "unknown kind of refusal")

/-- The refusal that the fields `error` and `message` give, if they give one. -/
def storeError? : Fields (Option StoreError) :=
  (Prod.mk <$> .optional "error" .string <*> orElse "message" .string "").refine fun
    | (none, _) => .ok none
    | (some kind, message) => (storeError kind message).map some

/-- A failure of a hedger of a kind. -/
def hedgeError (kind : String) (status : Nat) (body : String) : Except Cause HedgeError :=
  match kind with
  | "Api" => .ok (.api status body)
  | "Parse" => .ok (.parse body)
  | "Empty" => .ok .empty
  | "NoProvider" => .ok .noProvider
  | "PrimaryFailed" => .ok (.primaryFailed (.parse body))
  | _ => .error (.malformed "unknown kind of failure")

/-- The failure that the fields `error`, `status` and `body` give, if they give one. -/
def hedgeError? : Fields (Option HedgeError) :=
  ((fun kind status body => (kind, status, body)) <$> Fields.optional "error" .string
    <*> orElse "status" (.unsigned 16) 503 <*> orElse "body" .string "").refine fun
    | (none, _, _) => .ok none
    | (some kind, status, body) => (hedgeError kind status body).map some

/-- A stand-in for a hedger. -/
def hedgerStub : Fields HedgerStub :=
  HedgerStub.mk <$> hedgeError? <*> .optional "hedges" table <*> orElse "summary" .string ""
    <*> orElse "top" .string ""

/-- One turn of a stand-in for a hedger. -/
def hedgerTurn : Decoder HedgerTurn :=
  form <| HedgerTurn.mk <$> hedgerStub <*> orElse "delay_ms" count 0 <*> flag "panic"

/-- The ways in which answers are changed. -/
def alterations : List (String × Alteration) :=
  [("none", .missing), ("processing", .processing), ("no_aggregates", .noAggregates),
    ("already_attached_blank", .blankIntent)]

/-- A fault. -/
def fault : Fields Rehearsal.Fault :=
  Rehearsal.Fault.mk <$> Fields.required "method" .string
    <*> (Disturbance.mk <$> storeError? <*> .optional "outcome" (.enumeration alterations))
    <*> .optional "hang_ms" count <*> orElse "skip" count 0 <*> orElse "times" count 1

/-- A customer that is the standard one if the field is missing, and none if it is null. -/
def customerRef : Fields (Option String) :=
  .withDefault "customer_ref" (.optional .string) (some "cus_1")

/-- The behaviour of the payment service. -/
def gateway : Fields Step :=
  Step.gateway <$>
    (GatewaySetting.mk <$> Fields.optional "create_error" .string <*> .optional "racer" .string
      <*> orElse "racer_secret" .bool true <*> customerRef)
    <*> .optional "forget" .string

/-- How the queue answers. -/
def enqueueMode : List (String × EnqueueMode) :=
  [("", .normal), ("full", .full), ("closed", .closed)]

/-- Requests to the store by their names. -/
def storeCalls (n : Names) : List (String × Fields StoreCall) :=
  let session := Fields.required "session" n.session
  let report := Fields.required "report" n.report
  let intent := Fields.required "intent" .string
  let id := Fields.required "id" .string
  [("create_session", .createSession <$> Fields.required "anon_token" .string),
    ("get_session", .getSession <$> session),
    ("get_report", .getReport <$> report),
    ("report_by_token", .reportByToken <$> Fields.required "token" n.text),
    ("upsert_answer", .upsertAnswer <$>
      (NewAnswer.mk <$> session <*> .required "question" .string <*> .required "text" .string
        <*> .optional "preview" RiskScore.decoder)),
    ("answers", .answers <$> session),
    ("attach", .attachIntent <$>
      (NewIntent.mk <$> session <*> .optional "customer_ref" .string <*> intent
        <*> .optional "email" .string)),
    ("mark_failed", .markPaymentFailed <$> intent),
    ("mark_refunded", .markRefunded <$> intent),
    ("initialise", .initialiseReport <$> intent),
    ("risk_results", .riskResults <$> report),
    ("persist", .persistReport <$>
      (ScoredReport.mk <$> report <*> .required "risks" (.list ScoredRisk.decoder)
        <*> orElse "ai_hedges" table .empty <*> orElse "summary" .string ""
        <*> orElse "top" .string "")),
    ("mark_report_failed", .markReportFailed <$> report <*> .required "reason" .string),
    ("record_event", .recordEvent <$> id <*> .required "type" .string
      <*> .withDefault "payload" .json .null),
    ("complete_event", .completeEvent <$> id <*> .optional "error" .string)]

/-- Steps that are no requests to the store, by their names. -/
def otherSteps (n : Names) : List (String × Fields Step) :=
  let report := Fields.required "report" n.report
  let id := Fields.required "id" .string
  [("insert_session", .insertSession <$> Fields.required "row" Session.decoder),
    ("insert_question", .insertQuestion <$> Fields.required "row" Question.decoder),
    ("pending", .pending <$> Fields.optional "since_secs" (.signed 64)),
    ("backdate_event", .backdateEvent <$> id <*> .required "by" duration),
    ("event", .event <$> id),
    ("fault", .fault <$> fault),
    ("hedger", .hedger <$> Fields.required "script" (.list hedgerTurn)),
    ("mailer", .mailer <$> flag "fail"),
    ("enqueuer", .enqueuer <$> orElse "mode" (.enumeration enqueueMode) .normal),
    ("gateway", gateway),
    ("log", pure .journal),
    ("process", .process <$>
      (PaymentEvent.mk <$> id <*> .required "type" .string <*> .withDefault "payload" .json .null)),
    ("checkout", .checkout <$> Fields.required "session" n.session <*> .required "email" .string),
    ("run_job", .runJob <$> report),
    ("fetch", .fetch <$> Fields.required "token" n.text),
    ("start", pure .start),
    ("enqueue", .enqueue <$> report),
    ("scan_once", pure .scanOnce),
    ("stats", pure .stats),
    ("advance", .advance <$> Fields.required "ms" count),
    ("trigger", pure .trigger),
    ("drop_trigger", pure .dropTrigger),
    ("is_triggered", pure .isTriggered),
    ("wait_shutdown", pure .waitShutdown),
    ("join", .join <$> Fields.required "ms" count),
    ("runner_config", pure .runnerConfig),
    ("runner_debug", pure .describeRunner),
    ("job_debug", pure .describeJob)]

/-- A request to the store. -/
def storeCall (n : Names) : Decoder StoreCall :=
  .tagged "step" "do" ((storeCalls n).map fun (name, fields) => (name, form fields))

/-- A step. -/
def step (n : Names) : Decoder Step :=
  .tagged "step" "do" <|
    ((storeCalls n).map fun (name, fields) => (name, form (.store <$> fields))) ++
    (otherSteps n).map fun (name, fields) => (name, form fields)

/-- The calls that a reading of the journal is restricted to, if it is. -/
def journalFilter : Decoder (Option (List String)) :=
  form (.optional "only" (.list .string))

/-- A price, or the standard one. -/
def price : Decoder Price :=
  form <| Price.mk <$> .required "amount_cents" (.signed 64) <*> .required "currency" .string

end RiskReport.Rehearsal.Script
