import RiskReport.Service

/-!
# Dealing with payment events

The payment service delivers each event at least once. An event is recorded before it is dealt
with, and a recorded event that comes again is passed over; when it has been dealt with, its record
is closed, with the error if there was one. A confirmed payment begins the report of its session,
sends a receipt, and queues the report.
-/

namespace RiskReport

open Log

/-- What became of an event. -/
inductive Disposition where
  /-- The event has been seen before. -/
  | duplicate
  | processed
  /-- Nothing is to be done for events of this kind. -/
  | ignored
  deriving DecidableEq, Repr, Inhabited

/-- An event of the part that deals with payments. -/
def paymentLog (level : Level) (message : String) (fields : Fields := []) : Service Unit :=
  .report { level, target := .payments, message := some message, fields }

/-- Queue a report. A report that is not queued is found by the next recovery scan. -/
def queueReport (report : ReportId) : Service Unit := do
  match ← Service.enqueue report with
  | .ok () => return ()
  | .error e =>
    paymentLog .warn "enqueue failed, report left for the recovery scan"
      [("report_id", .shown report.write), ("error", .shown e.message)]

/-- Send a receipt to the visitor of a session, if there is an address to send it to. -/
def sendReceipt (price : Price) (id : SessionId) : Service Unit := do
  match ← Service.store (.getSession id) with
  | .ok none => return ()
  | .error e =>
    paymentLog .warn "could not load session for receipt"
      [("session_id", .shown id.write), ("error", .shown e.message)]
  | .ok (some session) =>
    match session.email.bind Text.trimmed? with
    | none => return ()
    | some recipient =>
      let receipt : Receipt :=
        { recipient, businessName := session.businessName?, amountCents := price.amountCents,
          currency := price.currency }
      match ← Service.mail (.receipt receipt) with
      | .ok () => return ()
      | .error e =>
        paymentLog .warn "failed to send receipt"
          [("session_id", .shown id.write), ("error", .shown e.message)]

/-- Begin the report of a confirmed payment. A report that exists already is queued again, in case
the work on it was lost. -/
def confirmPayment (price : Price) (intent : String) :
    Service (Except PaymentError Disposition) := do
  match ← Service.store (.initialiseReport intent) with
  | .error e => return .error (.store e)
  | .ok (.alreadyExists report) =>
    if report.status.isTerminal then
      paymentLog .debug "report already finished"
        [("report_id", .shown report.id.write), ("status", .text report.status.text)]
      return .ok .processed
    else
      paymentLog .debug "report exists, re-enqueueing" [("report_id", .shown report.id.write)]
      queueReport report.id
      return .ok .processed
  | .ok (.created report) =>
    paymentLog .info "payment confirmed, report created"
      [("report_id", .shown report.id.write), ("intent", .text intent)]
    sendReceipt price report.sessionId
    queueReport report.id
    return .ok .processed

/-- Mark the session of a failed payment. -/
def failPayment (intent : String) : Service (Except PaymentError Disposition) := do
  match ← Service.store (.markPaymentFailed intent) with
  | .error e => return .error (.store e)
  | .ok () =>
    paymentLog .info "payment failed" [("intent", .text intent)]
    return .ok .processed

/-- Mark the session of a refunded payment; a refund of an unknown payment is passed over. -/
def refundPayment (intent : String) : Service (Except PaymentError Disposition) := do
  match ← Service.store (.markRefunded intent) with
  | .ok () =>
    paymentLog .info "charge refunded" [("intent", .text intent)]
    return .ok .processed
  | .error (.notFound _) =>
    paymentLog .warn "refund for unknown payment intent" [("intent", .text intent)]
    return .ok .processed
  | .error e => return .error (.store e)

/-- Deal with an event by its kind. -/
def dispatchEvent (price : Price) (event : PaymentEvent) :
    Service (Except PaymentError Disposition) := do
  if event.kind = PaymentEvent.succeeded then
    match event.intent with
    | .error e => return .error e
    | .ok intent => confirmPayment price intent
  else if event.kind = PaymentEvent.failed then
    match event.intent with
    | .error e => return .error e
    | .ok intent => failPayment intent
  else if event.kind = PaymentEvent.refunded then
    match event.chargeIntent with
    | .error e =>
      paymentLog .warn "refund without payment intent" [("error", .shown e.message)]
      return .ok .processed
    | .ok intent => refundPayment intent
  else
    paymentLog .debug "unhandled event type" [("event_type", .text event.kind)]
    return .ok .ignored

/-- Close the record of an event. A record that cannot be closed is left to its lease. -/
def closeEvent (event : PaymentEvent) (error : Option String) : Service Unit := do
  match ← Service.store (.completeEvent event.id error) with
  | .ok () => return ()
  | .error e => paymentLog .warn "could not close event record" [("error", .shown e.message)]

/-- Deal with an event that has been recorded, and close its record. -/
def handleEvent (price : Price) (event : PaymentEvent) :
    Service (Except PaymentError Disposition) := do
  match ← dispatchEvent price event with
  | .ok disposition =>
    closeEvent event none
    return .ok disposition
  | .error e =>
    paymentLog .warn "event handler failed" [("error", .shown e.message)]
    closeEvent event (some e.message)
    return .error e

/-- Record an event and deal with it, unless it has been seen before. -/
def processEvent (price : Price) (event : PaymentEvent) :
    Service (Except PaymentError Disposition) :=
  let fields : Fields := [("event_id", .shown event.id), ("event_type", .shown event.kind)]
  .within [⟨.payments, "process", fields⟩] do
    match ← Service.store (.recordEvent event.id event.kind event.payload) with
    | .error e => return .error (.store e)
    | .ok .duplicate =>
      paymentLog .debug "duplicate event, skipping"
      return .ok .duplicate
    | .ok .recorded => handleEvent price event

end RiskReport
