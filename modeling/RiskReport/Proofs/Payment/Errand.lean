import RiskReport.Payment.Process
import RiskReport.Proofs.Protocol

/-!
# The errands of a handler

The handler of a payment event does three things for the session of the payment: it begins the
report, it looks the session up, and it sends a receipt. These are its errands, and they have an
order (`Errand.order`): a report is begun once at most, and only if the store says that it is new is
its session looked up, and only then is a receipt sent. Whatever else a handler asks for may come in
between.

**Theorem (`follows_processEvent`).** Dealing with a payment event is running errands in order,
whatever the store, the mailer and the queue answer.
-/

namespace RiskReport

open Program

/-- What a handler of a payment event does for a session. -/
inductive Errand where
  | began (session : SessionId)
  | lookedUp (session : SessionId)
  | sentReceipt
  deriving DecidableEq, Repr, Inhabited

namespace Errand

/-- The errand that is run with an exchange. -/
def of? : Exchange services → Option Errand
  | ⟨.store (.initialiseReport _), .ok (.created r)⟩ => some (.began r.sessionId)
  | ⟨.store (.getSession id), _⟩ => some (.lookedUp id)
  | ⟨.mail (.receipt _), _⟩ => some .sentReceipt
  | _ => none

/-- The order of errands. What comes next depends on the latest errand; whatever is none may be
asked for at any time. -/
def order : Protocol services (Option Errand) where
  Allows
    | latest, .store (.initialiseReport _) => latest = none
    | latest, .store (.getSession id) => latest = some (.began id)
    | latest, .mail (.receipt _) => ∃ id, latest = some (.lookedUp id)
    | _, .mail (.reportReady _) => False
    | _, _ => True
  next latest call answer := (of? ⟨call, answer⟩).or latest

end Errand

/-! ## Handlers run their errands in order -/

section

variable {latest : Option Errand}

theorem follows_paymentLog (level : Log.Level) (message : String) (fields : Log.Fields) :
    (paymentLog level message fields).Follows Errand.order latest :=
  follows_report _

theorem follows_queueReport (report : ReportId) :
    (queueReport report).Follows Errand.order latest := by
  refine Keeps.after trivial fun answer => ?_
  rcases answer with e | ⟨⟩
  · exact follows_paymentLog _ _ _
  · exact follows_done ()

/-- Whoever has begun a report may send the receipt of its session. -/
theorem follows_sendReceipt (price : Price) (id : SessionId) :
    (sendReceipt price id).Follows Errand.order (some (.began id)) := by
  refine Keeps.after rfl fun answer => ?_
  rcases answer with e | _ | session
  · exact follows_paymentLog _ _ _
  · exact follows_done ()
  · dsimp only
    cases session.email.bind Text.trimmed? with
    | none => exact follows_done ()
    | some recipient =>
      refine Keeps.after ⟨id, rfl⟩ fun answer => ?_
      rcases answer with e | ⟨⟩
      · exact follows_paymentLog _ _ _
      · exact follows_done ()

/-- A handler that finds that the report is new sends the receipt, and nobody else does. -/
theorem follows_confirmPayment (price : Price) (intent : String) :
    (confirmPayment price intent).Follows Errand.order none := by
  refine Keeps.after rfl fun answer => ?_
  rcases answer with e | report | report
  · exact follows_done _
  · refine keeps_report.2 ?_
    exact (follows_sendReceipt price report.sessionId).bind fun _ _ =>
      (follows_queueReport report.id).bind fun _ _ => follows_done _
  · dsimp only
    split
    · exact (follows_paymentLog _ _ _).bind fun _ _ => follows_done _
    · refine (follows_paymentLog _ _ _).bind fun _ _ => ?_
      exact (follows_queueReport report.id).bind fun _ _ => follows_done _

theorem follows_failPayment (intent : String) :
    (failPayment intent).Follows Errand.order latest := by
  refine Keeps.after trivial fun answer => ?_
  rcases answer with e | ⟨⟩
  · exact follows_done _
  · exact (follows_paymentLog _ _ _).bind fun _ _ => follows_done _

theorem follows_refundPayment (intent : String) :
    (refundPayment intent).Follows Errand.order latest := by
  refine Keeps.after trivial fun answer => ?_
  rcases answer with (_ | _ | _ | _ | _) | ⟨⟩
  case error.notFound => exact (follows_paymentLog _ _ _).bind fun _ _ => follows_done _
  case ok => exact (follows_paymentLog _ _ _).bind fun _ _ => follows_done _
  all_goals exact follows_done _

theorem follows_dispatchEvent (price : Price) (event : PaymentEvent) :
    (dispatchEvent price event).Follows Errand.order none := by
  unfold dispatchEvent
  split
  · split
    · exact follows_done _
    · exact follows_confirmPayment price _
  · split
    · split
      · exact follows_done _
      · exact follows_failPayment _
    · split
      · split
        · exact (follows_paymentLog _ _ _).bind fun _ _ => follows_done _
        · exact follows_refundPayment _
      · exact (follows_paymentLog _ _ _).bind fun _ _ => follows_done _

theorem follows_closeEvent (event : PaymentEvent) (error : Option String) :
    (closeEvent event error).Follows Errand.order latest := by
  refine Keeps.after trivial fun answer => ?_
  rcases answer with e | ⟨⟩
  · exact follows_paymentLog _ _ _
  · exact follows_done ()

theorem follows_handleEvent (price : Price) (event : PaymentEvent) :
    (handleEvent price event).Follows Errand.order none := by
  refine (follows_dispatchEvent price event).bind fun _ result => ?_
  rcases result with e | disposition
  · refine (follows_paymentLog _ _ _).bind fun _ _ => ?_
    exact (follows_closeEvent event _).bind fun _ _ => follows_done _
  · exact (follows_closeEvent event _).bind fun _ _ => follows_done _

/-- Dealing with a payment event is running errands in order. -/
theorem follows_processEvent (price : Price) (event : PaymentEvent) :
    (processEvent price event).Follows Errand.order none := by
  refine keeps_within.2 (Keeps.after trivial fun answer => ?_)
  rcases answer with e | _ | _
  · exact follows_done _
  · exact follows_handleEvent price event
  · exact (follows_paymentLog _ _ _).bind fun _ _ => follows_done _

end

end RiskReport
