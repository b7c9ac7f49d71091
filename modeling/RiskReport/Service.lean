import RiskReport.Hedge.Result
import RiskReport.Mail.Message
import RiskReport.Payment.Event

/-!
# What the services work with

The services of the library work with a store and with four collaborators: the hedger, the mailer,
the payment service, and the queue of reports. `services` is the interface of all of them; a
service is a `Program` over it.
-/

namespace RiskReport

/-- Why a report cannot be queued. -/
inductive EnqueueError where
  | full (report : ReportId)
  | closed (report : ReportId)
  deriving DecidableEq, Repr, Inhabited

/-- The wording of a refusal to queue. -/
def EnqueueError.message : EnqueueError → String
  | .full report => "queue is full, report " ++ report.write ++ " left for the recovery scan"
  | .closed report => "runner has stopped, report " ++ report.write ++ " not queued"

/-- A request of a service. -/
inductive ServiceCall where
  | store (call : StoreCall)
  | hedge (risks : List ScoredRisk)
  | mail (message : Mail)
  | enqueue (report : ReportId)
  | createPayment (payment : NewPayment)
  | clientSecret (intent : String)

/-- What a request of a service is answered with. -/
def ServiceCall.Answer : ServiceCall → Type
  | .store call => storeInterface.Answer call
  | .hedge _ => Except HedgeError HedgeResult
  | .mail _ => Except MailError Unit
  | .enqueue _ => Except EnqueueError Unit
  | .createPayment _ => Except PaymentError PaymentIntent
  | .clientSecret _ => Except PaymentError String

/-- The requests of services and their answers. -/
def services : Interface where
  Call := ServiceCall
  Answer := ServiceCall.Answer

/-- A service that yields a value. -/
abbrev Service (α : Type) := Program services α

namespace Service

/-- Ask the store. -/
def store (call : StoreCall) : Service (Except StoreError call.Value) :=
  Program.request (I := services) (.store call)

/-- Ask for hedges. -/
def hedge (risks : List ScoredRisk) : Service (Except HedgeError HedgeResult) :=
  Program.request (I := services) (.hedge risks)

/-- Send a message. -/
def mail (message : Mail) : Service (Except MailError Unit) :=
  Program.request (I := services) (.mail message)

/-- Queue a report. -/
def enqueue (report : ReportId) : Service (Except EnqueueError Unit) :=
  Program.request (I := services) (.enqueue report)

/-- Prepare a payment. -/
def createPayment (payment : NewPayment) : Service (Except PaymentError PaymentIntent) :=
  Program.request (I := services) (.createPayment payment)

/-- Ask for the secret of a prepared payment. -/
def clientSecret (intent : String) : Service (Except PaymentError String) :=
  Program.request (I := services) (.clientSecret intent)

end Service

end RiskReport
