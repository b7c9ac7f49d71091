import RiskReport.Http
import RiskReport.Id
import RiskReport.Text.Quoted

/-!
# Mail

The two messages that are sent: that a report is ready, and that a payment was received.
-/

namespace RiskReport

/-- A message that a report is ready. -/
structure ReportReady where
  recipient : String
  businessName : Option String
  accessToken : AccessToken
  deriving DecidableEq, Repr, Inhabited

/-- A receipt for a payment. -/
structure Receipt where
  recipient : String
  businessName : Option String
  amountCents : Int
  currency : String
  deriving DecidableEq, Repr, Inhabited

/-- A message to be sent. -/
inductive Mail where
  | reportReady (message : ReportReady)
  | receipt (message : Receipt)
  deriving DecidableEq, Repr, Inhabited

/-- Why a message was not sent. -/
inductive MailError where
  | http (failure : Http.Failure)
  | rejected (status : Nat) (reason : String)
  | invalidRecipient (recipient : String)
  deriving DecidableEq, Repr, Inhabited

/-- The wording of a failure to send. -/
def MailError.message : MailError → String
  | .http failure => "http error: " ++ failure.message
  | .rejected status reason =>
    "mail provider rejected the message (" ++ toString status ++ "): " ++ reason
  | .invalidRecipient r => "invalid recipient: " ++ Text.quoted r

end RiskReport
