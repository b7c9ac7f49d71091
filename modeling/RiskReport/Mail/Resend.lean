import RiskReport.Json.Decode
import RiskReport.Mail.Template

/-!
# Sending mail

Messages are posted to the mail service Resend. A recipient that cannot be an address is refused
before anything is sent; a refusal by the service keeps the reason that it gives.
-/

namespace RiskReport

open Json Log Text

/-- An account with the mail service, and whom mail comes from. -/
structure Resend where
  apiKey : String
  sender : String
  /-- The address under which reports are shown. -/
  siteUrl : String
  apiUrl : String
  deriving DecidableEq, Repr, Inhabited

namespace Resend

/-- The address of the service. -/
def defaultApiUrl : String := "https://api.resend.com/emails"

/-- An account that sends in the name of somebody. -/
def account (apiKey senderAddress senderName siteUrl : String) (apiUrl : String := defaultApiUrl) :
    Resend where
  apiKey := apiKey
  sender := senderName ++ " <" ++ senderAddress ++ ">"
  siteUrl := dropTrailingSlashes siteUrl
  apiUrl := apiUrl

/-- The address of a report. -/
def reportUrl (r : Resend) (token : AccessToken) : String :=
  r.siteUrl ++ "/report/" ++ token.text

/-- Whether a text may be the address of a recipient. -/
def validRecipient (recipient : String) : Bool :=
  !isBlankText recipient && recipient.toList.contains '@'

/-- The request that sends a message. -/
def request (r : Resend) (recipient subject html : String) : Http.Request where
  url := r.apiUrl
  headers := [("authorization", "Bearer " ++ r.apiKey), ("content-type", "application/json")]
  body := .record [("from", .string r.sender), ("to", .array [.string recipient]),
    ("subject", .string subject), ("html", .string html)]

/-- The name and the message of an error that the service reports. -/
def errorBody : Decoder (String × String) :=
  .struct "ErrorBody" <|
    Prod.mk <$> Fields.withDefault "name" .string "" <*> .withDefault "message" .string ""

/-- The reason that the service gives for a refusal, or the beginning of what it says. -/
def refusal (body : String) : String :=
  let (name, message) := (errorBody.ofText body).toOption.getD ("", "")
  if message.isEmpty then excerpt Http.excerptLength body
  else if name.isEmpty then message
  else name ++ ": " ++ message

/-- Post a message. -/
def post (r : Resend) (recipient subject html : String) :
    Program Http.interface (Except MailError Unit) :=
  if !validRecipient recipient then .done (.error (.invalidRecipient recipient))
  else do
    match ← Http.post (r.request recipient subject html) with
    | .error failure => return .error (.http failure)
    | .ok reply =>
      if reply.isSuccess then
        .report {
          level := .debug
          target := .mail
          message := some "email accepted"
          fields := [("status", .ofNat reply.status)] }
        return .ok ()
      else
        match reply.body with
        | none => return .error (.http .brokenBody)
        | some body => return .error (.rejected reply.status (refusal body))

/-- Send a message. -/
def send (r : Resend) : Mail → Program Http.interface (Except MailError Unit)
  | .reportReady m =>
    .traced ⟨.mail, "send_report_ready", []⟩ MailError.message <|
      r.post m.recipient (subject m.businessName "Your Risk Assessment is Ready")
        (reportReadyHtml m.businessName (r.reportUrl m.accessToken))
  | .receipt m =>
    .traced ⟨.mail, "send_receipt", [("amount_cents", .int m.amountCents)]⟩ MailError.message <|
      r.post m.recipient (subject m.businessName "Payment Confirmed")
        (receiptHtml m.businessName (formatAmount m.amountCents m.currency))

end Resend

end RiskReport
