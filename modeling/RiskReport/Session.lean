import RiskReport.Id
import RiskReport.Status
import RiskReport.Time.Instant

/-!
# Sessions

A session is one anonymous visitor and the payment that the visitor makes. At most one payment
intent is ever attached to it; an empty intent counts as none.
-/

namespace RiskReport

open Json Text

/-- One anonymous visitor. -/
structure Session where
  id : SessionId
  /-- The bearer token that the visitor's browser holds. -/
  anonToken : String
  paymentStatus : PaymentStatus
  customerRef : Option String
  intentRef : Option String
  email : Option String
  businessName : Option String
  businessContext : Option String
  paidAt : Option Instant
  createdAt : Instant
  updatedAt : Instant
  deriving DecidableEq, Repr, Inhabited

namespace Session

/-- A session that begins now. -/
def opened (id : SessionId) (anonToken : String) (now : Instant) : Session where
  id := id
  anonToken := anonToken
  paymentStatus := .pending
  customerRef := none
  intentRef := none
  email := none
  businessName := none
  businessContext := none
  paidAt := none
  createdAt := now
  updatedAt := now

/-- The attached payment intent; an empty one counts as none. -/
def attachedIntent? (s : Session) : Option String :=
  s.intentRef.bind nonEmpty?

/-- The name of the business without the blanks around it; a blank one counts as none. -/
def businessName? (s : Session) : Option String :=
  s.businessName.bind trimmed?

/-- The session as JSON. -/
def toJson (s : Session) : Json :=
  .record [("id", s.id.toJson), ("anon_token", .string s.anonToken),
    ("payment_status", s.paymentStatus.toJson), ("customer_ref", .ofText? s.customerRef),
    ("payment_intent_ref", .ofText? s.intentRef), ("email", .ofText? s.email),
    ("business_name", .ofText? s.businessName),
    ("business_context", .ofText? s.businessContext),
    ("paid_at", .ofOption Instant.toJson s.paidAt), ("created_at", s.createdAt.toJson),
    ("updated_at", s.updatedAt.toJson)]

/-- A session from JSON. -/
def decoder : Decoder Session :=
  .struct "Session" <|
    Session.mk <$> .required "id" SessionId.decoder
      <*> .required "anon_token" .string
      <*> .required "payment_status" PaymentStatus.decoder
      <*> .optional "customer_ref" .string
      <*> .optional "payment_intent_ref" .string
      <*> .optional "email" .string
      <*> .optional "business_name" .string
      <*> .optional "business_context" .string
      <*> .optional "paid_at" Instant.decoder
      <*> .required "created_at" Instant.decoder
      <*> .required "updated_at" Instant.decoder

end Session

end RiskReport
