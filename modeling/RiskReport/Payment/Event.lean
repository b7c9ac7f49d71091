import RiskReport.Store.Call

/-!
# Payment events and payments

What the payment service tells of payments (`PaymentEvent`), what it is asked for (`NewPayment`,
`PaymentIntent`), and how dealing with either fails (`PaymentError`).
-/

namespace RiskReport

open Json

/-- Why a payment or an event of one cannot be dealt with. -/
inductive PaymentError where
  | missingField (event field : String)
  | sessionNotFound (session : SessionId)
  | validation (reason : String)
  | gateway (reason : String)
  | store (error : StoreError)
  deriving DecidableEq, Repr, Inhabited

/-- The wording of such a failure. -/
def PaymentError.message : PaymentError → String
  | .missingField event field => "event " ++ event ++ " has no `" ++ field ++ "`"
  | .sessionNotFound session => "session " ++ session.write ++ " not found"
  | .validation reason => "validation failed: " ++ reason
  | .gateway reason => "payment gateway error: " ++ reason
  | .store error => "store error: " ++ error.message

/-- An event of the payment service. The payload is the object that it is about. -/
structure PaymentEvent where
  id : String
  kind : String
  payload : Json
  deriving DecidableEq, Repr, Inhabited

namespace PaymentEvent

/-- The kind of event that confirms a payment. -/
def succeeded : String := "payment_intent.succeeded"

/-- The kind of event that reports a failed payment. -/
def failed : String := "payment_intent.payment_failed"

/-- The kind of event that reports a refund. -/
def refunded : String := "charge.refunded"

/-- A text of the payload that must be there and not be empty. -/
def textField (e : PaymentEvent) (field : String) : Except PaymentError String :=
  match ((e.payload.field? field).bind Json.text?).bind Text.nonEmpty? with
  | some s => .ok s
  | none => .error (.missingField e.id field)

/-- The payment intent that an event is about. -/
def intent (e : PaymentEvent) : Except PaymentError String :=
  e.textField "id"

/-- The payment intent of the charge that an event is about. -/
def chargeIntent (e : PaymentEvent) : Except PaymentError String :=
  e.textField "payment_intent"

/-- The event as JSON. -/
def toJson (e : PaymentEvent) : Json :=
  .record [("id", .string e.id), ("event_type", .string e.kind), ("payload", e.payload)]

/-- An event from JSON. -/
def decoder : Decoder PaymentEvent :=
  .struct "PaymentEvent" <|
    PaymentEvent.mk <$> .required "id" .string
      <*> .required "event_type" .string
      <*> .required "payload" .json

end PaymentEvent

/-- What a report costs. -/
structure Price where
  amountCents : Int
  currency : String
  deriving DecidableEq, Repr, Inhabited

/-- What a report costs unless something else is set. -/
def Price.standard : Price := ⟨5900, "usd"⟩

/-- A payment that the service is asked to prepare. -/
structure NewPayment where
  price : Price
  email : String
  session : SessionId
  deriving DecidableEq, Repr, Inhabited

/-- A payment that the service has prepared. -/
structure PaymentIntent where
  id : String
  customerRef : Option String
  clientSecret : String
  deriving DecidableEq, Repr, Inhabited

end RiskReport
