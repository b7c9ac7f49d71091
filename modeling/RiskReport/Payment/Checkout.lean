import RiskReport.Service

/-!
# Starting a payment

A visitor who wants to pay gets the secret of a payment intent. If the session has an intent whose
secret can still be had, that is returned; otherwise a new intent is prepared and attached. Of two
that are attached at the same time the first one wins, and the loser returns the winner's secret.
-/

namespace RiskReport

open Log

/-- What the visitor's browser needs to confirm the payment. -/
structure Ticket where
  clientSecret : String
  /-- Whether the intent was attached before. -/
  isExisting : Bool
  deriving DecidableEq, Repr, Inhabited

/-- The secret of the intent that a session already has, unless it cannot be had. -/
def existingSecret? (session : Session) : Service (Option String) := do
  match session.attachedIntent? with
  | none => return none
  | some intent =>
    match ← Service.clientSecret intent with
    | .ok secret => return some secret
    | .error e =>
      .report {
        level := .warn
        target := .checkout
        message := some "existing intent unavailable, creating a new one"
        fields := [("intent", .text intent), ("error", .shown e.message)] }
      return none

/-- The secret of the intent that was attached before this one. -/
def winningSecret (winner : Session) (unused : PaymentIntent) :
    Service (Except PaymentError Ticket) := do
  .report {
    level := .info
    target := .checkout
    message := some "lost checkout race, returning existing intent"
    fields := [("unused_intent", .shown unused.id)] }
  match winner.attachedIntent? with
  | none => return .error (.gateway "attached session carries no intent")
  | some intent =>
    match ← Service.clientSecret intent with
    | .error e => return .error e
    | .ok secret => return .ok ⟨secret, true⟩

/-- Prepare a payment intent and attach it to a session. -/
def attachNewPayment (payment : NewPayment) : Service (Except PaymentError Ticket) := do
  match ← Service.createPayment payment with
  | .error e => return .error e
  | .ok intent =>
    let attaching : NewIntent :=
      { session := payment.session, customerRef := intent.customerRef, intent := intent.id,
        email := some payment.email }
    match ← Service.store (.attachIntent attaching) with
    | .error e => return .error (.store e)
    | .ok (.attached _) => return .ok ⟨intent.clientSecret, false⟩
    | .ok (.alreadyAttached winner) => winningSecret winner intent

/-- Start the payment of a session. -/
def beginCheckout (price : Price) (id : SessionId) (email : String) :
    Service (Except PaymentError Ticket) :=
  .traced ⟨.checkout, "begin", [("session_id", .shown id.write)]⟩ PaymentError.message do
    match Text.trimmed? email with
    | none => return .error (.validation "email is required")
    | some email =>
      match ← Service.store (.getSession id) with
      | .error e => return .error (.store e)
      | .ok none => return .error (.sessionNotFound id)
      | .ok (some session) =>
        match ← existingSecret? session with
        | some secret => return .ok ⟨secret, true⟩
        | none => attachNewPayment { price, email, session := id }

end RiskReport
