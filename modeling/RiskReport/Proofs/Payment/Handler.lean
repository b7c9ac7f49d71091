import RiskReport.Payment.Process
import RiskReport.Proofs.Program

/-!
# Handlers of a payment event

A handler of an event records it. If the event is its to handle, it does its work and then closes
the record, exactly once; otherwise it is finished. `Handles` says this of a program, by where the
program stands with the event: it waits, works, or is finished. A program that has nothing to do
with the event is a handler as well, which never gets to work.

What else dealing with an event takes is listed by `PaymentEvent.Needs`. It depends on the kind of
the event and on the intent that it names, and leaves the records of events alone.

**Theorem (`handles_processEvent`).** Dealing with a payment event is handling it in this sense.
-/

namespace RiskReport

open Program

/-- The request concerns the record of an event. -/
def StoreCall.Touches (id : String) : StoreCall → Prop
  | .recordEvent id' _ _ | .completeEvent id' _ => id' = id
  | _ => False

/-- The request leaves the record of an event alone. -/
def ServiceCall.Leaves (id : String) : ServiceCall → Prop
  | .store call => ¬ call.Touches id
  | _ => True

/-- Where a handler stands with an event. -/
inductive Phase where
  | waiting
  | working
  | finished
  deriving DecidableEq, Repr, Inhabited

/-- Where a handler stands that has recorded the event. -/
def Phase.recorded : Except StoreError EventRecord → Phase
  | .ok .recorded => .working
  | _ => .finished

/-- A program handles an event, and stands somewhere with it. -/
inductive Handles {α : Type} (id : String) : Phase → Service α → Prop
  | done {phase : Phase} (a : α) (h : phase ≠ .working) : Handles id phase (.done a)
  | log {phase : Phase} {spans : List Log.Span} {event : Log.Event} {next : Service α}
      (h : Handles id phase next) : Handles id phase (.log spans event next)
  | record {spans : List Log.Span} {kind : String} {payload : Json}
      {next : Except StoreError EventRecord → Service α}
      (h : ∀ answer, Handles id (.recorded answer) (next answer)) :
      Handles id .waiting (.ask spans (.store (.recordEvent id kind payload)) next)
  | close {spans : List Log.Span} {error : Option String}
      {next : Except StoreError Unit → Service α}
      (h : ∀ answer, Handles id .finished (next answer)) :
      Handles id .working (.ask spans (.store (.completeEvent id error)) next)
  | other {phase : Phase} {spans : List Log.Span} {call : ServiceCall}
      {next : call.Answer → Service α} (other : call.Leaves id)
      (h : ∀ answer, Handles id phase (next answer)) : Handles id phase (.ask spans call next)

variable {α β : Type} {id : String} {phase : Phase}

/-- A program that leaves the event alone may come before a handler. -/
theorem Handles.after {p : Service α} {f : α → Service β} (hp : p.Asks (ServiceCall.Leaves id))
    (hf : ∀ a, Handles id phase (f a)) : Handles id phase (p.bind f) := by
  induction p with
  | done a => exact hf a
  | ask spans call next ih => exact .other hp.1 fun a => ih a (hp.2 a)
  | log spans event next ih => exact .log (ih hp)

/-- A program that leaves the event alone handles it, unless it has to close it. -/
theorem handles_of_asks {p : Service α} (hp : p.Asks (ServiceCall.Leaves id))
    (h : phase ≠ .working) : Handles id phase p := by
  rw [← p.bind_done]
  exact .after hp fun a => .done a h

theorem Handles.within {p : Service α} (outer : List Log.Span) (h : Handles id phase p) :
    Handles id phase (p.within outer) := by
  induction h with
  | done a h => exact .done a h
  | log _ ih => exact .log ih
  | record _ ih => exact .record ih
  | close _ ih => exact .close ih
  | other other _ ih => exact .other other ih

/-! ## The work on an event -/

/-- The requests that an event needs: the one that its kind calls for, and, if it confirms a
payment, those for the receipt and for the queue. -/
inductive PaymentEvent.Needs (event : PaymentEvent) : ServiceCall → Prop
  | confirm {intent : String} (kind : event.kind = succeeded) (named : event.intent = .ok intent) :
      Needs event (.store (.initialiseReport intent))
  | fail {intent : String} (kind : event.kind = failed) (named : event.intent = .ok intent) :
      Needs event (.store (.markPaymentFailed intent))
  | refund {intent : String} (kind : event.kind = refunded)
      (named : event.chargeIntent = .ok intent) : Needs event (.store (.markRefunded intent))
  | session (kind : event.kind = succeeded) (id : SessionId) :
      Needs event (.store (.getSession id))
  | mail (kind : event.kind = succeeded) (message : Mail) : Needs event (.mail message)
  | enqueue (kind : event.kind = succeeded) (report : ReportId) : Needs event (.enqueue report)

/-- Nothing that an event needs concerns the record of an event. -/
theorem PaymentEvent.Needs.leaves {event : PaymentEvent} {call : ServiceCall}
    (h : event.Needs call) : call.Leaves id := by
  cases h with
  | confirm | fail | refund | session => exact not_false
  | mail | enqueue => trivial

section

variable {event : PaymentEvent} {intent : String}

theorem asks_queueReport (kind : event.kind = PaymentEvent.succeeded) (report : ReportId) :
    (queueReport report).Asks event.Needs := by
  refine Asks.bind (asks_request (.enqueue kind report)) fun answer => ?_
  rcases answer with e | ⟨⟩
  · exact asks_report _
  · exact asks_done ()

theorem asks_sendReceipt (kind : event.kind = PaymentEvent.succeeded) (price : Price)
    (session : SessionId) : (sendReceipt price session).Asks event.Needs := by
  refine Asks.bind (asks_request (.session kind session)) fun answer => ?_
  rcases answer with e | _ | session
  · exact asks_report _
  · exact asks_done ()
  · dsimp only
    split
    · exact asks_done ()
    · refine Asks.bind (asks_request (.mail kind _)) fun answer => ?_
      rcases answer with e | ⟨⟩
      · exact asks_report _
      · exact asks_done ()

theorem asks_confirmPayment (kind : event.kind = PaymentEvent.succeeded)
    (named : event.intent = .ok intent) (price : Price) :
    (confirmPayment price intent).Asks event.Needs := by
  refine Asks.bind (asks_request (.confirm kind named)) fun answer => ?_
  rcases answer with e | report | report
  · exact asks_done _
  · refine Asks.bind (asks_report _) fun _ => Asks.bind (asks_sendReceipt kind _ _) fun _ => ?_
    exact Asks.bind (asks_queueReport kind _) fun _ => asks_done _
  · dsimp only
    split
    · exact Asks.bind (asks_report _) fun _ => asks_done _
    · refine Asks.bind (asks_report _) fun _ => ?_
      exact Asks.bind (asks_queueReport kind _) fun _ => asks_done _

theorem asks_failPayment (kind : event.kind = PaymentEvent.failed)
    (named : event.intent = .ok intent) : (failPayment intent).Asks event.Needs := by
  refine Asks.bind (asks_request (.fail kind named)) fun answer => ?_
  rcases answer with e | ⟨⟩
  · exact asks_done _
  · exact Asks.bind (asks_report _) fun _ => asks_done _

theorem asks_refundPayment (kind : event.kind = PaymentEvent.refunded)
    (named : event.chargeIntent = .ok intent) : (refundPayment intent).Asks event.Needs := by
  refine Asks.bind (asks_request (.refund kind named)) fun answer => ?_
  rcases answer with (_ | _ | _ | _ | _) | ⟨⟩
  case error.notFound => exact Asks.bind (asks_report _) fun _ => asks_done _
  case ok => exact Asks.bind (asks_report _) fun _ => asks_done _
  all_goals exact asks_done _

/-- Dealing with an event by its kind takes no more than what the event needs. -/
theorem asks_dispatchEvent (price : Price) (event : PaymentEvent) :
    (dispatchEvent price event).Asks event.Needs := by
  unfold dispatchEvent
  split
  · next succeeded =>
    split
    · exact asks_done _
    · next named => exact asks_confirmPayment succeeded named price
  · split
    · next failed =>
      split
      · exact asks_done _
      · next named => exact asks_failPayment failed named
    · split
      · next refunded =>
        split
        · exact Asks.bind (asks_report _) fun _ => asks_done _
        · next named => exact asks_refundPayment refunded named
      · exact Asks.bind (asks_report _) fun _ => asks_done _

/-- What dealing with an event takes: what the event needs, and its record. -/
def PaymentEvent.Takes (event : PaymentEvent) : ServiceCall → Prop
  | .store call => event.Needs (.store call) ∨ call.Touches event.id
  | call => event.Needs call

theorem PaymentEvent.Needs.takes {call : ServiceCall} (h : event.Needs call) :
    event.Takes call := by
  cases call with
  | store call => exact .inl h
  | hedge | mail | enqueue | createPayment | clientSecret => exact h

theorem PaymentEvent.Takes.leaves {call : ServiceCall} (h : event.Takes call)
    (other : event.id ≠ id) : call.Leaves id := by
  cases call with
  | store call =>
    rcases h with h | h
    · exact h.leaves
    · cases call with
      | recordEvent | completeEvent =>
        obtain rfl := h
        exact other
      | _ => exact h.elim
  | hedge | mail | enqueue | createPayment | clientSecret => trivial

theorem asks_closeEvent (error : Option String) : (closeEvent event error).Asks event.Takes := by
  refine Asks.bind (asks_request (.inr rfl)) fun answer => ?_
  rcases answer with e | ⟨⟩
  · exact asks_report _
  · exact asks_done ()

/-- Recording an event, dealing with it and closing its record takes no more than that. -/
theorem asks_processEvent (price : Price) (event : PaymentEvent) :
    (processEvent price event).Asks event.Takes := by
  refine Asks.within _ (Asks.bind (asks_request (.inr rfl)) fun answer => ?_)
  rcases answer with e | _ | _
  · exact asks_done _
  · refine Asks.bind ((asks_dispatchEvent price event).imp fun _ h => h.takes) fun result => ?_
    rcases result with e | disposition
    · refine Asks.bind (asks_report _) fun _ => ?_
      exact Asks.bind (asks_closeEvent _) fun _ => asks_done _
    · exact Asks.bind (asks_closeEvent none) fun _ => asks_done _
  · exact Asks.bind (asks_report _) fun _ => asks_done _

end

/-! ## Handling -/

/-- Closing the record finishes a handler, whatever comes after it. -/
theorem handles_closeEvent (event : PaymentEvent) (error : Option String) (a : α) :
    Handles event.id .working ((closeEvent event error).bind fun _ => .done a) := by
  refine .close fun answer => handles_of_asks ?_ (by decide)
  rcases answer with e | ⟨⟩
  · exact Asks.bind (asks_report _) fun _ => asks_done a
  · exact asks_done a

theorem handles_handleEvent (price : Price) (event : PaymentEvent) :
    Handles event.id .working (handleEvent price event) := by
  refine .after ((asks_dispatchEvent price event).imp fun _ h => h.leaves) fun result => ?_
  rcases result with e | disposition
  · exact .after (asks_report _) fun _ => handles_closeEvent event _ _
  · exact handles_closeEvent event none _

/-- Dealing with a payment event is handling it. -/
theorem handles_processEvent (price : Price) (event : PaymentEvent) :
    Handles event.id .waiting (processEvent price event) := by
  refine .within _ (.record fun answer => ?_)
  rcases answer with e | _ | _
  · exact .done _ (by simp [Phase.recorded])
  · exact handles_handleEvent price event
  · exact .log (.done _ (by simp [Phase.recorded]))

end RiskReport
