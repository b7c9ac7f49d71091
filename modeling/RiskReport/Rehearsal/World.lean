import RiskReport.Backend
import RiskReport.Job.Runner
import RiskReport.Rehearsal.Database
import RiskReport.Rehearsal.Fault
import RiskReport.Rehearsal.Hedger
import RiskReport.Store.Memory

/-!
# The world of a rehearsal

Everything that services work with, as one value: a store in memory with its faults, stand-ins for
the collaborators, the queue of reports, a clock for waits and a clock for stored times, a journal
of what was asked, and the log. A world that is live has no use for the store in memory and for
some of the stand-ins: its services go through their backend to a scripted database.
`World.begin` starts a request of a service and `World.complete` answers one that had to wait.
-/

namespace RiskReport.Rehearsal

open Log

/-- How a stand-in for the hedger answers one call. -/
structure HedgerTurn where
  stub : HedgerStub := {}
  /-- The milliseconds that the call waits first. -/
  delay : Nat := 0
  /-- Whether the call breaks down after the wait. -/
  panics : Bool := false
  deriving DecidableEq, Repr, Inhabited

/-- How the stand-in for the queue answers the service that deals with payments. -/
inductive EnqueueMode where
  | normal
  | full
  | closed
  deriving DecidableEq, Repr, Inhabited

/-- How the stand-in for the payment service behaves. -/
structure GatewaySetting where
  createError : Option String := none
  /-- An intent that somebody else attaches while one is prepared. -/
  racer : Option String := none
  /-- Whether the secret of that intent can be had. -/
  racerSecret : Bool := true
  customerRef : Option String := some "cus_1"
  deriving DecidableEq, Repr, Inhabited

/-- The stand-in for the payment service. -/
structure Gateway where
  setting : GatewaySetting := {}
  /-- How many intents have been prepared. -/
  prepared : Nat := 0
  /-- The secrets that can be had, by intent. -/
  secrets : List (String × String) := []
  deriving DecidableEq, Repr, Inhabited

/-- A backend of services with a scripted database behind it and without a network. -/
structure LiveBackend where
  backend : Backend
  database : ScriptedDatabase

/-- Answer a request to the outside. -/
def LiveBackend.answer : (call : OutsideCall) → ScriptedDatabase → call.Answer × ScriptedDatabase
  | .database request, d => d.answer request
  | .http request, d => (.error (.noReply request.url), d)

/-- Everything that services work with. -/
structure World where
  memory : Memory := {}
  /-- Whether the store broke down and refuses everything. -/
  broken : Bool := false
  faults : List Fault := []
  live : Option LiveBackend := none
  /-- The answers of the hedger; the last one is repeated. -/
  hedger : List HedgerTurn := []
  mailFails : Bool := false
  enqueueMode : EnqueueMode := .normal
  /-- Whether reports of confirmed payments are handed to the runner. -/
  usesRunner : Bool := false
  gateway : Gateway := {}
  price : Price := .standard
  settings : JobSettings
  config : RunnerConfig
  queue : JobQueue
  /-- Whether a report was queued that nobody has been told of. -/
  queued : Bool := false
  shutdown : Shutdown := {}
  /-- The milliseconds that have passed. -/
  now : Nat := 0
  /-- How often the clock for stored times was read. -/
  readings : Nat := 0
  /-- How many waits have begun. -/
  waits : Nat := 0
  /-- What was asked, and when, the latest first. -/
  journal : List (Nat × ServiceCall) := []
  /-- What was logged, the latest first. -/
  log : List Entry := []

namespace World

/-- Read the clock for stored times. -/
def readClock (w : World) : Instant × World :=
  (Clock.timeAfter (w.readings + 1), { w with readings := w.readings + 1 })

/-- What a request to the store takes from outside. -/
def supply (w : World) : Supply × World :=
  let (now, w) := w.readClock
  let s : Supply :=
    { now
      session := ⟨Clock.mint w.readings 0⟩
      report := ⟨Clock.mint w.readings 1⟩
      token := Clock.mintToken w.readings
      row := fun i => ⟨Clock.mint w.readings (i + 2)⟩ }
  (s, w)

/-- Ask the store itself. -/
def askStore (w : World) (call : StoreCall) : Except StoreError call.Value × World :=
  if w.broken then (.error (.database "in-memory store lock poisoned"), w)
  else
    let (supply, w) := w.supply
    let (r, memory) := w.memory.answer supply call
    (r, { w with memory })

/-- The answer of a session that had an empty intent attached. -/
def blankAttachment (w : World) (p : NewIntent) : Except StoreError Attachment :=
  match w.memory.sessions.get? p.session with
  | some s => .ok (.alreadyAttached { s with intentRef := some "" })
  | none => .error (.notFound ("session " ++ p.session.write))

/-- Ask the store, disturbed by a fault. -/
def askDisturbed (w : World) (d : Disturbance) (call : StoreCall) :
    Except StoreError call.Value × World :=
  match d.error, d.alteration, call with
  | some e, _, _ => (.error e, w)
  | none, some .blankIntent, .attachIntent p => (w.blankAttachment p, w)
  | none, some a, call =>
    let (r, w) := w.askStore call
    (a.apply call r, w)
  | none, none, call => w.askStore call

/-- What is left to do for a request that has to wait. -/
inductive AfterWait : ServiceCall → Type where
  | store (call : StoreCall) (d : Disturbance) : AfterWait (.store call)
  | hedge (risks : List ScoredRisk) (turn : HedgerTurn) : AfterWait (.hedge risks)

/-- How a request goes on. -/
inductive Begun (call : ServiceCall) where
  | answered (answer : call.Answer)
  /-- The request waits for some milliseconds. -/
  | waits (delay : Nat) (rest : AfterWait call)

/-- Answer a request that has waited; nothing, if it breaks down. -/
def complete (w : World) : {call : ServiceCall} → AfterWait call → Option call.Answer × World
  | _, .store call d =>
    let (r, w) := w.askDisturbed d call
    (some r, w)
  | _, .hedge risks turn =>
    (if turn.panics then none else some (turn.stub.answer risks), w)

/-- Log an event. -/
def note (w : World) (spans : List Span) (event : Event) : World :=
  { w with log := ⟨spans, event⟩ :: w.log }

/-- Queue a report. -/
def enqueue (w : World) (r : ReportId) : Except EnqueueError Bool × World :=
  let (answer, queue) := w.queue.enqueue r
  let queued := match answer with
    | .ok true => true
    | _ => w.queued
  (answer, { w with queue, queued })

/-- Queue a report and log what became of it. -/
def enqueueLogged (w : World) (spans : List Span) (r : ReportId) :
    Except EnqueueError Unit × World :=
  match w.enqueue r with
  | (.ok queued, w) => (.ok (), w.note spans (enqueueEvent r queued))
  | (.error e, w) => (.error e, w)

/-- Take a report of the service that deals with payments. -/
def handOff (w : World) (spans : List Span) (r : ReportId) : Except EnqueueError Unit × World :=
  match w.enqueueMode with
  | .full => (.error (.full r), w)
  | .closed => (.error (.closed r), w)
  | .normal => if w.usesRunner then w.enqueueLogged spans r else (.ok (), w)

/-- The answer of the hedger to the next call. -/
def nextTurn (w : World) : HedgerTurn × World :=
  match w.hedger with
  | [] => ({}, w)
  | [turn] => (turn, w)
  | turn :: rest => (turn, { w with hedger := rest })

/-- Let somebody else attach an intent while one is prepared. -/
def race (w : World) (session : SessionId) : World :=
  match w.gateway.setting.racer with
  | none => w
  | some rival =>
    let attaching : NewIntent :=
      { session, customerRef := none, intent := rival, email := some "rival@example.com" }
    let (_, w) := w.askStore (.attachIntent attaching)
    if w.gateway.setting.racerSecret then
      let secrets := (rival, rival ++ "_secret") :: w.gateway.secrets
      { w with gateway := { w.gateway with secrets } }
    else w

/-- Prepare a payment. -/
def createPayment (w : World) (p : NewPayment) : Except PaymentError PaymentIntent × World :=
  match w.gateway.setting.createError with
  | some reason => (.error (.gateway reason), w)
  | none =>
    let w := w.race p.session
    let n := w.gateway.prepared + 1
    let id := "pi_" ++ toString n
    let secret := id ++ "_secret"
    let gateway :=
      { w.gateway with prepared := n, secrets := (id, secret) :: w.gateway.secrets }
    (.ok ⟨id, w.gateway.setting.customerRef, secret⟩, { w with gateway })

/-- The secret of a prepared payment. -/
def clientSecret (w : World) (intent : String) : Except PaymentError String :=
  match w.gateway.secrets.lookup intent with
  | some secret => .ok secret
  | none => .error (.gateway ("no such intent " ++ intent))

/-- Start a request that may have to wait. -/
def start (w : World) {call : ServiceCall} (delay : Nat) (rest : AfterWait call) :
    Option (Begun call) × World :=
  if delay = 0 then
    let (answer, w) := w.complete rest
    (answer.map .answered, w)
  else (some (.waits delay rest), w)

/-- Answer a request of a service through the backend, if there is one that serves it. -/
def askBackend? (w : World) (spans : List Span) (call : ServiceCall) :
    Option (call.Answer × World) := do
  let live ← w.live
  let p ← live.backend.serve? call
  let (r, database, entries) := (p.within spans).runWith LiveBackend.answer live.database
  return (r, { w with live := some { live with database }, log := entries.reverse ++ w.log })

/-- Start a request of a service to the stand-ins; nothing, if it breaks down. -/
def beginRehearsed (w : World) (spans : List Span) (call : ServiceCall) :
    Option (Begun call) × World :=
  match call with
  | .store call =>
    match Fault.take (methodName call) w.faults with
    | (none, faults) =>
      let (r, w) := { w with faults }.askStore call
      (some (.answered r), w)
    | (some f, faults) => { w with faults }.start (f.hang.getD 0) (.store call f.disturbance)
  | .hedge risks =>
    let (turn, w) := w.nextTurn
    w.start turn.delay (.hedge risks turn)
  | .mail _ =>
    let r : Except MailError Unit :=
      if w.mailFails then .error (.rejected 500 "mail down") else .ok ()
    (some (.answered r), w)
  | .enqueue r =>
    let (r, w) := w.handOff spans r
    (some (.answered r), w)
  | .createPayment p =>
    let (r, w) := w.createPayment p
    (some (.answered r), w)
  | .clientSecret intent => (some (.answered (w.clientSecret intent)), w)

/-- Start a request of a service; nothing, if it breaks down. -/
def begin (w : World) (spans : List Span) (call : ServiceCall) : Option (Begun call) × World :=
  let w := { w with journal := (w.now, call) :: w.journal }
  match w.askBackend? spans call with
  | some (r, w) => (some (.answered r), w)
  | none => w.beginRehearsed spans call

end World

end RiskReport.Rehearsal
