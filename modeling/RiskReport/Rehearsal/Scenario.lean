import RiskReport.Access
import RiskReport.Payment.Checkout
import RiskReport.Payment.Process
import RiskReport.Rehearsal.Schedule

/-!
# Scenarios

A scenario is a list of steps on a stage: requests to the store itself, settings of the
collaborators, calls of the services, and the passing of time. `Stage.perform` does one step and
says what came of it. A service that has to wait lets the tasks of the runner work meanwhile; other
steps do so when they end, if they touch the runner.
-/

namespace RiskReport.Rehearsal

/-- One step of a scenario. -/
inductive Step where
  | store (call : StoreCall)
  | insertSession (session : Session)
  | insertQuestion (question : Question)
  /-- The unfinished reports begun so many seconds from now or later, or ever. -/
  | pending (seconds : Option Int)
  | backdateEvent (id : String) (by_ : Duration)
  | event (id : String)
  | fault (fault : Fault)
  | hedger (turns : List HedgerTurn)
  | mailer (fails : Bool)
  | enqueuer (mode : EnqueueMode)
  /-- Change the behaviour of the payment service, and forget the secret of an intent. -/
  | gateway (setting : GatewaySetting) (forget : Option String)
  /-- Read and empty the journal. -/
  | journal
  | process (event : PaymentEvent)
  | checkout (session : SessionId) (email : String)
  | runJob (report : ReportId)
  | fetch (token : String)
  | start
  | enqueue (report : ReportId)
  | scanOnce
  | stats
  | advance (millis : Nat)
  | trigger
  | dropTrigger
  | isTriggered
  | waitShutdown
  | join (millis : Nat)
  | runnerConfig
  | describeRunner
  | describeJob

/-- What is known of a runner that was waited for. -/
inductive JoinOutcome where
  | stopped
  | running
  | notStarted
  deriving DecidableEq, Repr, Inhabited

/-- What came of a step. -/
inductive Outcome where
  | done
  | refused (error : StoreError)
  | store (call : StoreCall) (value : call.Value)
  | event (entry : Option EventEntry)
  | journal (calls : List (Nat × ServiceCall))
  | processed (result : Except PaymentError Disposition)
  | ticket (result : Except PaymentError Ticket)
  | job (result : Except JobError Unit)
  | fetched (result : Except StoreError ReportAccess)
  | enqueued (result : Except EnqueueError Unit)
  | count (n : Nat)
  | flag (value : Bool)
  | stats (stats : RunnerStats)
  | joined (outcome : JoinOutcome)
  | config (config : RunnerConfig)
  | text (value : String)
  /-- A collaborator or the store broke down. -/
  | crashed

namespace Stage

/-- Run a service to its end, for so many waits at most; nothing, if a collaborator breaks down. -/
def finishService {α : Type} : (waits : Nat) → Progress α × World → Stage → Option α × Stage
  | _, (.done a, w), s => (some a, s.withWorld w)
  | _, (.crashed, w), s => (none, s.withWorld w)
  | 0, (.waiting _, w), s => (none, s.withWorld w)
  | n + 1, (.waiting p, w), s =>
    let s := (s.withWorld w).sleepUntil p.timer.due
    finishService n (p.resume s.world) s

/-- Run a service. -/
def serve {α : Type} (s : Stage) (p : Service α) : Option α × Stage :=
  finishService polls (runService p s.world) s

/-- Run a scan to its end, for so many waits at most. -/
def finishScan : (waits : Nat) → WorkProgress Nat × World → Stage → Option Nat × Stage
  | _, (.done n, w), s => (some n, s.withWorld w)
  | n + 1, (.scanning job next, w), s =>
    let s := (s.withWorld w).sleepUntil job.timer.due
    finishScan n ((WorkProgress.scanning job next).poll s.world) s
  | _, (_, w), s => (none, s.withWorld w)

/-- The outcome of a service. -/
def outcome {α : Type} (name : α → Outcome) : Option α × Stage → Outcome × Stage
  | (some a, s) => (name a, s)
  | (none, s) => (.crashed, s)

/-- Ask the store itself. -/
def askStore (s : Stage) (call : StoreCall) : Outcome × Stage :=
  match s.world.askStore call with
  | (.ok value, w) => (.store call value, s.withWorld w)
  | (.error e, w) => (.refused e, s.withWorld w)

/-- Change the memory of the store, unless the store is broken. -/
def changeMemory (s : Stage) (change : Memory → Outcome × Memory) : Outcome × Stage :=
  if s.world.broken then (.refused (.database "in-memory store lock poisoned"), s)
  else
    let (outcome, memory) := change s.world.memory
    (outcome, s.withWorld { s.world with memory })

/-- Move the last claim of an event into the past. A time that is out of range breaks the store. -/
def backdateEvent (s : Stage) (id : String) (by_ : Duration) : Outcome × Stage :=
  match Instant.shiftOf? by_ with
  | none =>
    (.refused (.corrupt "Source duration value is out of range for the target type"), s)
  | some n =>
    if s.world.broken then (.refused (.database "in-memory store lock poisoned"), s)
    else
      match s.world.memory.event id with
      | .error e => (.refused e, s)
      | .ok entry =>
        match entry.receivedAt.shift? (-(n : Int)) with
        | none => (.crashed, s.withWorld { s.world with broken := true })
        | some receivedAt =>
          let memory := s.world.memory.insertEvent id { entry with receivedAt }
          (.done, s.withWorld { s.world with memory })

/-- The unfinished reports begun so many seconds from now or later. -/
def pendingSince (s : Stage) : Option Int → Outcome × Stage
  | none => s.askStore (.pendingReports .earliest)
  | some seconds =>
    let (now, w) := s.world.readClock
    let since := (now.shift? (seconds * Duration.perSecond)).getD .earliest
    (s.withWorld w).askStore (.pendingReports since)

/-- Stop the work; says whether the signal was given. -/
def stopped (s : Stage) (shutdown : Shutdown) : Outcome × Stage :=
  let s := s.stop shutdown
  (.flag s.world.shutdown.isTriggered, s)

/-- Wait for the runner to stop, for some milliseconds at most. -/
def join (s : Stage) (millis : Nat) : Outcome × Stage :=
  match s.overseer with
  | none => (.joined .notStarted, s)
  | some _ =>
    let s :=
      if s.hasStopped || millis = 0 then s else s.waited (s.world.now + millis) hasStopped
    if s.hasStopped then (.joined .stopped, { s with overseer := none })
    else (.joined .running, s)

/-- Change the settings of the payment service. -/
def setGateway (s : Stage) (setting : GatewaySetting) (forget : Option String) : Stage :=
  let secrets := match forget with
    | none => s.world.gateway.secrets
    | some intent => s.world.gateway.secrets.filter (·.1 != intent)
  s.withWorld { s.world with gateway := { s.world.gateway with setting, secrets } }

/-- Do one step. -/
def perform (s : Stage) : Step → Outcome × Stage
  | .store call => s.askStore call
  | .insertSession x => s.changeMemory fun m => (.done, m.insertSession x)
  | .insertQuestion q => s.changeMemory fun m => (.done, m.insertQuestion q)
  | .pending seconds => s.pendingSince seconds
  | .backdateEvent id by_ => s.backdateEvent id by_
  | .event id => s.changeMemory fun m => (.event (m.events.get? id), m)
  | .fault f => (.done, s.withWorld { s.world with faults := s.world.faults ++ [f] })
  | .hedger turns => (.done, s.withWorld { s.world with hedger := turns })
  | .mailer fails => (.done, s.withWorld { s.world with mailFails := fails })
  | .enqueuer mode => (.done, s.withWorld { s.world with enqueueMode := mode })
  | .gateway setting forget => (.done, s.setGateway setting forget)
  | .journal =>
    (.journal s.world.journal.reverse, s.withWorld { s.world with journal := [] })
  | .process e => outcome .processed (s.serve (processEvent s.world.price e))
  | .checkout id email => outcome .ticket (s.serve (beginCheckout s.world.price id email))
  | .runJob id => outcome .job (s.serve (makeReport s.world.settings id))
  | .fetch token => outcome .fetched (s.serve (fetchReport token))
  | .start => (.done, s.startRunner)
  | .enqueue id =>
    let (r, w) := s.world.enqueueLogged [] id
    (.enqueued r, (s.withWorld w).settled)
  | .scanOnce =>
    let (n, s) := finishScan polls (runWork (RiskReport.scanOnce s.world.config) s.world) s
    (outcome .count (n, s.settled))
  | .stats => (.stats s.world.queue.stats, s)
  | .advance millis =>
    let s := (s.sleepUntil (s.world.now + millis)).settled
    (.count s.world.now, s)
  | .trigger =>
    if s.world.shutdown.dropped then (.flag s.world.shutdown.isTriggered, s)
    else s.stopped s.world.shutdown.trigger
  | .dropTrigger => s.stopped s.world.shutdown.drop
  | .isTriggered => (.flag s.world.shutdown.isTriggered, s)
  | .waitShutdown =>
    let s := if s.world.shutdown.isRequested then s else s.sleepUntil (s.world.now + 1000)
    (.flag s.world.shutdown.isRequested, s)
  | .join millis => s.join millis
  | .runnerConfig => (.config s.world.config, s)
  | .describeRunner => (.text (describeRunner s.world.config s.world.queue.stats), s)
  | .describeJob => (.text s.world.settings.describe, s)

/-- A stage before the first step of a scenario; nothing, if there is none. -/
def scenario? (config : RunnerConfig) (thresholds : TierThresholds) (price : Price)
    (usesRunner : Bool) : Option Stage :=
  (opening? config ⟨thresholds, "stub"⟩).map fun s =>
    s.withWorld { s.world with price, usesRunner }

/-- Read and empty the log. -/
def takeLog (s : Stage) : List Log.Entry × Stage :=
  (s.world.log.reverse, s.withWorld { s.world with log := [] })

end Stage

end RiskReport.Rehearsal
