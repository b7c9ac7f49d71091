import RiskReport.Job.Queue
import RiskReport.Job.Shutdown

/-!
# The work on reports

Workers take reports from the queue and make them. A failed or late attempt is repeated as the
policy says; after the last one the report is given up. A recovery scan queues the unfinished
reports that the queue never got. The programs here ask for what depends on time and on other
work: the next report, an attempt within its time, a wait. When the work is stopped, attempts and
waits are interrupted and the report is left to a later recovery scan; a report that is being given
up is given up.
-/

namespace RiskReport

open Log

/-- How an attempt ended. -/
inductive Attempt where
  | finished (result : Except JobError Unit)
  | timedOut
  /-- The work was stopped meanwhile. -/
  | interrupted

/-- Something that is counted. -/
inductive Counter where
  | completed
  | attemptFailed
  | failedPermanently
  deriving DecidableEq, Repr, Inhabited

/-- Count something. -/
def RunnerStats.count (s : RunnerStats) : Counter → RunnerStats
  | .completed => { s with completed := s.completed + 1 }
  | .attemptFailed => { s with attemptsFailed := s.attemptsFailed + 1 }
  | .failedPermanently => { s with failedPermanently := s.failedPermanently + 1 }

/-- A request of the runner. -/
inductive RunnerCall where
  /-- Wait for a report; there is none when the work is stopped. -/
  | receive
  /-- Run a job, for so long at most. -/
  | attempt (timeout : Duration) (job : Service (Except JobError Unit))
  /-- Wait for a time; says whether the work was stopped meanwhile. -/
  | pause (delay : Duration)
  /-- Run a job for so long at most, even while the work is stopped; nothing, if it took longer. -/
  | insist (timeout : Duration) (job : Service (Except StoreError Unit))
  /-- Run a job of the recovery scan. -/
  | scan (job : Service (Except StoreError (List ReportId)))
  | enqueue (report : ReportId)
  | release (report : ReportId)
  | count (counter : Counter)
  | now

/-- What a request of the runner is answered with. -/
def RunnerCall.Answer : RunnerCall → Type
  | .receive => Option ReportId
  | .attempt .. => Attempt
  | .pause _ => Bool
  | .insist .. => Option (Except StoreError Unit)
  | .scan _ => Except StoreError (List ReportId)
  | .enqueue _ => Except EnqueueError Bool
  | .release _ => Unit
  | .count _ => Unit
  | .now => Instant

/-- The requests of the runner and their answers. -/
def runnerInterface : Interface where
  Call := RunnerCall
  Answer := RunnerCall.Answer

/-- A program of the runner. -/
abbrev Work (α : Type) := Program runnerInterface α

namespace Work

/-- Ask a request of the runner. -/
def request (call : RunnerCall) : Work call.Answer :=
  Program.request (I := runnerInterface) call

/-- Log an event of the runner. -/
def note (level : Level) (message : String) (fields : Fields := []) : Work Unit :=
  .report { level, target := .runner, message := some message, fields }

end Work

/-- Who works on which report, as the log shows it. -/
def workFields (worker : Nat) (report : ReportId) : Fields :=
  [("worker_id", .ofNat worker), ("report_id", .shown report.write)]

/-- The wording of an attempt that took too long. -/
def timeoutMessage (timeout : Duration) : String :=
  "job timed out after " ++ timeout.asSeconds.write .prose ++ "s"

/-- Give a report up after its last attempt. -/
def giveUp (config : RunnerConfig) (worker : Nat) (report : ReportId) (lastError : String) :
    Work Unit := do
  Work.request (.count .failedPermanently)
  Work.note .error "job permanently failed"
    (workFields worker report ++ [("error", .shown lastError)])
  match ← Work.request (.insist config.markFailedTimeout
      (Service.store (.markReportFailed report lastError))) with
  | some (.ok ()) => return ()
  | some (.error e) =>
    Work.note .error "failed to mark report as failed"
      [("report_id", .shown report.write), ("error", .shown e.message)]
  | none =>
    Work.note .error "timed out marking report as failed" [("report_id", .shown report.write)]

/-- Wait before the next attempt, if one follows; says whether the work was stopped meanwhile. -/
def backOff (config : RunnerConfig) (worker : Nat) (report : ReportId) (attempt : Nat) :
    Work Bool := do
  if config.retry.goesOn attempt then
    let stopped : Bool ← Work.request (.pause (config.retry.delay attempt))
    if stopped then
      Work.note .info "shutdown during backoff, leaving report for recovery"
        (workFields worker report)
    return stopped
  else return false

/-- Make the `left` attempts that are still allowed; `attempt` is the number of the next one. -/
def attempts (config : RunnerConfig) (settings : JobSettings) (worker : Nat)
    (report : ReportId) : (left attempt : Nat) → (lastError : String) → Work Unit
  | 0, _, lastError => giveUp config worker report lastError
  | left + 1, attempt, _ => do
    let failed (message : String) : Work Unit := do
      Work.request (.count .attemptFailed)
      Work.note .warn "job attempt failed"
        (workFields worker report ++
          [("attempt", .ofNat attempt), ("max_attempts", .ofNat config.retry.maxAttempts),
            ("error", .shown message)])
      if ← backOff config worker report attempt then return ()
      else attempts config settings worker report left (attempt + 1) message
    match ← Work.request (.attempt config.jobTimeout (makeReport settings report)) with
    | .interrupted =>
      Work.note .info "shutdown during attempt, leaving report for recovery"
        (workFields worker report ++ [("attempt", .ofNat attempt)])
    | .finished (.ok ()) =>
      Work.request (.count .completed)
      Work.note .info "job completed" (workFields worker report ++ [("attempt", .ofNat attempt)])
    | .finished (.error e) => failed e.message
    | .timedOut => failed (timeoutMessage config.jobTimeout)

/-- Work on a report until it is made, given up, or left to recovery. -/
def runWithRetry (config : RunnerConfig) (settings : JobSettings) (worker : Nat)
    (report : ReportId) : Work Unit :=
  attempts config settings worker report (max 1 config.retry.maxAttempts) 1 ""

/-- One turn of a worker: take a report and work on it. Says whether another turn follows. -/
def workerTurn (config : RunnerConfig) (settings : JobSettings) (worker : Nat) : Work Bool := do
  match ← Work.request .receive with
  | none =>
    Work.note .debug "worker stopping" [("worker_id", .ofNat worker)]
    return false
  | some report =>
    runWithRetry config settings worker report
    Work.request (.release report)
    return true

/-- The first turn of a worker. -/
def workerStart (config : RunnerConfig) (settings : JobSettings) (worker : Nat) : Work Bool := do
  Work.note .debug "worker started" [("worker_id", .ofNat worker)]
  workerTurn config settings worker

/-- The time since which a recovery scan looks for reports; the earliest, if the window is too
long. -/
def recoveryCutoff (now : Instant) (window : Duration) : Instant :=
  ((Instant.shiftOf? window).bind fun n => now.shift? (-(n : Int))).getD .earliest

/-- Queue reports until the queue is full; `queued` have been queued so far. -/
def queuePending : (queued : Nat) → List ReportId → Work Nat
  | queued, [] => return queued
  | queued, r :: rest => do
    match ← Work.request (.enqueue r) with
    | .ok true =>
      Work.note .debug "recovery scan queued report" [("report_id", .shown r.write)]
      queuePending (queued + 1) rest
    | .ok false => queuePending queued rest
    | .error e =>
      Work.note .debug "recovery scan stopped early" [("error", .shown e.message)]
      return queued

/-- Queue the unfinished reports of the recovery window; says how many were queued. -/
def scanOnce (config : RunnerConfig) : Work Nat := do
  let now ← Work.request .now
  let since := recoveryCutoff now config.recoveryWindow
  match ← Work.request (.scan (Service.store (.pendingReports since))) with
  | .error e =>
    Work.note .error "recovery scan failed" [("error", .shown e.message)]
    return 0
  | .ok pending => queuePending 0 pending

/-- The event of work that begins. -/
def runnerStarting (config : RunnerConfig) : Event where
  level := .info
  target := .runner
  message := some "runner starting"
  fields := [("workers", .ofNat config.workers),
    ("queue_capacity", .ofNat config.queueCapacity),
    ("poll_interval", .shown config.pollInterval.describe)]

/-- The event of work that has ended. -/
def runnerStopped (stats : RunnerStats) : Event where
  level := .info
  target := .runner
  message := some "runner stopped"
  fields := [("stats", .shown stats.describe)]

/-- The event of a report that was to be queued. -/
def enqueueEvent (report : ReportId) (queued : Bool) : Event where
  level := if queued then .info else .debug
  target := .runner
  message := some (if queued then "enqueued report" else "report already queued or running")
  fields := [("report_id", .shown report.write)]

/-- The runner in one line. -/
def describeRunner (config : RunnerConfig) (stats : RunnerStats) : String :=
  Text.record "Runner" [("config", config.describe), ("stats", stats.describe)]

end RiskReport
