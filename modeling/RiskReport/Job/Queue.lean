import RiskReport.Job.Retry
import RiskReport.Job.Report

/-!
# The queue of reports

Reports wait in a bounded queue for a worker. A report that waits or is worked on is in flight, and
is not queued a second time. `JobQueue.enqueue` is the only way in; `JobQueue.receive?` and
`JobQueue.release` are the way out.
-/

namespace RiskReport

open Json

/-- How reports are worked on. -/
structure RunnerConfig where
  workers : Nat
  queueCapacity : Nat
  /-- The time between two recovery scans. -/
  pollInterval : Duration
  /-- The time that an attempt may take. -/
  jobTimeout : Duration
  retry : RetryPolicy
  /-- The age of the oldest report that a recovery scan finds. -/
  recoveryWindow : Duration
  /-- The time that giving a report up may take. -/
  markFailedTimeout : Duration
  deriving DecidableEq, Repr, Inhabited

namespace RunnerConfig

/-- The settings that are used unless something else is set. -/
def standard : RunnerConfig where
  workers := 3
  queueCapacity := 6
  pollInterval := .ofSeconds 30
  jobTimeout := .ofSeconds 300
  retry := .standard
  recoveryWindow := .ofSeconds 86400
  markFailedTimeout := .ofSeconds 10

/-- The largest number of workers of which twice as many can be counted. -/
def maxWorkers : Nat := (Nat.pow 2 64 - 1) / 2

/-- The largest number of places in a queue. -/
def maxCapacity : Nat := (Nat.pow 2 64 - 1) / 8

/-- Set the number of workers, and twice as many places in the queue; nothing, if those cannot be
counted. -/
def withWorkers? (c : RunnerConfig) (workers : Nat) : Option RunnerConfig :=
  let workers := max 1 workers
  if workers ≤ maxWorkers then some { c with workers, queueCapacity := workers * 2 } else none

/-- Set the number of places in the queue. -/
def withQueueCapacity (c : RunnerConfig) (capacity : Nat) : RunnerConfig :=
  { c with queueCapacity := max 1 capacity }

/-- The number of places that the queue has. -/
def places (c : RunnerConfig) : Nat := max 1 c.queueCapacity

/-- The number of workers that there are. -/
def hands (c : RunnerConfig) : Nat := max 1 c.workers

/-- The settings in one line. -/
def describe (c : RunnerConfig) : String :=
  Text.record "RunnerConfig"
    [("workers", toString c.workers), ("queue_capacity", toString c.queueCapacity),
      ("poll_interval", c.pollInterval.describe), ("job_timeout", c.jobTimeout.describe),
      ("retry", c.retry.describe), ("recovery_window", c.recoveryWindow.describe),
      ("mark_failed_timeout", c.markFailedTimeout.describe)]

/-- The settings as JSON. -/
def toJson (c : RunnerConfig) : Json :=
  .record [("workers", .ofNat c.workers), ("queue_capacity", .ofNat c.queueCapacity),
    ("poll_interval", c.pollInterval.toJson), ("job_timeout", c.jobTimeout.toJson),
    ("retry", c.retry.toJson), ("recovery_window", c.recoveryWindow.toJson),
    ("mark_failed_timeout", c.markFailedTimeout.toJson)]

end RunnerConfig

/-- What has been counted since the work began. The counts have no bound, as words would have. -/
structure RunnerStats where
  enqueued : Nat := 0
  completed : Nat := 0
  attemptsFailed : Nat := 0
  failedPermanently : Nat := 0
  deriving DecidableEq, Repr, Inhabited

namespace RunnerStats

/-- The counts by their names. -/
def fields (s : RunnerStats) : List (String × Nat) :=
  [("enqueued", s.enqueued), ("completed", s.completed), ("attempts_failed", s.attemptsFailed),
    ("failed_permanently", s.failedPermanently)]

/-- The counts in one line. -/
def describe (s : RunnerStats) : String :=
  Text.record "RunnerStats" (s.fields.map fun (k, n) => (k, toString n))

/-- The counts as JSON. -/
def toJson (s : RunnerStats) : Json :=
  .record (s.fields.map fun (k, n) => (k, .ofNat n))

end RunnerStats

/-- The queue, the reports in flight, and the counts. -/
structure JobQueue where
  /-- How many reports may wait. -/
  capacity : Nat
  waiting : List ReportId := []
  /-- The reports that wait or are worked on. -/
  inFlight : List ReportId := []
  closed : Bool := false
  stats : RunnerStats := {}
  deriving DecidableEq, Repr, Inhabited

namespace JobQueue

/-- Queue a report, unless it is in flight; says whether it was queued now. -/
def enqueue (q : JobQueue) (r : ReportId) : Except EnqueueError Bool × JobQueue :=
  if r ∈ q.inFlight then (.ok false, q)
  else if q.closed then (.error (.closed r), q)
  else if q.capacity ≤ q.waiting.length then (.error (.full r), q)
  else
    (.ok true, { q with
      waiting := q.waiting ++ [r]
      inFlight := r :: q.inFlight
      stats := { q.stats with enqueued := q.stats.enqueued + 1 } })

/-- Take the report that has waited longest. -/
def receive? (q : JobQueue) : Option (ReportId × JobQueue) :=
  match q.waiting with
  | [] => none
  | r :: rest => some (r, { q with waiting := rest })

/-- A report is not worked on any more. -/
def release (q : JobQueue) (r : ReportId) : JobQueue :=
  { q with inFlight := q.inFlight.filter (· ≠ r) }

/-- Let no more reports in. -/
def close (q : JobQueue) : JobQueue := { q with closed := true }

end JobQueue

end RiskReport
