import Mathlib.Logic.Function.Basic
import Mathlib.Logic.Relation
import RiskReport.Job.Runner
import RiskReport.Proofs.Program

/-!
# The runner as a whole

One queue is shared by the workers, by any number of recovery scans, and by whoever queues reports
from outside. `Pool` is such a runner at one moment: the queue, and what each program has still to
do. Beside them it keeps a record of what went in and out: the reports that were let in, the reports
that were received and by whom, and the report that each worker has received and not yet released.

`Pool.Step` lets one of them go on by one step. How long an attempt takes, how it ends, what a scan
finds and when the work is stopped is left open, so every order of events is among the runs.
-/

namespace RiskReport

/-! ## Requests that concern the queue -/

/-- How the queue serves a request. Jobs, waits and the time have any outcome, and nothing is
received when the work is stopped. -/
def JobQueue.Serves (q : JobQueue) : (call : RunnerCall) → call.Answer → JobQueue → Prop
  | .receive, none, q' => q' = q
  | .receive, some r, q' => q.receive? = some (r, q')
  | .enqueue r, answer, q' => q.enqueue r = (answer, q')
  | .release r, _, q' => q' = q.release r
  | .count c, _, q' => q' = { q with stats := q.stats.count c }
  | .attempt .., _, q' | .pause _, _, q' | .insist .., _, q' | .scan _, _, q' | .now, _, q' =>
    q' = q

namespace Pool

/-- The report that is let in with an exchange. -/
def letIn : Option (Exchange runnerInterface) → List ReportId
  | some ⟨.enqueue r, .ok true⟩ => [r]
  | _ => []

/-- The report that is received with an exchange. -/
def handedOut : Option (Exchange runnerInterface) → List ReportId
  | some ⟨.receive, some r⟩ => [r]
  | _ => []

/-- The report that a worker holds after an exchange. -/
def heldAfter (before : Option ReportId) : Option (Exchange runnerInterface) → Option ReportId
  | some ⟨.receive, some r⟩ => some r
  | some ⟨.release r, _⟩ => if before = some r then none else before
  | _ => before

end Pool

/-! ## States and steps -/

/-- The runner at one moment. -/
structure Pool (config : RunnerConfig) where
  queue : JobQueue
  /-- What each worker has still to do in its turn. -/
  turn : Fin config.hands → Work Bool
  /-- What each recovery scan has still to do. -/
  scan : Nat → Work Nat
  /-- The report that each worker has received and not released. -/
  held : Fin config.hands → Option ReportId
  /-- The reports that were let in, in order. -/
  accepted : List ReportId
  /-- The reports that were received, with who received them, in order. -/
  received : List (ReportId × Fin config.hands)

namespace Pool

variable {config : RunnerConfig} {settings : JobSettings}

/-- The runner before its work begins. -/
def initial (config : RunnerConfig) (settings : JobSettings) : Pool config where
  queue := { capacity := config.places }
  turn w := workerStart config settings w
  scan _ := .done 0
  held _ := none
  accepted := []
  received := []

/-- One thing happens. -/
inductive Step (settings : JobSettings) : Pool config → Pool config → Prop
  /-- A worker goes on. -/
  | work {p : Pool config} {w : Fin config.hands} {t : Work Bool} {q : JobQueue}
      {x : Option (Exchange runnerInterface)}
      (h : Program.Step JobQueue.Serves (p.turn w) p.queue x t q) :
      Step settings p { p with
        queue := q
        turn := Function.update p.turn w t
        held := Function.update p.held w (heldAfter (p.held w) x)
        accepted := p.accepted ++ letIn x
        received := p.received ++ (handedOut x).map (·, w) }
  /-- A worker begins its next turn. -/
  | turn {p : Pool config} {w : Fin config.hands} (h : p.turn w = .done true) :
      Step settings p { p with turn := Function.update p.turn w (workerTurn config settings w) }
  /-- A recovery scan goes on. -/
  | scan {p : Pool config} {i : Nat} {t : Work Nat} {q : JobQueue}
      {x : Option (Exchange runnerInterface)}
      (h : Program.Step JobQueue.Serves (p.scan i) p.queue x t q) :
      Step settings p { p with
        queue := q
        scan := Function.update p.scan i t
        accepted := p.accepted ++ letIn x }
  /-- A recovery scan begins. -/
  | scans {p : Pool config} {i n : Nat} (h : p.scan i = .done n) :
      Step settings p { p with scan := Function.update p.scan i (scanOnce config) }
  /-- A report is queued from outside. -/
  | enqueue {p : Pool config} {r : ReportId} {a : Except EnqueueError Bool} {q : JobQueue}
      (h : p.queue.Serves (.enqueue r) a q) :
      Step settings p { p with
        queue := q
        accepted := p.accepted ++ letIn (some ⟨.enqueue r, a⟩) }
  /-- The queue is closed. -/
  | close {p : Pool config} : Step settings p { p with queue := p.queue.close }

/-- A state that the runner gets into. -/
def Reachable (settings : JobSettings) (p : Pool config) : Prop :=
  Relation.ReflTransGen (Step settings) (initial config settings) p

/-- The reports that are worked on. -/
def working (p : Pool config) : List ReportId :=
  (List.finRange config.hands).filterMap p.held

/-- A worker is in the middle of an attempt to make a report. -/
def Attempts (settings : JobSettings) (p : Pool config) (w : Fin config.hands) (r : ReportId) :
    Prop :=
  ∃ spans timeout next, p.turn w = .ask spans (.attempt timeout (makeReport settings r)) next

/-- A worker waits for a report, or its turn is over. -/
def Idle (p : Pool config) (w : Fin config.hands) : Prop :=
  (∃ next, p.turn w = .done next) ∨ ∃ spans next, p.turn w = .ask spans .receive next

end Pool

end RiskReport
