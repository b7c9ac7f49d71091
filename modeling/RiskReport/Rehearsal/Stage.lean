import RiskReport.Rehearsal.Progress

/-!
# The tasks of a runner

Starting the runner starts its tasks: an overseer, which starts the workers and the recovery
scanner and waits for all of them. One task at a time is polled (`Stage.poll`): it runs until it
waits. Tasks that have something to go on with are polled in the order in which they got it, and
the workers take turns at the queue: one of them waits for the next report while the others stand
in line.
-/

namespace RiskReport.Rehearsal

/-- Where a worker stands. -/
inductive WorkerState where
  /-- It has not begun. -/
  | fresh
  /-- It is about to take another turn. -/
  | turning
  /-- It stands in line for the queue, or has just got there. -/
  | inLine (next : Option ReportId → Work Bool)
  | working (progress : WorkProgress Bool)

/-- Where the recovery scanner stands. Between scans it knows when the next one is due, in
nanoseconds, and the wait for it. -/
inductive ScannerState where
  /-- It has not begun. -/
  | fresh
  | idle (due : Nat) (timer : Timer)
  | scanning (progress : WorkProgress Nat) (due : Nat) (timer : Timer)

/-- Where an overseer stands. -/
inductive OverseerState where
  /-- It has not begun. -/
  | fresh
  /-- It waits for the tasks with these numbers. -/
  | waiting (tasks : List Nat)
  /-- It stands in line for the queue, to close it. -/
  | inLine

/-- A task. -/
inductive Task where
  | worker (index : Nat) (state : WorkerState)
  | scanner (state : ScannerState)
  | overseer (state : OverseerState)
  | ended (crashed : Bool)

namespace Task

/-- Whether the task is over. -/
def isEnded : Task → Bool
  | ended _ => true
  | _ => false

/-- The waits whose end the task has to be told of. -/
def timers : Task → List Timer
  | worker _ (.working p) => p.timers
  | scanner (.idle _ timer) => [timer]
  | scanner (.scanning p _ _) => p.timers
  | _ => []

/-- Whether the task has to be told when the work is stopped. -/
def listens : Task → Bool
  | worker _ (.working (.receiving _)) => true
  | worker _ (.working (.attempting ..)) => true
  | worker _ (.working (.pausing ..)) => true
  | scanner (.idle ..) => true
  | _ => false

/-- Whether the task waits for the next report. -/
def isReceiving : Task → Bool
  | worker _ (.working (.receiving _)) => true
  | _ => false

end Task

/-- A world and the tasks that are at work in it. -/
structure Stage where
  world : World
  /-- The tasks by their numbers. -/
  tasks : List Task := []
  /-- The tasks that have something to go on with. -/
  ready : List Nat := []
  /-- The task that is at the queue. -/
  atQueue : Option Nat := none
  /-- The tasks that stand in line for the queue. -/
  inLine : List Nat := []
  /-- The overseer of the runner that was started last. -/
  overseer : Option Nat := none

namespace Stage

/-- Change the world. -/
def withWorld (s : Stage) (w : World) : Stage := { s with world := w }

/-- Let a task go on when its turn comes. -/
def wake (s : Stage) (id : Nat) : Stage :=
  if id ∈ s.ready then s else { s with ready := s.ready ++ [id] }

/-- Let a task go on before all others. -/
def continueWith (s : Stage) (id : Nat) : Stage :=
  { s with ready := id :: s.ready.filter (· != id) }

/-- Change a task. -/
def setTask (s : Stage) (id : Nat) (t : Task) : Stage :=
  { s with tasks := s.tasks.set id t }

/-- Start a task. -/
def spawn (s : Stage) (t : Task) : Stage :=
  { s with tasks := s.tasks ++ [t], ready := s.ready ++ [s.tasks.length] }

/-- Wake the tasks that a test holds of. -/
def wakeWhere (s : Stage) (test : Task → Bool) : Stage :=
  (s.tasks.zipIdx.filter fun (t, _) => test t).foldl (fun s (_, id) => s.wake id) s

/-- Tell whoever waits for a report that one was queued. -/
def announceQueued (s : Stage) : Stage :=
  if s.world.queued then
    { s with world := { s.world with queued := false } }.wakeWhere Task.isReceiving
  else s

/-- A task is over: tell its overseer. -/
def finish (s : Stage) (id : Nat) (crashed : Bool) : Stage :=
  let s := s.setTask id (.ended crashed)
  s.wakeWhere fun
    | .overseer (.waiting tasks) => id ∈ tasks
    | _ => false

/-- Go to the queue, or stand in line for it. -/
def goToQueue (s : Stage) (id : Nat) : Stage :=
  match s.atQueue with
  | none => { s with atQueue := some id }.continueWith id
  | some _ => { s with inLine := s.inLine ++ [id] }

/-- Leave the queue to the next in line. -/
def leaveQueue (s : Stage) : Stage :=
  match s.inLine with
  | [] => { s with atQueue := none }
  | id :: rest => { s with atQueue := some id, inLine := rest }.wake id

/-- What becomes of a worker after it has run. -/
def placeWorker (s : Stage) (id index : Nat) : WorkProgress Bool × World → Stage
  | (p, w) =>
    let s := s.withWorld w
    match p with
    | .receiving next => (s.setTask id (.worker index (.inLine next))).goToQueue id
    | .done true => (s.setTask id (.worker index .turning)).continueWith id
    | .done false => s.finish id false
    | .crashed => s.finish id true
    | p => s.setTask id (.worker index (.working p))

/-- A worker at the queue takes a report, learns that there are no more, or waits. -/
def receive (s : Stage) (id index : Nat) (next : Option ReportId → Work Bool) : Stage :=
  if s.world.shutdown.isRequested then
    s.leaveQueue.placeWorker id index (runWork (next none) s.world)
  else
    match s.world.queue.receive? with
    | some (r, queue) =>
      s.leaveQueue.placeWorker id index (runWork (next (some r)) { s.world with queue })
    | none =>
      if s.world.queue.closed then
        s.leaveQueue.placeWorker id index (runWork (next none) s.world)
      else s.setTask id (.worker index (.working (.receiving next)))

/-- Poll a worker. -/
def pollWorker (s : Stage) (id index : Nat) : WorkerState → Stage
  | .fresh =>
    s.placeWorker id index
      (runWork (workerStart s.world.config s.world.settings index) s.world)
  | .turning =>
    s.placeWorker id index (runWork (workerTurn s.world.config s.world.settings index) s.world)
  | .inLine next => if s.atQueue == some id then s.receive id index next else s
  | .working (.receiving next) => s.receive id index next
  | .working p => s.placeWorker id index (p.poll s.world)

/-- The nanoseconds that have passed. -/
def nanos (s : Stage) : Nat := s.world.now * Duration.perMilli

/-- When the scan after one that was due is due: a period later, or, if that one came more than
five milliseconds late, at the next multiple of the period. -/
def dueAfter (s : Stage) (due : Nat) : Nat :=
  let period := s.world.config.pollInterval.total
  if due + 5 * Duration.perMilli < s.nanos then
    s.nanos + period - (s.nanos - due) % period
  else due + period

/-- The wait for a scan that is due. -/
def scanTimer (s : Stage) (due : Nat) : Timer × World :=
  s.world.timer ((⟨due⟩ : Duration).ticks - s.world.now)

/-- What becomes of the scanner after it has run. -/
def placeScanner (s : Stage) (id due : Nat) (timer : Timer) : WorkProgress Nat × World → Stage
  | (p, w) =>
    let s := s.withWorld w
    match p with
    | .done _ => (s.setTask id (.scanner (.idle due timer))).continueWith id
    | .crashed => s.finish id true
    | p => s.setTask id (.scanner (.scanning p due timer))

/-- Scan now; the next scan is due later. -/
def scan (s : Stage) (id due : Nat) : Stage :=
  let next := s.dueAfter due
  let (timer, w) := s.scanTimer next
  s.placeScanner id next timer (runWork (scanOnce w.config) w)

/-- Poll the scanner. -/
def pollScanner (s : Stage) (id : Nat) : ScannerState → Stage
  | .fresh =>
    if s.world.config.pollInterval.total = 0 then s.finish id true
    else if s.world.shutdown.isRequested then s.finish id false
    else s.scan id s.nanos
  | .idle due timer =>
    if s.world.shutdown.isRequested then s.finish id false
    else if (⟨due⟩ : Duration).ticks ≤ s.world.now then s.scan id due
    else s.setTask id (.scanner (.idle due timer))
  | .scanning p due timer => s.placeScanner id due timer (p.poll s.world)

/-- The event of a task that broke down. -/
def taskCrashed (id : Nat) : Log.Event where
  level := .error
  target := .runner
  message := some "runner task panicked"
  fields := [("error", .shown ("task " ++ toString id ++ " panicked"))]

/-- Start the workers and the scanner. -/
def startTasks (s : Stage) (id : Nat) : Stage :=
  let config := s.world.config
  let s := s.withWorld (s.world.note [] (runnerStarting config))
  let first := s.tasks.length
  let s := (List.range config.hands).foldl (fun s i => s.spawn (.worker i .fresh)) s
  let s := s.spawn (.scanner .fresh)
  s.setTask id (.overseer (.waiting ((List.range (config.hands + 1)).map (first + ·))))

/-- Take note of the tasks that are over; when all are, the queue is closed. -/
def reap (s : Stage) (id : Nat) (members : List Nat) : Stage :=
  let state (m : Nat) : Task := s.tasks.getD m (.ended false)
  let crashed := members.filter fun m =>
    match state m with
    | .ended true => true
    | _ => false
  let left := members.filter fun m => !(state m).isEnded
  let w := crashed.foldl (fun w m => w.note [] (taskCrashed m)) s.world
  let s := s.withWorld w
  if left.isEmpty then (s.setTask id (.overseer .inLine)).goToQueue id
  else s.setTask id (.overseer (.waiting left))

/-- Close the queue. -/
def closeQueue (s : Stage) (id : Nat) : Stage :=
  let queue := s.world.queue.close
  let w := { s.world with queue }.note [] (runnerStopped queue.stats)
  (s.leaveQueue.withWorld w).finish id false

/-- Poll an overseer. -/
def pollOverseer (s : Stage) (id : Nat) : OverseerState → Stage
  | .fresh => s.startTasks id
  | .waiting members => s.reap id members
  | .inLine => if s.atQueue == some id then s.closeQueue id else s

/-- Poll a task. -/
def poll (s : Stage) (id : Nat) : Stage :=
  match s.tasks[id]? with
  | some (.worker index state) => s.pollWorker id index state
  | some (.scanner state) => s.pollScanner id state
  | some (.overseer state) => s.pollOverseer id state
  | _ => s

end Stage

end RiskReport.Rehearsal
