import RiskReport.Rehearsal.Stage

/-!
# The passing of time on a stage

Tasks work until they all wait (`Stage.settled`), and then time passes to the end of the first wait
(`Stage.waited`). Tasks whose waits end together go on in the order in which the waits began. A
runner is started by its overseer (`Stage.startRunner`) and ends some time after it was told to
stop (`Stage.stop`).
-/

namespace RiskReport.Rehearsal.Stage

/-- Poll tasks until none has anything to go on with, for so many polls at most. -/
def settle : (polls : Nat) → Stage → Stage
  | 0, s => s
  | n + 1, s =>
    let s := s.announceQueued
    match s.ready with
    | [] => s
    | id :: rest => settle n ({ s with ready := rest }.poll id)

/-- All waits of tasks. -/
def timers (s : Stage) : List (Timer × Nat) :=
  s.tasks.zipIdx.flatMap fun (t, id) => t.timers.map (·, id)

/-- The first wait that ends after now. -/
def nextTimer? (s : Stage) : Option Timer :=
  (s.timers.filter fun (t, _) => s.world.now < t.due).foldl
    (fun first (t, _) =>
      match first with
      | none => some t
      | some u => some (if t.before u then t else u))
    none

/-- Let time pass; the tasks whose waits end meanwhile are woken in the order of the ends. -/
def passTo (s : Stage) (time : Nat) : Stage :=
  let ending := s.timers.filter fun (t, _) => s.world.now < t.due && t.due ≤ time
  let ending := ending.mergeSort fun a b => a.1.before b.1 || a.1 == b.1
  let s := s.withWorld { s.world with now := max s.world.now time }
  ending.foldl (fun s (_, id) => s.wake id) s

/-- Let tasks work until a time, or until a test holds, for so many steps at most. -/
def waitUntil (polls time : Nat) (test : Stage → Bool) : (steps : Nat) → Stage → Stage
  | 0, s => s
  | n + 1, s =>
    let s := s.settle polls
    if test s then s
    else
      match s.nextTimer? with
      | some t =>
        if t.due < time then waitUntil polls time test n (s.passTo t.due) else s.passTo time
      | none => s.passTo time

/-- How many polls tasks may take before they are cut short. -/
def polls : Nat := 1000000000000

/-- Let the tasks work until they all wait. -/
def settled (s : Stage) : Stage := s.settle polls

/-- Let time pass while the tasks work, until a test holds. -/
def waited (s : Stage) (time : Nat) (test : Stage → Bool) : Stage :=
  s.waitUntil polls time test polls

/-- Let time pass while the tasks work. -/
def sleepUntil (s : Stage) (time : Nat) : Stage := s.waited time fun _ => false

/-- Start the runner. -/
def startRunner (s : Stage) : Stage :=
  { s.spawn (.overseer .fresh) with overseer := some s.tasks.length }.settled

/-- Stop the work: tell the tasks that listen. -/
def stop (s : Stage) (shutdown : Shutdown) : Stage :=
  ((s.withWorld { s.world with shutdown }).wakeWhere Task.listens).settled

/-- Whether the runner that was started last has stopped. -/
def hasStopped (s : Stage) : Bool :=
  match s.overseer with
  | none => false
  | some id => (s.tasks.getD id (.ended false)).isEnded

/-- A stage on which nothing has happened; nothing, if the queue would have too many places. -/
def opening? (config : RunnerConfig) (settings : JobSettings) : Option Stage :=
  if config.places ≤ RunnerConfig.maxCapacity then
    some { world := { config, settings, queue := { capacity := config.places } } }
  else none

end RiskReport.Rehearsal.Stage
