import RiskReport.Rehearsal.World

/-!
# How far a program has got

A program that is run in a world goes on until it is done, until it has to wait, or until a
collaborator breaks down. `runService` runs a service and `runWork` a program of the runner; the
latter also stops where it waits for a report or for the end of an attempt.
-/

namespace RiskReport.Rehearsal

open Log

/-- The end of a wait: the millisecond, and which wait it is among all. Of two that end together
the one that began first comes first. -/
structure Timer where
  due : Nat
  number : Nat
  deriving DecidableEq, Repr, Inhabited

/-- Whether one wait ends before another. -/
def Timer.before (a b : Timer) : Bool :=
  a.due < b.due || (a.due == b.due && a.number < b.number)

/-- Begin a wait of some milliseconds. -/
def World.timer (w : World) (delay : Nat) : Timer × World :=
  (⟨w.now + delay, w.waits⟩, { w with waits := w.waits + 1 })

/-- A service that waits for the answer to a request. -/
structure Suspended (α : Type) where
  timer : Timer
  call : ServiceCall
  rest : World.AfterWait call
  next : call.Answer → Service α

/-- How far a service has got. -/
inductive Progress (α : Type) where
  | done (a : α)
  | waiting (s : Suspended α)
  /-- A collaborator broke down. -/
  | crashed

/-- Run a service until it is done or has to wait. -/
def runService {α : Type} : Service α → World → Progress α × World
  | .done a, w => (.done a, w)
  | .log spans event next, w => runService next (w.note spans event)
  | .ask spans call next, w =>
    match w.begin spans call with
    | (none, w) => (.crashed, w)
    | (some (.answered r), w) => runService (next r) w
    | (some (.waits delay rest), w) =>
      let (timer, w) := w.timer delay
      (.waiting ⟨timer, call, rest, next⟩, w)

/-- Go on with a service whose wait is over. -/
def Suspended.resume {α : Type} (s : Suspended α) (w : World) : Progress α × World :=
  match w.complete s.rest with
  | (none, w) => (.crashed, w)
  | (some r, w) => runService (s.next r) w

/-- How far a program of the runner has got. -/
inductive WorkProgress (α : Type) where
  | done (a : α)
  /-- It wants the next report. -/
  | receiving (next : Option ReportId → Work α)
  | attempting (timeout : Timer) (job : Suspended (Except JobError Unit))
      (next : Attempt → Work α)
  | pausing (timer : Timer) (next : Bool → Work α)
  | insisting (timeout : Timer) (job : Suspended (Except StoreError Unit))
      (next : Option (Except StoreError Unit) → Work α)
  | scanning (job : Suspended (Except StoreError (List ReportId)))
      (next : Except StoreError (List ReportId) → Work α)
  | crashed

/-- Run a program of the runner until it is done or has to wait. -/
def runWork {α : Type} : Work α → World → WorkProgress α × World
  | .done a, w => (.done a, w)
  | .log spans event next, w => runWork next (w.note spans event)
  | .ask spans call next, w =>
    match call with
    | .receive => (.receiving next, w)
    | .attempt timeout job =>
      if w.shutdown.isRequested then runWork (next .interrupted) w
      else
        match runService (job.within spans) w with
        | (.crashed, w) => (.crashed, w)
        | (.done r, w) => runWork (next (.finished r)) w
        | (.waiting s, w) =>
          if timeout.ticks = 0 then runWork (next .timedOut) w
          else
            let (timer, w) := w.timer timeout.ticks
            (.attempting timer s next, w)
    | .pause delay =>
      if w.shutdown.isRequested then runWork (next true) w
      else if delay.ticks = 0 then runWork (next false) w
      else
        let (timer, w) := w.timer delay.ticks
        (.pausing timer next, w)
    | .insist timeout job =>
      match runService (job.within spans) w with
      | (.crashed, w) => (.crashed, w)
      | (.done r, w) => runWork (next (some r)) w
      | (.waiting s, w) =>
        if timeout.ticks = 0 then runWork (next none) w
        else
          let (timer, w) := w.timer timeout.ticks
          (.insisting timer s next, w)
    | .scan job =>
      match runService (job.within spans) w with
      | (.crashed, w) => (.crashed, w)
      | (.done r, w) => runWork (next r) w
      | (.waiting s, w) => (.scanning s next, w)
    | .enqueue r =>
      let (answer, w) := w.enqueue r
      runWork (next answer) w
    | .release r => runWork (next ()) { w with queue := w.queue.release r }
    | .count c =>
      let stats := w.queue.stats.count c
      runWork (next ()) { w with queue := { w.queue with stats } }
    | .now =>
      let (now, w) := w.readClock
      runWork (next now) w

/-- The waits that can end a program's standstill. -/
def WorkProgress.timers {α : Type} : WorkProgress α → List Timer
  | .attempting t s _ => [s.timer, t]
  | .pausing t _ => [t]
  | .insisting t s _ => [s.timer, t]
  | .scanning s _ => [s.timer]
  | _ => []

/-- Go on with a program that may have something to go on with: work was stopped, or a wait is
over. What comes of a job counts before its time is up. -/
def WorkProgress.poll {α : Type} (p : WorkProgress α) (w : World) : WorkProgress α × World :=
  match p with
  | .attempting t s next =>
    if w.shutdown.isRequested then runWork (next .interrupted) w
    else
      let (progress, w) := if s.timer.due ≤ w.now then s.resume w else (.waiting s, w)
      match progress with
      | .crashed => (.crashed, w)
      | .done r => runWork (next (.finished r)) w
      | .waiting s =>
        if t.due ≤ w.now then runWork (next .timedOut) w else (.attempting t s next, w)
  | .pausing t next =>
    if w.shutdown.isRequested then runWork (next true) w
    else if t.due ≤ w.now then runWork (next false) w
    else (.pausing t next, w)
  | .insisting t s next =>
    let (progress, w) := if s.timer.due ≤ w.now then s.resume w else (.waiting s, w)
    match progress with
    | .crashed => (.crashed, w)
    | .done r => runWork (next (some r)) w
    | .waiting s => if t.due ≤ w.now then runWork (next none) w else (.insisting t s next, w)
  | .scanning s next =>
    if s.timer.due ≤ w.now then
      match s.resume w with
      | (.crashed, w) => (.crashed, w)
      | (.done r, w) => runWork (next r) w
      | (.waiting s, w) => (.scanning s next, w)
    else (.scanning s next, w)
  | p => (p, w)

end RiskReport.Rehearsal
