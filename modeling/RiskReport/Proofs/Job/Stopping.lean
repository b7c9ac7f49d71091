import RiskReport.Proofs.Job.Recovery

/-!
# What a stopped runner refuses

`Shift` is a runner from before its start until after its end. When it is started, its workers and
its recovery scanner go to work; the signal to stop may be given at any time, even before. A worker
that sees the signal leaves its report alone and ends its turns, and so does a worker that breaks
down in the middle of a job. The start returns when all of them have ended, and the queue is closed
then. Others queue reports and scan all the time, before, meanwhile and afterwards.

Nobody takes the reports out of the queue that still wait in it when the last worker ends, and
nobody releases the report of a worker that broke down. Such reports are stranded: they stay in
flight for ever, and whoever queues one is told that it is in flight already.

**Theorem (`stopped_refuses_iff`).** Once the start has returned, a report is refused since the
queue is closed exactly if it is not stranded, and this never changes again. So every report is
refused exactly if all reports that were let in were received and no worker broke down.
-/

namespace RiskReport

open Program

/-! ## Answers to a runner that is told to stop -/

/-- Whether a program of the runner may get an answer: that there are no more reports, or that it
is interrupted, it learns only when the work is to stop. -/
def Shutdown.Permits (stop : Shutdown) (q : JobQueue) : Option (Exchange runnerInterface) → Prop
  | some ⟨.receive, none⟩ => stop.isRequested = true ∨ q.closed = true ∧ q.waiting = []
  | some ⟨.attempt .., .interrupted⟩ => stop.isRequested = true
  | some ⟨.pause _, true⟩ => stop.isRequested = true
  | _ => True

/-- Collaborators are at work for the request, and may break down. -/
def RunnerCall.RunsJob : RunnerCall → Prop
  | .attempt .. | .insist .. => True
  | .receive | .pause _ | .scan _ | .enqueue _ | .release _ | .count _ | .now => False

/-- No request closes the queue. -/
theorem JobQueue.closed_of_serves {q q' : JobQueue} {call : RunnerCall} {a : call.Answer}
    (h : q.Serves call a q') : q'.closed = q.closed := by
  cases call with
  | receive =>
    cases a with
    | none =>
      obtain rfl : q' = q := h
      rfl
    | some r =>
      obtain ⟨rest, -, rfl⟩ := JobQueue.receive?_eq_some h
      rfl
  | enqueue r =>
    have hq := JobQueue.enqueued h
    cases hq <;> rfl
  | release r =>
    obtain rfl : q' = q.release r := h
    rfl
  | count c =>
    obtain rfl : q' = { q with stats := q.stats.count c } := h
    rfl
  | attempt | pause | insist | scan | now =>
    obtain rfl : q' = q := h
    rfl

theorem JobQueue.closed_of_step {α : Type} {t t' : Work α} {q q' : JobQueue}
    {x : Option (Exchange runnerInterface)} (h : Program.Step JobQueue.Serves t q x t' q') :
    q'.closed = q.closed := by
  cases h with
  | asked served => exact closed_of_serves served
  | logged => rfl

namespace Pool

variable {config : RunnerConfig} {settings : JobSettings} {p p' : Pool config}

/-- The runner after a worker has gone on. -/
def afterWork (p : Pool config) (w : Fin config.hands) (t : Work Bool)
    (x : Option (Exchange runnerInterface)) (q : JobQueue) : Pool config :=
  { p with
    queue := q
    turn := Function.update p.turn w t
    held := Function.update p.held w (heldAfter (p.held w) x)
    accepted := p.accepted ++ letIn x
    received := p.received ++ (handedOut x).map (·, w) }

/-- The workers have not gone on. -/
structure SameHands (p p' : Pool config) : Prop where
  turn : p'.turn = p.turn
  held : p'.held = p.held
  received : p'.received = p.received

/-- A report that is to be queued is not let in by a closed queue. -/
theorem letIn_of_closed {q q' : JobQueue} {call : RunnerCall} {a : call.Answer}
    (h : q.Serves call a q') (closed : q.closed = true) : letIn (some ⟨call, a⟩) = [] := by
  cases call with
  | enqueue r =>
    have hq : q.enqueue r = (a, q') := h
    by_cases hr : r ∈ q.inFlight
    · rw [JobQueue.enqueue_of_mem hr] at hq
      obtain ⟨rfl, -⟩ := Prod.mk.inj hq
      rfl
    · rw [JobQueue.enqueue_of_closed hr closed] at hq
      obtain ⟨rfl, -⟩ := Prod.mk.inj hq
      rfl
  | receive | attempt | pause | insist | scan | release | count | now => rfl

/-- A closed queue lets nothing in. -/
theorem Step.accepted_of_closed (hs : Step settings p p') (closed : p.queue.closed = true) :
    p'.accepted = p.accepted := by
  -- What a program asks in its step is all that can let a report in.
  have asked {α : Type} {t t' : Work α} {q : JobQueue} {x : Option (Exchange runnerInterface)}
      (h : Program.Step JobQueue.Serves t p.queue x t' q) : letIn x = [] := by
    cases h with
    | asked served => exact letIn_of_closed served closed
    | logged => rfl
  cases hs with
  | work h =>
    simp only [asked h, List.append_nil]
  | scan h =>
    simp only [asked h, List.append_nil]
  | enqueue h =>
    simp only [letIn_of_closed h closed, List.append_nil]
  | turn | scans | close => rfl

end Pool

/-! ## From the start to the end -/

/-- Where the start of a runner stands. -/
inductive ShiftPhase where
  /-- The runner was not started. -/
  | before
  | during
  /-- The start has returned. -/
  | after
  deriving DecidableEq

/-- A runner from before its start until after its end. -/
structure Shift (config : RunnerConfig) where
  pool : Pool config
  stop : Shutdown
  phase : ShiftPhase
  /-- Whether a worker broke down in the middle of a job. -/
  broken : Fin config.hands → Bool
  /-- Whether the recovery scanner has ended. -/
  scannerOver : Bool

namespace Shift

variable {config : RunnerConfig} {settings : JobSettings} {s s' : Shift config}

/-- A runner that was not started. -/
def opening (config : RunnerConfig) (settings : JobSettings) : Shift config where
  pool := .initial config settings
  stop := {}
  phase := .before
  broken _ := false
  scannerOver := false

/-- One thing happens. -/
inductive Step (settings : JobSettings) : Shift config → Shift config → Prop
  | starts {s : Shift config} (h : s.phase = .before) : Step settings s { s with phase := .during }
  /-- A worker goes on. -/
  | work {s : Shift config} {w : Fin config.hands} {t : Work Bool} {q : JobQueue}
      {x : Option (Exchange runnerInterface)} (on : s.phase = .during) (able : s.broken w = false)
      (h : Program.Step JobQueue.Serves (s.pool.turn w) s.pool.queue x t q)
      (permitted : s.stop.Permits s.pool.queue x) :
      Step settings s { s with pool := s.pool.afterWork w t x q }
  /-- A worker begins its next turn. -/
  | turn {s : Shift config} {w : Fin config.hands} (on : s.phase = .during)
      (able : s.broken w = false) (h : s.pool.turn w = .done true) :
      Step settings s { s with pool := { s.pool with
        turn := Function.update s.pool.turn w (workerTurn config settings w) } }
  /-- A worker breaks down. -/
  | breaks {s : Shift config} {w : Fin config.hands} {spans : List Log.Span} {call : RunnerCall}
      {next : call.Answer → Work Bool} (on : s.phase = .during)
      (h : s.pool.turn w = .ask spans call next) (job : call.RunsJob) :
      Step settings s { s with broken := Function.update s.broken w true }
  /-- The recovery scanner ends: it sees the signal, or it breaks down. -/
  | scannerEnds {s : Shift config} (on : s.phase = .during) :
      Step settings s { s with scannerOver := true }
  /-- A scan goes on, the scanner's or another, or a report is queued from outside. -/
  | outside {s : Shift config} {pool : Pool config} (h : Pool.Step settings s.pool pool)
      (hands : s.pool.SameHands pool) (kept : pool.queue.closed = s.pool.queue.closed) :
      Step settings s { s with pool }
  /-- The signal to stop is given, or nobody is left to give it. -/
  | signal {s : Shift config} {stop : Shutdown} (h : stop = s.stop.trigger ∨ stop = s.stop.drop) :
      Step settings s { s with stop }
  /-- All have ended: the queue is closed, and the start returns. -/
  | returns {s : Shift config} (on : s.phase = .during)
      (workers : ∀ w, s.broken w = true ∨ s.pool.turn w = .done false)
      (scanner : s.scannerOver = true) :
      Step settings s { s with
        pool := { s.pool with queue := s.pool.queue.close }
        phase := .after }

/-- A state that a runner gets into. -/
def Reachable (settings : JobSettings) (s : Shift config) : Prop :=
  Relation.ReflTransGen (Step settings) (opening config settings) s

/-- What always holds of a runner. -/
structure Kept (settings : JobSettings) (s : Shift config) : Prop where
  pool : s.pool.Reachable settings
  closed : s.pool.queue.closed = true ↔ s.phase = .after
  ended : s.phase = .after → ∀ w, s.broken w = true ∨ s.pool.turn w = .done false
  /-- A worker that broke down has not released its report. -/
  lost : ∀ w, s.broken w = true → ∃ r, s.pool.held w = some r

theorem kept_opening : (opening config settings).Kept settings where
  pool := .refl
  closed := by simp [opening, Pool.initial]
  ended := by simp [opening]
  lost := by simp [opening]

/-- A worker that is in the middle of a job holds a report. -/
theorem Kept.held_of_job (h : s.Kept settings) {w : Fin config.hands} {spans : List Log.Span}
    {call : RunnerCall} {next : call.Answer → Work Bool}
    (ht : s.pool.turn w = .ask spans call next) (job : call.RunsJob) :
    ∃ r, s.pool.held w = some r := by
  have hturn := h.pool.sound.1.turns w
  rw [ht] at hturn
  rcases hturn.asks with ⟨-, rfl⟩ | ⟨r, hr, -⟩
  · exact job.elim
  · exact ⟨r, hr⟩

theorem Kept.opened (h : s.Kept settings) (on : s.phase ≠ .after) :
    s.pool.queue.closed = false :=
  eq_false_of_ne_true fun closed => on (h.closed.1 closed)

/-- While the runner works its queue is open, and nothing has to be said about its end. -/
theorem kept_of_during (on : s.phase = .during) (pool : s.pool.Reachable settings)
    (opened : s.pool.queue.closed = false)
    (lost : ∀ w, s.broken w = true → ∃ r, s.pool.held w = some r) : s.Kept settings where
  pool := pool
  closed := by simp [opened, on]
  ended returned := by
    rw [on] at returned
    cases returned
  lost := lost

theorem Kept.step (h : s.Kept settings) (hs : Step settings s s') : s'.Kept settings := by
  cases hs with
  | starts before =>
    exact kept_of_during rfl h.pool (h.opened (by simp [before])) h.lost
  | @work w t q x on able hstep permitted =>
    refine kept_of_during on (h.pool.tail (.work hstep))
      ((JobQueue.closed_of_step hstep).trans (h.opened (by simp [on]))) fun w' hw' => ?_
    obtain ⟨r, hr⟩ := h.lost w' hw'
    have hne : w' ≠ w := by
      rintro rfl
      exact Bool.false_ne_true (able.symm.trans hw')
    exact ⟨r, (Function.update_of_ne hne _ _).trans hr⟩
  | turn on able again =>
    exact kept_of_during on (h.pool.tail (.turn again)) (h.opened (by simp [on])) h.lost
  | @breaks w spans call next on ht job =>
    refine kept_of_during on h.pool (h.opened (by simp [on])) fun w' hw' => ?_
    by_cases hne : w' = w
    · subst hne
      exact h.held_of_job ht job
    · exact h.lost w' ((Function.update_of_ne hne _ _).symm.trans hw')
  | scannerEnds on => exact ⟨h.pool, h.closed, h.ended, h.lost⟩
  | outside hp hands kept =>
    exact {
      pool := h.pool.tail hp
      closed := by rw [kept]; exact h.closed
      ended := by rw [hands.turn]; exact h.ended
      lost := by rw [hands.held]; exact h.lost }
  | signal => exact ⟨h.pool, h.closed, h.ended, h.lost⟩
  | returns on workers scanner =>
    exact ⟨h.pool.tail .close, iff_of_true rfl rfl, fun _ => workers, h.lost⟩

theorem Reachable.kept (h : s.Reachable settings) : s.Kept settings := by
  induction h with
  | refl => exact kept_opening
  | tail _ hs ih => exact ih.step hs

/-! ## After the end -/

/-- A report is refused since the queue is closed. -/
def Refuses (s : Shift config) (r : ReportId) : Prop :=
  s.pool.queue.enqueue r = (.error (.closed r), s.pool.queue)

/-- A report was let in and is not released: it still waits, or its worker broke down. -/
def Strands (s : Shift config) (r : ReportId) : Prop :=
  r ∈ s.pool.queue.waiting ∨ ∃ w, s.broken w = true ∧ s.pool.held w = some r

/-- After the end, what is in flight is stranded. -/
theorem Kept.mem_inFlight (h : s.Kept settings) (returned : s.phase = .after) (r : ReportId) :
    r ∈ s.pool.queue.inFlight ↔ s.Strands r := by
  obtain ⟨shape, sound⟩ := h.pool.sound
  refine (sound.inFlight r).trans (or_congr_right (exists_congr fun w => ?_))
  refine ⟨fun hr => ⟨(h.ended returned w).resolve_right fun hdone => ?_, hr⟩, And.right⟩
  -- A worker that has ended its turns holds nothing.
  have hnone := (hdone ▸ shape.turns w).held_of_ended
  rw [hr] at hnone
  cases hnone

/-- Nothing goes on after the end that concerns what is stranded. -/
theorem Kept.step_after (h : s.Kept settings) (hs : Step settings s s')
    (returned : s.phase = .after) :
    s'.phase = .after ∧ ∀ r, s'.Strands r ↔ s.Strands r := by
  have off : s.phase ≠ .during := by simp [returned]
  cases hs with
  | starts before =>
    rw [returned] at before
    cases before
  | work on | turn on | breaks on | scannerEnds on | returns on => exact absurd on off
  | signal => exact ⟨returned, fun r => Iff.rfl⟩
  | @outside pool hp hands kept =>
    refine ⟨returned, fun r => ?_⟩
    -- What waits is what was let in and not received, and neither has changed.
    have hwaiting : pool.queue.waiting = s.pool.queue.waiting := by
      have reached : pool.Reachable settings := h.pool.tail hp
      have ledger := reached.sound.2.ledger
      rw [hp.accepted_of_closed (h.closed.2 returned), hands.received,
        h.pool.sound.2.ledger] at ledger
      exact (List.append_cancel_left ledger).symm
    simp only [Strands, hwaiting, hands.held]

theorem Kept.strands_lasts (h : s.Kept settings) (returned : s.phase = .after)
    (hs : Relation.ReflTransGen (Step settings) s s') :
    s'.Kept settings ∧ s'.phase = .after ∧ ∀ r, s'.Strands r ↔ s.Strands r := by
  induction hs with
  | refl => exact ⟨h, returned, fun r => Iff.rfl⟩
  | tail _ hstep ih =>
    obtain ⟨kept, hover, hr⟩ := ih
    obtain ⟨hover', hr'⟩ := kept.step_after hstep hover
    exact ⟨kept.step hstep, hover', fun r => (hr' r).trans (hr r)⟩

/-- A runner with one worker. -/
def Sample.single : RunnerConfig := { RunnerConfig.standard with workers := 1, queueCapacity := 2 }

/-- The worker is at work on one report and another one waits when the work is stopped. The attempt
is interrupted, the worker ends, and the start returns. -/
theorem exists_stopped :
    ∃ s : Shift Sample.single, s.Reachable default ∧ s.phase = .after ∧
      s.broken = (fun _ => false) ∧ s.pool.queue = ⟨2, [⟨⟨2⟩⟩], [⟨⟨2⟩⟩], true, ⟨2, 0, 0, 0⟩⟩ := by
  let w : Fin Sample.single.hands := ⟨0, by decide⟩
  have received : JobQueue.Serves ⟨2, [⟨⟨1⟩⟩], [⟨⟨1⟩⟩], false, ⟨1, 0, 0, 0⟩⟩ .receive (some ⟨⟨1⟩⟩)
      ⟨2, [], [⟨⟨1⟩⟩], false, ⟨1, 0, 0, 0⟩⟩ := rfl
  have interrupted (timeout : Duration) (job : Service (Except JobError Unit)) :
      JobQueue.Serves ⟨2, [⟨⟨2⟩⟩], [⟨⟨2⟩⟩, ⟨⟨1⟩⟩], false, ⟨2, 0, 0, 0⟩⟩ (.attempt timeout job)
        .interrupted ⟨2, [⟨⟨2⟩⟩], [⟨⟨2⟩⟩, ⟨⟨1⟩⟩], false, ⟨2, 0, 0, 0⟩⟩ := rfl
  have released : JobQueue.Serves ⟨2, [⟨⟨2⟩⟩], [⟨⟨2⟩⟩, ⟨⟨1⟩⟩], false, ⟨2, 0, 0, 0⟩⟩
      (.release ⟨⟨1⟩⟩) () ⟨2, [⟨⟨2⟩⟩], [⟨⟨2⟩⟩], false, ⟨2, 0, 0, 0⟩⟩ := rfl
  have ended : JobQueue.Serves ⟨2, [⟨⟨2⟩⟩], [⟨⟨2⟩⟩], false, ⟨2, 0, 0, 0⟩⟩ .receive none
      ⟨2, [⟨⟨2⟩⟩], [⟨⟨2⟩⟩], false, ⟨2, 0, 0, 0⟩⟩ := rfl
  have h₀ : Reachable default (opening Sample.single default) := .refl
  have h₁ := h₀.tail (.starts rfl)
  have h₂ := h₁.tail (.work (w := w) rfl rfl .logged trivial)
  have h₃ := h₂.tail (.outside (.enqueue (r := ⟨⟨1⟩⟩) rfl) ⟨rfl, rfl, rfl⟩ rfl)
  have h₄ := h₃.tail (.work (w := w) rfl rfl (.asked received) trivial)
  have h₅ := h₄.tail (.outside (.enqueue (r := ⟨⟨2⟩⟩) rfl) ⟨rfl, rfl, rfl⟩ rfl)
  have h₆ := h₅.tail (.signal (.inl rfl))
  have h₇ := h₆.tail (.work (w := w) rfl rfl (.asked (interrupted _ _)) rfl)
  have h₈ := h₇.tail (.work (w := w) rfl rfl .logged trivial)
  have h₉ := h₈.tail (.work (w := w) rfl rfl (.asked released) trivial)
  have h₁₀ := h₉.tail (.turn (w := w) rfl rfl rfl)
  have h₁₁ := h₁₀.tail (.work (w := w) rfl rfl (.asked ended) (.inl rfl))
  have h₁₂ := h₁₁.tail (.work (w := w) rfl rfl .logged trivial)
  have h₁₃ := h₁₂.tail (.scannerEnds rfl)
  have only (v : Fin Sample.single.hands) : v = w := Fin.ext (Nat.lt_one_iff.1 v.isLt)
  have h₁₄ := h₁₃.tail (.returns rfl (fun v => .inr (by rw [only v]; rfl)) rfl)
  exact ⟨_, h₁₄, rfl, rfl, rfl⟩

/-- **The end.** After the start of a runner has returned: a report that is to be queued is refused
since the queue is closed if it is not stranded; of a stranded one it is said that it is in flight.
So every report is refused exactly if all that were let in were received and no worker broke down.
What is stranded stays so. -/
theorem stopped_refuses_iff (h : s.Reachable settings) (returned : s.phase = .after) :
    (∀ r, s.Refuses r ↔ ¬ s.Strands r) ∧
      (∀ r, s.Strands r → s.pool.queue.enqueue r = (.ok false, s.pool.queue)) ∧
      ((∀ r, s.Refuses r) ↔
        s.pool.accepted = s.pool.received.map (·.1) ∧ ∀ w, s.broken w = false) ∧
      ∀ s', Relation.ReflTransGen (Step settings) s s' →
        s'.phase = .after ∧ ∀ r, s'.Strands r ↔ s.Strands r := by
  have kept := h.kept
  have known {r : ReportId} (hr : s.Strands r) :
      s.pool.queue.enqueue r = (.ok false, s.pool.queue) :=
    JobQueue.enqueue_of_mem ((kept.mem_inFlight returned r).2 hr)
  have refuses (r : ReportId) : s.Refuses r ↔ ¬ s.Strands r := by
    refine ⟨fun hrefuses hr => ?_, fun hr => ?_⟩
    · cases (known hr).symm.trans hrefuses
    · exact JobQueue.enqueue_of_closed (fun hm => hr ((kept.mem_inFlight returned r).1 hm))
        (kept.closed.2 returned)
  refine ⟨refuses, fun r => known, ?_, fun s' hs => (kept.strands_lasts returned hs).2⟩
  rw [kept.pool.sound.2.ledger, List.append_right_eq_self, List.eq_nil_iff_forall_not_mem]
  constructor
  · intro hall
    refine ⟨fun r hr => (refuses r).1 (hall r) (.inl hr), fun w => eq_false_of_ne_true fun hw => ?_⟩
    obtain ⟨r, hr⟩ := kept.lost w hw
    exact (refuses r).1 (hall r) (.inr ⟨w, hw, hr⟩)
  · rintro ⟨hwaiting, hbroken⟩ r
    refine (refuses r).2 ?_
    rintro (hr | ⟨w, hw, -⟩)
    · exact hwaiting r hr
    · exact Bool.false_ne_true ((hbroken w).symm.trans hw)

/-- In the sample the report that was interrupted is refused, and the one that waited is
stranded. -/
theorem stopped_refuses_iff_sample :
    ∃ s : Shift Sample.single, s.Reachable default ∧ s.phase = .after ∧
      s.Refuses ⟨⟨1⟩⟩ ∧ s.Strands ⟨⟨2⟩⟩ ∧ ¬ s.Refuses ⟨⟨2⟩⟩ := by
  obtain ⟨s, h, returned, hbroken, hqueue⟩ := exists_stopped
  obtain ⟨refuses, -, -, -⟩ := stopped_refuses_iff h returned
  have stranded : s.Strands ⟨⟨2⟩⟩ := .inl (by rw [hqueue]; exact List.mem_singleton_self _)
  refine ⟨s, h, returned, (refuses _).2 ?_, stranded, fun hr => (refuses _).1 hr stranded⟩
  rintro (hr | ⟨w, hw, -⟩)
  · rw [hqueue] at hr
    exact absurd (List.mem_singleton.1 hr) (by decide)
  · rw [hbroken] at hw
    cases hw

/-- The start of a runner has returned, no worker has broken down, and yet a report is not refused:
it waited when the work was stopped. -/
theorem report_stranded :
    ∃ s : Shift Sample.single, s.Reachable default ∧ s.phase = .after ∧ (∀ w, s.broken w = false) ∧
      s.pool.queue.enqueue ⟨⟨2⟩⟩ = (.ok false, s.pool.queue) := by
  obtain ⟨s, h, returned, hbroken, hqueue⟩ := exists_stopped
  refine ⟨s, h, returned, fun w => by rw [hbroken], ?_⟩
  rw [hqueue]
  rfl

end Shift

end RiskReport
