import Mathlib.Data.List.FinRange
import Mathlib.Data.List.Nodup
import Mathlib.Tactic.SplitIfs
import Mathlib.Tactic.Tauto
import RiskReport.Proofs.Job.Pool

/-!
# A report is worked on by one worker at a time, and none is lost

The reports in flight are those that wait in the queue and those that a worker holds. Four things
ever change them: a report is let in, a report is handed out, a report is taken back, and nothing
else does (`Pool.Effect`). That a step has one of these effects rests on what a worker can ask: the
program of a worker that holds a report asks for nothing but attempts at that report, waits and
counts, until it releases the report (`Turn`).

**Theorem (`reports_exclusive`).** In every state that the runner gets into, no report is in the
queue twice, or with two workers, or in the queue and with a worker; the reports in flight are
exactly these; the queue keeps to its places and the workers to their number; and the reports that
were let in are those that were received, in the same order, followed by those that wait.
-/

namespace RiskReport

open Program

/-! ## Letting a report in -/

/-- What becomes of a report that is to be queued. -/
inductive JobQueue.Enqueued (q : JobQueue) (r : ReportId) :
    Except EnqueueError Bool → JobQueue → Prop
  | known (h : r ∈ q.inFlight) : Enqueued q r (.ok false) q
  | closed (new : r ∉ q.inFlight) (h : q.closed = true) : Enqueued q r (.error (.closed r)) q
  | full (new : r ∉ q.inFlight) (h : q.capacity ≤ q.waiting.length) :
      Enqueued q r (.error (.full r)) q
  | letIn (new : r ∉ q.inFlight) (room : q.waiting.length < q.capacity) :
      Enqueued q r (.ok true)
        { q with
          waiting := q.waiting ++ [r]
          inFlight := r :: q.inFlight
          stats := { q.stats with enqueued := q.stats.enqueued + 1 } }

theorem JobQueue.enqueued {q q' : JobQueue} {r : ReportId} {a : Except EnqueueError Bool}
    (h : q.enqueue r = (a, q')) : q.Enqueued r a q' := by
  unfold enqueue at h
  split_ifs at h with hr hc hf
  all_goals obtain ⟨rfl, rfl⟩ := Prod.mk.inj h
  · exact .known hr
  · exact .closed hr hc
  · exact .full hr hf
  · exact .letIn hr (by omega)

/-- What is received is what has waited longest. -/
theorem JobQueue.receive?_eq_some {q q' : JobQueue} {r : ReportId}
    (h : q.receive? = some (r, q')) :
    ∃ rest, q.waiting = r :: rest ∧ q' = { q with waiting := rest } := by
  unfold receive? at h
  split at h
  · cases h
  · next s rest hw =>
    obtain ⟨rfl, rfl⟩ := Prod.mk.inj (Option.some.inj h)
    exact ⟨rest, hw, rfl⟩

/-! ## The programs of workers -/

/-- What a worker may ask that works on a report. -/
def RunnerCall.Concerns (settings : JobSettings) (r : ReportId) : RunnerCall → Prop
  | .attempt _ job => job = makeReport settings r
  | .insist _ job => ∃ reason, job = Service.store (.markReportFailed r reason)
  | .pause _ | .count _ => True
  | .receive | .scan _ | .enqueue _ | .release _ | .now => False

/-- What a recovery scan may ask. -/
def RunnerCall.Scans : RunnerCall → Prop
  | .scan _ | .enqueue _ | .now => True
  | .receive | .attempt .. | .pause _ | .insist .. | .release _ | .count _ => False

variable {config : RunnerConfig} {settings : JobSettings} {worker : Nat}

theorem asks_giveUp (r : ReportId) (lastError : String) :
    (giveUp config worker r lastError).Asks (RunnerCall.Concerns settings r) := by
  refine (asks_request trivial).bind fun _ => (asks_report _).bind fun _ => ?_
  refine (asks_request ⟨_, rfl⟩).bind fun answer => ?_
  rcases answer with _ | (e | ⟨⟩)
  · exact asks_report _
  · exact asks_report _
  · exact asks_done ()

theorem asks_backOff (r : ReportId) (attempt : Nat) :
    (backOff config worker r attempt).Asks (RunnerCall.Concerns settings r) := by
  unfold backOff
  split
  · refine (asks_request trivial).bind fun stopped => ?_
    cases stopped
    · exact asks_done _
    · exact (asks_report _).bind fun _ => asks_done _
  · exact asks_done _

/-- However many attempts are left, a worker asks only what concerns its report. -/
theorem asks_attempts (r : ReportId) (left attempt : Nat) (lastError : String) :
    (attempts config settings worker r left attempt lastError).Asks
      (RunnerCall.Concerns settings r) := by
  induction left generalizing attempt lastError with
  | zero => exact asks_giveUp r lastError
  | succ left ih =>
    -- A failed attempt is counted, and another follows unless the work is stopped meanwhile.
    have failed (message : String) : Asks (RunnerCall.Concerns settings r)
        ((Work.request (.count .attemptFailed)).bind fun _ =>
          (Work.note .warn "job attempt failed" (workFields worker r ++
            [("attempt", .ofNat attempt), ("max_attempts", .ofNat config.retry.maxAttempts),
              ("error", .shown message)])).bind fun _ =>
          (backOff config worker r attempt).bind fun stopped =>
            if stopped then .done ()
            else attempts config settings worker r left (attempt + 1) message) := by
      refine (asks_request trivial).bind fun _ => (asks_report _).bind fun _ => ?_
      refine (asks_backOff r attempt).bind fun stopped => ?_
      cases stopped
      · exact ih (attempt + 1) message
      · exact asks_done ()
    have own : RunnerCall.Concerns settings r
        (.attempt config.jobTimeout (makeReport settings r)) := rfl
    refine Asks.bind (asks_request own) fun outcome => ?_
    rcases outcome with (e | ⟨⟩) | _ | _
    · exact failed e.message
    · exact (asks_request trivial).bind fun _ => asks_report _
    · exact failed (timeoutMessage config.jobTimeout)
    · exact asks_report _

theorem asks_queuePending (queued : Nat) (pending : List ReportId) :
    (queuePending queued pending).Asks RunnerCall.Scans := by
  induction pending generalizing queued with
  | nil => exact asks_done queued
  | cons r rest ih =>
    refine (asks_request trivial).bind fun answer => ?_
    rcases answer with e | _ | _
    · exact (asks_report _).bind fun _ => asks_done queued
    · exact ih queued
    · exact (asks_report _).bind fun _ => ih (queued + 1)

theorem asks_scanOnce : (scanOnce config).Asks RunnerCall.Scans := by
  refine (asks_request trivial).bind fun now => (asks_request trivial).bind fun answer => ?_
  rcases answer with e | pending
  · exact (asks_report _).bind fun _ => asks_done 0
  · exact asks_queuePending 0 pending

/-! ## What a step does -/

/-- Nothing has changed that concerns the reports. -/
structure JobQueue.Calm (q q' : JobQueue) : Prop where
  capacity : q'.capacity = q.capacity
  waiting : q'.waiting = q.waiting
  inFlight : q'.inFlight = q.inFlight
  enqueued : q'.stats.enqueued = q.stats.enqueued

theorem JobQueue.calm_refl (q : JobQueue) : q.Calm q :=
  ⟨rfl, rfl, rfl, rfl⟩

theorem JobQueue.calm_count (q : JobQueue) (c : Counter) :
    q.Calm { q with stats := q.stats.count c } :=
  ⟨rfl, rfl, rfl, by cases c <;> rfl⟩

namespace Pool

/-- The end of a turn: the report is released, and another turn follows. -/
def leave (r : ReportId) : Work Bool :=
  (Work.request (.release r)).bind fun _ => .done true

/-- The rest of a worker's turn, by the report that the worker holds. -/
inductive Turn (config : RunnerConfig) (settings : JobSettings) (worker : Nat) :
    Option ReportId → Work Bool → Prop
  | ended (next : Bool) : Turn config settings worker none (.done next)
  | begins : Turn config settings worker none (workerTurn config settings worker)
  | notes {spans : List Log.Span} {event : Log.Event} {rest : Work Bool}
      (h : Turn config settings worker none rest) :
      Turn config settings worker none (.log spans event rest)
  | works {r : ReportId} {rest : Work Unit} (h : rest.Asks (RunnerCall.Concerns settings r)) :
      Turn config settings worker (some r) (rest.bind fun _ => leave r)

theorem turn_workerStart : Turn config settings worker none (workerStart config settings worker) :=
  .notes .begins

/-- What a worker's step means for the queue and for what the worker holds. -/
inductive Deal (q q' : JobQueue) : Option ReportId → Option (Exchange runnerInterface) → Prop
  | nothing {before : Option ReportId} {x : Option (Exchange runnerInterface)} (calm : q.Calm q')
      (letIn : letIn x = []) (handedOut : handedOut x = []) (held : heldAfter before x = before) :
      Deal q q' before x
  | received {r : ReportId} (queue : q.receive? = some (r, q')) :
      Deal q q' none (some ⟨.receive, some r⟩)
  | released {r : ReportId} (queue : q' = q.release r) :
      Deal q q' (some r) (some ⟨.release r, ()⟩)

/-- What concerns a report leaves the reports in the queue as they are. -/
theorem calm_of_concerns {r : ReportId} {call : RunnerCall} {a : call.Answer} {q q' : JobQueue}
    (hc : call.Concerns settings r) (hs : q.Serves call a q') : q.Calm q' := by
  cases call with
  | attempt | insist | pause =>
    obtain rfl : q' = q := hs
    exact q'.calm_refl
  | count c =>
    obtain rfl : q' = _ := hs
    exact q.calm_count c
  | receive | scan | enqueue | release | now => exact hc.elim

/-- What concerns a report is not on record. -/
theorem record_of_concerns {r : ReportId} {call : RunnerCall} {a : call.Answer}
    (hc : call.Concerns settings r) (before : Option ReportId) :
    letIn (some ⟨call, a⟩) = [] ∧ handedOut (some ⟨call, a⟩) = [] ∧
      heldAfter before (some ⟨call, a⟩) = before := by
  cases call with
  | attempt | insist | pause | count => exact ⟨rfl, rfl, rfl⟩
  | receive | scan | enqueue | release | now => exact hc.elim

/-- A worker goes on with its turn, and what it holds changes by what it asks. -/
theorem Turn.step {h : Option ReportId} {t t' : Work Bool} {q q' : JobQueue}
    {x : Option (Exchange runnerInterface)} (ht : Turn config settings worker h t)
    (hs : Program.Step JobQueue.Serves t q x t' q') :
    Turn config settings worker (heldAfter h x) t' ∧ Deal q q' h x := by
  cases ht with
  | ended next => cases hs
  | notes ht =>
    cases hs
    exact ⟨ht, .nothing q.calm_refl rfl rfl rfl⟩
  | begins =>
    -- The first thing that a worker asks for is a report.
    cases hs with
    | @asked _ _ _ _ _ a served =>
      cases a with
      | none =>
        obtain rfl : q' = q := served
        exact ⟨.notes (.ended false), .nothing q'.calm_refl rfl rfl rfl⟩
      | some r => exact ⟨.works (asks_attempts r _ _ _), .received served⟩
  | @works r rest ht =>
    rcases hs.of_bind with ⟨⟨⟩, rfl, hleave⟩ | ⟨rest', hrest, rfl⟩
    · cases hleave with
      | asked served =>
        refine ⟨?_, .released served⟩
        simp only [heldAfter, if_true]
        exact .ended true
    · obtain ⟨ht', ⟨rfl, rfl⟩ | ⟨call, a, hc, rfl, served⟩⟩ := ht.step hrest
      · exact ⟨.works ht', .nothing q'.calm_refl rfl rfl rfl⟩
      · obtain ⟨hin, hout, hheld⟩ := record_of_concerns (a := a) hc (some r)
        exact ⟨hheld.symm ▸ .works ht', .nothing (calm_of_concerns hc served) hin hout hheld⟩

/-- A worker without a report asks for one, and a worker with a report asks for nothing that is not
about it until it releases it. -/
theorem Turn.asks {h : Option ReportId} {spans : List Log.Span} {call : RunnerCall}
    {next : call.Answer → Work Bool} (ht : Turn config settings worker h (.ask spans call next)) :
    h = none ∧ call = .receive ∨
      ∃ r, h = some r ∧ (call.Concerns settings r ∨ call = .release r) := by
  generalize htask : (Program.ask spans call next : Work Bool) = t at ht
  cases ht with
  | ended | notes => cases htask
  | begins =>
    cases htask
    exact .inl ⟨rfl, rfl⟩
  | @works r rest ht =>
    cases rest with
    | done =>
      cases htask
      exact .inr ⟨r, rfl, .inr rfl⟩
    | ask =>
      cases htask
      exact .inr ⟨r, rfl, .inl ht.1⟩
    | log => cases htask

/-- A worker whose turn is over holds nothing. -/
theorem Turn.held_of_ended {h : Option ReportId} {next : Bool}
    (ht : Turn config settings worker h (.done next)) : h = none := by
  generalize hdone : (Program.done next : Work Bool) = t at ht
  cases ht with
  | ended => rfl
  | begins | notes => cases hdone
  | @works r rest =>
    cases rest <;> cases hdone

/-- How a step can change what concerns the reports. -/
inductive Effect (p p' : Pool config) : Prop
  | nothing (queue : p.queue.Calm p'.queue) (held : p'.held = p.held)
      (accepted : p'.accepted = p.accepted) (received : p'.received = p.received)
  | letIn {r : ReportId} (queue : p.queue.Enqueued r (.ok true) p'.queue) (held : p'.held = p.held)
      (accepted : p'.accepted = p.accepted ++ [r]) (received : p'.received = p.received)
  | handedOut {r : ReportId} {w : Fin config.hands} (idle : p.held w = none)
      (queue : p.queue.receive? = some (r, p'.queue))
      (held : p'.held = Function.update p.held w (some r)) (accepted : p'.accepted = p.accepted)
      (received : p'.received = p.received ++ [(r, w)])
  | takenBack {r : ReportId} {w : Fin config.hands} (holds : p.held w = some r)
      (queue : p'.queue = p.queue.release r) (held : p'.held = Function.update p.held w none)
      (accepted : p'.accepted = p.accepted) (received : p'.received = p.received)

/-- Every program is where it can be. -/
structure Shape (settings : JobSettings) (p : Pool config) : Prop where
  turns : ∀ w : Fin config.hands, Turn config settings w (p.held w) (p.turn w)
  scans : ∀ i, (p.scan i).Asks RunnerCall.Scans

theorem shape_initial : (initial config settings).Shape settings :=
  ⟨fun _ => turn_workerStart, fun _ => asks_done 0⟩

/-- A report that is queued is let in, or nothing happens. -/
theorem effect_of_enqueue {p p' : Pool config} {r : ReportId} {a : Except EnqueueError Bool}
    (h : p.queue.Serves (.enqueue r) a p'.queue) (held : p'.held = p.held)
    (accepted : p'.accepted = p.accepted ++ letIn (some ⟨.enqueue r, a⟩))
    (received : p'.received = p.received) : Effect p p' := by
  have hq := JobQueue.enqueued h
  generalize hp : p'.queue = q at hq
  cases hq with
  | letIn new room => exact .letIn (hp ▸ .letIn new room) held accepted received
  | known | closed | full =>
    exact .nothing (hp ▸ p.queue.calm_refl) held (by simpa [letIn] using accepted) received

/-- Every step has one of the effects, and leaves every program where it can be. -/
theorem Shape.step {p p' : Pool config} (h : p.Shape settings) (hs : Step settings p p') :
    p'.Shape settings ∧ Effect p p' := by
  cases hs with
  | @work w t q x hs =>
    obtain ⟨ht, hd⟩ := (h.turns w).step hs
    refine ⟨⟨fun w' => ?_, h.scans⟩, ?_⟩
    · by_cases hw : w' = w
      · subst hw
        simpa using ht
      · simpa [hw] using h.turns w'
    · generalize hb : p.held w = before at hd ht
      cases hd with
      | nothing calm hin hout hheld =>
        subst hb
        exact .nothing calm (by simp [hheld]) (by simp [hin]) (by simp [hout])
      | received queue =>
        exact .handedOut hb queue (by simp [heldAfter]) (by simp [letIn]) rfl
      | @released r queue =>
        exact .takenBack hb queue (by simp [heldAfter]) (by simp [letIn]) (by simp [handedOut])
  | @turn w hover =>
    refine ⟨⟨fun w' => ?_, h.scans⟩, .nothing p.queue.calm_refl rfl rfl rfl⟩
    by_cases hw : w' = w
    · subst hw
      have hheld : p.held w' = none := (hover ▸ h.turns w').held_of_ended
      simp only [hheld, Function.update_self]
      exact .begins
    · simpa [hw] using h.turns w'
  | @scan i t q x hs =>
    obtain ⟨ha, hx⟩ := (h.scans i).step hs
    refine ⟨⟨h.turns, fun j => ?_⟩, ?_⟩
    · by_cases hj : j = i
      · subst hj
        simpa using ha
      · simpa [hj] using h.scans j
    · rcases hx with ⟨rfl, rfl⟩ | ⟨call, a, hc, rfl, served⟩
      · exact .nothing p.queue.calm_refl rfl (List.append_nil _) rfl
      · cases call with
        | enqueue r => exact effect_of_enqueue served rfl rfl rfl
        | scan | now =>
          obtain rfl : q = p.queue := served
          exact .nothing p.queue.calm_refl rfl (List.append_nil _) rfl
        | receive | attempt | pause | insist | release | count => exact hc.elim
  | @scans i n hover =>
    refine ⟨⟨h.turns, fun j => ?_⟩, .nothing p.queue.calm_refl rfl rfl rfl⟩
    by_cases hj : j = i
    · subst hj
      simpa using asks_scanOnce
    · simpa [hj] using h.scans j
  | enqueue hs => exact ⟨⟨h.turns, h.scans⟩, effect_of_enqueue hs rfl rfl rfl⟩
  | close => exact ⟨⟨h.turns, h.scans⟩, .nothing ⟨rfl, rfl, rfl, rfl⟩ rfl rfl rfl⟩

/-! ## The invariant -/

/-- What always holds between the queue, the workers and the record. -/
structure Sound (p : Pool config) : Prop where
  capacity : p.queue.capacity = config.places
  fits : p.queue.waiting.length ≤ p.queue.capacity
  waiting : p.queue.waiting.Nodup
  apart : ∀ w r, p.held w = some r → r ∉ p.queue.waiting
  single : ∀ w w' r, p.held w = some r → p.held w' = some r → w = w'
  inFlight : ∀ r, r ∈ p.queue.inFlight ↔ r ∈ p.queue.waiting ∨ ∃ w, p.held w = some r
  ledger : p.accepted = p.received.map (·.1) ++ p.queue.waiting
  counted : p.queue.stats.enqueued = p.accepted.length

theorem sound_initial : (initial config settings).Sound where
  capacity := rfl
  fits := Nat.zero_le _
  waiting := List.nodup_nil
  apart := by simp [initial]
  single := by simp [initial]
  inFlight := by simp [initial]
  ledger := rfl
  counted := rfl

variable {p p' : Pool config} {r : ReportId} {w : Fin config.hands}

/-- The invariant does not depend on anything else. -/
theorem Sound.calm (h : p.Sound) (queue : p.queue.Calm p'.queue) (held : p'.held = p.held)
    (accepted : p'.accepted = p.accepted) (received : p'.received = p.received) : p'.Sound where
  capacity := queue.capacity.trans h.capacity
  fits := by rw [queue.waiting, queue.capacity]; exact h.fits
  waiting := queue.waiting ▸ h.waiting
  apart := by rw [held, queue.waiting]; exact h.apart
  single := by rw [held]; exact h.single
  inFlight := by rw [queue.inFlight, queue.waiting, held]; exact h.inFlight
  ledger := by rw [accepted, received, queue.waiting]; exact h.ledger
  counted := by rw [queue.enqueued, accepted]; exact h.counted

/-- A report that is let in was neither in the queue nor with a worker, since it was not in
flight. -/
theorem Sound.letIn (h : p.Sound) (queue : p.queue.Enqueued r (.ok true) p'.queue)
    (held : p'.held = p.held) (accepted : p'.accepted = p.accepted ++ [r])
    (received : p'.received = p.received) : p'.Sound := by
  generalize hq : p'.queue = q at queue
  cases queue with
  | letIn new room =>
  -- The report is new in the queue and to the workers, since those are what is in flight.
  have hnew : r ∉ p.queue.waiting ∧ ∀ w, p.held w ≠ some r := by
    simpa [h.inFlight r] using new
  exact {
    capacity := by rw [hq]; exact h.capacity
    fits := by rw [hq, List.length_append]; exact room
    waiting := by
      rw [hq]
      exact h.waiting.append (List.nodup_singleton r) (by simpa using hnew.1)
    apart := by
      rw [held, hq]
      intro w s hs
      have hsr : s ≠ r := fun hsr => hnew.2 w (hsr ▸ hs)
      simpa [hsr] using h.apart w s hs
    single := by rw [held]; exact h.single
    inFlight := by
      rw [held, hq]
      intro s
      simp only [List.mem_cons, List.mem_append, List.not_mem_nil, or_false, h.inFlight s]
      tauto
    ledger := by rw [accepted, received, hq, h.ledger, List.append_assoc]
    counted := by rw [accepted, hq, List.length_append, ← h.counted]; rfl }

/-- A report that is handed out was waiting, so nobody held it. -/
theorem Sound.handedOut (h : p.Sound) (idle : p.held w = none)
    (queue : p.queue.receive? = some (r, p'.queue))
    (held : p'.held = Function.update p.held w (some r)) (accepted : p'.accepted = p.accepted)
    (received : p'.received = p.received ++ [(r, w)]) : p'.Sound := by
  obtain ⟨rest, hw, hq⟩ := JobQueue.receive?_eq_some queue
  have hnodup : r ∉ rest ∧ rest.Nodup := List.nodup_cons.1 (hw ▸ h.waiting)
  -- Nobody else holds the report, since it was waiting.
  have hnew : ∀ w', p.held w' ≠ some r := fun w' hr => h.apart w' r hr (hw ▸ List.mem_cons_self)
  have hheld : ∀ w' s, p'.held w' = some s ↔ w' = w ∧ s = r ∨ p.held w' = some s := by
    intro w' s
    by_cases hww : w' = w
    · subst hww
      simp [held, idle, eq_comm]
    · simp [held, hww]
  exact {
    capacity := by rw [hq]; exact h.capacity
    fits := by
      have hfits := h.fits
      rw [hw, List.length_cons] at hfits
      rw [hq]
      exact Nat.le_of_succ_le hfits
    waiting := by rw [hq]; exact hnodup.2
    apart := by
      intro w' s hs
      rw [hq]
      rcases (hheld w' s).1 hs with ⟨-, rfl⟩ | hs
      · exact hnodup.1
      · exact fun hm => h.apart w' s hs (hw ▸ List.mem_cons_of_mem r hm)
    single := by
      intro a b s ha hb
      rcases (hheld a s).1 ha with ⟨rfl, rfl⟩ | ha <;> rcases (hheld b s).1 hb with ⟨rfl, hs⟩ | hb
      · rfl
      · exact absurd hb (hnew b)
      · exact absurd (hs ▸ ha) (hnew a)
      · exact h.single a b s ha hb
    inFlight := by
      intro s
      have hf := h.inFlight s
      rw [hw, List.mem_cons] at hf
      simp only [hq, hf, hheld, exists_or, exists_and_right]
      tauto
    ledger := by
      rw [accepted, received, hq, h.ledger, hw]
      simp
    counted := by rw [hq, accepted]; exact h.counted }

/-- A report that is taken back was with this worker only, so it is nowhere afterwards. -/
theorem Sound.takenBack (h : p.Sound) (holds : p.held w = some r)
    (queue : p'.queue = p.queue.release r) (held : p'.held = Function.update p.held w none)
    (accepted : p'.accepted = p.accepted) (received : p'.received = p.received) : p'.Sound := by
  have hheld : ∀ w' s, p'.held w' = some s ↔ s ≠ r ∧ p.held w' = some s := by
    intro w' s
    by_cases hww : w' = w
    · subst hww
      simp only [held, Function.update_self, holds, Option.some.injEq, reduceCtorEq, false_iff]
      exact fun ⟨hne, hs⟩ => hne hs.symm
    · simp only [held, Function.update_of_ne hww]
      refine ⟨fun hs => ⟨?_, hs⟩, And.right⟩
      rintro rfl
      exact hww (h.single w' w s hs holds)
  exact {
    capacity := by rw [queue]; exact h.capacity
    fits := by rw [queue]; exact h.fits
    waiting := by rw [queue]; exact h.waiting
    apart := by
      intro w' s hs
      rw [queue]
      exact h.apart w' s ((hheld w' s).1 hs).2
    single := by
      intro a b s ha hb
      exact h.single a b s ((hheld a s).1 ha).2 ((hheld b s).1 hb).2
    inFlight := by
      intro s
      have hr : s ∈ p.queue.waiting → s ≠ r := fun hm hs => h.apart w r holds (hs ▸ hm)
      simp only [queue, JobQueue.release, List.mem_filter, h.inFlight s, decide_eq_true_eq, hheld,
        exists_and_left]
      tauto
    ledger := by rw [accepted, received, queue]; exact h.ledger
    counted := by rw [queue, accepted]; exact h.counted }

theorem Sound.effect (h : p.Sound) (he : Effect p p') : p'.Sound := by
  cases he with
  | nothing queue held accepted received => exact h.calm queue held accepted received
  | letIn queue held accepted received => exact h.letIn queue held accepted received
  | handedOut idle queue held accepted received =>
    exact h.handedOut idle queue held accepted received
  | takenBack holds queue held accepted received =>
    exact h.takenBack holds queue held accepted received

/-- The invariant holds in every state, and every program is where it can be. -/
theorem Reachable.sound (h : Reachable settings p) :
    p.Shape settings ∧ p.Sound := by
  induction h with
  | refl => exact ⟨shape_initial, sound_initial⟩
  | tail _ hs ih =>
    obtain ⟨hshape, heffect⟩ := ih.1.step hs
    exact ⟨hshape, ih.2.effect heffect⟩

/-! ## Exclusion -/

/-- The first request for a report says which report it is for. -/
theorem makeReport_injective : Function.Injective (makeReport settings) := by
  intro r r' h
  have first (id : ReportId) :
      ∃ spans next, makeReport settings id = .ask spans (.store (.getReport id)) next :=
    ⟨_, _, rfl⟩
  obtain ⟨_, _, hr⟩ := first r
  obtain ⟨_, _, hr'⟩ := first r'
  rw [hr, hr'] at h
  obtain ⟨-, hcall, -⟩ := Program.ask.inj h
  exact StoreCall.getReport.inj (ServiceCall.store.inj hcall)

theorem Shape.held_of_attempts (h : p.Shape settings) (ha : p.Attempts settings w r) :
    p.held w = some r := by
  obtain ⟨spans, timeout, next, hask⟩ := ha
  rcases (hask ▸ h.turns w).asks with ⟨-, ⟨⟩⟩ | ⟨r', hheld, hjob | ⟨⟨⟩⟩⟩
  rw [hheld, makeReport_injective hjob]

theorem Shape.held_of_idle (h : p.Shape settings) (hi : p.Idle w) : p.held w = none := by
  rcases hi with ⟨next, hover⟩ | ⟨spans, next, hask⟩
  · exact (hover ▸ h.turns w).held_of_ended
  · rcases (hask ▸ h.turns w).asks with ⟨hheld, -⟩ | ⟨r, -, hc | hc⟩
    · exact hheld
    · exact hc.elim
    · cases hc

/-- **Exclusion.** At any time, whatever has happened since the runner began: no report is in the
queue and with the workers more than once, and the reports in flight are exactly those; the queue
keeps to its places and the workers to their number; the reports that were let in are those that
were received, each by one worker, and then those that wait; a report is refused only if it is not
in flight and the queue is full or closed, and that changes nothing; a worker that attempts a report
holds it, an idle worker holds none, and no two workers attempt the same report. -/
theorem reports_exclusive (h : Reachable settings p) :
    (p.queue.waiting ++ p.working).Nodup ∧
      (∀ r, r ∈ p.queue.inFlight ↔ r ∈ p.queue.waiting ++ p.working) ∧
      p.queue.waiting.length ≤ config.places ∧ p.working.length ≤ config.hands ∧
      p.accepted = p.received.map (·.1) ++ p.queue.waiting ∧
      p.queue.stats.enqueued = p.accepted.length ∧
      (∀ r e q, p.queue.enqueue r = (.error e, q) →
        q = p.queue ∧ r ∉ p.queue.inFlight ∧
          (e = .full r ∧ p.queue.waiting.length = config.places ∨
            e = .closed r ∧ p.queue.closed = true)) ∧
      (∀ w r, p.Attempts settings w r → p.held w = some r) ∧
      (∀ w, p.Idle w → p.held w = none) ∧
      ∀ w w' r, p.Attempts settings w r → p.Attempts settings w' r → w = w' := by
  obtain ⟨hshape, hs⟩ := h.sound
  have hworking (r : ReportId) : r ∈ p.working ↔ ∃ w, p.held w = some r := by
    simp [working]
  refine ⟨?_, ?_, ?_, ?_, hs.ledger, hs.counted, ?_, ?_, ?_, ?_⟩
  · refine hs.waiting.append ((List.nodup_finRange _).filterMap hs.single) ?_
    intro r hr hw
    obtain ⟨w, hw⟩ := (hworking r).1 hw
    exact hs.apart w r hw hr
  · intro r
    rw [List.mem_append, hworking]
    exact hs.inFlight r
  · exact hs.capacity ▸ hs.fits
  · exact (List.length_filterMap_le _ _).trans_eq List.length_finRange
  · intro r e q hq
    cases JobQueue.enqueued hq with
    | closed new hc => exact ⟨rfl, new, .inr ⟨rfl, hc⟩⟩
    | full new hf =>
      exact ⟨rfl, new, .inl ⟨rfl, (Nat.le_antisymm hs.fits hf).trans hs.capacity⟩⟩
  · exact fun w r ha => hshape.held_of_attempts ha
  · exact fun w hi => hshape.held_of_idle hi
  · exact fun w w' r ha ha' =>
      hs.single w w' r (hshape.held_of_attempts ha) (hshape.held_of_attempts ha')

/-- A report that was queued and received by the second worker is in flight, and with this
worker. -/
theorem reports_exclusive_sample :
    ∃ p : Pool .standard, p.Attempts default ⟨1, by decide⟩ ⟨⟨7⟩⟩ ∧ p.queue.inFlight = [⟨⟨7⟩⟩] ∧
      (p.queue.waiting ++ p.working).Nodup := by
  let r : ReportId := ⟨⟨7⟩⟩
  let w : Fin RunnerConfig.standard.hands := ⟨1, by decide⟩
  have received : JobQueue.Serves ⟨6, [r], [r], false, ⟨1, 0, 0, 0⟩⟩ .receive (some r)
      ⟨6, [], [r], false, ⟨1, 0, 0, 0⟩⟩ := rfl
  have h₀ : Reachable default (initial .standard default) := .refl
  have h₁ := h₀.tail (.enqueue (r := r) rfl)
  have h₂ := h₁.tail (.work (w := w) .logged)
  have h₃ := h₂.tail (.work (w := w) (.asked received))
  exact ⟨_, ⟨_, _, _, rfl⟩, rfl, (reports_exclusive h₃).1⟩

end Pool

end RiskReport
