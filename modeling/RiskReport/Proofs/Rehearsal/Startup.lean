import Mathlib.Logic.Relation
import RiskReport.Proofs.Config
import RiskReport.Proofs.Rehearsal.Frame
import RiskReport.Rehearsal.Schedule

/-!
# The scan at startup

Starting a runner starts its workers and its recovery scanner, and the scanner scans at once. That
is a statement about every schedule: `Stage.Move` lets any task that has something to go on with
take its turn, and between two turns the world may change, tasks may be woken and time may pass. A
`Stage.Course` is a schedule without end, and it is `Fair` if nobody is kept waiting for ever. What
the scheduler of rehearsals does are such moves (`Stage.reaches_startRunner`,
`Stage.reaches_waitUntil`), so it makes some of the runs that the theorem is about.

A task that has something to go on with keeps it until its turn comes
(`Stage.Course.eventually_turn`). The overseer starts the scanner when its turn comes
(`Stage.exists_scanner`), and the scanner asks the store for unfinished reports when its turn
comes, unless the work was stopped or no time is to pass between scans (`Stage.scanned_poll`).

**Theorem (`accepted_settings_run`).** With settings that are accepted the runner can be
configured, and it can be made if its queue has no more than the largest number of places. As long
as no collaborator breaks down, a task does exactly if the time between scans is zero. Otherwise the
store is asked for unfinished reports at startup, unless the work is stopped. All of this is so
whatever schedule the tasks follow, and the runs of rehearsals follow one.
-/

namespace RiskReport.Rehearsal

open World

namespace World

/-- The store was asked for unfinished reports. -/
def Scanned (w : World) : Prop :=
  ∃ time since, (time, ServiceCall.store (.pendingReports since)) ∈ w.journal

variable {w w' : World}

theorem LeadsTo.scanned (h : w.LeadsTo w') (hw : w.Scanned) : w'.Scanned := by
  obtain ⟨time, since, hmem⟩ := hw
  exact ⟨time, since, h.journal.subset hmem⟩

/-- A program that scans goes on after its scan. -/
theorem leadsTo_scan {α : Type} {spans : List Log.Span}
    {job : Service (Except StoreError (List ReportId))}
    {next : Except StoreError (List ReportId) → Work α} :
    (runService (job.within spans) w).2.LeadsTo (runWork (.ask spans (.scan job) next) w).2 := by
  unfold runWork
  dsimp only
  rcases runService (job.within spans) w with ⟨r | s | _, w'⟩
  · exact (runs_runWork (next r) w').leadsTo
  · exact leadsTo_refl w'
  · exact leadsTo_refl w'

/-- A recovery scan asks the store for unfinished reports. -/
theorem scanned_scanOnce (config : RunnerConfig) (w : World) :
    (runWork (scanOnce config) w).2.Scanned := by
  let now := w.readClock
  let since := recoveryCutoff now.1 config.recoveryWindow
  have hask : (now.2.asked (.store (.pendingReports since))).LeadsTo
      (runService ((Service.store (.pendingReports since)).within []) now.2).2 :=
    (runs_ask (fun r w => runs_runService (.done r) w) now.2).leadsTo
  have hscanned : (now.2.asked (.store (.pendingReports since))).Scanned :=
    ⟨now.2.now, since, List.mem_cons_self⟩
  exact leadsTo_scan.scanned (hask.scanned hscanned)

end World

namespace Stage

variable {s s' : Stage} {id : Nat} {event : Option Nat}

/-! ## Schedules -/

/-- One thing happens on a stage: a task takes its turn, or something else happens. -/
inductive Move : Stage → Option Nat → Stage → Prop
  | turn {s : Stage} {id : Nat} (h : id ∈ s.ready) :
      Move s (some id) ({ s with ready := s.ready.erase id }.poll id)
  /-- A task is told that it may go on. -/
  | wake {s : Stage} (id : Nat) : Move s none (s.wake id)
  /-- The world goes on by itself. -/
  | outside {s : Stage} {w : World} (h : s.world.LeadsTo w) : Move s none (s.withWorld w)

namespace Move

/-- A task that takes its turn is polled as what it is. -/
theorem exists_poll {t : Task} (h : Move s (some id) s') (ht : s.tasks[id]? = some t) :
    ∃ before : Stage, before.world = s.world ∧ before.tasks[id]? = some t ∧
      s' = before.poll id := by
  cases h
  exact ⟨{ s with ready := s.ready.erase id }, rfl, ht, rfl⟩

theorem leadsTo (h : Move s event s') : s.world.LeadsTo s'.world := by
  cases h with
  | @turn j h => exact (turn_poll { s with ready := s.ready.erase j } j).world
  | wake j => exact ((turn_refl j s).wake j).world
  | outside hw => exact hw

/-- No task of a sound stage breaks down. -/
theorem sound (h : Move s event s') (hs : s.Sound) : s'.Sound := by
  cases h with
  | @turn j h =>
    exact (turn_poll { s with ready := s.ready.erase j } j).sound
      ⟨hs.pollInterval, hs.world, hs.tasks⟩
  | wake j => exact ((turn_refl j s).wake j).sound hs
  | outside hw => exact ((turn_refl 0 s).withWorld hw).sound hs

/-- A task stays what it is until its turn comes. -/
theorem keeps_task {t : Task} (h : Move s event s') (hne : event ≠ some id)
    (ht : s.tasks[id]? = some t) : s'.tasks[id]? = some t := by
  cases h with
  | @turn j h =>
    have hj : id ≠ j := by
      rintro rfl
      exact hne rfl
    exact (turn_poll { s with ready := s.ready.erase j } j).tasks id t hj ht
  | wake j => simpa using ht
  | outside hw => exact ht

/-- A task that may go on may do so until its turn comes. -/
theorem keeps_ready (h : Move s event s') (hne : event ≠ some id) (hr : id ∈ s.ready) :
    id ∈ s'.ready := by
  cases h with
  | @turn j h =>
    have hj : id ≠ j := by
      rintro rfl
      exact hne rfl
    have hr : id ∈ s.ready.erase j := (List.mem_erase_of_ne hj).2 hr
    exact (turn_poll { s with ready := s.ready.erase j } j).ready id hr
  | wake j => exact ((turn_refl j s).wake j).ready id hr
  | outside hw => exact hr

end Move

/-- What a stage may turn into, one move after the other. -/
def Reaches : Stage → Stage → Prop :=
  Relation.ReflTransGen fun s s' => ∃ event, Move s event s'

theorem Reaches.sound (h : Reaches s s') (hs : s.Sound) : s'.Sound := by
  induction h with
  | refl => exact hs
  | tail _ hmove ih => exact hmove.choose_spec.sound ih

theorem reaches_wakeAll {α : Type} (ids : List (α × Nat)) (h : Reaches s s') :
    Reaches s (ids.foldl (fun s (_, j) => s.wake j) s') := by
  induction ids generalizing s' with
  | nil => exact h
  | cons x ids ih => exact ih (h.tail ⟨none, .wake x.2⟩)

theorem reaches_announceQueued (s : Stage) : Reaches s s.announceQueued := by
  unfold announceQueued
  split
  · exact reaches_wakeAll _ (.single ⟨none, .outside (leadsTo_of_eq rfl rfl rfl rfl)⟩)
  · exact .refl

/-- What the scheduler of rehearsals does are moves. -/
theorem reaches_settle (polls : Nat) (s : Stage) : Reaches s (s.settle polls) := by
  induction polls generalizing s with
  | zero => exact .refl
  | succ n ih =>
    refine (reaches_announceQueued s).trans ?_
    unfold settle
    dsimp only
    split
    · exact .refl
    · next id rest hready =>
      have hturn : Move s.announceQueued (some id)
          ({ s.announceQueued with ready := s.announceQueued.ready.erase id }.poll id) :=
        .turn (by rw [hready]; exact List.mem_cons_self)
      rw [hready, List.erase_cons_head] at hturn
      exact .head ⟨_, hturn⟩ (ih _)

theorem reaches_passTo (s : Stage) (time : Nat) : Reaches s (s.passTo time) := by
  unfold passTo
  exact reaches_wakeAll _ (.single ⟨none, .outside (leadsTo_of_eq rfl rfl rfl rfl)⟩)

/-- Whatever happens on a stage while time passes are moves. -/
theorem reaches_waitUntil (polls time : Nat) (test : Stage → Bool) (steps : Nat) (s : Stage) :
    Reaches s (s.waitUntil polls time test steps) := by
  induction steps generalizing s with
  | zero => exact .refl
  | succ n ih =>
    refine (reaches_settle polls s).trans ?_
    unfold waitUntil
    dsimp only
    split
    · exact .refl
    · split
      · split
        · exact (reaches_passTo _ _).trans (ih _)
        · exact reaches_passTo _ _
      · exact reaches_passTo _ _

/-- A schedule without end. -/
structure Course (start : Stage) where
  stage : Nat → Stage
  event : Nat → Option Nat
  begins : stage 0 = start
  move : ∀ n, Move (stage n) (event n) (stage (n + 1))

namespace Course

variable {start : Stage} {course : Course start}

/-- Whoever may go on takes a turn later. -/
def Fair (course : Course start) : Prop :=
  ∀ n, ∀ id ∈ (course.stage n).ready, ∃ k, course.event (n + k) = some id

theorem reaches (course : Course start) (n : Nat) : Reaches start (course.stage n) := by
  induction n with
  | zero =>
    rw [course.begins]
    exact .refl
  | succ n ih => exact ih.tail ⟨_, course.move n⟩

theorem leadsTo (course : Course start) (n : Nat) :
    start.world.LeadsTo (course.stage n).world := by
  induction n with
  | zero =>
    rw [course.begins]
    exact leadsTo_refl _
  | succ n ih => exact ih.trans (course.move n).leadsTo

/-- A task that may go on takes its turn as what it is. -/
theorem eventually_turn {t : Task} {n : Nat} (fair : course.Fair)
    (ht : (course.stage n).tasks[id]? = some t) (hr : id ∈ (course.stage n).ready) :
    ∃ k, ∃ before : Stage, before.world = (course.stage k).world ∧ before.tasks[id]? = some t ∧
      course.stage (k + 1) = before.poll id := by
  obtain ⟨d, hd⟩ := fair n id hr
  induction d generalizing n with
  | zero => exact ⟨n, Move.exists_poll (hd ▸ course.move n) ht⟩
  | succ d ih =>
    by_cases hn : course.event n = some id
    · exact ⟨n, Move.exists_poll (hn ▸ course.move n) ht⟩
    · refine ih ((course.move n).keeps_task hn ht) ((course.move n).keeps_ready hn hr) ?_
      rw [Nat.add_right_comm]
      exact hd

end Course

/-! ## The start of a runner -/

/-- The stage once its runner has been told to start. -/
def starting (s : Stage) : Stage :=
  { s.spawn (.overseer .fresh) with overseer := some s.tasks.length }

theorem reaches_startRunner (s : Stage) : Reaches s.starting s.startRunner := reaches_settle _ _

/-- An overseer that goes on for the first time starts the scanner. -/
theorem exists_scanner (h : s.tasks[id]? = some (.overseer .fresh)) :
    ∃ j, (s.poll id).tasks[j]? = some (.scanner .fresh) ∧ j ∈ (s.poll id).ready := by
  have hpoll : s.poll id = s.startTasks id := by
    rw [poll, h]
    rfl
  rw [hpoll]
  let noted := s.withWorld (s.world.note [] (runnerStarting s.world.config))
  let working := (List.range s.world.config.hands).foldl
    (fun s i => s.spawn (.worker i .fresh)) noted
  have hworkers : Turn (id + 1) noted working := (turn_refl _ _).spawnWorkers _
  -- The scanner comes after the workers, and the overseer comes before them.
  have hid : id < working.tasks.length :=
    (List.getElem?_eq_some_iff.1 (hworkers.tasks id _ (by omega) h)).1
  refine ⟨working.tasks.length, ?_, List.mem_append_right _ List.mem_cons_self⟩
  change ((working.tasks ++ [Task.scanner .fresh]).set id _)[working.tasks.length]? = _
  rw [List.getElem?_set_ne (by omega), List.getElem?_concat_length]

/-- What the scanner has come to is what its scan has come to. -/
theorem leadsTo_placeScanner (s : Stage) (due : Nat) (timer : Timer)
    (r : WorkProgress Nat × World) : r.2.LeadsTo (s.placeScanner id due timer r).world := by
  obtain ⟨p, w⟩ := r
  unfold placeScanner
  cases p with
  | crashed =>
    dsimp only
    rw [finish, world_wakeWhere]
    exact leadsTo_refl w
  | _ => exact leadsTo_refl w

/-- A scanner that goes on for the first time scans, unless the work was stopped. -/
theorem scanned_poll (h : s.tasks[id]? = some (.scanner .fresh))
    (hpoll : s.world.config.pollInterval.total ≠ 0)
    (hstop : s.world.shutdown.isRequested = false) : (s.poll id).world.Scanned := by
  have hscan : s.poll id = s.scan id s.nanos := by
    rw [poll, h]
    simp [pollScanner, hpoll, hstop]
  rw [hscan]
  apply (leadsTo_placeScanner _ _ _ _).scanned
  exact scanned_scanOnce _ _

/-- A scanner breaks down if no time passes between scans. -/
theorem crashed_poll (h : s.tasks[id]? = some (.scanner .fresh))
    (hpoll : s.world.config.pollInterval.total = 0) :
    (s.poll id).tasks[id]? = some (.ended true) := by
  have hfinish : s.poll id = s.finish id true := by
    rw [poll, h]
    simp [pollScanner, hpoll]
  rw [hfinish, finish, tasks_wakeWhere, setTask,
    List.getElem?_set_self (List.getElem?_eq_some_iff.1 h).1]

/-- Some task has broken down. -/
def Crashed (s : Stage) : Prop := Task.ended true ∈ s.tasks

theorem Sound.not_crashed (h : s.Sound) : ¬ s.Crashed := by
  intro hcrashed
  have hsturdy : true = false := h.tasks _ hcrashed
  cases hsturdy

/-! ## Whole runs -/

/-- A stage on which nothing has happened but that the runner was told to start. -/
structure Opened (config : RunnerConfig) (s : Stage) : Prop where
  config : s.world.config = config
  sturdy : s.world.Sturdy
  tasks : s.tasks = [.overseer .fresh]
  ready : s.ready = [0]

theorem opened_of_opening? {config : RunnerConfig} {settings : JobSettings}
    (h : opening? config settings = some s) : s.starting.Opened config := by
  unfold opening? at h
  split at h
  · obtain rfl := Option.some.inj h
    exact ⟨rfl, nofun, rfl, rfl⟩
  · cases h

namespace Opened

variable {config : RunnerConfig}

theorem sound (h : s.Opened config) (hpoll : config.pollInterval.total ≠ 0) : s.Sound where
  pollInterval := h.config ▸ hpoll
  world := h.sturdy
  tasks t ht := by
    rw [h.tasks, List.mem_singleton] at ht
    exact ht ▸ trivial

/-- The scanner takes its first turn on every fair course. -/
theorem exists_turn (h : s.Opened config) {course : Course s} (fair : course.Fair) :
    ∃ id k, ∃ before : Stage, before.world = (course.stage k).world ∧
      before.tasks[id]? = some (.scanner .fresh) ∧ course.stage (k + 1) = before.poll id := by
  have hoverseer : (course.stage 0).tasks[0]? = some (.overseer .fresh) := by
    rw [course.begins, h.tasks]
    rfl
  have hready : 0 ∈ (course.stage 0).ready := by
    rw [course.begins, h.ready]
    exact List.mem_singleton_self 0
  obtain ⟨k, before, -, ht, hk⟩ := course.eventually_turn fair hoverseer hready
  obtain ⟨id, hscanner, hid⟩ := exists_scanner ht
  rw [← hk] at hscanner hid
  exact ⟨id, course.eventually_turn fair hscanner hid⟩

theorem config_eq (h : s.Opened config) (course : Course s) (n : Nat) :
    (course.stage n).world.config = config :=
  (course.leadsTo n).config.trans h.config

/-- The store is asked for unfinished reports, unless the work is stopped. -/
theorem scanned (h : s.Opened config) {course : Course s} (fair : course.Fair)
    (hpoll : config.pollInterval.total ≠ 0)
    (hstop : ∀ n, (course.stage n).world.shutdown.isRequested = false) :
    ∃ n, (course.stage n).world.Scanned := by
  obtain ⟨id, k, before, hworld, ht, hk⟩ := h.exists_turn fair
  have hpoll' : before.world.config.pollInterval.total ≠ 0 := by
    rw [hworld, h.config_eq]
    exact hpoll
  have hstop' : before.world.shutdown.isRequested = false := by
    rw [hworld]
    exact hstop k
  refine ⟨k + 1, ?_⟩
  rw [hk]
  exact scanned_poll ht hpoll' hstop'

/-- The scanner breaks down if no time passes between scans. -/
theorem crashed (h : s.Opened config) {course : Course s} (fair : course.Fair)
    (hpoll : config.pollInterval.total = 0) : ∃ n, (course.stage n).Crashed := by
  obtain ⟨id, k, before, hworld, ht, hk⟩ := h.exists_turn fair
  have hpoll' : before.world.config.pollInterval.total = 0 := by
    rw [hworld, h.config_eq]
    exact hpoll
  refine ⟨k + 1, ?_⟩
  rw [hk]
  exact List.mem_of_getElem? (crashed_poll ht hpoll')

end Opened

/-! ## Turns in the order of the line -/

/-- The stage after some turns, if it is always the turn of the task that is first in line. -/
def inOrder (s : Stage) : Nat → Stage
  | 0 => s
  | n + 1 =>
    match (s.inOrder n).ready with
    | [] => s.inOrder n
    | id :: rest => { s.inOrder n with ready := rest }.poll id

theorem move_inOrder (s : Stage) (n : Nat) :
    Move (s.inOrder n) (s.inOrder n).ready.head? (s.inOrder (n + 1)) := by
  rw [inOrder]
  cases hready : (s.inOrder n).ready with
  | nil => exact .outside (leadsTo_refl _)
  | cons id rest =>
    have hturn : Move (s.inOrder n) (some id)
        ({ s.inOrder n with ready := (s.inOrder n).ready.erase id }.poll id) :=
      .turn (by rw [hready]; exact List.mem_cons_self)
    rwa [hready, List.erase_cons_head] at hturn

/-- The course on which it is always the turn of the task that is first in line. -/
def Course.inOrder (s : Stage) : Course s where
  stage := s.inOrder
  event n := (s.inOrder n).ready.head?
  begins := rfl
  move := s.move_inOrder

/-- Once no task may go on nothing happens any more. -/
theorem inOrder_add {s : Stage} {n : Nat} (h : (s.inOrder n).ready = []) (k : Nat) :
    s.inOrder (n + k) = s.inOrder n := by
  induction k with
  | zero => rfl
  | succ k ih =>
    rw [← Nat.add_assoc, inOrder, ih]
    simp only [h]

/-- Turns in order are fair if the tasks come to rest, since every task took its turn by then. -/
theorem Course.fair_inOrder {s : Stage} {n : Nat} (h : (s.inOrder n).ready = []) :
    (Course.inOrder s).Fair := by
  intro m id hid
  refine Classical.byContradiction fun hnever => ?_
  have waits (k : Nat) : id ∈ (s.inOrder (m + k)).ready := by
    induction k with
    | zero => exact hid
    | succ k ih => exact (s.move_inOrder (m + k)).keeps_ready (fun hk => hnever ⟨k, hk⟩) ih
  have hrest : (s.inOrder (m + n)).ready = [] := by
    rw [Nat.add_comm, inOrder_add h, h]
  have hmem := waits n
  rw [hrest] at hmem
  cases hmem

end Stage

open Stage

/-- **Accepted settings can be run.** With settings that are accepted the runner can be configured.
It can be made if its queue has no more than the largest number of places. As long as no
collaborator breaks down, no task does if time passes between scans, and then the store is asked for
unfinished reports at startup, unless the work is stopped; if no time passes, a task breaks down.
What becomes of a runner in rehearsals is what may become of it. -/
theorem accepted_settings_run {vars : Variables} {c : AppConfig}
    (h : AppConfig.load vars = .ok c) (settings : JobSettings) :
    ∃ config, c.runnerConfig? = some config ∧
      ((opening? config settings).isSome ↔ c.queueCapacity ≤ RunnerConfig.maxCapacity) ∧
      ∀ s, opening? config settings = some s →
        (c.pollInterval.total ≠ 0 → ∀ s', Reaches s.starting s' → ¬ s'.Crashed) ∧
        (∀ polls time test steps,
          Reaches s.starting (s.startRunner.waitUntil polls time test steps)) ∧
        ∀ course : Course s.starting, course.Fair →
          (c.pollInterval.total ≠ 0 →
            (∀ n, (course.stage n).world.shutdown.isRequested = false) →
              ∃ n, (course.stage n).world.Scanned) ∧
          (c.pollInterval.total = 0 → ∃ n, (course.stage n).Crashed) := by
  have accepted := AppConfig.accepted_of_load h
  refine ⟨_, accepted.runnerConfig?_eq, ?_, ?_⟩
  · have places : max 1 c.queueCapacity = c.queueCapacity := Nat.max_eq_right accepted.place
    simp [opening?, RunnerConfig.places, places]
  · intro s hs
    have opened := opened_of_opening? hs
    refine ⟨fun hpoll s' hreach => ?_, fun polls time test steps => ?_, fun course fair => ?_⟩
    · have sound : s'.Sound := hreach.sound (opened.sound hpoll)
      exact sound.not_crashed
    · exact (reaches_startRunner s).trans (reaches_waitUntil polls time test steps _)
    · exact ⟨opened.scanned fair, opened.crashed fair⟩

/-- Variables that set what has to be set, one worker, and the seconds between scans. -/
def Sample.variables (seconds : String) : Variables
  | "ANTHROPIC_API_KEY" => some "key"
  | "DATABASE_URL" => some "postgres://localhost/reports"
  | "RESEND_API_KEY" => some "key"
  | "WORKER_COUNT" => some "1"
  | "POLL_INTERVAL_SECS" => some seconds
  | _ => none

/-- The settings that these variables make. -/
def Sample.settings (pollInterval : Duration) : AppConfig where
  environment := .development
  baseUrl := "http://localhost:3000"
  databaseUrl := "postgres://localhost/reports"
  databaseMaxConnections := 10
  anthropic := some ⟨"key", Vendor.anthropic.defaultModel⟩
  deepseek := none
  resendApiKey := "key"
  emailFromAddr := "reports@example.com"
  emailFromName := "Risk Mapper"
  workerCount := 1
  queueCapacity := 2
  pollInterval
  jobTimeout := .ofSeconds 300
  maxAttempts := 3
  retryBaseDelay := .ofSeconds 2
  recoveryWindow := .ofSeconds 86400
  tierThresholds := .published
  price := ⟨5900, "usd"⟩

/-- What the runner makes reports with. -/
def Sample.job : JobSettings := ⟨.published, "anthropic"⟩

/-- The stage of a runner with the settings of the sample. -/
def Sample.stage (pollInterval : Duration) : Stage where
  world := {
    settings := Sample.job
    config := (Sample.settings pollInterval).runnerConfig?.getD default
    queue := { capacity := 2 } }

theorem Sample.load_eq {x : Except AppConfigError AppConfig} {c : AppConfig}
    (h : x.toOption = some c) : x = .ok c := by
  cases x with
  | error e => cases h
  | ok c' => exact congrArg Except.ok (Option.some.inj h)

theorem accepted_settings_run_sample :
    AppConfig.load (Sample.variables "30") = .ok (Sample.settings (.ofSeconds 30)) ∧
      (Sample.settings (.ofSeconds 30)).runnerConfig? =
        some (Sample.stage (.ofSeconds 30)).world.config ∧
      ∃ course : Course (Sample.stage (.ofSeconds 30)).starting, course.Fair ∧
        (∀ n, (course.stage n).world.shutdown.isRequested = false) ∧
        (∀ n, ¬ (course.stage n).Crashed) ∧ (∃ n, (course.stage n).world.Scanned) ∧
        ∀ polls time test steps, ¬ ((Sample.stage (.ofSeconds 30)).startRunner.waitUntil polls time
          test steps).Crashed := by
  have hload : AppConfig.load (Sample.variables "30") = .ok (Sample.settings (.ofSeconds 30)) :=
    Sample.load_eq (by decide +kernel)
  have hconfig : (Sample.settings (.ofSeconds 30)).runnerConfig? =
      some (Sample.stage (.ofSeconds 30)).world.config := rfl
  let start := (Sample.stage (.ofSeconds 30)).starting
  have hrest : (start.inOrder 5).ready = [] := by decide +kernel
  have hstop (n : Nat) : (start.inOrder n).world.shutdown.isRequested = false := by
    rcases Nat.lt_or_ge n 5 with hn | hn
    · have hearly : ∀ n < 5, (start.inOrder n).world.shutdown.isRequested = false := by
        decide +kernel
      exact hearly n hn
    · obtain ⟨k, rfl⟩ := Nat.exists_eq_add_of_le hn
      rw [inOrder_add hrest]
      decide +kernel
  have fair : (Course.inOrder start).Fair := Course.fair_inOrder hrest
  obtain ⟨config, hconfig', -, hrun⟩ := accepted_settings_run hload Sample.job
  obtain rfl := Option.some.inj (hconfig.symm.trans hconfig')
  obtain ⟨hsafe, hrehearsed, hcourse⟩ := hrun (Sample.stage (.ofSeconds 30)) rfl
  have hpoll : (Sample.settings (.ofSeconds 30)).pollInterval.total ≠ 0 := by decide
  refine ⟨hload, hconfig, Course.inOrder start, fair, hstop, fun n => ?_, ?_, ?_⟩
  · exact hsafe hpoll _ ((Course.inOrder start).reaches n)
  · exact (hcourse (Course.inOrder start) fair).1 hpoll hstop
  · exact fun polls time test steps => hsafe hpoll _ (hrehearsed polls time test steps)

/-- Settings are accepted with which the scanner breaks down before it scans. -/
theorem accepted_without_scan :
    AppConfig.load (Sample.variables "0") = .ok (Sample.settings ⟨0⟩) ∧
      (Sample.settings ⟨0⟩).runnerConfig? = some (Sample.stage ⟨0⟩).world.config ∧
      opening? (Sample.stage ⟨0⟩).world.config Sample.job = some (Sample.stage ⟨0⟩) ∧
      (Sample.stage ⟨0⟩).startRunner.ready = [] ∧
      (Sample.stage ⟨0⟩).startRunner.world.shutdown.isRequested = false ∧
      (Sample.stage ⟨0⟩).startRunner.Crashed ∧
      ¬ (Sample.stage ⟨0⟩).startRunner.world.Scanned := by
  have hjournal : (Sample.stage ⟨0⟩).startRunner.world.journal = [] := rfl
  refine ⟨Sample.load_eq (by decide +kernel), rfl, rfl, rfl, rfl, ?_, ?_⟩
  · have hscanner : (Sample.stage ⟨0⟩).startRunner.tasks[2]? = some (.ended true) := rfl
    exact List.mem_of_getElem? hscanner
  · rintro ⟨time, since, hmem⟩
    rw [hjournal] at hmem
    cases hmem

end RiskReport.Rehearsal
