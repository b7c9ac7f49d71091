import RiskReport.Proofs.Job.Conduct
import RiskReport.Proofs.Job.Exclusion
import RiskReport.Proofs.Service

/-!
# One notice for a report

A runner makes reports over a store in memory. `Workshop` is the runner with the store, with what is
left of the attempt that each worker is in the middle of, and with the notices that were sent so
far. The attempts go on one request at a time, all mixed up, and an attempt may end at any time
because it took too long or because the work was stopped; the next one begins from the start. The
same report may be queued again and again, and others use the store meanwhile: scans, workers that
give a report up, and the rest of the server.

A visitor is told once nevertheless. An attempt that tells has kept the results before, so the
report is ready by then and stays so, and every later attempt finds it ready and leaves it alone. An
attempt that runs at the same time is one at another report (`Pool.Sound.single`).

**Theorem (`notices_single`).** For no report are two notices sent, and when one is sent the report
is ready.
-/

namespace RiskReport

/-! ## Notices -/

/-- Word that a report is ready. -/
structure Notice where
  /-- The report that was made. -/
  report : ReportId
  message : ReportReady
  /-- The report as the store had it when the notice was sent. -/
  stored : Option Report

namespace Notice

/-- The notice that is sent with an exchange of an attempt at a report. -/
def of? (id : ReportId) (m : Memory) : Option (Exchange services) → Option Notice
  | some ⟨.mail (.reportReady message), _⟩ => some ⟨id, message, m.reports.get? id⟩
  | _ => none

/-- The report was ready when the notice was sent, and the notice gives access to it. -/
def Honest (n : Notice) : Prop :=
  ∃ r, n.stored = some r ∧ r.id = n.report ∧ r.status = .ready ∧
    r.accessToken = n.message.accessToken

end Notice

/-- A report of the store is ready. -/
def Memory.Ready (m : Memory) (id : ReportId) : Prop :=
  ∃ r, m.reports.get? id = some r ∧ r.status = .ready

theorem Memory.Evolves.ready {m m' : Memory} {id : ReportId} (he : m.Evolves m') (h : m.Sound)
    (hr : m.Ready id) : m'.Ready id := by
  obtain ⟨r, found, ready⟩ := hr
  exact ⟨r, he.ready_lasts h found ready, ready⟩

namespace Conduct

variable {id : ReportId} {stage : Conduct} {m m' : Memory} {told : List ReportId}

/-- What is known of a report by how far an attempt at it has got, when notices for some reports
were sent. -/
def Stands (m : Memory) (told : List ReportId) (id : ReportId) : Conduct → Prop
  | .begins | .ended => True
  | .unfinished => id ∉ told
  | .kept token =>
    id ∉ told ∧ ∃ r, m.reports.get? id = some r ∧ r.status = .ready ∧ r.accessToken = token

/-- Whatever happens in the store, and to other reports, leaves an attempt where it stands. -/
theorem Stands.lasts {told' : List ReportId} (h : stage.Stands m told id) (sound : m.Sound)
    (he : m.Evolves m') (untold : id ∉ told → id ∉ told') : stage.Stands m' told' id := by
  cases stage with
  | begins | ended => trivial
  | unfinished => exact untold h
  | kept token =>
    obtain ⟨hnew, r, found, ready, htoken⟩ := h
    exact ⟨untold hnew, r, he.ready_lasts sound found ready, ready, htoken⟩

/-- Where an attempt stands after an exchange, and what is true of a notice that it sends. -/
theorem Stands.run {call : ServiceCall} {answer : call.Answer} (h : stage.Stands m told id)
    (sound : m.Sound) (ready : ∀ r ∈ told, m.Ready r) (allowed : (order id).Allows stage call)
    (served : m.ServesFresh call answer m') :
    Notice.of? id m (some ⟨call, answer⟩) = none ∧
        ((order id).next stage call answer).Stands m' told id ∨
      ∃ n, Notice.of? id m (some ⟨call, answer⟩) = some n ∧ n.report = id ∧ id ∉ told ∧ n.Honest ∧
        m'.Ready id ∧ (order id).next stage call answer = .ended := by
  -- A request that the order does not mention leaves the attempt where it stands.
  have same : stage.Stands m' told id := h.lasts sound served.evolves fun hnew => hnew
  cases call with
  | store call =>
    cases call with
    | getReport id' =>
      obtain ⟨rfl, rfl⟩ := allowed
      obtain ⟨supply, fresh, hanswer⟩ := served
      refine .inl ⟨rfl, ?_⟩
      cases hanswer
      cases found : m.reports.get? id' with
      | none => trivial
      | some r =>
        by_cases finished : r.status.isTerminal = true
        · simp only [order, finished, if_true]
          trivial
        · -- No notice was sent for an unfinished report, since it is not ready.
          simp only [order, finished]
          intro hm
          obtain ⟨q, hq, hready⟩ := ready id' hm
          obtain rfl := Option.some.inj (found.symm.trans hq)
          simp [hready, ReportStatus.isTerminal] at finished
    | persistReport results =>
      obtain ⟨rfl, rfl⟩ := allowed
      obtain ⟨supply, fresh, hanswer⟩ := served
      refine .inl ⟨rfl, ?_⟩
      rcases answer with e | r
      · trivial
      · obtain ⟨found, hready⟩ := sound.ready_of_persisted hanswer
        exact ⟨h, r, found, hready, rfl⟩
    | _ => exact .inl ⟨rfl, same⟩
  | mail message =>
    cases message with
    | receipt receipt => exact allowed.elim
    | reportReady message =>
      obtain rfl : stage = .kept message.accessToken := allowed
      obtain rfl : m' = m := served
      obtain ⟨hnew, r, found, hready, htoken⟩ := h
      exact .inr ⟨_, rfl, rfl, hnew, ⟨r, found, sound.reports.key _ _ found, hready, htoken⟩,
        ⟨r, found, hready⟩, rfl⟩
  | hedge | enqueue | createPayment | clientSecret => exact .inl ⟨rfl, same⟩

end Conduct

/-! ## The runner with its attempts -/

/-- A runner over a store in memory. -/
structure Workshop (config : RunnerConfig) where
  pool : Pool config
  memory : Memory
  /-- What is left of the attempt that each worker is in the middle of, once it has begun. -/
  jobs : Fin config.hands → Option (Service (Except JobError Unit))
  /-- The notices that were sent, the latest first. -/
  notices : List Notice

namespace Workshop

variable {config : RunnerConfig} {settings : JobSettings} {s s' : Workshop config}

/-- The runner before its work begins, over some store. -/
def opening (config : RunnerConfig) (settings : JobSettings) (m : Memory) : Workshop config where
  pool := .initial config settings
  memory := m
  jobs _ := none
  notices := []

/-- One thing happens. -/
inductive Step (settings : JobSettings) : Workshop config → Workshop config → Prop
  /-- The runner goes on. Attempts do not go on in this way, nor do they end. -/
  | runner {s : Workshop config} {pool : Pool config} (h : Pool.Step settings s.pool pool)
      (attempts : ∀ w r, s.pool.Attempts settings w r → pool.turn w = s.pool.turn w) :
      Step settings s { s with pool }
  /-- An attempt begins. -/
  | begins {s : Workshop config} {w : Fin config.hands} {r : ReportId}
      (h : s.pool.Attempts settings w r) (idle : s.jobs w = none) :
      Step settings s { s with jobs := Function.update s.jobs w (some (makeReport settings r)) }
  /-- An attempt goes on. -/
  | makes {s : Workshop config} {w : Fin config.hands} {r : ReportId}
      {job job' : Service (Except JobError Unit)} {m : Memory} {x : Option (Exchange services)}
      (h : s.pool.Attempts settings w r) (current : s.jobs w = some job)
      (hs : Program.Step Memory.ServesFresh job s.memory x job' m) :
      Step settings s { s with
        memory := m
        jobs := Function.update s.jobs w (some job')
        notices := (Notice.of? r s.memory x).toList ++ s.notices }
  /-- An attempt ends: it is done, or it is dropped where it stands. -/
  | ends {s : Workshop config} {w : Fin config.hands} {spans : List Log.Span} {timeout : Duration}
      {task job : Service (Except JobError Unit)} {next : Attempt → Work Bool} {outcome : Attempt}
      (h : s.pool.turn w = .ask spans (.attempt timeout task) next) (current : s.jobs w = some job)
      (finished : ∀ result, outcome = .finished result → job = .done result) :
      Step settings s { s with
        pool := { s.pool with turn := Function.update s.pool.turn w (next outcome) }
        jobs := Function.update s.jobs w none }
  /-- Something else happens to the store: a scan asks for something, a worker that gives a report
  up, or the rest of the server. -/
  | other {s : Workshop config} {m : Memory} (hs : Memory.Step Supply.Fresh s.memory m) :
      Step settings s { s with memory := m }

/-- A state that a runner gets into over a sound store. -/
def Reachable (settings : JobSettings) (s : Workshop config) : Prop :=
  ∃ m, m.Sound ∧ Relation.ReflTransGen (Step settings) (opening config settings m) s

/-- The reports for which notices were sent. -/
def told (s : Workshop config) : List ReportId :=
  s.notices.map (·.report)

/-- A worker is in the middle of an attempt at a report, and the attempt stands somewhere. -/
def Busy (settings : JobSettings) (s : Workshop config) (w : Fin config.hands)
    (job : Service (Except JobError Unit)) : Prop :=
  ∃ r stage, s.pool.Attempts settings w r ∧ job.Follows (Conduct.order r) stage ∧
    stage.Stands s.memory s.told r

/-- What always holds between the runner, the store and the notices. -/
structure Kept (settings : JobSettings) (s : Workshop config) : Prop where
  pool : s.pool.Reachable settings
  memory : s.memory.Sound
  single : s.told.Nodup
  honest : ∀ n ∈ s.notices, n.Honest
  ready : ∀ r ∈ s.told, s.memory.Ready r
  jobs : ∀ w job, s.jobs w = some job → s.Busy settings w job

theorem kept_opening {m : Memory} (h : m.Sound) : (opening config settings m).Kept settings where
  pool := .refl
  memory := h
  single := List.nodup_nil
  honest := by simp [opening]
  ready := by simp [opening, told]
  jobs := by simp [opening]

/-- The runner goes on when an attempt ends. -/
theorem step_attempt {p : Pool config} {w : Fin config.hands} {spans : List Log.Span}
    {timeout : Duration} {task : Service (Except JobError Unit)} {next : Attempt → Work Bool}
    (h : p.turn w = .ask spans (.attempt timeout task) next) (outcome : Attempt) :
    Pool.Step settings p { p with turn := Function.update p.turn w (next outcome) } := by
  have served : p.queue.Serves (.attempt timeout task) outcome p.queue := rfl
  have hs : Program.Step JobQueue.Serves (p.turn w) p.queue
      (some ⟨.attempt timeout task, outcome⟩) (next outcome) p.queue := h ▸ .asked served
  have hstep : Pool.Step settings p _ := .work hs
  simpa [Pool.heldAfter, Pool.letIn, Pool.handedOut] using hstep

theorem attempts_congr {p p' : Pool config} {w : Fin config.hands} {r : ReportId}
    (turn : p'.turn w = p.turn w) (h : p.Attempts settings w r) : p'.Attempts settings w r := by
  obtain ⟨spans, timeout, next, hask⟩ := h
  exact ⟨spans, timeout, next, turn.trans hask⟩

/-- Two workers never attempt the same report, and one worker attempts one report. -/
theorem Kept.exclusive (h : s.Kept settings) {w w' : Fin config.hands} {r r' : ReportId}
    (ha : s.pool.Attempts settings w r) (ha' : s.pool.Attempts settings w' r') :
    w = w' ↔ r = r' := by
  obtain ⟨shape, sound⟩ := h.pool.sound
  have hr := shape.held_of_attempts ha
  have hr' := shape.held_of_attempts ha'
  constructor
  · rintro rfl
    exact Option.some.inj (hr.symm.trans hr')
  · rintro rfl
    exact sound.single w w' r hr hr'

/-- When an attempt goes on, the other ones stand where they stood, since they are attempts at other
reports. -/
theorem Kept.busy {w : Fin config.hands} {r : ReportId} {job : Service (Except JobError Unit)}
    (h : s.Kept settings) (ha : s.pool.Attempts settings w r) (pool : s'.pool = s.pool)
    (jobs : s'.jobs = Function.update s.jobs w (some job)) (he : s.memory.Evolves s'.memory)
    (told : ∀ q, q ≠ r → q ∉ s.told → q ∉ s'.told) (own : s'.Busy settings w job) :
    ∀ w' job', s'.jobs w' = some job' → s'.Busy settings w' job' := by
  intro w' job' hj
  rw [jobs] at hj
  by_cases hw : w' = w
  · subst hw
    obtain rfl : job = job' := by simpa using hj
    exact own
  · obtain ⟨q, stage, ha', conduct, stands⟩ := h.jobs w' job' (by simpa [hw] using hj)
    have hq : q ≠ r := fun hq => hw ((h.exclusive ha' ha).2 hq)
    exact ⟨q, stage, pool ▸ ha', conduct, stands.lasts h.memory he (told q hq)⟩

/-- An attempt that goes on keeps what always holds. -/
theorem Kept.makes (h : s.Kept settings) {w : Fin config.hands} {r : ReportId}
    {job job' : Service (Except JobError Unit)} {m : Memory} {x : Option (Exchange services)}
    (ha : s.pool.Attempts settings w r) (current : s.jobs w = some job)
    (hs : Program.Step Memory.ServesFresh job s.memory x job' m) :
    Kept settings { s with
      memory := m
      jobs := Function.update s.jobs w (some job')
      notices := (Notice.of? r s.memory x).toList ++ s.notices } := by
  obtain ⟨r', stage, ha', conduct, stands⟩ := h.jobs w job current
  obtain rfl : r = r' := (h.exclusive ha ha').1 rfl
  rcases conduct.step hs with ⟨rfl, rfl, conduct'⟩ | ⟨call, answer, rfl, allowed, served, conduct'⟩
  · exact { h with
      jobs := h.busy ha rfl rfl .same (fun _ _ hq => hq) ⟨r, stage, ha, conduct', stands⟩ }
  · have he := served.evolves
    rcases stands.run h.memory h.ready allowed served with
      ⟨hnone, stands'⟩ | ⟨n, hn, rfl, hnew, honest, ready, hended⟩
    · rw [hnone]
      exact { h with
        memory := he.sound h.memory
        ready := fun q hq => he.ready h.memory (h.ready q hq)
        jobs := h.busy ha rfl rfl he (fun _ _ hq => hq) ⟨r, _, ha, conduct', stands'⟩ }
    · rw [hn]
      rw [hended] at conduct'
      exact {
        pool := h.pool
        memory := he.sound h.memory
        single := List.nodup_cons.2 ⟨hnew, h.single⟩
        honest := List.forall_mem_cons.2 ⟨honest, h.honest⟩
        ready := List.forall_mem_cons.2
          ⟨ready, fun q hq => he.ready h.memory (h.ready q hq)⟩
        jobs := h.busy ha rfl rfl he
          (fun q hq hnew => List.not_mem_cons_of_ne_of_not_mem hq hnew)
          ⟨n.report, .ended, ha, conduct', trivial⟩ }

theorem Kept.step (h : s.Kept settings) (hs : Step settings s s') : s'.Kept settings := by
  cases hs with
  | @runner pool hp attempts =>
    refine { h with pool := h.pool.tail hp, jobs := fun w job hj => ?_ }
    obtain ⟨r, stage, ha, conduct, stands⟩ := h.jobs w job hj
    exact ⟨r, stage, attempts_congr (attempts w r ha) ha, conduct, stands⟩
  | @begins w r ha idle =>
    refine { h with jobs := fun w' job hj => ?_ }
    by_cases hw : w' = w
    · subst hw
      obtain rfl : makeReport settings r = job := by simpa using hj
      exact ⟨r, .begins, ha, follows_makeReport settings r, trivial⟩
    · exact h.jobs w' job (by simpa [hw] using hj)
  | makes ha current hs => exact h.makes ha current hs
  | @ends w spans timeout task job next outcome ht current finished =>
    refine { h with pool := h.pool.tail (step_attempt ht outcome), jobs := fun w' job hj => ?_ }
    by_cases hw : w' = w
    · simp [hw] at hj
    · obtain ⟨r, stage, ha, conduct, stands⟩ := h.jobs w' job (by simpa [hw] using hj)
      exact ⟨r, stage, attempts_congr (by simp [hw]) ha, conduct, stands⟩
  | other hs =>
    have he := hs.evolves
    refine { h with
      memory := he.sound h.memory
      ready := fun r hr => he.ready h.memory (h.ready r hr)
      jobs := fun w job hj => ?_ }
    obtain ⟨r, stage, ha, conduct, stands⟩ := h.jobs w job hj
    exact ⟨r, stage, ha, conduct, stands.lasts h.memory he fun hnew => hnew⟩

theorem Reachable.kept (h : s.Reachable settings) : s.Kept settings := by
  obtain ⟨m, hm, hs⟩ := h
  induction hs with
  | refl => exact kept_opening hm
  | tail _ hs ih => exact ih.step hs

/-! ## Running an attempt -/

/-- Let the attempt of a worker at a report go on, if what the store takes from outside is new. Mail
is delivered, and no hedges are written. -/
def advance (s : Workshop config) (w : Fin config.hands) (r : ReportId) (supply : Supply) :
    Workshop config :=
  if supply.Fresh s.memory then
    match s.jobs w with
    | some (.ask _ (.store call) next) =>
      let (answer, m) := s.memory.answer supply call
      { s with memory := m, jobs := Function.update s.jobs w (some (next answer)) }
    | some (.ask _ (.hedge _) next) =>
      { s with jobs := Function.update s.jobs w (some (next (.ok .nothing))) }
    | some (.ask _ (.mail message) next) =>
      { s with
        jobs := Function.update s.jobs w (some (next (.ok ())))
        notices := (Notice.of? r s.memory (some ⟨.mail message, .ok ()⟩)).toList ++ s.notices }
    | some (.log _ _ next) => { s with jobs := Function.update s.jobs w (some next) }
    | _ => s
  else s

theorem Reachable.tail (h : s.Reachable settings) (hs : Step settings s s') :
    s'.Reachable settings := by
  obtain ⟨m, hm, hd⟩ := h
  exact ⟨m, hm, hd.tail hs⟩

theorem Reachable.advance {w : Fin config.hands} {r : ReportId} (h : s.Reachable settings)
    (ha : s.pool.Attempts settings w r) (supply : Supply) :
    (s.advance w r supply).Reachable settings ∧
      (s.advance w r supply).pool.Attempts settings w r := by
  unfold Workshop.advance
  split_ifs with fresh
  · split
    · next spans call next hj =>
      have served : s.memory.ServesFresh (.store call) (s.memory.answer supply call).1
          (s.memory.answer supply call).2 := ⟨supply, fresh, rfl⟩
      exact ⟨h.tail (.makes ha hj (.asked served)), ha⟩
    · next spans risks next hj =>
      have served : s.memory.ServesFresh (.hedge risks) (.ok .nothing) s.memory := rfl
      exact ⟨h.tail (.makes ha hj (.asked served)), ha⟩
    · next spans message next hj =>
      have served : s.memory.ServesFresh (.mail message) (.ok ()) s.memory := rfl
      exact ⟨h.tail (.makes ha hj (.asked served)), ha⟩
    · next spans event next hj => exact ⟨h.tail (.makes ha hj .logged), ha⟩
    · exact ⟨h, ha⟩
  · exact ⟨h, ha⟩

/-- Let the attempt of a worker at a report go on, step by step. -/
def run (s : Workshop config) (w : Fin config.hands) (r : ReportId) (supplies : List Supply) :
    Workshop config :=
  supplies.foldl (fun s supply => s.advance w r supply) s

theorem Reachable.run {w : Fin config.hands} {r : ReportId} (h : s.Reachable settings)
    (ha : s.pool.Attempts settings w r) (supplies : List Supply) :
    (s.run w r supplies).Reachable settings := by
  induction supplies generalizing s with
  | nil => exact h
  | cons supply supplies ih =>
    obtain ⟨h', ha'⟩ := h.advance ha supply
    exact ih h' ha'

end Workshop

namespace Sample

open Memory

def settings : JobSettings := ⟨.published, "stub"⟩

/-- The second worker of the standard runner. -/
def worker : Fin RunnerConfig.standard.hands := ⟨1, by decide⟩

/-- The report was queued, and the worker has received it. -/
def received : Pool .standard :=
  { Pool.initial .standard settings with
    queue := ⟨6, [], [⟨⟨4⟩⟩], false, ⟨1, 0, 0, 0⟩⟩
    turn := Function.update (Pool.initial .standard settings).turn worker
      ((runWithRetry .standard settings worker ⟨⟨4⟩⟩).bind fun _ => Pool.leave ⟨⟨4⟩⟩)
    held := Function.update (Pool.initial .standard settings).held worker (some ⟨⟨4⟩⟩)
    accepted := [⟨⟨4⟩⟩]
    received := [(⟨⟨4⟩⟩, worker)] }

/-- The worker is about to attempt the report, which is a draft. -/
def attempting : Workshop .standard where
  pool := received
  memory := ordered
  jobs := Function.update (fun _ => none) worker (some (makeReport settings ⟨⟨4⟩⟩))
  notices := []

/-- The attempt has got to its end. -/
def announced : Workshop .standard :=
  attempting.run worker ⟨⟨4⟩⟩ ((List.range' 5 9).map supply)

theorem attempts_received : received.Attempts settings worker ⟨⟨4⟩⟩ :=
  ⟨_, _, _, rfl⟩

theorem reachable_attempting : attempting.Reachable settings := by
  have served : JobQueue.Serves ⟨6, [⟨⟨4⟩⟩], [⟨⟨4⟩⟩], false, ⟨1, 0, 0, 0⟩⟩ .receive (some ⟨⟨4⟩⟩)
      ⟨6, [], [⟨⟨4⟩⟩], false, ⟨1, 0, 0, 0⟩⟩ := rfl
  -- The other workers stay where they are, whatever the worker does.
  have others {p : Pool .standard} {t : Work Bool}
      (idle : ∀ r, ¬ p.Attempts settings worker r) (w : Fin RunnerConfig.standard.hands)
      (r : ReportId) (ha : p.Attempts settings w r) :
      Function.update p.turn worker t w = p.turn w := by
    have hw : w ≠ worker := by
      rintro rfl
      exact idle r ha
    exact Function.update_of_ne hw _ _
  have h₀ : (Workshop.opening .standard settings ordered).Reachable settings :=
    ⟨_, reachable_ordered.sound, .refl⟩
  have h₁ := h₀.tail (.runner (.enqueue (r := ⟨⟨4⟩⟩) rfl) fun _ _ _ => rfl)
  have h₂ := h₁.tail (.runner (.work (w := worker) .logged) (others (by
    rintro r ⟨_, _, _, h⟩
    cases h)))
  have h₃ := h₂.tail (.runner (.work (w := worker) (.asked served)) (others (by
    rintro r ⟨_, _, _, h⟩
    cases h)))
  rw [Function.update_idem, Function.update_idem] at h₃
  exact h₃.tail (.begins attempts_received rfl)

theorem reachable_announced : announced.Reachable settings :=
  reachable_attempting.run attempts_received _

end Sample

/-! ## One notice -/

namespace Workshop

variable {config : RunnerConfig} {settings : JobSettings} {s : Workshop config}

/-- **Notices.** A runner works over a store in memory that others use as well; reports are queued
any number of times, and attempts are made, dropped and repeated in any order. For no report are two
notices sent. When a notice is sent, the report is ready in the store, and the notice carries its
token. -/
theorem notices_single (h : s.Reachable settings) :
    (s.notices.map (·.report)).Nodup ∧ ∀ n ∈ s.notices, n.Honest :=
  ⟨h.kept.single, h.kept.honest⟩

/-- In the sample one notice was sent, and the report was ready. -/
theorem notices_single_sample :
    ∃ n, Sample.announced.notices = [n] ∧ n.report = ⟨⟨4⟩⟩ ∧ n.Honest := by
  have hreports : Sample.announced.notices.map (·.report) = [⟨⟨4⟩⟩] := by decide +kernel
  obtain ⟨n, hn, hr⟩ := List.map_eq_singleton_iff.1 hreports
  obtain ⟨-, honest⟩ := notices_single Sample.reachable_announced
  exact ⟨n, hn, hr, honest n (hn ▸ List.mem_singleton_self n)⟩

end Workshop

end RiskReport
