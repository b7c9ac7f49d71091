import RiskReport.Job.Runner
import RiskReport.Proofs.Transcript

/-!
# The attempts at one report

A worker that has taken a report makes attempts at it until one succeeds, until the last one has
failed, or until it sees that the work is to stop. `Fortune` is what comes upon it meanwhile: how
each attempt ends, in which waits the stop is seen, and how everything else is answered. The worker
asks for the same things in the same order whenever its fortune is the same (`Fortune.calls`), and
`Account` is what these come to: the jobs it ran, the times it waited, what it counted, and whether
it insisted on giving the report up.

A round is an attempt that fails and the wait after it. A report that survives some rounds has used
up as many attempts and waits and has been counted as often (`calls_of_reaches`), and what is left
is the attempt at which the work ends.

**Theorem (`retries_exact`).** Every fortune leads to one of four endings, and each ending has its
account: a report made in attempt `k`, a report given up after all attempts, an attempt that is
interrupted, and a wait in which the work is stopped.
-/

namespace RiskReport

open Program

/-- The wording of an attempt that failed. -/
def Attempt.failure? (timeout : Duration) : Attempt → Option String
  | .finished (.error e) => some e.message
  | .timedOut => some (timeoutMessage timeout)
  | .finished (.ok ()) | .interrupted => none

/-- How many attempts at a report are allowed. -/
def RetryPolicy.tries (p : RetryPolicy) : Nat := max 1 p.maxAttempts

/-- Another attempt follows as long as not all are used up, also under a policy of no attempts. -/
theorem RetryPolicy.goesOn_iff (p : RetryPolicy) {k : Nat} (hk : 1 ≤ k) :
    p.goesOn k = true ↔ k < p.tries := by
  simp only [goesOn, tries, decide_eq_true_eq]
  omega

/-! ## Fortunes -/

/-- What comes upon the work on one report. The attempts are counted from 1. -/
structure Fortune where
  /-- How an attempt ends. It is interrupted if the stop is seen before it or during it. -/
  attempt : Nat → Attempt
  /-- Whether the stop is seen in the wait after an attempt. -/
  stops : Nat → Bool
  /-- How everything else is answered. -/
  other : (call : RunnerCall) → call.Answer

namespace Fortune

variable {α β : Type} {f : Fortune} {config : RunnerConfig} {settings : JobSettings} {worker : Nat}
  {report : ReportId} {k : Nat}

/-- Answer a request after some attempts. -/
def answer (f : Fortune) :
    (call : runnerInterface.Call) → Nat → runnerInterface.Answer call × Nat
  | .attempt _ _, k => (f.attempt (k + 1), k + 1)
  | .pause _, k => (f.stops k, k)
  | call, k => (f.other call, k)

/-- What a program of the runner asks for after some attempts, in order. -/
def calls (f : Fortune) (p : Work α) (k : Nat) : List RunnerCall :=
  (p.transcript f.answer k).map (·.1)

/-- An attempt ends in a failure. -/
def Fails (f : Fortune) (config : RunnerConfig) (k : Nat) : Prop :=
  ∃ message, (f.attempt k).failure? config.jobTimeout = some message

/-- The wording of the failure in which an attempt ends. -/
def message (f : Fortune) (config : RunnerConfig) (k : Nat) : String :=
  ((f.attempt k).failure? config.jobTimeout).getD ""

/-- The worker comes to an attempt: the ones before it have failed, and the stop was not seen in the
waits after them. -/
structure Reaches (f : Fortune) (config : RunnerConfig) (k : Nat) : Prop where
  pos : 1 ≤ k
  allowed : k ≤ config.retry.tries
  failed : ∀ j, 1 ≤ j → j < k → f.Fails config j
  waited : ∀ j, 1 ≤ j → j < k → f.stops j = false

/-- How the work on a report ends. -/
inductive Ending where
  /-- An attempt succeeds. -/
  | made (attempt : Nat)
  /-- The last attempt fails. -/
  | givenUp
  /-- The stop is seen before an attempt or during it. -/
  | interrupted (attempt : Nat)
  /-- The stop is seen in the wait after an attempt. -/
  | stopped (attempt : Nat)

/-- A fortune leads to an ending. -/
def LeadsTo (f : Fortune) (config : RunnerConfig) : Ending → Prop
  | .made k => f.Reaches config k ∧ f.attempt k = .finished (.ok ())
  | .givenUp => f.Reaches config config.retry.tries ∧ f.Fails config config.retry.tries
  | .interrupted k => f.Reaches config k ∧ f.attempt k = .interrupted
  | .stopped k =>
    f.Reaches config k ∧ f.Fails config k ∧ k < config.retry.tries ∧ f.stops k = true

theorem reaches_one : f.Reaches config 1 where
  pos := Nat.le_refl 1
  allowed := Nat.le_max_left 1 _
  failed := by omega
  waited := by omega

theorem Reaches.succ (h : f.Reaches config k) (fails : f.Fails config k)
    (more : k < config.retry.tries) (waits : f.stops k = false) : f.Reaches config (k + 1) where
  pos := by omega
  allowed := more
  failed j hj hjk := by
    rcases Nat.lt_succ_iff_lt_or_eq.1 hjk with hlt | rfl
    · exact h.failed j hj hlt
    · exact fails
  waited j hj hjk := by
    rcases Nat.lt_succ_iff_lt_or_eq.1 hjk with hlt | rfl
    · exact h.waited j hj hlt
    · exact waits

theorem Reaches.pred (h : f.Reaches config (k + 1)) (hk : 1 ≤ k) : f.Reaches config k where
  pos := hk
  allowed := Nat.le_of_succ_le h.allowed
  failed j hj hjk := h.failed j hj (Nat.lt_succ_of_lt hjk)
  waited j hj hjk := h.waited j hj (Nat.lt_succ_of_lt hjk)

/-- An attempt succeeds, is interrupted, or fails. -/
theorem attempt_cases (f : Fortune) (config : RunnerConfig) (k : Nat) :
    f.attempt k = .finished (.ok ()) ∨ f.attempt k = .interrupted ∨ f.Fails config k := by
  unfold Fails
  rcases f.attempt k with (e | ⟨⟩) | _ | _
  · exact .inr (.inr ⟨_, rfl⟩)
  · exact .inl rfl
  · exact .inr (.inr ⟨_, rfl⟩)
  · exact .inr (.inl rfl)

/-- From each attempt that the worker comes to, its fortune leads on to an ending. -/
theorem Reaches.exists_ending (h : f.Reaches config k) : ∃ e, f.LeadsTo config e := by
  -- The induction is on the number of attempts that are left after this one.
  induction hleft : config.retry.tries - k generalizing k with
  | zero =>
    have hlast : k = config.retry.tries := by
      have := h.allowed
      omega
    rcases f.attempt_cases config k with hmade | hcut | hfails
    · exact ⟨.made k, h, hmade⟩
    · exact ⟨.interrupted k, h, hcut⟩
    · exact ⟨.givenUp, hlast ▸ h, hlast ▸ hfails⟩
  | succ left ih =>
    have more : k < config.retry.tries := by omega
    rcases f.attempt_cases config k with hmade | hcut | hfails
    · exact ⟨.made k, h, hmade⟩
    · exact ⟨.interrupted k, h, hcut⟩
    · cases hstops : f.stops k with
      | true => exact ⟨.stopped k, h, hfails, more, hstops⟩
      | false => exact ih (h.succ hfails more hstops) (by omega)

/-! ## Requests in order -/

@[simp] theorem calls_bind (p : Work α) (g : α → Work β) :
    f.calls (p.bind g) k =
      f.calls p k ++ f.calls (g (p.outcome f.answer k).1) (p.outcome f.answer k).2 := by
  rw [calls, transcript_bind]
  exact List.map_append

@[simp] theorem calls_request (call : RunnerCall) : f.calls (Work.request call) k = [call] := rfl

@[simp] theorem calls_note (level : Log.Level) (message : String) (fields : Log.Fields) :
    f.calls (Work.note level message fields) k = [] := rfl

@[simp] theorem outcome_request (call : RunnerCall) :
    (Work.request call).outcome f.answer k = f.answer call k := rfl

@[simp] theorem outcome_note (level : Log.Level) (message : String) (fields : Log.Fields) :
    (Work.note level message fields).outcome f.answer k = ((), k) := rfl

/-! ## Rounds -/

variable (config settings report) in
/-- What the worker asks for in an attempt. -/
def job : RunnerCall :=
  .attempt config.jobTimeout (makeReport settings report)

variable (config settings report) in
/-- What the worker asks for in a round. -/
def round (k : Nat) : List RunnerCall :=
  [job config settings report, .count .attemptFailed, .pause (config.retry.delay k)]

variable (config settings report) in
/-- What the worker asks for in some rounds. -/
def rounds (k : Nat) : List RunnerCall :=
  (List.range k).flatMap fun j => round config settings report (j + 1)

theorem rounds_succ (k : Nat) :
    rounds config settings report (k + 1) =
      rounds config settings report k ++ round config settings report (k + 1) := by
  simp only [rounds, List.range_succ, List.flatMap_append, List.flatMap_singleton]

variable {left : Nat} {lastError message : String}

@[simp] theorem calls_backOff (attempt : Nat) :
    f.calls (backOff config worker report attempt) k =
      if config.retry.goesOn attempt then [.pause (config.retry.delay attempt)] else [] := by
  unfold backOff
  split
  · change _ :: f.calls (if f.stops k = true then _ else _) k = _
    cases f.stops k <;> rfl
  · rfl

@[simp] theorem outcome_backOff (attempt : Nat) :
    (backOff config worker report attempt).outcome f.answer k =
      (config.retry.goesOn attempt && f.stops k, k) := by
  unfold backOff
  cases config.retry.goesOn attempt with
  | false => rfl
  | true =>
    change (if f.stops k = true then _ else _ : Work Bool).outcome f.answer k = _
    cases f.stops k <;> rfl

variable (config settings worker report left) in
/-- What the worker does about an attempt that failed. -/
def afterFailure (attempt : Nat) (message : String) : Work Unit :=
  (Work.request (.count .attemptFailed)).bind fun _ =>
    (Work.note .warn "job attempt failed"
      (workFields worker report ++
        [("attempt", .ofNat attempt), ("max_attempts", .ofNat config.retry.maxAttempts),
          ("error", .shown message)])).bind fun _ =>
    (backOff config worker report attempt).bind fun stopped =>
      if stopped then .done ()
      else attempts config settings worker report left (attempt + 1) message

theorem calls_attempts_of_failure
    (h : (f.attempt (k + 1)).failure? config.jobTimeout = some message) :
    f.calls (attempts config settings worker report (left + 1) (k + 1) lastError) k =
      job config settings report ::
        f.calls (afterFailure config settings worker report left (k + 1) message) (k + 1) := by
  rw [attempts]
  simp only [bind_eq, calls_bind, calls_request, outcome_request, answer]
  rcases hattempt : f.attempt (k + 1) with (e | ⟨⟩) | _ | _ <;> rw [hattempt] at h <;> cases h
  · rfl
  · rfl

theorem calls_afterFailure (attempt : Nat) :
    f.calls (afterFailure config settings worker report left attempt message) k =
      .count .attemptFailed ::
        (f.calls (backOff config worker report attempt) k ++
          if config.retry.goesOn attempt && f.stops k then []
          else f.calls (attempts config settings worker report left (attempt + 1) message) k) := by
  simp only [afterFailure, calls_bind, calls_request, calls_note, outcome_request, outcome_note,
    outcome_backOff, answer, List.nil_append, List.singleton_append]
  cases config.retry.goesOn attempt && f.stops k <;> rfl

/-- What the worker asks for when a report is given up. -/
theorem calls_giveUp :
    f.calls (giveUp config worker report message) k =
      [.count .failedPermanently,
        .insist config.markFailedTimeout (Service.store (.markReportFailed report message))] := by
  refine congrArg (_ :: _ :: ·) ?_
  -- Whatever comes of it is only logged.
  simp only [answer]
  rcases f.other (.insist config.markFailedTimeout
    (Service.store (.markReportFailed report message))) with _ | e | ⟨⟩ <;> rfl

/-- A round leads to the next attempt. -/
theorem calls_round (fails : f.Fails config (k + 1)) (more : k + 1 < config.retry.tries)
    (waits : f.stops (k + 1) = false) :
    f.calls (attempts config settings worker report (left + 1) (k + 1) lastError) k =
      round config settings report (k + 1) ++
        f.calls (attempts config settings worker report left (k + 2) (f.message config (k + 1)))
          (k + 1) := by
  have goesOn := (config.retry.goesOn_iff (Nat.le_add_left 1 k)).2 more
  obtain ⟨message, hmessage⟩ := fails
  rw [calls_attempts_of_failure hmessage, calls_afterFailure, calls_backOff, Fortune.message,
    hmessage, goesOn, waits]
  rfl

variable (settings worker report) in
/-- The worker comes to an attempt after as many rounds as there are attempts before it. -/
theorem calls_of_reaches (h : f.Reaches config (k + 1)) :
    ∃ lastError, f.calls (runWithRetry config settings worker report) 0 =
      rounds config settings report k ++
        f.calls (attempts config settings worker report (config.retry.tries - k) (k + 1) lastError)
          k := by
  induction k with
  | zero => exact ⟨"", rfl⟩
  | succ k ih =>
    obtain ⟨lastError, hcalls⟩ := ih (h.pred (Nat.le_add_left 1 k))
    have more : k + 1 < config.retry.tries := h.allowed
    have hleft : config.retry.tries - k = config.retry.tries - (k + 1) + 1 := by omega
    have fails := h.failed (k + 1) (Nat.le_add_left 1 k) (Nat.lt_succ_self _)
    have waits := h.waited (k + 1) (Nat.le_add_left 1 k) (Nat.lt_succ_self _)
    refine ⟨f.message config (k + 1), ?_⟩
    rw [hcalls, hleft, calls_round fails more waits, rounds_succ, List.append_assoc]

/-! ## Endings -/

variable (settings report f) in
/-- What the worker asks for from the attempt at which its work ends. -/
def lastCalls (config : RunnerConfig) : Ending → List RunnerCall
  | .made _ => [job config settings report, .count .completed]
  | .givenUp =>
    [job config settings report, .count .attemptFailed, .count .failedPermanently,
      .insist config.markFailedTimeout
        (Service.store (.markReportFailed report (f.message config config.retry.tries)))]
  | .interrupted _ => [job config settings report]
  | .stopped k => round config settings report k

/-- The attempt at which the work ends. -/
def Ending.attempt (config : RunnerConfig) : Ending → Nat
  | .made k | .interrupted k | .stopped k => k
  | .givenUp => config.retry.tries

theorem LeadsTo.reaches {e : Ending} (h : f.LeadsTo config e) :
    f.Reaches config (e.attempt config) := by
  cases e with
  | made k | givenUp | interrupted k | stopped k => exact h.1

/-- What the worker asks for once it has come to the attempt at which its work ends. -/
theorem calls_of_last {e : Ending} (h : f.LeadsTo config e) (hk : e.attempt config = k + 1) :
    f.calls (attempts config settings worker report (config.retry.tries - k) (k + 1) lastError) k =
      f.lastCalls settings report config e := by
  have allowed := h.reaches.allowed
  obtain ⟨left, hleft⟩ : ∃ left, config.retry.tries - k = left + 1 :=
    ⟨config.retry.tries - (k + 1), by omega⟩
  rw [hleft]
  cases e with
  | made j =>
    obtain rfl : j = k + 1 := hk
    rw [attempts]
    simp only [bind_eq, calls_bind, calls_request, outcome_request, answer, h.2]
    rfl
  | givenUp =>
    have hlast : config.retry.tries = k + 1 := hk
    obtain rfl : left = 0 := by omega
    have goesOn : config.retry.goesOn (k + 1) = false :=
      Bool.eq_false_iff.2 fun more =>
        absurd ((config.retry.goesOn_iff (Nat.le_add_left 1 k)).1 more) (by omega)
    obtain ⟨message, hmessage⟩ := h.2
    have wording : f.message config config.retry.tries = message := by
      rw [Fortune.message, hmessage, Option.getD_some]
    rw [hlast] at hmessage
    rw [calls_attempts_of_failure hmessage, calls_afterFailure, calls_backOff, goesOn, lastCalls,
      wording]
    exact congrArg (_ :: _ :: ·) calls_giveUp
  | interrupted j =>
    obtain rfl : j = k + 1 := hk
    rw [attempts]
    simp only [bind_eq, calls_bind, calls_request, outcome_request, answer, h.2]
    rfl
  | stopped j =>
    obtain rfl : j = k + 1 := hk
    obtain ⟨-, ⟨message, hmessage⟩, more, stops⟩ := h
    have goesOn := (config.retry.goesOn_iff (Nat.le_add_left 1 k)).2 more
    rw [calls_attempts_of_failure hmessage, calls_afterFailure, calls_backOff, goesOn, stops]
    rfl

/-- Before the attempt at which its work ends, the worker goes through a round for each attempt. -/
theorem LeadsTo.calls {e : Ending} (h : f.LeadsTo config e) :
    f.calls (runWithRetry config settings worker report) 0 =
      rounds config settings report (e.attempt config - 1) ++
        f.lastCalls settings report config e := by
  obtain ⟨k, hk⟩ : ∃ k, e.attempt config = k + 1 := ⟨_, (Nat.sub_add_cancel h.reaches.pos).symm⟩
  obtain ⟨lastError, hcalls⟩ := calls_of_reaches settings worker report (hk ▸ h.reaches)
  rw [hcalls, calls_of_last h hk, hk, Nat.add_sub_cancel]

end Fortune

/-! ## Accounts -/

/-- What the requests of a worker come to. -/
structure Account where
  /-- The jobs that were run, each with the time that it was given. -/
  jobs : List (Duration × Service (Except JobError Unit)) := []
  waits : List Duration := []
  stats : RunnerStats
  /-- The jobs that were insisted on, each with the time that it was given. -/
  insisted : List (Duration × Service (Except StoreError Unit)) := []
  /-- Everything else that was asked for. -/
  others : List RunnerCall := []

namespace Account

/-- The account after one more request. -/
def enter (a : Account) : RunnerCall → Account
  | .attempt timeout job => { a with jobs := a.jobs ++ [(timeout, job)] }
  | .pause delay => { a with waits := a.waits ++ [delay] }
  | .count counter => { a with stats := a.stats.count counter }
  | .insist timeout job => { a with insisted := a.insisted ++ [(timeout, job)] }
  | call => { a with others := a.others ++ [call] }

/-- The account of some requests, the counts being what they were before. -/
def of (stats : RunnerStats) (calls : List RunnerCall) : Account :=
  calls.foldl enter { stats }

variable {config : RunnerConfig} {settings : JobSettings} {worker : Nat} {report : ReportId}

variable (config) in
/-- The waiting times after the first attempts. -/
def delays (k : Nat) : List Duration :=
  (List.range k).map fun j => config.retry.delay (j + 1)

theorem delays_succ (k : Nat) :
    delays config (k + 1) = delays config k ++ [config.retry.delay (k + 1)] := by
  simp only [delays, List.range_succ, List.map_append, List.map_singleton]

/-- In each round a job is run, a failure counted, and a time waited. -/
theorem of_rounds (stats : RunnerStats) (k : Nat) :
    of stats (Fortune.rounds config settings report k) =
      { jobs := List.replicate k (config.jobTimeout, makeReport settings report)
        waits := delays config k
        stats := { stats with attemptsFailed := stats.attemptsFailed + k } } := by
  induction k with
  | zero => rfl
  | succ k ih =>
    rw [of] at ih
    rw [of, Fortune.rounds_succ, List.foldl_append, ih, delays_succ, List.replicate_succ']
    rfl

variable {f : Fortune}

/-- The account of some rounds and the attempt at which the work ends. -/
theorem of_leadsTo {e : Fortune.Ending} (h : f.LeadsTo config e) (stats : RunnerStats) {k : Nat}
    (hk : e.attempt config = k + 1) :
    of stats (f.calls (runWithRetry config settings worker report) 0) =
      (f.lastCalls settings report config e).foldl enter
        { jobs := List.replicate k (config.jobTimeout, makeReport settings report)
          waits := delays config k
          stats := { stats with attemptsFailed := stats.attemptsFailed + k } } := by
  rw [h.calls, hk, Nat.add_sub_cancel, of, List.foldl_append, ← of, of_rounds]

end Account

/-! ## Late attempts -/

namespace Fortune

/-- The first attempts take too long, the other ones end in one way, and the stop is seen in no wait
but that after one attempt, if in any. -/
def late (failures : Nat) (ending : Attempt) (stop : Option Nat) : Fortune where
  attempt k := if k ≤ failures then .timedOut else ending
  stops k := stop == some k
  other
    | .receive => none
    | .attempt .. => .timedOut
    | .pause _ => false
    | .insist .. => some (.ok ())
    | .scan _ => .ok []
    | .enqueue _ => .ok true
    | .release _ | .count _ => ()
    | .now => .earliest

variable {failures : Nat} {ending : Attempt} {stop : Option Nat}

theorem late_fails (hk : k ≤ failures) : (late failures ending stop).Fails config k :=
  ⟨_, congrArg (Attempt.failure? config.jobTimeout) (if_pos hk)⟩

theorem reaches_late (pos : 1 ≤ k) (allowed : k ≤ config.retry.tries) (hk : k ≤ failures + 1)
    (hstop : ∀ j ∈ stop, k ≤ j) : (late failures ending stop).Reaches config k where
  pos := pos
  allowed := allowed
  failed _ _ hj := late_fails (Nat.le_of_lt_succ (Nat.lt_of_lt_of_le hj hk))
  waited j _ hj := beq_eq_false_iff_ne.2 fun h => absurd (hstop j h) (Nat.not_le_of_lt hj)

end Fortune

/-! ## The theorem -/

/-- The work on a report, whatever comes upon it. If attempt `k` is the first that succeeds, the job
is run `k` times, the waits are those after the attempts before it, `k - 1` failures and one success
are counted, and nothing is given up. If all attempts fail, all are made, no wait follows the last
one, each failure and the giving up are counted, and the report is given up once, with the wording
of the last failure. If the stop is seen before or during an attempt, or in a wait, then that is the
last thing asked for; only the failures before it are counted, and nothing is given up. There is no
other way in which the work can go. -/
theorem retries_exact (f : Fortune) (config : RunnerConfig) (settings : JobSettings) (worker : Nat)
    (report : ReportId) (stats : RunnerStats) :
    let calls := f.calls (runWithRetry config settings worker report) 0
    let account := Account.of stats calls
    let job := (config.jobTimeout, makeReport settings report)
    let tries := max 1 config.retry.maxAttempts
    (∀ k, f.LeadsTo config (.made k) → account =
      { jobs := List.replicate k job
        waits := Account.delays config (k - 1)
        stats := { stats with
          attemptsFailed := stats.attemptsFailed + (k - 1)
          completed := stats.completed + 1 } }) ∧
    (f.LeadsTo config .givenUp → account =
      { jobs := List.replicate tries job
        waits := Account.delays config (tries - 1)
        stats := { stats with
          attemptsFailed := stats.attemptsFailed + tries
          failedPermanently := stats.failedPermanently + 1 }
        insisted := [(config.markFailedTimeout,
          Service.store (.markReportFailed report (f.message config tries)))] }) ∧
    (∀ k, f.LeadsTo config (.interrupted k) →
      calls.getLast? = some (.attempt job.1 job.2) ∧ account =
        { jobs := List.replicate k job
          waits := Account.delays config (k - 1)
          stats := { stats with attemptsFailed := stats.attemptsFailed + (k - 1) } }) ∧
    (∀ k, f.LeadsTo config (.stopped k) →
      calls.getLast? = some (.pause (config.retry.delay k)) ∧ account =
        { jobs := List.replicate k job
          waits := Account.delays config k
          stats := { stats with attemptsFailed := stats.attemptsFailed + k } }) ∧
    ∃ e, f.LeadsTo config e := by
  intro calls account job tries
  refine ⟨fun k h => ?_, fun h => ?_, fun k h => ⟨?_, ?_⟩, fun k h => ⟨?_, ?_⟩,
    Fortune.reaches_one.exists_ending⟩
  · obtain ⟨j, rfl⟩ := Nat.exists_eq_add_of_le' h.reaches.pos
    rw [List.replicate_succ']
    exact Account.of_leadsTo h stats rfl
  · obtain ⟨j, hj⟩ := Nat.exists_eq_add_of_le' h.reaches.pos
    have htries : tries = j + 1 := hj
    have jobs : List.replicate tries job = List.replicate j job ++ [job] := by
      rw [htries, List.replicate_succ']
    have waits : tries - 1 = j := by omega
    have failures : stats.attemptsFailed + tries = stats.attemptsFailed + j + 1 := by omega
    rw [jobs, waits, failures]
    exact Account.of_leadsTo h stats hj
  · exact (congrArg List.getLast? h.calls).trans List.getLast?_append
  · obtain ⟨j, rfl⟩ := Nat.exists_eq_add_of_le' h.reaches.pos
    rw [List.replicate_succ']
    exact Account.of_leadsTo h stats rfl
  · exact (congrArg List.getLast? h.calls).trans List.getLast?_append
  · obtain ⟨j, rfl⟩ := Nat.exists_eq_add_of_le' h.reaches.pos
    rw [List.replicate_succ', Account.delays_succ]
    exact Account.of_leadsTo h stats rfl

/-- With the standard policy, a report that is made in the third attempt waits two and four seconds,
and one whose attempts all take too long is given up after the same waits. If the stop is seen in
the second attempt, or in the wait after it, then one or two failures are counted, and nothing
else. -/
theorem retries_exact_sample :
    let account f := Account.of {} <|
      Fortune.calls f (runWithRetry .standard ⟨.published, "stub"⟩ 0 ⟨⟨4⟩⟩) 0
    (account (.late 2 (.finished (.ok ())) none)).waits = [.ofSeconds 2, .ofSeconds 4] ∧
      (account (.late 2 (.finished (.ok ())) none)).stats =
        { attemptsFailed := 2, completed := 1 } ∧
      (account (.late 3 .timedOut none)).waits = [.ofSeconds 2, .ofSeconds 4] ∧
      (account (.late 3 .timedOut none)).stats =
        { attemptsFailed := 3, failedPermanently := 1 } ∧
      (account (.late 1 .interrupted none)).stats = { attemptsFailed := 1 } ∧
      (account (.late 3 .timedOut (some 2))).stats = { attemptsFailed := 2 } := by
  intro account
  have runs f := retries_exact f .standard ⟨.published, "stub"⟩ 0 ⟨⟨4⟩⟩ {}
  have made := (runs (.late 2 (.finished (.ok ())) none)).1 3
    ⟨Fortune.reaches_late (by decide) (by decide) (by decide) (by simp), rfl⟩
  have givenUp := (runs (.late 3 .timedOut none)).2.1
    ⟨Fortune.reaches_late (by decide) (by decide) (by decide) (by simp),
      Fortune.late_fails (by decide)⟩
  have interrupted := (runs (.late 1 .interrupted none)).2.2.1 2
    ⟨Fortune.reaches_late (by decide) (by decide) (by decide) (by simp), rfl⟩
  have stopped := (runs (.late 3 .timedOut (some 2))).2.2.2.1 2
    ⟨Fortune.reaches_late (by decide) (by decide) (by decide) (by simp),
      Fortune.late_fails (by decide), by decide, rfl⟩
  exact ⟨congrArg Account.waits made, congrArg Account.stats made, congrArg Account.waits givenUp,
    congrArg Account.stats givenUp, congrArg Account.stats interrupted.2,
    congrArg Account.stats stopped.2⟩

end RiskReport
