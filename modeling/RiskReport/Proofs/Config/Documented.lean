import RiskReport.Proofs.Config.Agreement

/-!
# Settings as they are documented

What has to be set, by which names an environment is known, and between which bounds every number
lies is documented variable by variable (`Variables.Documented`). The order in which the variables
are read makes no difference to that: settings can be made from the variables exactly if these are
as documented and the workers can be counted twice (`AppConfig.exists_madeFrom_iff`).

**Theorem (`load_accepts_iff`).** Unless loading overflows, the settings are accepted exactly if the
variables are as documented. What comes of them depends on nothing but the trimmed texts of the
variables that are not blank, and the runner is told the numbers that the variables give.
-/

namespace RiskReport

variable {vars : Variables} {c : AppConfig}

/-! ## Names of environments -/

/-- The names by which an environment is known, in small letters. -/
def Environment.names : List String :=
  ["development", "dev", "local", "test", "production", "prod"]

theorem Environment.exists_parse_iff {s : String} :
    (∃ e, parse s = .ok e) ↔ Text.lowerAscii s ∈ names := by
  have hnames : names = spellings.map Prod.fst := rfl
  rw [hnames, List.mem_map]
  unfold parse
  cases hlookup : spellings.lookup (Text.lowerAscii s) with
  | none =>
    rw [List.lookup_eq_none_iff] at hlookup
    constructor
    · rintro ⟨e, ⟨⟩⟩
    · rintro ⟨p, hp, heq⟩
      have := hlookup p hp
      simp [heq] at this
  | some e =>
    obtain ⟨before, after, hsplit, -⟩ := List.lookup_eq_some_iff.1 hlookup
    have hmem : (Text.lowerAscii s, e) ∈ spellings := by
      rw [hsplit]
      exact List.mem_append_right before List.mem_cons_self
    exact ⟨fun _ => ⟨_, hmem, rfl⟩, fun _ => ⟨e, rfl⟩⟩

/-! ## What is documented -/

namespace Variables

variable {key : String} {low high default n : Nat}

/-- A variable that is set denotes a number of a range. -/
def Within (vars : Variables) (key : String) (low high : Nat) : Prop :=
  ∀ s, vars.get? key = some s → ∃ n, Denotes s n ∧ low ≤ n ∧ n ≤ high

/-- Of a variable that is set the text counts. -/
theorem Gives.of_eq_some {α : Type} {reads : String → α → Prop} {default x : α} {s : String}
    (h : vars.Gives key reads default x) (hs : vars.get? key = some s) : reads s x := by
  rwa [Gives, hs] at h

theorem CountsIn.within (h : vars.CountsIn key low high default n) : vars.Within key low high :=
  fun _ hs => ⟨n, h.1.of_eq_some hs, h.2⟩

/-- A default of the range counts if nothing is set. -/
theorem Within.exists_countsIn (h : vars.Within key low high) (default : Nat)
    (hdefault : low ≤ default ∧ default ≤ high) : ∃ n, vars.CountsIn key low high default n :=
  (exists_gives_and_iff (p := fun n => low ≤ n ∧ n ≤ high) default hdefault).2 h

theorem Within.mono {high' : Nat} (h : vars.Within key low high) (hle : high ≤ high') :
    vars.Within key low high' := by
  intro s hs
  obtain ⟨n, hn, hlow, hhigh⟩ := h s hs
  exact ⟨n, hn, hlow, Nat.le_trans hhigh hle⟩

/-- The variables that give natural numbers, each with the least and the largest one. -/
def ranges : List (String × Nat × Nat) :=
  [("WORKER_COUNT", 1, largest 64), ("QUEUE_CAPACITY", 1, largest 64),
    ("MAX_ATTEMPTS", 1, largest 32), ("TIER_HIGH_IMPACT", 1, 10), ("TIER_HIGH_PROBABILITY", 1, 10),
    ("DATABASE_MAX_CONNECTIONS", 0, largest 32), ("POLL_INTERVAL_SECS", 0, largest 64),
    ("JOB_TIMEOUT_SECS", 0, largest 64), ("RETRY_BASE_DELAY_SECS", 0, largest 64),
    ("RECOVERY_WINDOW_HOURS", 0, largest 64)]

/-- The variables are as they are documented. -/
structure Documented (vars : Variables) : Prop where
  databaseUrl : (vars.get? "DATABASE_URL").isSome
  resendApiKey : (vars.get? "RESEND_API_KEY").isSome
  provider : (vars.get? "ANTHROPIC_API_KEY").isSome ∨ (vars.get? "DEEPSEEK_API_KEY").isSome
  environment : ∀ s, vars.get? "ENV" = some s → Text.lowerAscii s ∈ Environment.names
  numbers : ∀ r ∈ ranges, vars.Within r.1 r.2.1 r.2.2
  amountCents : ∀ s, vars.get? "PRICE_AMOUNT_CENTS" = some s → ∃ z, DenotesInt s z ∧ InBits 64 z

end Variables

namespace AppConfig

/-- Settings are made only from variables that are as documented. -/
theorem MadeFrom.documented (h : c.MadeFrom vars) : vars.Documented where
  databaseUrl := by rw [h.databaseUrl]; rfl
  resendApiKey := by rw [h.resendApiKey]; rfl
  provider := h.provider
  environment s hs := Environment.exists_parse_iff.1 ⟨_, h.environment.of_eq_some hs⟩
  numbers := by
    obtain ⟨poll, hpoll, -⟩ := h.pollInterval
    obtain ⟨timeout, htimeout, -⟩ := h.jobTimeout
    obtain ⟨delay, hdelay, -⟩ := h.retryBaseDelay
    obtain ⟨hours, hhours, -⟩ := h.recoveryWindow
    simp only [Variables.ranges, List.forall_mem_cons]
    exact ⟨h.workerCount.within.mono (by decide), h.queueCapacity.within, h.maxAttempts.within,
      h.highImpact.within, h.highProbability.within, h.databaseMaxConnections.within,
      hpoll.within, htimeout.within, hdelay.within, hhours.within, nofun⟩
  amountCents s hs := ⟨_, h.amountCents.1.of_eq_some hs, h.amountCents.2⟩

/-- Settings can be made from variables that are as documented, and not from others, as far as the
workers can be counted twice. -/
theorem exists_madeFrom_iff :
    (∃ c, MadeFrom c vars) ↔
      vars.Documented ∧ ∃ n, vars.CountsIn "WORKER_COUNT" 1 RunnerConfig.maxWorkers 3 n := by
  constructor
  · rintro ⟨c, h⟩
    exact ⟨h.documented, c.workerCount, h.workerCount⟩
  · rintro ⟨h, workers, hworkers⟩
    have numbers := h.numbers
    simp only [Variables.ranges, List.forall_mem_cons] at numbers
    obtain ⟨-, capacity, attempts, impact, probability, connections, poll, timeout, delay, hours,
      -⟩ := numbers
    obtain ⟨environment, henvironment⟩ := (Variables.exists_gives_iff Environment.development).2
      fun s hs => Environment.exists_parse_iff.2 (h.environment s hs)
    obtain ⟨databaseUrl, hdatabase⟩ := Option.isSome_iff_exists.1 h.databaseUrl
    obtain ⟨resendApiKey, hresend⟩ := Option.isSome_iff_exists.1 h.resendApiKey
    have twice : 1 ≤ workers * 2 ∧ workers * 2 ≤ largest 64 :=
      ⟨Nat.mul_pos hworkers.2.1 (by decide), twice_le_iff.2 hworkers.2.2⟩
    obtain ⟨queueCapacity, hcapacity⟩ := capacity.exists_countsIn _ twice
    obtain ⟨maxAttempts, hattempts⟩ := attempts.exists_countsIn 3 (by decide)
    obtain ⟨highImpact, himpact⟩ := impact.exists_countsIn 7 (by decide)
    obtain ⟨highProbability, hprobability⟩ := probability.exists_countsIn 6 (by decide)
    obtain ⟨databaseMaxConnections, hconnections⟩ := connections.exists_countsIn 10 (by decide)
    obtain ⟨pollSeconds, hpoll⟩ := poll.exists_countsIn 30 (by decide)
    obtain ⟨timeoutSeconds, htimeout⟩ := timeout.exists_countsIn 300 (by decide)
    obtain ⟨delaySeconds, hdelay⟩ := delay.exists_countsIn 2 (by decide)
    obtain ⟨recoveryHours, hhours⟩ := hours.exists_countsIn 24 (by decide)
    obtain ⟨amountCents, hcents⟩ :=
      (Variables.exists_gives_and_iff (p := InBits 64) 5900 (by decide)).2 h.amountCents
    exact ⟨⟨environment, _, databaseUrl, databaseMaxConnections, _, _, resendApiKey, _, _, workers,
      queueCapacity, _, _, maxAttempts, _, _, ⟨highImpact, highProbability⟩, ⟨amountCents, _⟩⟩, {
        environment := henvironment
        anthropic := rfl
        deepseek := rfl
        provider := h.provider
        workerCount := hworkers
        queueCapacity := hcapacity
        maxAttempts := hattempts
        highImpact := himpact
        highProbability := hprobability
        databaseUrl := hdatabase
        databaseMaxConnections := hconnections
        resendApiKey := hresend
        pollInterval := ⟨pollSeconds, hpoll, rfl⟩
        jobTimeout := ⟨timeoutSeconds, htimeout, rfl⟩
        retryBaseDelay := ⟨delaySeconds, hdelay, rfl⟩
        recoveryWindow := ⟨recoveryHours, hhours, rfl⟩
        amountCents := hcents
        baseUrl := rfl
        emailFromAddr := rfl
        emailFromName := rfl
        currency := rfl }⟩

/-- Unless loading overflows, settings that are documented can be made. -/
theorem exists_load_iff (returns : load vars ≠ .error .workersOverflow) :
    (∃ c, load vars = .ok c) ↔ vars.Documented := by
  simp only [load_eq_ok_iff, exists_madeFrom_iff, and_iff_left_iff_imp]
  intro h
  obtain ⟨workers, hworkers⟩ := (h.numbers _ List.mem_cons_self).exists_countsIn 3 (by decide)
  rcases Nat.lt_or_ge RunnerConfig.maxWorkers workers with hmax | hmax
  · refine absurd (load_eq_overflow_iff.2 ⟨?_, h.provider, workers, hworkers, hmax⟩) returns
    exact fun s hs => Environment.exists_parse_iff.2 (h.environment s hs)
  · exact ⟨workers, hworkers.1, hworkers.2.1, hmax⟩

end AppConfig

/-! ## The theorem -/

/-- **Accepted settings.** Unless loading overflows, it ends with settings exactly if the variables
are as documented. What it ends with, settings or a refusal, depends only on the trimmed texts of
the variables that are read, where a blank one counts as not set. The runner is then told the
numbers that the variables give, each with its default: three workers, twice as many places in the
queue, three attempts, two seconds before the second one and never more than five minutes before a
later one, half a minute between scans, five minutes for an attempt, and a recovery window of 24
hours. A window of more seconds than can be counted has as many as can be counted. -/
theorem load_accepts_iff (vars : Variables)
    (returns : AppConfig.load vars ≠ .error .workersOverflow) :
    ((∃ c, AppConfig.load vars = .ok c) ↔ vars.Documented) ∧
      (∀ vars' : Variables, (∀ key ∈ AppConfig.variableNames, vars'.get? key = vars.get? key) →
        AppConfig.load vars' = AppConfig.load vars) ∧
      ∀ c, AppConfig.load vars = .ok c →
        ∃ workers capacity attempts delay poll timeout hours,
          vars.Counts "WORKER_COUNT" 3 workers ∧
          vars.Counts "QUEUE_CAPACITY" (workers * 2) capacity ∧
          vars.Counts "MAX_ATTEMPTS" 3 attempts ∧
          vars.Counts "RETRY_BASE_DELAY_SECS" 2 delay ∧
          vars.Counts "POLL_INTERVAL_SECS" 30 poll ∧
          vars.Counts "JOB_TIMEOUT_SECS" 300 timeout ∧
          vars.Counts "RECOVERY_WINDOW_HOURS" 24 hours ∧
          c.runnerConfig? = some {
            workers
            queueCapacity := capacity
            pollInterval := .ofSeconds poll
            jobTimeout := .ofSeconds timeout
            retry := ⟨attempts, .ofSeconds delay, .ofSeconds 300, .exponential⟩
            recoveryWindow := .ofSeconds (min (hours * 3600) (largest 64))
            markFailedTimeout := RunnerConfig.standard.markFailedTimeout } := by
  refine ⟨AppConfig.exists_load_iff returns, fun vars' => AppConfig.load_congr, fun c hc => ?_⟩
  have made := AppConfig.load_eq_ok_iff.1 hc
  obtain ⟨poll, hpoll, hp⟩ := made.pollInterval
  obtain ⟨timeout, htimeout, ht⟩ := made.jobTimeout
  obtain ⟨delay, hdelay, hd⟩ := made.retryBaseDelay
  obtain ⟨hours, hhours, hw⟩ := made.recoveryWindow
  refine ⟨c.workerCount, c.queueCapacity, c.maxAttempts, delay, poll, timeout, hours,
    made.workerCount.1, made.queueCapacity.1, made.maxAttempts.1, hdelay.1, hpoll.1, htimeout.1,
    hhours.1, ?_⟩
  rw [made.accepted.runnerConfig?_eq, ← hp, ← ht, ← hd, ← hw]
  rfl

/-- Variables with blanks, a capital and a small letter, a sign, and more hours than fit. -/
def Sample.spelled : Variables
  | "ENV" => some " Prod "
  | "DATABASE_URL" => some "postgres://localhost/riskmap"
  | "ANTHROPIC_API_KEY" => some "  "
  | "DEEPSEEK_API_KEY" => some "sk-ds"
  | "RESEND_API_KEY" => some "re_123"
  | "WORKER_COUNT" => some " +2"
  | "RECOVERY_WINDOW_HOURS" => some "18446744073709551615"
  | _ => none

/-- The variables of the sample are as documented, and make a runner with two workers. -/
theorem load_accepts_iff_sample :
    AppConfig.load Sample.spelled ≠ .error .workersOverflow ∧ Sample.spelled.Documented ∧
      (AppConfig.load Sample.spelled).toOption.bind AppConfig.runnerConfig? = some {
        workers := 2
        queueCapacity := 4
        pollInterval := .ofSeconds 30
        jobTimeout := .ofSeconds 300
        retry := ⟨3, .ofSeconds 2, .ofSeconds 300, .exponential⟩
        recoveryWindow := .ofSeconds 18446744073709551615
        markFailedTimeout := .ofSeconds 10 } := by
  have runs : (AppConfig.load Sample.spelled).toOption.bind AppConfig.runnerConfig? = some {
      workers := 2
      queueCapacity := 4
      pollInterval := .ofSeconds 30
      jobTimeout := .ofSeconds 300
      retry := ⟨3, .ofSeconds 2, .ofSeconds 300, .exponential⟩
      recoveryWindow := .ofSeconds 18446744073709551615
      markFailedTimeout := .ofSeconds 10 } := by decide +kernel
  obtain ⟨c, hload⟩ : ∃ c, AppConfig.load Sample.spelled = .ok c := by
    cases hload : AppConfig.load Sample.spelled with
    | error e =>
      rw [hload] at runs
      cases runs
    | ok c => exact ⟨c, rfl⟩
  have returns : AppConfig.load Sample.spelled ≠ .error .workersOverflow := by
    rw [hload]
    nofun
  exact ⟨returns, (load_accepts_iff Sample.spelled returns).1.1 ⟨c, hload⟩, runs⟩

end RiskReport
