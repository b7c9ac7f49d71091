import RiskReport.Config.App
import RiskReport.Proofs.Config.Number

/-!
# Settings that are accepted

What a variable gives is a default if it is not set, and otherwise what its text is read as
(`Variables.Gives`, `Variables.Counts`). Settings are loaded exactly if each is given by its
variable and the numbers are in their ranges (`AppConfig.load_eq_ok_iff`, `AppConfig.MadeFrom`).

Whoever gets settings from `AppConfig.load` may rely on a few bounds (`AppConfig.Accepted`): there
is a worker, a place in the queue and an attempt at least, and the workers are so few that twice as
many can be counted. With them the settings of the runner can be put together, and nothing is
rounded up on the way (`AppConfig.Accepted.runnerConfig?_eq`). The times have no lower bound.
-/

namespace RiskReport

variable {vars : Variables} {c : AppConfig}

/-! ## Single variables -/

namespace Variables

variable {key : String} {low high bits default n : Nat}

/-- What a variable gives: the default, or what its text is read as if it is set. -/
def Gives {α : Type} (vars : Variables) (key : String) (reads : String → α → Prop)
    (default x : α) : Prop :=
  match vars.get? key with
  | none => x = default
  | some s => reads s x

/-- A variable gives a natural number. -/
def Counts (vars : Variables) (key : String) (default n : Nat) : Prop :=
  vars.Gives key Denotes default n

/-- A variable gives a natural number of a range. -/
def CountsIn (vars : Variables) (key : String) (low high default n : Nat) : Prop :=
  vars.Counts key default n ∧ low ≤ n ∧ n ≤ high

theorem parseOr_eq_ok_iff {α ε : Type} {parse : String → Except ε α} {wording : ε → String}
    {default x : α} :
    vars.parseOr key parse wording default = .ok x ↔
      vars.Gives key (fun s x => parse s = .ok x) default x := by
  unfold parseOr Gives
  cases vars.get? key with
  | none => exact ⟨fun h => (Except.ok.inj h).symm, fun h => congrArg _ h.symm⟩
  | some s => exact Except.mapError_eq_ok_iff

/-- A default that is in the range makes no difference to what is in the range. -/
theorem gives_and_iff {α : Type} {reads : String → α → Prop} {p : α → Prop} {default x : α}
    (h : p default) :
    vars.Gives key (fun s x => reads s x ∧ p x) default x ↔
      vars.Gives key reads default x ∧ p x := by
  unfold Gives
  cases vars.get? key with
  | none => exact ⟨fun hx => ⟨hx, hx ▸ h⟩, And.left⟩
  | some s => exact Iff.rfl

/-- Something is given exactly if the text that is set, if any, can be read. -/
theorem exists_gives_iff {α : Type} {reads : String → α → Prop} (default : α) :
    (∃ x, vars.Gives key reads default x) ↔ ∀ s, vars.get? key = some s → ∃ x, reads s x := by
  unfold Gives
  cases vars.get? key with
  | none => exact ⟨fun _ => nofun, fun _ => ⟨default, rfl⟩⟩
  | some s => exact ⟨fun hx _ hs => Option.some.inj hs ▸ hx, fun hx => hx s rfl⟩

/-- Something of a range is given exactly if the text that is set, if any, is read as such. -/
theorem exists_gives_and_iff {α : Type} {reads : String → α → Prop} {p : α → Prop} (default : α)
    (h : p default) :
    (∃ x, vars.Gives key reads default x ∧ p x) ↔
      ∀ s, vars.get? key = some s → ∃ x, reads s x ∧ p x := by
  rw [← exists_gives_iff default]
  exact exists_congr fun x => (gives_and_iff h).symm

theorem unsignedOr_eq_ok_iff (h : default ≤ largest bits) :
    vars.unsignedOr key bits default = .ok n ↔ vars.CountsIn key 0 (largest bits) default n := by
  rw [unsignedOr, parseOr_eq_ok_iff]
  simp only [readUnsigned_eq_ok_iff]
  rw [gives_and_iff (p := (· ≤ largest bits)) h, CountsIn, Counts, and_iff_right (Nat.zero_le n)]

theorem positiveOr_eq_ok_iff (h : default ≤ largest bits) :
    vars.positiveOr key bits default = .ok n ↔ vars.CountsIn key 1 (largest bits) default n := by
  rw [positiveOr, Except.bind_eq_ok_iff]
  simp only [unsignedOr_eq_ok_iff h]
  constructor
  · rintro ⟨m, ⟨counts, -, hhigh⟩, hm⟩
    split at hm
    · cases hm
    · next hzero =>
      obtain rfl := Except.ok.inj hm
      exact ⟨counts, Nat.pos_of_ne_zero hzero, hhigh⟩
  · rintro ⟨counts, hlow, hhigh⟩
    refine ⟨n, ⟨counts, Nat.zero_le n, hhigh⟩, ?_⟩
    rw [if_neg (Nat.ne_of_gt hlow)]
    rfl

theorem parseOr_readSigned_eq_ok_iff {wording : NumberError → String} {default z : Int}
    (h : InBits bits default) :
    vars.parseOr key (readSigned bits) wording default = .ok z ↔
      vars.Gives key DenotesInt default z ∧ InBits bits z := by
  rw [parseOr_eq_ok_iff]
  simp only [readSigned_eq_ok_iff]
  exact gives_and_iff (p := InBits bits) h

theorem secondsOr_eq_ok_iff {d : Duration} (h : default ≤ largest 64) :
    vars.secondsOr key default = .ok d ↔
      ∃ n, vars.CountsIn key 0 (largest 64) default n ∧ .ofSeconds n = d := by
  rw [secondsOr, Except.map_eq_ok_iff]
  simp only [unsignedOr_eq_ok_iff h]

theorem require_eq_ok_iff {s : String} : vars.require key = .ok s ↔ vars.get? key = some s := by
  unfold require
  cases vars.get? key with
  | none => exact ⟨nofun, nofun⟩
  | some v => simp

/-- There is one provider or the other exactly if one of the keys is set. -/
theorem provided_iff {key' modelVar modelVar' : String} {vendor vendor' : Vendor} :
    ¬ ((vars.provider? key modelVar vendor).isNone &&
        (vars.provider? key' modelVar' vendor').isNone) = true ↔
      (vars.get? key).isSome ∨ (vars.get? key').isSome := by
  unfold provider?
  cases vars.get? key <;> cases vars.get? key' <;> simp

end Variables

theorem RiskScore.inRange_iff {v : Int} : inRange v = true ↔ 1 ≤ v ∧ v ≤ 10 := by
  rw [inRange, Bool.and_eq_true, decide_eq_true_iff, decide_eq_true_iff]
  exact Iff.rfl

theorem TierThresholds.ofCutoffs_eq_ok_iff {i p : Nat} {t : TierThresholds} :
    ofCutoffs i p = .ok t ↔ RiskScore.inRange i ∧ RiskScore.inRange p ∧ ⟨i, p⟩ = t := by
  unfold ofCutoffs checkCutoff
  cases RiskScore.inRange i with
  | false => exact ⟨nofun, nofun⟩
  | true =>
    cases RiskScore.inRange p with
    | false => exact ⟨nofun, nofun⟩
    | true => exact ⟨fun h => ⟨rfl, rfl, Except.ok.inj h⟩, fun h => congrArg _ h.2.2⟩

namespace AppConfig

theorem loadThresholds_eq_ok_iff {t : TierThresholds} :
    loadThresholds vars = .ok t ↔
      vars.CountsIn "TIER_HIGH_IMPACT" 1 10 7 t.highImpact ∧
        vars.CountsIn "TIER_HIGH_PROBABILITY" 1 10 6 t.highProbability := by
  have range (n : Nat) : RiskScore.inRange n = true ↔ 1 ≤ n ∧ n ≤ 10 := by
    rw [RiskScore.inRange_iff]
    omega
  have hbits : 10 ≤ largest 8 := by decide
  simp only [loadThresholds, Except.bind_eq_ok_iff, Except.mapError_eq_ok_iff,
    TierThresholds.ofCutoffs_eq_ok_iff, range]
  constructor
  · rintro ⟨i, hi, p, hp, irange, prange, rfl⟩
    rw [Variables.unsignedOr_eq_ok_iff (by decide)] at hi hp
    exact ⟨⟨hi.1, irange⟩, hp.1, prange⟩
  · rintro ⟨⟨hi, irange⟩, hp, prange⟩
    refine ⟨t.highImpact, ?_, t.highProbability, ?_, irange, prange, rfl⟩
    · exact (Variables.unsignedOr_eq_ok_iff (by decide)).2 ⟨hi, by omega⟩
    · exact (Variables.unsignedOr_eq_ok_iff (by decide)).2 ⟨hp, by omega⟩

/-! ## All settings -/

/-- Settings are made from variables: each is given by its own, and the numbers are in range. -/
structure MadeFrom (c : AppConfig) (vars : Variables) : Prop where
  environment : vars.Gives "ENV" (fun s e => Environment.parse s = .ok e) .development c.environment
  anthropic : c.anthropic = vars.provider? "ANTHROPIC_API_KEY" "ANTHROPIC_MODEL" .anthropic
  deepseek : c.deepseek = vars.provider? "DEEPSEEK_API_KEY" "DEEPSEEK_MODEL" .deepseek
  provider : (vars.get? "ANTHROPIC_API_KEY").isSome ∨ (vars.get? "DEEPSEEK_API_KEY").isSome
  workerCount : vars.CountsIn "WORKER_COUNT" 1 RunnerConfig.maxWorkers 3 c.workerCount
  queueCapacity :
    vars.CountsIn "QUEUE_CAPACITY" 1 (largest 64) (c.workerCount * 2) c.queueCapacity
  maxAttempts : vars.CountsIn "MAX_ATTEMPTS" 1 (largest 32) 3 c.maxAttempts
  highImpact : vars.CountsIn "TIER_HIGH_IMPACT" 1 10 7 c.tierThresholds.highImpact
  highProbability : vars.CountsIn "TIER_HIGH_PROBABILITY" 1 10 6 c.tierThresholds.highProbability
  databaseUrl : vars.get? "DATABASE_URL" = some c.databaseUrl
  databaseMaxConnections :
    vars.CountsIn "DATABASE_MAX_CONNECTIONS" 0 (largest 32) 10 c.databaseMaxConnections
  resendApiKey : vars.get? "RESEND_API_KEY" = some c.resendApiKey
  pollInterval :
    ∃ n, vars.CountsIn "POLL_INTERVAL_SECS" 0 (largest 64) 30 n ∧ .ofSeconds n = c.pollInterval
  jobTimeout :
    ∃ n, vars.CountsIn "JOB_TIMEOUT_SECS" 0 (largest 64) 300 n ∧ .ofSeconds n = c.jobTimeout
  retryBaseDelay :
    ∃ n, vars.CountsIn "RETRY_BASE_DELAY_SECS" 0 (largest 64) 2 n ∧
      .ofSeconds n = c.retryBaseDelay
  recoveryWindow :
    ∃ n, vars.CountsIn "RECOVERY_WINDOW_HOURS" 0 (largest 64) 24 n ∧
      .ofSeconds (min (n * 3600) maxSeconds) = c.recoveryWindow
  amountCents : vars.Gives "PRICE_AMOUNT_CENTS" DenotesInt 5900 c.price.amountCents ∧
    InBits 64 c.price.amountCents
  baseUrl : c.baseUrl = Text.dropTrailingSlashes (vars.getOr "BASE_URL" "http://localhost:3000")
  emailFromAddr : c.emailFromAddr = vars.getOr "EMAIL_FROM_ADDR" "reports@example.com"
  emailFromName : c.emailFromName = vars.getOr "EMAIL_FROM_NAME" "Risk Mapper"
  currency : c.price.currency = Text.lowerAscii (vars.getOr "PRICE_CURRENCY" "usd")

/-- Twice as many as the workers can be counted exactly up to the largest number of them. -/
theorem twice_le_iff {n : Nat} : n * 2 ≤ largest 64 ↔ n ≤ RunnerConfig.maxWorkers :=
  (Nat.le_div_iff_mul_le (by decide)).symm

/-- Settings that are loaded are made from the variables. -/
theorem madeFrom_of_load (h : load vars = .ok c) : c.MadeFrom vars := by
  unfold load at h
  obtain ⟨environment, henvironment, h⟩ := Except.bind_eq_ok h
  dsimp only at h
  split at h
  · cases h
  next provider =>
  obtain ⟨workerCount, hworkers, h⟩ := Except.bind_eq_ok h
  split at h
  · cases h
  next countable =>
  obtain ⟨queueCapacity, hcapacity, h⟩ := Except.bind_eq_ok h
  obtain ⟨maxAttempts, hattempts, h⟩ := Except.bind_eq_ok h
  obtain ⟨tierThresholds, hthresholds, h⟩ := Except.bind_eq_ok h
  obtain ⟨databaseUrl, hdatabase, h⟩ := Except.bind_eq_ok h
  obtain ⟨databaseMaxConnections, hconnections, h⟩ := Except.bind_eq_ok h
  obtain ⟨resendApiKey, hresend, h⟩ := Except.bind_eq_ok h
  obtain ⟨pollInterval, hpoll, h⟩ := Except.bind_eq_ok h
  obtain ⟨jobTimeout, htimeout, h⟩ := Except.bind_eq_ok h
  obtain ⟨retryBaseDelay, hdelay, h⟩ := Except.bind_eq_ok h
  obtain ⟨recoveryHours, hhours, h⟩ := Except.bind_eq_ok h
  obtain ⟨amountCents, hcents, h⟩ := Except.bind_eq_ok h
  obtain rfl := Except.ok.inj h
  have countable := Nat.le_of_not_lt countable
  rw [Variables.positiveOr_eq_ok_iff (by decide)] at hworkers hattempts
  rw [Variables.positiveOr_eq_ok_iff (twice_le_iff.2 countable)] at hcapacity
  rw [loadThresholds_eq_ok_iff] at hthresholds
  rw [Variables.unsignedOr_eq_ok_iff (by decide)] at hconnections hhours
  rw [Variables.secondsOr_eq_ok_iff (by decide)] at hpoll htimeout hdelay
  rw [Variables.parseOr_readSigned_eq_ok_iff (by decide)] at hcents
  exact {
    environment := Variables.parseOr_eq_ok_iff.1 henvironment
    anthropic := rfl
    deepseek := rfl
    provider := Variables.provided_iff.1 provider
    workerCount := ⟨hworkers.1, hworkers.2.1, countable⟩
    queueCapacity := hcapacity
    maxAttempts := hattempts
    highImpact := hthresholds.1
    highProbability := hthresholds.2
    databaseUrl := Variables.require_eq_ok_iff.1 hdatabase
    databaseMaxConnections := hconnections
    resendApiKey := Variables.require_eq_ok_iff.1 hresend
    pollInterval := hpoll
    jobTimeout := htimeout
    retryBaseDelay := hdelay
    recoveryWindow := ⟨recoveryHours, hhours, rfl⟩
    amountCents := hcents
    baseUrl := rfl
    emailFromAddr := rfl
    emailFromName := rfl
    currency := rfl }

/-- Settings that are made from the variables are loaded. -/
theorem MadeFrom.load_eq (h : c.MadeFrom vars) : load vars = .ok c := by
  obtain ⟨workers, worker, countable⟩ := h.workerCount
  obtain ⟨hours, hhours, window⟩ := h.recoveryWindow
  have hmax : RunnerConfig.maxWorkers ≤ largest 64 := by decide
  have hworkers : vars.positiveOr "WORKER_COUNT" 64 3 = .ok c.workerCount :=
    (Variables.positiveOr_eq_ok_iff (by decide)).2 ⟨workers, worker, Nat.le_trans countable hmax⟩
  have hcapacity := (Variables.positiveOr_eq_ok_iff (twice_le_iff.2 countable)).2 h.queueCapacity
  have hattempts := (Variables.positiveOr_eq_ok_iff (by decide)).2 h.maxAttempts
  have hthresholds := loadThresholds_eq_ok_iff.2 ⟨h.highImpact, h.highProbability⟩
  have hconnections := (Variables.unsignedOr_eq_ok_iff (by decide)).2 h.databaseMaxConnections
  have hpoll := (Variables.secondsOr_eq_ok_iff (by decide)).2 h.pollInterval
  have htimeout := (Variables.secondsOr_eq_ok_iff (by decide)).2 h.jobTimeout
  have hdelay := (Variables.secondsOr_eq_ok_iff (by decide)).2 h.retryBaseDelay
  have hrecovery := (Variables.unsignedOr_eq_ok_iff (by decide)).2 hhours
  unfold load
  rw [Except.bind_of_eq_ok (Variables.parseOr_eq_ok_iff.2 h.environment)]
  dsimp only
  rw [if_neg (Variables.provided_iff.2 h.provider), Except.bind_of_eq_ok hworkers,
    if_neg (Nat.not_lt.2 countable), Except.bind_of_eq_ok hcapacity,
    Except.bind_of_eq_ok hattempts, Except.bind_of_eq_ok hthresholds,
    Except.bind_of_eq_ok (Variables.require_eq_ok_iff.2 h.databaseUrl),
    Except.bind_of_eq_ok hconnections,
    Except.bind_of_eq_ok (Variables.require_eq_ok_iff.2 h.resendApiKey),
    Except.bind_of_eq_ok hpoll, Except.bind_of_eq_ok htimeout, Except.bind_of_eq_ok hdelay,
    Except.bind_of_eq_ok hrecovery,
    Except.bind_of_eq_ok ((Variables.parseOr_readSigned_eq_ok_iff (by decide)).2 h.amountCents),
    window, ← h.anthropic, ← h.deepseek, ← h.baseUrl, ← h.emailFromAddr, ← h.emailFromName,
    ← h.currency]
  rfl

theorem load_eq_ok_iff : load vars = .ok c ↔ c.MadeFrom vars :=
  ⟨madeFrom_of_load, MadeFrom.load_eq⟩

/-! ## Bounds -/

/-- The bounds that are checked before settings are accepted. -/
structure Accepted (c : AppConfig) : Prop where
  worker : 0 < c.workerCount
  countable : c.workerCount ≤ RunnerConfig.maxWorkers
  place : 0 < c.queueCapacity
  attempt : 0 < c.maxAttempts

theorem MadeFrom.accepted (h : c.MadeFrom vars) : c.Accepted where
  worker := h.workerCount.2.1
  countable := h.workerCount.2.2
  place := h.queueCapacity.2.1
  attempt := h.maxAttempts.2.1

theorem accepted_of_load (h : load vars = .ok c) : c.Accepted :=
  (load_eq_ok_iff.1 h).accepted

/-- The settings of the runner are those that were accepted. -/
theorem Accepted.runnerConfig?_eq (h : c.Accepted) :
    c.runnerConfig? = some {
      workers := c.workerCount
      queueCapacity := c.queueCapacity
      pollInterval := c.pollInterval
      jobTimeout := c.jobTimeout
      retry := ⟨c.maxAttempts, c.retryBaseDelay, maxRetryDelay, .exponential⟩
      recoveryWindow := c.recoveryWindow
      markFailedTimeout := RunnerConfig.standard.markFailedTimeout } := by
  have worker : max 1 c.workerCount = c.workerCount := Nat.max_eq_right h.worker
  have place : max 1 c.queueCapacity = c.queueCapacity := Nat.max_eq_right h.place
  have attempt : max 1 c.maxAttempts = c.maxAttempts := Nat.max_eq_right h.attempt
  simp only [runnerConfig?, RunnerConfig.withWorkers?, RunnerConfig.withQueueCapacity,
    RetryPolicy.exponential, worker, place, attempt, h.countable, if_true, Option.map_some]

end AppConfig

end RiskReport
