import RiskReport.Proofs.Config

/-!
# Settings that cannot be counted

A queue has places for twice as many reports as there are workers, unless its capacity is set. The
number is worked out in any case. So with too many workers loading ends neither with settings nor
with a refusal: it overflows. What is checked before the workers has been accepted then, and what
would come after them does not matter (`AppConfig.load_eq_overflow_iff`).

**Theorem (`load_overflows_iff`).** Loading overflows exactly if the environment is known, there is
a provider, and so many workers are set that twice as many cannot be counted. Settings that are
loaded fit into the numbers of the machine, and so does what the runner is told.
-/

namespace RiskReport

/-! ## Runs that fail -/

namespace Except

variable {α β ε : Type} {x : Except ε α} {e : ε} {f : α → Except ε β}

/-- A run fails in its first part, or after it. -/
theorem bind_eq_error_iff :
    x >>= f = .error e ↔ x = .error e ∨ ∃ a, x = .ok a ∧ f a = .error e := by
  cases x with
  | error e' => simp [bind, Except.bind]
  | ok a => simp [bind, Except.bind]

/-- A run does not fail in a way that none of its parts does. -/
theorem bind_ne_error (hx : x ≠ .error e) (hf : ∀ a, f a ≠ .error e) : x >>= f ≠ .error e := by
  intro h
  obtain h | ⟨a, -, h⟩ := bind_eq_error_iff.1 h
  · exact hx h
  · exact hf a h

theorem map_ne_error {g : α → β} (hx : x ≠ .error e) : x.map g ≠ .error e := by
  cases x with
  | error e' => exact fun h => hx (congrArg _ (Except.error.inj h))
  | ok a => nofun

/-- A refusal in other words is one of these words. -/
theorem mapError_ne_error {ε' : Type} {g : ε → ε'} {e : ε'} (hg : ∀ e', g e' ≠ e) :
    x.mapError g ≠ .error e := by
  cases x with
  | error e' => exact fun h => hg e' (Except.error.inj h)
  | ok a => nofun

end Except

variable {vars : Variables} {c : AppConfig}

/-! ## What does not overflow -/

namespace Variables

variable {key : String} {bits default : Nat}

theorem parseOr_ne_overflow {α ε : Type} {parse : String → Except ε α} {wording : ε → String}
    {default : α} : vars.parseOr key parse wording default ≠ .error .workersOverflow := by
  unfold parseOr
  cases vars.get? key with
  | none => nofun
  | some s => exact Except.mapError_ne_error nofun

theorem unsignedOr_ne_overflow : vars.unsignedOr key bits default ≠ .error .workersOverflow :=
  parseOr_ne_overflow

theorem positiveOr_ne_overflow : vars.positiveOr key bits default ≠ .error .workersOverflow := by
  refine Except.bind_ne_error unsignedOr_ne_overflow fun n => ?_
  split <;> nofun

theorem secondsOr_ne_overflow : vars.secondsOr key default ≠ .error .workersOverflow :=
  Except.map_ne_error unsignedOr_ne_overflow

theorem require_ne_overflow : vars.require key ≠ .error .workersOverflow := by
  unfold require
  cases vars.get? key <;> nofun

end Variables

namespace AppConfig

open Variables

theorem loadThresholds_ne_overflow : loadThresholds vars ≠ .error .workersOverflow := by
  refine Except.bind_ne_error unsignedOr_ne_overflow fun highImpact => ?_
  refine Except.bind_ne_error unsignedOr_ne_overflow fun highProbability => ?_
  exact Except.mapError_ne_error nofun

/-! ## What overflows -/

/-- Loading overflows exactly if it gets as far as the workers and there are too many of them. -/
theorem load_eq_overflow_iff :
    load vars = .error .workersOverflow ↔
      (∀ s, vars.get? "ENV" = some s → ∃ e, Environment.parse s = .ok e) ∧
        ((vars.get? "ANTHROPIC_API_KEY").isSome ∨ (vars.get? "DEEPSEEK_API_KEY").isSome) ∧
        ∃ n, vars.CountsIn "WORKER_COUNT" 1 (largest 64) 3 n ∧ RunnerConfig.maxWorkers < n := by
  rw [← exists_gives_iff .development]
  unfold load
  constructor
  · intro h
    obtain h | ⟨environment, henvironment, h⟩ := Except.bind_eq_error_iff.1 h
    · exact absurd h parseOr_ne_overflow
    dsimp only at h
    split at h
    · cases h
    next provider =>
    obtain h | ⟨workerCount, hworkers, h⟩ := Except.bind_eq_error_iff.1 h
    · exact absurd h positiveOr_ne_overflow
    split at h
    · next hmax =>
      exact ⟨⟨environment, parseOr_eq_ok_iff.1 henvironment⟩, provided_iff.1 provider, workerCount,
        (positiveOr_eq_ok_iff (by decide)).1 hworkers, hmax⟩
    · -- After the workers nothing overflows any more.
      refine absurd h ?_
      refine Except.bind_ne_error positiveOr_ne_overflow fun queueCapacity => ?_
      refine Except.bind_ne_error positiveOr_ne_overflow fun maxAttempts => ?_
      refine Except.bind_ne_error loadThresholds_ne_overflow fun tierThresholds => ?_
      refine Except.bind_ne_error require_ne_overflow fun databaseUrl => ?_
      refine Except.bind_ne_error unsignedOr_ne_overflow fun databaseMaxConnections => ?_
      refine Except.bind_ne_error require_ne_overflow fun resendApiKey => ?_
      refine Except.bind_ne_error secondsOr_ne_overflow fun pollInterval => ?_
      refine Except.bind_ne_error secondsOr_ne_overflow fun jobTimeout => ?_
      refine Except.bind_ne_error secondsOr_ne_overflow fun retryBaseDelay => ?_
      refine Except.bind_ne_error unsignedOr_ne_overflow fun recoveryHours => ?_
      exact Except.bind_ne_error parseOr_ne_overflow fun amountCents => nofun
  · rintro ⟨⟨environment, henvironment⟩, provider, n, hn, hmax⟩
    rw [Except.bind_of_eq_ok (parseOr_eq_ok_iff.2 henvironment)]
    dsimp only
    rw [if_neg (provided_iff.2 provider),
      Except.bind_of_eq_ok ((positiveOr_eq_ok_iff (by decide)).2 hn), if_pos hmax]
    rfl

end AppConfig

/-- More workers than can be counted twice are given only by a text that is set. -/
theorem Variables.exists_uncountable_iff {key : String} :
    (∃ n, vars.CountsIn key 1 (largest 64) 3 n ∧ RunnerConfig.maxWorkers < n) ↔
      ∃ s n, vars.get? key = some s ∧ Denotes s n ∧ n ≤ largest 64 ∧ largest 64 < n * 2 := by
  simp only [← Nat.not_le, ← AppConfig.twice_le_iff, CountsIn, Counts, Gives]
  cases vars.get? key with
  | none =>
    constructor
    · rintro ⟨n, ⟨rfl, -⟩, hn⟩
      exact absurd (by decide) hn
    · rintro ⟨s, n, hs, -⟩
      cases hs
  | some s =>
    constructor
    · rintro ⟨n, ⟨hs, -, hle⟩, hn⟩
      exact ⟨s, n, rfl, hs, hle, hn⟩
    · rintro ⟨_, n, ⟨⟩, hs, hle, hn⟩
      exact ⟨n, ⟨hs, by omega, hle⟩, hn⟩

/-! ## What fits -/

theorem Duration.fits_ofSeconds {n : Nat} (h : n ≤ largest 64) : (ofSeconds n).fits = true := by
  have hseconds : (ofSeconds n).seconds = n := Nat.mul_div_cancel n (by decide)
  rw [fits, hseconds, decide_eq_true_iff, pow_eq_largest_add_one]
  exact Nat.lt_succ_of_le h

/-- Seconds that a variable gives fit. -/
theorem Duration.fits_of_countsIn {key : String} {default : Nat} {d : Duration}
    (h : ∃ n, vars.CountsIn key 0 (largest 64) default n ∧ ofSeconds n = d) : d.fits = true := by
  obtain ⟨n, hn, rfl⟩ := h
  exact fits_ofSeconds hn.2.2

/-- The numbers and the times of some settings fit into those of the machine. -/
structure AppConfig.Fits (c : AppConfig) : Prop where
  workers : c.workerCount * 2 ≤ largest 64
  queueCapacity : c.queueCapacity ≤ largest 64
  maxAttempts : c.maxAttempts ≤ largest 32
  databaseMaxConnections : c.databaseMaxConnections ≤ largest 32
  highImpact : c.tierThresholds.highImpact ≤ largest 8
  highProbability : c.tierThresholds.highProbability ≤ largest 8
  pollInterval : c.pollInterval.fits
  jobTimeout : c.jobTimeout.fits
  retryBaseDelay : c.retryBaseDelay.fits
  recoveryWindow : c.recoveryWindow.fits
  amountCents : InBits 64 c.price.amountCents

theorem AppConfig.MadeFrom.fits (h : c.MadeFrom vars) : c.Fits where
  workers := twice_le_iff.2 h.workerCount.2.2
  queueCapacity := h.queueCapacity.2.2
  maxAttempts := h.maxAttempts.2.2
  databaseMaxConnections := h.databaseMaxConnections.2.2
  highImpact := Nat.le_trans h.highImpact.2.2 (by decide)
  highProbability := Nat.le_trans h.highProbability.2.2 (by decide)
  pollInterval := Duration.fits_of_countsIn h.pollInterval
  jobTimeout := Duration.fits_of_countsIn h.jobTimeout
  retryBaseDelay := Duration.fits_of_countsIn h.retryBaseDelay
  recoveryWindow := by
    obtain ⟨n, -, hd⟩ := h.recoveryWindow
    exact hd ▸ Duration.fits_ofSeconds (Nat.min_le_right ..)
  amountCents := h.amountCents.2

/-! ## The theorem -/

/-- **Settings that overflow.** Whatever the variables are, loading overflows exactly if an
environment that is set is known by its name, there is a provider, and more workers are set than can
be counted twice; a capacity that is set for the queue makes no difference. Otherwise the settings
are refused, or they fit into the numbers of the machine and the runner can be told. -/
theorem load_overflows_iff (vars : Variables) :
    (AppConfig.load vars = .error .workersOverflow ↔
        (∀ s, vars.get? "ENV" = some s → ∃ e, Environment.parse s = .ok e) ∧
          ((vars.get? "ANTHROPIC_API_KEY").isSome ∨ (vars.get? "DEEPSEEK_API_KEY").isSome) ∧
          ∃ s n, vars.get? "WORKER_COUNT" = some s ∧ Denotes s n ∧ n ≤ largest 64 ∧
            largest 64 < n * 2) ∧
      ∀ c, AppConfig.load vars = .ok c →
        c.Fits ∧ ∃ r, c.runnerConfig? = some r ∧ r.workers * 2 ≤ largest 64 ∧
          r.queueCapacity ≤ largest 64 ∧ r.recoveryWindow.fits := by
  constructor
  · rw [AppConfig.load_eq_overflow_iff, Variables.exists_uncountable_iff]
  · intro c hc
    have made := AppConfig.load_eq_ok_iff.1 hc
    have fits := made.fits
    exact ⟨fits, _, made.accepted.runnerConfig?_eq, fits.workers, fits.queueCapacity,
      fits.recoveryWindow⟩

/-- Variables that set what has to be set, a place for five reports, and a number of workers. -/
def Sample.staffed (workers : String) : Variables
  | "DATABASE_URL" => some "postgres://localhost/riskmap"
  | "DEEPSEEK_API_KEY" => some "sk-ds"
  | "RESEND_API_KEY" => some "re_123"
  | "QUEUE_CAPACITY" => some "5"
  | "WORKER_COUNT" => some workers
  | _ => none

theorem Sample.denotes_workers : Denotes "9223372036854775808" 9223372036854775808 := by
  have read : readUnsigned 64 "9223372036854775808" = .ok 9223372036854775808 := rfl
  exact (readUnsigned_eq_ok_iff.1 read).1

/-- With one worker too many loading overflows, and with one less the runner can be told. -/
theorem load_overflows_iff_sample :
    AppConfig.load (Sample.staffed "9223372036854775808") = .error .workersOverflow ∧
      ∃ c r, AppConfig.load (Sample.staffed "9223372036854775807") = .ok c ∧
        c.runnerConfig? = some r ∧ r.workers * 2 ≤ largest 64 := by
  constructor
  · refine (load_overflows_iff _).1.2 ⟨nofun, .inr rfl, ?_⟩
    exact ⟨_, _, by decide +kernel, Sample.denotes_workers, by decide, by decide⟩
  · have loaded : (AppConfig.load (Sample.staffed "9223372036854775807")).toBool := by
      decide +kernel
    cases hload : AppConfig.load (Sample.staffed "9223372036854775807") with
    | error e =>
      rw [hload] at loaded
      cases loaded
    | ok c =>
      obtain ⟨-, r, hr, hworkers, -⟩ := (load_overflows_iff _).2 c hload
      exact ⟨c, r, rfl, hr, hworkers⟩

/-- Loading overflows although the number of workers is one of its kind and the capacity of the
queue is set. -/
theorem load_overflows :
    readUnsigned 64 "9223372036854775808" = .ok 9223372036854775808 ∧
      (Sample.staffed "9223372036854775808").get? "QUEUE_CAPACITY" = some "5" ∧
      AppConfig.load (Sample.staffed "9223372036854775808") = .error .workersOverflow := by
  refine ⟨rfl, by decide +kernel, AppConfig.load_eq_overflow_iff.2 ⟨nofun, .inr rfl, ?_⟩⟩
  refine Variables.exists_uncountable_iff.2 ⟨_, _, ?_, Sample.denotes_workers, ?_, ?_⟩
  · decide +kernel
  · decide
  · decide

end RiskReport
