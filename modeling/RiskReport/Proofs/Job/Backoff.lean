import RiskReport.Job.Retry
import RiskReport.Proofs.Words

/-!
# How the waiting time grows

The waiting time is meant to double after each attempt, up to the longest one. A machine has three
limits on the way: the number of doublings fits a word of 32 bits, the factor by which the time has
grown stays at the largest number of 32 bits, and the product has to be a duration. The last limit
is harmless, since a product that is no duration is longer than the longest waiting time
(`RetryPolicy.delay_total`). The factor is not: from the 33rd attempt on it is one less than a power
of two and stays there, whether the longest waiting time is reached or not.

`delayInWords?` works a waiting time out in words, with seconds and nanoseconds apart, as a machine
does. It comes to the same, and no step overflows (`delayInWords?_eq`).

**Theorem (`delay_doubles_iff`).** The waiting time is the shorter one of the longest waiting time
and the first one doubled after each attempt, exactly up to the 32nd attempt, and afterwards if the
first is nothing or the factor has brought it to the longest. It never exceeds the longest and never
becomes shorter.
-/

namespace RiskReport

/-! ## Durations -/

namespace Duration

variable {d e : Duration} {factor : Nat}

theorem fits_iff : d.fits = true ↔ d.total < Nat.pow 2 64 * perSecond := by
  rw [fits, decide_eq_true_iff, seconds]
  exact Nat.div_lt_iff_lt_mul (by decide)

theorem shorter_total : (d.shorter e).total = min d.total e.total := by
  unfold shorter
  by_cases h : e.total < d.total
  · rw [if_pos h]
    omega
  · rw [if_neg h]
    omega

/-- A product that is too long for a duration is longer than every duration. -/
theorem scale?_shorter_total (h : e.fits = true) :
    (((d.scale? factor).getD e).shorter e).total = min e.total (d.total * factor) := by
  have he := fits_iff.1 h
  rw [shorter_total]
  unfold scale?
  dsimp only
  by_cases hfits : (⟨d.total * factor⟩ : Duration).fits = true
  · rw [if_pos hfits]
    show min (d.total * factor) e.total = _
    omega
  · rw [if_neg hfits]
    have hlong : ¬ d.total * factor < Nat.pow 2 64 * perSecond := fun hlt => hfits (fits_iff.2 hlt)
    show min e.total e.total = _
    omega

/-- The product of a duration worked out in words: seconds and nanoseconds are multiplied apart, and
whole seconds among the nanoseconds are carried over. That the nanoseconds fit is taken for granted;
without seconds that fit there is no product. -/
def scaleInWords? (d : Duration) (factor : Nat) : Option (Option Duration) := do
  let nanos ← inWord? 64 (d.nanos * factor)
  return do
    let seconds ← inWord? 64 (d.seconds * factor)
    let seconds ← inWord? 64 (seconds + nanos / perSecond)
    return ⟨seconds * perSecond + nanos % perSecond⟩

/-- A product is its seconds, with the whole seconds among its nanoseconds, and the rest. -/
theorem mul_total_eq (d : Duration) (factor : Nat) : d.total * factor =
    (d.seconds * factor + d.nanos * factor / perSecond) * perSecond +
      d.nanos * factor % perSecond := by
  have hd : d.total = d.seconds * perSecond + d.nanos := (Nat.div_add_mod' _ _).symm
  have hn := Nat.div_add_mod' (d.nanos * factor) perSecond
  calc d.total * factor
      = d.seconds * factor * perSecond + d.nanos * factor := by
        rw [hd, Nat.add_mul, Nat.mul_right_comm]
    _ = _ := by rw [Nat.add_mul, Nat.add_assoc, hn]

/-- A factor of 32 bits is too small for the nanoseconds to overflow. -/
theorem scaleInWords?_eq (h : factor < Nat.pow 2 32) :
    d.scaleInWords? factor = some (d.scale? factor) := by
  have hwords := words_eq
  have hnanos : d.nanos * factor < Nat.pow 2 64 := by
    have hlt : d.nanos < perSecond := Nat.mod_lt _ (by decide)
    have hmul : d.nanos * factor ≤ perSecond * factor := Nat.mul_le_mul_right _ (Nat.le_of_lt hlt)
    simp only [perSecond] at hmul
    omega
  have hseconds : (⟨d.total * factor⟩ : Duration).seconds =
      d.seconds * factor + d.nanos * factor / perSecond := by
    rw [seconds, mul_total_eq, Nat.mul_comm _ perSecond, Nat.mul_add_div (by decide),
      Nat.div_eq_of_lt (Nat.mod_lt _ (by decide)), Nat.add_zero]
  unfold scaleInWords? scale?
  rw [inWord?_eq_some hnanos]
  dsimp only
  rw [fits, hseconds]
  show some (inWord? 64 (d.seconds * factor) >>= fun s =>
    inWord? 64 (s + d.nanos * factor / perSecond) >>= fun s => _) = _
  by_cases hfits : d.seconds * factor + d.nanos * factor / perSecond < Nat.pow 2 64
  · rw [inWord?_eq_some (Nat.lt_of_le_of_lt (Nat.le_add_right _ _) hfits)]
    show some (inWord? 64 (d.seconds * factor + d.nanos * factor / perSecond) >>= fun s => _) = _
    rw [inWord?_eq_some hfits, if_pos (decide_eq_true hfits), mul_total_eq d factor]
    rfl
  · rw [if_neg (by simpa using hfits)]
    by_cases hs : d.seconds * factor < Nat.pow 2 64
    · rw [inWord?_eq_some hs]
      show some (inWord? 64 (d.seconds * factor + d.nanos * factor / perSecond) >>= fun s => _) = _
      rw [inWord?_eq_none hfits]
      rfl
    · rw [inWord?_eq_none hs]
      rfl

end Duration

namespace RetryPolicy

variable {p : RetryPolicy} {attempt : Nat}

/-! ## The factor -/

/-- The factor doubles as long as it fits a word of 32 bits. -/
theorem factor_eq_min (doublings : Nat) :
    factor doublings = min (Nat.pow 2 doublings) maxFactor := by
  unfold factor
  by_cases h : doublings < 32
  · have hle : Nat.pow 2 doublings ≤ Nat.pow 2 31 := Nat.pow_le_pow_right (by decide) (by omega)
    have hmax : Nat.pow 2 31 ≤ maxFactor := by decide
    rw [if_pos h, Nat.min_eq_left (Nat.le_trans hle hmax)]
  · have hle : Nat.pow 2 32 ≤ Nat.pow 2 doublings := Nat.pow_le_pow_right (by decide) (by omega)
    have hmax : maxFactor ≤ Nat.pow 2 32 := by decide
    rw [if_neg h, Nat.min_eq_right (Nat.le_trans hmax hle)]

theorem factor_mono {m n : Nat} (h : m ≤ n) : factor m ≤ factor n := by
  have hpow : Nat.pow 2 m ≤ Nat.pow 2 n := Nat.pow_le_pow_right (by decide) h
  rw [factor_eq_min, factor_eq_min]
  omega

theorem factor_lt (doublings : Nat) : factor doublings < Nat.pow 2 32 := by
  have hmax : maxFactor < Nat.pow 2 32 := by decide
  rw [factor_eq_min]
  omega

/-! ## The waiting time -/

/-- The waiting time as it is meant: doubled after each attempt, up to the longest one. -/
def doubled (p : RetryPolicy) (attempt : Nat) : Nat :=
  min p.maxDelay.total (p.baseDelay.total * Nat.pow 2 (attempt - 1))

/-- The waiting time is the first one times the factor, up to the longest one. -/
theorem delay_total (strategy : p.strategy = .exponential) (fits : p.maxDelay.fits = true)
    (h : attempt ≠ 0) :
    (p.delay attempt).total =
      min p.maxDelay.total (p.baseDelay.total * factor (attempt - 1)) := by
  unfold delay
  rw [if_neg h, strategy]
  exact Duration.scale?_shorter_total fits

theorem delay_le (strategy : p.strategy = .exponential) (fits : p.maxDelay.fits = true)
    (attempt : Nat) : (p.delay attempt).total ≤ p.maxDelay.total := by
  by_cases h : attempt = 0
  · subst h
    exact Nat.zero_le _
  · rw [delay_total strategy fits h]
    omega

theorem delay_mono (strategy : p.strategy = .exponential) (fits : p.maxDelay.fits = true)
    {later : Nat} (h : attempt ≤ later) : (p.delay attempt).total ≤ (p.delay later).total := by
  by_cases hzero : attempt = 0
  · subst hzero
    exact Nat.zero_le _
  · have hfactor : p.baseDelay.total * factor (attempt - 1) ≤
        p.baseDelay.total * factor (later - 1) :=
      Nat.mul_le_mul_left _ (factor_mono (by omega))
    rw [delay_total strategy fits hzero, delay_total strategy fits (by omega)]
    omega

/-- Where the waiting time is as it is meant. -/
theorem delay_eq_doubled_iff (strategy : p.strategy = .exponential)
    (fits : p.maxDelay.fits = true) (h : attempt ≠ 0) :
    (p.delay attempt).total = p.doubled attempt ↔
      attempt ≤ 32 ∨ p.baseDelay.total = 0 ∨
        p.maxDelay.total ≤ p.baseDelay.total * maxFactor := by
  rw [delay_total strategy fits h, doubled]
  by_cases hearly : attempt ≤ 32
  · have hfactor : factor (attempt - 1) = Nat.pow 2 (attempt - 1) := if_pos (by omega)
    rw [hfactor]
    exact ⟨fun _ => .inl hearly, fun _ => rfl⟩
  · have hfactor : factor (attempt - 1) = maxFactor := if_neg (by omega)
    have hpow : maxFactor + 1 ≤ Nat.pow 2 (attempt - 1) := by
      have hexp : Nat.pow 2 32 ≤ Nat.pow 2 (attempt - 1) :=
        Nat.pow_le_pow_right (by decide) (by omega)
      exact hexp
    have hmul : p.baseDelay.total * (maxFactor + 1) ≤
        p.baseDelay.total * Nat.pow 2 (attempt - 1) := Nat.mul_le_mul_left _ hpow
    rw [Nat.mul_add, Nat.mul_one] at hmul
    rw [hfactor]
    constructor
    · intro heq
      omega
    · intro hcases
      rcases hcases with hattempt | hzero | hmax
      · exact absurd hattempt hearly
      · rw [hzero, Nat.zero_mul, Nat.zero_mul]
      · omega

/-! ## The waiting time in words -/

/-- The waiting time as a machine works it out. -/
def delayInWords? (p : RetryPolicy) (attempt : Nat) : Option Duration :=
  if attempt = 0 then some ⟨0⟩
  else
    match p.strategy with
    | .fixed => some p.baseDelay
    | .exponential => do
      let doublings ← inWord? 32 (attempt - 1)
      let product? ← p.baseDelay.scaleInWords? (min (Nat.pow 2 doublings) maxFactor)
      return (product?.getD p.maxDelay).shorter p.maxDelay

/-- Attempts are counted in 32 bits; then no step of the way overflows. -/
theorem delayInWords?_eq (h : attempt < Nat.pow 2 32) :
    p.delayInWords? attempt = some (p.delay attempt) := by
  unfold delayInWords? delay
  by_cases hzero : attempt = 0
  · rw [if_pos hzero, if_pos hzero]
  · rw [if_neg hzero, if_neg hzero]
    cases p.strategy with
    | fixed => rfl
    | exponential =>
      dsimp only
      rw [inWord?_eq_some (Nat.lt_of_le_of_lt (Nat.sub_le _ _) h)]
      show (p.baseDelay.scaleInWords? (min (Nat.pow 2 (attempt - 1)) maxFactor) >>= fun e => _) = _
      rw [← factor_eq_min, Duration.scaleInWords?_eq (factor_lt _)]
      rfl

/-! ## The theorem -/

/-- **The waiting time.** Reports are tried with a waiting time that doubles, from any first one to
any longest one. After an attempt it is the first one times a factor, which doubles up to
`2 ^ 32 - 1`, or the longest one if that is shorter. It is as it is meant exactly after the first
32 attempts, or if the first waiting time is nothing, or if the largest factor brings it to the
longest one. It never exceeds the longest one, it never becomes shorter, and working it out in words
gives it without any overflow. -/
theorem delay_doubles_iff (maxAttempts : Nat) (base max : Duration) (fits : max.fits = true) :
    (∀ attempt, 1 ≤ attempt →
      ((exponential maxAttempts base max).delay attempt).total =
        min max.total (base.total * min (Nat.pow 2 (attempt - 1)) (Nat.pow 2 32 - 1))) ∧
      (∀ attempt, 1 ≤ attempt →
        (((exponential maxAttempts base max).delay attempt).total =
            min max.total (base.total * Nat.pow 2 (attempt - 1)) ↔
          attempt ≤ 32 ∨ base.total = 0 ∨ max.total ≤ base.total * (Nat.pow 2 32 - 1))) ∧
      (∀ attempt, ((exponential maxAttempts base max).delay attempt).total ≤ max.total) ∧
      (∀ attempt later, attempt ≤ later →
        ((exponential maxAttempts base max).delay attempt).total ≤
          ((exponential maxAttempts base max).delay later).total) ∧
      ∀ attempt, attempt < Nat.pow 2 32 →
        (exponential maxAttempts base max).delayInWords? attempt =
          some ((exponential maxAttempts base max).delay attempt) := by
  refine ⟨?_, ?_, ?_, ?_, ?_⟩
  · intro attempt h
    rw [delay_total rfl fits (by omega), factor_eq_min]
    rfl
  · intro attempt h
    exact delay_eq_doubled_iff rfl fits (by omega)
  · intro attempt
    exact delay_le rfl fits attempt
  · intro attempt later h
    exact delay_mono rfl fits h
  · intro attempt h
    exact delayInWords?_eq h

/-- From one nanosecond on, the waiting time after the 32nd attempt is as it is meant. -/
theorem delay_doubles_iff_sample :
    (Duration.ofSeconds 10).fits = true ∧
      ((exponential 40 ⟨1⟩ (.ofSeconds 10)).delay 32).total = 2147483648 := by
  have fits : (Duration.ofSeconds 10).fits = true := by decide
  obtain ⟨-, hiff, -⟩ := delay_doubles_iff 40 ⟨1⟩ (.ofSeconds 10) fits
  refine ⟨fits, ?_⟩
  rw [(hiff 32 (by decide)).2 (.inl (Nat.le_refl 32))]
  rfl

/-- After the 34th attempt the waiting time should be four times as long, and still be shorter than
the longest one; it is a little less than twice as long. -/
theorem delay_stalls :
    ((exponential 40 ⟨1⟩ (.ofSeconds 10)).delay 34).total = 4294967295 ∧
      min (Duration.ofSeconds 10).total (1 * Nat.pow 2 (34 - 1)) = 8589934592 := by
  decide

end RetryPolicy

end RiskReport
