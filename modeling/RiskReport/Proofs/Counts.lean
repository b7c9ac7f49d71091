import RiskReport.Proofs.Job.Pool
import RiskReport.Proofs.Scoring.Standing
import RiskReport.Proofs.Store.Reachable
import RiskReport.Proofs.Words

/-!
# Counts that fit their words

Some numbers are counted up one by one: what a runner has done since its work began, how often an
event was claimed, and the places in a ranking. A machine keeps the first ones in words of 64 bits
and the others in words of 32, while here they have no bound. That makes no difference until a
runner has taken 2^64 steps, a store 2^32 requests, or a ranking 2^32 rows.

A step adds one to a count at most (`Pool.Step.total_le`, `Memory.Step.claimed_atMost`), so a count
is at most the number of the steps; `exists_le_of_isChain` is the induction over the steps.

**Theorem (`Pool.stats_inWord`).** All that a runner counts fits words of 64 bits.

**Theorem (`Memory.attempts_inWord`).** How often an event was claimed fits a word of 32 bits.

**Theorem (`TierThresholds.rank_inWord`).** A place in a ranking fits a word of 32 bits.
-/

namespace RiskReport

/-- If something holds of a number at the beginning, and after each step of the next number, then it
holds along a run of a number that has grown by the number of the steps at most. -/
theorem exists_le_of_isChain {α : Type} {r : α → α → Prop} {P : Nat → α → Prop}
    (step : ∀ {n a b}, P n a → r a b → P (n + 1) b) {n : Nat} {a : α} {states : List α}
    (h : (a :: states).IsChain r) (start : P n a) :
    ∀ b ∈ states, ∃ k ≤ states.length, P (n + k) b := by
  induction states generalizing n a with
  | nil => exact fun b hb => (List.not_mem_nil hb).elim
  | cons c states ih =>
    obtain ⟨hac, hrest⟩ := List.isChain_cons_cons.1 h
    have hc : P (n + 1) c := step start hac
    intro b hb
    rcases List.mem_cons.1 hb with rfl | hb
    · exact ⟨1, Nat.le_add_left 1 _, hc⟩
    · obtain ⟨k, hk, hP⟩ := ih hrest hc b hb
      exact ⟨k + 1, Nat.succ_le_succ hk, by rwa [Nat.add_right_comm, Nat.add_assoc] at hP⟩

/-! ## The runner -/

/-- All counts together. -/
def RunnerStats.total (s : RunnerStats) : Nat :=
  s.enqueued + s.completed + s.attemptsFailed + s.failedPermanently

theorem RunnerStats.le_total (s : RunnerStats) : ∀ field ∈ s.fields, field.2 ≤ s.total := by
  intro field h
  simp only [fields, List.mem_cons, List.not_mem_nil, or_false] at h
  unfold total
  rcases h with rfl | rfl | rfl | rfl <;> dsimp only <;> omega

theorem RunnerStats.total_count (s : RunnerStats) (c : Counter) :
    (s.count c).total = s.total + 1 := by
  cases c <;> dsimp only [total, count] <;> omega

/-- One request adds one to the counts at most. -/
theorem JobQueue.Serves.total_le {q q' : JobQueue} {call : RunnerCall} {a : call.Answer}
    (h : q.Serves call a q') : q'.stats.total ≤ q.stats.total + 1 := by
  cases call with
  | receive =>
    cases a with
    | none =>
      obtain rfl : q' = q := h
      exact Nat.le_succ _
    | some r =>
      have hq : q.receive? = some (r, q') := h
      unfold JobQueue.receive? at hq
      split at hq
      · cases hq
      · cases hq
        exact Nat.le_succ _
  | enqueue r =>
    have hq : q.enqueue r = (a, q') := h
    unfold JobQueue.enqueue at hq
    split_ifs at hq <;> cases hq
    · exact Nat.le_succ _
    · exact Nat.le_succ _
    · exact Nat.le_succ _
    · dsimp only [RunnerStats.total]
      omega
  | release r =>
    obtain rfl : q' = q.release r := h
    exact Nat.le_succ _
  | count c =>
    obtain rfl : q' = _ := h
    exact Nat.le_of_eq (q.stats.total_count c)
  | attempt | pause | insist | scan | now =>
    obtain rfl : q' = q := h
    exact Nat.le_succ _

namespace Pool

variable {config : RunnerConfig} {settings : JobSettings} {p p' : Pool config}

theorem total_le_of_step {α : Type} {t t' : Work α} {q q' : JobQueue}
    {x : Option (Exchange runnerInterface)} (h : Program.Step JobQueue.Serves t q x t' q') :
    q'.stats.total ≤ q.stats.total + 1 := by
  cases h with
  | asked served => exact served.total_le
  | logged => exact Nat.le_succ _

/-- One step of the runner adds one to the counts at most. -/
theorem Step.total_le (h : Step settings p p') :
    p'.queue.stats.total ≤ p.queue.stats.total + 1 := by
  cases h with
  | work h => exact total_le_of_step h
  | scan h => exact total_le_of_step h
  | enqueue h => exact h.total_le
  | turn | scans | close => exact Nat.le_succ _

/-- **Counts of the runner.** As long as a runner has taken fewer steps than a word of 64 bits has
values, all that it has counted fits such words. -/
theorem stats_inWord {states : List (Pool config)}
    (h : (initial config settings :: states).IsChain (Step settings))
    (few : states.length < Nat.pow 2 64) (p : Pool config) (hp : p ∈ states) :
    ∀ field ∈ p.queue.stats.fields, inWord? 64 field.2 = some field.2 := by
  have start : (initial config settings).queue.stats.total ≤ 0 := le_rfl
  obtain ⟨k, hk, htotal⟩ := exists_le_of_isChain
    (P := fun n p => p.queue.stats.total ≤ n)
    (fun hn hs => Nat.le_trans hs.total_le (Nat.succ_le_succ hn)) h start p hp
  intro field hfield
  have hle := p.queue.stats.le_total field hfield
  exact inWord?_eq_some (by omega)

end Pool

/-! ## The claims on events -/

namespace Memory

variable {admits : Supply → Memory → Prop} {m m' : Memory} {n : Nat}

/-- No event was claimed more often than so many times. -/
def ClaimedAtMost (n : Nat) (m : Memory) : Prop :=
  ∀ e ∈ m.events.rows, e.attempts ≤ n

theorem ClaimedAtMost.succ (h : m.ClaimedAtMost n) : m.ClaimedAtMost (n + 1) :=
  fun e he => Nat.le_trans (h e he) (Nat.le_succ n)

theorem ClaimedAtMost.insertEvent {id : String} {e : EventEntry} (h : m.ClaimedAtMost n)
    (he : e.attempts ≤ n) : (m.insertEvent id e).ClaimedAtMost n := by
  intro e' he'
  rcases Table.eq_or_mem_rows_of_mem_insert he' with rfl | he'
  · exact he
  · exact h e' he'

/-- A request claims an event once at most. -/
theorem ClaimedAtMost.effect {supply : Supply} {call : StoreCall} (h : m.ClaimedAtMost n)
    (he : Effect m supply call m') : m'.ClaimedAtMost (n + 1) := by
  cases he with
  | none | opened | answered | attached | paymentFailed | refunded | begun | finished | givenUp =>
    exact h.succ
  | claimed => exact h.succ.insertEvent (Nat.le_add_left 1 n)
  | reclaimed found =>
    exact h.succ.insertEvent (Nat.succ_le_succ (h _ (Table.mem_rows_of_get? found)))
  | @completed id error e found =>
    have hle : (e.completed error).attempts = e.attempts := by cases error <;> rfl
    exact h.succ.insertEvent (hle ▸ h.succ _ (Table.mem_rows_of_get? found))

theorem Step.claimed_atMost (hs : Step admits m m') (h : m.ClaimedAtMost n) :
    m'.ClaimedAtMost (n + 1) := by
  cases hs with
  | request call _ => exact h.effect (answer_effect _ _ call)
  | question q => exact h.succ
  | rearranged hr => exact fun e he => h.succ e ((hr.events.map Prod.snd).mem_iff.1 he)

/-- **Counts of claims.** As long as a store has taken fewer steps than a word of 32 bits has
values, the counts of the claims on its events fit such words. -/
theorem attempts_inWord {states : List Memory} (h : (.empty :: states).IsChain (Step admits))
    (few : states.length < Nat.pow 2 32) (m : Memory) (hm : m ∈ states) :
    ∀ e ∈ m.events.rows, inWord? 32 e.attempts = some e.attempts := by
  have start : Memory.empty.ClaimedAtMost 0 := fun e he => (List.not_mem_nil he).elim
  obtain ⟨k, hk, hclaimed⟩ := exists_le_of_isChain (P := ClaimedAtMost)
    (fun hn hs => hs.claimed_atMost hn) h start m hm
  intro e he
  have hle := hclaimed e he
  exact inWord?_eq_some (by omega)

end Memory

/-! ## The places in a ranking -/

namespace TierThresholds

variable {t : TierThresholds} {rows : List AnswerRow} {risks : List ScoredRisk}

theorem Ranked.length_le (h : t.Ranked rows risks) : risks.length ≤ rows.length := by
  have hlength := h.questions.length_eq
  rw [List.length_map, List.length_map] at hlength
  rw [hlength]
  exact List.length_filter_le _ rows

/-- **Places.** The places in a ranking of fewer rows than a word of 32 bits has values fit such
words. -/
theorem rank_inWord (h : t.rank rows = .ok risks) (few : rows.length < Nat.pow 2 32) :
    ∀ s ∈ risks, inWord? 32 s.rank = some s.rank := by
  have hr := ranked_of_rank h
  intro s hs
  exact inWord?_eq_some (Nat.lt_of_le_of_lt (Nat.le_trans (hr.rank_le hs) hr.length_le) few)

end TierThresholds

end RiskReport
