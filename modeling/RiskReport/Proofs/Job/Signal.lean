import Mathlib.Data.List.TakeWhile
import RiskReport.Job.Shutdown

/-!
# The stop signal as it is observed

A stop signal has one trigger and any number of observers, who are cloned from one another. All of
them look at the same state, but there are two ways to look: at the signal alone (`isTriggered`), or
by waiting, which also ends when the trigger is gone (`resolves`). What was done with a signal
settles the state (`run_fired`, `run_dropped`), and no act takes a request back (`act_requested`).

**Theorem (`observers_agree_iff`).** Once the work was to stop, waiting ends at once for every
observer, now and ever after. Both ways to look give the same answer unless the trigger went without
having been fired; then waiting ends, but the signal does not show (`observers_disagree`).
-/

namespace RiskReport

/-- What is done with a stop signal. -/
inductive SignalAct where
  /-- An observer is cloned. -/
  | clone (observer : Nat)
  /-- The signal is given. -/
  | trigger
  /-- The trigger is let go. -/
  | drop
  deriving DecidableEq

/-- A stop signal with its observers, of whom there is one at first. They have nothing of their own:
all of them look at the same state. -/
structure Signal where
  shutdown : Shutdown := {}
  /-- The number of observers. -/
  observers : Nat := 1

namespace Signal

variable {s : Signal} {a : SignalAct} {acts : List SignalAct}

/-- The signal after an act. Only an observer who is there can be cloned, and when the trigger is
gone, nobody can give the signal. -/
def act (s : Signal) : SignalAct → Signal
  | .clone i => if i < s.observers then { s with observers := s.observers + 1 } else s
  | .trigger => if s.shutdown.dropped then s else { s with shutdown := s.shutdown.trigger }
  | .drop => { s with shutdown := s.shutdown.drop }

/-- The signal after some acts. -/
def run (s : Signal) (acts : List SignalAct) : Signal :=
  acts.foldl act s

/-- Whether the signal was given, as an observer sees it. -/
def isTriggered (s : Signal) (_ : Fin s.observers) : Bool := s.shutdown.isTriggered

/-- Whether an observer who waits for the signal has done so at once. -/
def resolves (s : Signal) (_ : Fin s.observers) : Bool := s.shutdown.isRequested

/-- The trigger was fired before it was let go. -/
def Fired (acts : List SignalAct) : Prop :=
  .trigger ∈ acts.takeWhile (· ≠ .drop)

/-! ## One act -/

theorem act_dropped :
    (s.act a).shutdown.dropped = true ↔ s.shutdown.dropped = true ∨ a = .drop := by
  cases a with
  | clone i =>
    rw [act]
    split_ifs <;> simp
  | trigger =>
    rw [act]
    split_ifs <;> simp [Shutdown.trigger]
  | drop => simp [act, Shutdown.drop]

theorem act_fired :
    (s.act a).shutdown.fired = true ↔
      s.shutdown.fired = true ∨ s.shutdown.dropped = false ∧ a = .trigger := by
  cases a with
  | clone i =>
    rw [act]
    split_ifs <;> simp
  | trigger =>
    rw [act]
    split_ifs with h <;> simp [Shutdown.trigger, h]
  | drop => simp [act, Shutdown.drop]

theorem isRequested_iff :
    s.shutdown.isRequested = true ↔ s.shutdown.fired = true ∨ s.shutdown.dropped = true := by
  rw [Shutdown.isRequested, Bool.or_eq_true]

/-- No act takes a request back. -/
theorem act_requested (h : s.shutdown.isRequested = true) :
    (s.act a).shutdown.isRequested = true := by
  rw [isRequested_iff, act_fired, act_dropped]
  rcases isRequested_iff.1 h with fired | dropped
  · exact .inl (.inl fired)
  · exact .inr (.inl dropped)

/-- No observer goes away. -/
theorem observers_le_act (s : Signal) (a : SignalAct) : s.observers ≤ (s.act a).observers := by
  cases a <;> rw [act] <;> split_ifs <;> simp

/-! ## Many acts -/

theorem run_cons : s.run (a :: acts) = (s.act a).run acts := rfl

theorem run_append (s : Signal) (acts later : List SignalAct) :
    s.run (acts ++ later) = (s.run acts).run later :=
  List.foldl_append

theorem run_requested (h : s.shutdown.isRequested = true) (acts : List SignalAct) :
    (s.run acts).shutdown.isRequested = true := by
  induction acts generalizing s with
  | nil => exact h
  | cons a acts ih => exact ih (act_requested h)

theorem fired_cons : Fired (a :: acts) ↔ a ≠ .drop ∧ (a = .trigger ∨ Fired acts) := by
  unfold Fired
  cases a <;> simp

/-- As long as the trigger is there, it can be fired. -/
theorem fired_iff_mem (h : .drop ∉ acts) : Fired acts ↔ .trigger ∈ acts := by
  unfold Fired
  rw [List.takeWhile_eq_self_iff.2]
  intro a ha
  refine decide_eq_true ?_
  rintro rfl
  exact h ha

theorem observers_le_run (s : Signal) (acts : List SignalAct) :
    s.observers ≤ (s.run acts).observers := by
  induction acts generalizing s with
  | nil => exact Nat.le_refl _
  | cons a acts ih => exact (observers_le_act s a).trans (ih (s.act a))

theorem run_dropped :
    (s.run acts).shutdown.dropped = true ↔ s.shutdown.dropped = true ∨ .drop ∈ acts := by
  induction acts generalizing s with
  | nil => simp [run]
  | cons a acts ih =>
    rw [run_cons, ih, act_dropped, List.mem_cons, or_assoc, eq_comm (a := a)]

theorem run_fired :
    (s.run acts).shutdown.fired = true ↔
      s.shutdown.fired = true ∨ s.shutdown.dropped = false ∧ Fired acts := by
  induction acts generalizing s with
  | nil => simp [run, Fired]
  | cons a acts ih =>
    have dropped :
        (s.act a).shutdown.dropped = false ↔ s.shutdown.dropped = false ∧ a ≠ .drop := by
      rw [← Bool.not_eq_true, act_dropped, not_or, Bool.not_eq_true]
    rw [run_cons, ih, act_fired, dropped, fired_cons]
    cases s.shutdown.dropped <;> cases a <;> simp

/-- Waiting ends at once exactly if the trigger was fired or let go. -/
theorem run_isRequested :
    (run {} acts).shutdown.isRequested = true ↔ .trigger ∈ acts ∨ .drop ∈ acts := by
  rw [isRequested_iff, run_fired, run_dropped]
  by_cases h : .drop ∈ acts
  · simp [h]
  · simp [h, fired_iff_mem h]

/-! ## The theorem -/

/-- **Observers of a stop signal.** Whatever was done with a signal, waiting for it ends at once for
an observer exactly if the trigger was fired or let go, and the observer sees the signal given
exactly if the trigger was fired before it was let go. Whatever is done afterwards, nobody who
observes goes away, and if waiting ended at once for one, it ends at once for everybody who observes
then. So what an observer sees and whether waiting ends agree exactly if the trigger was not let go
without having been fired. -/
theorem observers_agree_iff (acts : List SignalAct) (i : Fin (run {} acts).observers) :
    ((run {} acts).resolves i = true ↔ .trigger ∈ acts ∨ .drop ∈ acts) ∧
      ((run {} acts).isTriggered i = true ↔ Fired acts) ∧
      (∀ later, (run {} acts).observers ≤ (run {} (acts ++ later)).observers ∧
        ((run {} acts).resolves i = true → ∀ j, (run {} (acts ++ later)).resolves j = true)) ∧
      ((run {} acts).isTriggered i = (run {} acts).resolves i ↔ (.drop ∈ acts → Fired acts)) := by
  have resolves : (run {} acts).resolves i = true ↔ .trigger ∈ acts ∨ .drop ∈ acts :=
    run_isRequested
  have triggered : (run {} acts).isTriggered i = true ↔ Fired acts := by
    show (run {} acts).shutdown.fired = true ↔ _
    simp [run_fired]
  refine ⟨resolves, triggered, fun later => ?_, ?_⟩
  · rw [run_append]
    exact ⟨observers_le_run _ later, fun h _ => run_requested h later⟩
  · rw [Bool.eq_iff_iff, resolves, triggered]
    constructor
    · intro agree dropped
      exact agree.2 (.inr dropped)
    · intro fired
      refine ⟨fun h => .inl (List.takeWhile_subset _ h), ?_⟩
      rintro (trigger | dropped)
      · by_cases dropped : .drop ∈ acts
        · exact fired dropped
        · exact (fired_iff_mem dropped).2 trigger
      · exact fired dropped

/-- The trigger is let go without having been fired: waiting ends at once, but no observer sees that
the signal was given. -/
theorem observers_disagree :
    ∃ i, (run {} [.drop]).isTriggered i = false ∧ (run {} [.drop]).resolves i = true :=
  ⟨⟨0, Nat.zero_lt_one⟩, rfl, rfl⟩

end Signal

end RiskReport
