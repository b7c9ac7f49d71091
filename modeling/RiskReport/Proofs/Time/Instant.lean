import Mathlib.Tactic.SplitIfs
import RiskReport.Time.Instant

/-!
# Instants as numbers

An instant is a number of nanoseconds (`Instant.total`). Outside leap seconds the order of instants
is the order of their numbers (`Instant.lt_iff`), and to move an instant is to add to its number, as
far as the calendar reaches (`Instant.shift?_eq_some_iff`).
-/

namespace RiskReport.Instant

/-- The nanoseconds since the start of 1970. -/
def total (t : Instant) : Int :=
  t.second * Duration.perSecond + t.nano

variable {t u : Instant}

theorem lt_iff (ht : t.nano < Duration.perSecond) (hu : u.nano < Duration.perSecond) :
    t.lt u = true ↔ t.total < u.total := by
  simp only [lt, Bool.or_eq_true, Bool.and_eq_true, decide_eq_true_eq, beq_iff_eq, total]
  simp only [Duration.perSecond] at ht hu ⊢
  omega

/-- An instant in the years of the calendar and not inside a leap second. -/
structure Regular (t : Instant) : Prop where
  calendar : inRange t.second = true
  nano : t.nano < Duration.perSecond

/-- An instant can be moved if there is an instant to move it to. -/
theorem shift?_eq_some_iff {nanos : Int} :
    t.shift? nanos = some u ↔ u.Regular ∧ u.total = t.total + nanos := by
  obtain ⟨second, nano⟩ := u
  have sum : (Instant.mk second nano).Regular ∧ (Instant.mk second nano).total = t.total + nanos ↔
      inRange second = true ∧ second = (t.total + nanos) / Duration.perSecond ∧
        nano = ((t.total + nanos) % Duration.perSecond).toNat := by
    constructor
    · rintro ⟨⟨calendar, hnano⟩, htotal⟩
      refine ⟨calendar, ?_⟩
      simp only [total, Duration.perSecond] at hnano htotal ⊢
      omega
    · rintro ⟨calendar, hsecond, hnano⟩
      refine ⟨⟨calendar, ?_⟩, ?_⟩ <;> simp only [total, Duration.perSecond] at hsecond hnano ⊢ <;>
        omega
  rw [sum]
  unfold shift?
  dsimp only
  split_ifs with hrange
  · rw [Option.some.injEq, mk.injEq]
    constructor
    · rintro ⟨rfl, rfl⟩
      exact ⟨hrange, rfl, rfl⟩
    · rintro ⟨-, rfl, rfl⟩
      exact ⟨rfl, rfl⟩
  · constructor
    · rintro ⟨⟩
    · rintro ⟨calendar, rfl, -⟩
      exact absurd calendar hrange

/-- The calendar is shorter than the longest duration by which an instant can be moved. -/
theorem total_sub_total_le (ht : t.Regular) (hu : u.Regular) : t.total - u.total ≤ maxShift := by
  have span : lastSecond - earliest.second + 1 ≤ 20000000000000 := by decide
  have shift : 20000000000000 * Duration.perSecond ≤ maxShift := by decide
  obtain ⟨calendar, hnano⟩ := ht
  obtain ⟨calendar', hnano'⟩ := hu
  simp only [inRange, Bool.and_eq_true, decide_eq_true_eq] at calendar calendar'
  simp only [total, Duration.perSecond] at hnano hnano' shift ⊢
  omega

/-- No instant of the calendar is before the earliest one. -/
theorem earliest_le (h : inRange t.second = true) : earliest.le t = true := by
  simp only [inRange, Bool.and_eq_true, decide_eq_true_eq] at h
  have zero : earliest.nano = 0 := rfl
  simp only [le, Bool.or_eq_true, Bool.and_eq_true, decide_eq_true_eq, beq_iff_eq]
  omega

end RiskReport.Instant
