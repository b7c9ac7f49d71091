import Mathlib.Tactic.ByContra
import RiskReport.Proofs.Payment.Handler
import RiskReport.Store.Memory

/-!
# What was done about a payment event

The handlers of an event claim it and close it, and each time a note is taken. The notes say where
the event stands (`Note.standing`) and where each handler stands (`Note.phase`), and they come about
in a certain order only (`Note.Orderly`).

Closing an event does not say which claim it closes, so the latest completion counts. After a
completion without an error the event is passed over until somebody completes it with an error
(`Note.passedOver_iff`), and the first to do so had claimed it before
(`Note.late_of_first_failure`).
-/

namespace RiskReport

/-- What was done about an event. -/
inductive Deed where
  | claimed (answer : EventRecord)
  | closed (error : Option String)
  deriving DecidableEq, Repr, Inhabited

/-- Something that a handler did about an event. -/
structure Note (ι : Type) where
  handler : ι
  deed : Deed
  deriving DecidableEq, Repr, Inhabited

namespace Note

variable {ι : Type} {notes later earlier : List (Note ι)} {i : ι}

/-! ## Where an event and its handlers stand -/

/-- Where an event stands after what was done about it, the latest first. -/
def standing : List (Note ι) → Option EventStatus
  | [] => none
  | ⟨_, .claimed .recorded⟩ :: _ => some .received
  | ⟨_, .claimed .duplicate⟩ :: rest => standing rest
  | ⟨_, .closed none⟩ :: _ => some .processed
  | ⟨_, .closed (some _)⟩ :: _ => some .failed

/-- The error of the latest completion, if that had one. -/
def lastFailure : List (Note ι) → Option String
  | [] => none
  | ⟨_, .closed error⟩ :: _ => error
  | ⟨_, .claimed _⟩ :: rest => lastFailure rest

/-- Where a handler stands after what was done. -/
def phase [DecidableEq ι] (i : ι) : List (Note ι) → Phase
  | [] => .waiting
  | ⟨j, .claimed answer⟩ :: rest => if j = i then .recorded (.ok answer) else phase i rest
  | ⟨j, .closed _⟩ :: rest => if j = i then .finished else phase i rest

/-- Every claim in some notes was passed over. -/
def PassedOver (notes : List (Note ι)) : Prop :=
  ∀ j answer, ⟨j, .claimed answer⟩ ∈ notes → answer = .duplicate

/-- As long as every claim is passed over, a processed event stands as its latest completion
says. -/
theorem standing_of_passedOver (h : PassedOver later) :
    standing (later ++ ⟨i, .closed none⟩ :: earlier) =
      if lastFailure later = none then some .processed else some .failed := by
  induction later with
  | nil => rfl
  | cons note later ih =>
    have hrest : PassedOver later := fun j a hm => h j a (List.mem_cons_of_mem _ hm)
    obtain ⟨j, answer | error⟩ := note
    · obtain rfl : answer = .duplicate := h j answer List.mem_cons_self
      exact ih hrest
    · cases error <;> rfl

/-- No completion in some notes had an error. -/
def Unfailed (notes : List (Note ι)) : Prop :=
  ∀ j error, ⟨j, .closed (some error)⟩ ∉ notes

theorem Unfailed.tail {note : Note ι} (h : Unfailed (note :: notes)) : Unfailed notes :=
  fun j error hm => h j error (List.mem_cons_of_mem note hm)

theorem Unfailed.of_append (h : Unfailed (later ++ earlier)) : Unfailed earlier :=
  fun j error hm => h j error (List.mem_append_right _ hm)

theorem Unfailed.lastFailure (h : Unfailed notes) : lastFailure notes = none := by
  induction notes with
  | nil => rfl
  | cons note notes ih =>
    obtain ⟨j, answer | _ | error⟩ := note
    · exact ih h.tail
    · rfl
    · exact absurd List.mem_cons_self (h j error)

/-- A completion with an error is the first one, or comes after the first one. -/
theorem exists_first_failure (h : ¬ Unfailed notes) :
    ∃ x y j error, notes = y ++ ⟨j, .closed (some error)⟩ :: x ∧ Unfailed x := by
  induction notes with
  | nil => exact absurd (fun _ _ => List.not_mem_nil) h
  | cons note notes ih =>
    by_cases hn : Unfailed notes
    · simp only [Unfailed, not_forall, not_not] at h
      obtain ⟨j, error, hm⟩ := h
      rcases List.mem_cons.1 hm with rfl | hm
      · exact ⟨notes, [], j, error, rfl, hn⟩
      · exact absurd hm (hn j error)
    · obtain ⟨x, y, j, error, rfl, hx⟩ := ih hn
      exact ⟨x, note :: y, j, error, rfl, hx⟩

variable [DecidableEq ι]

/-- An event that somebody works on was recorded. -/
theorem standing_ne_none (h : phase i notes = .working) : standing notes ≠ none := by
  induction notes with
  | nil => cases h
  | cons note notes ih =>
    obtain ⟨j, (_ | _) | (_ | _)⟩ := note
    case claimed.duplicate =>
      by_cases hj : j = i
      · simp [phase, hj, Phase.recorded] at h
      · exact ih (by simpa [phase, hj] using h)
    all_goals simp [standing]

/-- What one handler does leaves the others where they stand. -/
theorem phase_of_ne {j : ι} {deed : Option Deed} (h : j ≠ i) :
    phase j ((deed.map (Note.mk i)).toList ++ notes) = phase j notes := by
  obtain _ | _ | _ := deed
  · rfl
  · simp [phase, Ne.symm h]
  · simp [phase, Ne.symm h]

/-- A handler that is at work after claims were passed over and others were finished was so
before. -/
theorem phase_eq_working_of_append (hp : PassedOver later)
    (h : phase i (later ++ earlier) = .working) : phase i earlier = .working := by
  induction later with
  | nil => exact h
  | cons note later ih =>
    refine ih (fun j a hm => hp j a (List.mem_cons_of_mem _ hm)) ?_
    obtain ⟨j, answer | error⟩ := note
    · obtain rfl : answer = .duplicate := hp j answer List.mem_cons_self
      by_cases hj : j = i
      · simp [phase, hj, Phase.recorded] at h
      · simpa [phase, hj] using h
    · by_cases hj : j = i
      · simp [phase, hj] at h
      · simpa [phase, hj] using h

/-! ## The order of notes -/

/-- The notes that can come about: each handler claims once, and closes once if it got the event; a
processed event is not given to anybody, and a failed one is. -/
inductive Orderly : List (Note ι) → Prop
  | nil : Orderly []
  | claimed {i : ι} {answer : EventRecord} {notes : List (Note ι)} (h : Orderly notes)
      (phase : phase i notes = .waiting)
      (processed : standing notes = some .processed → answer = .duplicate)
      (failed : standing notes = some .failed → answer = .recorded) :
      Orderly (⟨i, .claimed answer⟩ :: notes)
  | closed {i : ι} {error : Option String} {notes : List (Note ι)} (h : Orderly notes)
      (phase : phase i notes = .working) : Orderly (⟨i, .closed error⟩ :: notes)

theorem Orderly.tail {note : Note ι} (h : Orderly (note :: notes)) : Orderly notes := by
  cases h with
  | claimed h | closed h => exact h

theorem Orderly.of_append (h : Orderly (later ++ earlier)) : Orderly earlier := by
  induction later with
  | nil => exact h
  | cons note later ih => exact ih h.tail

/-! ## After an event was processed -/

/-- After an event was processed, its claims are passed over exactly until a completion with an
error is the latest one. -/
theorem passedOver_iff (h : Orderly (later ++ ⟨i, .closed none⟩ :: earlier)) :
    PassedOver later ↔
      ∀ x y j answer, later = y ++ ⟨j, .claimed answer⟩ :: x → lastFailure x = none := by
  constructor
  · rintro hp x y j answer rfl
    have hx : PassedOver x := fun k a hm => hp k a (by simp [hm])
    have hduplicate : answer = .duplicate := hp j answer (by simp)
    rw [List.append_assoc, List.cons_append] at h
    -- A failed event would have been given to whoever claimed it.
    cases h.of_append with
    | claimed _ _ _ failed =>
      by_contra hne
      rw [standing_of_passedOver hx, if_neg hne] at failed
      simp [hduplicate] at failed
  · intro hl
    induction later with
    | nil =>
      intro j answer hm
      cases hm
    | cons note later ih =>
      have hrest : PassedOver later := by
        refine ih h.tail fun x y j answer heq => ?_
        exact hl x (note :: y) j answer (by rw [heq, List.cons_append])
      intro j answer hm
      rcases List.mem_cons.1 hm with rfl | hm
      · rw [List.cons_append] at h
        cases h with
        | claimed _ _ processed =>
          apply processed
          rw [standing_of_passedOver hrest, hl later [] j answer rfl, if_pos rfl]
      · exact hrest j answer hm

/-- The first completion with an error after an event was processed is by another handler, which
was at work on the event when it was processed. -/
theorem late_of_first_failure {x y : List (Note ι)} {j : ι} {error : String}
    (h : Orderly (later ++ ⟨i, .closed none⟩ :: earlier))
    (heq : later = y ++ ⟨j, .closed (some error)⟩ :: x) (hx : Unfailed x) :
    j ≠ i ∧ phase j earlier = .working := by
  subst heq
  rw [List.append_assoc, List.cons_append] at h
  cases h.of_append with
  | closed h hj =>
    have hp : PassedOver x := by
      refine (passedOver_iff h).2 fun u v k answer heq => ?_
      exact (heq ▸ hx).of_append.tail.lastFailure
    have hphase := phase_eq_working_of_append hp hj
    by_cases hij : i = j
    · simp [phase, hij] at hphase
    · exact ⟨Ne.symm hij, by simpa [phase, hij] using hphase⟩

/-- If nobody else was at work on an event when it was processed, its claims are passed over. -/
theorem passedOver_of_alone (h : Orderly (later ++ ⟨i, .closed none⟩ :: earlier))
    (alone : ∀ j, j ≠ i → phase j earlier ≠ .working) : PassedOver later := by
  have hu : Unfailed later := by
    by_contra hn
    obtain ⟨x, y, j, error, heq, hx⟩ := exists_first_failure hn
    obtain ⟨hj, hwork⟩ := late_of_first_failure h heq hx
    exact alone j hj hwork
  refine (passedOver_iff h).2 fun x y j answer heq => ?_
  exact (heq ▸ hu).of_append.tail.lastFailure

end Note

end RiskReport
