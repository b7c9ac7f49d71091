import RiskReport.Proofs.Database.Dialogue

/-!
# The ways a transaction can go

A transaction is opened and isolated, its work is done, and it is ended. `Way` lists the seven ways
in which one attempt at this can go, each with its transcript: the database may fail at any of the
ends, the work may be refused, and what was done is kept or discarded. `ran_transaction` says that
there are no others.

`ran_replay` says how attempts follow each other: each but the last got into the way of another
transaction, and the last one did so only if no attempt was left.
-/

namespace RiskReport.Database

open Program

variable {α : Type} {xs : Transcript} {operation : String} {work : Dialogue (Ending α)}
  {r : Except StoreError α}

/-! ## One attempt -/

/-- What a transaction says before its end. -/
def opening (opened isolated : Reply) (worked : Transcript) : Transcript :=
  said .begin (.ok opened) :: said .isolate (.ok isolated) :: worked

/-- How an attempt at a transaction went: what was said, and what came of it. -/
inductive Way (operation : String) (work : Dialogue (Ending α)) :
    Transcript → Except StoreError α → Prop
  | unopened (f : Failure) :
      Way operation work [said .begin (.error f)] (.error (f.storeError operation))
  | unisolated (opened : Reply) (f : Failure) (cleared : Except Failure Reply) :
      Way operation work
        [said .begin (.ok opened), said .isolate (.error f), said .rollback cleared]
        (.error (f.storeError operation))
  /-- The work was refused. -/
  | refused (opened isolated : Reply) {xs : Transcript} {e : StoreError}
      (worked : work.run.Ran xs (.error e)) (cleared : Except Failure Reply) :
      Way operation work (opening opened isolated xs ++ [said .rollback cleared]) (.error e)
  | kept (opened isolated : Reply) {xs : Transcript} {a : α}
      (worked : work.run.Ran xs (.ok (.keep a))) (committed : Reply) :
      Way operation work (opening opened isolated xs ++ [said .commit (.ok committed)]) (.ok a)
  | unkept (opened isolated : Reply) {xs : Transcript} {a : α}
      (worked : work.run.Ran xs (.ok (.keep a))) (f : Failure) (cleared : Except Failure Reply) :
      Way operation work
        (opening opened isolated xs ++ [said .commit (.error f), said .rollback cleared])
        (.error (f.storeError "commit_transaction"))
  | discarded (opened isolated : Reply) {xs : Transcript} {outcome : Except StoreError α}
      (worked : work.run.Ran xs (.ok (.discard outcome))) (rolledBack : Reply) :
      Way operation work
        (opening opened isolated xs ++ [said .rollback (.ok rolledBack)])
        outcome
  | undiscarded (opened isolated : Reply) {xs : Transcript} {outcome : Except StoreError α}
      (worked : work.run.Ran xs (.ok (.discard outcome))) (f : Failure)
      (cleared : Except Failure Reply) :
      Way operation work
        (opening opened isolated xs ++ [said .rollback (.error f), said .rollback cleared])
        (.error (f.storeError "rollback"))

/-- What comes after a statement depends on the reply to it. -/
theorem ran_send_bind {s : Statement} {f : Except Failure Reply → Asking α} {a : α} :
    ((send s).bind f).Ran xs a ↔ ∃ reply zs, xs = said s reply :: zs ∧ (f reply).Ran zs a := by
  rw [ran_bind]
  constructor
  · rintro ⟨reply, ys, zs, rfl, hs, hf⟩
    obtain rfl := ran_request.1 hs
    exact ⟨reply, zs, rfl, hf⟩
  · rintro ⟨reply, zs, rfl, hf⟩
    exact ⟨reply, [said s reply], zs, rfl, ran_request.2 rfl, hf⟩

theorem ran_abandon {e : StoreError} (h : (abandon e : Asking (Except StoreError α)).Ran xs r) :
    ∃ cleared, xs = [said .rollback cleared] ∧ r = .error e := by
  obtain ⟨cleared, zs, rfl, hr⟩ := ran_send_bind.1 h
  obtain ⟨rfl, rfl⟩ := ran_done.1 hr
  exact ⟨cleared, rfl, rfl⟩

/-- An attempt at a transaction goes one of the ways. -/
theorem ran_transaction (h : (transaction operation work).Ran xs r) : Way operation work xs r := by
  obtain ⟨opened, xs, rfl, hopened⟩ := ran_send_bind.1 h
  cases opened with
  | error f =>
    obtain ⟨rfl, rfl⟩ := ran_done.1 hopened
    exact .unopened f
  | ok opened =>
    obtain ⟨isolated, xs, rfl, hisolated⟩ := ran_send_bind.1 hopened
    cases isolated with
    | error f =>
      obtain ⟨cleared, rfl, rfl⟩ := ran_abandon hisolated
      exact .unisolated opened f cleared
    | ok isolated =>
      obtain ⟨result, xs, zs, rfl, worked, hended⟩ := ran_bind.1 hisolated
      rcases result with e | (a | outcome)
      · obtain ⟨cleared, rfl, rfl⟩ := ran_abandon hended
        exact .refused opened isolated worked cleared
      · obtain ⟨committed, zs, rfl, hcommitted⟩ := ran_send_bind.1 hended
        cases committed with
        | error f =>
          obtain ⟨cleared, rfl, rfl⟩ := ran_abandon hcommitted
          exact .unkept opened isolated worked f cleared
        | ok committed =>
          obtain ⟨rfl, rfl⟩ := ran_done.1 hcommitted
          exact .kept opened isolated worked committed
      · obtain ⟨rolledBack, zs, rfl, hrolled⟩ := ran_send_bind.1 hended
        cases rolledBack with
        | error f =>
          obtain ⟨cleared, rfl, rfl⟩ := ran_abandon hrolled
          exact .undiscarded opened isolated worked f cleared
        | ok rolledBack =>
          obtain ⟨rfl, rfl⟩ := ran_done.1 hrolled
          exact .discarded opened isolated worked rolledBack

/-! ## One attempt after another -/

/-- An attempt at a transaction: what was said, and what came of it. -/
structure Attempt (α : Type) where
  transcript : Transcript
  result : Except StoreError α

/-- The attempt got into the way of another transaction. -/
def Attempt.Collided (a : Attempt α) : Prop :=
  ∃ detail, a.result = .error (.serialization detail)

/-- Attempts are repeated for as long as they collide and some are left. -/
theorem ran_replay {once : Asking (Except StoreError α)} {left attempt : Nat}
    (h : (replay operation once left attempt).Ran xs r) :
    ∃ (earlier : List (Attempt α)) (last : Attempt α),
      xs = (earlier ++ [last]).flatMap (·.transcript) ∧ r = last.result ∧
        earlier.length ≤ left ∧ (∀ a ∈ earlier, a.Collided) ∧
        (last.Collided → earlier.length = left) ∧
        ∀ a ∈ earlier ++ [last], once.Ran a.transcript a.result := by
  induction left generalizing attempt xs with
  | zero =>
    have hran : once.Ran xs r := h
    refine ⟨[], ⟨xs, r⟩, ?_⟩
    simpa using hran
  | succ left ih =>
    obtain ⟨result, ys, zs, rfl, hran, hnext⟩ := ran_bind.1 h
    by_cases collided : ∃ detail, result = .error (.serialization detail)
    · obtain ⟨detail, rfl⟩ := collided
      obtain ⟨earlier, last, rfl, rfl, hlength, hearlier, hlast, hall⟩ := ih (ran_log.1 hnext)
      refine ⟨⟨ys, .error (.serialization detail)⟩ :: earlier, last, rfl, rfl, ?_, ?_, ?_, ?_⟩
      · simpa using hlength
      · intro a ha
        rcases List.mem_cons.1 ha with rfl | ha
        · exact ⟨detail, rfl⟩
        · exact hearlier a ha
      · intro hc
        simpa using hlast hc
      · intro a ha
        rcases List.mem_cons.1 ha with rfl | ha
        · exact hran
        · exact hall a ha
    · have hdone : (done result : Asking (Except StoreError α)).Ran zs r := by
        rcases result with (e | e | e | e | e) | a
        all_goals first | exact hnext | exact absurd ⟨_, rfl⟩ collided
      obtain ⟨rfl, rfl⟩ := ran_done.1 hdone
      refine ⟨[], ⟨ys, r⟩, ?_, rfl, Nat.zero_le _, ?_, fun hc => absurd hc collided, ?_⟩
      · simp
      · simp
      · simpa using hran

end RiskReport.Database
