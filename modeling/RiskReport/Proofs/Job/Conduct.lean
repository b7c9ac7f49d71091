import RiskReport.Job.Report
import RiskReport.Proofs.Protocol

/-!
# The conduct of an attempt

An attempt to make a report looks at the report first, and goes on only if it is unfinished. Then it
keeps the results of this report, once, and only after that it tells the visitor, once, with the
token of the report that the store has handed back (`Conduct.order`). What it reads and what it asks
the hedger in between does not matter here.

**Theorem (`follows_makeReport`).** Every attempt conducts itself so, whatever the store, the hedger
and the mailer answer.
-/

namespace RiskReport

open Program

/-- How far an attempt to make a report has got. -/
inductive Conduct where
  | begins
  /-- The report was unfinished when the attempt looked at it. -/
  | unfinished
  /-- The results were kept, and the visitor may be told. -/
  | kept (token : AccessToken)
  | ended

namespace Conduct

/-- What an attempt to make a report may ask for next. -/
def order (id : ReportId) : Protocol services Conduct where
  Allows
    | stage, .store (.getReport id') => stage = .begins ∧ id' = id
    | stage, .store (.persistReport results) => stage = .unfinished ∧ results.report = id
    | stage, .mail (.reportReady message) => stage = .kept message.accessToken
    | _, .mail (.receipt _) => False
    | _, _ => True
  next
    | _, .store (.getReport _), .ok (some r) => if r.status.isTerminal then .ended else .unfinished
    | _, .store (.getReport _), _ => .ended
    | _, .store (.persistReport _), .ok r => .kept r.accessToken
    | _, .store (.persistReport _), .error _ => .ended
    | _, .mail _, _ => .ended
    | stage, _, _ => stage

end Conduct

variable {id : ReportId} {stage : Conduct} {settings : JobSettings}

theorem follows_jobLog (level : Log.Level) (message : String) (fields : Log.Fields) :
    (jobLog level message fields).Follows (Conduct.order id) stage :=
  follows_report _

/-- Asking for hedges gets an attempt no further. -/
theorem keeps_hedgesFor (risks : List ScoredRisk) :
    (hedgesFor settings risks).Keeps (Conduct.order id) (fun after _ => after = stage) stage := by
  unfold hedgesFor
  split
  · exact rfl
  · refine Keeps.after trivial fun answer => ?_
    rcases answer with e | result
    · exact rfl
    · exact rfl

/-- Whoever has kept the results may tell the visitor. -/
theorem follows_announce (session : SessionId) (token : AccessToken) :
    (announce session token).Follows (Conduct.order id) (.kept token) := by
  refine Keeps.after trivial fun answer => ?_
  rcases answer with e | _ | session
  · exact follows_jobLog _ _ _
  · exact follows_jobLog _ _ _
  · dsimp only
    cases session.email.bind Text.trimmed? with
    | none => exact follows_jobLog _ _ _
    | some recipient =>
      refine Keeps.after rfl fun answer => ?_
      rcases answer with e | ⟨⟩
      · exact follows_jobLog _ _ _
      · exact follows_done ()

theorem follows_publish (session : SessionId) {results : ScoredReport} (own : results.report = id) :
    (publish session results).Follows (Conduct.order id) .unfinished := by
  refine Keeps.after ⟨rfl, own⟩ fun answer => ?_
  rcases answer with e | finished
  · exact follows_done _
  · exact (follows_announce session finished.accessToken).bind fun _ _ => follows_done _

theorem follows_assess (session : SessionId) (rows : List AnswerRow) :
    (assess settings id session rows).Follows (Conduct.order id) .unfinished := by
  unfold assess
  split
  · exact follows_done _
  · refine keeps_report.2 (keeps_bind.2 ((keeps_hedgesFor _).imp ?_))
    rintro _ hedges rfl
    exact follows_publish session rfl

/-- An attempt to make a report conducts itself well. -/
theorem follows_makeReport (settings : JobSettings) (id : ReportId) :
    (makeReport settings id).Follows (Conduct.order id) .begins := by
  refine keeps_within.2 (Keeps.after ⟨rfl, rfl⟩ fun answer => ?_)
  rcases answer with e | _ | report
  · exact follows_done _
  · exact follows_done _
  · by_cases finished : report.status.isTerminal = true
    · simp only [finished, if_true]
      exact (follows_jobLog _ _ _).bind fun _ _ => follows_done _
    · have hnext : (Conduct.order id).next .begins (.store (.getReport id)) (.ok (some report)) =
          .unfinished := if_neg finished
      simp only [finished]
      rw [hnext]
      refine Keeps.after trivial fun answer => ?_
      rcases answer with e | _ | ⟨row, rows⟩
      · exact follows_done _
      · exact follows_done _
      · exact follows_assess report.sessionId (row :: rows)

end RiskReport
