import RiskReport.Service

/-!
# Making a report

`makeReport` scores the answers of a session, asks for hedges for the risks that would hit hard,
keeps the results, and sends word to the visitor. Hedges and mail may fail without failing the
work: the report is then made with the authored hedges, or nobody is told. A report that is ready
or given up is left as it is.
-/

namespace RiskReport

open Log

/-- Why a report was not made. -/
inductive JobError where
  | reportNotFound (report : ReportId)
  | noAnswers (session : SessionId)
  | scoring (error : QuestionError)
  | store (error : StoreError)
  deriving DecidableEq, Repr, Inhabited

/-- The wording of such a failure. -/
def JobError.message : JobError → String
  | .reportNotFound report => "report " ++ report.write ++ " not found"
  | .noAnswers session => "no answers found for session " ++ session.write
  | .scoring error => "scoring failed: " ++ error.message
  | .store error => "store error: " ++ error.message

/-- The tiers whose risks hedges are asked for. -/
def hedgedTiers : List RiskTier := [.watch, .red]

/-- What reports are made with. -/
structure JobSettings where
  thresholds : TierThresholds
  /-- The name of the hedger, for the log. -/
  hedgerName : String
  deriving DecidableEq, Repr, Inhabited

namespace JobSettings

/-- The settings in one line. -/
def describe (j : JobSettings) : String :=
  let thresholds := Text.record "TierThresholds"
    [("high_impact", toString j.thresholds.highImpact),
      ("high_probability", toString j.thresholds.highProbability)]
  let scorer := Text.record "Scorer" [("thresholds", thresholds)]
  Text.record "ReportJob" [("scorer", scorer), ("hedger", Text.quoted j.hedgerName)] true

end JobSettings

/-- An event of the part that makes reports. -/
def jobLog (level : Level) (message : String) (fields : Fields := []) : Service Unit :=
  .report { level, target := .job, message := some message, fields }

/-- Hedges for some risks, or none if there is nothing to ask for or nobody answers. -/
def hedgesFor (settings : JobSettings) (risks : List ScoredRisk) : Service HedgeResult := do
  if risks.isEmpty then return .nothing
  match ← Service.hedge risks with
  | .ok result => return result
  | .error e =>
    jobLog .warn "hedge generation failed, using static hedges"
      [("error", .shown e.message), ("hedger", .text settings.hedgerName)]
    return .nothing

/-- Tell the visitor of a session that the report is ready, if there is an address. -/
def announce (id : SessionId) (token : AccessToken) : Service Unit := do
  match ← Service.store (.getSession id) with
  | .ok none =>
    jobLog .warn "session missing, skipping delivery email" [("session_id", .shown id.write)]
  | .error e =>
    jobLog .warn "could not load session for delivery email"
      [("session_id", .shown id.write), ("error", .shown e.message)]
  | .ok (some session) =>
    match session.email.bind Text.trimmed? with
    | none =>
      jobLog .warn "session has no email address, skipping delivery email"
        [("session_id", .shown id.write)]
    | some recipient =>
      let message : ReportReady :=
        { recipient, businessName := session.businessName?, accessToken := token }
      match ← Service.mail (.reportReady message) with
      | .ok () => return ()
      | .error e =>
        jobLog .warn "failed to send report email"
          [("session_id", .shown id.write), ("error", .shown e.message)]

/-- Keep the results of a report and tell the visitor. -/
def publish (session : SessionId) (results : ScoredReport) : Service (Except JobError Unit) := do
  match ← Service.store (.persistReport results) with
  | .error e => return .error (.store e)
  | .ok finished =>
    jobLog .info "report persisted"
      [("overall_score", .shown (Text.option toString finished.overallScore)),
        ("critical_count", .shown (Text.option toString finished.criticalCount))]
    announce session finished.accessToken
    return .ok ()

/-- Score the answers of a session and make its report from them. -/
def assess (settings : JobSettings) (report : ReportId) (session : SessionId)
    (rows : List AnswerRow) : Service (Except JobError Unit) := do
  match settings.thresholds.rank rows with
  | .error e => return .error (.scoring e)
  | .ok risks =>
    jobLog .debug "scored risks"
      [("total", .ofNat risks.length), ("critical", .ofNat (criticalCount risks)),
        ("overall_score", .ofNat (overallScore risks))]
    let hedges ← hedgesFor settings (ofTiers risks hedgedTiers)
    publish session
      { report, risks, hedges := hedges.hedges, executiveSummary := hedges.executiveSummary,
        topPriorityHtml := hedges.topPriorityHtml }

/-- Make a report, unless it is finished. -/
def makeReport (settings : JobSettings) (id : ReportId) : Service (Except JobError Unit) :=
  .within [⟨.job, "run", [("report_id", .shown id.write)]⟩] do
    match ← Service.store (.getReport id) with
    | .error e => return .error (.store e)
    | .ok none => return .error (.reportNotFound id)
    | .ok (some report) =>
      if report.status.isTerminal then
        jobLog .debug "report already finished, skipping" [("status", .text report.status.text)]
        return .ok ()
      match ← Service.store (.answers report.sessionId) with
      | .error e => return .error (.store e)
      | .ok [] => return .error (.noAnswers report.sessionId)
      | .ok rows =>
        jobLog .debug "loaded answers" [("count", .ofNat rows.length)]
        assess settings id report.sessionId rows

end RiskReport
