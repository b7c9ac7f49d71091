import RiskReport.Service

/-!
# Reading a report by its token

Whoever holds the access token of a report may read it once it is ready. Until then, and if it was
given up, only its status is shown. The rows of the view are read from the result rows, so they
show the hedges written for the report.
-/

namespace RiskReport

open Json Log

/-- One risk as a reader sees it. -/
structure RiskView where
  rank : Int
  questionId : String
  riskName : String
  riskDesc : String
  probability : Int
  impact : Int
  score : Int
  tier : RiskTier
  sectionTitle : String
  hedge : String
  deriving DecidableEq, Repr, Inhabited

/-- A finished report as a reader sees it. -/
structure ReportView where
  reportId : ReportId
  status : ReportStatus
  businessName : Option String
  overallScore : Int
  criticalCount : Int
  executiveSummary : Option String
  topPriorityHtml : Option String
  risks : List RiskView
  generatedAt : Option Instant
  deriving DecidableEq, Repr, Inhabited

/-- What the holder of a token gets to see. -/
inductive ReportAccess where
  | notFound
  | pending (status : ReportStatus)
  | ready (view : ReportView)
  deriving DecidableEq, Repr, Inhabited

/-- The row as a reader sees it. -/
def RiskResult.view (r : RiskResult) : RiskView where
  rank := r.rank
  questionId := r.questionId
  riskName := r.riskName
  riskDesc := r.riskDesc
  probability := r.probability
  impact := r.impact
  score := r.score
  tier := r.tier
  sectionTitle := r.sectionTitle
  hedge := r.effectiveHedge

/-- The view as JSON. -/
def RiskView.toJson (v : RiskView) : Json :=
  .record [("rank", .ofInt v.rank), ("question_id", .string v.questionId),
    ("risk_name", .string v.riskName), ("risk_desc", .string v.riskDesc),
    ("probability", .ofInt v.probability), ("impact", .ofInt v.impact),
    ("score", .ofInt v.score), ("tier", v.tier.toJson), ("section", .string v.sectionTitle),
    ("hedge", .string v.hedge)]

/-- The view as JSON; absent texts and times are left out. -/
def ReportView.toJson (v : ReportView) : Json :=
  let present (key : String) (value : Option Json) : List (String × Json) :=
    value.toList.map (key, ·)
  .record <|
    [("report_id", v.reportId.toJson), ("status", v.status.toJson),
      ("overall_score", .ofInt v.overallScore), ("critical_count", .ofInt v.criticalCount),
      ("risks", .array (v.risks.map RiskView.toJson))] ++
    present "business_name" (v.businessName.map .string) ++
    present "executive_summary" (v.executiveSummary.map .string) ++
    present "top_priority_html" (v.topPriorityHtml.map .string) ++
    present "generated_at" (v.generatedAt.map Instant.toJson)

/-- A ready report with its rows, as the session's visitor sees it. -/
def Report.view (r : Report) (rows : List RiskResult) (session : Option Session) : ReportView where
  reportId := r.id
  status := r.status
  businessName := session.bind Session.businessName?
  overallScore := r.overallScore.getD 0
  criticalCount := r.criticalCount.getD 0
  executiveSummary := r.executiveSummary
  topPriorityHtml := r.topPriorityHtml
  risks := rows.map RiskResult.view
  generatedAt := r.generatedAt

/-- Look up the report that a trimmed token gives access to. -/
def lookupReport (token : String) : Service (Except StoreError ReportAccess) := do
  if token.isEmpty then return .ok .notFound
  match ← Service.store (.reportByToken token) with
  | .error e => return .error e
  | .ok none => return .ok .notFound
  | .ok (some report) =>
    if report.status ≠ .ready then return .ok (.pending report.status)
    match ← Service.store (.riskResults report.id) with
    | .error e => return .error e
    | .ok rows =>
      match ← Service.store (.getSession report.sessionId) with
      | .error e => return .error e
      | .ok session => return .ok (.ready (report.view rows session))

/-- Look up the report that a token gives access to. -/
def fetchReport (token : String) : Service (Except StoreError ReportAccess) :=
  .traced ⟨.access, "fetch_report", []⟩ StoreError.message (lookupReport (Text.trim token))

end RiskReport
