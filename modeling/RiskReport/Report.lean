import RiskReport.Session

/-!
# Reports and their result rows

A report belongs to one session. It is a draft until it is scored; then it is ready, with one
`RiskResult` for each scored question and totals over them, or it is given up with an error
message. A result shows the hedge that was written for this report if there is one, and the
authored hedge otherwise.
-/

namespace RiskReport

open Json Text

/-- The report of one session. -/
structure Report where
  id : ReportId
  sessionId : SessionId
  status : ReportStatus
  overallScore : Option Int
  criticalCount : Option Int
  executiveSummary : Option String
  topPriorityHtml : Option String
  /-- The scored risks as they were when the report became ready. -/
  risksSnapshot : Option Json
  accessToken : AccessToken
  generatedAt : Option Instant
  errorMessage : Option String
  createdAt : Instant
  updatedAt : Instant
  deriving DecidableEq, Repr, Inhabited

/-- One scored question of a report. -/
structure RiskResult where
  id : RiskResultId
  reportId : ReportId
  questionId : String
  /-- The position in the report, from 1. -/
  rank : Int
  riskName : String
  riskDesc : String
  probability : Int
  impact : Int
  score : Int
  tier : RiskTier
  hedge : String
  aiHedge : Option String
  sectionTitle : String
  deriving DecidableEq, Repr, Inhabited

namespace Report

/-- A report that begins now, with nothing scored. -/
def draft (id : ReportId) (token : AccessToken) (session : SessionId) (now : Instant) :
    Report where
  id := id
  sessionId := session
  status := .draft
  overallScore := none
  criticalCount := none
  executiveSummary := none
  topPriorityHtml := none
  risksSnapshot := none
  accessToken := token
  generatedAt := none
  errorMessage := none
  createdAt := now
  updatedAt := now

/-- The report as JSON. -/
def toJson (r : Report) : Json :=
  .record [("id", r.id.toJson), ("session_id", r.sessionId.toJson), ("status", r.status.toJson),
    ("overall_score", .ofOption .ofInt r.overallScore),
    ("critical_count", .ofOption .ofInt r.criticalCount),
    ("executive_summary", .ofText? r.executiveSummary),
    ("top_priority_html", .ofText? r.topPriorityHtml),
    ("risks_snapshot", r.risksSnapshot.getD .null),
    ("access_token", .string r.accessToken.text),
    ("generated_at", .ofOption Instant.toJson r.generatedAt),
    ("error_message", .ofText? r.errorMessage), ("created_at", r.createdAt.toJson),
    ("updated_at", r.updatedAt.toJson)]

/-- A report from JSON. -/
def decoder : Decoder Report :=
  .struct "Report" <|
    Report.mk <$> .required "id" ReportId.decoder
      <*> .required "session_id" SessionId.decoder
      <*> .required "status" ReportStatus.decoder
      <*> .optional "overall_score" (.signed 32)
      <*> .optional "critical_count" (.signed 32)
      <*> .optional "executive_summary" .string
      <*> .optional "top_priority_html" .string
      <*> .optional "risks_snapshot" .json
      <*> .required "access_token" AccessToken.decoder
      <*> .optional "generated_at" Instant.decoder
      <*> .optional "error_message" .string
      <*> .required "created_at" Instant.decoder
      <*> .required "updated_at" Instant.decoder

end Report

namespace RiskResult

/-- The hedge written for this report unless it is empty, and the authored hedge otherwise. -/
def effectiveHedge (r : RiskResult) : String :=
  (r.aiHedge.bind nonEmpty?).getD r.hedge

/-- The row as JSON. -/
def toJson (r : RiskResult) : Json :=
  .record [("id", r.id.toJson), ("report_id", r.reportId.toJson),
    ("question_id", .string r.questionId), ("rank", .ofInt r.rank),
    ("risk_name", .string r.riskName), ("risk_desc", .string r.riskDesc),
    ("probability", .ofInt r.probability), ("impact", .ofInt r.impact),
    ("score", .ofInt r.score), ("tier", r.tier.toJson), ("hedge", .string r.hedge),
    ("ai_hedge", .ofText? r.aiHedge), ("section", .string r.sectionTitle)]

/-- A row from JSON. -/
def decoder : Decoder RiskResult :=
  .struct "RiskResult" <|
    RiskResult.mk <$> .required "id" RiskResultId.decoder
      <*> .required "report_id" ReportId.decoder
      <*> .required "question_id" .string
      <*> .required "rank" (.signed 32)
      <*> .required "risk_name" .string
      <*> .required "risk_desc" .string
      <*> .required "probability" (.signed 16)
      <*> .required "impact" (.signed 16)
      <*> .required "score" (.signed 16)
      <*> .required "tier" RiskTier.decoder
      <*> .required "hedge" .string
      <*> .optional "ai_hedge" .string
      <*> .required "section" .string

end RiskResult

end RiskReport
