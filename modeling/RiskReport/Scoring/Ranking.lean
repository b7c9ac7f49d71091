import RiskReport.Question
import RiskReport.Report
import RiskReport.Scoring.Tier

/-!
# Ranking the risks of a session

The scored answers of a session, the highest score first and equal scores in the order of their
questions (`TierThresholds.rank`), and what a report says of all of them: the mean score, rounded
half up, and the number of critical risks. One refused configuration refuses the whole ranking.
-/

namespace RiskReport

open Json

/-- A scored answer with its position. -/
structure ScoredRisk where
  questionId : String
  /-- The position in the ranking, from 1, however long the ranking is. -/
  rank : Nat
  riskName : String
  riskDesc : String
  hedge : String
  sectionTitle : String
  probability : Nat
  impact : Nat
  score : Nat
  tier : RiskTier
  deriving DecidableEq, Repr, Inhabited

/-- A question whose configuration is refused. -/
structure QuestionError where
  questionId : String
  cause : ConfigError
  deriving DecidableEq, Repr, Inhabited

/-- The wording of a refused question. -/
def QuestionError.message (e : QuestionError) : String :=
  "question " ++ Text.quoted e.questionId ++ ": " ++ e.cause.message

namespace ScoredRisk

/-- Whether one risk comes before another: by a higher score, or by an earlier question. -/
def before (a b : ScoredRisk) : Bool :=
  b.score < a.score || (a.score == b.score && decide (a.questionId ≤ b.questionId))

/-- The risk as JSON. -/
def toJson (r : ScoredRisk) : Json :=
  .record [("question_id", .string r.questionId), ("rank", .ofNat r.rank),
    ("risk_name", .string r.riskName), ("risk_desc", .string r.riskDesc),
    ("hedge", .string r.hedge), ("section", .string r.sectionTitle),
    ("probability", .ofNat r.probability), ("impact", .ofNat r.impact),
    ("score", .ofNat r.score), ("tier", r.tier.toJson)]

/-- A risk from JSON. -/
def decoder : Decoder ScoredRisk :=
  .struct "ScoredRisk" <|
    ScoredRisk.mk <$> .required "question_id" .string
      <*> .required "rank" (.unsigned 32)
      <*> .required "risk_name" .string
      <*> .required "risk_desc" .string
      <*> .required "hedge" .string
      <*> .required "section" .string
      <*> .required "probability" (.unsigned 8)
      <*> .required "impact" (.unsigned 8)
      <*> .required "score" (.unsigned 16)
      <*> .required "tier" RiskTier.decoder

end ScoredRisk

namespace TierThresholds

/-- Score one answer; it has no position yet. -/
def scoreRow (t : TierThresholds) (row : AnswerRow) : Except QuestionError ScoredRisk :=
  match CheckedConfig.parse row.scoringConfig with
  | .error cause => .error ⟨row.questionId, cause⟩
  | .ok config =>
    let s := config.score row.answerText
    .ok {
      questionId := row.questionId
      rank := 0
      riskName := row.riskName
      riskDesc := row.riskDesc
      hedge := row.hedge
      sectionTitle := row.sectionTitle
      probability := s.probability
      impact := s.impact
      score := s.composite
      tier := t.classify s.probability s.impact
    }

/-- Score the answers that count, or report the first that cannot be scored. -/
def scoreRows (t : TierThresholds) (rows : List AnswerRow) :
    Except QuestionError (List ScoredRisk) :=
  (rows.filter (·.isScoring)).mapM t.scoreRow

/-- The risks with their positions, counted from 1. -/
def number (risks : List ScoredRisk) : List ScoredRisk :=
  risks.zipIdx.map fun (r, i) => { r with rank := i + 1 }

/-- The scored answers of a session in the order of a report. -/
def rank (t : TierThresholds) (rows : List AnswerRow) :
    Except QuestionError (List ScoredRisk) := do
  let risks ← t.scoreRows rows
  return number (risks.mergeSort ScoredRisk.before)

end TierThresholds

/-- The sum of the scores. -/
def totalScore (risks : List ScoredRisk) : Nat :=
  risks.foldr (fun r sum => r.score + sum) 0

/-- The mean of the scores, rounded half up; 0 if there is none. -/
def overallScore (risks : List ScoredRisk) : Nat :=
  if risks.isEmpty then 0
  else (2 * totalScore risks + risks.length) / (2 * risks.length)

/-- The number of risks in the highest tier. -/
def criticalCount (risks : List ScoredRisk) : Nat :=
  risks.countP (·.tier == .watch)

/-- The risks of some tiers, in their order. -/
def ofTiers (risks : List ScoredRisk) (tiers : List RiskTier) : List ScoredRisk :=
  risks.filter fun r => tiers.contains r.tier

end RiskReport
