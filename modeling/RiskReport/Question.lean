import RiskReport.Id
import RiskReport.Json.Decode

/-!
# Questions and answers

A question of the questionnaire carries the texts of the risk that it asks about and a scoring
configuration, which is kept as JSON until an answer is scored. An `AnswerRow` is an answer joined
with its question, the input to scoring.
-/

namespace RiskReport

open Json

/-- One authored question. -/
structure Question where
  id : String
  sectionTitle : String
  riskName : String
  riskDesc : String
  hedge : String
  scoringConfig : Json
  /-- Whether answers are scored; a question for context alone is not. -/
  isScoring : Bool
  sortOrder : Int
  deriving DecidableEq, Repr, Inhabited

/-- An answer joined with its question. -/
structure AnswerRow where
  questionId : String
  answerText : String
  sectionTitle : String
  riskName : String
  riskDesc : String
  hedge : String
  scoringConfig : Json
  isScoring : Bool
  deriving DecidableEq, Repr, Inhabited

namespace Question

/-- The question with an answer to it. -/
def answered (q : Question) (text : String) : AnswerRow where
  questionId := q.id
  answerText := text
  sectionTitle := q.sectionTitle
  riskName := q.riskName
  riskDesc := q.riskDesc
  hedge := q.hedge
  scoringConfig := q.scoringConfig
  isScoring := q.isScoring

/-- The question as JSON. -/
def toJson (q : Question) : Json :=
  .record [("id", .string q.id), ("section_title", .string q.sectionTitle),
    ("risk_name", .string q.riskName), ("risk_desc", .string q.riskDesc),
    ("hedge", .string q.hedge), ("scoring_config", q.scoringConfig),
    ("is_scoring", .bool q.isScoring), ("sort_order", .ofInt q.sortOrder)]

/-- A question from JSON. -/
def decoder : Decoder Question :=
  .struct "QuestionDefinition" <|
    Question.mk <$> .required "id" .string
      <*> .required "section_title" .string
      <*> .required "risk_name" .string
      <*> .required "risk_desc" .string
      <*> .required "hedge" .string
      <*> .required "scoring_config" .json
      <*> .required "is_scoring" .bool
      <*> .required "sort_order" (.signed 32)

end Question

namespace AnswerRow

/-- The row as JSON. -/
def toJson (r : AnswerRow) : Json :=
  .record [("question_id", .string r.questionId), ("answer_text", .string r.answerText),
    ("section_title", .string r.sectionTitle), ("risk_name", .string r.riskName),
    ("risk_desc", .string r.riskDesc), ("hedge", .string r.hedge),
    ("scoring_config", r.scoringConfig), ("is_scoring", .bool r.isScoring)]

/-- A row from JSON. -/
def decoder : Decoder AnswerRow :=
  .struct "AnswerRow" <|
    AnswerRow.mk <$> .required "question_id" .string
      <*> .required "answer_text" .string
      <*> .required "section_title" .string
      <*> .required "risk_name" .string
      <*> .required "risk_desc" .string
      <*> .required "hedge" .string
      <*> .required "scoring_config" .json
      <*> .required "is_scoring" .bool

end AnswerRow

end RiskReport
