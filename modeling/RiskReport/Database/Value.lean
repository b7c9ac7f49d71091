import RiskReport.Status
import RiskReport.Store.Call

/-!
# Values and rows of the database

What passes between the program and the database: values of a few types, and rows of named
values. A row is read column by column; a column that is missing, empty or of another type is a
`ColumnError`. The database keeps times in whole microseconds.
-/

namespace RiskReport.Database

/-- A value that goes to the database or comes from it. -/
inductive SqlValue where
  | null
  | bool (value : Bool)
  | int (value : Int)
  | text (value : String)
  | uuid (value : Uuid)
  | time (value : Instant)
  | json (value : Json)
  /-- A span of time as a number of seconds. -/
  | seconds (value : Duration)
  deriving DecidableEq, Repr, Inhabited

/-- The second since the start of 1970 from which the database counts time. -/
def epochSecond : Int := 946684800

/-- The nanoseconds of a microsecond. -/
def perMicro : Int := 1000

/-- The microseconds from the start of 2000 to an instant, rounded towards zero. -/
def microseconds (t : Instant) : Int :=
  Int.tdiv ((t.second - epochSecond) * Duration.perSecond + t.nano) perMicro

/-- The instant so many microseconds from the start of 2000. -/
def ofMicroseconds (micros : Int) : Instant :=
  let nanos := micros * perMicro
  ⟨epochSecond + nanos / Duration.perSecond, (nanos % Duration.perSecond).toNat⟩

namespace SqlValue

/-- An instant as the database keeps it. -/
def ofInstant (t : Instant) : SqlValue := .time (ofMicroseconds (microseconds t))

/-- A text, if there is one. -/
def ofText? : Option String → SqlValue
  | some s => .text s
  | none => .null

/-- A whole number, if there is one. -/
def ofInt? : Option Int → SqlValue
  | some i => .int i
  | none => .null

/-- The text, if the value is one. -/
def text? : SqlValue → Option String
  | .text s => some s
  | _ => none

/-- The whole number, if the value is one. -/
def int? : SqlValue → Option Int
  | .int i => some i
  | _ => none

/-- The truth value, if the value is one. -/
def bool? : SqlValue → Option Bool
  | .bool b => some b
  | _ => none

/-- The identifier, if the value is one. -/
def uuid? : SqlValue → Option Uuid
  | .uuid u => some u
  | _ => none

/-- The instant, if the value is one. -/
def time? : SqlValue → Option Instant
  | .time t => some t
  | _ => none

/-- The JSON value, if the value is one. -/
def json? : SqlValue → Option Json
  | .json j => some j
  | _ => none

end SqlValue

/-- Why a column cannot be read. -/
inductive ColumnError where
  | missing (name : String)
  /-- The column is empty and must not be. -/
  | empty (name : String)
  /-- The column is of another type. -/
  | mismatched (name : String)
  deriving DecidableEq, Repr, Inhabited

/-- The wording of a column that cannot be read. -/
def ColumnError.message : ColumnError → String
  | .missing name => "no column found for name: " ++ name
  | .empty name =>
    "error occurred while decoding column " ++ Text.quoted name ++
      ": unexpected null; try decoding as an `Option`"
  | .mismatched name =>
    "error occurred while decoding column " ++ Text.quoted name ++ ": mismatched types"

/-- A row: its columns by their names. -/
structure Row where
  columns : List (String × SqlValue)
  deriving DecidableEq, Repr, Inhabited

namespace Row

/-- The column with a name; of several, the last. -/
def column? (r : Row) (name : String) : Option SqlValue :=
  r.columns.reverse.lookup name

/-- The value of a column that may be empty. -/
def optional {α : Type} (r : Row) (name : String) (read : SqlValue → Option α) :
    Except ColumnError (Option α) :=
  match r.column? name with
  | none => .error (.missing name)
  | some .null => .ok none
  | some v =>
    match read v with
    | some a => .ok (some a)
    | none => .error (.mismatched name)

/-- The value of a column that is not empty. -/
def required {α : Type} (r : Row) (name : String) (read : SqlValue → Option α) :
    Except ColumnError α := do
  match ← r.optional name read with
  | some a => return a
  | none => throw (.empty name)

/-- A text. -/
def text (r : Row) (name : String) : Except ColumnError String := r.required name SqlValue.text?

/-- A text, or nothing. -/
def optionalText (r : Row) (name : String) : Except ColumnError (Option String) :=
  r.optional name SqlValue.text?

/-- A whole number. -/
def int (r : Row) (name : String) : Except ColumnError Int := r.required name SqlValue.int?

/-- An identifier. -/
def uuid (r : Row) (name : String) : Except ColumnError Uuid := r.required name SqlValue.uuid?

/-- An instant. -/
def time (r : Row) (name : String) : Except ColumnError Instant := r.required name SqlValue.time?

/-- An instant, or nothing. -/
def optionalTime (r : Row) (name : String) : Except ColumnError (Option Instant) :=
  r.optional name SqlValue.time?

end Row

/-! ## Rows of the tables -/

/-- The refusal of a row of a kind. -/
def unreadable (kind : String) (e : ColumnError) : StoreError :=
  .corrupt ("failed to deserialize " ++ kind ++ " row: " ++ e.message)

/-- A row that carries the spelling of a status: all columns are read before the spelling is. -/
def readWithStatus {σ α : Type} (kind : String) (parse : String → Except UnknownStatus σ)
    (columns : Except ColumnError (String × (σ → α))) : Except StoreError α := do
  let (spelling, make) ← columns.mapError (unreadable kind)
  let status ← (parse spelling).mapError fun e => .corrupt e.message
  return make status

/-- The columns of a session. -/
def sessionColumns (r : Row) : Except ColumnError (String × (PaymentStatus → Session)) := do
  let id ← r.uuid "id"
  let anonToken ← r.text "anon_token"
  let status ← r.text "payment_status"
  let customerRef ← r.optionalText "customer_ref"
  let intentRef ← r.optionalText "payment_intent_ref"
  let email ← r.optionalText "email"
  let businessName ← r.optionalText "business_name"
  let businessContext ← r.optionalText "business_context"
  let paidAt ← r.optionalTime "paid_at"
  let createdAt ← r.time "created_at"
  let updatedAt ← r.time "updated_at"
  return (status, fun paymentStatus =>
    { id := ⟨id⟩, anonToken, paymentStatus, customerRef, intentRef, email, businessName,
      businessContext, paidAt, createdAt, updatedAt })

/-- The session in a row. -/
def sessionOfRow (r : Row) : Except StoreError Session :=
  readWithStatus "session" PaymentStatus.parse (sessionColumns r)

/-- The columns of a report. -/
def reportColumns (r : Row) : Except ColumnError (String × (ReportStatus → Report)) := do
  let id ← r.uuid "id"
  let sessionId ← r.uuid "session_id"
  let status ← r.text "status"
  let overallScore ← r.optional "overall_score" SqlValue.int?
  let criticalCount ← r.optional "critical_count" SqlValue.int?
  let executiveSummary ← r.optionalText "executive_summary"
  let topPriorityHtml ← r.optionalText "top_priority_html"
  let risksSnapshot ← r.optional "risks_snapshot" SqlValue.json?
  let accessToken ← r.text "access_token"
  let generatedAt ← r.optionalTime "generated_at"
  let errorMessage ← r.optionalText "error_message"
  let createdAt ← r.time "created_at"
  let updatedAt ← r.time "updated_at"
  return (status, fun status =>
    { id := ⟨id⟩, sessionId := ⟨sessionId⟩, status, overallScore, criticalCount,
      executiveSummary, topPriorityHtml, risksSnapshot, accessToken := ⟨accessToken⟩,
      generatedAt, errorMessage, createdAt, updatedAt })

/-- The report in a row. -/
def reportOfRow (r : Row) : Except StoreError Report :=
  readWithStatus "report" ReportStatus.parse (reportColumns r)

/-- The columns of a result row. -/
def resultColumns (r : Row) : Except ColumnError (String × (RiskTier → RiskResult)) := do
  let id ← r.uuid "id"
  let reportId ← r.uuid "report_id"
  let questionId ← r.text "question_id"
  let rank ← r.int "rank"
  let riskName ← r.text "risk_name"
  let riskDesc ← r.text "risk_desc"
  let probability ← r.int "probability"
  let impact ← r.int "impact"
  let score ← r.int "score"
  let tier ← r.text "tier"
  let hedge ← r.text "hedge"
  let aiHedge ← r.optionalText "ai_hedge"
  let sectionTitle ← r.text "section"
  return (tier, fun tier =>
    { id := ⟨id⟩, reportId := ⟨reportId⟩, questionId, rank, riskName, riskDesc, probability,
      impact, score, tier, hedge, aiHedge, sectionTitle })

/-- The result in a row. -/
def resultOfRow (r : Row) : Except StoreError RiskResult :=
  readWithStatus "risk result" RiskTier.parse (resultColumns r)

/-- The columns of an answer joined with its question. -/
def answerColumns (r : Row) : Except ColumnError AnswerRow := do
  let questionId ← r.text "question_id"
  let answerText ← r.text "answer_text"
  let sectionTitle ← r.text "section_title"
  let riskName ← r.text "risk_name"
  let riskDesc ← r.text "risk_desc"
  let hedge ← r.text "hedge"
  let scoringConfig ← r.required "scoring_config" SqlValue.json?
  let isScoring ← r.required "is_scoring" SqlValue.bool?
  return { questionId, answerText, sectionTitle, riskName, riskDesc, hedge, scoringConfig,
           isScoring }

/-- The answer in a row. -/
def answerOfRow (r : Row) : Except StoreError AnswerRow :=
  (answerColumns r).mapError (unreadable "answer")

/-- The identifier in a row of which nothing else is needed. -/
def idOfRow (kind : String) (r : Row) : Except StoreError Uuid :=
  (r.uuid "id").mapError fun e => .corrupt (kind ++ " id: " ++ e.message)

/-- The session that a row names. -/
def sessionIdOfRow (r : Row) : Except StoreError SessionId :=
  (idOfRow "session" r).map SessionId.mk

/-- The report that a row names. -/
def reportIdOfRow (r : Row) : Except StoreError ReportId :=
  (idOfRow "report" r).map ReportId.mk

end RiskReport.Database
