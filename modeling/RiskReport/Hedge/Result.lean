import RiskReport.Http
import RiskReport.Json.Decode
import RiskReport.Table

/-!
# Hedges

A hedge says what to do about a risk. A provider writes hedges for a list of risks, with a summary
and a piece of markup on the most urgent one (`HedgeResult`), or fails (`HedgeError`).
-/

namespace RiskReport

open Json

/-- Texts written for a report: hedges by question, and two texts on the whole. -/
structure HedgeResult where
  hedges : Table String String := .empty
  executiveSummary : String := ""
  topPriorityHtml : String := ""
  deriving DecidableEq, Repr, Inhabited

namespace HedgeResult

/-- No texts. -/
def nothing : HedgeResult := {}

/-- Whether there is no text at all. -/
def isEmpty (r : HedgeResult) : Bool :=
  r.hedges.entries.isEmpty && r.executiveSummary.isEmpty && r.topPriorityHtml.isEmpty

/-- The texts as JSON. -/
def toJson (r : HedgeResult) : Json :=
  .record [("hedges", .record (r.hedges.entries.map fun (k, v) => (k, .string v))),
    ("executive_summary", .string r.executiveSummary),
    ("top_priority_html", .string r.topPriorityHtml)]

/-- The texts from JSON; each of the three may be missing. -/
def decoder : Decoder HedgeResult :=
  .struct "HedgeResult" <|
    (fun hedges summary top => HedgeResult.mk ⟨hedges⟩ summary top) <$>
      Fields.withDefault "hedges" (.map .string) []
      <*> .withDefault "executive_summary" .string ""
      <*> .withDefault "top_priority_html" .string ""

end HedgeResult

/-- Why there are no hedges. -/
inductive HedgeError where
  | http (failure : Http.Failure)
  | api (status : Nat) (body : String)
  | parse (detail : String)
  | empty
  | noProvider
  | primaryFailed (cause : HedgeError)
  deriving DecidableEq, Repr, Inhabited

/-- The wording of a failure to write hedges. -/
def HedgeError.message : HedgeError → String
  | .http failure => "http request failed: " ++ failure.message
  | .api status body => "unexpected status " ++ toString status ++ ": " ++ body
  | .parse detail => "parse response: " ++ detail
  | .empty => "no text content in response"
  | .noProvider => "no hedging provider configured"
  | .primaryFailed cause => "primary failed and no secondary configured: " ++ cause.message

end RiskReport
