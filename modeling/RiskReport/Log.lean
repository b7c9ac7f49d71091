/-!
# Log events

What the parts of the program report while they work: an event has a level, the part that it comes
from, a message and fields. It happens inside the spans that are open at the time. How events are
filtered and written is the business of the server.
-/

namespace RiskReport.Log

/-- How serious an event is. -/
inductive Level where
  | error
  | warn
  | info
  | debug
  deriving DecidableEq, Repr, Inhabited

/-- The name of a level. -/
def Level.text : Level → String
  | .error => "ERROR"
  | .warn => "WARN"
  | .info => "INFO"
  | .debug => "DEBUG"

/-- The rank of a level: a filter that lets a level pass lets every lower rank pass. -/
def Level.rank : Level → Nat
  | .error => 1
  | .warn => 2
  | .info => 3
  | .debug => 4

/-- The part of the program that an event comes from. -/
inductive Target where
  | server
  | runner
  | job
  | access
  | mail
  | database
  | databaseAddress
  | payments
  | checkout
  | fallback
  | anthropic
  | deepseek
  deriving DecidableEq, Repr, Inhabited

/-- The name of a part, by which filters choose events. -/
def Target.text : Target → String
  | .server => "riskmap_server"
  | .runner => "riskmap_infra::jobs::runner"
  | .job => "riskmap_infra::jobs::job"
  | .access => "riskmap_infra::access"
  | .mail => "riskmap_infra::notify::resend"
  | .database => "riskmap_infra::store::postgres"
  | .databaseAddress => "sqlx_postgres::options::parse"
  | .payments => "riskmap_infra::payments::events"
  | .checkout => "riskmap_infra::payments::checkout"
  | .fallback => "riskmap_ai::fallback"
  | .anthropic => "riskmap_ai::anthropic"
  | .deepseek => "riskmap_ai::deepseek"

/-- The value of a field. A plain text is quoted when it is written; a value shown in its own form
is not. -/
inductive Value where
  | int (value : Int)
  | bool (value : Bool)
  | text (value : String)
  | shown (value : String)
  deriving DecidableEq, Repr, Inhabited

/-- Named values in the order in which they are written. -/
abbrev Fields := List (String × Value)

/-- A stretch of work of some part of the program, in which events happen. -/
structure Span where
  target : Target
  name : String
  fields : Fields := []
  deriving DecidableEq, Repr, Inhabited

/-- Something worth reporting. -/
structure Event where
  level : Level
  target : Target
  message : Option String
  fields : Fields := []
  deriving DecidableEq, Repr, Inhabited

/-- An event and the spans it happened in, the outermost first. -/
structure Entry where
  spans : List Span
  event : Event
  deriving DecidableEq, Repr, Inhabited

/-- A natural number as a field. -/
def Value.ofNat (n : Nat) : Value := .int n

/-- The event of work that failed: the error alone, without a message. -/
def Event.failure (target : Target) (error : String) : Event where
  level := .error
  target := target
  message := none
  fields := [("error", .shown error)]

end RiskReport.Log
