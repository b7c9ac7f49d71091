import RiskReport.Backend
import RiskReport.Config.App
import RiskReport.Database.Connection
import RiskReport.Job.Runner
import RiskReport.Log.Line

/-!
# The server

The server works on reports until it is told to stop. Its settings decide how; `Server.prepare`
makes a server of them and says where its database is. A server that does not start says why in a
report (`StartError.report`), which names what was attempted and then the causes.
-/

namespace RiskReport

open Log Database

/-! ## Reports of failures -/

/-- Indent the lines of a cause; of several causes each has a number. -/
def causeLines (number : Option Nat) (cause : String) : String :=
  let first := match number with
    | none => "    "
    | some n =>
      let digits := toString n
      String.ofList (List.replicate (5 - digits.length) ' ') ++ digits ++ ": "
  let next := if number.isSome then "       " else "    "
  first ++ ("\n" ++ next).intercalate (cause.splitOn "\n")

/-- A report on what was attempted and the causes of its failure. -/
def failureReport (attempted : String) (causes : List String) : String :=
  let lines := match causes with
    | [] => []
    | [cause] => [causeLines none cause]
    | causes => causes.zipIdx.map fun (cause, n) => causeLines (some n) cause
  let reasons := if lines.isEmpty then "" else "\n\nCaused by:\n" ++ "\n".intercalate lines
  "Error: " ++ attempted ++ reasons ++ "\n"

/-- Why a server does not start. -/
inductive StartError where
  | settings (error : AppConfigError)
  | connection (error : ConnectionError)
  | noProvider
  deriving DecidableEq, Repr, Inhabited

/-- The report on a server that does not start. -/
def StartError.report : StartError → String
  | settings e => failureReport "invalid configuration" [e.message]
  | connection e => failureReport "failed to connect to postgres" e.causes
  | noProvider => failureReport "no AI provider configured" []

/-! ## Servers -/

/-- A server: its settings, and the hedger that they choose. -/
structure Server where
  settings : AppConfig
  hedger : Hedger Provider
  deriving DecidableEq, Repr, Inhabited

namespace Server

/-- A server with some settings. -/
def ofSettings (settings : AppConfig) : Except StartError Server :=
  match settings.hedger? with
  | some hedger => .ok { settings, hedger }
  | none => .error .noProvider

/-- Prepare a server with the settings that some variables give, and look up where its database
is. -/
def prepare (vars : Variables) : Except StartError (Server × Address) := do
  let settings ← (AppConfig.load vars).mapError .settings
  let address ←
    ((Address.ofVariables vars).parse settings.databaseUrl).mapError fun e =>
      .connection (.address e)
  return (← ofSettings settings, address)

/-- What lies behind the services of a server. -/
def backend (s : Server) : Backend where
  hedger := s.hedger
  mailer :=
    .account s.settings.resendApiKey s.settings.emailFromAddr s.settings.emailFromName
      s.settings.baseUrl

/-- How a server makes reports. -/
def jobSettings (s : Server) : JobSettings where
  thresholds := s.settings.tierThresholds
  hedgerName := s.hedger.name (·.vendor.name)

/-- How a server writes its log: for machines when it is in use, and otherwise for people. -/
def logFormat (s : Server) : Format :=
  if s.settings.environment.isProduction then .json else .text

/-- An event of the server. -/
def event (message : String) (fields : Fields := []) : Event where
  level := .info
  target := .server
  message := some message
  fields := fields

/-- The events of an address of which a part has no meaning. -/
def warnings (address : Address) : List Event :=
  address.unknown.reverse.map fun (key, value) =>
    { level := .warn
      target := .databaseAddress
      message := some "ignoring unrecognized connect parameter"
      fields := [("key", .shown key), ("value", .shown value)] }

/-- The event of a server that has started. -/
def started (s : Server) : Event :=
  event "report runner started"
    [("environment", .shown s.settings.environment.describe),
      ("workers", .ofNat s.settings.workerCount)]

/-- The event of a server that was told to stop. -/
def draining : Event := event "shutdown requested, draining workers"

/-- The event of a server that has stopped. -/
def stopped (stats : RunnerStats) : Event :=
  event "runner stopped"
    [("completed", .ofNat stats.completed),
      ("failed_permanently", .ofNat stats.failedPermanently)]

end Server

end RiskReport
