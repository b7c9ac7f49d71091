import RiskReport.Config.Number
import RiskReport.Hedge.Fallback
import RiskReport.Hedge.Provider
import RiskReport.Job.Queue

/-!
# Settings

The settings of the program come from named variables. A variable that is blank counts as not set,
and the blanks around a value do not count. `AppConfig.load` reads all settings in a fixed order
and reports the first that is missing or wrong. What the settings look like in the log leaves out
every secret.
-/

namespace RiskReport

open Text

/-- Where the program runs. -/
inductive Environment where
  | development
  | production
  deriving DecidableEq, Repr, Inhabited

namespace Environment

/-- The environment in one line. -/
def describe : Environment → String
  | .development => "Development"
  | .production => "Production"

/-- Whether the program is in use. -/
def isProduction (e : Environment) : Bool := e = .production

/-- The names by which an environment is chosen. -/
def spellings : List (String × Environment) :=
  [("development", .development), ("dev", .development), ("local", .development),
    ("test", .development), ("production", .production), ("prod", .production)]

/-- Choose an environment by one of its names. -/
def parse (s : String) : Except String Environment :=
  match spellings.lookup (lowerAscii s) with
  | some e => .ok e
  | none => .error ("unknown environment " ++ quoted (lowerAscii s))

end Environment

/-- Why the settings are refused. -/
inductive AppConfigError where
  | missing (name : String)
  | invalid (name value reason : String)
  | noAiProvider
  /-- There are so many workers that the places of their queue cannot be counted. -/
  | workersOverflow
  deriving DecidableEq, Repr, Inhabited

/-- The wording of a refusal. -/
def AppConfigError.message : AppConfigError → String
  | .missing name => name ++ " is required"
  | .invalid name value reason =>
    name ++ "=" ++ quoted value ++ " is invalid: " ++ reason
  | .noAiProvider => "at least one of ANTHROPIC_API_KEY or DEEPSEEK_API_KEY must be set"
  | .workersOverflow => "attempt to multiply with overflow"

/-- How to use a provider of hedges. -/
structure ProviderConfig where
  apiKey : String
  model : String
  deriving DecidableEq, Repr, Inhabited

/-- The provider in one line, without its secret. -/
def ProviderConfig.describe (p : ProviderConfig) : String :=
  record "ProviderConfig" [("api_key", quoted "<redacted>"), ("model", quoted p.model)]

/-- The provider of a vendor that is used with these settings. -/
def ProviderConfig.provider (p : ProviderConfig) (vendor : Vendor) : Provider :=
  ⟨vendor, p.apiKey, p.model, vendor.defaultBaseUrl⟩

/-- The settings of the program. -/
structure AppConfig where
  environment : Environment
  /-- The address under which reports are shown. -/
  baseUrl : String
  databaseUrl : String
  databaseMaxConnections : Nat
  anthropic : Option ProviderConfig
  deepseek : Option ProviderConfig
  resendApiKey : String
  emailFromAddr : String
  emailFromName : String
  workerCount : Nat
  queueCapacity : Nat
  pollInterval : Duration
  jobTimeout : Duration
  maxAttempts : Nat
  retryBaseDelay : Duration
  recoveryWindow : Duration
  tierThresholds : TierThresholds
  price : Price
  deriving DecidableEq, Repr, Inhabited

/-- The variables that the settings are read from. -/
abbrev Variables := String → Option String

namespace Variables

/-- The value of a variable, if it is set and not blank. -/
def get? (vars : Variables) (key : String) : Option String :=
  (vars key).bind trimmed?

/-- The value of a variable, or a default. -/
def getOr (vars : Variables) (key default : String) : String :=
  (vars.get? key).getD default

/-- The value of a variable that must be set. -/
def require (vars : Variables) (key : String) : Except AppConfigError String :=
  match vars.get? key with
  | some v => .ok v
  | none => .error (.missing key)

/-- The value of a variable as something that can be read from a text, or a default. -/
def parseOr {α ε : Type} (vars : Variables) (key : String) (parse : String → Except ε α)
    (wording : ε → String) (default : α) : Except AppConfigError α :=
  match vars.get? key with
  | none => .ok default
  | some raw => (parse raw).mapError fun e => .invalid key raw (wording e)

/-- The value of a variable as a natural number below `2 ^ bits`, or a default. -/
def unsignedOr (vars : Variables) (key : String) (bits default : Nat) :
    Except AppConfigError Nat :=
  vars.parseOr key (readUnsigned bits) NumberError.message default

/-- The value of a variable as a natural number that is not zero, or a default. -/
def positiveOr (vars : Variables) (key : String) (bits default : Nat) :
    Except AppConfigError Nat := do
  let n ← vars.unsignedOr key bits default
  if n = 0 then throw (.invalid key (vars.getOr key "") "must be at least 1")
  return n

/-- The value of a variable as a number of seconds, or a default. -/
def secondsOr (vars : Variables) (key : String) (default : Nat) :
    Except AppConfigError Duration :=
  (vars.unsignedOr key 64 default).map Duration.ofSeconds

/-- A provider, if its key is set. -/
def provider? (vars : Variables) (keyVar modelVar : String) (vendor : Vendor) :
    Option ProviderConfig :=
  (vars.get? keyVar).map fun apiKey => ⟨apiKey, vars.getOr modelVar vendor.defaultModel⟩

end Variables

namespace AppConfig

/-- The largest number of seconds that a duration can have. -/
def maxSeconds : Nat := Nat.pow 2 64 - 1

/-- The cutoffs of the tiers. -/
def loadThresholds (vars : Variables) : Except AppConfigError TierThresholds := do
  let highImpact ← vars.unsignedOr "TIER_HIGH_IMPACT" 8 TierThresholds.published.highImpact
  let highProbability ←
    vars.unsignedOr "TIER_HIGH_PROBABILITY" 8 TierThresholds.published.highProbability
  (TierThresholds.ofCutoffs highImpact highProbability).mapError fun e =>
    .invalid "TIER_HIGH_IMPACT/TIER_HIGH_PROBABILITY"
      (toString highImpact ++ "/" ++ toString highProbability) e.message

/-- The names of all variables that settings are read from. -/
def variableNames : List String :=
  ["ENV", "ANTHROPIC_API_KEY", "ANTHROPIC_MODEL", "DEEPSEEK_API_KEY", "DEEPSEEK_MODEL",
    "WORKER_COUNT", "QUEUE_CAPACITY", "MAX_ATTEMPTS", "TIER_HIGH_IMPACT", "TIER_HIGH_PROBABILITY",
    "DATABASE_URL", "DATABASE_MAX_CONNECTIONS", "RESEND_API_KEY", "POLL_INTERVAL_SECS",
    "JOB_TIMEOUT_SECS", "RETRY_BASE_DELAY_SECS", "RECOVERY_WINDOW_HOURS", "PRICE_AMOUNT_CENTS",
    "BASE_URL", "EMAIL_FROM_ADDR", "EMAIL_FROM_NAME", "PRICE_CURRENCY"]

/-- Read the settings, or report the first that is missing or wrong. -/
def load (vars : Variables) : Except AppConfigError AppConfig := do
  let environment ← vars.parseOr "ENV" Environment.parse (·) .development
  let anthropic := vars.provider? "ANTHROPIC_API_KEY" "ANTHROPIC_MODEL" .anthropic
  let deepseek := vars.provider? "DEEPSEEK_API_KEY" "DEEPSEEK_MODEL" .deepseek
  if anthropic.isNone && deepseek.isNone then throw .noAiProvider
  let workerCount ← vars.positiveOr "WORKER_COUNT" 64 3
  if RunnerConfig.maxWorkers < workerCount then throw .workersOverflow
  let queueCapacity ← vars.positiveOr "QUEUE_CAPACITY" 64 (workerCount * 2)
  let maxAttempts ← vars.positiveOr "MAX_ATTEMPTS" 32 3
  let tierThresholds ← loadThresholds vars
  let databaseUrl ← vars.require "DATABASE_URL"
  let databaseMaxConnections ← vars.unsignedOr "DATABASE_MAX_CONNECTIONS" 32 10
  let resendApiKey ← vars.require "RESEND_API_KEY"
  let pollInterval ← vars.secondsOr "POLL_INTERVAL_SECS" 30
  let jobTimeout ← vars.secondsOr "JOB_TIMEOUT_SECS" 300
  let retryBaseDelay ← vars.secondsOr "RETRY_BASE_DELAY_SECS" 2
  let recoveryHours ← vars.unsignedOr "RECOVERY_WINDOW_HOURS" 64 24
  let amountCents ← vars.parseOr "PRICE_AMOUNT_CENTS" (readSigned 64) NumberError.message 5900
  return {
    environment
    baseUrl := dropTrailingSlashes (vars.getOr "BASE_URL" "http://localhost:3000")
    databaseUrl
    databaseMaxConnections
    anthropic
    deepseek
    resendApiKey
    emailFromAddr := vars.getOr "EMAIL_FROM_ADDR" "reports@example.com"
    emailFromName := vars.getOr "EMAIL_FROM_NAME" "Risk Mapper"
    workerCount
    queueCapacity
    pollInterval
    jobTimeout
    maxAttempts
    retryBaseDelay
    recoveryWindow := .ofSeconds (min (recoveryHours * 3600) maxSeconds)
    tierThresholds
    price := ⟨amountCents, lowerAscii (vars.getOr "PRICE_CURRENCY" "usd")⟩ }

/-- The longest wait between two attempts. -/
def maxRetryDelay : Duration := .ofSeconds 300

/-- How reports are worked on with these settings; nothing, if there are too many workers. -/
def runnerConfig? (c : AppConfig) : Option RunnerConfig :=
  (RunnerConfig.standard.withWorkers? c.workerCount).map fun r =>
    { r.withQueueCapacity c.queueCapacity with
      pollInterval := c.pollInterval
      jobTimeout := c.jobTimeout
      retry := .exponential c.maxAttempts c.retryBaseDelay maxRetryDelay
      recoveryWindow := c.recoveryWindow }

/-- The settings in one line, without the secrets. -/
def describe (c : AppConfig) : String :=
  let thresholds := record "TierThresholds"
    [("high_impact", toString c.tierThresholds.highImpact),
      ("high_probability", toString c.tierThresholds.highProbability)]
  let price := record "Price"
    [("amount_cents", toString c.price.amountCents), ("currency", quoted c.price.currency)]
  record "AppConfig"
    [("environment", c.environment.describe), ("base_url", quoted c.baseUrl),
      ("database_max_connections", toString c.databaseMaxConnections),
      ("anthropic", option ProviderConfig.describe c.anthropic),
      ("deepseek", option ProviderConfig.describe c.deepseek),
      ("email_from_addr", quoted c.emailFromAddr), ("worker_count", toString c.workerCount),
      ("queue_capacity", toString c.queueCapacity), ("poll_interval", c.pollInterval.describe),
      ("job_timeout", c.jobTimeout.describe), ("max_attempts", toString c.maxAttempts),
      ("recovery_window", c.recoveryWindow.describe), ("tier_thresholds", thresholds),
      ("price", price)]
    true

/-- The providers of hedges, the first one and the one that stands in for it. -/
def providers (c : AppConfig) : List Provider :=
  (c.deepseek.map (·.provider .deepseek)).toList ++
    (c.anthropic.map (·.provider .anthropic)).toList

/-- The hedger of the program, if there is a provider. -/
def hedger? (c : AppConfig) : Option (Hedger Provider) :=
  match c.providers with
  | [] => none
  | p :: rest => some (.node (some (.leaf p)) (rest.head?.map .leaf))

end AppConfig

end RiskReport
