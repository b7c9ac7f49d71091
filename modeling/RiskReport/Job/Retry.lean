import RiskReport.Text.Quoted
import RiskReport.Time.Duration

/-!
# Retrying

How often a report is tried, and how long to wait after each failed attempt: the same time always,
or a time that doubles up to a limit.
-/

namespace RiskReport

open Json

/-- How the waiting time goes on from one attempt to the next. -/
inductive BackoffStrategy where
  | fixed
  | exponential
  deriving DecidableEq, Repr, Inhabited

namespace BackoffStrategy

/-- The spelling of a strategy. -/
def text : BackoffStrategy → String
  | .fixed => "fixed"
  | .exponential => "exponential"

/-- The strategy in one line. -/
def describe : BackoffStrategy → String
  | .fixed => "Fixed"
  | .exponential => "Exponential"

/-- A strategy from JSON. -/
def decoder : Decoder BackoffStrategy :=
  .enumeration ([.fixed, .exponential].map fun s => (s.text, s))

end BackoffStrategy

/-- How often to try, and how long to wait in between. -/
structure RetryPolicy where
  /-- The number of attempts, the first one included. -/
  maxAttempts : Nat
  /-- The waiting time after the first failed attempt. -/
  baseDelay : Duration
  /-- The longest waiting time. -/
  maxDelay : Duration
  strategy : BackoffStrategy
  deriving DecidableEq, Repr, Inhabited

namespace RetryPolicy

/-- Wait the same time after each attempt. -/
def fixed (maxAttempts : Nat) (delay : Duration) : RetryPolicy :=
  ⟨max 1 maxAttempts, delay, delay, .fixed⟩

/-- Wait twice as long after each attempt. -/
def exponential (maxAttempts : Nat) (baseDelay maxDelay : Duration) : RetryPolicy :=
  ⟨max 1 maxAttempts, baseDelay, maxDelay, .exponential⟩

/-- Three attempts with two and four seconds between them. -/
def standard : RetryPolicy := exponential 3 (.ofSeconds 2) (.ofSeconds 60)

/-- A single attempt. -/
def single : RetryPolicy := { standard with maxAttempts := 1 }

/-- The largest factor by which a waiting time grows. -/
def maxFactor : Nat := Nat.pow 2 32 - 1

/-- The factor by which the waiting time has grown after some doublings. -/
def factor (doublings : Nat) : Nat :=
  if doublings < 32 then Nat.pow 2 doublings else maxFactor

/-- The waiting time after a failed attempt, counted from 1. -/
def delay (p : RetryPolicy) (attempt : Nat) : Duration :=
  if attempt = 0 then ⟨0⟩
  else
    match p.strategy with
    | .fixed => p.baseDelay
    | .exponential =>
      ((p.baseDelay.scale? (factor (attempt - 1))).getD p.maxDelay).shorter p.maxDelay

/-- Whether another attempt follows one, counted from 1. -/
def goesOn (p : RetryPolicy) (attempt : Nat) : Bool := attempt < p.maxAttempts

/-- The policy in one line. -/
def describe (p : RetryPolicy) : String :=
  Text.record "RetryPolicy"
    [("max_attempts", toString p.maxAttempts), ("base_delay", p.baseDelay.describe),
      ("max_delay", p.maxDelay.describe), ("strategy", p.strategy.describe)]

/-- The policy as JSON. -/
def toJson (p : RetryPolicy) : Json :=
  .record [("max_attempts", .ofNat p.maxAttempts), ("base_delay", p.baseDelay.toJson),
    ("max_delay", p.maxDelay.toJson), ("strategy", .string p.strategy.text)]

/-- A policy from JSON. -/
def decoder : Decoder RetryPolicy :=
  .struct "RetryPolicy" <|
    RetryPolicy.mk <$> .required "max_attempts" (.unsigned 32)
      <*> .required "base_delay" Duration.decoder
      <*> .required "max_delay" Duration.decoder
      <*> .required "strategy" BackoffStrategy.decoder

end RetryPolicy

end RiskReport
