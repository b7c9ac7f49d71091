/-!
# Stopping

The signal by which the work on reports is stopped. Whoever holds the trigger may fire it, or may
go away, which stops the work as well. The two ways can be told apart: `isTriggered` looks at the
signal alone, and `isRequested` also at whether anybody is left to give it.
-/

namespace RiskReport

/-- The state of a stop signal, which all its observers share. -/
structure Shutdown where
  /-- Whether the signal was given. -/
  fired : Bool := false
  /-- Whether the trigger is gone. -/
  dropped : Bool := false
  deriving DecidableEq, Repr, Inhabited

namespace Shutdown

/-- Give the signal. -/
def trigger (s : Shutdown) : Shutdown := { s with fired := true }

/-- Let the trigger go. -/
def drop (s : Shutdown) : Shutdown := { s with dropped := true }

/-- Whether the signal was given. -/
def isTriggered (s : Shutdown) : Bool := s.fired

/-- Whether waiting for the signal ends: it was given, or nobody can give it any more. -/
def isRequested (s : Shutdown) : Bool := s.fired || s.dropped

end Shutdown

end RiskReport
