import RiskReport.Hedge.Result
import RiskReport.Scoring.Ranking

/-!
# Hedgers that stand in for each other

A hedger is a leaf, or a node with a primary and a secondary hedger, of which either may be
missing. A node asks its primary; if that fails, it asks its secondary instead. A node with only a
primary reports that its primary failed; a node with neither has no provider.
-/

namespace RiskReport

open Log

/-- A tree of hedgers over leaves of a type. -/
inductive Hedger (ι : Type) where
  | leaf (hedger : ι)
  /-- A node without hedgers. -/
  | unconfigured
  | primaryOnly (primary : Hedger ι)
  | secondaryOnly (secondary : Hedger ι)
  | both (primary secondary : Hedger ι)
  deriving DecidableEq, Repr, Inhabited

namespace Hedger

variable {ι : Type}

/-- A node with the hedgers that there are. -/
def node : (primary secondary : Option (Hedger ι)) → Hedger ι
  | none, none => unconfigured
  | some p, none => primaryOnly p
  | none, some s => secondaryOnly s
  | some p, some s => both p s

/-- The primary of a node. -/
def primary? : Hedger ι → Option (Hedger ι)
  | primaryOnly p | both p _ => some p
  | _ => none

/-- The secondary of a node. -/
def secondary? : Hedger ι → Option (Hedger ι)
  | secondaryOnly s | both _ s => some s
  | _ => none

/-- The name of a hedger; all nodes have the same. -/
def name (leafName : ι → String) : Hedger ι → String
  | leaf i => leafName i
  | _ => "fallback"

/-- A node in one line, with the names of its hedgers. -/
def describe (leafName : ι → String) (h : Hedger ι) : String :=
  let shown (h : Option (Hedger ι)) := Text.option (fun h => Text.quoted (h.name leafName)) h
  Text.record "FallbackHedger" [("primary", shown h.primary?), ("secondary", shown h.secondary?)]

/-- The event of a primary that failed, with the fields that say what happens instead. -/
def failed (message : String) (fields : Fields) (error : HedgeError) : Event where
  level := .warn
  target := .fallback
  message := some message
  fields := fields ++ [("error", .shown error.message)]

/-- Ask a hedger for hedges. -/
def generate {I : Interface} (leafName : ι → String)
    (ask : ι → List ScoredRisk → Program I (Except HedgeError HedgeResult)) :
    Hedger ι → List ScoredRisk → Program I (Except HedgeError HedgeResult)
  | leaf i, risks => ask i risks
  | _, [] => .done (.ok .nothing)
  | unconfigured, _ => .done (.error .noProvider)
  | secondaryOnly s, risks => s.generate leafName ask risks
  | primaryOnly p, risks => do
    match ← p.generate leafName ask risks with
    | .ok result => return .ok result
    | .error e =>
      .report (failed "primary hedger failed" [("primary", .text (p.name leafName))] e)
      return .error (.primaryFailed e)
  | both p s, risks => do
    match ← p.generate leafName ask risks with
    | .ok result => return .ok result
    | .error e =>
      .report (failed "primary hedger failed, falling back"
        [("primary", .text (p.name leafName)), ("secondary", .text (s.name leafName))] e)
      s.generate leafName ask risks

end Hedger

end RiskReport
