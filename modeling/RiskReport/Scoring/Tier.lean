import RiskReport.Scoring.Config
import RiskReport.Status

/-!
# Tiers of risks

Two cutoffs split the grid of probability and impact into four tiers. A value on a cutoff is high.
-/

namespace RiskReport

open Json

/-- The cutoffs between high and low impact and between high and low probability. -/
structure TierThresholds where
  highImpact : Nat
  highProbability : Nat
  deriving DecidableEq, Repr, Inhabited

/-- A cutoff outside the range of scores. -/
structure ThresholdError where
  field : String
  value : Nat
  deriving DecidableEq, Repr, Inhabited

/-- The wording of a refused cutoff. -/
def ThresholdError.message (e : ThresholdError) : String :=
  "tier thresholds: " ++ e.field ++ "=" ++ toString e.value ++ outOfRange

namespace TierThresholds

/-- The published cutoffs. -/
def published : TierThresholds := ⟨7, 6⟩

/-- Refuse a cutoff that is out of range. -/
def checkCutoff (field : String) (value : Nat) : Except ThresholdError Unit :=
  if RiskScore.inRange value then .ok () else .error ⟨field, value⟩

/-- The cutoffs, if both are in the range of scores. -/
def ofCutoffs (highImpact highProbability : Nat) : Except ThresholdError TierThresholds := do
  checkCutoff "high_impact" highImpact
  checkCutoff "high_probability" highProbability
  return ⟨highImpact, highProbability⟩

/-- The tier of a probability and an impact. -/
def classify (t : TierThresholds) (probability impact : Nat) : RiskTier :=
  match decide (t.highProbability ≤ probability), decide (t.highImpact ≤ impact) with
  | true, true => .watch
  | false, true => .red
  | true, false => .manage
  | false, false => .ignore

/-- The cutoffs as JSON. -/
def toJson (t : TierThresholds) : Json :=
  .record [("high_impact", .ofNat t.highImpact), ("high_probability", .ofNat t.highProbability)]

/-- Cutoffs from JSON, not checked. -/
def decoder : Decoder TierThresholds :=
  .struct "TierThresholds" <|
    TierThresholds.mk <$> .required "high_impact" (.unsigned 8)
      <*> .required "high_probability" (.unsigned 8)

end TierThresholds

/-- A score as JSON. -/
def RiskScore.toJson (s : RiskScore) : Json :=
  .record [("probability", .ofNat s.probability), ("impact", .ofNat s.impact)]

/-- A score from JSON. -/
def RiskScore.decoder : Decoder RiskScore :=
  .struct "RiskScore" <|
    RiskScore.mk <$> .required "probability" (.unsigned 8) <*> .required "impact" (.unsigned 8)

end RiskReport
