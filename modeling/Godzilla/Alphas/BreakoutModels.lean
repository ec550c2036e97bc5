import Godzilla.Alphas.MomentumModels

/-!
# Momentum breakout: settings, evidence and invalidation

`alphas/breakout_models.py`. The invalidation rule, with one permitted value, is
left out.
-/

namespace Godzilla.Alphas
open Godzilla Features MarketData MarketState

/-- `BREAKOUT_ALPHA_ID` (`alphas/breakout_models.py:14`). -/
def breakoutAlphaId : String := "momentum_breakout"

/-- `BreakoutWeights` (`alphas/breakout_models.py:17-30`). -/
structure BreakoutWeights (F : Type) [PyFloat F] where
  relativeStrength : F := PyFloat.ofDecimal (1 / 4)
  breakoutQuality : F := PyFloat.ofDecimal (1 / 5)
  relativeVolume : F := PyFloat.ofDecimal (3 / 20)
  sectorConfirmation : F := PyFloat.ofDecimal (3 / 20)
  slopeQuality : F := PyFloat.ofDecimal (1 / 10)
  rewardRiskProxy : F := PyFloat.ofDecimal (1 / 10)
  liquidityQuality : F := PyFloat.ofDecimal (1 / 20)
  ranges : ∀ w ∈ [relativeStrength, breakoutQuality, relativeVolume, sectorConfirmation,
    slopeQuality, rewardRiskProxy, liquidityQuality], 0 ≤ w ∧ w ≤ 1
  /-- `normalized`. -/
  normalized : PyFloat.IsClose (PyFloat.sum [relativeStrength, breakoutQuality, relativeVolume,
    sectorConfirmation, slopeQuality, rewardRiskProxy, liquidityQuality]) 1
      (PyFloat.ofDecimal (1 / 10 ^ 12))

/-- `range_source` and the kinds of a known level. -/
inductive RangeKind where
  | openingRange
  | swing
  deriving DecidableEq, Repr

/-- The text of the kind. -/
def RangeKind.text : RangeKind → String
  | openingRange => "opening_range"
  | swing => "swing"

/-- `kind.upper()`. -/
def RangeKind.upper : RangeKind → String
  | openingRange => "OPENING_RANGE"
  | swing => "SWING"

/-- `BreakoutSettings` (`alphas/breakout_models.py:33-77`); `none` is the source `either`. -/
structure BreakoutSettings (F : Type) [PyFloat F] where
  version : String := "breakout-research-v1"
  enabled : Bool := true
  weights : BreakoutWeights F
  rangeSource : Option RangeKind := none
  minimumUniverseSize : Nat := 10
  minimumStrengthPercentile : F := PyFloat.ofDecimal (4 / 5)
  minimumResidualReturn : F := PyFloat.ofDecimal (1 / 500)
  minimumRelativeVolume : F := PyFloat.ofDecimal (3 / 2)
  fullRelativeVolume : F := 3
  minExtensionAtr : F := PyFloat.ofDecimal (1 / 20)
  fullExtensionAtr : F := PyFloat.ofDecimal (1 / 4)
  maxExtensionAtr : F := PyFloat.ofDecimal (3 / 4)
  minCloseLocation : F := PyFloat.ofDecimal (7 / 10)
  minBodyFraction : F := PyFloat.ofDecimal (1 / 5)
  fullSectorDistance : F := PyFloat.ofDecimal (1 / 200)
  fullSlope : F := PyFloat.ofDecimal (1 / 1000)
  invalidationBufferAtr : F := PyFloat.ofDecimal (1 / 10)
  observationBars : Nat := 3
  rewardDistanceAtr : F := 2
  minRewardRiskProxy : F := PyFloat.ofDecimal (3 / 2)
  fullRewardRiskProxy : F := 3
  maxSpreadBps : F := 12
  maxQuoteAgeSeconds : F := 3
  minAdv : F := 100000
  minDailyTurnover : F := 10000000
  maxBarLagSeconds : F := 30
  minimumScore : F := PyFloat.ofDecimal (3 / 5)
  universe_min : 2 ≤ minimumUniverseSize
  strength_range : PyFloat.ofDecimal (1 / 2) < minimumStrengthPercentile ∧
    minimumStrengthPercentile < 1
  positive : ∀ x ∈ [minimumResidualReturn, minimumRelativeVolume, fullRelativeVolume,
    minExtensionAtr, fullExtensionAtr, maxExtensionAtr, fullSectorDistance, fullSlope,
    invalidationBufferAtr, rewardDistanceAtr, minRewardRiskProxy, fullRewardRiskProxy,
    maxSpreadBps, maxQuoteAgeSeconds, minAdv, minDailyTurnover], 0 < x
  location_range : PyFloat.ofDecimal (1 / 2) ≤ minCloseLocation ∧ minCloseLocation ≤ 1
  body_range : 0 ≤ minBodyFraction ∧ minBodyFraction ≤ 1
  observation_pos : 1 ≤ observationBars
  barLag_nonneg : 0 ≤ maxBarLagSeconds
  score_range : 0 ≤ minimumScore ∧ minimumScore ≤ 1
  /-- `ordered`. -/
  extensions_ordered : minExtensionAtr ≤ fullExtensionAtr ∧ fullExtensionAtr ≤ maxExtensionAtr
  full_covers : minimumRelativeVolume ≤ fullRelativeVolume ∧
    minRewardRiskProxy ≤ fullRewardRiskProxy

/-- `BreakoutObservation` (`alphas/breakout_models.py:80-85`). -/
structure BreakoutObservation (F : Type) [PyFloat F] where
  current : MomentumObservation F
  reference : MomentumObservation F
  bar : Bar
  previousBar : Bar
  featureDefinition : FeatureSetVersion F
  deriving DecidableEq

/-- `BreakoutComponent` (`alphas/breakout_models.py:88-93`). -/
structure BreakoutComponent (F : Type) [PyFloat F] where
  name : String
  rawValue : F
  normalizedValue : F
  weight : F
  contribution : F
  normalized_range : 0 ≤ normalizedValue ∧ normalizedValue ≤ 1
  weight_range : 0 ≤ weight ∧ weight ≤ 1

/-- `BreakoutInvalidation` (`alphas/breakout_models.py:96-105`). -/
structure BreakoutInvalidation (F : Type) [PyFloat F] where
  rangeKind : RangeKind
  brokenLevel : F
  invalidationLevel : F
  levelKnownAt : Instant
  triggerBarEnd : Instant
  expiresAt : Instant
  broken_pos : 0 < brokenLevel
  invalidation_pos : 0 < invalidationLevel

/-- The fields of `BreakoutSignalEvidence` (`alphas/breakout_models.py:108-130`). -/
structure BreakoutEvidenceFields (F : Type) [PyFloat F] where
  timestamp : Instant
  instrumentId : String
  symbol : String
  source : String
  side : Side
  score : F
  components : List (BreakoutComponent F)
  checks : List (ThresholdEvidence F)
  invalidation : BreakoutInvalidation F
  settings : BreakoutSettings F
  alphaVersionHash : Digest
  observationHash : Digest
  crossSectionHash : Digest
  universeHash : Digest
  instrumentMasterHash : Digest
  stateHash : Digest
  codeCommit : String
  configHash : Digest
  dataSnapshot : String
  featureSetHash : Digest

variable {F : Type} [PyFloat F] [Platform]

/-- `weights.model_dump()`: the name and the value of each weight. -/
def BreakoutWeights.named (w : BreakoutWeights F) : List (String × F) :=
  [ ("relative_strength", w.relativeStrength), ("breakout_quality", w.breakoutQuality),
    ("relative_volume", w.relativeVolume), ("sector_confirmation", w.sectorConfirmation),
    ("slope_quality", w.slopeQuality), ("reward_risk_proxy", w.rewardRiskProxy),
    ("liquidity_quality", w.liquidityQuality) ]

/-- `BreakoutSettings.version_hash` (`alphas/breakout_models.py:76-77`). -/
def BreakoutSettings.versionHash (cfg : BreakoutSettings F) : Digest := contentHash cfg

/-- The validators of `BreakoutSignalEvidence` (`alphas/breakout_models.py:114,136-148`). -/
def BreakoutEvidenceFields.Consistent (fields : BreakoutEvidenceFields F) : Prop :=
  (0 ≤ fields.score ∧ fields.score ≤ 1) ∧
    fields.alphaVersionHash = fields.settings.versionHash ∧
    PyFloat.IsClose fields.score (PyFloat.sum (fields.components.map (·.contribution)))
      (PyFloat.ofDecimal (1 / 10 ^ 12)) ∧
    (fields.invalidation.levelKnownAt < fields.invalidation.triggerBarEnd ∧
      fields.invalidation.triggerBarEnd ≤ fields.timestamp) ∧
    fields.timestamp < fields.invalidation.expiresAt

instance BreakoutEvidenceFields.decidableConsistent (fields : BreakoutEvidenceFields F) :
    Decidable fields.Consistent :=
  inferInstanceAs (Decidable (_ ∧ _))

/-- `BreakoutSignalEvidence` (`alphas/breakout_models.py:108-148`). -/
structure BreakoutSignalEvidence (F : Type) [PyFloat F] [Platform] extends
    BreakoutEvidenceFields F where
  consistent : toBreakoutEvidenceFields.Consistent

/-- Build the evidence, raising what its validators raise. -/
def BreakoutSignalEvidence.validate (fields : BreakoutEvidenceFields F) :
    Except PyError (BreakoutSignalEvidence F) :=
  if h : fields.Consistent then .ok { toBreakoutEvidenceFields := fields, consistent := h }
  else .error (invalid "BreakoutSignalEvidence"
    "breakout evidence score, version or timing mismatch")

/-- Build a component, raising what its validators raise. -/
def BreakoutComponent.validate (name : String) (raw normalized weight contribution : F) :
    Except PyError (BreakoutComponent F) :=
  if hnormalized : 0 ≤ normalized ∧ normalized ≤ 1 then
    if hweight : 0 ≤ weight ∧ weight ≤ 1 then
      .ok ⟨name, raw, normalized, weight, contribution, hnormalized, hweight⟩
    else .error (invalid "BreakoutComponent" "weight out of range")
  else .error (invalid "BreakoutComponent" "normalized_value out of range")

/-- Build the invalidation, raising what its validators raise. -/
def BreakoutInvalidation.validate (kind : RangeKind) (broken invalidation : F)
    (knownAt triggerBarEnd expiresAt : Instant) : Except PyError (BreakoutInvalidation F) :=
  if hbroken : 0 < broken then
    if hinvalidation : 0 < invalidation then
      .ok ⟨kind, broken, invalidation, knownAt, triggerBarEnd, expiresAt, hbroken, hinvalidation⟩
    else .error (invalid "BreakoutInvalidation" "invalidation level must be positive")
  else .error (invalid "BreakoutInvalidation" "broken level must be positive")

end Godzilla.Alphas
