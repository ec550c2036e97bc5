import Godzilla.MarketState.Models

/-!
# Cross-sectional momentum: settings and score evidence

`alphas/momentum_models.py`. What callers supply carries its validators as
fields; what the engine builds is checked when it is built. `model_copy` runs no
validator, so the percentile it writes into a score has no range.
-/

namespace Godzilla.Alphas
open Godzilla Features MarketState

/-- `ALPHA_ID` (`alphas/momentum_models.py:12`). -/
def momentumAlphaId : String := "cross_sectional_momentum"

/-- `MomentumWeights` (`alphas/momentum_models.py:15-30`). -/
structure MomentumWeights (F : Type) [PyFloat F] where
  return30m : F := PyFloat.ofDecimal (1 / 5)
  return60m : F := PyFloat.ofDecimal (1 / 5)
  return120m : F := PyFloat.ofDecimal (1 / 5)
  relativeSector30m : F := PyFloat.ofDecimal (3 / 20)
  relativeMarket30m : F := PyFloat.ofDecimal (3 / 20)
  trendQuality : F := PyFloat.ofDecimal (1 / 20)
  liquidityQuality : F := PyFloat.ofDecimal (1 / 20)
  ranges : ∀ w ∈ [return30m, return60m, return120m, relativeSector30m, relativeMarket30m,
    trendQuality, liquidityQuality], 0 ≤ w ∧ w ≤ 1
  /-- `normalized`. -/
  normalized : PyFloat.IsClose (PyFloat.sum [return30m, return60m, return120m,
    relativeSector30m, relativeMarket30m, trendQuality, liquidityQuality]) 1
      (PyFloat.ofDecimal (1 / 10 ^ 12))
  directional : liquidityQuality ≠ 1
  deriving DecidableEq

/-- `weights.model_dump()`: the name and the value of each weight. -/
def MomentumWeights.named {F : Type} [PyFloat F] (w : MomentumWeights F) : List (String × F) :=
  [ ("return_30m", w.return30m), ("return_60m", w.return60m), ("return_120m", w.return120m),
    ("relative_sector_30m", w.relativeSector30m), ("relative_market_30m", w.relativeMarket30m),
    ("trend_quality", w.trendQuality), ("liquidity_quality", w.liquidityQuality) ]

/-- `MomentumSettings` (`alphas/momentum_models.py:33-48`). -/
structure MomentumSettings (F : Type) [PyFloat F] where
  version : String := "momentum-research-v1"
  weights : MomentumWeights F
  excludeRecent5m : Bool := false
  enabled : Bool := true
  longTailFraction : F := PyFloat.ofDecimal (1 / 5)
  shortTailFraction : F := PyFloat.ofDecimal (1 / 5)
  maxCandidatesPerSide : Nat := 5
  minimumUniverseSize : Nat := 10
  maxSpreadBps : F := 12
  maxQuoteAgeSeconds : F := 3
  minAdv : F := 100000
  minDailyTurnover : F := 10000000
  longTail_range : 0 < longTailFraction ∧ longTailFraction < PyFloat.ofDecimal (1 / 2)
  shortTail_range : 0 < shortTailFraction ∧ shortTailFraction < PyFloat.ofDecimal (1 / 2)
  candidates_pos : 1 ≤ maxCandidatesPerSide
  universe_min : 2 ≤ minimumUniverseSize
  spread_pos : 0 < maxSpreadBps
  quoteAge_pos : 0 < maxQuoteAgeSeconds
  adv_pos : 0 < minAdv
  turnover_pos : 0 < minDailyTurnover

/-- `MomentumObservation` (`alphas/momentum_models.py:51-53`). -/
structure MomentumObservation (F : Type) where
  snapshot : FeatureSnapshot F
  context : FeatureContext F
  deriving DecidableEq

/-- `ScoreComponent` (`alphas/momentum_models.py:56-62`). -/
structure ScoreComponent (F : Type) [PyFloat F] where
  name : String
  rawValue : F
  rankValue : F
  weight : F
  longContribution : F
  shortContribution : F
  rank_range : 0 ≤ rankValue ∧ rankValue ≤ 1
  weight_range : 0 ≤ weight ∧ weight ≤ 1

/-- `MomentumScore` (`alphas/momentum_models.py:65-78`). -/
structure MomentumScore (F : Type) [PyFloat F] where
  instrumentId : String
  symbol : String
  sector : String
  strength : F
  percentile : F
  longScore : F
  shortScore : F
  components : List (ScoreComponent F)
  longConfirmed : Bool
  shortConfirmed : Bool
  liquidityConfirmed : Bool
  reasons : List String
  featureHash : Digest
  strength_range : 0 ≤ strength ∧ strength ≤ 1
  longScore_range : 0 ≤ longScore ∧ longScore ≤ 1
  shortScore_range : 0 ≤ shortScore ∧ shortScore ≤ 1

/-- The fields of `MomentumSignalEvidence` (`alphas/momentum_models.py:81-95`). -/
structure MomentumEvidenceFields (F : Type) [PyFloat F] where
  timestamp : Instant
  side : Side
  score : F
  ranked : MomentumScore F
  settings : MomentumSettings F
  alphaVersionHash : Digest
  universeHash : Digest
  instrumentMasterHash : Digest
  crossSectionHash : Digest
  stateHash : Digest
  codeCommit : String
  configHash : Digest
  dataSnapshot : String
  featureSetHash : Digest

variable {F : Type} [PyFloat F] [Platform]

/-- `MomentumSettings.version_hash` (`alphas/momentum_models.py:47-48`). -/
def MomentumSettings.versionHash (cfg : MomentumSettings F) : Digest := contentHash cfg

/-- The score a side takes from a ranked card. -/
def MomentumScore.sideScore (card : MomentumScore F) : Side → F
  | .long => card.longScore
  | .short => card.shortScore

/-- The validators of `MomentumSignalEvidence` (`alphas/momentum_models.py:84,112-117`). -/
def MomentumEvidenceFields.Consistent (fields : MomentumEvidenceFields F) : Prop :=
  (0 ≤ fields.score ∧ fields.score ≤ 1) ∧ fields.score = fields.ranked.sideScore fields.side ∧
    fields.alphaVersionHash = fields.settings.versionHash

instance MomentumEvidenceFields.decidableConsistent (fields : MomentumEvidenceFields F) :
    Decidable fields.Consistent :=
  inferInstanceAs (Decidable (_ ∧ _))

/-- `MomentumSignalEvidence` (`alphas/momentum_models.py:81-117`). -/
structure MomentumSignalEvidence (F : Type) [PyFloat F] [Platform] extends
    MomentumEvidenceFields F where
  consistent : toMomentumEvidenceFields.Consistent

/-- Build the evidence, raising what its validators raise. -/
def MomentumSignalEvidence.validate (fields : MomentumEvidenceFields F) :
    Except PyError (MomentumSignalEvidence F) :=
  if h : fields.Consistent then .ok { toMomentumEvidenceFields := fields, consistent := h }
  else .error (invalid "MomentumSignalEvidence" "signal score/configuration mismatch")

/-- Build a component, raising what its validators raise. -/
def ScoreComponent.validate (name : String) (raw rank weight long short : F) :
    Except PyError (ScoreComponent F) :=
  if hrank : 0 ≤ rank ∧ rank ≤ 1 then
    if hweight : 0 ≤ weight ∧ weight ≤ 1 then
      .ok ⟨name, raw, rank, weight, long, short, hrank, hweight⟩
    else .error (invalid "ScoreComponent" "weight out of range")
  else .error (invalid "ScoreComponent" "rank_value out of range")

end Godzilla.Alphas
