import Godzilla.Config.Modes
import Godzilla.Ensemble.Models

/-!
# Allocation inputs and proposed targets

`portfolio/models.py` and the inputs record of `portfolio/allocator.py:29-40`.
`Decimal` values are exact rationals. Fields with one permitted value
(`version`, `independent_risk_required`, `execution_authorized`) are left out.
-/

namespace Godzilla.Portfolio
open Godzilla Ensemble MarketState

/-- `AllocatorSettings` (`portfolio/models.py:15-38`). -/
structure AllocatorSettings where
  maxAlpha : ℚ := 4 / 10
  maxGross : ℚ := 1
  maxNet : ℚ := 6 / 10
  maxSymbol : ℚ := 15 / 100
  maxSector : ℚ := 4 / 10
  maxOpenRisk : ℚ := 1 / 100
  maxCandidateRisk : ℚ := 25 / 10000
  maxGroups : Nat := 4
  maxSectorGroups : Nat := 2
  maxAdvParticipation : ℚ := 25 / 10000
  maxTurnoverParticipation : ℚ := 25 / 10000
  maxInputAgeSeconds : Nat := 30
  correlationThreshold : ℚ := 7 / 10
  correlationPenalty : ℚ := 1
  sectorDuplicationPenalty : ℚ := 1 / 2
  alpha_range : 0 < maxAlpha ∧ maxAlpha ≤ 1
  gross_range : 0 < maxGross ∧ maxGross ≤ 1
  net_range : 0 ≤ maxNet ∧ maxNet ≤ 1
  symbol_range : 0 < maxSymbol ∧ maxSymbol ≤ 1
  sector_range : 0 < maxSector ∧ maxSector ≤ 1
  openRisk_range : 0 < maxOpenRisk ∧ maxOpenRisk ≤ 1
  candidateRisk_range : 0 < maxCandidateRisk ∧ maxCandidateRisk ≤ 1
  groups_pos : 1 ≤ maxGroups
  sectorGroups_pos : 1 ≤ maxSectorGroups
  adv_range : 0 < maxAdvParticipation ∧ maxAdvParticipation ≤ 1
  turnover_range : 0 < maxTurnoverParticipation ∧ maxTurnoverParticipation ≤ 1
  age_pos : 0 < maxInputAgeSeconds
  threshold_range : 0 ≤ correlationThreshold ∧ correlationThreshold < 1
  correlationPenalty_nonneg : 0 ≤ correlationPenalty
  sectorPenalty_nonneg : 0 ≤ sectorDuplicationPenalty
  /-- `limits`. -/
  net_le_gross : maxNet ≤ maxGross
  sectorGroups_le : maxSectorGroups ≤ maxGroups

/-- The literal values of `origin`. -/
inductive Origin where
  | existingOrPending
  | proposed
  deriving DecidableEq, Repr

/-- `TargetPosition` (`portfolio/models.py:41-50`). -/
structure TargetPosition where
  entityId : Uuid
  instrumentId : String
  sector : String
  alphaId : AlphaId
  groupId : Uuid
  signedNotionalFraction : ℚ
  openRiskFraction : ℚ
  origin : Origin
  openRisk_nonneg : 0 ≤ openRiskFraction

/-- `PortfolioSnapshot` (`portfolio/models.py:53-67`). -/
structure PortfolioSnapshot where
  snapshotId : String
  timestamp : Instant
  equity : ℚ
  complete : Bool := false
  blocksNewEntries : Bool := true
  positions : List TargetPosition := []
  equity_pos : 0 < equity
  /-- `unique_commitments`. -/
  unique_commitments : (positions.map fun p => (p.groupId, p.entityId)).Nodup

/-- `LiquidityCapacity` (`portfolio/models.py:70-81`). -/
structure LiquidityCapacity where
  entityId : Uuid
  timestamp : Instant
  validUntil : Instant
  price : ℚ
  advShares : ℚ
  dailyTurnover : ℚ
  maxNotional : ℚ
  sourceSnapshot : String
  eligible : Bool := false
  price_pos : 0 < price
  adv_pos : 0 < advShares
  turnover_pos : 0 < dailyTurnover
  notional_pos : 0 < maxNotional

/-- `CandidateRiskEstimate` (`portfolio/models.py:84-91`). -/
structure CandidateRiskEstimate where
  signalId : Uuid
  timestamp : Instant
  lossPerGross : ℚ
  volatilityPenalty : ℚ := 1
  sourceSnapshot : String
  loss_range : 0 < lossPerGross ∧ lossPerGross ≤ 1
  penalty_min : 1 ≤ volatilityPenalty
  deriving DecidableEq

/-- `CorrelationEstimate` (`portfolio/models.py:94-97`). -/
structure CorrelationEstimate where
  left : Uuid
  right : Uuid
  value : ℚ
  value_range : -1 ≤ value ∧ value ≤ 1
  deriving DecidableEq

/-- `CorrelationSnapshot` (`portfolio/models.py:100-106`). -/
structure CorrelationSnapshot where
  timestamp : Instant
  trainingEnd : Instant
  estimates : List CorrelationEstimate
  sourceSnapshot : String
  deriving DecidableEq

/-- `AllocationRecord` (`portfolio/models.py:109-114`). -/
structure AllocationRecord where
  signalId : Uuid
  allocatedGross : ℚ
  healthMultiplier : ℚ
  penalty : ℚ
  reasons : List String
  gross_nonneg : 0 ≤ allocatedGross
  multiplier_range : 0 ≤ healthMultiplier ∧ healthMultiplier ≤ 1
  penalty_min : 1 ≤ penalty

/-- `PortfolioDecision` (`portfolio/models.py:117-128`). -/
structure PortfolioDecision where
  decisionId : Uuid
  timestamp : Instant
  targets : List TargetPosition
  allocations : List AllocationRecord
  reasons : List String
  inputHash : Digest
  settings : AllocatorSettings

/-- `EnsembleRejection` (`portfolio/models.py:131-133`). -/
structure EnsembleRejection where
  signalId : Uuid
  reasons : List String
  deriving DecidableEq

/-- `EnsembleDecision` (`portfolio/models.py:136-145`). -/
structure EnsembleDecision where
  decisionId : Uuid
  timestamp : Instant
  candidates : List NormalizedCandidate
  rejected : List Uuid
  reasons : List String
  inputHash : Digest
  rejectionReasons : List EnsembleRejection := []
  deriving DecidableEq

/-- `AllocationInputs` (`portfolio/allocator.py:29-40`). -/
structure AllocationInputs (F : Type) [PyFloat F] [Platform] where
  ensemble : EnsembleDecision
  registry : AlphaRegistry F
  health : List (AlphaHealthSnapshot F)
  portfolio : PortfolioSnapshot
  liquidity : List LiquidityCapacity
  estimates : List CandidateRiskEstimate
  correlations : CorrelationSnapshot
  state : StateDecision F
  settings : AllocatorSettings
  now : Instant
  mode : TradingMode

end Godzilla.Portfolio
