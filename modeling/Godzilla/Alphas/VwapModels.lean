import Godzilla.Features.VwapReversion
import Godzilla.MarketState.Models

/-!
# VWAP mean reversion: settings, liquidity and evidence

`alphas/vwap_models.py`. Fields with one permitted value (`version`,
`live_enabled`, `reference_policy`, `executable_order`) are left out.
-/

namespace Godzilla.Alphas
open Godzilla Features MarketData MarketState

/-- `VWAP_ALPHA_ID` (`alphas/vwap_models.py:13`). -/
def vwapAlphaId : String := "vwap_mean_reversion"

/-- `VwapSettings` (`alphas/vwap_models.py:16-49`). -/
structure VwapSettings (F : Type) [PyFloat F] where
  enabled : Bool := true
  researchRegimeOverride : Bool := false
  features : ReversionFeatureVersion
  minStretch : F := 2
  maxStretch : F := 6
  minImpulse : F := PyFloat.ofDecimal (1 / 2)
  maxDecelerationRatio : F := PyFloat.ofDecimal (7 / 10)
  minReversal : F := PyFloat.ofDecimal (1 / 10)
  minBody : F := PyFloat.ofDecimal (1 / 20)
  minCloseLocation : F := PyFloat.ofDecimal (13 / 20)
  startMinutes : Nat := 75
  endMinutes : Nat := 300
  maxHoldMinutes : Nat := 30
  convergenceFraction : F := PyFloat.ofDecimal (4 / 5)
  adverseScale : F := 1
  maxSpreadBps : F := 12
  maxQuoteAgeSeconds : F := 3
  maxBarLagSeconds : F := 30
  liquidityMaxAgeSeconds : F := 86400
  minAdv : F := 100000
  minTurnover : F := 10000000
  positive : ∀ x ∈ [minStretch, maxStretch, minImpulse, maxDecelerationRatio, minReversal,
    minBody, convergenceFraction, adverseScale, maxSpreadBps, maxQuoteAgeSeconds,
    liquidityMaxAgeSeconds, minAdv, minTurnover], 0 < x
  deceleration_lt : maxDecelerationRatio < 1
  location_range : PyFloat.ofDecimal (1 / 2) ≤ minCloseLocation ∧ minCloseLocation ≤ 1
  end_pos : 1 ≤ endMinutes
  hold_pos : 1 ≤ maxHoldMinutes
  convergence_le : convergenceFraction ≤ 1
  barLag_nonneg : 0 ≤ maxBarLagSeconds
  /-- `ordered`. -/
  ordered : minStretch < maxStretch ∧ startMinutes < endMinutes

/-- `VwapLiquidity` (`alphas/vwap_models.py:52-59`). -/
structure VwapLiquidity (F : Type) [PyFloat F] where
  quote : Quote
  adv : F
  dailyTurnover : F
  knownAt : Instant
  snapshotId : String
  adv_pos : 0 < adv
  turnover_pos : 0 < dailyTurnover

/-- `VwapExitMetadata` (`alphas/vwap_models.py:62-77`). -/
structure VwapExitMetadata (F : Type) [PyFloat F] where
  convergencePrice : F
  adversePrice : F
  timeStop : Instant
  entryState : MarketState
  reasons : List String :=
    ["VWAP_CONVERGENCE", "TIME_STOP", "ADVERSE_CONTINUATION", "STATE_CHANGE"]
  convergence_pos : 0 < convergencePrice
  adverse_pos : 0 < adversePrice

/-- The fields of `VwapSignalEvidence` (`alphas/vwap_models.py:80-98`). -/
structure VwapEvidenceFields (F : Type) [PyFloat F] where
  timestamp : Instant
  instrumentId : String
  symbol : String
  source : String
  side : Side
  score : F
  features : ReversionFeatures F
  exits : VwapExitMetadata F
  settings : VwapSettings F
  alphaVersionHash : Digest
  featureSetHash : Digest
  universeHash : Digest
  instrumentMasterHash : Digest
  stateHash : Digest
  liquidityHash : Digest
  codeCommit : String
  configHash : Digest
  dataSnapshot : String

variable {F : Type} [PyFloat F] [Platform]

/-- `VwapSettings.version_hash` (`alphas/vwap_models.py:48-49`). -/
def VwapSettings.versionHash (cfg : VwapSettings F) : Digest := contentHash cfg

/-- The validators of `VwapSignalEvidence` (`alphas/vwap_models.py:86,104-116`). -/
def VwapEvidenceFields.Consistent (fields : VwapEvidenceFields F) : Prop :=
  (0 ≤ fields.score ∧ fields.score ≤ 1) ∧
    fields.alphaVersionHash = fields.settings.versionHash ∧
    fields.featureSetHash = fields.features.definition.versionHash ∧
    fields.features.definition = fields.settings.features ∧
    fields.instrumentId = fields.features.instrumentId ∧
    fields.source = fields.features.source ∧
    fields.features.timestamp ≤ fields.timestamp ∧
    fields.timestamp < fields.exits.timeStop

instance VwapEvidenceFields.decidableConsistent (fields : VwapEvidenceFields F) :
    Decidable fields.Consistent :=
  inferInstanceAs (Decidable (_ ∧ _))

/-- `VwapSignalEvidence` (`alphas/vwap_models.py:80-116`). -/
structure VwapSignalEvidence (F : Type) [PyFloat F] [Platform] extends VwapEvidenceFields F where
  consistent : toVwapEvidenceFields.Consistent

/-- Build the evidence, raising what its validators raise. -/
def VwapSignalEvidence.validate (fields : VwapEvidenceFields F) :
    Except PyError (VwapSignalEvidence F) :=
  if h : fields.Consistent then .ok { toVwapEvidenceFields := fields, consistent := h }
  else .error (invalid "VwapSignalEvidence" "VWAP evidence identity/version/timing mismatch")

/-- Build the exit metadata, raising what its validators raise. -/
def VwapExitMetadata.validate (convergence adverse : F) (timeStop : Instant)
    (entryState : MarketState) : Except PyError (VwapExitMetadata F) :=
  if hconvergence : 0 < convergence then
    if hadverse : 0 < adverse then
      .ok { convergencePrice := convergence, adversePrice := adverse, timeStop := timeStop,
            entryState := entryState, convergence_pos := hconvergence, adverse_pos := hadverse }
    else .error (invalid "VwapExitMetadata" "adverse price must be positive")
  else .error (invalid "VwapExitMetadata" "convergence price must be positive")

end Godzilla.Alphas
