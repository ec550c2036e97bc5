import Godzilla.Alphas.PairsWire
import Godzilla.Alphas.RelativeValueModels

/-!
# Relative-value intents in JSON

The codecs of the models of `alphas/relative_value_models.py` that a basket is made of.
-/

namespace Godzilla.Alphas

/-- The text of the construction. -/
def Construction.text : Construction → String
  | pair => "PAIR"
  | basket => "BASKET"

end Godzilla.Alphas

namespace Godzilla.Wire
open Misc Codec Alphas

def construction : Codec Construction :=
  tag [.pair, .basket] Construction.text fun construction => by cases construction <;> decide

variable (F : Type) [PyFloat F] [ScalarCodecs F]

/-- `RelativeValueSettings` (`alphas/relative_value_models.py:35-65`). -/
def relativeValueSettings : Codec (RelativeValueSettings F) :=
  .object (
    .defaulted "construction" construction .pair (·.construction) <|
    .defaulted "enabled" (flag F) true (·.enabled) <|
    .literal "live_enabled" (.bool false) <|
    .defaulted "max_beta" (float F) 3 (·.maxBeta) <|
    .defaulted "max_beta_gross" (float F) (PyFloat.ofDecimal (1 / 50)) (·.maxBetaGross) <|
    .defaulted "max_inventory_age_seconds" (float F) 30 (·.maxInventoryAgeSeconds) <|
    .defaulted "max_leg_lag_seconds" (float F) 3 (·.maxLegLagSeconds) <|
    .defaulted "max_net_gross" (float F) (PyFloat.ofDecimal (3 / 20)) (·.maxNetGross) <|
    .defaulted "max_quote_age_seconds" (float F) 3 (·.maxQuoteAgeSeconds) <|
    .defaulted "max_split_beta_drift" (float F) (PyFloat.ofDecimal (1 / 2))
      (·.maxSplitBetaDrift) <|
    .defaulted "max_spread_bps" (float F) 12 (·.maxSpreadBps) <|
    .defaulted "members_per_side" (count F) 2 (·.membersPerSide) <|
    .defaulted "min_adv" (float F) 100000 (·.minAdv) <|
    .defaulted "min_beta" (float F) (PyFloat.ofDecimal (1 / 5)) (·.minBeta) <|
    .defaulted "min_residual_gap" (float F) (PyFloat.ofDecimal (1 / 500)) (·.minResidualGap) <|
    .defaulted "min_turnover" (float F) 10000000 (·.minTurnover) <|
    .defaulted "minimum_sector_size" (count F) 4 (·.minimumSectorSize) <|
    .defaulted "sector_residual_weight" (float F) (PyFloat.ofDecimal (1 / 2))
      (·.sectorResidualWeight) <|
    .defaulted "tail_fraction" (float F) (PyFloat.ofDecimal (1 / 4)) (·.tailFraction) <|
    .defaulted "training_returns" (count F) 24 (·.trainingReturns) <|
    .literal "version" (.str "sector-rv-research-v1") .done)
    (fun (construction, enabled, maxBeta, betaGross, inventoryAge, legLag, netGross, quoteAge, drift,
        spread, members, adv, minBeta, gap, turnover, sectorSize, weight, tail, training, _) =>
      if h : (1 ≤ members ∧ members ≤ 5) ∧ 2 ≤ sectorSize ∧
          (0 < tail ∧ tail < PyFloat.ofDecimal (1 / 2)) ∧ (0 ≤ weight ∧ weight ≤ 1) ∧
          8 ≤ training ∧
          (∀ x ∈ [gap, minBeta, maxBeta, drift, inventoryAge, spread, quoteAge, adv, turnover,
            legLag], 0 < x) ∧
          (0 ≤ netGross ∧ netGross < 1) ∧ (0 ≤ betaGross ∧ betaGross < 1) ∧ minBeta < maxBeta then
        some (
          let ⟨hmembers, hsize, htail, hweight, htraining, hpositive, hnet, hbeta, hordered⟩ := h
          ⟨enabled, construction, members, sectorSize, tail, weight, gap, training, minBeta, maxBeta,
            drift, netGross, betaGross, inventoryAge, spread, quoteAge, adv, turnover, legLag,
            hmembers, hsize, htail, hweight, htraining, hpositive, hnet, hbeta, hordered⟩)
      else none)
    (fun cfg => by
      dsimp
      exact dite_eq_some ⟨cfg.members_range, cfg.sector_min, cfg.tail_range, cfg.weight_range,
        cfg.training_min, cfg.positive, cfg.net_range, cfg.beta_range, cfg.beta_ordered⟩ rfl)

/-- `BetaEstimate` (`alphas/relative_value_models.py:78-90`). -/
def betaEstimate : Codec (BetaEstimate F) :=
  .object (
    .field "beta" (float F) (·.beta) <|
    .field "input_hash" text (·.inputHash) <|
    .field "intercept" (float F) (·.intercept) <|
    .field "market_hash" text (·.marketHash) <|
    .literal "method" (.str "OLS_SIMPLE_RETURNS_INTERCEPT_V1") <|
    .field "returns" (count F) (·.returns) <|
    .field "split_drift" (float F) (·.splitDrift) <|
    .field "training_end" (instant F) (·.trainingEnd) <|
    .field "training_start" (instant F) (·.trainingStart) .done)
    (fun (beta, inputHash, intercept, marketHash, returns, drift, stop, start, _) =>
      if h : 0 ≤ drift ∧ 8 ≤ returns then
        some ⟨beta, intercept, drift, start, stop, returns, inputHash, marketHash, h.1, h.2⟩
      else none)
    (fun estimate => by
      dsimp
      exact dite_eq_some ⟨estimate.drift_nonneg, estimate.returns_min⟩ rfl)

/-- `RelativeValueLeg` (`alphas/relative_value_models.py:108-118`). -/
def relativeValueLeg : Codec (RelativeValueLeg F) :=
  .object (
    .field "beta" (betaEstimate F) (·.beta) <|
    .field "entity_id" (uuid F) (·.entityId) <|
    .field "feature_hash" text (·.featureHash) <|
    .field "gross_fraction" (float F) (·.grossFraction) <|
    .field "instrument_id" text (·.instrumentId) <|
    .field "percentile" (float F) (·.percentile) <|
    .field "residual_strength" (float F) (·.residualStrength) <|
    .field "sector" text (·.sector) <|
    .field "side" side (·.side) <|
    .field "symbol" text (·.symbol) .done)
    (fun (beta, entityId, featureHash, gross, instrumentId, percentile, residual, sector, side,
        symbol, _) =>
      if h : (0 < gross ∧ gross < 1) ∧ 0 ≤ percentile ∧ percentile ≤ 1 then
        some ⟨entityId, instrumentId, symbol, sector, side, gross, residual, percentile, beta,
          featureHash, h.1, h.2⟩
      else none)
    (fun leg => by dsimp; exact dite_eq_some ⟨leg.gross_range, leg.percentile_range⟩ rfl)

/-- `RelativeValueRiskReference` (`alphas/relative_value_models.py:121-131`). -/
def relativeValueRiskReference : Codec (RelativeValueRiskReference F) :=
  .object (
    .field "flatten_by" (instant F) (·.flattenBy) <|
    .field "long_beta" (float F) (·.longBeta) <|
    .literal "model" (.str "ESTIMATED_NIFTY_BETA_NOT_RISK_APPROVAL") <|
    .field "short_beta" (float F) (·.shortBeta) <|
    .field "signed_beta_gross" (float F) (·.signedBetaGross) <|
    .field "signed_net_gross" (float F) (·.signedNetGross) .done)
    (fun (flattenBy, longBeta, shortBeta, betaGross, netGross, _) =>
      if h : 0 < longBeta ∧ 0 < shortBeta then
        some ⟨netGross, betaGross, longBeta, shortBeta, flattenBy, h⟩
      else none)
    (fun reference => by dsimp; exact dite_eq_some reference.betas_pos rfl)

/-- `RelativeValueIntent` (`alphas/relative_value_models.py:134-206`). -/
def relativeValueIntent : Codec (RelativeValueIntent F) :=
  .object (
    .literal "alpha_id" (.str relativeValueAlphaId) <|
    .field "code_commit" text (·.codeCommit) <|
    .field "config_hash" text (·.configHash) <|
    .field "cross_section_hash" text (·.crossSectionHash) <|
    .field "data_snapshot" text (·.dataSnapshot) <|
    .field "entity_id" (uuid F) (·.entityId) <|
    .nested "execution" (pairedExecutionRequirements F)
      (.obj [("max_leg_lag_seconds", (float F).enc 3)]) (·.execution) <|
    .field "feature_set_hash" text (·.featureSetHash) <|
    .field "hedge_ratio" (float F) (·.hedgeRatio) <|
    .field "inventory_hash" text (·.inventoryHash) <|
    .literal "kind" (.str "RELATIVE_VALUE_INTENT") <|
    .field "legs" (relativeValueLeg F).list (·.legs) <|
    .field "master_hash" text (·.masterHash) <|
    .field "reasons" texts (·.reasons) <|
    .field "risk_reference" (relativeValueRiskReference F) (·.riskReference) <|
    .field "sector" text (·.sector) <|
    .field "settings" (relativeValueSettings F) (·.settings) <|
    .field "signal_id" (uuid F) (·.signalId) <|
    .field "state_hash" text (·.stateHash) <|
    .field "timestamp" (instant F) (·.timestamp) <|
    .field "universe_hash" text (·.universeHash) .done)
    (fun (codeCommit, configHash, crossSectionHash, dataSnapshot, entityId, execution,
        featureSetHash, hedgeRatio, inventoryHash, legs, masterHash, reasons, riskReference, sector,
        settings, signalId, stateHash, timestamp, universeHash, _) =>
      let fields : RelativeValueFields F := ⟨signalId, entityId, timestamp, sector, legs, hedgeRatio,
        riskReference, execution, reasons, settings, universeHash, masterHash, inventoryHash,
        stateHash, crossSectionHash, codeCommit, configHash, dataSnapshot, featureSetHash⟩
      if h : fields.CoherentExposure then some ⟨fields, h⟩ else none)
    (fun intent => by dsimp; exact dite_eq_some intent.coherent_exposure rfl)

end Godzilla.Wire
