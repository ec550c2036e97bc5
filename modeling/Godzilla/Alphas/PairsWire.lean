import Godzilla.Alphas.PairsModels
import Godzilla.MarketState.Wire

/-!
# Pair intents in JSON

The codecs of the models of `alphas/pairs_models.py` that a pair intent is made of.
-/

namespace Godzilla.Alphas

/-- The text of the action. -/
def PairAction.text : PairAction → String
  | enter => "ENTER"
  | exit => "EXIT"

end Godzilla.Alphas

namespace Godzilla.Wire
open Misc Codec Alphas

def spreadDirection : Codec SpreadDirection :=
  tag [.longSpread, .shortSpread] SpreadDirection.text fun direction => by
    cases direction <;> decide

def pairAction : Codec PairAction :=
  tag [.enter, .exit] PairAction.text fun action => by cases action <;> decide

variable (F : Type) [PyFloat F] [ScalarCodecs F]

/-- `PairsSettings` (`alphas/pairs_models.py:15-54`). -/
def pairsSettings : Codec (PairsSettings F) :=
  .object (
    .defaulted "enabled" (flag F) true (·.enabled) <|
    .defaulted "entry_z" (float F) 2 (·.entryZ) <|
    .defaulted "exit_z" (float F) (PyFloat.ofDecimal (1 / 2)) (·.exitZ) <|
    .literal "formula_revision" (.str "1") <|
    .defaulted "liquidity_metadata_max_age_seconds" (count F) 86400
      (·.liquidityMetadataMaxAgeSeconds) <|
    .literal "live_enabled" (.bool false) <|
    .defaulted "max_bar_lag_seconds" (float F) 30 (·.maxBarLagSeconds) <|
    .defaulted "max_beta" (float F) 2 (·.maxBeta) <|
    .defaulted "max_beta_drift" (float F) (PyFloat.ofDecimal (1 / 4)) (·.maxBetaDrift) <|
    .defaulted "max_half_life_bars" (float F) 30 (·.maxHalfLifeBars) <|
    .defaulted "max_hold_minutes" (count F) 60 (·.maxHoldMinutes) <|
    .defaulted "max_leg_lag_seconds" (float F) 3 (·.maxLegLagSeconds) <|
    .defaulted "max_net_gross_fraction" (float F) (PyFloat.ofDecimal (1 / 5))
      (·.maxNetGrossFraction) <|
    .defaulted "max_spread_bps" (float F) 12 (·.maxSpreadBps) <|
    .defaulted "max_spread_mean_shift" (float F) (PyFloat.ofDecimal (3 / 2))
      (·.maxSpreadMeanShift) <|
    .defaulted "max_spread_std_ratio" (float F) 3 (·.maxSpreadStdRatio) <|
    .defaulted "min_adv" (float F) 100000 (·.minAdv) <|
    .defaulted "min_beta" (float F) (PyFloat.ofDecimal (1 / 2)) (·.minBeta) <|
    .defaulted "min_half_life_bars" (float F) (PyFloat.ofDecimal (1 / 2)) (·.minHalfLifeBars) <|
    .defaulted "min_spread_std" (float F) (PyFloat.ofDecimal (1 / 100000)) (·.minSpreadStd) <|
    .defaulted "min_turnover" (float F) 10000000 (·.minTurnover) <|
    .defaulted "quote_max_age_seconds" (float F) 3 (·.quoteMaxAgeSeconds) <|
    .defaulted "significance" (float F) (PyFloat.ofDecimal (1 / 20)) (·.significance) <|
    .defaulted "stop_z" (float F) 4 (·.stopZ) <|
    .defaulted "test_lags" (count F) 1 (·.testLags) <|
    .defaulted "training_bars" (count F) 250 (·.trainingBars) <|
    .defaulted "version" text "pairs-research-v1" (·.version) .done)
    (fun (enabled, entryZ, exitZ, metadataAge, barLag, maxBeta, drift, maxHalf, hold, legLag, net,
        spread, shift, ratio, adv, minBeta, minHalf, std, turnover, quoteAge, significance, stopZ,
        lags, bars, version, _) =>
      if h : 60 ≤ bars ∧ lags ≤ 10 ∧
          (0 < significance ∧ significance ≤ PyFloat.ofDecimal (1 / 10)) ∧
          (∀ x ∈ [minBeta, maxBeta, drift, std, shift, minHalf, maxHalf, entryZ, stopZ, spread,
            quoteAge, adv, turnover, legLag], 0 < x) ∧
          1 ≤ ratio ∧ 0 ≤ exitZ ∧ 1 ≤ hold ∧ (0 ≤ net ∧ net < 1) ∧ 0 ≤ barLag ∧
          0 < metadataAge ∧ (exitZ < entryZ ∧ entryZ < stopZ) ∧ minBeta < maxBeta ∧
          minHalf < maxHalf then
        some (
          let ⟨hbars, hlags, hsignificance, hpositive, hratio, hexit, hhold, hnet, hlag, hage, hz,
            hlimits⟩ := h
          ⟨version, enabled, bars, lags, significance, minBeta, maxBeta, drift, std, ratio, shift,
            minHalf, maxHalf, entryZ, exitZ, stopZ, hold, net, spread, quoteAge, barLag, adv,
            turnover, metadataAge, legLag, hbars, hlags, hsignificance, hpositive, hratio, hexit,
            hhold, hnet, hlag, hage, hz, hlimits⟩)
      else none)
    (fun cfg => by
      dsimp
      exact dite_eq_some ⟨cfg.training_min, cfg.lags_max, cfg.significance_range, cfg.positive,
        cfg.ratio_min, cfg.exit_nonneg, cfg.hold_pos, cfg.net_range, cfg.barLag_nonneg,
        cfg.metadataAge_pos, cfg.z_ordered, cfg.limits_ordered⟩ rfl)

/-- `PairCandidate` (`alphas/pairs_models.py:57-82`). -/
def pairCandidate : Codec PairCandidate :=
  .object (
    .field "adjustment_snapshot" nonempty (·.adjustmentSnapshot) <|
    .defaulted "corporate_actions_clear" (flag F) false (·.corporateActionsClear) <|
    .field "economic_tags" (texts.such (· ≠ [])) (·.economicTags) <|
    .field "effective_from" (instant F) (·.effectiveFrom) <|
    .field "effective_to" (instant F) (·.effectiveTo) <|
    .field "known_at" (instant F) (·.knownAt) <|
    .field "left" instrumentRef (·.left) <|
    .field "left_sector" nonempty (·.leftSector) <|
    .field "pair_id" nonempty (·.pairId) <|
    .field "rationale" nonempty (·.rationale) <|
    .field "reviewed_at" (instant F) (·.reviewedAt) <|
    .field "right" instrumentRef (·.right) <|
    .field "right_sector" nonempty (·.rightSector) <|
    .field "source_reference" nonempty (·.sourceReference) .done)
    (fun (adjustment, clear, tags, effectiveFrom, effectiveTo, knownAt, left, leftSector, pairId,
        rationale, reviewedAt, right, rightSector, reference, _) =>
      if h : left.instrumentId ≠ right.instrumentId ∧ effectiveFrom < effectiveTo then
        some ⟨pairId, left, right, tags, leftSector, rightSector, rationale, reference, knownAt,
          effectiveFrom, effectiveTo, reviewedAt, clear, adjustment, h.1, h.2⟩
      else none)
    (fun candidate => by
      dsimp
      exact dite_eq_some ⟨candidate.distinct_legs, candidate.window_ordered⟩ rfl)

/-- `StatisticalTests` (`alphas/pairs_models.py:100-105`). -/
def statisticalTests : Codec (StatisticalTests F) :=
  .object (
    .field "cointegration_p" (float F) (·.cointegrationP) <|
    .field "left_level_adf_p" (float F) (·.leftLevelAdfP) <|
    .field "method_version" text (·.methodVersion) <|
    .field "right_level_adf_p" (float F) (·.rightLevelAdfP) <|
    .field "spread_adf_p" (float F) (·.spreadAdfP) .done)
    (fun (cointegration, left, method, right, spread, _) =>
      if h : ∀ p ∈ [cointegration, spread, left, right], 0 ≤ p ∧ p ≤ 1 then
        some ⟨method, cointegration, spread, left, right, h⟩
      else none)
    (fun tests => by dsimp; exact dite_eq_some tests.ranges rfl)

/-- `PairFit` (`alphas/pairs_models.py:108-123`). -/
def pairFit : Codec (PairFit F) :=
  .object (
    .field "beta" (float F) (·.beta) <|
    .nullable "half_life_bars" (float F) (·.halfLifeBars) <|
    .field "intercept" (float F) (·.intercept) <|
    .field "observations" (integer F) (·.observations) <|
    .field "split_beta_drift" (float F) (·.splitBetaDrift) <|
    .field "spread_mean" (float F) (·.spreadMean) <|
    .field "spread_mean_shift" (float F) (·.spreadMeanShift) <|
    .field "spread_std" (float F) (·.spreadStd) <|
    .field "spread_std_ratio" (float F) (·.spreadStdRatio) <|
    .field "tests" (statisticalTests F) (·.tests) <|
    .field "training_end" (instant F) (·.trainingEnd) <|
    .field "training_hash" text (·.trainingHash) <|
    .field "training_start" (instant F) (·.trainingStart) .done)
    (fun (beta, halfLife, intercept, observations, drift, mean, shift, std, ratio, tests, stop, hash,
        start, _) =>
      if h : 0 < std then
        some ⟨beta, intercept, mean, std, halfLife, drift, ratio, shift, tests, start, stop, hash,
          observations, h⟩
      else none)
    (fun fit => by dsimp; exact dite_eq_some fit.std_pos rfl)

/-- `PairLeg` (`alphas/pairs_models.py:139-142`). -/
def pairLeg : Codec (PairLeg F) :=
  .object (
    .field "gross_fraction" (float F) (·.grossFraction) <|
    .field "instrument_id" text (·.instrumentId) <|
    .field "side" side (·.side) .done)
    (fun (gross, instrumentId, side, _) =>
      if h : 0 < gross ∧ gross < 1 then some ⟨instrumentId, side, gross, h⟩ else none)
    (fun leg => by dsimp; exact dite_eq_some leg.gross_range rfl)

/-- `CombinedRiskReference` (`alphas/pairs_models.py:145-157`). -/
def combinedRiskReference : Codec (CombinedRiskReference F) :=
  .object (
    .field "adverse_boundary_z" (float F) (·.adverseBoundaryZ) <|
    .field "current_spread" (float F) (·.currentSpread) <|
    .field "current_z" (float F) (·.currentZ) <|
    .field "maximum_hold_until" (instant F) (·.maximumHoldUntil) <|
    .literal "model" (.str "OLS_LOG_SPREAD_HEDGE_NOT_A_RISK_APPROVAL") <|
    .field "net_gross_fraction" (float F) (·.netGrossFraction) <|
    .field "spread_mean" (float F) (·.spreadMean) <|
    .field "spread_std" (float F) (·.spreadStd) .done)
    (fun (boundary, spread, zscore, holdUntil, net, mean, std, _) =>
      if h : 0 < std ∧ 0 ≤ net ∧ net < 1 then
        some ⟨mean, std, spread, zscore, boundary, holdUntil, net, h.1, h.2⟩
      else none)
    (fun reference => by
      dsimp
      exact dite_eq_some ⟨reference.std_pos, reference.net_range⟩ rfl)

/-- `PairedExecutionRequirements` (`alphas/pairs_models.py:160-169`). -/
def pairedExecutionRequirements : Codec (PairedExecutionRequirements F) :=
  .object (
    .literal "both_legs_required" (.bool true) <|
    .literal "broker_atomicity_assumed" (.bool false) <|
    .literal "combined_portfolio_and_risk_validation" (.bool true) <|
    .literal "hedge_failure_action" (.str "HEDGE_EMERGENCY_RECONCILE_AND_REDUCE") <|
    .field "max_leg_lag_seconds" (float F) (·.maxLegLagSeconds) <|
    .literal "partial_fill_creates_exposure" (.bool true) <|
    .literal "reconcile_before_ambiguous_retry" (.bool true) .done)
    (fun (lag, _) => if h : 0 < lag then some ⟨lag, h⟩ else none)
    (fun execution => by dsimp; exact dite_eq_some execution.lag_pos rfl)

/-- `PairSignalIntent` (`alphas/pairs_models.py:172-219`). -/
def pairSignalIntent : Codec (PairSignalIntent F) :=
  .object (
    .field "action" pairAction (·.action) <|
    .literal "alpha_id" (.str pairsAlphaId) <|
    .field "candidate" (pairCandidate F) (·.candidate) <|
    .field "code_commit" text (·.codeCommit) <|
    .field "config_hash" text (·.configHash) <|
    .field "data_snapshot" text (·.dataSnapshot) <|
    .field "direction" spreadDirection (·.direction) <|
    .field "execution" (pairedExecutionRequirements F) (·.execution) <|
    .field "fit" (pairFit F) (·.fit) <|
    .field "hedge_ratio" (float F) (·.hedgeRatio) <|
    .field "input_hash" text (·.inputHash) <|
    .literal "kind" (.str "PAIR_SIGNAL_INTENT") <|
    .field "legs" (pairLeg F).two (·.legs) <|
    .field "pair_id" text (·.pairId) <|
    .field "reasons" texts (·.reasons) <|
    .field "risk_reference" (combinedRiskReference F) (·.riskReference) <|
    .field "settings" (pairsSettings F) (·.settings) <|
    .field "signal_id" (uuid F) (·.signalId) <|
    .field "state_hash" text (·.stateHash) <|
    .field "timestamp" (instant F) (·.timestamp) <|
    .field "universe_hash" text (·.universeHash) .done)
    (fun (action, candidate, codeCommit, configHash, dataSnapshot, direction, execution, fit,
        hedgeRatio, inputHash, legs, pairId, reasons, riskReference, settings, signalId, stateHash,
        timestamp, universeHash, _) =>
      let fields : PairIntentFields F := ⟨signalId, timestamp, pairId, action, direction, legs,
        hedgeRatio, riskReference, execution, reasons, fit, settings, candidate, inputHash,
        universeHash, stateHash, codeCommit, configHash, dataSnapshot⟩
      if h : fields.Coupled then some ⟨fields, h⟩ else none)
    (fun intent => by dsimp; exact dite_eq_some intent.coupled rfl)

end Godzilla.Wire
