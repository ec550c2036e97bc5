import Godzilla.Alphas.BreakoutModels
import Godzilla.Alphas.VwapModels
import Godzilla.MarketState.Wire

/-!
# Signal evidence in JSON

The codecs of the evidence that a scored signal carries: momentum, breakout and VWAP
reversion.
-/

namespace Godzilla.Wire
open Misc Codec Alphas

/-- `range_kind` (`alphas/breakout_models.py:97`). -/
def rangeKind : Codec RangeKind :=
  tag [.openingRange, .swing] RangeKind.text fun kind => by cases kind <;> decide

/-- The text of `range_source`. -/
def rangeSourceText : Option RangeKind → String
  | some kind => kind.text
  | none => "either"

/-- `range_source` (`alphas/breakout_models.py:38`). -/
def rangeSource : Codec (Option RangeKind) :=
  tag [some .openingRange, some .swing, none] rangeSourceText fun kind => by
    rcases kind with _ | kind
    · decide
    · cases kind <;> decide

variable (F : Type) [PyFloat F] [ScalarCodecs F]

section Momentum

/-- `MomentumWeights` (`alphas/momentum_models.py:15-30`). -/
def momentumWeights : Codec (MomentumWeights F) :=
  .object (
    .defaulted "liquidity_quality" (float F) (PyFloat.ofDecimal (1 / 20)) (·.liquidityQuality) <|
    .defaulted "relative_market_30m" (float F) (PyFloat.ofDecimal (3 / 20))
      (·.relativeMarket30m) <|
    .defaulted "relative_sector_30m" (float F) (PyFloat.ofDecimal (3 / 20))
      (·.relativeSector30m) <|
    .defaulted "return_120m" (float F) (PyFloat.ofDecimal (1 / 5)) (·.return120m) <|
    .defaulted "return_30m" (float F) (PyFloat.ofDecimal (1 / 5)) (·.return30m) <|
    .defaulted "return_60m" (float F) (PyFloat.ofDecimal (1 / 5)) (·.return60m) <|
    .defaulted "trend_quality" (float F) (PyFloat.ofDecimal (1 / 20)) (·.trendQuality) .done)
    (fun (liquidity, market, sector, return120, return30, return60, trend, _) =>
      if h : (∀ w ∈ [return30, return60, return120, sector, market, trend, liquidity],
            0 ≤ w ∧ w ≤ 1) ∧
          PyFloat.IsClose (PyFloat.sum [return30, return60, return120, sector, market, trend,
            liquidity]) 1 (PyFloat.ofDecimal (1 / 10 ^ 12)) ∧ liquidity ≠ 1 then
        some ⟨return30, return60, return120, sector, market, trend, liquidity, h.1, h.2.1, h.2.2⟩
      else none)
    (fun w => by dsimp; exact dite_eq_some ⟨w.ranges, w.normalized, w.directional⟩ rfl)

/-- `MomentumSettings` (`alphas/momentum_models.py:33-48`). -/
def momentumSettings : Codec (MomentumSettings F) :=
  .object (
    .defaulted "enabled" (flag F) true (·.enabled) <|
    .defaulted "exclude_recent_5m" (flag F) false (·.excludeRecent5m) <|
    .literal "formula_revision" (.str "1") <|
    .defaulted "long_tail_fraction" (float F) (PyFloat.ofDecimal (1 / 5)) (·.longTailFraction) <|
    .defaulted "max_candidates_per_side" (count F) 5 (·.maxCandidatesPerSide) <|
    .defaulted "max_quote_age_seconds" (float F) 3 (·.maxQuoteAgeSeconds) <|
    .defaulted "max_spread_bps" (float F) 12 (·.maxSpreadBps) <|
    .defaulted "min_adv" (float F) 100000 (·.minAdv) <|
    .defaulted "min_daily_turnover" (float F) 10000000 (·.minDailyTurnover) <|
    .defaulted "minimum_universe_size" (count F) 10 (·.minimumUniverseSize) <|
    .defaulted "short_tail_fraction" (float F) (PyFloat.ofDecimal (1 / 5)) (·.shortTailFraction) <|
    .defaulted "version" text "momentum-research-v1" (·.version) <|
    .nested "weights" (momentumWeights F) (.obj []) (·.weights) .done)
    (fun (enabled, excludeRecent, longTail, candidates, quoteAge, spread, adv, turnover, size,
        shortTail, version, weights, _) =>
      if h : (0 < longTail ∧ longTail < PyFloat.ofDecimal (1 / 2)) ∧
          (0 < shortTail ∧ shortTail < PyFloat.ofDecimal (1 / 2)) ∧ 1 ≤ candidates ∧ 2 ≤ size ∧
          0 < spread ∧ 0 < quoteAge ∧ 0 < adv ∧ 0 < turnover then
        some (
          let ⟨hlong, hshort, hcandidates, hsize, hspread, hquote, hadv, hturnover⟩ := h
          ⟨version, weights, excludeRecent, enabled, longTail, shortTail, candidates, size, spread,
            quoteAge, adv, turnover, hlong, hshort, hcandidates, hsize, hspread, hquote, hadv,
            hturnover⟩)
      else none)
    (fun cfg => by
      dsimp
      exact dite_eq_some ⟨cfg.longTail_range, cfg.shortTail_range, cfg.candidates_pos,
        cfg.universe_min, cfg.spread_pos, cfg.quoteAge_pos, cfg.adv_pos, cfg.turnover_pos⟩ rfl)

/-- `ScoreComponent` (`alphas/momentum_models.py:56-62`). -/
def scoreComponent : Codec (ScoreComponent F) :=
  .object (
    .field "long_contribution" (float F) (·.longContribution) <|
    .field "name" text (·.name) <|
    .field "rank_value" (float F) (·.rankValue) <|
    .field "raw_value" (float F) (·.rawValue) <|
    .field "short_contribution" (float F) (·.shortContribution) <|
    .field "weight" (float F) (·.weight) .done)
    (fun (long, name, rank, raw, short, weight, _) =>
      if h : (0 ≤ rank ∧ rank ≤ 1) ∧ 0 ≤ weight ∧ weight ≤ 1 then
        some ⟨name, raw, rank, weight, long, short, h.1, h.2⟩
      else none)
    (fun component => by
      dsimp
      exact dite_eq_some ⟨component.rank_range, component.weight_range⟩ rfl)

/-- `MomentumScore` (`alphas/momentum_models.py:65-78`). -/
def momentumScore : Codec (MomentumScore F) :=
  .object (
    .field "components" (scoreComponent F).list (·.components) <|
    .field "feature_hash" text (·.featureHash) <|
    .field "instrument_id" text (·.instrumentId) <|
    .field "liquidity_confirmed" (flag F) (·.liquidityConfirmed) <|
    .field "long_confirmed" (flag F) (·.longConfirmed) <|
    .field "long_score" (float F) (·.longScore) <|
    .field "percentile" (fraction F) (·.percentile) <|
    .field "reasons" texts (·.reasons) <|
    .field "sector" text (·.sector) <|
    .field "short_confirmed" (flag F) (·.shortConfirmed) <|
    .field "short_score" (float F) (·.shortScore) <|
    .field "strength" (float F) (·.strength) <|
    .field "symbol" text (·.symbol) .done)
    (fun (components, featureHash, instrumentId, liquidityConfirmed, longConfirmed, longScore,
        percentile, reasons, sector, shortConfirmed, shortScore, strength, symbol, _) =>
      if h : (0 ≤ strength ∧ strength ≤ 1) ∧ (0 ≤ longScore ∧ longScore ≤ 1) ∧
          0 ≤ shortScore ∧ shortScore ≤ 1 then
        some ⟨instrumentId, symbol, sector, strength, percentile, longScore, shortScore, components,
          longConfirmed, shortConfirmed, liquidityConfirmed, reasons, featureHash, h.1, h.2.1, h.2.2⟩
      else none)
    (fun card => by
      dsimp
      exact dite_eq_some ⟨card.strength_range, card.longScore_range, card.shortScore_range⟩ rfl)

/-- `MomentumSignalEvidence` (`alphas/momentum_models.py:81-117`). -/
def momentumSignalEvidence [Platform] : Codec (MomentumSignalEvidence F) :=
  .object (
    .field "alpha_version_hash" text (·.alphaVersionHash) <|
    .field "code_commit" text (·.codeCommit) <|
    .field "config_hash" text (·.configHash) <|
    .field "cross_section_hash" text (·.crossSectionHash) <|
    .field "data_snapshot" text (·.dataSnapshot) <|
    .field "feature_set_hash" text (·.featureSetHash) <|
    .field "instrument_master_hash" text (·.instrumentMasterHash) <|
    .field "ranked" (momentumScore F) (·.ranked) <|
    .field "score" (float F) (·.score) <|
    .field "settings" (momentumSettings F) (·.settings) <|
    .field "side" side (·.side) <|
    .field "state_hash" text (·.stateHash) <|
    .field "timestamp" (instant F) (·.timestamp) <|
    .field "universe_hash" text (·.universeHash) .done)
    (fun (alphaVersionHash, codeCommit, configHash, crossSectionHash, dataSnapshot, featureSetHash,
        instrumentMasterHash, ranked, score, settings, side, stateHash, timestamp, universeHash,
        _) =>
      (MomentumSignalEvidence.validate ⟨timestamp, side, score, ranked, settings, alphaVersionHash,
        universeHash, instrumentMasterHash, crossSectionHash, stateHash, codeCommit, configHash,
        dataSnapshot, featureSetHash⟩).toOption)
    (fun evidence => by
      dsimp
      exact congrArg Except.toOption (dif_pos evidence.consistent))

end Momentum

section Breakout

/-- `BreakoutWeights` (`alphas/breakout_models.py:17-30`). -/
def breakoutWeights : Codec (BreakoutWeights F) :=
  .object (
    .defaulted "breakout_quality" (float F) (PyFloat.ofDecimal (1 / 5)) (·.breakoutQuality) <|
    .defaulted "liquidity_quality" (float F) (PyFloat.ofDecimal (1 / 20)) (·.liquidityQuality) <|
    .defaulted "relative_strength" (float F) (PyFloat.ofDecimal (1 / 4)) (·.relativeStrength) <|
    .defaulted "relative_volume" (float F) (PyFloat.ofDecimal (3 / 20)) (·.relativeVolume) <|
    .defaulted "reward_risk_proxy" (float F) (PyFloat.ofDecimal (1 / 10)) (·.rewardRiskProxy) <|
    .defaulted "sector_confirmation" (float F) (PyFloat.ofDecimal (3 / 20))
      (·.sectorConfirmation) <|
    .defaulted "slope_quality" (float F) (PyFloat.ofDecimal (1 / 10)) (·.slopeQuality) .done)
    (fun (breakout, liquidity, strength, volume, reward, sector, slope, _) =>
      if h : (∀ w ∈ [strength, breakout, volume, sector, slope, reward, liquidity],
            0 ≤ w ∧ w ≤ 1) ∧
          PyFloat.IsClose (PyFloat.sum [strength, breakout, volume, sector, slope, reward,
            liquidity]) 1 (PyFloat.ofDecimal (1 / 10 ^ 12)) then
        some ⟨strength, breakout, volume, sector, slope, reward, liquidity, h.1, h.2⟩
      else none)
    (fun w => by dsimp; exact dite_eq_some ⟨w.ranges, w.normalized⟩ rfl)

/-- `BreakoutSettings` (`alphas/breakout_models.py:33-77`). -/
def breakoutSettings : Codec (BreakoutSettings F) :=
  .object (
    .defaulted "enabled" (flag F) true (·.enabled) <|
    .literal "formula_revision" (.str "1") <|
    .defaulted "full_extension_atr" (float F) (PyFloat.ofDecimal (1 / 4)) (·.fullExtensionAtr) <|
    .defaulted "full_relative_volume" (float F) 3 (·.fullRelativeVolume) <|
    .defaulted "full_reward_risk_proxy" (float F) 3 (·.fullRewardRiskProxy) <|
    .defaulted "full_sector_distance" (float F) (PyFloat.ofDecimal (1 / 200))
      (·.fullSectorDistance) <|
    .defaulted "full_slope" (float F) (PyFloat.ofDecimal (1 / 1000)) (·.fullSlope) <|
    .defaulted "invalidation_buffer_atr" (float F) (PyFloat.ofDecimal (1 / 10))
      (·.invalidationBufferAtr) <|
    .defaulted "max_bar_lag_seconds" (float F) 30 (·.maxBarLagSeconds) <|
    .defaulted "max_extension_atr" (float F) (PyFloat.ofDecimal (3 / 4)) (·.maxExtensionAtr) <|
    .defaulted "max_quote_age_seconds" (float F) 3 (·.maxQuoteAgeSeconds) <|
    .defaulted "max_spread_bps" (float F) 12 (·.maxSpreadBps) <|
    .defaulted "min_adv" (float F) 100000 (·.minAdv) <|
    .defaulted "min_body_fraction" (float F) (PyFloat.ofDecimal (1 / 5)) (·.minBodyFraction) <|
    .defaulted "min_close_location" (float F) (PyFloat.ofDecimal (7 / 10)) (·.minCloseLocation) <|
    .defaulted "min_daily_turnover" (float F) 10000000 (·.minDailyTurnover) <|
    .defaulted "min_extension_atr" (float F) (PyFloat.ofDecimal (1 / 20)) (·.minExtensionAtr) <|
    .defaulted "min_reward_risk_proxy" (float F) (PyFloat.ofDecimal (3 / 2))
      (·.minRewardRiskProxy) <|
    .defaulted "minimum_relative_volume" (float F) (PyFloat.ofDecimal (3 / 2))
      (·.minimumRelativeVolume) <|
    .defaulted "minimum_residual_return" (float F) (PyFloat.ofDecimal (1 / 500))
      (·.minimumResidualReturn) <|
    .defaulted "minimum_score" (float F) (PyFloat.ofDecimal (3 / 5)) (·.minimumScore) <|
    .defaulted "minimum_strength_percentile" (float F) (PyFloat.ofDecimal (4 / 5))
      (·.minimumStrengthPercentile) <|
    .defaulted "minimum_universe_size" (count F) 10 (·.minimumUniverseSize) <|
    .defaulted "observation_bars" (count F) 3 (·.observationBars) <|
    .defaulted "range_source" rangeSource none (·.rangeSource) <|
    .defaulted "reward_distance_atr" (float F) 2 (·.rewardDistanceAtr) <|
    .defaulted "version" text "breakout-research-v1" (·.version) <|
    .nested "weights" (breakoutWeights F) (.obj []) (·.weights) .done)
    (fun (enabled, fullExtension, fullVolume, fullReward, distance, fullSlope, buffer, barLag,
        maxExtension, quoteAge, spread, adv, body, location, turnover, minExtension, minReward,
        minVolume, residual, score, strength, size, bars, rangeSource, reward, version, weights,
        _) =>
      if h : 2 ≤ size ∧ (PyFloat.ofDecimal (1 / 2) < strength ∧ strength < 1) ∧
          (∀ x ∈ [residual, minVolume, fullVolume, minExtension, fullExtension, maxExtension,
            distance, fullSlope, buffer, reward, minReward, fullReward, spread, quoteAge, adv,
            turnover], 0 < x) ∧
          (PyFloat.ofDecimal (1 / 2) ≤ location ∧ location ≤ 1) ∧ (0 ≤ body ∧ body ≤ 1) ∧
          1 ≤ bars ∧ 0 ≤ barLag ∧ (0 ≤ score ∧ score ≤ 1) ∧
          (minExtension ≤ fullExtension ∧ fullExtension ≤ maxExtension) ∧
          minVolume ≤ fullVolume ∧ minReward ≤ fullReward then
        some (
          let ⟨hsize, hstrength, hpositive, hlocation, hbody, hbars, hlag, hscore, hextensions,
            hfull⟩ := h
          ⟨version, enabled, weights, rangeSource, size, strength, residual, minVolume, fullVolume,
            minExtension, fullExtension, maxExtension, location, body, distance, fullSlope, buffer,
            bars, reward, minReward, fullReward, spread, quoteAge, adv, turnover, barLag, score,
            hsize, hstrength, hpositive, hlocation, hbody, hbars, hlag, hscore, hextensions, hfull⟩)
      else none)
    (fun cfg => by
      dsimp
      exact dite_eq_some ⟨cfg.universe_min, cfg.strength_range, cfg.positive, cfg.location_range,
        cfg.body_range, cfg.observation_pos, cfg.barLag_nonneg, cfg.score_range,
        cfg.extensions_ordered, cfg.full_covers⟩ rfl)

/-- `BreakoutComponent` (`alphas/breakout_models.py:88-93`). -/
def breakoutComponent : Codec (BreakoutComponent F) :=
  .object (
    .field "contribution" (float F) (·.contribution) <|
    .field "name" text (·.name) <|
    .field "normalized_value" (float F) (·.normalizedValue) <|
    .field "raw_value" (float F) (·.rawValue) <|
    .field "weight" (float F) (·.weight) .done)
    (fun (contribution, name, normalized, raw, weight, _) =>
      if h : (0 ≤ normalized ∧ normalized ≤ 1) ∧ 0 ≤ weight ∧ weight ≤ 1 then
        some ⟨name, raw, normalized, weight, contribution, h.1, h.2⟩
      else none)
    (fun component => by
      dsimp
      exact dite_eq_some ⟨component.normalized_range, component.weight_range⟩ rfl)

/-- `BreakoutInvalidation` (`alphas/breakout_models.py:96-105`). -/
def breakoutInvalidation : Codec (BreakoutInvalidation F) :=
  .object (
    .field "broken_level" (float F) (·.brokenLevel) <|
    .field "expires_at" (instant F) (·.expiresAt) <|
    .field "invalidation_level" (float F) (·.invalidationLevel) <|
    .field "level_known_at" (instant F) (·.levelKnownAt) <|
    .field "range_kind" rangeKind (·.rangeKind) <|
    .literal "rule" (.str "SUBSEQUENT_CLOSE_BACK_THROUGH_LEVEL") <|
    .field "trigger_bar_end" (instant F) (·.triggerBarEnd) .done)
    (fun (broken, expiresAt, invalidation, knownAt, kind, trigger, _) =>
      if h : 0 < broken ∧ 0 < invalidation then
        some ⟨kind, broken, invalidation, knownAt, trigger, expiresAt, h.1, h.2⟩
      else none)
    (fun invalidation => by
      dsimp
      exact dite_eq_some ⟨invalidation.broken_pos, invalidation.invalidation_pos⟩ rfl)

/-- `BreakoutSignalEvidence` (`alphas/breakout_models.py:108-148`). -/
def breakoutSignalEvidence [Platform] : Codec (BreakoutSignalEvidence F) :=
  .object (
    .field "alpha_version_hash" text (·.alphaVersionHash) <|
    .field "checks" (thresholdEvidence F).list (·.checks) <|
    .field "code_commit" text (·.codeCommit) <|
    .field "components" (breakoutComponent F).list (·.components) <|
    .field "config_hash" text (·.configHash) <|
    .field "cross_section_hash" text (·.crossSectionHash) <|
    .field "data_snapshot" text (·.dataSnapshot) <|
    .field "feature_set_hash" text (·.featureSetHash) <|
    .field "instrument_id" text (·.instrumentId) <|
    .field "instrument_master_hash" text (·.instrumentMasterHash) <|
    .field "invalidation" (breakoutInvalidation F) (·.invalidation) <|
    .field "observation_hash" text (·.observationHash) <|
    .field "score" (float F) (·.score) <|
    .field "settings" (breakoutSettings F) (·.settings) <|
    .field "side" side (·.side) <|
    .field "source" text (·.source) <|
    .field "state_hash" text (·.stateHash) <|
    .field "symbol" text (·.symbol) <|
    .field "timestamp" (instant F) (·.timestamp) <|
    .field "universe_hash" text (·.universeHash) .done)
    (fun (alphaVersionHash, checks, codeCommit, components, configHash, crossSectionHash,
        dataSnapshot, featureSetHash, instrumentId, instrumentMasterHash, invalidation,
        observationHash, score, settings, side, source, stateHash, symbol, timestamp, universeHash,
        _) =>
      (BreakoutSignalEvidence.validate ⟨timestamp, instrumentId, symbol, source, side, score,
        components, checks, invalidation, settings, alphaVersionHash, observationHash,
        crossSectionHash, universeHash, instrumentMasterHash, stateHash, codeCommit, configHash,
        dataSnapshot, featureSetHash⟩).toOption)
    (fun evidence => by
      dsimp
      exact congrArg Except.toOption (dif_pos evidence.consistent))

end Breakout

section Vwap

/-- `VwapSettings` (`alphas/vwap_models.py:16-49`). -/
def vwapSettings : Codec (VwapSettings F) :=
  .object (
    .defaulted "adverse_scale" (float F) 1 (·.adverseScale) <|
    .defaulted "convergence_fraction" (float F) (PyFloat.ofDecimal (4 / 5))
      (·.convergenceFraction) <|
    .defaulted "enabled" (flag F) true (·.enabled) <|
    .defaulted "end_minutes" (count F) 300 (·.endMinutes) <|
    .nested "features" (reversionFeatureVersion F) (.obj []) (·.features) <|
    .defaulted "liquidity_max_age_seconds" (float F) 86400 (·.liquidityMaxAgeSeconds) <|
    .literal "live_enabled" (.bool false) <|
    .defaulted "max_bar_lag_seconds" (float F) 30 (·.maxBarLagSeconds) <|
    .defaulted "max_deceleration_ratio" (float F) (PyFloat.ofDecimal (7 / 10))
      (·.maxDecelerationRatio) <|
    .defaulted "max_hold_minutes" (count F) 30 (·.maxHoldMinutes) <|
    .defaulted "max_quote_age_seconds" (float F) 3 (·.maxQuoteAgeSeconds) <|
    .defaulted "max_spread_bps" (float F) 12 (·.maxSpreadBps) <|
    .defaulted "max_stretch" (float F) 6 (·.maxStretch) <|
    .defaulted "min_adv" (float F) 100000 (·.minAdv) <|
    .defaulted "min_body" (float F) (PyFloat.ofDecimal (1 / 20)) (·.minBody) <|
    .defaulted "min_close_location" (float F) (PyFloat.ofDecimal (13 / 20))
      (·.minCloseLocation) <|
    .defaulted "min_impulse" (float F) (PyFloat.ofDecimal (1 / 2)) (·.minImpulse) <|
    .defaulted "min_reversal" (float F) (PyFloat.ofDecimal (1 / 10)) (·.minReversal) <|
    .defaulted "min_stretch" (float F) 2 (·.minStretch) <|
    .defaulted "min_turnover" (float F) 10000000 (·.minTurnover) <|
    .defaulted "research_regime_override" (flag F) false (·.researchRegimeOverride) <|
    .defaulted "start_minutes" (count F) 75 (·.startMinutes) <|
    .literal "version" (.str "vwap-reversion-research-v1") .done)
    (fun (adverse, convergence, enabled, endMinutes, features, liquidityAge, barLag, deceleration,
        hold, quoteAge, spread, maxStretch, adv, body, location, impulse, reversal, minStretch,
        turnover, override, startMinutes, _) =>
      if h : (∀ x ∈ [minStretch, maxStretch, impulse, deceleration, reversal, body, convergence,
            adverse, spread, quoteAge, liquidityAge, adv, turnover], 0 < x) ∧
          deceleration < 1 ∧ (PyFloat.ofDecimal (1 / 2) ≤ location ∧ location ≤ 1) ∧
          1 ≤ endMinutes ∧ 1 ≤ hold ∧ convergence ≤ 1 ∧ 0 ≤ barLag ∧
          minStretch < maxStretch ∧ startMinutes < endMinutes then
        some (
          let ⟨hpositive, hdeceleration, hlocation, hend, hhold, hconvergence, hlag, hordered⟩ := h
          ⟨enabled, override, features, minStretch, maxStretch, impulse, deceleration, reversal, body,
            location, startMinutes, endMinutes, hold, convergence, adverse, spread, quoteAge, barLag,
            liquidityAge, adv, turnover, hpositive, hdeceleration, hlocation, hend, hhold,
            hconvergence, hlag, hordered⟩)
      else none)
    (fun cfg => by
      dsimp
      exact dite_eq_some ⟨cfg.positive, cfg.deceleration_lt, cfg.location_range, cfg.end_pos,
        cfg.hold_pos, cfg.convergence_le, cfg.barLag_nonneg, cfg.ordered⟩ rfl)

/-- `VwapExitMetadata` (`alphas/vwap_models.py:62-77`). -/
def vwapExitMetadata : Codec (VwapExitMetadata F) :=
  .object (
    .field "adverse_price" (float F) (·.adversePrice) <|
    .field "convergence_price" (float F) (·.convergencePrice) <|
    .field "entry_state" marketState (·.entryState) <|
    .literal "executable_order" (.bool false) <|
    .defaulted "reasons" texts
      ["VWAP_CONVERGENCE", "TIME_STOP", "ADVERSE_CONTINUATION", "STATE_CHANGE"] (·.reasons) <|
    .literal "reference_policy" (.str "FROZEN_ENTRY_VWAP_AND_SCALE") <|
    .field "time_stop" (instant F) (·.timeStop) .done)
    (fun (adverse, convergence, entryState, reasons, timeStop, _) =>
      if h : 0 < convergence ∧ 0 < adverse then
        some ⟨convergence, adverse, timeStop, entryState, reasons, h.1, h.2⟩
      else none)
    (fun exits => by dsimp; exact dite_eq_some ⟨exits.convergence_pos, exits.adverse_pos⟩ rfl)

/-- `VwapSignalEvidence` (`alphas/vwap_models.py:80-116`). -/
def vwapSignalEvidence [Platform] : Codec (VwapSignalEvidence F) :=
  .object (
    .field "alpha_version_hash" text (·.alphaVersionHash) <|
    .field "code_commit" text (·.codeCommit) <|
    .field "config_hash" text (·.configHash) <|
    .field "data_snapshot" text (·.dataSnapshot) <|
    .field "exits" (vwapExitMetadata F) (·.exits) <|
    .field "feature_set_hash" text (·.featureSetHash) <|
    .field "features" (reversionFeatures F) (·.features) <|
    .field "instrument_id" text (·.instrumentId) <|
    .field "instrument_master_hash" text (·.instrumentMasterHash) <|
    .field "liquidity_hash" text (·.liquidityHash) <|
    .field "score" (float F) (·.score) <|
    .field "settings" (vwapSettings F) (·.settings) <|
    .field "side" side (·.side) <|
    .field "source" text (·.source) <|
    .field "state_hash" text (·.stateHash) <|
    .field "symbol" text (·.symbol) <|
    .field "timestamp" (instant F) (·.timestamp) <|
    .field "universe_hash" text (·.universeHash) .done)
    (fun (alphaVersionHash, codeCommit, configHash, dataSnapshot, exits, featureSetHash, features,
        instrumentId, instrumentMasterHash, liquidityHash, score, settings, side, source, stateHash,
        symbol, timestamp, universeHash, _) =>
      (VwapSignalEvidence.validate ⟨timestamp, instrumentId, symbol, source, side, score, features,
        exits, settings, alphaVersionHash, featureSetHash, universeHash, instrumentMasterHash,
        stateHash, liquidityHash, codeCommit, configHash, dataSnapshot⟩).toOption)
    (fun evidence => by
      dsimp
      exact congrArg Except.toOption (dif_pos evidence.consistent))

end Vwap

end Godzilla.Wire
