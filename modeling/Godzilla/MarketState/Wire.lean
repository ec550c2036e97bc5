import Godzilla.Features.Wire
import Godzilla.MarketState.Models

/-!
# Routing decisions in JSON

The codecs of the models of `market_state/models.py` that events carry. A health status is
an `IntEnum` and is written as its number.
-/

namespace Godzilla.MarketState

/-- The value of the family. -/
def AlphaFamily.value : AlphaFamily → String
  | crossSectionalMomentum => "cross_sectional_momentum"
  | momentumBreakout => "momentum_breakout"
  | pairsStatArb => "pairs_stat_arb"
  | vwapMeanReversion => "vwap_mean_reversion"
  | sectorRelativeValue => "sector_relative_value"

/-- The text of the side. -/
def Side.text : Side → String
  | long => "LONG"
  | short => "SHORT"

/-- The text of the comparison. -/
def Operator.text : Operator → String
  | ge => "ge"
  | le => "le"
  | eq => "eq"
  | absGe => "abs_ge"

end Godzilla.MarketState

namespace Godzilla.Wire
open Misc Codec MarketState

def marketState : Codec MarketState :=
  tag [.trendUp, .trendDown, .chop, .highVol, .openShock, .riskOff] MarketState.value
    fun state => by cases state <;> decide

def alphaFamily : Codec AlphaFamily :=
  tag [.crossSectionalMomentum, .momentumBreakout, .pairsStatArb, .vwapMeanReversion,
    .sectorRelativeValue] AlphaFamily.value fun family => by cases family <;> decide

def side : Codec Side := tag [.long, .short] Side.text fun side => by cases side <;> decide

def operator : Codec Operator :=
  tag [.ge, .le, .eq, .absGe] Operator.text fun op => by cases op <;> decide

variable (F : Type) [PyFloat F] [ScalarCodecs F]

/-- `HealthStatus` (`core/health.py:14-18`), by its number. -/
def healthCode : Codec HealthStatus :=
  (integer F).through HealthStatus.code
    (fun n => [.healthy, .unknown, .degraded, .unhealthy].find? fun status => status.code == n)
    fun status => by cases status <;> decide

/-- `RoutingHealth` (`market_state/models.py:66-71`). -/
def routingHealth : Codec RoutingHealth :=
  .object (
    .defaulted "blocks_new_entries" (flag F) true (·.blocksNewEntries) <|
    .field "observed_at" (instant F) (·.observedAt) <|
    .defaulted "reasons" texts [] (·.reasons) <|
    .defaulted "risk_status" (healthCode F) .unknown (·.riskStatus) <|
    .defaulted "system_status" (healthCode F) .unknown (·.systemStatus) .done)
    (fun (blocksNewEntries, observedAt, reasons, riskStatus, systemStatus, _) =>
      some ⟨observedAt, systemStatus, riskStatus, blocksNewEntries, reasons⟩)
    fun _ => rfl

/-- `ThresholdEvidence` (`market_state/models.py:88-94`). -/
def thresholdEvidence : Codec (ThresholdEvidence F) :=
  .object (
    .optional "missing_reason" text (·.missingReason) <|
    .field "name" text (·.name) <|
    .field "operator" operator (·.operator) <|
    .field "passed" (flag F) (·.passed) <|
    .field "threshold" (float F) (·.threshold) <|
    .nullable "value" (float F) (·.value) .done)
    (fun (missingReason, name, operator, passed, threshold, value, _) =>
      some ⟨name, value, operator, threshold, passed, missingReason⟩)
    fun _ => rfl

/-- `MarketStateEvidence` (`market_state/models.py:97-104`). -/
def marketStateEvidence : Codec (MarketStateEvidence F) :=
  .object (
    .field "feature_set_hash" text (·.featureSetHash) <|
    .field "feature_snapshot_hash" text (·.featureSnapshotHash) <|
    .field "health" (routingHealth F) (·.health) <|
    .field "reasons" texts (·.reasons) <|
    .field "router_version_hash" text (·.routerVersionHash) <|
    .nullable "session_open" (instant F) (·.sessionOpen) <|
    .field "thresholds" (thresholdEvidence F).list (·.thresholds) .done)
    (fun (featureSetHash, featureSnapshotHash, health, reasons, routerVersionHash, sessionOpen,
        thresholds, _) =>
      some ⟨featureSnapshotHash, featureSetHash, routerVersionHash, thresholds, health, sessionOpen,
        reasons⟩)
    fun _ => rfl

/-- `RouterSettings` (`market_state/models.py:31-60`). -/
def routerSettings : Codec (RouterSettings F) :=
  .object (
    .defaulted "breadth_fraction" (float F) (PyFloat.ofDecimal (3 / 5)) (·.breadthFraction) <|
    .defaulted "chop_multiplier" (float F) (PyFloat.ofDecimal (1 / 2)) (·.chopMultiplier) <|
    .defaulted "confirmation_count" (count F) 2 (·.confirmationCount) <|
    .defaulted "feature_max_age_seconds" (count F) 300 (·.featureMaxAgeSeconds) <|
    .defaulted "flicker_window_seconds" (count F) 900 (·.flickerWindowSeconds) <|
    .literal "formula_revision" (.str "1") <|
    .defaulted "health_max_age_seconds" (count F) 30 (·.healthMaxAgeSeconds) <|
    .defaulted "high_range_vol" (float F) (PyFloat.ofDecimal (1 / 100)) (·.highRangeVol) <|
    .defaulted "high_realized_vol" (float F) (PyFloat.ofDecimal (1 / 200)) (·.highRealizedVol) <|
    .defaulted "high_vix" (float F) 25 (·.highVix) <|
    .defaulted "high_vol_multiplier" (float F) (PyFloat.ofDecimal (1 / 4)) (·.highVolMultiplier) <|
    .defaulted "max_confirmation_gap_seconds" (count F) 600 (·.maxConfirmationGapSeconds) <|
    .defaulted "min_duration_seconds" (count F) 600 (·.minDurationSeconds) <|
    .defaulted "opening_gap" (float F) (PyFloat.ofDecimal (3 / 200)) (·.openingGap) <|
    .defaulted "shock_window_seconds" (count F) 1800 (·.shockWindowSeconds) <|
    .defaulted "slope_15m" (float F) (PyFloat.ofDecimal (1 / 5000)) (·.slope15m) <|
    .defaulted "slope_30m" (float F) (PyFloat.ofDecimal (1 / 10000)) (·.slope30m) <|
    .defaulted "stabilization_seconds" (count F) 900 (·.stabilizationSeconds) <|
    .defaulted "trend_multiplier" (float F) 1 (·.trendMultiplier) <|
    .defaulted "version" text "market-state-research-v1" (·.version) <|
    .defaulted "vwap_distance" (float F) (PyFloat.ofDecimal (1 / 1000)) (·.vwapDistance) .done)
    (fun (breadth, chop, confirmations, featureAge, flicker, healthAge, rangeVol, realizedVol, vix,
        volMultiplier, gap, duration, openingGap, shock, slope15m, slope30m, stabilization, trend,
        version, vwap, _) =>
      if h : (0 < vwap ∧ vwap < 1) ∧ (0 < slope15m ∧ slope15m < 1) ∧
          (0 < slope30m ∧ slope30m < 1) ∧ (PyFloat.ofDecimal (1 / 2) < breadth ∧ breadth ≤ 1) ∧
          0 < realizedVol ∧ 0 < rangeVol ∧ 0 < vix ∧ (0 < openingGap ∧ openingGap < 1) ∧
          0 < shock ∧ 1 ≤ confirmations ∧ 0 < gap ∧ (0 ≤ trend ∧ trend ≤ 1) ∧
          (0 ≤ chop ∧ chop ≤ 1) ∧ (0 ≤ volMultiplier ∧ volMultiplier ≤ 1) ∧
          stabilization ≤ shock ∧ volMultiplier ≤ chop ∧ chop ≤ trend then
        some (
          let ⟨hvwap, hslope15, hslope30, hbreadth, hrealized, hrange, hvix, hopening, hshock,
            hconfirmations, hgap, htrend, hchop, hvol, hcovers, hordered⟩ := h
          ⟨version, vwap, slope15m, slope30m, breadth, realizedVol, rangeVol, vix, openingGap,
            stabilization, shock, confirmations, duration, gap, featureAge, healthAge, flicker,
            trend, chop, volMultiplier, hvwap, hslope15, hslope30, hbreadth, hrealized, hrange, hvix,
            hopening, hshock, hconfirmations, hgap, htrend, hchop, hvol, hcovers, hordered⟩)
      else none)
    (fun cfg => by
      dsimp
      exact dite_eq_some ⟨cfg.vwapDistance_range, cfg.slope15m_range, cfg.slope30m_range,
        cfg.breadthFraction_range, cfg.highRealizedVol_pos, cfg.highRangeVol_pos, cfg.highVix_pos,
        cfg.openingGap_range, cfg.shockWindow_pos, cfg.confirmationCount_pos,
        cfg.maxConfirmationGap_pos, cfg.trendMultiplier_range, cfg.chopMultiplier_range,
        cfg.highVolMultiplier_range, cfg.shock_covers, cfg.multipliers_ordered⟩ rfl)

/-- `StateDecision` (`market_state/models.py:107-139`). -/
def stateDecision [Platform] : Codec (StateDecision F) :=
  .object (
    .field "allowed_alpha_families" alphaFamily.list (·.allowedAlphaFamilies) <|
    .field "candidate" marketState (·.candidate) <|
    .field "code_commit" text (·.codeCommit) <|
    .field "config_hash" text (·.configHash) <|
    .field "confirmation_count" (integer F) (·.confirmationCount) <|
    .field "data_snapshot" text (·.dataSnapshot) <|
    .field "directional_sides" side.list (·.directionalSides) <|
    .field "evidence" (marketStateEvidence F) (·.evidence) <|
    .field "gross_risk_multiplier" (float F) (·.grossRiskMultiplier) <|
    .field "previous_state" marketState (·.previousState) <|
    .nullable "prior_decision_hash" text (·.priorDecisionHash) <|
    .field "settings" (routerSettings F) (·.settings) <|
    .field "state" marketState (·.state) <|
    .field "state_since" (instant F) (·.stateSince) <|
    .field "timestamp" (instant F) (·.timestamp) .done)
    (fun (allowedAlphaFamilies, candidate, codeCommit, configHash, confirmationCount, dataSnapshot,
        directionalSides, evidence, grossRiskMultiplier, previousState, priorDecisionHash, settings,
        state, stateSince, timestamp, _) =>
      (StateDecision.validate ⟨timestamp, state, candidate, previousState, stateSince,
        confirmationCount, allowedAlphaFamilies, directionalSides, grossRiskMultiplier, evidence,
        settings, codeCommit, configHash, dataSnapshot, priorDecisionHash⟩).toOption)
    (fun decision => by
      dsimp
      exact congrArg Except.toOption (StateDecision.validate_eq_ok decision.consistent))

end Godzilla.Wire
