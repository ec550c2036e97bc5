import Godzilla.Ensemble.Models
import Godzilla.MarketState.Wire

/-!
# Alpha health and candidates in JSON

The codecs of the models of `ensemble/models.py` that events carry.
-/

namespace Godzilla.Wire
open Misc Codec Ensemble

def alphaId : Codec AlphaId :=
  tag AlphaId.all AlphaId.value fun alpha => by cases alpha <;> decide

variable (F : Type) [PyFloat F] [ScalarCodecs F]

/-- `AlphaHealthSettings` (`ensemble/models.py:53-72`). -/
def alphaHealthSettings : Codec (AlphaHealthSettings F) :=
  .object (
    .defaulted "health_max_age_seconds" (count F) 86400 (·.healthMaxAgeSeconds) <|
    .defaulted "increase_interval_seconds" (count F) 86400 (·.increaseIntervalSeconds) <|
    .defaulted "initial_multiplier" (float F) (PyFloat.ofDecimal (1 / 2)) (·.initialMultiplier) <|
    .defaulted "max_increase" (float F) (PyFloat.ofDecimal (1 / 20)) (·.maxIncrease) <|
    .defaulted "max_return_drawdown" (float F) (PyFloat.ofDecimal (1 / 20))
      (·.maxReturnDrawdown) <|
    .defaulted "maximum_multiplier" (float F) 1 (·.maximumMultiplier) <|
    .defaulted "minimum_multiplier" (float F) 0 (·.minimumMultiplier) <|
    .defaulted "minimum_trades" (count F) 20 (·.minimumTrades) <|
    .literal "version" (.str "alpha-health-v1") <|
    .defaulted "window_trades" (count F) 100 (·.windowTrades) .done)
    (fun (age, interval, initial, increase, drawdown, maximum, minimum, trades, window, _) =>
      if h : 2 ≤ window ∧ 1 ≤ trades ∧ (0 ≤ minimum ∧ maximum ≤ 1) ∧
          (0 < increase ∧ increase ≤ PyFloat.ofDecimal (1 / 10)) ∧ 3600 ≤ interval ∧
          0 < drawdown ∧ 0 < age ∧ (minimum ≤ initial ∧ initial ≤ maximum) ∧ trades ≤ window then
        some (
          let ⟨hwindow, htrades, hrange, hincrease, hinterval, hdrawdown, hage, hordered, hwarmup⟩ :=
            h
          ⟨window, trades, minimum, initial, maximum, increase, interval, drawdown, age, hwindow,
            htrades, hrange, hincrease, hinterval, hdrawdown, hage, hordered, hwarmup⟩)
      else none)
    (fun cfg => by
      dsimp
      exact dite_eq_some ⟨cfg.window_min, cfg.minimum_pos, cfg.multiplier_range, cfg.increase_range,
        cfg.interval_min, cfg.drawdown_pos, cfg.age_pos, cfg.ordered, cfg.warmup⟩ rfl)

/-- `AlphaHealthMultiplier` (`ensemble/models.py:75-84`). -/
def alphaHealthMultiplier : Codec (AlphaHealthMultiplier F) :=
  .object (
    .field "maximum" (float F) (·.maximum) <|
    .field "minimum" (float F) (·.minimum) <|
    .field "value" (float F) (·.value) .done)
    (fun (maximum, minimum, value, _) =>
      if h : 0 ≤ minimum ∧ minimum ≤ value ∧ value ≤ maximum ∧ maximum ≤ 1 then
        some ⟨value, minimum, maximum, h⟩
      else none)
    (fun multiplier => by dsimp; exact dite_eq_some multiplier.bounded rfl)

/-- `RegimeCount` (`ensemble/models.py:107-109`). -/
def regimeCount : Codec RegimeCount :=
  .object (
    .field "regime" marketState (·.regime) <|
    .field "trades" (count F) (·.trades) .done)
    (fun (regime, trades, _) => some ⟨regime, trades⟩) fun _ => rfl

/-- `AlphaHealthSnapshot` (`ensemble/models.py:112-146`). -/
def alphaHealthSnapshot : Codec (AlphaHealthSnapshot F) :=
  .object (
    .field "alpha_id" alphaId (·.alphaId) <|
    .field "code_commit" text (·.codeCommit) <|
    .field "config_hash" text (·.configHash) <|
    .field "costs" (decimal F) (·.costs) <|
    .field "data_snapshot" text (·.dataSnapshot) <|
    .field "drawdown" (float F) (·.drawdown) <|
    .field "last_increase_at" (instant F) (·.lastIncreaseAt) <|
    .nullable "last_trade_at" (instant F) (·.lastTradeAt) <|
    .field "multiplier" (alphaHealthMultiplier F) (·.multiplier) <|
    .nullable "net_expectancy" (float F) (·.netExpectancy) <|
    .field "net_pnl" (decimal F) (·.netPnl) <|
    .field "outcomes_hash" text (·.outcomesHash) <|
    .nullable "prior_hash" text (·.priorHash) <|
    .field "regimes" (regimeCount F).list (·.regimes) <|
    .field "settings" (alphaHealthSettings F) (·.settings) <|
    .field "slippage_cost" (decimal F) (·.slippageCost) <|
    .field "timestamp" (instant F) (·.timestamp) <|
    .field "trades" (integer F) (·.trades) .done)
    (fun (alphaId, codeCommit, configHash, costs, dataSnapshot, drawdown, lastIncreaseAt,
        lastTradeAt, multiplier, netExpectancy, netPnl, outcomesHash, priorHash, regimes, settings,
        slippageCost, timestamp, trades, _) =>
      if h : lastIncreaseAt ≤ timestamp ∧ (∀ t ∈ lastTradeAt, t ≤ timestamp) ∧
          (multiplier.minimum = settings.minimumMultiplier ∧
            multiplier.maximum = settings.maximumMultiplier) ∧
          (regimes.map fun r => (r.trades : Int)).sum = trades then
        some ⟨alphaId, timestamp, trades, netExpectancy, netPnl, drawdown, costs, slippageCost,
          regimes, multiplier, lastIncreaseAt, lastTradeAt, settings, outcomesHash, priorHash,
          codeCommit, configHash, dataSnapshot, h.1, h.2.1, h.2.2.1, h.2.2.2⟩
      else none)
    (fun snapshot => by
      dsimp
      exact dite_eq_some ⟨snapshot.increase_past, snapshot.trade_past, snapshot.bounds_match,
        snapshot.regimes_sum⟩ rfl)

/-- `CandidateLeg` (`ensemble/models.py:149-153`). -/
def candidateLeg : Codec CandidateLeg :=
  .object (
    .field "entity_id" (uuid F) (·.entityId) <|
    .field "instrument_id" text (·.instrumentId) <|
    .field "sector" text (·.sector) <|
    .field "signed_weight" (decimal F) (·.signedWeight) .done)
    (fun (entityId, instrumentId, sector, weight, _) => some ⟨entityId, instrumentId, sector, weight⟩)
    fun _ => rfl

/-- `NormalizedCandidate` (`ensemble/models.py:156-181`). -/
def normalizedCandidate : Codec NormalizedCandidate :=
  .object (
    .field "alpha_id" alphaId (·.alphaId) <|
    .field "legs" (candidateLeg F).list (·.legs) <|
    .field "raw_intent_hash" text (·.rawIntentHash) <|
    .field "registry_hash" text (·.registryHash) <|
    .literal "score_semantics" (.str "ORDINAL_STRENGTH_NOT_PROBABILITY") <|
    .field "signal_id" (uuid F) (·.signalId) <|
    .field "strength" (decimal F) (·.strength) <|
    .field "timestamp" (instant F) (·.timestamp) .done)
    (fun (alphaId, legs, rawIntentHash, registryHash, signalId, strength, timestamp, _) =>
      if h : (0 ≤ strength ∧ strength ≤ 1) ∧ IndivisibleWeights legs then
        some ⟨signalId, alphaId, timestamp, strength, legs, rawIntentHash, registryHash, h.1, h.2⟩
      else none)
    (fun candidate => by
      dsimp
      exact dite_eq_some ⟨candidate.strength_range, candidate.indivisible_weights⟩ rfl)

end Godzilla.Wire
