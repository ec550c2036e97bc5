import Godzilla.Features.VwapReversion
import Godzilla.MarketData.Wire

/-!
# Feature snapshots in JSON

The codecs of the models of `features/models.py` and `features/vwap_reversion.py` that
events carry.
-/

namespace Godzilla.Wire
open Misc Codec Features

def missingReason : Codec MissingReason :=
  tag [.warmup, .missingInput, .invalidInput, .stale, .zeroDenominator, .notImplemented]
    MissingReason.text fun reason => by cases reason <;> decide

/-- `InstrumentRef` (`features/models.py:61-63`). -/
def instrumentRef : Codec InstrumentRef :=
  .object (
    .field "instrument_id" nonempty (·.instrumentId) <|
    .field "source" nonempty (·.source) .done)
    (fun (instrumentId, source, _) => some ⟨instrumentId, source⟩) fun _ => rfl

variable (F : Type) [PyFloat F] [ScalarCodecs F]

/-- `FeatureValue` (`features/models.py:34-43`). -/
def featureValue : Codec (FeatureValue F) :=
  .object (
    .field "name" text (·.name) <|
    .optional "reason" missingReason (·.reason) <|
    .nullable "value" (float F) (·.value) .done)
    (fun (name, reason, value, _) =>
      if h : value = none ↔ reason.isSome then some ⟨name, value, reason, h⟩ else none)
    (fun value => by dsimp; exact dite_eq_some value.explicit rfl)

/-- `FeatureSetVersion` (`features/models.py:46-58`). -/
def featureSetVersion : Codec (FeatureSetVersion F) :=
  .object (
    .defaulted "atr_bars" (count F) 14 (·.atrBars) <|
    .defaulted "baseline_sessions" (count F) 20 (·.baselineSessions) <|
    .literal "formula_revision" (.str "1") <|
    .defaulted "name" text "godzilla-causal-v1" (·.name) <|
    .defaulted "opening_range_bars" (count F) 3 (·.openingRangeBars) <|
    .defaulted "quote_stale_seconds" (float F) 3 (·.quoteStaleSeconds) <|
    .defaulted "spread_window_seconds" (float F) 300 (·.spreadWindowSeconds) <|
    .defaulted "statistics_bars" (count F) 20 (·.statisticsBars) <|
    .defaulted "swing_confirmation_bars" (count F) 2 (·.swingConfirmationBars) .done)
    (fun (atr, baseline, name, opening, quoteStale, spreadWindow, statistics, swing, _) =>
      if h : 1 ≤ opening ∧ 2 ≤ atr ∧ 2 ≤ statistics ∧ 1 ≤ baseline ∧ 1 ≤ swing ∧
          0 < quoteStale ∧ 0 < spreadWindow then
        some (
          let ⟨hopening, hatr, hstatistics, hbaseline, hswing, hquote, hspread⟩ := h
          ⟨name, opening, atr, statistics, baseline, swing, quoteStale, spreadWindow, hopening,
            hatr, hstatistics, hbaseline, hswing, hquote, hspread⟩)
      else none)
    (fun version => by
      dsimp
      exact dite_eq_some ⟨version.openingRange_pos, version.atr_pos, version.statistics_pos,
        version.baseline_pos, version.swing_pos, version.quoteStale_pos, version.spreadWindow_pos⟩
        rfl)

/-- `FeatureSnapshot` (`features/models.py:91-117`). -/
def featureSnapshot : Codec (FeatureSnapshot F) :=
  .object (
    .field "code_commit" nonempty (·.codeCommit) <|
    .field "config_hash" digest (·.configHash) <|
    .field "context_hash" digest (·.contextHash) <|
    .field "data_snapshot" nonempty (·.dataSnapshot) <|
    .field "entity" text (·.entity) <|
    .field "feature_set_hash" digest (·.featureSetHash) <|
    .field "input_hash" digest (·.inputHash) <|
    .field "timestamp" (instant F) (·.timestamp) <|
    .field "values" (featureValue F).list (·.values) .done)
    (fun (codeCommit, configHash, contextHash, dataSnapshot, entity, featureSetHash, inputHash,
        timestamp, values, _) =>
      if h : (values.map (·.name)).Pairwise (· < ·) then
        some ⟨entity, timestamp, featureSetHash, contextHash, inputHash, codeCommit, configHash,
          dataSnapshot, values, h⟩
      else none)
    (fun snapshot => by dsimp; exact dite_eq_some snapshot.ordered_unique rfl)

/-- `ReversionFeatureVersion` (`features/vwap_reversion.py:14-19`). -/
def reversionFeatureVersion : Codec ReversionFeatureVersion :=
  .object (
    .defaulted "revision" (text.such (· = "vwap-reversion-features-v1"))
      "vwap-reversion-features-v1" (·.revision) <|
    .defaulted "scale_bars" (count F) 12 (·.scaleBars) .done)
    (fun (revision, scaleBars, _) =>
      if h : 3 ≤ scaleBars then some ⟨revision, scaleBars, h⟩ else none)
    (fun version => by dsimp; exact dite_eq_some version.scale_min rfl)

/-- `ReversionFeatures` (`features/vwap_reversion.py:22-39`). -/
def reversionFeatures : Codec (ReversionFeatures F) :=
  .object (
    .field "body" (float F) (·.body) <|
    .field "close_location" (float F) (·.closeLocation) <|
    .field "decelerated_impulse" (float F) (·.deceleratedImpulse) <|
    .field "definition" (reversionFeatureVersion F) (·.definition) <|
    .field "impulse" (float F) (·.impulse) <|
    .field "input_hash" text (·.inputHash) <|
    .field "instrument_id" text (·.instrumentId) <|
    .field "price" (float F) (·.price) <|
    .field "reversal" (float F) (·.reversal) <|
    .field "session_vwap" (float F) (·.sessionVwap) <|
    .field "source" text (·.source) <|
    .field "stretch" (float F) (·.stretch) <|
    .field "timestamp" (instant F) (·.timestamp) <|
    .field "volatility_scale" (float F) (·.volatilityScale) .done)
    (fun (body, location, decelerated, definition, impulse, inputHash, instrumentId, price,
        reversal, vwap, source, stretch, timestamp, scale, _) =>
      if h : 0 < scale ∧ 0 ≤ location ∧ location ≤ 1 then
        some ⟨timestamp, instrumentId, source, vwap, scale, stretch, impulse, decelerated, reversal,
          body, location, price, definition, inputHash, h.1, h.2⟩
      else none)
    (fun features => by
      dsimp
      exact dite_eq_some ⟨features.scale_pos, features.location_range⟩ rfl)

end Godzilla.Wire
