import Godzilla.Core.Scalars
import Godzilla.MarketData.Models

/-!
# Bars and quotes in JSON

`model_dump(mode="json")` and `model_validate_json` of `market_data/models.py`, with the
members in the order of their names. The quality flags are written in the order of their
values (`sorted_flags`, `market_data/models.py:63-65`).
-/

namespace Godzilla.MarketData
open Godzilla Misc Wire

/-- The value of the flag. -/
def QualityFlag.value : QualityFlag → String
  | invalidPrice => "INVALID_PRICE"
  | impossibleOhlc => "IMPOSSIBLE_OHLC"
  | invalidVolume => "INVALID_VOLUME"
  | zeroVolume => "ZERO_VOLUME"
  | abnormalGap => "ABNORMAL_GAP"
  | abnormalVolume => "ABNORMAL_VOLUME"
  | duplicate => "DUPLICATE"
  | missingInterval => "MISSING_INTERVAL"
  | outOfSession => "OUT_OF_SESSION"
  | misaligned => "MISALIGNED"
  | incomplete => "INCOMPLETE"
  | stale => "STALE"
  | futureTimestamp => "FUTURE_TIMESTAMP"
  | crossedQuote => "CROSSED_QUOTE"

/-- The flags in the order of their values. -/
def QualityFlag.sorted : List QualityFlag :=
  [abnormalGap, abnormalVolume, crossedQuote, duplicate, futureTimestamp, impossibleOhlc,
    incomplete, invalidPrice, invalidVolume, misaligned, missingInterval, outOfSession, stale,
    zeroVolume]

/-- The value of the kind. -/
def FeedKind.value : FeedKind → String
  | equity => "EQUITY"
  | index => "INDEX"
  | sector => "SECTOR"
  | vix => "VIX"

end Godzilla.MarketData

namespace Godzilla.Wire
open Misc Codec MarketData

def qualityFlags : Codec (Finset QualityFlag) :=
  flags (tag QualityFlag.sorted QualityFlag.value fun flag => by cases flag <;> decide)
    QualityFlag.sorted fun flag => by cases flag <;> decide

def feedKind : Codec FeedKind :=
  tag [.equity, .index, .sector, .vix] FeedKind.value fun kind => by cases kind <;> decide

variable (F : Type) [PyFloat F] [ScalarCodecs F]

/-- `Bar` (`market_data/models.py:68-86`). -/
def bar : Codec Bar :=
  .object (
    .field "close" (decimal F) (·.close) <|
    .defaulted "complete" (flag F) true (·.complete) <|
    .field "end" (instant F) (·.stop) <|
    .defaulted "feed_kind" feedKind .equity (·.feedKind) <|
    .field "high" (decimal F) (·.high) <|
    .field "instrument_id" nonempty (·.instrumentId) <|
    .field "interval_minutes" (integer F) (·.intervalMinutes) <|
    .field "low" (decimal F) (·.low) <|
    .field "open" (decimal F) (·.openPrice) <|
    .defaulted "quality_flags" qualityFlags ∅ (·.qualityFlags) <|
    .field "received_at" (instant F) (·.receivedAt) <|
    .defaulted "schema_version" text "1" (·.schemaVersion) <|
    .field "source" nonempty (·.source) <|
    .field "start" (instant F) (·.start) <|
    .field "volume" (decimal F) (·.volume) .done)
    (fun (close, complete, stop, feedKind, high, instrumentId, minutes, low, openPrice, flags,
        receivedAt, schemaVersion, source, start, volume, _) =>
      if h : (minutes = 1 ∨ minutes = 5) ∧ stop - start = minutesOf minutes then
        some ⟨instrumentId, source, receivedAt, flags, feedKind, schemaVersion, start, stop, minutes,
          openPrice, high, low, close, volume, complete, h.1, h.2⟩
      else none)
    (fun bar => by dsimp; exact dite_eq_some ⟨bar.interval_supported, bar.duration⟩ rfl)

/-- `Quote` (`market_data/models.py:100-106`). -/
def quote : Codec Quote :=
  .object (
    .field "ask" (decimal F) (·.ask) <|
    .field "bid" (decimal F) (·.bid) <|
    .defaulted "feed_kind" feedKind .equity (·.feedKind) <|
    .field "instrument_id" nonempty (·.instrumentId) <|
    .field "last" (decimal F) (·.last) <|
    .defaulted "quality_flags" qualityFlags ∅ (·.qualityFlags) <|
    .field "received_at" (instant F) (·.receivedAt) <|
    .defaulted "schema_version" text "1" (·.schemaVersion) <|
    .field "source" nonempty (·.source) <|
    .field "timestamp" (instant F) (·.timestamp) .done)
    (fun (ask, bid, feedKind, instrumentId, last, flags, receivedAt, schemaVersion, source,
        timestamp, _) =>
      some ⟨instrumentId, source, receivedAt, flags, feedKind, schemaVersion, timestamp, bid, ask,
        last⟩)
    fun _ => rfl

end Godzilla.Wire
