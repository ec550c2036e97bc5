import Godzilla.Core.Platform
import Mathlib.Algebra.Order.Field.Rat
import Mathlib.Data.Finset.Lattice.Fold

/-!
# Vendor-neutral observations

Bars and quotes (`market_data/models.py`). Prices and volumes are `Decimal`,
read as exact rationals; timestamps are instants, since the validators normalise
every one of them to UTC.
-/

namespace Godzilla.MarketData
open Godzilla

/-- `QualityFlag` (`market_data/models.py:26-40`). -/
inductive QualityFlag where
  | invalidPrice
  | impossibleOhlc
  | invalidVolume
  | zeroVolume
  | abnormalGap
  | abnormalVolume
  | duplicate
  | missingInterval
  | outOfSession
  | misaligned
  | incomplete
  | stale
  | futureTimestamp
  | crossedQuote
  deriving DecidableEq, Repr

/-- `FeedKind` (`market_data/models.py:43-47`). -/
inductive FeedKind where
  | equity
  | index
  | sector
  | vix
  deriving DecidableEq, Repr

/-- `Bar` (`market_data/models.py:68-97`): OHLCV over `[start, end)`. -/
structure Bar where
  instrumentId : String
  source : String
  receivedAt : Instant
  qualityFlags : Finset QualityFlag := ∅
  feedKind : FeedKind := .equity
  schemaVersion : String := "1"
  start : Instant
  stop : Instant
  intervalMinutes : Int
  openPrice : ℚ
  high : ℚ
  low : ℚ
  close : ℚ
  volume : ℚ
  complete : Bool := true
  /-- `interval_is_consistent`: only 1m and 5m bars are supported. -/
  interval_supported : intervalMinutes = 1 ∨ intervalMinutes = 5
  /-- `interval_is_consistent`: the duration is the interval. -/
  duration : stop - start = minutesOf intervalMinutes
  deriving DecidableEq

theorem oneMinute_supported : (1 : Int) = 1 ∨ (1 : Int) = 5 := Or.inl rfl

theorem fiveMinutes_supported : (5 : Int) = 1 ∨ (5 : Int) = 5 := Or.inr rfl

/-- `Quote` (`market_data/models.py:100-106`). -/
structure Quote where
  instrumentId : String
  source : String
  receivedAt : Instant
  qualityFlags : Finset QualityFlag := ∅
  feedKind : FeedKind := .equity
  schemaVersion : String := "1"
  timestamp : Instant
  bid : ℚ
  ask : ℚ
  last : ℚ
  deriving DecidableEq

/-- `price_flags` (`market_data/quality.py:20-30`). -/
def priceFlags (bar : Bar) : Finset QualityFlag :=
  (if min (min bar.openPrice bar.high) (min bar.low bar.close) ≤ 0 then {.invalidPrice} else ∅) ∪
  (if bar.low ≤ min bar.openPrice bar.close ∧ max bar.openPrice bar.close ≤ bar.high then ∅
    else {.impossibleOhlc}) ∪
  (if bar.volume < 0 then {.invalidVolume} else ∅) ∪
  (if bar.volume = 0 then {.zeroVolume} else ∅)

/-- The condition under which `Bar.require_strategy_ready` does not raise. -/
def Bar.strategyReady (bar : Bar) (now : Instant) : Bool :=
  bar.intervalMinutes == 5 && bar.complete && bar.qualityFlags == ∅ && priceFlags bar == ∅ &&
    decide (max bar.stop bar.receivedAt ≤ now)

/-- `Bar.require_strategy_ready` (`market_data/models.py:88-97`). -/
def Bar.requireStrategyReady (bar : Bar) (now : Instant) : Except PyError Unit :=
  if bar.strategyReady now then .ok ()
  else .error (.valueError "bar is not complete, causal, quality-cleared canonical data")

end Godzilla.MarketData
