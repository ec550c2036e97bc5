import Godzilla.MarketData.AggregationFacts
import Godzilla.MarketData.Freshness

/-!
# Ingestion

`MarketDataService` (`market_data/service.py:16-107`) over `MemoryNormalizedStorage`
(`market_data/storage.py:40-47`): the bars and quotes it has ingested. Every reading of
the clock is an argument. `load_history` changes the service before it raises, so it
returns the service with its result; metrics and reported gaps are left out.
-/

namespace Godzilla.MarketData
open Godzilla Misc

/-- An observation in the storage. -/
inductive Observation where
  | bar (bar : Bar)
  | quote (quote : Quote)
  deriving DecidableEq

/-- `append_observation` (`market_data/storage.py:44-47`). -/
def appendObservation (records : List (String × Observation)) (observation : Observation)
    (version : String) : List (String × Observation) :=
  if (version, observation) ∈ records then records else records ++ [(version, observation)]

/-- `(bar.instrument_id, bar.source, bar.start)`. -/
def Bar.seenKey (bar : Bar) : String × String × Instant :=
  (bar.instrumentId, bar.source, bar.start)

/-- `MarketDataService` (`market_data/service.py:16-30`). -/
structure MarketDataService where
  checker : BarQualityChecker
  freshness : QuoteFreshnessTracker
  /-- `_bars`. -/
  bars : List Bar := []
  /-- `_seen`. -/
  seen : Finset (String × String × Instant) := ∅
  /-- The records of the storage. -/
  records : List (String × Observation) := []

namespace MarketDataService

/-- A new service. -/
def fresh (checker : BarQualityChecker) (freshness : QuoteFreshnessTracker) : MarketDataService where
  checker := checker
  freshness := freshness

/-- A checked bar is stored, as a duplicate if its minute has been seen
    (`market_data/service.py:49-60`). -/
def store (service : MarketDataService) (checked : Bar) : MarketDataService :=
  let flagged : Bar :=
    if checked.seenKey ∈ service.seen then
      { checked with qualityFlags := checked.qualityFlags ∪ {.duplicate} }
    else checked
  { service with
    bars := service.bars ++ [flagged]
    seen := insert checked.seenKey service.seen
    records := appendObservation service.records (.bar flagged)
      service.checker.settings.normalizationVersion }

/-- `ingest_quote` (`market_data/service.py:62-66`). -/
def ingestQuote (service : MarketDataService) (now : Instant) (quote : Quote) :
    MarketDataService :=
  let (checked, freshness) := service.freshness.update now quote
  { service with
    freshness := freshness
    records := appendObservation service.records (.quote checked)
      service.checker.settings.normalizationVersion }

/-- `refresh_quote` (`market_data/service.py:118-128`), with the answer of the provider. -/
def refreshQuote (service : MarketDataService) (now : Instant) (instrument : String)
    (response : Except PyError Quote) : Except PyError MarketDataService := do
  let quote ← response
  if quote.instrumentId ≠ instrument then
    .error (.valueError "quote instrument differs from request")
  else .ok (service.ingestQuote now quote)

variable [Platform]

/-- `ingest_bar` (`market_data/service.py:32-60`). -/
def ingestBar (service : MarketDataService) (now : Instant) (bar : Bar) :
    Except PyError MarketDataService :=
  if bar.intervalMinutes ≠ 1 then .error (.valueError "ingestion requires raw 1m bars")
  else if now < max bar.stop bar.receivedAt then
    .error (.valueError "bar is unavailable at current clock time")
  else do
    let checked ← service.checker.check bar (predecessor service.bars bar)
    .ok (service.store checked)

/-- `canonical_bars` (`market_data/service.py:130-133`). -/
def canonicalBars [DumpText] (service : MarketDataService) (now : Instant) :
    Except PyError (List Bar) :=
  aggregate service.checker service.bars now

end MarketDataService

/-- What a `load_history` call is given: its arguments, the answer of the provider, and the
    clock when it starts, when each bar is ingested, and when the bars are aggregated. -/
structure HistoryCall where
  instrument : String
  start : Instant
  stop : Instant
  response : Except PyError (List Bar)
  before : Instant
  ingestAt : Nat → Instant
  after : Instant

namespace HistoryCall

/-- Whether a bar is outside the request (`market_data/service.py:78-83`). -/
def outOfScope (call : HistoryCall) (bar : Bar) : Bool :=
  decide (bar.instrumentId ≠ call.instrument ∨ bar.start < call.start ∨ call.stop < bar.stop ∨
    call.before < max bar.stop bar.receivedAt)

/-- Whether a canonical bar lies in the window (`market_data/service.py:87-91`). -/
def inWindow (call : HistoryCall) (bar : Bar) : Bool :=
  decide (bar.instrumentId = call.instrument ∧ call.start ≤ bar.start ∧ bar.stop ≤ call.stop)

end HistoryCall

namespace MarketDataService

variable [Platform]

/-- The loop of `load_history` from its `count`-th bar on (`market_data/service.py:77-85`). -/
def ingestHistory (call : HistoryCall) :
    Nat → List Bar → MarketDataService → Except PyError Unit × MarketDataService
  | _, [], service => (.ok (), service)
  | count, bar :: rest, service =>
    if call.outOfScope bar then
      (.error (.valueError "provider returned data outside request scope"), service)
    else
      match service.ingestBar (call.ingestAt count) bar with
      | .error e => (.error e, service)
      | .ok service => ingestHistory call (count + 1) rest service

/-- `load_history` (`market_data/service.py:68-91`). -/
def loadHistory [DumpText] (service : MarketDataService) (call : HistoryCall) :
    Except PyError (List Bar) × MarketDataService :=
  match call.response with
  | .error e => (.error e, service)
  | .ok bars =>
    match ingestHistory call 0 (sortOn Bar.receiptKey bars) service with
    | (.error e, service) => (.error e, service)
    | (.ok (), service) =>
      let result := do
        let _ ← service.checker.missingIntervals bars call.start call.stop call.before
        let canonical ← service.canonicalBars call.after
        .ok (canonical.filter call.inWindow)
      (result, service)

end MarketDataService

end Godzilla.MarketData

namespace Godzilla.MarketData.Sample

def tracker : QuoteFreshnessTracker where
  staleSeconds := 3
  staleSeconds_pos := by decide +kernel

end Godzilla.MarketData.Sample
