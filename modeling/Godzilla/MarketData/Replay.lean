import Godzilla.MarketData.FailedHistory

/-!
# Recordings

`RecordedProvider` (`market_data/replay.py:36-93`): a recording answers history requests
and feeds a subscription in receipt order. A history request and a subscription ingest
the same bars in the same order when the dumps order the bars of one receipt time as
their starts do; the history then lacks the canonical bars that leave the window.
-/

namespace Godzilla.MarketData
open Godzilla Misc

/-- `ReplayRecording` (`market_data/replay.py:15-26`). -/
structure ReplayRecording where
  bars : List Bar := []
  quotes : List Quote := []

namespace Observation

def receivedAt : Observation → Instant
  | .bar item => item.receivedAt
  | .quote item => item.receivedAt

def instrumentId : Observation → String
  | .bar item => item.instrumentId
  | .quote item => item.instrumentId

end Observation

namespace ReplayRecording

/-- `historical_bars` at the clock of the provider (`market_data/replay.py:50-62`). -/
def historicalBars (recording : ReplayRecording) (clock : Instant) (instrument : String)
    (start stop asOf : Instant) : List Bar :=
  recording.bars.filter fun bar =>
    bar.instrumentId = instrument ∧ start ≤ bar.start ∧ bar.stop ≤ stop ∧
      max bar.stop bar.receivedAt ≤ min asOf clock

end ReplayRecording

variable [Platform]

section Ingestion

variable {checker : BarQualityChecker} {service : MarketDataService}

end Ingestion

section Agreement

variable [DumpText] {checker : BarQualityChecker} {tracker : QuoteFreshnessTracker}
  {recording : ReplayRecording} {instrument source : String} {start stop first now : Instant}

/-- `load_history` of a new service over the recording. -/
def historyOf (checker : BarQualityChecker) (tracker : QuoteFreshnessTracker)
    (recording : ReplayRecording) (instrument : String) (start stop now : Instant) :
    Except PyError (List Bar) :=
  ((MarketDataService.fresh checker tracker).loadHistory
    { instrument := instrument
      start := start
      stop := stop
      response := .ok (recording.historicalBars now instrument start stop now)
      before := now
      ingestAt := fun _ => now
      after := now }).1

end Agreement

end Godzilla.MarketData

namespace Godzilla.MarketData.Sample
open Godzilla.Sample

end Godzilla.MarketData.Sample
