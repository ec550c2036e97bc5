import Godzilla.MarketData.Calendar
import Godzilla.MarketData.Models

/-!
# Data quality

`BarQualityChecker` (`market_data/quality.py:47-113`): the flags a bar gets next to
its predecessor, and the minutes of a window without an available bar. Both ask the
calendar, whose `CalendarCoverageError` they pass on.
-/

namespace Godzilla.MarketData
open Godzilla

/-- `DataQualitySettings` (`market_data/quality.py:13-17`). -/
structure DataQualitySettings where
  abnormalGapFraction : ℚ := 1 / 10
  abnormalVolumeMultiple : ℚ := 10
  normalizationVersion : String := "ohlcv-v1"
  gapFraction_pos : 0 < abnormalGapFraction
  volumeMultiple_gt_one : 1 < abnormalVolumeMultiple

/-- `BarQualityChecker` (`market_data/quality.py:47-53`). -/
structure BarQualityChecker where
  calendar : ExchangeCalendar
  settings : DataQualitySettings
  timezone : String

namespace BarQualityChecker

variable [Platform] (checker : BarQualityChecker)

/-- `session_bounds(self.calendar, instant, self.timezone)`. -/
def bounds (instant : Instant) : Except PyError (Option (Instant × Instant)) :=
  match sessionBounds checker.calendar instant checker.timezone with
  | .ok found => .ok found
  | .error message => .error (.calendarCoverage message)

/-- The flag of a bar's place in its session (`market_data/quality.py:57-61`). -/
def placeFlags (bar : Bar) : Option (Instant × Instant) → Finset QualityFlag
  | none => {.outOfSession}
  | some (opening, closing) =>
    if bar.start < opening ∨ closing < bar.stop then {.outOfSession}
    else if (bar.start - opening) % minutesOf bar.intervalMinutes ≠ 0 then {.misaligned}
    else ∅

/-- The flags of the bar's own times (`market_data/quality.py:62-65`). -/
def timeFlags (bar : Bar) : Finset QualityFlag :=
  (if bar.complete then ∅ else {.incomplete}) ∪
  if bar.receivedAt < bar.stop then {.futureTimestamp} else ∅

/-- The flags of a bar next to the bar before it (`market_data/quality.py:66-82`). -/
def changeFlags (bar : Bar) : Option Bar → Finset QualityFlag
  | none => ∅
  | some previous =>
    if previous.instrumentId = bar.instrumentId ∧ previous.source = bar.source ∧
        previous.stop ≤ bar.start ∧ previous.receivedAt ≤ bar.receivedAt then
      (if 0 < previous.close ∧
          checker.settings.abnormalGapFraction < |bar.openPrice / previous.close - 1| then
        {.abnormalGap} else ∅) ∪
      (if 0 < previous.volume ∧
          checker.settings.abnormalVolumeMultiple < bar.volume / previous.volume then
        {.abnormalVolume} else ∅)
    else ∅

/-- `BarQualityChecker.check` (`market_data/quality.py:55-83`). -/
def check (bar : Bar) (previous : Option Bar) : Except PyError Bar := do
  let found ← checker.bounds bar.start
  .ok { bar with
    qualityFlags := bar.qualityFlags ∪ priceFlags bar ∪ placeFlags bar found ∪ timeFlags bar ∪
      checker.changeFlags bar previous }

/-- The loop of `missing_intervals` over the minutes from `cursor` on that end by `stop`
    (`market_data/quality.py:102-112`). -/
def missingFrom (present : List Instant) : Nat → Instant → Except PyError (List Instant)
  | 0, _ => .ok []
  | minutes + 1, cursor => do
    let found ← checker.bounds cursor
    let later ← missingFrom present minutes (cursor + minutesOf 1)
    match found with
    | none => .ok later
    | some (opening, closing) =>
      if opening ≤ cursor ∧ cursor + minutesOf 1 ≤ closing ∧
          (cursor - opening) % secondsOf 60 = 0 ∧ cursor ∉ present then .ok (cursor :: later)
      else .ok later

/-- `BarQualityChecker.missing_intervals` (`market_data/quality.py:85-113`). -/
def missingIntervals (bars : List Bar) (start stop asOf : Instant) :
    Except PyError (List Instant) :=
  let last := min stop asOf
  if stop ≤ start ∨ start % minutesOf 1 ≠ 0 then
    .error (.valueError "missing interval window must be ordered and minute-aligned")
  else if 1 < (bars.map fun bar => (bar.instrumentId, bar.source)).dedup.length then
    .error (.valueError "missing interval check requires a single instrument and source")
  else
    let present := (bars.filter fun bar =>
      bar.intervalMinutes = 1 ∧ bar.complete ∧ max bar.stop bar.receivedAt ≤ asOf).map (·.start)
    checker.missingFrom present ((last - start) / minutesOf 1).toNat start

end BarQualityChecker

end Godzilla.MarketData
