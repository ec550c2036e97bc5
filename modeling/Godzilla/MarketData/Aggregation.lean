import Godzilla.MarketData.Quality
import Godzilla.Misc.Dict
import Godzilla.Misc.Sorted
import Mathlib.Data.String.Basic

/-!
# Five-minute bars

`FiveMinuteAggregator.aggregate` (`market_data/aggregation.py:13-80`): the one-minute
bars available at a cutoff are checked in receipt order next to the latest bar that
ends before them, collected by session-aligned bucket, and each bucket is reduced to
one bar. The text that breaks ties between copies of a minute is a parameter.
-/

namespace Godzilla.MarketData
open Godzilla Misc

/-- `model_dump_json()` of the observations. -/
class DumpText where
  bar : Bar → String
  quote : Quote → String

/-- A key of the groups: instrument, source and start of the bucket, ordered as a tuple. -/
abbrev BucketKey := String ×ₗ String ×ₗ Instant

/-- The order of `sorted(bars, key=lambda item: (item.received_at, item.start))`. -/
def Bar.receiptKey (bar : Bar) : Instant ×ₗ Instant := toLex (bar.receivedAt, bar.start)

/-- `max(bar.end, bar.received_at) <= cutoff`. -/
def Bar.availableAt (bar : Bar) (cutoff : Instant) : Bool :=
  decide (max bar.stop bar.receivedAt ≤ cutoff)

/-- Whether `item` is a bar of the same instrument and source that ends before `bar` starts. -/
def Bar.precedes (item bar : Bar) : Bool :=
  decide (item.instrumentId = bar.instrumentId ∧ item.source = bar.source ∧
    item.stop ≤ bar.start)

/-- The first of the bars before `bar` that ends latest (`market_data/aggregation.py:26-35`,
    `market_data/service.py:38-47`). -/
def predecessor (items : List Bar) (bar : Bar) : Option Bar :=
  maxOn (·.stop) (items.filter (·.precedes bar))

/-- The bucket of a bar in a session that opens at `opening`
    (`market_data/aggregation.py:44-46`). -/
def Bar.bucketFrom (bar : Bar) (opening : Instant) : Instant :=
  opening + minutesOf (5 * ((bar.start - opening) / secondsOf 300))

/-- Whether the flags keep a bar out of every bucket (`market_data/aggregation.py:39-42`). -/
def Bar.outOfBuckets (bar : Bar) : Bool :=
  decide (QualityFlag.outOfSession ∈ bar.qualityFlags ∨ QualityFlag.misaligned ∈ bar.qualityFlags)

/-- What the loop has built: the checked bars and those of each bucket. -/
structure Aggregation where
  available : List Bar := []
  groups : Dict BucketKey (List Bar) := .empty

variable [Platform]

/-- One iteration of the loop (`market_data/aggregation.py:20-47`). -/
def Aggregation.step (checker : BarQualityChecker) (cutoff : Instant) (state : Aggregation)
    (bar : Bar) : Except PyError Aggregation :=
  if bar.intervalMinutes ≠ 1 then .error (.valueError "aggregation requires 1m inputs")
  else if !bar.availableAt cutoff then .ok state
  else do
    let checked ← checker.check bar (predecessor state.available bar)
    let found ← checker.bounds bar.start
    let available := state.available ++ [checked]
    match found with
    | none => .ok { state with available := available }
    | some (opening, _) =>
      if checked.outOfBuckets then .ok { state with available := available }
      else
        let key : BucketKey := toLex (bar.instrumentId, toLex (bar.source, bar.bucketFrom opening))
        let group := (state.groups.get? key).getD []
        .ok { available := available, groups := state.groups.insert key (group ++ [checked]) }

section Reduce

variable [DumpText]

/-- The order of the copies in a bucket (`market_data/aggregation.py:50-52`). -/
def Bar.copyKey (bar : Bar) : Instant ×ₗ Instant ×ₗ String :=
  toLex (bar.start, toLex (bar.receivedAt, DumpText.bar bar))

/-- `{bar.start: bar for bar in reversed(ordered)}`: the first copy of every minute. -/
def firstCopies (group : List Bar) : Dict Instant Bar :=
  Dict.index (·.start) (sortOn Bar.copyKey group).reverse

/-- The minutes of a bucket (`market_data/aggregation.py:58`). -/
def bucketMinutes (start : Instant) : List Instant :=
  (List.range 5).map fun (minute : Nat) => start + minutesOf minute

/-- The flags of all copies of a bucket, and whether one is repeated
    (`market_data/aggregation.py:55-57`). -/
def groupFlags (group : List Bar) : Finset QualityFlag :=
  (group.foldl (fun flags bar => flags ∪ bar.qualityFlags) ∅) ∪
    if (firstCopies group).size ≠ group.length then {.duplicate} else ∅

/-- Whether a bucket has all its minutes, is over, and holds no incomplete bar
    (`market_data/aggregation.py:60-62`). -/
def groupComplete (cutoff start : Instant) (group : List Bar) : Bool :=
  decide ((firstCopies group).keys.toFinset = (bucketMinutes start).toFinset ∧
    start + minutesOf 5 ≤ cutoff) && (firstCopies group).values.all (·.complete)

/-- The bar of a bucket (`market_data/aggregation.py:49-79`). The bars of a bucket are never
    none, so the branch without values is not reached. -/
def reduceGroup (cutoff : Instant) (key : BucketKey) (group : List Bar) : Option Bar :=
  let start := (ofLex (ofLex key).2).2
  match sortOn (·.start) (firstCopies group).values with
  | [] => none
  | first :: rest =>
    let complete := groupComplete cutoff start group
    some
      { instrumentId := (ofLex key).1
        source := (ofLex (ofLex key).2).1
        start := start
        stop := start + minutesOf 5
        receivedAt := rest.foldl (fun latest bar => max latest bar.receivedAt) first.receivedAt
        intervalMinutes := 5
        openPrice := first.openPrice
        high := rest.foldl (fun high bar => max high bar.high) first.high
        low := rest.foldl (fun low bar => min low bar.low) first.low
        close := (rest.getLast?.getD first).close
        volume := ((first :: rest).map (·.volume)).sum
        complete := complete
        qualityFlags := groupFlags group ∪
          if complete then ∅ else {.incomplete, .missingInterval}
        feedKind := first.feedKind
        interval_supported := fiveMinutes_supported
        duration := add_sub_cancel_left start (minutesOf 5) }

/-- `FiveMinuteAggregator.aggregate` (`market_data/aggregation.py:17-80`). -/
def aggregate (checker : BarQualityChecker) (bars : List Bar) (asOf : Instant) :
    Except PyError (List Bar) := do
  let state ← (sortOn Bar.receiptKey bars).foldlM (Aggregation.step checker asOf) {}
  .ok ((sortOn Prod.fst state.groups.entries).filterMap fun entry =>
    reduceGroup asOf entry.1 entry.2)

end Reduce

end Godzilla.MarketData

namespace Godzilla.MarketData.Sample
open Godzilla.Sample

/-- A session of day 0, the only day that is covered. -/
def calendar : ExchangeCalendar where
  sessionOn day :=
    if day = 0 then
      .ok (some
        { sessionDate := 0
          timezone := "Asia/Kolkata"
          times :=
            { preopenStart := minutesOf 545
              openTime := minutesOf 555
              finalEntryTime := minutesOf 870
              flattenStartTime := minutesOf 900
              hardFlattenDeadline := minutesOf 915
              marketClose := minutesOf 930
              ordered := by decide
              within_day := by decide } })
    else .error "calendar does not cover the date"

def checker : BarQualityChecker where
  calendar := calendar
  settings := { gapFraction_pos := by decide +kernel, volumeMultiple_gt_one := by decide +kernel }
  timezone := "Asia/Kolkata"

/-- The instant `minutes` after the open of day 0. -/
def afterOpen (minutes : Int) : Instant := minutesOf (225 + minutes)

/-- A slot of five minutes has the duration of its interval. -/
theorem slot_duration (slot : Nat) :
    afterOpen (5 * slot) + minutesOf 5 - afterOpen (5 * slot) = minutesOf 5 :=
  add_sub_cancel_left _ _

/-- A one-minute bar at a price, by the minutes after the open. -/
def bar (minute received : Int) (price : ℚ) : Bar where
  instrumentId := "INFY"
  source := "feed"
  receivedAt := afterOpen received
  start := afterOpen minute
  stop := afterOpen minute + minutesOf 1
  intervalMinutes := 1
  openPrice := price
  high := price
  low := price
  close := price
  volume := 10
  interval_supported := oneMinute_supported
  duration := add_sub_cancel_left (afterOpen minute) (minutesOf 1)

/-- The five bars of the first bucket. -/
def opening : List Bar := [bar 0 1 100, bar 1 2 101, bar 2 3 102, bar 3 4 101, bar 4 5 100]

/-- The dumps of bars that differ in their flags; flagged bars come first. -/
scoped instance dumpText : DumpText where
  bar bar := if bar.qualityFlags = ∅ then "[]" else "[\"STALE\"]"
  quote _ := ""

end Godzilla.MarketData.Sample
