import Godzilla.MarketData.AggregationFacts
import Mathlib.Data.Countable.Basic
import Mathlib.Logic.Equiv.List
import Mathlib.Data.Rat.Denumerable

/-!
# Aggregation and the order of its bars

The loop sorts by receipt and start, which leaves copies of a minute that were received
together in the order of the input, and a bar is checked next to the first of them. A
bucket is sorted with a tie-break of its own. So the order of the input shows exactly
through the flags of a bar whose first received predecessors disagree.
-/

namespace Godzilla.MarketData
open Godzilla Misc

/-! ## The predecessors a bar may get -/

/-- The available bars that the loop has met before a bar and that end before it starts. -/
def earlierBars (bars : List Bar) (cutoff : Instant) (bar : Bar) : List Bar :=
  bars.filter fun item => item.availableAt cutoff && item.precedes bar &&
    decide (item.receiptKey < bar.receiptKey)

/-- The first received copies of the latest minute among them. -/
def rivals (bars : List Bar) (cutoff : Instant) (bar : Bar) : List Bar :=
  (earlierBars bars cutoff bar).filter fun item => (earlierBars bars cutoff bar).all fun other =>
    decide (other.stop ≤ item.stop ∧
      (other.stop = item.stop → item.receivedAt ≤ other.receivedAt))

variable {bars bars' : List Bar} {cutoff : Instant} {bar item : Bar}

section Loop

variable [Platform] {checker : BarQualityChecker}

/-- A bar is checked alone where it has no earlier bars, else next to one of its rivals. -/
def Reads (checker : BarQualityChecker) (bars : List Bar) (cutoff : Instant) (bar item : Bar) :
    Prop :=
  (earlierBars bars cutoff bar = [] ∧ item = checker.checked bar none) ∨
  ∃ rival ∈ rivals bars cutoff bar, item = checker.checked bar (some rival)

omit [Platform] in
theorem Bar.start_lt_stop (bar : Bar) : bar.start < bar.stop := by
  have hduration := bar.duration
  rcases bar.interval_supported with h | h <;> rw [h, minutesOf] at hduration <;> lia

/-- The flags of every bar that falls into a bucket are the same next to each of the first
    received copies of the latest minute before it. -/
def OrderFree (checker : BarQualityChecker) (bars : List Bar) (cutoff : Instant) : Prop :=
  ∀ bar ∈ bars, bar.availableAt cutoff → (checker.bucketKey (checker.checked bar none)).isSome →
    ∀ rival ∈ rivals bars cutoff bar, ∀ other ∈ rivals bars cutoff bar,
      (checker.checked bar (some rival)).qualityFlags =
        (checker.checked bar (some other)).qualityFlags

end Loop

/-! ## The result -/

section Result

variable [Platform] [DumpText] {checker : BarQualityChecker}

end Result

end Godzilla.MarketData

namespace Godzilla.MarketData.OrderSample
open Godzilla.Sample

/-- Dumps that show the open price. -/
scoped instance dumpText : DumpText where
  bar bar := if bar.openPrice ≤ 100 then "open 100" else "open 130"
  quote _ := ""

/-- Two copies of the fifth minute that disagree and were received together, and the minute
    after it. -/
def conflicting : List Bar := [Sample.bar 4 5 100, Sample.bar 4 5 130, Sample.bar 5 6 100]

end Godzilla.MarketData.OrderSample
