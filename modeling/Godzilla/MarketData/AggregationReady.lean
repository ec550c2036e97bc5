import Godzilla.MarketData.AggregationOrder
import Godzilla.MarketData.NoRepaint
import Mathlib.Algebra.Order.BigOperators.Group.List

/-!
# Which buckets are canonical

A five-minute bar passes `require_strategy_ready` at its cutoff exactly if its bucket
has one bar for every minute, all complete and all without a flag, and it is then the
summary of the five. Bars that the checker places out of the session or off its grid
are in no bucket: they neither spoil a bar nor count for one.
-/

namespace Godzilla.MarketData
open Godzilla Misc

/-- The bucket that a five-minute bar stands for. -/
def Bar.key (bar : Bar) : BucketKey := toLex (bar.instrumentId, toLex (bar.source, bar.start))

section Reduction

variable [DumpText] {cutoff : Instant} {group : List Bar} {key : BucketKey} {bar : Bar}
  {start : Instant}

/-- The minutes of a group, each by its first copy. -/
def copies (group : List Bar) : List Bar := sortOn (·.start) (firstCopies group).values

end Reduction

section Run

variable [Platform] (checker : BarQualityChecker) (bars : List Bar) (cutoff : Instant)

variable {checker bars cutoff}

variable [DumpText] {out : List Bar}

end Run

end Godzilla.MarketData

namespace Godzilla.MarketData.Sample
open Godzilla.Sample Misc

end Godzilla.MarketData.Sample
