import Godzilla.Core.Health
import Godzilla.MarketData.Models
import Godzilla.Misc.Dict

/-!
# Quote freshness

`QuoteFreshnessTracker` (`market_data/freshness.py`): the flags of a quote next to the
last clean one of its instrument, and the freshness that is computed again on every
read. `stale_seconds` is read exactly.
-/

namespace Godzilla.MarketData
open Godzilla Misc

/-- `QuoteFreshnessTracker` (`market_data/freshness.py:9-18`). -/
structure QuoteFreshnessTracker where
  staleSeconds : ℚ
  quotes : Dict String Quote := .empty
  invalid : Finset String := ∅
  staleSeconds_pos : 0 < staleSeconds

namespace QuoteFreshnessTracker

/-- The flags `update` gives a quote (`market_data/freshness.py:21-33`). -/
def flags (tracker : QuoteFreshnessTracker) (now : Instant) (quote : Quote) : Finset QualityFlag :=
  quote.qualityFlags ∪
  (if min (min quote.bid quote.ask) quote.last ≤ 0 then {.invalidPrice} else ∅) ∪
  (if quote.ask < quote.bid then {.crossedQuote} else ∅) ∪
  (if quote.receivedAt < quote.timestamp ∨ now < quote.receivedAt then {.futureTimestamp}
    else ∅) ∪
  (if tracker.staleSeconds * 1000000 < ((now - quote.timestamp : Int) : ℚ) then {.stale} else ∅) ∪
  match tracker.quotes.get? quote.instrumentId with
  | some previous => if quote.timestamp ≤ previous.timestamp then {.duplicate} else ∅
  | none => ∅

/-- `QuoteFreshnessTracker.update` (`market_data/freshness.py:20-41`): the checked quote,
    remembered when it is clean. -/
def update (tracker : QuoteFreshnessTracker) (now : Instant) (quote : Quote) :
    Quote × QuoteFreshnessTracker :=
  let flags := tracker.flags now quote
  let checked := { quote with qualityFlags := flags }
  if flags = ∅ then
    (checked,
      { tracker with
        quotes := tracker.quotes.insert quote.instrumentId checked
        invalid := tracker.invalid.erase quote.instrumentId })
  else (checked, { tracker with invalid := insert quote.instrumentId tracker.invalid })

/-- `0 <= (now - quote.timestamp).total_seconds() <= self.stale_seconds`. -/
def young (staleSeconds : ℚ) (now : Instant) (quote : Quote) : Prop :=
  0 ≤ now - quote.timestamp ∧ ((now - quote.timestamp : Int) : ℚ) ≤ staleSeconds * 1000000

instance (staleSeconds : ℚ) (now : Instant) (quote : Quote) :
    Decidable (young staleSeconds now quote) :=
  inferInstanceAs (Decidable (_ ∧ _))

/-- `healthy` (`market_data/freshness.py:49-53`). -/
def isHealthy (tracker : QuoteFreshnessTracker) (now : Instant) (instrumentId : String) : Prop :=
  (∃ quote ∈ tracker.quotes.get? instrumentId, young tracker.staleSeconds now quote) ∧
    instrumentId ∉ tracker.invalid

instance (tracker : QuoteFreshnessTracker) (now : Instant) (instrumentId : String) :
    Decidable (tracker.isHealthy now instrumentId) :=
  inferInstanceAs (Decidable (_ ∧ _))

/-- `QuoteFreshnessTracker.health` (`market_data/freshness.py:43-61`). -/
def health (tracker : QuoteFreshnessTracker) (now : Instant) (instrumentId : String) :
    ComponentHealth where
  component := "quote:" ++ instrumentId
  status := if tracker.isHealthy now instrumentId then .healthy else .unhealthy
  observedAt := now
  blocking := true
  message := if tracker.isHealthy now instrumentId then "fresh"
    else "missing, stale or invalid quote"

/-- `QuoteFreshnessTracker.require_fresh` (`market_data/freshness.py:63-66`). -/
def requireFresh (tracker : QuoteFreshnessTracker) (now : Instant) (instrumentId : String) :
    Except PyError Quote :=
  if (tracker.health now instrumentId).status ≠ .healthy then
    .error (.valueError "execution quote unavailable or stale")
  else
    match tracker.quotes.get? instrumentId with
    | some quote => .ok quote
    -- a healthy instrument has a quote
    | none => .error (.keyError instrumentId)

theorem requireFresh_eq_ok_iff {tracker : QuoteFreshnessTracker} {now : Instant}
    {instrumentId : String} {quote : Quote} :
    tracker.requireFresh now instrumentId = .ok quote ↔
      tracker.quotes.get? instrumentId = some quote ∧
        young tracker.staleSeconds now quote ∧ instrumentId ∉ tracker.invalid := by
  rw [requireFresh]
  cases hquote : tracker.quotes.get? instrumentId with
  | none =>
    by_cases hhealthy : tracker.isHealthy now instrumentId <;> simp [health, hhealthy]
  | some found =>
    by_cases hhealthy : tracker.isHealthy now instrumentId
    · obtain ⟨⟨q, hq, hyoung⟩, hvalid⟩ := hhealthy
      rw [hquote] at hq
      obtain rfl := Option.some.inj hq
      have hhealthy : tracker.isHealthy now instrumentId := ⟨⟨found, hquote, hyoung⟩, hvalid⟩
      simp only [health, if_pos hhealthy, ne_eq, not_true, if_false, Except.ok.injEq,
        Option.some.injEq]
      constructor
      · rintro rfl
        exact ⟨rfl, hyoung, hvalid⟩
      · exact fun h => h.1
    · simp only [health, if_neg hhealthy, ne_eq, reduceCtorEq, not_false_eq_true, if_true,
        Option.some.injEq, false_iff]
      rintro ⟨rfl, hyoung, hvalid⟩
      exact hhealthy ⟨⟨found, hquote, hyoung⟩, hvalid⟩

end QuoteFreshnessTracker

end Godzilla.MarketData
