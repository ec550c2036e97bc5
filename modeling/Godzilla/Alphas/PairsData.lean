import Godzilla.Alphas.PairsModels
import Godzilla.MarketData.CalendarReads
import Godzilla.Misc.Sorted

/-!
# Pair training data and two-leg liquidity

`alphas/pairs_data.py`: the synchronized window of a pair, every expected slot of the
calendar and nothing else, and the liquidity of its two legs.
-/

namespace Godzilla.Alphas
open Godzilla Misc Features MarketData

/-- The window of a pair: its rows, of which the last one is scored. -/
structure PairWindow where
  rows : List PairObservation
  nonempty : rows ≠ []

namespace PairWindow

/-- `window[0]`. -/
def first (window : PairWindow) : PairObservation := window.rows.head window.nonempty

/-- `window[:-1]`. -/
def training (window : PairWindow) : List PairObservation := window.rows.dropLast

/-- `window[-1]`. -/
def last (window : PairWindow) : PairObservation := window.rows.getLast window.nonempty

end PairWindow

/-- When a row of a pair became known (`alphas/pairs_data.py:28`). -/
def PairObservation.knownBy (row : PairObservation) : Instant :=
  max (max row.left.stop row.right.stop) (max row.left.receivedAt row.right.receivedAt)

/-- The checks on one leg of a row (`alphas/pairs_data.py:43-50`). -/
def checkPairBar (now : Instant) (bar : Bar) (ref : InstrumentRef) : Except PyError Unit := do
  bar.requireStrategyReady now
  if bar.instrumentId ≠ ref.instrumentId ∨ bar.source ≠ ref.source ∨ bar.feedKind ≠ .equity then
    .error (.valueError "PAIR_BAR_IDENTITY")
  else .ok ()

/-- The checks on one row (`alphas/pairs_data.py:40-50`). -/
def checkPairRow (candidate : PairCandidate) (now : Instant) (row : PairObservation) :
    Except PyError Unit :=
  if row.left.start ≠ row.right.start ∨ row.left.stop ≠ row.right.stop then
    .error (.valueError "UNSYNCHRONIZED_LEGS")
  else do
    checkPairBar now row.left.toBar candidate.left
    checkPairBar now row.right.toBar candidate.right

/-- How many five-minute slots a session has room for. -/
def slotCount (opening closing : Instant) : Nat := ((closing - opening) / minutesOf 5).toNat

/-- The five-minute slots of a session that start from `first` on and end by `stop`. -/
def slotsBetween (first stop opening closing : Instant) : List Instant :=
  let cursors := (List.range (slotCount opening closing)).map fun i : Nat =>
    opening + minutesOf 5 * i
  cursors.filter fun cursor => first ≤ cursor ∧ cursor + minutesOf 5 ≤ stop

/-- The loop over the slots of a session (`alphas/pairs_data.py:61-69`). Its last test adds five
    minutes to the first slot that has no room. -/
def sessionSlots (first stop : Instant) : Option (Instant × Instant) →
    Except PyError (List Instant)
  | none => .ok []
  | some (opening, closing) => do
    let _ ← addDuration opening (minutesOf 5 * (slotCount opening closing + 1))
    .ok (slotsBetween first stop opening closing)

section Windows

variable {F : Type} [PyFloat F]

/-- The last rows that are known (`alphas/pairs_data.py:26-36`). -/
def availableWindow (observations : List PairObservation) (cfg : PairsSettings F) (now : Instant) :
    Option PairWindow :=
  let available := sortOn (fun row : PairObservation => row.left.stop)
    (observations.filter fun row => row.knownBy ≤ now)
  if hshort : available.length < cfg.trainingBars + 1 then none
  else
    have hnonempty : available.drop (available.length - (cfg.trainingBars + 1)) ≠ [] := by
      intro hnil
      have hlength := List.drop_eq_nil_iff.mp hnil
      omega
    some ⟨available.drop (available.length - (cfg.trainingBars + 1)), hnonempty⟩

/-- The checks on the rows of a window (`alphas/pairs_data.py:37-50`). -/
def checkWindow (candidate : PairCandidate) (cfg : PairsSettings F) (now : Instant)
    (window : PairWindow) : Except PyError Unit :=
  let age : F := PyFloat.seconds (now - window.last.left.stop)
  if ¬ (0 ≤ age ∧ age ≤ cfg.maxBarLagSeconds) then .error (.valueError "STALE_PAIR_BAR")
  else if window.first.left.start < candidate.effectiveFrom then
    .error (.valueError "ADJUSTMENT_COVERAGE_INSUFFICIENT")
  else window.rows.forM (checkPairRow candidate now)

variable [Platform]

/-- The slots of the session a number of days after the first row
    (`alphas/pairs_data.py:57-69`). -/
def offsetSlots (calendar : ExchangeCalendar) (timezone : String) (first stop : Instant)
    (offset : Nat) : Except PyError (List Instant) := do
  let instant ← addDuration first (daysOf offset)
  let bounds ← readBounds calendar instant timezone
  sessionSlots first stop bounds

/-- Every slot of the sessions from `first` to `stop` (`alphas/pairs_data.py:51-69`). -/
def expectedSlots (calendar : ExchangeCalendar) (timezone : String) (first stop : Instant) :
    Except PyError (List Instant) := do
  let startDay ← localDateIn timezone first
  let endDay ← localDateIn timezone stop
  if 366 < endDay - startDay then .error (.valueError "HISTORY_TOO_SPARSE")
  else do
    let slots ← (List.range (endDay - startDay + 1).toNat).mapM
      (offsetSlots calendar timezone first stop)
    .ok slots.flatten

/-- `select_window` (`alphas/pairs_data.py:18-72`). -/
def selectWindow (observations : List PairObservation) (candidate : PairCandidate)
    (cfg : PairsSettings F) (calendar : ExchangeCalendar) (timezone : String) (now : Instant) :
    Except PyError PairWindow :=
  match availableWindow observations cfg now with
  | none => .error (.valueError "INSUFFICIENT_HISTORY")
  | some window => do
    checkWindow candidate cfg now window
    let expected ← expectedSlots calendar timezone window.first.left.start window.last.left.stop
    if expected ≠ window.rows.map (·.left.start) then
      .error (.valueError "MISSING_DUPLICATE_OR_MISALIGNED_PAIR_BARS")
    else .ok window

end Windows

section Liquidity

variable {F : Type} [PyFloat F]

/-- The checks on one leg before its spread (`alphas/pairs_data.py:83-97`). -/
def LegQuoted (cfg : PairsSettings F) (now : Instant) (item : PairLiquidity F)
    (ref : InstrumentRef) : Prop :=
  item.quote.instrumentId = ref.instrumentId ∧ item.quote.source = ref.source ∧
  item.quote.qualityFlags = ∅ ∧
  (0 < item.quote.bid ∧ item.quote.bid ≤ item.quote.ask) ∧ 0 < item.quote.last ∧
  (item.quote.timestamp ≤ item.quote.receivedAt ∧ item.quote.receivedAt ≤ now) ∧
  (0 ≤ (PyFloat.seconds (now - item.quote.timestamp) : F) ∧
    PyFloat.seconds (now - item.quote.timestamp) ≤ cfg.quoteMaxAgeSeconds) ∧
  (0 ≤ (PyFloat.seconds (now - item.knownAt) : F) ∧
    PyFloat.seconds (now - item.knownAt) ≤
      (PyFloat.ofInt cfg.liquidityMetadataMaxAgeSeconds : F)) ∧
  cfg.minAdv ≤ item.adv ∧ cfg.minTurnover ≤ item.dailyTurnover

instance (cfg : PairsSettings F) (now : Instant) (item : PairLiquidity F) (ref : InstrumentRef) :
    Decidable (LegQuoted cfg now item ref) :=
  inferInstanceAs (Decidable (_ ∧ _))

/-- The spread of a quote in basis points, for a bid that is positive and no greater than the ask
    (`alphas/pairs_data.py:98`). The sum of the two may overflow, and the half of a sum that is
    rounded to less than twice the least positive result is zero. -/
def spreadBps (quote : Quote) : Except PyError F :=
  if Decimal.overflow ≤ quote.bid + quote.ask then
    .error (.arithmeticError "[<class 'decimal.Overflow'>]")
  else if quote.bid + quote.ask < 3 / 2 * Decimal.least then
    .error (.arithmeticError
      (if quote.ask - quote.bid ≤ Decimal.least / 2 then "[<class 'decimal.DivisionUndefined'>]"
        else "[<class 'decimal.DivisionByZero'>]"))
  else .ok (PyFloat.ofDecimal ((quote.ask - quote.bid) / ((quote.bid + quote.ask) / 2) * 10000))

/-- The body of the loop over the legs (`alphas/pairs_data.py:82-100`). -/
def liquidLeg (cfg : PairsSettings F) (now : Instant) (item : PairLiquidity F)
    (ref : InstrumentRef) : Except PyError Bool :=
  if ¬ LegQuoted cfg now item ref then .ok false
  else do
    let spread ← spreadBps item.quote
    .ok (decide (spread ≤ cfg.maxSpreadBps))

/-- `liquid` (`alphas/pairs_data.py:75-101`). -/
def liquid (liquidity : PairLiquidity F × PairLiquidity F) (candidate : PairCandidate)
    (cfg : PairsSettings F) (now : Instant) : Except PyError Bool := do
  let left ← liquidLeg cfg now liquidity.1 candidate.left
  if left = false then .ok false
  else liquidLeg cfg now liquidity.2 candidate.right

end Liquidity

end Godzilla.Alphas
