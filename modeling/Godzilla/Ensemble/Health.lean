import Godzilla.Core.Decimal
import Godzilla.Ensemble.Models
import Godzilla.Misc.Dict
import Godzilla.Misc.Sorted

/-!
# Alpha health

`measure_health` (`ensemble/health.py`): the rolling outcomes of an alpha, their
expectancy and drawdown, and the multiplier that is cut at once and raised slowly.
A snapshot is built from what was measured, raising what its validators raise.
-/

namespace Godzilla.Ensemble
open Godzilla Misc Features MarketState

/-- `TradeOutcome` (`ensemble/models.py:87-104`). -/
structure TradeOutcome where
  tradeId : Uuid
  alphaId : AlphaId
  closedAt : Instant
  receivedAt : Instant
  grossPnl : Decimal
  costs : Decimal
  slippageCost : Decimal
  grossCapital : Decimal
  regime : MarketState
  costs_nonneg : 0 ≤ costs.value ∧ 0 ≤ slippageCost.value
  capital_pos : 0 < grossCapital.value
  /-- `time_order`. -/
  closed_first : closedAt ≤ receivedAt
  deriving DecidableEq

namespace TradeOutcome

/-- What `==` compares of two outcomes: a `Decimal` by its value. -/
def fields (trade : TradeOutcome) :
    (Uuid × AlphaId × MarketState) × (Instant × Instant) × ((ℚ × ℚ) × ℚ × ℚ) :=
  ((trade.tradeId, trade.alphaId, trade.regime), (trade.closedAt, trade.receivedAt),
    ((trade.grossPnl.value, trade.costs.value), trade.slippageCost.value,
      trade.grossCapital.value))

/-- `t.gross_pnl - t.costs - t.slippage_cost`. -/
def pnl (trade : TradeOutcome) : ℚ :=
  trade.grossPnl.value - trade.costs.value - trade.slippageCost.value

/-- `(x.closed_at, str(x.trade_id))`. -/
def closeKey (trade : TradeOutcome) : Instant ×ₗ Uuid := toLex (trade.closedAt, trade.tradeId)

end TradeOutcome

/-- The outcomes of an alpha that are known, by id (`ensemble/health.py:37-42`). -/
def uniqueTrades (alpha : AlphaId) (now : Instant) :
    List TradeOutcome → Dict Uuid TradeOutcome → Except PyError (Dict Uuid TradeOutcome)
  | [], unique => .ok unique
  | trade :: rest, unique =>
    if trade.alphaId ≠ alpha ∨ now < trade.receivedAt ∨ now < trade.closedAt then
      uniqueTrades alpha now rest unique
    else if ∃ known ∈ unique.get? trade.tradeId, known.fields ≠ trade.fields then
      .error (.valueError "conflicting trade outcome")
    else uniqueTrades alpha now rest (unique.insert trade.tradeId trade)

/-- `items[-count:]`. -/
def lastItems {α : Type} (count : Nat) (items : List α) : List α :=
  items.drop (items.length - count)

/-- `_Outcomes` (`ensemble/health.py:21-22`). -/
structure Outcomes where
  trades : List TradeOutcome

/-- The curve of the returns, its peak and its drawdown. -/
structure Curve (F : Type) where
  curve : F
  peak : F
  drawdown : F

variable {F : Type} [PyFloat F]

namespace AlphaHealthSettings

/-- Everything that tells two settings apart. -/
def fields (cfg : AlphaHealthSettings F) : List Nat × List F :=
  ([cfg.windowTrades, cfg.minimumTrades, cfg.increaseIntervalSeconds, cfg.healthMaxAgeSeconds],
    [cfg.minimumMultiplier, cfg.initialMultiplier, cfg.maximumMultiplier, cfg.maxIncrease,
      cfg.maxReturnDrawdown])

theorem fields_inj {a b : AlphaHealthSettings F} : a.fields = b.fields ↔ a = b := by
  constructor
  · intro h
    cases a
    cases b
    simp only [fields, Prod.mk.injEq, List.cons.injEq] at h
    simp only [mk.injEq]
    tauto
  · exact congrArg fields

instance : DecidableEq (AlphaHealthSettings F) := fun a b =>
  decidable_of_iff (a.fields = b.fields) fields_inj

end AlphaHealthSettings

/-- One return of the curve (`ensemble/health.py:52-55`). -/
def Curve.step (state : Curve F) (value : F) : Curve F :=
  let curve := state.curve + value
  let peak := max state.peak curve
  ⟨curve, peak, max state.drawdown (peak - curve)⟩

/-- What is measured of the window. -/
structure Measured (F : Type) where
  trades : List TradeOutcome
  expectancy : Option F
  drawdown : F
  lastTrade : Option Instant

/-- The measures of a window (`ensemble/health.py:49-57`). -/
def measure (trades : List TradeOutcome) : Measured F :=
  let returns := trades.map fun trade => PyFloat.ofDecimal (trade.pnl / trade.grossCapital.value)
  { trades := trades
    expectancy := if returns = [] then none else some (PyFloat.fmean returns)
    drawdown := (returns.foldl Curve.step ⟨0, 0, 0⟩).drawdown
    lastTrade := trades.getLast?.map (·.closedAt) }

/-- Whether the window cuts the multiplier (`ensemble/health.py:68`). -/
def Measured.deteriorated (measured : Measured F) (cfg : AlphaHealthSettings F) : Prop :=
  ∃ expectancy ∈ measured.expectancy,
    expectancy ≤ 0 ∨ cfg.maxReturnDrawdown ≤ measured.drawdown

instance (measured : Measured F) (cfg : AlphaHealthSettings F) :
    Decidable (measured.deteriorated cfg) :=
  inferInstanceAs (Decidable (∃ _ ∈ _, _))

/-- Whether a later trade has closed than the predecessor knew
    (`ensemble/health.py:73-74`). -/
def Measured.newlyClosed (measured : Measured F) (previous : AlphaHealthSnapshot F) : Prop :=
  ∃ last ∈ measured.lastTrade, ∀ known ∈ previous.lastTradeAt, known < last

instance (measured : Measured F) (previous : AlphaHealthSnapshot F) :
    Decidable (measured.newlyClosed previous) :=
  inferInstanceAs (Decidable (∃ _ ∈ _, ∀ _ ∈ _, _))

/-- Whether the multiplier may rise now (`ensemble/health.py:70-76`). -/
def mayIncrease (measured : Measured F) (cfg : AlphaHealthSettings F) (now : Instant) :
    Option (AlphaHealthSnapshot F) → Prop
  | none => False
  | some previous => cfg.minimumTrades ≤ measured.trades.length ∧ measured.newlyClosed previous ∧
      secondsOf cfg.increaseIntervalSeconds ≤ now - previous.lastIncreaseAt

instance (measured : Measured F) (cfg : AlphaHealthSettings F) (now : Instant) :
    (previous : Option (AlphaHealthSnapshot F)) →
      Decidable (mayIncrease measured cfg now previous)
  | none => inferInstanceAs (Decidable False)
  | some _ => inferInstanceAs (Decidable (_ ∧ _))

/-- The multiplier before the window is looked at (`ensemble/health.py:64-66`). -/
def carriedMultiplier (measured : Measured F) (cfg : AlphaHealthSettings F)
    (previous : Option (AlphaHealthSnapshot F)) : F :=
  let multiplier := (previous.map (·.multiplier.value)).getD cfg.initialMultiplier
  if measured.trades.length < cfg.minimumTrades then min multiplier cfg.initialMultiplier
  else multiplier

/-- The multiplier and the time of its last increase (`ensemble/health.py:64-78`). -/
def nextMultiplier (measured : Measured F) (cfg : AlphaHealthSettings F) (now : Instant)
    (previous : Option (AlphaHealthSnapshot F)) : F × Instant :=
  let multiplier := carriedMultiplier measured cfg previous
  let lastIncrease := (previous.map (·.lastIncreaseAt)).getD now
  if measured.deteriorated cfg then (cfg.minimumMultiplier, lastIncrease)
  else if mayIncrease measured cfg now previous then
    (min cfg.maximumMultiplier (multiplier + cfg.maxIncrease), now)
  else (multiplier, lastIncrease)

/-- The members of `MarketState` in declaration order. -/
def marketStates : List MarketState := [.trendUp, .trendDown, .chop, .highVol, .openShock, .riskOff]

/-- The trades of each regime (`ensemble/health.py:87-89`). -/
def regimeCounts (trades : List TradeOutcome) : List RegimeCount :=
  marketStates.map fun regime => ⟨regime, (trades.filter fun trade => trade.regime = regime).length⟩

/-- Every trade is of one regime. -/
theorem sum_regimeCounts (trades : List TradeOutcome) :
    ((regimeCounts trades).map fun r => (r.trades : Int)).sum = trades.length := by
  induction trades with
  | nil => rfl
  | cons trade rest ih =>
    simp only [regimeCounts, marketStates, List.map_cons, List.map_nil, List.sum_cons,
      List.sum_nil, List.filter_cons] at ih ⊢
    cases trade.regime <;> simp <;> omega

variable [Platform]

/-- `snapshot_hash` (`ensemble/models.py:132-133`). -/
def AlphaHealthSnapshot.snapshotHash (snapshot : AlphaHealthSnapshot F) : Digest :=
  contentHash snapshot

/-- What a call of `measure_health` is given besides the alpha, its settings and the
    predecessor. -/
structure MeasureCall where
  outcomes : List TradeOutcome
  now : Instant
  codeCommit : String
  configHash : Digest
  dataSnapshot : String

/-- The snapshot of a window, raising what its validators raise
    (`ensemble/health.py:79-106`). -/
def healthSnapshot (alpha : AlphaId) (cfg : AlphaHealthSettings F) (call : MeasureCall)
    (measured : Measured F) (previous : Option (AlphaHealthSnapshot F)) :
    Except PyError (AlphaHealthSnapshot F) :=
  let next := nextMultiplier measured cfg call.now previous
  if hbounded : 0 ≤ cfg.minimumMultiplier ∧ cfg.minimumMultiplier ≤ next.1 ∧
      next.1 ≤ cfg.maximumMultiplier ∧ cfg.maximumMultiplier ≤ 1 then
    if hincrease : next.2 ≤ call.now then
      if htrade : ∀ t ∈ measured.lastTrade, t ≤ call.now then
        .ok
          { alphaId := alpha
            timestamp := call.now
            trades := measured.trades.length
            netExpectancy := measured.expectancy
            netPnl := (measured.trades.map (·.pnl)).sum
            drawdown := measured.drawdown
            costs := (measured.trades.map (·.costs.value)).sum
            slippageCost := (measured.trades.map (·.slippageCost.value)).sum
            regimes := regimeCounts measured.trades
            multiplier := ⟨next.1, cfg.minimumMultiplier, cfg.maximumMultiplier, hbounded⟩
            lastIncreaseAt := next.2
            lastTradeAt := measured.lastTrade
            settings := cfg
            outcomesHash := contentHash (Outcomes.mk measured.trades)
            priorHash := previous.map (·.snapshotHash)
            codeCommit := call.codeCommit
            configHash := call.configHash
            dataSnapshot := call.dataSnapshot
            increase_past := hincrease
            trade_past := htrade
            bounds_match := ⟨rfl, rfl⟩
            regimes_sum := sum_regimeCounts measured.trades }
      else .error (invalid "AlphaHealthSnapshot" "inconsistent alpha health snapshot")
    else .error (invalid "AlphaHealthSnapshot" "inconsistent alpha health snapshot")
  else .error (invalid "AlphaHealthMultiplier" "health multiplier outside configured bounds")

/-- Whether a snapshot is no predecessor of a measurement (`ensemble/health.py:46-48`). -/
def invalidPredecessor (alpha : AlphaId) (cfg : AlphaHealthSettings F) (now : Instant)
    (previous : AlphaHealthSnapshot F) : Prop :=
  previous.alphaId ≠ alpha ∨ previous.settings ≠ cfg ∨ now ≤ previous.timestamp

instance (alpha : AlphaId) (cfg : AlphaHealthSettings F) (now : Instant)
    (previous : AlphaHealthSnapshot F) : Decidable (invalidPredecessor alpha cfg now previous) :=
  inferInstanceAs (Decidable (_ ∨ _))

/-- Whether trades that the predecessor knew are gone (`ensemble/health.py:58-62`). -/
def regressed (measured : Measured F) (previous : AlphaHealthSnapshot F) : Prop :=
  ∃ known ∈ previous.lastTradeAt, ∀ last ∈ measured.lastTrade, last < known

instance (measured : Measured F) (previous : AlphaHealthSnapshot F) :
    Decidable (regressed measured previous) :=
  inferInstanceAs (Decidable (∃ _ ∈ _, ∀ _ ∈ _, _))

/-- `measure_health` (`ensemble/health.py:25-106`). -/
def measureHealth (alpha : AlphaId) (cfg : AlphaHealthSettings F) (call : MeasureCall)
    (previous : Option (AlphaHealthSnapshot F)) : Except PyError (AlphaHealthSnapshot F) := do
  let unique ← uniqueTrades alpha call.now call.outcomes .empty
  if ∃ p ∈ previous, invalidPredecessor alpha cfg call.now p then
    .error (.valueError "invalid health predecessor")
  else
    let measured := measure (lastItems cfg.windowTrades (sortOn TradeOutcome.closeKey unique.values))
    if ∃ p ∈ previous, regressed measured p then
      .error (.valueError "health history regressed or disappeared")
    else healthSnapshot alpha cfg call measured previous

/-- Measurements in a row, each after the snapshot before it. -/
def measureChain (alpha : AlphaId) (cfg : AlphaHealthSettings F) :
    Option (AlphaHealthSnapshot F) → List MeasureCall → Except PyError (List (AlphaHealthSnapshot F))
  | _, [] => .ok []
  | previous, call :: rest => do
    let snapshot ← measureHealth alpha cfg call previous
    let later ← measureChain alpha cfg (some snapshot) rest
    .ok (snapshot :: later)

end Godzilla.Ensemble
