import Godzilla.Alphas.PairsStatistics
import Godzilla.Alphas.RelativeValueModels
import Godzilla.Misc.Sorted

/-!
# Training-only market beta

`alphas/relative_value_beta.py`: the beta of a stock from the bars of its session that
were known five minutes before the decision, and the weights that neutralize two betas.
-/

namespace Godzilla.Alphas
open Godzilla Misc Features MarketData

/-- `_Training` (`alphas/relative_value_beta.py:16-17`). -/
structure BetaTraining where
  observations : List BetaObservation

/-- `_MarketTraining` (`alphas/relative_value_beta.py:20-21`). -/
structure MarketTraining where
  bars : List WrittenBar

/-- When a row of bars became known (`alphas/relative_value_beta.py:40-42`). -/
def BetaObservation.knownBy (row : BetaObservation) : Instant :=
  max (max row.stock.stop row.market.stop) (max row.stock.receivedAt row.market.receivedAt)

/-- The checks on one bar of a row (`alphas/relative_value_beta.py:53-63`). -/
def checkBetaBar (cutoff : Instant) (bar : Bar) (ref : InstrumentRef) (kind : FeedKind) :
    Except PyError Unit := do
  bar.requireStrategyReady cutoff
  if bar.instrumentId ≠ ref.instrumentId ∨ bar.source ≠ ref.source ∨ bar.feedKind ≠ kind then
    .error (.valueError "BETA_FEED_MISMATCH")
  else .ok ()

/-- The checks on the rows, each after the one before it
    (`alphas/relative_value_beta.py:52-70`). -/
def checkBetaRows (stock market : InstrumentRef) (cutoff opening : Instant) :
    Option BetaObservation → List BetaObservation → Except PyError Unit
  | _, [] => .ok ()
  | previous, row :: rest => do
    checkBetaBar cutoff row.stock.toBar stock .equity
    checkBetaBar cutoff row.market.toBar market .index
    if row.stock.start ≠ row.market.start ∨ row.stock.stop ≠ row.market.stop ∨
        (row.stock.start - opening) % secondsOf 300 ≠ 0 ∨
        ∃ p ∈ previous, p.stock.stop ≠ row.stock.start then
      .error (.valueError "BETA_HISTORY_GAP_OR_DUPLICATE")
    else checkBetaRows stock market cutoff opening (some row) rest

variable {F : Type} [PyFloat F]

/-- The simple returns of closes (`alphas/relative_value_beta.py:71-72`). -/
def simpleReturns (closes : List ℚ) : List F :=
  (closes.zip closes.tail).map fun p => PyFloat.ofDecimal (p.2 / p.1) - 1

/-- The rows that were known at the cutoff, the last `training_returns + 1` of them
    (`alphas/relative_value_beta.py:35-47`). -/
def betaRows (history : List BetaObservation) (cutoff opening : Instant)
    (cfg : RelativeValueSettings F) : List BetaObservation :=
  let known := sortOn (fun row : BetaObservation => row.stock.stop)
    (history.filter fun row => opening ≤ row.stock.start ∧ row.knownBy ≤ cutoff)
  known.drop (known.length - (cfg.trainingReturns + 1))

/-- The slopes of the two halves of the returns (`alphas/relative_value_beta.py:76-77`). -/
def halfSlopes (left right : List F) : Except PyError (F × F) := do
  let half := left.length / 2
  let (_, first) ← ols (left.take half) (right.take half)
  let (_, second) ← ols (left.drop half) (right.drop half)
  .ok (first, second)

/-- `neutral_weights` (`alphas/relative_value_beta.py:93-105`). -/
def neutralWeights (longBeta shortBeta : F) (cfg : RelativeValueSettings F) :
    Except PyError (F × F) :=
  if ¬ (cfg.minBeta ≤ min longBeta shortBeta ∧ max longBeta shortBeta ≤ cfg.maxBeta) then
    .error (.valueError "BETA_OUT_OF_RANGE")
  else
    let longWeight := shortBeta / (longBeta + shortBeta)
    let shortWeight := 1 - longWeight
    if cfg.maxNetGross + PyFloat.ofDecimal (1 / 10 ^ 12) <
        PyFloat.abs (longWeight - shortWeight) then
      .error (.valueError "NET_EXPOSURE_INFEASIBLE")
    else if cfg.maxBetaGross + PyFloat.ofDecimal (1 / 10 ^ 12) <
        PyFloat.abs (longWeight * longBeta - shortWeight * shortBeta) then
      .error (.valueError "BETA_EXPOSURE_INFEASIBLE")
    else .ok (longWeight, shortWeight)

variable [Platform]

/-- Build the estimate, raising what its validators raise. -/
def BetaEstimate.validate (beta intercept drift : F) (rows : List BetaObservation)
    (start stop : Instant) (returns : Nat) : Except PyError (BetaEstimate F) :=
  if PyFloat.isFinite beta = false ∨ PyFloat.isFinite intercept = false ∨
      PyFloat.isFinite drift = false then
    .error (invalid "BetaEstimate" "input should be a finite number")
  else if hdrift : 0 ≤ drift then
    if hreturns : 8 ≤ returns then
      .ok
        { beta := beta
          intercept := intercept
          splitDrift := drift
          trainingStart := start
          trainingEnd := stop
          returns := returns
          inputHash := contentHash (BetaTraining.mk rows)
          marketHash := contentHash (MarketTraining.mk (rows.map (·.market)))
          drift_nonneg := hdrift
          returns_min := hreturns }
    else .error (invalid "BetaEstimate" "returns out of range")
  else .error (invalid "BetaEstimate" "split_drift out of range")

/-- `estimate_beta` (`alphas/relative_value_beta.py:24-90`). -/
def estimateBeta (history : List BetaObservation) (stock market : InstrumentRef)
    (now opening : Instant) (cfg : RelativeValueSettings F) : Except PyError (BetaEstimate F) :=
  let cutoff := now - minutesOf 5
  let rows := betaRows history cutoff opening cfg
  if rows.length ≠ cfg.trainingReturns + 1 then .error (.valueError "BETA_WARMUP")
  else
    match rows.head?, rows.getLast? with
    | some first, some last =>
      if last.stock.stop ≠ cutoff then .error (.valueError "BETA_HISTORY_STALE")
      else do
        checkBetaRows stock market cutoff opening none rows
        let left := simpleReturns (rows.map (·.stock.close))
        let right := simpleReturns (rows.map (·.market.close))
        let (intercept, beta) ← ols left right
        if ¬ (cfg.minBeta ≤ beta ∧ beta ≤ cfg.maxBeta) then
          .error (.valueError "BETA_OUT_OF_RANGE")
        else
          let (before, after) ← halfSlopes left right
          let drift := PyFloat.abs (before - after) / beta
          if cfg.maxSplitBetaDrift < drift then .error (.valueError "BETA_UNSTABLE")
          else
            BetaEstimate.validate beta intercept drift rows first.stock.start last.stock.stop
              left.length
    -- `rows[-1]` of no rows
    | _, _ => .error (.valueError "BETA_WARMUP")

end Godzilla.Alphas
