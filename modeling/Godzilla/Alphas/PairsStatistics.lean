import Godzilla.Alphas.PairsModels
import Godzilla.Features.Math

/-!
# Pair statistics

`alphas/pairs_statistics.py`: the least-squares baseline over the training rows, the
rejections of a relationship and the score of the last row. The formal diagnostics are
replaceable: whatever is passed to the engine answers, or raises.
-/

namespace Godzilla.Alphas
open Godzilla Features

/-- `PairDiagnostics` (`alphas/pairs_statistics.py:14-21`). -/
structure PairDiagnostics (F : Type) [PyFloat F] where
  test : List F → List F → List F → Nat → Except PyError (StatisticalTests F)

/-- `_Training` (`alphas/pairs_statistics.py:54-55`). -/
structure Training where
  observations : List PairObservation

variable {F : Type} [PyFloat F]

/-- `ols` (`alphas/pairs_statistics.py:58-65`): the intercept and the slope. -/
def ols (left right : List F) : Except PyError (F × F) :=
  if left.length ≠ right.length ∨ left.length < 3 then
    .error (.valueError "insufficient aligned OLS observations")
  else do
    let variance ← covariance right right
    if variance ≤ PyFloat.ofDecimal (1 / 10 ^ 15) then .error (.valueError "degenerate regressor")
    else do
      let together ← covariance left right
      let beta := together / variance
      .ok (PyFloat.fmean left - beta * PyFloat.fmean right, beta)

variable [PyMath F]

/-- `math.log(float(price))`. -/
def logPrice (price : ℚ) : Except PyError F := logOf (PyFloat.ofDecimal price)

/-- The half life of a spread (`alphas/pairs_statistics.py:86-87`). -/
def halfLifeOf (spread : List F) : Except PyError (Option F) := do
  let (_, phi) ← ols spread.tail spread.dropLast
  .ok (if 0 < phi ∧ phi < 1 then some (-(PyMath.log (2 : F)) / PyMath.log phi) else none)

variable [Platform]

/-- The fit of the logarithms of the closes (`alphas/pairs_statistics.py:75-103`). -/
def fitLogs (training : List PairObservation) (left right : List F) (cfg : PairsSettings F)
    (diagnostics : PairDiagnostics F) : Except PyError (PairFit F) := do
  let (intercept, beta) ← ols left right
  if beta ≤ 0 then .error (.valueError "nonpositive hedge ratio")
  let spread := (left.zip right).map fun p => p.1 - beta * p.2
  let std := populationStd spread
  if std ≤ cfg.minSpreadStd then .error (.valueError "degenerate spread variance")
  let middle := training.length / 2
  let (_, betaA) ← ols (left.take middle) (right.take middle)
  let (_, betaB) ← ols (left.drop middle) (right.drop middle)
  let stdA := populationStd (spread.take middle)
  let stdB := populationStd (spread.drop middle)
  if min stdA stdB ≤ cfg.minSpreadStd then
    .error (.valueError "degenerate split spread variance")
  let halfLife ← halfLifeOf spread
  let drift := PyFloat.abs (betaA - betaB) / PyFloat.abs beta
  let ratio := max stdA stdB / min stdA stdB
  let shift := PyFloat.abs (PyFloat.fmean (spread.take middle) -
    PyFloat.fmean (spread.drop middle)) / std
  let tests ← diagnostics.test left right spread cfg.testLags
  match training.head?, training.getLast? with
  | some first, some last =>
    if h : 0 < std ∧ ∀ x ∈ [beta, intercept, PyFloat.fmean spread, std, drift, ratio, shift] ++
        halfLife.toList, PyFloat.isFinite x then
      .ok
        { beta := beta
          intercept := intercept
          spreadMean := PyFloat.fmean spread
          spreadStd := std
          halfLifeBars := halfLife
          splitBetaDrift := drift
          spreadStdRatio := ratio
          spreadMeanShift := shift
          tests := tests
          trainingStart := first.left.start
          trainingEnd := last.left.stop
          trainingHash := contentHash (Training.mk training)
          observations := training.length
          std_pos := h.1 }
    else .error (invalid "PairFit" "input should be a finite number")
  -- `training[0]` of an empty window
  | _, _ => .error (.valueError "training window length mismatch")

/-- `fit_pair` (`alphas/pairs_statistics.py:68-103`). With an infinite logarithm the estimates are
    NaN, which no field of `PairFit` takes. -/
def fitPair (training : List PairObservation) (cfg : PairsSettings F)
    (diagnostics : PairDiagnostics F) : Except PyError (PairFit F) :=
  if training.length ≠ cfg.trainingBars then
    .error (.valueError "training window length mismatch")
  else do
    let left ← training.mapM fun row => logPrice row.left.close
    let right ← training.mapM fun row => logPrice row.right.close
    if ∃ x ∈ left ++ right, PyFloat.isFinite x = false then
      .error (invalid "PairFit" "input should be a finite number")
    else fitLogs training left right cfg diagnostics

/-- `relationship_rejections` (`alphas/pairs_statistics.py:106-122`). -/
def relationshipRejections (fit : PairFit F) (cfg : PairsSettings F) : List String :=
  let checks : List (String × Bool) :=
    [("COINTEGRATION_REJECTED", cfg.significance ≤ fit.tests.cointegrationP),
      ("SPREAD_STATIONARITY_REJECTED", cfg.significance ≤ fit.tests.spreadAdfP),
      ("I1_ASSUMPTION_REJECTED",
        min fit.tests.leftLevelAdfP fit.tests.rightLevelAdfP < cfg.significance),
      ("BETA_OUT_OF_RANGE", ¬ (cfg.minBeta ≤ fit.beta ∧ fit.beta ≤ cfg.maxBeta)),
      ("UNSTABLE_BETA", cfg.maxBetaDrift < fit.splitBetaDrift),
      ("UNSTABLE_SPREAD_VARIANCE", cfg.maxSpreadStdRatio < fit.spreadStdRatio),
      ("UNSTABLE_SPREAD_MEAN", cfg.maxSpreadMeanShift < fit.spreadMeanShift),
      ("HALF_LIFE_REJECTED", ¬ ∃ bars ∈ fit.halfLifeBars,
        cfg.minHalfLifeBars ≤ bars ∧ bars ≤ cfg.maxHalfLifeBars),
      ("NEUTRALITY_LIMIT",
        cfg.maxNetGrossFraction < PyFloat.abs (1 - fit.beta) / (1 + fit.beta))]
  (checks.filter (·.2)).map (·.1)

/-- `spread_z` (`alphas/pairs_statistics.py:125-129`): the spread and its score, or none where
    they are NaN. -/
def spreadZ (row : PairObservation) (fit : PairFit F) : Except PyError (Option (F × F)) := do
  let left ← logPrice row.left.close
  let right ← logPrice row.right.close
  .ok do
    let hedge ← PyFloat.mul? fit.beta right
    let spread ← PyFloat.sub? left hedge
    let deviation ← PyFloat.sub? spread fit.spreadMean
    some (spread, deviation / fit.spreadStd)

end Godzilla.Alphas
