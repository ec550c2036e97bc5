import Godzilla.Core.Float
import Godzilla.Core.Platform

/-!
# Trailing numeric primitives

`features/math.py`: the statistics that features and alphas share, over an explicit
sample.
-/

namespace Godzilla.Features
open Godzilla

variable {F : Type} [PyFloat F]

/-- `ratio_change` (`features/math.py:7-8`). -/
def ratioChange (current previous : F) : Option F :=
  if 0 < previous then some (current / previous - 1) else none

/-- `population_std` (`features/math.py:11-13`). -/
def populationStd [PyMath F] (values : List F) : F :=
  let mean := PyFloat.fmean values
  PyMath.sqrt (PyFloat.fmean (values.map fun value => (value - mean) * (value - mean)))

/-- `covariance` (`features/math.py:16-20`). -/
def covariance (left right : List F) : Except PyError F :=
  if left.length ≠ right.length ∨ left = [] then
    .error (.valueError "covariance requires equal nonempty windows")
  else
    let x := PyFloat.fmean left
    let y := PyFloat.fmean right
    .ok (PyFloat.fmean ((left.zip right).map fun p => (p.1 - x) * (p.2 - y)))

/-- `slope` (`features/math.py:23-27`). -/
def slope (values : List F) : Except PyError F :=
  if values.length < 2 then .error (.valueError "slope requires two observations")
  else do
    let time := (List.range values.length).map fun index => (PyFloat.ofInt index : F)
    let up ← covariance time values
    let down ← covariance time time
    .ok (up / down)

/-- The loop of `ema` after its seed (`features/math.py:38-39`). -/
def emaFrom (alpha : F) : F → List F → List F
  | _, [] => []
  | last, value :: rest =>
    let next := alpha * value + (1 - alpha) * last
    next :: emaFrom alpha next rest

/-- `ema` (`features/math.py:30-40`). -/
def ema (values : List F) (period : Nat) : Except PyError (List F) :=
  if period < 1 then .error (.valueError "EMA period must be positive")
  else if values.length < period then .ok []
  else
    let seed := PyFloat.fmean (values.take period)
    .ok (seed :: emaFrom (2 / PyFloat.ofInt (period + 1)) seed (values.drop period))

/-- `math.log` of what may not be positive. -/
def logOf [PyMath F] (x : F) : Except PyError F :=
  if 0 < x then .ok (PyMath.log x) else .error (.valueError "math domain error")

end Godzilla.Features
