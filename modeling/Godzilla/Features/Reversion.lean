import Godzilla.Features.Series
import Godzilla.Features.VwapReversion

/-!
# What the closed bars of a session say of a reversion

`reversion_features` (`features/vwap_reversion.py:45-99`): the bars of the session that are
closed and known, in a row of five-minute slots from the open, their VWAP, and the last moves
in units of the true range of the bars before the last.
-/

namespace Godzilla.Features
open Godzilla MarketData Misc

/-- `bars` (`features/vwap_reversion.py:52-57`). -/
def sessionBars (observations : List Bar) (now opening : Instant) : List Bar :=
  sortOn (·.start)
    (observations.filter fun b => opening ≤ b.start ∧ b.stop ≤ now ∧ b.receivedAt ≤ now)

/-- Whether a bar is not the one of its slot (`features/vwap_reversion.py:62-67`). -/
def outOfPlace (bars : List Bar) (slot : Instant) (bar : Bar) : Bool :=
  bar.start ≠ slot || bars.head?.any (fun first =>
    bar.instrumentId ≠ first.instrumentId || bar.source ≠ first.source) ||
  bar.feedKind ≠ .equity

/-- The loop over the bars (`features/vwap_reversion.py:60-68`). -/
def checkSession (bars : List Bar) (now opening : Instant) : Except PyError Unit :=
  bars.zipIdx.forM fun (bar, index) => do
    bar.requireStrategyReady now
    let slot ← addDuration opening (minutesOf (5 * index))
    if outOfPlace bars slot bar then .error (.valueError "SESSION_HISTORY_AMBIGUOUS")
    else .ok ()

/-- `_Bars` (`features/vwap_reversion.py:41-42`). -/
structure ReversionInputs where
  bars : List Bar

section Measured

variable {F : Type} [PyFloat F]

/-- `scale`: the mean true range of the bars before the last
    (`features/vwap_reversion.py:70-76`). -/
def volatilityScale (bars : List Bar) (definition : ReversionFeatureVersion) : F :=
  let prior := (lastN (definition.scaleBars + 1) bars).dropLast
  let previous := (lastN (definition.scaleBars + 2) (closesOf bars)).dropLast.dropLast
  PyFloat.fmean (List.zipWith trueRange prior previous)

/-- `vwap` (`features/vwap_reversion.py:79`). -/
def sessionVwap (bars : List Bar) : Except PyError F :=
  divide (PyFloat.sum (bars.map fun b => typical b * PyFloat.ofDecimal b.volume))
    (PyFloat.sum (bars.map fun b => PyFloat.ofDecimal b.volume))

/-- `closes[-back]` of as many bars. -/
def closeBack (bars : List Bar) (back : ℕ) : F :=
  ((closesOf bars).reverse.drop (back - 1)).headD 0

variable [Platform]

/-- The features that are measured of enough bars (`features/vwap_reversion.py:69-99`); the
    fields are finite, and the close lies in its bar. -/
def measureReversion (bars : List Bar) (current : Bar) (definition : ReversionFeatureVersion) :
    Except PyError (ReversionFeatures F) :=
  let scale : F := volatilityScale bars definition
  if hscale : scale ≤ 0 then .error (.valueError "DEGENERATE_VOLATILITY")
  else do
    let vwap ← sessionVwap bars
    let barRange : F := PyFloat.ofDecimal (current.high - current.low)
    if barRange ≤ 0 then .error (.valueError "NO_REVERSAL_RANGE")
    else
      let close : F := closeBack bars 1
      let stretch := (close - vwap) / scale
      let impulse := (closeBack bars 3 - closeBack bars 4) / scale
      let decelerated := (closeBack bars 2 - closeBack bars 3) / scale
      let reversal := (close - closeBack bars 2) / scale
      let body := PyFloat.ofDecimal (current.close - current.openPrice) / scale
      let location := PyFloat.ofDecimal (current.close - current.low) / barRange
      if ¬ [vwap, scale, stretch, impulse, decelerated, reversal, body, location, close].all
          PyFloat.isFinite then
        .error (invalid "ReversionFeatures" "values must be finite")
      else if hlocation : 0 ≤ location ∧ location ≤ 1 then
        .ok
          { timestamp := current.stop
            instrumentId := current.instrumentId
            source := current.source
            sessionVwap := vwap
            volatilityScale := scale
            stretch := stretch
            impulse := impulse
            deceleratedImpulse := decelerated
            reversal := reversal
            body := body
            closeLocation := location
            price := close
            definition := definition
            inputHash := contentHash (ReversionInputs.mk bars)
            scale_pos := not_le.mp hscale
            location_range := hlocation }
      else .error (invalid "ReversionFeatures" "close_location must be between 0 and 1")

/-- `reversion_features` (`features/vwap_reversion.py:45-99`). -/
def reversionFeatures (observations : List Bar) (now opening : Instant)
    (definition : ReversionFeatureVersion) : Except PyError (ReversionFeatures F) :=
  let bars := sessionBars observations now opening
  match bars.getLast? with
  | none => .error (.valueError "FEATURE_WARMUP")
  | some current =>
    if bars.length < definition.scaleBars + 2 then .error (.valueError "FEATURE_WARMUP")
    else do
      checkSession bars now opening
      measureReversion bars current definition

end Measured

end Godzilla.Features
