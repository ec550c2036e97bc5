import Godzilla.Alphas.BreakoutModels
import Godzilla.Features.Series
import Godzilla.MarketState.Rules

/-!
# The measurement of a breakout

`alphas/breakout_scoring.py`: the levels of the reference that the bar crossed, the signed
quantities of the break, the twenty comparisons on record, and the seven components of the
score. `sign * x` is `signed side x`: multiplication by one or minus one is exact.
-/

namespace Godzilla.Alphas
open Godzilla Misc Features MarketData MarketState

/-- What `measure_breakout` returns. -/
structure BreakoutMeasurement (F : Type) [PyFloat F] where
  components : List (BreakoutComponent F) := []
  invalidation : Option (BreakoutInvalidation F) := none
  reasons : List String

/-- The arguments of one `evidence.record`. -/
structure Comparison (F : Type) where
  name : String
  value : F
  operator : Operator
  threshold : F

/-- One of the rows behind a component. -/
structure ComponentRow (F : Type) where
  name : String
  value : F
  scale : F

/-- What is computed of a candidate before its first comparison
    (`alphas/breakout_scoring.py:62-79`). -/
structure BreakoutReading (F : Type) where
  kind : RangeKind
  level : F
  close : F
  extension : F
  location : F
  body : F
  vwap : F
  sector : F
  slope : F
  relativeVolume : F
  residualSector : F
  residualMarket : F
  spread : F
  age : F
  adv : F
  turnover : F
  invalidationLevel : F
  proxy : F

section Measurement

variable {F : Type} [PyFloat F]

/-- `numeric` (`alphas/breakout_scoring.py:15-21`). -/
def numeric (observation : MomentumObservation F) (name : String) : Except PyError F :=
  match (observation.snapshot.lookup name).bind (·.value) with
  | none => .error (.valueError ("MISSING_FEATURE:" ++ name))
  | some value => .ok value

/-- `sign * x`. -/
def signed (side : Side) (x : F) : F :=
  match side with
  | .long => x
  | .short => -x

/-- `suffix`. -/
def extremeOf : Side → String
  | .long => "high"
  | .short => "low"

/-- `float(condition)`. -/
def indicator (condition : Prop) [Decidable condition] : F := if condition then 1 else 0

/-- The bars of the session that have to be known before a level is
    (`alphas/breakout_scoring.py:43-52`). -/
def confirmationBars (version : FeatureSetVersion F) : RangeKind → Nat
  | .openingRange => version.openingRangeBars
  | .swing => 2 * version.swingConfirmationBars + 1

/-- The level of one kind, when the reference knows it and the bar is the first to close
    behind it (`alphas/breakout_scoring.py:40-58`). -/
def crossedLevel (item : BreakoutObservation F) (side : Side) (cfg : BreakoutSettings F)
    (opening : Instant) (kind : RangeKind) : Except PyError (List (RangeKind × F)) :=
  if cfg.rangeSource ≠ none ∧ cfg.rangeSource ≠ some kind then .ok []
  else do
    let known ← addDuration opening (minutesOf (5 * confirmationBars item.featureDefinition kind))
    if item.reference.snapshot.timestamp < known then .ok []
    else
      match numeric item.reference ("stock." ++ kind.text ++ "_" ++ extremeOf side) with
      | .error _ => .ok []
      | .ok level =>
        if 0 < level ∧ signed side (PyFloat.ofDecimal item.previousBar.close - level) ≤ 0 ∧
            0 < signed side (PyFloat.ofDecimal item.bar.close - level) then .ok [(kind, level)]
        else .ok []

/-- `levels`. -/
def crossedLevels (item : BreakoutObservation F) (side : Side) (cfg : BreakoutSettings F)
    (opening : Instant) : Except PyError (List (RangeKind × F)) := do
  let range ← crossedLevel item side cfg opening .openingRange
  let swing ← crossedLevel item side cfg opening .swing
  .ok (range ++ swing)

/-- The hardest of the levels that the bar crossed, or why there is none
    (`alphas/breakout_scoring.py:33-61`). -/
def brokenLevel (item : BreakoutObservation F) (side : Side) (cfg : BreakoutSettings F)
    (opening : Instant) : Except PyError (Except String (F × RangeKind × F)) := do
  let atr ← numeric item.current "stock.atr"
  if atr ≤ 0 ∨ item.bar.high = item.bar.low then .ok (.error "INVALID_ATR_OR_FLAT_BAR")
  else do
    let levels ← crossedLevels item side cfg opening
    match Misc.maxOn (fun pair => signed side pair.2) levels with
    | none => .ok (.error "NO_NEW_BREAK_OF_KNOWN_LEVEL")
    | some (kind, level) => .ok (.ok (atr, kind, level))

/-- `location` before it is divided. -/
def reach (side : Side) (high low close : F) : F :=
  match side with
  | .long => close - low
  | .short => high - close

/-- The quantities of a break (`alphas/breakout_scoring.py:62-79`). -/
def breakoutReading (item : BreakoutObservation F) (side : Side) (cfg : BreakoutSettings F)
    (atr : F) (kind : RangeKind) (level : F) : Except PyError (BreakoutReading F) := do
  let high := PyFloat.ofDecimal item.bar.high
  let low := PyFloat.ofDecimal item.bar.low
  let close := PyFloat.ofDecimal item.bar.close
  let opened := PyFloat.ofDecimal item.bar.openPrice
  let extension ← divide (signed side (close - level)) atr
  let location ← divide (reach side high low close) (high - low)
  let body ← divide (signed side (close - opened)) (high - low)
  let vwap ← numeric item.current "stock.session_vwap"
  let sector ← numeric item.current "sector.vwap_distance"
  let slope ← numeric item.current "stock.ema_20_slope"
  let relativeVolume ← numeric item.current "stock.relative_volume"
  let residualSector ← numeric item.current "stock.relative_sector_30m"
  let residualMarket ← numeric item.current "stock.relative_market_30m"
  let spread ← numeric item.current "liquidity.spread_bps"
  let age ← numeric item.current "liquidity.quote_age"
  let adv ← numeric item.current "liquidity.adv"
  let turnover ← numeric item.current "liquidity.average_daily_turnover"
  let proxy ← divide cfg.rewardDistanceAtr (extension + cfg.invalidationBufferAtr)
  .ok
    { kind := kind
      level := level
      close := close
      extension := extension
      location := location
      body := body
      vwap := vwap
      sector := signed side sector
      slope := signed side slope
      relativeVolume := relativeVolume
      residualSector := signed side residualSector
      residualMarket := signed side residualMarket
      spread := spread
      age := age
      adv := adv
      turnover := turnover
      invalidationLevel := level - signed side cfg.invalidationBufferAtr * atr
      proxy := proxy }

/-- `checks`, before they are recorded (`alphas/breakout_scoring.py:80-105`). -/
def BreakoutReading.comparisons (r : BreakoutReading F) (side : Side) (strength : F)
    (cfg : BreakoutSettings F) : List (Comparison F) :=
  [ ⟨"stock.vwap_positive", indicator (0 < r.vwap), .eq, 1⟩,
    ⟨"stock.above_below_vwap", indicator (0 < signed side (r.close - r.vwap)), .eq, 1⟩,
    ⟨"sector.direction_confirmed", indicator (0 < r.sector), .eq, 1⟩,
    ⟨"stock.slope_confirmed", indicator (0 < r.slope), .eq, 1⟩,
    ⟨"relative_strength", strength, .ge, cfg.minimumStrengthPercentile⟩,
    ⟨"residual_sector", r.residualSector, .ge, cfg.minimumResidualReturn⟩,
    ⟨"residual_market", r.residualMarket, .ge, cfg.minimumResidualReturn⟩,
    ⟨"stock.relative_volume", r.relativeVolume, .ge, cfg.minimumRelativeVolume⟩,
    ⟨"breakout.extension_atr", r.extension, .ge, cfg.minExtensionAtr⟩,
    ⟨"breakout.extension_atr", r.extension, .le, cfg.maxExtensionAtr⟩,
    ⟨"breakout.close_location", r.location, .ge, cfg.minCloseLocation⟩,
    ⟨"breakout.body_fraction", r.body, .ge, cfg.minBodyFraction⟩,
    ⟨"reward_risk_proxy", r.proxy, .ge, cfg.minRewardRiskProxy⟩,
    ⟨"liquidity.spread_bps", r.spread, .ge, 0⟩,
    ⟨"liquidity.spread_bps", r.spread, .le, cfg.maxSpreadBps⟩,
    ⟨"liquidity.quote_age", r.age, .ge, 0⟩,
    ⟨"liquidity.quote_age", r.age, .le, cfg.maxQuoteAgeSeconds⟩,
    ⟨"liquidity.adv", r.adv, .ge, cfg.minAdv⟩,
    ⟨"liquidity.turnover", r.turnover, .ge, cfg.minDailyTurnover⟩,
    ⟨"invalidation.positive_price", indicator (0 < r.invalidationLevel), .eq, 1⟩ ]

/-- `quality` (`alphas/breakout_scoring.py:108`). -/
def BreakoutReading.quality (r : BreakoutReading F) (cfg : BreakoutSettings F) : F :=
  (r.location + r.body + min 1 (r.extension / cfg.fullExtensionAtr)) / 3

/-- `liquidity` (`alphas/breakout_scoring.py:109`). -/
def BreakoutReading.liquidity (r : BreakoutReading F) (cfg : BreakoutSettings F) : F :=
  ((1 - r.spread / cfg.maxSpreadBps) + (1 - r.age / cfg.maxQuoteAgeSeconds)) / 2

/-- `raw` and `scales` (`alphas/breakout_scoring.py:110-124`). -/
def BreakoutReading.rows (r : BreakoutReading F) (strength : F) (cfg : BreakoutSettings F) :
    List (ComponentRow F) :=
  [ ⟨"relative_strength", strength, 1⟩,
    ⟨"breakout_quality", r.quality cfg, 1⟩,
    ⟨"relative_volume", r.relativeVolume, cfg.fullRelativeVolume⟩,
    ⟨"sector_confirmation", r.sector, cfg.fullSectorDistance⟩,
    ⟨"slope_quality", r.slope, cfg.fullSlope⟩,
    ⟨"reward_risk_proxy", r.proxy, cfg.fullRewardRiskProxy⟩,
    ⟨"liquidity_quality", r.liquidity cfg, 1⟩ ]

/-- The value of a component between zero and one. -/
def ComponentRow.normalized (row : ComponentRow F) : F := min 1 (max 0 (row.value / row.scale))

/-- The reasons of a break that passed (`alphas/breakout_scoring.py:143-149`). -/
def brokenReasons (kind : RangeKind) : List String :=
  ["CLOSED_BAR_BREAK", "KNOWN_" ++ kind.upper, "RESIDUAL_CONFIRMED", "PARTICIPATION_CONFIRMED",
    "LIQUIDITY_CONFIRMED"]

variable [Platform]

/-- `EvidenceBuilder.record` of one comparison after the other: what is on record, and
    whether a value that is not finite made it raise. -/
def recordAll : List (Comparison F) → List (ThresholdEvidence F) × Except PyError Unit
  | [] => ([], .ok ())
  | c :: rest =>
    if PyFloat.isFinite c.value then
      let (checks, outcome) := recordAll rest
      (record c.name (some c.value) c.operator c.threshold none :: checks, outcome)
    else ([], .error (invalid "ThresholdEvidence" "value must be finite"))

/-- `components` (`alphas/breakout_scoring.py:125-135`). -/
def BreakoutReading.components (r : BreakoutReading F) (strength : F) (cfg : BreakoutSettings F) :
    Except PyError (List (BreakoutComponent F)) :=
  (cfg.weights.named.zip (r.rows strength cfg)).mapM fun ((_, weight), row) =>
    BreakoutComponent.validate row.name row.value row.normalized weight (weight * row.normalized)

/-- What is returned when every comparison passed (`alphas/breakout_scoring.py:108-150`). -/
def BreakoutReading.measurement (r : BreakoutReading F) (item : BreakoutObservation F)
    (strength : F) (cfg : BreakoutSettings F) (closing : Instant) :
    Except PyError (BreakoutMeasurement F) := do
  let components ← r.components strength cfg
  let observed ← addDuration item.bar.stop (minutesOf (5 * cfg.observationBars))
  if PyFloat.isFinite r.invalidationLevel = false then
    .error (invalid "BreakoutInvalidation" "invalidation level must be finite")
  else do
    let metadata ← BreakoutInvalidation.validate r.kind r.level r.invalidationLevel
      item.reference.snapshot.timestamp item.bar.stop (min closing observed)
    .ok ⟨components, some metadata, brokenReasons r.kind⟩

/-- `"REJECTED:" + c.name` of what is on record and did not pass. -/
def rejections (checks : List (ThresholdEvidence F)) : List String :=
  (checks.filter fun c => !c.passed).map fun c => "REJECTED:" ++ c.name

/-- `measure_breakout` (`alphas/breakout_scoring.py:24-150`): the checks on record afterwards,
    and what is returned or raised. -/
def measureBreakout (item : BreakoutObservation F) (side : Side) (strength : F)
    (cfg : BreakoutSettings F) (opening closing : Instant)
    (evidence : List (ThresholdEvidence F)) :
    List (ThresholdEvidence F) × Except PyError (BreakoutMeasurement F) :=
  match brokenLevel item side cfg opening with
  | .error e => (evidence, .error e)
  | .ok (.error reason) => (evidence, .ok { reasons := [reason] })
  | .ok (.ok (atr, kind, level)) =>
    match breakoutReading item side cfg atr kind level with
    | .error e => (evidence, .error e)
    | .ok reading =>
      let (checks, outcome) := recordAll (reading.comparisons side strength cfg)
      (evidence ++ checks, do
        outcome
        if checks.all (·.passed) then reading.measurement item strength cfg closing
        else .ok { reasons := rejections (evidence ++ checks) })

end Measurement

end Godzilla.Alphas
