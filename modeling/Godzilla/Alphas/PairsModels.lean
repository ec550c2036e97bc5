import Godzilla.Core.Decimal
import Godzilla.MarketState.Models

/-!
# Statistical pairs: identities, evidence and two-leg intents

`alphas/pairs_models.py`. Fields with one permitted value (`formula_revision`,
`live_enabled`, the risk model and the execution requirements other than the leg
lag) are left out.
-/

namespace Godzilla.Alphas
open Godzilla Features MarketData MarketState

/-- `PAIRS_ALPHA_ID` (`alphas/pairs_models.py:12`). -/
def pairsAlphaId : String := "pairs_stat_arb"

/-- `PairsSettings` (`alphas/pairs_models.py:15-54`). -/
structure PairsSettings (F : Type) [PyFloat F] where
  version : String := "pairs-research-v1"
  enabled : Bool := true
  trainingBars : Nat := 250
  testLags : Nat := 1
  significance : F := PyFloat.ofDecimal (1 / 20)
  minBeta : F := PyFloat.ofDecimal (1 / 2)
  maxBeta : F := 2
  maxBetaDrift : F := PyFloat.ofDecimal (1 / 4)
  minSpreadStd : F := PyFloat.ofDecimal (1 / 100000)
  maxSpreadStdRatio : F := 3
  maxSpreadMeanShift : F := PyFloat.ofDecimal (3 / 2)
  minHalfLifeBars : F := PyFloat.ofDecimal (1 / 2)
  maxHalfLifeBars : F := 30
  entryZ : F := 2
  exitZ : F := PyFloat.ofDecimal (1 / 2)
  stopZ : F := 4
  maxHoldMinutes : Nat := 60
  maxNetGrossFraction : F := PyFloat.ofDecimal (1 / 5)
  maxSpreadBps : F := 12
  quoteMaxAgeSeconds : F := 3
  maxBarLagSeconds : F := 30
  minAdv : F := 100000
  minTurnover : F := 10000000
  liquidityMetadataMaxAgeSeconds : Nat := 86400
  maxLegLagSeconds : F := 3
  training_min : 60 ≤ trainingBars
  lags_max : testLags ≤ 10
  significance_range : 0 < significance ∧ significance ≤ PyFloat.ofDecimal (1 / 10)
  positive : ∀ x ∈ [minBeta, maxBeta, maxBetaDrift, minSpreadStd, maxSpreadMeanShift,
    minHalfLifeBars, maxHalfLifeBars, entryZ, stopZ, maxSpreadBps, quoteMaxAgeSeconds, minAdv,
    minTurnover, maxLegLagSeconds], 0 < x
  ratio_min : 1 ≤ maxSpreadStdRatio
  exit_nonneg : 0 ≤ exitZ
  hold_pos : 1 ≤ maxHoldMinutes
  net_range : 0 ≤ maxNetGrossFraction ∧ maxNetGrossFraction < 1
  barLag_nonneg : 0 ≤ maxBarLagSeconds
  metadataAge_pos : 0 < liquidityMetadataMaxAgeSeconds
  /-- `ordered`. -/
  z_ordered : exitZ < entryZ ∧ entryZ < stopZ
  limits_ordered : minBeta < maxBeta ∧ minHalfLifeBars < maxHalfLifeBars

/-- `PairCandidate` (`alphas/pairs_models.py:57-82`). -/
structure PairCandidate where
  pairId : String
  left : InstrumentRef
  right : InstrumentRef
  economicTags : List String
  leftSector : String
  rightSector : String
  rationale : String
  sourceReference : String
  knownAt : Instant
  effectiveFrom : Instant
  effectiveTo : Instant
  reviewedAt : Instant
  corporateActionsClear : Bool := false
  adjustmentSnapshot : String
  /-- `valid_identity`. -/
  distinct_legs : left.instrumentId ≠ right.instrumentId
  window_ordered : effectiveFrom < effectiveTo

/-- A bar and how its numbers are written: comparisons see their values, `content_hash` their
    texts. -/
structure WrittenBar extends Bar where
  openWritten : Decimal
  highWritten : Decimal
  lowWritten : Decimal
  closeWritten : Decimal
  volumeWritten : Decimal
  written : [openWritten, highWritten, lowWritten, closeWritten, volumeWritten].map Decimal.value =
    [openPrice, high, low, close, volume]
  deriving DecidableEq

/-- `PairObservation` (`alphas/pairs_models.py:85-87`). -/
structure PairObservation where
  left : WrittenBar
  right : WrittenBar
  deriving DecidableEq

/-- `PairLiquidity` (`alphas/pairs_models.py:90-97`). -/
structure PairLiquidity (F : Type) [PyFloat F] where
  quote : Quote
  adv : F
  dailyTurnover : F
  knownAt : Instant
  snapshotId : String
  adv_pos : 0 < adv
  turnover_pos : 0 < dailyTurnover

/-- `StatisticalTests` (`alphas/pairs_models.py:100-105`). -/
structure StatisticalTests (F : Type) [PyFloat F] where
  methodVersion : String
  cointegrationP : F
  spreadAdfP : F
  leftLevelAdfP : F
  rightLevelAdfP : F
  ranges : ∀ p ∈ [cointegrationP, spreadAdfP, leftLevelAdfP, rightLevelAdfP], 0 ≤ p ∧ p ≤ 1
  deriving DecidableEq

/-- `PairFit` (`alphas/pairs_models.py:108-123`). -/
structure PairFit (F : Type) [PyFloat F] where
  beta : F
  intercept : F
  spreadMean : F
  spreadStd : F
  halfLifeBars : Option F
  splitBetaDrift : F
  spreadStdRatio : F
  spreadMeanShift : F
  tests : StatisticalTests F
  trainingStart : Instant
  trainingEnd : Instant
  trainingHash : Digest
  observations : Int
  std_pos : 0 < spreadStd

/-- The literal values of `direction`. -/
inductive SpreadDirection where
  | longSpread
  | shortSpread
  deriving DecidableEq, Repr

/-- The text of a direction. -/
def SpreadDirection.text : SpreadDirection → String
  | longSpread => "LONG_SPREAD"
  | shortSpread => "SHORT_SPREAD"

/-- The literal values of `action`. -/
inductive PairAction where
  | enter
  | exit
  deriving DecidableEq, Repr

/-- `PairPosition` (`alphas/pairs_models.py:126-136`). -/
structure PairPosition (F : Type) [PyFloat F] where
  positionId : Uuid
  pairId : String
  direction : SpreadDirection
  openedAt : Instant
  entryFit : PairFit F
  entryZ : F

/-- `PairLeg` (`alphas/pairs_models.py:139-142`). -/
structure PairLeg (F : Type) [PyFloat F] where
  instrumentId : String
  side : Side
  grossFraction : F
  gross_range : 0 < grossFraction ∧ grossFraction < 1

/-- `CombinedRiskReference` (`alphas/pairs_models.py:145-157`). -/
structure CombinedRiskReference (F : Type) [PyFloat F] where
  spreadMean : F
  spreadStd : F
  currentSpread : F
  currentZ : F
  adverseBoundaryZ : F
  maximumHoldUntil : Instant
  netGrossFraction : F
  std_pos : 0 < spreadStd
  net_range : 0 ≤ netGrossFraction ∧ netGrossFraction < 1

/-- `PairedExecutionRequirements` (`alphas/pairs_models.py:160-169`). -/
structure PairedExecutionRequirements (F : Type) [PyFloat F] where
  maxLegLagSeconds : F
  lag_pos : 0 < maxLegLagSeconds

/-- The fields of `PairSignalIntent` (`alphas/pairs_models.py:172-196`). -/
structure PairIntentFields (F : Type) [PyFloat F] where
  signalId : Uuid
  timestamp : Instant
  pairId : String
  action : PairAction
  direction : SpreadDirection
  legs : PairLeg F × PairLeg F
  hedgeRatio : F
  riskReference : CombinedRiskReference F
  execution : PairedExecutionRequirements F
  reasons : List String
  fit : PairFit F
  settings : PairsSettings F
  candidate : PairCandidate
  inputHash : Digest
  universeHash : Digest
  stateHash : Digest
  codeCommit : String
  configHash : Digest
  dataSnapshot : String

/-- The side the left leg takes when a spread is entered. -/
def SpreadDirection.entryLeft : SpreadDirection → Side
  | longSpread => .long
  | shortSpread => .short

/-- The other side. -/
def opposite : Side → Side
  | .long => .short
  | .short => .long

/-- `expected_left` (`alphas/pairs_models.py:203-206`). -/
def expectedLeft (action : PairAction) (direction : SpreadDirection) : Side :=
  match action with
  | .enter => direction.entryLeft
  | .exit => opposite direction.entryLeft

variable {F : Type} [PyFloat F]

/-- The validators of `PairSignalIntent` (`alphas/pairs_models.py:182,200-219`). -/
def PairIntentFields.Coupled (fields : PairIntentFields F) : Prop :=
  0 < fields.hedgeRatio ∧
  fields.legs.1.instrumentId = fields.candidate.left.instrumentId ∧
  fields.legs.2.instrumentId = fields.candidate.right.instrumentId ∧
  fields.legs.1.side = expectedLeft fields.action fields.direction ∧
  fields.legs.1.side ≠ fields.legs.2.side ∧
  PyFloat.IsClose (fields.legs.1.grossFraction + fields.legs.2.grossFraction) 1 ∧
  PyFloat.IsClose (fields.legs.2.grossFraction / fields.legs.1.grossFraction)
    fields.hedgeRatio ∧
  fields.fit.beta = fields.hedgeRatio ∧
  fields.pairId = fields.candidate.pairId

instance PairIntentFields.decidableCoupled (fields : PairIntentFields F) : Decidable fields.Coupled :=
  inferInstanceAs (Decidable (_ ∧ _))

/-- `PairSignalIntent` (`alphas/pairs_models.py:172-219`). -/
structure PairSignalIntent (F : Type) [PyFloat F] extends PairIntentFields F where
  coupled : toPairIntentFields.Coupled

/-- A number that may be NaN, of which no comparison holds. -/
abbrev FloatOrNaN (F : Type) := Option F

/-- `PairEvaluation` (`alphas/pairs_models.py:222-233`). -/
structure PairEvaluation (F : Type) [PyFloat F] where
  timestamp : Instant
  pairId : String
  intent : Option (PairSignalIntent F) := none
  fit : Option (PairFit F) := none
  zscore : Option (FloatOrNaN F) := none
  acceptedRelationship : Bool := false
  reasons : List String
  openRiskAttention : Bool := false
  inputHash : Digest
  settings : PairsSettings F
  codeCommit : String
  dataSnapshot : String

variable [Platform]

/-- Build a leg, raising what its validators raise. -/
def PairLeg.validate (instrumentId : String) (side : Side) (gross : F) :
    Except PyError (PairLeg F) :=
  if h : 0 < gross ∧ gross < 1 then .ok ⟨instrumentId, side, gross, h⟩
  else .error (invalid "PairLeg" "gross_fraction out of range")

/-- Build the risk reference, raising what its validators raise. -/
def CombinedRiskReference.validate (fit : PairFit F) (score : Option (F × F)) (boundary : F)
    (holdUntil : Instant) (net : F) : Except PyError (CombinedRiskReference F) :=
  match score with
  | none => .error (invalid "CombinedRiskReference" "input should be a finite number")
  | some (spread, zscore) =>
    if PyFloat.isFinite spread = false ∨ PyFloat.isFinite zscore = false then
      .error (invalid "CombinedRiskReference" "input should be a finite number")
    else if h : 0 ≤ net ∧ net < 1 then
      .ok ⟨fit.spreadMean, fit.spreadStd, spread, zscore, boundary, holdUntil, net, fit.std_pos, h⟩
    else .error (invalid "CombinedRiskReference" "net_gross_fraction out of range")

/-- Build the intent, raising what its validators raise. -/
def PairSignalIntent.validate (fields : PairIntentFields F) :
    Except PyError (PairSignalIntent F) :=
  if h : fields.Coupled then .ok { toPairIntentFields := fields, coupled := h }
  else .error (invalid "PairSignalIntent" "pair legs must match the indivisible hedge intent")

end Godzilla.Alphas

namespace Godzilla.Alphas.Sample

/-- A whole number, written without an exponent. -/
def wholePrice (price : Nat) : Decimal := { coefficient := price }

theorem value_wholePrice (price : Nat) : (wholePrice price).value = price := by
  simp [Decimal.value, wholePrice]

theorem wholePrices_written (price : Nat) :
    [wholePrice price, wholePrice price, wholePrice price, wholePrice price, wholePrice 10].map
      Decimal.value = [(price : ℚ), price, price, price, 10] := by
  simp only [List.map_cons, List.map_nil, value_wholePrice]
  norm_num

end Godzilla.Alphas.Sample
