import Godzilla.Alphas.MomentumModels
import Godzilla.Alphas.PairsModels
import Godzilla.MarketData.Instruments

/-!
# Sector relative value: baskets with modelled exposure

`alphas/relative_value_models.py`, and the identity of the security behind an
instrument, which is stable across vendor tokens. Fields with one permitted value
are left out.
-/

namespace Godzilla.Alphas
open Godzilla Features MarketData MarketState

/-- `RV_ALPHA_ID` (`alphas/relative_value_models.py:17`). -/
def relativeValueAlphaId : String := "sector_relative_value"

/-- `security_id` (`alphas/relative_value_models.py:20-32`). -/
def securityId [Platform] (instrument : Instrument) : Uuid :=
  Platform.uuid5 ("godzilla:security:" ++ ":".intercalate
    [ Platform.upper (Platform.strip instrument.exchange),
      Platform.upper (Platform.strip instrument.segment),
      Platform.upper (Platform.strip instrument.isin) ])

/-- The literal values of `construction`. -/
inductive Construction where
  | pair
  | basket
  deriving DecidableEq, Repr

/-- `RelativeValueSettings` (`alphas/relative_value_models.py:35-65`). -/
structure RelativeValueSettings (F : Type) [PyFloat F] where
  enabled : Bool := true
  construction : Construction := .pair
  membersPerSide : Nat := 2
  minimumSectorSize : Nat := 4
  tailFraction : F := PyFloat.ofDecimal (1 / 4)
  sectorResidualWeight : F := PyFloat.ofDecimal (1 / 2)
  minResidualGap : F := PyFloat.ofDecimal (1 / 500)
  trainingReturns : Nat := 24
  minBeta : F := PyFloat.ofDecimal (1 / 5)
  maxBeta : F := 3
  maxSplitBetaDrift : F := PyFloat.ofDecimal (1 / 2)
  maxNetGross : F := PyFloat.ofDecimal (3 / 20)
  maxBetaGross : F := PyFloat.ofDecimal (1 / 50)
  maxInventoryAgeSeconds : F := 30
  maxSpreadBps : F := 12
  maxQuoteAgeSeconds : F := 3
  minAdv : F := 100000
  minTurnover : F := 10000000
  maxLegLagSeconds : F := 3
  members_range : 1 ≤ membersPerSide ∧ membersPerSide ≤ 5
  sector_min : 2 ≤ minimumSectorSize
  tail_range : 0 < tailFraction ∧ tailFraction < PyFloat.ofDecimal (1 / 2)
  weight_range : 0 ≤ sectorResidualWeight ∧ sectorResidualWeight ≤ 1
  training_min : 8 ≤ trainingReturns
  positive : ∀ x ∈ [minResidualGap, minBeta, maxBeta, maxSplitBetaDrift, maxInventoryAgeSeconds,
    maxSpreadBps, maxQuoteAgeSeconds, minAdv, minTurnover, maxLegLagSeconds], 0 < x
  net_range : 0 ≤ maxNetGross ∧ maxNetGross < 1
  beta_range : 0 ≤ maxBetaGross ∧ maxBetaGross < 1
  /-- `ordered`. -/
  beta_ordered : minBeta < maxBeta

/-- `BetaObservation` (`alphas/relative_value_models.py:68-70`). -/
structure BetaObservation where
  stock : WrittenBar
  market : WrittenBar
  deriving DecidableEq

/-- `RelativeValueObservation` (`alphas/relative_value_models.py:73-75`). -/
structure RelativeValueObservation (F : Type) where
  current : MomentumObservation F
  history : List BetaObservation
  deriving DecidableEq

/-- `BetaEstimate` (`alphas/relative_value_models.py:78-90`). -/
structure BetaEstimate (F : Type) [PyFloat F] where
  beta : F
  intercept : F
  splitDrift : F
  trainingStart : Instant
  trainingEnd : Instant
  returns : Nat
  inputHash : Digest
  marketHash : Digest
  drift_nonneg : 0 ≤ splitDrift
  returns_min : 8 ≤ returns

/-- The alphas that may own a reservation. -/
inductive OwnerAlpha where
  | pairs
  | relativeValue
  deriving DecidableEq, Repr

/-- `ReservedSecurity` (`alphas/relative_value_models.py:93-96`). -/
structure ReservedSecurity where
  entityId : Uuid
  ownerAlpha : OwnerAlpha
  referenceId : String
  deriving DecidableEq

/-- `RelativeValueInventory` (`alphas/relative_value_models.py:99-105`). -/
structure RelativeValueInventory where
  snapshotId : String
  observedAt : Instant
  complete : Bool := false
  reservations : List ReservedSecurity := []
  deriving DecidableEq

/-- `RelativeValueLeg` (`alphas/relative_value_models.py:108-118`). -/
structure RelativeValueLeg (F : Type) [PyFloat F] where
  entityId : Uuid
  instrumentId : String
  symbol : String
  sector : String
  side : Side
  grossFraction : F
  residualStrength : F
  percentile : F
  beta : BetaEstimate F
  featureHash : Digest
  gross_range : 0 < grossFraction ∧ grossFraction < 1
  percentile_range : 0 ≤ percentile ∧ percentile ≤ 1

/-- `RelativeValueRiskReference` (`alphas/relative_value_models.py:121-131`). -/
structure RelativeValueRiskReference (F : Type) [PyFloat F] where
  signedNetGross : F
  signedBetaGross : F
  longBeta : F
  shortBeta : F
  flattenBy : Instant
  betas_pos : 0 < longBeta ∧ 0 < shortBeta
  deriving DecidableEq

/-- The fields of `RelativeValueIntent` (`alphas/relative_value_models.py:134-158`). -/
structure RelativeValueFields (F : Type) [PyFloat F] where
  signalId : Uuid
  entityId : Uuid
  timestamp : Instant
  sector : String
  legs : List (RelativeValueLeg F)
  hedgeRatio : F
  riskReference : RelativeValueRiskReference F
  execution : PairedExecutionRequirements F
  reasons : List String
  settings : RelativeValueSettings F
  universeHash : Digest
  masterHash : Digest
  inventoryHash : Digest
  stateHash : Digest
  crossSectionHash : Digest
  codeCommit : String
  configHash : Digest
  dataSnapshot : String
  featureSetHash : Digest

variable {F : Type} [PyFloat F]

/-- `1 if side == "LONG" else -1`. -/
def sideSign : Side → F
  | .long => 1
  | .short => -(1 : F)

namespace RelativeValueFields

variable (fields : RelativeValueFields F)

/-- The legs on one side. -/
def on (side : Side) : List (RelativeValueLeg F) := fields.legs.filter fun x => x.side = side

/-- The gross fraction of one side. -/
def grossOn (side : Side) : F := PyFloat.sum ((fields.on side).map (·.grossFraction))

/-- The beta-weighted gross fraction of one side. -/
def betaOn (side : Side) : F :=
  PyFloat.sum ((fields.on side).map fun x => x.grossFraction * x.beta.beta)

/-- `RelativeValueIntent.score` (`alphas/relative_value_models.py:160-165`). -/
def score : F :=
  PyFloat.sum ((fields.on .long).map (·.percentile)) / PyFloat.ofInt (fields.on .long).length -
    PyFloat.sum ((fields.on .short).map (·.percentile)) / PyFloat.ofInt (fields.on .short).length

/-- The signed net of the legs. -/
def net : F := PyFloat.sum (fields.legs.map fun x => x.grossFraction * sideSign x.side)

/-- The signed beta of the legs. -/
def netBeta : F :=
  PyFloat.sum (fields.legs.map fun x => x.grossFraction * x.beta.beta * sideSign x.side)

/-- The validators of `RelativeValueIntent` (`alphas/relative_value_models.py:141-142,167-206`). -/
def CoherentExposure : Prop :=
  2 ≤ fields.legs.length ∧ 0 < fields.hedgeRatio ∧
  fields.on .long ≠ [] ∧ fields.on .short ≠ [] ∧
  (fields.legs.map (·.entityId)).Nodup ∧
  (∀ side, (fields.on side).length =
    if fields.settings.construction = .pair then 1 else fields.settings.membersPerSide) ∧
  (0 ≤ fields.score ∧ fields.score ≤ 1) ∧
  PyFloat.IsClose (fields.betaOn .long / fields.grossOn .long) fields.riskReference.longBeta ∧
  PyFloat.IsClose (fields.betaOn .short / fields.grossOn .short) fields.riskReference.shortBeta ∧
  fields.execution.maxLegLagSeconds = fields.settings.maxLegLagSeconds ∧
  (∀ x ∈ fields.legs, x.sector = fields.sector ∧ x.beta.trainingEnd < fields.timestamp) ∧
  PyFloat.IsClose (PyFloat.sum (fields.legs.map (·.grossFraction))) 1
    (PyFloat.ofDecimal (1 / 10 ^ 12)) ∧
  PyFloat.IsClose (fields.grossOn .short / fields.grossOn .long) fields.hedgeRatio ∧
  PyFloat.IsClose fields.net fields.riskReference.signedNetGross
    (PyFloat.ofDecimal (1 / 10 ^ 12)) ∧
  PyFloat.IsClose fields.netBeta fields.riskReference.signedBetaGross
    (PyFloat.ofDecimal (1 / 10 ^ 12)) ∧
  PyFloat.abs fields.net ≤ fields.settings.maxNetGross + PyFloat.ofDecimal (1 / 10 ^ 12) ∧
  PyFloat.abs fields.netBeta ≤ fields.settings.maxBetaGross + PyFloat.ofDecimal (1 / 10 ^ 12) ∧
  fields.timestamp < fields.riskReference.flattenBy

instance (p : Side → Prop) [DecidablePred p] : Decidable (∀ side, p side) :=
  decidable_of_iff (p .long ∧ p .short)
    ⟨fun ⟨hl, hs⟩ side => by cases side <;> assumption, fun h => ⟨h _, h _⟩⟩

instance : Decidable fields.CoherentExposure := inferInstanceAs (Decidable (_ ∧ _))

end RelativeValueFields

/-- `RelativeValueIntent` (`alphas/relative_value_models.py:134-206`). -/
structure RelativeValueIntent (F : Type) [PyFloat F] extends RelativeValueFields F where
  coherent_exposure : toRelativeValueFields.CoherentExposure

variable [Platform]

/-- Build the intent, raising what its validators raise. -/
def RelativeValueIntent.validate (fields : RelativeValueFields F) :
    Except PyError (RelativeValueIntent F) :=
  if h : fields.CoherentExposure then
    .ok { toRelativeValueFields := fields, coherent_exposure := h }
  else if fields.on .long = [] ∨ fields.on .short = [] then
    .error (invalid "RelativeValueIntent" "relative value requires both sides")
  else .error (invalid "RelativeValueIntent"
    "relative value identity/exposure/timing mismatch")

end Godzilla.Alphas
