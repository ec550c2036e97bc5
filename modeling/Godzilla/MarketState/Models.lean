import Godzilla.Core.Health
import Godzilla.Features.Models

/-!
# Market states, router settings and routing decisions

`market_state/models.py`. Settings carry their validators as fields. A decision
is built from its fields by `StateDecision.validate`, which runs the checks of
the source in order, so a `StateDecision` is a decision the source can build.
`formula_revision`, with its single permitted value, is left out.
-/

set_option linter.dupNamespace false

namespace Godzilla.MarketState
open Godzilla Features

/-- `MarketState` (`market_state/models.py:14-20`). -/
inductive MarketState where
  | trendUp
  | trendDown
  | chop
  | highVol
  | openShock
  | riskOff
  deriving DecidableEq, Repr

/-- `state.value`. -/
def MarketState.value : MarketState → String
  | trendUp => "TREND_UP"
  | trendDown => "TREND_DOWN"
  | chop => "CHOP"
  | highVol => "HIGH_VOL"
  | openShock => "OPEN_SHOCK"
  | riskOff => "RISK_OFF"

/-- `AlphaFamily` (`market_state/models.py:23-28`). -/
inductive AlphaFamily where
  | crossSectionalMomentum
  | momentumBreakout
  | pairsStatArb
  | vwapMeanReversion
  | sectorRelativeValue
  deriving DecidableEq, Repr

/-- The directional sides `Literal["LONG", "SHORT"]`. -/
inductive Side where
  | long
  | short
  deriving DecidableEq, Repr

/-- `RouterSettings` (`market_state/models.py:31-60`). -/
structure RouterSettings (F : Type) [PyFloat F] where
  version : String := "market-state-research-v1"
  vwapDistance : F
  slope15m : F
  slope30m : F
  breadthFraction : F
  highRealizedVol : F
  highRangeVol : F
  highVix : F
  openingGap : F
  stabilizationSeconds : Nat := 900
  shockWindowSeconds : Nat := 1800
  confirmationCount : Nat := 2
  minDurationSeconds : Nat := 600
  maxConfirmationGapSeconds : Nat := 600
  featureMaxAgeSeconds : Nat := 300
  healthMaxAgeSeconds : Nat := 30
  flickerWindowSeconds : Nat := 900
  trendMultiplier : F
  chopMultiplier : F
  highVolMultiplier : F
  vwapDistance_range : 0 < vwapDistance ∧ vwapDistance < 1
  slope15m_range : 0 < slope15m ∧ slope15m < 1
  slope30m_range : 0 < slope30m ∧ slope30m < 1
  breadthFraction_range : PyFloat.ofDecimal (1 / 2) < breadthFraction ∧ breadthFraction ≤ 1
  highRealizedVol_pos : 0 < highRealizedVol
  highRangeVol_pos : 0 < highRangeVol
  highVix_pos : 0 < highVix
  openingGap_range : 0 < openingGap ∧ openingGap < 1
  shockWindow_pos : 0 < shockWindowSeconds
  confirmationCount_pos : 1 ≤ confirmationCount
  maxConfirmationGap_pos : 0 < maxConfirmationGapSeconds
  trendMultiplier_range : 0 ≤ trendMultiplier ∧ trendMultiplier ≤ 1
  chopMultiplier_range : 0 ≤ chopMultiplier ∧ chopMultiplier ≤ 1
  highVolMultiplier_range : 0 ≤ highVolMultiplier ∧ highVolMultiplier ≤ 1
  /-- `ordered_limits`: the shock window covers stabilisation. -/
  shock_covers : stabilizationSeconds ≤ shockWindowSeconds
  /-- `ordered_limits`: multipliers decrease for chop and high volatility. -/
  multipliers_ordered : highVolMultiplier ≤ chopMultiplier ∧ chopMultiplier ≤ trendMultiplier

/-- `RoutingHealth` (`market_state/models.py:66-71`). -/
structure RoutingHealth where
  observedAt : Instant
  systemStatus : HealthStatus := .unknown
  riskStatus : HealthStatus := .unknown
  blocksNewEntries : Bool := true
  reasons : List String := []
  deriving DecidableEq

/-- The comparison of a `ThresholdEvidence`. -/
inductive Operator where
  | ge
  | le
  | eq
  | absGe
  deriving DecidableEq, Repr

/-- `ThresholdEvidence` (`market_state/models.py:88-94`). -/
structure ThresholdEvidence (F : Type) where
  name : String
  value : Option F
  operator : Operator
  threshold : F
  passed : Bool
  missingReason : Option String := none
  deriving DecidableEq

/-- `MarketStateEvidence` (`market_state/models.py:97-104`). -/
structure MarketStateEvidence (F : Type) where
  featureSnapshotHash : Digest
  featureSetHash : Digest
  routerVersionHash : Digest
  thresholds : List (ThresholdEvidence F)
  health : RoutingHealth
  sessionOpen : Option Instant
  reasons : List String
  deriving DecidableEq

/-- The fields of `StateDecision` (`market_state/models.py:107-122`). -/
structure StateFields (F : Type) [PyFloat F] where
  timestamp : Instant
  state : MarketState
  candidate : MarketState
  previousState : MarketState
  stateSince : Instant
  confirmationCount : Int
  allowedAlphaFamilies : List AlphaFamily
  directionalSides : List Side
  grossRiskMultiplier : F
  evidence : MarketStateEvidence F
  settings : RouterSettings F
  codeCommit : String
  configHash : Digest
  dataSnapshot : String
  priorDecisionHash : Option Digest

variable {F : Type} [PyFloat F] [Platform]

/-- `RouterSettings.version_hash` (`market_state/models.py:62-63`). -/
def RouterSettings.versionHash (settings : RouterSettings F) : Digest := contentHash settings

/-- `state in (MarketState.RISK_OFF, MarketState.OPEN_SHOCK)`. -/
def MarketState.blocked (state : MarketState) : Prop := state = .riskOff ∨ state = .openShock

instance (state : MarketState) : Decidable state.blocked := inferInstanceAs (Decidable (_ ∨ _))

/-- The validators of `StateDecision`: the range of the multiplier and
    `consistent_policy` (`market_state/models.py:129-139`). -/
structure StateFields.ConsistentPolicy (fields : StateFields F) : Prop where
  multiplier_nonneg : 0 ≤ fields.grossRiskMultiplier
  multiplier_le_one : fields.grossRiskMultiplier ≤ 1
  since_le : fields.stateSince ≤ fields.timestamp
  settings_match : fields.evidence.routerVersionHash = fields.settings.versionHash
  blocked_grants_nothing : fields.state.blocked →
    fields.allowedAlphaFamilies = [] ∧ fields.directionalSides = [] ∧
      fields.grossRiskMultiplier = 0

/-- `StateDecision` (`market_state/models.py:107-139`). -/
structure StateDecision (F : Type) [PyFloat F] [Platform] extends StateFields F where
  consistent : toStateFields.ConsistentPolicy

theorem StateDecision.ext {d e : StateDecision F} (h : d.toStateFields = e.toStateFields) :
    d = e := by
  cases d; cases e; cases h; rfl

/-- Build a `StateDecision`, raising what its validators raise. -/
def StateDecision.validate (fields : StateFields F) : Except PyError (StateDecision F) :=
  if hlow : 0 ≤ fields.grossRiskMultiplier then
    if hhigh : fields.grossRiskMultiplier ≤ 1 then
      if hsince : fields.stateSince ≤ fields.timestamp then
        if hhash : fields.evidence.routerVersionHash = fields.settings.versionHash then
          if hblock : fields.state.blocked → fields.allowedAlphaFamilies = [] ∧
              fields.directionalSides = [] ∧ fields.grossRiskMultiplier = 0 then
            .ok { toStateFields := fields, consistent := ⟨hlow, hhigh, hsince, hhash, hblock⟩ }
          else .error (.valueError "blocked state cannot grant risk or alpha permissions")
        else .error (.valueError "router configuration hash mismatch")
      else .error (.valueError "state start cannot be in the future")
    else .error (.valueError "gross_risk_multiplier: input should be less than or equal to 1")
  else .error (.valueError "gross_risk_multiplier: input should be greater than or equal to 0")

theorem StateDecision.validate_eq_ok {fields : StateFields F} (h : fields.ConsistentPolicy) :
    StateDecision.validate fields = .ok { toStateFields := fields, consistent := h } := by
  rw [validate, dif_pos h.multiplier_nonneg, dif_pos h.multiplier_le_one, dif_pos h.since_le,
    dif_pos h.settings_match, dif_pos h.blocked_grants_nothing]

/-- `StateDecision.decision_hash` (`market_state/models.py:126-127`). -/
def StateDecision.decisionHash (decision : StateDecision F) : Digest := contentHash decision

end Godzilla.MarketState
