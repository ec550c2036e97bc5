import Godzilla.Alphas.BreakoutModels
import Godzilla.Alphas.RelativeValueModels
import Godzilla.Alphas.VwapModels
import Godzilla.Portfolio.Models

/-!
# Events

`core/events/models.py`: the payloads, the envelope that carries one of them, and
the system state that may be written with an event. Signal intents are built by
the engines and are checked when they are built; what callers supply carries its
validators as fields.
-/

namespace Godzilla.Events
open Godzilla Alphas Ensemble Features MarketData MarketState Portfolio

/-- `Provenance` (`core/events/models.py:29-33`). -/
structure Provenance where
  codeCommit : String
  configHash : Digest
  dataSnapshot : String
  featureVersion : String
  deriving DecidableEq

/-- `NamedValue` (`core/events/models.py:46-48`). -/
structure NamedValue where
  name : String
  value : ℚ
  deriving DecidableEq

section Payloads

variable (F : Type) [PyFloat F] [Platform]

/-- `FeatureUpdate` (`core/events/models.py:51-82`). -/
structure FeatureUpdate where
  entity : String
  featureVersion : String
  values : List NamedValue
  snapshot : Option (FeatureSnapshot F) := none
  definition : Option (FeatureSetVersion F) := none
  /-- `feature_identity`. -/
  together : snapshot = none ↔ definition = none
  identity : ∀ s ∈ snapshot, ∀ d ∈ definition, featureVersion = d.versionHash ∧
    s.featureSetHash = featureVersion ∧ s.entity = entity
  values_agree : ∀ s ∈ snapshot, values = s.values.filterMap fun item =>
    item.value.map fun v => ⟨item.name, PyFloat.toDecimal v⟩

/-- `MarketStateUpdate` (`core/events/models.py:85-98`). -/
structure MarketStateUpdate where
  state : String
  reasons : List String
  decision : Option (StateDecision F) := none
  /-- `consistent_decision`. -/
  consistent : ∀ d ∈ decision, state = d.state.value ∧ reasons = d.evidence.reasons

/-- The evidence of a scored signal, one of three models. -/
inductive SignalEvidence where
  | momentum (evidence : MomentumSignalEvidence F)
  | breakout (evidence : BreakoutSignalEvidence F)
  | vwap (evidence : VwapSignalEvidence F)

/-- The fields of `SignalIntent` (`core/events/models.py:101-109`). -/
structure SignalFields where
  signalId : Uuid
  instrumentId : String
  alphaId : String
  side : Side
  reasons : List String
  score : Option F := none
  evidence : Option (SignalEvidence F) := none

end Payloads

variable {F : Type} [PyFloat F] [Platform]

namespace SignalEvidence

/-- `evidence.alpha_id`. -/
def alphaId : SignalEvidence F → String
  | momentum _ => momentumAlphaId
  | breakout _ => breakoutAlphaId
  | vwap _ => vwapAlphaId

/-- `evidence.timestamp`. -/
def timestamp : SignalEvidence F → Instant
  | momentum e => e.timestamp
  | breakout e => e.timestamp
  | vwap e => e.timestamp

/-- `evidence.side`. -/
def side : SignalEvidence F → Side
  | momentum e => e.side
  | breakout e => e.side
  | vwap e => e.side

/-- `evidence.instrument_id`. -/
def instrumentId : SignalEvidence F → String
  | momentum e => e.ranked.instrumentId
  | breakout e => e.instrumentId
  | vwap e => e.instrumentId

/-- `evidence.symbol`. -/
def symbol : SignalEvidence F → String
  | momentum e => e.ranked.symbol
  | breakout e => e.symbol
  | vwap e => e.symbol

/-- `evidence.score`. -/
def score : SignalEvidence F → F
  | momentum e => e.score
  | breakout e => e.score
  | vwap e => e.score

/-- `(evidence.code_commit, evidence.config_hash, evidence.data_snapshot)`. -/
def provenance : SignalEvidence F → String × Digest × String
  | momentum e => (e.codeCommit, e.configHash, e.dataSnapshot)
  | breakout e => (e.codeCommit, e.configHash, e.dataSnapshot)
  | vwap e => (e.codeCommit, e.configHash, e.dataSnapshot)

/-- `evidence.universe_hash`. -/
def universeHash : SignalEvidence F → Digest
  | momentum e => e.universeHash
  | breakout e => e.universeHash
  | vwap e => e.universeHash

/-- `evidence.instrument_master_hash`. -/
def instrumentMasterHash : SignalEvidence F → Digest
  | momentum e => e.instrumentMasterHash
  | breakout e => e.instrumentMasterHash
  | vwap e => e.instrumentMasterHash

/-- `evidence.state_hash`. -/
def stateHash : SignalEvidence F → Digest
  | momentum e => e.stateHash
  | breakout e => e.stateHash
  | vwap e => e.stateHash

end SignalEvidence

/-- The validators of `SignalIntent` (`core/events/models.py:108,111-122`). -/
def SignalFields.Consistent (fields : SignalFields F) : Prop :=
  (∀ s ∈ fields.score, 0 ≤ s ∧ s ≤ 1) ∧
  (fields.score = none ↔ fields.evidence = none) ∧
  ∀ e ∈ fields.evidence, fields.alphaId = e.alphaId ∧ fields.side = e.side ∧
    fields.instrumentId = e.instrumentId ∧ fields.score = some e.score

instance SignalFields.decidableConsistent (fields : SignalFields F) : Decidable fields.Consistent :=
  inferInstanceAs (Decidable (_ ∧ _))

/-- `SignalIntent` (`core/events/models.py:101-122`). -/
structure SignalIntent (F : Type) [PyFloat F] [Platform] extends SignalFields F where
  consistent : toSignalFields.Consistent

/-- Build the intent, raising what its validators raise. -/
def SignalIntent.validate (fields : SignalFields F) : Except PyError (SignalIntent F) :=
  if h : fields.Consistent then .ok { toSignalFields := fields, consistent := h }
  else if fields.score = none ↔ fields.evidence = none then
    .error (invalid "SignalIntent" "intent differs from alpha evidence")
  else .error (invalid "SignalIntent" "scored intent requires evidence")

/-- The literal kinds of `Decision`. -/
inductive DecisionKind where
  | ensemble
  | portfolio
  | risk
  deriving DecidableEq, Repr

/-- The text of the kind. -/
def DecisionKind.text : DecisionKind → String
  | ensemble => "ENSEMBLE_DECISION"
  | portfolio => "PORTFOLIO_DECISION"
  | risk => "RISK_DECISION"

/-- `Decision` (`core/events/models.py:125-144`). -/
structure Decision where
  kind : DecisionKind
  decisionId : Uuid
  intentId : Uuid
  accepted : Bool
  reasons : List String
  ensemble : Option EnsembleDecision := none
  portfolio : Option PortfolioDecision := none
  /-- `allocation_kind`. -/
  ensemble_kind : ∀ d ∈ ensemble, kind = .ensemble ∧ decisionId = d.decisionId
  portfolio_kind : ∀ d ∈ portfolio, kind = .portfolio ∧ decisionId = d.decisionId

/-- The literal kinds of `OrderEvent`. -/
inductive OrderKind where
  | planCreated
  | submitted
  | acknowledged
  | rejected
  | cancelled
  | unknown
  | partialFill
  | filled
  deriving DecidableEq, Repr

/-- The text of the kind. -/
def OrderKind.text : OrderKind → String
  | planCreated => "ORDER_PLAN_CREATED"
  | submitted => "ORDER_SUBMITTED"
  | acknowledged => "ORDER_ACKNOWLEDGED"
  | rejected => "ORDER_REJECTED"
  | cancelled => "ORDER_CANCELLED"
  | unknown => "ORDER_UNKNOWN"
  | partialFill => "ORDER_PARTIAL_FILL"
  | filled => "ORDER_FILLED"

/-- `OrderEvent` (`core/events/models.py:147-160`). -/
structure OrderEvent where
  kind : OrderKind
  orderIntentId : Uuid
  brokerOrderId : Option String := none
  reason : String
  deriving DecidableEq

/-- `Fill` (`core/events/models.py:163-169`). -/
structure Fill where
  fillId : Uuid
  orderIntentId : Uuid
  brokerOrderId : String
  quantity : ℚ
  price : ℚ
  quantity_pos : 0 < quantity
  price_pos : 0 < price

/-- `PositionUpdate` (`core/events/models.py:172-176`). -/
structure PositionUpdate where
  instrumentId : String
  quantity : ℚ
  reason : String
  deriving DecidableEq

/-- `Reconciliation` (`core/events/models.py:179-183`). -/
structure Reconciliation where
  scope : String
  matched : Bool
  reasons : List String
  deriving DecidableEq

/-- `Health` (`core/events/models.py:186-192`). -/
structure Health (F : Type) [PyFloat F] where
  component : String
  status : HealthStatus
  blocking : Bool
  reason : String
  alphaSnapshot : Option (AlphaHealthSnapshot F) := none

/-- `Payload` (`core/events/models.py:195-210`). -/
inductive Payload (F : Type) [PyFloat F] [Platform] where
  | barClose (bar : Bar)
  | quoteUpdate (quote : Quote)
  | featureUpdate (update : FeatureUpdate F)
  | marketStateUpdate (update : MarketStateUpdate F)
  | signalIntent (intent : SignalIntent F)
  | pairSignalIntent (intent : PairSignalIntent F)
  | relativeValueIntent (intent : RelativeValueIntent F)
  | decision (decision : Decision)
  | orderEvent (order : OrderEvent)
  | fill (fill : Fill)
  | positionUpdate (update : PositionUpdate)
  | reconciliation (reconciliation : Reconciliation)
  | health (health : Health F)

namespace Payload

/-- `payload.kind`. -/
def kind : Payload F → String
  | barClose _ => "BAR_CLOSE"
  | quoteUpdate _ => "QUOTE_UPDATE"
  | featureUpdate _ => "FEATURE_UPDATE"
  | marketStateUpdate _ => "MARKET_STATE_UPDATE"
  | signalIntent _ => "SIGNAL_INTENT"
  | pairSignalIntent _ => "PAIR_SIGNAL_INTENT"
  | relativeValueIntent _ => "RELATIVE_VALUE_INTENT"
  | decision d => d.kind.text
  | orderEvent o => o.kind.text
  | fill _ => "FILL"
  | positionUpdate _ => "POSITION_UPDATE"
  | reconciliation _ => "RECONCILIATION"
  | health _ => "HEALTH"

/-- `causal_times` (`core/events/models.py:225-270`): what the payload says about the times
    of its envelope. -/
def CausalTimes (payload : Payload F) (occurredAt receivedAt : Instant) : Prop :=
  match payload with
  | barClose bar => bar.stop = occurredAt ∧ bar.receivedAt ≤ receivedAt
  | quoteUpdate quote => quote.timestamp = occurredAt ∧ quote.receivedAt ≤ receivedAt
  | featureUpdate update => ∀ s ∈ update.snapshot, s.timestamp = occurredAt
  | marketStateUpdate update => ∀ d ∈ update.decision, d.timestamp = occurredAt
  | signalIntent intent => ∀ e ∈ intent.evidence, e.timestamp = occurredAt
  | pairSignalIntent intent => intent.timestamp = occurredAt
  | relativeValueIntent intent => intent.timestamp = occurredAt
  | decision d => (∀ e ∈ d.ensemble, e.timestamp = occurredAt) ∧
      (d.ensemble = none → ∀ p ∈ d.portfolio, p.timestamp = occurredAt)
  | health h => ∀ s ∈ h.alphaSnapshot, s.timestamp = occurredAt
  | _ => True

end Payload

/-- `EventEnvelope` (`core/events/models.py:213-270`). -/
structure EventEnvelope (F : Type) [PyFloat F] [Platform] where
  eventId : Uuid
  correlationId : Uuid
  occurredAt : Instant
  receivedAt : Instant
  source : String
  provenance : Provenance
  payload : Payload F
  /-- `causal_times`. -/
  received_after : occurredAt ≤ receivedAt
  causal_times : payload.CausalTimes occurredAt receivedAt

/-- `SystemStateSnapshot` (`core/events/models.py:273-284`). -/
structure SystemStateSnapshot where
  scope : String
  state : SystemState
  mode : TradingMode
  killSwitch : Bool
  brokerHealth : String
  dataHealth : String
  releaseId : String
  lastEventId : Uuid
  updatedAt : Instant
  deriving DecidableEq

end Godzilla.Events
