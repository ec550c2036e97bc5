import Godzilla.Alphas.RelativeValueWire
import Godzilla.Alphas.SignalWire
import Godzilla.Core.Events.Serialization
import Godzilla.Portfolio.Wire

/-!
# Events in JSON

`EventEnvelope.model_dump(mode="json")` and `EventEnvelope.model_validate_json`: the codecs
of the payloads, the union that their `kind` discriminates and the envelope. Every codec
checks what the validators of its model check (`core/events/models.py`).
-/

namespace Godzilla.Events
open MarketData

variable {F : Type} [PyFloat F] [Platform]

instance (payload : Payload F) (occurredAt receivedAt : Instant) :
    Decidable (payload.CausalTimes occurredAt receivedAt) := by
  cases payload <;> unfold Payload.CausalTimes <;> infer_instance

/-- The payload has nothing under a name that `serialize_event` may drop. -/
def Payload.Absent : Payload F → String → Prop
  | .featureUpdate update, name =>
    (name = "snapshot" ∧ update.snapshot = none) ∨ (name = "definition" ∧ update.definition = none)
  | .marketStateUpdate update, name => name = "decision" ∧ update.decision = none
  | .signalIntent intent, name =>
    (name = "score" ∧ intent.score = none) ∨ (name = "evidence" ∧ intent.evidence = none)
  | .decision d, name =>
    (name = "ensemble" ∧ d.ensemble = none) ∨ (name = "portfolio" ∧ d.portfolio = none)
  | .health h, name => name = "alpha_snapshot" ∧ h.alphaSnapshot = none
  | _, _ => False

/-- What is dropped is absent: a feature update has a definition when it has a snapshot, and a
    signal intent a score when it has evidence. -/
theorem Payload.absent_of_mem_dropped {payload : Payload F} {name : String}
    (h : name ∈ payload.dropped) : payload.Absent name := by
  cases payload with
  | featureUpdate update =>
    have htogether := update.together
    by_cases hnone : update.snapshot = none
    · simp_all [Payload.dropped, Payload.Absent]
    · simp_all [Payload.dropped]
  | marketStateUpdate update =>
    by_cases hnone : update.decision = none <;> simp_all [Payload.dropped, Payload.Absent]
  | signalIntent intent =>
    have htogether := intent.consistent.2.1
    by_cases hnone : intent.evidence = none
    · simp_all [Payload.dropped, Payload.Absent]
    · simp_all [Payload.dropped]
  | decision d =>
    by_cases hensemble : d.ensemble = none <;> by_cases hportfolio : d.portfolio = none <;>
      simp_all [Payload.dropped, Payload.Absent]
  | health health =>
    by_cases hnone : health.alphaSnapshot = none <;> simp_all [Payload.dropped, Payload.Absent]
  | _ => simp [Payload.dropped] at h

end Godzilla.Events

namespace Godzilla.Wire
open Misc Codec Events Alphas

/-- The name of the status, as `Health` carries it. -/
def healthName : HealthStatus → String
  | .healthy => "HEALTHY"
  | .unknown => "UNKNOWN"
  | .degraded => "DEGRADED"
  | .unhealthy => "UNHEALTHY"

def healthStatus : Codec HealthStatus :=
  tag [.healthy, .unknown, .degraded, .unhealthy] healthName fun status => by
    cases status <;> decide

def decisionKind : Codec DecisionKind :=
  tag [.ensemble, .portfolio, .risk] DecisionKind.text fun kind => by cases kind <;> decide

def orderKind : Codec OrderKind :=
  tag [.planCreated, .submitted, .acknowledged, .rejected, .cancelled, .unknown, .partialFill,
    .filled] OrderKind.text fun kind => by cases kind <;> decide

/-- `Provenance` (`core/events/models.py:29-33`). -/
def provenance : Codec Provenance :=
  .object (
    .field "code_commit" nonempty (·.codeCommit) <|
    .field "config_hash" digest (·.configHash) <|
    .field "data_snapshot" nonempty (·.dataSnapshot) <|
    .field "feature_version" nonempty (·.featureVersion) .done)
    (fun (codeCommit, configHash, dataSnapshot, featureVersion, _) =>
      some ⟨codeCommit, configHash, dataSnapshot, featureVersion⟩) fun _ => rfl

variable (F : Type) [PyFloat F] [ScalarCodecs F]

/-- `NamedValue` (`core/events/models.py:46-48`). -/
def namedValue : Codec NamedValue :=
  .object (
    .field "name" nonempty (·.name) <|
    .field "value" (decimal F) (·.value) .done)
    (fun (name, value, _) => some ⟨name, value⟩) fun _ => rfl

/-- `BarClose` (`core/events/models.py:36-38`). -/
def barClose : Codec MarketData.Bar :=
  .object (
    .field "bar" (bar F) id <|
    .literal "kind" (.str "BAR_CLOSE") .done)
    (fun (bar, _) => some bar) fun _ => rfl

/-- `QuoteUpdate` (`core/events/models.py:41-43`). -/
def quoteUpdate : Codec MarketData.Quote :=
  .object (
    .literal "kind" (.str "QUOTE_UPDATE") <|
    .field "quote" (quote F) id .done)
    (fun (quote, _) => some quote) fun _ => rfl

/-- `OrderEvent` (`core/events/models.py:147-160`). -/
def orderEvent : Codec OrderEvent :=
  .object (
    .optional "broker_order_id" text (·.brokerOrderId) <|
    .field "kind" orderKind (·.kind) <|
    .field "order_intent_id" (uuid F) (·.orderIntentId) <|
    .field "reason" text (·.reason) .done)
    (fun (brokerOrderId, kind, orderIntentId, reason, _) =>
      some ⟨kind, orderIntentId, brokerOrderId, reason⟩) fun _ => rfl

/-- `Fill` (`core/events/models.py:163-169`). -/
def fill : Codec Fill :=
  .object (
    .field "broker_order_id" text (·.brokerOrderId) <|
    .field "fill_id" (uuid F) (·.fillId) <|
    .literal "kind" (.str "FILL") <|
    .field "order_intent_id" (uuid F) (·.orderIntentId) <|
    .field "price" (decimal F) (·.price) <|
    .field "quantity" (decimal F) (·.quantity) .done)
    (fun (brokerOrderId, fillId, orderIntentId, price, quantity, _) =>
      if h : 0 < quantity ∧ 0 < price then
        some ⟨fillId, orderIntentId, brokerOrderId, quantity, price, h.1, h.2⟩
      else none)
    (fun fill => by dsimp; exact dite_eq_some ⟨fill.quantity_pos, fill.price_pos⟩ rfl)

/-- `PositionUpdate` (`core/events/models.py:172-176`). -/
def positionUpdate : Codec PositionUpdate :=
  .object (
    .field "instrument_id" text (·.instrumentId) <|
    .literal "kind" (.str "POSITION_UPDATE") <|
    .field "quantity" (decimal F) (·.quantity) <|
    .field "reason" text (·.reason) .done)
    (fun (instrumentId, quantity, reason, _) => some ⟨instrumentId, quantity, reason⟩) fun _ => rfl

/-- `Reconciliation` (`core/events/models.py:179-183`). -/
def reconciliation : Codec Reconciliation :=
  .object (
    .literal "kind" (.str "RECONCILIATION") <|
    .field "matched" (flag F) (·.matched) <|
    .field "reasons" texts (·.reasons) <|
    .field "scope" text (·.scope) .done)
    (fun (matched, reasons, scope, _) => some ⟨scope, matched, reasons⟩) fun _ => rfl

/-- `Decision` (`core/events/models.py:125-144`). -/
def decision : Codec Decision :=
  .object (
    .field "accepted" (flag F) (·.accepted) <|
    .field "decision_id" (uuid F) (·.decisionId) <|
    .optional "ensemble" (ensembleDecision F) (·.ensemble) <|
    .field "intent_id" (uuid F) (·.intentId) <|
    .field "kind" decisionKind (·.kind) <|
    .optional "portfolio" (portfolioDecision F) (·.portfolio) <|
    .field "reasons" texts (·.reasons) .done)
    (fun (accepted, decisionId, ensemble, intentId, kind, portfolio, reasons, _) =>
      if h : (∀ d ∈ ensemble, kind = .ensemble ∧ decisionId = d.decisionId) ∧
          ∀ d ∈ portfolio, kind = .portfolio ∧ decisionId = d.decisionId then
        some ⟨kind, decisionId, intentId, accepted, reasons, ensemble, portfolio, h.1, h.2⟩
      else none)
    (fun decision => by
      dsimp
      exact dite_eq_some ⟨decision.ensemble_kind, decision.portfolio_kind⟩ rfl)

/-- `Health` (`core/events/models.py:186-192`). -/
def health : Codec (Health F) :=
  .object (
    .optional "alpha_snapshot" (alphaHealthSnapshot F) (·.alphaSnapshot) <|
    .field "blocking" (flag F) (·.blocking) <|
    .field "component" text (·.component) <|
    .literal "kind" (.str "HEALTH") <|
    .field "reason" text (·.reason) <|
    .field "status" healthStatus (·.status) .done)
    (fun (alphaSnapshot, blocking, component, reason, status, _) =>
      some ⟨component, status, blocking, reason, alphaSnapshot⟩) fun _ => rfl

variable [Platform]

/-- `FeatureUpdate` (`core/events/models.py:51-82`). -/
def featureUpdate : Codec (FeatureUpdate F) :=
  .object (
    .optional "definition" (featureSetVersion F) (·.definition) <|
    .field "entity" text (·.entity) <|
    .field "feature_version" text (·.featureVersion) <|
    .literal "kind" (.str "FEATURE_UPDATE") <|
    .optional "snapshot" (featureSnapshot F) (·.snapshot) <|
    .field "values" (namedValue F).list (·.values) .done)
    (fun (definition, entity, featureVersion, snapshot, values, _) =>
      if h : (snapshot.isNone ↔ definition.isNone) ∧
          (∀ s ∈ snapshot, ∀ d ∈ definition, featureVersion = d.versionHash ∧
            s.featureSetHash = featureVersion ∧ s.entity = entity) ∧
          ∀ s ∈ snapshot, values = s.values.filterMap fun item =>
            item.value.map fun v => ⟨item.name, PyFloat.toDecimal v⟩ then
        some ⟨entity, featureVersion, values, snapshot, definition, by simpa using h.1, h.2.1, h.2.2⟩
      else none)
    (fun update => by
      dsimp
      exact dite_eq_some ⟨by simpa using update.together, update.identity, update.values_agree⟩ rfl)

/-- `MarketStateUpdate` (`core/events/models.py:85-98`). -/
def marketStateUpdate : Codec (MarketStateUpdate F) :=
  .object (
    .optional "decision" (stateDecision F) (·.decision) <|
    .literal "kind" (.str "MARKET_STATE_UPDATE") <|
    .field "reasons" texts (·.reasons) <|
    .field "state" text (·.state) .done)
    (fun (decision, reasons, state, _) =>
      if h : ∀ d ∈ decision, state = d.state.value ∧ reasons = d.evidence.reasons then
        some ⟨state, reasons, decision, h⟩
      else none)
    (fun update => by dsimp; exact dite_eq_some update.consistent rfl)

theorem breakout_refuses_vwap (evidence : VwapSignalEvidence F) :
    (breakoutSignalEvidence F).dec ((vwapSignalEvidence F).enc evidence) = none := by
  unfold breakoutSignalEvidence vwapSignalEvidence
  exact object_refuses "exits" (by simp) (by simp) evidence

theorem momentum_refuses_breakout (evidence : BreakoutSignalEvidence F) :
    (momentumSignalEvidence F).dec ((breakoutSignalEvidence F).enc evidence) = none := by
  unfold momentumSignalEvidence breakoutSignalEvidence
  exact object_refuses "checks" (by simp) (by simp) evidence

theorem momentum_refuses_vwap (evidence : VwapSignalEvidence F) :
    (momentumSignalEvidence F).dec ((vwapSignalEvidence F).enc evidence) = none := by
  unfold momentumSignalEvidence vwapSignalEvidence
  exact object_refuses "exits" (by simp) (by simp) evidence

/-- One of three kinds of evidence, by the members that it has. -/
def signalEvidence : Codec (SignalEvidence F) :=
  ((momentumSignalEvidence F).either
    ((breakoutSignalEvidence F).either (vwapSignalEvidence F) (breakout_refuses_vwap F))
    fun
      | .inl evidence => momentum_refuses_breakout F evidence
      | .inr evidence => momentum_refuses_vwap F evidence).through
    (fun
      | .momentum evidence => .inl evidence
      | .breakout evidence => .inr (.inl evidence)
      | .vwap evidence => .inr (.inr evidence))
    (fun
      | .inl evidence => some (.momentum evidence)
      | .inr (.inl evidence) => some (.breakout evidence)
      | .inr (.inr evidence) => some (.vwap evidence))
    fun evidence => by cases evidence <;> rfl

/-- `SignalIntent` (`core/events/models.py:101-122`). -/
def signalIntent : Codec (SignalIntent F) :=
  .object (
    .field "alpha_id" text (·.alphaId) <|
    .optional "evidence" (signalEvidence F) (·.evidence) <|
    .field "instrument_id" text (·.instrumentId) <|
    .literal "kind" (.str "SIGNAL_INTENT") <|
    .field "reasons" texts (·.reasons) <|
    .optional "score" (float F) (·.score) <|
    .field "side" side (·.side) <|
    .field "signal_id" (uuid F) (·.signalId) .done)
    (fun (alphaId, evidence, instrumentId, reasons, score, side, signalId, _) =>
      (SignalIntent.validate ⟨signalId, instrumentId, alphaId, side, reasons, score,
        evidence⟩).toOption)
    (fun intent => by
      dsimp
      exact congrArg Except.toOption (dif_pos intent.consistent))

section Union

/-- `payload.model_dump(mode="json")`. -/
def writePayload : Payload F → Json
  | .barClose bar => (barClose F).enc bar
  | .quoteUpdate quote => (quoteUpdate F).enc quote
  | .featureUpdate update => (featureUpdate F).enc update
  | .marketStateUpdate update => (marketStateUpdate F).enc update
  | .signalIntent intent => (signalIntent F).enc intent
  | .pairSignalIntent intent => (pairSignalIntent F).enc intent
  | .relativeValueIntent intent => (relativeValueIntent F).enc intent
  | .decision d => (decision F).enc d
  | .orderEvent order => (orderEvent F).enc order
  | .fill f => (fill F).enc f
  | .positionUpdate update => (positionUpdate F).enc update
  | .reconciliation r => (reconciliation F).enc r
  | .health h => (health F).enc h

/-- The member of the union that a kind stands for. -/
def readKind (kind : String) (j : Json) : Option (Payload F) :=
  if kind = "BAR_CLOSE" then ((barClose F).dec j).map .barClose
  else if kind = "QUOTE_UPDATE" then ((quoteUpdate F).dec j).map .quoteUpdate
  else if kind = "FEATURE_UPDATE" then ((featureUpdate F).dec j).map .featureUpdate
  else if kind = "MARKET_STATE_UPDATE" then ((marketStateUpdate F).dec j).map .marketStateUpdate
  else if kind = "SIGNAL_INTENT" then ((signalIntent F).dec j).map .signalIntent
  else if kind = "PAIR_SIGNAL_INTENT" then ((pairSignalIntent F).dec j).map .pairSignalIntent
  else if kind = "RELATIVE_VALUE_INTENT" then
    ((relativeValueIntent F).dec j).map .relativeValueIntent
  else if kind ∈ ["ENSEMBLE_DECISION", "PORTFOLIO_DECISION", "RISK_DECISION"] then
    ((decision F).dec j).map .decision
  else if kind ∈ ["ORDER_PLAN_CREATED", "ORDER_SUBMITTED", "ORDER_ACKNOWLEDGED", "ORDER_REJECTED",
      "ORDER_CANCELLED", "ORDER_UNKNOWN", "ORDER_PARTIAL_FILL", "ORDER_FILLED"] then
    ((orderEvent F).dec j).map .orderEvent
  else if kind = "FILL" then ((fill F).dec j).map .fill
  else if kind = "POSITION_UPDATE" then ((positionUpdate F).dec j).map .positionUpdate
  else if kind = "RECONCILIATION" then ((reconciliation F).dec j).map .reconciliation
  else if kind = "HEALTH" then ((health F).dec j).map .health
  else none

/-- `Payload`, discriminated by `kind` (`core/events/models.py:195-210`). -/
def readPayload (j : Json) : Option (Payload F) :=
  match j.get? "kind" with
  | some (.str kind) => readKind F kind j
  | _ => none

/-- The constraints of the fields that the structures of the payload do not carry. -/
def ValidPayload : Payload F → Prop
  | .barClose bar => (barClose F).Valid bar
  | .quoteUpdate quote => (quoteUpdate F).Valid quote
  | .featureUpdate update => (featureUpdate F).Valid update
  | .marketStateUpdate update => (marketStateUpdate F).Valid update
  | .signalIntent intent => (signalIntent F).Valid intent
  | .pairSignalIntent intent => (pairSignalIntent F).Valid intent
  | .relativeValueIntent intent => (relativeValueIntent F).Valid intent
  | .decision d => (decision F).Valid d
  | .orderEvent order => (orderEvent F).Valid order
  | .fill f => (fill F).Valid f
  | .positionUpdate update => (positionUpdate F).Valid update
  | .reconciliation r => (reconciliation F).Valid r
  | .health h => (health F).Valid h

variable {F}

theorem readPayload_eq {j : Json} {payload : Payload F} {kind : String}
    (hkind : j.get? "kind" = some (.str kind)) (hread : readKind F kind j = some payload) :
    readPayload F j = some payload := by
  rw [readPayload, hkind]
  exact hread

theorem read_barClose {x : MarketData.Bar} (hvalid : (barClose F).Valid x) :
    readPayload F ((barClose F).enc x) = some (.barClose x) := by
  have hkind : ((barClose F).enc x).get? "kind" = some (.str "BAR_CLOSE") := by
    unfold barClose
    exact object_get? (by simp)
  refine readPayload_eq hkind ?_
  simp [readKind, (barClose F).dec_enc x hvalid]

theorem read_quoteUpdate {x : MarketData.Quote} (hvalid : (quoteUpdate F).Valid x) :
    readPayload F ((quoteUpdate F).enc x) = some (.quoteUpdate x) := by
  have hkind : ((quoteUpdate F).enc x).get? "kind" = some (.str "QUOTE_UPDATE") := by
    unfold quoteUpdate
    exact object_get? (by simp)
  refine readPayload_eq hkind ?_
  simp [readKind, (quoteUpdate F).dec_enc x hvalid]

theorem read_pairSignalIntent {x : PairSignalIntent F} (hvalid : (pairSignalIntent F).Valid x) :
    readPayload F ((pairSignalIntent F).enc x) = some (.pairSignalIntent x) := by
  have hkind : ((pairSignalIntent F).enc x).get? "kind" = some (.str "PAIR_SIGNAL_INTENT") := by
    unfold pairSignalIntent
    exact object_get? (by simp)
  refine readPayload_eq hkind ?_
  simp [readKind, (pairSignalIntent F).dec_enc x hvalid]

theorem read_relativeValueIntent {x : RelativeValueIntent F}
    (hvalid : (relativeValueIntent F).Valid x) :
    readPayload F ((relativeValueIntent F).enc x) = some (.relativeValueIntent x) := by
  have hkind : ((relativeValueIntent F).enc x).get? "kind" =
      some (.str "RELATIVE_VALUE_INTENT") := by
    unfold relativeValueIntent
    exact object_get? (by simp)
  refine readPayload_eq hkind ?_
  simp [readKind, (relativeValueIntent F).dec_enc x hvalid]

theorem read_orderEvent {x : OrderEvent} (hvalid : (orderEvent F).Valid x) :
    readPayload F ((orderEvent F).enc x) = some (.orderEvent x) := by
  have hkind : ((orderEvent F).enc x).get? "kind" = some (.str x.kind.text) := by
    unfold orderEvent
    exact object_get? (by simp [orderKind, tag, through, text])
  have hread := (orderEvent F).dec_enc x hvalid
  refine readPayload_eq hkind ?_
  rw [readKind]
  cases x.kind <;> simp [OrderKind.text, hread]

theorem read_fill {x : Fill} (hvalid : (fill F).Valid x) :
    readPayload F ((fill F).enc x) = some (.fill x) := by
  have hkind : ((fill F).enc x).get? "kind" = some (.str "FILL") := by
    unfold fill
    exact object_get? (by simp)
  refine readPayload_eq hkind ?_
  simp [readKind, (fill F).dec_enc x hvalid]

theorem read_positionUpdate {x : PositionUpdate} (hvalid : (positionUpdate F).Valid x) :
    readPayload F ((positionUpdate F).enc x) = some (.positionUpdate x) := by
  have hkind : ((positionUpdate F).enc x).get? "kind" = some (.str "POSITION_UPDATE") := by
    unfold positionUpdate
    exact object_get? (by simp)
  refine readPayload_eq hkind ?_
  simp [readKind, (positionUpdate F).dec_enc x hvalid]

theorem read_reconciliation {x : Reconciliation} (hvalid : (reconciliation F).Valid x) :
    readPayload F ((reconciliation F).enc x) = some (.reconciliation x) := by
  have hkind : ((reconciliation F).enc x).get? "kind" = some (.str "RECONCILIATION") := by
    unfold reconciliation
    exact object_get? (by simp)
  refine readPayload_eq hkind ?_
  simp [readKind, (reconciliation F).dec_enc x hvalid]

theorem read_featureUpdate {x : FeatureUpdate F} (hvalid : (featureUpdate F).Valid x)
    {dropped : List String}
    (hdropped : ∀ name ∈ dropped, (Payload.featureUpdate x).Absent name) :
    readPayload F (dropped.foldl (fun (j : Json) name => j.without name)
      ((featureUpdate F).enc x)) = some (.featureUpdate x) := by
  have hkind : (dropped.foldl (fun (j : Json) name => j.without name)
      ((featureUpdate F).enc x)).get? "kind" = some (.str "FEATURE_UPDATE") := by
    unfold featureUpdate
    exact object_get?_dropped (by simp) fun h => by simpa [Payload.Absent] using hdropped _ h
  have hread : (featureUpdate F).dec (dropped.foldl (fun (j : Json) name => j.without name)
      ((featureUpdate F).enc x)) = some x := by
    unfold featureUpdate
    refine object_dec_dropped hvalid ?_
    simp only [Record.droppable_optional, Record.droppable_field, Record.droppable_literal,
      Record.droppable_done, and_true]
    refine ⟨?_, ?_, ?_, ?_, ?_⟩ <;> intro h <;> simpa [Payload.Absent] using hdropped _ h
  refine readPayload_eq hkind ?_
  simp [readKind, hread]

theorem read_marketStateUpdate {x : MarketStateUpdate F}
    (hvalid : (marketStateUpdate F).Valid x) {dropped : List String}
    (hdropped : ∀ name ∈ dropped, (Payload.marketStateUpdate x).Absent name) :
    readPayload F (dropped.foldl (fun (j : Json) name => j.without name)
      ((marketStateUpdate F).enc x)) = some (.marketStateUpdate x) := by
  have hkind : (dropped.foldl (fun (j : Json) name => j.without name)
      ((marketStateUpdate F).enc x)).get? "kind" = some (.str "MARKET_STATE_UPDATE") := by
    unfold marketStateUpdate
    exact object_get?_dropped (by simp) fun h => by simpa [Payload.Absent] using hdropped _ h
  have hread : (marketStateUpdate F).dec (dropped.foldl (fun (j : Json) name => j.without name)
      ((marketStateUpdate F).enc x)) = some x := by
    unfold marketStateUpdate
    refine object_dec_dropped hvalid ?_
    simp only [Record.droppable_optional, Record.droppable_field, Record.droppable_literal,
      Record.droppable_done, and_true]
    refine ⟨?_, ?_, ?_⟩ <;> intro h <;> simpa [Payload.Absent] using hdropped _ h
  refine readPayload_eq hkind ?_
  simp [readKind, hread]

theorem read_signalIntent {x : SignalIntent F} (hvalid : (signalIntent F).Valid x)
    {dropped : List String}
    (hdropped : ∀ name ∈ dropped, (Payload.signalIntent x).Absent name) :
    readPayload F (dropped.foldl (fun (j : Json) name => j.without name)
      ((signalIntent F).enc x)) = some (.signalIntent x) := by
  have hkind : (dropped.foldl (fun (j : Json) name => j.without name)
      ((signalIntent F).enc x)).get? "kind" = some (.str "SIGNAL_INTENT") := by
    unfold signalIntent
    exact object_get?_dropped (by simp) fun h => by simpa [Payload.Absent] using hdropped _ h
  have hread : (signalIntent F).dec (dropped.foldl (fun (j : Json) name => j.without name)
      ((signalIntent F).enc x)) = some x := by
    unfold signalIntent
    refine object_dec_dropped hvalid ?_
    simp only [Record.droppable_optional, Record.droppable_field, Record.droppable_literal,
      Record.droppable_done, and_true]
    refine ⟨?_, ?_, ?_, ?_, ?_, ?_, ?_⟩ <;> intro h <;>
      simpa [Payload.Absent] using hdropped _ h
  refine readPayload_eq hkind ?_
  simp [readKind, hread]

theorem read_decision {x : Decision} (hvalid : (decision F).Valid x) {dropped : List String}
    (hdropped : ∀ name ∈ dropped, (Payload.decision (F := F) x).Absent name) :
    readPayload F (dropped.foldl (fun (j : Json) name => j.without name) ((decision F).enc x)) =
      some (.decision x) := by
  have hkind : (dropped.foldl (fun (j : Json) name => j.without name) ((decision F).enc x)).get?
      "kind" = some (.str x.kind.text) := by
    unfold decision
    exact object_get?_dropped (by simp [decisionKind, tag, through, text])
      fun h => by simpa [Payload.Absent] using hdropped _ h
  have hread : (decision F).dec (dropped.foldl (fun (j : Json) name => j.without name)
      ((decision F).enc x)) = some x := by
    unfold decision
    refine object_dec_dropped hvalid ?_
    simp only [Record.droppable_optional, Record.droppable_field, Record.droppable_done, and_true]
    refine ⟨?_, ?_, ?_, ?_, ?_, ?_, ?_⟩ <;> intro h <;>
      simpa [Payload.Absent] using hdropped _ h
  refine readPayload_eq hkind ?_
  rw [readKind]
  cases x.kind <;> simp [DecisionKind.text, hread]

theorem read_health {x : Health F} (hvalid : (health F).Valid x) {dropped : List String}
    (hdropped : ∀ name ∈ dropped, (Payload.health x).Absent name) :
    readPayload F (dropped.foldl (fun (j : Json) name => j.without name) ((health F).enc x)) =
      some (.health x) := by
  have hkind : (dropped.foldl (fun (j : Json) name => j.without name) ((health F).enc x)).get?
      "kind" = some (.str "HEALTH") := by
    unfold health
    exact object_get?_dropped (by simp) fun h => by simpa [Payload.Absent] using hdropped _ h
  have hread : (health F).dec (dropped.foldl (fun (j : Json) name => j.without name)
      ((health F).enc x)) = some x := by
    unfold health
    refine object_dec_dropped hvalid ?_
    simp only [Record.droppable_optional, Record.droppable_field, Record.droppable_literal,
      Record.droppable_done, and_true]
    refine ⟨?_, ?_, ?_, ?_, ?_⟩ <;> intro h <;> simpa [Payload.Absent] using hdropped _ h
  refine readPayload_eq hkind ?_
  simp [readKind, hread]

/-- A valid payload is read back although members were left out that it does not have. -/
theorem readPayload_dropped {payload : Payload F} (hvalid : ValidPayload F payload)
    {dropped : List String} (hdropped : ∀ name ∈ dropped, payload.Absent name) :
    readPayload F (dropped.foldl (fun (j : Json) name => j.without name)
      (writePayload F payload)) = some payload := by
  cases payload with
  | featureUpdate update => exact read_featureUpdate hvalid hdropped
  | marketStateUpdate update => exact read_marketStateUpdate hvalid hdropped
  | signalIntent intent => exact read_signalIntent hvalid hdropped
  | decision d => exact read_decision hvalid hdropped
  | health h => exact read_health hvalid hdropped
  | barClose bar =>
    obtain rfl := List.eq_nil_iff_forall_not_mem.mpr hdropped
    exact read_barClose hvalid
  | quoteUpdate quote =>
    obtain rfl := List.eq_nil_iff_forall_not_mem.mpr hdropped
    exact read_quoteUpdate hvalid
  | pairSignalIntent intent =>
    obtain rfl := List.eq_nil_iff_forall_not_mem.mpr hdropped
    exact read_pairSignalIntent hvalid
  | relativeValueIntent intent =>
    obtain rfl := List.eq_nil_iff_forall_not_mem.mpr hdropped
    exact read_relativeValueIntent hvalid
  | orderEvent order =>
    obtain rfl := List.eq_nil_iff_forall_not_mem.mpr hdropped
    exact read_orderEvent hvalid
  | fill f =>
    obtain rfl := List.eq_nil_iff_forall_not_mem.mpr hdropped
    exact read_fill hvalid
  | positionUpdate update =>
    obtain rfl := List.eq_nil_iff_forall_not_mem.mpr hdropped
    exact read_positionUpdate hvalid
  | reconciliation r =>
    obtain rfl := List.eq_nil_iff_forall_not_mem.mpr hdropped
    exact read_reconciliation hvalid

/-- A payload is written as an object. -/
theorem exists_writePayload_eq (payload : Payload F) :
    ∃ ms, writePayload F payload = .obj ms := by
  cases payload <;> exact ⟨_, rfl⟩

variable (F)

/-- `Payload` as `model_dump` writes it. -/
def payload : Codec (Payload F) where
  enc := writePayload F
  dec := readPayload F
  Valid := ValidPayload F
  enc_ne_null payload := by
    obtain ⟨ms, hms⟩ := exists_writePayload_eq payload
    rw [hms]
    exact Json.noConfusion
  dec_enc payload hvalid := by
    have hnone : ∀ name ∈ ([] : List String), payload.Absent name := nofun
    exact readPayload_dropped hvalid hnone

end Union

/-- `EventEnvelope` (`core/events/models.py:213-270`) with a codec of its payload. -/
def envelopeWith (payload : Codec (Payload F)) : Codec (EventEnvelope F) :=
  .object (
    .field "correlation_id" (uuid F) (·.correlationId) <|
    .field "event_id" (uuid F) (·.eventId) <|
    .field "occurred_at" (instant F) (·.occurredAt) <|
    .field "payload" payload (·.payload) <|
    .field "provenance" provenance (·.provenance) <|
    .field "received_at" (instant F) (·.receivedAt) <|
    .literal "schema_version" (.num "1") <|
    .field "source" nonempty (·.source) .done)
    (fun (correlationId, eventId, occurredAt, payload, provenance, receivedAt, source, _) =>
      if h : occurredAt ≤ receivedAt ∧ payload.CausalTimes occurredAt receivedAt then
        some ⟨eventId, correlationId, occurredAt, receivedAt, source, provenance, payload, h.1, h.2⟩
      else none)
    (fun event => by
      dsimp
      exact dite_eq_some ⟨event.received_after, event.causal_times⟩ rfl)

/-- `EventEnvelope.model_dump(mode="json")` and `EventEnvelope.model_validate_json`. -/
def envelope : Codec (EventEnvelope F) := envelopeWith F (payload F)

end Godzilla.Wire
