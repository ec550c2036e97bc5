import Godzilla.Core.Events.Journal
import Godzilla.Core.Events.Models
import Godzilla.Core.Scalars

/-!
# Publication of artefacts

The seven publishers (`portfolio/publication.py`, `alphas/publication.py`,
`alphas/pairs_publication.py`, `alphas/relative_value_publication.py`,
`features/service.py`, `market_state/service.py`). Each wraps one artefact in an
envelope whose id and idempotency key are made of the artefact's own identity under a
scheme of its own. A `Draft` is what a publisher says of its artefact; the envelope
follows from it, the correlation and the receipt.
-/

namespace Godzilla.Events
open Godzilla Alphas Ensemble Features MarketState Portfolio Misc

/-- The schemes under which the publishers name their events. -/
inductive Scheme where
  | alphaHealth
  | allocation
  | signal
  | pair
  | relativeValue
  | feature
  | marketState
  deriving DecidableEq, Repr

namespace Scheme

/-- What the name of the event starts with. -/
def eventText : Scheme → String
  | alphaHealth => "godzilla:alpha-health:"
  | allocation => "godzilla:allocation-event:"
  | signal => "godzilla:signal-event:"
  | pair => "godzilla:pair-event:"
  | relativeValue => "godzilla:rv-event:"
  | feature => "godzilla:feature:"
  | marketState => "godzilla:market-state:"

/-- The namespace of the idempotency key. -/
def keyNamespace : Scheme → String
  | alphaHealth => "alpha-health"
  | allocation => "allocation"
  | signal => "signal-intent"
  | pair => "pair-intent"
  | relativeValue => "rv-intent"
  | feature => "feature-snapshot"
  | marketState => "market-state"

end Scheme

variable {F : Type} [PyFloat F] [Platform]

/-- Build a `Provenance`, raising what its fields raise; pydantic lists every failing field,
    the text here names the first. -/
def Provenance.validate (codeCommit : String) (configHash : Digest)
    (dataSnapshot featureVersion : String) : Except PyError Provenance :=
  if codeCommit = "" then
    .error (invalid "Provenance" "code_commit: String should have at least 1 character")
  else if ¬ IsHexDigest configHash then
    .error (invalid "Provenance" "config_hash: String should match pattern '^[0-9a-f]\x7b64\x7d$'")
  else if dataSnapshot = "" then
    .error (invalid "Provenance" "data_snapshot: String should have at least 1 character")
  else if featureVersion = "" then
    .error (invalid "Provenance" "feature_version: String should have at least 1 character")
  else .ok ⟨codeCommit, configHash, dataSnapshot, featureVersion⟩

/-- `idempotency_key` for one identity part (`core/events/serialization.py:45-49`). -/
def idempotencyKey (keyNamespace part : String) : Except PyError Digest :=
  if keyNamespace = "" ∨ part = "" then
    .error (.valueError "idempotency key requires a namespace and nonempty identity parts")
  else .ok (Platform.sha256 (.arr [.str keyNamespace, .str part]))

/-- What a publisher says of its artefact. -/
structure Draft (F : Type) [PyFloat F] [Platform] where
  scheme : Scheme
  identity : String
  occurredAt : Instant
  source : String
  payload : Payload F
  provenance : Provenance
  causal : ∀ receivedAt, payload.CausalTimes occurredAt receivedAt

namespace Draft

/-- `uuid5(NAMESPACE_URL, ...)` of the event. -/
def eventId (draft : Draft F) : Uuid :=
  Platform.uuid5 (draft.scheme.eventText ++ draft.identity)

/-- The envelope, or what `causal_times` raises. -/
def envelope (draft : Draft F) (correlationId : Uuid) (receivedAt : Instant) :
    Except PyError (EventEnvelope F) :=
  if h : draft.occurredAt ≤ receivedAt then
    .ok
      { eventId := draft.eventId
        correlationId := correlationId
        occurredAt := draft.occurredAt
        receivedAt := receivedAt
        source := draft.source
        provenance := draft.provenance
        payload := draft.payload
        received_after := h
        causal_times := draft.causal receivedAt }
  else .error (invalid "EventEnvelope" "event cannot occur after receipt")

/-- The idempotency key. -/
def key (draft : Draft F) : Except PyError Digest :=
  idempotencyKey draft.scheme.keyNamespace draft.identity

end Draft

/-- `publish_health` (`portfolio/publication.py:14-42`). -/
def publishHealth (snapshot : AlphaHealthSnapshot F) : Except PyError (Draft F) := do
  let provenance ← Provenance.validate snapshot.codeCommit snapshot.configHash
    snapshot.dataSnapshot "alpha-health-v1"
  .ok
    { scheme := .alphaHealth
      identity := snapshot.alphaId.value ++ ":" ++ Platform.isoformat snapshot.timestamp
      occurredAt := snapshot.timestamp
      source := "alpha-health"
      payload := .health
        { component := snapshot.alphaId.value
          status := .healthy
          blocking := false
          reason := "RESEARCH_PERFORMANCE_NOT_SYSTEM_HEALTH"
          alphaSnapshot := some snapshot }
      provenance := provenance
      causal := by
        intro _ s hs
        obtain rfl := Option.some.inj hs
        rfl }

/-- `publish_decision` of an ensemble decision (`portfolio/publication.py:45-74`). -/
def publishEnsemble (decision : EnsembleDecision) (provenance : Provenance) : Draft F where
  scheme := .allocation
  identity := Platform.uuidStr decision.decisionId
  occurredAt := decision.timestamp
  source := "ensemble"
  payload := .decision
    { kind := .ensemble
      decisionId := decision.decisionId
      intentId := decision.decisionId
      accepted := false
      reasons := decision.reasons
      ensemble := some decision
      ensemble_kind := by
        intro d hd
        obtain rfl := Option.some.inj hd
        exact ⟨rfl, rfl⟩
      portfolio_kind := by
        intro d hd
        cases hd }
  provenance := provenance
  causal := by
    intro _
    refine ⟨?_, ?_⟩
    · intro d hd
      obtain rfl := Option.some.inj hd
      rfl
    · intro hnone
      cases hnone

/-- `publish_decision` of a portfolio decision (`portfolio/publication.py:45-74`). -/
def publishPortfolio (decision : PortfolioDecision) (provenance : Provenance) : Draft F where
  scheme := .allocation
  identity := Platform.uuidStr decision.decisionId
  occurredAt := decision.timestamp
  source := "portfolio"
  payload := .decision
    { kind := .portfolio
      decisionId := decision.decisionId
      intentId := decision.decisionId
      accepted := false
      reasons := decision.reasons
      portfolio := some decision
      ensemble_kind := by
        intro d hd
        cases hd
      portfolio_kind := by
        intro d hd
        obtain rfl := Option.some.inj hd
        exact ⟨rfl, rfl⟩ }
  provenance := provenance
  causal := by
    intro _
    refine ⟨?_, ?_⟩
    · intro d hd
      cases hd
    · intro _ d hd
      obtain rfl := Option.some.inj hd
      rfl

/-- `evidence.feature_set_hash`. -/
def SignalEvidence.featureSetHash : SignalEvidence F → Digest
  | momentum e => e.featureSetHash
  | breakout e => e.featureSetHash
  | vwap e => e.featureSetHash

/-- `publish_intent` (`alphas/publication.py:12-38`). -/
def publishIntent (intent : SignalIntent F) : Except PyError (Draft F) :=
  match hevidence : intent.evidence with
  | none => .error (.valueError "alpha publication requires scored evidence")
  | some evidence => do
    let (codeCommit, configHash, dataSnapshot) := evidence.provenance
    let provenance ← Provenance.validate codeCommit configHash dataSnapshot
      evidence.featureSetHash
    .ok
      { scheme := .signal
        identity := Platform.uuidStr intent.signalId
        occurredAt := evidence.timestamp
        source := intent.alphaId
        payload := .signalIntent intent
        provenance := provenance
        causal := by
          intro _ e he
          rw [hevidence] at he
          obtain rfl := Option.some.inj he
          rfl }

/-- `publish_pair_intent` (`alphas/pairs_publication.py:13-34`). -/
def publishPairIntent (intent : PairSignalIntent F) : Except PyError (Draft F) := do
  let provenance ← Provenance.validate intent.codeCommit intent.configHash intent.dataSnapshot
    "pairs-fit-v1"
  .ok
    { scheme := .pair
      identity := Platform.uuidStr intent.signalId
      occurredAt := intent.timestamp
      source := pairsAlphaId
      payload := .pairSignalIntent intent
      provenance := provenance
      causal := by
        intro _
        rfl }

/-- `publish_relative_value` (`alphas/relative_value_publication.py:13-34`). -/
def publishRelativeValue (intent : RelativeValueIntent F) : Except PyError (Draft F) := do
  let provenance ← Provenance.validate intent.codeCommit intent.configHash intent.dataSnapshot
    intent.featureSetHash
  .ok
    { scheme := .relativeValue
      identity := Platform.uuidStr intent.signalId
      occurredAt := intent.timestamp
      source := relativeValueAlphaId
      payload := .relativeValueIntent intent
      provenance := provenance
      causal := by
        intro _
        rfl }

/-- `publish_snapshot` (`features/service.py:12-43`); `feature_identity` compares the
    definition, and the receipt is the time of the snapshot. -/
def publishSnapshot (snapshot : FeatureSnapshot F) (definition : FeatureSetVersion F) :
    Except PyError (Draft F) := do
  let provenance ← Provenance.validate snapshot.codeCommit snapshot.configHash
    snapshot.dataSnapshot snapshot.featureSetHash
  if h : snapshot.featureSetHash = definition.versionHash then
    .ok
      { scheme := .feature
        identity := snapshot.snapshotHash
        occurredAt := snapshot.timestamp
        source := "feature-engine"
        payload := .featureUpdate
          { entity := snapshot.entity
            featureVersion := snapshot.featureSetHash
            values := snapshot.values.filterMap fun item =>
              item.value.map fun v => ⟨item.name, PyFloat.toDecimal v⟩
            snapshot := some snapshot
            definition := some definition
            together := by simp
            identity := by
              intro s hs d hd
              obtain rfl := Option.some.inj hs
              obtain rfl := Option.some.inj hd
              exact ⟨h, rfl, rfl⟩
            values_agree := by
              intro s hs
              obtain rfl := Option.some.inj hs
              rfl }
        provenance := provenance
        causal := by
          intro _ s hs
          obtain rfl := Option.some.inj hs
          rfl }
  else .error (invalid "FeatureUpdate" "feature version or entity mismatch")

/-- `publish_state` (`market_state/service.py:13-38`). -/
def publishState (decision : StateDecision F) : Except PyError (Draft F) := do
  let provenance ← Provenance.validate decision.codeCommit decision.configHash
    decision.dataSnapshot decision.evidence.featureSetHash
  .ok
    { scheme := .marketState
      identity := decision.decisionHash
      occurredAt := decision.timestamp
      source := "market-state-router"
      payload := .marketStateUpdate
        { state := decision.state.value
          reasons := decision.evidence.reasons
          decision := some decision
          consistent := by
            intro d hd
            obtain rfl := Option.some.inj hd
            exact ⟨rfl, rfl⟩ }
      provenance := provenance
      causal := by
        intro _ d hd
        obtain rfl := Option.some.inj hd
        rfl }

end Godzilla.Events
