import Godzilla.Core.Events.Models

/-!
# The wire format of events

`core/events/serialization.py`. `model_dump` of an envelope is written out down to
the payload, whose optional members `serialize_event` may drop; the models inside
a payload are dumped by the platform. The text `json.dumps` makes of the tree is
below `sha256`.
-/

namespace Godzilla.Events
open Godzilla Misc

variable {F : Type} [PyFloat F] [Platform]

/-- `provenance.model_dump(mode="json")`. -/
def Provenance.dump (p : Provenance) : Json :=
  .obj [ ("code_commit", .str p.codeCommit), ("config_hash", .str p.configHash),
    ("data_snapshot", .str p.dataSnapshot), ("feature_version", .str p.featureVersion) ]

/-- The members that `payload.model_dump(mode="json")` writes, of the models with members
    that may be dropped; the platform dumps the others as a whole. -/
def Payload.dump (payload : Payload F) : Json :=
  match payload with
  | .barClose bar => .obj [("kind", .str payload.kind), ("bar", Platform.modelDump bar)]
  | .quoteUpdate quote => .obj [("kind", .str payload.kind), ("quote", Platform.modelDump quote)]
  | .featureUpdate u =>
    .obj [ ("kind", .str payload.kind), ("entity", .str u.entity),
      ("feature_version", .str u.featureVersion), ("values", Platform.modelDump u.values),
      ("snapshot", Platform.modelDump u.snapshot),
      ("definition", Platform.modelDump u.definition) ]
  | .marketStateUpdate u =>
    .obj [ ("kind", .str payload.kind), ("state", .str u.state),
      ("reasons", Platform.modelDump u.reasons), ("decision", Platform.modelDump u.decision) ]
  | .signalIntent i =>
    .obj [ ("kind", .str payload.kind), ("signal_id", Platform.modelDump i.signalId),
      ("instrument_id", .str i.instrumentId), ("alpha_id", .str i.alphaId),
      ("side", Platform.modelDump i.side), ("reasons", Platform.modelDump i.reasons),
      ("score", Platform.modelDump i.score), ("evidence", Platform.modelDump i.evidence) ]
  | .decision d =>
    .obj [ ("kind", .str payload.kind), ("decision_id", Platform.modelDump d.decisionId),
      ("intent_id", Platform.modelDump d.intentId), ("accepted", .bool d.accepted),
      ("reasons", Platform.modelDump d.reasons), ("ensemble", Platform.modelDump d.ensemble),
      ("portfolio", Platform.modelDump d.portfolio) ]
  | .health h =>
    .obj [ ("kind", .str payload.kind), ("component", .str h.component),
      ("status", Platform.modelDump h.status), ("blocking", .bool h.blocking),
      ("reason", .str h.reason), ("alpha_snapshot", Platform.modelDump h.alphaSnapshot) ]
  | .pairSignalIntent i => Platform.modelDump i
  | .relativeValueIntent i => Platform.modelDump i
  | .orderEvent o => Platform.modelDump o
  | .fill f => Platform.modelDump f
  | .positionUpdate u => Platform.modelDump u
  | .reconciliation r => Platform.modelDump r

/-- `event.model_dump(mode="json")`. -/
def EventEnvelope.dump (event : EventEnvelope F) : Json :=
  .obj [ ("event_id", Platform.modelDump event.eventId),
    ("correlation_id", Platform.modelDump event.correlationId),
    ("occurred_at", Platform.modelDump event.occurredAt),
    ("received_at", Platform.modelDump event.receivedAt), ("source", .str event.source),
    ("schema_version", .num "1"), ("provenance", event.provenance.dump),
    ("payload", event.payload.dump) ]

/-- The members of the payload that `serialize_event` drops, to keep the first wire format
    and its hashes (`core/events/serialization.py:18-33`). -/
def Payload.dropped : Payload F → List String
  | .featureUpdate u => if u.snapshot.isNone then ["snapshot", "definition"] else []
  | .marketStateUpdate u => if u.decision.isNone then ["decision"] else []
  | .signalIntent i => if i.evidence.isNone then ["score", "evidence"] else []
  | .decision d =>
    (if d.ensemble.isNone then ["ensemble"] else []) ++
      if d.portfolio.isNone then ["portfolio"] else []
  | .health h => if h.alphaSnapshot.isNone then ["alpha_snapshot"] else []
  | _ => []

/-- What `serialize_event` drops from a dump of the event. -/
def dropMissing (event : EventEnvelope F) (dump : Json) : Json :=
  dump.mapMember "payload" fun payload =>
    event.payload.dropped.foldl (fun j name => j.without name) payload

/-- The tree `serialize_event` writes as text (`core/events/serialization.py:16-34`). -/
def serializeEvent (event : EventEnvelope F) : Json := dropMissing event event.dump

/-- `event_hash` (`core/events/serialization.py:41-42`). -/
def eventHash (event : EventEnvelope F) : Digest := Platform.sha256 (serializeEvent event)

/-- The envelope has no member for a state projection. -/
theorem EventEnvelope.dump_get?_state (event : EventEnvelope F) :
    event.dump.get? "_state_projection" = none := by
  simp [EventEnvelope.dump, Json.get?]

end Godzilla.Events
