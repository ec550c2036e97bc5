import Godzilla.Core.Events.Wire

/-!
# What the wire format keeps

`serialize_event`, `deserialize_event` and `event_hash` (`core/events/serialization.py`) with
the models inside the payload written out. An event is the tree whose text is written with
sorted keys: the members of every object are listed in that order.
-/

namespace Godzilla.Wire
open Misc Codec Events

variable (F : Type) [PyFloat F] [ScalarCodecs F] [Platform]

/-- `serialize_event` (`core/events/serialization.py:16-34`). -/
def serializeEvent (event : EventEnvelope F) : Json := dropMissing event ((envelope F).enc event)

/-- `deserialize_event` (`core/events/serialization.py:37-38`). -/
def deserializeEvent (wire : Json) : Option (EventEnvelope F) := (envelope F).dec wire

/-- `event_hash` (`core/events/serialization.py:41-42`). -/
def eventHash (event : EventEnvelope F) : Digest := Platform.sha256 (serializeEvent F event)

/-- The first schema's payloads: the members that five kinds got later are not written. -/
def schemaOnePayload : Payload F → Json
  | .featureUpdate update =>
    .obj [ ("entity", .str update.entity), ("feature_version", .str update.featureVersion),
      ("kind", .str "FEATURE_UPDATE"), ("values", (namedValue F).list.enc update.values) ]
  | .marketStateUpdate update =>
    .obj [ ("kind", .str "MARKET_STATE_UPDATE"), ("reasons", texts.enc update.reasons),
      ("state", .str update.state) ]
  | .signalIntent intent =>
    .obj [ ("alpha_id", .str intent.alphaId), ("instrument_id", .str intent.instrumentId),
      ("kind", .str "SIGNAL_INTENT"), ("reasons", texts.enc intent.reasons),
      ("side", side.enc intent.side), ("signal_id", (uuid F).enc intent.signalId) ]
  | .decision d =>
    .obj [ ("accepted", .bool d.accepted), ("decision_id", (uuid F).enc d.decisionId),
      ("intent_id", (uuid F).enc d.intentId), ("kind", .str d.kind.text),
      ("reasons", texts.enc d.reasons) ]
  | .health h =>
    .obj [ ("blocking", .bool h.blocking), ("component", .str h.component),
      ("kind", .str "HEALTH"), ("reason", .str h.reason), ("status", healthStatus.enc h.status) ]
  | payload => writePayload F payload

/-- An event as the first schema wrote it. -/
def schemaOneEvent (event : EventEnvelope F) : Json :=
  .obj [ ("correlation_id", (uuid F).enc event.correlationId),
    ("event_id", (uuid F).enc event.eventId), ("occurred_at", (instant F).enc event.occurredAt),
    ("payload", schemaOnePayload F event.payload),
    ("provenance", provenance.enc event.provenance),
    ("received_at", (instant F).enc event.receivedAt), ("schema_version", .num "1"),
    ("source", .str event.source) ]

variable {F}

/-- The payload has none of the details that came after the first schema. -/
def NoDetails : Payload F → Prop
  | .featureUpdate update => update.snapshot = none ∧ update.definition = none
  | .marketStateUpdate update => update.decision = none
  | .signalIntent intent => intent.score = none ∧ intent.evidence = none
  | .decision d => d.ensemble = none ∧ d.portfolio = none
  | .health h => h.alphaSnapshot = none
  | _ => True

variable (F)

/-- A canonical wire text of the first schema. -/
def IsSchemaOne (wire : Json) : Prop :=
  ∃ event : EventEnvelope F, (envelope F).Valid event ∧ NoDetails event.payload ∧
    wire = schemaOneEvent F event

variable {F}

/-- The payload as `serialize_event` leaves it, with what is absent left out. -/
def payloadDropped : Codec (Payload F) where
  enc payload := payload.dropped.foldl (fun (j : Json) name => j.without name)
    (writePayload F payload)
  dec := readPayload F
  Valid := ValidPayload F
  enc_ne_null payload := by
    obtain ⟨ms, hms⟩ := exists_writePayload_eq payload
    rw [hms, Record.foldl_without]
    exact Json.noConfusion
  dec_enc _ hvalid := readPayload_dropped hvalid fun _ => Payload.absent_of_mem_dropped

/-- Only the member of the payload differs from what `model_dump` writes. -/
theorem serializeEvent_eq (event : EventEnvelope F) :
    serializeEvent F event = (envelopeWith F payloadDropped).enc event := by
  simp [serializeEvent, dropMissing, envelope, envelopeWith, object, Record.enc, Json.mapMember,
    payload, payloadDropped]

theorem deserializeEvent_serializeEvent {event : EventEnvelope F}
    (hvalid : (envelope F).Valid event) :
    deserializeEvent F (serializeEvent F event) = some event := by
  rw [serializeEvent_eq]
  exact (envelopeWith F payloadDropped).dec_enc event hvalid

theorem foldl_without_dropped {payload : Payload F} (h : NoDetails payload) :
    payload.dropped.foldl (fun (j : Json) name => j.without name) (writePayload F payload) =
      schemaOnePayload F payload := by
  cases payload with
  | featureUpdate update =>
    have hdropped : (Payload.featureUpdate update).dropped = ["snapshot", "definition"] := by
      simp [Payload.dropped, h.1]
    rw [hdropped, writePayload, featureUpdate, schemaOnePayload]
    refine (object_enc_dropped update _).trans ?_
    simp [text]
  | marketStateUpdate update =>
    rw [NoDetails] at h
    have hdropped : (Payload.marketStateUpdate update).dropped = ["decision"] := by
      simp [Payload.dropped, h]
    rw [hdropped, writePayload, marketStateUpdate, schemaOnePayload]
    refine (object_enc_dropped update _).trans ?_
    simp [text]
  | signalIntent intent =>
    have hdropped : (Payload.signalIntent intent).dropped = ["score", "evidence"] := by
      simp [Payload.dropped, h.2]
    rw [hdropped, writePayload, signalIntent, schemaOnePayload]
    refine (object_enc_dropped intent _).trans ?_
    simp [text]
  | decision d =>
    have hdropped : (Payload.decision (F := F) d).dropped = ["ensemble", "portfolio"] := by
      simp [Payload.dropped, h.1, h.2]
    rw [hdropped, writePayload, decision, schemaOnePayload]
    refine (object_enc_dropped d _).trans ?_
    simp [flag, lenient, Codec.bool, decisionKind, tag, through, text]
  | health report =>
    rw [NoDetails] at h
    have hdropped : (Payload.health report).dropped = ["alpha_snapshot"] := by
      simp [Payload.dropped, h]
    rw [hdropped, writePayload, health, schemaOnePayload]
    refine (object_enc_dropped report _).trans ?_
    simp [flag, lenient, Codec.bool, text]
  | _ => rfl

theorem serializeEvent_of_noDetails {event : EventEnvelope F} (h : NoDetails event.payload) :
    serializeEvent F event = schemaOneEvent F event := by
  rw [serializeEvent_eq, schemaOneEvent, ← foldl_without_dropped h]
  rfl

/-- Deserializing gives back the event that was serialized, valid events have different texts,
    and a text of the first schema, which no later detail is in, is what its event is serialized
    as, so that its hash is still the hash of that text. -/
theorem serializeEvent_faithful :
    (∀ event : EventEnvelope F, (envelope F).Valid event →
      deserializeEvent F (serializeEvent F event) = some event) ∧
    (∀ event event' : EventEnvelope F, (envelope F).Valid event → (envelope F).Valid event' →
      serializeEvent F event = serializeEvent F event' → event = event') ∧
    ∀ wire, IsSchemaOne F wire → ∃ event, deserializeEvent F wire = some event ∧
      serializeEvent F event = wire ∧ eventHash F event = Platform.sha256 wire := by
  refine ⟨fun event => deserializeEvent_serializeEvent, ?_, ?_⟩
  · intro event event' hvalid hvalid' heq
    have hread := deserializeEvent_serializeEvent hvalid
    rw [heq, deserializeEvent_serializeEvent hvalid'] at hread
    exact (Option.some.inj hread).symm
  · rintro wire ⟨event, hvalid, hnone, rfl⟩
    have hwire := serializeEvent_of_noDetails hnone
    have hread := deserializeEvent_serializeEvent hvalid
    rw [hwire] at hread
    exact ⟨event, hread, hwire, congrArg Platform.sha256 hwire⟩

end Godzilla.Wire

/-! A feature event of the first schema. -/

namespace Godzilla.Wire.Sample
open Misc Events Godzilla.TextDigest

/-- The quotient of two integers. -/
def quotient : Codec ℚ :=
  Codec.int.two.through (fun x => (x.num, x.den)) (fun p => some (p.1 / p.2)) fun x => by
    simp [Rat.num_div_den]

/-- The numbers of identifiers. -/
def number : Codec Uuid :=
  (Codec.nat .int).through (fun id => id.val)
    (fun n => if h : n < 2 ^ 128 then some ⟨n, h⟩ else none) fun id => by simp

scoped instance scalars : ScalarCodecs ℚ where
  uuid := .spelled number (Uuid.ofNat 1) "00000000-0000-0000-0000-000000000001"
    fun _ => Json.noConfusion
  instant := .spelled .int 1789443960000000 "2026-09-15T03:46:00Z" fun _ => Json.noConfusion
  decimal := .spelled quotient (5 / 4) "1.25" fun _ => Json.noConfusion
  float := quotient
  laxBool _ := none
  laxInt _ := none
  uuid_valid _ := trivial
  instant_valid _ := trivial
  decimal_valid _ := ⟨trivial, trivial⟩
  float_valid _ _ := ⟨trivial, trivial⟩

/-- `"0" * 64`. -/
def configHash : Digest := .ofList (List.replicate 64 '0')

/-- The event of `test_legacy_feature_event_keeps_its_original_hash`. -/
def featureEvent : EventEnvelope ℚ where
  eventId := Uuid.ofNat 1
  correlationId := Uuid.ofNat 1
  occurredAt := 1789443960000000
  receivedAt := 1789443960000000
  source := "test-recording"
  provenance := ⟨"fixture-commit", configHash, "synthetic-opening-v1", "not-applicable"⟩
  payload := .featureUpdate {
    entity := "DEMO"
    featureVersion := "v1"
    values := [⟨"x", 5 / 4⟩]
    together := by simp
    identity := fun s hs => by simp at hs
    values_agree := fun s hs => by simp at hs }
  received_after := le_refl _
  causal_times := fun s hs => by simp at hs

/-- The text that the test starts from. -/
def original : Json :=
  .obj [ ("correlation_id", .str "00000000-0000-0000-0000-000000000001"),
    ("event_id", .str "00000000-0000-0000-0000-000000000001"),
    ("occurred_at", .str "2026-09-15T03:46:00Z"),
    ("payload", .obj [ ("entity", .str "DEMO"), ("feature_version", .str "v1"),
      ("kind", .str "FEATURE_UPDATE"),
      ("values", .arr [.obj [("name", .str "x"), ("value", .str "1.25")]]) ]),
    ("provenance", .obj [ ("code_commit", .str "fixture-commit"), ("config_hash", .str configHash),
      ("data_snapshot", .str "synthetic-opening-v1"), ("feature_version", .str "not-applicable") ]),
    ("received_at", .str "2026-09-15T03:46:00Z"), ("schema_version", .num "1"),
    ("source", .str "test-recording") ]

theorem original_eq : original = schemaOneEvent ℚ featureEvent := by
  have hvalue : (namedValue ℚ).enc ⟨"x", 5 / 4⟩ = .obj [("name", .str "x"), ("value", .str "1.25")] :=
    congrArg (fun value => Json.obj [("name", .str "x"), ("value", value)]) (if_pos rfl)
  have hprovenance : provenance.enc featureEvent.provenance =
      .obj [ ("code_commit", .str "fixture-commit"), ("config_hash", .str configHash),
        ("data_snapshot", .str "synthetic-opening-v1"),
        ("feature_version", .str "not-applicable") ] := rfl
  have hid : (uuid ℚ).enc (Uuid.ofNat 1) = .str "00000000-0000-0000-0000-000000000001" := rfl
  have hinstant : (instant ℚ).enc 1789443960000000 = .str "2026-09-15T03:46:00Z" := rfl
  rw [original, schemaOneEvent, hprovenance]
  simp [schemaOnePayload, featureEvent, Codec.list, hvalue, hid, hinstant]

theorem configHash_isHexDigest : IsHexDigest configHash := by
  have hchars : configHash.toList = List.replicate 64 '0' := String.toList_ofList
  constructor
  · rw [hchars, List.length_replicate]
  · intro c hc
    rw [hchars] at hc
    rw [List.eq_of_mem_replicate hc]
    simp

theorem featurePayload_valid : ValidPayload ℚ featureEvent.payload := by
  have hvalue : (namedValue ℚ).Valid ⟨"x", 5 / 4⟩ := ⟨⟨trivial, by simp⟩, decimal_valid ℚ _, trivial⟩
  refine ⟨?_, trivial, trivial, trivial, ?_, ?_, trivial⟩
  · intro definition hdefinition
    cases hdefinition
  · intro snapshot hsnapshot
    cases hsnapshot
  · intro value hmem
    rw [List.mem_singleton.mp hmem]
    exact hvalue

theorem featureEvent_valid : (envelope ℚ).Valid featureEvent := by
  have hprovenance : provenance.Valid featureEvent.provenance :=
    ⟨⟨trivial, by simp [featureEvent]⟩, ⟨trivial, configHash_isHexDigest⟩,
      ⟨trivial, by simp [featureEvent]⟩, ⟨trivial, by simp [featureEvent]⟩, trivial⟩
  exact ⟨uuid_valid ℚ featureEvent.correlationId, uuid_valid ℚ featureEvent.eventId,
    instant_valid ℚ featureEvent.occurredAt, featurePayload_valid, hprovenance,
    instant_valid ℚ featureEvent.receivedAt, trivial, ⟨trivial, by simp [featureEvent]⟩, trivial⟩

/-- The same event from another source. -/
def otherEvent : EventEnvelope ℚ := { featureEvent with source := "other-recording" }

theorem otherEvent_valid : (envelope ℚ).Valid otherEvent := by
  obtain ⟨hcorrelation, hevent, hoccurred, hpayload, hprovenance, hreceived, hschema, -, -⟩ :=
    featureEvent_valid
  exact ⟨hcorrelation, hevent, hoccurred, hpayload, hprovenance, hreceived, hschema,
    ⟨trivial, by simp [otherEvent]⟩, trivial⟩

theorem serializeEvent_faithful_feature :
    deserializeEvent ℚ (serializeEvent ℚ featureEvent) = some featureEvent ∧
    serializeEvent ℚ featureEvent ≠ serializeEvent ℚ otherEvent ∧
    ∃ event, deserializeEvent ℚ original = some event ∧ serializeEvent ℚ event = original ∧
      eventHash ℚ event = Json.text original := by
  obtain ⟨hround, hinjective, hfirst⟩ := serializeEvent_faithful (F := ℚ)
  refine ⟨hround featureEvent featureEvent_valid, fun heq => ?_, ?_⟩
  · have hevents := hinjective _ _ featureEvent_valid otherEvent_valid heq
    simpa [featureEvent, otherEvent] using congrArg EventEnvelope.source hevents
  · exact hfirst original ⟨featureEvent, featureEvent_valid, ⟨rfl, rfl⟩, original_eq⟩

end Godzilla.Wire.Sample
