import Godzilla.Core.Events.Serialization

/-!
# The digest identifies the event

`serialize_event` drops optional members that are absent, so its text is shorter
than the dump it comes from. Nothing is lost: the kind of the payload, which is
never dropped, says which members are missing, and a missing member is absent.
-/

namespace Godzilla.Events
open Godzilla Alphas Ensemble Features MarketState Portfolio Misc

variable {F : Type} [PyFloat F] [Platform]

/-- The payload as `serialize_event` writes it. -/
def Payload.wire (payload : Payload F) : Json :=
  payload.dropped.foldl (fun j name => j.without name) payload.dump

theorem serializeEvent_eq (event : EventEnvelope F) :
    serializeEvent event = .obj [ ("event_id", Platform.modelDump event.eventId),
      ("correlation_id", Platform.modelDump event.correlationId),
      ("occurred_at", Platform.modelDump event.occurredAt),
      ("received_at", Platform.modelDump event.receivedAt), ("source", .str event.source),
      ("schema_version", .num "1"), ("provenance", event.provenance.dump),
      ("payload", event.payload.wire) ] := by
  simp [serializeEvent, dropMissing, EventEnvelope.dump, Json.mapMember, Payload.wire]

/-- An object with the given members, taken from `json` or else from the defaults. -/
def fill (json : Json) (members : List (String × Json)) : Json :=
  .obj (members.map fun m => (m.1, (json.get? m.1).getD m.2))

variable (F) in
/-- The dump of a payload from what is written of it: a missing member is the dump of `None`.
    A member that is always written has any value as its default. -/
def restore (kind : String) (json : Json) : Json :=
  if kind = "FEATURE_UPDATE" then
    fill json [ ("kind", .null), ("entity", .null), ("feature_version", .null), ("values", .null),
      ("snapshot", Platform.modelDump (none : Option (Features.FeatureSnapshot F))),
      ("definition", Platform.modelDump (none : Option (Features.FeatureSetVersion F))) ]
  else if kind = "MARKET_STATE_UPDATE" then
    fill json [ ("kind", .null), ("state", .null), ("reasons", .null),
      ("decision", Platform.modelDump (none : Option (MarketState.StateDecision F))) ]
  else if kind = "SIGNAL_INTENT" then
    fill json [ ("kind", .null), ("signal_id", .null), ("instrument_id", .null),
      ("alpha_id", .null), ("side", .null), ("reasons", .null),
      ("score", Platform.modelDump (none : Option F)),
      ("evidence", Platform.modelDump (none : Option (SignalEvidence F))) ]
  else if kind ∈ ["ENSEMBLE_DECISION", "PORTFOLIO_DECISION", "RISK_DECISION"] then
    fill json [ ("kind", .null), ("decision_id", .null), ("intent_id", .null),
      ("accepted", .null), ("reasons", .null),
      ("ensemble", Platform.modelDump (none : Option EnsembleDecision)),
      ("portfolio", Platform.modelDump (none : Option PortfolioDecision)) ]
  else if kind = "HEALTH" then
    fill json [ ("kind", .null), ("component", .null), ("status", .null), ("blocking", .null),
      ("reason", .null),
      ("alpha_snapshot", Platform.modelDump (none : Option (Ensemble.AlphaHealthSnapshot F))) ]
  else json

/-- The kinds of payloads with members that may be dropped. -/
def droppingKinds : List String :=
  ["FEATURE_UPDATE", "MARKET_STATE_UPDATE", "SIGNAL_INTENT", "ENSEMBLE_DECISION",
    "PORTFOLIO_DECISION", "RISK_DECISION", "HEALTH"]

/-- A payload of another kind is written as it is dumped. -/
theorem restore_wire_of_not_dropped {payload : Payload F} (hkind : payload.kind ∉ droppingKinds)
    (hdropped : payload.dropped = []) : restore F payload.kind payload.wire = payload.dump := by
  simp only [droppingKinds, List.mem_cons, List.not_mem_nil, or_false, not_or] at hkind
  obtain ⟨h₁, h₂, h₃, h₄, h₅, h₆, h₇⟩ := hkind
  rw [restore, if_neg h₁, if_neg h₂, if_neg h₃, if_neg (by simp [h₄, h₅, h₆]), if_neg h₇,
    Payload.wire, hdropped, List.foldl_nil]

/-- Filling in what was dropped gives the dump back. -/
theorem restore_wire (payload : Payload F) :
    restore F payload.kind payload.wire = payload.dump := by
  cases payload with
  | featureUpdate u =>
    rw [restore, if_pos (by rfl), Payload.wire, Payload.dropped, Payload.dump]
    cases hs : u.snapshot with
    | none => rw [u.together.mp hs]; rfl
    | some s => rfl
  | marketStateUpdate u =>
    rw [restore, if_neg (by simp [Payload.kind]), if_pos (by rfl), Payload.wire, Payload.dropped,
      Payload.dump]
    cases u.decision <;> rfl
  | signalIntent i =>
    rw [restore, if_neg (by simp [Payload.kind]), if_neg (by simp [Payload.kind]),
      if_pos (by rfl), Payload.wire, Payload.dropped, Payload.dump]
    cases he : i.evidence with
    | none => rw [i.consistent.2.1.mpr he]; rfl
    | some e => rfl
  | decision d =>
    have hkind : (Payload.decision (F := F) d).kind ≠ "FEATURE_UPDATE" ∧
        (Payload.decision (F := F) d).kind ≠ "MARKET_STATE_UPDATE" ∧
        (Payload.decision (F := F) d).kind ≠ "SIGNAL_INTENT" ∧
        (Payload.decision (F := F) d).kind ∈
          ["ENSEMBLE_DECISION", "PORTFOLIO_DECISION", "RISK_DECISION"] := by
      rw [Payload.kind]
      cases d.kind <;> decide
    rw [restore, if_neg hkind.1, if_neg hkind.2.1, if_neg hkind.2.2.1, if_pos hkind.2.2.2,
      Payload.wire, Payload.dropped, Payload.dump]
    cases d.ensemble <;> cases d.portfolio <;> rfl
  | health h =>
    rw [restore, if_neg (by simp [Payload.kind]), if_neg (by simp [Payload.kind]),
      if_neg (by simp [Payload.kind]), if_neg (by simp [Payload.kind]), if_pos (by rfl),
      Payload.wire, Payload.dropped, Payload.dump]
    cases h.alphaSnapshot <;> rfl
  | orderEvent o =>
    have hkind : o.kind.text ∉ droppingKinds := by cases o.kind <;> decide
    exact restore_wire_of_not_dropped hkind rfl
  | _ => exact restore_wire_of_not_dropped (by simp [Payload.kind, droppingKinds]) rfl

/-- The kind of a payload is never dropped. -/
theorem wire_get?_kind (payload : Payload F) :
    payload.wire.get? "kind" = payload.dump.get? "kind" := by
  have hwithout : ∀ (names : List String) (j : Json), "kind" ∉ names →
      (names.foldl (fun j name => j.without name) j).get? "kind" = j.get? "kind" := by
    intro names
    induction names with
    | nil => intro j _; rfl
    | cons name names ih =>
      intro j h
      rw [List.mem_cons, not_or] at h
      rw [List.foldl_cons, ih _ h.2, Json.get?_without_of_ne h.1]
  refine hwithout _ _ ?_
  cases payload with
  | featureUpdate u => cases hs : u.snapshot <;> simp [Payload.dropped, hs]
  | marketStateUpdate u => cases hd : u.decision <;> simp [Payload.dropped, hd]
  | signalIntent i => cases he : i.evidence <;> simp [Payload.dropped, he]
  | decision d =>
    cases he : d.ensemble <;> cases hp : d.portfolio <;> simp [Payload.dropped, he, hp]
  | health h => cases ha : h.alphaSnapshot <;> simp [Payload.dropped, ha]
  | _ => simp [Payload.dropped]

/-- The dump names the kind of its payload. -/
def EventEnvelope.DumpsKind (event : EventEnvelope F) : Prop :=
  event.payload.dump.get? "kind" = some (.str event.payload.kind)

/-- Events that are written alike have the same dump. -/
theorem dump_eq_of_serializeEvent_eq {event event' : EventEnvelope F} (hkind : event.DumpsKind)
    (hkind' : event'.DumpsKind) (h : serializeEvent event = serializeEvent event') :
    event.dump = event'.dump := by
  rw [serializeEvent_eq, serializeEvent_eq] at h
  simp only [Json.obj.injEq, List.cons.injEq, Prod.mk.injEq, true_and, and_true] at h
  obtain ⟨hid, hcorrelation, hoccurred, hreceived, hsource, hprovenance, hwire⟩ := h
  have hkinds : event.payload.kind = event'.payload.kind := by
    have hget := congrArg (fun j => j.get? "kind") hwire
    simp only [wire_get?_kind] at hget
    rw [hkind, hkind'] at hget
    simpa using hget
  have hpayload : event.payload.dump = event'.payload.dump := by
    rw [← restore_wire, ← restore_wire event'.payload, hkinds, hwire]
  simp only [EventEnvelope.dump, hid, hcorrelation, hoccurred, hreceived, hsource, hprovenance,
    hpayload]

/-- The digest identifies the event among events that name their kind and that validating
    their dump gives back. -/
theorem eq_of_eventHash_eq (hinjective : Function.Injective (Platform.sha256 : Json → Digest))
    {validate : Json → Except PyError (EventEnvelope F)} {event event' : EventEnvelope F}
    (hkind : event.DumpsKind) (hkind' : event'.DumpsKind)
    (hround : validate event.dump = .ok event) (hround' : validate event'.dump = .ok event')
    (h : eventHash event = eventHash event') : event = event' := by
  have hdump := dump_eq_of_serializeEvent_eq hkind hkind' (hinjective h)
  rw [hdump, hround', Except.ok.injEq] at hround
  exact hround.symm

end Godzilla.Events
