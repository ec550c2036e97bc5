import Godzilla.Storage.Projections

/-!
# Reading the projections

The getters of `PostgresRepository` (`storage/postgres.py:370-451`). Each looks a row up
under its key, validates the payload and compares it with the event the row names. After
every run they answer from the accepted events: with the artefact that was appended under
the key, with nothing when none was, and never with an integrity failure.
-/

namespace Godzilla.Events
open Godzilla Alphas Ensemble Features MarketState Portfolio

variable {F : Type} [PyFloat F] [Platform]

namespace EventEnvelope

/-- The health snapshot an event carries. -/
def healthSnapshot (event : EventEnvelope F) : Option (AlphaHealthSnapshot F) :=
  match event.payload with
  | .health h => h.alphaSnapshot
  | _ => none

/-- The ensemble decision an event carries. -/
def ensembleDecision (event : EventEnvelope F) : Option EnsembleDecision :=
  match event.payload with
  | .decision d => d.ensemble
  | _ => none

/-- The portfolio decision an event carries. -/
def portfolioDecision (event : EventEnvelope F) : Option PortfolioDecision :=
  match event.payload with
  | .decision d => d.portfolio
  | _ => none

/-- The state decision an event carries. -/
def stateDecision (event : EventEnvelope F) : Option (StateDecision F) :=
  match event.payload with
  | .marketStateUpdate update => update.decision
  | _ => none

/-- The feature snapshot an event carries. -/
def featureSnapshot (event : EventEnvelope F) : Option (FeatureSnapshot F) :=
  match event.payload with
  | .featureUpdate update => update.snapshot
  | _ => none

end EventEnvelope

/-- A payload that is an intent of one of the alphas. -/
def Payload.intent : Payload F → Option (AlphaIntent F)
  | .relativeValueIntent rv => some (.relativeValue rv)
  | .pairSignalIntent pair => some (.pair pair)
  | .signalIntent intent => some (.signal intent)
  | _ => none

/-- The scored intent an event carries. -/
def EventEnvelope.scoredIntent (event : EventEnvelope F) : Option (AlphaIntent F) :=
  event.payload.intent.filter fun intent =>
    match intent with
    | .signal signal => signal.evidence.isSome
    | _ => true

end Godzilla.Events

namespace Godzilla.Storage
open Godzilla Alphas Ensemble Events Features MarketState Portfolio Misc

variable {F : Type} [PyFloat F] [Platform]

/-- `model_validate` of the models that are read back. -/
structure Validators (F : Type) [PyFloat F] [Platform] where
  event : Json → Except PyError (EventEnvelope F)
  features : Json → Except PyError (FeatureSnapshot F)
  state : Json → Except PyError (StateDecision F)
  health : Json → Except PyError (AlphaHealthSnapshot F)
  ensemble : Json → Except PyError EnsembleDecision
  portfolio : Json → Except PyError PortfolioDecision
  signal : Json → Except PyError (SignalIntent F)
  pair : Json → Except PyError (PairSignalIntent F)
  relativeValue : Json → Except PyError (RelativeValueIntent F)

/-- The model of an intent is chosen by its kind (`storage/postgres.py:397-403`). -/
def Validators.intent (validators : Validators F) (payload : Json) :
    Except PyError (AlphaIntent F) :=
  if payload.get? "kind" = some (.str "RELATIVE_VALUE_INTENT") then
    (validators.relativeValue payload).map .relativeValue
  else if payload.get? "kind" = some (.str "PAIR_SIGNAL_INTENT") then
    (validators.pair payload).map .pair
  else (validators.signal payload).map .signal

namespace Tables

/-- `next((e.payload for e in self.read_events() if e.event_id == row.event_id), None)`. -/
def original (tables : Tables F) (validators : Validators F) (eventId : Uuid) :
    Except PyError (Option (Payload F)) := do
  let events ← tables.readEvents validators.event
  .ok ((events.find? (·.eventId == eventId)).map (·.payload))

end Tables

/-- What pydantic documents of the models: the dump of an intent carries its kind and
    validates to the intent. -/
def Validators.ReadsIntent (validators : Validators F) : AlphaIntent F → Prop
  | .signal intent => (Platform.modelDump intent).get? "kind" = some (.str "SIGNAL_INTENT") ∧
      validators.signal (Platform.modelDump intent) = .ok intent
  | .pair intent => (Platform.modelDump intent).get? "kind" = some (.str "PAIR_SIGNAL_INTENT") ∧
      validators.pair (Platform.modelDump intent) = .ok intent
  | .relativeValue intent =>
      (Platform.modelDump intent).get? "kind" = some (.str "RELATIVE_VALUE_INTENT") ∧
      validators.relativeValue (Platform.modelDump intent) = .ok intent

/-- The dumps of an event and of what it carries validate to what was dumped. -/
structure Validators.Reads (validators : Validators F) (event : EventEnvelope F) : Prop where
  envelope : validators.event event.dump = .ok event
  features : ∀ value, event.featureSnapshot = some value →
    validators.features (Platform.modelDump value) = .ok value
  state : ∀ value, event.stateDecision = some value →
    validators.state (Platform.modelDump value) = .ok value
  health : ∀ value, event.healthSnapshot = some value →
    validators.health (Platform.modelDump value) = .ok value
  ensemble : ∀ value, event.ensembleDecision = some value →
    validators.ensemble (Platform.modelDump value) = .ok value
  portfolio : ∀ value, event.portfolioDecision = some value →
    validators.portfolio (Platform.modelDump value) = .ok value
  intent : ∀ value, event.scoredIntent = some value → validators.ReadsIntent value

/-- `model_dump` of an intent. -/
def dumpIntent : AlphaIntent F → Json
  | .signal intent => Platform.modelDump intent
  | .pair intent => Platform.modelDump intent
  | .relativeValue intent => Platform.modelDump intent

theorem Validators.ReadsIntent.valid {validators : Validators F} {intent : AlphaIntent F}
    (h : validators.ReadsIntent intent) : validators.intent (dumpIntent intent) = .ok intent := by
  unfold Validators.intent dumpIntent
  cases intent with
  | signal intent =>
    obtain ⟨hkind, hvalid⟩ := h
    simp [hkind, hvalid, Except.map]
  | pair intent =>
    obtain ⟨hkind, hvalid⟩ := h
    simp [hkind, hvalid, Except.map]
  | relativeValue intent =>
    obtain ⟨hkind, hvalid⟩ := h
    simp [hkind, hvalid, Except.map]

section Rows

variable (event : EventEnvelope F)

end Rows

section Getters

variable {repository : Repository F} {validators : Validators F}

/-- What a repository's own log gives a getter to compare with. -/
structure Logged (validators : Validators F) (repository : Repository F) : Prop where
  projected : Projected repository.accepted repository.tables.projections
  read : repository.tables.readEvents validators.event = .ok repository.accepted
  ids : (repository.accepted.map (·.eventId)).Nodup
  reads : ∀ event ∈ repository.accepted, validators.Reads event

/-- The event a row names is the one it was projected from. -/
theorem Logged.original_eq (h : Logged validators repository) {event : EventEnvelope F}
    (hevent : event ∈ repository.accepted) :
    repository.tables.original validators event.eventId = .ok (some event.payload) := by
  unfold Tables.original
  rw [h.read]
  show Except.ok _ = _
  rw [find?_key_self h.ids hevent, Option.map_some]

variable (h : Logged validators repository)
include h

end Getters

end Godzilla.Storage

namespace Godzilla.Storage.Sample
open Alphas Ensemble Events Portfolio Godzilla.Sample

/-- An ensemble decision without candidates. -/
def ensembleDecision : EnsembleDecision where
  decisionId := Uuid.ofNat 7
  timestamp := 0
  candidates := []
  rejected := []
  reasons := ["BLOCKED"]
  inputHash := "input"

end Godzilla.Storage.Sample
