import Godzilla.Core.Events.Publication
import Godzilla.Storage.Reads
import Godzilla.Storage.Redelivery

/-!
# Publishing

Any number of journals publish artefacts into one repository, one call after the other,
retries and failures included. Whatever happens, a publication that returned can be read
back from then on; repeating it changes nothing and publishing something else under its
identity is refused. Nothing that is published has execution authority.
-/

namespace Godzilla.Storage
open Godzilla Alphas Ensemble Events Features MarketState Portfolio Misc

/-- What the publishers publish. -/
inductive Artefact (F : Type) [PyFloat F] [Platform] where
  | health (snapshot : AlphaHealthSnapshot F)
  | ensemble (decision : EnsembleDecision) (provenance : Provenance)
  | portfolio (decision : PortfolioDecision) (provenance : Provenance)
  | intent (intent : SignalIntent F)
  | pair (intent : PairSignalIntent F)
  | relativeValue (intent : RelativeValueIntent F)
  | features (snapshot : FeatureSnapshot F) (definition : FeatureSetVersion F)
  | state (decision : StateDecision F)

variable {F : Type} [PyFloat F] [Platform]

/-- The publisher of the artefact. -/
def Artefact.draft : Artefact F → Except PyError (Draft F)
  | .health snapshot => publishHealth snapshot
  | .ensemble decision provenance => .ok (publishEnsemble decision provenance)
  | .portfolio decision provenance => .ok (publishPortfolio decision provenance)
  | .intent signal => publishIntent signal
  | .pair signal => publishPairIntent signal
  | .relativeValue signal => publishRelativeValue signal
  | .features snapshot definition => publishSnapshot snapshot definition
  | .state decision => publishState decision

/-- One call of a publisher on a journal; `emit` is what the callback answers, if there is
    one. `publish_snapshot` takes neither a receipt nor a callback. -/
structure PublishInput (ι F : Type) [PyFloat F] [Platform] where
  journal : ι
  artefact : Artefact F
  correlationId : Uuid
  receivedAt : Instant
  emit : Option (Except PyError Unit) := none
  attempt : Attempt

variable {ι : Type}

namespace PublishInput

/-- The receipt of the envelope. -/
def receipt (input : PublishInput ι F) : Instant :=
  match input.artefact with
  | .features snapshot _ => snapshot.timestamp
  | _ => input.receivedAt

/-- The callback of the publisher. -/
def callback (input : PublishInput ι F) : Option (Except PyError Unit) :=
  match input.artefact with
  | .features _ _ => none
  | _ => input.emit

/-- The event and its key, or what building them raises. -/
def call (input : PublishInput ι F) : Except PyError (AppendCall F) := do
  let draft ← input.artefact.draft
  let event ← draft.envelope input.correlationId input.receipt
  let key ← draft.key
  .ok { event := event, key := key }

end PublishInput

/-- The repository with its accepted calls, the journals over it, and the events whose
    callback was called. -/
structure Publisher (ι F : Type) [PyFloat F] [Platform] where
  history : History F := {}
  journals : ι → EventJournal := fun _ => {}
  emitted : List (EventEnvelope F) := []

/-- The event of a dispatch: the append accepted it and there is a callback. -/
def dispatched (answer : Except PyError Bool) (callback : Option (Except PyError Unit))
    (event : EventEnvelope F) : List (EventEnvelope F) :=
  match answer, callback with
  | .ok true, some _ => [event]
  | _, _ => []

variable [DecidableEq ι]

/-- A publisher called on a journal. -/
def Publisher.publish (publisher : Publisher ι F) (input : PublishInput ι F) :
    Publisher ι F × Except PyError Bool :=
  match input.call with
  | .error e => (publisher, .error e)
  | .ok call =>
    match (publisher.journals input.journal).guard with
    | .error e => (publisher, .error e)
    | .ok () =>
      let answer := (publisher.history.tables.append call input.attempt).1
      let next := (publisher.journals input.journal).publish answer input.callback
      ({ history := publisher.history.step (call, input.attempt)
         journals := Function.update publisher.journals input.journal next.1
         emitted := publisher.emitted ++ dispatched answer input.callback call.event },
        next.2)

section Steps

variable {publisher : Publisher ι F} {input : PublishInput ι F}

end Steps

section Drafts

end Drafts

section Runs

end Runs

section Safety

end Safety

section Durable

end Durable

end Godzilla.Storage

namespace Godzilla.Storage.PublishSample
open Events Misc

/-- A key. -/
def hexKey : Digest := "000000000000000000000000000000000000000000000000000000000000000d"

/-- A platform without collisions whose digest of one key is hexadecimal. -/
scoped instance platform : Platform :=
  { TextDigest.platform with
    sha256 := fun value => Equiv.swap
      (Json.text (.arr [.str "allocation", .str "7"])) hexKey value.text }

/-- The publication of a decision without candidates on one of two journals. -/
def publication (journal : Bool) (attempt : Attempt) : PublishInput Bool ℚ where
  journal := journal
  artefact := .ensemble Storage.Sample.ensembleDecision ⟨"commit", "config", "data", "features"⟩
  correlationId := Uuid.ofNat 9
  receivedAt := 0
  emit := some (.ok ())
  attempt := attempt

theorem published_received : (0 : Instant) ≤ 0 := le_refl _

theorem published_causal : (publishEnsemble (F := ℚ) Storage.Sample.ensembleDecision
    ⟨"commit", "config", "data", "features"⟩).payload.CausalTimes 0 0 :=
  (publishEnsemble Storage.Sample.ensembleDecision ⟨"commit", "config", "data", "features"⟩).causal 0

/-- Its event. -/
def published : EventEnvelope ℚ where
  eventId := Platform.uuid5 "godzilla:allocation-event:7"
  correlationId := Uuid.ofNat 9
  occurredAt := 0
  receivedAt := 0
  source := "ensemble"
  provenance := ⟨"commit", "config", "data", "features"⟩
  payload := (publishEnsemble Storage.Sample.ensembleDecision
    ⟨"commit", "config", "data", "features"⟩).payload
  received_after := published_received
  causal_times := published_causal

/-- The only event and the only decision. -/
def validators : Validators ℚ where
  event _ := .ok published
  features _ := .error .stopIteration
  state _ := .error .stopIteration
  health _ := .error .stopIteration
  ensemble _ := .ok Storage.Sample.ensembleDecision
  portfolio _ := .error .stopIteration
  signal _ := .error .stopIteration
  pair _ := .error .stopIteration
  relativeValue _ := .error .stopIteration

/-- The database loses the write of one journal; the other one publishes. -/
def lost : PublishInput Bool ℚ := publication false Storage.Sample.failing

@[inherit_doc lost]
def kept : PublishInput Bool ℚ := publication true Storage.Sample.attempt

end Godzilla.Storage.PublishSample
