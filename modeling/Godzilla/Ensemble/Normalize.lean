import Godzilla.Core.Events.Models
import Godzilla.Misc.Dict
import Godzilla.Misc.Sorted
import Godzilla.Universe.Builder
import Mathlib.Data.String.Basic

/-!
# Normalisation of intents

`normalize_intents` (`ensemble/normalize.py`): the adapters of the five alphas, the
eligibility of every leg, the conflicts between opposite directions and the selection
among bundles that share a security. Errors of a bundle become its rejection; a decimal
signal is no `ValueError` and leaves the function. The comparison of two intents under
one signal id is that of the instance.
-/

namespace Godzilla.Ensemble
open Godzilla Misc Alphas Events Features MarketData MarketState Portfolio Universe

variable {F : Type} [PyFloat F] [Platform]

/-- `AlphaIntent` (`ensemble/normalize.py:19`). -/
inductive AlphaIntent (F : Type) [PyFloat F] [Platform] where
  | signal (intent : SignalIntent F)
  | pair (intent : PairSignalIntent F)
  | relativeValue (intent : RelativeValueIntent F)

/-- What the adapters read of an intent (`ensemble/normalize.py:79-116`). -/
structure Adapted (F : Type) where
  timestamp : Instant
  score : F
  tokens : List (String × ℚ)
  provenance : String × Digest × String
  universeHash : Digest
  stateHash : Digest

/-- `1 if x.side == "LONG" else -1`, as a weight. -/
def sideWeight : Side → ℚ
  | .long => 1
  | .short => -1

namespace AlphaIntent

/-- `intent.signal_id`. -/
def signalId : AlphaIntent F → Uuid
  | signal intent => intent.signalId
  | pair intent => intent.signalId
  | relativeValue intent => intent.signalId

/-- `intent.alpha_id`. -/
def alphaId : AlphaIntent F → String
  | signal intent => intent.alphaId
  | pair _ => pairsAlphaId
  | relativeValue _ => relativeValueAlphaId

/-- `content_hash(intent)`. -/
def hash : AlphaIntent F → Digest
  | signal intent => contentHash intent
  | pair intent => contentHash intent
  | relativeValue intent => contentHash intent

/-- The adapter of a scored signal (`ensemble/normalize.py:79-92`). -/
def adaptSignal (master : InstrumentMasterSnapshot) (intent : SignalIntent F) :
    Except PyError (Adapted F) :=
  match intent.evidence, intent.score with
  | some detail, some score =>
    if detail.instrumentMasterHash ≠ contentHash master then
      .error (.valueError "master mismatch")
    else
      .ok
        { timestamp := detail.timestamp
          score := score
          tokens := [(intent.instrumentId, sideWeight intent.side)]
          provenance := detail.provenance
          universeHash := detail.universeHash
          stateHash := detail.stateHash }
  | _, _ => .error (.valueError "scored evidence required")

/-- The adapter of a pair (`ensemble/normalize.py:94-98,103-111`). -/
def adaptPair (intent : PairSignalIntent F) : Except PyError (Adapted F) :=
  if intent.action ≠ .enter then .error (.valueError "exit intents are not new allocations")
  else
    .ok
      { timestamp := intent.timestamp
        score := min 1 (PyFloat.abs intent.riskReference.currentZ / intent.settings.stopZ)
        tokens := [intent.legs.1, intent.legs.2].map fun leg =>
          (leg.instrumentId, PyFloat.toDecimal leg.grossFraction * sideWeight leg.side)
        provenance := (intent.codeCommit, intent.configHash, intent.dataSnapshot)
        universeHash := intent.universeHash
        stateHash := intent.stateHash }

/-- The adapter of a relative-value basket (`ensemble/normalize.py:94,99-111`). -/
def adaptRelativeValue (master : InstrumentMasterSnapshot) (intent : RelativeValueIntent F) :
    Except PyError (Adapted F) :=
  if intent.masterHash ≠ contentHash master then .error (.valueError "master mismatch")
  else
    .ok
      { timestamp := intent.timestamp
        score := intent.score
        tokens := intent.legs.map fun leg =>
          (leg.instrumentId, PyFloat.toDecimal leg.grossFraction * sideWeight leg.side)
        provenance := (intent.codeCommit, intent.configHash, intent.dataSnapshot)
        universeHash := intent.universeHash
        stateHash := intent.stateHash }

/-- The adapter of an intent (`ensemble/normalize.py:79-111`). -/
def adapt (master : InstrumentMasterSnapshot) : AlphaIntent F → Except PyError (Adapted F)
  | signal intent => adaptSignal master intent
  | pair intent => adaptPair intent
  | relativeValue intent => adaptRelativeValue master intent

end AlphaIntent

/-- `_Inputs` (`ensemble/normalize.py:22-27`). -/
structure NormalizeInputs (F : Type) [PyFloat F] [Platform] where
  intents : List (AlphaIntent F)
  registry : AlphaRegistry F
  master : InstrumentMasterSnapshot
  universeSnapshot : UniverseSnapshot
  state : StateDecision F

/-- `{i.token: i for i in master.instruments}`. -/
def instrumentsByToken (master : InstrumentMasterSnapshot) : Dict String Instrument :=
  Dict.index (·.token) master.instruments

/-- `max(0, min(1, ...))` of a score in the range of its registration, as a `Decimal`
    (`ensemble/normalize.py:145-156`). -/
def strengthOf (registration : AlphaRegistration F) (score : F) : ℚ :=
  PyFloat.toDecimal (max 0 (min 1 ((score - registration.scoreFloor) /
    (registration.scoreCeiling - registration.scoreFloor))))

omit [Platform] in
theorem strengthOf_range (registration : AlphaRegistration F) (score : F) :
    0 ≤ strengthOf registration score ∧ strengthOf registration score ≤ 1 := by
  exact ⟨PyFloat.toDecimal_nonneg (le_max_left _ _),
    PyFloat.toDecimal_le_one (max_le PyFloat.zero_le_one (min_le_left _ _))⟩

namespace NormalizeInputs

variable (inputs : NormalizeInputs F) (now : Instant)

/-- `at.astimezone(ZoneInfo("Asia/Kolkata")).date()`. -/
def day (now : Instant) : Date := kolkata.localDate now

/-- The condition under which the metadata blocks everything
    (`ensemble/normalize.py:61-70`). -/
def metadataUnavailable : Prop :=
  inputs.master.asOf ≠ day now ∨ inputs.universeSnapshot.asOf ≠ day now ∨
  now < inputs.master.generatedAt ∨ now < inputs.universeSnapshot.generatedAt ∨
  inputs.universeSnapshot.instrumentSnapshotId ≠ inputs.master.snapshotId ∨
  (instrumentsByToken inputs.master).size ≠ inputs.master.instruments.length ∨
  ((instrumentsByToken inputs.master).values.map securityId).dedup.length ≠
    (instrumentsByToken inputs.master).size ∨
  inputs.state.timestamp ≠ now

instance : Decidable (inputs.metadataUnavailable now) := inferInstanceAs (Decidable (_ ∨ _))

/-- The instrument of a leg (`ensemble/normalize.py:122-136`). -/
def eligibleInstrument (token : String) (weight : ℚ) : Except PyError Instrument :=
  match (instrumentsByToken inputs.master).get? token with
  | none => .error (.keyError (Platform.reprStr token))
  | some instrument =>
    if token ∉ inputs.universeSnapshot.longTokens ∨ ¬ instrument.Eligible (day now) ∨
        (weight < 0 ∧
          (token ∉ inputs.universeSnapshot.shortTokens ∨ instrument.foEligible = false)) then
      .error (.valueError "ineligible leg")
    else .ok instrument

/-- A leg with its part of the gross weight (`ensemble/normalize.py:122-144`). -/
def candidateLeg (total : ℚ) (item : String × ℚ) : Except PyError CandidateLeg := do
  let instrument ← inputs.eligibleInstrument now item.1 item.2
  if total = 0 then .error (.arithmeticError "[<class 'decimal.DivisionUndefined'>]")
  else
    .ok
      { entityId := securityId instrument
        instrumentId := item.1
        sector := instrument.sector
        signedWeight := item.2 / total }

/-- Whether an adapted intent is of another time, configuration, universe or state
    (`ensemble/normalize.py:112-118`). -/
def provenanceMismatch (adapted : Adapted F) : Prop :=
  adapted.timestamp ≠ now ∨
  adapted.provenance ≠ (inputs.state.codeCommit, inputs.state.configHash, inputs.state.dataSnapshot) ∨
  adapted.universeHash ≠ contentHash inputs.universeSnapshot ∨
  adapted.stateHash ≠ inputs.state.decisionHash

instance (adapted : Adapted F) : Decidable (inputs.provenanceMismatch now adapted) :=
  inferInstanceAs (Decidable (_ ∨ _))

/-- The candidate of an intent (`ensemble/normalize.py:75-167`). -/
def candidateOf (intent : AlphaIntent F) : Except PyError NormalizedCandidate := do
  let alpha ← AlphaId.ofValue intent.alphaId
  let registration := inputs.registry.registration alpha
  if registration.enabled = false then .error (.valueError "alpha disabled")
  else
    let adapted ← intent.adapt inputs.master
    if inputs.provenanceMismatch now adapted then
      .error (.valueError "causal provenance mismatch")
    else
      let total := (adapted.tokens.map fun item => |item.2|).sum
      let legs ← adapted.tokens.mapM (inputs.candidateLeg now total)
      if h : IndivisibleWeights legs then
        .ok
          { signalId := intent.signalId
            alphaId := alpha
            timestamp := now
            strength := strengthOf registration adapted.score
            legs := legs
            rawIntentHash := intent.hash
            registryHash := contentHash inputs.registry
            strength_range := strengthOf_range registration adapted.score
            indivisible_weights := h }
      else
        .error (invalid "NormalizedCandidate"
          "candidate weights must have unique legs and unit gross")

end NormalizeInputs

/-- What the passes have decided so far. -/
structure Normalization where
  candidates : List NormalizedCandidate := []
  rejected : List Uuid := []
  rejectionReasons : Dict Uuid String := .empty

/-- `(ValueError, KeyError)`. -/
def isRejection : PyError → Bool
  | .keyError _ => true
  | e => e.isValueError

/-- One intent of the first pass (`ensemble/normalize.py:74-171`). -/
def Normalization.adapt (inputs : NormalizeInputs F) (now : Instant) (pass : Normalization)
    (intent : AlphaIntent F) : Except PyError Normalization :=
  match inputs.candidateOf now intent with
  | .ok candidate => .ok { pass with candidates := pass.candidates ++ [candidate] }
  | .error e =>
    if isRejection e then
      .ok { pass with
        rejected := pass.rejected ++ [intent.signalId]
        rejectionReasons := pass.rejectionReasons.insert intent.signalId e.text }
    else .error e

/-- Whether two candidates hold a security in opposite directions
    (`ensemble/normalize.py:175-181`). -/
def opposed (left right : NormalizedCandidate) : Bool :=
  decide (left.signalId ≠ right.signalId) && left.legs.any fun a => right.legs.any fun b =>
    decide (a.entityId = b.entityId ∧ a.signedWeight * b.signedWeight < 0)

/-- The signal ids of all conflicts (`ensemble/normalize.py:173-182`). -/
def conflicted (candidates : List NormalizedCandidate) : Finset Uuid :=
  candidates.foldl (fun ids left => candidates.foldl (fun ids right =>
    if opposed left right then insert right.signalId (insert left.signalId ids) else ids) ids) ∅

/-- `{x.entity_id for x in candidate.legs}`. -/
def NormalizedCandidate.entities (candidate : NormalizedCandidate) : Finset Uuid :=
  (candidate.legs.map (·.entityId)).toFinset

/-- What the last pass has selected, and the securities it uses. -/
structure Selection where
  selected : List NormalizedCandidate := []
  used : Finset Uuid := ∅
  rejected : List Uuid
  rejectionReasons : Dict Uuid String

/-- One candidate of the last pass (`ensemble/normalize.py:185-197`). -/
def Selection.step (conflicts : Finset Uuid) (pass : Selection)
    (candidate : NormalizedCandidate) : Selection :=
  if candidate.signalId ∈ conflicts ∨ ¬ Disjoint candidate.entities pass.used then
    { pass with
      rejected := pass.rejected ++ [candidate.signalId]
      rejectionReasons := pass.rejectionReasons.insert candidate.signalId
        (if candidate.signalId ∈ conflicts then "OPPOSITE_DIRECTION_CONFLICT"
          else "SAME_SECURITY_DUPLICATE") }
  else
    { pass with
      selected := pass.selected ++ [candidate]
      used := pass.used ∪ candidate.entities }

/-- `(-x.strength, str(x.signal_id))`. -/
def NormalizedCandidate.selectionKey (candidate : NormalizedCandidate) : ℚ ×ₗ Uuid :=
  toLex (-candidate.strength, candidate.signalId)

/-- `(str(x.signal_id), content_hash(x))`. -/
def AlphaIntent.orderKey (intent : AlphaIntent F) : Uuid ×ₗ Digest :=
  toLex (intent.signalId, intent.hash)

/-- `sorted(set(ids), key=str)`. -/
def sortedIds (ids : List Uuid) : List Uuid := sortOn id ids.dedup

/-- The loop over the ordered intents that keeps one of each id, none where two intents with
    one id differ (`ensemble/normalize.py:72-77`). -/
def distinctIntents [DecidableEq (AlphaIntent F)] :
    List (AlphaIntent F) → Dict Uuid (AlphaIntent F) → Option (Dict Uuid (AlphaIntent F))
  | [], unique => some unique
  | intent :: rest, unique =>
    if ∃ known ∈ unique.get? intent.signalId, known ≠ intent then none
    else distinctIntents rest (unique.insert intent.signalId intent)

/-- `decision_id` of a digest (`ensemble/normalize.py:43`). -/
def ensembleId (digest : Digest) : Uuid := Platform.uuid5 ("godzilla:ensemble:" ++ digest)

namespace NormalizeInputs

variable (inputs : NormalizeInputs F) (now : Instant)

/-- `blocked(reason)` (`ensemble/normalize.py:45-57`). -/
def blocked (reason : String) : EnsembleDecision where
  decisionId := ensembleId (contentHash inputs)
  timestamp := now
  candidates := []
  rejected := sortedIds (inputs.intents.map (·.signalId))
  reasons := [reason]
  inputHash := contentHash inputs
  rejectionReasons := (sortedIds (inputs.intents.map (·.signalId))).map fun id => ⟨id, [reason]⟩

/-- The rejections with their reasons (`ensemble/normalize.py:206-209`). -/
def rejections (pass : Selection) : Except PyError (List EnsembleRejection) :=
  (sortedIds pass.rejected).mapM fun id =>
    match pass.rejectionReasons.get? id with
    | some reason => .ok ⟨id, [reason]⟩
    | none => .error (.keyError (Platform.reprStr (Platform.uuidStr id)))

/-- The passes over distinct intents (`ensemble/normalize.py:73-210`). -/
def resolve (unique : List (AlphaIntent F)) : Except PyError EnsembleDecision := do
  let pass ← unique.foldlM (Normalization.adapt inputs now) {}
  let selection := (sortOn NormalizedCandidate.selectionKey pass.candidates).foldl
    (Selection.step (conflicted pass.candidates))
    { rejected := pass.rejected, rejectionReasons := pass.rejectionReasons }
  let rejections ← rejections selection
  .ok
    { decisionId := ensembleId (contentHash inputs)
      timestamp := now
      candidates := selection.selected
      rejected := sortedIds selection.rejected
      reasons := ["NORMALIZED_CONFLICTS_RESOLVED"]
      inputHash := contentHash inputs
      rejectionReasons := rejections }

end NormalizeInputs

/-- `ordered` and the other arguments, as they are hashed (`ensemble/normalize.py:39-42`). -/
def normalizeInputs (intents : List (AlphaIntent F)) (registry : AlphaRegistry F)
    (master : InstrumentMasterSnapshot) (universeSnapshot : UniverseSnapshot)
    (state : StateDecision F) : NormalizeInputs F where
  intents := sortOn AlphaIntent.orderKey intents
  registry := registry
  master := master
  universeSnapshot := universeSnapshot
  state := state

/-- `normalize_intents` (`ensemble/normalize.py:30-210`). The signal ids of `blocked` are those
    of the ordered intents, which are the given ones in another order. -/
def normalizeIntents [DecidableEq (AlphaIntent F)] (intents : List (AlphaIntent F))
    (registry : AlphaRegistry F) (master : InstrumentMasterSnapshot)
    (universeSnapshot : UniverseSnapshot) (state : StateDecision F) (now : Instant) :
    Except PyError EnsembleDecision :=
  let inputs := normalizeInputs intents registry master universeSnapshot state
  if inputs.metadataUnavailable now then
    .ok (inputs.blocked now "NORMALIZATION_METADATA_UNAVAILABLE")
  else
    match distinctIntents inputs.intents .empty with
    | none => .ok (inputs.blocked now "CONFLICTING_SIGNAL_ID")
    | some unique => inputs.resolve now unique.values

end Godzilla.Ensemble
