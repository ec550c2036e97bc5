import Godzilla.Misc.Sorted
import Godzilla.Storage.Models

/-!
# The PostgreSQL repository

`PostgresRepository.append` and `read_events` (`storage/postgres.py`). The
advisory lock makes calls run one after the other, so a call is a function on the
tables; a call that raises leaves them as they were, except that a drawn value of
the sequence column stays used up. JSONB returns what was stored. What the
database leaves open in a call, the row an unordered query returns first and
whether the transaction fails when it is written, comes with the call.
-/

namespace Godzilla.Storage
open Godzilla Alphas Events MarketState Misc

section Project

variable {F : Type} [PyFloat F] [Platform]

/-- Another row has the same event or the same bar. -/
def BarRow.clash (row other : BarRow) : Bool :=
  row.eventId == other.eventId ||
    (row.instrumentId == other.instrumentId && row.barStart == other.barStart &&
      row.source == other.source)

/-- Another row has the same signal or event, or the alpha, symbol and time of
    `uq_alpha_symbol_time`. -/
def AlphaSignalRow.clash (row other : AlphaSignalRow F) : Bool :=
  row.signalId == other.signalId || row.eventId == other.eventId ||
    (row.alphaId == other.alphaId && row.symbol == other.symbol &&
      row.timestamp == other.timestamp)

/-- Another row has the same key or event. -/
def KeyedRow.clash {κ : Type} [BEq κ] (row other : KeyedRow κ) : Bool :=
  row.key == other.key || row.eventId == other.eventId

/-- Another row has the same decision or event. -/
def MarketStateRow.clash (row other : MarketStateRow) : Bool :=
  row.decisionHash == other.decisionHash || row.eventId == other.eventId

/-- Another row has the same snapshot or event. -/
def FeatureSnapshotRow.clash (row other : FeatureSnapshotRow) : Bool :=
  row.snapshotHash == other.snapshotHash || row.eventId == other.eventId

namespace Projections

/-- The row of a signal of any of the three intent models
    (`storage/postgres.py:181-224`). -/
def addSignal (tables : Projections F) (row : AlphaSignalRow F) : Except PyError (Projections F) :=
  (insertRow AlphaSignalRow.clash tables.alphaSignals row).map fun rows =>
    { tables with alphaSignals := rows }

/-- The rows of a feature snapshot and, when it is new, of its definition
    (`storage/postgres.py:237-262`). -/
def addSnapshot (tables : Projections F) (event : EventEnvelope F)
    (snapshot : Features.FeatureSnapshot F) (definition : Features.FeatureSetVersion F) :
    Except PyError (Projections F) :=
  let versions := if (tables.featureVersions.get? snapshot.featureSetHash).isSome then
      tables.featureVersions
    else tables.featureVersions.insert snapshot.featureSetHash
      ⟨snapshot.featureSetHash, definition.name, Platform.modelDump definition⟩
  (insertRow FeatureSnapshotRow.clash tables.featureSnapshots
    { snapshotHash := snapshot.snapshotHash
      eventId := event.eventId
      featureSetHash := snapshot.featureSetHash
      entity := snapshot.entity
      timestamp := snapshot.timestamp
      inputHash := snapshot.inputHash
      payload := Platform.modelDump snapshot }).map fun rows =>
    { tables with featureVersions := versions, featureSnapshots := rows }

/-- `_project` (`storage/postgres.py:142-291`). -/
def project (tables : Projections F) (event : EventEnvelope F) : Except PyError (Projections F) :=
  match event.payload with
  | .health h =>
    match h.alphaSnapshot with
    | none => .ok tables
    | some health =>
      (insertRow KeyedRow.clash tables.alphaHealth
        ⟨contentHash health, event.eventId, health.timestamp, Platform.modelDump health⟩).map
          fun rows => { tables with alphaHealth := rows }
  | .decision d => do
    let tables ← match d.ensemble with
      | none => .ok tables
      | some ensemble =>
        (insertRow KeyedRow.clash tables.ensembleDecisions ⟨ensemble.decisionId, event.eventId,
          ensemble.timestamp, Platform.modelDump ensemble⟩).map
            fun rows => { tables with ensembleDecisions := rows }
    match d.portfolio with
    | none => .ok tables
    | some portfolio =>
      (insertRow KeyedRow.clash tables.portfolioDecisions ⟨portfolio.decisionId, event.eventId,
        portfolio.timestamp, Platform.modelDump portfolio⟩).map
          fun rows => { tables with portfolioDecisions := rows }
  | .relativeValueIntent rv =>
    tables.addSignal
      { signalId := rv.signalId
        eventId := event.eventId
        alphaId := relativeValueAlphaId
        instrumentId := Platform.uuidStr rv.entityId
        symbol := "RV:" ++ Platform.uuidStr rv.entityId
        timestamp := rv.timestamp
        side := .longShort
        score := rv.score
        payload := Platform.modelDump rv }
  | .pairSignalIntent pair =>
    tables.addSignal
      { signalId := pair.signalId
        eventId := event.eventId
        alphaId := pairsAlphaId
        instrumentId := pair.pairId
        symbol := "PAIR:" ++ pair.pairId
        timestamp := pair.timestamp
        side := .spread pair.direction
        score := min 1 (PyFloat.abs pair.riskReference.currentZ / pair.settings.stopZ)
        payload := Platform.modelDump pair }
  | .signalIntent intent =>
    -- the score is present exactly when the evidence is
    match intent.evidence, intent.score with
    | some evidence, some score =>
      tables.addSignal
        { signalId := intent.signalId
          eventId := event.eventId
          alphaId := intent.alphaId
          instrumentId := intent.instrumentId
          symbol := evidence.symbol
          timestamp := event.occurredAt
          side := .single intent.side
          score := score
          payload := Platform.modelDump intent }
    | _, _ => .ok tables
  | .marketStateUpdate update =>
    match update.decision with
    | none => .ok tables
    | some decision =>
      (insertRow MarketStateRow.clash tables.marketStates
        { decisionHash := decision.decisionHash
          eventId := event.eventId
          timestamp := decision.timestamp
          state := decision.state.value
          configVersion := decision.evidence.routerVersionHash
          payload := Platform.modelDump decision }).map
            fun rows => { tables with marketStates := rows }
  | .featureUpdate update =>
    match update.snapshot, update.definition with
    | some snapshot, some definition => tables.addSnapshot event snapshot definition
    | some _, none => .error (.valueError "missing feature definition")
    | none, _ => .ok tables
  | .barClose bar =>
    let row : BarRow :=
      ⟨event.eventId, bar.instrumentId, bar.start, bar.source, Platform.modelDump bar⟩
    if bar.intervalMinutes = 1 then
      (insertRow BarRow.clash tables.bars1m row).map fun rows => { tables with bars1m := rows }
    else (insertRow BarRow.clash tables.bars5m row).map fun rows => { tables with bars5m := rows }
  | .quoteUpdate quote =>
    (insertRow (fun row other => row.eventId == other.eventId) tables.quotes
      ⟨event.eventId, quote.instrumentId, quote.timestamp, quote.source,
        Platform.modelDump quote⟩).map fun rows => { tables with quotes := rows }
  | _ => .ok tables

end Projections

end Project

variable {F : Type} [PyFloat F] [Platform]

/-- The arguments of `append`. -/
structure AppendCall (F : Type) [PyFloat F] [Platform] where
  event : EventEnvelope F
  key : String
  state : Option SystemStateSnapshot := none

/-- What the database leaves open in one call. -/
structure Attempt where
  /-- The row an unordered query returns first. -/
  first : List AuditEventRow → Option AuditEventRow
  /-- The failure of the transaction when it is written, if it fails. -/
  fault : Option PyError := none
  first_mem : ∀ {rows row}, first rows = some row → row ∈ rows
  first_none : ∀ {rows}, first rows = none → rows = []

/-- The checks before the transaction (`storage/postgres.py:73-78`). -/
def AppendCall.check (call : AppendCall F) : Except PyError Unit :=
  if call.key.length ≠ 64 ∨ call.key.toList.any (fun c => c ∉ "0123456789abcdef".toList) then
    .error (.valueError "idempotency key must be a SHA256 hex digest")
  else if ∃ s ∈ call.state, s.lastEventId ≠ call.event.eventId ∨
      s.updatedAt ≠ call.event.receivedAt then
    .error (.valueError "state must reference this event and its receipt timestamp")
  else .ok ()

/-- The rows with the event's id or the key (`storage/postgres.py:83-90`). -/
def AppendCall.matching (call : AppendCall F) (tables : Tables F) : List AuditEventRow :=
  tables.audit.filter fun row =>
    row.eventId == call.event.eventId || row.idempotencyKey == call.key

/-- A redelivery has to repeat the content, the key and the state of the stored event
    (`storage/postgres.py:91-101`). -/
def AppendCall.redeliver (call : AppendCall F) (previous : AuditEventRow) : Except PyError Bool :=
  if previous.payloadHash ≠ eventHash call.event ∨ previous.idempotencyKey ≠ call.key then
    .error (.idempotencyConflict "event identity reused with different content")
  else
    match call.state with
    | some state =>
      if previous.envelope.get? "_state_projection" ≠ some (Platform.modelDump state) then
        .error (.idempotencyConflict "duplicate event has different state projection")
      else .ok false
    | none =>
      if (previous.envelope.get? "_state_projection").isSome then
        .error (.idempotencyConflict "duplicate omitted original state projection")
      else .ok false

/-- The envelope that is stored (`storage/postgres.py:115-117`). -/
def AppendCall.envelope (call : AppendCall F) : Json :=
  match call.state with
  | some state => call.event.dump.withMember "_state_projection" (Platform.modelDump state)
  | none => call.event.dump

/-- `"0" * 64`. -/
def genesisHash : Digest := "0000000000000000000000000000000000000000000000000000000000000000"

/-- `_hash([previous_hash, key, envelope])`. -/
def chainLink (previous : Digest) (row : AuditEventRow) : Digest :=
  Platform.sha256 (.arr [.str previous, .str row.idempotencyKey, row.envelope])

namespace Tables

/-- The rows in sequence order. -/
def rows (tables : Tables F) : List AuditEventRow := sortOn (·.sequence) tables.audit

/-- The row with the largest sequence (`storage/postgres.py:102-104`). -/
def tail (tables : Tables F) : Option AuditEventRow := tables.rows.getLast?

/-- The row an accepted call inserts (`storage/postgres.py:109-135`). -/
def rowOf (tables : Tables F) (call : AppendCall F) : AuditEventRow :=
  let previous := (tables.tail.map (·.chainHash)).getD genesisHash
  { sequence := tables.nextSequence
    eventId := call.event.eventId
    correlationId := call.event.correlationId
    idempotencyKey := call.key
    eventType := call.event.payload.kind
    occurredAt := call.event.occurredAt
    receivedAt := call.event.receivedAt
    source := call.event.source
    provenanceId := Platform.sha256 call.event.provenance.dump
    payloadHash := eventHash call.event
    previousHash := previous
    chainHash := Platform.sha256 (.arr [.str previous, .str call.key, call.envelope])
    envelope := call.envelope }

/-- The tables with the audit row and its provenance inserted. -/
def record (tables : Tables F) (call : AppendCall F) : Tables F :=
  let version := Platform.sha256 call.event.provenance.dump
  { tables with
    audit := tables.audit ++ [tables.rowOf call]
    nextSequence := tables.nextSequence + 1
    provenance := if (tables.provenance.get? version).isSome then tables.provenance
      else tables.provenance.insert version call.event.provenance }

/-- `session.merge(SystemStateRow(...))` (`storage/postgres.py:137-140`). -/
def mergeState (tables : Tables F) (state : Option SystemStateSnapshot) : Tables F :=
  match state with
  | none => tables
  | some s =>
    { tables with systemState := tables.systemState.insert s.scope ⟨s, Platform.modelDump s⟩ }

/-- A rolled back insert has used up a value of the sequence column. -/
def rolledBack (tables : Tables F) : Tables F :=
  { tables with nextSequence := tables.nextSequence + 1 }

/-- The insert of a new event (`storage/postgres.py:102-141`). -/
def accept (tables : Tables F) (call : AppendCall F) (attempt : Attempt) :
    Except PyError Bool × Tables F :=
  match tables.tail with
  | some tail =>
    if call.event.receivedAt < tail.receivedAt then
      (.error (.valueError
        "receipt order regression; capture late events with actual receipt time"), tables)
    else write
  | none => write
where
  /-- From the insert of the audit row on. -/
  write : Except PyError Bool × Tables F :=
    match tables.projections.project call.event, attempt.fault with
    | .error e, _ | .ok _, some e => (.error e, tables.rolledBack)
    | .ok projected, none =>
      (.ok true, { (tables.record call).mergeState call.state with projections := projected })

/-- `PostgresRepository.append` (`storage/postgres.py:70-141`). -/
def append (tables : Tables F) (call : AppendCall F) (attempt : Attempt) :
    Except PyError Bool × Tables F :=
  match call.check with
  | .error e => (.error e, tables)
  | .ok () =>
    match attempt.first (call.matching tables) with
    | some previous => (call.redeliver previous, tables)
    | none => tables.accept call attempt

/-- The loop of `read_events` over the rows from `previous` on
    (`storage/postgres.py:298-311`). -/
def readFrom (validate : Json → Except PyError (EventEnvelope F)) (afterSequence : Nat) :
    Digest → List AuditEventRow → Except PyError (List (EventEnvelope F))
  | _, [] => .ok []
  | previous, row :: rest =>
    if row.previousHash ≠ previous ∨ row.chainHash ≠ chainLink previous row then
      .error (.valueError "audit chain integrity failure")
    else do
      let event ← validate (row.envelope.without "_state_projection")
      if row.payloadHash ≠ eventHash event then
        .error (.valueError "event digest mismatch")
      else do
        let later ← readFrom validate afterSequence row.chainHash rest
        .ok (if afterSequence < row.sequence then event :: later else later)

/-- `PostgresRepository.read_events` (`storage/postgres.py:293-312`), with
    `EventEnvelope.model_validate` as a parameter. -/
def readEvents (tables : Tables F) (validate : Json → Except PyError (EventEnvelope F))
    (afterSequence : Nat := 0) : Except PyError (List (EventEnvelope F)) :=
  readFrom validate afterSequence genesisHash tables.rows

/-- `PostgresRepository.get_state` (`storage/postgres.py:314-317`), with
    `SystemStateSnapshot.model_validate` as a parameter. -/
def getState (tables : Tables F) (validate : Json → Except PyError SystemStateSnapshot)
    (scope : String) : Except PyError (Option SystemStateSnapshot) :=
  match tables.systemState.get? scope with
  | some row => (validate row.payload).map some
  | none => .ok none

end Tables

end Godzilla.Storage
