import Godzilla.Ensemble.Normalize
import Godzilla.Misc.Projection
import Godzilla.Misc.Raises
import Godzilla.Storage.AuditLog

/-!
# The projections over whole runs

`_project` (`storage/postgres.py:142-291`) writes at most one row into each table for an
event, so after every run the tables are a function of the accepted events: each holds
their rows in order, and projecting the events that `read_events` returns builds the
tables again.
-/

namespace Godzilla.Storage
open Godzilla Alphas Ensemble Events Features MarketData MarketState Portfolio Misc

variable {F : Type} [PyFloat F] [Platform]

/-- The rows of one event. -/
structure EventRows (F : Type) where
  bar1m : Option BarRow := none
  bar5m : Option BarRow := none
  quote : Option QuoteRow := none
  version : Option FeatureVersionRow := none
  snapshot : Option FeatureSnapshotRow := none
  state : Option MarketStateRow := none
  signal : Option (AlphaSignalRow F) := none
  health : Option (KeyedRow Digest) := none
  ensemble : Option (KeyedRow Uuid) := none
  portfolio : Option (KeyedRow Uuid) := none

/-- The row of an intent. -/
def signalRow (event : EventEnvelope F) : AlphaIntent F → Option (AlphaSignalRow F)
  | .relativeValue rv =>
    some
      { signalId := rv.signalId
        eventId := event.eventId
        alphaId := relativeValueAlphaId
        instrumentId := Platform.uuidStr rv.entityId
        symbol := "RV:" ++ Platform.uuidStr rv.entityId
        timestamp := rv.timestamp
        side := .longShort
        score := rv.score
        payload := Platform.modelDump rv }
  | .pair pair =>
    some
      { signalId := pair.signalId
        eventId := event.eventId
        alphaId := pairsAlphaId
        instrumentId := pair.pairId
        symbol := "PAIR:" ++ pair.pairId
        timestamp := pair.timestamp
        side := .spread pair.direction
        score := min 1 (PyFloat.abs pair.riskReference.currentZ / pair.settings.stopZ)
        payload := Platform.modelDump pair }
  | .signal intent =>
    match intent.evidence, intent.score with
    | some evidence, some score =>
      some
        { signalId := intent.signalId
          eventId := event.eventId
          alphaId := intent.alphaId
          instrumentId := intent.instrumentId
          symbol := evidence.symbol
          timestamp := event.occurredAt
          side := .single intent.side
          score := score
          payload := Platform.modelDump intent }
    | _, _ => none

/-- The rows that the tables take from an event. -/
def rowsOf (event : EventEnvelope F) : EventRows F :=
  match event.payload with
  | .health h =>
    { health := h.alphaSnapshot.map fun health =>
        ⟨contentHash health, event.eventId, health.timestamp, Platform.modelDump health⟩ }
  | .decision d =>
    { ensemble := d.ensemble.map fun ensemble =>
        ⟨ensemble.decisionId, event.eventId, ensemble.timestamp, Platform.modelDump ensemble⟩
      portfolio := d.portfolio.map fun portfolio =>
        ⟨portfolio.decisionId, event.eventId, portfolio.timestamp, Platform.modelDump portfolio⟩ }
  | .relativeValueIntent rv => { signal := signalRow event (.relativeValue rv) }
  | .pairSignalIntent pair => { signal := signalRow event (.pair pair) }
  | .signalIntent intent => { signal := signalRow event (.signal intent) }
  | .marketStateUpdate update =>
    { state := update.decision.map fun decision =>
        { decisionHash := decision.decisionHash
          eventId := event.eventId
          timestamp := decision.timestamp
          state := decision.state.value
          configVersion := decision.evidence.routerVersionHash
          payload := Platform.modelDump decision } }
  | .featureUpdate update =>
    match update.snapshot, update.definition with
    | some snapshot, some definition =>
      { version := some ⟨snapshot.featureSetHash, definition.name, Platform.modelDump definition⟩
        snapshot := some
          { snapshotHash := snapshot.snapshotHash
            eventId := event.eventId
            featureSetHash := snapshot.featureSetHash
            entity := snapshot.entity
            timestamp := snapshot.timestamp
            inputHash := snapshot.inputHash
            payload := Platform.modelDump snapshot } }
    | _, _ => {}
  | .barClose bar =>
    let row : BarRow :=
      ⟨event.eventId, bar.instrumentId, bar.start, bar.source, Platform.modelDump bar⟩
    if bar.intervalMinutes = 1 then { bar1m := some row } else { bar5m := some row }
  | .quoteUpdate quote =>
    { quote := some ⟨event.eventId, quote.instrumentId, quote.timestamp, quote.source,
        Platform.modelDump quote⟩ }
  | _ => {}

/-- What projecting an event adds: each of its rows to the table of the row, and its
    definition when no event before had one under that hash. -/
structure AddsRows (rows : EventRows F) (tables tables' : Projections F) : Prop where
  bars1m : Appends BarRow.clash rows.bar1m tables.bars1m tables'.bars1m := by
    exact Appends.none _
  bars5m : Appends BarRow.clash rows.bar5m tables.bars5m tables'.bars5m := by
    exact Appends.none _
  quotes : Appends (fun row other => row.eventId == other.eventId) rows.quote tables.quotes
    tables'.quotes := by exact Appends.none _
  snapshots : Appends FeatureSnapshotRow.clash rows.snapshot tables.featureSnapshots
    tables'.featureSnapshots := by exact Appends.none _
  states : Appends MarketStateRow.clash rows.state tables.marketStates tables'.marketStates := by
    exact Appends.none _
  signals : Appends AlphaSignalRow.clash rows.signal tables.alphaSignals
    tables'.alphaSignals := by exact Appends.none _
  health : Appends KeyedRow.clash rows.health tables.alphaHealth tables'.alphaHealth := by
    exact Appends.none _
  ensembles : Appends KeyedRow.clash rows.ensemble tables.ensembleDecisions
    tables'.ensembleDecisions := by exact Appends.none _
  portfolios : Appends KeyedRow.clash rows.portfolio tables.portfolioDecisions
    tables'.portfolioDecisions := by exact Appends.none _
  versions : tables'.featureVersions =
    match rows.version with
    | some row => tables.featureVersions.setDefault row.versionHash row
    | none => tables.featureVersions := by rfl

section Project

variable {event : EventEnvelope F} {tables tables' : Projections F}

omit [PyFloat F] [Platform] in
theorem map_insertRow {Row : Type} {clash : Row → Row → Bool} {rows : List Row} {row : Row}
    {write : List Row → Projections F}
    (h : (insertRow clash rows row).map write = .ok tables') :
    ∃ rows', Appends clash (some row) rows rows' ∧ tables' = write rows' := by
  cases hinsert : insertRow clash rows row with
  | error e => rw [hinsert] at h; cases h
  | ok rows' =>
    rw [hinsert] at h
    exact ⟨rows', insertRow_ok hinsert, (Except.ok.inj h).symm⟩

omit [PyFloat F] [Platform] in
theorem addSignal_adds {row : AlphaSignalRow F} (h : tables.addSignal row = .ok tables') :
    AddsRows { signal := some row } tables tables' := by
  obtain ⟨rows, happends, rfl⟩ := map_insertRow h
  exact { signals := happends }

theorem health_adds {health : Health F} (hpayload : event.payload = .health health)
    (h : tables.project event = .ok tables') : AddsRows (rowsOf event) tables tables' := by
  simp only [Projections.project, hpayload] at h
  simp only [rowsOf, hpayload]
  cases hsnapshot : health.alphaSnapshot with
  | none =>
    simp only [hsnapshot] at h ⊢
    obtain rfl := Except.ok.inj h
    exact {}
  | some snapshot =>
    simp only [hsnapshot] at h ⊢
    obtain ⟨rows, happends, rfl⟩ := map_insertRow h
    exact { health := happends }

theorem decision_adds {decision : Decision} (hpayload : event.payload = .decision decision)
    (h : tables.project event = .ok tables') : AddsRows (rowsOf event) tables tables' := by
  simp only [Projections.project, hpayload] at h
  simp only [rowsOf, hpayload]
  cases hfirst : decision.ensemble with
  | none =>
    simp only [hfirst] at h ⊢
    cases hsecond : decision.portfolio with
    | none =>
      simp only [hsecond] at h ⊢
      obtain rfl := Except.ok.inj h
      exact {}
    | some portfolio =>
      simp only [hsecond] at h ⊢
      obtain ⟨rows, happends, rfl⟩ := map_insertRow h
      exact { portfolios := happends }
  | some ensemble =>
    simp only [hfirst] at h ⊢
    obtain ⟨between, hensemble, hportfolio⟩ := bind_ok h
    obtain ⟨rows, happends, rfl⟩ := map_insertRow hensemble
    cases hsecond : decision.portfolio with
    | none =>
      simp only [hsecond] at hportfolio ⊢
      obtain rfl := Except.ok.inj hportfolio
      exact { ensembles := happends }
    | some portfolio =>
      simp only [hsecond] at hportfolio ⊢
      obtain ⟨rows', happends', rfl⟩ := map_insertRow hportfolio
      exact { ensembles := happends, portfolios := happends' }

theorem signalIntent_adds {intent : SignalIntent F} (hpayload : event.payload = .signalIntent intent)
    (h : tables.project event = .ok tables') : AddsRows (rowsOf event) tables tables' := by
  simp only [Projections.project, hpayload] at h
  simp only [rowsOf, hpayload]
  simp only [signalRow]
  cases hevidence : intent.evidence with
  | none =>
    simp only [hevidence] at h ⊢
    obtain rfl := Except.ok.inj h
    exact {}
  | some evidence =>
    cases hscore : intent.score with
    | none =>
      simp only [hevidence, hscore] at h ⊢
      obtain rfl := Except.ok.inj h
      exact {}
    | some score =>
      simp only [hevidence, hscore] at h ⊢
      exact addSignal_adds h

theorem marketState_adds {update : MarketStateUpdate F}
    (hpayload : event.payload = .marketStateUpdate update)
    (h : tables.project event = .ok tables') : AddsRows (rowsOf event) tables tables' := by
  simp only [Projections.project, hpayload] at h
  simp only [rowsOf, hpayload]
  cases hdecision : update.decision with
  | none =>
    simp only [hdecision] at h ⊢
    obtain rfl := Except.ok.inj h
    exact {}
  | some decision =>
    simp only [hdecision] at h ⊢
    obtain ⟨rows, happends, rfl⟩ := map_insertRow h
    exact { states := happends }

theorem featureUpdate_adds {update : FeatureUpdate F} (hpayload : event.payload = .featureUpdate update)
    (h : tables.project event = .ok tables') : AddsRows (rowsOf event) tables tables' := by
  simp only [Projections.project, hpayload] at h
  simp only [rowsOf, hpayload]
  split at h
  · rename_i snapshot definition hsnapshot hdefinition
    simp only [hsnapshot, hdefinition]
    obtain ⟨rows, happends, rfl⟩ := map_insertRow h
    exact { snapshots := happends }
  · cases h
  · rename_i hsnapshot
    obtain rfl := Except.ok.inj h
    simp only [hsnapshot]
    exact {}

theorem barClose_adds {bar : Bar} (hpayload : event.payload = .barClose bar)
    (h : tables.project event = .ok tables') : AddsRows (rowsOf event) tables tables' := by
  simp only [Projections.project, hpayload] at h
  simp only [rowsOf, hpayload]
  by_cases hminute : bar.intervalMinutes = 1
  · simp only [if_pos hminute] at h ⊢
    obtain ⟨rows, happends, rfl⟩ := map_insertRow h
    exact { bars1m := happends }
  · simp only [if_neg hminute] at h ⊢
    obtain ⟨rows, happends, rfl⟩ := map_insertRow h
    exact { bars5m := happends }

/-- A successful projection adds the rows of the event. -/
theorem project_adds (h : tables.project event = .ok tables') :
    AddsRows (rowsOf event) tables tables' := by
  cases hpayload : event.payload with
  | health health => exact health_adds hpayload h
  | decision decision => exact decision_adds hpayload h
  | signalIntent intent => exact signalIntent_adds hpayload h
  | marketStateUpdate update => exact marketState_adds hpayload h
  | featureUpdate update => exact featureUpdate_adds hpayload h
  | barClose bar => exact barClose_adds hpayload h
  | relativeValueIntent _ | pairSignalIntent _ =>
    simp only [Projections.project, hpayload] at h
    simp only [rowsOf, hpayload]
    exact addSignal_adds h
  | quoteUpdate quote =>
    simp only [Projections.project, hpayload] at h
    simp only [rowsOf, hpayload]
    obtain ⟨rows, happends, rfl⟩ := map_insertRow h
    exact { quotes := happends }
  | orderEvent _ | fill _ | positionUpdate _ | reconciliation _ =>
    simp only [Projections.project, hpayload] at h
    simp only [rowsOf, hpayload]
    obtain rfl := Except.ok.inj h
    exact {}

end Project

/-- The tables hold the rows of these events in their order, no two rows of a table
    clashing, and under every version the definition that came first. -/
structure Projected (events : List (EventEnvelope F)) (tables : Projections F) : Prop where
  bars1m : Projects BarRow.clash (fun e => (rowsOf e).bar1m) events tables.bars1m
  bars5m : Projects BarRow.clash (fun e => (rowsOf e).bar5m) events tables.bars5m
  quotes : Projects (fun row other => row.eventId == other.eventId)
    (fun e => (rowsOf e).quote) events tables.quotes
  snapshots : Projects FeatureSnapshotRow.clash (fun e => (rowsOf e).snapshot) events
    tables.featureSnapshots
  states : Projects MarketStateRow.clash (fun e => (rowsOf e).state) events tables.marketStates
  signals : Projects AlphaSignalRow.clash (fun e => (rowsOf e).signal) events tables.alphaSignals
  health : Projects KeyedRow.clash (fun e => (rowsOf e).health) events tables.alphaHealth
  ensembles : Projects KeyedRow.clash (fun e => (rowsOf e).ensemble) events
    tables.ensembleDecisions
  portfolios : Projects KeyedRow.clash (fun e => (rowsOf e).portfolio) events
    tables.portfolioDecisions
  versions : KeepsFirst (·.versionHash) (fun e => (rowsOf e).version) events
    tables.featureVersions

theorem Projected.concat {events : List (EventEnvelope F)} {event : EventEnvelope F}
    {tables tables' : Projections F} (h : Projected events tables)
    (hadds : AddsRows (rowsOf event) tables tables') : Projected (events ++ [event]) tables' where
  bars1m := h.bars1m.concat hadds.bars1m
  bars5m := h.bars5m.concat hadds.bars5m
  quotes := h.quotes.concat hadds.quotes
  snapshots := h.snapshots.concat hadds.snapshots
  states := h.states.concat hadds.states
  signals := h.signals.concat hadds.signals
  health := h.health.concat hadds.health
  ensembles := h.ensembles.concat hadds.ensembles
  portfolios := h.portfolios.concat hadds.portfolios
  versions := by
    have hversions := hadds.versions
    cases hrow : (rowsOf event).version with
    | none =>
      rw [hrow] at hversions
      rw [hversions]
      exact h.versions.skip hrow
    | some row =>
      rw [hrow] at hversions
      rw [hversions]
      exact h.versions.concat hrow

section Run

/-- What a call does to the rows, the projections and the provenance: nothing unless it
    accepts its event, which is then projected. -/
theorem append_projects (tables : Tables F) (call : AppendCall F) (attempt : Attempt) :
    ((tables.append call attempt).1 ≠ .ok true ∧
      (tables.append call attempt).2.audit = tables.audit ∧
      (tables.append call attempt).2.projections = tables.projections ∧
      (tables.append call attempt).2.provenance = tables.provenance) ∨
    ((tables.append call attempt).1 = .ok true ∧
      (tables.append call attempt).2.audit = tables.audit ++ [tables.rowOf call] ∧
      tables.projections.project call.event =
        .ok (tables.append call attempt).2.projections ∧
      (tables.append call attempt).2.provenance = tables.provenance.setDefault
        (Platform.sha256 call.event.provenance.dump) call.event.provenance) := by
  unfold Tables.append
  split
  · exact Or.inl ⟨(by intro h; cases h), rfl, rfl, rfl⟩
  split
  · rename_i previous _
    refine Or.inl ⟨?_, rfl, rfl, rfl⟩
    unfold AppendCall.redeliver
    intro h
    split at h
    · cases h
    · split at h <;> split at h <;> cases h
  · rcases accept_cases tables call attempt with
      ⟨_, _, _, heq⟩ | ⟨_, ⟨e, _, heq⟩ | ⟨projected, hproject, _, heq⟩⟩
    · rw [heq]
      exact Or.inl ⟨(by intro h; cases h), rfl, rfl, rfl⟩
    · rw [heq]
      exact Or.inl ⟨(by intro h; cases h), rfl, rfl, rfl⟩
    · rw [heq]
      refine Or.inr ⟨rfl, ?_, hproject, ?_⟩ <;> cases call.state <;> rfl

/-- The projections and the provenance as functions of the accepted events. -/
structure Derived (repository : Repository F) : Prop where
  projected : Projected repository.accepted repository.tables.projections
  /-- Projecting the accepted events from empty tables builds the projections. -/
  rebuilt : repository.accepted.foldlM Projections.project {} =
    (.ok repository.tables.projections : Except PyError (Projections F))
  provenance : KeepsFirst (fun p => Platform.sha256 p.dump) (fun e => some e.provenance)
    repository.accepted repository.tables.provenance
  /-- Every row names the version of its event's provenance. -/
  versioned : repository.tables.audit.map (·.provenanceId) =
    repository.accepted.map fun e => Platform.sha256 e.provenance.dump

theorem Derived.step {repository : Repository F} (h : Derived repository)
    (input : AppendCall F × Attempt) : Derived (repository.step input) := by
  obtain ⟨call, attempt⟩ := input
  rcases hcall : repository.tables.append call attempt with ⟨result, tables⟩
  have hprojects := append_projects repository.tables call attempt
  rw [hcall] at hprojects
  rcases hprojects with ⟨hno, haudit, hsame, hprovenance⟩ | ⟨rfl, haudit, hproject, hprovenance⟩
  · have hstep : repository.step (call, attempt) = ⟨tables, repository.accepted⟩ := by
      simp only [Repository.step, hcall]
    rw [hstep]
    exact ⟨hsame ▸ h.projected, hsame ▸ h.rebuilt, hprovenance ▸ h.provenance,
      haudit ▸ h.versioned⟩
  · have hstep : repository.step (call, attempt) =
        ⟨tables, repository.accepted ++ [call.event]⟩ := by
      simp only [Repository.step, hcall]
    rw [hstep]
    refine ⟨h.projected.concat (project_adds hproject), ?_, ?_, ?_⟩
    · simp only [List.foldlM_append, h.rebuilt, List.foldlM_cons, List.foldlM_nil]
      show (repository.tables.projections.project call.event >>= fun t => pure t) = _
      rw [hproject]
      rfl
    · show KeepsFirst _ _ _ tables.provenance
      rw [hprovenance]
      exact h.provenance.concat rfl
    · show tables.audit.map _ = _
      rw [haudit, List.map_append, List.map_append, h.versioned]
      rfl

end Run

end Godzilla.Storage

namespace Godzilla.Storage.Sample
open Events Godzilla.Sample

end Godzilla.Storage.Sample
