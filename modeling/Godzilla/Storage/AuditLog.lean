import Godzilla.Core.Events.Replay
import Godzilla.Misc.HashChain
import Godzilla.Misc.Related
import Godzilla.Misc.Transition
import Godzilla.Storage.Postgres

/-!
# The audit log over whole runs

Every run of `append` calls, whatever their arguments and whatever the database
decides, leaves an audit log that holds exactly the accepted events, chained and
in receipt order. `Recorded` is the invariant: it ties each row to the event it
stores, so that `read_events` accepts the chain and every digest, and a replay
never sees its clock move backwards.
-/

namespace Godzilla.Storage
open Godzilla Events Misc

variable {F : Type} [PyFloat F] [Platform]

section Append

variable {tables : Tables F} {call : AppendCall F} {attempt : Attempt}

/-- What a call that does not accept its event leaves: the same rows. -/
structure SameRows (tables tables' : Tables F) : Prop where
  audit : tables'.audit = tables.audit
  sequence : tables.nextSequence ≤ tables'.nextSequence

/-- What a call that accepts its event leaves: one more row, with new identities and a
    receipt no earlier than the newest row's. -/
structure NewRow (tables tables' : Tables F) (call : AppendCall F) : Prop where
  audit : tables'.audit = tables.audit ++ [tables.rowOf call]
  sequence : tables'.nextSequence = tables.nextSequence + 1
  fresh : ∀ row ∈ tables.audit,
    row.eventId ≠ call.event.eventId ∧ row.idempotencyKey ≠ call.key
  ordered : ∀ tail, tables.tail = some tail → tail.receivedAt ≤ call.event.receivedAt

theorem fresh_of_matching (h : call.matching tables = []) :
    ∀ row ∈ tables.audit, row.eventId ≠ call.event.eventId ∧ row.idempotencyKey ≠ call.key := by
  intro row hrow
  have hno := List.filter_eq_nil_iff.mp h row hrow
  simpa [not_or] using hno

/-- What the insert of a new event does: it raises on a receipt before the newest row's, it
    raises and is rolled back, or it writes one audit row, the state and the projections. -/
theorem accept_cases (tables : Tables F) (call : AppendCall F) (attempt : Attempt) :
    (∃ tail, tables.tail = some tail ∧ call.event.receivedAt < tail.receivedAt ∧
      tables.accept call attempt = (.error (.valueError
        "receipt order regression; capture late events with actual receipt time"), tables)) ∨
    (∀ tail, tables.tail = some tail → tail.receivedAt ≤ call.event.receivedAt) ∧
      ((∃ e, (tables.projections.project call.event = .error e ∨ attempt.fault = some e) ∧
          tables.accept call attempt = (.error e, tables.rolledBack)) ∨
        ∃ projected, tables.projections.project call.event = .ok projected ∧
          attempt.fault = none ∧ tables.accept call attempt =
            (.ok true, { (tables.record call).mergeState call.state with
              projections := projected })) := by
  have hwrite :
      (∃ e, (tables.projections.project call.event = .error e ∨ attempt.fault = some e) ∧
          Tables.accept.write tables call attempt = (.error e, tables.rolledBack)) ∨
        ∃ projected, tables.projections.project call.event = .ok projected ∧
          attempt.fault = none ∧ Tables.accept.write tables call attempt =
            (.ok true, { (tables.record call).mergeState call.state with
              projections := projected }) := by
    unfold Tables.accept.write
    cases hproject : tables.projections.project call.event with
    | error e => exact Or.inl ⟨e, Or.inl rfl, rfl⟩
    | ok projected =>
      cases hfault : attempt.fault with
      | some e => exact Or.inl ⟨e, Or.inr rfl, rfl⟩
      | none => exact Or.inr ⟨projected, rfl, rfl, rfl⟩
  cases htail : tables.tail with
  | none =>
    have haccept : tables.accept call attempt = Tables.accept.write tables call attempt := by
      simp only [Tables.accept, htail]
    rw [haccept]
    exact Or.inr ⟨nofun, hwrite⟩
  | some tail =>
    by_cases hlater : call.event.receivedAt < tail.receivedAt
    · exact Or.inl ⟨tail, rfl, hlater, by simp only [Tables.accept, htail, if_pos hlater]⟩
    · have haccept : tables.accept call attempt = Tables.accept.write tables call attempt := by
        simp only [Tables.accept, htail, if_neg hlater]
      rw [haccept]
      refine Or.inr ⟨?_, hwrite⟩
      intro tail' htail'
      obtain rfl := Option.some.inj htail'
      exact not_lt.mp hlater

/-- A call accepts its event with one new row, or answers otherwise and leaves the rows. -/
theorem append_cases (tables : Tables F) (call : AppendCall F) (attempt : Attempt) :
    ((tables.append call attempt).1 ≠ .ok true ∧
      SameRows tables (tables.append call attempt).2) ∨
    ((tables.append call attempt).1 = .ok true ∧
      NewRow tables (tables.append call attempt).2 call) := by
  unfold Tables.append
  split
  · exact Or.inl ⟨nofun, rfl, le_refl _⟩
  split
  · -- a redelivery answers `False` or raises
    rename_i previous _
    refine Or.inl ⟨?_, rfl, le_refl _⟩
    unfold AppendCall.redeliver
    split
    · nofun
    · split <;> split <;> nofun
  · rename_i hnone
    rcases accept_cases tables call attempt with
      ⟨_, _, _, heq⟩ | ⟨hordered, ⟨e, _, heq⟩ | ⟨projected, _, _, heq⟩⟩
    · exact Or.inl ⟨by rw [heq]; nofun, by rw [heq]; exact ⟨rfl, le_refl _⟩⟩
    · exact Or.inl ⟨by rw [heq]; nofun, by rw [heq]; exact ⟨rfl, Nat.le_succ _⟩⟩
    · have hfresh := fresh_of_matching (attempt.first_none hnone)
      refine Or.inr ⟨by rw [heq], ?_⟩
      rw [heq]
      cases hstate : call.state <;> exact ⟨by rfl, by rfl, hfresh, hordered⟩

end Append

section Log

/-- A repository and the events of the calls that returned `True`, in their order. -/
structure Repository (F : Type) [PyFloat F] [Platform] where
  tables : Tables F := {}
  accepted : List (EventEnvelope F) := []

/-- One call on the repository. -/
def Repository.step (repository : Repository F) (input : AppendCall F × Attempt) :
    Repository F :=
  let (result, tables) := repository.tables.append input.1 input.2
  { tables := tables
    accepted := match result with
      | .ok true => repository.accepted ++ [input.1.event]
      | _ => repository.accepted }

/-- The repository after a run of calls, from the empty one. -/
def repositoryAfter (inputs : List (AppendCall F × Attempt)) : Repository F :=
  run Repository.step {} inputs

/-- The row that stores an event. -/
structure Stores (event : EventEnvelope F) (row : AuditEventRow) : Prop where
  eventId : row.eventId = event.eventId
  receivedAt : row.receivedAt = event.receivedAt
  digest : row.payloadHash = eventHash event
  envelope : row.envelope.without "_state_projection" = event.dump

/-- What every run establishes. -/
structure Recorded (repository : Repository F) : Prop where
  sequences : repository.tables.audit.Pairwise fun a b => a.sequence < b.sequence
  bounded : ∀ row ∈ repository.tables.audit, row.sequence < repository.tables.nextSequence
  started : 0 < repository.tables.nextSequence
  positive : ∀ row ∈ repository.tables.audit, 0 < row.sequence
  linked : Linked (·.previousHash) (·.chainHash) chainLink genesisHash repository.tables.audit
  stored : List.Forall₂ Stores repository.accepted repository.tables.audit
  ids : (repository.tables.audit.map (·.eventId)).Nodup
  keys : (repository.tables.audit.map (·.idempotencyKey)).Nodup
  receipts : repository.tables.audit.Pairwise fun a b => a.receivedAt ≤ b.receivedAt

/-- The rows are in the order of their sequence. -/
theorem Recorded.rows_eq {repository : Repository F} (h : Recorded repository) :
    repository.tables.rows = repository.tables.audit :=
  sortOn_eq_self (h.sequences.imp le_of_lt)

theorem recorded_empty : Recorded ({} : Repository F) where
  sequences := List.Pairwise.nil
  bounded := nofun
  started := Nat.one_pos
  positive := nofun
  linked := trivial
  stored := List.Forall₂.nil
  ids := List.nodup_nil
  keys := List.nodup_nil
  receipts := List.Pairwise.nil

/-- Dropping the state projection gives the dump of the event back. -/
theorem envelope_without (call : AppendCall F) :
    call.envelope.without "_state_projection" = call.event.dump := by
  have habsent := call.event.dump_get?_state
  unfold AppendCall.envelope
  cases call.state with
  | none => exact Json.without_of_get?_eq_none habsent
  | some state => exact Json.without_withMember habsent

theorem Recorded.step {repository : Repository F} (h : Recorded repository)
    (input : AppendCall F × Attempt) : Recorded (repository.step input) := by
  obtain ⟨call, attempt⟩ := input
  rcases hcall : repository.tables.append call attempt with ⟨result, tables⟩
  have hcases := append_cases repository.tables call attempt
  rw [hcall] at hcases
  rcases hcases with ⟨hno, hsame⟩ | ⟨rfl, hnew⟩
  · -- the rows and the accepted events are the same
    have hstep : repository.step (call, attempt) = ⟨tables, repository.accepted⟩ := by
      simp only [Repository.step, hcall]
    rw [hstep]
    have hbounded : ∀ row ∈ tables.audit, row.sequence < tables.nextSequence := by
      rw [hsame.audit]
      exact fun row hrow => lt_of_lt_of_le (h.bounded row hrow) hsame.sequence
    constructor
    · exact hsame.audit ▸ h.sequences
    · exact hbounded
    · exact lt_of_lt_of_le h.started hsame.sequence
    · exact hsame.audit ▸ h.positive
    · exact hsame.audit ▸ h.linked
    · exact hsame.audit ▸ h.stored
    · exact hsame.audit ▸ h.ids
    · exact hsame.audit ▸ h.keys
    · exact hsame.audit ▸ h.receipts
  · have hstep : repository.step (call, attempt) =
        ⟨tables, repository.accepted ++ [call.event]⟩ := by
      simp only [Repository.step, hcall]
    rw [hstep]
    have haudit : tables.audit = repository.tables.audit ++ [repository.tables.rowOf call] :=
      hnew.audit
    have htail : repository.tables.tail = repository.tables.audit.getLast? := by
      rw [Tables.tail, h.rows_eq]
    have hprevious : (repository.tables.rowOf call).previousHash =
        tip (·.chainHash) genesisHash repository.tables.audit := by
      rw [tip_eq_getLast?, ← htail]
      rfl
    constructor
    · show tables.audit.Pairwise _
      rw [haudit, List.pairwise_append]
      refine ⟨h.sequences, List.pairwise_singleton _ _, ?_⟩
      intro row hrow new hnew
      obtain rfl := List.mem_singleton.mp hnew
      exact h.bounded row hrow
    · show ∀ row ∈ tables.audit, row.sequence < tables.nextSequence
      rw [haudit, hnew.sequence]
      intro row hrow
      rcases List.mem_append.mp hrow with hrow | hrow
      · exact Nat.lt_succ_of_lt (h.bounded row hrow)
      · obtain rfl := List.mem_singleton.mp hrow
        exact Nat.lt_succ_self _
    · show 0 < tables.nextSequence
      rw [hnew.sequence]
      exact Nat.succ_pos _
    · show ∀ row ∈ tables.audit, 0 < row.sequence
      rw [haudit]
      intro row hrow
      rcases List.mem_append.mp hrow with hrow | hrow
      · exact h.positive row hrow
      · obtain rfl := List.mem_singleton.mp hrow
        exact h.started
    · show Linked _ _ _ _ tables.audit
      rw [haudit]
      exact h.linked.concat hprevious (by rw [← hprevious]; rfl)
    · show List.Forall₂ Stores _ tables.audit
      rw [haudit]
      refine List.rel_append h.stored (List.Forall₂.cons ?_ List.Forall₂.nil)
      exact ⟨rfl, rfl, rfl, envelope_without call⟩
    · show (tables.audit.map (·.eventId)).Nodup
      rw [haudit, List.map_append, List.nodup_append]
      refine ⟨h.ids, List.nodup_singleton _, ?_⟩
      intro a ha b hb hab
      obtain ⟨row, hrow, rfl⟩ := List.mem_map.mp ha
      obtain rfl := List.mem_singleton.mp hb
      exact (hnew.fresh row hrow).1 hab
    · show (tables.audit.map (·.idempotencyKey)).Nodup
      rw [haudit, List.map_append, List.nodup_append]
      refine ⟨h.keys, List.nodup_singleton _, ?_⟩
      intro a ha b hb hab
      obtain ⟨row, hrow, rfl⟩ := List.mem_map.mp ha
      obtain rfl := List.mem_singleton.mp hb
      exact (hnew.fresh row hrow).2 hab
    · show tables.audit.Pairwise _
      rw [haudit, List.pairwise_append]
      refine ⟨h.receipts, List.pairwise_singleton _ _, ?_⟩
      intro row hrow new hmem
      obtain rfl := List.mem_singleton.mp hmem
      -- every row is received no later than the newest one
      obtain ⟨init, last, hlast⟩ := List.eq_nil_or_concat repository.tables.audit |>.resolve_left
        (List.ne_nil_of_mem hrow)
      have hle := hnew.ordered last (by rw [htail, hlast, List.concat_eq_append,
        List.getLast?_concat])
      have hreceipts := h.receipts
      rw [hlast, List.concat_eq_append] at hrow hreceipts
      rcases List.mem_append.mp hrow with hrow | hrow
      · exact le_trans ((List.pairwise_append.mp hreceipts).2.2 row hrow last
          List.mem_cons_self) hle
      · obtain rfl := List.mem_singleton.mp hrow
        exact hle

/-- Every run keeps the log. -/
theorem recorded_run (inputs : List (AppendCall F × Attempt)) :
    Recorded (repositoryAfter inputs) :=
  run_invariant recorded_empty (fun _ input h => h.step input) inputs

/-- Every accepted event is the event of a call. -/
theorem accepted_of_run (inputs : List (AppendCall F × Attempt)) :
    ∀ event ∈ (repositoryAfter inputs).accepted, ∃ input ∈ inputs, input.1.event = event := by
  refine run_history (P := fun seen (repository : Repository F) =>
    ∀ event ∈ repository.accepted, ∃ input ∈ seen, input.1.event = event) ?_ ?_ inputs
  · exact fun event hevent => by cases hevent
  intro seen repository input hall event hevent
  have hearlier : event ∈ repository.accepted →
      ∃ input' ∈ seen ++ [input], input'.1.event = event := by
    intro hmem
    obtain ⟨input', hinput', rfl⟩ := hall event hmem
    exact ⟨input', List.mem_append_left _ hinput', rfl⟩
  simp only [Repository.step] at hevent
  split at hevent
  · rcases List.mem_append.mp hevent with hevent | hevent
    · exact hearlier hevent
    · obtain rfl := List.mem_singleton.mp hevent
      exact ⟨input, by simp, rfl⟩
  · exact hearlier hevent

end Log

section Read

variable {validate : Json → Except PyError (EventEnvelope F)}

/-- The chain of stored events reads back as the events after the given sequence. -/
theorem readFrom_eq {events : List (EventEnvelope F)} {rows : List AuditEventRow}
    (hstored : List.Forall₂ Stores events rows) {previous : Digest}
    (hlinked : Linked (·.previousHash) (·.chainHash) chainLink previous rows)
    (hround : ∀ event ∈ events, validate event.dump = .ok event) (afterSequence : Nat) :
    Tables.readFrom validate afterSequence previous rows =
      .ok (((events.zip rows).filter fun p => afterSequence < p.2.sequence).map (·.1)) := by
  induction hstored generalizing previous with
  | nil => rfl
  | @cons event row events rows hrow _ ih =>
    obtain ⟨hprevious, hhash, hrest⟩ := hlinked
    have hlater := ih hrest fun e he => hround e (List.mem_cons_of_mem _ he)
    have hvalid : validate (row.envelope.without "_state_projection") = .ok event := by
      rw [hrow.envelope]
      exact hround event List.mem_cons_self
    rw [Tables.readFrom, if_neg (by simp [hprevious, hhash])]
    simp only [hvalid, hlater, hrow.digest, ne_eq, not_true_eq_false, if_false, bind, Except.bind]
    by_cases hafter : afterSequence < row.sequence <;> simp [hafter]

/-- What holds of a repository after every run. -/
structure SoundLog (validate : Json → Except PyError (EventEnvelope F))
    (repository : Repository F) : Prop where
  ids_distinct : (repository.tables.rows.map (·.eventId)).Nodup
  keys_distinct : (repository.tables.rows.map (·.idempotencyKey)).Nodup
  sequences_increase : repository.tables.rows.Pairwise fun a b => a.sequence < b.sequence
  receipts_ordered : repository.tables.rows.Pairwise fun a b => a.receivedAt ≤ b.receivedAt
  /-- Reading returns exactly the events of the calls that returned `True`. -/
  read_all : repository.tables.readEvents validate = .ok repository.accepted
  /-- Reading after a sequence returns the suffix of the rows with a larger one. -/
  read_after : ∀ afterSequence, ∃ k,
    repository.tables.readEvents validate afterSequence = .ok (repository.accepted.drop k) ∧
    ∀ i row, repository.tables.rows[i]? = some row → (afterSequence < row.sequence ↔ k ≤ i)
  /-- A replay from the first receipt emits every accepted event once, in order. -/
  replays : ∀ first, repository.accepted.head? = some first →
    ∀ emit : EventEnvelope F → Except PyError Unit, (∀ event, emit event = .ok ()) →
      (ReplayEngine.run emit { clock := ⟨first.receivedAt⟩ } repository.accepted).1.emitted =
        repository.accepted ∧
      (ReplayEngine.run emit { clock := ⟨first.receivedAt⟩ } repository.accepted).2 =
        .ok repository.accepted.length

theorem Recorded.sound {repository : Repository F} (h : Recorded repository)
    (hround : ∀ event ∈ repository.accepted, validate event.dump = .ok event) :
    SoundLog validate repository := by
  have hlength := h.stored.length_eq
  have hread : ∀ afterSequence, repository.tables.readEvents validate afterSequence =
      .ok (((repository.accepted.zip repository.tables.audit).filter fun p =>
        afterSequence < p.2.sequence).map (·.1)) := by
    intro afterSequence
    rw [Tables.readEvents, h.rows_eq]
    exact readFrom_eq h.stored h.linked hround afterSequence
  have hsuffix : ∀ afterSequence, ∃ k,
      repository.tables.readEvents validate afterSequence = .ok (repository.accepted.drop k) ∧
      ∀ i row, repository.tables.audit[i]? = some row →
        (afterSequence < row.sequence ↔ k ≤ i) := by
    intro afterSequence
    have hpairs : (repository.accepted.zip repository.tables.audit).Pairwise fun a b =>
        decide (afterSequence < a.2.sequence) = true →
          decide (afterSequence < b.2.sequence) = true := by
      have hrows : ((repository.accepted.zip repository.tables.audit).map (·.2)).Pairwise
          fun a b => a.sequence < b.sequence := by
        rw [List.map_snd_zip hlength.ge]
        exact h.sequences
      refine (List.pairwise_map.mp hrows).imp ?_
      intro a b hab ha
      rw [decide_eq_true_eq] at ha ⊢
      exact lt_trans ha hab
    obtain ⟨k, hfilter, hiff⟩ := filter_eq_drop hpairs
    refine ⟨k, ?_, ?_⟩
    · rw [hread, hfilter, List.map_drop, List.map_fst_zip hlength.le]
    · intro i row hrow
      obtain ⟨hi, hget⟩ := List.getElem?_eq_some_iff.mp hrow
      have hlt : i < repository.accepted.length := hlength ▸ hi
      have hpair : (repository.accepted.zip repository.tables.audit)[i]? =
          some (repository.accepted[i], row) := by
        rw [List.getElem?_zip_eq_some]
        exact ⟨List.getElem?_eq_getElem _, hrow⟩
      simpa using hiff i _ hpair
  have hids : (repository.accepted.map (·.eventId)).Nodup := by
    rw [← map_eq_of_related (g := (·.eventId)) h.stored fun _ _ hs => hs.eventId]
    exact h.ids
  have hreceipts : (repository.accepted.map (·.receivedAt)).Pairwise (· ≤ ·) := by
    rw [← map_eq_of_related (g := (·.receivedAt)) h.stored fun _ _ hs => hs.receivedAt]
    exact List.pairwise_map.mpr h.receipts
  rw [List.pairwise_map] at hreceipts
  constructor
  · rw [h.rows_eq]; exact h.ids
  · rw [h.rows_eq]; exact h.keys
  · rw [h.rows_eq]; exact h.sequences
  · rw [h.rows_eq]; exact h.receipts
  · have hall : (repository.accepted.zip repository.tables.audit).filter
        (fun p => decide (0 < p.2.sequence)) = repository.accepted.zip repository.tables.audit := by
      refine List.filter_eq_self.mpr fun p hp => ?_
      rw [decide_eq_true_eq]
      exact h.positive p.2 (List.of_mem_zip hp).2
    rw [hread, hall, List.map_fst_zip hlength.le]
  · rw [h.rows_eq]; exact hsuffix
  · intro first hfirst emit hemit
    have hafter : ∀ event ∈ repository.accepted, first.receivedAt ≤ event.receivedAt := by
      obtain ⟨rest, hrest⟩ := List.head?_eq_some_iff.mp hfirst
      rw [hrest] at hreceipts ⊢
      intro event hevent
      rcases List.mem_cons.mp hevent with rfl | hevent
      · exact le_refl _
      · exact (List.pairwise_cons.mp hreceipts).1 event hevent
    simpa using ReplayEngine.run_of_ordered hemit repository.accepted
      { clock := ⟨first.receivedAt⟩ } hids (by simp) hafter hreceipts

/-- After every run of calls the audit log is sound, provided that validating the dump of
    an appended event gives the event back. -/
theorem append_runs_sound (inputs : List (AppendCall F × Attempt))
    (hround : ∀ input ∈ inputs, validate input.1.event.dump = .ok input.1.event) :
    SoundLog validate (repositoryAfter inputs) := by
  refine (recorded_run inputs).sound ?_
  intro event hevent
  obtain ⟨input, hinput, rfl⟩ := accepted_of_run inputs event hevent
  exact hround input hinput

end Read

end Godzilla.Storage

namespace Godzilla.Storage.Sample
open Events MarketData Godzilla.Sample

/-- A quote received at `instant`. -/
def quote (instant : Instant) : Quote where
  instrumentId := "INFY"
  source := "feed"
  receivedAt := instant
  timestamp := instant
  bid := 100
  ask := 101
  last := 100

/-- The event of a quote. -/
def event (id : Nat) (source : String) (instant : Instant) : EventEnvelope ℚ where
  eventId := Uuid.ofNat id
  correlationId := Uuid.ofNat id
  occurredAt := instant
  receivedAt := instant
  source := source
  provenance := ⟨"commit", "config", "data", "features"⟩
  payload := .quoteUpdate (quote instant)
  received_after := le_refl _
  causal_times := ⟨rfl, le_refl _⟩

/-- Two events, and the keys they are appended under. -/
def opening : AppendCall ℚ where
  event := event 1 "opening" 0
  key := "000000000000000000000000000000000000000000000000000000000000000a"

@[inherit_doc opening]
def later : AppendCall ℚ where
  event := event 2 "later" 5
  key := "000000000000000000000000000000000000000000000000000000000000000b"

/-- The two envelopes differ in their source. -/
def validate (envelope : Misc.Json) : Except PyError (EventEnvelope ℚ) :=
  if envelope.get? "source" = some (.str "opening") then .ok opening.event else .ok later.event

/-- A database that returns the first matching row and does not fail. -/
def attempt : Attempt where
  first := List.head?
  first_mem := List.mem_of_head?
  first_none := List.head?_eq_none_iff.mp

/-- A database that fails when the transaction is written. -/
def failing : Attempt := { attempt with fault := some (.databaseError "connection lost") }

/-- A lost write, an event, its redelivery and a later event. -/
def calls : List (AppendCall ℚ × Attempt) :=
  [(later, failing), (opening, attempt), (opening, attempt), (later, attempt)]

/-- The log of the run holds the two events, the second under the third sequence value. -/
theorem append_runs_sound_redelivery :
    SoundLog validate (repositoryAfter calls) ∧
      (repositoryAfter calls).tables.rows.map (fun row => (row.sequence, row.eventId)) =
        [(2, Uuid.ofNat 1), (3, Uuid.ofNat 2)] := by
  refine ⟨append_runs_sound calls ?_, by decide +kernel⟩
  intro input hinput
  simp only [calls, List.mem_cons, List.not_mem_nil, or_false] at hinput
  rcases hinput with rfl | rfl | rfl | rfl <;> rfl

end Godzilla.Storage.Sample
