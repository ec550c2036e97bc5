import Godzilla.Storage.AuditLog

/-!
# What the audit chain binds

Any two audit tables that `read_events` accepts and whose last rows carry the same
chain hash hold the same history. The rows need not come from `append`: only the
reader's own checks are used.
-/

namespace Godzilla.Storage
open Godzilla Events Misc

variable {F : Type} [PyFloat F] [Platform]

/-- What a link of the chain binds of a row. -/
def AuditEventRow.bound (row : AuditEventRow) : String × Json := (row.idempotencyKey, row.envelope)

/-- The hashes of a row that `read_events` checks. -/
def AuditEventRow.hashes (row : AuditEventRow) : Digest × Digest × Digest :=
  (row.previousHash, row.chainHash, row.payloadHash)

/-- `tail.chain_hash` (`storage/postgres.py:114`), absent for an empty table. -/
def Tables.lastHash (tables : Tables F) : Option Digest := tables.tail.map (·.chainHash)

section Read

variable {validate : Json → Except PyError (EventEnvelope F)}

/-- The event a row reads back as. -/
structure ReadsAs (validate : Json → Except PyError (EventEnvelope F)) (row : AuditEventRow)
    (event : EventEnvelope F) : Prop where
  valid : validate (row.envelope.without "_state_projection") = .ok event
  digest : row.payloadHash = eventHash event

/-- What a successful read has checked: the chain, and the event of every row. -/
theorem readFrom_sound {afterSequence : Nat} {rows : List AuditEventRow} {previous : Digest}
    {events : List (EventEnvelope F)}
    (h : Tables.readFrom validate afterSequence previous rows = .ok events) :
    Linked AuditEventRow.previousHash AuditEventRow.chainHash chainLink previous rows ∧
    ∃ all, List.Forall₂ (ReadsAs validate) rows all ∧
      ((∀ row ∈ rows, afterSequence < row.sequence) → events = all) := by
  induction rows generalizing previous events with
  | nil =>
    obtain rfl : [] = events := by simpa [Tables.readFrom] using h
    exact ⟨trivial, [], List.Forall₂.nil, fun _ => rfl⟩
  | cons row rest ih =>
    rw [Tables.readFrom] at h
    split at h
    · cases h
    rename_i hchain
    obtain ⟨hprevious, hhash⟩ : row.previousHash = previous ∧
        row.chainHash = chainLink previous row := by simpa [not_or] using hchain
    cases hvalid : validate (row.envelope.without "_state_projection") with
    | error e => simp [hvalid, bind, Except.bind] at h
    | ok event =>
      simp only [hvalid, bind, Except.bind] at h
      split at h
      · cases h
      rename_i hdigest
      cases hlater : Tables.readFrom validate afterSequence row.chainHash rest with
      | error e => simp [hlater] at h
      | ok later =>
        simp only [hlater, Except.ok.injEq] at h
        obtain ⟨hlinked, all, hall, hevents⟩ := ih hlater
        refine ⟨⟨hprevious, hhash, hlinked⟩, event :: all,
          List.Forall₂.cons ⟨hvalid, not_not.mp hdigest⟩ hall, ?_⟩
        intro hafter
        rw [← h, if_pos (hafter row List.mem_cons_self),
          hevents fun r hr => hafter r (List.mem_cons_of_mem _ hr)]

/-- Rows with the same envelopes read as the same events. -/
theorem readsAs_eq {rows rows' : List AuditEventRow} {all all' : List (EventEnvelope F)}
    (h : List.Forall₂ (ReadsAs validate) rows all)
    (h' : List.Forall₂ (ReadsAs validate) rows' all')
    (hbound : rows.map AuditEventRow.bound = rows'.map AuditEventRow.bound) :
    all = all' ∧ rows.map (·.payloadHash) = rows'.map (·.payloadHash) := by
  induction h generalizing rows' all' with
  | nil =>
    cases h' with
    | nil => exact ⟨rfl, rfl⟩
    | cons => simp at hbound
  | @cons row event rows all hrow _ ih =>
    cases h' with
    | nil => simp at hbound
    | @cons row' event' rows' all' hrow' hrest' =>
      rw [List.map_cons, List.map_cons, List.cons.injEq] at hbound
      have henvelope : row.envelope = row'.envelope := congrArg Prod.snd hbound.1
      have hvalid := hrow.valid
      rw [henvelope, hrow'.valid, Except.ok.injEq] at hvalid
      obtain ⟨hall, hdigests⟩ := ih hrest' hbound.2
      refine ⟨by rw [hvalid, hall], ?_⟩
      rw [List.map_cons, List.map_cons, hdigests, hrow.digest, hrow'.digest, hvalid]

/-- Chained rows with the same keys and envelopes carry the same hashes. -/
theorem hashes_of_linked {rows rows' : List AuditEventRow} {previous : Digest}
    (h : Linked AuditEventRow.previousHash AuditEventRow.chainHash chainLink previous rows)
    (h' : Linked AuditEventRow.previousHash AuditEventRow.chainHash chainLink previous rows')
    (hbound : rows.map AuditEventRow.bound = rows'.map AuditEventRow.bound)
    (hdigests : rows.map (·.payloadHash) = rows'.map (·.payloadHash)) :
    rows.map AuditEventRow.hashes = rows'.map AuditEventRow.hashes := by
  induction rows generalizing previous rows' with
  | nil =>
    cases rows' with
    | nil => rfl
    | cons => simp at hbound
  | cons row rows ih =>
    cases rows' with
    | nil => simp at hbound
    | cons row' rows' =>
      obtain ⟨hprevious, hhash, hrest⟩ :
          row.previousHash = previous ∧ row.chainHash = chainLink previous row ∧
            Linked AuditEventRow.previousHash AuditEventRow.chainHash chainLink row.chainHash rows := h
      obtain ⟨hprevious', hhash', hrest'⟩ :
          row'.previousHash = previous ∧ row'.chainHash = chainLink previous row' ∧
            Linked AuditEventRow.previousHash AuditEventRow.chainHash chainLink row'.chainHash
              rows' := h'
      simp only [List.map_cons, List.cons.injEq] at hbound hdigests ⊢
      obtain ⟨hkey, henvelope⟩ := Prod.mk.inj hbound.1
      have hchain : row.chainHash = row'.chainHash := by
        rw [hhash, hhash', chainLink, chainLink, hkey, henvelope]
      refine ⟨?_, ih hrest (by rw [hchain]; exact hrest') hbound.2 hdigests.2⟩
      rw [AuditEventRow.hashes, AuditEventRow.hashes, hprevious, hprevious', hchain, hdigests.1]

end Read

/-- Two tables hold the same history. -/
structure SameHistory (first second : Tables F) : Prop where
  length : first.rows.length = second.rows.length
  /-- The same idempotency keys and envelopes, in the same order. -/
  bound : first.rows.map AuditEventRow.bound = second.rows.map AuditEventRow.bound
  /-- The same hashes on every row. -/
  hashes : first.rows.map AuditEventRow.hashes = second.rows.map AuditEventRow.hashes

variable {validate : Json → Except PyError (EventEnvelope F)} {first second : Tables F}

/-- Nonempty tables that read successfully and end with the same chain hash hold the same
    history, and reads that leave no row out return the same events. -/
theorem history_of_lastHash (hinjective : Function.Injective (Platform.sha256 : Json → Digest))
    (hgenesis : ∀ value, Platform.sha256 value ≠ genesisHash) {hash : Digest}
    (hfirst : first.lastHash = some hash) (hsecond : second.lastHash = some hash)
    {a b : Nat} {events events' : List (EventEnvelope F)}
    (hread : first.readEvents validate a = .ok events)
    (hread' : second.readEvents validate b = .ok events') :
    SameHistory first second ∧
      ((∀ row ∈ first.rows, a < row.sequence) → (∀ row ∈ second.rows, b < row.sequence) →
        events = events') := by
  obtain ⟨hlinked, all, hall, hevents⟩ := readFrom_sound hread
  obtain ⟨hlinked', all', hall', hevents'⟩ := readFrom_sound hread'
  have htip : tip AuditEventRow.chainHash genesisHash first.rows =
      tip AuditEventRow.chainHash genesisHash second.rows := by
    have heq : first.rows.getLast?.map (·.chainHash) = second.rows.getLast?.map (·.chainHash) :=
      hfirst.trans hsecond.symm
    rw [tip_eq_getLast?, tip_eq_getLast?, heq]
  -- a link determines the hash before it, the key and the envelope
  have hlink : ∀ (p q : Digest) (r s : AuditEventRow), chainLink p r = chainLink q s →
      p = q ∧ r.bound = s.bound := by
    intro p q r s h
    have htree := hinjective h
    simp only [Json.arr.injEq, List.cons.injEq, Json.str.injEq, and_true] at htree
    exact ⟨htree.1, Prod.ext htree.2.1 htree.2.2⟩
  have hbound := hlinked.contents_eq_of_tip_eq hlink (fun p r => hgenesis _) hlinked' htip
  obtain ⟨rfl, hdigests⟩ := readsAs_eq hall hall' hbound
  refine ⟨⟨by simpa using congrArg List.length hbound, hbound,
    hashes_of_linked hlinked hlinked' hbound hdigests⟩, ?_⟩
  intro ha hb
  rw [hevents ha, hevents' hb]

/-- The chain hash of the last row binds the whole history: a table that reads successfully
    and ends with it has the same keys, envelopes and events, and one with other keys or
    envelopes, or with other hashes, does not read. -/
theorem readEvents_binds_history
    (hinjective : Function.Injective (Platform.sha256 : Json → Digest))
    (hgenesis : ∀ value, Platform.sha256 value ≠ genesisHash) {hash : Digest}
    (hfirst : first.lastHash = some hash) (hsecond : second.lastHash = some hash)
    {a : Nat} {events : List (EventEnvelope F)}
    (hread : first.readEvents validate a = .ok events) (b : Nat) :
    (∀ events', second.readEvents validate b = .ok events' →
      SameHistory first second ∧
        ((∀ row ∈ first.rows, a < row.sequence) → (∀ row ∈ second.rows, b < row.sequence) →
          events = events')) ∧
    (¬ SameHistory first second → ∃ e, second.readEvents validate b = .error e) := by
  have hsame : ∀ events', second.readEvents validate b = .ok events' →
      SameHistory first second ∧
        ((∀ row ∈ first.rows, a < row.sequence) → (∀ row ∈ second.rows, b < row.sequence) →
          events = events') :=
    fun events' hread' => history_of_lastHash hinjective hgenesis hfirst hsecond hread hread'
  refine ⟨hsame, fun hdiffers => ?_⟩
  cases hread' : second.readEvents validate b with
  | error e => exact ⟨e, rfl⟩
  | ok events' => exact absurd (hsame events' hread').1 hdiffers

end Godzilla.Storage

/-! A log whose digests are texts, and the same log with its rows renumbered. -/

namespace Godzilla.TextDigest

/-- Every text starts with a tag, and no tag is a zero. -/
theorem sha256_ne_genesisHash (value : Misc.Json) :
    Platform.sha256 value ≠ Storage.genesisHash := by
  intro h
  have hlist : value.code = Storage.genesisHash.toList := by
    rw [← h]
    exact String.toList_ofList.symm
  cases value with
  | bool v => cases v <;> simp [Misc.Json.code, Storage.genesisHash] at hlist
  | _ => simp [Misc.Json.code, Storage.genesisHash] at hlist

end Godzilla.TextDigest

namespace Godzilla.Storage.TextDigest
open Events MarketData Misc Godzilla.TextDigest

/-- The event of a quote received at `instant`. -/
def event (id : Nat) (source : String) (instant : Int) : EventEnvelope ℚ where
  eventId := Uuid.ofNat id
  correlationId := Uuid.ofNat id
  occurredAt := instant
  receivedAt := instant
  source := source
  provenance := ⟨"commit", "config", "data", "features"⟩
  payload := .quoteUpdate (Storage.Sample.quote instant)
  received_after := le_refl _
  causal_times := ⟨rfl, le_refl _⟩

/-- A row of the chain, under its sequence. -/
def row (sequence : Nat) (previous : Digest) (key : String) (event : EventEnvelope ℚ) :
    AuditEventRow where
  sequence := sequence
  eventId := event.eventId
  correlationId := event.correlationId
  idempotencyKey := key
  eventType := event.payload.kind
  occurredAt := event.occurredAt
  receivedAt := event.receivedAt
  source := event.source
  provenanceId := Platform.sha256 event.provenance.dump
  payloadHash := eventHash event
  previousHash := previous
  chainHash := Platform.sha256 (.arr [.str previous, .str key, event.dump])
  envelope := event.dump

/-- Two events under the given sequences. -/
def log (first second : Nat) : Tables ℚ where
  audit :=
    let opening := row first genesisHash "a" (event 1 "opening" 0)
    [opening, row second opening.chainHash "b" (event 2 "later" 5)]

/-- The two envelopes differ in their source. -/
def validate (envelope : Json) : Except PyError (EventEnvelope ℚ) :=
  if envelope.get? "source" = some (.str "opening") then .ok (event 1 "opening" 0)
  else .ok (event 2 "later" 5)

theorem rows_log {first second : Nat} (h : first ≤ second) :
    (log first second).rows = (log first second).audit :=
  sortOn_eq_self (by simpa [log, row] using h)

theorem readEvents_log {first second : Nat} (hpos : 0 < first) (h : first ≤ second) :
    (log first second).readEvents validate = .ok [event 1 "opening" 0, event 2 "later" 5] := by
  have hstored : List.Forall₂ Stores [event 1 "opening" 0, event 2 "later" 5]
      (log first second).audit :=
    .cons ⟨rfl, rfl, rfl, rfl⟩ (.cons ⟨rfl, rfl, rfl, rfl⟩ .nil)
  have hlinked : Linked (·.previousHash) (·.chainHash) chainLink genesisHash
      (log first second).audit := ⟨rfl, rfl, rfl, rfl, trivial⟩
  rw [Tables.readEvents, rows_log h, readFrom_eq hstored hlinked (by simp; exact ⟨rfl, rfl⟩)]
  have hpos' : 0 < second := lt_of_lt_of_le hpos h
  simp [log, row, hpos, hpos']

/-- Renumbering the rows changes neither the last hash nor the history. -/
theorem readEvents_binds_history_renumbered : SameHistory (log 1 2) (log 5 9) := by
  have hlast : ∀ first second, first ≤ second → (log first second).lastHash =
      some (Platform.sha256 (.arr [.str (row 1 genesisHash "a" (event 1 "opening" 0)).chainHash,
        .str "b", (event 2 "later" 5).dump])) := by
    intro first second h
    rw [Tables.lastHash, Tables.tail, rows_log h]
    rfl
  exact ((readEvents_binds_history Json.text_injective sha256_ne_genesisHash
    (hlast 1 2 (by decide)) (hlast 5 9 (by decide))
    (readEvents_log (by decide) (by decide)) 0).1 _ (readEvents_log (by decide) (by decide))).1

end Godzilla.Storage.TextDigest
