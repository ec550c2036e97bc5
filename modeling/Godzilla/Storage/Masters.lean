import Godzilla.MarketData.Instruments
import Godzilla.Misc.Projection
import Godzilla.Misc.Raises
import Godzilla.Misc.Transition
import Godzilla.Storage.Models

/-!
# Instrument masters

`save_master` and `get_master` (`storage/postgres.py:319-368`). A snapshot id is written
once: from then on it stands for the content of the first call that returned, whatever
is saved later and whichever transactions fail.
-/

namespace Godzilla.Storage
open Godzilla MarketData Misc

/-- `InstrumentVersionRow` (`storage/models.py:40-48`). -/
structure InstrumentVersionRow where
  snapshotId : String
  version : String
  contentHash : Digest
  asOf : Date
  generatedAt : Instant
  sourceReference : String
  payload : Json

/-- `InstrumentRow` (`storage/models.py:51-67`); its columns are those of the instrument. -/
structure InstrumentRow where
  snapshotId : String
  instrument : Instrument
  payload : Json

/-- The tables of the masters. -/
structure MasterTables where
  versions : List InstrumentVersionRow := []
  instruments : List InstrumentRow := []

variable [Platform]

/-- Another row has the snapshot and token of the row. -/
def InstrumentRow.clash (row other : InstrumentRow) : Bool :=
  row.snapshotId == other.snapshotId && row.instrument.token == other.instrument.token

/-- The row of a snapshot. -/
def versionRow (snapshot : InstrumentMasterSnapshot) : InstrumentVersionRow where
  snapshotId := snapshot.snapshotId
  version := snapshot.version
  contentHash := Godzilla.contentHash snapshot
  asOf := snapshot.asOf
  generatedAt := snapshot.generatedAt
  sourceReference := snapshot.sourceReference
  payload := Platform.modelDump snapshot

/-- The row of one of its instruments. -/
def instrumentRow (snapshotId : String) (instrument : Instrument) : InstrumentRow :=
  ⟨snapshotId, instrument, Platform.modelDump instrument⟩

/-- One call of `save_master`: whether the `generated_at` of the snapshot has a UTC offset, and
    the failure of the transaction, if it fails. -/
structure SaveCall where
  snapshot : InstrumentMasterSnapshot
  aware : Bool := true
  fault : Option PyError := none

namespace MasterTables

/-- `save_master` (`storage/postgres.py:319-359`). -/
def saveMaster (tables : MasterTables) (call : SaveCall) : Except PyError Unit × MasterTables :=
  if call.aware = false then
    (.error (.valueError "instrument snapshot receipt must be timezone-aware"), tables)
  else
    match tables.versions.find? (·.snapshotId == call.snapshot.snapshotId) with
    | some previous =>
      if previous.contentHash ≠ contentHash call.snapshot then
        (.error (.idempotencyConflict "instrument snapshot ID content conflict"), tables)
      else (.ok (), tables)
    | none =>
      let rows := call.snapshot.instruments.map (instrumentRow call.snapshot.snapshotId)
      match rows.foldlM (insertRow InstrumentRow.clash) tables.instruments, call.fault with
      | .error e, _ | .ok _, some e => (.error e, tables)
      | .ok instruments, none =>
        (.ok (), { versions := tables.versions ++ [versionRow call.snapshot], instruments })

/-- `get_master` (`storage/postgres.py:361-368`), with
    `InstrumentMasterSnapshot.model_validate` as a parameter. -/
def getMaster (tables : MasterTables)
    (validate : Json → Except PyError InstrumentMasterSnapshot) (snapshotId : String) :
    Except PyError (Option InstrumentMasterSnapshot) :=
  match tables.versions.find? (·.snapshotId == snapshotId) with
  | none => .ok none
  | some row =>
    if Platform.sha256 row.payload ≠ row.contentHash then
      .error (.valueError "instrument snapshot integrity failure")
    else (validate row.payload).map some

end MasterTables

/-- The tables and the snapshots of the calls that returned, in their order. -/
structure Masters where
  tables : MasterTables := {}
  saved : List InstrumentMasterSnapshot := []

/-- One call. -/
def Masters.step (masters : Masters) (call : SaveCall) : Masters :=
  match masters.tables.saveMaster call with
  | (.ok (), tables) => ⟨tables, masters.saved ++ [call.snapshot]⟩
  | (.error _, tables) => ⟨tables, masters.saved⟩

/-- The masters after a run of calls on empty tables. -/
def mastersAfter (calls : List SaveCall) : Masters := run Masters.step {} calls

/-- What a call does: it repeats a snapshot, it raises and changes nothing, or it writes a
    snapshot under a new id with its instruments. -/
theorem saveMaster_cases (tables : MasterTables) (call : SaveCall) :
    (call.aware = true ∧ ∃ previous, tables.versions.find? (·.snapshotId == call.snapshot.snapshotId) =
        some previous ∧ previous.contentHash = contentHash call.snapshot ∧
        tables.saveMaster call = (.ok (), tables)) ∨
    (∃ e, tables.saveMaster call = (.error e, tables)) ∨
    (call.aware = true ∧
      tables.versions.find? (·.snapshotId == call.snapshot.snapshotId) = none ∧
      ∃ instruments, (call.snapshot.instruments.map
          (instrumentRow call.snapshot.snapshotId)).foldlM (insertRow InstrumentRow.clash)
            tables.instruments = .ok instruments ∧
        tables.saveMaster call =
          (.ok (), ⟨tables.versions ++ [versionRow call.snapshot], instruments⟩)) := by
  unfold MasterTables.saveMaster
  by_cases haware : call.aware = false
  · rw [if_pos haware]
    exact Or.inr (Or.inl ⟨_, rfl⟩)
  rw [if_neg haware]
  rw [Bool.not_eq_false] at haware
  cases hfind : tables.versions.find? (·.snapshotId == call.snapshot.snapshotId) with
  | some previous =>
    by_cases hhash : previous.contentHash = contentHash call.snapshot
    · exact Or.inl ⟨haware, previous, rfl, hhash,
        by simp only [hhash, ne_eq, not_true_eq_false, if_false]⟩
    · exact Or.inr (Or.inl ⟨_, by simp only [ne_eq, hhash, not_false_eq_true, if_true]; rfl⟩)
  | none =>
    right
    cases hrows : (call.snapshot.instruments.map
        (instrumentRow call.snapshot.snapshotId)).foldlM (insertRow InstrumentRow.clash)
          tables.instruments with
    | error e => exact Or.inl ⟨e, by simp only [hrows]⟩
    | ok instruments =>
      cases hfault : call.fault with
      | some e => exact Or.inl ⟨e, by simp only [hrows]⟩
      | none => exact Or.inr ⟨haware, rfl, instruments, rfl, by simp only [hrows]⟩

omit [Platform] in
/-- Rows that are inserted one after the other stand behind those before, and clash neither
    with them nor with each other. -/
theorem foldlM_insertRow {Row : Type} {clash : Row → Row → Bool} {rows start result : List Row}
    (h : rows.foldlM (insertRow clash) start = .ok result) :
    result = start ++ rows ∧ (∀ row ∈ rows, ∀ earlier ∈ start, clash row earlier = false) ∧
      rows.Pairwise fun earlier later => clash later earlier = false := by
  induction rows generalizing start with
  | nil =>
    obtain rfl := Except.ok.inj h
    refine ⟨(List.append_nil start).symm, ?_, List.Pairwise.nil⟩
    intro row hrow
    cases hrow
  | cons row rows ih =>
    rw [List.foldlM_cons] at h
    obtain ⟨next, hinsert, hrest⟩ := bind_ok h
    obtain ⟨hnext, hfresh⟩ := insertRow_ok hinsert
    obtain ⟨hresult, hbefore, hpairwise⟩ := ih hrest
    rw [Option.toList_some] at hnext
    rw [hnext] at hresult hbefore
    refine ⟨by rw [hresult, List.append_assoc, List.singleton_append], ?_,
      List.Pairwise.cons ?_ hpairwise⟩
    · intro new hnew earlier hearlier
      rcases List.mem_cons.mp hnew with rfl | hnew
      · exact hfresh new rfl earlier hearlier
      · exact hbefore new hnew earlier (List.mem_append_left _ hearlier)
    · intro later hlater
      exact hbefore later hlater row (List.mem_append_right _ List.mem_cons_self)

/-- The first saved snapshot under an id. -/
def Masters.first (masters : Masters) (snapshotId : String) : Option InstrumentMasterSnapshot :=
  masters.saved.find? (·.snapshotId == snapshotId)

/-- What every call keeps: an id stands for the first snapshot saved under it. -/
structure FirstSaved (masters : Masters) : Prop where
  versions : ∀ id, masters.tables.versions.find? (·.snapshotId == id) =
    (masters.first id).map versionRow
  instruments : ∀ id, masters.tables.instruments.filter (·.snapshotId == id) =
    ((masters.first id).map fun s => s.instruments.map (instrumentRow id)).getD []
  tokens : ∀ id s, masters.first id = some s → (s.instruments.map (·.token)).Nodup
  hashes : ∀ s ∈ masters.saved, ∃ f, masters.first s.snapshotId = some f ∧
    contentHash f = contentHash s

omit [Platform] in
theorem Masters.first_concat (tables tables' : MasterTables)
    (saved : List InstrumentMasterSnapshot) (snapshot : InstrumentMasterSnapshot) (id : String) :
    (⟨tables', saved ++ [snapshot]⟩ : Masters).first id =
      ((⟨tables, saved⟩ : Masters).first id).or
        (if snapshot.snapshotId = id then some snapshot else none) := by
  unfold Masters.first
  rw [List.find?_append, List.find?_singleton]
  simp only [beq_iff_eq]

theorem FirstSaved.step {masters : Masters} (h : FirstSaved masters) (call : SaveCall) :
    FirstSaved (masters.step call) := by
  obtain ⟨tables, saved⟩ := masters
  rcases saveMaster_cases tables call with
    ⟨-, previous, hfind, hhash, heq⟩ | ⟨e, heq⟩ | ⟨-, hnone, instruments, hinsert, heq⟩
  · -- the snapshot was saved before
    have hstep : (⟨tables, saved⟩ : Masters).step call = ⟨tables, saved ++ [call.snapshot]⟩ := by
      simp only [Masters.step, heq]
    have hfirst := h.versions call.snapshot.snapshotId
    rw [hfind, eq_comm, Option.map_eq_some_iff] at hfirst
    obtain ⟨first, hsaved, rfl⟩ := hfirst
    have hsame : ∀ id, (⟨tables, saved ++ [call.snapshot]⟩ : Masters).first id =
        (⟨tables, saved⟩ : Masters).first id := by
      intro id
      rw [Masters.first_concat tables]
      by_cases hid : call.snapshot.snapshotId = id
      · rw [← hid, hsaved]
        rfl
      · rw [if_neg hid, Option.or_none]
    rw [hstep]
    constructor
    · intro id
      rw [hsame]
      exact h.versions id
    · intro id
      rw [hsame]
      exact h.instruments id
    · intro id s hs
      rw [hsame] at hs
      exact h.tokens id s hs
    · intro s hs
      rw [hsame]
      rcases List.mem_append.mp hs with hs | hs
      · exact h.hashes s hs
      · obtain rfl := List.mem_singleton.mp hs
        exact ⟨first, hsaved, hhash⟩
  · have hstep : (⟨tables, saved⟩ : Masters).step call = ⟨tables, saved⟩ := by
      simp only [Masters.step, heq]
    rw [hstep]
    exact h
  · -- the first snapshot under its id
    have hstep : (⟨tables, saved⟩ : Masters).step call =
        ⟨⟨tables.versions ++ [versionRow call.snapshot], instruments⟩,
          saved ++ [call.snapshot]⟩ := by
      simp only [Masters.step, heq]
    obtain ⟨rfl, -, hpairwise⟩ := foldlM_insertRow hinsert
    have hfresh : (⟨tables, saved⟩ : Masters).first call.snapshot.snapshotId = none := by
      have hversions := h.versions call.snapshot.snapshotId
      rw [hnone, eq_comm, Option.map_eq_none_iff] at hversions
      exact hversions
    have htokens : (call.snapshot.instruments.map (·.token)).Nodup := by
      rw [List.pairwise_map] at hpairwise
      rw [List.nodup_iff_pairwise_ne, List.pairwise_map]
      refine hpairwise.imp ?_
      intro a b hclash heq
      simp [InstrumentRow.clash, instrumentRow, heq] at hclash
    rw [hstep]
    have hfirst := Masters.first_concat tables
      ⟨tables.versions ++ [versionRow call.snapshot], tables.instruments ++
        call.snapshot.instruments.map (instrumentRow call.snapshot.snapshotId)⟩ saved call.snapshot
    constructor
    · intro id
      rw [hfirst]
      show (tables.versions ++ [versionRow call.snapshot]).find? _ = _
      rw [List.find?_append, h.versions id, List.find?_singleton]
      by_cases hid : call.snapshot.snapshotId = id
      · subst hid
        rw [hfresh]
        simp [versionRow]
      · simp [versionRow, hid]
    · intro id
      rw [hfirst]
      show (tables.instruments ++ _).filter _ = _
      rw [List.filter_append, h.instruments id]
      by_cases hid : call.snapshot.snapshotId = id
      · subst hid
        rw [hfresh]
        simp [List.filter_eq_self, instrumentRow]
      · rw [if_neg hid, Option.or_none]
        have hnil : (call.snapshot.instruments.map
            (instrumentRow call.snapshot.snapshotId)).filter (·.snapshotId == id) = [] := by
          simp [List.filter_eq_nil_iff, instrumentRow, hid]
        rw [hnil, List.append_nil]
    · intro id s hs
      rw [hfirst] at hs
      rcases Option.or_eq_some_iff.mp hs with hs | ⟨-, hs⟩
      · exact h.tokens id s hs
      · split at hs
        · obtain rfl := Option.some.inj hs
          exact htokens
        · cases hs
    · intro s hs
      rw [hfirst]
      rcases List.mem_append.mp hs with hs | hs
      · obtain ⟨f, hf, hhash⟩ := h.hashes s hs
        exact ⟨f, by rw [hf]; rfl, hhash⟩
      · obtain rfl := List.mem_singleton.mp hs
        exact ⟨call.snapshot, by rw [hfresh, if_pos rfl]; rfl, rfl⟩

theorem firstSaved_run (calls : List SaveCall) : FirstSaved (mastersAfter calls) := by
  refine run_invariant ?_ (fun _ call h => h.step call) calls
  exact ⟨fun _ => rfl, fun _ => rfl, fun _ _ hs => (by cases hs), fun _ hs => (by cases hs)⟩

/-- Every saved snapshot is the snapshot of a call whose receipt had an offset. -/
theorem saved_of_run (calls : List SaveCall) :
    ∀ s ∈ (mastersAfter calls).saved, ∃ call ∈ calls, call.aware = true ∧ call.snapshot = s := by
  refine run_history (P := fun seen (masters : Masters) =>
    ∀ s ∈ masters.saved, ∃ call ∈ seen, call.aware = true ∧ call.snapshot = s) ?_ ?_ calls
  · intro s hs
    cases hs
  intro seen masters call hall s hs
  have hearlier : s ∈ masters.saved →
      ∃ call' ∈ seen ++ [call], call'.aware = true ∧ call'.snapshot = s := by
    intro hmem
    obtain ⟨call', hcall', hsaved⟩ := hall s hmem
    exact ⟨call', List.mem_append_left _ hcall', hsaved⟩
  have hnew : call.aware = true → s ∈ masters.saved ++ [call.snapshot] →
      ∃ call' ∈ seen ++ [call], call'.aware = true ∧ call'.snapshot = s := by
    intro haware hmem
    rcases List.mem_append.mp hmem with hmem | hmem
    · exact hearlier hmem
    · obtain rfl := List.mem_singleton.mp hmem
      exact ⟨call, List.mem_append_right _ List.mem_cons_self, haware, rfl⟩
  rcases saveMaster_cases masters.tables call with
    ⟨haware, _, _, _, heq⟩ | ⟨e, heq⟩ | ⟨haware, _, _, _, heq⟩
  · simp only [Masters.step, heq] at hs
    exact hnew haware hs
  · simp only [Masters.step, heq] at hs
    exact hearlier hs
  · simp only [Masters.step, heq] at hs
    exact hnew haware hs

/-- The masters as a write-once store. -/
structure WriteOnce (validate : Json → Except PyError InstrumentMasterSnapshot)
    (masters : Masters) : Prop where
  /-- An id reads as the first snapshot saved under it. -/
  reads : ∀ id, masters.tables.getMaster validate id = .ok (masters.first id)
  /-- All calls that returned for one id saved one snapshot. -/
  one_content : ∀ a ∈ masters.saved, ∀ b ∈ masters.saved, a.snapshotId = b.snapshotId → a = b
  /-- The instrument rows of a saved snapshot are its instruments, under distinct tokens. -/
  rows : ∀ s ∈ masters.saved, masters.tables.instruments.filter (·.snapshotId == s.snapshotId) =
    s.instruments.map (instrumentRow s.snapshotId) ∧ (s.instruments.map (·.token)).Nodup
  /-- Saving other content under a saved id is a conflict that changes nothing, saving the
      same content again returns and changes nothing. -/
  answers : ∀ s ∈ masters.saved, ∀ call : SaveCall, call.aware = true →
    call.snapshot.snapshotId = s.snapshotId → masters.tables.saveMaster call =
      (if contentHash s = contentHash call.snapshot then .ok ()
        else .error (.idempotencyConflict "instrument snapshot ID content conflict"),
        masters.tables)

/-- After every run of `save_master`, with calls that conflict, repeat or lose their
    transaction, the masters are a write-once store. -/
theorem masters_write_once {validate : Json → Except PyError InstrumentMasterSnapshot}
    (calls : List SaveCall)
    (hvalid : ∀ call ∈ calls, call.aware = true →
      validate (Platform.modelDump call.snapshot) = .ok call.snapshot)
    (hfree : ∀ a ∈ calls, ∀ b ∈ calls, a.aware = true → b.aware = true →
      contentHash a.snapshot = contentHash b.snapshot → a.snapshot = b.snapshot) :
    WriteOnce validate (mastersAfter calls) := by
  have h := firstSaved_run calls
  have hfirst : ∀ s ∈ (mastersAfter calls).saved,
      (mastersAfter calls).first s.snapshotId = some s := by
    intro s hs
    obtain ⟨f, hf, hhash⟩ := h.hashes s hs
    obtain ⟨a, ha, haware, hfa⟩ := saved_of_run calls f (List.mem_of_find?_eq_some hf)
    obtain ⟨b, hb, hbware, hsb⟩ := saved_of_run calls s hs
    rw [← hfa, ← hsb] at hhash
    rw [hf, ← hfa, ← hsb, hfree a ha b hb haware hbware hhash]
  constructor
  · intro id
    unfold MasterTables.getMaster
    rw [h.versions id]
    cases hid : (mastersAfter calls).first id with
    | none => rfl
    | some s =>
      obtain ⟨call, hcall, haware, rfl⟩ := saved_of_run calls s (List.mem_of_find?_eq_some hid)
      simp only [Option.map_some, versionRow, contentHash, ne_eq, not_true_eq_false, if_false,
        hvalid call hcall haware, Except.map]
  · intro a ha b hb hab
    have hfa := hfirst a ha
    rw [hab, hfirst b hb] at hfa
    exact (Option.some.inj hfa).symm
  · intro s hs
    refine ⟨?_, h.tokens _ s (hfirst s hs)⟩
    rw [h.instruments, hfirst s hs]
    rfl
  · intro s hs call haware hid
    unfold MasterTables.saveMaster
    rw [if_neg (Bool.not_eq_false _ ▸ haware), hid, h.versions, hfirst s hs, Option.map_some]
    by_cases hhash : contentHash s = contentHash call.snapshot <;> simp [versionRow, hhash]

end Godzilla.Storage

namespace Godzilla.Storage.MasterSample
open MarketData Misc

/-- A platform that dumps a master as its version. -/
noncomputable scoped instance platform : Platform :=
  { TextDigest.platform with
    modelDump := fun {α} value =>
      open Classical in
      if h : α = InstrumentMasterSnapshot then .str (cast h value).version else .obj [] }

/-- An instrument of the master. -/
def listed (token : String) : Instrument where
  symbol := token
  token := token
  isin := "INE000A01001"
  exchange := "NSE"
  segment := "CM"
  tickSize := 1 / 20
  status := .active
  foEligible := true
  sector := "IT"
  priceBand := ⟨none, none, none, Sample.band_unbounded⟩
  effectiveFrom := 0
  effectiveTo := 10
  tickSize_pos := Sample.tick_size_pos
  dates_ordered := Sample.listing_dates_ordered

/-- A master with two instruments. -/
def master (version : String) : InstrumentMasterSnapshot where
  snapshotId := "nse"
  version := version
  exchange := "NSE"
  asOf := 0
  generatedAt := 0
  sourceReference := "fixture"
  instruments := [listed "INFY", listed "TCS"]

/-- The rows of the instruments of every version. -/
noncomputable def rows : List InstrumentRow :=
  [instrumentRow "nse" (listed "INFY"), instrumentRow "nse" (listed "TCS")]

theorem modelDump_master (version : String) :
    Platform.modelDump (master version) = Json.str version := by
  simp [Platform.modelDump, master]

theorem contentHash_master (version : String) :
    contentHash (master version) = Json.text (.str version) := by
  rw [contentHash, modelDump_master]
  rfl

/-- A snapshot whose receipt has no offset, then two versions under one id, the first one after
    a lost write. -/
def calls : List SaveCall :=
  [{ snapshot := master "1", aware := false },
    { snapshot := master "1", fault := some (.databaseError "connection lost") },
    { snapshot := master "1" }, { snapshot := master "2" }]

/-- The dump names the version. -/
def validate : Json → Except PyError InstrumentMasterSnapshot
  | .str version => .ok (master version)
  | _ => .error .stopIteration

theorem mastersAfter_calls :
    mastersAfter calls = ⟨⟨[versionRow (master "1")], rows⟩, [master "1"]⟩ := by
  have hne : (versionRow (master "1")).contentHash ≠ contentHash (master "2") := by
    show contentHash (master "1") ≠ contentHash (master "2")
    rw [contentHash_master, contentHash_master]
    intro hhash
    exact absurd (Json.str.inj (Json.text_injective hhash)) (by decide)
  have hsave : (⟨[versionRow (master "1")], rows⟩ : MasterTables).saveMaster
      { snapshot := master "2" } =
        (.error (.idempotencyConflict "instrument snapshot ID content conflict"),
          ⟨[versionRow (master "1")], rows⟩) := if_pos hne
  have hstep : (⟨⟨[versionRow (master "1")], rows⟩, [master "1"]⟩ : Masters).step
      { snapshot := master "2" } = ⟨⟨[versionRow (master "1")], rows⟩, [master "1"]⟩ := by
    simp only [Masters.step, hsave]
  exact hstep

/-- The second version is a conflict, the id reads as the first one, and both of its
    instruments are stored. -/
theorem masters_write_once_conflict : WriteOnce validate (mastersAfter calls) ∧
    (mastersAfter calls).tables.getMaster validate "nse" = .ok (some (master "1")) ∧
    (mastersAfter calls).tables.instruments.map (·.instrument.token) = ["INFY", "TCS"] := by
  have hmaster : ∀ call ∈ calls, ∃ version, call.snapshot = master version := by
    intro call hcall
    simp only [calls, List.mem_cons, List.not_mem_nil, or_false] at hcall
    rcases hcall with rfl | rfl | rfl | rfl <;> exact ⟨_, rfl⟩
  have honce : WriteOnce validate (mastersAfter calls) := by
    refine masters_write_once calls ?_ ?_
    · intro call hcall _
      obtain ⟨version, hversion⟩ := hmaster call hcall
      rw [hversion, modelDump_master]
      rfl
    · intro a ha b hb _ _ hhash
      obtain ⟨version, hversion⟩ := hmaster a ha
      obtain ⟨version', hversion'⟩ := hmaster b hb
      rw [hversion, hversion', contentHash_master, contentHash_master] at hhash
      obtain rfl := Json.str.inj (Json.text_injective hhash)
      rw [hversion, hversion']
  refine ⟨honce, (honce.reads "nse").trans ?_, ?_⟩
  · rw [mastersAfter_calls]
    rfl
  · rw [mastersAfter_calls]
    rfl

end Godzilla.Storage.MasterSample
