import Godzilla.Core.Events.Identity
import Godzilla.Storage.Integrity

/-!
# Redelivery

What a call answers after any run: an exact redelivery is `False`, a reuse of an
identity is a conflict, and anything else is inserted unless its receipt is in the
past or the transaction fails. The state of a scope is the one passed with the last
accepted event that named it. `Kept` ties each row to the call that inserted it.
-/

namespace Godzilla.Storage
open Godzilla Events Misc

variable {F : Type} [PyFloat F] [Platform]

/-- A repository and the calls that returned `True`, in their order. -/
structure History (F : Type) [PyFloat F] [Platform] where
  tables : Tables F := {}
  accepted : List (AppendCall F) := []

/-- One call on the repository. -/
def History.step (history : History F) (input : AppendCall F × Attempt) : History F :=
  let (result, tables) := history.tables.append input.1 input.2
  { tables := tables
    accepted := match result with
      | .ok true => history.accepted ++ [input.1]
      | _ => history.accepted }

/-- The history of a run of calls, from the empty repository. -/
def historyAfter (inputs : List (AppendCall F × Attempt)) : History F :=
  run History.step {} inputs

/-- The repository of a history. -/
def History.repository (history : History F) : Repository F :=
  { tables := history.tables, accepted := history.accepted.map (·.event) }

theorem History.repository_step (history : History F) (input : AppendCall F × Attempt) :
    (history.step input).repository = history.repository.step input := by
  obtain ⟨call, attempt⟩ := input
  rcases hcall : history.tables.append call attempt with ⟨result, tables⟩
  simp only [History.step, Repository.step, History.repository, hcall]
  rcases result with e | _ | _ <;> simp

/-- A run of histories is a run of repositories. -/
theorem repository_historyAfter (inputs : List (AppendCall F × Attempt)) :
    (historyAfter inputs).repository = repositoryAfter inputs := by
  induction inputs using List.reverseRecOn with
  | nil => rfl
  | append_singleton inputs input ih =>
    have hhistory : historyAfter (inputs ++ [input]) = (historyAfter inputs).step input :=
      run_concat ..
    have hrepository : repositoryAfter (inputs ++ [input]) = (repositoryAfter inputs).step input :=
      run_concat ..
    rw [hhistory, hrepository, History.repository_step, ih]

/-- The row that an accepted call inserted. -/
structure Inserted (call : AppendCall F) (row : AuditEventRow) : Prop where
  eventId : row.eventId = call.event.eventId
  key : row.idempotencyKey = call.key
  digest : row.payloadHash = eventHash call.event
  envelope : row.envelope = call.envelope

/-- The state passed with the last of the calls that named the scope. -/
def lastState (calls : List (AppendCall F)) (scope : String) : Option SystemStateSnapshot :=
  ((calls.filterMap (·.state)).filter (·.scope = scope)).getLast?

/-- The rows are those of the accepted calls, and the states those they passed last. -/
structure Kept (history : History F) : Prop where
  inserted : List.Forall₂ Inserted history.accepted history.tables.audit
  states : ∀ scope, history.tables.systemState.get? scope =
    (lastState history.accepted scope).map fun s => ⟨s, Platform.modelDump s⟩

theorem lastState_concat (calls : List (AppendCall F)) (call : AppendCall F) (scope : String) :
    lastState (calls ++ [call]) scope =
      match call.state with
      | some s => if s.scope = scope then some s else lastState calls scope
      | none => lastState calls scope := by
  cases hstate : call.state with
  | none => simp [lastState, hstate]
  | some s =>
    by_cases hscope : s.scope = scope <;>
      simp [lastState, hstate, hscope, List.filterMap_append]

omit [PyFloat F] in
theorem Tables.get?_mergeState (tables : Tables F) (state : Option SystemStateSnapshot)
    (scope : String) : (tables.mergeState state).systemState.get? scope =
      match state with
      | some s => if s.scope = scope then some ⟨s, Platform.modelDump s⟩
          else tables.systemState.get? scope
      | none => tables.systemState.get? scope := by
  cases state with
  | none => rfl
  | some s => simp [Tables.mergeState, Dict.get?_insert, eq_comm]

/-- What a call leaves: the tables, up to the next sequence value, or the inserted row with
    its state. -/
theorem append_effect (tables : Tables F) (call : AppendCall F) (attempt : Attempt) :
    ((tables.append call attempt).1 ≠ .ok true ∧
      ((tables.append call attempt).2 = tables ∨
        (tables.append call attempt).2 = tables.rolledBack)) ∨
    ∃ projected, tables.append call attempt =
      (.ok true, { (tables.record call).mergeState call.state with projections := projected }) := by
  unfold Tables.append
  split
  · exact Or.inl ⟨nofun, Or.inl rfl⟩
  split
  · rename_i previous _
    refine Or.inl ⟨?_, Or.inl rfl⟩
    unfold AppendCall.redeliver
    split
    · nofun
    · split <;> split <;> nofun
  · rcases accept_cases tables call attempt with
      ⟨_, _, _, heq⟩ | ⟨_, ⟨e, _, heq⟩ | ⟨projected, _, _, heq⟩⟩
    · exact Or.inl ⟨by rw [heq]; nofun, Or.inl (by rw [heq])⟩
    · exact Or.inl ⟨by rw [heq]; nofun, Or.inr (by rw [heq])⟩
    · exact Or.inr ⟨projected, heq⟩

theorem Kept.step {history : History F} (h : Kept history) (input : AppendCall F × Attempt) :
    Kept (history.step input) := by
  obtain ⟨call, attempt⟩ := input
  rcases hcall : history.tables.append call attempt with ⟨result, tables⟩
  have heffect := append_effect history.tables call attempt
  rw [hcall] at heffect
  rcases heffect with ⟨hno, hsame⟩ | ⟨projected, heq⟩
  · -- the rows, the states and the accepted calls are the same
    have hstep : history.step (call, attempt) = ⟨tables, history.accepted⟩ := by
      simp only [History.step, hcall]
    rw [hstep]
    rcases hsame with rfl | rfl <;> exact ⟨h.inserted, h.states⟩
  · obtain ⟨rfl, rfl⟩ := Prod.mk.inj heq
    have hstep : (history.step (call, attempt)).accepted = history.accepted ++ [call] := by
      simp only [History.step, hcall]
    have htables : (history.step (call, attempt)).tables =
        { (history.tables.record call).mergeState call.state with projections := projected } := by
      simp only [History.step, hcall]
    have haudit : (history.step (call, attempt)).tables.audit =
        history.tables.audit ++ [history.tables.rowOf call] := by
      rw [htables]
      cases call.state <;> rfl
    constructor
    · rw [hstep, haudit]
      refine List.rel_append h.inserted (List.Forall₂.cons ?_ List.Forall₂.nil)
      exact ⟨rfl, rfl, rfl, rfl⟩
    · intro scope
      have hmerge := (history.tables.record call).get?_mergeState call.state scope
      rw [htables, hstep, lastState_concat]
      refine hmerge.trans ?_
      cases hstate : call.state with
      | none => exact h.states scope
      | some s =>
        by_cases hscope : s.scope = scope
        · simp [hscope]
        · simp only [if_neg hscope]
          exact h.states scope

theorem kept_run (inputs : List (AppendCall F × Attempt)) : Kept (historyAfter inputs) :=
  run_invariant ⟨List.Forall₂.nil, fun _ => rfl⟩ (fun _ input h => h.step input) inputs

/-- Every accepted call is a call of the run. -/
theorem accepted_subset (inputs : List (AppendCall F × Attempt)) :
    ∀ call ∈ (historyAfter inputs).accepted, call ∈ inputs.map Prod.fst := by
  refine run_history (P := fun seen (history : History F) =>
    ∀ call ∈ history.accepted, call ∈ seen.map Prod.fst) (fun call hcall => by cases hcall) ?_ inputs
  intro seen history input hall call hcall
  rw [List.map_append]
  simp only [History.step] at hcall
  split at hcall
  · rcases List.mem_append.mp hcall with hcall | hcall
    · exact List.mem_append_left _ (hall call hcall)
    · obtain rfl := List.mem_singleton.mp hcall
      exact List.mem_append_right _ (List.mem_singleton_self _)
  · exact List.mem_append_left _ (hall call hcall)

section Call

variable {validate : Json → Except PyError (EventEnvelope F)} {history : History F}
  {call c : AppendCall F} {attempt : Attempt}

/-- The identities of accepted calls are distinct. -/
theorem eq_of_shared_identity (hkept : Kept history) (hrecorded : Recorded history.repository)
    {c' : AppendCall F} (hc : c ∈ history.accepted) (hc' : c' ∈ history.accepted)
    (hshared : c.event.eventId = c'.event.eventId ∨ c.key = c'.key) : c = c' := by
  have hids : (history.accepted.map (·.event.eventId)).Nodup := by
    rw [← map_eq_of_related (g := (·.eventId)) hkept.inserted fun _ _ h => h.eventId]
    exact hrecorded.ids
  have hkeys : (history.accepted.map (·.key)).Nodup := by
    rw [← map_eq_of_related (g := (·.idempotencyKey)) hkept.inserted fun _ _ h => h.key]
    exact hrecorded.keys
  rcases hshared with hid | hkey
  · exact List.inj_on_of_nodup_map hids hc hc' hid
  · exact List.inj_on_of_nodup_map hkeys hc hc' hkey

/-- A matching row was inserted by an accepted call that shares an identity. -/
theorem accepted_of_matching (hkept : Kept history) {row : AuditEventRow}
    (hrow : row ∈ call.matching history.tables) :
    ∃ c ∈ history.accepted, Inserted c row ∧
      (c.event.eventId = call.event.eventId ∨ c.key = call.key) := by
  obtain ⟨hmem, hmatch⟩ := List.mem_filter.mp hrow
  obtain ⟨c, hc, hins⟩ := exists_left_of_related hkept.inserted hmem
  refine ⟨c, hc, hins, ?_⟩
  rw [← hins.eventId, ← hins.key]
  simpa using hmatch

/-- An accepted call that shares an identity has left a matching row. -/
theorem matching_ne_nil (hkept : Kept history) (hc : c ∈ history.accepted)
    (hshared : c.event.eventId = call.event.eventId ∨ c.key = call.key) :
    call.matching history.tables ≠ [] := by
  obtain ⟨row, hrow, hins⟩ := exists_right_of_related hkept.inserted hc
  have hmem : row ∈ call.matching history.tables := by
    rw [AppendCall.matching, List.mem_filter, hins.eventId, hins.key]
    exact ⟨hrow, by simpa using hshared⟩
  exact List.ne_nil_of_mem hmem

/-- The envelope says which state an accepted call passed. -/
theorem envelope_state (call : AppendCall F) :
    call.envelope.get? "_state_projection" = call.state.map Platform.modelDump := by
  have habsent := call.event.dump_get?_state
  unfold AppendCall.envelope
  cases call.state with
  | none => exact habsent
  | some s => exact Json.get?_withMember habsent

/-- An exact redelivery of the stored call is `False`. -/
theorem redeliver_same {row : AuditEventRow} (hins : Inserted call row) :
    call.redeliver row = .ok false := by
  have hstate := envelope_state call
  rw [AppendCall.redeliver, if_neg (by simp [hins.digest, hins.key]), hins.envelope, hstate]
  cases call.state <;> simp

/-- What the events and states of a run and of a call determine: their dumps read back. -/
structure ReadsBack (validate : Json → Except PyError (EventEnvelope F))
    (validateState : Json → Except PyError SystemStateSnapshot) (call : AppendCall F) : Prop where
  event : validate call.event.dump = .ok call.event
  kind : call.event.DumpsKind
  state : ∀ s ∈ call.state, validateState (Platform.modelDump s) = .ok s

/-- A call that differs from the stored one is a conflict. -/
theorem redeliver_other {validateState : Json → Except PyError SystemStateSnapshot}
    (hinjective : Function.Injective (Platform.sha256 : Json → Digest))
    (hc : ReadsBack validate validateState c) (hcall : ReadsBack validate validateState call)
    {row : AuditEventRow} (hins : Inserted c row) (hne : c ≠ call) :
    ∃ message, call.redeliver row = .error (.idempotencyConflict message) := by
  unfold AppendCall.redeliver
  split
  · exact ⟨_, rfl⟩
  rename_i hsame
  obtain ⟨hdigest, hkey⟩ : row.payloadHash = eventHash call.event ∧
      row.idempotencyKey = call.key := by simpa [not_or] using hsame
  have hevent : c.event = call.event :=
    eq_of_eventHash_eq hinjective hc.kind hcall.kind hc.event hcall.event
      (hins.digest.symm.trans hdigest)
  -- the events and the keys agree, so the states differ
  have hstate : c.state ≠ call.state := by
    intro hstate
    apply hne
    obtain ⟨e, k, s⟩ := c
    obtain ⟨e', k', s'⟩ := call
    simp only at hevent hstate
    rw [hevent, hstate, show k = k' from hins.key.symm.trans hkey]
  rw [hins.envelope, envelope_state]
  cases hs : call.state with
  | none =>
    obtain ⟨s', hs'⟩ := Option.ne_none_iff_exists'.mp (hs ▸ hstate)
    simp [hs']
  | some s =>
    have hdump : c.state.map Platform.modelDump ≠ some (Platform.modelDump s) := by
      intro hdump
      obtain ⟨s', hs', hdump⟩ := Option.map_eq_some_iff.mp hdump
      have hread := hc.state s' hs'
      rw [hdump, hcall.state s hs, Except.ok.injEq] at hread
      exact hstate (by rw [hs', hs, hread])
    simp [hdump]

/-- Neither identity of the call was used by an accepted one. -/
def Fresh (history : History F) (call : AppendCall F) : Prop :=
  ∀ c ∈ history.accepted, c.event.eventId ≠ call.event.eventId ∧ c.key ≠ call.key

/-- The receipt of the call is not before the newest row's. -/
def InOrder (history : History F) (call : AppendCall F) : Prop :=
  ∀ tail, history.tables.tail = some tail → tail.receivedAt ≤ call.event.receivedAt

theorem first_eq_none (hkept : Kept history) (hfresh : Fresh history call) :
    attempt.first (call.matching history.tables) = none := by
  cases hfirst : attempt.first (call.matching history.tables) with
  | none => rfl
  | some row =>
    obtain ⟨c, hc, _, hshared⟩ := accepted_of_matching hkept (attempt.first_mem hfirst)
    obtain ⟨hid, hkey⟩ := hfresh c hc
    rcases hshared with h | h
    · exact absurd h hid
    · exact absurd h hkey

/-- What a call answers after a run, and the states it finds. -/
structure Answers (validateState : Json → Except PyError SystemStateSnapshot)
    (history : History F) (call : AppendCall F) (attempt : Attempt) : Prop where
  /-- An exact redelivery returns `False` and changes nothing. -/
  redelivered : call ∈ history.accepted →
    history.tables.append call attempt = (.ok false, history.tables)
  /-- A used identity with another event, key or state is a conflict and changes nothing. -/
  conflict : ∀ c ∈ history.accepted,
    c.event.eventId = call.event.eventId ∨ c.key = call.key → c ≠ call →
      ∃ message, history.tables.append call attempt =
        (.error (.idempotencyConflict message), history.tables)
  /-- A new event received before the newest row is refused and changes nothing. -/
  regression : Fresh history call → ¬ InOrder history call →
    history.tables.append call attempt = (.error (.valueError
      "receipt order regression; capture late events with actual receipt time"), history.tables)
  /-- Any other new event is inserted once when its projection and the database accept it. -/
  inserted : Fresh history call → InOrder history call →
    ∀ projected, history.tables.projections.project call.event = .ok projected →
      attempt.fault = none → ∃ tables, history.tables.append call attempt = (.ok true, tables) ∧
        tables.audit = history.tables.audit ++ [history.tables.rowOf call]
  /-- It raises when one of them fails, and then only a sequence value is used up. -/
  failed : Fresh history call → InOrder history call →
    (∃ e, history.tables.projections.project call.event = .error e ∨ attempt.fault = some e) →
      ∃ e, history.tables.append call attempt = (.error e, history.tables.rolledBack)
  /-- The state of a scope is the one passed with the last accepted event that named it. -/
  states : ∀ scope, history.tables.getState validateState scope =
    .ok (lastState history.accepted scope)

theorem getState_eq {validateState : Json → Except PyError SystemStateSnapshot}
    (hkept : Kept history)
    (hstates : ∀ c ∈ history.accepted, ∀ s ∈ c.state,
      validateState (Platform.modelDump s) = .ok s) (scope : String) :
    history.tables.getState validateState scope = .ok (lastState history.accepted scope) := by
  rw [Tables.getState, hkept.states scope]
  cases hlast : lastState history.accepted scope with
  | none => rfl
  | some s =>
    have hmem := List.mem_of_getLast? hlast
    obtain ⟨c, hc, hs⟩ := List.mem_filterMap.mp (List.mem_of_mem_filter hmem)
    simp [hstates c hc s hs, Except.map]

/-- What every call answers after a history whose rows and dumps read back. -/
theorem answers_of_kept {validateState : Json → Except PyError SystemStateSnapshot}
    (hinjective : Function.Injective (Platform.sha256 : Json → Digest)) (hkept : Kept history)
    (hrecorded : Recorded history.repository)
    (hreads : ∀ c ∈ history.accepted, ReadsBack validate validateState c) {call : AppendCall F}
    (attempt : Attempt) (hcall : ReadsBack validate validateState call)
    (hcheck : call.check = .ok ()) : Answers validateState history call attempt := by
  -- a call with a used identity meets a row of the accepted call that shares it
  have hfound : ∀ c ∈ history.accepted, c.event.eventId = call.event.eventId ∨ c.key = call.key →
      ∃ c' ∈ history.accepted, ∃ row, Inserted c' row ∧
        (c'.event.eventId = call.event.eventId ∨ c'.key = call.key) ∧
        history.tables.append call attempt = (call.redeliver row, history.tables) := by
    intro c hc hshared
    cases hfirst : attempt.first (call.matching history.tables) with
    | none => exact absurd (attempt.first_none hfirst) (matching_ne_nil hkept hc hshared)
    | some row =>
      obtain ⟨c', hc', hins, hshared'⟩ := accepted_of_matching hkept (attempt.first_mem hfirst)
      exact ⟨c', hc', row, hins, hshared', by simp only [Tables.append, hcheck, hfirst]⟩
  have hnew : Fresh history call →
      history.tables.append call attempt = history.tables.accept call attempt := by
    intro hfresh
    simp only [Tables.append, hcheck, first_eq_none hkept hfresh]
  constructor
  · intro hmem
    obtain ⟨c', hc', row, hins, hshared, happend⟩ := hfound call hmem (Or.inl rfl)
    obtain rfl := eq_of_shared_identity hkept hrecorded hc' hmem hshared
    rw [happend, redeliver_same hins]
  · intro c hc hshared hne
    obtain ⟨c', hc', row, hins, hshared', happend⟩ := hfound c hc hshared
    have hne' : c' ≠ call := by
      rintro rfl
      exact hne (eq_of_shared_identity hkept hrecorded hc hc' hshared)
    obtain ⟨message, hmessage⟩ := redeliver_other hinjective (hreads c' hc') hcall hins hne'
    exact ⟨message, by rw [happend, hmessage]⟩
  · intro hfresh hlate
    rw [hnew hfresh]
    rcases accept_cases history.tables call attempt with ⟨_, _, _, heq⟩ | ⟨hordered, _⟩
    · exact heq
    · exact absurd hordered hlate
  · intro hfresh hordered projected hproject hfault
    rw [hnew hfresh]
    rcases accept_cases history.tables call attempt with
      ⟨tail, htail, hlt, _⟩ | ⟨_, ⟨e, he, _⟩ | ⟨_, _, _, heq⟩⟩
    · exact absurd (hordered tail htail) (not_le.mpr hlt)
    · rcases he with he | he
      · rw [hproject] at he
        cases he
      · rw [hfault] at he
        cases he
    · refine ⟨_, heq, ?_⟩
      cases call.state <;> rfl
  · rintro hfresh hordered ⟨e, he⟩
    rw [hnew hfresh]
    rcases accept_cases history.tables call attempt with
      ⟨tail, htail, hlt, _⟩ | ⟨_, ⟨e', _, heq⟩ | ⟨projected, hproject, hfault, _⟩⟩
    · exact absurd (hordered tail htail) (not_le.mpr hlt)
    · exact ⟨e', heq⟩
    · rcases he with he | he
      · rw [hproject] at he
        cases he
      · rw [hfault] at he
        cases he
  · exact getState_eq hkept fun c hc => (hreads c hc).state

theorem recorded_history (inputs : List (AppendCall F × Attempt)) :
    Recorded (historyAfter inputs).repository := by
  rw [repository_historyAfter]
  exact recorded_run inputs

/-- What every call answers after every run of calls, when SHA-256 has no collisions and the
    dumps of the calls read back. -/
theorem append_answers {validateState : Json → Except PyError SystemStateSnapshot}
    (hinjective : Function.Injective (Platform.sha256 : Json → Digest))
    (inputs : List (AppendCall F × Attempt))
    (hround : ∀ input ∈ inputs, ReadsBack validate validateState input.1)
    (call : AppendCall F) (attempt : Attempt) (hcall : ReadsBack validate validateState call)
    (hcheck : call.check = .ok ()) : Answers validateState (historyAfter inputs) call attempt := by
  refine answers_of_kept hinjective (kept_run inputs) (recorded_history inputs) ?_ attempt hcall
    hcheck
  intro c hc
  obtain ⟨input, hinput, rfl⟩ := List.mem_map.mp (accepted_subset inputs c hc)
  exact hround input hinput

end Call

end Godzilla.Storage

namespace Godzilla.Storage.TextDigest
open Events MarketData Misc Godzilla.TextDigest

/-- A state that refers to an event. -/
def paper (event : EventEnvelope ℚ) : SystemStateSnapshot where
  scope := "paper"
  state := .ready
  mode := .paper
  killSwitch := false
  brokerHealth := "NOT_CONNECTED"
  dataHealth := "HEALTHY"
  releaseId := "test"
  lastEventId := event.eventId
  updatedAt := event.receivedAt

/-- An event with a state, and a later one without. -/
def opening : AppendCall ℚ where
  event := event 1 "opening" 0
  key := "000000000000000000000000000000000000000000000000000000000000000a"
  state := some (paper (event 1 "opening" 0))

@[inherit_doc opening]
def later : AppendCall ℚ where
  event := event 2 "later" 5
  key := "000000000000000000000000000000000000000000000000000000000000000b"

/-- A database that returns the first matching row and does not fail. -/
def attempt : Attempt := Storage.Sample.attempt

/-- The redelivery of an event older than the tail is `False`, and its state is kept. -/
theorem append_answers_redelivery :
    (historyAfter [(opening, attempt), (later, attempt)]).tables.append opening attempt =
        (.ok false, (historyAfter [(opening, attempt), (later, attempt)]).tables) ∧
      (historyAfter [(opening, attempt), (later, attempt)]).tables.getState
        (fun _ => .ok (paper (event 1 "opening" 0))) "paper" =
          .ok (some (paper (event 1 "opening" 0))) := by
  have hopening : ReadsBack validate (fun _ => .ok (paper (event 1 "opening" 0))) opening :=
    ⟨rfl, rfl, fun s hs => by rw [Option.mem_some.mp hs]⟩
  have hlater : ReadsBack validate (fun _ => .ok (paper (event 1 "opening" 0))) later :=
    ⟨rfl, rfl, fun s hs => by cases hs⟩
  have hanswers := append_answers Json.text_injective [(opening, attempt), (later, attempt)]
    (by simpa using ⟨hopening, hlater⟩) opening attempt hopening (by decide +kernel)
  have haccepted : (historyAfter [(opening, attempt), (later, attempt)]).accepted =
      [opening, later] := by rfl
  refine ⟨hanswers.redelivered (by rw [haccepted]; exact List.mem_cons_self), ?_⟩
  rw [hanswers.states "paper", haccepted]
  rfl

/-- A five-minute bar. -/
def bar : Bar where
  instrumentId := "INFY"
  source := "feed"
  receivedAt := minutesOf 5
  start := 0
  stop := minutesOf 5
  intervalMinutes := 5
  openPrice := 100
  high := 101
  low := 99
  close := 100
  volume := 10
  interval_supported := fiveMinutes_supported
  duration := sub_zero _

/-- An event of the bar. -/
def barEvent (id : Nat) : EventEnvelope ℚ :=
  { event id "feed" (minutesOf 5) with
    payload := .barClose bar
    causal_times := ⟨rfl, le_refl _⟩ }

/-- Two events of one bar, under their own ids and keys. -/
def first : AppendCall ℚ where
  event := barEvent 1
  key := "000000000000000000000000000000000000000000000000000000000000000a"

@[inherit_doc first]
def second : AppendCall ℚ where
  event := barEvent 2
  key := "000000000000000000000000000000000000000000000000000000000000000b"

/-- A well-formed call with a new event id and key, received at the tail's receipt, that is
    not appended: the table of five-minute bars has the bar of another event. -/
theorem append_repeated_bar :
    second.check = .ok () ∧ attempt.fault = none ∧
      Fresh (historyAfter [(first, attempt)]) second ∧
      InOrder (historyAfter [(first, attempt)]) second ∧
      (historyAfter [(first, attempt)]).accepted = [first] ∧
      ((historyAfter [(first, attempt)]).tables.append second attempt).1 =
        .error (.databaseError "duplicate key value violates unique constraint") := by
  have haccepted : (historyAfter [(first, attempt)]).accepted = [first] := by rfl
  have htail : (historyAfter [(first, attempt)]).tables.tail =
      some (Tables.rowOf {} first) := by rfl
  refine ⟨by decide +kernel, rfl, ?_, ?_, haccepted, by rfl⟩
  · intro c hc
    rw [haccepted, List.mem_singleton] at hc
    subst hc
    exact ⟨by decide +kernel, by decide⟩
  · intro tail h
    rw [htail, Option.some.injEq] at h
    subst h
    exact le_refl _

end Godzilla.Storage.TextDigest
