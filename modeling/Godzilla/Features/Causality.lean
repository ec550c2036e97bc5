import Godzilla.Features.Baseline
import Godzilla.Misc.Transition

/-!
# What a snapshot can see

`CausalFeatureEngine.on_event` and `batch_snapshot` (`features/engine.py`). Events are kept with
the text that is hashed of them, in which a number stands as it was written. A snapshot reads the
five-minute bars and quotes of its context that were received by its time, whatever else was fed
in between and in which order.
-/

namespace Godzilla.Features
open Godzilla MarketData Misc Events

section Feed

variable {F : Type} [PyFloat F] [Platform]

/-- An event with the tree that `serialize_event` writes of it: its numbers as they are written. -/
structure WrittenEvent (F : Type) [PyFloat F] [Platform] extends EventEnvelope F where
  written : Json

/-- `event_hash` (`core/events/serialization.py:41-42`) of an event as it is written. -/
def WrittenEvent.hash (event : WrittenEvent F) : Digest := Platform.sha256 event.written

/-- `CausalFeatureEngine` (`features/engine.py:28-42`), with its events as they are written. -/
structure FeatureFeed (F : Type) [PyFloat F] [Platform] where
  calendar : ExchangeCalendar
  timezone : String
  version : FeatureSetVersion F
  provenance : Provenance
  /-- `_events`. -/
  events : Dict Uuid (WrittenEvent F) := .empty

namespace FeatureFeed

variable (feed : FeatureFeed F)

/-- `on_event` (`features/engine.py:44-49`). -/
def onEvent (event : WrittenEvent F) : Except PyError Unit × FeatureFeed F :=
  if ∃ previous ∈ feed.events.get? event.eventId, previous.hash ≠ event.hash then
    (.error (.valueError "conflicting feature input event"), feed)
  else (.ok (), { feed with events := feed.events.insert event.eventId event })

/-- `on_event` of one event after the other, up to the first that raises. -/
def onEvents (events : List (WrittenEvent F)) : Except PyError (FeatureFeed F) :=
  events.foldlM (fun feed event => (feed.onEvent event).1.map fun _ => (feed.onEvent event).2) feed

/-- The engine that computes the features: it reads the numbers of the events, however written. -/
def engine : CausalFeatureEngine F where
  calendar := feed.calendar
  timezone := feed.timezone
  version := feed.version
  provenance := feed.provenance
  events := Dict.index (·.eventId) (feed.events.values.map (·.toEventEnvelope))

/-- `selected` (`features/engine.py:59-82`). -/
def selectEvents (context : FeatureContext F) (now : Instant) : List (WrittenEvent F) :=
  sortOn (fun event => toLex (event.receivedAt, event.eventId))
    (feed.events.values.filter fun event => selectsEvent context now event.toEventEnvelope)

/-- `input_hash` (`features/engine.py:123-124`). -/
def inputHash (context : FeatureContext F) (now : Instant) : Digest :=
  Platform.sha256 (.arr ((feed.selectEvents context now).map fun event => .str event.hash))

/-- `snapshot` (`features/engine.py:51-135`), which hashes the events as they are written. -/
def snapshot [PyMath F] (context : FeatureContext F) (now : Instant) :
    Except PyError (FeatureSnapshot F) := do
  let snapshot ← feed.engine.snapshot context now
  .ok { snapshot with inputHash := feed.inputHash context now }

end FeatureFeed

/-- `batch_snapshot` (`features/engine.py:392-405`). -/
def batchSnapshot [PyMath F] (events : List (WrittenEvent F)) (context : FeatureContext F)
    (now : Instant) (calendar : ExchangeCalendar) (timezone : String)
    (version : FeatureSetVersion F) (provenance : Provenance) :
    Except PyError (FeatureSnapshot F) := do
  let feed ← FeatureFeed.onEvents ⟨calendar, timezone, version, provenance, .empty⟩ events
  feed.snapshot context now

/-- What is done to an engine. -/
inductive FeedAction (F : Type) [PyFloat F] [Platform] where
  | onEvent (event : WrittenEvent F)
  | snapshot (context : FeatureContext F) (now : Instant)

/-- The engine after one more action; a snapshot only reads. -/
def FeatureFeed.step (feed : FeatureFeed F) : FeedAction F → FeatureFeed F
  | .onEvent event => (feed.onEvent event).2
  | .snapshot _ _ => feed

/-- The event of an action. -/
def FeedAction.event? : FeedAction F → Option (WrittenEvent F)
  | .onEvent event => some event
  | .snapshot _ _ => none

/-- No two events of one id differ. -/
def OneContent (events : List (WrittenEvent F)) : Prop :=
  ∀ a ∈ events, ∀ b ∈ events, a.eventId = b.eventId → a = b

/-- What a snapshot may read: five-minute bars and quotes of an instrument that its context names,
    received by its time. -/
def Relevant (context : FeatureContext F) (now : Instant) (event : WrittenEvent F) : Prop :=
  event.receivedAt ≤ now ∧ ∃ ref ∈ context.refs, observedRef event.toEventEnvelope = some ref

theorem OneContent.mono {events fewer : List (WrittenEvent F)} (h : OneContent events)
    (hsub : fewer ⊆ events) : OneContent fewer :=
  fun a ha b hb => h a (hsub ha) b (hsub hb)

theorem selectsEvent_iff {context : FeatureContext F} {now : Instant} {event : WrittenEvent F} :
    selectsEvent context now event.toEventEnvelope = true ↔ Relevant context now event := by
  rw [selectsEvent, Bool.and_eq_true, decide_eq_true_iff, Option.any_eq_true, Relevant]
  simp only [List.contains_iff_mem]
  exact and_congr_right fun _ => exists_congr fun ref => and_comm

/-- The events that an engine keeps by their ids. -/
def Holds (held : Dict Uuid (WrittenEvent F)) (events : List (WrittenEvent F)) : Prop :=
  ∀ id event, held.get? id = some event ↔ event ∈ events ∧ event.eventId = id

variable {feed : FeatureFeed F} {events : List (WrittenEvent F)} {event : WrittenEvent F}
  {held : Dict Uuid (WrittenEvent F)}

namespace FeatureFeed

theorem onEvent_conflict {previous : WrittenEvent F}
    (hprevious : feed.events.get? event.eventId = some previous)
    (hhash : previous.hash ≠ event.hash) :
    feed.onEvent event = (.error (.valueError "conflicting feature input event"), feed) :=
  if_pos ⟨previous, hprevious, hhash⟩

theorem onEvents_concat (events : List (WrittenEvent F)) (event : WrittenEvent F) :
    feed.onEvents (events ++ [event]) = (feed.onEvents events).bind fun feed =>
      (feed.onEvent event).1.map fun _ => (feed.onEvent event).2 := by
  rw [onEvents, List.foldlM_append]
  refine congrArg (Except.bind _) (funext fun feed => ?_)
  rw [List.foldlM_cons]
  cases (feed.onEvent event).1 <;> rfl

/-- A call that raises changes nothing. -/
theorem onEvent_error {error : PyError} (h : (feed.onEvent event).1 = .error error) :
    error = .valueError "conflicting feature input event" ∧ (feed.onEvent event).2 = feed := by
  rw [onEvent] at h ⊢
  split at h
  · next hconflict =>
    rw [if_pos hconflict]
    exact ⟨(Except.error.inj h).symm, rfl⟩
  · cases h

end FeatureFeed

/-- An event that agrees with those before it under its id is kept. -/
theorem Holds.onEvent (h : Holds feed.events events) (hone : OneContent (events ++ [event])) :
    feed.onEvent event =
        (.ok (), { feed with events := feed.events.insert event.eventId event }) ∧
      Holds (feed.events.insert event.eventId event) (events ++ [event]) := by
  have hsame : ∀ other ∈ events, other.eventId = event.eventId → other = event :=
    fun other hother => hone other (List.mem_append_left _ hother) event
      (List.mem_append_right _ (List.mem_singleton_self event))
  constructor
  · refine if_neg ?_
    rintro ⟨previous, hprevious, hhash⟩
    obtain ⟨hfed, hid⟩ := (h _ _).mp hprevious
    exact hhash (hsame previous hfed hid ▸ rfl)
  · intro id other
    rw [Dict.get?_insert, List.mem_append, List.mem_singleton]
    split
    · next hid =>
      subst hid
      constructor
      · rintro ⟨rfl⟩
        exact ⟨Or.inr rfl, rfl⟩
      · rintro ⟨hother | rfl, hid⟩
        · rw [hsame other hother hid]
        · rfl
    · next hid =>
      rw [h]
      constructor
      · exact fun hother => ⟨Or.inl hother.1, hother.2⟩
      · rintro ⟨hother | rfl, hother'⟩
        · exact ⟨hother, hother'⟩
        · exact absurd hother'.symm hid

theorem Holds.empty : Holds (F := F) .empty [] := by
  intro id event
  simp

/-- The calendar and the rest of an engine stay, and it holds the events fed to it. -/
structure Fed (start feed : FeatureFeed F) (events : List (WrittenEvent F)) : Prop where
  rest : feed = { start with events := feed.events }
  holds : Holds feed.events events

/-- One more event, or a snapshot. -/
theorem Fed.step {start : FeatureFeed F} (h : Fed start feed events) (action : FeedAction F)
    (hone : OneContent (events ++ action.event?.toList)) :
    Fed start (feed.step action) (events ++ action.event?.toList) := by
  cases action with
  | onEvent event =>
    obtain ⟨hkept, hholds⟩ := h.holds.onEvent hone
    have hstep : feed.step (.onEvent event) =
        { feed with events := feed.events.insert event.eventId event } := congrArg Prod.snd hkept
    rw [hstep]
    refine ⟨?_, hholds⟩
    rw [h.rest]
  | snapshot context now => simpa [FeedAction.event?, FeatureFeed.step] using h

theorem Holds.mem_values (h : Holds held events) : event ∈ held.values ↔ event ∈ events := by
  rw [Dict.mem_values_iff]
  constructor
  · rintro ⟨id, hid⟩
    exact ((h _ _).mp hid).1
  · exact fun hevent => ⟨event.eventId, (h _ _).mpr ⟨hevent, rfl⟩⟩

/-- No two events that an engine holds have one id. -/
theorem Holds.nodup (h : Holds held events) : (held.values.map (·.eventId)).Nodup := by
  rw [Dict.map_values fun id event hevent => ((h id event).mp hevent).2]
  exact held.keys_nodup

variable {calendar : ExchangeCalendar} {timezone : String} {version : FeatureSetVersion F}
  {provenance : Provenance}

/-- After any actions an engine holds the events fed to it, in whatever order and however often
    they came. -/
theorem fed_run {actions : List (FeedAction F)}
    (hone : OneContent (actions.filterMap FeedAction.event?)) :
    Fed ⟨calendar, timezone, version, provenance, .empty⟩
      (run FeatureFeed.step ⟨calendar, timezone, version, provenance, .empty⟩ actions)
      (actions.filterMap FeedAction.event?) := by
  refine run_history (P := fun seen feed => OneContent (seen.filterMap FeedAction.event?) →
    Fed ⟨calendar, timezone, version, provenance, .empty⟩ feed
      (seen.filterMap FeedAction.event?)) (fun _ => ⟨rfl, Holds.empty⟩) ?_ actions hone
  intro seen feed action ih hone
  have hsplit : (seen ++ [action]).filterMap FeedAction.event? =
      seen.filterMap FeedAction.event? ++ action.event?.toList := by
    rw [List.filterMap_append]
    cases haction : action.event? <;> simp [haction]
  rw [hsplit] at hone ⊢
  exact (ih (hone.mono (List.subset_append_left _ _))).step action hone

/-- A batch of events of one content under each id is fed whole. -/
theorem fed_onEvents (hone : OneContent events) :
    ∃ feed, FeatureFeed.onEvents ⟨calendar, timezone, version, provenance, .empty⟩ events =
        .ok feed ∧ Fed ⟨calendar, timezone, version, provenance, .empty⟩ feed events := by
  induction events using List.reverseRecOn with
  | nil => exact ⟨_, rfl, rfl, Holds.empty⟩
  | append_singleton events event ih =>
    obtain ⟨feed, hfeed, hfed⟩ := ih (hone.mono (List.subset_append_left _ _))
    obtain ⟨hkept, hholds⟩ := hfed.holds.onEvent hone
    refine ⟨{ feed with events := feed.events.insert event.eventId event }, ?_, ?_, hholds⟩
    · rw [FeatureFeed.onEvents_concat, hfeed]
      exact congrArg (fun outcome => outcome.1.map fun _ => outcome.2) hkept
    · rw [hfed.rest]

theorem onEvents_error {start : FeatureFeed F} {error : PyError}
    (h : start.onEvents events = .error error) :
    error = .valueError "conflicting feature input event" := by
  induction events using List.reverseRecOn with
  | nil => cases h
  | append_singleton events event ih =>
    rw [FeatureFeed.onEvents_concat] at h
    cases hbefore : start.onEvents events with
    | error earlier =>
      rw [hbefore] at h
      exact ih (hbefore.trans h)
    | ok feed =>
      rw [hbefore] at h
      change (feed.onEvent event).1.map _ = _ at h
      cases hraised : (feed.onEvent event).1 with
      | error raised =>
        rw [hraised] at h
        obtain rfl := Except.error.inj h
        exact (FeatureFeed.onEvent_error hraised).1
      | ok _ =>
        rw [hraised] at h
        cases h

/-- The events of an engine that raised on none agree with those fed under each id. -/
theorem onEvents_hashed {start : FeatureFeed F} (h : start.onEvents events = .ok feed) :
    ∀ event ∈ events, ∃ kept, feed.events.get? event.eventId = some kept ∧
      kept.hash = event.hash := by
  induction events using List.reverseRecOn generalizing feed with
  | nil => simp
  | append_singleton events event ih =>
    rw [FeatureFeed.onEvents_concat] at h
    obtain ⟨before, hbefore, h⟩ := bind_ok h
    rw [FeatureFeed.onEvent] at h
    split at h
    · cases h
    next hagrees =>
    obtain rfl := Except.ok.inj h
    intro other hother
    rw [Dict.get?_insert]
    split
    · next hid =>
      refine ⟨event, rfl, ?_⟩
      rcases List.mem_append.mp hother with hother | hother
      · obtain ⟨kept, hkept, hhash⟩ := ih hbefore other hother
        by_contra hdiffer
        exact hagrees ⟨kept, hid ▸ hkept, fun heq => hdiffer (heq ▸ hhash)⟩
      · rw [List.mem_singleton.mp hother]
    · next hid =>
      rcases List.mem_append.mp hother with hother | hother
      · exact ih hbefore other hother
      · exact absurd (congrArg (·.eventId) (List.mem_singleton.mp hother)) hid

end Feed

section Snapshot

variable {F : Type} [PyFloat F] [PyMath F] [Platform]

section Engine

variable {calendar : ExchangeCalendar} {timezone : String} {version : FeatureSetVersion F}
  {provenance : Provenance} {held held' : Dict Uuid (EventEnvelope F)}

omit [PyMath F] in
/-- The search of past sessions reads no event but the bars it is given. -/
theorem priorSessions_congr (held held' : Dict Uuid (EventEnvelope F)) (bars : List Bar)
    (ref : Option InstrumentRef) (opening now : Instant) :
    (CausalFeatureEngine.mk calendar timezone version provenance held).priorSessions bars ref
        opening now =
      (CausalFeatureEngine.mk calendar timezone version provenance held').priorSessions bars ref
        opening now := by
  have hloop : ∀ ref days day sessions,
      (CausalFeatureEngine.mk calendar timezone version provenance held).priorLoop bars ref now days
          day sessions =
        (CausalFeatureEngine.mk calendar timezone version provenance held').priorLoop bars ref now
          days day sessions := by
    intro ref days
    induction days with
    | zero => exact fun _ _ => rfl
    | succ days ih =>
      intro day sessions
      simp only [CausalFeatureEngine.priorLoop, ih]
  simp only [CausalFeatureEngine.priorSessions, hloop]

/-- A snapshot reads the events of an engine by its selection only. -/
theorem snapshot_congr {context : FeatureContext F} {now : Instant}
    (h : (CausalFeatureEngine.mk calendar timezone version provenance held).selectEvents context
        now =
      (CausalFeatureEngine.mk calendar timezone version provenance held').selectEvents context
        now) :
    (CausalFeatureEngine.mk calendar timezone version provenance held).snapshot context now =
      (CausalFeatureEngine.mk calendar timezone version provenance held').snapshot context now := by
  have hprices : ∀ name ref bars opening endpoint,
      (CausalFeatureEngine.mk calendar timezone version provenance held).priceReadings name ref bars
          opening endpoint now =
        (CausalFeatureEngine.mk calendar timezone version provenance held').priceReadings name ref
          bars opening endpoint now := by
    intro name ref bars opening endpoint
    simp only [CausalFeatureEngine.priceReadings,
      priorSessions_congr held held']
  simp only [CausalFeatureEngine.snapshot, h, CausalFeatureEngine.features, hprices,
    priorSessions_congr held held']

end Engine

variable {feed feed' : FeatureFeed F} {events events' : List (WrittenEvent F)}

omit [PyMath F] in
/-- An engine reads the events as a feed with the same events selects them. -/
theorem engine_selectEvents (h : Holds feed.events events) (context : FeatureContext F)
    (now : Instant) : feed.engine.selectEvents context now =
      (feed.selectEvents context now).map (·.toEventEnvelope) := by
  have hvalues : feed.engine.events.values = feed.events.values.map (·.toEventEnvelope) := by
    refine Dict.values_index_of_nodup ?_
    rw [List.map_map]
    exact h.nodup
  rw [CausalFeatureEngine.selectEvents, hvalues, List.filter_map, ← map_sortOn]
  rfl

omit [PyMath F] in
/-- Engines that hold the same events of a context select the same. -/
theorem selectEvents_congr (h : Holds feed.events events) (h' : Holds feed'.events events')
    {context : FeatureContext F} {now : Instant}
    (hagree : ∀ event, Relevant context now event → (event ∈ events ↔ event ∈ events')) :
    feed.selectEvents context now = feed'.selectEvents context now := by
  refine sortOn_eq_of_mem_iff (h.nodup.of_map.filter _) (h'.nodup.of_map.filter _) ?_ ?_
  · intro event
    rw [List.mem_filter, List.mem_filter, selectsEvent_iff, h.mem_values, h'.mem_values]
    exact and_congr_left (hagree event)
  · intro a ha b hb hkey
    exact List.inj_on_of_nodup_map h.nodup (List.mem_of_mem_filter ha) (List.mem_of_mem_filter hb)
      (Prod.mk.inj (toLex.injective hkey)).2

/-- Snapshots of engines that agree on the events of a context are equal. -/
theorem feed_snapshot_congr {start : FeatureFeed F} (h : Fed start feed events)
    (h' : Fed start feed' events') {context : FeatureContext F} {now : Instant}
    (hagree : ∀ event, Relevant context now event → (event ∈ events ↔ event ∈ events')) :
    feed.snapshot context now = feed'.snapshot context now := by
  have hselected := selectEvents_congr h.holds h'.holds hagree
  have hengine : feed.engine.snapshot context now = feed'.engine.snapshot context now := by
    have hread : feed.engine.selectEvents context now = feed'.engine.selectEvents context now := by
      rw [engine_selectEvents h.holds, engine_selectEvents h'.holds, hselected]
    rw [h.rest, h'.rest] at hread ⊢
    exact snapshot_congr hread
  rw [FeatureFeed.snapshot, FeatureFeed.snapshot, hengine, FeatureFeed.inputHash,
    FeatureFeed.inputHash, hselected]

variable {calendar : ExchangeCalendar} {timezone : String} {version : FeatureSetVersion F}
  {provenance : Provenance}

/-- A snapshot is that of a batch that agrees on the events of its context received by its time,
    in whatever order, how often and between what snapshots they came; a call of `on_event` that
    raises leaves every later snapshot as it was. -/
theorem snapshot_causal {actions : List (FeedAction F)} {context : FeatureContext F} {now : Instant}
    (hone : OneContent (actions.filterMap FeedAction.event?))
    (hagree : ∀ event, Relevant context now event →
      (event ∈ actions.filterMap FeedAction.event? ↔ event ∈ events)) :
    (OneContent events →
      (run FeatureFeed.step ⟨calendar, timezone, version, provenance, .empty⟩ actions).snapshot
          context now = batchSnapshot events context now calendar timezone version provenance) ∧
    (∀ a ∈ events, ∀ b ∈ events, a.eventId = b.eventId → a.hash ≠ b.hash →
      batchSnapshot events context now calendar timezone version provenance =
        .error (.valueError "conflicting feature input event")) ∧
    (∀ late, ¬ Relevant context now late →
      OneContent (late :: actions.filterMap FeedAction.event?) →
        (run FeatureFeed.step ⟨calendar, timezone, version, provenance, .empty⟩
          (actions ++ [.onEvent late])).snapshot context now =
        (run FeatureFeed.step ⟨calendar, timezone, version, provenance, .empty⟩ actions).snapshot
          context now) ∧
    (∀ (feed : FeatureFeed F) conflict error, (feed.onEvent conflict).1 = .error error →
      ∀ (later : List (FeedAction F)) context now,
        (run FeatureFeed.step feed (.onEvent conflict :: later)).snapshot context now =
          (run FeatureFeed.step feed later).snapshot context now) := by
  refine ⟨fun hone' => ?_, fun a ha b hb hid hhash => ?_, fun late hlate hone' => ?_,
    fun feed conflict error hraise later context now => ?_⟩
  · obtain ⟨feed, hfeed, hfed⟩ := fed_onEvents hone'
    rw [batchSnapshot, hfeed]
    exact feed_snapshot_congr (fed_run hone) hfed hagree
  · rw [batchSnapshot]
    cases hfed : FeatureFeed.onEvents ⟨calendar, timezone, version, provenance, .empty⟩ events with
    | error error => rw [onEvents_error hfed]; rfl
    | ok feed =>
      obtain ⟨kept, hkept, hkeptA⟩ := onEvents_hashed hfed a ha
      obtain ⟨kept', hkept', hkeptB⟩ := onEvents_hashed hfed b hb
      rw [hid, hkept'] at hkept
      obtain rfl := Option.some.inj hkept
      exact absurd (hkeptA.symm.trans hkeptB) hhash
  · refine feed_snapshot_congr (fed_run (hone'.mono ?_)) (fed_run hone) fun event hevent => ?_
    · simp [List.filterMap_append, FeedAction.event?]
    · have hother : event ≠ late := fun heq => hlate (heq ▸ hevent)
      simp [List.filterMap_append, FeedAction.event?, hother]
  · rw [run_cons]
    have hsame : feed.step (.onEvent conflict) = feed := (FeatureFeed.onEvent_error hraise).2
    rw [hsame]

end Snapshot

end Godzilla.Features

namespace Godzilla.Features.TextSample
open MarketData Events Misc Features.Sample Godzilla.TextDigest

theorem close_received (start : Instant) : start + minutesOf 5 ≤ start + minutesOf 5 := le_refl _

theorem close_causal (start : Instant) (price : ℚ) :
    (Payload.barClose (fiveMinutes start price) : Payload ℚ).CausalTimes (start + minutesOf 5)
      (start + minutesOf 5) :=
  ⟨rfl, close_received start⟩

/-- The close of five minutes. -/
def closeEvent (number : Nat) (start : Instant) (price : ℚ) : EventEnvelope ℚ where
  eventId := Uuid.ofNat number
  correlationId := Uuid.ofNat number
  occurredAt := start + minutesOf 5
  receivedAt := start + minutesOf 5
  source := "feed"
  provenance := provenance
  payload := .barClose (fiveMinutes start price)
  received_after := close_received start
  causal_times := close_causal start price

/-- What is written of it, with the texts of its id, of its times and of its price. -/
def closeText (id started ended price : String) : Json :=
  .obj [ ("correlation_id", .str id), ("event_id", .str id), ("occurred_at", .str ended),
    ("payload", .obj [ ("bar", .obj [ ("close", .str price), ("complete", .bool true),
        ("end", .str ended), ("feed_kind", .str "EQUITY"), ("high", .str price),
        ("instrument_id", .str "INFY"), ("interval_minutes", .num "5"), ("low", .str price),
        ("open", .str price), ("quality_flags", .arr []), ("received_at", .str ended),
        ("schema_version", .str "1"), ("source", .str "feed"), ("start", .str started),
        ("volume", .str "10") ]), ("kind", .str "BAR_CLOSE") ]),
    ("provenance", provenance.dump), ("received_at", .str ended), ("schema_version", .num "1"),
    ("source", .str "feed") ]

/-- The first bar of the first day, at a hundred rupees as they are written. -/
def first (price : String) : WrittenEvent ℚ where
  toEventEnvelope := closeEvent 1 (openOf 0) 100
  written := closeText "00000000-0000-0000-0000-000000000001" "1970-01-01T03:45:00Z"
    "1970-01-01T03:50:00Z" price

/-- The second. -/
def second : WrittenEvent ℚ where
  toEventEnvelope := closeEvent 2 (openOf 0 + minutesOf 5) 110
  written := closeText "00000000-0000-0000-0000-000000000002" "1970-01-01T03:50:00Z"
    "1970-01-01T03:55:00Z" "110"

/-- The first of the second day. -/
def third : WrittenEvent ℚ where
  toEventEnvelope := closeEvent 3 (openOf 1) 121
  written := closeText "00000000-0000-0000-0000-000000000003" "1970-01-02T03:45:00Z"
    "1970-01-02T03:50:00Z" "121"

/-- One that is received after the snapshot, at a price as it is written. -/
def late (price : String) : WrittenEvent ℚ where
  toEventEnvelope := closeEvent 4 (openOf 1 + minutesOf 5) 130
  written := closeText "00000000-0000-0000-0000-000000000004" "1970-01-02T03:50:00Z"
    "1970-01-02T03:55:00Z" price

theorem late_id (price : String) : (late price).eventId = Uuid.ofNat 4 := rfl

/-- The bars in some order, one of them twice, and a snapshot in between. -/
def shuffled : List (FeedAction ℚ) :=
  [.onEvent third, .snapshot context (openOf 1 + minutesOf 5), .onEvent second,
    .onEvent (first "100"), .onEvent third]

/-- The bars in a row, the late one too. -/
def inOrder : List (WrittenEvent ℚ) := [first "100", second, third, late "130"]

theorem inOrder_one : OneContent inOrder :=
  fun _ ha _ hb hid => List.inj_on_of_nodup_map (f := (·.eventId)) (by decide) ha hb hid

theorem shuffled_subset : shuffled.filterMap FeedAction.event? ⊆ inOrder := by
  intro event hevent
  simp only [shuffled, inOrder, List.filterMap_cons, List.filterMap_nil, FeedAction.event?,
    List.mem_cons, List.not_mem_nil, or_false] at hevent ⊢
  tauto

theorem late_received : openOf 1 + minutesOf 5 < openOf 1 + minutesOf 5 + minutesOf 5 := by decide

theorem late_irrelevant (price : String) :
    ¬ Relevant context (openOf 1 + minutesOf 5) (late price) :=
  fun h => absurd h.1 (not_le_of_gt late_received)

/-- The late bar, and another of its id, change nothing that the snapshot may read. -/
theorem shuffled_agrees (others : List (WrittenEvent ℚ))
    (hlate : ∀ event ∈ others, ∃ price, event = late price) (event : WrittenEvent ℚ)
    (hevent : Relevant context (openOf 1 + minutesOf 5) event) :
    event ∈ shuffled.filterMap FeedAction.event? ↔
      event ∈ [first "100", second, third] ++ others := by
  have hother : event ∉ others := by
    intro hmem
    obtain ⟨price, rfl⟩ := hlate event hmem
    exact late_irrelevant price hevent
  simp only [shuffled, List.filterMap_cons, List.filterMap_nil, FeedAction.event?, List.mem_append,
    List.mem_cons, List.not_mem_nil, or_false, hother]
  tauto

theorem inOrder_agrees (event : WrittenEvent ℚ)
    (hevent : Relevant context (openOf 1 + minutesOf 5) event) :
    event ∈ shuffled.filterMap FeedAction.event? ↔ event ∈ inOrder :=
  shuffled_agrees [late "130"] (by simp) event hevent

theorem inOrder_append_agrees (event : WrittenEvent ℚ)
    (hevent : Relevant context (openOf 1 + minutesOf 5) event) :
    event ∈ shuffled.filterMap FeedAction.event? ↔ event ∈ inOrder ++ [late "130.0"] :=
  shuffled_agrees [late "130", late "130.0"] (by simp) event hevent

/-- A price that is written otherwise is another content. -/
theorem first_conflicts : (first "100").hash ≠ (first "100.0").hash := by
  intro h
  have hwritten := Json.text_injective h
  simp [first, closeText] at hwritten

theorem late_conflicts : (late "130").hash ≠ (late "130.0").hash := by
  intro h
  have hwritten := Json.text_injective h
  simp [late, closeText] at hwritten

/-- The engine after the bars that came in some order. -/
def fed : FeatureFeed ℚ :=
  run FeatureFeed.step ⟨nse.toExchangeCalendar, "Asia/Kolkata", version, provenance, .empty⟩
    shuffled

theorem fed_refuses : (fed.onEvent (first "100.0")).1 =
    .error (.valueError "conflicting feature input event") := by
  have hheld : Holds fed.events _ := (fed_run (inOrder_one.mono shuffled_subset)).holds
  have hfirst : fed.events.get? (first "100.0").eventId = some (first "100") := by
    refine (hheld _ _).mpr ⟨?_, rfl⟩
    simp [shuffled, FeedAction.event?]
  have hrefused : fed.onEvent (first "100.0") =
      (.error (.valueError "conflicting feature input event"), fed) :=
    FeatureFeed.onEvent_conflict hfirst first_conflicts
  rw [hrefused]

theorem snapshot_causal_shuffled :
    ∃ snapshot, batchSnapshot inOrder context (openOf 1 + minutesOf 5) nse.toExchangeCalendar
        "Asia/Kolkata" version provenance = .ok snapshot ∧
      fed.snapshot context (openOf 1 + minutesOf 5) = .ok snapshot ∧
      batchSnapshot (inOrder ++ [late "130.0"]) context (openOf 1 + minutesOf 5)
        nse.toExchangeCalendar "Asia/Kolkata" version provenance =
          .error (.valueError "conflicting feature input event") ∧
      (fed.step (.onEvent (late "130"))).snapshot context (openOf 1 + minutesOf 5) =
        .ok snapshot ∧
      (fed.step (.onEvent (first "100.0"))).snapshot context (openOf 1 + minutesOf 5) =
        .ok snapshot := by
  have hreturns : (batchSnapshot inOrder context (openOf 1 + minutesOf 5) nse.toExchangeCalendar
      "Asia/Kolkata" version provenance).isOk = true := by decide +kernel
  have hone := inOrder_one.mono shuffled_subset
  cases hsnapshot : batchSnapshot inOrder context (openOf 1 + minutesOf 5) nse.toExchangeCalendar
      "Asia/Kolkata" version provenance with
  | error e => rw [hsnapshot] at hreturns; cases hreturns
  | ok snapshot =>
    obtain ⟨hbatch, -, hlate, hrefused⟩ := snapshot_causal hone inOrder_agrees
    obtain ⟨-, hconflict, -, -⟩ := snapshot_causal hone inOrder_append_agrees
    have hfed := (hbatch inOrder_one).trans hsnapshot
    have hid : (late "130").eventId = (late "130.0").eventId :=
      (late_id "130").trans (late_id "130.0").symm
    have hboth : late "130" ∈ inOrder ++ [late "130.0"] ∧
        late "130.0" ∈ inOrder ++ [late "130.0"] := by simp [inOrder]
    have honeLate : OneContent (late "130" :: shuffled.filterMap FeedAction.event?) := by
      refine inOrder_one.mono (List.cons_subset.mpr ⟨?_, shuffled_subset⟩)
      simp [inOrder]
    refine ⟨snapshot, rfl, hfed, hconflict _ hboth.1 _ hboth.2 hid late_conflicts, ?_, ?_⟩
    · have hstep := hlate (late "130") (late_irrelevant "130") honeLate
      rw [run_concat] at hstep
      exact hstep.trans hfed
    · have hstep := hrefused fed (first "100.0") _ fed_refuses [] context (openOf 1 + minutesOf 5)
      rw [run_cons, run_nil, run_nil] at hstep
      exact hstep.trans hfed

end Godzilla.Features.TextSample
