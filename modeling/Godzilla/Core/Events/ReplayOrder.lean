import Godzilla.Core.Events.Replay
import Godzilla.Misc.Firsts
import Godzilla.Misc.Transition

/-!
# What a replay emits

A run of `ReplayEngine` (`core/events/replay.py:19-36`) hands the first occurrences to `emit`,
in input order, up to the first event that it refuses: a copy that differs from an earlier
event of its id, or a first occurrence received before the clock. Copies are never seen.
-/

namespace Godzilla.Events
open Godzilla Misc

variable {F : Type} [PyFloat F] [Platform]

namespace ReplayEngine

variable {emit : EventEnvelope F → Except PyError Unit} {engine : ReplayEngine F}

/-- What one iteration hands to `emit`, with the reading of the clock at that moment. -/
def handed (emit : EventEnvelope F → Except PyError Unit) (engine : ReplayEngine F)
    (event : EventEnvelope F) : List (Instant × EventEnvelope F) :=
  let after := (engine.step emit event).1
  (after.emitted.drop engine.emitted.length).map fun event => (after.clock.instant, event)

/-- What a run hands to `emit`, with the readings of the clock. -/
def handovers (emit : EventEnvelope F → Except PyError Unit) (engine : ReplayEngine F) :
    List (EventEnvelope F) → List (Instant × EventEnvelope F)
  | [] => []
  | event :: rest =>
    match engine.step emit event with
    | (_, .error _) => engine.handed emit event
    | (next, .ok ()) => engine.handed emit event ++ next.handovers emit rest

/-- A run over two parts is a run over the second from where the first one left off. -/
theorem run_append (xs ys : List (EventEnvelope F)) (engine : ReplayEngine F) :
    engine.run emit (xs ++ ys) =
      match engine.run emit xs with
      | (engine, .error e) => (engine, .error e)
      | (engine, .ok _) => engine.run emit ys := by
  induction xs generalizing engine with
  | nil => rfl
  | cons event xs ih =>
    rw [List.cons_append, run, run]
    rcases engine.step emit event with ⟨next, e | ⟨⟩⟩
    · rfl
    · exact ih next

theorem handovers_append (xs ys : List (EventEnvelope F)) (engine : ReplayEngine F) :
    engine.handovers emit (xs ++ ys) =
      match engine.run emit xs with
      | (_, .error _) => engine.handovers emit xs
      | (next, .ok _) => engine.handovers emit xs ++ next.handovers emit ys := by
  induction xs generalizing engine with
  | nil => rfl
  | cons event xs ih =>
    rw [List.cons_append, run, handovers, handovers]
    rcases engine.step emit event with ⟨next, e | ⟨⟩⟩
    · rfl
    · simp only [ih next]
      rcases next.run emit xs with ⟨last, e | count⟩
      · rfl
      · simp only [List.append_assoc]

end ReplayEngine

/-- The first occurrences of a sequence of events. -/
abbrev firstOccurrences (events : List (EventEnvelope F)) : List (EventEnvelope F) :=
  firstsBy (·.eventId) events

/-- The event shares its id with an earlier one but not its content. -/
def Conflicts (before : List (EventEnvelope F)) (event : EventEnvelope F) : Prop :=
  ∃ earlier ∈ before, earlier.eventId = event.eventId ∧ earlier ≠ event

/-- The event is the first of its id and is received before the start or before an earlier
    first occurrence. -/
def Late (start : Instant) (before : List (EventEnvelope F)) (event : EventEnvelope F) : Prop :=
  event.eventId ∉ before.map (·.eventId) ∧
    (event.receivedAt < start ∨ ∃ earlier ∈ firstOccurrences before,
      event.receivedAt < earlier.receivedAt)

/-- An event that a replay refuses after the events before it. -/
def Offends (start : Instant) (before : List (EventEnvelope F)) (event : EventEnvelope F) :
    Prop :=
  Conflicts before event ∨ Late start before event

/-- No event of a sequence offends. -/
def Orderly (start : Instant) (events : List (EventEnvelope F)) : Prop :=
  ∀ before event after, events = before ++ event :: after → ¬ Offends start before event

theorem Orderly.of_append {start : Instant} {xs ys : List (EventEnvelope F)}
    (h : Orderly start (xs ++ ys)) : Orderly start xs := by
  intro before event after hsplit
  apply h before event (after ++ ys)
  rw [hsplit, List.append_assoc, List.cons_append]

theorem orderly_concat {start : Instant} {xs : List (EventEnvelope F)} {event : EventEnvelope F} :
    Orderly start (xs ++ [event]) ↔ Orderly start xs ∧ ¬ Offends start xs event := by
  constructor
  · intro h
    exact ⟨h.of_append, h xs event [] rfl⟩
  · rintro ⟨hxs, hevent⟩ before other after hsplit
    rcases concat_split hsplit with ⟨-, rfl, rfl⟩ | ⟨after', -, hearlier⟩
    · exact hevent
    · exact hxs before other after' hearlier

/-- A sequence that is not orderly has a first event that offends. -/
theorem exists_first_offence {start : Instant} {events : List (EventEnvelope F)}
    (h : ¬ Orderly start events) :
    ∃ before event after, events = before ++ event :: after ∧ Offends start before event ∧
      Orderly start before := by
  induction events using List.reverseRecOn with
  | nil => exact absurd (fun _ _ _ hsplit => absurd hsplit.symm (by simp)) h
  | append_singleton events event ih =>
    by_cases hevents : Orderly start events
    · have hoffends : Offends start events event := by
        by_contra hnot
        exact h (orderly_concat.mpr ⟨hevents, hnot⟩)
      exact ⟨events, event, [], rfl, hoffends, hevents⟩
    · obtain ⟨before, other, after, hsplit, hoffends, horderly⟩ := ih hevents
      exact ⟨before, other, after ++ [event], by rw [hsplit]; simp, hoffends, horderly⟩

/-- An engine that started at `start` and has taken the events without refusing one. -/
structure Replayed (start : Instant) (events : List (EventEnvelope F)) (engine : ReplayEngine F) :
    Prop where
  emitted : engine.emitted = firstOccurrences events
  /-- The digests seen are those of the events, and events of one id are one event. -/
  seen : ∀ event ∈ events, engine.seen.get? event.eventId = some (eventHash event)
  unseen : ∀ id, id ∉ events.map (·.eventId) → engine.seen.get? id = none
  coherent : ∀ a ∈ events, ∀ b ∈ events, a.eventId = b.eventId → a = b
  /-- The clock stands at the start or at the receipt of the latest first occurrence. -/
  started : start ≤ engine.clock.instant
  received : ∀ event ∈ firstOccurrences events, event.receivedAt ≤ engine.clock.instant
  clock : engine.clock.instant = start ∨
    ∃ event ∈ firstOccurrences events, engine.clock.instant = event.receivedAt

theorem replayed_nil (clock : ReplayClock) :
    Replayed clock.instant [] ({ clock := clock } : ReplayEngine F) where
  emitted := rfl
  seen _ h := absurd h List.not_mem_nil
  unseen id _ := Dict.get?_empty id
  coherent _ h := absurd h List.not_mem_nil
  started := le_refl _
  received _ h := absurd h List.not_mem_nil
  clock := .inl rfl

section Steps

variable {emit : EventEnvelope F → Except PyError Unit} {engine : ReplayEngine F}
  {start : Instant} {before : List (EventEnvelope F)} {event : EventEnvelope F}

/-- A first occurrence is late exactly when the clock is past its receipt. -/
theorem Replayed.late_iff (h : Replayed start before engine)
    (hnew : event.eventId ∉ before.map (·.eventId)) :
    Late start before event ↔ event.receivedAt < engine.clock.instant := by
  constructor
  · rintro ⟨-, hstart | ⟨earlier, hearlier, hlate⟩⟩
    · exact lt_of_lt_of_le hstart h.started
    · exact lt_of_lt_of_le hlate (h.received earlier hearlier)
  · intro hlate
    refine ⟨hnew, ?_⟩
    rcases h.clock with hclock | ⟨earlier, hearlier, hclock⟩
    · exact Or.inl (hclock ▸ hlate)
    · exact Or.inr ⟨earlier, hearlier, hclock ▸ hlate⟩

/-- A copy of an event passes through the engine without a trace. -/
theorem Replayed.step_copy (h : Replayed start before engine) (hmem : event ∈ before) :
    engine.step emit event = (engine, .ok ()) := by
  rw [ReplayEngine.step, h.seen event hmem]
  simp

/-- A copy that differs from an event of its id is refused. -/
theorem Replayed.step_conflict (h : Replayed start before engine)
    (hinjective : ∀ earlier ∈ before, eventHash earlier = eventHash event → earlier = event)
    (hconflict : Conflicts before event) :
    engine.step emit event =
      (engine, .error (.valueError "conflicting duplicate replay event")) := by
  obtain ⟨earlier, hmem, hid, hdiffers⟩ := hconflict
  have hhash : eventHash earlier ≠ eventHash event := fun heq =>
    hdiffers (hinjective earlier hmem heq)
  rw [ReplayEngine.step, ← hid, h.seen earlier hmem]
  simp only [ne_eq, hhash, not_false_eq_true, if_true]

/-- A late first occurrence is refused. -/
theorem Replayed.step_late (h : Replayed start before engine) (hlate : Late start before event) :
    engine.step emit event =
      (engine, .error (.valueError "replay clock cannot move backwards")) := by
  have hpast := (h.late_iff hlate.1).mp hlate
  rw [ReplayEngine.step, h.unseen _ hlate.1]
  simp only [ReplayClock.advanceTo, hpast, if_true]

/-- A first occurrence that is not late is handed over, the clock at its receipt. -/
theorem Replayed.step_new (h : Replayed start before engine) (hemit : emit event = .ok ())
    (hnew : event.eventId ∉ before.map (·.eventId)) (hlate : ¬ Late start before event) :
    engine.step emit event =
      ({ clock := ⟨event.receivedAt⟩
         seen := engine.seen.insert event.eventId (eventHash event)
         emitted := engine.emitted ++ [event] }, .ok ()) := by
  rw [h.late_iff hnew, not_lt] at hlate
  apply ReplayEngine.step_of_new _ hlate hemit
  rw [Dict.mem_keys_iff, h.unseen _ hnew]
  exact Bool.false_ne_true

/-- An engine that has taken the events has taken one more copy. -/
theorem Replayed.copy (h : Replayed start before engine) (hmem : event ∈ before) :
    Replayed start (before ++ [event]) engine := by
  have hfirsts : firstOccurrences (before ++ [event]) = firstOccurrences before :=
    firstsBy_concat_of_mem ((mem_map_firstsBy _ _ _).mpr (List.mem_map_of_mem hmem))
  have hsame : ∀ other, other ∈ before ++ [event] → other ∈ before := by
    intro other hother
    rcases List.mem_append.mp hother with hin | hlast
    · exact hin
    · exact List.mem_singleton.mp hlast ▸ hmem
  constructor
  case emitted => rw [hfirsts, h.emitted]
  case seen => exact fun other hother => h.seen other (hsame other hother)
  case unseen =>
    intro id hid
    refine h.unseen id fun hin => hid ?_
    rw [List.map_append]
    exact List.mem_append_left _ hin
  case coherent => exact fun a ha b hb => h.coherent a (hsame a ha) b (hsame b hb)
  case started => exact h.started
  case received => exact hfirsts ▸ h.received
  case clock => exact hfirsts ▸ h.clock

/-- An engine that is handed a new event in time has taken it. -/
theorem Replayed.new (h : Replayed start before engine)
    (hnew : event.eventId ∉ before.map (·.eventId)) (hlate : ¬ Late start before event) :
    Replayed start (before ++ [event])
      { clock := ⟨event.receivedAt⟩
        seen := engine.seen.insert event.eventId (eventHash event)
        emitted := engine.emitted ++ [event] } := by
  have hfirsts : firstOccurrences (before ++ [event]) = firstOccurrences before ++ [event] :=
    firstsBy_concat_of_not_mem fun hmem => hnew ((mem_map_firstsBy _ _ _).mp hmem)
  have hother : ∀ other ∈ before, other.eventId ≠ event.eventId := fun other hmem heq =>
    hnew (heq ▸ List.mem_map_of_mem hmem)
  rw [h.late_iff hnew, not_lt] at hlate
  constructor
  case emitted => rw [hfirsts, h.emitted]
  case seen =>
    intro other hmem
    rcases List.mem_append.mp hmem with hin | hlast
    · rw [Dict.get?_insert_of_ne _ _ (hother other hin)]
      exact h.seen other hin
    · rw [List.mem_singleton.mp hlast, Dict.get?_insert_self]
  case unseen =>
    intro id hid
    rw [List.map_append, List.mem_append, not_or, List.map_singleton, List.mem_singleton] at hid
    rw [Dict.get?_insert_of_ne _ _ hid.2]
    exact h.unseen id hid.1
  case coherent =>
    intro a ha b hb hid
    rcases List.mem_append.mp ha with ha | ha <;> rcases List.mem_append.mp hb with hb | hb
    · exact h.coherent a ha b hb hid
    · exact absurd (List.mem_singleton.mp hb ▸ hid) (hother a ha)
    · exact absurd (List.mem_singleton.mp ha ▸ hid.symm) (hother b hb)
    · rw [List.mem_singleton.mp ha, List.mem_singleton.mp hb]
  case started => exact h.started.trans hlate
  case received =>
    intro other hmem
    rw [hfirsts] at hmem
    rcases List.mem_append.mp hmem with hin | hlast
    · exact (h.received other hin).trans hlate
    · exact List.mem_singleton.mp hlast ▸ le_refl _
  case clock =>
    refine Or.inr ⟨event, ?_, rfl⟩
    rw [hfirsts]
    exact List.mem_append_right _ List.mem_cons_self

end Steps

section Runs

variable {emit : EventEnvelope F → Except PyError Unit}
  {before events : List (EventEnvelope F)} {event : EventEnvelope F}

/-- A first occurrence as `emit` meets it: the clock reads its receipt. -/
def onReceipt (event : EventEnvelope F) : Instant × EventEnvelope F := (event.receivedAt, event)

/-- An event of a known id that does not conflict is a copy. -/
theorem mem_of_not_conflicts (hid : event.eventId ∈ before.map (·.eventId))
    (h : ¬ Conflicts before event) : event ∈ before := by
  obtain ⟨earlier, hmem, hsame⟩ := List.mem_map.mp hid
  by_cases heq : earlier = event
  · exact heq ▸ hmem
  · exact absurd ⟨earlier, hmem, hsame, heq⟩ h

/-- An orderly sequence is replayed to its end. -/
theorem run_orderly (clock : ReplayClock) (hemit : ∀ event, emit event = .ok ()) :
    ∀ events : List (EventEnvelope F), Orderly clock.instant events →
      ∃ final, ReplayEngine.run emit { clock := clock } events =
          (final, .ok (firstOccurrences events).length) ∧
        Replayed clock.instant events final ∧
        ReplayEngine.handovers emit { clock := clock } events =
          (firstOccurrences events).map onReceipt := by
  intro events
  induction events using List.reverseRecOn with
  | nil => exact fun _ => ⟨_, rfl, replayed_nil clock, rfl⟩
  | append_singleton events event ih =>
    intro horderly
    obtain ⟨hevents, hevent⟩ := orderly_concat.mp horderly
    obtain ⟨engine, hrun, hreplayed, hhanded⟩ := ih hevents
    simp only [ReplayEngine.run_append, ReplayEngine.handovers_append, hrun, hhanded,
      ReplayEngine.run, ReplayEngine.handovers, ReplayEngine.handed]
    by_cases hid : event.eventId ∈ events.map (·.eventId)
    · have hmem := mem_of_not_conflicts hid fun h => hevent (.inl h)
      have hfirsts : firstOccurrences (events ++ [event]) = firstOccurrences events :=
        firstsBy_concat_of_mem ((mem_map_firstsBy _ _ _).mpr hid)
      rw [hreplayed.step_copy hmem, hfirsts]
      refine ⟨engine, ?_, hreplayed.copy hmem, ?_⟩
      · simp only [hreplayed.emitted]
      · simp
    · have hlate : ¬ Late clock.instant events event := fun h => hevent (.inr h)
      have hfirsts : firstOccurrences (events ++ [event]) = firstOccurrences events ++ [event] :=
        firstsBy_concat_of_not_mem fun h => hid ((mem_map_firstsBy _ _ _).mp h)
      rw [hreplayed.step_new (hemit event) hid hlate, hfirsts]
      refine ⟨_, ?_, hreplayed.new hid hlate, ?_⟩
      · simp [hreplayed.emitted]
      · simp [onReceipt]

/-- A run stops at the first event that offends. -/
theorem run_offending (clock : ReplayClock) (after : List (EventEnvelope F))
    (hemit : ∀ event, emit event = .ok ())
    (hinjective : ∀ earlier ∈ before, eventHash earlier = eventHash event → earlier = event)
    (horderly : Orderly clock.instant before) (hoffends : Offends clock.instant before event) :
    ∃ final e, ReplayEngine.run emit { clock := clock } (before ++ event :: after) =
        (final, .error e) ∧
      final.emitted = firstOccurrences before ∧
      ReplayEngine.handovers emit { clock := clock } (before ++ event :: after) =
        (firstOccurrences before).map onReceipt := by
  obtain ⟨engine, hrun, hreplayed, hhanded⟩ := run_orderly clock hemit before horderly
  obtain ⟨e, hstep⟩ : ∃ e, engine.step emit event = (engine, .error e) := by
    rcases hoffends with hconflict | hlate
    · exact ⟨_, hreplayed.step_conflict hinjective hconflict⟩
    · exact ⟨_, hreplayed.step_late hlate⟩
  refine ⟨engine, e, ?_, hreplayed.emitted, ?_⟩
  · simp only [ReplayEngine.run_append, hrun, ReplayEngine.run, hstep]
  · simp [ReplayEngine.handovers_append, hrun, hhanded, ReplayEngine.handovers,
      ReplayEngine.handed, hstep]

/-- A run raises exactly when an event offends. -/
theorem run_raises_iff (clock : ReplayClock) (hemit : ∀ event, emit event = .ok ())
    (hinjective : Set.InjOn (eventHash : EventEnvelope F → Digest) {event | event ∈ events}) :
    (∃ e, (ReplayEngine.run emit { clock := clock } events).2 = .error e) ↔
      ∃ before event after, events = before ++ event :: after ∧
        Offends clock.instant before event := by
  by_cases horderly : Orderly clock.instant events
  · obtain ⟨final, hrun, -, -⟩ := run_orderly clock hemit events horderly
    constructor
    · rintro ⟨e, he⟩
      rw [hrun] at he
      cases he
    · rintro ⟨before, event, after, hsplit, hoffends⟩
      exact absurd hoffends (horderly before event after hsplit)
  · obtain ⟨before, event, after, rfl, hoffends, hbefore⟩ := exists_first_offence horderly
    obtain ⟨final, e, hrun, -, -⟩ := run_offending clock after hemit
      (fun earlier hmem heq => hinjective (List.mem_append_left _ hmem)
        (List.mem_append_right _ List.mem_cons_self) heq) hbefore hoffends
    exact ⟨fun _ => ⟨before, event, after, rfl, hoffends⟩, fun _ => ⟨e, by rw [hrun]⟩⟩

/-- A copy of an earlier event changes neither what is emitted nor how the run ends. -/
theorem run_copy (clock : ReplayClock) (after : List (EventEnvelope F))
    (hemit : ∀ event, emit event = .ok ())
    (hinjective : Set.InjOn (eventHash : EventEnvelope F → Digest) {event | event ∈ before})
    (hmem : event ∈ before) :
    ReplayEngine.run emit { clock := clock } (before ++ event :: after) =
        ReplayEngine.run emit { clock := clock } (before ++ after) ∧
      ReplayEngine.handovers emit { clock := clock } (before ++ event :: after) =
        ReplayEngine.handovers emit { clock := clock } (before ++ after) := by
  simp only [ReplayEngine.run_append before, ReplayEngine.handovers_append before]
  by_cases horderly : Orderly clock.instant before
  · obtain ⟨engine, hrun, hreplayed, -⟩ := run_orderly clock hemit before horderly
    simp only [hrun, ReplayEngine.run, ReplayEngine.handovers, ReplayEngine.handed,
      hreplayed.step_copy hmem, List.drop_length, List.map_nil, List.nil_append, and_self]
  · obtain ⟨e, hraises⟩ := (run_raises_iff clock hemit hinjective).mpr (by
      obtain ⟨xs, x, ys, hsplit, hoffends, -⟩ := exists_first_offence horderly
      exact ⟨xs, x, ys, hsplit, hoffends⟩)
    rcases hrun : ReplayEngine.run emit { clock := clock } before with ⟨final, outcome⟩
    rw [hrun] at hraises
    rw [show outcome = .error e from hraises]
    exact ⟨rfl, rfl⟩

/-- How a replay of the events from a clock ends and what it hands over. -/
structure ReplaysFirsts (emit : EventEnvelope F → Except PyError Unit) (clock : ReplayClock)
    (events : List (EventEnvelope F)) : Prop where
  raises_iff : (∃ e, (ReplayEngine.run emit { clock := clock } events).2 = .error e) ↔
    ∃ before event after, events = before ++ event :: after ∧
      Offends clock.instant before event
  /-- A run that raises has emitted the first occurrences before the first event refused. -/
  offended : ∀ before event after, events = before ++ event :: after →
    Offends clock.instant before event → Orderly clock.instant before →
      (ReplayEngine.run emit { clock := clock } events).1.emitted = firstOccurrences before ∧
      ReplayEngine.handovers emit { clock := clock } events =
        (firstOccurrences before).map onReceipt
  /-- A run that does not raise has emitted all of them and returns how many there are. -/
  completed : Orderly clock.instant events →
    (ReplayEngine.run emit { clock := clock } events).1.emitted = firstOccurrences events ∧
    ReplayEngine.handovers emit { clock := clock } events =
      (firstOccurrences events).map onReceipt ∧
    (ReplayEngine.run emit { clock := clock } events).2 = .ok (firstOccurrences events).length
  copies : ∀ repeated, Repeats events repeated →
    ReplayEngine.run emit { clock := clock } repeated =
        ReplayEngine.run emit { clock := clock } events ∧
      ReplayEngine.handovers emit { clock := clock } repeated =
        ReplayEngine.handovers emit { clock := clock } events

/-- A replay emits the first occurrences in order, up to the first event that offends, each
    with the clock at its receipt; copies change nothing. -/
theorem run_replaysFirsts (emit : EventEnvelope F → Except PyError Unit)
    (hemit : ∀ event, emit event = .ok ()) (clock : ReplayClock)
    (events : List (EventEnvelope F))
    (hinjective : Set.InjOn (eventHash : EventEnvelope F → Digest) {event | event ∈ events}) :
    ReplaysFirsts emit clock events := by
  constructor
  case raises_iff => exact run_raises_iff clock hemit hinjective
  case offended =>
    rintro before event after rfl hoffends horderly
    obtain ⟨final, e, hrun, hemitted, hhanded⟩ := run_offending clock after hemit
      (fun earlier hmem heq => hinjective (List.mem_append_left _ hmem)
        (List.mem_append_right _ List.mem_cons_self) heq) horderly hoffends
    exact ⟨by rw [hrun, hemitted], hhanded⟩
  case completed =>
    intro horderly
    obtain ⟨final, hrun, hreplayed, hhanded⟩ := run_orderly clock hemit events horderly
    exact ⟨by rw [hrun, hreplayed.emitted], hhanded, by rw [hrun]⟩
  case copies =>
    intro repeated hrepeats
    refine Prod.mk.inj (hrepeats.invariant (f := fun events =>
      (ReplayEngine.run emit { clock := clock } events,
        ReplayEngine.handovers emit { clock := clock } events)) ?_)
    intro before after copy hcopy hsubset
    obtain ⟨hrun, hhanded⟩ := run_copy clock after hemit
      (hinjective.mono fun event hmem => hsubset event (List.mem_append_left _ hmem)) hcopy
    exact Prod.ext hrun hhanded

end Runs

end Godzilla.Events

namespace Godzilla.Events.Sample
open Misc Godzilla.TextDigest

/-- A position update that arrives `delay` after it occurred. -/
def recorded (id : Nat) (delay : Nat) : EventEnvelope ℚ where
  eventId := Uuid.ofNat id
  correlationId := Uuid.ofNat id
  occurredAt := 0
  receivedAt := delay
  source := "feed-" ++ toString id
  provenance := ⟨"commit", "config", "data", "features"⟩
  payload := .positionUpdate ⟨"INFY", 1, "fill"⟩
  received_after := Int.natCast_nonneg _
  causal_times := trivial

/-- Two events, and a copy of the first after the second. -/
def recording : List (EventEnvelope ℚ) := [recorded 1 5, recorded 2 7, recorded 1 5]

theorem hash_ne : eventHash (recorded 1 5) ≠ eventHash (recorded 2 7) := by
  intro heq
  have hsource := congrArg (fun j => j.get? "source") (Json.text_injective heq)
  exact absurd hsource (by decide +kernel)

theorem mem_recording {event : EventEnvelope ℚ} (h : event ∈ recording) :
    event = recorded 1 5 ∨ event = recorded 2 7 := by
  simp only [recording, List.mem_cons, List.not_mem_nil, or_false] at h
  rcases h with h | h | h
  · exact Or.inl h
  · exact Or.inr h
  · exact Or.inl h

theorem recording_injOn :
    Set.InjOn (eventHash : EventEnvelope ℚ → Digest) {event | event ∈ recording} := by
  intro a ha b hb heq
  rcases mem_recording ha with ha | ha <;> rcases mem_recording hb with hb | hb
  · rw [ha, hb]
  · exact absurd (ha ▸ hb ▸ heq) hash_ne
  · exact absurd (ha ▸ hb ▸ heq.symm) hash_ne
  · rw [ha, hb]

/-- The copy is not a first occurrence: the run hands over the two events. -/
theorem run_replaysFirsts_recording :
    ReplaysFirsts (fun _ => .ok ()) ⟨0⟩ recording ∧
      (firstOccurrences recording).map onReceipt = [(5, recorded 1 5), (7, recorded 2 7)] :=
  ⟨run_replaysFirsts _ (fun _ => rfl) _ _ recording_injOn, rfl⟩

end Godzilla.Events.Sample
