import Godzilla.Core.Clock
import Godzilla.Core.Events.Serialization
import Godzilla.Misc.Dict

/-!
# Replay

`ReplayEngine.run` (`core/events/replay.py:19-36`) over the recorded order. The
dictionary of seen events is keyed by the event id itself, since `str(uuid)` is
canonical. A run keeps the events handed to `emit`, also when it raises.
-/

namespace Godzilla.Events
open Godzilla Misc

variable {F : Type} [PyFloat F] [Platform]

/-- The engine while it runs: its clock, the digests seen, and the events handed to `emit`. -/
structure ReplayEngine (F : Type) [PyFloat F] [Platform] where
  clock : ReplayClock
  seen : Dict Uuid Digest := .empty
  emitted : List (EventEnvelope F) := []

namespace ReplayEngine

/-- One iteration of the loop (`core/events/replay.py:26-35`). -/
def step (emit : EventEnvelope F → Except PyError Unit) (engine : ReplayEngine F)
    (event : EventEnvelope F) : ReplayEngine F × Except PyError Unit :=
  match engine.seen.get? event.eventId with
  | some digest =>
    (engine, if digest ≠ eventHash event then
      .error (.valueError "conflicting duplicate replay event") else .ok ())
  | none =>
    match engine.clock.advanceTo event.receivedAt with
    | .error e => (engine, .error e)
    | .ok clock =>
      let handed := { engine with clock := clock, emitted := engine.emitted ++ [event] }
      match emit event with
      | .error e => (handed, .error e)
      | .ok () =>
        ({ handed with seen := engine.seen.insert event.eventId (eventHash event) }, .ok ())

/-- `ReplayEngine.run` (`core/events/replay.py:23-36`): the number of events emitted. -/
def run (emit : EventEnvelope F → Except PyError Unit) (engine : ReplayEngine F) :
    List (EventEnvelope F) → ReplayEngine F × Except PyError Nat
  | [] => (engine, .ok engine.emitted.length)
  | event :: rest =>
    match engine.step emit event with
    | (engine, .error e) => (engine, .error e)
    | (engine, .ok ()) => engine.run emit rest

variable {emit : EventEnvelope F → Except PyError Unit} {engine : ReplayEngine F}

/-- A new event that is not received in the past is handed to an `emit` that returns. -/
theorem step_of_new {event : EventEnvelope F} (hnew : event.eventId ∉ engine.seen.keys)
    (hlater : engine.clock.instant ≤ event.receivedAt) (hemit : emit event = .ok ()) :
    engine.step emit event =
      ({ clock := ⟨event.receivedAt⟩
         seen := engine.seen.insert event.eventId (eventHash event)
         emitted := engine.emitted ++ [event] }, .ok ()) := by
  have hnone : engine.seen.get? event.eventId = none := by
    rw [Dict.mem_keys_iff, Option.not_isSome_iff_eq_none] at hnew
    exact hnew
  simp [step, hnone, ReplayClock.advanceTo, not_lt.mpr hlater, hemit]

/-- Distinct events in receipt order are each emitted once, in order. -/
theorem run_of_ordered (hemit : ∀ event, emit event = .ok ()) :
    ∀ (events : List (EventEnvelope F)) (engine : ReplayEngine F),
      (events.map (·.eventId)).Nodup → (∀ event ∈ events, event.eventId ∉ engine.seen.keys) →
      (∀ event ∈ events, engine.clock.instant ≤ event.receivedAt) →
      events.Pairwise (fun a b => a.receivedAt ≤ b.receivedAt) →
      (engine.run emit events).1.emitted = engine.emitted ++ events ∧
        (engine.run emit events).2 = .ok (engine.emitted.length + events.length) := by
  intro events
  induction events with
  | nil => intro engine _ _ _ _; simp [run]
  | cons event rest ih =>
    intro engine hdistinct hnew hlater hordered
    rw [List.map_cons, List.nodup_cons] at hdistinct
    obtain ⟨hfirst, hrest⟩ := List.pairwise_cons.mp hordered
    have hfresh := hnew event List.mem_cons_self
    have hstep := step_of_new hfresh (hlater event List.mem_cons_self) (hemit event)
    have hunseen : ∀ other ∈ rest, other.eventId ∉
        (engine.seen.insert event.eventId (eventHash event)).keys := by
      intro other hother
      rw [Dict.mem_keys_insert]
      rintro (heq | hseen)
      · exact hdistinct.1 (heq ▸ List.mem_map_of_mem hother)
      · exact hnew other (List.mem_cons_of_mem _ hother) hseen
    obtain ⟨hemitted, hcount⟩ := ih
      ⟨⟨event.receivedAt⟩, engine.seen.insert event.eventId (eventHash event),
        engine.emitted ++ [event]⟩ hdistinct.2 hunseen hfirst hrest
    rw [run, hstep]
    refine ⟨by rw [hemitted, List.append_assoc]; rfl, ?_⟩
    rw [hcount, List.length_append, List.length_singleton, List.length_cons]
    congr 1
    omega

end ReplayEngine

end Godzilla.Events
