import Godzilla.Core.Health
import Godzilla.Core.Platform

/-!
# The event journal

`core/events/journal.py`: the latch between a durable append and the dispatch
downstream. A call is cut where control leaves the journal, at the repository's
`append` or `save_master` and at the `emit` callback, so that the same pieces
make up the sequential `publish` and the steps of interleaved instances. The
journal never looks into an event or a state, and both stay type parameters.
-/

namespace Godzilla.Events
open Godzilla

/-- `EventJournal` (`core/events/journal.py:16-20`): its two flags. -/
structure EventJournal where
  blocked : Bool := false
  validated : Bool := false
  deriving DecidableEq, Repr

/-- The arguments of `publish`; `emits` says whether an `emit` callback is given. -/
structure PublishCall (Event State : Type) where
  event : Event
  key : String
  state : Option State := none
  emits : Bool
  deriving DecidableEq

/-- What a call does after `append` answered. -/
inductive Next where
  | stop (result : Except PyError Bool)
  | dispatch

namespace EventJournal

/-- The first statement of `publish` and `save_instruments`. -/
def guard (journal : EventJournal) : Except PyError Unit :=
  if journal.blocked then
    .error (.criticalWriteFailure "storage halt is latched; recovery review required")
  else .ok ()

/-- `publish` from the answer of `append` on (`core/events/journal.py:32-39`). -/
def afterAppend (journal : EventJournal) (answer : Except PyError Bool) (emits : Bool) :
    EventJournal × Next :=
  match answer with
  | .error _ =>
    ({ journal with blocked := true },
      .stop (.error (.criticalWriteFailure "critical transaction failed; new entries blocked")))
  | .ok accepted =>
    ({ journal with validated := true },
      if accepted && emits then .dispatch else .stop (.ok accepted))

/-- `publish` from the end of `emit` on (`core/events/journal.py:40-47`). -/
def afterEmit (journal : EventJournal) (answer : Except PyError Unit) :
    EventJournal × Except PyError Bool :=
  match answer with
  | .error _ =>
    ({ journal with blocked := true },
      .error (.criticalWriteFailure "dispatch failed after commit; replay recovery required"))
  | .ok () => (journal, .ok true)

/-- `save_instruments` from the end of `save_master` on (`core/events/journal.py:71-77`). -/
def afterSave (journal : EventJournal) (answer : Except PyError Unit) :
    EventJournal × Except PyError Unit :=
  match answer with
  | .error _ =>
    ({ journal with blocked := true },
      .error (.criticalWriteFailure "critical instrument write failed; new entries blocked"))
  | .ok () => ({ journal with validated := true }, .ok ())

/-- `publish` (`core/events/journal.py:22-47`), given what `append` and the callback,
    if there is one, answer. -/
def publish (journal : EventJournal) (append : Except PyError Bool)
    (emit : Option (Except PyError Unit)) : EventJournal × Except PyError Bool :=
  match journal.guard with
  | .error e => (journal, .error e)
  | .ok () =>
    match journal.afterAppend append emit.isSome, emit with
    | (journal, .dispatch), some answer => journal.afterEmit answer
    | (journal, .dispatch), none => (journal, .ok true)
    | (journal, .stop result), _ => (journal, result)

/-- `health` (`core/events/journal.py:49-62`). -/
def health (journal : EventJournal) (now : Instant) : ComponentHealth where
  component := "event-persistence"
  observedAt := now
  blocking := true
  status :=
    if journal.blocked then .unhealthy else if journal.validated then .healthy else .unknown
  message := if journal.blocked then "critical write halted" else "no critical write failure"

@[simp] theorem guard_eq_ok {journal : EventJournal} :
    journal.guard = .ok () ↔ journal.blocked = false := by
  unfold guard
  cases journal.blocked <;> simp

/-- A call stops after `append` either with the answer, the journal unlatched, or with
    an error, the journal latched. -/
theorem afterAppend_stop {journal journal' : EventJournal} {answer : Except PyError Bool}
    {emits : Bool} {result : Except PyError Bool}
    (h : journal.afterAppend answer emits = (journal', .stop result)) :
    (∃ e message, answer = .error e ∧ result = .error (.criticalWriteFailure message) ∧
      journal'.blocked = true) ∨
    (∃ accepted, answer = .ok accepted ∧ result = .ok accepted ∧ (accepted && emits) = false ∧
      journal'.blocked = journal.blocked) := by
  cases answer with
  | error e =>
    obtain ⟨rfl, hstop⟩ := Prod.mk.inj h
    cases hstop
    exact Or.inl ⟨e, _, rfl, rfl, rfl⟩
  | ok accepted =>
    obtain ⟨rfl, hstop⟩ := Prod.mk.inj h
    cases hb : accepted && emits with
    | true => simp [hb] at hstop
    | false =>
      simp only [hb, Bool.false_eq_true, if_false, Next.stop.injEq] at hstop
      exact Or.inr ⟨accepted, rfl, hstop.symm, hb, rfl⟩

/-- Only an accepted event with a callback is dispatched. -/
theorem afterAppend_dispatch {journal journal' : EventJournal} {answer : Except PyError Bool}
    {emits : Bool} (h : journal.afterAppend answer emits = (journal', .dispatch)) :
    answer = .ok true ∧ emits = true ∧ journal'.blocked = journal.blocked := by
  cases answer with
  | error e => cases (Prod.mk.inj h).2
  | ok accepted =>
    obtain ⟨rfl, hdispatch⟩ := Prod.mk.inj h
    cases accepted <;> cases emits <;> simp_all

end EventJournal

end Godzilla.Events
