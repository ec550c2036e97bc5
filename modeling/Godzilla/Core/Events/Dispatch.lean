import Godzilla.Core.Events.Journal
import Godzilla.Misc.Transition

/-!
# Interleaved journals over one repository

Any number of `EventJournal` instances share one repository. An instance belongs
to one process and runs its calls one after another; the steps of different
instances interleave freely. The repository appends atomically and accepts an
event id at most once; an append may also fail, before or after its commit, and
a callback may fail. Every step is observed, so a property of a run is a
property of its trace.
-/

namespace Godzilla.Events
open Godzilla Misc

/-- What one `append` did and answered. -/
inductive AppendOutcome where
  | accepted
  | redelivered
  | failedBefore (e : PyError)
  | failedAfter (e : PyError)

namespace AppendOutcome

/-- Whether the event was committed. -/
def commits : AppendOutcome → Bool
  | accepted | failedAfter _ => true
  | redelivered | failedBefore _ => false

/-- What the caller sees. -/
def answer : AppendOutcome → Except PyError Bool
  | accepted => .ok true
  | redelivered => .ok false
  | failedBefore e | failedAfter e => .error e

theorem commits_of_answer {outcome : AppendOutcome} (h : outcome.answer = .ok true) :
    outcome.commits = true := by
  cases outcome <;> simp_all [answer, commits]

end AppendOutcome

section Model

variable (Event State : Type)

/-- Where an instance stands in its current call. -/
inductive Phase where
  | idle
  | appending (call : PublishCall Event State)
  | appended (call : PublishCall Event State) (outcome : AppendOutcome)
  | emitting (call : PublishCall Event State)
  | saving

/-- An instance: its flags and its current call. -/
structure Instance where
  journal : EventJournal := {}
  phase : Phase Event State := .idle

/-- What can be seen of one step of an instance. -/
inductive Obs where
  /-- `publish` called `append`. -/
  | appendCalled (call : PublishCall Event State)
  /-- The repository committed the event. -/
  | committed (call : PublishCall Event State)
  /-- The repository committed nothing. -/
  | declined (call : PublishCall Event State)
  /-- `publish` called `emit`. -/
  | emitCalled (call : PublishCall Event State)
  /-- `emit` returned, and `publish` with it. -/
  | emitReturned (call : PublishCall Event State)
  /-- `save_instruments` called `save_master`. -/
  | saveCalled
  /-- A call returned without a dispatch. -/
  | returned
  /-- A call raised. -/
  | raised (e : PyError)

/-- The observation of the end of a call. -/
def Obs.ended {α : Type} : Except PyError α → Obs Event State
  | .ok _ => .returned
  | .error e => .raised e

end Model

variable {Event State Id ι : Type}

/-- One step of one instance against the log: `Step log instance seen log' instance'`. -/
inductive Instance.Step (ident : Event → Id) : List Event → Instance Event State →
    Obs Event State → List Event → Instance Event State → Prop
  /-- A call on a latched instance. -/
  | refuse {log journal e} : journal.guard = .error e →
      Step ident log ⟨journal, .idle⟩ (.raised e) log ⟨journal, .idle⟩
  | publish {log journal} (call) : journal.guard = .ok () →
      Step ident log ⟨journal, .idle⟩ (.appendCalled call) log ⟨journal, .appending call⟩
  /-- The repository accepts no id twice. -/
  | commit {log journal call} (outcome : AppendOutcome) : outcome.commits = true →
      (∀ e ∈ log, ident e ≠ ident call.event) →
      Step ident log ⟨journal, .appending call⟩ (.committed call) (log ++ [call.event])
        ⟨journal, .appended call outcome⟩
  | decline {log journal call} (outcome : AppendOutcome) : outcome.commits = false →
      Step ident log ⟨journal, .appending call⟩ (.declined call) log
        ⟨journal, .appended call outcome⟩
  | stop {log journal journal' call outcome result} :
      journal.afterAppend outcome.answer call.emits = (journal', .stop result) →
      Step ident log ⟨journal, .appended call outcome⟩ (.ended _ _ result) log ⟨journal', .idle⟩
  | dispatch {log journal journal' call outcome} :
      journal.afterAppend outcome.answer call.emits = (journal', .dispatch) →
      Step ident log ⟨journal, .appended call outcome⟩ (.emitCalled call) log
        ⟨journal', .emitting call⟩
  | emitReturned {log journal call} :
      Step ident log ⟨journal, .emitting call⟩ (.emitReturned call) log
        ⟨(journal.afterEmit (.ok ())).1, .idle⟩
  | emitRaised {log journal journal' call e} (failure) :
      journal.afterEmit (.error failure) = (journal', .error e) →
      Step ident log ⟨journal, .emitting call⟩ (.raised e) log ⟨journal', .idle⟩
  | save {log journal} : journal.guard = .ok () →
      Step ident log ⟨journal, .idle⟩ .saveCalled log ⟨journal, .saving⟩
  | saved {log journal} (answer) :
      Step ident log ⟨journal, .saving⟩ (.ended _ _ (journal.afterSave answer).2) log
        ⟨(journal.afterSave answer).1, .idle⟩

/-- The shared log, the instances, and everything observed so far. -/
structure System (ι Event State : Type) where
  log : List Event
  instances : ι → Instance Event State
  trace : List (ι × Obs Event State)

/-- Fresh instances over any repository. -/
def System.Start (s : System ι Event State) : Prop := s.trace = [] ∧ ∀ i, s.instances i = {}

/-- Any one instance takes a step. -/
inductive System.Step [DecidableEq ι] (ident : Event → Id) :
    System ι Event State → System ι Event State → Prop
  | step {s : System ι Event State} (i : ι) {seen log' instance'} :
      Instance.Step ident s.log (s.instances i) seen log' instance' →
      Step ident s ⟨log', Function.update s.instances i instance', s.trace ++ [(i, seen)]⟩

/-- Steps of one instance that nothing interrupts. -/
def Instance.Uninterrupted (ident : Event → Id) :
    List Event × Instance Event State → List Event × Instance Event State → Prop :=
  Relation.ReflTransGen fun a b => ∃ seen, Instance.Step ident a.1 a.2 seen b.1 b.2

theorem Instance.Uninterrupted.then {ident : Event → Id}
    {start : List Event × Instance Event State} {log log' : List Event}
    {x y : Instance Event State} {seen : Obs Event State}
    (h : Instance.Uninterrupted ident start (log, x)) (hstep : Instance.Step ident log x seen log' y) :
    Instance.Uninterrupted ident start (log', y) :=
  Relation.ReflTransGen.tail h ⟨seen, hstep⟩

/-- Uninterrupted, the steps of a call compute the sequential `publish`. -/
theorem publish_uninterrupted (ident : Event → Id) (journal : EventJournal)
    (call : PublishCall Event State) (outcome : AppendOutcome) (emit : Except PyError Unit)
    {log : List Event} (hfresh : outcome.commits = true → ∀ e ∈ log, ident e ≠ ident call.event) :
    ∃ log', Instance.Uninterrupted ident (log, (⟨journal, .idle⟩ : Instance Event State))
      (log', ⟨(journal.publish outcome.answer (if call.emits then some emit else none)).1, .idle⟩) := by
  have hstart : Instance.Uninterrupted ident (log, (⟨journal, .idle⟩ : Instance Event State))
      (log, ⟨journal, .idle⟩) := .refl
  cases hguard : journal.guard with
  | error e =>
    refine ⟨log, ?_⟩
    simpa only [EventJournal.publish, hguard] using hstart
  | ok u =>
    obtain ⟨log', happended⟩ : ∃ log', Instance.Uninterrupted ident
        (log, (⟨journal, .idle⟩ : Instance Event State)) (log', ⟨journal, .appended call outcome⟩) := by
      have hcalled := hstart.then (.publish call hguard)
      cases hc : outcome.commits with
      | true => exact ⟨_, hcalled.then (.commit outcome hc (hfresh hc))⟩
      | false => exact ⟨_, hcalled.then (.decline outcome hc)⟩
    refine ⟨log', ?_⟩
    have hemits : (if call.emits then some emit else none).isSome = call.emits := by
      cases call.emits <;> rfl
    simp only [EventJournal.publish, hguard, hemits]
    rcases hnext : journal.afterAppend outcome.answer call.emits with ⟨journal', next⟩
    cases next with
    | stop result => exact happended.then (.stop hnext)
    | dispatch =>
      have hdispatched := happended.then (.dispatch hnext)
      obtain ⟨-, hcallback, -⟩ := EventJournal.afterAppend_dispatch hnext
      rw [hcallback, if_pos rfl]
      cases emit with
      | ok u => exact hdispatched.then .emitReturned
      | error failure => exact hdispatched.then (.emitRaised failure rfl)

end Godzilla.Events
