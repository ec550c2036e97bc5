import Godzilla.Config.Modes
import Godzilla.Core.Platform
import Godzilla.Misc.Transition
import Godzilla.Misc.Walk

/-!
# The lifecycle of the application

`LifecycleController` (`app/lifecycle.py`): a state, the listeners of its transitions, and
the calls that move it. A listener may raise; the state has moved by then, and the
listeners after it are not told. A listener may also call the controller: `transition` iterates
the list of the listeners itself, so one that is added meanwhile is told too.
-/

namespace Godzilla

/-- The value of a state (`config/modes.py:13-20`). -/
def SystemState.value : SystemState → String
  | starting => "STARTING"
  | ready => "READY"
  | degraded => "DEGRADED"
  | halted => "HALTED"
  | emergency => "EMERGENCY"
  | stopping => "STOPPING"
  | stopped => "STOPPED"

namespace App
open Misc

/-- `StateTransition` (`app/lifecycle.py:19-25`). -/
structure StateTransition where
  eventId : Uuid
  previous : SystemState
  current : SystemState
  occurredAt : Instant
  reason : String
  deriving DecidableEq

/-- `_ALLOWED_TRANSITIONS` (`app/lifecycle.py:28-53`). -/
def allowedTransitions : SystemState → List SystemState
  | .starting => [.ready, .degraded, .halted, .emergency, .stopping]
  | .ready => [.degraded, .halted, .emergency, .stopping]
  | .degraded => [.ready, .halted, .emergency, .stopping]
  | .halted => [.emergency, .stopping]
  | .emergency => [.stopping]
  | .stopping => [.stopped]
  | .stopped => [.starting]

/-- `InvalidStateTransition` of a target that is not allowed. -/
def notAllowed (state target : SystemState) : PyError :=
  .runtimeError ("cannot transition from " ++ state.value ++ " to " ++ target.value)

/-- `InvalidStateTransition` of a second stop. -/
def alreadyStopping : PyError := .runtimeError "shutdown already in progress"

/-- The controller, with its listeners in the order they were added. -/
structure LifecycleController (ι : Type) where
  state : SystemState := .starting
  listeners : List ι := []

/-- What a transition takes from outside: the new id and the clock. -/
structure Surroundings where
  eventId : Uuid
  now : Instant

variable {ι : Type}

namespace LifecycleController

/-- `add_listener`. -/
def addListener (controller : LifecycleController ι) (listener : ι) : LifecycleController ι :=
  { controller with listeners := controller.listeners ++ [listener] }

/-- `transition` up to its loop over the listeners (`app/lifecycle.py:71-81`). -/
def transition (controller : LifecycleController ι) (surroundings : Surroundings)
    (target : SystemState) (reason : String) :
    Except PyError (LifecycleController ι × StateTransition) :=
  if target ∈ allowedTransitions controller.state then
    .ok
      ({ controller with state := target },
        { eventId := surroundings.eventId
          previous := controller.state
          current := target
          occurredAt := surroundings.now
          reason := reason })
  else .error (notAllowed controller.state target)

/-- `mark_ready`. -/
def markReady (controller : LifecycleController ι) (surroundings : Surroundings)
    (reason : String) : Except PyError (LifecycleController ι × StateTransition) :=
  controller.transition surroundings .ready reason

/-- `request_stop` (`app/lifecycle.py:89-92`). -/
def requestStop (controller : LifecycleController ι) (surroundings : Surroundings)
    (reason : String) : Except PyError (LifecycleController ι × StateTransition) :=
  if controller.state = .stopping then .error alreadyStopping
  else controller.transition surroundings .stopping reason

/-- `handle_signal` (`app/lifecycle.py:94-99`); `name` is `Signals(signum).name`, if there is
    such a signal. -/
def handleSignal (controller : LifecycleController ι) (surroundings : Surroundings)
    (signum : Int) (name : Option String) :
    Except PyError (LifecycleController ι × StateTransition) :=
  controller.requestStop surroundings ("signal:" ++ name.getD (toString signum))

/-- `mark_stopped`. -/
def markStopped (controller : LifecycleController ι) (surroundings : Surroundings)
    (reason : String) : Except PyError (LifecycleController ι × StateTransition) :=
  controller.transition surroundings .stopped reason

end LifecycleController

/-- A transition that was made, who was told of it so far, and what the call that made it
    answered, if it did. -/
structure Notice (ι : Type) where
  transition : StateTransition
  told : List ι := []
  answer : Option (Except PyError Unit) := none

/-- A loop over the listeners that runs: the number of its notice, and the position that it
    looks at next. -/
structure Loop where
  number : Nat
  position : Nat := 0

/-- A controller with the notices of its transitions, and the loops that run, innermost
    first. -/
structure Lifecycle (ι : Type) where
  controller : LifecycleController ι := {}
  notices : List (Notice ι) := []
  loops : List Loop := []

/-- What the code in control does next, a listener when a loop runs: it calls the controller,
    or it is left. -/
inductive LifecycleAction (ι : Type) where
  | addListener (listener : ι)
  | transition (target : SystemState) (reason : String) (surroundings : Surroundings)
  | markReady (reason : String) (surroundings : Surroundings)
  | requestStop (reason : String) (surroundings : Surroundings)
  | handleSignal (signum : Int) (name : Option String) (surroundings : Surroundings)
  | markStopped (reason : String) (surroundings : Surroundings)
  /-- The listener returns or raises. -/
  | leave (answer : Except PyError Unit)

namespace Lifecycle

/-- The innermost loop ends. -/
def finish (lifecycle : Lifecycle ι) (answer : Except PyError Unit) : Lifecycle ι :=
  match lifecycle.loops with
  | [] => lifecycle
  | loop :: rest =>
    { lifecycle with
      notices := lifecycle.notices.modify loop.number fun notice =>
        { notice with answer := some answer }
      loops := rest }

/-- The innermost loop goes on to the next listener, or `transition` returns
    (`app/lifecycle.py:82-84`). -/
def goOn (lifecycle : Lifecycle ι) : Lifecycle ι :=
  match lifecycle.loops with
  | [] => lifecycle
  | loop :: rest =>
    match lifecycle.controller.listeners[loop.position]? with
    | some listener =>
      { lifecycle with
        notices := lifecycle.notices.modify loop.number fun notice =>
          { notice with told := notice.told ++ [listener] }
        loops := { loop with position := loop.position + 1 } :: rest }
    | none => lifecycle.finish (.ok ())

/-- The transition was made, and its loop is about to begin. -/
def enter (lifecycle : Lifecycle ι) (controller : LifecycleController ι)
    (transition : StateTransition) : Lifecycle ι :=
  { controller := controller
    notices := lifecycle.notices ++ [{ transition := transition }]
    loops := { number := lifecycle.notices.length } :: lifecycle.loops }

/-- A call that attempts a transition. -/
def attempt (lifecycle : Lifecycle ι) :
    Except PyError (LifecycleController ι × StateTransition) → Lifecycle ι
  | .error _ => lifecycle
  | .ok (controller, transition) => (lifecycle.enter controller transition).goOn

/-- One more action. -/
def step (lifecycle : Lifecycle ι) : LifecycleAction ι → Lifecycle ι
  | .addListener listener =>
    { lifecycle with controller := lifecycle.controller.addListener listener }
  | .transition target reason surroundings =>
    lifecycle.attempt (lifecycle.controller.transition surroundings target reason)
  | .markReady reason surroundings =>
    lifecycle.attempt (lifecycle.controller.markReady surroundings reason)
  | .requestStop reason surroundings =>
    lifecycle.attempt (lifecycle.controller.requestStop surroundings reason)
  | .handleSignal signum name surroundings =>
    lifecycle.attempt (lifecycle.controller.handleSignal surroundings signum name)
  | .markStopped reason surroundings =>
    lifecycle.attempt (lifecycle.controller.markStopped surroundings reason)
  | .leave (.ok ()) => lifecycle.goOn
  | .leave (.error e) => lifecycle.finish (.error e)

/-- The transitions that were made, in order. -/
def transitions (lifecycle : Lifecycle ι) : List StateTransition :=
  lifecycle.notices.map (·.transition)

end Lifecycle

/-- A new controller after actions. -/
def lifecycleAfter (actions : List (LifecycleAction ι)) : Lifecycle ι :=
  run Lifecycle.step {} actions

section Moves

/-- What happens to a controller: a listener is added, a transition is made, and its loop tells
    a listener or ends, for want of another or because one raised. -/
inductive Move (lifecycle : Lifecycle ι) : Lifecycle ι → Prop where
  | added (listener : ι) :
    Move lifecycle { lifecycle with controller := lifecycle.controller.addListener listener }
  | made (transition : StateTransition) (hprevious : transition.previous = lifecycle.controller.state)
    (hallowed : transition.current ∈ allowedTransitions transition.previous) :
    Move lifecycle
      (lifecycle.enter { lifecycle.controller with state := transition.current } transition)
  | told {loop : Loop} {rest : List Loop} {listener : ι} (hloops : lifecycle.loops = loop :: rest)
    (hlistener : lifecycle.controller.listeners[loop.position]? = some listener) :
    Move lifecycle
      { lifecycle with
        notices := lifecycle.notices.modify loop.number fun notice =>
          { notice with told := notice.told ++ [listener] }
        loops := { loop with position := loop.position + 1 } :: rest }
  | ended {loop : Loop} {rest : List Loop} (answer : Except PyError Unit)
    (hloops : lifecycle.loops = loop :: rest)
    (hall : answer = .ok () → lifecycle.controller.listeners[loop.position]? = none) :
    Move lifecycle
      { lifecycle with
        notices := lifecycle.notices.modify loop.number fun notice =>
          { notice with answer := some answer }
        loops := rest }

/-- Any number of moves. -/
def Moves : Lifecycle ι → Lifecycle ι → Prop := Relation.ReflTransGen Move

theorem finish_moves (lifecycle : Lifecycle ι) (answer : Except PyError Unit)
    (hall : answer = .ok () → ∀ loop rest, lifecycle.loops = loop :: rest →
      lifecycle.controller.listeners[loop.position]? = none) :
    Moves lifecycle (lifecycle.finish answer) := by
  unfold Lifecycle.finish
  split
  · exact .refl
  · rename_i loop rest hloops
    exact .single (.ended answer hloops fun hok => hall hok loop rest hloops)

theorem goOn_moves (lifecycle : Lifecycle ι) : Moves lifecycle lifecycle.goOn := by
  unfold Lifecycle.goOn
  split
  · exact .refl
  · rename_i loop rest hloops
    split
    · rename_i listener hlistener
      exact .single (.told hloops hlistener)
    · rename_i hnone
      refine finish_moves lifecycle (.ok ()) fun _ loop' rest' hloops' => ?_
      obtain ⟨rfl, rfl⟩ := List.cons.inj (hloops.symm.trans hloops')
      exact hnone

theorem transition_moves (lifecycle : Lifecycle ι) (surroundings : Surroundings)
    (target : SystemState) (reason : String) :
    Moves lifecycle
      (lifecycle.attempt (lifecycle.controller.transition surroundings target reason)) := by
  unfold LifecycleController.transition
  by_cases hallowed : target ∈ allowedTransitions lifecycle.controller.state
  · rw [if_pos hallowed]
    exact .trans
      (.single (.made
        ⟨surroundings.eventId, lifecycle.controller.state, target, surroundings.now, reason⟩ rfl
        hallowed))
      (goOn_moves _)
  · rw [if_neg hallowed]
    exact .refl

theorem requestStop_moves (lifecycle : Lifecycle ι) (surroundings : Surroundings)
    (reason : String) :
    Moves lifecycle
      (lifecycle.attempt (lifecycle.controller.requestStop surroundings reason)) := by
  unfold LifecycleController.requestStop
  by_cases hstopping : lifecycle.controller.state = .stopping
  · rw [if_pos hstopping]
    exact .refl
  · rw [if_neg hstopping]
    exact transition_moves lifecycle surroundings .stopping reason

theorem step_moves (lifecycle : Lifecycle ι) (action : LifecycleAction ι) :
    Moves lifecycle (lifecycle.step action) := by
  cases action with
  | addListener listener => exact .single (.added listener)
  | transition target reason surroundings => exact transition_moves ..
  | markReady reason surroundings => exact transition_moves ..
  | requestStop reason surroundings => exact requestStop_moves ..
  | handleSignal signum name surroundings => exact requestStop_moves ..
  | markStopped reason surroundings => exact transition_moves ..
  | leave answer =>
    cases answer with
    | ok u => exact goOn_moves lifecycle
    | error e => exact finish_moves lifecycle (.error e) (by simp)

theorem run_moves (lifecycle : Lifecycle ι) (actions : List (LifecycleAction ι)) :
    Moves lifecycle (run Lifecycle.step lifecycle actions) :=
  run_invariant (P := Moves lifecycle) .refl
    (fun lifecycle' action h => .trans h (step_moves lifecycle' action)) actions

/-- What every move keeps holds after any number of them. -/
theorem Moves.invariant {P : Lifecycle ι → Prop} {lifecycle lifecycle' : Lifecycle ι}
    (h : Moves lifecycle lifecycle') (h0 : P lifecycle)
    (hmove : ∀ s s', P s → Move s s' → P s') : P lifecycle' := by
  have hreach : Reachable (· = lifecycle) Move lifecycle' := ⟨lifecycle, rfl, h⟩
  refine Reachable.invariant ?_ hmove hreach
  rintro s rfl
  exact h0

end Moves

section Loops

/-- A loop that runs has answered nothing yet, and has told the listeners before its position. -/
structure Running (lifecycle : Lifecycle ι) (loop : Loop) (notice : Notice ι) : Prop where
  number : lifecycle.notices[loop.number]? = some notice
  answer : notice.answer = none
  told : notice.told = lifecycle.controller.listeners.take loop.position
  position : loop.position ≤ lifecycle.controller.listeners.length

/-- Each loop that runs is that of a notice without an answer, and each such notice has one. -/
structure Looping (lifecycle : Lifecycle ι) : Prop where
  running : ∀ loop ∈ lifecycle.loops, ∃ notice, Running lifecycle loop notice
  distinct : (lifecycle.loops.map (·.number)).Nodup
  unanswered : ∀ number notice, lifecycle.notices[number]? = some notice →
    notice.answer = none → number ∈ lifecycle.loops.map (·.number)
  told : ∀ notice ∈ lifecycle.notices, notice.told <+: lifecycle.controller.listeners

/-- What stands in a list after one place was modified. -/
theorem getElem?_modify_some {α : Type} {f : α → α} {xs : List α} {n k : Nat} {x : α}
    (h : (xs.modify n f)[k]? = some x) :
    (k = n ∧ ∃ y, xs[n]? = some y ∧ x = f y) ∨ (k ≠ n ∧ xs[k]? = some x) := by
  by_cases heq : k = n
  · subst heq
    rw [List.getElem?_modify_eq] at h
    obtain ⟨y, hy, hx⟩ := Option.map_eq_some_iff.mp h
    exact Or.inl ⟨rfl, y, hy, hx.symm⟩
  · rw [List.getElem?_modify_ne f xs (Ne.symm heq)] at h
    exact Or.inr ⟨heq, h⟩

theorem map_modify {α β : Type} {f : α → α} {g : α → β} (h : ∀ x, g (f x) = g x) (xs : List α)
    (n : Nat) : (xs.modify n f).map g = xs.map g := by
  induction xs generalizing n with
  | nil => rw [List.modify_nil]
  | cons x xs ih =>
    cases n with
    | zero => rw [List.modify_zero_cons, List.map_cons, List.map_cons, h]
    | succ n => rw [List.modify_succ_cons, List.map_cons, List.map_cons, ih]

variable {lifecycle : Lifecycle ι} {loop : Loop} {rest : List Loop}

theorem Looping.empty : Looping ({} : Lifecycle ι) where
  running := by
    intro loop hloop
    cases hloop
  distinct := List.nodup_nil
  unanswered := by
    intro number notice hnotice
    cases hnotice
  told := by
    intro notice hnotice
    cases hnotice

theorem Looping.added (h : Looping lifecycle) (listener : ι) :
    Looping { lifecycle with controller := lifecycle.controller.addListener listener } where
  running := by
    intro loop hloop
    obtain ⟨notice, hrunning⟩ := h.running loop hloop
    refine ⟨notice, hrunning.number, hrunning.answer, ?_, ?_⟩
    · show notice.told = (lifecycle.controller.listeners ++ [listener]).take loop.position
      rw [List.take_append_of_le_length hrunning.position]
      exact hrunning.told
    · show loop.position ≤ (lifecycle.controller.listeners ++ [listener]).length
      rw [List.length_append]
      exact Nat.le_add_right_of_le hrunning.position
  distinct := h.distinct
  unanswered := h.unanswered
  told := fun notice hnotice => (h.told notice hnotice).trans (List.prefix_append _ _)

theorem Looping.number_lt (h : Looping lifecycle) (hloop : loop ∈ lifecycle.loops) :
    loop.number < lifecycle.notices.length := by
  obtain ⟨notice, hrunning⟩ := h.running loop hloop
  exact (List.getElem?_eq_some_iff.mp hrunning.number).1

theorem Looping.made (h : Looping lifecycle) (transition : StateTransition) (state : SystemState) :
    Looping (lifecycle.enter { lifecycle.controller with state := state } transition) where
  running := by
    intro loop hloop
    rcases List.mem_cons.mp hloop with rfl | hloop
    · refine ⟨{ transition := transition }, ?_, rfl, rfl, Nat.zero_le _⟩
      exact List.getElem?_concat_length
    · obtain ⟨notice, hrunning⟩ := h.running loop hloop
      refine ⟨notice, ?_, hrunning.answer, hrunning.told, hrunning.position⟩
      exact (List.getElem?_append_left (h.number_lt hloop)).trans hrunning.number
  distinct := by
    refine List.nodup_cons.mpr ⟨?_, h.distinct⟩
    intro hmem
    obtain ⟨loop, hloop, hnumber⟩ := List.mem_map.mp hmem
    exact absurd hnumber (Nat.ne_of_lt (h.number_lt hloop))
  unanswered := by
    intro number notice hnotice hanswer
    by_cases hold : number < lifecycle.notices.length
    · have hnotice := (List.getElem?_append_left hold).symm.trans hnotice
      exact List.mem_cons_of_mem _ (h.unanswered number notice hnotice hanswer)
    · have hlt : number <
          (lifecycle.notices ++ [({ transition := transition } : Notice ι)]).length :=
        (List.getElem?_eq_some_iff.mp hnotice).1
      rw [List.length_append, List.length_singleton] at hlt
      have hnumber : number = lifecycle.notices.length := by omega
      rw [hnumber]
      exact List.mem_cons_self
  told := by
    intro notice hnotice
    rcases List.mem_append.mp hnotice with hold | hnew
    · exact h.told notice hold
    · obtain rfl := List.mem_singleton.mp hnew
      exact List.nil_prefix

/-- The loops that were interrupted keep their notices when that of the innermost changes. -/
theorem Looping.others (h : Looping lifecycle) (hloops : lifecycle.loops = loop :: rest)
    {other : Loop} (hother : other ∈ rest) (f : Notice ι → Notice ι) :
    ∃ notice, (lifecycle.notices.modify loop.number f)[other.number]? = some notice ∧
      Running lifecycle other notice := by
  have hmem : other ∈ lifecycle.loops := by
    rw [hloops]
    exact List.mem_cons_of_mem _ hother
  obtain ⟨notice, hrunning⟩ := h.running other hmem
  refine ⟨notice, ?_, hrunning⟩
  have hdistinct := h.distinct
  rw [hloops, List.map_cons, List.nodup_cons] at hdistinct
  have hne : loop.number ≠ other.number := by
    intro heq
    rw [heq] at hdistinct
    exact hdistinct.1 (List.mem_map_of_mem hother)
  rw [List.getElem?_modify_ne f _ hne]
  exact hrunning.number

theorem Looping.told_step (h : Looping lifecycle) (hloops : lifecycle.loops = loop :: rest)
    {listener : ι} (hlistener : lifecycle.controller.listeners[loop.position]? = some listener) :
    Looping
      { lifecycle with
        notices := lifecycle.notices.modify loop.number fun notice =>
          { notice with told := notice.told ++ [listener] }
        loops := { loop with position := loop.position + 1 } :: rest } := by
  obtain ⟨notice, hrunning⟩ := h.running loop (by rw [hloops]; exact List.mem_cons_self)
  have htold : notice.told ++ [listener] =
      lifecycle.controller.listeners.take (loop.position + 1) := by
    rw [List.take_add_one, hlistener, hrunning.told, Option.toList_some]
  constructor
  · intro loop' hloop'
    rcases List.mem_cons.mp hloop' with rfl | hother
    · refine ⟨{ notice with told := notice.told ++ [listener] }, ?_, hrunning.answer, htold, ?_⟩
      · show (lifecycle.notices.modify loop.number _)[loop.number]? = _
        rw [List.getElem?_modify_eq, hrunning.number]
        rfl
      · exact (List.getElem?_eq_some_iff.mp hlistener).1
    · obtain ⟨notice', hnotice', hrunning'⟩ := h.others hloops hother _
      exact ⟨notice', hnotice', hrunning'.answer, hrunning'.told, hrunning'.position⟩
  · have hdistinct := h.distinct
    rw [hloops] at hdistinct
    exact hdistinct
  · intro number notice' hnotice' hanswer
    have hloops' : lifecycle.loops.map (·.number) = loop.number :: rest.map (·.number) := by
      rw [hloops, List.map_cons]
    show number ∈ loop.number :: rest.map (·.number)
    rw [← hloops']
    rcases getElem?_modify_some hnotice' with ⟨rfl, old, hold, rfl⟩ | ⟨-, hold⟩
    · exact h.unanswered _ old hold hanswer
    · exact h.unanswered number notice' hold hanswer
  · intro notice' hnotice'
    obtain ⟨number, hnumber⟩ := List.mem_iff_getElem?.mp hnotice'
    rcases getElem?_modify_some hnumber with ⟨rfl, old, hold, rfl⟩ | ⟨-, hold⟩
    · obtain rfl := Option.some.inj (hold.symm.trans hrunning.number)
      show old.told ++ [listener] <+: lifecycle.controller.listeners
      rw [htold]
      exact List.take_prefix _ _
    · exact h.told notice' (List.mem_of_getElem? hold)

theorem Looping.ended (h : Looping lifecycle) (hloops : lifecycle.loops = loop :: rest)
    (answer : Except PyError Unit) :
    Looping
      { lifecycle with
        notices := lifecycle.notices.modify loop.number fun notice =>
          { notice with answer := some answer }
        loops := rest } := by
  constructor
  · intro other hother
    obtain ⟨notice, hnotice, hrunning⟩ := h.others hloops hother _
    exact ⟨notice, hnotice, hrunning.answer, hrunning.told, hrunning.position⟩
  · have hdistinct := h.distinct
    rw [hloops, List.map_cons] at hdistinct
    exact (List.nodup_cons.mp hdistinct).2
  · intro number notice hnotice hanswer
    rcases getElem?_modify_some hnotice with ⟨-, old, -, rfl⟩ | ⟨hne, hold⟩
    · cases hanswer
    · have hmem := h.unanswered number notice hold hanswer
      rw [hloops] at hmem
      exact (List.mem_cons.mp hmem).resolve_left hne
  · intro notice hnotice
    obtain ⟨number, hnumber⟩ := List.mem_iff_getElem?.mp hnotice
    rcases getElem?_modify_some hnumber with ⟨-, old, hold, rfl⟩ | ⟨-, hold⟩
    · exact h.told old (List.mem_of_getElem? hold)
    · exact h.told notice (List.mem_of_getElem? hold)

theorem Looping.move {lifecycle' : Lifecycle ι} (h : Looping lifecycle)
    (hmove : Move lifecycle lifecycle') : Looping lifecycle' := by
  cases hmove with
  | added listener => exact h.added listener
  | made transition _ _ => exact h.made transition transition.current
  | told hloops hlistener => exact h.told_step hloops hlistener
  | ended answer hloops _ => exact h.ended hloops answer

theorem looping_run (actions : List (LifecycleAction ι)) : Looping (lifecycleAfter actions) :=
  (run_moves {} actions).invariant .empty fun _ _ h hmove => h.move hmove

end Loops

section Runs

/-- The transitions follow one another along allowed ones. -/
def Follows (start : SystemState) (made : List StateTransition) (stop : SystemState) : Prop :=
  Walk (·.previous) (·.current) (fun state target => target ∈ allowedTransitions state) start
    made stop

/-- A halt is left by a stop, a stop by having stopped, and that by starting again. -/
theorem restarts {start stop : SystemState} {made : List StateTransition}
    (h : Follows start made stop) (hstart : start = .halted ∨ start = .emergency)
    (hstop : stop = .starting ∨ stop = .ready ∨ stop = .degraded) :
    [SystemState.stopping, .stopped, .starting].Sublist (made.map (·.current)) := by
  have hhalted : ∀ s s' : SystemState, s = .halted ∨ s = .emergency →
      s' ∈ allowedTransitions s → (s' = .halted ∨ s' = .emergency) ∨ s' = .stopping := by
    rintro s s' (rfl | rfl) hs' <;> revert hs' <;> cases s' <;> decide
  have hstopping : ∀ s s' : SystemState, s = .stopping → s' ∈ allowedTransitions s →
      s' = .stopping ∨ s' = .stopped := by
    rintro s s' rfl hs'
    exact Or.inr (List.mem_singleton.mp hs')
  have hstopped : ∀ s s' : SystemState, s = .stopped → s' ∈ allowedTransitions s →
      s' = .stopped ∨ s' = .starting := by
    rintro s s' rfl hs'
    exact Or.inr (List.mem_singleton.mp hs')
  obtain ⟨n₁, t₁, rest₁, rfl, ht₁, h₁⟩ := h.through _ .stopping hhalted hstart
    (by rcases hstop with rfl | rfl | rfl <;> decide)
  obtain ⟨n₂, t₂, rest₂, rfl, ht₂, h₂⟩ := h₁.through (fun s => s = .stopping) .stopped hstopping
    rfl (by rcases hstop with rfl | rfl | rfl <;> decide)
  obtain ⟨n₃, t₃, rest₃, rfl, ht₃, -⟩ := h₂.through (fun s => s = .stopped) .starting hstopped
    rfl (by rcases hstop with rfl | rfl | rfl <;> decide)
  have hgates : [SystemState.stopping, .stopped, .starting] =
      [t₁, t₂, t₃].map (·.current) := by
    simp only [List.map_cons, List.map_nil, ht₁, ht₂, ht₃]
  rw [hgates]
  refine List.Sublist.map _ ?_
  refine List.sublist_append_of_sublist_right (List.Sublist.cons_cons t₁ ?_)
  refine List.sublist_append_of_sublist_right (List.Sublist.cons_cons t₂ ?_)
  exact List.sublist_append_of_sublist_right (List.Sublist.cons_cons t₃ (List.nil_sublist _))

theorem follows_run (actions : List (LifecycleAction ι)) :
    Follows .starting (lifecycleAfter actions).transitions
      (lifecycleAfter actions).controller.state := by
  refine (run_moves {} actions).invariant (P := fun lifecycle : Lifecycle ι =>
    Follows .starting lifecycle.transitions lifecycle.controller.state) rfl ?_
  intro s s' h hmove
  cases hmove with
  | added listener => exact h
  | made transition hprevious hallowed =>
    have hmade : (s.enter { s.controller with state := transition.current } transition).transitions
        = s.transitions ++ [transition] := by
      unfold Lifecycle.transitions Lifecycle.enter
      rw [List.map_append, List.map_singleton]
    rw [hmade]
    rw [hprevious] at hallowed
    exact h.concat hprevious hallowed
  | told | ended =>
    show Follows .starting ((s.notices.modify _ _).map _) s.controller.state
    rw [map_modify]
    · exact h
    · exact fun _ => rfl

/-- The transition of this number has not been answered, made or not. -/
def Unanswered (lifecycle : Lifecycle ι) (number : Nat) : Prop :=
  ∀ notice, lifecycle.notices[number]? = some notice → notice.answer = none

/-- The transition of this number, if it returned, told these listeners. -/
def ToldAll (lifecycle : Lifecycle ι) (number : Nat) (listeners : List ι) : Prop :=
  ∀ notice, lifecycle.notices[number]? = some notice → notice.answer = some (.ok ()) →
    listeners <+: notice.told

theorem Move.listeners {s s' : Lifecycle ι} (h : Move s s') :
    s.controller.listeners <+: s'.controller.listeners := by
  cases h with
  | added listener => exact List.prefix_append _ _
  | made | told | ended => exact List.prefix_rfl

theorem Moves.listeners {s s' : Lifecycle ι} (h : Moves s s') :
    s.controller.listeners <+: s'.controller.listeners :=
  h.invariant (P := fun s' : Lifecycle ι => s.controller.listeners <+: s'.controller.listeners)
    List.prefix_rfl fun _ _ hprefix hmove => hprefix.trans hmove.listeners

/-- A transition that returns told all that are registered by then. -/
theorem ToldAll.move {s s' : Lifecycle ι} {number : Nat} {listeners : List ι}
    (h : ToldAll s number listeners) (hlooping : Looping s)
    (hlisteners : listeners <+: s.controller.listeners) (hmove : Move s s') :
    ToldAll s' number listeners := by
  intro notice hnotice hanswer
  cases hmove with
  | added listener => exact h notice hnotice hanswer
  | made transition _ _ =>
    by_cases hold : number < s.notices.length
    · exact h notice ((List.getElem?_append_left hold).symm.trans hnotice) hanswer
    · have hmem : notice ∈ [({ transition := transition } : Notice ι)] := by
        refine List.mem_of_getElem? ((List.getElem?_append_right ?_).symm.trans hnotice)
        exact Nat.le_of_not_lt hold
      obtain rfl := List.mem_singleton.mp hmem
      cases hanswer
  | told _ _ =>
    rcases getElem?_modify_some hnotice with ⟨rfl, old, hold, rfl⟩ | ⟨-, hold⟩
    · exact (h old hold hanswer).trans (List.prefix_append _ _)
    · exact h notice hold hanswer
  | ended answer hloops hall =>
    rcases getElem?_modify_some hnotice with ⟨rfl, old, hold, rfl⟩ | ⟨-, hold⟩
    · -- the loop came to the end of the list
      obtain ⟨running, hrunning⟩ := hlooping.running _ (by rw [hloops]; exact List.mem_cons_self)
      obtain rfl := Option.some.inj (hold.symm.trans hrunning.number)
      have hend := List.getElem?_eq_none_iff.mp (hall (Option.some.inj hanswer))
      show listeners <+: old.told
      rw [hrunning.told, List.take_of_length_le hend]
      exact hlisteners
    · exact h notice hold hanswer

/-- What holds of a controller after any actions. -/
structure SoundLifecycle (actions : List (LifecycleAction ι)) : Prop where
  /-- Its transitions lead from `STARTING` to its state, each one allowed. -/
  follows : Follows .starting (lifecycleAfter actions).transitions
    (lifecycleAfter actions).controller.state
  /-- Listeners are told in the order they were added. -/
  told : ∀ notice ∈ (lifecycleAfter actions).notices,
    notice.told <+: (lifecycleAfter actions).controller.listeners
  /-- No listener is ever removed, and a transition that returned told all that were added
      before it was made or while it ran. -/
  told_all : ∀ earlier later, actions = earlier ++ later →
    (lifecycleAfter earlier).controller.listeners <+:
        (lifecycleAfter actions).controller.listeners ∧
      ∀ number, Unanswered (lifecycleAfter earlier) number →
        ToldAll (lifecycleAfter actions) number (lifecycleAfter earlier).controller.listeners
  /-- The transitions without an answer are those whose listeners are being told. -/
  unanswered : ∀ number, (∃ notice, (lifecycleAfter actions).notices[number]? = some notice ∧
      notice.answer = none) ↔ number ∈ (lifecycleAfter actions).loops.map (·.number)
  /-- Between a halt or an emergency and the next readiness the process stopped and started. -/
  restarted : ∀ before between after (halt ready : StateTransition),
    (lifecycleAfter actions).transitions = before ++ halt :: (between ++ ready :: after) →
    halt.current = .halted ∨ halt.current = .emergency →
    ready.current = .ready ∨ ready.current = .degraded →
      [SystemState.stopping, .stopped, .starting].Sublist (between.map (·.current))

theorem toldAll_run (earlier later : List (LifecycleAction ι)) (number : Nat)
    (h : Unanswered (lifecycleAfter earlier) number) :
    ToldAll (lifecycleAfter (earlier ++ later)) number
      (lifecycleAfter earlier).controller.listeners := by
  have hmoves : Moves (lifecycleAfter earlier) (lifecycleAfter (earlier ++ later)) := by
    rw [lifecycleAfter, lifecycleAfter, run_append]
    exact run_moves _ later
  refine (hmoves.invariant (P := fun s : Lifecycle ι => Looping s ∧
    (lifecycleAfter earlier).controller.listeners <+: s.controller.listeners ∧
    ToldAll s number (lifecycleAfter earlier).controller.listeners) ?_ ?_).2.2
  · refine ⟨looping_run earlier, List.prefix_rfl, ?_⟩
    intro notice hnotice hanswer
    rw [h notice hnotice] at hanswer
    cases hanswer
  · rintro s s' ⟨hlooping, hlisteners, htold⟩ hmove
    exact ⟨hlooping.move hmove, hlisteners.trans hmove.listeners,
      htold.move hlooping hlisteners hmove⟩

/-- The lifecycle is sound after every run of actions, whatever the listeners do. -/
theorem lifecycle_sound (actions : List (LifecycleAction ι)) : SoundLifecycle actions where
  follows := follows_run actions
  told := (looping_run actions).told
  told_all := by
    rintro earlier later rfl
    refine ⟨?_, toldAll_run earlier later⟩
    rw [lifecycleAfter, lifecycleAfter, run_append]
    exact (run_moves _ later).listeners
  unanswered := by
    intro number
    constructor
    · rintro ⟨notice, hnotice, hanswer⟩
      exact (looping_run actions).unanswered number notice hnotice hanswer
    · intro hnumber
      obtain ⟨loop, hloop, rfl⟩ := List.mem_map.mp hnumber
      obtain ⟨notice, hrunning⟩ := (looping_run actions).running loop hloop
      exact ⟨notice, hrunning.number, hrunning.answer⟩
  restarted := by
    intro before between after halt ready hmade hhalt hready
    have hwalk := follows_run actions
    rw [hmade] at hwalk
    obtain ⟨state, hbetween, hprevious, hallowed, -⟩ := Walk.split hwalk.after
    refine restarts hbetween hhalt ?_
    have htarget : ready.current ∈ allowedTransitions state := hallowed
    revert htarget
    rcases hready with hready | hready <;> rw [hready] <;> cases state <;> decide

/-- A listener that adds another and asks for a stop: the stop is told to both, then the
    readiness to the one that was added. -/
example (surroundings : Surroundings) :
    ((lifecycleAfter [.addListener 0, .markReady "" surroundings, .addListener 1,
      .requestStop "" surroundings, .leave (.ok ()), .leave (.ok ()), .leave (.ok ())]).notices.map
        fun notice => (notice.transition.current, notice.told)) =
      [(.ready, [0, 1]), (.stopping, [0, 1])] := rfl

end Runs

end App

end Godzilla
