import Godzilla.App.Lifecycle

/-!
# Signals during a run

`_run` (`app/cli.py:82-104`) from the moment its handler of `SIGTERM` and `SIGINT` is
installed. The handler runs in the main thread between any two steps of `_run`, or of a
handler already running, and an exception of a handler ends the process. `transition` is not
atomic: it checks the state, and writes it later, or reads it again for the message of its
refusal. No listener is registered, and the records of the transitions are dropped. A call of
the logger or of the event is one step.

Whether the process ends normally depends only on what its signals found when they arrived.
-/

namespace Godzilla.App
open Misc

/-- What `_run` does next. -/
inductive MainPoint where
  /-- `mark_ready`, before the check, and before the assignment or the refusal. -/
  | checkReady
  | assignReady
  | refuseReady
  /-- The first log line. -/
  | announce
  /-- `stopped.wait()`. -/
  | wait
  /-- `mark_stopped`, before the check, and before the assignment or the refusal. -/
  | checkStopped
  | assignStopped
  | refuseStopped
  /-- The last log line. -/
  | farewell
  | returned
  deriving DecidableEq, Repr

/-- What a call of the handler does next (`app/cli.py:89-92`). -/
inductive HandlerPoint where
  | log
  /-- The test of `request_stop` for a second stop, and its refusal. -/
  | guard
  | already
  /-- `transition`, before the check, and before the assignment or the refusal. -/
  | check
  | assign
  | refuse
  /-- `stopped.set()`. -/
  | set
  deriving DecidableEq, Repr

/-- The steps that `_run` has left. -/
def MainPoint.left : MainPoint → Nat
  | .checkReady => 7
  | .assignReady => 6
  | .refuseReady => 1
  | .announce => 5
  | .wait => 4
  | .checkStopped => 3
  | .assignStopped => 2
  | .refuseStopped => 1
  | .farewell => 1
  | .returned => 0

/-- The steps that a handler has left. -/
def HandlerPoint.left : HandlerPoint → Nat
  | .log => 5
  | .guard => 4
  | .already => 1
  | .check => 3
  | .assign => 2
  | .refuse => 1
  | .set => 1

/-- What a signal meets when it arrives. -/
inductive Effect where
  /-- A state that cannot be stopped, a refusal that is about to be raised, or a handler or
      `mark_ready` that has yet to check. -/
  | fatal
  /-- `mark_ready` between its check and its assignment, which will overwrite the stop. -/
  | lost
  /-- A process that is ready. -/
  | heard
  deriving DecidableEq, Repr

/-- The handler has not passed its checks. -/
def HandlerPoint.Unchecked (point : HandlerPoint) : Prop :=
  point ≠ .assign ∧ point ≠ .set

instance : DecidablePred HandlerPoint.Unchecked :=
  fun point => inferInstanceAs (Decidable (point ≠ .assign ∧ point ≠ .set))

/-- The handler has not refused, and has yet to assign. -/
def HandlerPoint.Willing (point : HandlerPoint) : Prop :=
  point = .log ∨ point = .guard ∨ point = .check ∨ point = .assign

instance : DecidablePred HandlerPoint.Willing :=
  fun point => inferInstanceAs
    (Decidable (point = .log ∨ point = .guard ∨ point = .check ∨ point = .assign))

/-- `_run` is about to raise. -/
def MainPoint.Refuses (point : MainPoint) : Prop :=
  point = .refuseReady ∨ point = .refuseStopped

instance : DecidablePred MainPoint.Refuses :=
  fun point => inferInstanceAs (Decidable (point = .refuseReady ∨ point = .refuseStopped))

/-- The process: what `_run` and the handlers, innermost first, do next, the state of the
    controller, the `stopped` event, what was raised, and what the signals met. -/
structure Process where
  main : MainPoint := .checkReady
  handlers : List HandlerPoint := []
  state : SystemState := .starting
  stopped : Bool := false
  raised : Option PyError := none
  effects : List Effect := []

namespace Process

/-- The next step of the innermost handler, `rest` being the handlers it interrupted. -/
def handle (process : Process) (rest : List HandlerPoint) : HandlerPoint → Process
  | .log => { process with handlers := .guard :: rest }
  | .guard =>
    if process.state = .stopping then { process with handlers := .already :: rest }
    else { process with handlers := .check :: rest }
  | .already => { process with raised := some alreadyStopping }
  | .check =>
    if .stopping ∈ allowedTransitions process.state then
      { process with handlers := .assign :: rest }
    else { process with handlers := .refuse :: rest }
  | .assign => { process with state := .stopping, handlers := .set :: rest }
  | .refuse => { process with raised := some (notAllowed process.state .stopping) }
  | .set => { process with stopped := true, handlers := rest }

/-- The next step of `_run`. -/
def proceed (process : Process) : Process :=
  match process.main with
  | .checkReady =>
    if .ready ∈ allowedTransitions process.state then { process with main := .assignReady }
    else { process with main := .refuseReady }
  | .assignReady => { process with state := .ready, main := .announce }
  | .refuseReady => { process with raised := some (notAllowed process.state .ready) }
  | .announce => { process with main := .wait }
  | .wait => if process.stopped then { process with main := .checkStopped } else process
  | .checkStopped =>
    if .stopped ∈ allowedTransitions process.state then { process with main := .assignStopped }
    else { process with main := .refuseStopped }
  | .assignStopped => { process with state := .stopped, main := .farewell }
  | .refuseStopped => { process with raised := some (notAllowed process.state .stopped) }
  | .farewell => { process with main := .returned }
  | .returned => process

/-- One step of the innermost handler, or of `_run` when none runs. -/
def advance (process : Process) : Process :=
  match process.raised, process.handlers with
  | some _, _ => process
  | none, [] => process.proceed
  | none, point :: rest => process.handle rest point

/-- What a signal that arrives now meets. -/
def effect (process : Process) : Effect :=
  if (process.state ≠ .starting ∧ process.state ≠ .ready) ∨ process.main.Refuses ∨
      ∃ point ∈ process.handlers, point.Unchecked then .fatal
  else if process.state = .ready then .heard
  else if process.main = .checkReady then .fatal
  else .lost

/-- A signal arrives. -/
def signal (process : Process) : Process :=
  if process.raised.isSome ∨ process.main = .returned then process
  else { process with
    handlers := .log :: process.handlers
    effects := process.effects ++ [process.effect] }

end Process

/-- What happens next. -/
inductive Turn where
  | advance
  | signal
  deriving DecidableEq, Repr

/-- The process after one more turn. -/
def Process.turn (process : Process) : Turn → Process
  | .advance => process.advance
  | .signal => process.signal

/-- The process after a schedule of its steps and its signals. -/
def processAfter (turns : List Turn) : Process := run Process.turn {} turns

namespace Process

/-! What the process looks like, by what its signals have met. -/

/-- No signal yet. -/
inductive Calm (p : Process) : Prop where
  | starting (hstate : p.state = .starting) (hmain : p.main = .checkReady ∨ p.main = .assignReady)
    (hhandlers : p.handlers = []) (hstopped : p.stopped = false)
  | ready (hstate : p.state = .ready) (hmain : p.main = .announce ∨ p.main = .wait)
    (hhandlers : p.handlers = []) (hstopped : p.stopped = false)

/-- A handler that has yet to check runs in a state that cannot be stopped, or is interrupted
    by one that will stop first, or `mark_ready` will check after a stop, or `_run` is about to
    raise. -/
inductive Doomed (p : Process) : Prop where
  | late (hstate : p.state = .stopping ∨ p.state = .stopped)
    (hunchecked : ∃ point ∈ p.handlers, point.Unchecked)
  | overtaken (hstate : p.state = .starting ∨ p.state = .ready)
    (hunchecked : ∃ point ∈ p.handlers.tail, point.Unchecked) (hset : .set ∉ p.handlers)
  | early (hmain : p.main = .checkReady)
    (hstate : p.state = .starting ∧ p.handlers ≠ [] ∧ .set ∉ p.handlers ∨ p.state = .stopping)
  | refused (hmain : p.main.Refuses)

/-- The handlers that were interrupted are about to assign, and the innermost will. -/
def Nested (p : Process) : Prop :=
  ∃ point rest, p.handlers = point :: rest ∧ point.Willing ∧ ∀ outer ∈ rest, outer = .assign

/-- Every handler is past its checks, and one of them is left to set the event or has. -/
def Checked (p : Process) : Prop :=
  (∀ point ∈ p.handlers, point = .assign ∨ point = .set) ∧ (p.handlers = [] → p.stopped = true)

/-- The stop will be overwritten, or has been. -/
inductive Overwritten (p : Process) : Prop where
  | starting (hstate : p.state = .starting) (hmain : p.main = .assignReady) (hnested : p.Nested)
  | stopping (hstate : p.state = .stopping) (hmain : p.main = .assignReady) (hchecked : p.Checked)
  | ready (hstate : p.state = .ready)
    (hmain : p.main = .announce ∨ p.main = .wait ∨ p.main = .checkStopped ∨
      p.main = .refuseStopped)
    (hhandlers : p.handlers = []) (hstopped : p.stopped = true)

/-- The stop was asked for in readiness, and is on its way. -/
inductive Stops (p : Process) : Prop where
  | ready (hstate : p.state = .ready)
    (hmain : p.main = .announce ∨ p.main = .wait ∨ p.main = .checkStopped) (hnested : p.Nested)
  | stopping (hstate : p.state = .stopping)
    (hmain : p.main = .announce ∨ p.main = .wait ∨ p.main = .checkStopped ∨
      p.main = .assignStopped ∧ p.handlers = []) (hchecked : p.Checked)
  | stopped (hstate : p.state = .stopped) (hmain : p.main = .farewell ∨ p.main = .returned)
    (hhandlers : p.handlers = [])

section Advance

variable {p : Process}

theorem advance_main (hraised : p.raised = none) (hhandlers : p.handlers = []) :
    p.advance = p.proceed := by
  unfold advance
  rw [hraised, hhandlers]

theorem advance_handler {point : HandlerPoint} {rest : List HandlerPoint}
    (hraised : p.raised = none) (hhandlers : p.handlers = point :: rest) :
    p.advance = p.handle rest point := by
  unfold advance
  rw [hraised, hhandlers]

theorem Calm.advance (h : p.Calm) (hraised : p.raised = none) :
    p.advance.Calm ∧ p.advance.raised = none := by
  cases h with
  | starting hstate hmain hhandlers hstopped =>
    rw [advance_main hraised hhandlers, proceed]
    rcases hmain with hmain | hmain <;> rw [hmain]
    · have hallowed : SystemState.ready ∈ allowedTransitions p.state := by rw [hstate]; decide
      simp only [if_pos hallowed]
      exact ⟨.starting hstate (Or.inr rfl) hhandlers hstopped, hraised⟩
    · exact ⟨.ready rfl (Or.inl rfl) hhandlers hstopped, hraised⟩
  | ready hstate hmain hhandlers hstopped =>
    rw [advance_main hraised hhandlers, proceed]
    rcases hmain with hmain | hmain <;> rw [hmain]
    · exact ⟨.ready hstate (Or.inr rfl) hhandlers hstopped, hraised⟩
    · simp only [hstopped]
      exact ⟨.ready hstate (Or.inr hmain) hhandlers hstopped, hraised⟩

/-- What a handler does: it checks, passes its checks in a state that can be stopped, stops,
    is done, or raises. -/
inductive Handled (p : Process) (rest : List HandlerPoint) : HandlerPoint → Process → Prop where
  | checks {point next : HandlerPoint} (hpoint : point.Unchecked) (hnext : next.Unchecked) :
    Handled p rest point { p with handlers := next :: rest }
  | passes (hallowed : .stopping ∈ allowedTransitions p.state) :
    Handled p rest .check { p with handlers := .assign :: rest }
  | stops : Handled p rest .assign { p with state := .stopping, handlers := .set :: rest }
  | done : Handled p rest .set { p with stopped := true, handlers := rest }
  | raises {point : HandlerPoint} (e : PyError) (hpoint : point.Unchecked) :
    Handled p rest point { p with raised := some e }

theorem handle_handled (p : Process) (rest : List HandlerPoint) (point : HandlerPoint) :
    Handled p rest point (p.handle rest point) := by
  cases point with
  | log => exact .checks (by decide) (by decide)
  | guard =>
    rw [handle]
    split
    · exact .checks (by decide) (by decide)
    · exact .checks (by decide) (by decide)
  | already => exact .raises alreadyStopping (by decide)
  | check =>
    rw [handle]
    split
    · exact .passes ‹_›
    · exact .checks (by decide) (by decide)
  | assign => exact .stops
  | refuse => exact .raises _ (by decide)
  | set => exact .done

/-- An unchecked handler among those that run is one that was interrupted, when the innermost
    is past its checks. -/
theorem unchecked_rest {point : HandlerPoint} {rest : List HandlerPoint}
    (h : ∃ outer ∈ point :: rest, outer.Unchecked) (hpoint : ¬ point.Unchecked) :
    ∃ outer ∈ rest, outer.Unchecked := by
  obtain ⟨outer, houter, hunchecked⟩ := h
  rcases List.mem_cons.mp houter with rfl | hmem
  · exact absurd hunchecked hpoint
  · exact ⟨outer, hmem, hunchecked⟩

theorem set_notMem_cons {point : HandlerPoint} {rest : List HandlerPoint} (hpoint : point ≠ .set)
    (hrest : .set ∉ rest) : .set ∉ point :: rest := by
  intro hmem
  rcases List.mem_cons.mp hmem with heq | hmem
  · exact hpoint heq.symm
  · exact hrest hmem

/-- A handler that has yet to check cannot stop what has been stopped. -/
theorem late_advance (hraised : p.raised = none) (hstate : p.state = .stopping ∨ p.state = .stopped)
    (hunchecked : ∃ point ∈ p.handlers, point.Unchecked) :
    p.advance.Doomed ∨ p.advance.raised.isSome = true := by
  obtain ⟨point, rest, hhandlers⟩ : ∃ point rest, p.handlers = point :: rest := by
    obtain ⟨outer, houter, -⟩ := hunchecked
    exact List.exists_cons_of_ne_nil (List.ne_nil_of_mem houter)
  rw [hhandlers] at hunchecked
  rw [advance_handler hraised hhandlers]
  have hhandled := handle_handled p rest point
  generalize p.handle rest point = q at hhandled ⊢
  cases hhandled with
  | checks _ hnext => exact Or.inl (.late hstate ⟨_, List.mem_cons_self, hnext⟩)
  | passes hallowed =>
    exfalso
    revert hallowed
    rcases hstate with hstate | hstate <;> rw [hstate] <;> decide
  | stops =>
    obtain ⟨outer, houter, hpoint⟩ := unchecked_rest hunchecked (by decide)
    exact Or.inl (.late (Or.inl rfl) ⟨outer, List.mem_cons_of_mem _ houter, hpoint⟩)
  | done => exact Or.inl (.late hstate (unchecked_rest hunchecked (by decide)))
  | raises e _ => exact Or.inr rfl

/-- The innermost handler stops the process before the one that it interrupted checks. -/
theorem overtaken_advance (hraised : p.raised = none)
    (hstate : p.state = .starting ∨ p.state = .ready)
    (hunchecked : ∃ point ∈ p.handlers.tail, point.Unchecked) (hset : .set ∉ p.handlers) :
    p.advance.Doomed ∨ p.advance.raised.isSome = true := by
  obtain ⟨point, rest, hhandlers⟩ : ∃ point rest, p.handlers = point :: rest := by
    obtain ⟨outer, houter, -⟩ := hunchecked
    exact List.exists_cons_of_ne_nil (List.ne_nil_of_mem (List.mem_of_mem_tail houter))
  rw [hhandlers] at hunchecked hset
  have hrest : .set ∉ rest := fun hmem => hset (List.mem_cons_of_mem _ hmem)
  rw [advance_handler hraised hhandlers]
  have hhandled := handle_handled p rest point
  generalize p.handle rest point = q at hhandled ⊢
  cases hhandled with
  | checks _ hnext => exact Or.inl (.overtaken hstate hunchecked (set_notMem_cons hnext.2 hrest))
  | passes _ => exact Or.inl (.overtaken hstate hunchecked (set_notMem_cons (by decide) hrest))
  | stops =>
    obtain ⟨outer, houter, hpoint⟩ := hunchecked
    exact Or.inl (.late (Or.inl rfl) ⟨outer, List.mem_cons_of_mem _ houter, hpoint⟩)
  | done => exact absurd List.mem_cons_self hset
  | raises e _ => exact Or.inr rfl

/-- `mark_ready` has yet to check, and a handler has stopped the process or will before. -/
theorem early_advance (hraised : p.raised = none) (hmain : p.main = .checkReady)
    (hstate : p.state = .starting ∧ p.handlers ≠ [] ∧ .set ∉ p.handlers ∨ p.state = .stopping) :
    p.advance.Doomed ∨ p.advance.raised.isSome = true := by
  cases hhandlers : p.handlers with
  | nil =>
    have hstopping : p.state = .stopping := by
      rcases hstate with ⟨-, hne, -⟩ | hstopping
      · exact absurd hhandlers hne
      · exact hstopping
    have hrefused : SystemState.ready ∉ allowedTransitions p.state := by
      rw [hstopping]
      decide
    rw [advance_main hraised hhandlers, proceed, hmain]
    simp only [if_neg hrefused]
    exact Or.inl (.refused (Or.inl rfl))
  | cons point rest =>
    rw [hhandlers] at hstate
    rw [advance_handler hraised hhandlers]
    have hkept : ∀ next : HandlerPoint, next ≠ .set →
        Doomed { p with handlers := next :: rest } := by
      intro next hnext
      refine .early hmain (hstate.imp_left ?_)
      rintro ⟨hstate, -, hset⟩
      refine ⟨hstate, List.cons_ne_nil _ _, set_notMem_cons hnext ?_⟩
      exact fun hmem => hset (List.mem_cons_of_mem _ hmem)
    have hhandled := handle_handled p rest point
    generalize p.handle rest point = q at hhandled ⊢
    cases hhandled with
    | checks _ hnext => exact Or.inl (hkept _ hnext.2)
    | passes _ => exact Or.inl (hkept .assign (by decide))
    | stops => exact Or.inl (.early hmain (Or.inr rfl))
    | done =>
      have hstopping := hstate.resolve_left fun h => h.2.2 List.mem_cons_self
      exact Or.inl (.early hmain (Or.inr hstopping))
    | raises e _ => exact Or.inr rfl

/-- A refusal of `_run` stays until it is raised. -/
theorem refused_advance (hraised : p.raised = none) (hmain : p.main.Refuses) :
    p.advance.Doomed ∨ p.advance.raised.isSome = true := by
  cases hhandlers : p.handlers with
  | nil =>
    rw [advance_main hraised hhandlers, proceed]
    rcases hmain with hmain | hmain <;> rw [hmain] <;> exact Or.inr rfl
  | cons point rest =>
    rw [advance_handler hraised hhandlers]
    have hhandled := handle_handled p rest point
    generalize p.handle rest point = q at hhandled ⊢
    cases hhandled with
    | checks | passes | stops | done => exact Or.inl (.refused hmain)
    | raises e _ => exact Or.inr rfl

theorem Doomed.advance (h : p.Doomed) (hraised : p.raised = none) :
    p.advance.Doomed ∨ p.advance.raised.isSome = true := by
  cases h with
  | late hstate hunchecked => exact late_advance hraised hstate hunchecked
  | overtaken hstate hunchecked hset => exact overtaken_advance hraised hstate hunchecked hset
  | early hmain hstate => exact early_advance hraised hmain hstate
  | refused hmain => exact refused_advance hraised hmain

/-- A handler that can still stop the process goes on towards its assignment, or makes it. -/
theorem Nested.advance (h : p.Nested) (hraised : p.raised = none)
    (hstate : p.state = .starting ∨ p.state = .ready) :
    ∃ handlers, (p.advance = { p with handlers := handlers } ∧
        Nested { p with handlers := handlers }) ∨
      (p.advance = { p with state := .stopping, handlers := handlers } ∧
        Checked { p with state := .stopping, handlers := handlers }) := by
  obtain ⟨point, rest, hhandlers, hwilling, hrest⟩ := h
  rw [advance_handler hraised hhandlers]
  cases point with
  | log => exact ⟨_, Or.inl ⟨rfl, .guard, rest, rfl, by decide, hrest⟩⟩
  | guard =>
    have hgo : p.state ≠ .stopping := by
      rcases hstate with hstate | hstate <;> rw [hstate] <;> decide
    rw [handle, if_neg hgo]
    exact ⟨_, Or.inl ⟨rfl, .check, rest, rfl, by decide, hrest⟩⟩
  | check =>
    have hallowed : SystemState.stopping ∈ allowedTransitions p.state := by
      rcases hstate with hstate | hstate <;> rw [hstate] <;> decide
    rw [handle, if_pos hallowed]
    exact ⟨_, Or.inl ⟨rfl, .assign, rest, rfl, by decide, hrest⟩⟩
  | assign =>
    refine ⟨.set :: rest, Or.inr ⟨rfl, ?_, by rintro ⟨⟩⟩⟩
    intro point hpoint
    rcases List.mem_cons.mp hpoint with rfl | hmem
    · exact Or.inr rfl
    · exact Or.inl (hrest point hmem)
  | already | refuse | set => exact absurd hwilling (by decide)

/-- Handlers that are past their checks finish. -/
theorem Checked.advance (h : p.Checked) (hraised : p.raised = none) (hstate : p.state = .stopping)
    (hne : p.handlers ≠ []) :
    ∃ handlers stopped, p.advance = { p with handlers := handlers, stopped := stopped } ∧
      Checked { p with handlers := handlers, stopped := stopped } := by
  obtain ⟨point, rest, hhandlers⟩ := List.exists_cons_of_ne_nil hne
  have hall := h.1
  rw [hhandlers] at hall
  rw [advance_handler hraised hhandlers]
  rcases hall point List.mem_cons_self with rfl | rfl
  · refine ⟨.set :: rest, p.stopped, ?_, ?_, by rintro ⟨⟩⟩
    · rw [handle, ← hstate]
    · intro point hpoint
      rcases List.mem_cons.mp hpoint with rfl | hmem
      · exact Or.inr rfl
      · exact hall point (List.mem_cons_of_mem _ hmem)
  · exact ⟨rest, true, rfl, fun point hmem => hall point (List.mem_cons_of_mem _ hmem),
      fun _ => rfl⟩

theorem Overwritten.advance (h : p.Overwritten) (hraised : p.raised = none) :
    p.advance.Overwritten ∨ p.advance.raised.isSome = true := by
  cases h with
  | starting hstate hmain hnested =>
    obtain ⟨handlers, ⟨heq, hnested⟩ | ⟨heq, hchecked⟩⟩ := hnested.advance hraised (Or.inl hstate)
    · rw [heq]
      exact Or.inl (.starting hstate hmain hnested)
    · rw [heq]
      exact Or.inl (.stopping rfl hmain hchecked)
  | stopping hstate hmain hchecked =>
    left
    by_cases hhandlers : p.handlers = []
    · rw [advance_main hraised hhandlers, proceed, hmain]
      exact .ready rfl (Or.inl rfl) hhandlers (hchecked.2 hhandlers)
    · obtain ⟨handlers, stopped, heq, hchecked⟩ := hchecked.advance hraised hstate hhandlers
      rw [heq]
      exact .stopping hstate hmain hchecked
  | ready hstate hmain hhandlers hstopped =>
    rw [advance_main hraised hhandlers, proceed]
    rcases hmain with hmain | hmain | hmain | hmain <;> rw [hmain]
    · exact Or.inl (.ready hstate (Or.inr (Or.inl rfl)) hhandlers hstopped)
    · simp only [hstopped, if_true]
      exact Or.inl (.ready hstate (Or.inr (Or.inr (Or.inl rfl))) hhandlers rfl)
    · have hrefused : SystemState.stopped ∉ allowedTransitions p.state := by
        rw [hstate]
        decide
      simp only [if_neg hrefused]
      exact Or.inl (.ready hstate (Or.inr (Or.inr (Or.inr rfl))) hhandlers hstopped)
    · exact Or.inr rfl

theorem Stops.advance (h : p.Stops) (hraised : p.raised = none) :
    p.advance.Stops ∧ p.advance.raised = none := by
  cases h with
  | ready hstate hmain hnested =>
    obtain ⟨handlers, ⟨heq, hnested⟩ | ⟨heq, hchecked⟩⟩ := hnested.advance hraised (Or.inr hstate)
    · rw [heq]
      exact ⟨.ready hstate hmain hnested, hraised⟩
    · rw [heq]
      refine ⟨.stopping rfl ?_ hchecked, hraised⟩
      rcases hmain with hmain | hmain | hmain
      · exact Or.inl hmain
      · exact Or.inr (Or.inl hmain)
      · exact Or.inr (Or.inr (Or.inl hmain))
  | stopping hstate hmain hchecked =>
    by_cases hhandlers : p.handlers = []
    · have hstopped := hchecked.2 hhandlers
      rw [advance_main hraised hhandlers, proceed]
      rcases hmain with hmain | hmain | hmain | ⟨hmain, -⟩ <;> rw [hmain]
      · exact ⟨.stopping hstate (Or.inr (Or.inl rfl)) hchecked, hraised⟩
      · simp only [hstopped, if_true]
        refine ⟨.stopping hstate (Or.inr (Or.inr (Or.inl rfl))) ?_, hraised⟩
        exact ⟨hchecked.1, fun _ => rfl⟩
      · have hallowed : SystemState.stopped ∈ allowedTransitions p.state := by
          rw [hstate]
          decide
        simp only [if_pos hallowed]
        exact ⟨.stopping hstate (Or.inr (Or.inr (Or.inr ⟨rfl, hhandlers⟩))) hchecked, hraised⟩
      · exact ⟨.stopped rfl (Or.inl rfl) hhandlers, hraised⟩
    · obtain ⟨handlers, stopped, heq, hchecked⟩ := hchecked.advance hraised hstate hhandlers
      rw [heq]
      refine ⟨.stopping hstate ?_ hchecked, hraised⟩
      rcases hmain with hmain | hmain | hmain | ⟨-, hnil⟩
      · exact Or.inl hmain
      · exact Or.inr (Or.inl hmain)
      · exact Or.inr (Or.inr (Or.inl hmain))
      · exact absurd hnil hhandlers
  | stopped hstate hmain hhandlers =>
    rw [advance_main hraised hhandlers, proceed]
    rcases hmain with hmain | hmain <;> rw [hmain]
    · exact ⟨.stopped hstate (Or.inr rfl) hhandlers, hraised⟩
    · exact ⟨.stopped hstate (Or.inr hmain) hhandlers, hraised⟩

end Advance

section Signal

variable {p : Process}

/-- The process after a signal that arrives while it runs. -/
def interrupted (p : Process) : Process :=
  { p with handlers := .log :: p.handlers, effects := p.effects ++ [p.effect] }

theorem signal_running (hraised : p.raised = none) (hmain : p.main ≠ .returned) :
    p.signal = p.interrupted := by
  unfold signal
  rw [if_neg (by simp [hraised, hmain])]
  rfl

/-- Why a signal is fatal. -/
inductive Fatal (p : Process) : Prop where
  | unstoppable (hstarting : p.state ≠ .starting) (hready : p.state ≠ .ready)
  | refused (hmain : p.main.Refuses)
  | unchecked (hunchecked : ∃ point ∈ p.handlers, point.Unchecked)
  | early (hstate : p.state = .starting) (hmain : p.main = .checkReady)

/-- What a signal meets, and why. -/
inductive Met (p : Process) : Prop where
  | fatal (heffect : p.effect = .fatal) (h : p.Fatal)
  | heard (heffect : p.effect = .heard) (hstate : p.state = .ready) (hmain : ¬ p.main.Refuses)
    (hchecked : ¬ ∃ point ∈ p.handlers, point.Unchecked)
  | lost (heffect : p.effect = .lost) (hstate : p.state = .starting) (hmain : p.main ≠ .checkReady)
    (hchecked : ¬ ∃ point ∈ p.handlers, point.Unchecked)

theorem met (p : Process) : p.Met := by
  by_cases hfatal : (p.state ≠ .starting ∧ p.state ≠ .ready) ∨ p.main.Refuses ∨
      ∃ point ∈ p.handlers, point.Unchecked
  · have heffect : p.effect = .fatal := by rw [effect, if_pos hfatal]
    refine .fatal heffect ?_
    rcases hfatal with ⟨hstarting, hready⟩ | hmain | hunchecked
    · exact .unstoppable hstarting hready
    · exact .refused hmain
    · exact .unchecked hunchecked
  · have heffect : p.effect =
        if p.state = .ready then .heard else if p.main = .checkReady then .fatal else .lost := by
      rw [effect, if_neg hfatal]
    simp only [not_or] at hfatal
    obtain ⟨hstate, hrefuses, hchecked⟩ := hfatal
    by_cases hready : p.state = .ready
    · exact .heard (by rw [heffect, if_pos hready]) hready hrefuses hchecked
    · rw [if_neg hready] at heffect
      have hstarting : p.state = .starting := by
        by_contra hne
        exact hstate ⟨hne, hready⟩
      by_cases hmain : p.main = .checkReady
      · exact .fatal (by rw [heffect, if_pos hmain]) (.early hstarting hmain)
      · exact .lost (by rw [heffect, if_neg hmain]) hstarting hmain hchecked

theorem nested_of_nil (h : p.handlers = []) : p.interrupted.Nested :=
  ⟨.log, p.handlers, rfl, by decide, by
    intro outer houter
    rw [h] at houter
    cases houter⟩

theorem Nested.signal (h : p.Nested) (hchecked : ¬ ∃ point ∈ p.handlers, point.Unchecked) :
    p.interrupted.Nested := by
  obtain ⟨point, rest, hhandlers, hwilling, hrest⟩ := h
  refine ⟨.log, p.handlers, rfl, by decide, ?_⟩
  intro outer houter
  rw [hhandlers] at houter hchecked
  rcases List.mem_cons.mp houter with rfl | hmem
  · have hpassed : ¬ outer.Unchecked := fun hun => hchecked ⟨outer, List.mem_cons_self, hun⟩
    revert hpassed hwilling
    cases outer <;> decide
  · exact hrest outer hmem

theorem Nested.set_notMem (h : p.Nested) : HandlerPoint.set ∉ p.handlers := by
  obtain ⟨point, rest, hhandlers, hwilling, hrest⟩ := h
  rw [hhandlers]
  refine set_notMem_cons ?_ fun hmem => absurd (hrest _ hmem) (by decide)
  rintro rfl
  exact absurd hwilling (by decide)

/-- No handler is done in a state that has not been stopped, and the state is one of a run. -/
structure Ordered (p : Process) : Prop where
  unset : p.state = .starting ∨ p.state = .ready → .set ∉ p.handlers
  states : p.state = .starting ∨ p.state = .ready ∨ p.state = .stopping ∨ p.state = .stopped

theorem Calm.ordered (h : p.Calm) : p.Ordered := by
  have hnil : ∀ {handlers : List HandlerPoint}, handlers = [] → .set ∉ handlers := by
    rintro _ rfl hmem
    cases hmem
  cases h with
  | starting hstate _ hhandlers _ => exact ⟨fun _ => hnil hhandlers, Or.inl hstate⟩
  | ready hstate _ hhandlers _ => exact ⟨fun _ => hnil hhandlers, Or.inr (Or.inl hstate)⟩

theorem ordered_of_late (h : p.state = .stopping ∨ p.state = .stopped) : p.Ordered := by
  refine ⟨?_, Or.inr (Or.inr h)⟩
  rintro (hstate | hstate) <;> rw [hstate] at h <;> rcases h with h | h <;> cases h

theorem Overwritten.ordered (h : p.Overwritten) : p.Ordered := by
  cases h with
  | starting hstate _ hnested => exact ⟨fun _ => hnested.set_notMem, Or.inl hstate⟩
  | stopping hstate _ _ => exact ordered_of_late (Or.inl hstate)
  | ready hstate _ hhandlers _ =>
    refine ⟨fun _ hmem => ?_, Or.inr (Or.inl hstate)⟩
    rw [hhandlers] at hmem
    cases hmem

theorem Stops.ordered (h : p.Stops) : p.Ordered := by
  cases h with
  | ready hstate _ hnested => exact ⟨fun _ => hnested.set_notMem, Or.inr (Or.inl hstate)⟩
  | stopping hstate _ _ => exact ordered_of_late (Or.inl hstate)
  | stopped hstate _ _ => exact ordered_of_late (Or.inr hstate)

/-- A fatal signal dooms a process that was not doomed. -/
theorem Ordered.doomed (hordered : p.Ordered) (h : p.Fatal) : p.interrupted.Doomed := by
  have hfree : (p.state = .starting ∨ p.state = .ready) → .set ∉ p.interrupted.handlers :=
    fun hstate => set_notMem_cons (by decide) (hordered.unset hstate)
  have hlate : ¬ (p.state = .starting ∨ p.state = .ready) → p.interrupted.Doomed := by
    intro hlate
    refine .late ?_ ⟨.log, List.mem_cons_self, by decide⟩
    rcases hordered.states with hstate | hstate | hstate
    · exact absurd (Or.inl hstate) hlate
    · exact absurd (Or.inr hstate) hlate
    · exact hstate
  cases h with
  | unstoppable hstarting hready => exact hlate (not_or.mpr ⟨hstarting, hready⟩)
  | refused hmain => exact .refused hmain
  | unchecked hunchecked =>
    by_cases hstate : p.state = .starting ∨ p.state = .ready
    · exact .overtaken hstate hunchecked (hfree hstate)
    · exact hlate hstate
  | early hstate hmain =>
    exact .early hmain (Or.inl ⟨hstate, List.cons_ne_nil _ _, hfree (Or.inl hstate)⟩)

theorem Doomed.signal (h : p.Doomed) : p.interrupted.Doomed := by
  cases h with
  | late hstate hunchecked =>
    obtain ⟨outer, houter, hpoint⟩ := hunchecked
    exact .late hstate ⟨outer, List.mem_cons_of_mem _ houter, hpoint⟩
  | overtaken hstate hunchecked hset =>
    obtain ⟨outer, houter, hpoint⟩ := hunchecked
    exact .overtaken hstate ⟨outer, List.mem_of_mem_tail houter, hpoint⟩
      (set_notMem_cons (by decide) hset)
  | early hmain hstate =>
    refine .early hmain (hstate.imp_left ?_)
    rintro ⟨hstate, -, hset⟩
    exact ⟨hstate, List.cons_ne_nil _ _, set_notMem_cons (by decide) hset⟩
  | refused hmain => exact .refused hmain

end Signal

section Standing

/-- What the process looks like after the signals it got. -/
inductive Standing (p : Process) : Prop where
  | calm (heffects : p.effects = []) (hraised : p.raised = none) (h : p.Calm)
  | overwritten (hlost : .lost ∈ p.effects) (hfatal : .fatal ∉ p.effects)
    (hheard : .heard ∉ p.effects) (h : p.raised = none → p.Overwritten)
  | stops (hfatal : .fatal ∉ p.effects) (hheard : .heard ∈ p.effects) (hraised : p.raised = none)
    (h : p.Stops)
  | doomed (hfatal : .fatal ∈ p.effects) (h : p.raised = none → p.Doomed)

variable {p : Process}

/-- A signal that finds the process ready sets it on its way to the stop. -/
theorem stops_of_heard (hstate : p.state = .ready) (hrefuses : ¬ p.main.Refuses)
    (hchecked : ¬ ∃ point ∈ p.handlers, point.Unchecked)
    (h : p.Calm ∨ p.Overwritten ∨ p.Stops) : p.interrupted.Stops := by
  rcases h with h | h | h
  · cases h with
    | starting hne _ _ _ =>
      rw [hstate] at hne
      cases hne
    | ready _ hmain hhandlers _ =>
      refine .ready hstate ?_ (nested_of_nil hhandlers)
      exact hmain.imp_right Or.inl
  · cases h with
    | starting hne _ _ | stopping hne _ _ =>
      rw [hstate] at hne
      cases hne
    | ready _ hmain hhandlers _ =>
      refine .ready hstate ?_ (nested_of_nil hhandlers)
      rcases hmain with hmain | hmain | hmain | hmain
      · exact Or.inl hmain
      · exact Or.inr (Or.inl hmain)
      · exact Or.inr (Or.inr hmain)
      · exact absurd (Or.inr hmain) hrefuses
  · cases h with
    | ready _ hmain hnested => exact .ready hstate hmain (hnested.signal hchecked)
    | stopping hne _ _ | stopped hne _ _ =>
      rw [hstate] at hne
      cases hne

/-- A signal between the check and the assignment of `mark_ready` is overwritten. -/
theorem overwritten_of_lost (hstate : p.state = .starting) (hmain : p.main ≠ .checkReady)
    (hchecked : ¬ ∃ point ∈ p.handlers, point.Unchecked)
    (h : p.Calm ∨ p.Overwritten ∨ p.Stops) :
    p.interrupted.Overwritten ∧ ¬ p.Stops := by
  have hstops : ¬ p.Stops := by
    intro hs
    cases hs with
    | ready hne _ _ | stopping hne _ _ | stopped hne _ _ =>
      rw [hstate] at hne
      cases hne
  refine ⟨?_, hstops⟩
  rcases h with h | h | h
  · cases h with
    | starting _ hmain' hhandlers _ =>
      exact .starting hstate (hmain'.resolve_left hmain) (nested_of_nil hhandlers)
    | ready hne _ _ _ =>
      rw [hstate] at hne
      cases hne
  · cases h with
    | starting _ hmain' hnested => exact .starting hstate hmain' (hnested.signal hchecked)
    | stopping hne _ _ | ready hne _ _ _ =>
      rw [hstate] at hne
      cases hne
  · exact absurd h hstops

theorem mem_interrupted {e : Effect} : e ∈ p.interrupted.effects ↔ e ∈ p.effects ∨ e = p.effect := by
  simp [interrupted]

theorem Standing.signal (h : p.Standing) : p.signal.Standing := by
  by_cases hover : p.raised.isSome = true ∨ p.main = .returned
  · have hsame : p.signal = p := by
      unfold Process.signal
      rw [if_pos hover]
    rw [hsame]
    exact h
  push Not at hover
  obtain ⟨hraised, hmain⟩ := hover
  rw [ne_eq, Bool.not_eq_true, Option.isSome_eq_false_iff, Option.isNone_iff_eq_none] at hraised
  rw [signal_running hraised hmain]
  have hdoomed : p.Ordered → p.effect = .fatal → p.Fatal → p.interrupted.Standing := by
    intro hordered heffect hfatal
    exact .doomed (mem_interrupted.mpr (Or.inr heffect.symm)) fun _ => hordered.doomed hfatal
  cases h with
  | calm heffects _ h =>
    cases p.met with
    | fatal heffect hfatal => exact hdoomed h.ordered heffect hfatal
    | heard heffect hstate hrefuses hchecked =>
      refine .stops ?_ (mem_interrupted.mpr (Or.inr heffect.symm)) hraised
        (stops_of_heard hstate hrefuses hchecked (Or.inl h))
      rw [mem_interrupted, heffects, heffect]
      simp
    | lost heffect hstate hready hchecked =>
      refine .overwritten (mem_interrupted.mpr (Or.inr heffect.symm)) ?_ ?_ fun _ =>
        (overwritten_of_lost hstate hready hchecked (Or.inl h)).1
      · rw [mem_interrupted, heffects, heffect]
        simp
      · rw [mem_interrupted, heffects, heffect]
        simp
  | overwritten hlost hfatal hheard h =>
    have h := h hraised
    cases p.met with
    | fatal heffect hfatal => exact hdoomed h.ordered heffect hfatal
    | heard heffect hstate hrefuses hchecked =>
      refine .stops ?_ (mem_interrupted.mpr (Or.inr heffect.symm)) hraised
        (stops_of_heard hstate hrefuses hchecked (Or.inr (Or.inl h)))
      rw [mem_interrupted, heffect]
      simp [hfatal]
    | lost heffect hstate hready hchecked =>
      refine .overwritten (mem_interrupted.mpr (Or.inr heffect.symm)) ?_ ?_ fun _ =>
        (overwritten_of_lost hstate hready hchecked (Or.inr (Or.inl h))).1
      · rw [mem_interrupted, heffect]
        simp [hfatal]
      · rw [mem_interrupted, heffect]
        simp [hheard]
  | stops hfatal hheard _ h =>
    cases p.met with
    | fatal heffect hfatal => exact hdoomed h.ordered heffect hfatal
    | heard heffect hstate hrefuses hchecked =>
      refine .stops ?_ (mem_interrupted.mpr (Or.inl hheard)) hraised
        (stops_of_heard hstate hrefuses hchecked (Or.inr (Or.inr h)))
      rw [mem_interrupted, heffect]
      simp [hfatal]
    | lost heffect hstate hready hchecked =>
      exact absurd h (overwritten_of_lost hstate hready hchecked (Or.inr (Or.inr h))).2
  | doomed hfatal h =>
    refine .doomed (mem_interrupted.mpr (Or.inl hfatal)) fun _ => (h hraised).signal

theorem handle_effects (p : Process) (rest : List HandlerPoint) (point : HandlerPoint) :
    (p.handle rest point).effects = p.effects := by
  cases point with
  | guard | check =>
    rw [handle]
    split <;> rfl
  | log | already | assign | refuse | set => rfl

theorem proceed_effects (p : Process) : p.proceed.effects = p.effects := by
  unfold proceed
  split <;> first | rfl | (split <;> rfl)

theorem advance_effects (p : Process) : p.advance.effects = p.effects := by
  unfold Process.advance
  split
  · rfl
  · exact proceed_effects p
  · exact handle_effects p _ _

theorem Standing.advance (h : p.Standing) : p.advance.Standing := by
  cases hraised : p.raised with
  | some e =>
    have hsame : p.advance = p := by
      unfold Process.advance
      rw [hraised]
    rw [hsame]
    exact h
  | none =>
    have heffects := advance_effects p
    cases h with
    | calm hempty _ h =>
      obtain ⟨hcalm, hnone⟩ := h.advance hraised
      exact .calm (heffects.trans hempty) hnone hcalm
    | overwritten hlost hfatal hheard h =>
      rw [← heffects] at hlost hfatal hheard
      refine .overwritten hlost hfatal hheard fun hnone => ?_
      rcases (h hraised).advance hraised with hkept | hsome
      · exact hkept
      · rw [hnone] at hsome
        cases hsome
    | stops hfatal hheard _ h =>
      rw [← heffects] at hfatal hheard
      obtain ⟨hstops, hnone⟩ := h.advance hraised
      exact .stops hfatal hheard hnone hstops
    | doomed hfatal h =>
      rw [← heffects] at hfatal
      refine .doomed hfatal fun hnone => ?_
      rcases (h hraised).advance hraised with hkept | hsome
      · exact hkept
      · rw [hnone] at hsome
        cases hsome

theorem standing_run (turns : List Turn) : (processAfter turns).Standing := by
  refine run_invariant ?_ ?_ turns
  · exact .calm rfl rfl (.starting rfl (Or.inl rfl) rfl rfl)
  · intro process turn h
    cases turn with
    | advance => exact h.advance
    | signal => exact h.signal

end Standing

section Progress

variable {p : Process}

/-- The steps that the handlers and `_run` have left. -/
def remaining (p : Process) : Nat := (p.handlers.map HandlerPoint.left).sum + p.main.left

/-- Nothing will happen without another signal. -/
def Resting (p : Process) : Prop :=
  p.raised ≠ none ∨ p.handlers = [] ∧ (p.main = .returned ∨ p.main = .wait ∧ p.stopped = false)

theorem Resting.advance (h : p.Resting) : p.advance = p := by
  cases hraised : p.raised with
  | some e =>
    unfold Process.advance
    rw [hraised]
  | none =>
    obtain ⟨hhandlers, hmain⟩ := h.resolve_left (absurd hraised)
    rw [advance_main hraised hhandlers, proceed]
    rcases hmain with hmain | ⟨hmain, hstopped⟩
    · rw [hmain]
    · rw [hmain]
      simp only [hstopped]
      rfl

/-- A step brings the process closer to rest. -/
theorem advance_remaining (h : ¬ p.Resting) :
    p.advance.raised ≠ none ∨ p.advance.remaining < p.remaining := by
  unfold Resting at h
  push Not at h
  obtain ⟨hraised, hbusy⟩ := h
  cases hhandlers : p.handlers with
  | nil =>
    obtain ⟨hreturned, hwait⟩ := hbusy hhandlers
    rw [advance_main hraised hhandlers]
    unfold proceed
    split <;> rename_i hmain
    · split <;> exact Or.inr (by simp [remaining, hhandlers, hmain, MainPoint.left])
    · exact Or.inr (by simp [remaining, hhandlers, hmain, MainPoint.left])
    · exact Or.inl (by simp)
    · exact Or.inr (by simp [remaining, hhandlers, hmain, MainPoint.left])
    · rw [if_pos (by simpa using hwait hmain)]
      exact Or.inr (by simp [remaining, hhandlers, hmain, MainPoint.left])
    · split <;> exact Or.inr (by simp [remaining, hhandlers, hmain, MainPoint.left])
    · exact Or.inr (by simp [remaining, hhandlers, hmain, MainPoint.left])
    · exact Or.inl (by simp)
    · exact Or.inr (by simp [remaining, hhandlers, hmain, MainPoint.left])
    · exact absurd hmain hreturned
  | cons point rest =>
    rw [advance_handler hraised hhandlers]
    cases point with
    | log | assign | set => exact Or.inr (by simp [handle, remaining, hhandlers, HandlerPoint.left])
    | guard | check =>
      rw [handle]
      split <;> exact Or.inr (by simp [remaining, hhandlers, HandlerPoint.left])
    | already | refuse => exact Or.inl (by simp [handle])

/-- A process at rest stays as it is. -/
theorem Resting.stays (h : p.Resting) (steps : Nat) :
    run Process.turn p (List.replicate steps .advance) = p := by
  induction steps with
  | zero => rfl
  | succ steps ih =>
    rw [List.replicate_succ, run_cons, show p.turn .advance = p from h.advance, ih]

/-- The process rests once it had the steps it had left. -/
theorem resting_of_remaining {steps : Nat} (h : p.remaining ≤ steps) :
    (run Process.turn p (List.replicate steps .advance)).Resting := by
  induction steps generalizing p with
  | zero =>
    show p.Resting
    have hzero : p.remaining = 0 := by omega
    obtain ⟨hhandlers, hmain⟩ := Nat.add_eq_zero_iff.mp hzero
    refine Or.inr ⟨?_, Or.inl ?_⟩
    · cases hcons : p.handlers with
      | nil => rfl
      | cons point rest =>
        rw [hcons] at hhandlers
        cases point <;> simp [HandlerPoint.left] at hhandlers
    · cases hpoint : p.main <;> rw [hpoint] at hmain <;> first | rfl | cases hmain
  | succ steps ih =>
    by_cases hresting : p.Resting
    · rw [hresting.stays]
      exact hresting
    · rw [List.replicate_succ, run_cons]
      show (run Process.turn p.advance _).Resting
      rcases advance_remaining hresting with hraised | hless
      · rw [Resting.stays (Or.inl hraised)]
        exact Or.inl hraised
      · exact ih (by omega)

theorem remaining_le (p : Process) : p.remaining ≤ 5 * p.handlers.length + 7 := by
  have hhandlers : (p.handlers.map HandlerPoint.left).sum ≤ 5 * p.handlers.length := by
    induction p.handlers with
    | nil => exact Nat.le_refl 0
    | cons point rest ih =>
      have hpoint : point.left ≤ 5 := by cases point <;> decide
      rw [List.map_cons, List.sum_cons, List.length_cons]
      omega
  have hmain : p.main.left ≤ 7 := by cases p.main <;> decide
  unfold remaining
  omega

theorem steps_effects (p : Process) (steps : Nat) :
    (run Process.turn p (List.replicate steps .advance)).effects = p.effects := by
  induction steps generalizing p with
  | zero => rfl
  | succ steps ih =>
    rw [List.replicate_succ, run_cons, ih]
    exact advance_effects p

end Progress

end Process

/-- Where the process comes to rest, by what its signals met. -/
structure Settled (effects : List Effect) (process : Process) : Prop where
  /-- Without a signal it waits in readiness. -/
  waits : effects = [] →
    process.raised = none ∧ process.main = .wait ∧ process.state = .ready
  /-- With a stop that was heard, and no signal that came too early or too late, it returns
      stopped. -/
  returns : .fatal ∉ effects → .heard ∈ effects →
    process.raised = none ∧ process.main = .returned ∧ process.state = .stopped
  /-- Any other signals end it with an exception. -/
  fails : .fatal ∈ effects ∨ effects ≠ [] ∧ .heard ∉ effects → ∃ e, process.raised = some e

namespace Process

variable {p : Process}

theorem Overwritten.not_rested (h : p.Overwritten)
    (hmain : p.main = .returned ∨ p.main = .wait ∧ p.stopped = false) : False := by
  cases h with
  | starting _ hm _ | stopping _ hm _ =>
    rw [hm] at hmain
    rcases hmain with heq | ⟨heq, -⟩ <;> cases heq
  | ready _ hm _ hstopped =>
    rcases hmain with heq | ⟨-, heq⟩
    · rw [heq] at hm
      rcases hm with hm | hm | hm | hm <;> cases hm
    · rw [hstopped] at heq
      cases heq

theorem Doomed.not_rested (h : p.Doomed) (hhandlers : p.handlers = [])
    (hmain : p.main = .returned ∨ p.main = .wait ∧ p.stopped = false) : False := by
  cases h with
  | late _ hunchecked =>
    obtain ⟨point, hpoint, -⟩ := hunchecked
    rw [hhandlers] at hpoint
    cases hpoint
  | overtaken _ hunchecked _ =>
    obtain ⟨point, hpoint, -⟩ := hunchecked
    rw [hhandlers] at hpoint
    cases hpoint
  | early hm _ =>
    rw [hm] at hmain
    rcases hmain with heq | ⟨heq, -⟩ <;> cases heq
  | refused hm =>
    rcases hm with hm | hm <;> rw [hm] at hmain <;> rcases hmain with heq | ⟨heq, -⟩ <;> cases heq

theorem Stops.rested (h : p.Stops) (hhandlers : p.handlers = [])
    (hmain : p.main = .returned ∨ p.main = .wait ∧ p.stopped = false) :
    p.main = .returned ∧ p.state = .stopped := by
  cases h with
  | ready _ _ hnested =>
    obtain ⟨point, rest, hcons, -⟩ := hnested
    rw [hhandlers] at hcons
    cases hcons
  | stopping _ hm hchecked =>
    rw [hchecked.2 hhandlers] at hmain
    rcases hmain with heq | ⟨-, heq⟩
    · rw [heq] at hm
      rcases hm with hm | hm | hm | ⟨hm, -⟩ <;> cases hm
    · cases heq
  | stopped hstate hm _ =>
    refine ⟨?_, hstate⟩
    rcases hmain with heq | ⟨heq, -⟩
    · exact heq
    · rw [heq] at hm
      rcases hm with hm | hm <;> cases hm

theorem Calm.rested (h : p.Calm)
    (hmain : p.main = .returned ∨ p.main = .wait ∧ p.stopped = false) :
    p.main = .wait ∧ p.state = .ready := by
  cases h with
  | starting _ hm _ _ =>
    rcases hmain with heq | ⟨heq, -⟩ <;> rw [heq] at hm <;> rcases hm with hm | hm <;> cases hm
  | ready hstate hm _ _ =>
    refine ⟨?_, hstate⟩
    rcases hmain with heq | ⟨heq, -⟩
    · rw [heq] at hm
      rcases hm with hm | hm <;> cases hm
    · exact heq

theorem Standing.settled (h : p.Standing) (hresting : p.Resting) : Settled p.effects p := by
  have hraises : (p.raised = none → False) → ∃ e, p.raised = some e := by
    intro hno
    exact Option.ne_none_iff_exists'.mp hno
  cases h with
  | calm heffects hraised h =>
    obtain ⟨-, hmain⟩ := hresting.resolve_left (absurd hraised)
    refine ⟨fun _ => ⟨hraised, h.rested hmain⟩, ?_, ?_⟩
    · intro _ hheard
      rw [heffects] at hheard
      cases hheard
    · rintro (hfatal | ⟨hne, -⟩)
      · rw [heffects] at hfatal
        cases hfatal
      · exact absurd heffects hne
  | overwritten hlost hfatal hheard h =>
    refine ⟨?_, fun _ hh => absurd hh hheard, fun _ => hraises fun hraised => ?_⟩
    · intro hnil
      rw [hnil] at hlost
      cases hlost
    · obtain ⟨-, hmain⟩ := hresting.resolve_left (absurd hraised)
      exact (h hraised).not_rested hmain
  | stops hfatal hheard hraised h =>
    obtain ⟨hhandlers, hmain⟩ := hresting.resolve_left (absurd hraised)
    refine ⟨?_, fun _ _ => ⟨hraised, h.rested hhandlers hmain⟩, ?_⟩
    · intro hnil
      rw [hnil] at hheard
      cases hheard
    · rintro (hf | ⟨-, hno⟩)
      · exact absurd hf hfatal
      · exact absurd hheard hno
  | doomed hfatal h =>
    refine ⟨?_, fun hno => absurd hfatal hno, fun _ => hraises fun hraised => ?_⟩
    · intro hnil
      rw [hnil] at hfatal
      cases hfatal
    · obtain ⟨hhandlers, hmain⟩ := hresting.resolve_left (absurd hraised)
      exact (h hraised).not_rested hhandlers hmain

end Process

/-- Whatever the schedule of steps and signals, the process comes to rest within five steps for
    each handler that runs and seven of its own, and where it does depends only on what the
    signals met when they arrived. -/
theorem shutdown_settles (turns : List Turn) (more : Nat) :
    Settled (processAfter turns).effects (processAfter (turns ++
      List.replicate (5 * (processAfter turns).handlers.length + 7 + more) .advance)) := by
  generalize hsteps : 5 * (processAfter turns).handlers.length + 7 + more = steps
  have hstanding := Process.standing_run (turns ++ List.replicate steps .advance)
  have hresting : (processAfter (turns ++ List.replicate steps .advance)).Resting := by
    rw [processAfter, run_append]
    refine Process.resting_of_remaining ?_
    have hle := (processAfter turns).remaining_le
    show (processAfter turns).remaining ≤ steps
    omega
  have heffects : (processAfter (turns ++ List.replicate steps .advance)).effects =
      (processAfter turns).effects := by
    rw [processAfter, run_append]
    exact Process.steps_effects _ steps
  generalize processAfter (turns ++ List.replicate steps .advance) = q at *
  rw [← heffects]
  exact hstanding.settled hresting

/-- A stop between the check and the assignment of `mark_ready` is overwritten, and the process
    ends with an exception, unless another stop comes in time. -/
example :
    (processAfter ([.advance, .signal] ++ List.replicate 12 .advance)).raised =
        some (notAllowed .ready .stopped) ∧
      (processAfter ([.advance, .signal] ++ List.replicate 6 .advance ++ [.signal] ++
        List.replicate 11 .advance)).main = .returned :=
  ⟨rfl, rfl⟩

end Godzilla.App
