import Godzilla.MarketData.Reconnect
import Godzilla.Misc.Transition

/-!
# Reconnection over runs of calls

What a run of calls on a stream says about its health and about the retries it was
given. Every call reads the clock for itself, so the clock may move in any way between
two of them; calls that raise are part of the run.
-/

namespace Godzilla.MarketData
open Godzilla Misc

variable {s : Stream} {c : StreamCall} {calls : List StreamCall}

/-! ## One call -/

/-- The retry that attempt `attempt` gives at a reading of the clock. -/
def ExponentialBackoff.retry (backoff : ExponentialBackoff) (now : Instant) (attempt : Nat) :
    StreamAnswer := do
  match ← backoff.delay attempt with
  | none => .ok none
  | some delay => some <$> addDuration now delay

/-- A retry is refused while the stream is connected, or is the next attempt. -/
theorem ReconnectController.nextRetryAt_cases (controller : ReconnectController) (now : Instant) :
    (controller.nextRetryAt now =
        (.error (.valueError "stream is already connected"), controller)) ∨
    ((controller.state = .disconnected ∨ controller.state = .exhausted) ∧
      (controller.nextRetryAt now).1 = controller.backoff.retry now (controller.attempts + 1) ∧
      ((controller.nextRetryAt now).2.state = .disconnected ∨
        (controller.nextRetryAt now).2.state = .exhausted) ∧
      (controller.nextRetryAt now).2.attempts = controller.attempts + 1 ∧
      (controller.nextRetryAt now).2.backoff = controller.backoff) := by
  rw [nextRetryAt]
  by_cases hstate : controller.state ≠ .disconnected ∧ controller.state ≠ .exhausted
  · rw [if_pos hstate]
    exact Or.inl rfl
  · rw [if_neg hstate]
    have hidle : controller.state = .disconnected ∨ controller.state = .exhausted := by
      by_contra hneither
      exact hstate (not_or.mp hneither)
    refine Or.inr ⟨hidle, ?_⟩
    rw [ExponentialBackoff.retry]
    cases hdelay : controller.backoff.delay (controller.attempts + 1) with
    | error e => simp [hdelay, Bind.bind, Except.bind, hidle]
    | ok delay =>
      cases delay with
      | none => simp [hdelay, Bind.bind, Except.bind]
      | some duration => simp [hdelay, Bind.bind, Except.bind, hidle]

/-- What a successful validation read. -/
theorem ReconnectController.validateRecovery_cases (controller : ReconnectController)
    (tracker : QuoteFreshnessTracker) (instruments : List (String × Instant))
    (gapsReconciled : Bool) :
    (∃ e, controller.validateRecovery tracker instruments gapsReconciled =
        (.error e, controller)) ∨
    (controller.state = .snapshotRequired ∧ instruments ≠ [] ∧ gapsReconciled = true ∧
      controller.requireSnapshots tracker instruments = .ok () ∧
      controller.validateRecovery tracker instruments gapsReconciled =
        (.ok (), { controller with state := .recoveryValidated, attempts := 0 })) := by
  rw [validateRecovery]
  by_cases hguard : controller.state ≠ .snapshotRequired ∨ instruments = [] ∨
      gapsReconciled = false
  · rw [if_pos hguard]
    exact Or.inl ⟨_, rfl⟩
  · rw [if_neg hguard]
    push Not at hguard
    obtain ⟨hstate, hsome, hgaps⟩ := hguard
    cases hcheck : controller.requireSnapshots tracker instruments with
    | error e => exact Or.inl ⟨e, rfl⟩
    | ok _ =>
      exact Or.inr ⟨hstate, hsome, Bool.not_eq_false _ ▸ hgaps, rfl, rfl⟩

/-- A stream awaits a snapshot because this call connected it, or because it did before and
    this call left the controller alone. -/
theorem Stream.step_awaits (h : (s.step c).controller.state = .snapshotRequired) :
    (∃ now, c = .connected now ∧ (s.step c).controller.connectedAt = some now) ∨
    (¬ c.connects ∧ s.controller.state = .snapshotRequired ∧
      (s.step c).controller = s.controller) := by
  cases c with
  | disconnected reason =>
    simp only [Stream.step, ReconnectController.disconnected] at h ⊢
    split at h
    · next hreason => exact Or.inr ⟨id, h, by rw [if_pos hreason]⟩
    · cases h
  | nextRetryAt now =>
    rcases s.controller.nextRetryAt_cases now with hrefused | ⟨-, -, hidle, -⟩
    · simp only [Stream.step, hrefused] at h ⊢
      exact Or.inr ⟨id, h, trivial⟩
    · simp only [Stream.step] at h
      rw [h] at hidle
      rcases hidle with hidle | hidle <;> cases hidle
  | connected now => exact Or.inl ⟨now, rfl, rfl⟩
  | validateRecovery instruments gapsReconciled =>
    rcases s.controller.validateRecovery_cases s.tracker instruments gapsReconciled with
      ⟨e, hraised⟩ | ⟨-, -, -, -, hdone⟩
    · simp only [Stream.step, hraised] at h ⊢
      exact Or.inr ⟨id, h, trivial⟩
    · simp only [Stream.step, hdone] at h
      cases h
  | update now quote => exact Or.inr ⟨id, h, rfl⟩

/-- A stream is validated by this call, or it was before and this call on the controller
    raised. -/
theorem Stream.step_healthy (h : (s.step c).controller.state = .recoveryValidated) :
    (∃ instruments, c = .validateRecovery instruments true ∧
      s.controller.state = .snapshotRequired ∧ instruments ≠ [] ∧
      s.controller.requireSnapshots s.tracker instruments = .ok () ∧ s.answer c = .ok none) ∨
    (¬ c.connects ∧ s.controller.state = .recoveryValidated ∧
      (c.onController → ∃ e, s.answer c = .error e)) := by
  cases c with
  | disconnected reason =>
    simp only [Stream.step, Stream.answer, ReconnectController.disconnected] at h ⊢
    split at h
    · next hreason => exact Or.inr ⟨id, h, fun _ => ⟨_, by rw [if_pos hreason]; rfl⟩⟩
    · cases h
  | nextRetryAt now =>
    rcases s.controller.nextRetryAt_cases now with hrefused | ⟨-, -, hidle, -⟩
    · simp only [Stream.step, Stream.answer, hrefused] at h ⊢
      exact Or.inr ⟨id, h, fun _ => ⟨_, rfl⟩⟩
    · simp only [Stream.step] at h
      rw [h] at hidle
      rcases hidle with hidle | hidle <;> cases hidle
  | connected now => cases h
  | validateRecovery instruments gapsReconciled =>
    rcases s.controller.validateRecovery_cases s.tracker instruments gapsReconciled with
      ⟨e, hraised⟩ | ⟨hstate, hsome, rfl, hchecked, hdone⟩
    · simp only [Stream.step, Stream.answer, hraised] at h ⊢
      exact Or.inr ⟨id, h, fun _ => ⟨e, rfl⟩⟩
    · exact Or.inl ⟨instruments, rfl, hstate, hsome, hchecked, by
        simp only [Stream.answer, hdone]; rfl⟩
  | update now quote => exact Or.inr ⟨id, h, fun hon => hon.elim⟩

/-! ## Health over runs -/

/-- The last connection of a run, with the calls before and after it. -/
def LastConnection (calls before between : List StreamCall) (connectedAt : Instant) : Prop :=
  calls = before ++ .connected connectedAt :: between ∧ ∀ c ∈ between, ¬ c.connects

/-- After its last connection the stream was validated with the gaps reconciled, on a list of
    instruments that all had a fresh quote received since that connection, and every later
    call on the controller raised. -/
def Recovered (start : Stream) (calls : List StreamCall) : Prop :=
  ∃ before between instruments after connectedAt validating,
    LastConnection calls before (between ++ .validateRecovery instruments true :: after)
      connectedAt ∧
    validating = run Stream.step start (before ++ .connected connectedAt :: between) ∧
    instruments ≠ [] ∧
    (∀ reading ∈ instruments, ∃ quote,
      validating.tracker.requireFresh reading.2 reading.1 = .ok quote ∧
        connectedAt ≤ quote.receivedAt) ∧
    validating.answer (.validateRecovery instruments true) = .ok none ∧
    ∀ earlier c later, after = earlier ++ c :: later → c.onController →
      ∃ e, (run Stream.step (validating.step (.validateRecovery instruments true))
        earlier).answer c = .error e

theorem lastConnection_concat {before between : List StreamCall} {connectedAt : Instant}
    (h : LastConnection calls before between connectedAt) (hc : ¬ c.connects) :
    LastConnection (calls ++ [c]) before (between ++ [c]) connectedAt := by
  obtain ⟨rfl, hbetween⟩ := h
  refine ⟨by simp, fun d hd => ?_⟩
  rcases List.mem_append.mp hd with hd | hd
  · exact hbetween d hd
  · rw [List.mem_singleton.mp hd]
    exact hc

/-- A recovered stream stays recovered under the calls that raise. -/
theorem Recovered.concat {start : Stream} (h : Recovered start calls) (hc : ¬ c.connects)
    (hraised : c.onController → ∃ e, (run Stream.step start calls).answer c = .error e) :
    Recovered start (calls ++ [c]) := by
  obtain ⟨before, between, instruments, after, connectedAt, validating, hlast, rfl, hsome, hfresh,
    hok, hlater⟩ := h
  refine ⟨before, between, instruments, after ++ [c], connectedAt, _, ?_, rfl, hsome, hfresh, hok,
    ?_⟩
  · have hlast' := lastConnection_concat hlast hc
    rwa [List.append_assoc, List.cons_append] at hlast'
  · intro earlier d later hsplit hd
    rcases concat_split hsplit with ⟨-, rfl, rfl⟩ | ⟨later', -, hafter⟩
    · obtain ⟨e, he⟩ := hraised hd
      refine ⟨e, ?_⟩
      rw [hlast.1, ← List.cons_append, ← List.append_assoc, run_append, run_cons] at he
      exact he
    · exact hlater earlier d later' hafter hd

/-- What the state of the controller says about the run behind it. -/
structure Latched (start : Stream) (calls : List StreamCall) (s : Stream) : Prop where
  reached : s = run Stream.step start calls
  awaits : s.controller.state = .snapshotRequired → ∃ before between connectedAt,
    LastConnection calls before between connectedAt ∧
      s.controller.connectedAt = some connectedAt
  healthy : s.controller.state = .recoveryValidated → Recovered start calls

theorem Latched.step {start : Stream} (h : Latched start calls s) (c : StreamCall) :
    Latched start (calls ++ [c]) (s.step c) := by
  refine ⟨by rw [run_concat, h.reached], fun hstate => ?_, fun hstate => ?_⟩
  · rcases Stream.step_awaits hstate with ⟨now, rfl, hnow⟩ | ⟨hc, hbefore, hsame⟩
    · exact ⟨calls, [], now, ⟨rfl, by simp⟩, hnow⟩
    · obtain ⟨before, between, connectedAt, hlast, hat⟩ := h.awaits hbefore
      exact ⟨before, between ++ [c], connectedAt, lastConnection_concat hlast hc,
        by rw [hsame, hat]⟩
  · rcases Stream.step_healthy hstate with
      ⟨instruments, rfl, hbefore, hsome, hchecked, hok⟩ | ⟨hc, hbefore, hraised⟩
    · obtain ⟨before, between, connectedAt, hlast, hat⟩ := h.awaits hbefore
      have hreached : s = run Stream.step start (before ++ .connected connectedAt :: between) := by
        rw [← hlast.1, ← h.reached]
      refine ⟨before, between, instruments, [], connectedAt, s, lastConnection_concat hlast id,
        hreached, hsome, ReconnectController.requireSnapshots_ok hat hchecked, hok, ?_⟩
      · intro earlier c later hsplit
        cases earlier <;> cases hsplit
    · exact (h.healthy hbefore).concat hc (h.reached ▸ hraised)

/-- The stream of a new controller. -/
def Stream.opened (backoff : ExponentialBackoff) (tracker : QuoteFreshnessTracker) : Stream :=
  ⟨{ backoff }, tracker⟩

namespace ExponentialBackoff

end ExponentialBackoff

namespace Sample

def backoff : ExponentialBackoff where
  initial_pos := by decide
  initial_le := by decide
  attempts_pos := by decide

end Sample

end Godzilla.MarketData
