import Godzilla.MarketData.Freshness
import Mathlib.Data.Rat.Floor

/-!
# Reconnecting the stream

The bounded retry schedule and the recovery latch (`market_data/reconnect.py`). The
seconds of the schedule are read exactly: a float is only scaled by powers of two, which
does not round. The counters of the metrics are left out.
-/

namespace Godzilla.MarketData
open Godzilla Misc

/-- `round` of the standard library: to the nearest, ties to even. -/
def roundHalfEven (x : ℚ) : Int :=
  if x - ⌊x⌋ < 1 / 2 then ⌊x⌋
  else if 1 / 2 < x - ⌊x⌋ then ⌊x⌋ + 1
  else if ⌊x⌋ % 2 = 0 then ⌊x⌋ else ⌊x⌋ + 1

/-- The microseconds that a `timedelta` of so many seconds holds. -/
def microseconds (seconds : ℚ) : Duration := roundHalfEven (seconds * 1000000)

/-- `timedelta(seconds=x)`: an `OverflowError` from a billion days on. -/
def timedeltaSeconds (seconds : ℚ) : Except PyError Duration :=
  if daysOf (-999999999) ≤ microseconds seconds ∧
      microseconds seconds < daysOf 1000000000 then
    .ok (microseconds seconds)
  else .error (.arithmeticError "must have magnitude <= 999999999")

/-- A number where the code says `float`: an `int` literal stays an `int`. -/
inductive Number where
  | int (n : Int)
  | float (x : ℚ)
  deriving DecidableEq, Repr

namespace Number

/-- The number that is meant. -/
def value : Number → ℚ
  | int n => n
  | float x => x

/-- `number * 2 ** k`. The power is an `int`: a float factor converts it to a float first, an
    `OverflowError` from `2 ** 1024` on. A product past the largest float is infinite, which
    compares with every limit as the exact product does. -/
def timesPowerOfTwo (number : Number) (k : Nat) : Except PyError ℚ :=
  match number with
  | int n => .ok (n * 2 ^ k)
  | float x =>
    if k < 1024 then .ok (x * 2 ^ k)
    else .error (.arithmeticError "int too large to convert to float")

end Number

/-- `ExponentialBackoff` (`market_data/reconnect.py:19-27`). An infinite maximum is met by any
    limit of a billion days or more, which no `timedelta` reaches. -/
structure ExponentialBackoff where
  initialSeconds : Number := .int 1
  maximumSeconds : ℚ := 30
  maxAttempts : Nat := 5
  /-- `__post_init__`. -/
  initial_pos : 0 < initialSeconds.value
  /-- `__post_init__`. -/
  initial_le : initialSeconds.value ≤ maximumSeconds
  /-- `__post_init__`. -/
  attempts_pos : 1 ≤ maxAttempts

namespace ExponentialBackoff

/-- The seconds before an attempt is made, without the bound on attempts. -/
def seconds (backoff : ExponentialBackoff) (attempt : Nat) : Except PyError ℚ := do
  let doubled ← backoff.initialSeconds.timesPowerOfTwo (attempt - 1)
  .ok (min backoff.maximumSeconds doubled)

/-- `ExponentialBackoff.delay` (`market_data/reconnect.py:29-36`). -/
def delay (backoff : ExponentialBackoff) (attempt : Nat) : Except PyError (Option Duration) :=
  if attempt < 1 then .error (.valueError "attempt must be positive")
  else if backoff.maxAttempts < attempt then .ok none
  else do
    let seconds ← backoff.seconds attempt
    let duration ← timedeltaSeconds seconds
    .ok (some duration)

end ExponentialBackoff

/-- `StreamState` (`market_data/reconnect.py:39-43`). -/
inductive StreamState where
  | disconnected
  | snapshotRequired
  | recoveryValidated
  | exhausted
  deriving DecidableEq, Repr

/-- The value of the state. -/
def StreamState.value : StreamState → String
  | disconnected => "DISCONNECTED"
  | snapshotRequired => "SNAPSHOT_REQUIRED"
  | recoveryValidated => "RECOVERY_VALIDATED"
  | exhausted => "EXHAUSTED"

/-- `ReconnectController` (`market_data/reconnect.py:46-51`). -/
structure ReconnectController where
  backoff : ExponentialBackoff
  state : StreamState := .disconnected
  attempts : Nat := 0
  connectedAt : Option Instant := none

namespace ReconnectController

/-- `ReconnectController.disconnected` (`market_data/reconnect.py:53-57`). -/
def disconnected (controller : ReconnectController) (reason : String) :
    Except PyError Unit × ReconnectController :=
  if reason = "" then (.error (.valueError "disconnect requires a reason"), controller)
  else (.ok (), { controller with state := .disconnected, connectedAt := none })

/-- `ReconnectController.next_retry_at` (`market_data/reconnect.py:59-68`). The attempt is
    counted before its delay is computed, also when that or the addition overflows. -/
def nextRetryAt (controller : ReconnectController) (now : Instant) :
    Except PyError (Option Instant) × ReconnectController :=
  if controller.state ≠ .disconnected ∧ controller.state ≠ .exhausted then
    (.error (.valueError "stream is already connected"), controller)
  else
    let counted := { controller with attempts := controller.attempts + 1 }
    match counted.backoff.delay counted.attempts with
    | .error e => (.error e, counted)
    | .ok none => (.ok none, { counted with state := .exhausted })
    | .ok (some delay) => (some <$> addDuration now delay, counted)

/-- `ReconnectController.connected` (`market_data/reconnect.py:70-72`). -/
def connected (controller : ReconnectController) (now : Instant) : ReconnectController :=
  { controller with state := .snapshotRequired, connectedAt := some now }

/-- The loop of `validate_recovery` (`market_data/reconnect.py:83-86`), with the reading of
    the clock at each instrument. -/
def requireSnapshots (controller : ReconnectController) (tracker : QuoteFreshnessTracker) :
    List (String × Instant) → Except PyError Unit
  | [] => .ok ()
  | (instrument, now) :: rest => do
    let quote ← tracker.requireFresh now instrument
    match controller.connectedAt with
    | none => .error (.valueError "fresh post-connect snapshot required")
    | some connectedAt =>
      if quote.receivedAt < connectedAt then
        .error (.valueError "fresh post-connect snapshot required")
      else requireSnapshots controller tracker rest

/-- `ReconnectController.validate_recovery` (`market_data/reconnect.py:74-88`). -/
def validateRecovery (controller : ReconnectController) (tracker : QuoteFreshnessTracker)
    (instruments : List (String × Instant)) (gapsReconciled : Bool) :
    Except PyError Unit × ReconnectController :=
  if controller.state ≠ .snapshotRequired ∨ instruments = [] ∨ gapsReconciled = false then
    (.error (.valueError "snapshot and gap reconciliation required"), controller)
  else
    match controller.requireSnapshots tracker instruments with
    | .error e => (.error e, controller)
    | .ok () => (.ok (), { controller with state := .recoveryValidated, attempts := 0 })

/-- `ReconnectController.health` (`market_data/reconnect.py:90-101`). -/
def health (controller : ReconnectController) (now : Instant) : ComponentHealth where
  component := "market-data-stream"
  status := if controller.state = .recoveryValidated then .healthy else .unhealthy
  observedAt := now
  blocking := true
  message := controller.state.value

/-- Every instrument that passes has a fresh quote received since the connection. -/
theorem requireSnapshots_ok {controller : ReconnectController} {tracker : QuoteFreshnessTracker}
    {connectedAt : Instant} (hconnected : controller.connectedAt = some connectedAt)
    {instruments : List (String × Instant)}
    (h : controller.requireSnapshots tracker instruments = .ok ()) :
    ∀ reading ∈ instruments, ∃ quote,
      tracker.requireFresh reading.2 reading.1 = .ok quote ∧ connectedAt ≤ quote.receivedAt := by
  induction instruments with
  | nil => intro reading hmem; cases hmem
  | cons reading rest ih =>
    obtain ⟨instrument, now⟩ := reading
    rw [requireSnapshots] at h
    cases hfresh : tracker.requireFresh now instrument with
    | error e => rw [hfresh] at h; cases h
    | ok quote =>
      rw [hfresh, hconnected] at h
      by_cases hreceived : quote.receivedAt < connectedAt
      · simp only [Bind.bind, Except.bind, if_pos hreceived, reduceCtorEq] at h
      · simp only [Bind.bind, Except.bind, if_neg hreceived] at h
        intro reading hmem
        rcases List.mem_cons.mp hmem with rfl | hrest
        · exact ⟨quote, hfresh, not_lt.mp hreceived⟩
        · exact ih h reading hrest

end ReconnectController

/-- A controller and the tracker whose quotes it validates. -/
structure Stream where
  controller : ReconnectController
  tracker : QuoteFreshnessTracker

/-- One call on a stream, with the readings of the clock it makes. -/
inductive StreamCall where
  | disconnected (reason : String)
  | nextRetryAt (now : Instant)
  | connected (now : Instant)
  | validateRecovery (instruments : List (String × Instant)) (gapsReconciled : Bool)
  | update (now : Instant) (quote : Quote)

namespace StreamCall

/-- The call is one of `connected()`. -/
def connects : StreamCall → Prop
  | connected _ => True
  | _ => False

/-- The call is one on the controller. -/
def onController : StreamCall → Prop
  | update .. => False
  | _ => True

end StreamCall

/-- What a call answers: the retry time of `next_retry_at`, and nothing for the others. -/
abbrev StreamAnswer := Except PyError (Option Instant)

namespace Stream

/-- The answer of a call. -/
def answer (s : Stream) : StreamCall → StreamAnswer
  | .disconnected reason => (fun _ => none) <$> (s.controller.disconnected reason).1
  | .nextRetryAt now => (s.controller.nextRetryAt now).1
  | .connected _ => .ok none
  | .validateRecovery instruments gapsReconciled =>
    (fun _ => none) <$> (s.controller.validateRecovery s.tracker instruments gapsReconciled).1
  | .update _ _ => .ok none

/-- The stream after a call, which may have raised. -/
def step (s : Stream) : StreamCall → Stream
  | .disconnected reason => { s with controller := (s.controller.disconnected reason).2 }
  | .nextRetryAt now => { s with controller := (s.controller.nextRetryAt now).2 }
  | .connected now => { s with controller := s.controller.connected now }
  | .validateRecovery instruments gapsReconciled =>
    { s with controller :=
        (s.controller.validateRecovery s.tracker instruments gapsReconciled).2 }
  | .update now quote => { s with tracker := (s.tracker.update now quote).2 }

end Stream

/-- A call of `validate_recovery` that did not raise. -/
def validated : StreamCall × StreamAnswer → Prop
  | (.validateRecovery _ _, .ok _) => True
  | _ => False

end Godzilla.MarketData
