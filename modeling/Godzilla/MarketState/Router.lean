import Godzilla.MarketState.Rules
import Godzilla.MarketData.Calendar

/-!
# The market-state router

`MarketStateRouter.route` (`market_state/router.py:38-179`), cut along its
phases: the input gate, the assessment of one input, the confirmation counter,
the state change, the grant, and the commit. The metrics it increments are
written and never read, and are left out.
-/

namespace Godzilla.MarketState
open Godzilla Features MarketData

/-- `MarketStateRouter` (`market_state/router.py:22-36`). -/
structure MarketStateRouter (F : Type) [PyFloat F] [Platform] where
  settings : RouterSettings F
  calendar : ExchangeCalendar
  timezone : String
  last : Option (StateDecision F) := none
  identity : Option String := none
  pending : Option MarketState := none
  count : Nat := 0
  featureTime : Option Instant := none

/-- One call of `route`: its snapshot, health and time. -/
structure RouteCall (F : Type) where
  snapshot : FeatureSnapshot F
  health : RoutingHealth
  now : Instant
  deriving DecidableEq

variable {F : Type} [PyFloat F] [Platform]

/-- `snapshot.snapshot_hash() + content_hash(health) + at.isoformat()`. -/
def RouteCall.identity (call : RouteCall F) : String :=
  call.snapshot.snapshotHash ++ contentHash call.health ++ Platform.isoformat call.now

/-- `float(condition)` of a boolean. -/
def floatOfBool (condition : Bool) : F := if condition then 1 else 0

/-- The tuple `safe` of `route` (`market_state/router.py:51-76`). -/
def safetyChecks (cfg : RouterSettings F) (call : RouteCall F) : List (ThresholdEvidence F) :=
  let healthAge : F := PyFloat.seconds (call.now - call.health.observedAt)
  let featureAge : F := PyFloat.seconds (call.now - call.snapshot.timestamp)
  let healthy : F := PyFloat.ofInt HealthStatus.healthy.code
  [ record "health.system_status" (some (PyFloat.ofInt call.health.systemStatus.code)) .eq healthy
      none,
    record "health.risk_status" (some (PyFloat.ofInt call.health.riskStatus.code)) .eq healthy none,
    record "health.blocks_new_entries" (some (floatOfBool call.health.blocksNewEntries)) .eq 0 none,
    record "health.age_seconds" (some healthAge) .ge 0 none,
    record "health.age_seconds" (some healthAge) .le (PyFloat.ofInt cfg.healthMaxAgeSeconds) none,
    record "feature.age_seconds" (some featureAge) .ge 0 none,
    record "feature.age_seconds" (some featureAge) .le (PyFloat.ofInt cfg.featureMaxAgeSeconds)
      none ]

/-- What one input says, whatever the router held before. -/
structure Assessment (F : Type) where
  opening : Option Instant
  candidate : MarketState
  checks : List (ThresholdEvidence F)
  reasons : List String

/-- What the gate of `route` makes of a call. -/
inductive Admission (F : Type) [PyFloat F] [Platform] where
  | regressed
  | redelivered (last : StateDecision F)
  | conflicting
  | admitted

namespace MarketStateRouter

/-- The session window of the call; an uncovered date has none
    (`market_state/router.py:77-80`). -/
def bounds (router : MarketStateRouter F) (now : Instant) : Option (Instant × Instant) :=
  match sessionBounds router.calendar now router.timezone with
  | .ok bounds => bounds
  | .error _ => none

/-- `bounds[0] <= snapshot.timestamp <= at < bounds[1]`. -/
def inSession (router : MarketStateRouter F) (call : RouteCall F) : Bool :=
  match router.bounds call.now with
  | some (opens, closes) =>
    decide (opens ≤ call.snapshot.timestamp ∧ call.snapshot.timestamp ≤ call.now ∧
      call.now < closes)
  | none => false

/-- Safety checks, session check, classification and veto (`market_state/router.py:50-90`). -/
def assess (router : MarketStateRouter F) (call : RouteCall F) : Assessment F :=
  let safe := safetyChecks router.settings call
  let opening := (router.bounds call.now).map Prod.fst
  let confirmed := record "session.confirmed_active" (some (floatOfBool (router.inSession call)))
    .eq 1 none
  let classified := match opening with
    | some opens =>
      classify call.snapshot router.settings (PyFloat.seconds (call.now - opens))
    | none => (.riskOff, [])
  let checks := safe ++ [confirmed] ++ classified.2
  let rule := "RULE_" ++ classified.1.value
  if safe.all (·.passed) && router.inSession call then
    ⟨opening, classified.1, checks, [rule]⟩
  else
    ⟨opening, .riskOff, checks, [rule, "SAFETY_VETO"]⟩

/-- `last is None or opening != last.evidence.session_open`. -/
def newSession (router : MarketStateRouter F) (opening : Option Instant) : Bool :=
  match router.last with
  | none => true
  | some last => decide (opening ≠ last.evidence.sessionOpen)

/-- The state held before the call, `RISK_OFF` for a fresh router. -/
def previous (router : MarketStateRouter F) : MarketState :=
  router.last.elim .riskOff (·.state)

/-- The state and its start that the call builds on (`market_state/router.py:93-94`). -/
def held (router : MarketStateRouter F) (opening : Option Instant) (now : Instant) :
    MarketState × Instant :=
  if router.newSession opening then (.riskOff, now)
  else (router.previous, router.last.elim now (·.stateSince))

/-- The confirmation gap (`market_state/router.py:95-98`). -/
def gapExceeded (router : MarketStateRouter F) (now : Instant) : Bool :=
  match router.last with
  | none => false
  | some last =>
    decide (secondsOf router.settings.maxConfirmationGapSeconds < now - last.timestamp)

/-- `self._feature_time is None or snapshot.timestamp > self._feature_time`. -/
def freshObservation (router : MarketStateRouter F) (snapshot : FeatureSnapshot F) : Bool :=
  match router.featureTime with
  | none => true
  | some seen => decide (seen < snapshot.timestamp)

/-- The confirmation counter after the resets and the observation
    (`market_state/router.py:99-105`). -/
def confirm (router : MarketStateRouter F) (call : RouteCall F) (a : Assessment F) : Nat :=
  let kept :=
    if router.newSession a.opening || router.gapExceeded call.now then 0
    else if router.pending = some a.candidate then router.count
    else 0
  if router.freshObservation call.snapshot then kept + 1 else kept

/-- `candidate in (RISK_OFF, OPEN_SHOCK, HIGH_VOL)`. -/
def immediate (candidate : MarketState) : Bool :=
  candidate == .riskOff || candidate == .openShock || candidate == .highVol

/-- The state change and whether it stays pending (`market_state/router.py:106-120`). -/
def transition (router : MarketStateRouter F) (call : RouteCall F) (a : Assessment F)
    (count : Nat) : (MarketState × Instant) × List String :=
  let (state, since) := router.held a.opening call.now
  if a.candidate = state then ((state, since), [])
  else if immediate a.candidate || (decide (router.settings.confirmationCount ≤ count) &&
      decide (secondsOf router.settings.minDurationSeconds ≤ call.now - since)) then
    ((a.candidate, call.now), [])
  else ((state, since), ["TRANSITION_PENDING"])

/-- The permissions of a decision: those of the state that the candidate grants too
    (`market_state/router.py:122-137`). -/
def grant (cfg : RouterSettings F) (state candidate : MarketState) :
    List AlphaFamily × List Side × F :=
  let (families, sides, multiplier) := permissions state cfg
  let (wanted, wantedSides, wantedMultiplier) := permissions candidate cfg
  let families := families.filter (· ∈ wanted)
  let sides := sides.filter (· ∈ wantedSides)
  let families := if sides.isEmpty then
      families.filter fun f => f ∉ [AlphaFamily.crossSectionalMomentum, .momentumBreakout]
    else families
  (families, sides, if families.isEmpty then 0 else min multiplier wantedMultiplier)

/-- The fields of the decision (`market_state/router.py:148-172`). -/
def decisionFields (router : MarketStateRouter F) (call : RouteCall F) : StateFields F :=
  let a := router.assess call
  let count := router.confirm call a
  let ((state, since), pendingReason) := router.transition call a count
  let (_, heldSince) := router.held a.opening call.now
  let (families, sides, multiplier) := grant router.settings state a.candidate
  { timestamp := call.now
    state := state
    candidate := a.candidate
    previousState := router.previous
    stateSince := since
    confirmationCount := count
    allowedAlphaFamilies := families
    directionalSides := sides
    grossRiskMultiplier := multiplier
    evidence :=
      { featureSnapshotHash := call.snapshot.snapshotHash
        featureSetHash := call.snapshot.featureSetHash
        routerVersionHash := router.settings.versionHash
        thresholds := a.checks ++
          [ record "transition.confirmations" (some (PyFloat.ofInt count)) .ge
              (PyFloat.ofInt router.settings.confirmationCount) none,
            record "transition.dwell_seconds" (some (PyFloat.seconds (call.now - heldSince))) .ge
              (PyFloat.ofInt router.settings.minDurationSeconds) none ]
        health := call.health
        sessionOpen := a.opening
        reasons := a.reasons ++ pendingReason }
    settings := router.settings
    codeCommit := call.snapshot.codeCommit
    configHash := call.snapshot.configHash
    dataSnapshot := call.snapshot.dataSnapshot
    priorDecisionHash := router.last.map (·.decisionHash) }

/-- The router once the counter has been updated (`market_state/router.py:99-105`). -/
def counted (router : MarketStateRouter F) (call : RouteCall F) : MarketStateRouter F :=
  let a := router.assess call
  { router with pending := some a.candidate, count := router.confirm call a }

/-- Assess, count, decide and commit. A decision the validators reject leaves the
    counter updated and nothing else. -/
def decideNow (router : MarketStateRouter F) (call : RouteCall F) :
    Except PyError (StateDecision F) × MarketStateRouter F :=
  match StateDecision.validate (router.decisionFields call) with
  | .error e => (.error e, router.counted call)
  | .ok decision =>
    (.ok decision,
      { router.counted call with
        last := some decision
        identity := some call.identity
        featureTime := some (router.featureTime.elim call.snapshot.timestamp
          (max call.snapshot.timestamp ·)) })

/-- The input gate (`market_state/router.py:41-49`). -/
def admission (router : MarketStateRouter F) (call : RouteCall F) : Admission F :=
  match router.last with
  | none => .admitted
  | some last =>
    if call.now < last.timestamp then .regressed
    else if router.identity = some call.identity then .redelivered last
    else if call.now = last.timestamp then .conflicting
    else .admitted

/-- `MarketStateRouter.route` (`market_state/router.py:38-179`). -/
def route (router : MarketStateRouter F) (call : RouteCall F) :
    Except PyError (StateDecision F) × MarketStateRouter F :=
  match router.admission call with
  | .regressed =>
    (.error (.valueError "router input time regressed; replay in chronological order"), router)
  | .redelivered last => (.ok last, router)
  | .conflicting =>
    (.error (.valueError "conflicting router input at same timestamp"), router)
  | .admitted => router.decideNow call

end MarketStateRouter

end Godzilla.MarketState
