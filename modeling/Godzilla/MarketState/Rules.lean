import Godzilla.MarketState.Models

/-!
# Classification and permissions

`market_state/rules.py`. The evidence builder of the source appends one
`ThresholdEvidence` per comparison; here each comparison is that record and the
evidence is the list of them, in the order they are made.
-/

namespace Godzilla.MarketState
open Godzilla Features

variable {F : Type} [PyFloat F]

/-- The comparison an operator makes. -/
def Operator.holds (operator : Operator) (value threshold : F) : Bool :=
  match operator with
  | .ge => decide (threshold ≤ value)
  | .le => decide (value ≤ threshold)
  | .eq => decide (value = threshold)
  | .absGe => decide (threshold ≤ PyFloat.abs value)

/-- `EvidenceBuilder.record` (`market_state/rules.py:34-62`). -/
def record (name : String) (value : Option F) (operator : Operator) (threshold : F)
    (missingReason : Option String) : ThresholdEvidence F :=
  { name := name
    value := value
    operator := operator
    threshold := threshold
    passed := value.elim false fun v => operator.holds v threshold
    missingReason := missingReason }

/-- `EvidenceBuilder.check` (`market_state/rules.py:14-32`). -/
def check (snapshot : FeatureSnapshot F) (name : String) (operator : Operator) (threshold : F) :
    ThresholdEvidence F :=
  let value := (snapshot.lookup name).bind (·.value)
  let reason := (snapshot.lookup name).bind (·.reason)
  record name value operator threshold <|
    match reason, value with
    | some r, _ => some r.text
    | none, none => some "MISSING_INPUT"
    | none, some _ => none

/-- `name not in e.values or e.values[name].value is None`, negated. -/
def present (snapshot : FeatureSnapshot F) (name : String) : Bool :=
  ((snapshot.lookup name).bind (·.value)).isSome

/-- The volatility checks of `classify` (`market_state/rules.py:68-72`). -/
def highChecks (snapshot : FeatureSnapshot F) (cfg : RouterSettings F) :
    List (ThresholdEvidence F) :=
  [ check snapshot "market.realized_volatility" .ge cfg.highRealizedVol,
    check snapshot "market.range_volatility" .ge cfg.highRangeVol,
    check snapshot "market.vix_level" .ge cfg.highVix ]

/-- The upward checks of `classify` (`market_state/rules.py:73-78`). -/
def upChecks (snapshot : FeatureSnapshot F) (cfg : RouterSettings F) :
    List (ThresholdEvidence F) :=
  [ check snapshot "market.vwap_distance" .ge cfg.vwapDistance,
    check snapshot "market.slope_15m" .ge cfg.slope15m,
    check snapshot "market.slope_30m" .ge cfg.slope30m,
    check snapshot "market.breadth_advancing" .ge cfg.breadthFraction ]

/-- The downward checks of `classify` (`market_state/rules.py:79-84`). -/
def downChecks (snapshot : FeatureSnapshot F) (cfg : RouterSettings F) :
    List (ThresholdEvidence F) :=
  [ check snapshot "market.vwap_distance" .le (-cfg.vwapDistance),
    check snapshot "market.slope_15m" .le (-cfg.slope15m),
    check snapshot "market.slope_30m" .le (-cfg.slope30m),
    check snapshot "market.breadth_declining" .ge cfg.breadthFraction ]

/-- The balance checks of `classify` (`market_state/rules.py:106-120`). -/
def balancedChecks (snapshot : FeatureSnapshot F) (cfg : RouterSettings F) :
    List (ThresholdEvidence F) :=
  [ ("market.vwap_distance", cfg.vwapDistance), ("market.slope_15m", cfg.slope15m),
    ("market.slope_30m", cfg.slope30m) ].flatMap (fun p =>
      [check snapshot p.1 .le p.2, check snapshot p.1 .ge (-p.2)]) ++
  [ check snapshot "market.breadth_advancing" .le cfg.breadthFraction,
    check snapshot "market.breadth_declining" .le cfg.breadthFraction ]

/-- The names whose absence makes `classify` answer `RISK_OFF`
    (`market_state/rules.py:88-100`). -/
def requiredNames (opening : Bool) : List String :=
  [ "market.realized_volatility", "market.range_volatility", "market.vwap_distance",
    "market.slope_15m", "market.slope_30m", "market.breadth_advancing",
    "market.breadth_declining" ] ++ if opening then ["market.opening_gap"] else []

/-- `classify` (`market_state/rules.py:64-121`): the state and the evidence appended. -/
def classify (snapshot : FeatureSnapshot F) (cfg : RouterSettings F) (elapsed : F) :
    MarketState × List (ThresholdEvidence F) :=
  let stabilizing := record "session.elapsed_seconds" (some elapsed) .le
    (PyFloat.ofInt cfg.stabilizationSeconds) none
  let opening := record "session.shock_window" (some elapsed) .le
    (PyFloat.ofInt cfg.shockWindowSeconds) none
  let gap := check snapshot "market.opening_gap" .absGe cfg.openingGap
  let high := highChecks snapshot cfg
  let up := upChecks snapshot cfg
  let down := downChecks snapshot cfg
  let coverage := check snapshot "market.breadth_coverage" .eq 1
  let checks := [stabilizing, opening, gap] ++ high ++ up ++ down ++ [coverage]
  if stabilizing.passed || (opening.passed && (gap.passed || high.any (·.passed))) then
    (.openShock, checks)
  else if !coverage.passed || (requiredNames opening.passed).any (!present snapshot ·) then
    (.riskOff, checks)
  else if high.any (·.passed) then (.highVol, checks)
  else if up.all (·.passed) then (.trendUp, checks)
  else if down.all (·.passed) then (.trendDown, checks)
  else
    let balanced := balancedChecks snapshot cfg
    (if balanced.all (·.passed) then .chop else .riskOff, checks ++ balanced)

/-- `permissions` (`market_state/rules.py:124-150`): families, sides and multiplier. -/
def permissions (state : MarketState) (cfg : RouterSettings F) :
    List AlphaFamily × List Side × F :=
  match state with
  | .riskOff | .openShock => ([], [], 0)
  | .chop =>
    ([.pairsStatArb, .vwapMeanReversion, .sectorRelativeValue], [], cfg.chopMultiplier)
  | .highVol => ([.sectorRelativeValue], [], cfg.highVolMultiplier)
  | .trendUp =>
    ([.crossSectionalMomentum, .momentumBreakout, .sectorRelativeValue], [.long],
      cfg.trendMultiplier)
  | .trendDown =>
    ([.crossSectionalMomentum, .momentumBreakout, .sectorRelativeValue], [.short],
      cfg.trendMultiplier)

/-- Every granted multiplier passes the range check of a decision. -/
theorem permissions_multiplier_range (state : MarketState) (cfg : RouterSettings F) :
    0 ≤ (permissions state cfg).2.2 ∧ (permissions state cfg).2.2 ≤ 1 := by
  cases state with
  | trendUp => exact cfg.trendMultiplier_range
  | trendDown => exact cfg.trendMultiplier_range
  | chop => exact cfg.chopMultiplier_range
  | highVol => exact cfg.highVolMultiplier_range
  | openShock => exact ⟨le_refl _, PyFloat.zero_le_one⟩
  | riskOff => exact ⟨le_refl _, PyFloat.zero_le_one⟩

/-- Blocked states are granted nothing. -/
theorem permissions_of_blocked {state : MarketState} (cfg : RouterSettings F)
    (h : state.blocked) : permissions state cfg = ([], [], 0) := by
  rcases h with rfl | rfl <;> rfl

/-- Only a trend has a side, and it names the trend. -/
theorem mem_permissions_sides {state : MarketState} {cfg : RouterSettings F} {side : Side} :
    side ∈ (permissions state cfg).2.1 ↔
      (state = .trendUp ∧ side = .long) ∨ (state = .trendDown ∧ side = .short) := by
  cases state <;> cases side <;> simp [permissions]

end Godzilla.MarketState
