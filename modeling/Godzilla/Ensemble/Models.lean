import Godzilla.MarketState.Models

/-!
# The alpha registry, alpha health and normalised candidates

`ensemble/models.py`. Each structure carries its validators as fields. The
versions and the score semantics, with one permitted value each, are left out.
-/

namespace Godzilla.Ensemble
open Godzilla Features MarketState

/-- `AlphaId` (`ensemble/models.py:15-20`). -/
inductive AlphaId where
  | momentum
  | breakout
  | pairs
  | vwap
  | relativeValue
  deriving DecidableEq, Repr

namespace AlphaId

/-- `alpha.value`. -/
def value : AlphaId → String
  | momentum => "cross_sectional_momentum"
  | breakout => "momentum_breakout"
  | pairs => "pairs_stat_arb"
  | vwap => "vwap_mean_reversion"
  | relativeValue => "sector_relative_value"

/-- The name of the member in the source. -/
def memberName : AlphaId → String
  | momentum => "MOMENTUM"
  | breakout => "BREAKOUT"
  | pairs => "PAIRS"
  | vwap => "VWAP"
  | relativeValue => "RELATIVE_VALUE"

/-- `repr(alpha)`. -/
def reprText (alpha : AlphaId) : String :=
  "<AlphaId." ++ alpha.memberName ++ ": '" ++ alpha.value ++ "'>"

/-- `AlphaFamily(alpha.value)`: the two enumerations have the same values. -/
def family : AlphaId → AlphaFamily
  | momentum => .crossSectionalMomentum
  | breakout => .momentumBreakout
  | pairs => .pairsStatArb
  | vwap => .vwapMeanReversion
  | relativeValue => .sectorRelativeValue

/-- The members in declaration order. -/
def all : List AlphaId := [momentum, breakout, pairs, vwap, relativeValue]

/-- `AlphaId(value)`. -/
def ofValue (text : String) : Except PyError AlphaId :=
  match all.find? (·.value == text) with
  | some alpha => .ok alpha
  | none => .error (.valueError ("'" ++ text ++ "' is not a valid AlphaId"))

end AlphaId

/-- `AlphaRegistration` (`ensemble/models.py:23-34`). -/
structure AlphaRegistration (F : Type) [PyFloat F] where
  alphaId : AlphaId
  baseBudget : ℚ := 1 / 5
  enabled : Bool := true
  scoreFloor : F := 0
  scoreCeiling : F := 1
  budget_range : 0 ≤ baseBudget ∧ baseBudget ≤ 1
  floor_range : 0 ≤ scoreFloor ∧ scoreFloor ≤ 1
  ceiling_range : 0 < scoreCeiling ∧ scoreCeiling ≤ 1
  /-- `ordered`. -/
  ordered : scoreFloor < scoreCeiling

/-- `AlphaRegistry` (`ensemble/models.py:37-50`). -/
structure AlphaRegistry (F : Type) [PyFloat F] where
  entries : List (AlphaRegistration F)
  /-- `unique_budget`: each alpha exactly once. -/
  covers : ∀ alpha ∈ AlphaId.all, alpha ∈ entries.map (·.alphaId)
  each_once : entries.length = AlphaId.all.length
  /-- `unique_budget`: base budgets cannot exceed equity. -/
  budgets : (entries.map (·.baseBudget)).sum ≤ 1

/-- `AlphaHealthSettings` (`ensemble/models.py:53-72`). -/
structure AlphaHealthSettings (F : Type) [PyFloat F] where
  windowTrades : Nat := 100
  minimumTrades : Nat := 20
  minimumMultiplier : F
  initialMultiplier : F
  maximumMultiplier : F
  maxIncrease : F
  increaseIntervalSeconds : Nat := 86400
  maxReturnDrawdown : F
  healthMaxAgeSeconds : Nat := 86400
  window_min : 2 ≤ windowTrades
  minimum_pos : 1 ≤ minimumTrades
  multiplier_range : 0 ≤ minimumMultiplier ∧ maximumMultiplier ≤ 1
  increase_range : 0 < maxIncrease ∧ maxIncrease ≤ PyFloat.ofDecimal (1 / 10)
  interval_min : 3600 ≤ increaseIntervalSeconds
  drawdown_pos : 0 < maxReturnDrawdown
  age_pos : 0 < healthMaxAgeSeconds
  /-- `bounds`. -/
  ordered : minimumMultiplier ≤ initialMultiplier ∧ initialMultiplier ≤ maximumMultiplier
  warmup : minimumTrades ≤ windowTrades

/-- `AlphaHealthMultiplier` (`ensemble/models.py:75-84`). -/
structure AlphaHealthMultiplier (F : Type) [PyFloat F] where
  value : F
  minimum : F
  maximum : F
  bounded : 0 ≤ minimum ∧ minimum ≤ value ∧ value ≤ maximum ∧ maximum ≤ 1
  deriving DecidableEq

/-- `RegimeCount` (`ensemble/models.py:107-109`). -/
structure RegimeCount where
  regime : MarketState
  trades : Nat
  deriving DecidableEq

/-- `AlphaHealthSnapshot` (`ensemble/models.py:112-146`). -/
structure AlphaHealthSnapshot (F : Type) [PyFloat F] where
  alphaId : AlphaId
  timestamp : Instant
  trades : Int
  netExpectancy : Option F
  netPnl : ℚ
  drawdown : F
  costs : ℚ
  slippageCost : ℚ
  regimes : List RegimeCount
  multiplier : AlphaHealthMultiplier F
  lastIncreaseAt : Instant
  lastTradeAt : Option Instant
  settings : AlphaHealthSettings F
  outcomesHash : Digest
  priorHash : Option Digest
  codeCommit : String
  configHash : Digest
  dataSnapshot : String
  /-- `coherent`. -/
  increase_past : lastIncreaseAt ≤ timestamp
  trade_past : ∀ t ∈ lastTradeAt, t ≤ timestamp
  bounds_match : multiplier.minimum = settings.minimumMultiplier ∧
    multiplier.maximum = settings.maximumMultiplier
  regimes_sum : (regimes.map fun r => (r.trades : Int)).sum = trades

/-- `CandidateLeg` (`ensemble/models.py:149-153`). -/
structure CandidateLeg where
  entityId : Uuid
  instrumentId : String
  sector : String
  signedWeight : ℚ
  deriving DecidableEq

/-- The validators of the legs of a candidate (`ensemble/models.py:171-181`). -/
structure IndivisibleWeights (legs : List CandidateLeg) : Prop where
  nonempty : legs ≠ []
  unique : (legs.map (·.entityId)).Nodup
  nonzero : ∀ leg ∈ legs, leg.signedWeight ≠ 0
  unit_gross : |(legs.map fun leg => |leg.signedWeight|).sum - 1| ≤ 1 / 10 ^ 12

instance (legs : List CandidateLeg) : Decidable (IndivisibleWeights legs) :=
  decidable_of_iff (legs ≠ [] ∧ (legs.map (·.entityId)).Nodup ∧
      (∀ leg ∈ legs, leg.signedWeight ≠ 0) ∧
      |(legs.map fun leg => |leg.signedWeight|).sum - 1| ≤ 1 / 10 ^ 12)
    ⟨fun ⟨a, b, c, d⟩ => ⟨a, b, c, d⟩, fun ⟨a, b, c, d⟩ => ⟨a, b, c, d⟩⟩

/-- `NormalizedCandidate` (`ensemble/models.py:156-181`). -/
structure NormalizedCandidate where
  signalId : Uuid
  alphaId : AlphaId
  timestamp : Instant
  strength : ℚ
  legs : List CandidateLeg
  rawIntentHash : Digest
  registryHash : Digest
  strength_range : 0 ≤ strength ∧ strength ≤ 1
  indivisible_weights : IndivisibleWeights legs
  deriving DecidableEq

/-- The gross weight of some legs. -/
def grossWeight (legs : List CandidateLeg) : ℚ := (legs.map fun leg => |leg.signedWeight|).sum

theorem IndivisibleWeights.gross_le {legs : List CandidateLeg} (h : IndivisibleWeights legs) :
    grossWeight legs ≤ 1 + 1 / 10 ^ 12 := by
  have := (abs_le.mp h.unit_gross).2
  unfold grossWeight
  linarith

variable {F : Type} [PyFloat F]

theorem AlphaRegistry.covers_all (registry : AlphaRegistry F) (alpha : AlphaId) :
    (registry.entries.find? (·.alphaId == alpha)).isSome := by
  have hmem := registry.covers alpha (by cases alpha <;> decide)
  obtain ⟨entry, hentry, rfl⟩ := List.mem_map.mp hmem
  rw [List.find?_isSome]
  exact ⟨entry, hentry, by simp⟩

/-- `AlphaRegistry.registration` (`ensemble/models.py:49-50`); a registry covers every alpha. -/
def AlphaRegistry.registration (registry : AlphaRegistry F) (alpha : AlphaId) :
    AlphaRegistration F :=
  (registry.entries.find? (·.alphaId == alpha)).get (registry.covers_all alpha)

/-- The multiplier of a health snapshot as a `Decimal`. -/
theorem AlphaHealthMultiplier.toDecimal_range (m : AlphaHealthMultiplier F) :
    0 ≤ PyFloat.toDecimal m.value ∧ PyFloat.toDecimal m.value ≤ 1 := by
  obtain ⟨h0, hlow, hhigh, h1⟩ := m.bounded
  exact ⟨PyFloat.toDecimal_nonneg (le_trans h0 hlow), PyFloat.toDecimal_le_one (le_trans hhigh h1)⟩

end Godzilla.Ensemble
