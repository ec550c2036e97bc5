import Godzilla.MarketState.Rules
import Mathlib.Data.String.Basic

/-!
# Classification as a function of what is read

`classify` reads a snapshot only through the values its names stand for, and its state follows
from nine findings about them. The evidence that it appends has no part in the state.
-/

namespace Godzilla.MarketState
open Godzilla Features

variable {F : Type}

/-- The value under a name in a list of features. -/
def valueIn (items : List (FeatureValue F)) (name : String) : Option F :=
  (items.find? fun item => item.name == name).bind (·.value)

theorem valueIn_cons (item : FeatureValue F) (items : List (FeatureValue F)) (name : String) :
    valueIn (item :: items) name = if item.name = name then item.value else valueIn items name := by
  by_cases h : item.name = name <;> simp [valueIn, h]

theorem valueIn_eq_none {items : List (FeatureValue F)} {name : String}
    (h : name ∉ items.map (·.name)) : valueIn items name = none := by
  induction items with
  | nil => rfl
  | cons item items ih =>
    rw [List.map_cons, List.mem_cons, not_or] at h
    rw [valueIn_cons, if_neg (Ne.symm h.1), ih h.2]

theorem valueIn_of_mem {items : List (FeatureValue F)} (hnodup : (items.map (·.name)).Nodup)
    {item : FeatureValue F} (h : item ∈ items) : valueIn items item.name = item.value := by
  induction items with
  | nil => cases h
  | cons head items ih =>
    rw [List.map_cons, List.nodup_cons] at hnodup
    rw [valueIn_cons]
    rcases List.mem_cons.mp h with rfl | hrest
    · exact if_pos rfl
    · have hne : head.name ≠ item.name := by
        intro heq
        exact hnodup.1 (heq ▸ List.mem_map_of_mem hrest)
      rw [if_neg hne, ih hnodup.2 hrest]

theorem names_nodup (snapshot : FeatureSnapshot F) :
    (snapshot.values.map (·.name)).Nodup :=
  snapshot.ordered_unique.imp fun hlt => ne_of_lt hlt

/-- The value under a name, missing where the feature is missing or has no value. -/
def reading (snapshot : FeatureSnapshot F) (name : String) : Option F :=
  (snapshot.lookup name).bind (·.value)

theorem reading_of_mem {snapshot : FeatureSnapshot F} {item : FeatureValue F}
    (h : item ∈ snapshot.values) : reading snapshot item.name = item.value :=
  valueIn_of_mem (names_nodup snapshot) h

theorem reading_eq_none {snapshot : FeatureSnapshot F} {name : String}
    (h : name ∉ snapshot.values.map (·.name)) : reading snapshot name = none := valueIn_eq_none h

theorem any_not_present (snapshot : FeatureSnapshot F) (names : List String) :
    names.any (fun name => !present snapshot name) =
      !names.all fun name => (reading snapshot name).isSome :=
  List.not_all_eq_any_not.symm

variable [PyFloat F]

/-- Whether a reading passes a comparison; a missing one does not. -/
def Operator.passes (operator : Operator) (value : Option F) (threshold : F) : Bool :=
  value.elim false fun v => operator.holds v threshold

theorem check_passed (snapshot : FeatureSnapshot F) (name : String) (operator : Operator)
    (threshold : F) :
    (check snapshot name operator threshold).passed =
      operator.passes (reading snapshot name) threshold := rfl

/-- What the comparisons of `classify` come to. -/
structure Findings where
  stabilizing : Bool
  opening : Bool
  gap : Bool
  high : Bool
  coverage : Bool
  complete : Bool
  up : Bool
  down : Bool
  balanced : Bool

/-- The state that the findings stand for, tried in the order of `classify`. -/
def Findings.state (found : Findings) : MarketState :=
  if found.stabilizing || (found.opening && (found.gap || found.high)) then .openShock
  else if !found.coverage || !found.complete then .riskOff
  else if found.high then .highVol
  else if found.up then .trendUp
  else if found.down then .trendDown
  else if found.balanced then .chop
  else .riskOff

section Findings

variable (read : String → Option F) (cfg : RouterSettings F) (elapsed : F)

/-- The volatility tests. -/
def readHigh : Bool :=
  Operator.ge.passes (read "market.realized_volatility") cfg.highRealizedVol ||
  Operator.ge.passes (read "market.range_volatility") cfg.highRangeVol ||
  Operator.ge.passes (read "market.vix_level") cfg.highVix

/-- The tests of an upward trend. -/
def readUp : Bool :=
  Operator.ge.passes (read "market.vwap_distance") cfg.vwapDistance &&
  Operator.ge.passes (read "market.slope_15m") cfg.slope15m &&
  Operator.ge.passes (read "market.slope_30m") cfg.slope30m &&
  Operator.ge.passes (read "market.breadth_advancing") cfg.breadthFraction

/-- The tests of a downward trend. -/
def readDown : Bool :=
  Operator.le.passes (read "market.vwap_distance") (-cfg.vwapDistance) &&
  Operator.le.passes (read "market.slope_15m") (-cfg.slope15m) &&
  Operator.le.passes (read "market.slope_30m") (-cfg.slope30m) &&
  Operator.ge.passes (read "market.breadth_declining") cfg.breadthFraction

/-- A reading between a bound and its negative. -/
def within (value : Option F) (bound : F) : Bool :=
  Operator.le.passes value bound && Operator.ge.passes value (-bound)

/-- The tests of a balanced market. -/
def readBalanced : Bool :=
  within (read "market.vwap_distance") cfg.vwapDistance &&
  within (read "market.slope_15m") cfg.slope15m &&
  within (read "market.slope_30m") cfg.slope30m &&
  Operator.le.passes (read "market.breadth_advancing") cfg.breadthFraction &&
  Operator.le.passes (read "market.breadth_declining") cfg.breadthFraction

/-- Whether the session is no older than a number of seconds. -/
def windowOpen (seconds : Int) : Bool := decide (elapsed ≤ PyFloat.ofInt seconds)

/-- The findings of `classify`. -/
def findings : Findings where
  stabilizing := windowOpen elapsed cfg.stabilizationSeconds
  opening := windowOpen elapsed cfg.shockWindowSeconds
  gap := Operator.absGe.passes (read "market.opening_gap") cfg.openingGap
  high := readHigh read cfg
  coverage := Operator.eq.passes (read "market.breadth_coverage") 1
  complete := (requiredNames (windowOpen elapsed cfg.shockWindowSeconds)).all
    fun name => (read name).isSome
  up := readUp read cfg
  down := readDown read cfg
  balanced := readBalanced read cfg

end Findings

section Lists

variable (snapshot : FeatureSnapshot F) (cfg : RouterSettings F)

theorem any_highChecks :
    (highChecks snapshot cfg).any (·.passed) = readHigh (reading snapshot) cfg := by
  simp [highChecks, check_passed, readHigh, Bool.or_assoc]

theorem all_upChecks : (upChecks snapshot cfg).all (·.passed) = readUp (reading snapshot) cfg := by
  simp [upChecks, check_passed, readUp, Bool.and_assoc]

theorem all_downChecks :
    (downChecks snapshot cfg).all (·.passed) = readDown (reading snapshot) cfg := by
  simp [downChecks, check_passed, readDown, Bool.and_assoc]

theorem all_balancedChecks :
    (balancedChecks snapshot cfg).all (·.passed) = readBalanced (reading snapshot) cfg := by
  simp [balancedChecks, check_passed, readBalanced, within, Bool.and_assoc]

end Lists

/-- The state of `classify` is that of its findings. -/
theorem classify_state (snapshot : FeatureSnapshot F) (cfg : RouterSettings F) (elapsed : F) :
    (classify snapshot cfg elapsed).1 = (findings (reading snapshot) cfg elapsed).state := by
  simp only [classify, any_highChecks, all_upChecks, all_downChecks, all_balancedChecks,
    any_not_present, check_passed, apply_ite Prod.fst]
  rfl

end Godzilla.MarketState
