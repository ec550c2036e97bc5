import Godzilla.MarketState.Readings
import Godzilla.MarketState.Runs

/-!
# Up and down are mirror images

A snapshot with every direction turned round is classified as before, with an upward trend
for a downward one.
-/

namespace Godzilla.MarketState
open Godzilla Features

variable {F : Type} [PyFloat F]

/-- The features that change their sign. -/
def signed : List String :=
  ["market.vwap_distance", "market.slope_15m", "market.slope_30m", "market.opening_gap"]

/-- The name that a feature goes by in the mirror. -/
def mirrorName (name : String) : String :=
  if name = "market.breadth_advancing" then "market.breadth_declining"
  else if name = "market.breadth_declining" then "market.breadth_advancing"
  else name

theorem mirrorName_mirrorName (name : String) : mirrorName (mirrorName name) = name := by
  by_cases hadvancing : name = "market.breadth_advancing"
  · subst hadvancing
    simp [mirrorName]
  · by_cases hdeclining : name = "market.breadth_declining"
    · subst hdeclining
      simp [mirrorName]
    · simp [mirrorName, hadvancing, hdeclining]

/-- A value in the mirror. -/
def mirrorValue (name : String) (value : Option F) : Option F :=
  if name ∈ signed then value.map (-·) else value

/-- A feature in the mirror; a missing one stays missing. -/
def mirrorFeature (item : FeatureValue F) : FeatureValue F where
  name := mirrorName item.name
  value := mirrorValue item.name item.value
  reason := item.reason
  explicit := by
    rw [← item.explicit, mirrorValue]
    split
    · exact Option.map_eq_none_iff
    · rfl

/-- The second snapshot has the features of the first as the mirror shows them. -/
def Mirrored (snapshot snapshot' : FeatureSnapshot F) : Prop :=
  snapshot'.values.Perm (snapshot.values.map mirrorFeature)

theorem reading_mirrored {snapshot snapshot' : FeatureSnapshot F}
    (h : Mirrored snapshot snapshot') (name : String) :
    reading snapshot' (mirrorName name) = mirrorValue name (reading snapshot name) := by
  by_cases hname : name ∈ snapshot.values.map (·.name)
  · obtain ⟨item, hitem, rfl⟩ := List.mem_map.mp hname
    have hmirror : mirrorFeature item ∈ snapshot'.values :=
      h.mem_iff.mpr (List.mem_map_of_mem hitem)
    rw [reading_of_mem hitem]
    exact reading_of_mem hmirror
  · have hmirror : mirrorName name ∉ snapshot'.values.map (·.name) := by
      intro hmem
      obtain ⟨item', hitem', heq⟩ := List.mem_map.mp hmem
      obtain ⟨item, hitem, rfl⟩ := List.mem_map.mp (h.mem_iff.mp hitem')
      have hsame : item.name = name := by
        rw [← mirrorName_mirrorName item.name, ← mirrorName_mirrorName name]
        exact congrArg mirrorName heq
      exact hname (hsame ▸ List.mem_map_of_mem hitem)
    rw [reading_eq_none hname, reading_eq_none hmirror, mirrorValue]
    split <;> rfl

section Tests

variable (value : Option F) (threshold : F)

theorem ge_passes_neg :
    Operator.ge.passes (value.map (-·)) threshold = Operator.le.passes value (-threshold) := by
  cases value with
  | none => rfl
  | some v =>
    have hneg : threshold ≤ -v ↔ v ≤ -threshold := by
      rw [← PyFloat.neg_le_neg_iff', PyFloat.neg_neg']
    exact decide_eq_decide.mpr hneg

theorem le_passes_neg :
    Operator.le.passes (value.map (-·)) (-threshold) = Operator.ge.passes value threshold := by
  cases value with
  | none => rfl
  | some v => exact decide_eq_decide.mpr PyFloat.neg_le_neg_iff'

theorem absGe_passes_neg :
    Operator.absGe.passes (value.map (-·)) threshold = Operator.absGe.passes value threshold := by
  cases value with
  | none => rfl
  | some v =>
    have habs : PyFloat.abs (-v) = PyFloat.abs v := by
      rw [PyFloat.abs, PyFloat.abs, PyFloat.neg_neg', max_comm]
    exact decide_eq_decide.mpr (by rw [habs])

theorem within_neg : within (value.map (-·)) threshold = within value threshold := by
  have hle : Operator.le.passes (value.map (-·)) threshold =
      Operator.ge.passes value (-threshold) := by
    rw [← le_passes_neg, PyFloat.neg_neg']
  have hge : Operator.ge.passes (value.map (-·)) (-threshold) =
      Operator.le.passes value threshold := by
    rw [ge_passes_neg, PyFloat.neg_neg']
  rw [within, within, hle, hge, Bool.and_comm]

end Tests

/-- What the mirror image of a snapshot reads. -/
structure ReadsMirrored (read read' : String → Option F) : Prop where
  vwapDistance : read' "market.vwap_distance" = (read "market.vwap_distance").map (-·)
  slope15m : read' "market.slope_15m" = (read "market.slope_15m").map (-·)
  slope30m : read' "market.slope_30m" = (read "market.slope_30m").map (-·)
  openingGap : read' "market.opening_gap" = (read "market.opening_gap").map (-·)
  advancing : read' "market.breadth_advancing" = read "market.breadth_declining"
  declining : read' "market.breadth_declining" = read "market.breadth_advancing"
  realized : read' "market.realized_volatility" = read "market.realized_volatility"
  range : read' "market.range_volatility" = read "market.range_volatility"
  vix : read' "market.vix_level" = read "market.vix_level"
  coverage : read' "market.breadth_coverage" = read "market.breadth_coverage"

theorem ReadsMirrored.of_mirrored {snapshot snapshot' : FeatureSnapshot F}
    (h : Mirrored snapshot snapshot') : ReadsMirrored (reading snapshot) (reading snapshot') where
  vwapDistance := reading_mirrored h "market.vwap_distance"
  slope15m := reading_mirrored h "market.slope_15m"
  slope30m := reading_mirrored h "market.slope_30m"
  openingGap := reading_mirrored h "market.opening_gap"
  advancing := reading_mirrored h "market.breadth_declining"
  declining := reading_mirrored h "market.breadth_advancing"
  realized := reading_mirrored h "market.realized_volatility"
  range := reading_mirrored h "market.range_volatility"
  vix := reading_mirrored h "market.vix_level"
  coverage := reading_mirrored h "market.breadth_coverage"

/-- Findings with the two trends exchanged. -/
def Findings.mirror (found : Findings) : Findings :=
  { found with up := found.down, down := found.up }

section Run

variable {read read' : String → Option F} (h : ReadsMirrored read read') (cfg : RouterSettings F)
include h

theorem readUp_mirrored : readUp read' cfg = readDown read cfg := by
  simp only [readUp, readDown, h.vwapDistance, h.slope15m, h.slope30m, h.advancing, ge_passes_neg]

theorem readDown_mirrored : readDown read' cfg = readUp read cfg := by
  simp only [readUp, readDown, h.vwapDistance, h.slope15m, h.slope30m, h.declining, le_passes_neg]

theorem readBalanced_mirrored : readBalanced read' cfg = readBalanced read cfg := by
  simp only [readBalanced, h.vwapDistance, h.slope15m, h.slope30m, h.advancing, h.declining,
    within_neg]
  exact Bool.and_right_comm _ _ _

theorem required_mirrored (opening : Bool) :
    ((requiredNames opening).all fun name => (read' name).isSome) =
      (requiredNames opening).all fun name => (read name).isSome := by
  cases opening <;>
    simp [requiredNames, h.vwapDistance, h.slope15m, h.slope30m, h.openingGap, h.advancing,
      h.declining, h.realized, h.range, Bool.and_comm, Bool.and_left_comm]

theorem findings_mirrored (elapsed : F) :
    findings read' cfg elapsed = (findings read cfg elapsed).mirror := by
  simp only [findings, Findings.mirror, readUp_mirrored h, readDown_mirrored h,
    readBalanced_mirrored h, required_mirrored h, h.openingGap, absGe_passes_neg, h.coverage,
    readHigh, h.realized, h.range, h.vix]

end Run

/-- A positive distance from the average price is not a negative one. -/
theorem readDown_eq_false {read : String → Option F} {cfg : RouterSettings F}
    (hup : readUp read cfg = true) : readDown read cfg = false := by
  simp only [readUp, Bool.and_eq_true] at hup
  obtain ⟨⟨⟨habove, -⟩, -⟩, -⟩ := hup
  have hbelow : Operator.le.passes (read "market.vwap_distance") (-cfg.vwapDistance) = false := by
    cases hread : read "market.vwap_distance" with
    | none => rfl
    | some distance =>
      have hpos : 0 < distance := by
        rw [hread] at habove
        exact lt_of_lt_of_le cfg.vwapDistance_range.1 (of_decide_eq_true habove)
      have hneg : -cfg.vwapDistance < 0 := by
        have hzero : (0 : F) = -0 := by
          rw [PyFloat.ofNat_eq, PyFloat.neg_ofInt (by decide)]
          rfl
        rw [hzero, ← not_le, PyFloat.neg_le_neg_iff', not_le]
        exact cfg.vwapDistance_range.1
      exact decide_eq_false (not_le.mpr (hneg.trans hpos))
  simp [readDown, hbelow]

/-- The state in the mirror. -/
def mirrorState : MarketState → MarketState
  | .trendUp => .trendDown
  | .trendDown => .trendUp
  | state => state

theorem Findings.state_mirror {found : Findings} (h : found.up = true → found.down = false) :
    found.mirror.state = mirrorState found.state := by
  unfold mirror state
  dsimp only
  by_cases hshock : (found.stabilizing || found.opening && (found.gap || found.high)) = true
  · rw [if_pos hshock, if_pos hshock]
    rfl
  · rw [if_neg hshock, if_neg hshock]
    by_cases hlost : (!found.coverage || !found.complete) = true
    · rw [if_pos hlost, if_pos hlost]
      rfl
    · rw [if_neg hlost, if_neg hlost]
      by_cases hhigh : found.high = true
      · rw [if_pos hhigh, if_pos hhigh]
        rfl
      · rw [if_neg hhigh, if_neg hhigh]
        by_cases hup : found.up = true
        · simp [hup, h hup, mirrorState]
        · cases hdown : found.down <;> cases hbalanced : found.balanced <;> simp [hup, mirrorState]

theorem mirrorState_cases (state : MarketState) :
    (mirrorState state = .trendDown ↔ state = .trendUp) ∧
    (mirrorState state = .trendUp ↔ state = .trendDown) ∧
    (state ≠ .trendUp → state ≠ .trendDown → mirrorState state = state) := by
  cases state <;> simp [mirrorState]

/-- With every direction turned round an upward trend is classified as a downward one and a
    downward trend as an upward one, and every other snapshot as before. -/
theorem classify_mirrored {snapshot snapshot' : FeatureSnapshot F}
    (h : Mirrored snapshot snapshot') (cfg : RouterSettings F) (elapsed : F) :
    ((classify snapshot' cfg elapsed).1 = .trendDown ↔
      (classify snapshot cfg elapsed).1 = .trendUp) ∧
    ((classify snapshot' cfg elapsed).1 = .trendUp ↔
      (classify snapshot cfg elapsed).1 = .trendDown) ∧
    ((classify snapshot cfg elapsed).1 ≠ .trendUp → (classify snapshot cfg elapsed).1 ≠ .trendDown →
      (classify snapshot' cfg elapsed).1 = (classify snapshot cfg elapsed).1) := by
  have hstate : (classify snapshot' cfg elapsed).1 = mirrorState (classify snapshot cfg elapsed).1 := by
    rw [classify_state, classify_state, findings_mirrored (.of_mirrored h)]
    exact Findings.state_mirror readDown_eq_false
  rw [hstate]
  exact mirrorState_cases _

end Godzilla.MarketState

namespace Godzilla.MarketState.Sample
open Features

/-- A downward trend. -/
def mirrored : FeatureSnapshot ℚ :=
  { snapshot 0 with
    values :=
      [ feature "market.breadth_advancing" (1 / 10), feature "market.breadth_coverage" 1,
        feature "market.breadth_declining" (8 / 10), feature "market.range_volatility" (1 / 1000),
        feature "market.realized_volatility" (1 / 1000), feature "market.slope_15m" (-1 / 100),
        feature "market.slope_30m" (-1 / 100), feature "market.vwap_distance" (-1 / 100) ]
    ordered_unique := by decide +kernel }

theorem classify_mirrored_trend :
    (classify mirrored settings 3600).1 = .trendDown ↔
      (classify (snapshot 0) settings 3600).1 = .trendUp :=
  (classify_mirrored (by unfold Mirrored; decide +kernel) settings 3600).1

end Godzilla.MarketState.Sample
