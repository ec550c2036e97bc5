import Godzilla.Features.Baseline
import Godzilla.Misc.Peaks

/-!
# Swing points

`series_features` looks for a swing at the bar that confirms it (`features/series.py:104-115`).
The swings of a series are its peaks, so the last of them is the latest that the bars
confirm, and further bars add swings that they confirm themselves.
-/

namespace Godzilla.Features
open Godzilla MarketData Misc

/-- `bars[i].high > other.high`. -/
def higher (bar other : Bar) : Bool := other.high < bar.high

/-- `bars[i].low < other.low`. -/
def lower (bar other : Bar) : Bool := bar.low < other.low

theorem confirmedSwings_eq (beats : Bar → Bar → Bool) (k : Nat) (bars : List Bar) :
    confirmedSwings beats k bars = confirmedPeaks beats k bars := by
  refine List.filterMap_congr ?_
  intro confirmed _
  rw [peakAt]
  cases bars[confirmed - k]? <;> rfl

/-- The later of the latest swings of a series and of a longer one is the same swing, or is
    confirmed by one of the further bars. -/
theorem latest_append {beats : Bar → Bar → Bool} {k : Nat} {bars more : List Bar} {i j : Nat}
    (hi : IsGreatest {i | IsPeak beats k bars i} i)
    (hj : IsGreatest {i | IsPeak beats k (bars ++ more) i} j) :
    j = i ∨ (i < j ∧ bars.length ≤ j + k) := by
  have hkept : IsPeak beats k (bars ++ more) i := (isPeak_append more hi.1.after).mpr hi.1
  have hle : i ≤ j := hj.2 hkept
  rcases isPeak_append_cases hj.1 with hold | hlater
  · exact Or.inl (le_antisymm (hi.2 hold) hle)
  · have hconfirmed := hi.1.after
    exact Or.inr ⟨by omega, hlater⟩

/-- Further bars only add swings, each confirmed by one of them. -/
structure NeverBackdated (beats : Bar → Bar → Bool) (k : Nat) (bars : List Bar) : Prop where
  listed : ∃ swings : List Nat, swings.Pairwise (· < ·) ∧ (∀ i, i ∈ swings ↔ IsPeak beats k bars i) ∧
    confirmedSwings beats k bars = swings.filterMap (bars[·]?)
  kept : ∀ more, confirmedSwings beats k bars <+: confirmedSwings beats k (bars ++ more)
  later : ∀ more i, IsPeak beats k (bars ++ more) i → IsPeak beats k bars i ∨ bars.length ≤ i + k
  superseded : ∀ more i j, IsGreatest {i | IsPeak beats k bars i} i →
    IsGreatest {i | IsPeak beats k (bars ++ more) i} j → j = i ∨ (i < j ∧ bars.length ≤ j + k)

theorem neverBackdated (beats : Bar → Bar → Bool) (k : Nat) (bars : List Bar) :
    NeverBackdated beats k bars where
  listed := ⟨peakIndices beats k bars, peakIndices_pairwise, fun _ => mem_peakIndices,
    (confirmedSwings_eq beats k bars).trans confirmedPeaks_eq⟩
  kept more := by
    rw [confirmedSwings_eq, confirmedSwings_eq]
    exact confirmedPeaks_prefix more
  later _ _ h := isPeak_append_cases h
  superseded _ _ _ hi hj := latest_append hi hj

section Published

variable {F : Type} [PyFloat F]

/-- A value is put for the latest swing of a series, and none when it has no swing. -/
structure PublishesLatest (result : Values F) (reading : Option F → Reading F) (price : Bar → ℚ)
    (beats : Bar → Bar → Bool) (k : Nat) (bars : List Bar) : Prop where
  swing : ∀ i, IsGreatest {i | IsPeak beats k bars i} i → ∀ bar ∈ bars[i]?,
    result.values.get? (reading none).name =
      some (reading (some (PyFloat.ofDecimal (price bar)))).publish
  missing : (∀ i, ¬ IsPeak beats k bars i) →
    result.values.get? (reading none).name = some (reading none).publish

/-- The last confirmed swing is the latest. -/
theorem publishesLatest {result : Values F} {reading : Option F → Reading F} {price : Bar → ℚ}
    {beats : Bar → Bar → Bool} {k : Nat} {bars : List Bar}
    (h : result.values.get? (reading none).name = some (reading
      ((confirmedSwings beats k bars).getLast?.map fun bar => PyFloat.ofDecimal (price bar))).publish) :
    PublishesLatest result reading price beats k bars where
  swing i hi bar hbar := by
    have hlast : (confirmedSwings beats k bars).getLast? = some bar := by
      rw [confirmedSwings_eq, getLast?_confirmedPeaks hi]
      exact hbar
    rw [h, hlast, Option.map_some]
  missing hnone := by
    have hempty : confirmedSwings beats k bars = [] := by
      rw [confirmedSwings_eq, confirmedPeaks_eq_nil hnone]
    rw [h, hempty, List.getLast?_nil, Option.map_none]

variable [PyMath F]

/-- The swing readings are put last. -/
theorem putAll_seriesFeatures {series : String} {bars : List Bar} {version : FeatureSetVersion F}
    {missing : MissingReason} {readings : List (Reading F)}
    (h : seriesFeatures series bars version missing = .ok readings) (result : Values F) :
    ∃ before : Values F, result.putAll readings =
      before.putAll (swingReadings series bars version.swingConfirmationBars missing) := by
  obtain ⟨horizon, -, h⟩ := bind_ok h
  obtain ⟨averages, -, h⟩ := bind_ok h
  obtain ⟨volatility, -, h⟩ := bind_ok h
  obtain rfl := Except.ok.inj h
  exact ⟨_, result.putAll_append _ _⟩

/-- The value put under the name of a swing is that of the latest bar that beats the `k` bars
    on each side of it, which are all there; further bars leave the confirmed swings as they
    are and add only such as they confirm. -/
theorem swings_never_backdated {series : String} {bars : List Bar} {version : FeatureSetVersion F}
    {missing : MissingReason} {readings : List (Reading F)}
    (h : seriesFeatures series bars version missing = .ok readings) (result : Values F) :
    PublishesLatest (result.putAll readings) (⟨series ++ ".swing_high", ·, missing⟩) (·.high)
        higher version.swingConfirmationBars bars ∧
      PublishesLatest (result.putAll readings) (⟨series ++ ".swing_low", ·, missing⟩) (·.low)
        lower version.swingConfirmationBars bars ∧
      NeverBackdated higher version.swingConfirmationBars bars ∧
      NeverBackdated lower version.swingConfirmationBars bars := by
  obtain ⟨before, hput⟩ := putAll_seriesFeatures h result
  have hnames : series ++ ".swing_high" ≠ series ++ ".swing_low" := by
    intro heq
    exact absurd ((String.append_right_inj series).mp heq) (by decide)
  refine ⟨publishesLatest ?_, publishesLatest ?_, neverBackdated _ _ _, neverBackdated _ _ _⟩
  · rw [hput, swingReadings]
    simp only [Values.putAll, List.foldl_cons, List.foldl_nil]
    rw [Values.get?_put, if_neg hnames, Values.get?_put, if_pos rfl]
    rfl
  · rw [hput, swingReadings]
    simp only [Values.putAll, List.foldl_cons, List.foldl_nil]
    rw [Values.get?_put, if_pos rfl]
    rfl

end Published

end Godzilla.Features

namespace Godzilla.Features.Sample
open MarketData Misc

/-- Five bars of which the third goes highest. -/
def swingBars : List Bar :=
  [fiveMinutes (openOf 0) 100, fiveMinutes (openOf 0 + minutesOf 5) 110,
    fiveMinutes (openOf 0 + minutesOf 10) 150, fiveMinutes (openOf 0 + minutesOf 15) 120,
    fiveMinutes (openOf 0 + minutesOf 20) 130]

theorem latest_swingBars : IsGreatest {i | IsPeak higher 2 swingBars i} 2 := by
  have hindices : peakIndices higher 2 swingBars = [2] := by decide +kernel
  constructor
  · exact mem_peakIndices.mp (by rw [hindices]; exact List.mem_singleton.mpr rfl)
  · intro i hi
    have hmem := mem_peakIndices.mpr hi
    rw [hindices, List.mem_singleton] at hmem
    exact hmem.le

theorem swings_never_backdated_third : ∃ readings,
    seriesFeatures "stock" swingBars version .warmup = .ok readings ∧
      (Values.empty.putAll readings).values.get? "stock.swing_high" =
        some (Reading.publish ⟨"stock.swing_high", some (150 : ℚ), .warmup⟩) ∧
      NeverBackdated higher 2 swingBars := by
  have hreturns : (seriesFeatures "stock" swingBars version .warmup).isOk = true := by
    decide +kernel
  cases hreadings : seriesFeatures "stock" swingBars version .warmup with
  | error e => rw [hreadings] at hreturns; cases hreturns
  | ok readings =>
    obtain ⟨hhigh, -, hnever, -⟩ := swings_never_backdated hreadings .empty
    exact ⟨readings, rfl, hhigh.swing 2 latest_swingBars _ rfl, hnever⟩

end Godzilla.Features.Sample
