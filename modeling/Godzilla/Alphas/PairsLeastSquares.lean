import Godzilla.Alphas.PairsAttention
import Godzilla.Features.Baseline
import Godzilla.Features.Names
import Godzilla.Misc.LeastSquares

/-!
# The least-squares line

In exact arithmetic `ols` (`alphas/pairs_statistics.py:58-65`) finds the only line with the
least squares. Its coefficient is also what `slope` (`features/math.py:23-27`) gives over
the indices of a window, and what the feature engine publishes as the hedge ratio
(`features/engine.py:349-361`).
-/

namespace Godzilla.Alphas
open Godzilla Features MarketData Misc

theorem fmean_rat (xs : List ℚ) : PyFloat.fmean xs = mean xs := by
  rw [PyFloat.fmean, mean, fsum_rat, ofInt_rat, Int.cast_natCast]

/-- In exact arithmetic the covariance is the comoment of the two windows. -/
theorem covariance_rat {left right : List ℚ} (hlength : left.length = right.length)
    (hne : left ≠ []) : covariance left right = .ok (comoment left right) := by
  rw [covariance, if_neg]
  · simp only [fmean_rat]
    rfl
  · rintro (h | h)
    · exact h hlength
    · exact hne h

theorem covariance_eq_ok {left right : List ℚ} {value : ℚ}
    (h : covariance left right = .ok value) :
    left.length = right.length ∧ left ≠ [] ∧ value = comoment left right := by
  by_cases hwindow : left.length ≠ right.length ∨ left = []
  · rw [covariance, if_pos hwindow] at h
    cases h
  · obtain ⟨hlength, hne⟩ := not_or.mp hwindow
    rw [covariance_rat (not_not.mp hlength) hne] at h
    exact ⟨not_not.mp hlength, hne, (Except.ok.inj h).symm⟩

/-- `ols` of windows whose regressor varies enough. -/
theorem ols_rat {left right : List ℚ} (hlength : left.length = right.length)
    (hcount : 3 ≤ left.length) (hspread : 1 / 10 ^ 15 < comoment right right) :
    ols left right = .ok (mean left - comoment left right / comoment right right * mean right,
      comoment left right / comoment right right) := by
  have hleft : left ≠ [] := by
    rintro rfl
    cases hcount
  have hright : right ≠ [] := by
    rintro rfl
    exact hleft (List.length_eq_zero_iff.mp hlength)
  rw [ols, if_neg]
  · rw [covariance_rat rfl hright, covariance_rat hlength hleft]
    simp only [bind, Except.bind, ofDecimal_rat, if_neg (not_le.mpr hspread), fmean_rat]
  · rintro (h | h)
    · exact h hlength
    · omega

/-- What `ols` has checked of its windows when it returns. -/
theorem ols_eq_ok {left right : List ℚ} {a b : ℚ} (h : ols left right = .ok (a, b)) :
    left.length = right.length ∧ 3 ≤ left.length ∧ 1 / 10 ^ 15 < comoment right right ∧
      a = mean left - comoment left right / comoment right right * mean right ∧
      b = comoment left right / comoment right right := by
  by_cases hwindow : left.length ≠ right.length ∨ left.length < 3
  · rw [ols, if_pos hwindow] at h
    cases h
  obtain ⟨hlength, hcount⟩ := not_or.mp hwindow
  have hlength := not_not.mp hlength
  have hcount := not_lt.mp hcount
  by_cases hspread : 1 / 10 ^ 15 < comoment right right
  · rw [ols_rat hlength hcount hspread] at h
    obtain ⟨rfl, rfl⟩ := Prod.mk.inj (Except.ok.inj h)
    exact ⟨hlength, hcount, hspread, rfl, rfl⟩
  · have hright : right ≠ [] := by
      rintro rfl
      rw [hlength] at hcount
      cases hcount
    rw [ols, if_neg hwindow, covariance_rat rfl hright] at h
    simp only [bind, Except.bind, ofDecimal_rat, if_pos (not_lt.mp hspread)] at h
    cases h

/-- A line is the only one with the least squares over two windows, and its residuals
    cancel. -/
structure LeastSquares (left right : List ℚ) (a b : ℚ) : Prop where
  least : ∀ a' b', ((left.zip right).map fun p => (p.1 - a - b * p.2) ^ 2).sum ≤
    ((left.zip right).map fun p => (p.1 - a' - b' * p.2) ^ 2).sum
  unique : ∀ a' b', ((left.zip right).map fun p => (p.1 - a' - b' * p.2) ^ 2).sum =
    ((left.zip right).map fun p => (p.1 - a - b * p.2) ^ 2).sum → a' = a ∧ b' = b
  balanced : ((left.zip right).map fun p => p.1 - a - b * p.2).sum = 0

theorem sum_squares_eq (left right : List ℚ) (a b : ℚ) :
    ((left.zip right).map fun p => (p.1 - a - b * p.2) ^ 2).sum =
      squares a b (left.zip right) := by
  simp only [squares, Misc.residual, pow_two]

theorem ols_leastSquares {left right : List ℚ} {a b : ℚ} (h : ols left right = .ok (a, b)) :
    LeastSquares left right a b := by
  obtain ⟨hlength, hcount, hspread, rfl, rfl⟩ := ols_eq_ok h
  have hleft : left ≠ [] := by
    rintro rfl
    cases hcount
  have hright : right ≠ [] := by
    rintro rfl
    exact hleft (List.length_eq_zero_iff.mp hlength)
  have hmoment : comoment right right ≠ 0 := (lt_trans (by norm_num) hspread).ne'
  have hnormal := normalEquations_of_comoments hlength hleft hmoment
  have hsample : left.zip right ≠ [] := by
    rw [← List.length_pos_iff, List.length_zip, ← hlength, min_self]
    omega
  have hvaries : ∀ c, ∃ p ∈ left.zip right, p.2 ≠ c := by
    intro c
    by_contra hnone
    push Not at hnone
    refine hmoment (comoment_self_of_const hright (c := c) ?_)
    intro x hx
    rw [← List.map_snd_zip hlength.ge] at hx
    obtain ⟨p, hp, rfl⟩ := List.mem_map.mp hx
    exact hnone p hp
  constructor
  case least =>
    intro a' b'
    rw [sum_squares_eq, sum_squares_eq]
    exact hnormal.squares_le a' b'
  case unique =>
    intro a' b' heq
    rw [sum_squares_eq, sum_squares_eq] at heq
    exact hnormal.unique hsample hvaries heq
  case balanced => exact hnormal.balanced

example : ols [(1 : ℚ), 3, 5] [0, 1, 2] = .ok (1, 2) := by decide +kernel

/-- What is left of the responses without the intercept has the intercept as its mean. -/
theorem fmean_spread {left right : List ℚ} {a b : ℚ} (h : ols left right = .ok (a, b)) :
    PyFloat.fmean ((left.zip right).map fun p => p.1 - b * p.2) = a := by
  obtain ⟨hlength, hcount, -⟩ := ols_eq_ok h
  have hsample : ((left.zip right).map fun p => p.1 - b * p.2) ≠ [] := by
    rw [← List.length_pos_iff, List.length_map, List.length_zip, ← hlength, min_self]
    omega
  have hpos : (((left.zip right).map fun p => p.1 - b * p.2).length : ℚ) ≠ 0 := by
    exact_mod_cast mt List.length_eq_zero_iff.mp hsample
  have hbalanced := (ols_leastSquares h).balanced
  have hterm : ∀ p ∈ left.zip right, p.1 - a - b * p.2 = (p.1 - b * p.2) - a := by
    intro p _
    ring
  rw [List.map_congr_left hterm, sum_map_sub, List.map_const', List.sum_replicate, nsmul_eq_mul,
    sub_eq_zero] at hbalanced
  rw [fmean_rat, mean, hbalanced, List.length_map, mul_div_assoc, mul_comm,
    div_mul_cancel₀]
  rwa [List.length_map] at hpos

/-- The spread of a fit has the intercept as its mean. -/
theorem fitPair_spreadMean [PyMath ℚ] [Platform] {training : List PairObservation}
    {cfg : PairsSettings ℚ} {diagnostics : PairDiagnostics ℚ} {fit : PairFit ℚ}
    (h : fitPair training cfg diagnostics = .ok fit) : fit.spreadMean = fit.intercept := by
  obtain ⟨-, h⟩ := guard_ok h
  obtain ⟨left, -, h⟩ := bind_ok h
  obtain ⟨right, -, h⟩ := bind_ok h
  obtain ⟨-, h⟩ := guard_ok h
  simp only [fitLogs] at h
  obtain ⟨⟨intercept, beta⟩, hols, h⟩ := bind_ok h
  split at h
  · cases h
  split at h
  · cases h
  obtain ⟨_, -, h⟩ := bind_ok h
  obtain ⟨_, -, h⟩ := bind_ok h
  split at h
  · cases h
  obtain ⟨_, -, h⟩ := bind_ok h
  obtain ⟨_, -, h⟩ := bind_ok h
  split at h
  · split at h
    · obtain rfl := Except.ok.inj h
      exact fmean_spread hols
    · cases h
  · cases h

/-- The indices of a window vary enough to fit a line over them. -/
theorem lt_comoment_indices {n : ℕ} (hn : 3 ≤ n) :
    (1 : ℚ) / 10 ^ 15 < comoment (indices n) (indices n) := by
  have hlarge : (3 : ℚ) ≤ n := by exact_mod_cast hn
  rw [comoment_indices (by omega)]
  have hsquare : (9 : ℚ) ≤ n * n := by nlinarith only [hlarge]
  norm_num
  linarith only [hsquare]

theorem length_indices (n : ℕ) : (indices n : List ℚ).length = n := by
  rw [indices, List.length_map, List.length_range]

/-- The slope of a window is the coefficient of its line over the indices. -/
theorem slope_eq_ols {values : List ℚ} (hcount : 3 ≤ values.length) :
    ∃ a b, Features.slope values = .ok b ∧ ols values (indices values.length) = .ok (a, b) := by
  have hlength : values.length = (indices values.length : List ℚ).length :=
    (length_indices _).symm
  have hindices : (indices values.length : List ℚ) ≠ [] := by
    rw [← List.length_pos_iff, ← hlength]
    omega
  refine ⟨_, _, ?_, ols_rat hlength hcount (lt_comoment_indices hcount)⟩
  have htime : (((List.range values.length).map fun index => ((index : ℕ) : ℤ)).map
      fun index => (PyFloat.ofInt index : ℚ)) = indices values.length := by
    rw [List.map_map, indices]
    refine List.map_congr_left fun index _ => ?_
    rw [Function.comp_apply, ofInt_rat, Int.cast_natCast]
  have hslope : Features.slope values = (do
      let up ← covariance (indices values.length) values
      let down ← covariance (indices values.length) (indices values.length)
      .ok (up / down)) := by
    rw [Features.slope, if_neg (by omega), ← htime]
    simp only [List.bind_eq_flatMap, List.pure_def, List.map_eq_flatMap]
  rw [hslope, covariance_rat hlength.symm hindices, covariance_rat rfl hindices]
  simp only [bind, Except.bind, comoment_comm values]

theorem some_map_ok {α : Type} {call : Except PyError α} {result : Option α}
    (h : some <$> call = .ok result) : ∃ value, call = .ok value ∧ result = some value := by
  cases call with
  | error e => cases h
  | ok value => exact ⟨value, rfl, (Except.ok.inj h).symm⟩

/-- The value under the name of a reading is that of the reading. -/
theorem value_of_putAll {readings : List (Features.Reading ℚ)} {reading : Features.Reading ℚ}
    (hmem : reading ∈ readings) (hnodup : (readings.map (·.name)).Nodup) {result : Values ℚ}
    {value : ℚ} (h : (result.putAll readings).value reading.name = some value) :
    reading.value = some value := by
  rw [Values.value, Values.get?_putAll_of_mem hmem hnodup] at h
  exact Reading.value_publish h

section HedgeRatio

variable [PyMath ℚ] {version : FeatureSetVersion ℚ}

/-- `tuple(math.log(float(bar.close)) for bar in bars[-n - 1 :])`. -/
def logCloses (version : FeatureSetVersion ℚ) (bars : List Bar) : Except PyError (List ℚ) :=
  (lastN (version.statisticsBars + 1) bars).mapM fun bar => logOf (PyFloat.ofDecimal bar.close : ℚ)

/-- A window of enough bars has an observation for each bar but the last. -/
theorem length_logCloses {bars : List Bar} {logs : List ℚ} (h : logCloses version bars = .ok logs)
    (hready : version.statisticsBars + 1 ≤ bars.length) :
    logs.dropLast.length = version.statisticsBars := by
  have hlength := (related_of_mapM h).length_eq
  rw [lastN, List.length_drop] at hlength
  rw [List.length_dropLast]
  omega

/-- What a published hedge ratio is computed from. -/
theorem hedgeRatio_cases {left right : List Bar} {readings : List (Features.Reading ℚ)}
    (h : pairReadings version left right = .ok readings) {result : Values ℚ} {beta variance : ℚ}
    (hbeta : (result.putAll readings).value "pairs.hedge_ratio" = some beta)
    (hvariance : (result.putAll readings).value "pairs.log_variance_right" = some variance) :
    ∃ a b together, logCloses version left = .ok a ∧ logCloses version right = .ok b ∧
      version.statisticsBars + 1 ≤ left.length ∧ version.statisticsBars + 1 ≤ right.length ∧
      covariance a.dropLast b.dropLast = .ok together ∧
      covariance b.dropLast b.dropLast = .ok variance ∧ beta = together / variance := by
  obtain ⟨a, ha, h⟩ := bind_ok h
  obtain ⟨b, hb, h⟩ := bind_ok h
  obtain ⟨cov, hcov, h⟩ := bind_ok h
  obtain ⟨var, hvar, h⟩ := bind_ok h
  have hreadings := Except.ok.inj h
  have hnames : readings.map (·.name) = ["pairs.log_left", "pairs.log_right",
      "pairs.log_covariance", "pairs.log_variance_right", "pairs.hedge_ratio", "pairs.spread",
      "pairs.spread_mean", "pairs.spread_std", "pairs.zscore", "pairs.log_correlation",
      "pairs.stationarity_pvalue", "pairs.half_life"] := by
    rw [← hreadings]
    rfl
  have hnodup : (readings.map (·.name)).Nodup := by
    rw [hnames]
    decide
  have hvar_mem : ⟨"pairs.log_variance_right", var, .warmup⟩ ∈ readings := by
    rw [← hreadings]
    simp only [List.mem_cons, true_or, or_true]
  obtain rfl : var = some variance := value_of_putAll hvar_mem hnodup hvariance
  have hbeta_mem : ⟨"pairs.hedge_ratio", cov.bind fun cov => ratioTo cov (some variance),
      if version.statisticsBars + 1 ≤ left.length ∧ version.statisticsBars + 1 ≤ right.length then
        .zeroDenominator else .warmup⟩ ∈ readings := by
    rw [← hreadings]
    simp only [List.mem_cons, true_or, or_true]
  have hratio := value_of_putAll hbeta_mem hnodup hbeta
  by_cases hready : version.statisticsBars + 1 ≤ left.length ∧
      version.statisticsBars + 1 ≤ right.length
  · rw [if_pos hready] at hcov hvar
    obtain ⟨together, htogether, rfl⟩ := some_map_ok hcov
    obtain ⟨own, hown, heq⟩ := some_map_ok hvar
    obtain rfl := Option.some.inj heq
    refine ⟨a, b, together, ha, hb, hready.1, hready.2, htogether, hown, ?_⟩
    simp only [Option.bind_some, ratioTo] at hratio
    split at hratio
    · cases hratio
    · exact (Option.some.inj hratio).symm
  · rw [if_neg hready] at hvar
    cases hvar

/-- A published hedge ratio is the coefficient of the line over the same windows. -/
theorem hedgeRatio_eq_ols {left right : List Bar} {readings : List (Features.Reading ℚ)}
    (h : pairReadings version left right = .ok readings) {result : Values ℚ} {beta variance : ℚ}
    (hbeta : (result.putAll readings).value "pairs.hedge_ratio" = some beta)
    (hvariance : (result.putAll readings).value "pairs.log_variance_right" = some variance)
    (hcount : 3 ≤ version.statisticsBars) (hspread : 1 / 10 ^ 15 < variance) :
    ∃ a b intercept, logCloses version left = .ok a ∧ logCloses version right = .ok b ∧
      ols a.dropLast b.dropLast = .ok (intercept, beta) := by
  obtain ⟨a, b, together, ha, hb, hleft, hright, htogether, hown, rfl⟩ :=
    hedgeRatio_cases h hbeta hvariance
  obtain ⟨hlength, -, rfl⟩ := covariance_eq_ok htogether
  obtain ⟨-, -, rfl⟩ := covariance_eq_ok hown
  have hobservations := length_logCloses ha hleft
  exact ⟨a, b, _, ha, hb, ols_rat hlength (by omega) hspread⟩

end HedgeRatio

/-- In exact arithmetic `ols` finds the only line with the least squares, whose residuals
    cancel, so the spread of a fit has the intercept as its mean; the slope of a window is the
    coefficient over its indices, and the published hedge ratio is the coefficient over the
    windows it is computed from. -/
theorem least_squares_estimators :
    (∀ (left right : List ℚ) (a b : ℚ), ols left right = .ok (a, b) →
      LeastSquares left right a b) ∧
    (∀ [PyMath ℚ] [Platform] (training : List PairObservation) (cfg : PairsSettings ℚ)
      (diagnostics : PairDiagnostics ℚ) (fit : PairFit ℚ),
      fitPair training cfg diagnostics = .ok fit → fit.spreadMean = fit.intercept) ∧
    (∀ values : List ℚ, 3 ≤ values.length →
      ∃ a b, Features.slope values = .ok b ∧ ols values (indices values.length) = .ok (a, b)) ∧
    (∀ [PyMath ℚ] (version : FeatureSetVersion ℚ) (left right : List Bar)
      (readings : List (Features.Reading ℚ)), pairReadings version left right = .ok readings →
      ∀ (result : Values ℚ) (beta variance : ℚ),
        (result.putAll readings).value "pairs.hedge_ratio" = some beta →
        (result.putAll readings).value "pairs.log_variance_right" = some variance →
        3 ≤ version.statisticsBars → 1 / 10 ^ 15 < variance →
        ∃ a b intercept, logCloses version left = .ok a ∧ logCloses version right = .ok b ∧
          ols a.dropLast b.dropLast = .ok (intercept, beta)) :=
  ⟨fun _ _ _ _ => ols_leastSquares, fun _ _ _ _ => fitPair_spreadMean, fun _ => slope_eq_ols,
    fun _ _ _ _ h _ _ _ => hedgeRatio_eq_ols h⟩

end Godzilla.Alphas

namespace Godzilla.Alphas.Sample
open Features MarketData Misc Godzilla.Sample

theorem statistics_of_four : 2 ≤ 4 := by decide

/-- Statistics over four bars. -/
def fourBars : FeatureSetVersion ℚ :=
  { Features.Sample.version with statisticsBars := 4, statistics_pos := statistics_of_four }

/-- Five bars of a leg. -/
def legBars (token : String) (prices : List Nat) : List Bar :=
  prices.zipIdx.map fun entry => (pairBar token entry.2 entry.1).toBar

/-- A line with residuals, the fit of the sample pair, and two legs of which one moves twice as
    far as the other. -/
theorem least_squares_estimators_sample :
    LeastSquares [0, 1, 3] [0, 1, 2] (-1 / 6) (3 / 2) ∧
      (∃ fit, fitPair ((List.range 64).map pairRow) pairsSettings pairsEngine.diagnostics = .ok fit ∧
        fit.spreadMean = fit.intercept) ∧
      (∃ a b : ℚ, Features.slope [0, 1, 3] = .ok b ∧ ols [0, 1, 3] (indices 3) = .ok (a, b)) ∧
      ∃ a b intercept, logCloses fourBars (legBars "INFY" [1, 1, 4, 4, 2]) = .ok a ∧
        logCloses fourBars (legBars "TCS" [1, 1, 2, 2, 2]) = .ok b ∧
        ols a.dropLast b.dropLast = .ok (intercept, 2) := by
  obtain ⟨hols, hfit, hslope, hhedge⟩ := least_squares_estimators
  have hline : ols [0, 1, 3] [0, 1, 2] = .ok ((-1 / 6 : ℚ), (3 / 2 : ℚ)) := by decide +kernel
  have hfitted : (fitPair ((List.range 64).map pairRow) pairsSettings
      pairsEngine.diagnostics).isOk = true := by decide +kernel
  have hpublished : (pairReadings fourBars (legBars "INFY" [1, 1, 4, 4, 2])
      (legBars "TCS" [1, 1, 2, 2, 2])).toOption.map (fun readings =>
        ((Values.empty.putAll readings).value "pairs.hedge_ratio",
          (Values.empty.putAll readings).value "pairs.log_variance_right")) =
      some (some 2, some (logTwo / 2 * (logTwo / 2))) := by decide +kernel
  refine ⟨hols _ _ _ _ hline, ?_, hslope [0, 1, 3] (by decide), ?_⟩
  · cases h : fitPair ((List.range 64).map pairRow) pairsSettings pairsEngine.diagnostics with
    | error e => rw [h] at hfitted; cases hfitted
    | ok fit => exact ⟨fit, rfl, hfit _ _ _ _ h⟩
  · cases h : pairReadings fourBars (legBars "INFY" [1, 1, 4, 4, 2])
      (legBars "TCS" [1, 1, 2, 2, 2]) with
    | error e => rw [h] at hpublished; cases hpublished
    | ok readings =>
      rw [h] at hpublished
      obtain ⟨hbeta, hvariance⟩ := Prod.mk.inj (Option.some.inj hpublished)
      exact hhedge _ _ _ _ h _ _ _ hbeta hvariance (by decide) (by decide +kernel)

end Godzilla.Alphas.Sample
