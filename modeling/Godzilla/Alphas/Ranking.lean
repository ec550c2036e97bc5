import Godzilla.Core.Float
import Godzilla.Core.Platform

/-!
# Cross-sectional ranks

`alphas/ranking.py`: tie-aware mid-distribution ranks, and a return without its last
part.
-/

namespace Godzilla.Alphas
open Godzilla

variable {F : Type} [PyFloat F]

/-- The rank of a value: the part of the values below it, and half of its ties. -/
def percentileIn (values : List F) (value : F) : F :=
  (PyFloat.ofInt (values.countP fun other => decide (other < value)) +
      PyFloat.ofDecimal (1 / 2) * PyFloat.ofInt (values.countP fun other => decide (other = value))) /
    PyFloat.ofInt values.length

/-- `percentiles` (`alphas/ranking.py:6-13`). -/
def percentiles (values : List F) : Except PyError (List F) :=
  if values = [] ∨ ∃ value ∈ values, PyFloat.isFinite value = false then
    .error (.valueError "ranks require finite, nonempty observations")
  else .ok (values.map (percentileIn values))

/-- `without_recent` (`alphas/ranking.py:16-19`). -/
def withoutRecent (totalReturn recentReturn : F) : Except PyError F :=
  if min totalReturn recentReturn ≤ -1 then .error (.valueError "price returns must exceed -1")
  else .ok ((1 + totalReturn) / (1 + recentReturn) - 1)

/-- The counts below and beside a value are of separate elements. -/
theorem countP_lt_add_eq (values : List ℚ) (value : ℚ) :
    values.countP (fun other => decide (other < value)) +
      values.countP (fun other => decide (other = value)) =
        values.countP fun other => decide (other ≤ value) := by
  induction values with
  | nil => rfl
  | cons x xs ih =>
    simp only [List.countP_cons]
    rcases lt_trichotomy x value with h | h | h
    · simp [h, h.le, ne_of_lt h]
      omega
    · simp [h]
      omega
    · simp [not_lt.mpr h.le, not_le.mpr h, ne_of_gt h]
      omega

/-- In exact arithmetic a rank lies between zero and one. -/
theorem percentileIn_range (values : List ℚ) (value : ℚ) :
    0 ≤ percentileIn values value ∧ percentileIn values value ≤ 1 := by
  have hdisjoint : values.countP (fun other => decide (other < value)) +
      values.countP (fun other => decide (other = value)) ≤ values.length := by
    rw [countP_lt_add_eq]
    exact List.countP_le_length
  have hcount : ((values.countP (fun other => decide (other < value)) : ℕ) : ℚ) +
      (values.countP (fun other => decide (other = value)) : ℕ) ≤ values.length := by
    exact_mod_cast hdisjoint
  have hequal : (0 : ℚ) ≤ (values.countP (fun other => decide (other = value)) : ℕ) := by
    positivity
  simp only [percentileIn, ofInt_rat, ofDecimal_rat, Int.cast_natCast]
  constructor
  · positivity
  · apply div_le_one_of_le₀ _ (by positivity)
    linarith

/-- In exact arithmetic a greater value has no smaller rank. -/
theorem percentileIn_mono (values : List ℚ) {v w : ℚ} (h : v ≤ w) :
    percentileIn values v ≤ percentileIn values w := by
  rcases h.eq_or_lt with rfl | hlt
  · exact le_rfl
  · have hbelow : values.countP (fun other => decide (other ≤ v)) ≤
        values.countP fun other => decide (other < w) := by
      apply List.countP_mono_left
      intro other _ hle
      exact decide_eq_true ((of_decide_eq_true hle).trans_lt hlt)
    rw [← countP_lt_add_eq] at hbelow
    have hcount : ((values.countP (fun other => decide (other < v)) : ℕ) : ℚ) +
        (values.countP (fun other => decide (other = v)) : ℕ) ≤
          (values.countP (fun other => decide (other < w)) : ℕ) := by
      exact_mod_cast hbelow
    have hbeside : (0 : ℚ) ≤ (values.countP (fun other => decide (other = v)) : ℕ) := by
      positivity
    have hbeside' : (0 : ℚ) ≤ (values.countP (fun other => decide (other = w)) : ℕ) := by
      positivity
    simp only [percentileIn, ofInt_rat, ofDecimal_rat, Int.cast_natCast]
    apply div_le_div_of_nonneg_right _ (by positivity)
    linarith

/-- In exact arithmetic the rank of a value among values that are turned round is the rest of
    its rank. -/
theorem percentileIn_strictAnti {f : ℚ → ℚ} (hf : StrictAnti f) {values : List ℚ}
    (hne : values ≠ []) (value : ℚ) :
    percentileIn (values.map f) (f value) = 1 - percentileIn values value := by
  have hless : (values.map f).countP (fun other => decide (other < f value)) =
      values.countP fun other => decide (¬ other ≤ value) := by
    rw [List.countP_map]
    apply List.countP_congr
    intro other _
    simp [hf.lt_iff_gt]
  have hequal : (values.map f).countP (fun other => decide (other = f value)) =
      values.countP fun other => decide (other = value) := by
    rw [List.countP_map]
    apply List.countP_congr
    intro other _
    simp [hf.injective.eq_iff]
  have htotal := List.length_eq_countP_add_countP (l := values)
    fun other => decide (other ≤ value)
  simp only [decide_eq_true_eq] at htotal
  rw [← countP_lt_add_eq] at htotal
  have hcount : (values.length : ℚ) =
      ((values.countP (fun other => decide (other < value)) : ℕ) : ℚ) +
        (values.countP (fun other => decide (other = value)) : ℕ) +
          (values.countP (fun other => decide (¬ other ≤ value)) : ℕ) := by
    exact_mod_cast htotal
  have hpos : (values.length : ℚ) ≠ 0 := by
    exact_mod_cast mt List.length_eq_zero_iff.mp hne
  simp only [percentileIn, ofInt_rat, ofDecimal_rat, Int.cast_natCast, hless, hequal,
    List.length_map]
  rw [eq_sub_iff_add_eq, ← add_div, div_eq_one_iff_eq hpos, hcount]
  ring

theorem percentiles_rat {values : List ℚ} (h : values ≠ []) :
    percentiles values = .ok (values.map (percentileIn values)) := by
  rw [percentiles, if_neg]
  rintro (hempty | ⟨value, -, hfinite⟩)
  · exact h hempty
  · cases hfinite

end Godzilla.Alphas
