import Godzilla.Alphas.Ranking
import Godzilla.Misc.MidRanks
import Mathlib.Algebra.BigOperators.Ring.Finset
import Mathlib.Algebra.BigOperators.Ring.List
import Mathlib.Data.Fin.VecNotation
import Mathlib.Data.List.FinRange
import Mathlib.Tactic.FieldSimp

/-!
# The laws of the ranks

In exact arithmetic the rank that `percentiles` (`alphas/ranking.py:6-13`) gives a value is
its mid-rank over twice the number of values. Ranks therefore move with their values, see
nothing of the values but their order, and have the mean one half.
-/

namespace Godzilla.Alphas
open Godzilla Misc

theorem percentileIn_eq_midRank (values : List ℚ) (value : ℚ) :
    percentileIn values value = midRank values value / (2 * values.length) := by
  have hhalf : ∀ a b n : ℚ, (a + 1 / 2 * b) / n = (2 * a + b) / (2 * n) := by
    intro a b n
    rw [← mul_div_mul_left _ n two_ne_zero]
    ring
  rw [midRank_eq_countP]
  simp only [percentileIn, ofInt_rat, ofDecimal_rat, Int.cast_natCast, Nat.cast_add, Nat.cast_mul,
    Nat.cast_ofNat]
  exact hhalf _ _ _

section Laws

variable {values : List ℚ}

theorem percentileIn_perm {others : List ℚ} (h : values.Perm others) (value : ℚ) :
    percentileIn values value = percentileIn others value := by
  rw [percentileIn_eq_midRank, percentileIn_eq_midRank, midRank_perm h, h.length_eq]

theorem percentileIn_strictMonoOn {f : ℚ → ℚ} (hf : StrictMonoOn f {value | value ∈ values})
    {value : ℚ} (h : value ∈ values) :
    percentileIn (values.map f) (f value) = percentileIn values value := by
  rw [percentileIn_eq_midRank, percentileIn_eq_midRank, midRank_map_strictMonoOn hf h,
    List.length_map]

theorem percentileIn_lt_iff {v w : ℚ} (hv : v ∈ values) (hw : w ∈ values) :
    percentileIn values v < percentileIn values w ↔ v < w := by
  have hpos : (0 : ℚ) < 2 * values.length := by
    have hlength := List.length_pos_of_mem hv
    positivity
  rw [percentileIn_eq_midRank, percentileIn_eq_midRank, div_lt_div_iff_of_pos_right hpos,
    Nat.cast_lt, midRank_lt_iff hv hw]

theorem percentileIn_eq_iff {v w : ℚ} (hv : v ∈ values) (hw : w ∈ values) :
    percentileIn values v = percentileIn values w ↔ v = w := by
  constructor
  · intro heq
    rcases lt_trichotomy v w with h | h | h
    · exact absurd heq (ne_of_lt ((percentileIn_lt_iff hv hw).mpr h))
    · exact h
    · exact absurd heq (ne_of_gt ((percentileIn_lt_iff hw hv).mpr h))
  · exact congrArg _

/-- No value is ranked below half a place, or above the last half place. -/
theorem percentileIn_bounds {value : ℚ} (h : value ∈ values) :
    1 / (2 * values.length) ≤ percentileIn values value ∧
      percentileIn values value ≤ 1 - 1 / (2 * values.length) := by
  obtain ⟨hlow, hhigh⟩ := midRank_range h
  have hpos : (0 : ℚ) < 2 * values.length := by
    have hlength := List.length_pos_of_mem h
    positivity
  have hlow' : (1 : ℚ) ≤ midRank values value := by exact_mod_cast hlow
  have hhigh' : (midRank values value : ℚ) + 1 ≤ 2 * values.length := by exact_mod_cast hhigh
  rw [percentileIn_eq_midRank]
  constructor
  · exact div_le_div_of_nonneg_right hlow' hpos.le
  · rw [le_sub_iff_add_le, ← add_div]
    exact div_le_one_of_le₀ hhigh' hpos.le

/-- The ranks of a list add up to half its length. -/
theorem sum_percentileIn (values : List ℚ) :
    (values.map (percentileIn values)).sum = values.length / 2 := by
  have hsum : (values.map fun value => (midRank values value : ℚ)).sum =
      values.length * values.length := by
    rw [← Nat.cast_mul, ← sum_midRank, Nat.cast_list_sum, List.map_map]
    rfl
  have hranks : values.map (percentileIn values) =
      values.map fun value => (midRank values value : ℚ) * (2 * values.length : ℚ)⁻¹ := by
    refine List.map_congr_left fun value _ => ?_
    rw [percentileIn_eq_midRank, div_eq_mul_inv]
  rw [hranks, List.sum_map_mul_right, hsum]
  rcases eq_or_ne (values.length : ℚ) 0 with hzero | hne
  · simp [hzero]
  · field_simp

end Laws

/-- What the ranks of a tuple say about its values. -/
structure RankLaws {n : ℕ} (v p : Fin n → ℚ) : Prop where
  equivariant : ∀ σ : Equiv.Perm (Fin n), percentiles (List.ofFn (v ∘ σ)) = .ok (List.ofFn (p ∘ σ))
  unscaled : ∀ f : ℚ → ℚ, StrictMonoOn f (Set.range v) →
    percentiles (List.ofFn (f ∘ v)) = .ok (List.ofFn p)
  reflected : percentiles (List.ofFn fun i => -v i) = .ok (List.ofFn fun i => 1 - p i)
  mean : PyFloat.fmean (List.ofFn p) = 1 / 2
  bounds : ∀ i, 1 / (2 * n) ≤ p i ∧ p i ≤ 1 - 1 / (2 * n)
  lt_iff : ∀ i j, p i < p j ↔ v i < v j
  eq_iff : ∀ i j, p i = p j ↔ v i = v j

theorem percentiles_ofFn {n : ℕ} (hn : 0 < n) (v : Fin n → ℚ) :
    percentiles (List.ofFn v) = .ok (List.ofFn fun i => percentileIn (List.ofFn v) (v i)) := by
  have hne : List.ofFn v ≠ [] := by
    rw [ne_eq, List.ofFn_eq_nil_iff]
    omega
  rw [percentiles_rat hne, List.map_ofFn]
  rfl

/-- The ranks of a nonempty tuple move with its values, do not change when the values are
    rescaled in order, are turned round with them, have the mean one half, stay half a place
    away from zero and one, and compare as the values do. -/
theorem percentiles_laws {n : ℕ} (hn : 0 < n) (v : Fin n → ℚ) :
    ∃ p : Fin n → ℚ, percentiles (List.ofFn v) = .ok (List.ofFn p) ∧ RankLaws v p := by
  have hmem : ∀ i, v i ∈ List.ofFn v := fun i => List.mem_ofFn.mpr ⟨i, rfl⟩
  have hne : List.ofFn v ≠ [] := List.ne_nil_of_mem (hmem ⟨0, hn⟩)
  refine ⟨fun i => percentileIn (List.ofFn v) (v i), percentiles_ofFn hn v, ?_⟩
  constructor
  case equivariant =>
    intro σ
    rw [percentiles_ofFn hn]
    simp only [percentileIn_perm (σ.ofFn_comp_perm v)]
    rfl
  case unscaled =>
    intro f hf
    have hmono : StrictMonoOn f {value | value ∈ List.ofFn v} := by
      have hset : {value | value ∈ List.ofFn v} = Set.range v := Set.ext fun _ => List.mem_ofFn
      rwa [hset]
    rw [percentiles_ofFn hn, ← List.map_ofFn]
    simp only [Function.comp_apply, percentileIn_strictMonoOn hmono (hmem _)]
  case reflected =>
    rw [percentiles_ofFn hn]
    have hturned : List.ofFn (fun i => -v i) = (List.ofFn v).map fun value => -value := by
      rw [List.map_ofFn]
      rfl
    simp only [hturned, percentileIn_strictAnti (fun _ _ hlt => neg_lt_neg hlt) hne]
  case mean =>
    have hlist : (List.ofFn fun i => percentileIn (List.ofFn v) (v i)) =
        (List.ofFn v).map (percentileIn (List.ofFn v)) := by
      rw [List.map_ofFn]
      rfl
    have hpos : (n : ℚ) ≠ 0 := by exact_mod_cast hn.ne'
    rw [hlist, PyFloat.fmean, fsum_rat, sum_percentileIn, ofInt_rat, List.length_map,
      List.length_ofFn, Int.cast_natCast]
    field_simp
  case bounds =>
    intro i
    have hbounds := percentileIn_bounds (hmem i)
    rwa [List.length_ofFn] at hbounds
  case lt_iff => exact fun i j => percentileIn_lt_iff (hmem i) (hmem j)
  case eq_iff => exact fun i j => percentileIn_eq_iff (hmem i) (hmem j)

end Godzilla.Alphas

namespace Godzilla.Alphas.Sample

theorem percentiles_laws_ties : ∃ p : Fin 3 → ℚ,
    percentiles (List.ofFn ![(2 : ℚ), 1, 2]) = .ok (List.ofFn p) ∧ RankLaws ![2, 1, 2] p :=
  percentiles_laws (by decide) ![2, 1, 2]

end Godzilla.Alphas.Sample
