import Mathlib.Algebra.BigOperators.Ring.List
import Mathlib.Algebra.Order.BigOperators.Group.List
import Mathlib.Algebra.Order.Field.Basic
import Mathlib.Data.List.Zip
import Mathlib.Tactic.FieldSimp
import Mathlib.Tactic.LinearCombination
import Mathlib.Tactic.Ring

/-!
# Least squares

A line through a sample of responses and regressors is the best one when its residuals
add up to zero and have no moment about the regressors: every other line then adds the
square of its distance from this one. The slope that divides the two comoments of the
sample has this property.
-/

namespace Misc

section Moments

variable {K : Type} [Field K]

def mean (xs : List K) : K := xs.sum / xs.length

/-- The mean of the products of the deviations from the two means. -/
def comoment (xs ys : List K) : K :=
  mean ((xs.zip ys).map fun p => (p.1 - mean xs) * (p.2 - mean ys))

theorem sum_map_sub {α : Type} (xs : List α) (f g : α → K) :
    (xs.map fun x => f x - g x).sum = (xs.map f).sum - (xs.map g).sum := by
  induction xs with
  | nil => simp
  | cons x xs ih =>
    simp only [List.map_cons, List.sum_cons, ih]
    ring

/-- A sum over the first parts of a sample. -/
theorem sum_zip_fst {xs ys : List K} (hlength : xs.length = ys.length) (f : K → K) :
    ((xs.zip ys).map fun p => f p.1).sum = (xs.map f).sum := by
  have hmap : (xs.zip ys).map (fun p => f p.1) = ((xs.zip ys).map Prod.fst).map f := by
    rw [List.map_map]
    rfl
  rw [hmap, List.map_fst_zip hlength.le]

/-- A sum over the second parts of a sample. -/
theorem sum_zip_snd {xs ys : List K} (hlength : xs.length = ys.length) (f : K → K) :
    ((xs.zip ys).map fun p => f p.2).sum = (ys.map f).sum := by
  have hmap : (xs.zip ys).map (fun p => f p.2) = ((xs.zip ys).map Prod.snd).map f := by
    rw [List.map_map]
    rfl
  rw [hmap, List.map_snd_zip hlength.ge]

theorem comoment_comm (xs ys : List K) : comoment xs ys = comoment ys xs := by
  rw [comoment, comoment, ← List.zip_swap ys xs, List.map_map]
  congr 1
  refine List.map_congr_left ?_
  intro p _
  exact mul_comm _ _

theorem zip_self {α : Type} (xs : List α) : xs.zip xs = xs.map fun x => (x, x) := by
  have hids := List.zip_map' (f := id) (g := id) (l := xs)
  rwa [List.map_id] at hids

theorem comoment_self (xs : List K) :
    comoment xs xs = mean (xs.map fun x => (x - mean xs) * (x - mean xs)) := by
  rw [comoment, zip_self, List.map_map]
  rfl

variable [CharZero K]

theorem length_mul_mean {xs : List K} (hne : xs ≠ []) : xs.length * mean xs = xs.sum := by
  have hpos : (xs.length : K) ≠ 0 := by
    exact_mod_cast mt List.length_eq_zero_iff.mp hne
  rw [mean]
  field_simp

/-- The deviations from the mean cancel. -/
theorem sum_deviations {xs : List K} (hne : xs ≠ []) : (xs.map fun x => x - mean xs).sum = 0 := by
  rw [sum_map_sub, List.map_id', List.map_const', List.sum_replicate, nsmul_eq_mul,
    length_mul_mean hne, sub_self]

/-- The products of the deviations add up to their comoment for each pair. -/
theorem sum_products {xs ys : List K} (hlength : xs.length = ys.length) (hne : xs ≠ []) :
    ((xs.zip ys).map fun p => (p.1 - mean xs) * (p.2 - mean ys)).sum =
      xs.length * comoment xs ys := by
  have hcount : ((xs.zip ys).map fun p => (p.1 - mean xs) * (p.2 - mean ys)).length =
      xs.length := by
    rw [List.length_map, List.length_zip, ← hlength, min_self]
  have hproducts : (xs.zip ys).map (fun p => (p.1 - mean xs) * (p.2 - mean ys)) ≠ [] := by
    rw [← List.length_pos_iff, hcount]
    exact List.length_pos_of_ne_nil hne
  rw [comoment, ← length_mul_mean hproducts, hcount]

/-- Equal values have no second moment. -/
theorem comoment_self_of_const {xs : List K} (hne : xs ≠ []) {c : K} (h : ∀ x ∈ xs, x = c) :
    comoment xs xs = 0 := by
  have hpos : (xs.length : K) ≠ 0 := by
    exact_mod_cast mt List.length_eq_zero_iff.mp hne
  have hreplicate : xs = List.replicate xs.length c := List.eq_replicate_iff.mpr ⟨rfl, h⟩
  have hmean : mean xs = c := by
    have hsum : xs.sum = xs.length * c := by
      rw [hreplicate, List.sum_replicate, nsmul_eq_mul, List.length_replicate]
    rw [mean, hsum]
    field_simp
  have hzero : ∀ x ∈ xs, (x - mean xs) * (x - mean xs) = 0 := by
    intro x hx
    rw [hmean, h x hx, sub_self, mul_zero]
  rw [comoment_self, List.map_congr_left hzero, mean]
  simp

/-- The second moment is the mean of the squares less the square of the mean. -/
theorem comoment_self_eq {xs : List K} (hne : xs ≠ []) :
    comoment xs xs = mean (xs.map fun x => x * x) - mean xs * mean xs := by
  have hpos : (xs.length : K) ≠ 0 := by
    exact_mod_cast mt List.length_eq_zero_iff.mp hne
  have hsum : (xs.map fun x => (x - mean xs) * (x - mean xs)).sum =
      (xs.map fun x => x * x).sum - mean xs * xs.sum := by
    have hterm : ∀ x ∈ xs, (x - mean xs) * (x - mean xs) = (x * x - mean xs * x) -
        mean xs * (x - mean xs) := by
      intro x _
      ring
    rw [List.map_congr_left hterm, sum_map_sub, sum_map_sub, List.sum_map_mul_left,
      List.sum_map_mul_left, sum_deviations hne, List.map_id']
    ring
  rw [comoment_self]
  simp only [mean, List.length_map] at hsum ⊢
  rw [hsum]
  field_simp

/-- The first natural numbers. -/
def indices (n : ℕ) : List K := (List.range n).map fun i : ℕ => (i : K)

theorem sum_indices (n : ℕ) : (indices n : List K).sum = n * (n - 1) / 2 := by
  induction n with
  | zero => simp [indices]
  | succ n ih =>
    rw [indices] at ih ⊢
    rw [List.range_succ, List.map_append, List.sum_append, ih, List.map_singleton,
      List.sum_singleton, Nat.cast_succ]
    ring

theorem sum_indices_squares (n : ℕ) :
    ((indices n : List K).map fun x => x * x).sum = n * (n - 1) * (2 * n - 1) / 6 := by
  induction n with
  | zero => simp [indices]
  | succ n ih =>
    rw [indices, List.map_map] at ih ⊢
    rw [List.range_succ, List.map_append, List.sum_append, ih, List.map_singleton,
      List.sum_singleton, Nat.cast_succ, Function.comp_apply]
    ring

/-- The second moment of the first natural numbers. -/
theorem comoment_indices {n : ℕ} (hn : n ≠ 0) :
    comoment (indices n : List K) (indices n) = (n * n - 1) / 12 := by
  have hlength : (indices n : List K).length = n := by rw [indices, List.length_map, List.length_range]
  have hne : (indices n : List K) ≠ [] := by
    rw [← List.length_pos_iff, hlength]
    omega
  have hpos : (n : K) ≠ 0 := Nat.cast_ne_zero.mpr hn
  rw [comoment_self_eq hne, mean, mean, List.length_map, hlength, sum_indices,
    sum_indices_squares]
  field_simp
  ring

end Moments

section Lines

variable {K : Type} [Field K]

/-- What a line leaves of a response at its regressor. -/
def residual (a b : K) (p : K × K) : K := p.1 - a - b * p.2

def squares (a b : K) (sample : List (K × K)) : K :=
  (sample.map fun p => residual a b p * residual a b p).sum

/-- The residuals of a line cancel, also when they are weighted by the regressors. -/
structure NormalEquations (a b : K) (sample : List (K × K)) : Prop where
  balanced : (sample.map (residual a b)).sum = 0
  moments : (sample.map fun p => residual a b p * p.2).sum = 0

variable {a b : K} {sample : List (K × K)}

/-- Another line adds the squares of its distances from this one. -/
theorem NormalEquations.squares_eq (h : NormalEquations a b sample) (a' b' : K) :
    squares a' b' sample = squares a b sample +
      (sample.map fun p => ((a - a') + (b - b') * p.2) * ((a - a') + (b - b') * p.2)).sum := by
  have hterm : ∀ p ∈ sample, residual a' b' p * residual a' b' p =
      residual a b p * residual a b p +
        (((a - a') + (b - b') * p.2) * ((a - a') + (b - b') * p.2) +
          (2 * (a - a') * residual a b p + 2 * (b - b') * (residual a b p * p.2))) := by
    intro p _
    simp only [residual]
    ring
  rw [squares, squares, List.map_congr_left hterm, List.sum_map_add, List.sum_map_add,
    List.sum_map_add, List.sum_map_mul_left, List.sum_map_mul_left, h.balanced, h.moments]
  ring

variable [LinearOrder K] [IsStrictOrderedRing K]

/-- No line has smaller squares. -/
theorem NormalEquations.squares_le (h : NormalEquations a b sample) (a' b' : K) :
    squares a b sample ≤ squares a' b' sample := by
  rw [h.squares_eq a' b']
  refine le_add_of_nonneg_right (List.sum_nonneg ?_)
  intro x hx
  obtain ⟨p, -, rfl⟩ := List.mem_map.mp hx
  exact mul_self_nonneg _

/-- Squares that add up to zero are zero. -/
theorem eq_zero_of_sum_squares {α : Type} {xs : List α} {f : α → K}
    (h : (xs.map fun x => f x * f x).sum = 0) : ∀ x ∈ xs, f x = 0 := by
  intro x hx
  have hnonneg : ∀ y ∈ xs.map fun x => f x * f x, 0 ≤ y := by
    intro y hy
    obtain ⟨z, -, rfl⟩ := List.mem_map.mp hy
    exact mul_self_nonneg _
  have hsquare : f x * f x = 0 := List.all_zero_of_le_zero_le_of_sum_eq_zero hnonneg h
    (List.mem_map_of_mem (f := fun x => f x * f x) hx)
  exact mul_self_eq_zero.mp hsquare

/-- Only one line has the least squares when the regressors are not all the same. -/
theorem NormalEquations.unique (h : NormalEquations a b sample) (hne : sample ≠ [])
    (hspread : ∀ c, ∃ p ∈ sample, p.2 ≠ c) {a' b' : K}
    (heq : squares a' b' sample = squares a b sample) : a' = a ∧ b' = b := by
  rw [h.squares_eq a' b', add_eq_left] at heq
  have hdistance := eq_zero_of_sum_squares heq
  have hslope : b - b' = 0 := by
    by_contra hslope
    obtain ⟨p, hp, hother⟩ := hspread (-(a - a') / (b - b'))
    apply hother
    rw [eq_div_iff hslope]
    linear_combination hdistance p hp
  obtain ⟨p, hp⟩ := List.exists_mem_of_ne_nil sample hne
  have hstart := hdistance p hp
  rw [hslope, zero_mul, add_zero] at hstart
  exact ⟨(sub_eq_zero.mp hstart).symm, (sub_eq_zero.mp hslope).symm⟩

/-- The line of the two comoments meets the normal equations. -/
theorem normalEquations_of_comoments {ys xs : List K} (hlength : ys.length = xs.length)
    (hne : ys ≠ []) (hspread : comoment xs xs ≠ 0) :
    NormalEquations (mean ys - comoment ys xs / comoment xs xs * mean xs)
      (comoment ys xs / comoment xs xs) (ys.zip xs) := by
  have hne' : xs ≠ [] := by
    rintro rfl
    exact hne (List.length_eq_zero_iff.mp hlength)
  have hpos : (ys.length : K) ≠ 0 := by
    exact_mod_cast mt List.length_eq_zero_iff.mp hne
  -- the slope, which is only ever used through the two moments
  obtain ⟨b, hb⟩ : ∃ b, b = comoment ys xs / comoment xs xs := ⟨_, rfl⟩
  rw [← hb]
  have hbalanced : ((ys.zip xs).map (residual (mean ys - b * mean xs) b)).sum = 0 := by
    have hterm : ∀ p ∈ ys.zip xs, residual (mean ys - b * mean xs) b p =
        (p.1 - mean ys) - b * (p.2 - mean xs) := by
      intro p _
      simp only [residual]
      ring
    rw [List.map_congr_left hterm, sum_map_sub, List.sum_map_mul_left,
      sum_zip_fst hlength fun y => y - mean ys, sum_zip_snd hlength fun x => x - mean xs,
      sum_deviations hne, sum_deviations hne', mul_zero, sub_zero]
  refine ⟨hbalanced, ?_⟩
  have hterm : ∀ p ∈ ys.zip xs, residual (mean ys - b * mean xs) b p * p.2 =
      ((p.1 - mean ys) * (p.2 - mean xs) - b * ((p.2 - mean xs) * (p.2 - mean xs))) +
        mean xs * residual (mean ys - b * mean xs) b p := by
    intro p _
    simp only [residual]
    ring
  have hown : ((ys.zip xs).map fun p => (p.2 - mean xs) * (p.2 - mean xs)).sum =
      ys.length * comoment xs xs := by
    rw [hlength, ← sum_products rfl hne', sum_zip_snd hlength fun x => (x - mean xs) * (x - mean xs),
      zip_self, List.map_map]
    rfl
  rw [List.map_congr_left hterm, List.sum_map_add, sum_map_sub, List.sum_map_mul_left,
    List.sum_map_mul_left, hbalanced, sum_products hlength hne, hown, hb]
  field_simp
  ring

end Lines

end Misc
