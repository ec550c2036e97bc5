import Godzilla.Core.Float

/-!
# What rounding keeps

Rounding is monotone, and a sum or a product that is a float is not rounded. `RoundedFloat`
has what follows for floats that are not negative; the exact carrier has it trivially.
-/

namespace Godzilla

/-- The laws of rounded arithmetic on floats that are not negative. -/
class RoundedFloat (F : Type) [PyFloat F] : Prop where
  zero_add' : ∀ x : F, 0 + x = x
  add_mono : ∀ {a b c d : F}, 0 ≤ a → a ≤ b → 0 ≤ c → c ≤ d → a + c ≤ b + d
  mul_range : ∀ {a b : F}, 0 ≤ a → 0 ≤ b → b ≤ 1 → 0 ≤ a * b ∧ a * b ≤ a
  div_nonneg' : ∀ {a b : F}, 0 ≤ a → 0 < b → 0 ≤ a / b
  isFinite_unit : ∀ {x : F}, 0 ≤ x → x ≤ 1 → PyFloat.isFinite x = true
  /-- What lies between one and what `math.isclose` takes for one is close to it as well. -/
  isClose_one : ∀ {x y tolerance : F}, PyFloat.IsClose y 1 tolerance → 1 ≤ x → x ≤ y →
    PyFloat.IsClose 1 x tolerance

instance exactRounded : RoundedFloat ℚ where
  zero_add' := zero_add
  add_mono _ hab _ hcd := add_le_add hab hcd
  mul_range ha hb hb1 := ⟨mul_nonneg ha hb, mul_le_of_le_one_right ha hb1⟩
  div_nonneg' ha hb := div_nonneg ha hb.le
  isFinite_unit _ _ := rfl
  isClose_one := by
    intro x y tolerance hclose hx hy
    have hy1 : (1 : ℚ) ≤ y := hx.trans hy
    rcases hclose with hone | hclose
    · exact .inl (le_antisymm hx (hone ▸ hy))
    refine .inr ?_
    simp only [PyFloat.abs, ofDecimal_rat] at hclose ⊢
    have hgap : max (y - 1) (-(y - 1)) = y - 1 := max_eq_left (by linarith)
    have hgap' : max (1 - x) (-(1 - x)) = x - 1 := by
      rw [max_eq_right (by linarith), neg_sub]
    have habs : ∀ z : ℚ, 1 ≤ z → max z (-z) = z := fun z hz => max_eq_left (by linarith)
    rw [hgap, habs y hy1, habs 1 le_rfl, max_eq_left hy1, le_max_iff] at hclose
    rw [hgap', habs x hx, habs 1 le_rfl, max_eq_right hx, le_max_iff]
    rcases hclose with hrelative | habsolute
    · left
      linarith
    · right
      linarith

namespace PyFloat

variable {F : Type} [PyFloat F] [RoundedFloat F]

/-- Sums of terms that are not negative follow their terms, from any start. -/
theorem foldl_add_mono {xs ys : List F} (h : List.Forall₂ (fun x y => 0 ≤ x ∧ x ≤ y) xs ys) :
    ∀ {a b : F}, 0 ≤ a → a ≤ b →
      0 ≤ xs.foldl (· + ·) a ∧ xs.foldl (· + ·) a ≤ ys.foldl (· + ·) b := by
  induction h with
  | nil => exact fun ha hab => ⟨ha, hab⟩
  | @cons x y xs ys hxy _ ih =>
    intro a b ha hab
    refine ih ?_ (RoundedFloat.add_mono ha hab hxy.1 hxy.2)
    have hzero := RoundedFloat.add_mono (le_refl (0 : F)) ha (le_refl (0 : F)) hxy.1
    rwa [RoundedFloat.zero_add'] at hzero

theorem sum_mono {xs ys : List F} (h : List.Forall₂ (fun x y => 0 ≤ x ∧ x ≤ y) xs ys) :
    0 ≤ PyFloat.sum xs ∧ PyFloat.sum xs ≤ PyFloat.sum ys :=
  foldl_add_mono h (le_refl 0) (le_refl 0)

/-- A sum with a positive last term is positive. -/
theorem add_pos_right {a b : F} (ha : 0 ≤ a) (hb : 0 < b) : 0 < a + b := by
  have hle := RoundedFloat.add_mono (le_refl (0 : F)) ha hb.le (le_refl b)
  rw [RoundedFloat.zero_add'] at hle
  exact hb.trans_le hle

end PyFloat

end Godzilla
