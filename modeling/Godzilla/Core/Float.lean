import Mathlib.Algebra.Order.Field.Rat
import Mathlib.Data.Rat.Floor
import Mathlib.Tactic.Linarith
import Mathlib.Tactic.Positivity
import Mathlib.Tactic.FieldSimp

/-!
# Binary floating point as an ordered carrier

Python `float` values are modelled by a carrier `F`: the floats other than NaN, infinities
included. They are linearly ordered, their comparisons and negation are exact, and so are the
integers up to 2^53; those laws are part of the class, and a product that is positive has
factors of one sign. Addition, subtraction, multiplication, division and `math.fsum` round,
and the class gives them no other law. Where the code goes on with what may be NaN, `sub?`
and `mul?` tell when it is.
`Decimal` values are exact rationals. The instance on `ℚ` is the exact reading of the
arithmetic.
-/

namespace Godzilla

/-- An integer that a double holds exactly, as it does every smaller one. -/
def IsFloatInt (n : Int) : Prop := n.natAbs ≤ 2 ^ 53

instance (n : Int) : Decidable (IsFloatInt n) := inferInstanceAs (Decidable (_ ≤ _))

/-- The `float` operations the code uses. `total_seconds()` is read exactly, as a double has
    it below 2^33 seconds: `seconds` compares with an integer as its microseconds do. -/
class PyFloat (F : Type) extends LinearOrder F, Add F, Sub F, Mul F, Div F, Neg F where
  /-- `float(n)`. -/
  ofInt : Int → F
  /-- `timedelta.total_seconds()` of a number of microseconds. -/
  seconds : Int → F
  /-- `float(Decimal)`. -/
  ofDecimal : ℚ → F
  /-- `Decimal(str(x))`. -/
  toDecimal : F → ℚ
  /-- `math.isfinite`. -/
  isFinite : F → Bool
  /-- `math.fsum`. -/
  fsum : List F → F
  ofInt_le_ofInt : ∀ {a b : Int}, IsFloatInt a → IsFloatInt b → (ofInt a ≤ ofInt b ↔ a ≤ b)
  seconds_le_ofInt : ∀ {t n : Int}, seconds t ≤ ofInt n ↔ t ≤ n * 1000000
  ofInt_le_seconds : ∀ {t n : Int}, ofInt n ≤ seconds t ↔ n * 1000000 ≤ t
  neg_le_neg_iff' : ∀ {a b : F}, -a ≤ -b ↔ b ≤ a
  neg_neg' : ∀ a : F, -(-a) = a
  neg_ofInt : ∀ {n : Int}, IsFloatInt n → -(ofInt n) = ofInt (-n)
  toDecimal_mono : ∀ {a b : F}, a ≤ b → toDecimal a ≤ toDecimal b
  toDecimal_ofInt : ∀ {n : Int}, IsFloatInt n → toDecimal (ofInt n) = n
  pos_of_mul_pos : ∀ {a b : F}, ofInt 0 < a * b →
    (ofInt 0 < a ∧ ofInt 0 < b) ∨ (a < ofInt 0 ∧ b < ofInt 0)

namespace PyFloat

/-- Integer literals inside float arithmetic. -/
instance (priority := low) instOfNat {F : Type} [PyFloat F] {n : Nat} : OfNat F n := ⟨ofInt n⟩

variable {F : Type} [PyFloat F]

theorem ofNat_eq (n : Nat) : (OfNat.ofNat n : F) = ofInt n := rfl

theorem ofInt_inj {a b : Int} (ha : IsFloatInt a) (hb : IsFloatInt b) :
    (ofInt a : F) = ofInt b ↔ a = b := by
  constructor
  · intro h
    exact le_antisymm ((ofInt_le_ofInt ha hb).mp (le_of_eq h))
      ((ofInt_le_ofInt hb ha).mp (le_of_eq h.symm))
  · rintro rfl; rfl

theorem zero_le_one : (0 : F) ≤ 1 :=
  (ofInt_le_ofInt (by decide) (by decide)).mpr (by decide)

theorem zero_ne_one : (0 : F) ≠ 1 := fun h =>
  absurd ((ofInt_inj (by decide) (by decide)).mp h) (by decide)

theorem zero_le_seconds {t : Int} : (0 : F) ≤ seconds t ↔ 0 ≤ t := by
  rw [ofNat_eq]; simpa using ofInt_le_seconds (F := F) (t := t) (n := 0)

theorem toDecimal_nonneg {x : F} (h : 0 ≤ x) : 0 ≤ toDecimal x := by
  have := toDecimal_mono h
  rwa [ofNat_eq, toDecimal_ofInt (by decide)] at this

theorem toDecimal_le_one {x : F} (h : x ≤ 1) : toDecimal x ≤ 1 := by
  have := toDecimal_mono h
  rw [ofNat_eq, toDecimal_ofInt (by decide)] at this
  simpa using this

/-- `abs(x)`. -/
def abs (x : F) : F := max x (-x)

/-- `statistics.fmean`: the exact sum divided by the count. -/
def fmean (xs : List F) : F := fsum xs / ofInt xs.length

/-- `sum(...)` of floats, left to right from `0`. From Python 3.12 on the sum is compensated:
    it may differ from this fold in the last digits. -/
def sum (xs : List F) : F := xs.foldl (· + ·) 0

/-- `a - b`, or NaN: infinities of one sign have no difference. -/
def sub? (a b : F) : Option F := if a = b ∧ isFinite a = false then none else some (a - b)

/-- `a * b`, or NaN: an infinity and zero have no product. -/
def mul? (a b : F) : Option F :=
  if (isFinite a = false ∧ b = 0) ∨ (a = 0 ∧ isFinite b = false) then none else some (a * b)

theorem mul?_eq_some {a b : F} (h : mul? a b ≠ none) : mul? a b = some (a * b) := by
  rw [mul?] at h ⊢
  split
  · next hnan => exact absurd (if_pos hnan) h
  · rfl

/-- Numbers of one sign have a product. -/
theorem mul?_ne_none {a b : F} (h : (0 < a ∧ 0 < b) ∨ (a < 0 ∧ b < 0)) : mul? a b ≠ none := by
  have ha : a ≠ 0 := by
    rcases h with ⟨h, -⟩ | ⟨h, -⟩
    · exact ne_of_gt h
    · exact ne_of_lt h
  have hb : b ≠ 0 := by
    rcases h with ⟨-, h⟩ | ⟨-, h⟩
    · exact ne_of_gt h
    · exact ne_of_lt h
  rw [mul?, if_neg (by simp [ha, hb])]
  exact Option.some_ne_none _

/-- `math.isclose(a, b, abs_tol=tolerance)` with the default relative tolerance. -/
def IsClose (a b : F) (tolerance : F := 0) : Prop :=
  a = b ∨ abs (a - b) ≤ max (ofDecimal (1 / 10 ^ 9) * max (abs a) (abs b)) tolerance

instance (a b tolerance : F) : Decidable (IsClose a b tolerance) :=
  inferInstanceAs (Decidable (_ ∨ _))

end PyFloat

/-- `math.log` and `math.sqrt`. -/
class PyMath (F : Type) where
  log : F → F
  sqrt : F → F

/-- The exact reading: floats are the rationals they denote and nothing rounds. -/
instance exactFloat : PyFloat ℚ where
  toLinearOrder := inferInstance
  toAdd := inferInstance
  toSub := inferInstance
  toMul := inferInstance
  toDiv := inferInstance
  toNeg := inferInstance
  ofInt n := n
  seconds t := t / 1000000
  ofDecimal x := x
  toDecimal x := x
  isFinite _ := true
  fsum xs := xs.sum
  ofInt_le_ofInt _ _ := Int.cast_le
  seconds_le_ofInt := by
    intro t n
    rw [div_le_iff₀ (by norm_num)]
    exact_mod_cast Iff.rfl
  ofInt_le_seconds := by
    intro t n
    rw [le_div_iff₀ (by norm_num)]
    exact_mod_cast Iff.rfl
  neg_le_neg_iff' := neg_le_neg_iff
  neg_neg' := neg_neg
  neg_ofInt {n} _ := by push_cast; rfl
  toDecimal_mono h := h
  toDecimal_ofInt _ := rfl
  pos_of_mul_pos h := by
    simp only [Int.cast_zero] at h ⊢
    exact mul_pos_iff.mp h

@[simp] theorem ofInt_rat (n : Int) : (PyFloat.ofInt n : ℚ) = n := rfl
@[simp] theorem toDecimal_rat (x : ℚ) : PyFloat.toDecimal x = x := rfl
@[simp] theorem ofDecimal_rat (x : ℚ) : (PyFloat.ofDecimal x : ℚ) = x := rfl
@[simp] theorem fsum_rat (xs : List ℚ) : PyFloat.fsum xs = xs.sum := rfl
@[simp] theorem isFinite_rat (x : ℚ) : PyFloat.isFinite x = true := rfl

end Godzilla
