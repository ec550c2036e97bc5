import Mathlib.Algebra.BigOperators.Group.List.Basic
import Mathlib.Algebra.Order.BigOperators.Group.List
import Mathlib.Algebra.Order.Group.Nat
import Mathlib.Algebra.Module.NatInt
import Mathlib.Order.Monotone.Basic
import Mathlib.Tactic.Ring

/-!
# Mid-distribution ranks

The rank of an element among the elements of a list counts those below it twice and
those equal to it once. Two elements give each other two points together, however they
compare, so the points of a list add up to the square of its length.
-/

namespace Misc

variable {α : Type} [LinearOrder α]

/-- The points that an element gives to one it is compared with. -/
def points (other x : α) : ℕ := if other < x then 2 else if other = x then 1 else 0

/-- Twice the rank of an element: two for each element below it and one for each tie. -/
def midRank (xs : List α) (x : α) : ℕ := (xs.map fun other => points other x).sum

@[simp] theorem points_self (x : α) : points x x = 1 := by simp [points]

theorem points_of_lt {x y : α} (h : x < y) : points x y = 2 := if_pos h

theorem points_of_gt {x y : α} (h : y < x) : points x y = 0 := by
  rw [points, if_neg h.not_gt, if_neg (ne_of_gt h)]

/-- Two elements share two points. -/
theorem points_add_swap (x y : α) : points x y + points y x = 2 := by
  rcases lt_trichotomy x y with h | rfl | h
  · rw [points_of_lt h, points_of_gt h]
  · rw [points_self]
  · rw [points_of_gt h, points_of_lt h]

/-- A greater element gets no fewer points. -/
theorem points_mono (other : α) {x y : α} (h : x ≤ y) : points other x ≤ points other y := by
  rcases lt_trichotomy other x with hlt | rfl | hgt
  · rw [points_of_lt hlt, points_of_lt (hlt.trans_le h)]
  · rw [points_self]
    rcases h.eq_or_lt with rfl | hlt
    · rw [points_self]
    · rw [points_of_lt hlt]
      decide
  · rw [points_of_gt hgt]
    exact Nat.zero_le _

/-- The points of an element and those it gives away, over the whole list. -/
theorem midRank_add_given (xs : List α) (x : α) :
    midRank xs x + (xs.map fun other => points x other).sum = 2 * xs.length := by
  rw [midRank, ← List.sum_map_add]
  simp only [points_add_swap, List.map_const', List.sum_replicate, smul_eq_mul, mul_comm]

/-- Twice the rank by the counts of the elements below and beside an element. -/
theorem midRank_eq_countP (xs : List α) (x : α) :
    midRank xs x = 2 * (xs.countP fun other => decide (other < x)) +
      xs.countP fun other => decide (other = x) := by
  induction xs with
  | nil => rfl
  | cons y ys ih =>
    rw [midRank, List.map_cons, List.sum_cons, ← midRank, ih, List.countP_cons, List.countP_cons]
    rcases lt_trichotomy y x with h | rfl | h
    · rw [points_of_lt h]
      simp [h, ne_of_lt h]
      omega
    · rw [points_self]
      simp
      omega
    · rw [points_of_gt h]
      simp [h.not_gt, ne_of_gt h]

/-- The order of a list does not matter to the ranks in it. -/
theorem midRank_perm {xs ys : List α} (h : xs.Perm ys) (x : α) : midRank xs x = midRank ys x :=
  (h.map _).sum_eq

/-- Nor does the scale of its elements. -/
theorem midRank_map_strictMonoOn {β : Type} [LinearOrder β] {f : α → β} {xs : List α}
    (hf : StrictMonoOn f {x | x ∈ xs}) {x : α} (hx : x ∈ xs) :
    midRank (xs.map f) (f x) = midRank xs x := by
  rw [midRank, midRank, List.map_map]
  refine congrArg List.sum (List.map_congr_left ?_)
  intro other hother
  simp only [Function.comp_apply, points, hf.lt_iff_lt hother hx, hf.injOn.eq_iff hother hx]

/-- Summing by rows and by columns is the same. -/
theorem sum_sum_comm {β γ : Type} (xs : List β) (ys : List γ) (f : β → γ → ℕ) :
    (xs.map fun x => (ys.map fun y => f x y).sum).sum =
      (ys.map fun y => (xs.map fun x => f x y).sum).sum := by
  induction xs with
  | nil => simp
  | cons x xs ih =>
    simp only [List.map_cons, List.sum_cons]
    rw [ih, ← List.sum_map_add]

/-- Every pair of elements shares two points, so the ranks of a list have a fixed sum. -/
theorem sum_midRank (xs : List α) : (xs.map (midRank xs)).sum = xs.length * xs.length := by
  have hgiven : (xs.map (midRank xs)).sum =
      (xs.map fun x => (xs.map fun other => points x other).sum).sum :=
    sum_sum_comm xs xs fun x other => points other x
  have hboth : (xs.map (midRank xs)).sum +
      (xs.map fun x => (xs.map fun other => points x other).sum).sum =
        2 * (xs.length * xs.length) := by
    rw [← List.sum_map_add]
    simp only [midRank_add_given, List.map_const', List.sum_replicate, smul_eq_mul]
    ring
  omega

/-- An element of the list gets a point from itself and gives one to itself. -/
theorem midRank_range {xs : List α} {x : α} (hx : x ∈ xs) :
    1 ≤ midRank xs x ∧ midRank xs x + 1 ≤ 2 * xs.length := by
  have hown : ∀ f : α → ℕ, f x = 1 → 1 ≤ (xs.map f).sum := by
    intro f hone
    rw [← hone]
    exact List.single_le_sum (fun _ _ => Nat.zero_le _) _ (List.mem_map_of_mem hx)
  have hgets : 1 ≤ midRank xs x := hown _ (points_self x)
  have hgives := hown (fun other => points x other) (points_self x)
  have htotal := midRank_add_given xs x
  omega

/-- Ranks rise strictly with the elements that are ranked. -/
theorem midRank_lt_midRank {xs : List α} {x y : α} (hx : x ∈ xs) (h : x < y) :
    midRank xs x < midRank xs y := by
  refine List.sum_lt_sum _ _ (fun other _ => points_mono other h.le) ⟨x, hx, ?_⟩
  rw [points_self, points_of_lt h]
  decide

/-- Elements compare as their ranks do. -/
theorem midRank_lt_iff {xs : List α} {x y : α} (hx : x ∈ xs) (hy : y ∈ xs) :
    midRank xs x < midRank xs y ↔ x < y := by
  constructor
  · intro hlt
    by_contra hle
    rcases (not_lt.mp hle).eq_or_lt with rfl | hgt
    · exact lt_irrefl _ hlt
    · exact lt_asymm hlt (midRank_lt_midRank hy hgt)
  · exact midRank_lt_midRank hx

end Misc
