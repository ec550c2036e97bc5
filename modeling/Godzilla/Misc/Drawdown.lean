import Mathlib.Algebra.BigOperators.Group.List.Basic
import Mathlib.Algebra.Order.Group.Defs
import Mathlib.Data.List.Induction
import Mathlib.Order.Bounds.Basic
import Mathlib.Tactic.Abel

/-!
# Drawdowns of a path

A path starts at zero and moves by the given steps. A fall is the loss from one level of
the path to a later one, and the drawdown is the greatest fall. A single pass that keeps
the level, the peak and the greatest fall so far finds it: the three are read together,
since a new level is compared with the peak and a new fall with both.
-/

namespace Misc

variable {α : Type} [AddCommGroup α]

/-- The level of a path after its first steps. -/
def levelAt (steps : List α) (count : ℕ) : α := (steps.take count).sum

/-- The levels that a path has taken, its start among them. -/
def levels (steps : List α) : Set α := {s | ∃ i ≤ steps.length, s = levelAt steps i}

/-- The losses of a path from one of its levels to the same or a later one. -/
def falls (steps : List α) : Set α :=
  {d | ∃ i j, i ≤ j ∧ j ≤ steps.length ∧ d = levelAt steps i - levelAt steps j}

@[simp] theorem levelAt_zero (steps : List α) : levelAt steps 0 = 0 := by simp [levelAt]

theorem levelAt_succ {steps : List α} {i : ℕ} (h : i < steps.length) :
    levelAt steps (i + 1) = levelAt steps i + steps[i] := by
  rw [levelAt, levelAt, List.sum_take_succ steps i h]

/-- More steps leave the levels of the first ones as they are. -/
theorem levelAt_append (steps more : List α) {i : ℕ} (h : i ≤ steps.length) :
    levelAt (steps ++ more) i = levelAt steps i := by
  rw [levelAt, levelAt, List.take_append_of_le_length h]

/-- One more step adds the level it ends at. -/
theorem levels_concat (steps : List α) (x : α) :
    levels (steps ++ [x]) = insert (steps.sum + x) (levels steps) := by
  have hlast : levelAt (steps ++ [x]) (steps.length + 1) = steps.sum + x := by
    simp [levelAt]
  ext s
  simp only [levels, Set.mem_insert_iff, Set.mem_ofPred_eq, List.length_append,
    List.length_singleton]
  constructor
  · rintro ⟨i, hi, rfl⟩
    rcases Nat.lt_or_ge steps.length i with h | h
    · obtain rfl : i = steps.length + 1 := by omega
      exact Or.inl hlast
    · exact Or.inr ⟨i, h, levelAt_append steps [x] h⟩
  · rintro (rfl | ⟨i, hi, rfl⟩)
    · exact ⟨steps.length + 1, le_rfl, hlast.symm⟩
    · exact ⟨i, by omega, (levelAt_append steps [x] hi).symm⟩

/-- One more step adds the losses from every level to the one it ends at. -/
theorem falls_concat (steps : List α) (x : α) :
    falls (steps ++ [x]) =
      falls steps ∪ Set.image (· - (steps.sum + x)) (levels (steps ++ [x])) := by
  have hlast : levelAt (steps ++ [x]) (steps.length + 1) = steps.sum + x := by
    simp [levelAt]
  ext d
  simp only [falls, levels, Set.mem_union, Set.mem_image, Set.mem_ofPred_eq, List.length_append,
    List.length_singleton]
  constructor
  · rintro ⟨i, j, hij, hj, rfl⟩
    rcases Nat.lt_or_ge steps.length j with h | h
    · obtain rfl : j = steps.length + 1 := by omega
      exact Or.inr ⟨_, ⟨i, hij, rfl⟩, by rw [hlast]⟩
    · refine Or.inl ⟨i, j, hij, h, ?_⟩
      rw [levelAt_append steps [x] h, levelAt_append steps [x] (hij.trans h)]
  · rintro (⟨i, j, hij, hj, rfl⟩ | ⟨s, ⟨i, hi, rfl⟩, rfl⟩)
    · refine ⟨i, j, hij, by omega, ?_⟩
      rw [levelAt_append steps [x] hj, levelAt_append steps [x] (hij.trans hj)]
    · exact ⟨i, steps.length + 1, hi, le_rfl, by rw [hlast]⟩

theorem zero_mem_falls (steps : List α) : (0 : α) ∈ falls steps :=
  ⟨0, 0, le_rfl, Nat.zero_le _, by simp⟩

/-- The falls of a path are falls of every path that extends it. -/
theorem falls_subset_append (steps more : List α) : falls steps ⊆ falls (steps ++ more) := by
  rintro d ⟨i, j, hij, hj, rfl⟩
  refine ⟨i, j, hij, hj.trans (by simp), ?_⟩
  rw [levelAt_append steps more hj, levelAt_append steps more (hij.trans hj)]

variable [LinearOrder α]

/-- The greatest fall is not negative: a path has not fallen from a level to itself. -/
theorem fall_nonneg {steps : List α} {d : α} (h : IsGreatest (falls steps) d) : 0 ≤ d :=
  h.2 (zero_mem_falls steps)

/-- A longer path has no smaller drawdown. -/
theorem fall_le_append {steps more : List α} {d e : α} (h : IsGreatest (falls steps) d)
    (hmore : IsGreatest (falls (steps ++ more)) e) : d ≤ e :=
  hmore.2 (falls_subset_append steps more h.1)

/-- What a pass over a path keeps: the level, the peak and the greatest fall so far. -/
structure PathState (α : Type) where
  level : α
  peak : α
  fall : α

namespace PathState

/-- One step of the pass. -/
def step (state : PathState α) (x : α) : PathState α :=
  let level := state.level + x
  let peak := max state.peak level
  ⟨level, peak, max state.fall (peak - level)⟩

/-- The state says what the path has done. -/
structure Tracks (state : PathState α) (steps : List α) : Prop where
  level : state.level = steps.sum
  peak : IsGreatest (levels steps) state.peak
  fall : IsGreatest (falls steps) state.fall

/-- Before any step the path is at zero and has not fallen. -/
theorem tracks_start : (⟨0, 0, 0⟩ : PathState α).Tracks [] where
  level := rfl
  peak := by
    constructor
    · exact ⟨0, le_rfl, by simp⟩
    · rintro s ⟨i, -, rfl⟩
      simp [levelAt]
  fall := by
    constructor
    · exact zero_mem_falls []
    · rintro d ⟨i, j, -, -, rfl⟩
      simp [levelAt]

variable [IsOrderedAddMonoid α]

/-- A step keeps the level, the peak and the fall true of the path. -/
theorem Tracks.step {state : PathState α} {steps : List α} (h : state.Tracks steps) (x : α) :
    (state.step x).Tracks (steps ++ [x]) := by
  have hpeak : IsGreatest (levels (steps ++ [x])) (max state.peak (state.level + x)) := by
    rw [levels_concat, max_comm, h.level]
    exact h.peak.insert _
  have hlast : IsGreatest (Set.image (· - (state.level + x)) (levels (steps ++ [x])))
      (max state.peak (state.level + x) - (state.level + x)) := by
    constructor
    · exact ⟨_, hpeak.1, rfl⟩
    · rintro d ⟨s, hs, rfl⟩
      exact sub_le_sub_right (hpeak.2 hs) _
  refine ⟨?_, hpeak, ?_⟩
  · simp [PathState.step, h.level]
  · rw [falls_concat, ← h.level]
    exact h.fall.union hlast

/-- After the whole path the pass has found its drawdown. -/
theorem tracks_foldl (steps : List α) :
    (steps.foldl PathState.step (⟨0, 0, 0⟩ : PathState α)).Tracks steps := by
  induction steps using List.reverseRecOn with
  | nil => exact tracks_start
  | append_singleton steps x ih =>
    rw [List.foldl_append]
    exact ih.step x

end PathState

variable [IsOrderedAddMonoid α]

/-- The levels of a path whose steps go up do not go down. -/
theorem levelAt_mono {steps : List α} (h : ∀ x ∈ steps, 0 ≤ x) {i j : ℕ} (hij : i ≤ j) :
    j ≤ steps.length → levelAt steps i ≤ levelAt steps j := by
  induction j, hij using Nat.le_induction with
  | base => exact fun _ => le_rfl
  | succ j hij ih =>
    intro hj
    rw [levelAt_succ hj]
    exact (ih (by omega)).trans (le_add_of_nonneg_right (h _ (List.getElem_mem hj)))

/-- A path never falls exactly when none of its steps goes down. -/
theorem fall_eq_zero_iff {steps : List α} {d : α} (h : IsGreatest (falls steps) d) :
    d = 0 ↔ ∀ x ∈ steps, 0 ≤ x := by
  constructor
  · rintro rfl x hx
    obtain ⟨i, hi, rfl⟩ := List.getElem_of_mem hx
    have hfall := h.2 ⟨i, i + 1, i.le_succ, hi, rfl⟩
    rw [levelAt_succ hi, sub_add_cancel_left] at hfall
    exact neg_nonpos.mp hfall
  · intro hsteps
    obtain ⟨i, j, hij, hj, rfl⟩ := h.1
    exact le_antisymm (sub_nonpos.mpr (levelAt_mono hsteps hij hj)) (fall_nonneg h)

end Misc
