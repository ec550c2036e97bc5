import Mathlib.Data.Finset.Lattice.Basic
import Mathlib.Data.Finset.Basic
import Mathlib.Data.List.Pairwise

/-!
# Greedy selection of disjoint elements

`greedy blocked uses used xs` passes through a list and keeps the elements that are
not blocked and use nothing that is used already. The kept elements use disjoint
resources, and an element that was dropped without being blocked shares a resource
with one that was kept before it.
-/

namespace Misc

variable {α ι : Type} [DecidableEq ι]

/-- The elements that a greedy pass keeps. -/
def greedy (blocked : α → Bool) (uses : α → Finset ι) : Finset ι → List α → List α
  | _, [] => []
  | used, x :: xs =>
    if blocked x ∨ ¬ Disjoint (uses x) used then greedy blocked uses used xs
    else x :: greedy blocked uses (used ∪ uses x) xs

/-- The elements that it drops. -/
def greedyDropped (blocked : α → Bool) (uses : α → Finset ι) : Finset ι → List α → List α
  | _, [] => []
  | used, x :: xs =>
    if blocked x ∨ ¬ Disjoint (uses x) used then x :: greedyDropped blocked uses used xs
    else greedyDropped blocked uses (used ∪ uses x) xs

variable {blocked : α → Bool} {uses : α → Finset ι} {used : Finset ι} {x : α} {xs : List α}

theorem greedy_cons_of_drop (h : blocked x ∨ ¬ Disjoint (uses x) used) :
    greedy blocked uses used (x :: xs) = greedy blocked uses used xs := by
  rw [greedy, if_pos h]

theorem greedy_cons_of_keep (h : ¬ (blocked x ∨ ¬ Disjoint (uses x) used)) :
    greedy blocked uses used (x :: xs) = x :: greedy blocked uses (used ∪ uses x) xs := by
  rw [greedy, if_neg h]

/-- Every element is kept or dropped, once. -/
theorem greedy_append_dropped_perm (used : Finset ι) (xs : List α) :
    (greedy blocked uses used xs ++ greedyDropped blocked uses used xs).Perm xs := by
  induction xs generalizing used with
  | nil => exact List.Perm.refl []
  | cons x xs ih =>
    by_cases h : blocked x ∨ ¬ Disjoint (uses x) used
    · rw [greedy_cons_of_drop h, greedyDropped, if_pos h]
      exact List.perm_middle.trans ((ih used).cons x)
    · rw [greedy_cons_of_keep h, greedyDropped, if_neg h, List.cons_append]
      exact (ih (used ∪ uses x)).cons x

theorem greedy_sublist (used : Finset ι) (xs : List α) :
    (greedy blocked uses used xs).Sublist xs := by
  induction xs generalizing used with
  | nil => exact List.Sublist.refl []
  | cons x xs ih =>
    by_cases h : blocked x ∨ ¬ Disjoint (uses x) used
    · rw [greedy_cons_of_drop h]
      exact (ih used).cons x
    · rw [greedy_cons_of_keep h]
      exact (ih (used ∪ uses x)).cons_cons x

/-- What is kept is not blocked, and avoids what was used before the pass. -/
theorem of_mem_greedy (hx : x ∈ greedy blocked uses used xs) :
    blocked x = false ∧ Disjoint (uses x) used := by
  induction xs generalizing used with
  | nil => cases hx
  | cons y ys ih =>
    by_cases h : blocked y ∨ ¬ Disjoint (uses y) used
    · rw [greedy_cons_of_drop h] at hx
      exact ih hx
    · rw [greedy_cons_of_keep h] at hx
      rcases List.mem_cons.mp hx with rfl | hx
      · rw [not_or, not_not] at h
        exact ⟨by simpa using h.1, h.2⟩
      · obtain ⟨hfree, hdisjoint⟩ := ih hx
        exact ⟨hfree, (Finset.disjoint_union_right.mp hdisjoint).1⟩

/-- The kept elements use disjoint resources. -/
theorem greedy_pairwise (used : Finset ι) (xs : List α) :
    (greedy blocked uses used xs).Pairwise fun x y => Disjoint (uses x) (uses y) := by
  induction xs generalizing used with
  | nil => exact List.Pairwise.nil
  | cons x xs ih =>
    by_cases h : blocked x ∨ ¬ Disjoint (uses x) used
    · rw [greedy_cons_of_drop h]
      exact ih used
    · rw [greedy_cons_of_keep h]
      refine List.pairwise_cons.mpr ⟨fun y hy => ?_, ih (used ∪ uses x)⟩
      exact (Finset.disjoint_union_right.mp (of_mem_greedy hy).2).2.symm

/-- An element that is neither kept nor blocked uses something that was used before the pass or
    is used by an element that is kept before it. -/
theorem shares_of_not_mem_greedy {r : α → α → Prop} (hordered : xs.Pairwise r) (hx : x ∈ xs)
    (hdropped : x ∉ greedy blocked uses used xs) (hfree : blocked x = false) :
    ¬ Disjoint (uses x) used ∨
      ∃ y ∈ greedy blocked uses used xs, r y x ∧ ¬ Disjoint (uses x) (uses y) := by
  induction xs generalizing used with
  | nil => cases hx
  | cons y ys ih =>
    obtain ⟨hfirst, hrest⟩ := List.pairwise_cons.mp hordered
    by_cases h : blocked y ∨ ¬ Disjoint (uses y) used
    · rw [greedy_cons_of_drop h] at hdropped ⊢
      rcases List.mem_cons.mp hx with rfl | hx
      · rcases h with h | h
        · rw [hfree] at h
          cases h
        · exact Or.inl h
      · exact ih hrest hx hdropped
    · rw [greedy_cons_of_keep h] at hdropped ⊢
      rcases List.mem_cons.mp hx with rfl | hx
      · exact absurd List.mem_cons_self hdropped
      · rcases ih hrest hx (fun hmem => hdropped (List.mem_cons_of_mem _ hmem)) with
          hused | ⟨z, hz, hbefore, hshared⟩
        · rw [Finset.disjoint_union_right, not_and_or] at hused
          rcases hused with hused | hused
          · exact Or.inl hused
          · exact Or.inr ⟨y, List.mem_cons_self, hfirst x hx, hused⟩
        · exact Or.inr ⟨z, List.mem_cons_of_mem _ hz, hbefore, hshared⟩

end Misc
