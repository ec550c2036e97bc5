import Mathlib.Data.List.Basic
import Mathlib.Data.List.Induction
import Mathlib.Logic.Relation

/-!
# First occurrences

The elements of a sequence whose key no earlier element has, in order, and the sequences
that repeat an element after it occurred.
-/

namespace Misc

variable {α κ : Type} [DecidableEq κ] {key : α → κ} {xs ys : List α} {x : α}

/-- The elements of `xs` whose key no earlier one has. -/
def firstsBy (key : α → κ) (xs : List α) : List α :=
  xs.foldl (fun firsts x => if key x ∈ firsts.map key then firsts else firsts ++ [x]) []

theorem firstsBy_concat (xs : List α) (x : α) :
    firstsBy key (xs ++ [x]) =
      if key x ∈ (firstsBy key xs).map key then firstsBy key xs else firstsBy key xs ++ [x] := by
  rw [firstsBy, List.foldl_append]
  rfl

/-- An element of a known key is no first occurrence. -/
theorem firstsBy_concat_of_mem (h : key x ∈ (firstsBy key xs).map key) :
    firstsBy key (xs ++ [x]) = firstsBy key xs := by rw [firstsBy_concat, if_pos h]

/-- An element of a new key is the next first occurrence. -/
theorem firstsBy_concat_of_not_mem (h : key x ∉ (firstsBy key xs).map key) :
    firstsBy key (xs ++ [x]) = firstsBy key xs ++ [x] := by rw [firstsBy_concat, if_neg h]

/-- The first occurrences have the keys of the sequence. -/
theorem mem_map_firstsBy (key : α → κ) (xs : List α) (k : κ) :
    k ∈ (firstsBy key xs).map key ↔ k ∈ xs.map key := by
  induction xs using List.reverseRecOn with
  | nil => rfl
  | append_singleton xs x ih =>
    rw [List.map_append, List.mem_append, List.map_singleton, List.mem_singleton]
    by_cases hx : key x ∈ (firstsBy key xs).map key
    · rw [firstsBy_concat_of_mem hx, ih]
      constructor
      · exact Or.inl
      · rintro (hmem | rfl)
        · exact hmem
        · exact ih.mp hx
    · rw [firstsBy_concat_of_not_mem hx, List.map_append, List.mem_append, ih,
        List.map_singleton, List.mem_singleton]

/-- `ys` is `xs` with one more copy of an element somewhere after that element. -/
inductive RepeatsOne : List α → List α → Prop
  | intro (before after : List α) (copy : α) (h : copy ∈ before) :
      RepeatsOne (before ++ after) (before ++ copy :: after)

/-- `ys` is `xs` with any number of copies, each after the element that it copies. -/
def Repeats : List α → List α → Prop := Relation.ReflTransGen RepeatsOne

/-- Copies add no new element. -/
theorem Repeats.mem (h : Repeats xs ys) : ∀ x ∈ ys, x ∈ xs := by
  induction h with
  | refl => exact fun _ hx => hx
  | tail _ hlast ih =>
    obtain ⟨before, after, copy, hmem⟩ := hlast
    intro x hx
    apply ih
    rw [List.mem_append, List.mem_cons] at hx
    rcases hx with hx | rfl | hx
    · exact List.mem_append_left _ hx
    · exact List.mem_append_left _ hmem
    · exact List.mem_append_right _ hx

/-- What one more copy does not change, any number of copies does not change. -/
theorem Repeats.invariant {β : Type} {f : List α → β} (h : Repeats xs ys)
    (hone : ∀ before after copy, copy ∈ before → (∀ x ∈ before ++ after, x ∈ xs) →
      f (before ++ copy :: after) = f (before ++ after)) : f ys = f xs := by
  induction h with
  | refl => rfl
  | tail hearlier hlast ih =>
    obtain ⟨before, after, copy, hmem⟩ := hlast
    rw [hone before after copy hmem (Repeats.mem hearlier), ih]

end Misc
