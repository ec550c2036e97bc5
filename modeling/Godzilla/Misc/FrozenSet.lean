import Mathlib.Data.List.Dedup
import Mathlib.Data.List.Perm.Basic

/-!
# Sets with an iteration order

A hash set as a program iterates over it: distinct elements in some order. Two of them
are one set if they list the same elements; what a program computes from the order may
still differ.
-/

namespace Misc

/-- Distinct elements in their iteration order. -/
structure FrozenSet (α : Type) where
  order : List α
  nodup : order.Nodup
  deriving DecidableEq

namespace FrozenSet

variable {α : Type} {s t : FrozenSet α}

instance : Membership α (FrozenSet α) := ⟨fun s a => a ∈ s.order⟩

instance [DecidableEq α] (a : α) (s : FrozenSet α) : Decidable (a ∈ s) :=
  inferInstanceAs (Decidable (a ∈ s.order))

/-- The elements of a list, iterated over in its order. -/
def ofList [DecidableEq α] (xs : List α) : FrozenSet α := ⟨xs.dedup, xs.nodup_dedup⟩

/-- One set in two iteration orders. -/
def Same (s t : FrozenSet α) : Prop := s.order.Perm t.order

@[ext] theorem ext (h : s.order = t.order) : s = t := by
  cases s
  cases t
  cases h
  rfl

theorem Same.mem_iff (h : s.Same t) {a : α} : a ∈ s ↔ a ∈ t := List.Perm.mem_iff h

/-- A set has one iteration order exactly when it has at most one element. -/
theorem unique_order_iff : (∀ t : FrozenSet α, t.Same s → t = s) ↔ s.order.length ≤ 1 := by
  constructor
  · intro h
    match horder : s.order with
    | [] => exact Nat.zero_le 1
    | [_] => exact Nat.le_refl 1
    | a :: b :: rest =>
      have hnodup : (a :: b :: rest).Nodup := horder ▸ s.nodup
      have hswap : (b :: a :: rest).Perm (a :: b :: rest) := List.Perm.swap a b rest
      have hsame := h ⟨b :: a :: rest, hswap.nodup_iff.mpr hnodup⟩ (by rw [Same, horder]; exact hswap)
      have hlists : b :: a :: rest = s.order := congrArg order hsame
      rw [horder] at hlists
      have hab : b = a := (List.cons.inj hlists).1
      exact absurd (hab ▸ List.mem_cons_self) (List.nodup_cons.mp hnodup).1
  · intro hlength t hsame
    refine ext ?_
    match horder : s.order with
    | [] =>
      rw [Same, horder] at hsame
      exact hsame.eq_nil
    | [a] =>
      rw [Same, horder] at hsame
      exact List.perm_singleton.mp hsame
    | _ :: _ :: _ =>
      rw [horder] at hlength
      simp at hlength

end FrozenSet

end Misc
