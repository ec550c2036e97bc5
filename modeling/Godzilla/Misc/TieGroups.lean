import Godzilla.Misc.Related
import Mathlib.Data.Finset.Max
import Mathlib.Data.List.Lemmas

/-!
# The foremost groups of ties

A list falls into groups of equal keys. A choice takes whole groups from the least key on,
and of the choices that have at most `cap` elements one is the largest: an element is in it
exactly when at most `cap` elements have a key no greater than its own. In a sorted list
the first `cap` elements, less the group that they split, are that choice.
-/

namespace Misc

variable {α κ : Type} [LinearOrder κ] {key : α → κ} {cap : Nat} {xs : List α}

/-- A choice from `xs` of whole groups of equal keys, from the least key on. -/
structure WholeGroups (key : α → κ) (xs chosen : List α) : Prop where
  subset : chosen ⊆ xs
  closed : ∀ a ∈ xs, ∀ b ∈ chosen, key a ≤ key b → a ∈ chosen

/-- The largest choice of whole groups that has at most `cap` elements. -/
structure LargestGroups (key : α → κ) (cap : Nat) (xs chosen : List α) : Prop
    extends WholeGroups key xs chosen where
  nodup : chosen.Nodup
  length_le : chosen.length ≤ cap
  largest : ∀ other : List α, other.Nodup → WholeGroups key xs other → other.length ≤ cap →
    other ⊆ chosen

/-- A choice depends only on which elements there are. -/
theorem LargestGroups.of_mem_iff {ys chosen : List α} (h : LargestGroups key cap xs chosen)
    (hmem : ∀ a, a ∈ xs ↔ a ∈ ys) : LargestGroups key cap ys chosen where
  subset a ha := (hmem a).mp (h.subset ha)
  closed a ha := h.closed a ((hmem a).mpr ha)
  nodup := h.nodup
  length_le := h.length_le
  largest other hnodup hgroups :=
    h.largest other hnodup
      ⟨fun a ha => (hmem a).mpr (hgroups.subset ha), fun a ha => hgroups.closed a ((hmem a).mp ha)⟩

/-- The elements with at most `cap` elements before them or beside them. -/
def foremost (key : α → κ) (cap : Nat) (xs : List α) : List α :=
  xs.filter fun b => decide (xs.countP (fun a => decide (key a ≤ key b)) ≤ cap)

theorem mem_foremost {b : α} :
    b ∈ foremost key cap xs ↔ b ∈ xs ∧ xs.countP (fun a => decide (key a ≤ key b)) ≤ cap := by
  rw [foremost, List.mem_filter, decide_eq_true_eq]

theorem countP_key_le_mono {a b : α} (h : key a ≤ key b) :
    xs.countP (fun c => decide (key c ≤ key a)) ≤ xs.countP fun c => decide (key c ≤ key b) := by
  apply List.countP_mono_left
  intro c _ hc
  exact decide_eq_true ((of_decide_eq_true hc).trans h)

theorem length_foremost_le : (foremost key cap xs).length ≤ cap := by
  classical
  by_cases hempty : foremost key cap xs = []
  · rw [hempty]
    exact Nat.zero_le cap
  · obtain ⟨first, hfirst⟩ := List.exists_mem_of_ne_nil _ hempty
    obtain ⟨last, hlast, hgreatest⟩ := Finset.exists_max_image (foremost key cap xs).toFinset key
      ⟨first, List.mem_toFinset.mpr hfirst⟩
    obtain ⟨-, hcount⟩ := mem_foremost.mp (List.mem_toFinset.mp hlast)
    -- all that is chosen comes no later than the last of it
    have hwithin : (foremost key cap xs).length ≤
        xs.countP fun a => decide (key a ≤ key last) := by
      rw [foremost, ← List.countP_eq_length_filter]
      apply List.countP_mono_left
      intro a ha hchosen
      have hmem : a ∈ foremost key cap xs := mem_foremost.mpr ⟨ha, of_decide_eq_true hchosen⟩
      exact decide_eq_true (hgreatest a (List.mem_toFinset.mpr hmem))
    exact hwithin.trans hcount

theorem foremost_largest (h : xs.Nodup) : LargestGroups key cap xs (foremost key cap xs) where
  subset := List.filter_subset_self xs
  closed := by
    intro a ha b hb hle
    obtain ⟨-, hcount⟩ := mem_foremost.mp hb
    exact mem_foremost.mpr ⟨ha, (countP_key_le_mono hle).trans hcount⟩
  nodup := h.filter _
  length_le := length_foremost_le
  largest := by
    intro other hother hgroups hlength b hb
    have hsubset : (xs.filter fun a => decide (key a ≤ key b)) ⊆ other := by
      intro a ha
      obtain ⟨ha, hle⟩ := List.mem_filter.mp ha
      exact hgroups.closed a ha b hb (of_decide_eq_true hle)
    have hcount := ((h.filter fun a => decide (key a ≤ key b)).subperm hsubset).length_le
    rw [← List.countP_eq_length_filter] at hcount
    exact mem_foremost.mpr ⟨hgroups.subset hb, hcount.trans hlength⟩

/-- In a sorted list an element is foremost when it comes before the first one that is left
    out for the cap. -/
theorem countP_key_le_iff {front rest : List α} {next b : α}
    (hsorted : (front ++ next :: rest).Pairwise fun a b => key a ≤ key b) :
    (front ++ next :: rest).countP (fun a => decide (key a ≤ key b)) ≤ front.length ↔
      key b < key next := by
  obtain ⟨-, hback, hcross⟩ := List.pairwise_append.mp hsorted
  rw [List.countP_append]
  constructor
  · intro hcount
    by_contra hle
    have hnext : key next ≤ key b := not_lt.mp hle
    have hfront : front.countP (fun a => decide (key a ≤ key b)) = front.length := by
      rw [List.countP_eq_length]
      exact fun a ha => decide_eq_true ((hcross a ha next List.mem_cons_self).trans hnext)
    have hself : 0 < (next :: rest).countP fun a => decide (key a ≤ key b) :=
      List.countP_pos_iff.mpr ⟨next, List.mem_cons_self, decide_eq_true hnext⟩
    omega
  · intro hlt
    have hnone : (next :: rest).countP (fun a => decide (key a ≤ key b)) = 0 := by
      rw [List.countP_eq_zero]
      intro a ha hle
      have hge : key next ≤ key a := by
        rcases List.mem_cons.mp ha with rfl | ha
        · exact le_rfl
        · exact (List.pairwise_cons.mp hback).1 a ha
      exact absurd (of_decide_eq_true hle) (not_le.mpr (hlt.trans_le hge))
    rw [hnone, Nat.add_zero]
    exact List.countP_le_length

theorem foremost_of_next {next : α} (hsorted : xs.Pairwise fun a b => key a ≤ key b)
    (hnext : xs[cap]? = some next) :
    foremost key cap xs = (xs.take cap).filter fun a => decide (key a < key next) := by
  obtain ⟨hlt, rfl⟩ := List.getElem?_eq_some_iff.mp hnext
  have hsplit : xs.take cap ++ xs[cap] :: xs.drop (cap + 1) = xs := by
    rw [← List.drop_eq_getElem_cons hlt, List.take_append_drop]
  have hlength : (xs.take cap).length = cap := List.length_take_of_le hlt.le
  have hiff : ∀ b, xs.countP (fun a => decide (key a ≤ key b)) ≤ cap ↔ key b < key xs[cap] := by
    intro b
    rw [← hsplit] at hsorted
    have hcut := countP_key_le_iff (b := b) hsorted
    rwa [hsplit, hlength] at hcut
  -- from the one left out on, nothing is foremost
  have hback : (xs.drop cap).filter (fun a => decide (key a < key xs[cap])) = [] := by
    rw [List.filter_eq_nil_iff]
    intro a ha hless
    rw [List.drop_eq_getElem_cons hlt] at ha
    have hle : key xs[cap] ≤ key a := by
      rcases List.mem_cons.mp ha with rfl | ha
      · exact le_rfl
      · rw [← hsplit, List.pairwise_append] at hsorted
        exact (List.pairwise_cons.mp hsorted.2.1).1 a ha
    exact absurd (of_decide_eq_true hless) (not_lt.mpr hle)
  calc foremost key cap xs = xs.filter fun b => decide (key b < key xs[cap]) :=
        List.filter_congr fun b _ => decide_eq_decide.mpr (hiff b)
    _ = (xs.take cap ++ xs.drop cap).filter fun b => decide (key b < key xs[cap]) := by
        rw [List.take_append_drop]
    _ = (xs.take cap).filter fun a => decide (key a < key xs[cap]) := by
        rw [List.filter_append, hback, List.append_nil]

theorem foremost_of_short (h : xs.length ≤ cap) : foremost key cap xs = xs := by
  rw [foremost, List.filter_eq_self]
  intro b _
  exact decide_eq_true (List.countP_le_length.trans h)

end Misc
