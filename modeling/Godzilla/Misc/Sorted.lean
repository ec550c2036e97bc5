import Mathlib.Data.List.Induction
import Mathlib.Data.List.Sort
import Mathlib.Data.Prod.Lex

/-!
# Stable sorting by a key

`sortOn key` is the stable sort of Python's `sorted(xs, key=…)`. When the key
separates the elements, the sorted list is a function of the multiset of
elements alone.
-/

namespace Misc

variable {α κ : Type} [LinearOrder κ]

/-- Stable sort by `key`. -/
def sortOn (key : α → κ) (xs : List α) : List α :=
  xs.insertionSort fun a b => key a ≤ key b

/-- The better of the best so far and the next element, by a greater key. -/
def better (key : α → κ) (best : Option α) (x : α) : Option α :=
  match best with
  | none => some x
  | some found => if key found < key x then some x else best

/-- The first element with the greatest key, Python's `max(xs, key=…, default=None)`. -/
def maxOn (key : α → κ) (xs : List α) : Option α := xs.foldl (better key) none

theorem maxOn_concat (key : α → κ) (xs : List α) (x : α) :
    maxOn key (xs ++ [x]) = match maxOn key xs with
      | none => some x
      | some found => if key found < key x then some x else maxOn key xs := by
  rw [maxOn, List.foldl_append]
  rfl

theorem maxOn_eq_none {key : α → κ} {xs : List α} : maxOn key xs = none ↔ xs = [] := by
  constructor
  · intro h
    cases xs using List.reverseRecOn with
    | nil => rfl
    | append_singleton rest last =>
      rw [maxOn_concat] at h
      cases hrest : maxOn key rest with
      | none => simp [hrest] at h
      | some found =>
        simp only [hrest] at h
        split at h <;> cases h
  · rintro rfl
    rfl

/-- The greatest element is greater than all before it and as great as all after it. -/
theorem maxOn_spec {key : α → κ} {xs : List α} {x : α} (h : maxOn key xs = some x) :
    ∃ before after, xs = before ++ x :: after ∧ (∀ y ∈ before, key y < key x) ∧
      ∀ y ∈ after, key y ≤ key x := by
  induction xs using List.reverseRecOn generalizing x with
  | nil => cases h
  | append_singleton xs last ih =>
    rw [maxOn_concat] at h
    cases hfound : maxOn key xs with
    | none =>
      have hnil := maxOn_eq_none.mp hfound
      rw [hfound] at h
      obtain rfl := Option.some.inj h
      exact ⟨[], [], by rw [hnil, List.nil_append], by simp, by simp⟩
    | some found =>
      obtain ⟨before, after, rfl, hbefore, hafter⟩ := ih hfound
      simp only [hfound] at h
      split at h
      · next hlt =>
        obtain rfl := Option.some.inj h
        refine ⟨before ++ found :: after, [], rfl, fun y hy => ?_, by simp⟩
        rcases List.mem_append.mp hy with hy | hy
        · exact (hbefore y hy).trans hlt
        rcases List.mem_cons.mp hy with rfl | hy
        · exact hlt
        · exact (hafter y hy).trans_lt hlt
      · next hle =>
        obtain rfl := Option.some.inj h
        refine ⟨before, after ++ [last], by simp, hbefore, fun y hy => ?_⟩
        rcases List.mem_append.mp hy with hy | hy
        · exact hafter y hy
        · rw [List.mem_singleton.mp hy]
          exact not_lt.mp hle

theorem sortOn_perm (key : α → κ) (xs : List α) : (sortOn key xs).Perm xs :=
  List.perm_insertionSort _ xs

@[simp] theorem mem_sortOn {key : α → κ} {xs : List α} {a : α} : a ∈ sortOn key xs ↔ a ∈ xs :=
  (sortOn_perm key xs).mem_iff

@[simp] theorem length_sortOn (key : α → κ) (xs : List α) : (sortOn key xs).length = xs.length :=
  (sortOn_perm key xs).length_eq

@[simp] theorem sortOn_nil (key : α → κ) : sortOn key [] = [] := rfl

theorem sortOn_pairwise (key : α → κ) (xs : List α) :
    (sortOn key xs).Pairwise fun a b => key a ≤ key b := by
  have hT : Std.Total fun a b : α => key a ≤ key b := ⟨fun a b => le_total (key a) (key b)⟩
  have hR : IsTrans α fun a b : α => key a ≤ key b := ⟨fun _ _ _ => le_trans⟩
  exact List.pairwise_insertionSort _ xs

/-- A list in order stays as it is. -/
theorem sortOn_eq_self {key : α → κ} {xs : List α} (h : xs.Pairwise fun a b => key a ≤ key b) :
    sortOn key xs = xs :=
  h.insertionSort_eq

/-- A key that separates the elements makes the sorted list unique. -/
theorem sortOn_eq_of_perm {key : α → κ} {xs ys : List α} (hp : xs.Perm ys)
    (hinj : ∀ a ∈ xs, ∀ b ∈ xs, key a = key b → a = b) : sortOn key xs = sortOn key ys := by
  have hsame : (sortOn key xs).Perm (sortOn key ys) :=
    (sortOn_perm key xs).trans (hp.trans (sortOn_perm key ys).symm)
  refine List.Perm.eq_of_pairwise ?_ (sortOn_pairwise key xs) (sortOn_pairwise key ys) hsame
  intro a b ha hb hab hba
  rw [mem_sortOn] at ha hb
  exact hinj a ha b (hp.mem_iff.mpr hb) (le_antisymm hab hba)

/-- Duplicate-free lists with the same members sort to the same list. -/
theorem sortOn_eq_of_mem_iff {key : α → κ} {xs ys : List α} (hx : xs.Nodup) (hy : ys.Nodup)
    (hmem : ∀ a, a ∈ xs ↔ a ∈ ys) (hinj : ∀ a ∈ xs, ∀ b ∈ xs, key a = key b → a = b) :
    sortOn key xs = sortOn key ys :=
  sortOn_eq_of_perm ((List.perm_ext_iff_of_nodup hx hy).mpr hmem) hinj

/-- The keys of a sorted list are the keys of the elements in their order. -/
theorem map_sortOn_eq {key : α → κ} {xs : List α} {keys : List κ} (h : (xs.map key).Perm keys)
    (hkeys : keys.Pairwise (· ≤ ·)) : (sortOn key xs).map key = keys := by
  have hsorted : ((sortOn key xs).map key).Pairwise (· ≤ ·) :=
    List.pairwise_map.mpr (sortOn_pairwise key xs)
  exact (((sortOn_perm key xs).map key).trans h).eq_of_pairwise
    (fun a b _ _ hab hba => le_antisymm hab hba) hsorted hkeys

/-- Sorting by what a map makes of the elements commutes with the map. -/
theorem map_sortOn {β : Type} (f : α → β) (key : β → κ) (xs : List α) :
    (sortOn (fun x => key (f x)) xs).map f = sortOn key (xs.map f) :=
  List.map_insertionSort _ _ f xs fun _ _ _ _ => Iff.rfl

/-- Inserting into a sorted list and then selecting. -/
theorem filter_orderedInsert {key : α → κ} {p : α → Bool} {a : α} {xs : List α}
    (h : xs.Pairwise fun a b => key a ≤ key b) :
    (xs.orderedInsert (fun a b => key a ≤ key b) a).filter p =
      if p a then (xs.filter p).orderedInsert (fun a b => key a ≤ key b) a else xs.filter p := by
  induction xs with
  | nil => by_cases ha : p a <;> simp [ha]
  | cons b rest ih =>
    obtain ⟨hfirst, hrest⟩ := List.pairwise_cons.mp h
    by_cases hab : key a ≤ key b
    · -- the new element comes first, also among the selected ones
      rw [List.orderedInsert_cons, if_pos hab, List.filter_cons]
      by_cases ha : p a
      · rw [if_pos ha, if_pos ha]
        have hleast : ∀ c ∈ (b :: rest).filter p, key a ≤ key c := by
          intro c hc
          rcases List.mem_cons.mp (List.mem_of_mem_filter hc) with rfl | hc
          · exact hab
          · exact hab.trans (hfirst c hc)
        cases hselected : (b :: rest).filter p with
        | nil => rfl
        | cons c others =>
          rw [hselected] at hleast
          rw [List.orderedInsert_cons, if_pos (hleast c List.mem_cons_self)]
      · rw [if_neg ha, if_neg ha]
    · rw [List.orderedInsert_cons, if_neg hab, List.filter_cons, ih hrest, List.filter_cons]
      by_cases ha : p a <;> by_cases hb : p b <;> simp [ha, hb, hab]

/-- Selecting from a stable sort is sorting what is selected. -/
theorem filter_sortOn (key : α → κ) (p : α → Bool) (xs : List α) :
    (sortOn key xs).filter p = sortOn key (xs.filter p) := by
  induction xs with
  | nil => rfl
  | cons a rest ih =>
    have hcons : sortOn key (a :: rest) =
        (sortOn key rest).orderedInsert (fun a b => key a ≤ key b) a := rfl
    rw [hcons, filter_orderedInsert (sortOn_pairwise key rest), ih, List.filter_cons]
    by_cases ha : p a
    · rw [if_pos ha, if_pos ha]
      rfl
    · rw [if_neg ha, if_neg ha]

omit [LinearOrder κ] in
/-- A property that, once it holds along a list, holds from there on selects a suffix. -/
theorem filter_eq_drop {p : α → Bool} {xs : List α} (h : xs.Pairwise fun a b => p a → p b) :
    ∃ k, xs.filter p = xs.drop k ∧ ∀ i x, xs[i]? = some x → (p x ↔ k ≤ i) := by
  induction xs with
  | nil => exact ⟨0, rfl, nofun⟩
  | cons y rest ih =>
    obtain ⟨hfirst, hrest⟩ := List.pairwise_cons.mp h
    by_cases hy : p y
    · -- everything is selected
      have hall : ∀ x ∈ y :: rest, p x := by
        intro x hx
        rcases List.mem_cons.mp hx with rfl | hx
        · exact hy
        · exact hfirst x hx hy
      refine ⟨0, List.filter_eq_self.mpr hall, fun i x hx => ?_⟩
      exact ⟨fun _ => Nat.zero_le i, fun _ => hall x (List.mem_of_getElem? hx)⟩
    · obtain ⟨k, hfilter, hiff⟩ := ih hrest
      refine ⟨k + 1, by rw [List.filter_cons_of_neg hy, hfilter, List.drop_succ_cons], ?_⟩
      intro i x hx
      cases i with
      | zero =>
        obtain rfl : y = x := by simpa using hx
        exact ⟨fun hp => absurd hp hy, fun hle => absurd hle (by omega)⟩
      | succ i =>
        rw [List.getElem?_cons_succ] at hx
        rw [hiff i x hx]
        omega

/-- Sorting by a map of distinct keys keeps them distinct. -/
theorem nodup_map_sortOn {β : Type} {key : α → κ} {f : α → β} {xs : List α}
    (h : (xs.map f).Nodup) : ((sortOn key xs).map f).Nodup :=
  ((sortOn_perm key xs).map f).nodup_iff.mpr h

end Misc
