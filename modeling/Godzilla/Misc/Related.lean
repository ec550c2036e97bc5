import Godzilla.Misc.Sorted
import Mathlib.Data.List.Forall2

/-!
# Lists related element by element

What `List.Forall₂` carries from one list to the other: the values of functions
that agree on related elements, and the partner of every element. A `mapM` that
returns relates its argument to its result. Two computations with related results raise
the same error or return related values.
-/

namespace Misc

variable {α β γ : Type} {R : α → β → Prop} {xs : List α} {ys : List β}

theorem map_eq_of_related {f : α → γ} {g : β → γ} (h : List.Forall₂ R xs ys)
    (hfg : ∀ x y, R x y → g y = f x) : ys.map g = xs.map f := by
  induction h with
  | nil => rfl
  | cons hxy _ ih => rw [List.map_cons, List.map_cons, hfg _ _ hxy, ih]

theorem exists_left_of_related (h : List.Forall₂ R xs ys) {y : β} (hy : y ∈ ys) :
    ∃ x ∈ xs, R x y := by
  induction h with
  | nil => cases hy
  | cons hfirst _ ih =>
    rcases List.mem_cons.mp hy with rfl | hy
    · exact ⟨_, List.mem_cons_self, hfirst⟩
    · obtain ⟨x, hx, hxy⟩ := ih hy
      exact ⟨x, List.mem_cons_of_mem _ hx, hxy⟩

theorem exists_right_of_related (h : List.Forall₂ R xs ys) {x : α} (hx : x ∈ xs) :
    ∃ y ∈ ys, R x y := by
  obtain ⟨y, hy, hyx⟩ := exists_left_of_related h.flip hx
  exact ⟨y, hy, hyx⟩

/-- A `filterMap` that drops nothing pairs the elements with their images. -/
theorem forall₂_of_filterMap {f : α → Option β} {xs : List α}
    (h : (xs.filterMap f).length = xs.length) :
    List.Forall₂ (fun x y => f x = some y) xs (xs.filterMap f) := by
  induction xs with
  | nil => exact .nil
  | cons x rest ih =>
    cases hx : f x with
    | none =>
      rw [List.filterMap_cons_none hx, List.length_cons] at h
      have hle := List.length_filterMap_le f rest
      omega
    | some y =>
      rw [List.filterMap_cons_some hx] at h ⊢
      exact .cons hx (ih (Nat.succ.inj h))

/-- A `mapM` that returns has an element of the result for each of its argument. -/
theorem related_of_mapM {ε : Type} {f : α → Except ε β} {xs : List α} {ys : List β}
    (h : xs.mapM f = .ok ys) : List.Forall₂ (fun x y => f x = .ok y) xs ys := by
  induction xs generalizing ys with
  | nil =>
    obtain rfl := Except.ok.inj h
    exact .nil
  | cons x xs ih =>
    rw [List.mapM_cons] at h
    cases hx : f x with
    | error e => simp [hx, bind, Except.bind] at h
    | ok y =>
      cases hxs : xs.mapM f with
      | error e => simp [hx, hxs, bind, Except.bind] at h
      | ok rest =>
        simp only [hx, hxs, bind, Except.bind] at h
        obtain rfl := Except.ok.inj h
        exact .cons hx (ih hxs)

/-- A `mapM` whose steps all return a partner of their argument returns the partners. -/
theorem exists_mapM {ε : Type} {f : α → Except ε β} {xs : List α}
    (h : ∀ x ∈ xs, ∃ y, f x = .ok y ∧ R x y) :
    ∃ ys, xs.mapM f = .ok ys ∧ List.Forall₂ R xs ys := by
  induction xs with
  | nil => exact ⟨[], rfl, .nil⟩
  | cons x xs ih =>
    obtain ⟨y, hy, hxy⟩ := h x List.mem_cons_self
    obtain ⟨ys, hys, hrelated⟩ := ih fun z hz => h z (List.mem_cons_of_mem _ hz)
    refine ⟨y :: ys, ?_, .cons hxy hrelated⟩
    rw [List.mapM_cons, hy, hys]
    rfl

/-- What is selected on one side is related to what is kept on the other, when each element is
    selected as its partner is kept. -/
theorem related_filterMap {p : α → Bool} {f : β → Option γ} {S : α → γ → Prop}
    (hnone : ∀ x y, R x y → f y = none → p x = false)
    (hsome : ∀ x y z, R x y → f y = some z → p x = true ∧ S x z)
    (h : List.Forall₂ R xs ys) : List.Forall₂ S (xs.filter p) (ys.filterMap f) := by
  induction h with
  | nil => exact .nil
  | @cons x y xs ys hxy _ ih =>
    cases hfy : f y with
    | none =>
      rw [List.filterMap_cons_none hfy, List.filter_cons_of_neg (by simp [hnone x y hxy hfy])]
      exact ih
    | some z =>
      obtain ⟨hp, hxz⟩ := hsome x y z hxy hfy
      rw [List.filterMap_cons_some hfy, List.filter_cons_of_pos hp]
      exact .cons hxz ih

/-- Sorting by keys that compare alike keeps the lists related. -/
theorem related_sortOn {κ κ' : Type} [LinearOrder κ] [LinearOrder κ'] {key : α → κ}
    {key' : β → κ'} (hkey : ∀ a b a' b', R a a' → R b b' → (key a ≤ key b ↔ key' a' ≤ key' b'))
    (h : List.Forall₂ R xs ys) : List.Forall₂ R (sortOn key xs) (sortOn key' ys) := by
  have hinsert : ∀ {a a'} {zs : List α} {ws : List β}, R a a' → List.Forall₂ R zs ws →
      List.Forall₂ R (zs.orderedInsert (fun a b => key a ≤ key b) a)
        (ws.orderedInsert (fun a b => key' a ≤ key' b) a') := by
    intro a a' zs ws ha hzs
    induction hzs with
    | nil => exact .cons ha .nil
    | @cons b b' zs ws hb hrest ih =>
      rw [List.orderedInsert_cons, List.orderedInsert_cons]
      by_cases hle : key a ≤ key b
      · rw [if_pos hle, if_pos ((hkey a b a' b' ha hb).mp hle)]
        exact .cons ha (.cons hb hrest)
      · rw [if_neg hle, if_neg (mt (hkey a b a' b' ha hb).mpr hle)]
        exact .cons hb ih
  induction h with
  | nil => exact .nil
  | cons ha _ ih => exact hinsert ha ih

/-- The greatest by keys that compare alike are related, or there is none. -/
theorem related_maxOn {κ κ' : Type} [LinearOrder κ] [LinearOrder κ'] {key : α → κ}
    {key' : β → κ'} (hkey : ∀ a b a' b', R a a' → R b b' → (key a < key b ↔ key' a' < key' b'))
    (h : List.Forall₂ R xs ys) : Option.Rel R (maxOn key xs) (maxOn key' ys) := by
  -- the fold is related from every pair of related starts
  have hfold : ∀ {best best'}, Option.Rel R best best' →
      Option.Rel R (xs.foldl (better key) best) (ys.foldl (better key') best') := by
    induction h with
    | nil => exact id
    | @cons x y xs ys hxy _ ih =>
      intro best best' hbest
      rw [List.foldl_cons, List.foldl_cons]
      apply ih
      cases hbest with
      | none => exact .some hxy
      | @some found found' hfound =>
        by_cases hlt : key found < key x
        · rw [better, better, if_pos hlt, if_pos ((hkey found x found' y hfound hxy).mp hlt)]
          exact .some hxy
        · rw [better, better, if_neg hlt, if_neg (mt (hkey found x found' y hfound hxy).mpr hlt)]
          exact .some hfound
  rw [maxOn, maxOn]
  exact hfold .none

/-- Both raise the same error, or both return and what they return is related. -/
inductive ResultsRelated {ε : Type} (R : α → β → Prop) : Except ε α → Except ε β → Prop
  | error (e : ε) : ResultsRelated R (.error e) (.error e)
  | ok {a : α} {b : β} (h : R a b) : ResultsRelated R (.ok a) (.ok b)

namespace ResultsRelated

variable {δ ε : Type} {S : γ → δ → Prop}

theorem of_eq {x y : Except ε α} (h : x = y) : ResultsRelated (· = ·) x y := by
  subst h
  cases x with
  | error e => exact .error e
  | ok a => exact .ok rfl

theorem imp {S : α → β → Prop} {x : Except ε α} {y : Except ε β} (h : ResultsRelated R x y)
    (himp : ∀ a b, R a b → S a b) : ResultsRelated S x y := by
  cases h with
  | error e => exact .error e
  | ok hab => exact .ok (himp _ _ hab)

theorem bind {x : Except ε α} {y : Except ε β} {f : α → Except ε γ} {g : β → Except ε δ}
    (h : ResultsRelated R x y) (hfg : ∀ a b, R a b → ResultsRelated S (f a) (g b)) :
    ResultsRelated S (x >>= f) (y >>= g) := by
  cases h with
  | error e => exact .error e
  | ok hab => exact hfg _ _ hab

theorem mapM {f : α → Except ε γ} {g : β → Except ε δ} (h : List.Forall₂ R xs ys)
    (hfg : ∀ a b, R a b → ResultsRelated S (f a) (g b)) :
    ResultsRelated (List.Forall₂ S) (xs.mapM f) (ys.mapM g) := by
  induction h with
  | nil => exact .ok .nil
  | cons hxy _ ih =>
    rw [List.mapM_cons, List.mapM_cons]
    exact (hfg _ _ hxy).bind fun _ _ hfirst => ih.bind fun _ _ hrest => .ok (.cons hfirst hrest)

theorem forM {f : α → Except ε Unit} {g : β → Except ε Unit} (h : List.Forall₂ R xs ys)
    (hfg : ∀ a b, R a b → f a = g b) : xs.forM f = ys.forM g := by
  induction h with
  | nil => rfl
  | @cons x y xs ys hxy _ ih =>
    change (f x >>= fun _ => xs.forM f) = (g y >>= fun _ => ys.forM g)
    rw [hfg x y hxy, ih]

end ResultsRelated

end Misc
