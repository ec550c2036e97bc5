import Godzilla.Misc.Raises
import Godzilla.Misc.Sorted

/-!
# The last items of a stable sort

The items that a stable sort puts last are the same for every order of the input exactly when
items that tie there are equal: an item that comes last in the input comes last among the items
that tie with it.
-/

namespace Misc

variable {α κ : Type} [LinearOrder κ] {key : α → κ}

theorem orderedInsert_append_singleton {x a : α} {xs : List α} (h : key x ≤ key a) :
    (xs ++ [a]).orderedInsert (fun a b => key a ≤ key b) x =
      xs.orderedInsert (fun a b => key a ≤ key b) x ++ [a] := by
  induction xs with
  | nil => simp [List.orderedInsert, h]
  | cons y ys ih =>
    by_cases hle : key x ≤ key y
    · simp [hle]
    · simp [hle, ih]

/-- An item as great as all the others that comes last stays last. -/
theorem sortOn_append_singleton {xs : List α} {a : α} (h : ∀ x ∈ xs, key x ≤ key a) :
    sortOn key (xs ++ [a]) = sortOn key xs ++ [a] := by
  induction xs with
  | nil => rfl
  | cons x xs ih =>
    have hrest := ih fun y hy => h y (List.mem_cons_of_mem x hy)
    change (sortOn key (xs ++ [a])).orderedInsert _ x = (sortOn key xs).orderedInsert _ x ++ [a]
    rw [hrest, orderedInsert_append_singleton (h x List.mem_cons_self)]

theorem filter_append_filter {xs : List α} (h : xs.Pairwise fun a b => key a ≤ key b) (k : κ) :
    xs = xs.filter (fun x => key x ≤ k) ++ xs.filter fun x => k < key x := by
  induction xs with
  | nil => rfl
  | cons x xs ih =>
    obtain ⟨hfirst, hrest⟩ := List.pairwise_cons.mp h
    by_cases hle : key x ≤ k
    · have hrest' := ih hrest
      simp only [List.filter_cons, decide_eq_true hle, if_true, decide_eq_false (not_lt.mpr hle),
        Bool.false_eq_true, if_false, List.cons_append]
      rw [← hrest']
    · have hnone : xs.filter (fun y => key y ≤ k) = [] := by
        rw [List.filter_eq_nil_iff]
        intro y hy
        simpa using (not_le.mp hle).trans_le (hfirst y hy)
      have hall : xs.filter (fun y => k < key y) = xs := by
        rw [List.filter_eq_self]
        intro y hy
        simpa using (not_le.mp hle).trans_le (hfirst y hy)
      simp [hle, hnone, hall, not_le.mp hle]

/-- What is sorted before an item that comes last in the input, and what is sorted after it. -/
theorem sortOn_concat (xs : List α) (a : α) :
    sortOn key (xs ++ [a]) = sortOn key (xs.filter fun x => key x ≤ key a) ++
      a :: sortOn key (xs.filter fun x => key a < key x) := by
  have hsplit := filter_append_filter (sortOn_pairwise key (xs ++ [a])) (key a)
  rw [filter_sortOn, filter_sortOn, List.filter_append, List.filter_append] at hsplit
  rw [hsplit]
  simp only [List.filter_cons, le_refl, decide_true, if_true, List.filter_nil, lt_self_iff_false,
    decide_false, Bool.false_eq_true, if_false, List.append_nil]
  rw [sortOn_append_singleton fun x hx => by simpa using (List.mem_filter.mp hx).2]
  simp

/-- The keys come out in the same order whatever the order of the items. -/
theorem map_sortOn_perm {xs ys : List α} (hp : xs.Perm ys) :
    (sortOn key xs).map key = (sortOn key ys).map key := by
  have hsame : ((sortOn key xs).map key).Perm ((sortOn key ys).map key) :=
    ((sortOn_perm key xs).trans (hp.trans (sortOn_perm key ys).symm)).map key
  have hsorted : ∀ zs : List α, ((sortOn key zs).map key).Pairwise (· ≤ ·) := fun zs =>
    List.pairwise_map.mpr (sortOn_pairwise key zs)
  exact List.Perm.eq_of_pairwise (fun _ _ _ _ => le_antisymm) (hsorted xs) (hsorted ys) hsame

/-- The last `count` items of the sorted list. -/
def latest (key : α → κ) (count : Nat) (xs : List α) : List α :=
  (sortOn key xs).drop (xs.length - count)

theorem length_latest {count : Nat} {xs : List α} (h : count ≤ (latest key count xs).length) :
    (latest key count xs).length = count := by
  rw [latest, List.length_drop, length_sortOn] at h ⊢
  omega

theorem latest_pairwise (key : α → κ) (count : Nat) (xs : List α) :
    (latest key count xs).Pairwise fun a b => key a ≤ key b :=
  (sortOn_pairwise key xs).sublist (List.drop_sublist _ _)

/-- The last items are found among those from a bound on, when these are enough. -/
theorem latest_filter {count : Nat} {xs : List α} {k : κ}
    (h : count ≤ (xs.filter fun x => k ≤ key x).length) :
    latest key count (xs.filter fun x => k ≤ key x) = latest key count xs := by
  have hupward : (sortOn key xs).Pairwise fun a b =>
      decide (k ≤ key a) = true → decide (k ≤ key b) = true := by
    refine (sortOn_pairwise key xs).imp fun {a b} hle ha => ?_
    rw [decide_eq_true_eq] at ha ⊢
    exact ha.trans hle
  obtain ⟨n, hdrop, -⟩ := filter_eq_drop hupward
  have hlength := congrArg List.length hdrop
  rw [filter_sortOn, length_sortOn, List.length_drop, length_sortOn] at hlength
  rw [latest, latest, ← filter_sortOn, hdrop, List.drop_drop]
  by_cases hn : n ≤ xs.length
  · congr 1
    omega
  · rw [List.drop_eq_nil_of_le, List.drop_eq_nil_of_le]
    · rw [length_sortOn]
      omega
    · rw [length_sortOn]
      omega

/-- `ys` is `xs` with further items that satisfy `P`, anywhere. -/
inductive Inserted (P : α → Prop) : List α → List α → Prop
  | nil : Inserted P [] []
  | keep (a : α) {xs ys : List α} : Inserted P xs ys → Inserted P (a :: xs) (a :: ys)
  | add (a : α) {xs ys : List α} : P a → Inserted P xs ys → Inserted P xs (a :: ys)

omit [LinearOrder κ] in
theorem Inserted.refl {P : α → Prop} : ∀ xs : List α, Inserted P xs xs
  | [] => .nil
  | a :: xs => .keep a (Inserted.refl xs)

omit [LinearOrder κ] in
/-- A selection that none of the further items passes is unchanged. -/
theorem Inserted.filter_eq {P : α → Prop} {p : α → Bool} {xs ys : List α}
    (h : Inserted P xs ys) (hp : ∀ a, P a → p a = false) : ys.filter p = xs.filter p := by
  induction h with
  | nil => rfl
  | keep a _ ih => rw [List.filter_cons, List.filter_cons, ih]
  | add a ha _ ih => rw [List.filter_cons, hp a ha, ih]; rfl

/-- Items below all that were last do not change which items are last. -/
theorem latest_inserted {count : Nat} {P : α → Prop} {xs ys : List α} {k : κ}
    (hinserted : Inserted P xs ys) (hbelow : ∀ a, P a → key a < k)
    (hlast : ∀ a ∈ latest key count xs, k ≤ key a)
    (henough : count ≤ (latest key count xs).length) :
    latest key count ys = latest key count xs := by
  have hfilter : ys.filter (fun x => k ≤ key x) = xs.filter fun x => k ≤ key x :=
    hinserted.filter_eq fun a ha => decide_eq_false (not_le.mpr (hbelow a ha))
  have hcount : count ≤ (xs.filter fun x => k ≤ key x).length := by
    have hsub : (latest key count xs).Sublist (sortOn key xs) := List.drop_sublist _ _
    have hall : (latest key count xs).filter (fun x => k ≤ key x) = latest key count xs :=
      List.filter_eq_self.mpr fun a ha => decide_eq_true (hlast a ha)
    have hlength := (hsub.filter fun x => decide (k ≤ key x)).length_le
    rw [hall, filter_sortOn, length_sortOn] at hlength
    exact henough.trans hlength
  rw [← latest_filter (hfilter ▸ hcount), ← latest_filter hcount, hfilter]

/-- Fewer than `count` items are greater. -/
def Recent (key : α → κ) (count : Nat) (xs : List α) (a : α) : Prop :=
  (xs.filter fun x => key a < key x).length < count

/-- Items that tie among the last `count` are equal. -/
def TiesAgree (key : α → κ) (count : Nat) (xs : List α) : Prop :=
  ∀ a ∈ xs, ∀ b ∈ xs, Recent key count xs a → key a = key b → a = b

/-- The items among the last `count` have fewer than `count` items after them. -/
theorem recent_of_getElem? {count i : Nat} {xs : List α} {a : α}
    (hi : xs.length - count ≤ i) (ha : (sortOn key xs)[i]? = some a) : Recent key count xs a := by
  have hlength := length_sortOn key xs
  obtain ⟨hbound, hget⟩ := List.getElem?_eq_some_iff.mp ha
  have hbefore : ((sortOn key xs).take (i + 1)).filter (fun x => key a < key x) = [] := by
    rw [List.filter_eq_nil_iff]
    intro x hx
    obtain ⟨j, hj, rfl⟩ := List.mem_iff_getElem.mp hx
    rw [List.length_take] at hj
    rw [List.getElem_take, decide_eq_true_eq, not_lt, ← hget]
    rcases Nat.lt_or_eq_of_le (Nat.le_of_lt_succ (Nat.lt_min.mp hj).1) with hlt | rfl
    · exact List.pairwise_iff_getElem.mp (sortOn_pairwise key xs) j i _ hbound hlt
    · exact le_refl _
  have hcount : (xs.filter fun x => key a < key x).length =
      (((sortOn key xs).drop (i + 1)).filter fun x => key a < key x).length := by
    rw [← ((sortOn_perm key xs).filter _).length_eq,
      ← List.take_append_drop (i + 1) (sortOn key xs), List.filter_append, hbefore,
      List.nil_append, List.take_append_drop]
  have hafter := List.length_filter_le (fun x => decide (key a < key x))
    ((sortOn key xs).drop (i + 1))
  rw [List.length_drop] at hafter
  rw [Recent, hcount]
  omega

theorem latest_eq_of_tiesAgree {count : Nat} {xs ys : List α} (hp : xs.Perm ys)
    (h : TiesAgree key count xs) : latest key count xs = latest key count ys := by
  have hlength := hp.length_eq
  rw [latest, latest, ← hlength]
  refine List.ext_getElem? fun j => ?_
  rw [List.getElem?_drop, List.getElem?_drop]
  have hkeys : ((sortOn key xs).map key)[xs.length - count + j]? =
      ((sortOn key ys).map key)[xs.length - count + j]? := by
    rw [map_sortOn_perm hp]
  rw [List.getElem?_map, List.getElem?_map] at hkeys
  cases ha : (sortOn key xs)[xs.length - count + j]? with
  | none =>
    rw [ha] at hkeys
    exact (Option.map_eq_none_iff.mp hkeys.symm).symm
  | some a =>
    rw [ha] at hkeys
    obtain ⟨b, hb, hkey⟩ := Option.map_eq_some_iff.mp hkeys.symm
    have hrecent : Recent key count xs a := recent_of_getElem? (Nat.le_add_right _ j) ha
    have hamem : a ∈ xs := mem_sortOn.mp (List.mem_of_getElem? ha)
    have hbmem : b ∈ xs := hp.mem_iff.mpr (mem_sortOn.mp (List.mem_of_getElem? hb))
    rw [hb, h a hamem b hbmem hrecent hkey.symm]

/-- Of the items that tie the one that comes last in the input is selected in its place. -/
theorem latest_concat {count : Nat} {xs : List α} {a : α}
    (h : (xs.filter fun x => key a < key x).length < count) :
    ∃ before, latest key count (xs ++ [a]) =
      before ++ a :: sortOn key (xs.filter fun x => key a < key x) := by
  have hall := (filter_append_filter (sortOn_pairwise key xs) (key a)).symm
  have hlength := congrArg List.length hall
  rw [filter_sortOn, filter_sortOn, List.length_append, length_sortOn, length_sortOn,
    length_sortOn] at hlength
  refine ⟨(sortOn key (xs.filter fun x => key x ≤ key a)).drop ((xs ++ [a]).length - count), ?_⟩
  rw [latest, sortOn_concat, List.drop_append_of_le_length]
  rw [length_sortOn, List.length_append, List.length_singleton]
  omega

/-- Every order of the input has the same last items exactly when items that tie there are
    equal. -/
theorem latest_order_iff {count : Nat} {xs : List α} :
    (∀ ys : List α, ys.Perm xs → latest key count ys = latest key count xs) ↔
      TiesAgree key count xs := by
  constructor
  · intro hsame a ha b hb hrecent hkey
    -- move each of the two to the end of the input
    have hlast : ∀ c ∈ xs, key c = key a → ∃ before after,
        latest key count xs = before ++ c :: after ∧
          after.length = (xs.filter fun x => key a < key x).length := by
      intro c hc hckey
      obtain ⟨front, back, rfl⟩ := List.append_of_mem hc
      have hp : (front ++ back ++ [c]).Perm (front ++ c :: back) := by
        rw [List.append_assoc]
        exact List.Perm.append_left front (List.perm_append_singleton c back)
      have hcount : ((front ++ back).filter fun x => key c < key x).length =
          ((front ++ c :: back).filter fun x => key a < key x).length := by
        rw [← (hp.filter _).length_eq, List.filter_append _ [c]]
        simp [hckey]
      have hfew : ((front ++ back).filter fun x => key c < key x).length < count :=
        hcount.trans_lt hrecent
      obtain ⟨before, hbefore⟩ := latest_concat hfew
      refine ⟨before, _, (hsame _ hp).symm.trans hbefore, ?_⟩
      rw [length_sortOn, hcount]
    obtain ⟨before, after, heq, hafter⟩ := hlast a ha rfl
    obtain ⟨before', after', heq', hafter'⟩ := hlast b hb hkey.symm
    have hsplit := List.append_inj' (heq.symm.trans heq') (by simp [hafter, hafter'])
    exact (List.cons.inj hsplit.2).1
  · intro h ys hp
    exact (latest_eq_of_tiesAgree hp.symm h).symm

/-- An order of the selected items is that of an order of all items. -/
theorem exists_filter_eq {p : α → Bool} {xs rows : List α} (hp : rows.Perm (xs.filter p)) :
    ∃ ys : List α, ys.Perm xs ∧ ys.filter p = rows := by
  refine ⟨rows ++ xs.filter fun x => !p x, ?_, ?_⟩
  · exact (hp.append_right _).trans (List.filter_append_perm _ xs)
  · have hall : rows.filter p = rows :=
      List.filter_eq_self.mpr fun x hx => (List.mem_filter.mp (hp.mem_iff.mp hx)).2
    rw [List.filter_append, hall, List.filter_filter]
    simp

/-- Every order of the input gives one result when items that tie among the last of the selected
    ones are equal, or when none of the orders gives any. -/
theorem sameResult_latest {ε β : Type} {f : List α → Except ε β} {p : α → Bool} {count : Nat}
    {xs : List α} (h : TiesAgree key count (xs.filter p) ∨
      ∀ ys : List α, ys.Perm (xs.filter p) → ∀ b, f (latest key count ys) ≠ .ok b)
    (ys : List α) (hp : ys.Perm xs) :
    SameResult (f (latest key count (xs.filter p))) (f (latest key count (ys.filter p))) := by
  rcases h with hties | hnone
  · rw [latest_eq_of_tiesAgree (hp.symm.filter p) hties]
    exact .refl _
  · refine .of_ok_iff fun b => ?_
    exact iff_of_false (hnone _ (List.Perm.refl _) b) (hnone _ (hp.filter p) b)

/-- And only then, where a result tells from which items it came. -/
theorem tiesAgree_of_sameResult {ε β : Type} {f : List α → Except ε β} {p : α → Bool}
    {count : Nat} {xs : List α}
    (hinjective : ∀ ys zs : List α, ys.Perm (xs.filter p) → zs.Perm (xs.filter p) → ∀ b,
      f (latest key count ys) = .ok b → f (latest key count zs) = .ok b →
        latest key count ys = latest key count zs)
    (hsame : ∀ ys : List α, ys.Perm xs →
      SameResult (f (latest key count (xs.filter p))) (f (latest key count (ys.filter p)))) :
    TiesAgree key count (xs.filter p) ∨
      ∀ ys : List α, ys.Perm (xs.filter p) → ∀ b, f (latest key count ys) ≠ .ok b := by
  by_cases hnone : ∀ ys : List α, ys.Perm (xs.filter p) → ∀ b, f (latest key count ys) ≠ .ok b
  · exact .inr hnone
  · push Not at hnone
    obtain ⟨ys, hys, b, hb⟩ := hnone
    -- what one order gives every order gives
    have hevery : ∀ zs : List α, zs.Perm (xs.filter p) → f (latest key count zs) = .ok b := by
      intro zs hzs
      obtain ⟨first, hfirst, heq⟩ := exists_filter_eq hys
      obtain ⟨second, hsecond, heq'⟩ := exists_filter_eq hzs
      have hone := hsame first hfirst
      have hother := hsame second hsecond
      rw [heq] at hone
      rw [heq'] at hother
      exact hother.ok_iff.mp (hone.ok_iff.mpr hb)
    left
    refine latest_order_iff.mp fun zs hzs => ?_
    exact hinjective zs _ hzs (List.Perm.refl _) b (hevery zs hzs) (hevery _ (List.Perm.refl _))

end Misc
