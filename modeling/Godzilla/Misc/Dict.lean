import Mathlib.Data.List.Dedup
import Mathlib.Data.List.Basic
import Mathlib.Data.List.Induction

/-!
# Insertion-ordered dictionaries

A finite map that remembers the order in which its keys were first written, as
the dictionaries of Python do: writing a present key replaces the value in
place, writing a new key appends. The key list is duplicate free by
construction, so every lookup lemma holds without a well-formedness premise.
-/

namespace Misc

/-- An insertion-ordered finite map; `nodup` is the dictionary invariant. -/
structure Dict (κ ν : Type) where
  entries : List (κ × ν)
  nodup : (entries.map Prod.fst).Nodup

namespace Dict

variable {κ ν : Type}

theorem ext {d e : Dict κ ν} (h : d.entries = e.entries) : d = e := by
  cases d; cases e; cases h; rfl

/-- The empty dictionary. -/
def empty : Dict κ ν := ⟨[], by simp⟩

/-- The keys in insertion order. -/
def keys (d : Dict κ ν) : List κ := d.entries.map Prod.fst

/-- The values in insertion order. -/
def values (d : Dict κ ν) : List ν := d.entries.map Prod.snd

/-- The number of keys. -/
def size (d : Dict κ ν) : Nat := d.entries.length

@[simp] theorem entries_empty : (empty : Dict κ ν).entries = [] := rfl
@[simp] theorem keys_empty : (empty : Dict κ ν).keys = [] := rfl
@[simp] theorem values_empty : (empty : Dict κ ν).values = [] := rfl

theorem keys_nodup (d : Dict κ ν) : d.keys.Nodup := d.nodup

theorem length_keys (d : Dict κ ν) : d.keys.length = d.size := by simp [keys, size]

variable [DecidableEq κ]

/-- Association-list lookup of the first binding. -/
def assoc (k : κ) : List (κ × ν) → Option ν
  | [] => none
  | (a, v) :: rest => if a = k then some v else assoc k rest

/-- Replace the binding of `k` in place, or append one. -/
def assign (k : κ) (v : ν) : List (κ × ν) → List (κ × ν)
  | [] => [(k, v)]
  | (a, w) :: rest => if a = k then (k, v) :: rest else (a, w) :: assign k v rest

example : assoc 2 (assign 1 'b' [(2, 'a'), (1, 'c')]) = some 'a' := by simp [assign, assoc]

theorem mem_keys_assign {k a : κ} {v : ν} {l : List (κ × ν)} :
    a ∈ (assign k v l).map Prod.fst ↔ a = k ∨ a ∈ l.map Prod.fst := by
  induction l with
  | nil => simp [assign]
  | cons head rest ih =>
    obtain ⟨b, w⟩ := head
    by_cases hb : b = k
    · subst hb; simp [assign]
    · simp only [assign, hb, if_false, List.map_cons, List.mem_cons, ih]
      tauto

theorem nodup_assign {k : κ} {v : ν} {l : List (κ × ν)} (h : (l.map Prod.fst).Nodup) :
    ((assign k v l).map Prod.fst).Nodup := by
  induction l with
  | nil => simp [assign]
  | cons head rest ih =>
    obtain ⟨b, w⟩ := head
    simp only [List.map_cons, List.nodup_cons] at h
    by_cases hb : b = k
    · subst hb
      simpa [assign] using h
    · simp only [assign, hb, if_false, List.map_cons, List.nodup_cons]
      refine ⟨fun hm => ?_, ih h.2⟩
      rcases mem_keys_assign.mp hm with rfl | hm
      · exact hb rfl
      · exact h.1 hm

theorem assoc_assign (k a : κ) (v : ν) (l : List (κ × ν)) :
    assoc a (assign k v l) = if a = k then some v else assoc a l := by
  induction l with
  | nil => simp [assign, assoc, eq_comm]
  | cons head rest ih =>
    obtain ⟨b, w⟩ := head
    by_cases hb : b = k
    · subst hb
      by_cases h : a = b
      · subst h; simp [assign, assoc]
      · have h' : b ≠ a := fun e => h e.symm
        simp [assign, assoc, h, h']
    · simp only [assign, hb, if_false, assoc, ih]
      by_cases h : b = a
      · subst h; simp [hb]
      · simp [h]

theorem assoc_eq_some_of_nodup {l : List (κ × ν)} (h : (l.map Prod.fst).Nodup) {k : κ} {v : ν} :
    assoc k l = some v ↔ (k, v) ∈ l := by
  induction l with
  | nil => simp [assoc]
  | cons head rest ih =>
    obtain ⟨b, w⟩ := head
    simp only [List.map_cons, List.nodup_cons] at h
    by_cases hb : b = k
    · subst hb
      have hrest : (b, v) ∉ rest := fun hm => h.1 (List.mem_map_of_mem (f := Prod.fst) hm)
      simp [assoc, hrest, eq_comm]
    · have hb' : k ≠ b := fun e => hb e.symm
      simp [assoc, hb, hb', ih h.2]

theorem assoc_eq_none {l : List (κ × ν)} {k : κ} :
    assoc k l = none ↔ k ∉ l.map Prod.fst := by
  induction l with
  | nil => simp [assoc]
  | cons head rest ih =>
    obtain ⟨b, w⟩ := head
    by_cases hb : b = k
    · subst hb; simp [assoc]
    · have hb' : k ≠ b := fun e => hb e.symm
      simp only [assoc, hb, if_false, ih, List.map_cons, List.mem_cons, hb', false_or]

/-- `d[k]`, absent when the key is unknown. -/
def get? (d : Dict κ ν) (k : κ) : Option ν := assoc k d.entries

/-- `d[k] = v`. -/
def insert (d : Dict κ ν) (k : κ) (v : ν) : Dict κ ν :=
  ⟨assign k v d.entries, nodup_assign d.nodup⟩

@[simp] theorem get?_empty (k : κ) : (empty : Dict κ ν).get? k = none := rfl

theorem get?_insert (d : Dict κ ν) (k a : κ) (v : ν) :
    (d.insert k v).get? a = if a = k then some v else d.get? a :=
  assoc_assign k a v d.entries

@[simp] theorem get?_insert_self (d : Dict κ ν) (k : κ) (v : ν) :
    (d.insert k v).get? k = some v := by simp [get?_insert]

theorem get?_insert_of_ne (d : Dict κ ν) {k a : κ} (v : ν) (h : a ≠ k) :
    (d.insert k v).get? a = d.get? a := by simp [get?_insert, h]

theorem mem_entries_iff (d : Dict κ ν) {k : κ} {v : ν} :
    (k, v) ∈ d.entries ↔ d.get? k = some v :=
  (assoc_eq_some_of_nodup d.nodup).symm

theorem mem_keys_iff (d : Dict κ ν) {k : κ} : k ∈ d.keys ↔ (d.get? k).isSome := by
  rw [Option.isSome_iff_ne_none, ne_eq]
  constructor
  · intro h hn; exact assoc_eq_none.mp hn h
  · intro h
    by_contra hk
    exact h (assoc_eq_none.mpr hk)

theorem mem_values_iff (d : Dict κ ν) {v : ν} : v ∈ d.values ↔ ∃ k, d.get? k = some v := by
  constructor
  · intro h
    obtain ⟨⟨k, w⟩, hm, rfl⟩ := List.mem_map.mp h
    exact ⟨k, d.mem_entries_iff.mp hm⟩
  · rintro ⟨k, hk⟩
    exact List.mem_map.mpr ⟨(k, v), d.mem_entries_iff.mpr hk, rfl⟩

theorem mem_keys_insert (d : Dict κ ν) (k a : κ) (v : ν) :
    a ∈ (d.insert k v).keys ↔ a = k ∨ a ∈ d.keys := mem_keys_assign

theorem assign_of_not_mem {k : κ} {v : ν} {l : List (κ × ν)} (h : k ∉ l.map Prod.fst) :
    assign k v l = l ++ [(k, v)] := by
  induction l with
  | nil => rfl
  | cons head rest ih =>
    rw [List.map_cons, List.mem_cons, not_or] at h
    simp [assign, Ne.symm h.1, ih h.2]

/-- Writing a new key appends its entry. -/
theorem entries_insert_of_not_mem {d : Dict κ ν} {k : κ} {v : ν} (h : k ∉ d.keys) :
    (d.insert k v).entries = d.entries ++ [(k, v)] := assign_of_not_mem h

theorem keys_assign_of_mem {k : κ} {v : ν} {l : List (κ × ν)} (h : k ∈ l.map Prod.fst) :
    (assign k v l).map Prod.fst = l.map Prod.fst := by
  induction l with
  | nil => cases h
  | cons head rest ih =>
    obtain ⟨b, w⟩ := head
    by_cases hb : b = k
    · simp [assign, hb]
    · have hrest : k ∈ rest.map Prod.fst := by
        rcases List.mem_cons.mp h with heq | hrest
        · exact absurd heq.symm hb
        · exact hrest
      simp [assign, hb, ih hrest]

/-- Writing keeps the order of the known keys and puts a new one last. -/
theorem keys_insert (d : Dict κ ν) (k : κ) (v : ν) :
    (d.insert k v).keys = if k ∈ d.keys then d.keys else d.keys ++ [k] := by
  split
  · next h => exact keys_assign_of_mem h
  · next h => rw [keys, entries_insert_of_not_mem h, List.map_append]; rfl

/-- `{key(x): value(x) for x in pairs}`: later bindings win, first positions stay. -/
def ofList (pairs : List (κ × ν)) : Dict κ ν :=
  pairs.foldl (fun d p => d.insert p.1 p.2) empty

/-- `{key(x): x for x in xs}`. -/
def index (key : ν → κ) (xs : List ν) : Dict κ ν := ofList (xs.map fun x => (key x, x))

theorem mem_keys_foldl (pairs : List (κ × ν)) (d : Dict κ ν) (k : κ) :
    k ∈ (pairs.foldl (fun d p => d.insert p.1 p.2) d).keys ↔
      k ∈ d.keys ∨ k ∈ pairs.map Prod.fst := by
  induction pairs generalizing d with
  | nil => simp
  | cons p rest ih =>
    rw [List.foldl_cons, ih, mem_keys_insert, List.map_cons, List.mem_cons]
    tauto

theorem mem_keys_ofList (pairs : List (κ × ν)) (k : κ) :
    k ∈ (ofList pairs).keys ↔ k ∈ pairs.map Prod.fst := by
  simpa [ofList] using mem_keys_foldl pairs empty k

theorem get?_foldl_mem {pairs : List (κ × ν)} {d : Dict κ ν} {k : κ} {v : ν}
    (h : (pairs.foldl (fun d p => d.insert p.1 p.2) d).get? k = some v) :
    (k, v) ∈ pairs ∨ d.get? k = some v := by
  induction pairs generalizing d with
  | nil => exact Or.inr h
  | cons p rest ih =>
    rw [List.foldl_cons] at h
    rcases ih h with hm | hg
    · exact Or.inl (List.mem_cons_of_mem _ hm)
    · rw [get?_insert] at hg
      by_cases hk : k = p.1
      · subst hk
        simp only [if_true, Option.some.injEq] at hg
        subst hg
        exact Or.inl List.mem_cons_self
      · rw [if_neg hk] at hg
        exact Or.inr hg

/-- A value found in a comprehension was one of its bindings. -/
theorem mem_of_get?_ofList {pairs : List (κ × ν)} {k : κ} {v : ν}
    (h : (ofList pairs).get? k = some v) : (k, v) ∈ pairs := by
  rcases get?_foldl_mem h with hm | hg
  · exact hm
  · simp at hg

theorem mem_of_get?_index {key : ν → κ} {xs : List ν} {k : κ} {v : ν}
    (h : (index key xs).get? k = some v) : v ∈ xs ∧ key v = k := by
  obtain ⟨x, hx, he⟩ := List.mem_map.mp (mem_of_get?_ofList h)
  obtain ⟨rfl, rfl⟩ := Prod.mk.inj he
  exact ⟨hx, rfl⟩

theorem mem_keys_index (key : ν → κ) (xs : List ν) (k : κ) :
    k ∈ (index key xs).keys ↔ ∃ x ∈ xs, key x = k := by
  simp [index, mem_keys_ofList]

theorem get?_index_isSome_iff (key : ν → κ) (xs : List ν) (k : κ) :
    ((index key xs).get? k).isSome ↔ ∃ x ∈ xs, key x = k := by
  rw [← mem_keys_iff, mem_keys_index]

/-- With distinct keys a comprehension finds exactly its bindings. -/
theorem get?_ofList_of_nodup {pairs : List (κ × ν)} (h : (pairs.map Prod.fst).Nodup) {k : κ}
    {v : ν} : (ofList pairs).get? k = some v ↔ (k, v) ∈ pairs := by
  constructor
  · exact mem_of_get?_ofList
  · intro hv
    have hkey : k ∈ (ofList pairs).keys :=
      (mem_keys_ofList pairs k).mpr (List.mem_map_of_mem (f := Prod.fst) hv)
    obtain ⟨w, hw⟩ := Option.isSome_iff_exists.mp ((mem_keys_iff _).mp hkey)
    have hsame := List.inj_on_of_nodup_map h (mem_of_get?_ofList hw) hv rfl
    rw [hw, (Prod.mk.inj hsame).2]

/-- Distinct keys make the lookups of a comprehension independent of the order of its
    bindings. -/
theorem get?_ofList_perm {xs ys : List (κ × ν)} (hp : xs.Perm ys)
    (h : (xs.map Prod.fst).Nodup) (k : κ) : (ofList xs).get? k = (ofList ys).get? k := by
  have h' : (ys.map Prod.fst).Nodup := (hp.map Prod.fst).nodup_iff.mp h
  apply Option.ext
  intro v
  rw [get?_ofList_of_nodup h, get?_ofList_of_nodup h', hp.mem_iff]

/-- The size of a comprehension is its number of distinct keys. -/
theorem size_ofList (pairs : List (κ × ν)) :
    (ofList pairs).size = (pairs.map Prod.fst).dedup.length := by
  have hperm : (ofList pairs).keys.Perm (pairs.map Prod.fst).dedup := by
    rw [List.perm_ext_iff_of_nodup (keys_nodup _) (List.nodup_dedup _)]
    intro k
    rw [mem_keys_ofList, List.mem_dedup]
  rw [← length_keys, hperm.length_eq]

omit [DecidableEq κ] in
/-- `len(set(xs)) == len(xs)`. -/
theorem length_dedup_eq_iff {α : Type} [DecidableEq α] {xs : List α} :
    xs.dedup.length = xs.length ↔ xs.Nodup := by
  constructor
  · intro h
    rw [← (List.dedup_sublist xs).eq_of_length h]
    exact List.nodup_dedup _
  · intro h
    rw [h.dedup]

/-- A comprehension keeps one entry per source element exactly when no key repeats. -/
theorem size_index_eq_length_iff (key : ν → κ) (xs : List ν) :
    (index key xs).size = xs.length ↔ (xs.map key).Nodup := by
  have hkeys : (xs.map fun x => (key x, x)).map Prod.fst = xs.map key := by simp
  rw [index, size_ofList, hkeys, ← length_dedup_eq_iff, List.length_map]

theorem index_concat (key : ν → κ) (xs : List ν) (x : ν) :
    index key (xs ++ [x]) = (index key xs).insert (key x) x := by
  simp [index, ofList]

/-- A comprehension over a reversed list finds the first element with the key. -/
theorem get?_index_reverse (key : ν → κ) (xs : List ν) (k : κ) :
    (index key xs.reverse).get? k = xs.find? fun x => key x = k := by
  induction xs with
  | nil => rfl
  | cons x rest ih =>
    rw [List.reverse_cons, index_concat, get?_insert, ih, List.find?_cons]
    by_cases h : k = key x
    · simp [h]
    · simp [h, Ne.symm h]

/-- Values that carry their keys list them in order. -/
theorem map_values {d : Dict κ ν} {key : ν → κ} (h : ∀ k v, d.get? k = some v → key v = k) :
    d.values.map key = d.keys := by
  rw [values, keys, List.map_map]
  refine List.map_congr_left ?_
  rintro ⟨k, v⟩ hmem
  exact h k v (d.mem_entries_iff.mp hmem)

/-- The values of a comprehension carry their keys. -/
theorem map_values_index (key : ν → κ) (xs : List ν) :
    (index key xs).values.map key = (index key xs).keys :=
  map_values fun _ _ h => (mem_of_get?_index h).2

/-- With distinct keys a comprehension keeps every element in its place. -/
theorem values_index_of_nodup {key : ν → κ} {xs : List ν} (h : (xs.map key).Nodup) :
    (index key xs).values = xs := by
  induction xs using List.reverseRecOn with
  | nil => rfl
  | append_singleton xs x ih =>
    rw [List.map_append, List.map_singleton, List.nodup_append] at h
    obtain ⟨hxs, -, hx⟩ := h
    have hnew : key x ∉ (index key xs).keys := by
      rw [mem_keys_index, ← List.mem_map]
      exact fun hmem => hx _ hmem _ (List.mem_singleton_self _) rfl
    rw [index_concat, values, entries_insert_of_not_mem hnew, List.map_append, ← values, ih hxs]
    rfl

/-- With distinct keys a comprehension finds exactly the source elements. -/
theorem get?_index_of_nodup {key : ν → κ} {xs : List ν} (h : (xs.map key).Nodup) {k : κ} {v : ν} :
    (index key xs).get? k = some v ↔ v ∈ xs ∧ key v = k := by
  have hkeys : ((xs.map fun x => (key x, x)).map Prod.fst).Nodup := by
    rwa [List.map_map]
  rw [index, get?_ofList_of_nodup hkeys, List.mem_map]
  constructor
  · rintro ⟨x, hx, heq⟩
    obtain ⟨rfl, rfl⟩ := Prod.mk.inj heq
    exact ⟨hx, rfl⟩
  · rintro ⟨hv, rfl⟩
    exact ⟨v, hv, rfl⟩

/-- Distinct keys make the lookups of a comprehension independent of the source order. -/
theorem get?_index_perm {key : ν → κ} {xs ys : List ν} (hp : xs.Perm ys)
    (h : (xs.map key).Nodup) (k : κ) : (index key xs).get? k = (index key ys).get? k := by
  have h' : (ys.map key).Nodup := (hp.map key).nodup_iff.mp h
  apply Option.ext
  intro v
  rw [get?_index_of_nodup h, get?_index_of_nodup h', hp.mem_iff]

/-- The size of a comprehension does not depend on the order of its bindings. -/
theorem size_ofList_perm {xs ys : List (κ × ν)} (hp : xs.Perm ys) :
    (ofList xs).size = (ofList ys).size := by
  rw [size_ofList, size_ofList, (hp.map Prod.fst).dedup.length_eq]

end Dict

end Misc
