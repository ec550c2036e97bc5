import Godzilla.Misc.Dict

/-!
# Tables kept in step with a log

A table that takes at most one row from every entry of a log, rejects a row that
clashes with an earlier one, and never changes a row it has. Such a table is a
function of the log, and a dictionary that keeps the first value of every key is
one too.
-/

namespace Misc

variable {α β κ : Type} {clash : β → β → Bool} {rowOf : α → Option β}

/-- One entry's row is added, clashing with none before it. -/
structure Appends (clash : β → β → Bool) (new : Option β) (rows rows' : List β) : Prop where
  rows_eq : rows' = rows ++ new.toList
  fresh : ∀ row ∈ new, ∀ earlier ∈ rows, clash row earlier = false

/-- An entry without a row leaves the table. -/
theorem Appends.none (rows : List β) : Appends clash none rows rows where
  rows_eq := (List.append_nil rows).symm
  fresh := by
    intro row hrow
    cases hrow

/-- The rows of the entries of a log in their order, no row clashing with an earlier one. -/
structure Projects (clash : β → β → Bool) (rowOf : α → Option β) (log : List α)
    (rows : List β) : Prop where
  rows_eq : rows = log.filterMap rowOf
  distinct : rows.Pairwise fun earlier later => clash later earlier = false

theorem Projects.nil : Projects clash rowOf [] [] where
  rows_eq := rfl
  distinct := List.Pairwise.nil

theorem filterMap_concat (rowOf : α → Option β) (log : List α) (entry : α) :
    (log ++ [entry]).filterMap rowOf = log.filterMap rowOf ++ (rowOf entry).toList := by
  rw [List.filterMap_append]
  cases hrow : rowOf entry <;> simp [hrow]

theorem Projects.concat {log : List α} {entry : α} {rows rows' : List β}
    (h : Projects clash rowOf log rows) (hnew : Appends clash (rowOf entry) rows rows') :
    Projects clash rowOf (log ++ [entry]) rows' where
  rows_eq := by rw [hnew.rows_eq, filterMap_concat, h.rows_eq]
  distinct := by
    rw [hnew.rows_eq, List.pairwise_append]
    refine ⟨h.distinct, ?_, ?_⟩
    · cases rowOf entry with
      | none => exact List.Pairwise.nil
      | some row => exact List.pairwise_singleton _ row
    · intro earlier hearlier row hrow
      exact hnew.fresh row (by simpa using hrow) earlier hearlier

/-- Looking up a row by its key is looking up the value of an entry by the value's key: both
    find nothing, or both find what one entry wrote. -/
theorem Projects.lookup {γ : Type} [BEq κ] [LawfulBEq κ] {log : List α} {rows : List β}
    (h : Projects clash rowOf log rows) {valueOf : α → Option γ} {rowKey : β → κ} {key : γ → κ}
    (hsame : ∀ entry, (rowOf entry).map rowKey = (valueOf entry).map key) (k : κ) :
    (rows.find? (fun row => rowKey row == k) = none ∧
      (log.filterMap valueOf).find? (fun value => key value == k) = none) ∨
    ∃ entry ∈ log, ∃ row value, rowOf entry = some row ∧ valueOf entry = some value ∧
      key value = k ∧ rows.find? (fun row => rowKey row == k) = some row ∧
      (log.filterMap valueOf).find? (fun value => key value == k) = some value := by
  have hany : ∀ entry, (rowOf entry).any (fun row => rowKey row == k) =
      (valueOf entry).any fun value => key value == k := by
    intro entry
    have hkeys := hsame entry
    cases hrow : rowOf entry with
    | none =>
      rw [hrow, Option.map_none, eq_comm, Option.map_eq_none_iff] at hkeys
      rw [hkeys]
      rfl
    | some row =>
      rw [hrow, Option.map_some, eq_comm, Option.map_eq_some_iff] at hkeys
      obtain ⟨value, hvalue, hkey⟩ := hkeys
      rw [hvalue, Option.any_some, Option.any_some, hkey]
  rw [h.rows_eq, List.find?_filterMap, List.find?_filterMap, funext hany]
  cases hentry : log.find? fun entry => (valueOf entry).any fun value => key value == k with
  | none => exact Or.inl ⟨rfl, rfl⟩
  | some entry =>
    right
    have hfound := List.find?_some hentry
    obtain ⟨value, hvalue, hkey⟩ := (Option.any_eq_true _ _).mp hfound
    have hkeys := hsame entry
    rw [hvalue, Option.map_some] at hkeys
    obtain ⟨row, hrow, -⟩ := Option.map_eq_some_iff.mp hkeys
    exact ⟨entry, List.mem_of_find?_eq_some hentry, row, value, hrow, hvalue, eq_of_beq hkey,
      by rw [Option.bind_some, hrow], by rw [Option.bind_some, hvalue]⟩

/-- An element is what its own key finds when no two have one key. -/
theorem find?_key_self {γ : Type} [BEq κ] [LawfulBEq κ] {key : γ → κ} {xs : List γ}
    (h : (xs.map key).Nodup) {x : γ} (hx : x ∈ xs) :
    xs.find? (fun y => key y == key x) = some x := by
  induction xs with
  | nil => cases hx
  | cons y ys ih =>
    rw [List.map_cons, List.nodup_cons] at h
    rcases List.mem_cons.mp hx with rfl | hmem
    · exact List.find?_cons_of_pos (beq_self_eq_true (key x))
    · have hne : (key y == key x) = false := by
        by_contra heq
        exact h.1 (eq_of_beq (Bool.of_not_eq_false heq) ▸ List.mem_map_of_mem hmem)
      simp only [List.find?_cons, hne]
      exact ih h.2 hmem

section FirstKept

variable [DecidableEq κ] {key : β → κ}

/-- Write a value under its key unless the key is there. -/
def Dict.setDefault (dict : Dict κ β) (key : κ) (value : β) : Dict κ β :=
  if (dict.get? key).isSome then dict else dict.insert key value

theorem Dict.get?_setDefault (dict : Dict κ β) (key k : κ) (value : β) :
    (dict.setDefault key value).get? k =
      (dict.get? k).or (if k = key then some value else none) := by
  unfold Dict.setDefault
  split
  · rename_i hsome
    by_cases hk : k = key
    · obtain ⟨old, hold⟩ := Option.isSome_iff_exists.mp hsome
      rw [hk, hold]; rfl
    · rw [if_neg hk, Option.or_none]
  · rename_i hnone
    rw [Dict.get?_insert]
    by_cases hk : k = key
    · rw [if_pos hk, if_pos hk, hk, Option.not_isSome_iff_eq_none.mp hnone, Option.none_or]
    · rw [if_neg hk, if_neg hk, Option.or_none]

/-- The first value of every key among the rows of a log. -/
def KeepsFirst (key : β → κ) (rowOf : α → Option β) (log : List α) (dict : Dict κ β) : Prop :=
  ∀ k, dict.get? k = (log.filterMap rowOf).find? fun row => key row = k

theorem KeepsFirst.nil : KeepsFirst key rowOf [] .empty := by
  intro k
  rfl

theorem KeepsFirst.skip {log : List α} {entry : α} {dict : Dict κ β}
    (h : KeepsFirst key rowOf log dict) (hnone : rowOf entry = none) :
    KeepsFirst key rowOf (log ++ [entry]) dict := by
  intro k
  rw [filterMap_concat, hnone, Option.toList_none, List.append_nil]
  exact h k

theorem KeepsFirst.concat {log : List α} {entry : α} {dict : Dict κ β} {row : β}
    (h : KeepsFirst key rowOf log dict) (hrow : rowOf entry = some row) :
    KeepsFirst key rowOf (log ++ [entry]) (dict.setDefault (key row) row) := by
  intro k
  rw [filterMap_concat, hrow, Option.toList_some, List.find?_append, Dict.get?_setDefault, h k]
  by_cases hk : k = key row
  · simp [hk]
  · simp [hk, Ne.symm hk]

end FirstKept

end Misc
