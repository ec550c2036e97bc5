import Godzilla.Misc.JsonText
import Mathlib.Data.List.Perm.Basic

/-!
# Canonical configuration values

`_canonical_value` (`config/models.py:265-277`) turns sets into lists, sorted by the text of
their canonical elements, and `config_hash` writes the result with sorted keys. Values that
differ in the iteration order of sets and the insertion order of dicts alone have the same
text; lists and tuples keep their order.
-/

namespace Godzilla.Config
open Misc

/-- What a configuration value is built from. Sets are listed as they iterate and dicts as
    they were filled; frozensets are sets, and tuples lists. Other values stand as what
    `to_jsonable_python` makes of them. -/
inductive Value where
  | scalar (value : Scalar)
  | dict (items : List (String × Value))
  | set (items : List Value)
  | seq (items : List Value)

namespace Value

mutual

/-- `_canonical_value` (`config/models.py:265-277`). -/
def canonicalValue : Value → Tree
  | .dict items => .obj (canonicalMembers items)
  | .set items => .arr (sortOn (Tree.dumps [' ']) (canonicalItems items))
  | .seq items => .arr (canonicalItems items)
  | .scalar value => .scalar value

def canonicalItems : List Value → List Tree
  | [] => []
  | x :: xs => canonicalValue x :: canonicalItems xs

def canonicalMembers : List (String × Value) → List (String × Tree)
  | [] => []
  | (k, x) :: ms => (k, canonicalValue x) :: canonicalMembers ms

end

/-- The text that is hashed (`config/models.py:261`). -/
def canonicalText (value : Value) : String := Tree.dumps [] (canonicalValue value)

mutual

/-- The keys of every dict differ. -/
def Distinct : Value → Prop
  | .scalar _ => True
  | .dict items => (items.map Prod.fst).Nodup ∧ DistinctMembers items
  | .set items => DistinctItems items
  | .seq items => DistinctItems items

def DistinctItems : List Value → Prop
  | [] => True
  | x :: xs => Distinct x ∧ DistinctItems xs

def DistinctMembers : List (String × Value) → Prop
  | [] => True
  | (_, x) :: ms => Distinct x ∧ DistinctMembers ms

end

mutual

/-- Two values differ in the iteration order of sets and the insertion order of dicts
    alone. -/
def Agree : Value → Value → Prop
  | .scalar a, .scalar b => a = b
  | .dict xs, .dict ys => ∃ zs, zs.Perm ys ∧ AgreeMembers xs zs
  | .set xs, .set ys => ∃ zs, zs.Perm ys ∧ AgreeItems xs zs
  | .seq xs, .seq ys => AgreeItems xs ys
  | _, _ => False

def AgreeItems : List Value → List Value → Prop
  | [], [] => True
  | x :: xs, y :: ys => Agree x y ∧ AgreeItems xs ys
  | _, _ => False

def AgreeMembers : List (String × Value) → List (String × Value) → Prop
  | [], [] => True
  | (k, x) :: xs, (l, y) :: ys => (k = l ∧ Agree x y) ∧ AgreeMembers xs ys
  | _, _ => False

end

theorem canonicalItems_eq_map (items : List Value) :
    canonicalItems items = items.map canonicalValue := by
  induction items with
  | nil => rfl
  | cons x xs ih => rw [canonicalItems, ih, List.map_cons]

theorem canonicalMembers_eq_map (items : List (String × Value)) :
    canonicalMembers items = items.map fun m => (m.1, canonicalValue m.2) := by
  induction items with
  | nil => rfl
  | cons m ms ih => rw [canonicalMembers, ih, List.map_cons]

/-- What is written of a value: its canonical tree with sorted keys. -/
def written (value : Value) : Tree := (canonicalValue value).sortKeys

/-- The text of a tree that is sorted already, by which set elements are sorted. -/
def elementKey (tree : Tree) : String := String.ofList (tree.write [' '])

theorem elementKey_injective : Function.Injective elementKey := by
  intro a b h
  exact Tree.write_injective [' '] (String.ofList_injective h)

theorem canonicalText_eq_iff {v w : Value} :
    canonicalText v = canonicalText w ↔ written v = written w := Tree.dumps_eq_iff

theorem written_seq (items : List Value) : written (.seq items) = .arr (items.map written) := by
  rw [written, canonicalValue, Tree.sortKeys, Tree.sortItems_eq_map, canonicalItems_eq_map,
    List.map_map]
  rfl

/-- Lists and tuples are written in their order. -/
theorem canonicalText_seq (items : List Value) :
    (canonicalText (.seq items)).toList =
      '[' :: ([','].intercalate (items.map fun x => (canonicalText x).toList) ++ [']']) := by
  have htext : ∀ value : Value, (canonicalText value).toList = (written value).write [] :=
    fun _ => String.toList_ofList
  simp only [htext]
  rw [written_seq, Tree.write_arr, List.map_map]
  rfl

/-- The elements of a set are written in the order of their own texts. -/
theorem written_set (items : List Value) :
    written (.set items) = .arr (sortOn elementKey (items.map written)) := by
  have hsorted := map_sortOn Tree.sortKeys elementKey (items.map canonicalValue)
  rw [List.map_map] at hsorted
  rw [written, canonicalValue, Tree.sortKeys, Tree.sortItems_eq_map, canonicalItems_eq_map]
  exact congrArg Tree.arr hsorted

theorem written_dict (items : List (String × Value)) :
    written (.dict items) = .obj (sortOn Prod.fst (items.map fun m => (m.1, written m.2))) := by
  rw [written, canonicalValue, Tree.sortKeys, Tree.sortMembers_eq_map, canonicalMembers_eq_map,
    List.map_map]
  rfl

mutual

/-- The order of sets and dicts does not reach the text. -/
theorem written_eq_of_agree : ∀ (v w : Value), v.Distinct → Agree v w → written v = written w := by
  intro v w hdistinct hagree
  cases v with
  | scalar a =>
    cases w with
    | scalar b =>
      obtain rfl : a = b := hagree
      rfl
    | _ => exact hagree.elim
  | seq xs =>
    cases w with
    | seq ys => rw [written_seq, written_seq, map_written_eq_of_agree xs ys hdistinct hagree]
    | _ => exact hagree.elim
  | set xs =>
    cases w with
    | set ys =>
      obtain ⟨zs, hperm, hitems⟩ := hagree
      rw [written_set, written_set, map_written_eq_of_agree xs zs hdistinct hitems]
      exact congrArg Tree.arr (sortOn_eq_of_perm (hperm.map _)
        fun a _ b _ hkey => elementKey_injective hkey)
    | _ => exact hagree.elim
  | dict xs =>
    cases w with
    | dict ys =>
      obtain ⟨zs, hperm, hmembers⟩ := hagree
      obtain ⟨hkeys, hdistinct⟩ := hdistinct
      have hmap := map_members_eq_of_agree xs zs hdistinct hmembers
      have hnodup : ((zs.map fun m => (m.1, written m.2)).map Prod.fst).Nodup := by
        rw [← hmap, List.map_map]
        exact hkeys
      rw [written_dict, written_dict, hmap]
      exact congrArg Tree.obj (sortOn_eq_of_perm (hperm.map _)
        fun a ha b hb hkey => List.inj_on_of_nodup_map hnodup ha hb hkey)
    | _ => exact hagree.elim

theorem map_written_eq_of_agree : ∀ (xs ys : List Value), DistinctItems xs → AgreeItems xs ys →
    xs.map written = ys.map written
  | [], [], _, _ => rfl
  | [], _ :: _, _, h => h.elim
  | _ :: _, [], _, h => h.elim
  | x :: xs, y :: ys, hdistinct, h => by
    rw [List.map_cons, List.map_cons, written_eq_of_agree x y hdistinct.1 h.1,
      map_written_eq_of_agree xs ys hdistinct.2 h.2]

theorem map_members_eq_of_agree : ∀ (xs ys : List (String × Value)), DistinctMembers xs →
    AgreeMembers xs ys →
    (xs.map fun m => (m.1, written m.2)) = ys.map fun m => (m.1, written m.2)
  | [], [], _, _ => rfl
  | [], _ :: _, _, h => h.elim
  | _ :: _, [], _, h => h.elim
  | (k, x) :: xs, (l, y) :: ys, hdistinct, h => by
    obtain rfl : k = l := h.1.1
    rw [List.map_cons, List.map_cons, written_eq_of_agree x y hdistinct.1 h.1.2,
      map_members_eq_of_agree xs ys hdistinct.2 h.2]

end

end Value

end Godzilla.Config
