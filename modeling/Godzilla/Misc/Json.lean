import Mathlib.Logic.Basic

/-!
# JSON values

The tree a JSON text denotes, with object members in the order they were
written, and the member operations of a dictionary of such values.
-/

namespace Misc

/-- A JSON value. Numbers keep the text of their literal. -/
inductive Json where
  | null
  | bool (value : Bool)
  | num (literal : String)
  | str (value : String)
  | arr (items : List Json)
  | obj (members : List (String × Json))
  deriving Repr, Inhabited

namespace Json

mutual

/-- Equality of values, by their structure. -/
def decEq : (a b : Json) → Decidable (a = b)
  | .null, .null => isTrue rfl
  | .bool x, .bool y => decidable_of_iff (x = y) (by simp)
  | .num x, .num y => decidable_of_iff (x = y) (by simp)
  | .str x, .str y => decidable_of_iff (x = y) (by simp)
  | .arr xs, .arr ys => @decidable_of_iff _ (xs = ys) (by simp) (decEqItems xs ys)
  | .obj xs, .obj ys => @decidable_of_iff _ (xs = ys) (by simp) (decEqMembers xs ys)
  | .null, .bool _ | .null, .num _ | .null, .str _ | .null, .arr _ | .null, .obj _
  | .bool _, .null | .bool _, .num _ | .bool _, .str _ | .bool _, .arr _ | .bool _, .obj _
  | .num _, .null | .num _, .bool _ | .num _, .str _ | .num _, .arr _ | .num _, .obj _
  | .str _, .null | .str _, .bool _ | .str _, .num _ | .str _, .arr _ | .str _, .obj _
  | .arr _, .null | .arr _, .bool _ | .arr _, .num _ | .arr _, .str _ | .arr _, .obj _
  | .obj _, .null | .obj _, .bool _ | .obj _, .num _ | .obj _, .str _ | .obj _, .arr _ =>
    isFalse nofun

/-- Equality of the items of two arrays. -/
def decEqItems : (xs ys : List Json) → Decidable (xs = ys)
  | [], [] => isTrue rfl
  | [], _ :: _ | _ :: _, [] => isFalse nofun
  | x :: xs, y :: ys =>
    have := decEq x y
    have := decEqItems xs ys
    decidable_of_iff (x = y ∧ xs = ys) (by simp)

/-- Equality of the members of two objects. -/
def decEqMembers : (xs ys : List (String × Json)) → Decidable (xs = ys)
  | [], [] => isTrue rfl
  | [], _ :: _ | _ :: _, [] => isFalse nofun
  | (k, x) :: xs, (l, y) :: ys =>
    have := decEq x y
    have := decEqMembers xs ys
    decidable_of_iff ((k = l ∧ x = y) ∧ xs = ys) (by simp)

end

instance : DecidableEq Json := decEq

/-- `value.get(key)` on an object. -/
def get? (j : Json) (key : String) : Option Json :=
  match j with
  | .obj ms => (ms.find? fun m => m.1 == key).map Prod.snd
  | _ => none

/-- `{k: v for k, v in value.items() if k != key}`. -/
def without (j : Json) (key : String) : Json :=
  match j with
  | .obj ms => .obj (ms.filter fun m => m.1 != key)
  | _ => j

/-- `value[key] = item` for a key that is not yet present. -/
def withMember (j : Json) (key : String) (item : Json) : Json :=
  match j with
  | .obj ms => .obj (ms ++ [(key, item)])
  | _ => j

/-- Apply a function to the member `key` of an object. -/
def mapMember (j : Json) (key : String) (f : Json → Json) : Json :=
  match j with
  | .obj ms => .obj (ms.map fun m => if m.1 == key then (m.1, f m.2) else m)
  | _ => j

theorem without_withMember {key : String} {item : Json} {j : Json} (h : j.get? key = none) :
    (j.withMember key item).without key = j := by
  cases j with
  | obj ms =>
    have habs : ∀ m ∈ ms, (m.1 != key) = true := by
      intro m hm
      simp only [get?, Option.map_eq_none_iff, List.find?_eq_none] at h
      simpa using h m hm
    simp [withMember, without, List.filter_append, List.filter_eq_self.mpr habs]
  | _ => rfl

theorem without_of_get?_eq_none {key : String} {j : Json} (h : j.get? key = none) :
    j.without key = j := by
  cases j with
  | obj ms =>
    have habs : ∀ m ∈ ms, (m.1 != key) = true := by
      intro m hm
      simp only [get?, Option.map_eq_none_iff, List.find?_eq_none] at h
      simpa using h m hm
    simp [without, List.filter_eq_self.mpr habs]
  | _ => rfl

/-- Dropping a member keeps the others. -/
theorem get?_without_of_ne {key other : String} {j : Json} (h : key ≠ other) :
    (j.without other).get? key = j.get? key := by
  cases j with
  | obj ms =>
    induction ms with
    | nil => rfl
    | cons m ms ih =>
      simp only [without, get?] at ih ⊢
      by_cases hother : m.1 = other
      · have hkey : m.1 ≠ key := fun hk => h (hk.symm.trans hother)
        simpa [List.filter_cons, hother, List.find?_cons, Ne.symm h] using ih
      · by_cases hkey : m.1 = key
        · simp [hkey, h]
        · simpa [List.filter_cons, hother, List.find?_cons, hkey] using ih
  | _ => rfl

/-- An object reads back the member just written under a fresh key. -/
theorem get?_withMember {key : String} {item : Json} {ms : List (String × Json)}
    (h : (Json.obj ms).get? key = none) :
    ((Json.obj ms).withMember key item).get? key = some item := by
  simp only [get?, Option.map_eq_none_iff] at h
  simp [withMember, get?, List.find?_append, h]

end Json

end Misc
