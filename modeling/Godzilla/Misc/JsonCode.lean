import Godzilla.Misc.Json
import Mathlib.Data.List.Basic

/-!
# A text that determines its JSON value

A prefix code of JSON values over characters: every value is written with a tag,
every length in unary before what it counts. Two values with the same text are
equal, so the text can stand for a digest without collisions.
-/

namespace Misc.Json

/-- A length in unary, closed by a dot. -/
def codeLength (n : Nat) : List Char := List.replicate n 'i' ++ ['.']

/-- A string after its length. -/
def codeText (s : String) : List Char := codeLength s.toList.length ++ s.toList

mutual

/-- The text of a value. -/
def code : Json → List Char
  | .null => ['n']
  | .bool true => ['t']
  | .bool false => ['f']
  | .num literal => 'd' :: codeText literal
  | .str value => 's' :: codeText value
  | .arr items => 'a' :: (codeLength items.length ++ codeItems items)
  | .obj members => 'o' :: (codeLength members.length ++ codeMembers members)

/-- The texts of the items of an array, one after the other. -/
def codeItems : List Json → List Char
  | [] => []
  | x :: xs => code x ++ codeItems xs

/-- The texts of the members of an object. -/
def codeMembers : List (String × Json) → List Char
  | [] => []
  | (k, x) :: xs => codeText k ++ (code x ++ codeMembers xs)

end

theorem codeLength_append_inj {n m : Nat} {xs ys : List Char}
    (h : codeLength n ++ xs = codeLength m ++ ys) : n = m ∧ xs = ys := by
  induction n generalizing m with
  | zero =>
    cases m with
    | zero => exact ⟨rfl, by simpa [codeLength] using h⟩
    | succ m => simp [codeLength, List.replicate_succ] at h
  | succ n ih =>
    cases m with
    | zero => simp [codeLength, List.replicate_succ] at h
    | succ m =>
      have hrest : codeLength n ++ xs = codeLength m ++ ys := by
        simpa [codeLength, List.replicate_succ] using h
      obtain ⟨rfl, rfl⟩ := ih hrest
      exact ⟨rfl, rfl⟩

theorem codeText_append_inj {s t : String} {xs ys : List Char}
    (h : codeText s ++ xs = codeText t ++ ys) : s = t ∧ xs = ys := by
  rw [codeText, codeText, List.append_assoc, List.append_assoc] at h
  obtain ⟨hlength, hrest⟩ := codeLength_append_inj h
  obtain ⟨hchars, rfl⟩ := List.append_inj hrest hlength
  exact ⟨String.toList_inj.mp hchars, rfl⟩

mutual

theorem code_append_inj : ∀ (a b : Json) {xs ys : List Char},
    code a ++ xs = code b ++ ys → a = b ∧ xs = ys := by
  intro a b xs ys h
  cases a with
  | null =>
    cases b with
    | null => exact ⟨rfl, by simpa [code] using h⟩
    | bool v => cases v <;> simp [code] at h
    | _ => simp [code] at h
  | bool v =>
    cases b with
    | bool w => cases v <;> cases w <;> simp_all [code]
    | _ => cases v <;> simp [code] at h
  | num s =>
    cases b with
    | num t =>
      obtain ⟨rfl, hrest⟩ := codeText_append_inj (by simpa [code] using h)
      exact ⟨rfl, hrest⟩
    | bool v => cases v <;> simp [code] at h
    | _ => simp [code] at h
  | str s =>
    cases b with
    | str t =>
      obtain ⟨rfl, hrest⟩ := codeText_append_inj (by simpa [code] using h)
      exact ⟨rfl, hrest⟩
    | bool v => cases v <;> simp [code] at h
    | _ => simp [code] at h
  | arr as =>
    cases b with
    | arr bs =>
      obtain ⟨hlength, hitems⟩ := codeLength_append_inj (by simpa [code] using h)
      obtain ⟨rfl, hrest⟩ := codeItems_append_inj as bs hlength hitems
      exact ⟨rfl, hrest⟩
    | bool v => cases v <;> simp [code] at h
    | _ => simp [code] at h
  | obj as =>
    cases b with
    | obj bs =>
      obtain ⟨hlength, hmembers⟩ := codeLength_append_inj (by simpa [code] using h)
      obtain ⟨rfl, hrest⟩ := codeMembers_append_inj as bs hlength hmembers
      exact ⟨rfl, hrest⟩
    | bool v => cases v <;> simp [code] at h
    | _ => simp [code] at h

theorem codeItems_append_inj : ∀ (as bs : List Json) {xs ys : List Char},
    as.length = bs.length → codeItems as ++ xs = codeItems bs ++ ys → as = bs ∧ xs = ys
  | [], [], _, _, _, h => ⟨rfl, h⟩
  | a :: as, b :: bs, xs, ys, hlength, h => by
    rw [codeItems, codeItems, List.append_assoc, List.append_assoc] at h
    obtain ⟨rfl, hitems⟩ := code_append_inj a b h
    obtain ⟨rfl, hrest⟩ := codeItems_append_inj as bs (Nat.succ.inj hlength) hitems
    exact ⟨rfl, hrest⟩

theorem codeMembers_append_inj : ∀ (as bs : List (String × Json)) {xs ys : List Char},
    as.length = bs.length → codeMembers as ++ xs = codeMembers bs ++ ys → as = bs ∧ xs = ys
  | [], [], _, _, _, h => ⟨rfl, h⟩
  | (k, a) :: as, (l, b) :: bs, xs, ys, hlength, h => by
    rw [codeMembers, codeMembers] at h
    simp only [List.append_assoc] at h
    obtain ⟨rfl, hvalue⟩ := codeText_append_inj h
    obtain ⟨rfl, hmembers⟩ := code_append_inj a b hvalue
    obtain ⟨rfl, hrest⟩ := codeMembers_append_inj as bs (Nat.succ.inj hlength) hmembers
    exact ⟨rfl, hrest⟩

end

/-- The text of a value as a string. -/
def text (j : Json) : String := String.ofList j.code

theorem text_injective : Function.Injective text := by
  intro a b h
  have hcode : a.code ++ [] = b.code ++ [] := by rw [String.ofList_injective h]
  exact (code_append_inj a b hcode).1

end Misc.Json
