import Godzilla.Misc.Sorted
import Mathlib.Data.Char
import Mathlib.Data.List.Basic
import Mathlib.Data.String.Basic

/-!
# The text of a JSON tree

What `json.dumps` writes: strings escaped to ASCII, numbers by their literals, members in
the order of their keys. The text of a tree determines the tree, wherever it stands in a
longer text, since it ends before a comma or a closing bracket.
-/

namespace Misc

def quote : Char := Char.ofNat 34

def backslash : Char := Char.ofNat 92

/-- The characters with an escape of their own. -/
def shortEscapes : List (Char × Char) :=
  [(quote, quote), (backslash, backslash), (Char.ofNat 10, 'n'), (Char.ofNat 13, 'r'),
    (Char.ofNat 9, 't'), (Char.ofNat 12, 'f'), (Char.ofNat 8, 'b')]

/-- A number below `2 ^ 16` as four hexadecimal digits. -/
def hexDigits (n : ℕ) : List Char :=
  [(n / 4096 % 16).digitChar, (n / 256 % 16).digitChar, (n / 16 % 16).digitChar,
    (n % 16).digitChar]

/-- A character as it stands in a JSON string: what is not printable ASCII by its code, or by
    its two surrogates. -/
def escape (c : Char) : List Char :=
  match (shortEscapes.find? fun p => p.1 == c).map Prod.snd with
  | some e => [backslash, e]
  | none =>
    if 32 ≤ c.toNat ∧ c.toNat ≤ 126 then [c]
    else if c.toNat < 65536 then backslash :: 'u' :: hexDigits c.toNat
    else backslash :: 'u' :: (hexDigits (55296 + (c.toNat - 65536) / 1024) ++
      backslash :: 'u' :: hexDigits (56320 + (c.toNat - 65536) % 1024))

/-- The value of a hexadecimal digit. -/
def hexValue (c : Char) : ℕ := ((List.range 16).find? fun n => n.digitChar == c).getD 0

def hexNumber (a b c d : Char) : ℕ :=
  hexValue a * 4096 + hexValue b * 256 + hexValue c * 16 + hexValue d

/-- The code of the first character of a string, and the text after it. -/
def unescape : List Char → Option (ℕ × List Char)
  | [] => none
  | c :: rest =>
    if c ≠ backslash then some (c.toNat, rest)
    else
      match rest with
      | 'u' :: h1 :: h2 :: h3 :: h4 :: rest =>
        let high := hexNumber h1 h2 h3 h4
        if 55296 ≤ high ∧ high < 56320 then
          match rest with
          | _ :: _ :: l1 :: l2 :: l3 :: l4 :: rest =>
            some (65536 + (high - 55296) * 1024 + (hexNumber l1 l2 l3 l4 - 56320), rest)
          | _ => none
        else some (high, rest)
      | e :: rest =>
        ((shortEscapes.find? fun p => p.2 == e).map fun p => (p.1.toNat, rest))
      | [] => none

theorem hexValue_digitChar : ∀ n < 16, hexValue n.digitChar = n := by decide

/-- Four digits determine the number. -/
theorem hexNumber_hexDigits {n : ℕ} (h : n < 65536) :
    hexNumber (n / 4096 % 16).digitChar (n / 256 % 16).digitChar (n / 16 % 16).digitChar
      (n % 16).digitChar = n := by
  rw [hexNumber, hexValue_digitChar _ (Nat.mod_lt _ (by decide)),
    hexValue_digitChar _ (Nat.mod_lt _ (by decide)), hexValue_digitChar _ (Nat.mod_lt _ (by decide)),
    hexValue_digitChar _ (Nat.mod_lt _ (by decide))]
  omega

/-- No character is a surrogate. -/
theorem not_surrogate (c : Char) : c.toNat < 55296 ∨ 57344 ≤ c.toNat := by
  have h := c.valid
  simp only [UInt32.isValidChar, Nat.isValidChar] at h
  have hnat : c.toNat = c.val.toNat := rfl
  omega

theorem toNat_le (c : Char) : c.toNat < 1114112 := by
  have h := c.valid
  simp only [UInt32.isValidChar, Nat.isValidChar] at h
  have hnat : c.toNat = c.val.toNat := rfl
  omega

/-- Four digits are read back with what follows. -/
theorem unescape_hexDigits {n : ℕ} (hn : n < 55296 ∨ 57344 ≤ n) (hsmall : n < 65536)
    (rest : List Char) :
    unescape (backslash :: 'u' :: (hexDigits n ++ rest)) = some (n, rest) := by
  have hbackslash : ¬ backslash ≠ backslash := not_not.mpr rfl
  have hrange : ¬ (55296 ≤ n ∧ n < 56320) := by omega
  simp only [hexDigits, List.cons_append, List.nil_append, unescape, if_neg hbackslash,
    hexNumber_hexDigits hsmall, if_neg hrange]

/-- Two surrogates are read back as one character. -/
theorem unescape_surrogates {n : ℕ} (hlarge : 65536 ≤ n) (hn : n < 1114112) (rest : List Char) :
    unescape (backslash :: 'u' :: (hexDigits (55296 + (n - 65536) / 1024) ++
      backslash :: 'u' :: hexDigits (56320 + (n - 65536) % 1024) ++ rest)) = some (n, rest) := by
  have hbackslash : ¬ backslash ≠ backslash := not_not.mpr rfl
  obtain ⟨high, hhigh⟩ : ∃ high, high = 55296 + (n - 65536) / 1024 := ⟨_, rfl⟩
  obtain ⟨low, hlow⟩ : ∃ low, low = 56320 + (n - 65536) % 1024 := ⟨_, rfl⟩
  have hrange : 55296 ≤ high ∧ high < 56320 := by omega
  have hvalue : 65536 + (high - 55296) * 1024 + (low - 56320) = n := by omega
  rw [← hhigh, ← hlow]
  simp only [hexDigits, List.cons_append, List.nil_append, unescape, if_neg hbackslash,
    hexNumber_hexDigits (show high < 65536 by omega),
    hexNumber_hexDigits (show low < 65536 by omega), if_pos hrange, hvalue]

/-- An escaped character is read back. -/
theorem unescape_escape (c : Char) (rest : List Char) :
    unescape (escape c ++ rest) = some (c.toNat, rest) := by
  cases hfind : shortEscapes.find? fun p => p.1 == c with
  | some p =>
    have hmem := List.mem_of_find?_eq_some hfind
    have hkey : p.1 = c := by simpa using List.find?_some hfind
    subst hkey
    simp only [shortEscapes, List.mem_cons, List.not_mem_nil, or_false] at hmem
    rcases hmem with rfl | rfl | rfl | rfl | rfl | rfl | rfl <;> rfl
  | none =>
    have hplain : c ≠ backslash := by
      rintro rfl
      cases hfind
    simp only [escape, hfind, Option.map_none]
    by_cases hprintable : 32 ≤ c.toNat ∧ c.toNat ≤ 126
    · simp only [if_pos hprintable, List.cons_append, List.nil_append, unescape, if_pos hplain]
    · rw [if_neg hprintable]
      by_cases hsmall : c.toNat < 65536
      · rw [if_pos hsmall]
        exact unescape_hexDigits (not_surrogate c) hsmall rest
      · rw [if_neg hsmall]
        exact unescape_surrogates (not_lt.mp hsmall) (toNat_le c) rest

theorem escape_append_inj {c d : Char} {xs ys : List Char}
    (h : escape c ++ xs = escape d ++ ys) : c = d ∧ xs = ys := by
  have hread := congrArg unescape h
  rw [unescape_escape, unescape_escape] at hread
  obtain ⟨hcode, hrest⟩ := Prod.mk.inj (Option.some.inj hread)
  exact ⟨Char.toNat_inj.mp hcode, hrest⟩

/-- An escaped character does not begin like the end of a string. -/
theorem escape_append_ne_quote {c : Char} {xs ys : List Char} : escape c ++ xs ≠ quote :: ys := by
  intro h
  have hread := congrArg unescape h
  have hquote : unescape (quote :: ys) = some (quote.toNat, ys) := rfl
  rw [unescape_escape, hquote] at hread
  obtain ⟨hcode, rfl⟩ := Prod.mk.inj (Option.some.inj hread)
  rw [Char.toNat_inj.mp hcode] at h
  have hescape : escape quote = [backslash, quote] := rfl
  rw [hescape] at h
  have hlength := congrArg List.length h
  simp at hlength

def writeChars : List Char → List Char
  | [] => [quote]
  | c :: cs => escape c ++ writeChars cs

/-- A string in quotes. -/
def writeString (s : String) : List Char := quote :: writeChars s.toList

theorem writeChars_append_inj {cs ds : List Char} {xs ys : List Char}
    (h : writeChars cs ++ xs = writeChars ds ++ ys) : cs = ds ∧ xs = ys := by
  induction cs generalizing ds with
  | nil =>
    cases ds with
    | nil => exact ⟨rfl, (List.cons.inj h).2⟩
    | cons d ds =>
      simp only [writeChars, List.append_assoc] at h
      exact absurd h.symm escape_append_ne_quote
  | cons c cs ih =>
    cases ds with
    | nil =>
      simp only [writeChars, List.append_assoc] at h
      exact absurd h escape_append_ne_quote
    | cons d ds =>
      simp only [writeChars, List.append_assoc] at h
      obtain ⟨rfl, hrest⟩ := escape_append_inj h
      obtain ⟨rfl, hxs⟩ := ih hrest
      exact ⟨rfl, hxs⟩

theorem writeString_append_inj {s t : String} {xs ys : List Char}
    (h : writeString s ++ xs = writeString t ++ ys) : s = t ∧ xs = ys := by
  obtain ⟨hchars, hrest⟩ := writeChars_append_inj (List.cons.inj h).2
  exact ⟨String.toList_inj.mp hchars, hrest⟩

/-- The characters that end a value inside a longer text. -/
def closes (c : Char) : Bool := c = ',' || c = ']' || c = Char.ofNat 125

/-- A text that goes on after a value. -/
def Closed (text : List Char) : Prop := ∀ c ∈ text.head?, closes c

/-- The characters that a number starts with, `Infinity` and `NaN` among them. -/
def startsNumber (c : Char) : Bool := c.isDigit || c = '-' || c = 'I' || c = 'N'

/-- The literal of a number. -/
structure Literal where
  text : String
  starts : ∃ c rest, text.toList = c :: rest ∧ startsNumber c
  open_end : ∀ c ∈ text.toList, ¬ closes c
  deriving DecidableEq

theorem Literal.ext {a b : Literal} (h : a.text = b.text) : a = b := by
  cases a
  cases b
  simp only [mk.injEq]
  exact h

/-- A run of characters is read up to the first that closes. -/
theorem append_inj_of_open {as bs xs ys : List Char} (has : ∀ c ∈ as, ¬ closes c)
    (hbs : ∀ c ∈ bs, ¬ closes c) (hxs : Closed xs) (hys : Closed ys) (h : as ++ xs = bs ++ ys) :
    as = bs ∧ xs = ys := by
  induction as generalizing bs with
  | nil =>
    cases bs with
    | nil => exact ⟨rfl, h⟩
    | cons b bs =>
      rw [List.nil_append] at h
      subst h
      exact absurd (hxs b rfl) (hbs b List.mem_cons_self)
  | cons a as ih =>
    cases bs with
    | nil =>
      rw [List.nil_append] at h
      subst h
      exact absurd (hys a rfl) (has a List.mem_cons_self)
    | cons b bs =>
      obtain ⟨rfl, hrest⟩ := List.cons.inj h
      obtain ⟨rfl, heq⟩ := ih (fun c hc => has c (List.mem_cons_of_mem _ hc))
        (fun c hc => hbs c (List.mem_cons_of_mem _ hc)) hrest
      exact ⟨rfl, heq⟩

/-- A JSON value without parts. -/
inductive Scalar where
  | null
  | bool (value : Bool)
  | num (literal : Literal)
  | str (value : String)
  deriving DecidableEq

/-- A JSON value, whose numbers are literals. -/
inductive Tree where
  | scalar (value : Scalar)
  | arr (items : List Tree)
  | obj (members : List (String × Tree))

def Scalar.write : Scalar → List Char
  | .null => ['n', 'u', 'l', 'l']
  | .bool true => ['t', 'r', 'u', 'e']
  | .bool false => ['f', 'a', 'l', 's', 'e']
  | .num literal => literal.text.toList
  | .str value => writeString value

namespace Tree

mutual

/-- `json.dumps(value, separators=("," + gap, ":" + gap))`. -/
def write (gap : List Char) : Tree → List Char
  | .scalar value => value.write
  | .arr [] => ['[', ']']
  | .arr (x :: xs) => '[' :: (write gap x ++ writeItems gap xs)
  | .obj [] => [Char.ofNat 123, Char.ofNat 125]
  | .obj ((k, x) :: ms) =>
    Char.ofNat 123 :: (writeString k ++ (':' :: (gap ++ (write gap x ++ writeMembers gap ms))))

/-- The items of an array after the first. -/
def writeItems (gap : List Char) : List Tree → List Char
  | [] => [']']
  | x :: xs => ',' :: (gap ++ (write gap x ++ writeItems gap xs))

/-- The members of an object after the first. -/
def writeMembers (gap : List Char) : List (String × Tree) → List Char
  | [] => [Char.ofNat 125]
  | (k, x) :: ms =>
    ',' :: (gap ++ (writeString k ++ (':' :: (gap ++ (write gap x ++ writeMembers gap ms)))))

end

theorem write_append_items (gap : List Char) (x : Tree) (xs : List Tree) :
    write gap x ++ writeItems gap xs =
      (',' :: gap).intercalate ((x :: xs).map (write gap)) ++ [']'] := by
  induction xs generalizing x with
  | nil => rw [writeItems, List.map_singleton, List.intercalate_singleton]
  | cons y ys ih =>
    have hrest := ih y
    simp only [List.map_cons] at hrest ⊢
    rw [writeItems, hrest, List.intercalate_cons_cons]
    simp only [List.cons_append, List.append_assoc]

/-- An array is written as its items in their order. -/
theorem write_arr (gap : List Char) (items : List Tree) :
    write gap (.arr items) =
      '[' :: ((',' :: gap).intercalate (items.map (write gap)) ++ [']']) := by
  cases items with
  | nil => rfl
  | cons x xs => rw [write, write_append_items]

/-- What the first character of a text says of its value. -/
def kindOf (c : Char) : ℕ :=
  if c = 'n' then 0 else if c = 't' then 1 else if c = 'f' then 2 else if c = quote then 3
  else if c = '[' then 4 else if c = Char.ofNat 123 then 5 else 6

def kind : Tree → ℕ
  | .scalar .null => 0
  | .scalar (.bool true) => 1
  | .scalar (.bool false) => 2
  | .scalar (.str _) => 3
  | .arr _ => 4
  | .obj _ => 5
  | .scalar (.num _) => 6

theorem kind_scalar (v : Scalar) : kind (.scalar v) ≠ 4 ∧ kind (.scalar v) ≠ 5 := by
  cases v with
  | bool value => cases value <;> decide
  | null => exact ⟨by decide, by decide⟩
  | num literal => exact ⟨nofun, nofun⟩
  | str value => exact ⟨nofun, nofun⟩

theorem kindOf_number {c : Char} (h : startsNumber c) : kindOf c = 6 := by
  rw [kindOf, if_neg, if_neg, if_neg, if_neg, if_neg, if_neg]
  all_goals
    rintro rfl
    revert h
    decide

/-- A text begins as its value does, and not like the end of another. -/
theorem write_eq_cons (gap : List Char) (a : Tree) :
    ∃ c rest, write gap a = c :: rest ∧ kindOf c = a.kind ∧ ¬ closes c := by
  cases a with
  | scalar value =>
    cases value with
    | null => exact ⟨_, _, rfl, rfl, by decide⟩
    | bool value => cases value <;> exact ⟨_, _, rfl, rfl, by decide⟩
    | num literal =>
      obtain ⟨c, rest, htext, hstart⟩ := literal.starts
      refine ⟨c, rest, htext, kindOf_number hstart, literal.open_end c ?_⟩
      rw [htext]
      exact List.mem_cons_self
    | str value => exact ⟨_, _, rfl, rfl, by decide⟩
  | arr items => cases items <;> exact ⟨_, _, rfl, rfl, by decide⟩
  | obj members => cases members <;> exact ⟨_, _, rfl, rfl, by decide⟩

theorem kind_eq {gap : List Char} {a b : Tree} {xs ys : List Char}
    (h : write gap a ++ xs = write gap b ++ ys) : a.kind = b.kind := by
  obtain ⟨c, rest, ha, hc, -⟩ := write_eq_cons gap a
  obtain ⟨d, rest', hb, hd, -⟩ := write_eq_cons gap b
  rw [ha, hb] at h
  rw [← hc, ← hd, (List.cons.inj h).1]

/-- An array with items is not written like one without. -/
theorem write_append_ne_bracket {gap : List Char} {a : Tree} {xs ys : List Char} :
    write gap a ++ xs ≠ ']' :: ys := by
  intro h
  obtain ⟨c, rest, ha, -, hopen⟩ := write_eq_cons gap a
  rw [ha] at h
  obtain ⟨rfl, -⟩ := List.cons.inj h
  exact hopen rfl

theorem closed_writeItems (gap : List Char) (items : List Tree) (xs : List Char) :
    Closed (writeItems gap items ++ xs) := by
  cases items <;> rintro c ⟨⟩ <;> rfl

theorem closed_writeMembers (gap : List Char) (members : List (String × Tree)) (xs : List Char) :
    Closed (writeMembers gap members ++ xs) := by
  rcases members with _ | ⟨⟨k, x⟩, ms⟩ <;> rintro c ⟨⟩ <;> rfl

theorem scalar_append_inj {v w : Scalar} (hkind : kind (.scalar v) = kind (.scalar w))
    {xs ys : List Char} (hxs : Closed xs) (hys : Closed ys) (h : v.write ++ xs = w.write ++ ys) :
    v = w ∧ xs = ys := by
  cases v with
  | null =>
    cases w with
    | null => exact ⟨rfl, List.append_cancel_left h⟩
    | bool value => cases value <;> cases hkind
    | num literal => cases hkind
    | str value => cases hkind
  | bool value =>
    cases w with
    | null => cases value <;> cases hkind
    | bool other =>
      cases value <;> cases other
      · exact ⟨rfl, List.append_cancel_left h⟩
      · cases hkind
      · cases hkind
      · exact ⟨rfl, List.append_cancel_left h⟩
    | num literal => cases value <;> cases hkind
    | str text => cases value <;> cases hkind
  | num literal =>
    cases w with
    | null => cases hkind
    | bool value => cases value <;> cases hkind
    | num other =>
      obtain ⟨htext, hrest⟩ := append_inj_of_open literal.open_end other.open_end hxs hys h
      rw [Literal.ext (String.toList_inj.mp htext)]
      exact ⟨rfl, hrest⟩
    | str value => cases hkind
  | str value =>
    cases w with
    | null => cases hkind
    | bool value => cases value <;> cases hkind
    | num literal => cases hkind
    | str other =>
      obtain ⟨rfl, hrest⟩ := writeString_append_inj h
      exact ⟨rfl, hrest⟩

mutual

/-- A text that goes on after a value determines the value and what follows. -/
theorem write_append_inj (gap : List Char) : ∀ (a b : Tree) {xs ys : List Char}, Closed xs →
    Closed ys → write gap a ++ xs = write gap b ++ ys → a = b ∧ xs = ys := by
  intro a b xs ys hxs hys h
  have hkind := kind_eq h
  cases a with
  | scalar v =>
    cases b with
    | scalar w =>
      obtain ⟨rfl, hrest⟩ := scalar_append_inj hkind hxs hys h
      exact ⟨rfl, hrest⟩
    | arr items => exact absurd hkind (kind_scalar v).1
    | obj members => exact absurd hkind (kind_scalar v).2
  | arr as =>
    cases b with
    | scalar w => exact absurd hkind.symm (kind_scalar w).1
    | arr bs =>
      obtain ⟨rfl, hrest⟩ := writeArr_append_inj gap as bs h
      exact ⟨rfl, hrest⟩
    | obj members => cases hkind
  | obj as =>
    cases b with
    | scalar w => exact absurd hkind.symm (kind_scalar w).2
    | arr items => cases hkind
    | obj bs =>
      obtain ⟨rfl, hrest⟩ := writeObj_append_inj gap as bs h
      exact ⟨rfl, hrest⟩

theorem writeArr_append_inj (gap : List Char) : ∀ (as bs : List Tree) {xs ys : List Char},
    write gap (.arr as) ++ xs = write gap (.arr bs) ++ ys → as = bs ∧ xs = ys
  | [], [], _, _, h => ⟨rfl, List.append_cancel_left h⟩
  | [], b :: bs, _, _, h => by
    simp only [write, List.cons_append, List.append_assoc] at h
    exact absurd (List.cons.inj h).2.symm write_append_ne_bracket
  | a :: as, [], _, _, h => by
    simp only [write, List.cons_append, List.append_assoc] at h
    exact absurd (List.cons.inj h).2 write_append_ne_bracket
  | a :: as, b :: bs, xs, ys, h => by
    rw [write, write, List.cons_append, List.cons_append, List.append_assoc, List.append_assoc] at h
    obtain ⟨rfl, hitems⟩ := write_append_inj gap a b (closed_writeItems gap as xs)
      (closed_writeItems gap bs ys) (List.cons.inj h).2
    obtain ⟨rfl, hrest⟩ := writeItems_append_inj gap as bs hitems
    exact ⟨rfl, hrest⟩

theorem writeObj_append_inj (gap : List Char) : ∀ (as bs : List (String × Tree))
    {xs ys : List Char}, write gap (.obj as) ++ xs = write gap (.obj bs) ++ ys → as = bs ∧ xs = ys
  | [], [], _, _, h => ⟨rfl, List.append_cancel_left h⟩
  | [], (l, b) :: bs, _, _, h => by cases (List.cons.inj (List.cons.inj h).2).1
  | (k, a) :: as, [], _, _, h => by cases (List.cons.inj (List.cons.inj h).2).1
  | (k, a) :: as, (l, b) :: bs, xs, ys, h => by
    simp only [write, List.cons_append, List.append_assoc] at h
    obtain ⟨rfl, hvalue⟩ := writeString_append_inj (List.cons.inj h).2
    obtain ⟨rfl, hmembers⟩ := write_append_inj gap a b (closed_writeMembers gap as xs)
      (closed_writeMembers gap bs ys) (List.append_cancel_left (List.cons.inj hvalue).2)
    obtain ⟨rfl, hrest⟩ := writeMembers_append_inj gap as bs hmembers
    exact ⟨rfl, hrest⟩

theorem writeItems_append_inj (gap : List Char) : ∀ (as bs : List Tree) {xs ys : List Char},
    writeItems gap as ++ xs = writeItems gap bs ++ ys → as = bs ∧ xs = ys
  | [], [], _, _, h => ⟨rfl, List.append_cancel_left h⟩
  | [], b :: bs, _, _, h => by cases (List.cons.inj h).1
  | a :: as, [], _, _, h => by cases (List.cons.inj h).1
  | a :: as, b :: bs, xs, ys, h => by
    simp only [writeItems, List.cons_append, List.append_assoc] at h
    obtain ⟨rfl, hitems⟩ := write_append_inj gap a b (closed_writeItems gap as xs)
      (closed_writeItems gap bs ys) (List.append_cancel_left (List.cons.inj h).2)
    obtain ⟨rfl, hrest⟩ := writeItems_append_inj gap as bs hitems
    exact ⟨rfl, hrest⟩

theorem writeMembers_append_inj (gap : List Char) : ∀ (as bs : List (String × Tree))
    {xs ys : List Char}, writeMembers gap as ++ xs = writeMembers gap bs ++ ys → as = bs ∧ xs = ys
  | [], [], _, _, h => ⟨rfl, List.append_cancel_left h⟩
  | [], (l, b) :: bs, _, _, h => by cases (List.cons.inj h).1
  | (k, a) :: as, [], _, _, h => by cases (List.cons.inj h).1
  | (k, a) :: as, (l, b) :: bs, xs, ys, h => by
    simp only [writeMembers, List.cons_append, List.append_assoc] at h
    obtain ⟨rfl, hvalue⟩ := writeString_append_inj (List.append_cancel_left (List.cons.inj h).2)
    obtain ⟨rfl, hmembers⟩ := write_append_inj gap a b (closed_writeMembers gap as xs)
      (closed_writeMembers gap bs ys) (List.append_cancel_left (List.cons.inj hvalue).2)
    obtain ⟨rfl, hrest⟩ := writeMembers_append_inj gap as bs hmembers
    exact ⟨rfl, hrest⟩

end

theorem write_injective (gap : List Char) : Function.Injective (write gap) := by
  intro a b h
  have hempty : Closed [] := by
    intro c hc
    cases hc
  exact (write_append_inj gap a b hempty hempty (congrArg (· ++ []) h)).1

mutual

/-- The members of every object in the order of their keys. -/
def sortKeys : Tree → Tree
  | .scalar value => .scalar value
  | .arr items => .arr (sortItems items)
  | .obj members => .obj (sortOn Prod.fst (sortMembers members))

def sortItems : List Tree → List Tree
  | [] => []
  | x :: xs => sortKeys x :: sortItems xs

def sortMembers : List (String × Tree) → List (String × Tree)
  | [] => []
  | (k, x) :: ms => (k, sortKeys x) :: sortMembers ms

end

theorem sortItems_eq_map (items : List Tree) : sortItems items = items.map sortKeys := by
  induction items with
  | nil => rfl
  | cons x xs ih => rw [sortItems, ih, List.map_cons]

theorem sortMembers_eq_map (members : List (String × Tree)) :
    sortMembers members = members.map fun m => (m.1, sortKeys m.2) := by
  induction members with
  | nil => rfl
  | cons m ms ih => rw [sortMembers, ih, List.map_cons]

/-- `json.dumps(value, sort_keys=True, separators=("," + gap, ":" + gap))`. -/
def dumps (gap : List Char) (value : Tree) : String := String.ofList (write gap (sortKeys value))

/-- Values with one text differ in the order of members alone. -/
theorem dumps_eq_iff {gap : List Char} {a b : Tree} :
    dumps gap a = dumps gap b ↔ sortKeys a = sortKeys b := by
  constructor
  · intro h
    exact write_injective gap (String.ofList_injective h)
  · intro h
    rw [dumps, h, dumps]

end Tree

end Misc
