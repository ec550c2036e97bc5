import Mathlib.Data.List.Basic
import Mathlib.Data.List.Infix

/-!
# Backtracking patterns

The part of Python's `re` that looks for words, separators and runs of a class. A pattern
gives its matches at a place in the order in which a backtracking matcher tries them, and
the first one counts. A substitution keeps what no match can start in and no match from
before can reach.
-/

namespace Misc

/-- A pattern; runs are of single characters. -/
inductive Pattern where
  | empty
  | one (accepts : Char → Bool)
  | many (accepts : Char → Bool)
  | boundary
  | optional (inner : Pattern)
  | seq (first second : Pattern)
  | alt (first second : Pattern)
  | group (inner : Pattern)

namespace Pattern

/-- A place in a text: the character before it, what follows, and the groups so far. -/
structure Place where
  before : Option Char
  rest : List Char
  groups : List (List Char) := []

/-- The characters of a text one after the other. -/
def word (same : Char → Char → Bool) : List Char → Pattern
  | [] => .empty
  | c :: cs => .seq (.one (same c)) (word same cs)

/-- `x+` for a class of characters. -/
def some (accepts : Char → Bool) : Pattern := .seq (.one accepts) (.many accepts)

/-- The places after a run of a class, the longest first. -/
def runs (accepts : Char → Bool) (groups : List (List Char)) :
    Option Char → List Char → List Place
  | before, [] => [⟨before, [], groups⟩]
  | before, c :: cs =>
    if accepts c then runs accepts groups (.some c) cs ++ [⟨before, c :: cs, groups⟩]
    else [⟨before, c :: cs, groups⟩]

/-- The places after the matches that start at a place, in the order in which they are tried;
    `inWord` is the class `\w`. -/
def tries (inWord : Char → Bool) : Pattern → Place → List Place
  | .empty, place => [place]
  | .one accepts, place =>
    match place.rest with
    | [] => []
    | c :: cs => if accepts c then [⟨.some c, cs, place.groups⟩] else []
  | .many accepts, place => runs accepts place.groups place.before place.rest
  | .boundary, place =>
    if place.before.any inWord != place.rest.head?.any inWord then [place] else []
  | .optional inner, place => tries inWord inner place ++ [place]
  | .seq first second, place => (tries inWord first place).flatMap (tries inWord second)
  | .alt first second, place => tries inWord first place ++ tries inWord second place
  | .group inner, place =>
    (tries inWord inner place).map fun found =>
      { found with
        groups := found.groups ++ [place.rest.take (place.rest.length - found.rest.length)] }

variable (inWord : Char → Bool) (pattern : Pattern)

/-- Whether a pattern is found in a text, `re.search`. -/
def isFound : Option Char → List Char → Bool
  | before, [] => !(tries inWord pattern ⟨before, [], []⟩).isEmpty
  | before, c :: cs =>
    !(tries inWord pattern ⟨before, c :: cs, []⟩).isEmpty || isFound (.some c) cs

/-- `re.sub` for a pattern that matches no empty text: what is found is replaced by what a
    function makes of its groups. -/
def subFrom (replace : List (List Char) → List Char) :
    ℕ → Option Char → List Char → List Char
  | 0, _, rest => rest
  | fuel + 1, before, rest =>
    match (tries inWord pattern ⟨before, rest, []⟩).head? with
    | .some found => replace found.groups ++ subFrom replace fuel found.before found.rest
    | none =>
      match rest with
      | [] => []
      | c :: cs => c :: subFrom replace fuel (.some c) cs

def sub (replace : List (List Char) → List Char) (text : List Char) : List Char :=
  subFrom inWord pattern replace (text.length + 1) none text

example : sub Char.isAlpha (.seq .boundary (.some (· == 'a'))) (fun _ => ['x']) ['a', 'a', 'b'] =
    ['x', 'b'] := by
  simp [sub, subFrom, tries, some, runs]

variable {inWord pattern} {replace : List (List Char) → List Char}

theorem subFrom_found {fuel : ℕ} {before : Option Char} {rest : List Char} {found : Place}
    (h : (tries inWord pattern ⟨before, rest, []⟩).head? = .some found) :
    subFrom inWord pattern replace (fuel + 1) before rest =
      replace found.groups ++ subFrom inWord pattern replace fuel found.before found.rest := by
  cases rest <;> simp only [subFrom, h]

theorem subFrom_cons {fuel : ℕ} {before : Option Char} {c : Char} {cs : List Char}
    (h : (tries inWord pattern ⟨before, c :: cs, []⟩).head? = none) :
    subFrom inWord pattern replace (fuel + 1) before (c :: cs) =
      c :: subFrom inWord pattern replace fuel (.some c) cs := by
  simp only [subFrom, h]

theorem mem_tries_seq {first second : Pattern} {place found : Place} :
    found ∈ tries inWord (.seq first second) place ↔
      ∃ between ∈ tries inWord first place, found ∈ tries inWord second between := by
  rw [tries, List.mem_flatMap]

theorem mem_tries_alt {first second : Pattern} {place found : Place} :
    found ∈ tries inWord (.alt first second) place ↔
      found ∈ tries inWord first place ∨ found ∈ tries inWord second place := by
  rw [tries, List.mem_append]

theorem runs_suffix {accepts : Char → Bool} {groups : List (List Char)} {before : Option Char}
    {rest : List Char} {found : Place} (h : found ∈ runs accepts groups before rest) :
    found.rest <:+ rest := by
  induction rest generalizing before with
  | nil =>
    simp only [runs, List.mem_singleton] at h
    rw [h]
  | cons c cs ih =>
    by_cases hc : accepts c
    · simp only [runs, if_pos hc, List.mem_append, List.mem_singleton] at h
      rcases h with h | rfl
      · exact (ih h).trans (List.suffix_cons c cs)
      · exact List.suffix_rfl
    · simp only [runs, if_neg hc, List.mem_singleton] at h
      rw [h]

/-- A match ends at a later place of the same text. -/
theorem tries_suffix {place found : Place} (h : found ∈ tries inWord pattern place) :
    found.rest <:+ place.rest := by
  induction pattern generalizing place found with
  | empty =>
    simp only [tries, List.mem_singleton] at h
    rw [h]
  | one accepts =>
    rcases place with ⟨before, _ | ⟨c, cs⟩, groups⟩
    · cases h
    · simp only [tries] at h
      split at h
      · rw [List.mem_singleton] at h
        rw [h]
        exact List.suffix_cons c cs
      · cases h
  | many accepts => exact runs_suffix h
  | boundary =>
    simp only [tries] at h
    split at h
    · rw [List.mem_singleton] at h
      rw [h]
    · cases h
  | optional inner ih =>
    simp only [tries, List.mem_append, List.mem_singleton] at h
    rcases h with h | rfl
    · exact ih h
    · exact List.suffix_rfl
  | seq first second ihFirst ihSecond =>
    simp only [tries, List.mem_flatMap] at h
    obtain ⟨between, hfirst, hsecond⟩ := h
    exact (ihSecond hsecond).trans (ihFirst hfirst)
  | alt first second ihFirst ihSecond =>
    simp only [tries, List.mem_append] at h
    rcases h with h | h
    · exact ihFirst h
    · exact ihSecond h
  | group inner ih =>
    simp only [tries, List.mem_map] at h
    obtain ⟨between, hmem, rfl⟩ := h
    have hsuffix := ih hmem
    exact hsuffix

/-- A pattern that matches no text with the character in it. -/
def Avoids (c : Char) : Pattern → Prop
  | .empty => True
  | .one accepts => accepts c = false
  | .many accepts => accepts c = false
  | .boundary => True
  | .optional inner => Avoids c inner
  | .seq first second => Avoids c first ∧ Avoids c second
  | .alt first second => Avoids c first ∧ Avoids c second
  | .group inner => Avoids c inner

theorem suffix_of_cons {c d : Char} {rest cs : List Char} {accepts : Char → Bool}
    (havoids : accepts c = false) (hd : accepts d = true) (h : c :: rest <:+ d :: cs) :
    c :: rest <:+ cs := by
  rcases List.suffix_cons_iff.mp h with heq | hsuffix
  · obtain ⟨rfl, -⟩ := List.cons.inj heq
    rw [hd] at havoids
    cases havoids
  · exact hsuffix

theorem runs_avoids {accepts : Char → Bool} {c : Char} {after : List Char}
    (havoids : accepts c = false) {groups : List (List Char)} {before : Option Char}
    {rest : List Char} (hrest : c :: after <:+ rest) {found : Place}
    (h : found ∈ runs accepts groups before rest) : c :: after <:+ found.rest := by
  induction rest generalizing before with
  | nil =>
    simp only [runs, List.mem_singleton] at h
    rw [h]
    exact hrest
  | cons d ds ih =>
    by_cases hd : accepts d
    · simp only [runs, if_pos hd, List.mem_append, List.mem_singleton] at h
      rcases h with h | rfl
      · exact ih (suffix_of_cons havoids hd hrest) h
      · exact hrest
    · simp only [runs, if_neg hd, List.mem_singleton] at h
      rw [h]
      exact hrest

/-- A match does not reach past a character that its pattern avoids. -/
theorem tries_avoids (pattern : Pattern) {c : Char} {after : List Char} (havoids : Avoids c pattern)
    {place found : Place} (hrest : c :: after <:+ place.rest)
    (h : found ∈ tries inWord pattern place) : c :: after <:+ found.rest := by
  induction pattern generalizing place found with
  | empty =>
    simp only [tries, List.mem_singleton] at h
    rw [h]
    exact hrest
  | one accepts =>
    rcases place with ⟨before, _ | ⟨d, ds⟩, groups⟩
    · cases h
    · simp only [tries] at h
      split at h
      · next hd =>
        rw [List.mem_singleton] at h
        rw [h]
        exact suffix_of_cons havoids hd hrest
      · cases h
  | many accepts => exact runs_avoids havoids hrest h
  | boundary =>
    simp only [tries] at h
    split at h
    · rw [List.mem_singleton] at h
      rw [h]
      exact hrest
    · cases h
  | optional inner ih =>
    simp only [tries, List.mem_append, List.mem_singleton] at h
    rcases h with h | rfl
    · exact ih havoids hrest h
    · exact hrest
  | seq first second ihFirst ihSecond =>
    simp only [tries, List.mem_flatMap] at h
    obtain ⟨between, hfirst, hsecond⟩ := h
    exact ihSecond havoids.2 (ihFirst havoids.1 hrest hfirst) hsecond
  | alt first second ihFirst ihSecond =>
    simp only [tries, List.mem_append] at h
    rcases h with h | h
    · exact ihFirst havoids.1 hrest h
    · exact ihSecond havoids.2 hrest h
  | group inner ih =>
    simp only [tries, List.mem_map] at h
    obtain ⟨between, hmem, rfl⟩ := h
    have hsuffix := ih havoids hrest hmem
    exact hsuffix

/-- A single character is all that `one` takes. -/
theorem tries_one {accepts : Char → Bool} {c : Char} {after : List Char} {place found : Place}
    (hrest : c :: after <:+ place.rest) (h : found ∈ tries inWord (.one accepts) place) :
    after <:+ found.rest := by
  rcases place with ⟨before, _ | ⟨d, ds⟩, groups⟩
  · cases h
  · simp only [tries] at h
    split at h
    · rw [List.mem_singleton] at h
      rw [h]
      rcases List.suffix_cons_iff.mp hrest with heq | hsuffix
      · rw [(List.cons.inj heq).2]
      · exact (List.suffix_cons c after).trans hsuffix
    · cases h

/-- No match of the pattern begins with the character. -/
def NeverStarts (inWord : Char → Bool) (pattern : Pattern) (c : Char) : Prop :=
  ∀ before rest groups, tries inWord pattern ⟨before, c :: rest, groups⟩ = []

theorem neverStarts_seq {first second : Pattern} {c : Char} (h : NeverStarts inWord first c) :
    NeverStarts inWord (.seq first second) c := by
  intro before rest groups
  rw [tries, h before rest groups, List.flatMap_nil]

theorem neverStarts_word {same : Char → Char → Bool} {letter c : Char} {letters : List Char}
    (h : same letter c = false) : NeverStarts inWord (word same (letter :: letters)) c := by
  intro before rest groups
  simp only [word, tries, h, Bool.false_eq_true, if_false, List.flatMap_nil]

theorem neverStarts_boundary {second : Pattern} {c : Char} (h : NeverStarts inWord second c) :
    NeverStarts inWord (.seq .boundary second) c := by
  intro before rest groups
  rw [tries, tries]
  split
  · rw [List.flatMap_singleton, h before rest groups]
  · rw [List.flatMap_nil]

theorem neverStarts_alt {first second : Pattern} {c : Char} (hfirst : NeverStarts inWord first c)
    (hsecond : NeverStarts inWord second c) : NeverStarts inWord (.alt first second) c := by
  intro before rest groups
  rw [tries, hfirst before rest groups, hsecond before rest groups, List.append_nil]

theorem neverStarts_group {inner : Pattern} {c : Char} (h : NeverStarts inWord inner c) :
    NeverStarts inWord (.group inner) c := by
  intro before rest groups
  rw [tries, h before rest groups, List.map_nil]

/-- A text in which no match starts stays as it is. -/
theorem subFrom_append (replace : List (List Char) → List Char) {kept : List Char}
    (hkept : ∀ c ∈ kept, NeverStarts inWord pattern c) (after : List Char) (fuel : ℕ)
    (before : Option Char) :
    ∃ rest, subFrom inWord pattern replace fuel before (kept ++ after) = kept ++ rest := by
  induction kept generalizing fuel before with
  | nil => exact ⟨_, rfl⟩
  | cons c cs ih =>
    cases fuel with
    | zero => exact ⟨after, rfl⟩
    | succ fuel =>
      obtain ⟨rest, hrest⟩ := ih (fun d hd => hkept d (List.mem_cons_of_mem _ hd)) fuel (.some c)
      refine ⟨rest, ?_⟩
      have hnone : (tries inWord pattern ⟨before, c :: (cs ++ after), []⟩).head? = none := by
        rw [hkept c List.mem_cons_self, List.head?_nil]
      rw [List.cons_append, subFrom_cons hnone, hrest, List.cons_append]

/-- A block behind a guard stays as it is when no match starts in either and no match from
    before the guard reaches the block. -/
theorem subFrom_block {guarded block after : List Char}
    (hstarts : ∀ c ∈ guarded ++ block, NeverStarts inWord pattern c)
    (hguard : ∀ place found : Place, guarded ++ (block ++ after) <:+ place.rest →
      found ∈ tries inWord pattern place → block ++ after <:+ found.rest)
    (fuel : ℕ) (before : Option Char) {text : List Char}
    (htext : guarded ++ (block ++ after) <:+ text) :
    ∃ front back, subFrom inWord pattern replace fuel before text = front ++ (block ++ back) := by
  induction fuel generalizing before text with
  | zero =>
    obtain ⟨front, rfl⟩ := htext
    exact ⟨front ++ guarded, after, by rw [subFrom, List.append_assoc]⟩
  | succ fuel ih =>
    cases hhead : (tries inWord pattern ⟨before, text, []⟩).head? with
    | some found =>
      have hfound := List.mem_of_head? hhead
      have hblock := hguard _ found htext hfound
      rw [subFrom_found hhead]
      rcases List.suffix_or_suffix_of_suffix htext (tries_suffix hfound) with hlong | hshort
      · obtain ⟨front, back, hrest⟩ := ih found.before hlong
        exact ⟨replace found.groups ++ front, back, by rw [hrest, List.append_assoc]⟩
      · -- The match ends inside the guard.
        obtain ⟨part, hpart⟩ := hblock
        obtain ⟨taken, htaken⟩ := hshort
        have hsplit : taken ++ part = guarded := by
          rw [← hpart, ← List.append_assoc] at htaken
          exact List.append_cancel_right htaken
        have hkept : ∀ c ∈ part ++ block, NeverStarts inWord pattern c := by
          intro c hc
          apply hstarts c
          rw [← hsplit, List.append_assoc]
          exact List.mem_append_right _ hc
        obtain ⟨rest, hrest⟩ := subFrom_append replace hkept after fuel found.before
        refine ⟨replace found.groups ++ part, rest, ?_⟩
        rw [← hpart, ← List.append_assoc part, hrest, List.append_assoc, List.append_assoc]
    | none =>
      cases text with
      | nil =>
        obtain ⟨-, hnil⟩ := List.append_eq_nil_iff.mp (List.suffix_nil.mp htext)
        obtain ⟨rfl, -⟩ := List.append_eq_nil_iff.mp hnil
        exact ⟨[], _, rfl⟩
      | cons c cs =>
        rcases List.suffix_cons_iff.mp htext with heq | hsuffix
        · obtain ⟨rest, hrest⟩ := subFrom_append replace hstarts after (fuel + 1) before
          refine ⟨guarded, rest, ?_⟩
          rw [List.append_assoc, heq] at hrest
          rw [hrest, List.append_assoc]
        · obtain ⟨front, back, hrest⟩ := ih (.some c) hsuffix
          exact ⟨c :: front, back, by rw [subFrom_cons hhead, hrest, List.cons_append]⟩

/-- The same for a whole text. -/
theorem sub_block (replace : List (List Char) → List Char) {guarded block after : List Char}
    (hstarts : ∀ c ∈ guarded ++ block, NeverStarts inWord pattern c)
    (hguard : ∀ place found : Place, guarded ++ (block ++ after) <:+ place.rest →
      found ∈ tries inWord pattern place → block ++ after <:+ found.rest)
    (front : List Char) :
    ∃ before back, sub inWord pattern replace (front ++ (guarded ++ (block ++ after))) =
      before ++ (block ++ back) :=
  subFrom_block hstarts hguard _ none (List.suffix_append front _)

end Pattern

end Misc
