import Godzilla.Core.Logging

/-!
# Secrets in log lines

Records that differ in values under sensitive keys alone have one line as long as no such
value is rendered: inside a mapping that a format shows with `%s`, or inside the
`correlation_id`. A rendered secret always shows. The patterns for texts look for a separator
right after the key, where the text of a mapping has a quote, and for every text around a value
there are values that the patterns cannot swallow.
-/

namespace Godzilla.Logging
open Misc LogValue TextTables

section

variable [TextTables]

/-! ## What two records share -/

mutual

/-- Two values differ in what stands under sensitive keys alone. -/
inductive SameBut : LogValue → LogValue → Prop
  | refl (value : LogValue) : SameBut value value
  | mapping {opening closing : String} {xs ys : List (LogKey × LogValue)} :
    SameMembers xs ys → SameBut (.mapping opening closing xs) (.mapping opening closing ys)
  | list {xs ys : List LogValue} : SameItems xs ys → SameBut (.list xs) (.list ys)
  | tuple {xs ys : List LogValue} : SameItems xs ys → SameBut (.tuple xs) (.tuple ys)

inductive SameItems : List LogValue → List LogValue → Prop
  | nil : SameItems [] []
  | cons {x y : LogValue} {xs ys : List LogValue} :
    SameBut x y → SameItems xs ys → SameItems (x :: xs) (y :: ys)

inductive SameMembers : List (LogKey × LogValue) → List (LogKey × LogValue) → Prop
  | nil : SameMembers [] []
  | secret {key : LogKey} {x y : LogValue} {xs ys : List (LogKey × LogValue)} :
    sensitiveKey key.str = true → SameMembers xs ys → SameMembers ((key, x) :: xs) ((key, y) :: ys)
  | cons {key : LogKey} {x y : LogValue} {xs ys : List (LogKey × LogValue)} :
    SameBut x y → SameMembers xs ys → SameMembers ((key, x) :: xs) ((key, y) :: ys)

end

inductive SamePiece : Piece → Piece → Prop
  | shown (text : String) : SamePiece (.shown text) (.shown text)
  | whole {x y : LogValue} : SameBut x y → SamePiece (.whole x) (.whole y)

inductive SameMessage : Message → Message → Prop
  | plain {x y : LogValue} : SameBut x y → SameMessage (.plain x) (.plain y)
  | filled {ps qs : List Piece} : List.Forall₂ SamePiece ps qs →
    SameMessage (.filled ps) (.filled qs)

/-- Attributes as the items of the `__dict__` of their record. -/
def itemsOf (attributes : List (String × LogValue)) : List (LogKey × LogValue) :=
  attributes.map fun extra => (attributeKey extra.1, extra.2)

/-- Two records are identical except for values under sensitive keys. -/
structure SameRecord (a b : LogRecord) : Prop where
  created : a.created = b.created
  levelname : a.levelname = b.levelname
  name : a.name = b.name
  message : SameMessage a.message b.message
  attributes : SameMembers (itemsOf a.attributes) (itemsOf b.attributes)
  exception : a.exception = b.exception

mutual

/-- Something stands under a sensitive key, at any depth of mappings, lists and tuples. -/
def holdsSecret : LogValue → Bool
  | .mapping _ _ items => membersHold items
  | .list items => itemsHold items
  | .tuple items => itemsHold items
  | .set _ => false
  | .text _ => false
  | .other _ _ _ _ => false

def itemsHold : List LogValue → Bool
  | [] => false
  | x :: xs => holdsSecret x || itemsHold xs

def membersHold : List (LogKey × LogValue) → Bool
  | [] => false
  | (k, x) :: ms => sensitiveKey k.str || holdsSecret x || membersHold ms

end

def Piece.holds : Piece → Bool
  | .shown _ => false
  | .whole value => holdsSecret value

def messageRenders : Message → Bool
  | .plain _ => false
  | .filled pieces => pieces.any Piece.holds

/-- A secret is rendered: its mapping is inside what `%s` shows, or inside the correlation id. -/
def rendersSecret (record : LogRecord) : Bool :=
  messageRenders record.message ||
    (Dict.assoc "correlation_id" record.attributes).any holdsSecret

/-! ## Structure is redacted -/

mutual

theorem redact_eq {v w : LogValue} (h : SameBut v w) : v.redact = w.redact := by
  cases h with
  | refl => rfl
  | mapping hitems => rw [redact, redact, redactMembers_eq hitems]
  | list hitems => rw [redact, redact, redactItems_eq hitems]
  | tuple hitems => rw [redact, redact, redactItems_eq hitems]

theorem redactItems_eq {xs ys : List LogValue} (h : SameItems xs ys) :
    redactItems xs = redactItems ys := by
  cases h with
  | nil => rfl
  | cons hvalue hitems => rw [redactItems, redactItems, redact_eq hvalue, redactItems_eq hitems]

theorem redactMembers_eq {xs ys : List (LogKey × LogValue)} (h : SameMembers xs ys) :
    redactMembers xs = redactMembers ys := by
  cases h with
  | nil => rfl
  | secret hkey hitems =>
    rw [redactMembers, redactMembers, if_pos hkey, if_pos hkey, redactMembers_eq hitems]
  | cons hvalue hitems =>
    rw [redactMembers, redactMembers, redact_eq hvalue, redactMembers_eq hitems]

end

mutual

/-- Without sensitive keys there is nothing to differ in. -/
theorem eq_of_noSecret {v w : LogValue} (h : SameBut v w) (hv : holdsSecret v = false) : v = w := by
  cases h with
  | refl => rfl
  | mapping hitems => rw [members_eq_of_noSecret hitems hv]
  | list hitems => rw [items_eq_of_noSecret hitems hv]
  | tuple hitems => rw [items_eq_of_noSecret hitems hv]

theorem items_eq_of_noSecret {xs ys : List LogValue} (h : SameItems xs ys)
    (hxs : itemsHold xs = false) : xs = ys := by
  cases h with
  | nil => rfl
  | cons hvalue hitems =>
    obtain ⟨hx, hrest⟩ := Bool.or_eq_false_iff.mp hxs
    rw [eq_of_noSecret hvalue hx, items_eq_of_noSecret hitems hrest]

theorem members_eq_of_noSecret {xs ys : List (LogKey × LogValue)} (h : SameMembers xs ys)
    (hxs : membersHold xs = false) : xs = ys := by
  cases h with
  | nil => rfl
  | secret hkey hitems =>
    rw [membersHold, hkey] at hxs
    cases hxs
  | cons hvalue hitems =>
    obtain ⟨hx, hrest⟩ := Bool.or_eq_false_iff.mp hxs
    obtain ⟨-, hx⟩ := Bool.or_eq_false_iff.mp hx
    rw [eq_of_noSecret hvalue hx, members_eq_of_noSecret hitems hrest]

end

/-! ## Records without rendered secrets -/

theorem sameLetter_of_ne {a c : Char} (ha : a.toNat < 128) (hc : c.toNat < 128)
    (hne : a.toLower ≠ c.toLower) : sameLetter a c = false := by
  rw [sameLetter_ascii a c ha hc]
  exact beq_eq_false_iff_ne.mpr hne

theorem correlation_not_sensitive : sensitiveKey "correlation_id" = false := by
  have hkey : "correlation_id".toList =
      ['c', 'o', 'r', 'r', 'e', 'l', 'a', 't', 'i', 'o', 'n', '_', 'i', 'd'] := rfl
  have hpassword : "password".toList = ['p', 'a', 's', 's', 'w', 'o', 'r', 'd'] := rfl
  have hsecret : "secret".toList = ['s', 'e', 'c', 'r', 'e', 't'] := rfl
  have htoken : "token".toList = ['t', 'o', 'k', 'e', 'n'] := rfl
  have hapi : "api".toList = ['a', 'p', 'i'] := rfl
  have hauthorization : "authorization".toList =
      ['a', 'u', 't', 'h', 'o', 'r', 'i', 'z', 'a', 't', 'i', 'o', 'n'] := rfl
  simp (disch := decide) [sensitiveKey, secretWord, letters, hkey, hpassword, hsecret, htoken,
    hapi, hauthorization, Pattern.isFound, Pattern.word, Pattern.tries, sameLetter_of_ne]

theorem length_eq_of_sameItems {xs ys : List LogValue} (h : SameItems xs ys) :
    xs.length = ys.length := by
  induction xs generalizing ys with
  | nil => cases h; rfl
  | cons x xs ih =>
    cases h with
    | cons _ hitems => rw [List.length_cons, List.length_cons, ih hitems]

theorem isEmpty_eq_of_sameMembers {xs ys : List (LogKey × LogValue)} (h : SameMembers xs ys) :
    xs.isEmpty = ys.isEmpty := by
  cases h <;> rfl

theorem sameMembers_cons {k l : LogKey} {v w : LogValue} {xs ys : List (LogKey × LogValue)}
    (h : SameMembers ((k, v) :: xs) ((l, w) :: ys)) :
    k = l ∧ (sensitiveKey k.str = true ∨ SameBut v w) ∧ SameMembers xs ys := by
  cases h with
  | secret hkey hitems => exact ⟨rfl, .inl hkey, hitems⟩
  | cons hvalue hitems => exact ⟨rfl, .inr hvalue, hitems⟩

theorem sameMembers_of_cons {k : LogKey} {v w : LogValue} {xs ys : List (LogKey × LogValue)}
    (hvalue : sensitiveKey k.str = true ∨ SameBut v w) (h : SameMembers xs ys) :
    SameMembers ((k, v) :: xs) ((k, w) :: ys) := by
  rcases hvalue with hkey | hvalue
  · exact .secret hkey h
  · exact .cons hvalue h

theorem sameAttributes_cons {k l : String} {v w : LogValue} {xs ys : List (String × LogValue)}
    (h : SameMembers (itemsOf ((k, v) :: xs)) (itemsOf ((l, w) :: ys))) :
    k = l ∧ (sensitiveKey k = true ∨ SameBut v w) ∧ SameMembers (itemsOf xs) (itemsOf ys) := by
  obtain ⟨hkeys, hvalue, hrest⟩ := sameMembers_cons h
  exact ⟨congrArg LogKey.str hkeys, hvalue, hrest⟩

/-- The correlation ids of two records. -/
theorem assoc_same {xs ys : List (String × LogValue)}
    (h : SameMembers (itemsOf xs) (itemsOf ys)) :
    Option.Rel SameBut (Dict.assoc "correlation_id" xs) (Dict.assoc "correlation_id" ys) := by
  induction xs generalizing ys with
  | nil =>
    cases ys with
    | nil => exact .none
    | cons => cases h
  | cons x xs ih =>
    cases ys with
    | nil => cases h
    | cons y ys =>
      obtain ⟨hkeys, hvalue, hrest⟩ := sameAttributes_cons h
      rw [Dict.assoc, Dict.assoc, ← hkeys]
      by_cases hkey : x.1 = "correlation_id"
      · rw [if_pos hkey, if_pos hkey]
        rw [hkey, correlation_not_sensitive] at hvalue
        exact .some (hvalue.resolve_left Bool.false_ne_true)
      · rw [if_neg hkey, if_neg hkey]
        exact ih hrest

/-- The extra fields of two records. -/
theorem extras_same {xs ys : List (String × LogValue)} (kept : String → Bool)
    (h : SameMembers (itemsOf xs) (itemsOf ys)) :
    SameMembers (itemsOf (xs.filter fun extra => kept extra.1))
      (itemsOf (ys.filter fun extra => kept extra.1)) := by
  induction xs generalizing ys with
  | nil =>
    cases ys with
    | nil => exact .nil
    | cons => cases h
  | cons x xs ih =>
    cases ys with
    | nil => cases h
    | cons y ys =>
      obtain ⟨hkeys, hvalue, hrest⟩ := sameAttributes_cons h
      rw [List.filter_cons, List.filter_cons, ← hkeys]
      by_cases hkept : kept x.1
      · rw [if_pos hkept, if_pos hkept, itemsOf, itemsOf, List.map_cons, List.map_cons, ← hkeys]
        exact sameMembers_of_cons hvalue (ih hrest)
      · rw [if_neg hkept, if_neg hkept]
        exact ih hrest

theorem pieces_eq_of_noSecret {ps qs : List Piece} (h : List.Forall₂ SamePiece ps qs)
    (hps : ps.any Piece.holds = false) : ps = qs := by
  induction h with
  | nil => rfl
  | cons hpiece _ ih =>
    obtain ⟨hp, hrest⟩ := Bool.or_eq_false_iff.mp hps
    rw [ih hrest]
    cases hpiece with
    | shown => rfl
    | whole hvalue => rw [eq_of_noSecret hvalue hp]

theorem writtenMessage_eq {a b : Message} (h : SameMessage a b) (ha : messageRenders a = false) :
    writtenMessage a = writtenMessage b := by
  cases h with
  | plain hvalue =>
    cases hvalue with
    | refl => rfl
    | mapping hitems => exact redact_eq (.mapping hitems)
    | list hitems => exact redact_eq (.list hitems)
    | tuple hitems => exact redact_eq (.tuple hitems)
  | filled hpieces =>
    have heq := pieces_eq_of_noSecret hpieces ha
    rw [heq]

theorem writtenCorrelation_eq {context : Option String} {a b : LogRecord} (h : SameRecord a b)
    (ha : (Dict.assoc "correlation_id" a.attributes).any holdsSecret = false) :
    writtenCorrelation context a = writtenCorrelation context b := by
  have hsame := assoc_same h.attributes
  rw [writtenCorrelation, writtenCorrelation]
  generalize Dict.assoc "correlation_id" a.attributes = x at hsame ha ⊢
  generalize Dict.assoc "correlation_id" b.attributes = y at hsame ⊢
  cases hsame with
  | none => rfl
  | some hvalue => rw [eq_of_noSecret hvalue ha]

/-! ## Rendered secrets -/

omit [TextTables] in
/-- One text in a joined list stands between fixed texts. -/
theorem intercalate_around (sep : List Char) (front back : List (List Char)) :
    ∃ before after, ∀ text,
      sep.intercalate (front ++ text :: back) = before ++ (text ++ after) := by
  induction front with
  | nil =>
    cases back with
    | nil =>
      refine ⟨[], [], ?_⟩
      intro text
      rw [List.nil_append, List.nil_append, List.append_nil, List.intercalate_singleton]
    | cons b bs =>
      refine ⟨[], sep ++ sep.intercalate (b :: bs), ?_⟩
      intro text
      rw [List.nil_append, List.nil_append, List.intercalate_cons_cons, List.append_assoc]
  | cons f fs ih =>
    obtain ⟨before, after, haround⟩ := ih
    refine ⟨f ++ (sep ++ before), after, ?_⟩
    intro text
    have hrest : fs ++ text :: back ≠ [] :=
      List.append_ne_nil_of_right_ne_nil fs (List.cons_ne_nil text back)
    rw [List.cons_append, List.intercalate_cons_of_ne_nil hrest, haround]
    simp only [List.append_assoc]

theorem sameItems_refl (xs : List LogValue) : SameItems xs xs := by
  induction xs with
  | nil => exact .nil
  | cons x xs ih => exact .cons (.refl x) ih

theorem sameMembers_refl (xs : List (LogKey × LogValue)) : SameMembers xs xs := by
  induction xs with
  | nil => exact .nil
  | cons x xs ih => exact .cons (.refl x.2) ih

mutual

/-- Whatever is put in the place of a secret, its `repr` stands between the same texts. -/
theorem repr_around (v : LogValue) (h : holdsSecret v = true) :
    ∃ before after, ∀ secret : LogValue, ∃ w, SameBut v w ∧
      w.reprOf = before ++ (secret.reprOf ++ after) := by
  cases v with
  | mapping opening closing items =>
    obtain ⟨before, after, front, back, hplace⟩ := members_around items h
    obtain ⟨left, right, hjoin⟩ := intercalate_around [',', ' '] front back
    refine ⟨opening.toList ++ (left ++ before), after ++ (right ++ closing.toList), ?_⟩
    intro secret
    obtain ⟨ys, hsame, htexts⟩ := hplace secret
    refine ⟨.mapping opening closing ys, .mapping hsame, ?_⟩
    rw [reprOf, htexts, hjoin]
    simp only [List.append_assoc]
  | list items =>
    obtain ⟨before, after, front, back, hplace⟩ := items_around items h
    obtain ⟨left, right, hjoin⟩ := intercalate_around [',', ' '] front back
    refine ⟨'[' :: (left ++ before), after ++ (right ++ [']']), ?_⟩
    intro secret
    obtain ⟨ys, hsame, htexts⟩ := hplace secret
    refine ⟨.list ys, .list hsame, ?_⟩
    rw [reprOf, htexts, hjoin]
    simp only [List.append_assoc, List.cons_append]
  | tuple items =>
    obtain ⟨before, after, front, back, hplace⟩ := items_around items h
    obtain ⟨left, right, hjoin⟩ := intercalate_around [',', ' '] front back
    refine ⟨'(' :: (left ++ before), after ++ (right ++ tupleClosing items.length), ?_⟩
    intro secret
    obtain ⟨ys, hsame, htexts⟩ := hplace secret
    refine ⟨.tuple ys, .tuple hsame, ?_⟩
    rw [reprOf, htexts, hjoin, ← length_eq_of_sameItems hsame]
    simp only [List.append_assoc, List.cons_append]
  | set items => cases h
  | text value => cases h
  | other str repr json truth => cases h

theorem items_around (xs : List LogValue) (h : itemsHold xs = true) :
    ∃ before after front back, ∀ secret : LogValue, ∃ ys, SameItems xs ys ∧
      reprItems ys = front ++ (before ++ (secret.reprOf ++ after)) :: back := by
  cases xs with
  | nil => cases h
  | cons x xs =>
    rcases Bool.or_eq_true_iff.mp h with hx | hxs
    · obtain ⟨before, after, hplace⟩ := repr_around x hx
      refine ⟨before, after, [], reprItems xs, ?_⟩
      intro secret
      obtain ⟨y, hsame, htext⟩ := hplace secret
      exact ⟨y :: xs, .cons hsame (sameItems_refl xs), by rw [reprItems, htext, List.nil_append]⟩
    · obtain ⟨before, after, front, back, hplace⟩ := items_around xs hxs
      refine ⟨before, after, x.reprOf :: front, back, ?_⟩
      intro secret
      obtain ⟨ys, hsame, htexts⟩ := hplace secret
      exact ⟨x :: ys, .cons (.refl x) hsame, by rw [reprItems, htexts, List.cons_append]⟩

theorem members_around (xs : List (LogKey × LogValue)) (h : membersHold xs = true) :
    ∃ before after front back, ∀ secret : LogValue, ∃ ys, SameMembers xs ys ∧
      reprMembers ys = front ++ (before ++ (secret.reprOf ++ after)) :: back := by
  cases xs with
  | nil => cases h
  | cons m ms =>
    obtain ⟨k, x⟩ := m
    rcases Bool.or_eq_true_iff.mp h with hhead | hms
    · rcases Bool.or_eq_true_iff.mp hhead with hkey | hx
      · refine ⟨k.repr.toList ++ [':', ' '], [], [], reprMembers ms, ?_⟩
        intro secret
        refine ⟨(k, secret) :: ms, .secret hkey (sameMembers_refl ms), ?_⟩
        rw [reprMembers]
        simp only [List.append_assoc, List.cons_append, List.nil_append, List.append_nil]
      · obtain ⟨before, after, hplace⟩ := repr_around x hx
        refine ⟨k.repr.toList ++ (':' :: ' ' :: before), after, [], reprMembers ms, ?_⟩
        intro secret
        obtain ⟨y, hsame, htext⟩ := hplace secret
        refine ⟨(k, y) :: ms, .cons hsame (sameMembers_refl ms), ?_⟩
        rw [reprMembers, htext]
        simp only [List.append_assoc, List.cons_append, List.nil_append]
    · obtain ⟨before, after, front, back, hplace⟩ := members_around ms hms
      refine ⟨before, after, (k.repr.toList ++ (':' :: ' ' :: x.reprOf)) :: front, back, ?_⟩
      intro secret
      obtain ⟨ys, hsame, htexts⟩ := hplace secret
      exact ⟨(k, x) :: ys, .cons (.refl x) hsame, by rw [reprMembers, htexts, List.cons_append]⟩

end

/-! ## What the patterns cannot swallow -/

/-- A password of which no pattern takes the commas: the quotes end strings, and the space and
    the first comma end runs. -/
def password (n : ℕ) : String :=
  String.ofList (['x', ' ', 'x', quote, apostrophe, ','] ++ List.replicate n ',')

theorem reprChar_printable {mark c : Char} (hsmall : c.toNat < 127) (hlarge : 32 ≤ c.toNat)
    (hmark : c ≠ mark) (hbackslash : c ≠ backslash) : reprChar mark c = [c] := by
  have hcode : ∀ n < 32, (Char.ofNat n).toNat = n := by decide
  have hcontrol : ∀ n < 32, c ≠ Char.ofNat n := by
    rintro n hn rfl
    rw [hcode n hn] at hlarge
    omega
  have hprintable : isPrintable c = true := by
    rw [isPrintable_ascii c (by omega), Bool.and_eq_true]
    exact ⟨decide_eq_true hlarge, decide_eq_true hsmall⟩
  rw [reprChar, if_neg (not_or.mpr ⟨hmark, hbackslash⟩), if_neg (hcontrol 9 (by omega)),
    if_neg (hcontrol 10 (by omega)), if_neg (hcontrol 13 (by omega)), if_pos hprintable]

theorem repr_commas (n : ℕ) :
    (List.replicate n ',').flatMap (reprChar apostrophe) = List.replicate n ',' := by
  have hcomma : reprChar apostrophe ',' = [','] :=
    reprChar_printable (by decide) (by decide) (by decide) (by decide)
  induction n with
  | zero => rfl
  | succ n ih => rw [List.replicate_succ, List.flatMap_cons, hcomma, ih, List.singleton_append]

theorem reprOf_password (n : ℕ) :
    (LogValue.text (password n)).reprOf =
      apostrophe :: (['x', ' '] ++ (['x', quote, backslash, apostrophe, ','] ++
        (List.replicate n ',' ++ [apostrophe]))) := by
  have hmark : reprMark (password n).toList = apostrophe := by
    rw [reprMark, if_neg]
    rintro ⟨-, hquote⟩
    apply hquote
    rw [password, String.toList_ofList]
    exact List.mem_append_left _ (by decide)
  have hstart : ['x', ' ', 'x', quote, apostrophe, ','].flatMap (reprChar apostrophe) =
      ['x', ' ', 'x', quote, backslash, apostrophe, ','] := by
    have hprintable : ∀ c ∈ ['x', ' ', quote, ','], reprChar apostrophe c = [c] := by
      intro c hc
      have hall : (['x', ' ', quote, ','].all fun c =>
          decide (c.toNat < 127 ∧ 32 ≤ c.toNat ∧ c ≠ apostrophe ∧ c ≠ backslash)) = true := by
        decide
      have hrange := of_decide_eq_true (List.all_eq_true.mp hall c hc)
      exact reprChar_printable hrange.1 hrange.2.1 hrange.2.2.1 hrange.2.2.2
    have hapostrophe : reprChar apostrophe apostrophe = [backslash, apostrophe] := if_pos (.inl rfl)
    simp only [List.flatMap_cons, List.flatMap_nil, hapostrophe, hprintable 'x' (by decide),
      hprintable ' ' (by decide), hprintable quote (by decide), hprintable ',' (by decide)]
    rfl
  rw [reprOf, reprText, hmark, password, String.toList_ofList, List.flatMap_append, hstart,
    repr_commas]
  rfl

theorem letters_avoid {c : Char} {text : String} (hc : c.toNat < 128)
    (h : text.toList.all (fun l => decide (l.toNat < 128 ∧ l.toLower ≠ c.toLower)) = true) :
    Pattern.Avoids c (letters text) := by
  rw [letters]
  generalize text.toList = cs at h ⊢
  induction cs with
  | nil => trivial
  | cons l ls ih =>
    rw [List.all_cons, Bool.and_eq_true] at h
    obtain ⟨hl, hne⟩ := of_decide_eq_true h.1
    exact ⟨sameLetter_of_ne hl hc hne, ih h.2⟩

theorem letters_never_start {c l : Char} {text : String} {ls : List Char} (hc : c.toNat < 128)
    (htext : text.toList = l :: ls) (hl : l.toNat < 128) (hne : l.toLower ≠ c.toLower) :
    Pattern.NeverStarts isWord (letters text) c := by
  rw [letters, htext]
  exact Pattern.neverStarts_word (sameLetter_of_ne hl hc hne)

/-- The first letters of the secret words. -/
def startsSecret (c : Char) : Bool := ['p', 's', 't', 'a'].contains c.toLower

theorem inlineSecret_never_starts {c : Char} (hc : c.toNat < 128) (h : startsSecret c = false) :
    Pattern.NeverStarts isWord inlineSecret c := by
  have hne : ∀ l ∈ ['p', 's', 't', 'a'], l.toLower ≠ c.toLower := by
    intro l hl heq
    have hlower : (['p', 's', 't', 'a'].all fun l => decide (l.toLower = l)) = true := by decide
    rw [of_decide_eq_true (List.all_eq_true.mp hlower l hl)] at heq
    subst heq
    rw [startsSecret, List.contains_iff_mem.mpr hl] at h
    cases h
  apply Pattern.neverStarts_boundary
  apply Pattern.neverStarts_seq
  apply Pattern.neverStarts_group
  refine Pattern.neverStarts_alt ?_ (Pattern.neverStarts_alt ?_ (Pattern.neverStarts_alt ?_
    (Pattern.neverStarts_alt (Pattern.neverStarts_seq ?_) ?_)))
  · exact letters_never_start hc rfl (by decide) (hne 'p' (by decide))
  · exact letters_never_start hc rfl (by decide) (hne 's' (by decide))
  · exact letters_never_start hc rfl (by decide) (hne 't' (by decide))
  · exact letters_never_start hc rfl (by decide) (hne 'a' (by decide))
  · exact letters_never_start hc rfl (by decide) (hne 'a' (by decide))

theorem bearer_never_starts {c : Char} (hc : c.toNat < 128) (h : 'b' ≠ c.toLower) :
    Pattern.NeverStarts isWord bearer c := by
  apply Pattern.neverStarts_boundary
  apply Pattern.neverStarts_seq
  exact letters_never_start hc rfl (by decide) h

theorem secretWord_avoids : Pattern.Avoids 'x' secretWord := by
  refine ⟨letters_avoid ?_ ?_, letters_avoid ?_ ?_, letters_avoid ?_ ?_,
    ⟨letters_avoid ?_ ?_, rfl, letters_avoid ?_ ?_⟩, letters_avoid ?_ ?_⟩ <;> decide

omit [TextTables] in
theorem sign_avoids : Pattern.Avoids 'x' sign := rfl

theorem plainSecret_avoids : Pattern.Avoids ',' plainSecret := ⟨rfl, rfl⟩

theorem isSpace_x : isSpace 'x' = false := isSpace_ascii 'x' (by decide)

/-- A bearer token ends at the next space. -/
theorem bearer_ends {after : List Char} {place found : Pattern.Place}
    (hplace : 'x' :: ' ' :: after <:+ place.rest)
    (h : found ∈ Pattern.tries isWord bearer place) : after <:+ found.rest := by
  obtain ⟨start, hstart, h⟩ := Pattern.mem_tries_seq.mp h
  obtain ⟨afterWord, hword, h⟩ := Pattern.mem_tries_seq.mp h
  obtain ⟨afterSpace, hspace, htoken⟩ := Pattern.mem_tries_seq.mp h
  have hx := Pattern.tries_avoids .boundary trivial hplace hstart
  have hx := Pattern.tries_avoids (letters "Bearer") (letters_avoid (by decide) (by decide)) hx
    hword
  have hx := Pattern.tries_avoids (.some isSpace) ⟨isSpace_x, isSpace_x⟩ hx hspace
  have hblank : (!isSpace ' ') = false := by
    rw [isSpace_ascii ' ' (by decide)]
    decide
  have hend := Pattern.tries_avoids (.some fun c => !isSpace c) ⟨hblank, hblank⟩
    ((List.suffix_cons _ _).trans hx) htoken
  exact (List.suffix_cons _ _).trans hend

/-- A string ends at its second quotes. -/
theorem quoted_ends {mark c : Char} (before : List Char) {after : List Char} (hc : c ≠ mark)
    {place found : Pattern.Place} (hplace : c :: (before ++ mark :: after) <:+ place.rest)
    (h : found ∈ Pattern.tries isWord (quoted mark) place) : after <:+ found.rest := by
  obtain ⟨inside, hopen, h⟩ := Pattern.mem_tries_seq.mp h
  obtain ⟨close, hinside, hclose⟩ := Pattern.mem_tries_seq.mp h
  have hstart := Pattern.tries_avoids (.one fun c => c = mark) (decide_eq_false hc) hplace hopen
  have hmark : mark :: after <:+ inside.rest :=
    ((List.suffix_append before _).trans (List.suffix_cons c _)).trans hstart
  have hmark := Pattern.tries_avoids (.many fun c => c ≠ mark) (decide_eq_false (not_not.mpr rfl))
    hmark hinside
  exact Pattern.tries_one hmark hclose

/-- What an inline secret takes ends at the next comma, or inside the quotes before it. -/
theorem inlineSecret_ends {after : List Char} {place found : Pattern.Place}
    (hplace : 'x' :: quote :: backslash :: apostrophe :: ',' :: after <:+ place.rest)
    (h : found ∈ Pattern.tries isWord inlineSecret place) : after <:+ found.rest := by
  obtain ⟨start, hstart, h⟩ := Pattern.mem_tries_seq.mp h
  obtain ⟨afterWord, hword, h⟩ := Pattern.mem_tries_seq.mp h
  obtain ⟨afterEnd, hend, h⟩ := Pattern.mem_tries_seq.mp h
  obtain ⟨afterSpace, hspace, h⟩ := Pattern.mem_tries_seq.mp h
  obtain ⟨afterSign, hsign, h⟩ := Pattern.mem_tries_seq.mp h
  obtain ⟨value, hgap, h⟩ := Pattern.mem_tries_seq.mp h
  have hx := Pattern.tries_avoids .boundary trivial hplace hstart
  have hx := Pattern.tries_avoids (.group secretWord) secretWord_avoids hx hword
  have hx := Pattern.tries_avoids .boundary trivial hx hend
  have hx := Pattern.tries_avoids (.many isSpace) isSpace_x hx hspace
  have hx := Pattern.tries_avoids (.group sign) sign_avoids hx hsign
  have hx := Pattern.tries_avoids (.many isSpace) isSpace_x hx hgap
  have hcomma : ∀ {rest : List Char}, ',' :: after <:+ rest → after <:+ rest :=
    fun hrest => (List.suffix_cons _ _).trans hrest
  rcases Pattern.mem_tries_alt.mp h with hdouble | h
  · have hrest : backslash :: apostrophe :: ',' :: after <:+ found.rest :=
      quoted_ends [] (by decide) hx hdouble
    exact hcomma (((List.suffix_cons _ _).trans (List.suffix_cons _ _)).trans hrest)
  · rcases Pattern.mem_tries_alt.mp h with hsingle | hplain
    · exact hcomma (quoted_ends [quote, backslash] (by decide) hx hsingle)
    · have hrest : ',' :: after <:+ value.rest :=
        (List.suffix_append ['x', quote, backslash, apostrophe] _).trans hx
      exact hcomma (Pattern.tries_avoids plainSecret plainSecret_avoids hrest hplain)

/-- The quotes of a password in its `repr`, and a comma behind them. -/
def quotesBlock : List Char := ['x', quote, backslash, apostrophe, ',']

/-- No pattern starts in a password. -/
theorem never_starts {c : Char} {n : ℕ}
    (hc : c ∈ ['x', ' '] ++ (quotesBlock ++ List.replicate n ',')) :
    Pattern.NeverStarts isWord bearer c ∧ Pattern.NeverStarts isWord inlineSecret c := by
  have hplain : c ∈ ['x', ' '] ++ quotesBlock := by
    rw [← List.append_assoc] at hc
    rcases List.mem_append.mp hc with hc | hc
    · exact hc
    · rw [List.eq_of_mem_replicate hc]
      decide
  have hall : ((['x', ' '] ++ quotesBlock).all fun c =>
      decide (c.toNat < 128 ∧ 'b' ≠ c.toLower ∧ startsSecret c = false)) = true := by
    decide
  have hfacts := of_decide_eq_true (List.all_eq_true.mp hall c hplain)
  exact ⟨bearer_never_starts hfacts.1 hfacts.2.1, inlineSecret_never_starts hfacts.1 hfacts.2.2⟩

/-- The commas of a password stay wherever its `repr` stands. -/
theorem redactText_keeps (front back : List Char) (n : ℕ) : ∃ before after,
    (redactText (String.ofList (front ++ ((LogValue.text (password n)).reprOf ++ back)))).toList =
      before ++ (List.replicate n ',' ++ after) := by
  have htext : front ++ ((LogValue.text (password n)).reprOf ++ back) =
      (front ++ [apostrophe]) ++ (['x', ' '] ++ ((quotesBlock ++ List.replicate n ',') ++
        (apostrophe :: back))) := by
    rw [reprOf_password, quotesBlock]
    simp only [List.cons_append, List.nil_append, List.append_assoc]
  have hbearer : ∀ place found : Pattern.Place,
      ['x', ' '] ++ ((quotesBlock ++ List.replicate n ',') ++ (apostrophe :: back)) <:+ place.rest →
      found ∈ Pattern.tries isWord bearer place →
      (quotesBlock ++ List.replicate n ',') ++ (apostrophe :: back) <:+ found.rest :=
    fun place found hplace hfound => bearer_ends hplace hfound
  obtain ⟨cleaned, rest, hcleaned⟩ := Pattern.sub_block
    (fun _ => ("Bearer " ++ redacted).toList) (fun c hc => (never_starts hc).1) hbearer
    (front ++ [apostrophe])
  have hinline : ∀ place found : Pattern.Place,
      quotesBlock ++ (List.replicate n ',' ++ rest) <:+ place.rest →
      found ∈ Pattern.tries isWord inlineSecret place →
      List.replicate n ',' ++ rest <:+ found.rest :=
    fun place found hplace hfound => inlineSecret_ends hplace hfound
  obtain ⟨before, after, hafter⟩ := Pattern.sub_block
    (fun groups => groups.flatten ++ redacted.toList)
    (fun c hc => (never_starts (List.mem_append_right ['x', ' '] hc)).2) hinline cleaned
  refine ⟨before, after, ?_⟩
  rw [redactText, String.toList_ofList, String.toList_ofList, htext, hcleaned, List.append_assoc,
    hafter]

/-! ## Records that render a secret -/

/-- What holds a secret is not empty. -/
theorem truthy_of_holdsSecret {v w : LogValue} (h : SameBut v w) (hv : holdsSecret v = true) :
    w.truthy = true := by
  have hv' : v.truthy = true := by
    cases v with
    | mapping opening closing items => cases items; cases hv; rfl
    | list items => cases items; cases hv; rfl
    | tuple items => cases items; cases hv; rfl
    | set items => cases hv
    | text value => cases hv
    | other str repr json truth => cases hv
  cases h with
  | refl => exact hv'
  | mapping hitems => cases hitems; cases hv'; rfl; rfl
  | list hitems => cases hitems; cases hv'; rfl
  | tuple hitems => cases hitems; cases hv'; rfl

/-- What holds a secret is shown by its `repr`. -/
theorem strOf_eq_reprOf {v w : LogValue} (h : SameBut v w) (hv : holdsSecret v = true) :
    w.strOf = w.reprOf := by
  cases h with
  | refl =>
    cases v with
    | mapping opening closing items => rfl
    | list items => rfl
    | tuple items => rfl
    | set items => rfl
    | text value => cases hv
    | other str repr json truth => cases hv
  | mapping hitems => rfl
  | list hitems => rfl
  | tuple hitems => rfl

theorem pieces_refl (pieces : List Piece) : List.Forall₂ SamePiece pieces pieces := by
  induction pieces with
  | nil => exact .nil
  | cons piece pieces ih =>
    refine .cons ?_ ih
    cases piece with
    | shown text => exact .shown text
    | whole value => exact .whole (.refl value)

theorem sameMessage_refl (message : Message) : SameMessage message message := by
  cases message with
  | plain msg => exact .plain (.refl msg)
  | filled pieces => exact .filled (pieces_refl pieces)

/-- Whatever is put in the place of a rendered secret, its `repr` stands in the message. -/
theorem message_around {message : Message} (h : messageRenders message = true) :
    ∃ before after, ∀ secret : LogValue, ∃ pieces, SameMessage message (.filled pieces) ∧
      getMessage (.filled pieces) = String.ofList (before ++ (secret.reprOf ++ after)) := by
  cases message with
  | plain msg => cases h
  | filled pieces =>
    obtain ⟨piece, hpiece, hholds⟩ := List.any_eq_true.mp h
    obtain ⟨front, back, rfl⟩ := List.append_of_mem hpiece
    cases piece with
    | shown text => cases hholds
    | whole value =>
      obtain ⟨before, after, hplace⟩ := repr_around value hholds
      refine ⟨front.flatMap Piece.text ++ before, after ++ back.flatMap Piece.text, ?_⟩
      intro secret
      obtain ⟨w, hsame, htext⟩ := hplace secret
      refine ⟨front ++ .whole w :: back, .filled ?_, ?_⟩
      · exact List.rel_append (pieces_refl front) (.cons (.whole hsame) (pieces_refl back))
      · rw [getMessage, List.flatMap_append, List.flatMap_cons, Piece.text,
          strOf_eq_reprOf hsame hholds, htext]
        simp only [List.append_assoc]

/-- The correlation id can be exchanged for one that differs in its secrets. -/
theorem assoc_exchange {xs : List (String × LogValue)} {v w : LogValue}
    (hassoc : Dict.assoc "correlation_id" xs = some v) (h : SameBut v w) :
    ∃ ys, SameMembers (itemsOf xs) (itemsOf ys) ∧ Dict.assoc "correlation_id" ys = some w := by
  induction xs with
  | nil => cases hassoc
  | cons x xs ih =>
    obtain ⟨k, value⟩ := x
    rw [Dict.assoc] at hassoc
    by_cases hkey : k = "correlation_id"
    · rw [if_pos hkey] at hassoc
      obtain rfl := Option.some.inj hassoc
      exact ⟨(k, w) :: xs, .cons h (sameMembers_refl _), by rw [Dict.assoc, if_pos hkey]⟩
    · rw [if_neg hkey] at hassoc
      obtain ⟨ys, hsame, hys⟩ := ih hassoc
      exact ⟨(k, value) :: ys, .cons (.refl value) hsame, by rw [Dict.assoc, if_neg hkey, hys]⟩

/-! ## Lines -/

variable [Platform]

/-- Without rendered secrets the lines are the same. -/
theorem format_eq {context : Option String} {a b : LogRecord} (h : SameRecord a b)
    (ha : rendersSecret a = false) : format context a = format context b := by
  obtain ⟨hmessage, hcorrelation⟩ := Bool.or_eq_false_iff.mp ha
  have hextras : SameMembers (extras a) (extras b) :=
    extras_same (fun name => !ownNames.contains name) h.attributes
  rw [format, format, payload, payload, h.created, h.levelname, h.name,
    writtenMessage_eq h.message hmessage, writtenCorrelation_eq h hcorrelation, h.exception,
    isEmpty_eq_of_sameMembers hextras, redactMembers_eq hextras]

theorem payload_of_format_eq {context : Option String} {a b : LogRecord}
    (h : format context a = format context b) :
    writtenMessage a.message = writtenMessage b.message ∧
      (payload context a).drop 4 = (payload context b).drop 4 := by
  have hpayload := Tree.obj.inj (Tree.write_injective [] (String.ofList_injective h))
  refine ⟨?_, congrArg (List.drop 4) hpayload⟩
  simp only [payload, List.cons_append, List.cons.injEq, Prod.mk.injEq, true_and] at hpayload
  exact hpayload.2.2.2.1

/-- One line has one correlation id. -/
theorem correlation_of_format_eq {context : Option String} {a b : LogRecord} {s t : String}
    (h : format context a = format context b) (hs : writtenCorrelation context a = some s)
    (ht : writtenCorrelation context b = some t) : s = t := by
  have hrest := (payload_of_format_eq h).2
  simp only [payload, hs, ht, Option.map_some, Option.toList_some, List.cons_append,
    List.nil_append, List.drop_succ_cons, List.drop_zero, List.cons.injEq, Prod.mk.injEq,
    true_and] at hrest
  exact Scalar.str.inj (Tree.scalar.inj hrest.1)

/-- A secret in a message shows: some password has more commas than the line has room for. -/
theorem message_shows {context : Option String} {a : LogRecord}
    (h : ∀ b, SameRecord a b → format context a = format context b) :
    messageRenders a.message = false := by
  rw [← Bool.not_eq_true]
  intro hrenders
  obtain ⟨before, after, hplace⟩ := message_around hrenders
  have hmessage : ∀ n, ∃ front back, writtenMessage a.message =
      .scalar (.str (String.ofList (front ++ (List.replicate n ',' ++ back)))) := by
    intro n
    obtain ⟨pieces, hsame, htext⟩ := hplace (.text (password n))
    obtain ⟨front, back, hkept⟩ := redactText_keeps before after n
    refine ⟨front, back, ?_⟩
    have hline := h { a with message := .filled pieces }
      ⟨rfl, rfl, rfl, hsame, sameMembers_refl _, rfl⟩
    have hwritten : writtenMessage (.filled pieces) =
        .scalar (.str (redactText (getMessage (.filled pieces)))) := rfl
    rw [(payload_of_format_eq hline).1, hwritten, htext, ← hkept, String.ofList_toList]
  obtain ⟨front, back, hshort⟩ := hmessage 0
  obtain ⟨front', back', hlong⟩ := hmessage ((front ++ (List.replicate 0 ',' ++ back)).length + 1)
  rw [hshort] at hlong
  have htexts := String.ofList_injective (Scalar.str.inj (Tree.scalar.inj hlong))
  have hlength := congrArg List.length htexts
  simp only [List.length_append, List.length_replicate] at hlength
  omega

/-- A secret in a correlation id shows as it is. -/
theorem correlation_shows {context : Option String} {a : LogRecord}
    (h : ∀ b, SameRecord a b → format context a = format context b) :
    (Dict.assoc "correlation_id" a.attributes).any holdsSecret = false := by
  cases hassoc : Dict.assoc "correlation_id" a.attributes with
  | none => rfl
  | some v =>
    rw [Option.any_some, ← Bool.not_eq_true]
    intro hholds
    obtain ⟨before, after, hplace⟩ := repr_around v hholds
    have hshown : ∀ secret : LogValue, ∃ b, format context a = format context b ∧
        writtenCorrelation context b =
          some (String.ofList (before ++ (secret.reprOf ++ after))) := by
      intro secret
      obtain ⟨w, hsame, htext⟩ := hplace secret
      obtain ⟨attributes, hattributes, hw⟩ := assoc_exchange hassoc hsame
      refine ⟨{ a with attributes := attributes },
        h _ ⟨rfl, rfl, rfl, sameMessage_refl a.message, hattributes, rfl⟩, ?_⟩
      rw [writtenCorrelation, hw]
      simp only [truthy_of_holdsSecret hsame hholds, if_true, strOf_eq_reprOf hsame hholds, htext]
    obtain ⟨b, hb, hlist⟩ := hshown (.list [])
    obtain ⟨c, hc, htuple⟩ := hshown (.tuple [])
    have htexts := correlation_of_format_eq (hb.symm.trans hc) hlist htuple
    have hvalues := List.append_cancel_right
      (List.append_cancel_left (String.ofList_injective htexts))
    have hdiffer : (LogValue.list []).reprOf ≠ (LogValue.tuple []).reprOf := nofun
    exact hdiffer hvalues

/-- The line of a record is the line of every record that is identical but for values under
    sensitive keys exactly when no such value is rendered. -/
theorem format_hides_secrets_iff (context : Option String) (a : LogRecord) :
    (∀ b, SameRecord a b → format context a = format context b) ↔ rendersSecret a = false := by
  constructor
  · intro h
    exact Bool.or_eq_false_iff.mpr ⟨message_shows h, correlation_shows h⟩
  · intro ha b hb
    exact format_eq hb ha

end

/-! The tables of ASCII, and a request that logs its login with `%s`. -/

namespace Sample
open Godzilla.Sample

scoped instance ascii : TextTables where
  isWord c := c.isAlphanum || c = '_'
  isSpace := asciiSpace
  isPrintable c := 32 ≤ c.toNat && c.toNat < 127
  sameLetter a c := a.toLower == c.toLower
  isSpace_ascii _ _ := rfl
  isPrintable_ascii _ _ := rfl
  sameLetter_ascii _ _ _ _ := rfl

/-- The items of a dict of strings. -/
def dict (items : List (String × String)) : LogValue :=
  .mapping "\x7b" "\x7d" (items.map fun item => (attributeKey item.1, .text item.2))

def login (secret : String) : LogRecord :=
  { created := 0
    levelname := "INFO"
    name := "godzilla"
    message := .filled [.whole (dict [("password", secret)])]
    attributes := []
    exception := none }

/-- A quote stands between the key and its colon, so that no pattern is found. -/
theorem login_shows : ¬ ∀ (context : Option String) (a b : LogRecord), SameRecord a b →
    format context a = format context b := by
  intro h
  have hkey : sensitiveKey "password" = true := by decide +kernel
  have hsame : SameRecord (login "x") (login "y") :=
    ⟨rfl, rfl, rfl, .filled (.cons (.whole (.mapping (.secret hkey .nil))) .nil), .nil, rfl⟩
  have hdiffer : format none (login "x") ≠ format none (login "y") := by decide +kernel
  exact hdiffer (h none _ _ hsame)

end Sample

end Godzilla.Logging
