import Godzilla.Misc.Json
import Mathlib.Data.Finset.Dedup
import Mathlib.Data.String.Basic
import Std.Data.String.ToInt

/-!
# Codecs of JSON values

A codec writes values as JSON and reads them back. Scalars, tables of texts and lists are
codecs; a record is put together from its members, each with its name, its codec and the
field it is taken from. A member may have a default and then be left out of an object whose
field has that default; other members than those of the record are refused.
-/

namespace Misc

/-- A writer and a reader of values. What is written of a valid value is read back as it was. -/
structure Codec (α : Type) where
  enc : α → Json
  dec : Json → Option α
  Valid : α → Prop
  enc_ne_null : ∀ a, enc a ≠ .null
  dec_enc : ∀ a, Valid a → dec (enc a) = some a

namespace Codec

variable {α β : Type}

/-- Valid values are told apart by what is written of them. -/
theorem eq_of_enc_eq (c : Codec α) {a b : α} (ha : c.Valid a) (hb : c.Valid b)
    (h : c.enc a = c.enc b) : a = b := by
  have hread := c.dec_enc a ha
  rw [h, c.dec_enc b hb] at hread
  exact (Option.some.inj hread).symm

/-- A string. -/
def text : Codec String where
  enc := .str
  dec
    | .str s => some s
    | _ => none
  Valid _ := True
  enc_ne_null _ := Json.noConfusion
  dec_enc _ _ := rfl

/-- A truth value. -/
def bool : Codec Bool where
  enc := .bool
  dec
    | .bool b => some b
    | _ => none
  Valid _ := True
  enc_ne_null _ := Json.noConfusion
  dec_enc _ _ := rfl

/-- An integer, by its decimal literal. -/
def int : Codec Int where
  enc n := .num n.repr
  dec
    | .num literal => literal.toInt?
    | _ => none
  Valid _ := True
  enc_ne_null _ := Json.noConfusion
  dec_enc n _ := Int.toInt?_repr n

/-- The same texts, with further readings of values that the codec does not read. -/
def lenient (c : Codec α) (lax : Json → Option α) : Codec α where
  enc := c.enc
  dec j := (c.dec j).or (lax j)
  Valid := c.Valid
  enc_ne_null := c.enc_ne_null
  dec_enc a ha := by rw [c.dec_enc a ha, Option.some_or]

/-- The values that meet a condition. -/
def such (c : Codec α) (P : α → Prop) [DecidablePred P] : Codec α where
  enc := c.enc
  dec j := (c.dec j).filter fun a => P a
  Valid a := c.Valid a ∧ P a
  enc_ne_null := c.enc_ne_null
  dec_enc a ha := by simp [c.dec_enc a ha.1, Option.filter, ha.2]

/-- Values read through others. -/
def through (c : Codec α) (write : β → α) (read : α → Option β)
    (hread : ∀ b, read (write b) = some b) : Codec β where
  enc b := c.enc (write b)
  dec j := (c.dec j).bind read
  Valid b := c.Valid (write b)
  enc_ne_null b := c.enc_ne_null (write b)
  dec_enc b hb := by rw [c.dec_enc _ hb, Option.bind_some, hread]

/-- The codec with a text of its own for one value. -/
def spelled [DecidableEq α] (c : Codec α) (a : α) (s : String) (hfree : ∀ b, c.enc b ≠ .str s) :
    Codec α where
  enc b := if b = a then .str s else c.enc b
  dec j := if j = .str s then some a else c.dec j
  Valid := c.Valid
  enc_ne_null b := by
    split
    · exact Json.noConfusion
    · exact c.enc_ne_null b
  dec_enc b hb := by
    by_cases hspelled : b = a
    · simp [hspelled]
    · simp [hspelled, hfree b, c.dec_enc b hb]

theorem spelled_enc_ne [DecidableEq α] {c : Codec α} {a : α} {s t : String}
    {hfree : ∀ b, c.enc b ≠ .str s} (hne : s ≠ t) (h : ∀ b, c.enc b ≠ .str t) (b : α) :
    (c.spelled a s hfree).enc b ≠ .str t := by
  by_cases hspelled : b = a
  · simpa [spelled, hspelled] using hne
  · simpa [spelled, hspelled] using h b

/-- The natural numbers among the integers. -/
def nat (int : Codec Int) : Codec Nat :=
  int.through (fun n => (n : Int)) (fun n => if 0 ≤ n then some n.toNat else none)
    fun n => by simp

/-- The members of an enumeration, by a table of their texts. -/
def tag (members : List α) (value : α → String)
    (hfind : ∀ a, members.find? (fun b => value b == value a) = some a) : Codec α :=
  text.through value (fun s => members.find? fun b => value b == s) hfind

theorem mapM_enc {c : Codec α} {xs : List α} (h : ∀ x ∈ xs, c.Valid x) :
    (xs.map c.enc).mapM c.dec = some xs := by
  induction xs with
  | nil => rfl
  | cons x xs ih =>
    rw [List.map_cons, List.mapM_cons, c.dec_enc x (h x List.mem_cons_self),
      ih fun y hy => h y (List.mem_cons_of_mem x hy)]
    rfl

/-- A list. -/
def list (c : Codec α) : Codec (List α) where
  enc xs := .arr (xs.map c.enc)
  dec
    | .arr items => items.mapM c.dec
    | _ => none
  Valid xs := ∀ x ∈ xs, c.Valid x
  enc_ne_null _ := Json.noConfusion
  dec_enc _ h := mapM_enc h

/-- Two values of one type. -/
def two (c : Codec α) : Codec (α × α) where
  enc p := .arr [c.enc p.1, c.enc p.2]
  dec
    | .arr [x, y] => do pure (← c.dec x, ← c.dec y)
    | _ => none
  Valid p := c.Valid p.1 ∧ c.Valid p.2
  enc_ne_null _ := Json.noConfusion
  dec_enc p hp := by simp [c.dec_enc _ hp.1, c.dec_enc _ hp.2]

/-- A set of members of an enumeration, written in the order of a table of all of them. -/
def flags [DecidableEq α] (c : Codec α) (table : List α) (hall : ∀ a, a ∈ table) :
    Codec (Finset α) :=
  c.list.through (fun s => table.filter (· ∈ s)) (fun xs => some xs.toFinset) fun s => by
    congr 1
    ext a
    simp [hall a]

/-- One of two kinds of values; what is written of the second kind must not read as the first. -/
def either (c : Codec α) (d : Codec β) (hrefused : ∀ b, c.dec (d.enc b) = none) :
    Codec (α ⊕ β) where
  enc := Sum.elim c.enc d.enc
  dec j := ((c.dec j).map Sum.inl).or ((d.dec j).map Sum.inr)
  Valid := Sum.elim c.Valid d.Valid
  enc_ne_null
    | .inl a => c.enc_ne_null a
    | .inr b => d.enc_ne_null b
  dec_enc
    | .inl a, h => by simp [c.dec_enc a h]
    | .inr b, h => by simp [hrefused, d.dec_enc b h]

end Codec

/-- A member of the objects written of values `σ`: its name, what is written, and how it is read
    where it is present and where it is missing. -/
structure Member (σ β : Type) where
  name : String
  write : σ → Json
  read : Json → Option β
  default : Option β
  value : σ → β
  Valid : σ → Prop
  read_write : ∀ s, Valid s → read (write s) = some (value s)

namespace Member

variable {σ α β : Type}

/-- A field with its codec and its default, if it has one. -/
def field (name : String) (c : Codec β) (get : σ → β) (default : Option β) : Member σ β where
  name := name
  write s := c.enc (get s)
  read := c.dec
  default := default
  value := get
  Valid s := c.Valid (get s)
  read_write s hs := c.dec_enc (get s) hs

/-- A field that may be `null`. -/
def nullable (name : String) (c : Codec β) (get : σ → Option β) (default : Option (Option β)) :
    Member σ (Option β) where
  name := name
  write s := match get s with
    | none => .null
    | some b => c.enc b
  read j := if j = .null then some none else (c.dec j).map some
  default := default
  value := get
  Valid s := ∀ b ∈ get s, c.Valid b
  read_write s hs := by
    cases hget : get s with
    | none => rfl
    | some b => simp [c.enc_ne_null, c.dec_enc b (hs b hget)]

/-- A member with one permitted value, which is its default. -/
def literal (name : String) (value : Json) : Member σ Unit where
  name := name
  write _ := value
  read j := if j = value then some () else none
  default := some ()
  value _ := ()
  Valid _ := True
  read_write _ _ := if_pos rfl

/-- Whether the member may be left out: the value has its default. -/
def Omittable (m : Member σ β) (s : σ) : Prop := m.default = some (m.value s)

/-- The member as it is read from an object. -/
def readIn (m : Member σ β) (lookup : String → Option Json) : Option β :=
  match lookup m.name with
  | some j => m.read j
  | none => m.default

theorem readIn_eq {m : Member σ β} {s : σ} {dropped : List String}
    {lookup : String → Option Json} (hvalid : m.Valid s)
    (homit : m.name ∈ dropped → m.Omittable s)
    (hlookup : lookup m.name = if m.name ∈ dropped then none else some (m.write s)) :
    m.readIn lookup = some (m.value s) := by
  rw [readIn, hlookup]
  by_cases hdropped : m.name ∈ dropped
  · simp only [if_pos hdropped]
    exact homit hdropped
  · simp only [if_neg hdropped]
    exact m.read_write s hvalid

end Member

/-- The members of a record in the order in which they are written, with what is made of their
    values. -/
structure Record (σ α : Type) where
  names : List String
  write : σ → List (String × Json)
  read : (String → Option Json) → Option α
  value : σ → α
  Valid : σ → Prop
  /-- The named members may be left out. -/
  Droppable : σ → List String → Prop
  names_write : ∀ s, (write s).map Prod.fst = names
  droppable_nil : ∀ s, Droppable s []
  read_dropped : ∀ s dropped lookup, Valid s → Droppable s dropped →
    (∀ m ∈ write s, lookup m.1 = if m.1 ∈ dropped then none else some m.2) →
      read lookup = some (value s)

namespace Record

variable {σ α β γ : Type}

/-- No member. -/
def done : Record σ Unit where
  names := []
  write _ := []
  read _ := some ()
  value _ := ()
  Valid _ := True
  Droppable _ _ := True
  names_write _ := rfl
  droppable_nil _ := trivial
  read_dropped _ _ _ _ _ _ := rfl

/-- One more member before the others. -/
def member (m : Member σ β) (combine : β → α → γ) (r : Record σ α) : Record σ γ where
  names := m.name :: r.names
  write s := (m.name, m.write s) :: r.write s
  read lookup := do
    let value ← m.readIn lookup
    let rest ← r.read lookup
    pure (combine value rest)
  value s := combine (m.value s) (r.value s)
  Valid s := m.Valid s ∧ r.Valid s
  Droppable s dropped := (m.name ∈ dropped → m.Omittable s) ∧ r.Droppable s dropped
  names_write s := by rw [List.map_cons, r.names_write]
  droppable_nil s := ⟨nofun, r.droppable_nil s⟩
  read_dropped s dropped lookup hvalid hdroppable hlookup := by
    have hmember := Member.readIn_eq hvalid.1 hdroppable.1 (hlookup _ List.mem_cons_self)
    have hrest := r.read_dropped s dropped lookup hvalid.2 hdroppable.2 fun p hp =>
      hlookup p (List.mem_cons_of_mem _ hp)
    rw [hmember, hrest]
    rfl

/-- A field that must be present. -/
def field (name : String) (c : Codec β) (get : σ → β) (rest : Record σ α) : Record σ (β × α) :=
  member (.field name c get none) Prod.mk rest

/-- A field with a default. -/
def defaulted (name : String) (c : Codec β) (default : β) (get : σ → β) (rest : Record σ α) :
    Record σ (β × α) :=
  member (.field name c get (some default)) Prod.mk rest

/-- A field whose default is what a JSON value reads as. -/
def nested (name : String) (c : Codec β) (default : Json) (get : σ → β) (rest : Record σ α) :
    Record σ (β × α) :=
  member (.field name c get (c.dec default)) Prod.mk rest

/-- A field that must be present and may be `null`. -/
def nullable (name : String) (c : Codec β) (get : σ → Option β) (rest : Record σ α) :
    Record σ (Option β × α) :=
  member (.nullable name c get none) Prod.mk rest

/-- A field with the default `null`. -/
def optional (name : String) (c : Codec β) (get : σ → Option β) (rest : Record σ α) :
    Record σ (Option β × α) :=
  member (.nullable name c get (some none)) Prod.mk rest

/-- A member with one permitted value. -/
def literal (name : String) (value : Json) (rest : Record σ α) : Record σ α :=
  member (.literal name value) (fun _ others => others) rest

section Names

variable (name : String) (c : Codec β) (rest : Record σ α)

@[simp] theorem names_done : (done : Record σ Unit).names = [] := rfl

@[simp] theorem names_field (get : σ → β) : (field name c get rest).names = name :: rest.names := rfl

@[simp] theorem names_defaulted (default : β) (get : σ → β) :
    (defaulted name c default get rest).names = name :: rest.names := rfl

@[simp] theorem names_nested (default : Json) (get : σ → β) :
    (nested name c default get rest).names = name :: rest.names := rfl

@[simp] theorem names_nullable (get : σ → Option β) :
    (nullable name c get rest).names = name :: rest.names := rfl

@[simp] theorem names_optional (get : σ → Option β) :
    (optional name c get rest).names = name :: rest.names := rfl

@[simp] theorem names_literal (value : Json) :
    (literal name value rest).names = name :: rest.names := rfl

variable (s : σ)

@[simp] theorem value_done : (done : Record σ Unit).value s = () := rfl

@[simp] theorem value_field (get : σ → β) :
    (field name c get rest).value s = (get s, rest.value s) := rfl

@[simp] theorem value_defaulted (default : β) (get : σ → β) :
    (defaulted name c default get rest).value s = (get s, rest.value s) := rfl

@[simp] theorem value_nested (default : Json) (get : σ → β) :
    (nested name c default get rest).value s = (get s, rest.value s) := rfl

@[simp] theorem value_nullable (get : σ → Option β) :
    (nullable name c get rest).value s = (get s, rest.value s) := rfl

@[simp] theorem value_optional (get : σ → Option β) :
    (optional name c get rest).value s = (get s, rest.value s) := rfl

@[simp] theorem value_literal (value : Json) :
    (literal name value rest).value s = rest.value s := rfl

end Names

section Dropped

variable {name : String} {c : Codec β} {rest : Record σ α} {s : σ} {dropped : List String}

@[simp] theorem droppable_done : (done : Record σ Unit).Droppable s dropped := trivial

@[simp] theorem droppable_field {get : σ → β} : (field name c get rest).Droppable s dropped ↔
    name ∉ dropped ∧ rest.Droppable s dropped :=
  and_congr (by simp [Member.Omittable, Member.field]) Iff.rfl

@[simp] theorem droppable_optional {get : σ → Option β} :
    (optional name c get rest).Droppable s dropped ↔
      (name ∈ dropped → get s = none) ∧ rest.Droppable s dropped :=
  and_congr (by simp [Member.Omittable, Member.nullable, eq_comm]) Iff.rfl

@[simp] theorem droppable_literal {value : Json} :
    (literal name value rest).Droppable s dropped ↔ rest.Droppable s dropped :=
  and_iff_right fun _ => rfl

end Dropped

section Checked

variable {name : String} {c : Codec β} {rest : Record σ α} {s : σ}

@[simp] theorem valid_done : (done : Record σ Unit).Valid s := trivial

@[simp] theorem valid_field {get : σ → β} :
    (field name c get rest).Valid s ↔ c.Valid (get s) ∧ rest.Valid s := Iff.rfl

@[simp] theorem valid_optional {get : σ → Option β} :
    (optional name c get rest).Valid s ↔ (∀ b ∈ get s, c.Valid b) ∧ rest.Valid s := Iff.rfl

@[simp] theorem valid_literal {value : Json} :
    (literal name value rest).Valid s ↔ rest.Valid s := and_iff_right trivial

end Checked

section Written

variable (name : String) (c : Codec β) (rest : Record σ α) (s : σ)

@[simp] theorem write_done : (done : Record σ Unit).write s = [] := rfl

@[simp] theorem write_field (get : σ → β) :
    (field name c get rest).write s = (name, c.enc (get s)) :: rest.write s := rfl

@[simp] theorem write_nested (default : Json) (get : σ → β) :
    (nested name c default get rest).write s = (name, c.enc (get s)) :: rest.write s := rfl

@[simp] theorem write_optional (get : σ → Option β) :
    (optional name c get rest).write s =
      (name, match get s with
        | none => .null
        | some b => c.enc b) :: rest.write s := rfl

@[simp] theorem write_literal (value : Json) :
    (literal name value rest).write s = (name, value) :: rest.write s := rfl

end Written

theorem get?_of_nodup {ms : List (String × Json)} (hnodup : (ms.map Prod.fst).Nodup)
    {m : String × Json} (hm : m ∈ ms) : (Json.obj ms).get? m.1 = some m.2 := by
  induction ms with
  | nil => cases hm
  | cons head rest ih =>
    rw [List.map_cons, List.nodup_cons] at hnodup
    rcases List.mem_cons.mp hm with rfl | hrest
    · simp [Json.get?]
    · have hne : head.1 ≠ m.1 := by
        intro heq
        exact hnodup.1 (heq ▸ List.mem_map_of_mem hrest)
      have hfind := ih hnodup.2 hrest
      simpa [Json.get?, hne] using hfind

/-- An object without the members of a list of names. -/
theorem foldl_without (ms : List (String × Json)) (dropped : List String) :
    dropped.foldl (fun (j : Json) name => j.without name) (Json.obj ms) =
      Json.obj (ms.filter fun m => m.1 ∉ dropped) := by
  induction dropped generalizing ms with
  | nil => simp
  | cons name rest ih =>
    rw [List.foldl_cons, Json.without, ih, List.filter_filter]
    congr 2
    funext m
    by_cases hname : m.1 = name <;> simp [hname]

theorem get?_dropped {ms : List (String × Json)} (hnodup : (ms.map Prod.fst).Nodup)
    {m : String × Json} (hm : m ∈ ms) (dropped : List String) :
    (Json.obj (ms.filter fun m => m.1 ∉ dropped)).get? m.1 =
      if m.1 ∈ dropped then none else some m.2 := by
  by_cases hdropped : m.1 ∈ dropped
  · rw [if_pos hdropped]
    simp only [Json.get?, Option.map_eq_none_iff, List.find?_eq_none, List.mem_filter]
    rintro other ⟨-, hother⟩ heq
    rw [beq_iff_eq] at heq
    simp [heq, hdropped] at hother
  · rw [if_neg hdropped]
    have hkept : m ∈ ms.filter fun m => m.1 ∉ dropped := by simp [hm, hdropped]
    have hsub : ((ms.filter fun m => m.1 ∉ dropped).map Prod.fst).Sublist (ms.map Prod.fst) :=
      List.filter_sublist.map _
    exact get?_of_nodup (hsub.nodup hnodup) hkept

/-- The object of a value. -/
def enc (r : Record σ α) (s : σ) : Json := .obj (r.write s)

/-- What is made of an object that has no members but those of the record. -/
def dec (r : Record σ α) (make : α → Option σ) (j : Json) : Option σ :=
  match j with
  | .obj ms => if ∀ m ∈ ms, m.1 ∈ r.names then (r.read j.get?).bind make else none
  | _ => none

/-- A valid value is read back although members were left out that have their defaults. -/
theorem dec_dropped {r : Record σ α} {make : α → Option σ} {s : σ}
    (hmade : make (r.value s) = some s) (hnodup : r.names.Nodup) (hvalid : r.Valid s)
    {dropped : List String} (hdroppable : r.Droppable s dropped) :
    r.dec make (dropped.foldl (fun (j : Json) name => j.without name) (r.enc s)) = some s := by
  have hnames : ∀ m ∈ (r.write s).filter fun m => m.1 ∉ dropped, m.1 ∈ r.names := by
    intro m hm
    rw [← r.names_write s]
    exact List.mem_map_of_mem (List.mem_of_mem_filter hm)
  have hread := r.read_dropped s dropped
    (Json.obj ((r.write s).filter fun m => m.1 ∉ dropped)).get? hvalid hdroppable
    fun m hm => get?_dropped (by rw [r.names_write s]; exact hnodup) hm dropped
  rw [enc, foldl_without, dec, if_pos hnames, hread]
  exact hmade

/-- A member that is not left out is found. -/
theorem get?_enc_dropped {r : Record σ α} {s : σ} (hnodup : r.names.Nodup)
    {m : String × Json} (hm : m ∈ r.write s) {dropped : List String} (hkept : m.1 ∉ dropped) :
    (dropped.foldl (fun (j : Json) name => j.without name) (r.enc s)).get? m.1 = some m.2 := by
  rw [enc, foldl_without, get?_dropped (by rw [r.names_write s]; exact hnodup) hm, if_neg hkept]

/-- An object with another member is refused. -/
theorem dec_eq_none_of_mem {r : Record σ α} {make : α → Option σ} {ms : List (String × Json)}
    {m : String × Json} (hm : m ∈ ms) (hname : m.1 ∉ r.names) : r.dec make (.obj ms) = none :=
  if_neg fun h => hname (h m hm)

end Record

theorem dite_eq_some {σ : Type} {P : Prop} [Decidable P] {make : P → σ} {s : σ} (h : P)
    (hmade : make h = s) : (if h : P then some (make h) else none) = some s := by
  rw [dif_pos h, hmade]

/-- The objects of a record, with their members in the order in which they are listed. -/
def Codec.object {σ α : Type} (r : Record σ α) (make : α → Option σ)
    (hmade : ∀ s, make (r.value s) = some s) (hnodup : r.names.Nodup := by simp) : Codec σ where
  enc := r.enc
  dec := r.dec make
  Valid := r.Valid
  enc_ne_null _ := Json.noConfusion
  dec_enc s hs := Record.dec_dropped (hmade s) hnodup hs (r.droppable_nil s)

section Objects

variable {σ τ α β : Type} {r : Record σ α} {make : α → Option σ}
  {hmade : ∀ s, make (r.value s) = some s} {hnodup : r.names.Nodup}
  {r' : Record τ β} {make' : β → Option τ} {hmade' : ∀ t, make' (r'.value t) = some t}
  {hnodup' : r'.names.Nodup}

/-- What is left of the object of a value without the members of a list of names. -/
theorem Codec.object_enc_dropped (s : σ) (dropped : List String) :
    dropped.foldl (fun (j : Json) name => j.without name)
      ((object r make hmade hnodup).enc s) = .obj ((r.write s).filter fun m => m.1 ∉ dropped) :=
  Record.foldl_without (r.write s) dropped

/-- A valid value is read back although members were left out that have their defaults. -/
theorem Codec.object_dec_dropped {s : σ} (hvalid : (object r make hmade hnodup).Valid s)
    {dropped : List String} (hdroppable : r.Droppable s dropped) :
    (object r make hmade hnodup).dec (dropped.foldl (fun (j : Json) name => j.without name)
      ((object r make hmade hnodup).enc s)) = some s :=
  Record.dec_dropped (hmade s) hnodup hvalid hdroppable

/-- A member that is not left out is found. -/
theorem Codec.object_get?_dropped {s : σ} {name : String} {j : Json} (hm : (name, j) ∈ r.write s)
    {dropped : List String} (hkept : name ∉ dropped) :
    (dropped.foldl (fun (j : Json) name => j.without name)
      ((object r make hmade hnodup).enc s)).get? name = some j :=
  Record.get?_enc_dropped hnodup hm hkept

theorem Codec.object_get? {s : σ} {name : String} {j : Json} (hm : (name, j) ∈ r.write s) :
    ((object r make hmade hnodup).enc s).get? name = some j :=
  object_get?_dropped hm List.not_mem_nil

/-- Objects with a member that another record does not have are refused by it. -/
theorem Codec.object_refuses (name : String) (hmem : name ∈ r'.names) (hnot : name ∉ r.names)
    (t : τ) :
    (object r make hmade hnodup).dec ((object r' make' hmade' hnodup').enc t) = none := by
  rw [← r'.names_write t] at hmem
  obtain ⟨m, hm, rfl⟩ := List.mem_map.mp hmem
  exact Record.dec_eq_none_of_mem hm hnot

end Objects

end Misc
