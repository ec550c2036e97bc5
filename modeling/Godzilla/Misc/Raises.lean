import Mathlib.Data.List.Basic

/-!
# What a computation may raise

`OnlyRaises P x`: every error of `x` is one that `P` describes. The property composes
along binds, branches and loops, so a function has it when each of its steps does.
-/

namespace Misc

variable {ε α β : Type} {P : ε → Prop}

/-- Every error of `x` satisfies `P`. -/
def OnlyRaises (P : ε → Prop) (x : Except ε α) : Prop := ∀ e, x = .error e → P e

theorem onlyRaises_ok (a : α) : OnlyRaises P (.ok a : Except ε α) := by
  intro e h
  cases h

theorem onlyRaises_error {e : ε} (h : P e) : OnlyRaises P (.error e : Except ε α) := by
  intro e' h'
  obtain rfl := Except.error.inj h'
  exact h

theorem OnlyRaises.bind {x : Except ε α} {f : α → Except ε β} (hx : OnlyRaises P x)
    (hf : ∀ a, x = .ok a → OnlyRaises P (f a)) : OnlyRaises P (x >>= f) := by
  cases hcase : x with
  | error e => exact onlyRaises_error (hx e hcase)
  | ok a => exact hf a hcase

theorem onlyRaises_bind_iff {x : Except ε α} {f : α → Except ε β} :
    OnlyRaises P (x >>= f) ↔ OnlyRaises P x ∧ ∀ a, x = .ok a → OnlyRaises P (f a) := by
  refine ⟨fun h => ?_, fun h => h.1.bind h.2⟩
  cases hcase : x with
  | error e =>
    rw [hcase] at h
    exact ⟨onlyRaises_error (h e rfl), fun a ha => by cases ha⟩
  | ok a =>
    rw [hcase] at h
    refine ⟨onlyRaises_ok a, fun b hb => ?_⟩
    obtain rfl := Except.ok.inj hb
    exact h

theorem OnlyRaises.ite {c : Prop} [Decidable c] {x y : Except ε α}
    (hx : OnlyRaises P x) (hy : OnlyRaises P y) : OnlyRaises P (if c then x else y) := by
  split
  · exact hx
  · exact hy

theorem OnlyRaises.mapM {f : α → Except ε β} {xs : List α}
    (h : ∀ x ∈ xs, OnlyRaises P (f x)) : OnlyRaises P (xs.mapM f) := by
  induction xs with
  | nil => exact onlyRaises_ok []
  | cons x xs ih =>
    rw [List.mapM_cons]
    have hrest := ih fun y hy => h y (List.mem_cons_of_mem _ hy)
    exact (h x List.mem_cons_self).bind fun y _ => hrest.bind fun ys _ => onlyRaises_ok (y :: ys)

theorem mapM_isOk_iff {f : α → Except ε β} {xs : List α} :
    (∃ ys, xs.mapM f = .ok ys) ↔ ∀ x ∈ xs, ∃ y, f x = .ok y := by
  induction xs with
  | nil => exact iff_of_true ⟨[], rfl⟩ fun x hx => absurd hx List.not_mem_nil
  | cons x xs ih =>
    rw [List.mapM_cons, List.forall_mem_cons, ← ih]
    cases f x with
    | error e => simp [Bind.bind, Except.bind]
    | ok y =>
      cases xs.mapM f with
      | error e => simp [Bind.bind, Except.bind]
      | ok ys => simp [Bind.bind, Except.bind, Pure.pure, Except.pure]

/-- A loop over a range comes to a step when those before it return. -/
theorem onlyRaises_mapM_range_iff {f : Nat → Except ε β} {count : Nat} :
    OnlyRaises P ((List.range count).mapM f) ↔
      ∀ i < count, (∀ j < i, ∃ b, f j = .ok b) → OnlyRaises P (f i) := by
  induction count with
  | zero => exact iff_of_true (onlyRaises_ok []) fun i hi => absurd hi (Nat.not_lt_zero i)
  | succ count ih =>
    rw [List.range_succ, List.mapM_append, onlyRaises_bind_iff, ih]
    constructor
    · rintro ⟨hbefore, hlast⟩ i hi hreturned
      rcases Nat.lt_succ_iff_lt_or_eq.mp hi with hlt | rfl
      · exact hbefore i hlt hreturned
      · obtain ⟨ys, hys⟩ := mapM_isOk_iff.mpr fun j hj => hreturned j (List.mem_range.mp hj)
        have hsingle := (onlyRaises_bind_iff.mp (hlast ys hys)).1
        rw [List.mapM_cons] at hsingle
        exact (onlyRaises_bind_iff.mp hsingle).1
    · intro h
      refine ⟨fun i hi => h i (Nat.lt_succ_of_lt hi), fun ys hys => ?_⟩
      have hreturned := mapM_isOk_iff.mp ⟨ys, hys⟩
      have hfirst := h count (Nat.lt_succ_self count) fun j hj => hreturned j (List.mem_range.mpr hj)
      refine (OnlyRaises.mapM fun i hi => ?_).bind fun _ _ => onlyRaises_ok _
      rw [List.mem_singleton.mp hi]
      exact hfirst

theorem OnlyRaises.forM {f : α → Except ε Unit} {xs : List α}
    (h : ∀ x ∈ xs, OnlyRaises P (f x)) : OnlyRaises P (xs.forM f) := by
  induction xs with
  | nil => exact onlyRaises_ok _
  | cons x xs ih =>
    change OnlyRaises P (f x >>= fun _ => xs.forM f)
    exact (h x List.mem_cons_self).bind fun _ _ => ih fun y hy => h y (List.mem_cons_of_mem _ hy)

/-- A loop whose checks keep an invariant of what is left. -/
theorem OnlyRaises.forM_invariant {f : α → Except ε Unit} {inv : List α → Prop}
    (hstep : ∀ x xs, inv (x :: xs) → OnlyRaises P (f x) ∧ (f x = .ok () → inv xs))
    {xs : List α} (h : inv xs) : OnlyRaises P (xs.forM f) := by
  induction xs with
  | nil => exact onlyRaises_ok _
  | cons x xs ih =>
    obtain ⟨hfirst, hrest⟩ := hstep x xs h
    change OnlyRaises P (f x >>= fun _ => xs.forM f)
    exact hfirst.bind fun _ hok => ih (hrest hok)

/-- What raises nothing returns. -/
theorem onlyRaises_false_iff {x : Except ε α} :
    OnlyRaises (fun _ => False) x ↔ ∃ a, x = .ok a := by
  cases x with
  | error e => exact ⟨fun h => (h e rfl).elim, fun ⟨a, ha⟩ => by cases ha⟩
  | ok a => exact ⟨fun _ => ⟨a, rfl⟩, fun _ => onlyRaises_ok a⟩

/-- An error is no result. -/
theorem not_exists_ok (e : ε) : ¬ ∃ a : α, (.error e : Except ε α) = .ok a := by
  rintro ⟨_, h⟩
  cases h

/-- A loop of checks passes when every check does. -/
theorem forM_ok_iff {f : α → Except ε Unit} {xs : List α} :
    xs.forM f = .ok () ↔ ∀ x ∈ xs, f x = .ok () := by
  induction xs with
  | nil => exact ⟨fun _ _ h => absurd h List.not_mem_nil, fun _ => rfl⟩
  | cons x xs ih =>
    change (f x >>= fun _ => xs.forM f) = .ok () ↔ _
    rw [List.forall_mem_cons, ← ih]
    cases hx : f x with
    | error e => simp [Bind.bind, Except.bind]
    | ok u => simp [Bind.bind, Except.bind]

/-- Both raise, or both return the same value. -/
def SameResult : Except ε α → Except ε α → Prop
  | .ok a, .ok b => a = b
  | .error _, .error _ => True
  | _, _ => False

theorem SameResult.refl (x : Except ε α) : SameResult x x := by
  cases x with
  | error e => trivial
  | ok a => exact rfl

theorem SameResult.of_eq {x y : Except ε α} (h : x = y) : SameResult x y := h ▸ .refl x

theorem SameResult.ok_iff {x y : Except ε α} (h : SameResult x y) {a : α} :
    x = .ok a ↔ y = .ok a := by
  cases x <;> cases y <;> simp_all [SameResult]

theorem SameResult.bind {x y : Except ε α} {f g : α → Except ε β} (h : SameResult x y)
    (hfg : ∀ a, SameResult (f a) (g a)) : SameResult (x >>= f) (y >>= g) := by
  cases x with
  | error e =>
    cases y with
    | error e' => trivial
    | ok b => exact h.elim
  | ok a =>
    cases y with
    | error e' => exact h.elim
    | ok b =>
      obtain rfl : a = b := h
      exact hfg a

theorem SameResult.ite {c : Prop} [Decidable c] {x y x' y' : Except ε α} (h : SameResult x x')
    (h' : SameResult y y') : SameResult (if c then x else y) (if c then x' else y') := by
  split
  · exact h
  · exact h'

theorem SameResult.of_ok_iff {x y : Except ε α} (h : ∀ a, x = .ok a ↔ y = .ok a) :
    SameResult x y := by
  cases x with
  | error e =>
    cases y with
    | error e' => trivial
    | ok b => cases (h b).mpr rfl
  | ok a =>
    have hy := (h a).mp rfl
    rw [hy]
    exact rfl

/-- A bind that returns has a first value and returns what follows from it. -/
theorem bind_ok {x : Except ε α} {f : α → Except ε β} {b : β} (h : x >>= f = .ok b) :
    ∃ a, x = .ok a ∧ f a = .ok b := by
  cases hx : x with
  | error e => simp [hx, Bind.bind, Except.bind] at h
  | ok a => exact ⟨a, rfl, by simpa [hx, Bind.bind, Except.bind] using h⟩

/-- A loop of checks that returns has passed every one of them. -/
theorem forM_ok {f : α → Except ε Unit} {xs : List α} {u : Unit} (h : xs.forM f = .ok u) :
    ∀ x ∈ xs, f x = .ok () := by
  induction xs with
  | nil => simp
  | cons x xs ih =>
    change (f x >>= fun _ => xs.forM f) = .ok u at h
    obtain ⟨_, hx, hrest⟩ := bind_ok h
    intro y hy
    rcases List.mem_cons.mp hy with rfl | hy
    · exact hx
    · exact ih hrest y hy

/-- A guard that returns was not met. -/
theorem guard_ok {c : Prop} [Decidable c] {e : ε} {x : Except ε α} {a : α}
    (h : (if c then .error e else x) = .ok a) : ¬ c ∧ x = .ok a := by
  split at h
  · cases h
  · next hc => exact ⟨hc, h⟩

/-- What an early return does not give comes of the rest. -/
theorem skip_ok {c : Prop} [Decidable c] {early a : α} {x : Except ε α}
    (h : (if c then .ok early else x) = .ok a) (hne : a ≠ early) : ¬ c ∧ x = .ok a := by
  split at h
  · exact absurd (Except.ok.inj h).symm hne
  · next hc => exact ⟨hc, h⟩

end Misc
