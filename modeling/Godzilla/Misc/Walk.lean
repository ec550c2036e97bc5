import Mathlib.Data.List.Infix
import Mathlib.Data.List.Sublists

/-!
# Walks

A list of edges that follow one another from a state to a state, each of them allowed, and
the states such a list cannot avoid.
-/

namespace Misc

variable {σ τ : Type}

/-- The edges lead from the first state to the last one, through allowed moves only. -/
def Walk (source target : τ → σ) (allowed : σ → σ → Prop) : σ → List τ → σ → Prop
  | s, [], s' => s = s'
  | s, t :: ts, s' => source t = s ∧ allowed s (target t) ∧ Walk source target allowed (target t) ts s'

variable {source target : τ → σ} {allowed : σ → σ → Prop}

theorem Walk.append {s s' s'' : σ} {ts us : List τ} (h : Walk source target allowed s ts s')
    (h' : Walk source target allowed s' us s'') :
    Walk source target allowed s (ts ++ us) s'' := by
  induction ts generalizing s with
  | nil =>
    obtain rfl := h
    exact h'
  | cons t ts ih => exact ⟨h.1, h.2.1, ih h.2.2⟩

theorem Walk.concat {s s' : σ} {ts : List τ} {t : τ} (h : Walk source target allowed s ts s')
    (hsource : source t = s') (hallowed : allowed s' (target t)) :
    Walk source target allowed s (ts ++ [t]) (target t) :=
  h.append ⟨hsource, hallowed, rfl⟩

/-- A walk can be cut anywhere. -/
theorem Walk.split {s s'' : σ} {ts us : List τ}
    (h : Walk source target allowed s (ts ++ us) s'') :
    ∃ s', Walk source target allowed s ts s' ∧ Walk source target allowed s' us s'' := by
  induction ts generalizing s with
  | nil => exact ⟨s, rfl, h⟩
  | cons t ts ih =>
    obtain ⟨s', hleft, hright⟩ := ih h.2.2
    exact ⟨s', ⟨h.1, h.2.1, hleft⟩, hright⟩

/-- After an edge a walk goes on from where the edge leads. -/
theorem Walk.after {s s' : σ} {ts us : List τ} {t : τ}
    (h : Walk source target allowed s (ts ++ t :: us) s') :
    Walk source target allowed (target t) us s' := by
  obtain ⟨_, -, hright⟩ := h.split
  exact hright.2.2

/-- A walk that leaves a region with one gate goes through the gate. -/
theorem Walk.through (region : σ → Prop) (gate : σ)
    (hgate : ∀ s s', region s → allowed s s' → region s' ∨ s' = gate) {s s' : σ} {ts : List τ}
    (h : Walk source target allowed s ts s') (hs : region s) (hs' : ¬ region s') :
    ∃ us t vs, ts = us ++ t :: vs ∧ target t = gate ∧ Walk source target allowed gate vs s' := by
  induction ts generalizing s with
  | nil =>
    obtain rfl := h
    exact absurd hs hs'
  | cons t ts ih =>
    rcases hgate s (target t) hs h.2.1 with hinside | hleft
    · obtain ⟨us, t', vs, rfl, htarget, hwalk⟩ := ih h.2.2 hinside
      exact ⟨t :: us, t', vs, rfl, htarget, hwalk⟩
    · exact ⟨[], t, ts, rfl, hleft, hleft ▸ h.2.2⟩

end Misc
