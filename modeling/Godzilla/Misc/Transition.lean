import Mathlib.Data.List.Induction
import Mathlib.Logic.Relation

/-!
# Runs of a transition system

Deterministic runs, a step function folded over its inputs, and reachability
under a step relation, each with its invariant rule.
-/

namespace Misc

variable {σ ι : Type}

/-- The state after feeding `inputs` to `step` in order. -/
def run (step : σ → ι → σ) (s : σ) (inputs : List ι) : σ := inputs.foldl step s

@[simp] theorem run_nil (step : σ → ι → σ) (s : σ) : run step s [] = s := rfl

@[simp] theorem run_cons (step : σ → ι → σ) (s : σ) (i : ι) (inputs : List ι) :
    run step s (i :: inputs) = run step (step s i) inputs := rfl

theorem run_append (step : σ → ι → σ) (s : σ) (xs ys : List ι) :
    run step s (xs ++ ys) = run step (run step s xs) ys := List.foldl_append

@[simp] theorem run_concat (step : σ → ι → σ) (s : σ) (xs : List ι) (i : ι) :
    run step s (xs ++ [i]) = step (run step s xs) i := by
  rw [run_append, run_cons, run_nil]

/-- Where a marked element of an extended record stands: it is the new one, or the
    record before had it already. -/
theorem concat_split {α : Type} {xs before after : List α} {y x : α}
    (h : xs ++ [y] = before ++ x :: after) :
    (after = [] ∧ before = xs ∧ x = y) ∨
    ∃ after', after = after' ++ [y] ∧ xs = before ++ x :: after' := by
  rcases List.eq_nil_or_concat after with rfl | ⟨after', z, rfl⟩
  · obtain ⟨hxs, hy⟩ := List.append_inj' h rfl
    exact Or.inl ⟨rfl, hxs.symm, (List.singleton_inj.mp hy).symm⟩
  · have hassoc : before ++ x :: after'.concat z = (before ++ x :: after') ++ [z] := by simp
    obtain ⟨hxs, hy⟩ := List.append_inj' (h.trans hassoc) rfl
    obtain rfl := List.singleton_inj.mp hy
    exact Or.inr ⟨after', List.concat_eq_append, hxs⟩

/-- An invariant that may mention the inputs consumed so far. -/
theorem run_history {f : σ → ι → σ} {P : List ι → σ → Prop} {s : σ} (h0 : P [] s)
    (hstep : ∀ seen s i, P seen s → P (seen ++ [i]) (f s i)) (inputs : List ι) :
    P inputs (run f s inputs) := by
  induction inputs using List.reverseRecOn with
  | nil => exact h0
  | append_singleton seen i ih =>
    rw [run_concat]
    exact hstep seen _ i ih

/-- A property that every step keeps holds after every run. -/
theorem run_invariant {f : σ → ι → σ} {P : σ → Prop} {s : σ} (h0 : P s)
    (hstep : ∀ s i, P s → P (f s i)) (inputs : List ι) : P (run f s inputs) :=
  run_history (P := fun _ => P) h0 (fun _ => hstep) inputs

/-- The states that some start reaches. -/
def Reachable (start : σ → Prop) (step : σ → σ → Prop) (s : σ) : Prop :=
  ∃ s₀, start s₀ ∧ Relation.ReflTransGen step s₀ s

/-- A property of every start that every step keeps holds of every reachable state. -/
theorem Reachable.invariant {start : σ → Prop} {step : σ → σ → Prop} {Inv : σ → Prop}
    (h0 : ∀ s, start s → Inv s) (hstep : ∀ s s', Inv s → step s s' → Inv s') {s : σ}
    (h : Reachable start step s) : Inv s := by
  obtain ⟨s₀, hs, hrun⟩ := h
  induction hrun with
  | refl => exact h0 s₀ hs
  | tail _ hlast ih => exact hstep _ _ ih hlast

end Misc
