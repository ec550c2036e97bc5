import Mathlib.Algebra.Order.Ring.Int
import Mathlib.Algebra.Order.Field.Basic
import Mathlib.Logic.Relation
import Mathlib.Tactic.Linarith
import Mathlib.Tactic.Ring

/-!
# Levels that rise at a bounded pace

A reading is a level at a time, with the time of its last rise. A step keeps or lowers
the level, or raises it by at most `limit`, no sooner than `interval` after the last
rise. Over any number of steps the level then rises by at most `limit` for each full
interval that has passed, and once more.
-/

namespace Misc

/-- A level, when it was read, and when it last rose. -/
structure Reading (K : Type) where
  level : K
  time : Int
  lastRise : Int

variable {K : Type} [Field K] [LinearOrder K] [IsStrictOrderedRing K]

/-- What one step does to a reading. -/
def PacedStep (limit : K) (interval : Int) (s t : Reading K) : Prop :=
  s.time < t.time ∧
    ((t.level ≤ s.level ∧ t.lastRise = s.lastRise) ∨
      (t.level ≤ s.level + limit ∧ s.lastRise + interval ≤ t.time ∧ t.lastRise = t.time))

/-- What holds between a reading and every later one: nothing has risen since, or the rises
    fit in the intervals that have passed at the last of them. -/
def WithinPace (limit : K) (interval : Int) (s t : Reading K) : Prop :=
  s.time ≤ t.time ∧ t.lastRise ≤ t.time ∧
    ((t.lastRise ≤ s.time ∧ t.level ≤ s.level) ∨
      (s.time < t.lastRise ∧
        t.level ≤ s.level + limit * (1 + ((t.lastRise - s.time) / interval : Int))))

variable {limit : K} {interval : Int} {s t u : Reading K}

/-- A full interval counts as one more. -/
theorem ediv_add_one_le {a b : Int} (hinterval : 0 < interval) (h : a + interval ≤ b) :
    a / interval + 1 ≤ b / interval := by
  rw [← Int.add_mul_ediv_right a 1 (ne_of_gt hinterval), one_mul]
  exact Int.ediv_le_ediv hinterval h

/-- One step keeps the rises within the intervals that have passed. -/
theorem WithinPace.step (hinterval : 0 < interval) (hlimit : 0 ≤ limit)
    (h : WithinPace limit interval s t) (hstep : PacedStep limit interval t u) :
    WithinPace limit interval s u := by
  obtain ⟨htime, hlast, hcase⟩ := h
  obtain ⟨hforward, ⟨hlevel, hsame⟩ | ⟨hlevel, hpaced, hnow⟩⟩ := hstep
  · refine ⟨by omega, by omega, ?_⟩
    rw [hsame]
    rcases hcase with ⟨hbefore, hle⟩ | ⟨hafter, hle⟩
    · exact Or.inl ⟨hbefore, hlevel.trans hle⟩
    · exact Or.inr ⟨hafter, hlevel.trans hle⟩
  · refine ⟨by omega, by omega, Or.inr ⟨by omega, ?_⟩⟩
    rw [hnow]
    rcases hcase with ⟨_, hle⟩ | ⟨hafter, hle⟩
    · -- the first rise
      have hpassed : (0 : K) ≤ ((u.time - s.time) / interval : Int) := by
        exact_mod_cast Int.ediv_nonneg (by omega) (le_of_lt hinterval)
      have hscaled := mul_nonneg hlimit hpassed
      linarith
    · -- an interval has passed between the two last rises
      have hpassed : (((t.lastRise - s.time) / interval : Int) : K) + 1 ≤
          ((u.time - s.time) / interval : Int) := by
        exact_mod_cast ediv_add_one_le hinterval (by omega)
      have hscaled := mul_le_mul_of_nonneg_left hpassed hlimit
      linarith

/-- Over steps, the level rises by at most `limit` for each full interval, and once more. -/
theorem level_sub_le_of_steps (hinterval : 0 < interval) (hlimit : 0 ≤ limit)
    (hstart : s.lastRise ≤ s.time)
    (hsteps : Relation.ReflTransGen (PacedStep limit interval) s t) :
    t.level - s.level ≤ limit * (1 + ((t.time - s.time) / interval : Int)) := by
  have hpace : WithinPace limit interval s t := by
    induction hsteps with
    | refl => exact ⟨le_refl _, hstart, Or.inl ⟨hstart, le_refl _⟩⟩
    | tail _ hstep ih => exact ih.step hinterval hlimit hstep
  obtain ⟨htime, hlast, ⟨_, hle⟩ | ⟨hafter, hle⟩⟩ := hpace
  · have hpassed : (0 : K) ≤ ((t.time - s.time) / interval : Int) := by
      exact_mod_cast Int.ediv_nonneg (by omega) (le_of_lt hinterval)
    have hscaled := mul_nonneg hlimit hpassed
    linarith
  · have hpassed : (((t.lastRise - s.time) / interval : Int) : K) ≤
        ((t.time - s.time) / interval : Int) := by
      exact_mod_cast Int.ediv_le_ediv hinterval (by omega)
    have hscaled := mul_le_mul_of_nonneg_left hpassed hlimit
    linarith

end Misc
