import Godzilla.Features.ReversionMirror

/-!
# What the features of a reversion raise

In exact arithmetic `reversion_features` raises a `ValueError` or nothing: the slots it adds up
end with bars that have closed, and the bars it measures have traded.
-/

namespace Godzilla.Features
open Godzilla MarketData Misc

section Session

variable {bars : List Bar} {now opening : Instant}

/-- What is left of the loop over the bars: they have closed, and the next slot has begun. -/
def SlotsBegun (now opening : Instant) (rest : List (Bar × ℕ)) : Prop :=
  ∃ (left : List Bar) (index : ℕ), rest = left.zipIdx index ∧ (∀ bar ∈ left, bar.stop ≤ now) ∧
    (left ≠ [] → opening + minutesOf (5 * index) ≤ now)

theorem interval_of_ready {bar : Bar} (h : bar.requireStrategyReady now = .ok ()) :
    bar.intervalMinutes = 5 := by
  rw [Bar.requireStrategyReady] at h
  split at h
  · next hready =>
    simp only [Bar.strategyReady, Bool.and_eq_true, beq_iff_eq] at hready
    exact hready.1.1.1.1
  · cases h

theorem start_of_inPlace {slot : Instant} {bar : Bar} (h : outOfPlace bars slot bar = false) :
    bar.start = slot := by
  simp only [outOfPlace, Bool.or_eq_false_iff, decide_eq_false_iff_not, not_not] at h
  exact h.1.1

theorem checkSession_raises (hnow : now ≤ maxInstant) (hstop : ∀ bar ∈ bars, bar.stop ≤ now)
    (hopening : bars ≠ [] → opening ≤ now) :
    OnlyRaises (·.isValueError) (checkSession bars now opening) := by
  rw [checkSession]
  have hstart : SlotsBegun now opening bars.zipIdx :=
    ⟨bars, 0, rfl, hstop, fun hne => by simpa [minutesOf] using hopening hne⟩
  refine OnlyRaises.forM_invariant ?_ hstart
  rintro ⟨bar, index⟩ rest ⟨left, first, hleft, hclosed, hbegun⟩
  cases left with
  | nil => cases hleft
  | cons own left =>
    obtain ⟨⟨rfl, rfl⟩, rfl⟩ : (bar = own ∧ index = first) ∧ rest = left.zipIdx (first + 1) := by
      simpa [List.zipIdx_cons] using hleft
    have hslot := hbegun (List.cons_ne_nil bar left)
    have hadd : addDuration opening (minutesOf (5 * index)) =
        .ok (opening + minutesOf (5 * index)) := if_pos (hslot.trans hnow)
    constructor
    · refine OnlyRaises.bind ?_ fun _ _ => ?_
      · exact (onlyRaises_ok _).ite (onlyRaises_error rfl)
      · rw [hadd]
        exact OnlyRaises.ite (onlyRaises_error rfl) (onlyRaises_ok _)
    · intro hchecked
      obtain ⟨_, hready, hchecked⟩ := bind_ok hchecked
      rw [hadd] at hchecked
      obtain ⟨hplace, -⟩ := guard_ok hchecked
      have hstart := start_of_inPlace (Bool.eq_false_of_not_eq_true hplace)
      have hduration := bar.duration
      have hstopped := hclosed bar List.mem_cons_self
      refine ⟨left, index + 1, rfl, fun other hother => hclosed other
        (List.mem_cons_of_mem _ hother), fun _ => ?_⟩
      -- the next slot begins where this bar has ended
      rw [interval_of_ready hready] at hduration
      simp only [minutesOf] at hduration hstart ⊢
      push_cast
      lia

end Session

section Measured

variable [Platform] {observations bars : List Bar} {current : Bar} {now opening : Instant}
  {definition : ReversionFeatureVersion}

/-- Bars that have traded are measured, or degenerate. -/
theorem measureReversion_raises (hne : bars ≠ []) (hvolume : ∀ bar ∈ bars, 0 < bar.volume) :
    OnlyRaises (·.isValueError)
      (measureReversion bars current definition : Except PyError (ReversionFeatures ℚ)) := by
  rw [measureReversion]
  by_cases hscale : (volatilityScale bars definition : ℚ) ≤ 0
  · rw [dif_pos hscale]
    exact onlyRaises_error rfl
  rw [dif_neg hscale, sessionVwap_rat, divide_rat (volumes_pos hne hvolume).ne']
  refine OnlyRaises.ite (onlyRaises_error rfl) (OnlyRaises.ite (onlyRaises_error rfl) ?_)
  split
  · exact onlyRaises_ok _
  · exact onlyRaises_error rfl

theorem definition_of_measureReversion {f : ReversionFeatures ℚ}
    (h : measureReversion bars current definition = .ok f) : f.definition = definition := by
  rw [measureReversion] at h
  split at h
  · cases h
  obtain ⟨vwap, -, h⟩ := bind_ok h
  obtain ⟨-, h⟩ := guard_ok h
  obtain ⟨-, h⟩ := guard_ok h
  split at h
  · rw [← Except.ok.inj h]
  · cases h

theorem reversionFeatures_raises (hnow : now ≤ maxInstant) :
    OnlyRaises (·.isValueError)
      (reversionFeatures observations now opening definition :
        Except PyError (ReversionFeatures ℚ)) := by
  have hbars : ∀ bar ∈ sessionBars observations now opening, opening ≤ bar.start ∧ bar.stop ≤ now := by
    intro bar hbar
    have hselected := List.of_mem_filter ((sortOn_perm _ _).mem_iff.mp hbar)
    simp only [decide_eq_true_eq] at hselected
    exact ⟨hselected.1, hselected.2.1⟩
  rw [reversionFeatures]
  generalize sessionBars observations now opening = bars at hbars ⊢
  cases hlast : bars.getLast? with
  | none => exact onlyRaises_error rfl
  | some current =>
    refine OnlyRaises.ite (onlyRaises_error rfl) (OnlyRaises.bind ?_ fun _ hcheck => ?_)
    · refine checkSession_raises hnow (fun bar hbar => (hbars bar hbar).2) fun hne => ?_
      obtain ⟨bar, hbar⟩ := List.exists_mem_of_ne_nil bars hne
      obtain ⟨hstart, hstop⟩ := hbars bar hbar
      have hduration := bar.duration
      have hinterval : 0 ≤ minutesOf bar.intervalMinutes := by
        rcases bar.interval_supported with hone | hfive
        · rw [hone]
          decide
        · rw [hfive]
          decide
      lia
    · exact measureReversion_raises (List.ne_nil_of_mem (List.mem_of_getLast? hlast))
        fun bar hbar => (facts_of_priceFlags (priceFlags_of_checkSession hcheck hbar)).1

theorem definition_of_reversionFeatures {f : ReversionFeatures ℚ}
    (h : reversionFeatures observations now opening definition = .ok f) :
    f.definition = definition := by
  rw [reversionFeatures] at h
  split at h
  · cases h
  obtain ⟨-, h⟩ := guard_ok h
  obtain ⟨_, -, h⟩ := bind_ok h
  exact definition_of_measureReversion h

end Measured

end Godzilla.Features
