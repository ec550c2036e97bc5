import Godzilla.MarketState.Readings
import Godzilla.MarketState.Runs

/-!
# Losing data grants nothing

A snapshot that has lost features or their values, but not the volatility index, is
classified as before or as `RISK_OFF`.
-/

namespace Godzilla.MarketState
open Godzilla Features

variable {F : Type}

/-- The second list is the first with some features removed and some values missing, but
    nothing changed about the feature `kept`. -/
inductive Lessened (kept : String) : List (FeatureValue F) → List (FeatureValue F) → Prop
  | nil : Lessened kept [] []
  | keep (item : FeatureValue F) {items items' : List (FeatureValue F)} :
      Lessened kept items items' → Lessened kept (item :: items) (item :: items')
  | remove (item : FeatureValue F) {items items' : List (FeatureValue F)} :
      item.name ≠ kept → Lessened kept items items' → Lessened kept (item :: items) items'
  | blank (item item' : FeatureValue F) {items items' : List (FeatureValue F)} :
      item.name ≠ kept → item'.name = item.name → item'.value = none →
      Lessened kept items items' → Lessened kept (item :: items) (item' :: items')

namespace Lessened

variable {kept : String} {items items' : List (FeatureValue F)}

theorem names_subset (h : Lessened kept items items') :
    items'.map (·.name) ⊆ items.map (·.name) := by
  induction h with
  | nil => exact List.Subset.refl _
  | keep item _ ih => exact List.cons_subset_cons _ ih
  | remove item _ _ ih => exact List.subset_cons_of_subset _ ih
  | blank item item' _ hname _ _ ih =>
    rw [List.map_cons, List.map_cons, hname]
    exact List.cons_subset_cons _ ih

/-- A value is what it was or missing, and the kept one is what it was. -/
theorem valueIn_eq_or (h : Lessened kept items items')
    (hnodup : (items.map (·.name)).Nodup) (name : String) :
    valueIn items' name = valueIn items name ∨ (name ≠ kept ∧ valueIn items' name = none) := by
  induction h with
  | nil => exact .inl rfl
  | keep item _ ih =>
    rw [List.map_cons, List.nodup_cons] at hnodup
    rw [valueIn_cons, valueIn_cons]
    by_cases hname : item.name = name
    · simp only [if_pos hname, true_or]
    · simpa only [if_neg hname] using ih hnodup.2
  | remove item hkept hrest ih =>
    rw [List.map_cons, List.nodup_cons] at hnodup
    by_cases hname : item.name = name
    · subst hname
      exact .inr ⟨hkept, valueIn_eq_none fun hmem => hnodup.1 (hrest.names_subset hmem)⟩
    · simpa only [valueIn_cons, if_neg hname] using ih hnodup.2
  | blank item item' hkept hsame hnone _ ih =>
    rw [List.map_cons, List.nodup_cons] at hnodup
    rw [valueIn_cons, valueIn_cons, hsame]
    by_cases hname : item.name = name
    · rw [if_pos hname]
      exact .inr ⟨hname ▸ hkept, hnone⟩
    · simpa only [if_neg hname] using ih hnodup.2

end Lessened

/-- What a snapshot reads after it lost data. -/
def Loses (kept : String) (read read' : String → Option F) : Prop :=
  ∀ name, read' name = read name ∨ (name ≠ kept ∧ read' name = none)

theorem Loses.of_lessened {kept : String} {snapshot snapshot' : FeatureSnapshot F}
    (h : Lessened kept snapshot.values snapshot'.values) :
    Loses kept (reading snapshot) (reading snapshot') := by
  intro name
  exact h.valueIn_eq_or (names_nodup snapshot) name

theorem Loses.eq_of_isSome {kept : String} {read read' : String → Option F}
    (h : Loses kept read read') {name : String}
    (hsome : (read' name).isSome = true) : read' name = read name := by
  rcases h name with heq | ⟨-, hnone⟩
  · exact heq
  · rw [hnone] at hsome
    cases hsome

/-- Findings after a loss: nothing passes that did not pass before, and where the required
    features are all there, everything passes that did. -/
structure Findings.Weakened (found found' : Findings) : Prop where
  stabilizing : found'.stabilizing = found.stabilizing
  opening : found'.opening = found.opening
  gap : found'.gap = true → found.gap = true
  high : found'.high = true → found.high = true
  coverage : found'.coverage = true → found.coverage = true
  complete : found'.complete = true → found.complete = true
  same : found'.complete = true → found'.high = found.high ∧ found'.up = found.up ∧
    found'.down = found.down ∧ found'.balanced = found.balanced
  same_gap : found'.complete = true → found'.opening = true → found'.gap = found.gap

theorem Findings.Weakened.state_eq_or {found found' : Findings} (h : found.Weakened found') :
    found'.state = found.state ∨ found'.state = .riskOff := by
  by_cases hkept : found'.coverage = true ∧ found'.complete = true
  · obtain ⟨hhigh, hup, hdown, hbalanced⟩ := h.same hkept.2
    have hcoverage : found.coverage = true := h.coverage hkept.1
    have hcomplete : found.complete = true := h.complete hkept.2
    have hgap : (found'.opening && (found'.gap || found'.high)) =
        (found.opening && (found.gap || found.high)) := by
      rw [← h.opening, ← hhigh]
      by_cases hopening : found'.opening = true
      · rw [h.same_gap hkept.2 hopening]
      · simp [hopening]
    left
    rw [state, state, h.stabilizing, hgap, hkept.1, hkept.2, hcoverage, hcomplete, hhigh, hup,
      hdown, hbalanced]
  · have hlost : (!found'.coverage || !found'.complete) = true := by
      simpa [Bool.and_eq_true, imp_iff_not_or] using hkept
    by_cases hshock : (found'.stabilizing || (found'.opening && (found'.gap || found'.high))) = true
    · have hbefore :
          (found.stabilizing || (found.opening && (found.gap || found.high))) = true := by
        have hgap := h.gap
        have hhigh := h.high
        rw [← h.stabilizing, ← h.opening]
        simp only [Bool.or_eq_true, Bool.and_eq_true] at hshock ⊢
        rcases hshock with hstabilizing | ⟨hopening, hgap' | hhigh'⟩
        · exact .inl hstabilizing
        · exact .inr ⟨hopening, .inl (hgap hgap')⟩
        · exact .inr ⟨hopening, .inr (hhigh hhigh')⟩
      left
      rw [state, state, if_pos hshock, if_pos hbefore]
    · right
      rw [state, if_neg hshock, if_pos hlost]

section Classify

variable [PyFloat F] {kept : String} {read read' : String → Option F}

theorem Operator.passes_of_loses (h : Loses kept read read') {operator : Operator} {name : String}
    {threshold : F} (hpasses : operator.passes (read' name) threshold = true) :
    operator.passes (read name) threshold = true := by
  rcases h name with heq | ⟨-, hnone⟩
  · rwa [heq] at hpasses
  · rw [hnone] at hpasses
    cases hpasses

theorem readHigh_of_loses (h : Loses kept read read') {cfg : RouterSettings F}
    (hhigh : readHigh read' cfg = true) : readHigh read cfg = true := by
  simp only [readHigh, Bool.or_eq_true] at hhigh ⊢
  rcases hhigh with (hrealized | hrange) | hvix
  · exact .inl (.inl (Operator.passes_of_loses h hrealized))
  · exact .inl (.inr (Operator.passes_of_loses h hrange))
  · exact .inr (Operator.passes_of_loses h hvix)

theorem findings_weakened (h : Loses "market.vix_level" read read') (cfg : RouterSettings F)
    (elapsed : F) : (findings read cfg elapsed).Weakened (findings read' cfg elapsed) := by
  have hrequired : (findings read' cfg elapsed).complete = true →
      ∀ name ∈ requiredNames (windowOpen elapsed cfg.shockWindowSeconds),
        read' name = read name := by
    intro hcomplete name hmem
    exact h.eq_of_isSome (List.all_eq_true.mp hcomplete name hmem)
  have hvix : read' "market.vix_level" = read "market.vix_level" := by
    rcases h "market.vix_level" with heq | ⟨hne, -⟩
    · exact heq
    · exact absurd rfl hne
  refine
    { stabilizing := rfl
      opening := rfl
      gap := Operator.passes_of_loses h
      high := readHigh_of_loses h
      coverage := Operator.passes_of_loses h
      complete := ?_
      same := ?_
      same_gap := ?_ }
  · intro hcomplete
    refine List.all_eq_true.mpr fun name hmem => ?_
    rw [← hrequired hcomplete name hmem]
    exact List.all_eq_true.mp hcomplete name hmem
  · intro hcomplete
    have hsame := hrequired hcomplete
    simp only [requiredNames, List.mem_append] at hsame
    have hrealized := hsame "market.realized_volatility" (.inl (by simp))
    have hrange := hsame "market.range_volatility" (.inl (by simp))
    have hvwap := hsame "market.vwap_distance" (.inl (by simp))
    have hslope15 := hsame "market.slope_15m" (.inl (by simp))
    have hslope30 := hsame "market.slope_30m" (.inl (by simp))
    have hadvancing := hsame "market.breadth_advancing" (.inl (by simp))
    have hdeclining := hsame "market.breadth_declining" (.inl (by simp))
    simp only [findings, readHigh, readUp, readDown, readBalanced, hrealized, hrange, hvix, hvwap,
      hslope15, hslope30, hadvancing, hdeclining, and_self]
  · intro hcomplete hopening
    have hgap : read' "market.opening_gap" = read "market.opening_gap" := by
      refine hrequired hcomplete _ ?_
      have hwindow : windowOpen elapsed cfg.shockWindowSeconds = true := hopening
      simp [requiredNames, hwindow]
    simp only [findings, hgap]

/-- A snapshot that lost features or values, the volatility index apart, is classified as it
    was or as `RISK_OFF`. -/
theorem classify_lessened {snapshot snapshot' : FeatureSnapshot F}
    (h : Lessened "market.vix_level" snapshot.values snapshot'.values) (cfg : RouterSettings F)
    (elapsed : F) :
    (classify snapshot' cfg elapsed).1 = (classify snapshot cfg elapsed).1 ∨
      (classify snapshot' cfg elapsed).1 = .riskOff := by
  rw [classify_state, classify_state]
  exact (findings_weakened (Loses.of_lessened h) cfg elapsed).state_eq_or

end Classify

end Godzilla.MarketState

namespace Godzilla.MarketState.Sample
open Features

/-- The upward trend without the slope over fifteen minutes and with the range volatility still
    warming up. -/
def lessened : FeatureSnapshot ℚ :=
  { snapshot 0 with
    values :=
      [ feature "market.breadth_advancing" (8 / 10), feature "market.breadth_coverage" 1,
        feature "market.breadth_declining" (1 / 10),
        ⟨"market.range_volatility", none, some .warmup, by simp⟩,
        feature "market.realized_volatility" (1 / 1000), feature "market.slope_30m" (1 / 100),
        feature "market.vwap_distance" (1 / 100) ]
    ordered_unique := by decide +kernel }

theorem classify_lessened_trend :
    (classify lessened settings 3600).1 = (classify (snapshot 0) settings 3600).1 ∨
      (classify lessened settings 3600).1 = .riskOff := by
  refine classify_lessened ?_ settings 3600
  refine .keep _ (.keep _ (.keep _ (.blank _ _ ?_ rfl rfl (.keep _ (.remove _ ?_
    (.keep _ (.keep _ .nil)))))))
  · simp [feature]
  · simp [feature]

end Godzilla.MarketState.Sample
