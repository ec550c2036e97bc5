import Godzilla.Features.Reversion
import Godzilla.Misc.Raises
import Godzilla.Misc.Related
import Mathlib.Tactic.FieldSimp
import Mathlib.Tactic.Linarith
import Mathlib.Tactic.Ring

/-!
# The features of reflected bars

In exact arithmetic the true range of the bars does not change when all prices are reflected
at a point, their VWAP is reflected with them, and the moves are negated.
-/

namespace Godzilla.MarketData
open Godzilla

/-- The bar with its prices reflected at `c`, so that its high and its low change places. -/
def Bar.reflect (c : ℚ) (bar : Bar) : Bar :=
  { bar with
    openPrice := c - bar.openPrice
    high := c - bar.low
    low := c - bar.high
    close := c - bar.close }

/-- The prices of the bar and their reflections are positive. -/
structure Bar.Reflectable (c : ℚ) (bar : Bar) : Prop where
  openPrice : 0 < bar.openPrice ∧ bar.openPrice < c
  high : 0 < bar.high ∧ bar.high < c
  low : 0 < bar.low ∧ bar.low < c
  close : 0 < bar.close ∧ bar.close < c

theorem priceFlags_reflect {c : ℚ} {bar : Bar} (h : bar.Reflectable c) :
    priceFlags (bar.reflect c) = priceFlags bar := by
  have hprice : ¬ min (min bar.openPrice bar.high) (min bar.low bar.close) ≤ 0 := by
    rw [not_le]
    exact lt_min (lt_min h.openPrice.1 h.high.1) (lt_min h.low.1 h.close.1)
  have hreflected : ¬ min (min (bar.reflect c).openPrice (bar.reflect c).high)
      (min (bar.reflect c).low (bar.reflect c).close) ≤ 0 := by
    rw [not_le]
    exact lt_min (lt_min (sub_pos.mpr h.openPrice.2) (sub_pos.mpr h.low.2))
      (lt_min (sub_pos.mpr h.high.2) (sub_pos.mpr h.close.2))
  have hohlc : ((bar.reflect c).low ≤ min (bar.reflect c).openPrice (bar.reflect c).close ∧
        max (bar.reflect c).openPrice (bar.reflect c).close ≤ (bar.reflect c).high) ↔
      (bar.low ≤ min bar.openPrice bar.close ∧ max bar.openPrice bar.close ≤ bar.high) := by
    simp only [Bar.reflect, le_min_iff, max_le_iff]
    constructor <;> rintro ⟨⟨ha, hb⟩, hc, hd⟩ <;> exact ⟨⟨by linarith, by linarith⟩,
      by linarith, by linarith⟩
  simp only [priceFlags, if_neg hprice, if_neg hreflected, hohlc]
  rfl

theorem requireStrategyReady_reflect {c : ℚ} {bar : Bar} (h : bar.Reflectable c) (now : Instant) :
    (bar.reflect c).requireStrategyReady now = bar.requireStrategyReady now := by
  rw [Bar.requireStrategyReady, Bar.requireStrategyReady, Bar.strategyReady, Bar.strategyReady,
    priceFlags_reflect h]
  rfl

/-- The volume of a bar without price flags is positive, and its close lies in its range. -/
theorem facts_of_priceFlags {bar : Bar} (h : priceFlags bar = ∅) :
    0 < bar.volume ∧ bar.low ≤ bar.close ∧ bar.close ≤ bar.high := by
  simp only [priceFlags, Finset.union_eq_empty] at h
  obtain ⟨⟨⟨-, hohlc⟩, hnegative⟩, hzero⟩ := h
  have hvolume : 0 < bar.volume := by
    rcases lt_trichotomy bar.volume 0 with hlt | heq | hgt
    · rw [if_pos hlt] at hnegative
      exact absurd hnegative (Finset.singleton_ne_empty _)
    · rw [if_pos heq] at hzero
      exact absurd hzero (Finset.singleton_ne_empty _)
    · exact hgt
  by_cases hrange : bar.low ≤ min bar.openPrice bar.close ∧ max bar.openPrice bar.close ≤ bar.high
  · exact ⟨hvolume, (le_min_iff.mp hrange.1).2, (max_le_iff.mp hrange.2).2⟩
  · rw [if_neg hrange] at hohlc
    exact absurd hohlc (Finset.singleton_ne_empty _)

end Godzilla.MarketData

namespace Godzilla.Features
open Godzilla MarketData Misc

section Session

variable {c : ℚ} {bars : List Bar} {now opening : Instant}

theorem sessionBars_reflect (observations : List Bar) :
    sessionBars (observations.map (Bar.reflect c)) now opening =
      (sessionBars observations now opening).map (Bar.reflect c) := by
  rw [sessionBars, sessionBars, List.filter_map, ← map_sortOn]
  rfl

theorem outOfPlace_reflect (slot : Instant) (bar : Bar) :
    outOfPlace (bars.map (Bar.reflect c)) slot (bar.reflect c) = outOfPlace bars slot bar := by
  cases bars <;> rfl

/-- The reflected bars are checked as the bars are. -/
theorem checkSession_reflect (h : ∀ bar ∈ bars, bar.Reflectable c) :
    checkSession (bars.map (Bar.reflect c)) now opening = checkSession bars now opening := by
  have hrelated : List.Forall₂ (fun x y => x.1 ∈ bars ∧ y = (x.1.reflect c, x.2)) bars.zipIdx
      (bars.map (Bar.reflect c)).zipIdx := by
    rw [List.zipIdx_map, List.forall₂_map_right_iff, List.forall₂_same]
    intro x hx
    exact ⟨List.fst_mem_of_mem_zipIdx hx, rfl⟩
  rw [checkSession, checkSession]
  refine (ResultsRelated.forM hrelated ?_).symm
  rintro ⟨bar, index⟩ _ ⟨hmem, rfl⟩
  simp only [requireStrategyReady_reflect (h bar hmem), outOfPlace_reflect]

/-- Bars that pass the check have no price flags. -/
theorem priceFlags_of_checkSession (h : checkSession bars now opening = .ok ()) {bar : Bar}
    (hbar : bar ∈ bars) : priceFlags bar = ∅ := by
  obtain ⟨index, hindex⟩ := List.mem_iff_getElem?.mp hbar
  obtain ⟨_, hready, -⟩ := bind_ok (forM_ok h _ (List.mk_mem_zipIdx_iff_getElem?.mpr hindex))
  rw [Bar.requireStrategyReady] at hready
  split at hready
  · next hstrategy =>
    simp only [Bar.strategyReady, Bool.and_eq_true, beq_iff_eq] at hstrategy
    exact hstrategy.1.2
  · cases hready

end Session

section Measured

variable {c : ℚ} {bars : List Bar}

/-- The features of reflected bars. -/
structure MirrorsFeatures (c : ℚ) (f f' : ReversionFeatures ℚ) : Prop where
  timestamp : f'.timestamp = f.timestamp
  instrumentId : f'.instrumentId = f.instrumentId
  source : f'.source = f.source
  definition : f'.definition = f.definition
  sessionVwap : f'.sessionVwap = c - f.sessionVwap
  volatilityScale : f'.volatilityScale = f.volatilityScale
  stretch : f'.stretch = -f.stretch
  impulse : f'.impulse = -f.impulse
  deceleratedImpulse : f'.deceleratedImpulse = -f.deceleratedImpulse
  reversal : f'.reversal = -f.reversal
  body : f'.body = -f.body
  closeLocation : f'.closeLocation = 1 - f.closeLocation
  price : f'.price = c - f.price

/-- The prices among the features and their reflections are positive. -/
structure ReflectableFeatures (c : ℚ) (f : ReversionFeatures ℚ) : Prop where
  sessionVwap : 0 < f.sessionVwap ∧ f.sessionVwap < c
  price : 0 < f.price ∧ f.price < c

theorem closesOf_reflect (bars : List Bar) :
    (closesOf (bars.map (Bar.reflect c)) : List ℚ) = (closesOf bars).map (c - ·) := by
  rw [closesOf, closesOf, List.map_map, List.map_map]
  rfl

theorem typical_reflect (bar : Bar) : (typical (bar.reflect c) : ℚ) = c - typical bar := by
  simp only [typical, Bar.reflect, ofDecimal_rat, PyFloat.ofNat_eq, ofInt_rat]
  push_cast
  ring

/-- The true range of a reflected bar behind a reflected close. -/
theorem trueRange_reflect (bar : Bar) (previous : ℚ) :
    trueRange (bar.reflect c) (c - previous) = trueRange bar previous := by
  have habs : ∀ x y : ℚ, PyFloat.abs (c - x - (c - y)) = PyFloat.abs (x - y) := by
    intro x y
    have hneg : -(x - y) = c - x - (c - y) := by ring
    rw [PyFloat.abs, PyFloat.abs, ← hneg, neg_neg, max_comm]
  have hrange : c - bar.low - (c - bar.high) = bar.high - bar.low := by ring
  simp only [trueRange, Bar.reflect, ofDecimal_rat, habs, hrange]
  exact max_right_comm _ _ _

theorem lastN_map {α β : Type} (f : α → β) (n : ℕ) (xs : List α) :
    lastN n (xs.map f) = (lastN n xs).map f := by
  rw [lastN, lastN, List.length_map, List.map_drop]

theorem volatilityScale_reflect (definition : ReversionFeatureVersion) :
    (volatilityScale (bars.map (Bar.reflect c)) definition : ℚ) =
      volatilityScale bars definition := by
  simp only [volatilityScale, closesOf_reflect, lastN_map, ← List.map_dropLast,
    List.zipWith_map, trueRange_reflect]

theorem closeBack_reflect (back : ℕ) (h : back - 1 < bars.length) :
    (closeBack (bars.map (Bar.reflect c)) back : ℚ) = c - closeBack bars back := by
  have hlength : (closesOf bars : List ℚ).length = bars.length := List.length_map _
  rw [closeBack, closeBack, closesOf_reflect, ← List.map_reverse, ← List.map_drop]
  cases hdrop : (closesOf bars : List ℚ).reverse.drop (back - 1) with
  | nil =>
    rw [List.drop_eq_nil_iff, List.length_reverse, hlength] at hdrop
    omega
  | cons x xs => rfl

/-- A close of the session is positive, and its reflection is. -/
theorem closeBack_reflectable (back : ℕ) (h : back - 1 < bars.length)
    (hbars : ∀ bar ∈ bars, bar.Reflectable c) :
    0 < (closeBack bars back : ℚ) ∧ (closeBack bars back : ℚ) < c := by
  have hlength : (closesOf bars : List ℚ).length = bars.length := List.length_map _
  rw [closeBack]
  cases hdrop : (closesOf bars : List ℚ).reverse.drop (back - 1) with
  | nil =>
    rw [List.drop_eq_nil_iff, List.length_reverse, hlength] at hdrop
    omega
  | cons x xs =>
    have hmem : x ∈ (closesOf bars : List ℚ).reverse.drop (back - 1) := by
      rw [hdrop]
      exact List.mem_cons_self
    obtain ⟨bar, hbar, rfl⟩ := List.mem_map.mp (List.mem_reverse.mp (List.mem_of_mem_drop hmem))
    exact (hbars bar hbar).close

/-- The volumes of the bars. -/
def volumes (bars : List Bar) : ℚ := (bars.map (·.volume)).sum

/-- The turnovers of the bars at their typical prices. -/
def turnovers (bars : List Bar) : ℚ := (bars.map fun b => typical b * b.volume).sum

theorem sessionVwap_rat (bars : List Bar) :
    sessionVwap bars = divide (turnovers bars) (volumes bars) := by
  have hsum : ∀ xs : List ℚ, PyFloat.sum xs = xs.sum := fun _ => List.sum_eq_foldl.symm
  rw [sessionVwap, hsum, hsum]
  rfl

theorem volumes_reflect (bars : List Bar) : volumes (bars.map (Bar.reflect c)) = volumes bars := by
  rw [volumes, volumes, List.map_map]
  rfl

theorem turnovers_reflect (bars : List Bar) :
    turnovers (bars.map (Bar.reflect c)) = c * volumes bars - turnovers bars := by
  induction bars with
  | nil => simp [turnovers, volumes]
  | cons bar bars ih =>
    simp only [turnovers, volumes, List.map_cons, List.sum_cons, typical_reflect] at ih ⊢
    rw [ih]
    simp only [Bar.reflect]
    ring

theorem typical_pos {bar : Bar} (h : bar.Reflectable c) : 0 < (typical bar : ℚ) := by
  have hsum : 0 < bar.high + bar.low + bar.close := by
    have hhigh := h.high.1
    have hlow := h.low.1
    have hclose := h.close.1
    linarith
  rw [typical]
  exact div_pos hsum three_pos

/-- With positive volumes and prices the turnovers are positive. -/
theorem turnovers_pos (hne : bars ≠ []) (hbars : ∀ bar ∈ bars, 0 < bar.volume)
    (htypical : ∀ bar ∈ bars, 0 < (typical bar : ℚ)) : 0 < turnovers bars := by
  apply List.sum_pos
  · rintro x hx
    obtain ⟨bar, hbar, rfl⟩ := List.mem_map.mp hx
    exact mul_pos (htypical bar hbar) (hbars bar hbar)
  · simpa using hne

theorem volumes_pos (hne : bars ≠ []) (hbars : ∀ bar ∈ bars, 0 < bar.volume) :
    0 < volumes bars := by
  apply List.sum_pos
  · rintro x hx
    obtain ⟨bar, hbar, rfl⟩ := List.mem_map.mp hx
    exact hbars bar hbar
  · simpa using hne

theorem divide_rat {x y : ℚ} (hy : y ≠ 0) : divide x y = .ok (x / y) := by
  rw [divide, if_neg]
  rw [PyFloat.ofNat_eq, ofInt_rat]
  exact hy

/-- The VWAP is reflected, and lies between the bounds of the prices. -/
theorem sessionVwap_reflect (hne : bars ≠ []) (hvolume : ∀ bar ∈ bars, 0 < bar.volume)
    (hbars : ∀ bar ∈ bars, bar.Reflectable c) :
    ResultsRelated (fun vwap vwap' => (0 < vwap ∧ vwap < c) ∧ vwap' = c - vwap)
      (sessionVwap bars) (sessionVwap (bars.map (Bar.reflect c))) := by
  have hpos := volumes_pos hne hvolume
  have hturnovers := turnovers_pos hne hvolume fun bar hbar => typical_pos (hbars bar hbar)
  have hreflected : 0 < turnovers (bars.map (Bar.reflect c)) := by
    apply turnovers_pos
    · simpa using hne
    · intro bar hbar
      obtain ⟨own, hown, rfl⟩ := List.mem_map.mp hbar
      exact hvolume own hown
    · intro bar hbar
      obtain ⟨own, hown, rfl⟩ := List.mem_map.mp hbar
      have hown := hbars own hown
      have hreflectable : (own.reflect c).Reflectable c :=
        { openPrice := ⟨sub_pos.mpr hown.openPrice.2, sub_lt_self c hown.openPrice.1⟩
          high := ⟨sub_pos.mpr hown.low.2, sub_lt_self c hown.low.1⟩
          low := ⟨sub_pos.mpr hown.high.2, sub_lt_self c hown.high.1⟩
          close := ⟨sub_pos.mpr hown.close.2, sub_lt_self c hown.close.1⟩ }
      exact typical_pos hreflectable
  rw [turnovers_reflect] at hreflected
  rw [sessionVwap_rat, sessionVwap_rat, volumes_reflect, turnovers_reflect,
    divide_rat hpos.ne', divide_rat hpos.ne']
  refine .ok ⟨⟨div_pos hturnovers hpos, ?_⟩, ?_⟩
  · rw [div_lt_iff₀ hpos]
    linarith
  · rw [sub_div, mul_div_assoc, div_self hpos.ne', mul_one]

variable [Platform]

/-- What is measured of reflected bars. -/
theorem measureReversion_reflect {current : Bar} {definition : ReversionFeatureVersion}
    (hlength : definition.scaleBars + 2 ≤ bars.length) (hcurrent : current ∈ bars)
    (hflags : ∀ bar ∈ bars, priceFlags bar = ∅) (hbars : ∀ bar ∈ bars, bar.Reflectable c) :
    ResultsRelated (fun f f' => ReflectableFeatures c f ∧ MirrorsFeatures c f f')
      (measureReversion bars current definition)
      (measureReversion (bars.map (Bar.reflect c)) (current.reflect c) definition) := by
  have hmin := definition.scale_min
  have hne : bars ≠ [] := by
    rintro rfl
    cases hcurrent
  have hvwap := sessionVwap_reflect hne
    (fun bar hbar => (facts_of_priceFlags (hflags bar hbar)).1) hbars
  have hprice := closeBack_reflectable 1 (show 1 - 1 < bars.length by omega) hbars
  have hone := closeBack_reflect (c := c) 1 (show 1 - 1 < bars.length by omega)
  have htwo := closeBack_reflect (c := c) 2 (show 2 - 1 < bars.length by omega)
  have hthree := closeBack_reflect (c := c) 3 (show 3 - 1 < bars.length by omega)
  have hfour := closeBack_reflect (c := c) 4 (show 4 - 1 < bars.length by omega)
  rw [measureReversion, measureReversion]
  simp only [volatilityScale_reflect, hone, htwo, hthree, hfour]
  by_cases hscale : (volatilityScale bars definition : ℚ) ≤ 0
  · rw [dif_pos hscale, dif_pos hscale]
    exact .error _
  rw [dif_neg hscale, dif_neg hscale]
  refine hvwap.bind ?_
  rintro vwap _ ⟨hband, rfl⟩
  obtain ⟨-, hlow, hhigh⟩ := facts_of_priceFlags (hflags current hcurrent)
  have hrange : (current.reflect c).high - (current.reflect c).low = current.high - current.low := by
    simp only [Bar.reflect]
    ring
  have hbody : (current.reflect c).close - (current.reflect c).openPrice =
      -(current.close - current.openPrice) := by
    simp only [Bar.reflect]
    ring
  have hreach : (current.reflect c).close - (current.reflect c).low =
      current.high - current.close := by
    simp only [Bar.reflect]
    ring
  simp only [hrange, hbody, hreach, ofDecimal_rat]
  by_cases hflat : current.high - current.low ≤ 0
  · rw [if_pos hflat, if_pos hflat]
    exact .error _
  rw [if_neg hflat, if_neg hflat]
  have hpos : 0 < current.high - current.low := not_le.mp hflat
  have hlocation : 0 ≤ (current.close - current.low) / (current.high - current.low) ∧
      (current.close - current.low) / (current.high - current.low) ≤ 1 :=
    ⟨div_nonneg (sub_nonneg.mpr hlow) hpos.le, (div_le_one hpos).mpr (by linarith)⟩
  have hmirrored : (current.high - current.close) / (current.high - current.low) =
      1 - (current.close - current.low) / (current.high - current.low) := by
    rw [eq_sub_iff_add_eq, ← add_div, div_eq_one_iff_eq hpos.ne']
    ring
  have hlocation' : 0 ≤ (current.high - current.close) / (current.high - current.low) ∧
      (current.high - current.close) / (current.high - current.low) ≤ 1 :=
    ⟨div_nonneg (sub_nonneg.mpr hhigh) hpos.le, (div_le_one hpos).mpr (by linarith)⟩
  have hneg : ∀ x y : ℚ, (c - x - (c - y)) / volatilityScale bars definition =
      -((x - y) / volatilityScale bars definition) := by
    intro x y
    rw [← neg_div]
    ring
  rw [if_neg (by simp), if_neg (by simp), dif_pos hlocation, dif_pos hlocation']
  refine .ok ⟨⟨hband, hprice⟩, ?_⟩
  exact
    { timestamp := rfl
      instrumentId := rfl
      source := rfl
      definition := rfl
      sessionVwap := rfl
      volatilityScale := rfl
      stretch := hneg _ _
      impulse := hneg _ _
      deceleratedImpulse := hneg _ _
      reversal := hneg _ _
      body := neg_div _ _
      closeLocation := hmirrored
      price := rfl }

/-- The features of reflected bars are the reflection of the features, or both raise the same. -/
theorem reversionFeatures_reflect {observations : List Bar} {now opening : Instant}
    {definition : ReversionFeatureVersion} (h : ∀ bar ∈ observations, bar.Reflectable c) :
    ResultsRelated (fun f f' => ReflectableFeatures c f ∧ MirrorsFeatures c f f')
      (reversionFeatures observations now opening definition)
      (reversionFeatures (observations.map (Bar.reflect c)) now opening definition) := by
  have hbars : ∀ bar ∈ sessionBars observations now opening, bar.Reflectable c := by
    intro bar hbar
    exact h bar (List.mem_of_mem_filter ((sortOn_perm _ _).mem_iff.mp hbar))
  rw [reversionFeatures, reversionFeatures, sessionBars_reflect]
  generalize sessionBars observations now opening = bars at hbars ⊢
  simp only [List.getLast?_map, List.length_map]
  cases hlast : bars.getLast? with
  | none => exact .error _
  | some current =>
    simp only [Option.map_some]
    by_cases hwarmup : bars.length < definition.scaleBars + 2
    · rw [if_pos hwarmup, if_pos hwarmup]
      exact .error _
    rw [if_neg hwarmup, if_neg hwarmup, checkSession_reflect hbars]
    cases hcheck : checkSession bars now opening with
    | error e => exact .error e
    | ok _ =>
      exact measureReversion_reflect (not_lt.mp hwarmup) (List.mem_of_getLast? hlast)
        (fun bar hbar => priceFlags_of_checkSession hcheck hbar) hbars

end Measured

end Godzilla.Features
