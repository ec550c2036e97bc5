import Godzilla.Alphas.BreakoutScoring
import Godzilla.Core.Rounding
import Godzilla.Misc.Raises
import Godzilla.Misc.Related

/-!
# What a measurement of a breakout raises

A measurement raises a `ValueError` for a missing feature or a value that cannot be recorded.
Two more things can happen, which nothing catches: an instant that it adds up does not exist,
or the bar has no range that floats can tell.
-/

namespace Godzilla.Alphas
open Godzilla Misc Features MarketData MarketState

section Measurement

variable {F : Type} [PyFloat F] {item : BreakoutObservation F} {side : Side} {strength : F}
  {cfg : BreakoutSettings F} {opening : Instant}

/-- Whether levels of a kind are looked for. -/
def BreakoutSettings.Uses (cfg : BreakoutSettings F) (kind : RangeKind) : Prop :=
  cfg.rangeSource = none ∨ cfg.rangeSource = some kind

/-- The instants from which the levels are known exist. -/
def LevelsDated (item : BreakoutObservation F) (cfg : BreakoutSettings F) (opening : Instant) :
    Prop :=
  ∀ kind, cfg.Uses kind →
    opening + minutesOf (5 * confirmationBars item.featureDefinition kind) ≤ maxInstant

omit [PyFloat F] in
theorem numeric_raises (o : MomentumObservation F) (name : String) :
    OnlyRaises (·.isValueError) (numeric o name) := by
  rw [numeric]
  split
  · exact onlyRaises_error rfl
  · exact onlyRaises_ok _

/-- A level that is dated is known or not; it is positive, and the bar closed behind it. -/
theorem crossedLevel_dated (side : Side) {kind : RangeKind} (h : cfg.Uses kind →
      opening + minutesOf (5 * confirmationBars item.featureDefinition kind) ≤ maxInstant) :
    ∃ levels, crossedLevel item side cfg opening kind = .ok levels ∧ ∀ pair ∈ levels,
      0 < pair.2 ∧ 0 < signed side (PyFloat.ofDecimal item.bar.close - pair.2) := by
  rw [crossedLevel]
  by_cases hunused : cfg.rangeSource ≠ none ∧ cfg.rangeSource ≠ some kind
  · rw [if_pos hunused]
    exact ⟨[], rfl, by simp⟩
  have huses : cfg.Uses kind := by
    rw [BreakoutSettings.Uses]
    by_contra hnot
    exact hunused (not_or.mp hnot)
  rw [if_neg hunused, addDuration, if_pos (h huses)]
  simp only [bind, Except.bind]
  split
  · exact ⟨[], rfl, by simp⟩
  split
  · exact ⟨[], rfl, by simp⟩
  split
  · next level _ hcrossed =>
    refine ⟨[(kind, level)], rfl, fun pair hpair => ?_⟩
    obtain rfl := List.mem_singleton.mp hpair
    exact ⟨hcrossed.1, hcrossed.2.2⟩
  · exact ⟨[], rfl, by simp⟩

theorem crossedLevel_undated {kind : RangeKind} (huses : cfg.Uses kind)
    (h : ¬ opening + minutesOf (5 * confirmationBars item.featureDefinition kind) ≤ maxInstant) :
    crossedLevel item side cfg opening kind =
      .error (.arithmeticError "date value out of range") := by
  have hunused : ¬ (cfg.rangeSource ≠ none ∧ cfg.rangeSource ≠ some kind) := by
    rintro ⟨hnone, hsome⟩
    exact huses.elim hnone hsome
  rw [crossedLevel, if_neg hunused, addDuration, if_neg h]
  rfl

theorem crossedLevels_dated (side : Side) (h : LevelsDated item cfg opening) :
    ∃ levels, crossedLevels item side cfg opening = .ok levels ∧ ∀ pair ∈ levels,
      0 < pair.2 ∧ 0 < signed side (PyFloat.ofDecimal item.bar.close - pair.2) := by
  obtain ⟨range, hrange, hrangeFacts⟩ := crossedLevel_dated side (h .openingRange)
  obtain ⟨swing, hswing, hswingFacts⟩ := crossedLevel_dated side (h .swing)
  refine ⟨range ++ swing, ?_, fun pair hpair => ?_⟩
  · rw [crossedLevels, hrange, hswing]
    rfl
  · rcases List.mem_append.mp hpair with hpair | hpair
    · exact hrangeFacts pair hpair
    · exact hswingFacts pair hpair

theorem crossedLevels_undated (h : ¬ LevelsDated item cfg opening) :
    crossedLevels item side cfg opening = .error (.arithmeticError "date value out of range") := by
  rw [crossedLevels]
  by_cases hrange : cfg.Uses .openingRange →
      opening + minutesOf (5 * confirmationBars item.featureDefinition .openingRange) ≤ maxInstant
  · have hswing : ¬ (cfg.Uses .swing →
        opening + minutesOf (5 * confirmationBars item.featureDefinition .swing) ≤ maxInstant) := by
      intro hswing
      apply h
      intro kind
      cases kind with
      | openingRange => exact hrange
      | swing => exact hswing
    obtain ⟨huses, hpast⟩ := Classical.not_imp.mp hswing
    obtain ⟨range, hok, -⟩ := crossedLevel_dated side hrange
    rw [hok, crossedLevel_undated huses hpast]
    rfl
  · obtain ⟨huses, hpast⟩ := Classical.not_imp.mp hrange
    rw [crossedLevel_undated huses hpast]
    rfl

/-- A bar with a range, in a market with one. -/
def Ranges (item : BreakoutObservation F) : Prop :=
  (∃ atr, numeric item.current "stock.atr" = .ok atr ∧ 0 < atr) ∧ item.bar.high ≠ item.bar.low

theorem brokenLevel_raises_iff : OnlyRaises (·.isValueError) (brokenLevel item side cfg opening) ↔
    (Ranges item → LevelsDated item cfg opening) := by
  rw [brokenLevel]
  cases hatr : numeric item.current "stock.atr" with
  | error e =>
    have hvalue := numeric_raises item.current "stock.atr" e hatr
    refine ⟨fun _ => ?_, fun _ => onlyRaises_error hvalue⟩
    rintro ⟨⟨atr, hread, -⟩, -⟩
    rw [hatr] at hread
    cases hread
  | ok atr =>
    simp only [bind, Except.bind]
    by_cases hinvalid : atr ≤ 0 ∨ item.bar.high = item.bar.low
    · rw [if_pos hinvalid]
      refine ⟨fun _ => ?_, fun _ => onlyRaises_ok _⟩
      rintro ⟨⟨atr', hread, hpos⟩, hheight⟩
      obtain rfl := Except.ok.inj (hatr.symm.trans hread)
      exact (hinvalid.elim (not_le.mpr hpos) hheight).elim
    rw [if_neg hinvalid]
    obtain ⟨hpos, hheight⟩ := not_or.mp hinvalid
    have hranges : Ranges item := ⟨⟨atr, hatr, not_le.mp hpos⟩, hheight⟩
    by_cases hdated : LevelsDated item cfg opening
    · obtain ⟨levels, hlevels, -⟩ := crossedLevels_dated side hdated
      rw [hlevels]
      refine ⟨fun _ _ => hdated, fun _ => ?_⟩
      simp only
      split
      · exact onlyRaises_ok _
      · exact onlyRaises_ok _
    · rw [crossedLevels_undated hdated]
      refine ⟨fun hraises => ?_, fun himp => absurd (himp hranges) hdated⟩
      have := hraises _ rfl
      cases this

/-- What is broken is positive and closed behind, at a positive ATR. -/
theorem brokenLevel_ok {b : F × RangeKind × F}
    (h : brokenLevel item side cfg opening = .ok (.ok b)) :
    0 < b.1 ∧ 0 < b.2.2 ∧ 0 < signed side (PyFloat.ofDecimal item.bar.close - b.2.2) := by
  have hraises : OnlyRaises (·.isValueError) (brokenLevel item side cfg opening) := by
    rw [h]
    exact onlyRaises_ok _
  have hdated := brokenLevel_raises_iff.mp hraises
  rw [brokenLevel] at h
  obtain ⟨atr, hatr, h⟩ := bind_ok h
  by_cases hinvalid : atr ≤ 0 ∨ item.bar.high = item.bar.low
  · rw [if_pos hinvalid] at h
    cases h
  rw [if_neg hinvalid] at h
  obtain ⟨hpos, hheight⟩ := not_or.mp hinvalid
  obtain ⟨levels, hlevels, hfacts⟩ :=
    crossedLevels_dated side (hdated ⟨⟨atr, hatr, not_le.mp hpos⟩, hheight⟩)
  obtain ⟨levels', hlevels', h⟩ := bind_ok h
  obtain rfl := Except.ok.inj (hlevels.symm.trans hlevels')
  cases hmax : Misc.maxOn (fun pair => signed side pair.2) levels with
  | none =>
    simp only [hmax] at h
    cases h
  | some pair =>
    simp only [hmax] at h
    obtain rfl := Except.ok.inj (Except.ok.inj h)
    obtain ⟨before, after, rfl, -, -⟩ := maxOn_spec hmax
    exact ⟨not_le.mp hpos, hfacts pair (by simp)⟩

/-- `float(bar.high) - float(bar.low)`. -/
def floatHeight (bar : Bar) : F := PyFloat.ofDecimal bar.high - PyFloat.ofDecimal bar.low

theorem divide_of_ne {x y : F} (h : y ≠ 0) : divide x y = .ok (x / y) := by
  rw [divide, if_neg h]

theorem breakoutReading_raises_iff [RoundedFloat F] {b : F × RangeKind × F}
    (h : brokenLevel item side cfg opening = .ok (.ok b)) :
    OnlyRaises (·.isValueError) (breakoutReading item side cfg b.1 b.2.1 b.2.2) ↔
      (floatHeight item.bar : F) ≠ 0 := by
  obtain ⟨hatr, -, hclosed⟩ := brokenLevel_ok h
  have hbuffer : 0 < cfg.invalidationBufferAtr := cfg.positive _ (by simp)
  have hextension := RoundedFloat.div_nonneg' hclosed.le hatr
  have hproxy : signed side (PyFloat.ofDecimal item.bar.close - b.2.2) / b.1 +
      cfg.invalidationBufferAtr ≠ 0 :=
    (PyFloat.add_pos_right hextension hbuffer).ne'
  rw [breakoutReading, divide_of_ne hatr.ne']
  simp only [bind, Except.bind]
  by_cases hheight : (floatHeight item.bar : F) = 0
  · have hzero : PyFloat.ofDecimal item.bar.high - PyFloat.ofDecimal item.bar.low = (0 : F) :=
      hheight
    rw [divide, if_pos hzero]
    refine ⟨fun hraises => ?_, fun hne => absurd hheight hne⟩
    have := hraises _ rfl
    cases this
  · have hne : PyFloat.ofDecimal item.bar.high - PyFloat.ofDecimal item.bar.low ≠ (0 : F) :=
      hheight
    simp only [divide_of_ne hne, divide_of_ne hproxy]
    refine ⟨fun _ => hheight, fun _ => ?_⟩
    have hread : ∀ name, OnlyRaises (·.isValueError) (numeric item.current name) :=
      fun name => numeric_raises item.current name
    exact (hread _).bind fun _ _ => (hread _).bind fun _ _ => (hread _).bind fun _ _ =>
      (hread _).bind fun _ _ => (hread _).bind fun _ _ => (hread _).bind fun _ _ =>
        (hread _).bind fun _ _ => (hread _).bind fun _ _ => (hread _).bind fun _ _ =>
          (hread _).bind fun _ _ => onlyRaises_ok _

theorem breakoutReading_level {atr level : F} {kind : RangeKind} {r : BreakoutReading F}
    (h : breakoutReading item side cfg atr kind level = .ok r) : r.level = level := by
  rw [breakoutReading] at h
  iterate 14 obtain ⟨_, _, h⟩ := bind_ok h
  obtain rfl := Except.ok.inj h
  rfl

/-- The comparisons of a candidate are all on record and all pass. -/
def Confirms (item : BreakoutObservation F) (side : Side) (strength : F)
    (cfg : BreakoutSettings F) (opening : Instant) (r : BreakoutReading F) : Prop :=
  ∃ b, brokenLevel item side cfg opening = .ok (.ok b) ∧
    breakoutReading item side cfg b.1 b.2.1 b.2.2 = .ok r ∧
      ∀ c ∈ r.comparisons side strength cfg,
        PyFloat.isFinite c.value = true ∧ c.operator.holds c.value c.threshold = true

theorem indicator_eq_one {p : Prop} [Decidable p] (h : (indicator p : F) = 1) : p := by
  by_contra hp
  rw [indicator, if_neg hp] at h
  exact PyFloat.zero_ne_one h

/-- The level that a confirmed break is measured from, and the one that ends it, are positive. -/
theorem Confirms.levels_pos {r : BreakoutReading F} (h : Confirms item side strength cfg opening r) :
    0 < r.level ∧ 0 < r.invalidationLevel := by
  obtain ⟨b, hbroken, hread, hpassed⟩ := h
  constructor
  · rw [breakoutReading_level hread]
    exact (brokenLevel_ok hbroken).2.1
  · have hlast := (hpassed ⟨"invalidation.positive_price", indicator (0 < r.invalidationLevel),
      .eq, 1⟩ (by simp [BreakoutReading.comparisons])).2
    exact indicator_eq_one (of_decide_eq_true hlast)

/-- The contributions of a reading to its score. -/
def BreakoutReading.contributions (r : BreakoutReading F) (strength : F)
    (cfg : BreakoutSettings F) : List F :=
  (cfg.weights.named.zip (r.rows strength cfg)).map fun pair => pair.1.2 * pair.2.normalized

theorem normalized_range (row : ComponentRow F) : 0 ≤ row.normalized ∧ row.normalized ≤ 1 := by
  exact ⟨le_min PyFloat.zero_le_one (le_max_left _ _), min_le_left _ _⟩

theorem weight_range {pair : String × F} (h : pair ∈ cfg.weights.named) :
    0 ≤ pair.2 ∧ pair.2 ≤ 1 := by
  have hmem : pair.2 ∈ cfg.weights.named.map Prod.snd := List.mem_map_of_mem h
  exact cfg.weights.ranges pair.2 (by simpa [BreakoutWeights.named] using hmem)

/-- The contributions make a score between zero and one that is close to their sum. -/
theorem contributions_close [RoundedFloat F] (r : BreakoutReading F) (strength : F)
    (cfg : BreakoutSettings F) :
    (0 ≤ min 1 (PyFloat.sum (r.contributions strength cfg)) ∧
        min 1 (PyFloat.sum (r.contributions strength cfg)) ≤ 1) ∧
      PyFloat.IsClose (min 1 (PyFloat.sum (r.contributions strength cfg)))
        (PyFloat.sum (r.contributions strength cfg)) (PyFloat.ofDecimal (1 / 10 ^ 12)) := by
  have hlength : (cfg.weights.named.zip (r.rows strength cfg)).map (·.1.2) =
      cfg.weights.named.map Prod.snd := rfl
  have hterms : List.Forall₂ (fun x y => 0 ≤ x ∧ x ≤ y) (r.contributions strength cfg)
      (cfg.weights.named.map Prod.snd) := by
    rw [← hlength, BreakoutReading.contributions, List.forall₂_map_left_iff,
      List.forall₂_map_right_iff, List.forall₂_same]
    intro pair hpair
    have hrange := normalized_range pair.2
    exact RoundedFloat.mul_range (weight_range (List.of_mem_zip hpair).1).1 hrange.1 hrange.2
  obtain ⟨hnonneg, hle⟩ := PyFloat.sum_mono hterms
  refine ⟨⟨le_min PyFloat.zero_le_one hnonneg, min_le_left _ _⟩, ?_⟩
  rcases le_total (PyFloat.sum (r.contributions strength cfg)) 1 with hsmall | hlarge
  · rw [min_eq_right hsmall]
    exact .inl rfl
  · rw [min_eq_left hlarge]
    exact RoundedFloat.isClose_one cfg.weights.normalized hlarge hle

end Measurement

section Recorded

variable {F : Type} [PyFloat F] [Platform] {item : BreakoutObservation F} {side : Side}
  {strength : F} {cfg : BreakoutSettings F} {opening closing : Instant}

theorem recordAll_raises (comparisons : List (Comparison F)) :
    OnlyRaises (·.isValueError) (recordAll comparisons).2 := by
  induction comparisons with
  | nil => exact onlyRaises_ok _
  | cons c rest ih =>
    rw [recordAll]
    split
    · exact ih
    · exact onlyRaises_error rfl

/-- Everything is on record and passed when every value is finite and holds. -/
theorem recordAll_passed_iff (comparisons : List (Comparison F)) :
    ((recordAll comparisons).2 = .ok () ∧ (recordAll comparisons).1.all (·.passed) = true) ↔
      ∀ c ∈ comparisons,
        PyFloat.isFinite c.value = true ∧ c.operator.holds c.value c.threshold = true := by
  induction comparisons with
  | nil => simp [recordAll]
  | cons c rest ih =>
    rw [recordAll, List.forall_mem_cons, ← ih]
    by_cases hfinite : PyFloat.isFinite c.value = true
    · rw [if_pos hfinite]
      simp only [List.all_cons, Bool.and_eq_true, record, Option.elim_some]
      exact ⟨fun h => ⟨⟨hfinite, h.2.1⟩, h.1, h.2.2⟩, fun h => ⟨h.2.1, h.1.2, h.2.2⟩⟩
    · rw [if_neg hfinite]
      constructor
      · intro h
        cases h.1
      · intro h
        exact absurd h.1.1 hfinite

/-- The components of a reading are always built. -/
theorem components_ok (r : BreakoutReading F) (strength : F) (cfg : BreakoutSettings F) :
    ∃ components, r.components strength cfg = .ok components ∧
      components.map (·.contribution) = r.contributions strength cfg := by
  have hbuilt : ∀ pair ∈ cfg.weights.named.zip (r.rows strength cfg), ∃ component,
      BreakoutComponent.validate pair.2.name pair.2.value pair.2.normalized pair.1.2
          (pair.1.2 * pair.2.normalized) = .ok component ∧
        component.contribution = pair.1.2 * pair.2.normalized := by
    intro pair hpair
    have hweight := weight_range (List.of_mem_zip hpair).1
    rw [BreakoutComponent.validate, dif_pos (normalized_range pair.2), dif_pos hweight]
    exact ⟨_, rfl, rfl⟩
  obtain ⟨components, hcomponents, hrelated⟩ := exists_mapM hbuilt
  refine ⟨components, hcomponents, ?_⟩
  exact map_eq_of_related hrelated fun _ _ hcontribution => hcontribution

theorem measurement_raises_iff {r : BreakoutReading F}
    (hpos : 0 < r.level ∧ 0 < r.invalidationLevel) :
    OnlyRaises (·.isValueError) (r.measurement item strength cfg closing) ↔
      item.bar.stop + minutesOf (5 * cfg.observationBars) ≤ maxInstant := by
  obtain ⟨components, hcomponents, -⟩ := components_ok r strength cfg
  rw [BreakoutReading.measurement, hcomponents]
  simp only [bind, Except.bind, addDuration]
  by_cases hobserved : item.bar.stop + minutesOf (5 * cfg.observationBars) ≤ maxInstant
  · rw [if_pos hobserved]
    refine ⟨fun _ => hobserved, fun _ => .ite (onlyRaises_error rfl) ?_⟩
    rw [BreakoutInvalidation.validate, dif_pos hpos.1, dif_pos hpos.2]
    exact onlyRaises_ok _
  · rw [if_neg hobserved]
    refine ⟨fun hraises => ?_, fun h => absurd h hobserved⟩
    have := hraises _ rfl
    cases this

/-- What a measurement says of its reading and of the times of its bars. -/
structure MeasuredFrom (item : BreakoutObservation F) (strength : F) (cfg : BreakoutSettings F)
    (closing : Instant) (m : BreakoutMeasurement F) (i : BreakoutInvalidation F) : Prop where
  contributions : ∃ r : BreakoutReading F,
    m.components.map (·.contribution) = r.contributions strength cfg
  levelKnownAt : i.levelKnownAt = item.reference.snapshot.timestamp
  triggerBarEnd : i.triggerBarEnd = item.bar.stop
  expiresAt : i.expiresAt = min closing (item.bar.stop + minutesOf (5 * cfg.observationBars))

theorem measurement_spec {r : BreakoutReading F} {m : BreakoutMeasurement F}
    (h : r.measurement item strength cfg closing = .ok m) :
    ∃ i, m.invalidation = some i ∧ MeasuredFrom item strength cfg closing m i := by
  obtain ⟨components, hcomponents, hcontributions⟩ := components_ok r strength cfg
  rw [BreakoutReading.measurement, hcomponents] at h
  simp only [bind, Except.bind] at h
  obtain ⟨observed, hobserved, h⟩ := bind_ok h
  obtain ⟨-, h⟩ := guard_ok h
  obtain ⟨i, hvalidate, h⟩ := bind_ok h
  obtain rfl := Except.ok.inj h
  rw [BreakoutInvalidation.validate] at hvalidate
  split at hvalidate
  · split at hvalidate
    · obtain rfl := Except.ok.inj hvalidate
      exact ⟨_, rfl, ⟨r, hcontributions⟩, rfl, rfl, by rw [(addDuration_ok hobserved).1]⟩
    · cases hvalidate
  · cases hvalidate

/-- When the measurement of a candidate raises nothing but a `ValueError`: the instants that it
    adds up exist, and the bar of a broken level has a range that floats can tell. -/
structure Representable (item : BreakoutObservation F) (side : Side) (strength : F)
    (cfg : BreakoutSettings F) (opening : Instant) : Prop where
  dated : Ranges item → LevelsDated item cfg opening
  tall : ∀ b, brokenLevel item side cfg opening = .ok (.ok b) → (floatHeight item.bar : F) ≠ 0
  observed : ∀ r, Confirms item side strength cfg opening r →
    item.bar.stop + minutesOf (5 * cfg.observationBars) ≤ maxInstant

theorem measureBreakout_raises_iff [RoundedFloat F] (evidence : List (ThresholdEvidence F)) :
    OnlyRaises (·.isValueError)
        (measureBreakout item side strength cfg opening closing evidence).2 ↔
      Representable item side strength cfg opening := by
  have hdated : OnlyRaises (·.isValueError) (brokenLevel item side cfg opening) ↔
      (Ranges item → LevelsDated item cfg opening) := brokenLevel_raises_iff
  rw [measureBreakout]
  cases hbroken : brokenLevel item side cfg opening with
  | error e =>
    rw [hbroken] at hdated
    refine ⟨fun hraises => ⟨hdated.mp ?_, ?_, ?_⟩, fun hrepresentable => ?_⟩
    · exact onlyRaises_error (hraises e rfl)
    · intro b hb
      rw [hbroken] at hb
      cases hb
    · rintro r ⟨b, hb, -⟩
      rw [hbroken] at hb
      cases hb
    · exact onlyRaises_error (hdated.mpr hrepresentable.dated e rfl)
  | ok found =>
    rw [hbroken] at hdated
    have hlevels := hdated.mp (onlyRaises_ok found)
    cases found with
    | error reason =>
      refine ⟨fun _ => ⟨hlevels, ?_, ?_⟩, fun _ => onlyRaises_ok _⟩
      · intro b hb
        rw [hbroken] at hb
        cases hb
      · rintro r ⟨b, hb, -⟩
        rw [hbroken] at hb
        cases hb
    | ok b =>
      have hsame : ∀ b', brokenLevel item side cfg opening = .ok (.ok b') → b' = b := by
        intro b' hb'
        exact (Except.ok.inj (Except.ok.inj (hbroken.symm.trans hb'))).symm
      have hheight := breakoutReading_raises_iff hbroken
      simp only
      cases hread : breakoutReading item side cfg b.1 b.2.1 b.2.2 with
      | error e =>
        rw [hread] at hheight
        refine ⟨fun hraises => ⟨hlevels, ?_, ?_⟩, fun hrepresentable => ?_⟩
        · intro b' hb'
          exact hheight.mp (onlyRaises_error (hraises e rfl))
        · rintro r ⟨b', hb', hr, -⟩
          obtain rfl := hsame b' hb'
          rw [hread] at hr
          cases hr
        · exact onlyRaises_error (hheight.mpr (hrepresentable.tall b hbroken) e rfl)
      | ok r =>
        rw [hread] at hheight
        have htall := hheight.mp (onlyRaises_ok r)
        have hreading : ∀ r', Confirms item side strength cfg opening r' → r' = r := by
          rintro r' ⟨b', hb', hr', -⟩
          obtain rfl := hsame b' hb'
          exact (Except.ok.inj (hread.symm.trans hr')).symm
        simp only
        by_cases hpassed : ∀ c ∈ r.comparisons side strength cfg,
            PyFloat.isFinite c.value = true ∧ c.operator.holds c.value c.threshold = true
        · have hconfirms : Confirms item side strength cfg opening r := ⟨b, hbroken, hread, hpassed⟩
          obtain ⟨hrecorded, hall⟩ := (recordAll_passed_iff _).mpr hpassed
          rw [hrecorded]
          simp only [bind, Except.bind]
          rw [if_pos hall, measurement_raises_iff hconfirms.levels_pos]
          refine ⟨fun hobserved => ⟨hlevels, fun _ _ => htall, fun _ _ => hobserved⟩, ?_⟩
          exact fun hrepresentable => hrepresentable.observed r hconfirms
        · refine ⟨fun _ => ⟨hlevels, fun _ _ => htall, ?_⟩, fun _ => ?_⟩
          · intro r' hconfirms
            obtain rfl := hreading r' hconfirms
            obtain ⟨-, -, -, hpassed'⟩ := hconfirms
            exact absurd hpassed' hpassed
          · have hfailed := mt (recordAll_passed_iff (r.comparisons side strength cfg)).mp hpassed
            refine (recordAll_raises _).bind fun _ hrecorded => ?_
            rw [if_neg fun hall => hfailed ⟨hrecorded, hall⟩]
            exact onlyRaises_ok _

/-- A measurement with an invalidation is the one of a confirmed reading. -/
theorem measureBreakout_spec {evidence : List (ThresholdEvidence F)} {m : BreakoutMeasurement F}
    {i : BreakoutInvalidation F}
    (h : (measureBreakout item side strength cfg opening closing evidence).2 = .ok m)
    (hi : m.invalidation = some i) : MeasuredFrom item strength cfg closing m i := by
  rw [measureBreakout] at h
  cases hbroken : brokenLevel item side cfg opening with
  | error e =>
    rw [hbroken] at h
    cases h
  | ok found =>
    rw [hbroken] at h
    cases found with
    | error reason =>
      obtain rfl := Except.ok.inj h
      cases hi
    | ok b =>
      simp only at h
      cases hread : breakoutReading item side cfg b.1 b.2.1 b.2.2 with
      | error e =>
        rw [hread] at h
        cases h
      | ok r =>
        rw [hread] at h
        simp only at h
        obtain ⟨_, -, h⟩ := bind_ok h
        split at h
        · obtain ⟨i', hi', hmeasured⟩ := measurement_spec h
          obtain rfl := Option.some.inj (hi.symm.trans hi')
          exact hmeasured
        · obtain rfl := Except.ok.inj h
          cases hi

end Recorded

end Godzilla.Alphas
