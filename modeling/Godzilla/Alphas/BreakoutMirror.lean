import Godzilla.Alphas.BreakoutScoring
import Godzilla.Alphas.MomentumMirror
import Godzilla.Features.Baseline
import Godzilla.MarketData.Aggregation
import Godzilla.Misc.Related

/-!
# Breakouts up and down are mirror images

In exact arithmetic, an observation whose prices are all reflected at one point, with its
signed quantities negated, is measured for the short side as the observation itself is for
the long side.
-/

namespace Godzilla.Alphas
open Godzilla Misc Features MarketData MarketState

/-- The features that the reflection negates. -/
def negatedNames : List String :=
  ["sector.vwap_distance", "stock.ema_20_slope", "stock.relative_sector_30m",
    "stock.relative_market_30m"]

/-- The features that the reflection leaves. -/
def keptNames : List String := ["stock.atr", "stock.relative_volume"] ++ liquidityNames

/-- What the reference knows of a level. -/
def levelOf (item : BreakoutObservation ℚ) (kind : RangeKind) (extreme : String) : Option ℚ :=
  (item.reference.snapshot.lookup ("stock." ++ kind.text ++ "_" ++ extreme)).bind (·.value)

/-- The second bar is the first with its prices reflected at `c`. -/
structure ReflectsBar (c : ℚ) (bar bar' : Bar) : Prop where
  openPrice : bar'.openPrice = c - bar.openPrice
  high : bar'.high = c - bar.low
  low : bar'.low = c - bar.high
  close : bar'.close = c - bar.close
  stop : bar'.stop = bar.stop

/-- The second observation is the first reflected at `c`; what is missing stays missing. -/
structure ReflectsBreakout (c : ℚ) (item item' : BreakoutObservation ℚ) : Prop where
  bar : ReflectsBar c item.bar item'.bar
  previousBar : ReflectsBar c item.previousBar item'.previousBar
  featureDefinition : item'.featureDefinition = item.featureDefinition
  timestamp : item'.reference.snapshot.timestamp = item.reference.snapshot.timestamp
  high : ∀ kind, levelOf item' kind "high" = (levelOf item kind "low").map (c - ·)
  low : ∀ kind, levelOf item' kind "low" = (levelOf item kind "high").map (c - ·)
  vwap : numeric item'.current "stock.session_vwap" =
    (numeric item.current "stock.session_vwap").map (c - ·)
  negated : ∀ name ∈ negatedNames,
    numeric item'.current name = (numeric item.current name).map (-·)
  kept : ∀ name ∈ keptNames, numeric item'.current name = numeric item.current name

/-- The levels, the VWAP and the invalidation levels of what the bar crossed are positive, and
    their reflections at `c` are. -/
structure PositiveBreakout (c : ℚ) (item : BreakoutObservation ℚ) (cfg : BreakoutSettings ℚ)
    (opening : Instant) : Prop where
  levels : ∀ kind level, levelOf item kind "high" = some level → 0 < level ∧ level < c
  vwap : ∀ vwap, numeric item.current "stock.session_vwap" = .ok vwap → 0 < vwap ∧ vwap < c
  invalidation : ∀ levels, crossedLevels item .long cfg opening = .ok levels →
    ∀ pair ∈ levels, ∀ atr, numeric item.current "stock.atr" = .ok atr →
      0 < pair.2 - cfg.invalidationBufferAtr * atr ∧
        0 < c - pair.2 + cfg.invalidationBufferAtr * atr

/-- The invalidation of the mirror image. -/
structure MirrorsInvalidation (c : ℚ) (i i' : BreakoutInvalidation ℚ) : Prop where
  rangeKind : i'.rangeKind = i.rangeKind
  brokenLevel : i'.brokenLevel = c - i.brokenLevel
  invalidationLevel : i'.invalidationLevel = c - i.invalidationLevel
  levelKnownAt : i'.levelKnownAt = i.levelKnownAt
  triggerBarEnd : i'.triggerBarEnd = i.triggerBarEnd
  expiresAt : i'.expiresAt = i.expiresAt

/-- The measurement of the mirror image. -/
structure MirrorsMeasurement (c : ℚ) (m m' : BreakoutMeasurement ℚ) : Prop where
  components : m'.components = m.components
  invalidation : Option.Rel (MirrorsInvalidation c) m.invalidation m'.invalidation
  reasons : m'.reasons = m.reasons

section Levels

variable {c : ℚ} {item item' : BreakoutObservation ℚ} {cfg : BreakoutSettings ℚ}
  {opening : Instant}

/-- The level of the mirror image. -/
def MirrorsLevel (c : ℚ) (pair pair' : RangeKind × ℚ) : Prop :=
  pair'.1 = pair.1 ∧ pair'.2 = c - pair.2

theorem numeric_level (item : BreakoutObservation ℚ) (kind : RangeKind) (extreme : String) :
    numeric item.reference ("stock." ++ kind.text ++ "_" ++ extreme) =
      match levelOf item kind extreme with
      | none => .error (.valueError ("MISSING_FEATURE:" ++
          ("stock." ++ kind.text ++ "_" ++ extreme)))
      | some level => .ok level := by
  rw [numeric, levelOf]
  cases (item.reference.snapshot.lookup ("stock." ++ kind.text ++ "_" ++ extreme)).bind
    (·.value) <;> rfl

/-- A level is crossed upwards as its reflection is downwards. -/
theorem crossedLevel_mirrored (h : ReflectsBreakout c item item')
    (hpos : PositiveBreakout c item cfg opening) (kind : RangeKind) :
    ResultsRelated (List.Forall₂ (MirrorsLevel c)) (crossedLevel item .long cfg opening kind)
      (crossedLevel item' .short cfg opening kind) := by
  rw [crossedLevel, crossedLevel]
  by_cases hsource : cfg.rangeSource ≠ none ∧ cfg.rangeSource ≠ some kind
  · rw [if_pos hsource, if_pos hsource]
    exact .ok .nil
  rw [if_neg hsource, if_neg hsource, h.featureDefinition, h.timestamp]
  refine (ResultsRelated.of_eq rfl).bind ?_
  rintro known _ rfl
  by_cases hearly : item.reference.snapshot.timestamp < known
  · rw [if_pos hearly, if_pos hearly]
    exact .ok .nil
  rw [if_neg hearly, if_neg hearly, extremeOf, extremeOf, numeric_level, numeric_level, h.low kind]
  cases hlevel : levelOf item kind "high" with
  | none => exact .ok .nil
  | some level =>
    obtain ⟨hlevelPos, hreflected⟩ := hpos.levels kind level hlevel
    have hcross : (0 < level ∧ signed .long (PyFloat.ofDecimal item.previousBar.close - level) ≤ 0 ∧
          0 < signed .long (PyFloat.ofDecimal item.bar.close - level)) ↔
        (0 < c - level ∧
          signed .short (PyFloat.ofDecimal item'.previousBar.close - (c - level)) ≤ 0 ∧
          0 < signed .short (PyFloat.ofDecimal item'.bar.close - (c - level))) := by
      simp only [signed, ofDecimal_rat, h.previousBar.close, h.bar.close]
      refine and_congr ⟨fun _ => by linarith, fun _ => hlevelPos⟩ (and_congr ?_ ?_)
      · constructor <;> intro _ <;> linarith
      · constructor <;> intro _ <;> linarith
    simp only [Option.map_some]
    by_cases hcrossed : 0 < level ∧
        signed .long (PyFloat.ofDecimal item.previousBar.close - level) ≤ 0 ∧
        0 < signed .long (PyFloat.ofDecimal item.bar.close - level)
    · rw [if_pos hcrossed, if_pos (hcross.mp hcrossed)]
      exact .ok (.cons ⟨rfl, rfl⟩ .nil)
    · rw [if_neg hcrossed, if_neg (mt hcross.mpr hcrossed)]
      exact .ok .nil

theorem crossedLevels_mirrored (h : ReflectsBreakout c item item')
    (hpos : PositiveBreakout c item cfg opening) :
    ResultsRelated (List.Forall₂ (MirrorsLevel c)) (crossedLevels item .long cfg opening)
      (crossedLevels item' .short cfg opening) := by
  rw [crossedLevels, crossedLevels]
  refine (crossedLevel_mirrored h hpos .openingRange).bind fun range range' hrange => ?_
  refine (crossedLevel_mirrored h hpos .swing).bind fun swing swing' hswing => ?_
  exact .ok (List.rel_append hrange hswing)

/-- What is broken in the mirror image; the level and what invalidates it are positive. -/
structure MirrorsBreak (c : ℚ) (cfg : BreakoutSettings ℚ) (b b' : ℚ × RangeKind × ℚ) : Prop where
  atr : b'.1 = b.1
  kind : b'.2.1 = b.2.1
  level : b'.2.2 = c - b.2.2
  level_range : 0 < b.2.2 ∧ b.2.2 < c
  invalidation_pos : 0 < b.2.2 - cfg.invalidationBufferAtr * b.1 ∧
    0 < c - b.2.2 + cfg.invalidationBufferAtr * b.1

/-- A level that the bar crossed is known. -/
theorem levelOf_of_crossedLevel {levels : List (RangeKind × ℚ)} {kind : RangeKind}
    (h : crossedLevel item .long cfg opening kind = .ok levels) {pair : RangeKind × ℚ}
    (hpair : pair ∈ levels) : levelOf item pair.1 "high" = some pair.2 := by
  rw [crossedLevel] at h
  by_cases hsource : cfg.rangeSource ≠ none ∧ cfg.rangeSource ≠ some kind
  · rw [if_pos hsource] at h
    obtain rfl := Except.ok.inj h
    cases hpair
  rw [if_neg hsource] at h
  obtain ⟨known, -, h⟩ := bind_ok h
  by_cases hearly : item.reference.snapshot.timestamp < known
  · rw [if_pos hearly] at h
    obtain rfl := Except.ok.inj h
    cases hpair
  rw [if_neg hearly, extremeOf, numeric_level] at h
  cases hlevel : levelOf item kind "high" with
  | none =>
    simp only [hlevel] at h
    obtain rfl := Except.ok.inj h
    cases hpair
  | some level =>
    simp only [hlevel] at h
    split at h
    · obtain rfl := Except.ok.inj h
      rw [List.mem_singleton.mp hpair]
      exact hlevel
    · obtain rfl := Except.ok.inj h
      cases hpair

theorem levelOf_of_crossedLevels {levels : List (RangeKind × ℚ)}
    (h : crossedLevels item .long cfg opening = .ok levels) {pair : RangeKind × ℚ}
    (hpair : pair ∈ levels) : levelOf item pair.1 "high" = some pair.2 := by
  rw [crossedLevels] at h
  obtain ⟨range, hrange, h⟩ := bind_ok h
  obtain ⟨swing, hswing, h⟩ := bind_ok h
  obtain rfl := Except.ok.inj h
  rcases List.mem_append.mp hpair with hpair | hpair
  · exact levelOf_of_crossedLevel hrange hpair
  · exact levelOf_of_crossedLevel hswing hpair

/-- The hardest level that the bar crossed is the reflection of the mirror image's. -/
theorem brokenLevel_mirrored (h : ReflectsBreakout c item item')
    (hpos : PositiveBreakout c item cfg opening) :
    ResultsRelated (ResultsRelated (MirrorsBreak c cfg)) (brokenLevel item .long cfg opening)
      (brokenLevel item' .short cfg opening) := by
  have hflat : item'.bar.high = item'.bar.low ↔ item.bar.high = item.bar.low := by
    rw [h.bar.high, h.bar.low]
    constructor <;> intro heq <;> linarith
  rw [brokenLevel, brokenLevel, h.kept "stock.atr" (by simp [keptNames])]
  cases hatr : numeric item.current "stock.atr" with
  | error e => exact .error e
  | ok atr =>
    simp only [bind, Except.bind]
    by_cases hinvalid : atr ≤ 0 ∨ item.bar.high = item.bar.low
    · rw [if_pos hinvalid, if_pos (hinvalid.imp_right hflat.mpr)]
      exact .ok (.error _)
    rw [if_neg hinvalid, if_neg (mt (Or.imp_right hflat.mp) hinvalid)]
    have hcrossed := crossedLevels_mirrored h hpos
    generalize crossedLevels item' .short cfg opening = outcome at hcrossed ⊢
    cases hlevels : crossedLevels item .long cfg opening with
    | error e =>
      rw [hlevels] at hcrossed
      cases hcrossed
      exact .error e
    | ok levels =>
      rw [hlevels] at hcrossed
      cases hcrossed with
      | @ok _ levels' hrelated =>
        have hhardest : Option.Rel (MirrorsLevel c)
            (Misc.maxOn (fun pair => signed .long pair.2) levels)
            (Misc.maxOn (fun pair => signed .short pair.2) levels') := by
          refine related_maxOn (fun a b a' b' ha hb => ?_) hrelated
          simp only [signed, ha.2, hb.2]
          constructor <;> intro hlt <;> linarith
        simp only
        cases hmax : Misc.maxOn (fun pair => signed .long pair.2) levels with
        | none =>
          rw [hmax] at hhardest
          generalize Misc.maxOn (fun pair => signed .short pair.2) levels' = hardest at hhardest ⊢
          cases hhardest
          exact .ok (.error _)
        | some pair =>
          have hmem : pair ∈ levels := by
            obtain ⟨before, after, rfl, -, -⟩ := maxOn_spec hmax
            simp
          rw [hmax] at hhardest
          generalize Misc.maxOn (fun pair => signed .short pair.2) levels' = hardest at hhardest ⊢
          cases hhardest with
          | some hpair =>
            exact .ok (.ok
              { atr := rfl
                kind := hpair.1
                level := hpair.2
                level_range := hpos.levels pair.1 pair.2 (levelOf_of_crossedLevels hlevels hmem)
                invalidation_pos := hpos.invalidation levels hlevels pair hmem atr hatr })

end Levels

section Reading

variable {c : ℚ} {item item' : BreakoutObservation ℚ} {cfg : BreakoutSettings ℚ}
  {opening : Instant}

/-- The quantities of the mirror image. -/
structure MirrorsBreakoutReading (c : ℚ) (r r' : BreakoutReading ℚ) : Prop where
  reflected : r' =
    { r with
      level := c - r.level
      close := c - r.close
      vwap := c - r.vwap
      invalidationLevel := c - r.invalidationLevel }
  vwap_range : 0 < r.vwap ∧ r.vwap < c
  level_range : 0 < r.level ∧ r.level < c
  invalidation_range : 0 < r.invalidationLevel ∧ r.invalidationLevel < c

theorem breakoutReading_mirrored (h : ReflectsBreakout c item item')
    (hpos : PositiveBreakout c item cfg opening) {b b' : ℚ × RangeKind × ℚ}
    (hb : MirrorsBreak c cfg b b') :
    ResultsRelated (MirrorsBreakoutReading c)
      (breakoutReading item .long cfg b.1 b.2.1 b.2.2)
      (breakoutReading item' .short cfg b'.1 b'.2.1 b'.2.2) := by
  have hnegated : ∀ name ∈ negatedNames, ResultsRelated (fun v v' : ℚ => v' = -v)
      (numeric item.current name) (numeric item'.current name) := by
    intro name hname
    rw [h.negated name hname]
    cases numeric item.current name with
    | error e => exact .error e
    | ok v => exact .ok rfl
  have hkept : ∀ name ∈ keptNames, ResultsRelated (fun v v' : ℚ => v = v')
      (numeric item.current name) (numeric item'.current name) :=
    fun name hname => .of_eq (h.kept name hname).symm
  have hvwap : ResultsRelated (fun v v' : ℚ => (0 < v ∧ v < c) ∧ v' = c - v)
      (numeric item.current "stock.session_vwap") (numeric item'.current "stock.session_vwap") := by
    rw [h.vwap]
    cases hread : numeric item.current "stock.session_vwap" with
    | error e => exact .error e
    | ok v => exact .ok ⟨hpos.vwap v hread, rfl⟩
  have hextension : signed .short (PyFloat.ofDecimal item'.bar.close - b'.2.2) =
      signed .long (PyFloat.ofDecimal item.bar.close - b.2.2) := by
    simp only [signed, ofDecimal_rat, h.bar.close, hb.level]
    ring
  have hreach : (reach .short (PyFloat.ofDecimal item'.bar.high)
        (PyFloat.ofDecimal item'.bar.low) (PyFloat.ofDecimal item'.bar.close) : ℚ) =
      reach .long (PyFloat.ofDecimal item.bar.high) (PyFloat.ofDecimal item.bar.low)
        (PyFloat.ofDecimal item.bar.close) := by
    simp only [reach, ofDecimal_rat, h.bar.close, h.bar.high]
    ring
  have hheight : (PyFloat.ofDecimal item'.bar.high - PyFloat.ofDecimal item'.bar.low : ℚ) =
      PyFloat.ofDecimal item.bar.high - PyFloat.ofDecimal item.bar.low := by
    simp only [ofDecimal_rat, h.bar.high, h.bar.low]
    ring
  have hbody : signed .short (PyFloat.ofDecimal item'.bar.close -
        PyFloat.ofDecimal item'.bar.openPrice : ℚ) =
      signed .long (PyFloat.ofDecimal item.bar.close - PyFloat.ofDecimal item.bar.openPrice) := by
    simp only [signed, ofDecimal_rat, h.bar.close, h.bar.openPrice]
    ring
  have same : ∀ x : Except PyError ℚ, ResultsRelated (· = ·) x x := fun x => .of_eq rfl
  simp only [breakoutReading, hextension, hreach, hheight, hbody, hb.atr]
  refine (same _).bind fun extension _ hextended => ?_
  refine (same _).bind fun location _ hlocation => ?_
  refine (same _).bind fun body _ hbodied => ?_
  refine hvwap.bind fun vwap vwap' hv => ?_
  refine (hnegated "sector.vwap_distance" (by simp [negatedNames])).bind fun s s' hs => ?_
  refine (hnegated "stock.ema_20_slope" (by simp [negatedNames])).bind fun e e' he => ?_
  refine (hkept "stock.relative_volume" (by simp [keptNames])).bind fun volume _ hvolume => ?_
  refine (hnegated "stock.relative_sector_30m" (by simp [negatedNames])).bind fun rs rs' hrs => ?_
  refine (hnegated "stock.relative_market_30m" (by simp [negatedNames])).bind fun rm rm' hrm => ?_
  refine (hkept "liquidity.spread_bps" (by simp [keptNames, liquidityNames])).bind
    fun spread _ hspread => ?_
  refine (hkept "liquidity.quote_age" (by simp [keptNames, liquidityNames])).bind
    fun age _ hage => ?_
  refine (hkept "liquidity.adv" (by simp [keptNames, liquidityNames])).bind fun adv _ hadv => ?_
  refine (hkept "liquidity.average_daily_turnover" (by simp [keptNames, liquidityNames])).bind
    fun turnover _ hturnover => ?_
  subst hextended hlocation hbodied hvolume hspread hage hadv hturnover hs he hrs hrm
  refine (same _).bind fun proxy _ hproxy => ?_
  subst hproxy
  refine .ok ⟨?_, hv.1, hb.level_range, hb.invalidation_pos.1, ?_⟩
  · simp only [signed, ofDecimal_rat, h.bar.close, hb.kind, hb.level, hv.2, neg_neg,
      BreakoutReading.mk.injEq, true_and, and_true]
    ring
  · have := hb.invalidation_pos.2
    simp only [signed]
    linarith

theorem indicator_congr {p q : Prop} [Decidable p] [Decidable q] (h : p ↔ q) :
    (indicator p : ℚ) = indicator q := by
  rw [indicator, indicator]
  exact if_congr h rfl rfl

/-- The mirror image is compared as the observation is. -/
theorem comparisons_mirrored {r r' : BreakoutReading ℚ} (h : MirrorsBreakoutReading c r r')
    (strength : ℚ) (cfg : BreakoutSettings ℚ) :
    r'.comparisons .short strength cfg = r.comparisons .long strength cfg := by
  have hvwap : (0 < c - r.vwap) ↔ 0 < r.vwap :=
    ⟨fun _ => h.vwap_range.1, fun _ => sub_pos.mpr h.vwap_range.2⟩
  have hside : signed .short (c - r.close - (c - r.vwap)) = signed .long (r.close - r.vwap) := by
    simp only [signed]
    ring
  have hinvalidation : (0 < c - r.invalidationLevel) ↔ 0 < r.invalidationLevel :=
    ⟨fun _ => h.invalidation_range.1, fun _ => sub_pos.mpr h.invalidation_range.2⟩
  rw [h.reflected, BreakoutReading.comparisons, BreakoutReading.comparisons]
  simp only [hside, indicator_congr hvwap, indicator_congr hinvalidation]

end Reading

section Measurement

variable [Platform] {c : ℚ} {item item' : BreakoutObservation ℚ} {cfg : BreakoutSettings ℚ}

theorem measurement_mirrored (h : ReflectsBreakout c item item') {r r' : BreakoutReading ℚ}
    (hr : MirrorsBreakoutReading c r r') (strength : ℚ) (closing : Instant) :
    ResultsRelated (MirrorsMeasurement c) (r.measurement item strength cfg closing)
      (r'.measurement item' strength cfg closing) := by
  have hcomponents : r'.components strength cfg = r.components strength cfg := by
    rw [hr.reflected]
    rfl
  rw [BreakoutReading.measurement, BreakoutReading.measurement, hcomponents, h.bar.stop,
    h.timestamp]
  refine (ResultsRelated.of_eq rfl).bind ?_
  rintro components _ rfl
  refine (ResultsRelated.of_eq rfl).bind ?_
  rintro observed _ rfl
  rw [if_neg (by simp), if_neg (by simp), hr.reflected]
  simp only [BreakoutInvalidation.validate, dif_pos hr.level_range.1,
    dif_pos hr.invalidation_range.1, dif_pos (sub_pos.mpr hr.level_range.2),
    dif_pos (sub_pos.mpr hr.invalidation_range.2)]
  exact .ok ⟨rfl, .some ⟨rfl, rfl, rfl, rfl, rfl, rfl⟩, rfl⟩

/-- The measurement for the short side of the reflected observation is that for the long side
    of the observation, with its levels reflected. -/
theorem measureBreakout_mirrored {opening : Instant} (h : ReflectsBreakout c item item')
    (hpos : PositiveBreakout c item cfg opening) (strength : ℚ) (closing : Instant)
    (evidence : List (ThresholdEvidence ℚ)) :
    (measureBreakout item' .short strength cfg opening closing evidence).1 =
        (measureBreakout item .long strength cfg opening closing evidence).1 ∧
      ResultsRelated (MirrorsMeasurement c)
        (measureBreakout item .long strength cfg opening closing evidence).2
        (measureBreakout item' .short strength cfg opening closing evidence).2 := by
  have hbroken := brokenLevel_mirrored h hpos
  rw [measureBreakout, measureBreakout]
  generalize brokenLevel item .long cfg opening = broken at hbroken ⊢
  generalize brokenLevel item' .short cfg opening = broken' at hbroken ⊢
  cases hbroken with
  | error e => exact ⟨rfl, .error e⟩
  | ok hinner =>
    cases hinner with
    | error reason => exact ⟨rfl, .ok ⟨rfl, .none, rfl⟩⟩
    | @ok b b' hb =>
      have hreading := breakoutReading_mirrored h hpos hb
      simp only
      generalize breakoutReading item .long cfg b.1 b.2.1 b.2.2 = read at hreading ⊢
      generalize breakoutReading item' .short cfg b'.1 b'.2.1 b'.2.2 = read' at hreading ⊢
      cases hreading with
      | error e => exact ⟨rfl, .error e⟩
      | @ok r r' hr =>
        simp only [comparisons_mirrored hr strength cfg]
        refine ⟨trivial, (ResultsRelated.of_eq rfl).bind fun _ _ _ => ?_⟩
        by_cases hpassed : (recordAll (r.comparisons .long strength cfg)).1.all (·.passed)
        · rw [if_pos hpassed, if_pos hpassed]
          exact measurement_mirrored h hr strength closing
        · rw [if_neg hpassed, if_neg hpassed]
          exact .ok ⟨rfl, .none, rfl⟩

end Measurement

end Godzilla.Alphas

namespace Godzilla.Alphas.Sample
open Misc Features MarketData MarketState Godzilla.MarketData.Sample Godzilla.Sample

theorem breakoutWeights_ranges : ∀ w ∈ [(1 : ℚ) / 4, 1 / 5, 3 / 20, 3 / 20, 1 / 10, 1 / 10, 1 / 20],
    0 ≤ w ∧ w ≤ 1 := by
  norm_num

theorem breakoutWeights_normalized : PyFloat.IsClose (PyFloat.sum [(1 : ℚ) / 4, 1 / 5, 3 / 20,
    3 / 20, 1 / 10, 1 / 10, 1 / 20]) 1 (1 / 10 ^ 12) := by
  left
  rw [sum_rat]
  norm_num

theorem breakout_positive : ∀ x ∈ [(1 : ℚ) / 500, 3 / 2, 3, 1 / 20, 1 / 4, 3 / 4, 1 / 200,
    1 / 1000, 1 / 10, 2, 3 / 2, 3, 12, 3, 100000, 10000000], 0 < x := by
  norm_num

theorem breakout_strength : (1 : ℚ) / 2 < 4 / 5 ∧ (4 : ℚ) / 5 < 1 := by norm_num

theorem breakout_location : (1 : ℚ) / 2 ≤ 7 / 10 ∧ (7 : ℚ) / 10 ≤ 1 := by norm_num

theorem breakout_body : (0 : ℚ) ≤ 1 / 5 ∧ (1 : ℚ) / 5 ≤ 1 := by norm_num

theorem breakout_lag : (0 : ℚ) ≤ 30 := by norm_num

theorem breakout_score : (0 : ℚ) ≤ 3 / 5 ∧ (3 : ℚ) / 5 ≤ 1 := by norm_num

theorem breakout_extensions : (1 : ℚ) / 20 ≤ 1 / 4 ∧ (1 : ℚ) / 4 ≤ 3 / 4 := by norm_num

theorem breakout_covers : (3 : ℚ) / 2 ≤ 3 ∧ (3 : ℚ) / 2 ≤ 3 := by norm_num

theorem three_bars : 1 ≤ 3 := by decide

/-- The default settings but for a smaller universe. -/
def breakoutSettings : BreakoutSettings ℚ where
  weights := { ranges := breakoutWeights_ranges, normalized := breakoutWeights_normalized }
  minimumUniverseSize := 2
  universe_min := two_members
  strength_range := breakout_strength
  positive := breakout_positive
  location_range := breakout_location
  body_range := breakout_body
  observation_pos := three_bars
  barLag_nonneg := breakout_lag
  score_range := breakout_score
  extensions_ordered := breakout_extensions
  full_covers := breakout_covers

theorem breakout_names : ["liquidity.adv", "liquidity.average_daily_turnover",
    "liquidity.quote_age", "liquidity.spread_bps", "sector.vwap_distance", "stock.atr",
    "stock.ema_20_slope", "stock.opening_range_high", "stock.opening_range_low",
    "stock.relative_market_30m", "stock.relative_sector_30m", "stock.relative_volume",
    "stock.session_vwap"].Pairwise (· < ·) := by
  decide +kernel

/-- The features of a breakout: the opening range, the VWAP, and one sign. -/
def breakoutSnapshot (token : String) (minutes : Int) (high low vwap sign : ℚ) :
    FeatureSnapshot ℚ where
  entity := token
  timestamp := afterOpen minutes
  featureSetHash := "digest"
  contextHash := "digest"
  inputHash := "inputs"
  codeCommit := "commit"
  configHash := "config"
  dataSnapshot := "data"
  values :=
    let feature := MarketState.Sample.feature
    [ feature "liquidity.adv" 200000, feature "liquidity.average_daily_turnover" 20000000,
      feature "liquidity.quote_age" 1, feature "liquidity.spread_bps" 3,
      feature "sector.vwap_distance" (sign / 100), feature "stock.atr" 4,
      feature "stock.ema_20_slope" (sign / 500), feature "stock.opening_range_high" high,
      feature "stock.opening_range_low" low, feature "stock.relative_market_30m" (sign / 100),
      feature "stock.relative_sector_30m" (sign / 100), feature "stock.relative_volume" 2,
      feature "stock.session_vwap" vwap ]
  ordered_unique := breakout_names

/-- A bar of five minutes, by its slot since the open. -/
def breakoutBar (token : String) (slot : Nat) (openPrice high low close : ℚ) : Bar where
  instrumentId := token
  source := "feed"
  receivedAt := afterOpen (5 * slot) + minutesOf 5
  start := afterOpen (5 * slot)
  stop := afterOpen (5 * slot) + minutesOf 5
  intervalMinutes := 5
  openPrice := openPrice
  high := high
  low := low
  close := close
  volume := 10
  interval_supported := fiveMinutes_supported
  duration := slot_duration slot

/-- A close above the opening range, forty minutes after the open. -/
def breakoutItem (token : String) : BreakoutObservation ℚ where
  current :=
    { momentumObservation token 0 0 with snapshot := breakoutSnapshot token 40 100 95 99 1 }
  reference :=
    { momentumObservation token 0 0 with snapshot := breakoutSnapshot token 35 100 95 99 1 }
  bar := breakoutBar token 7 (199 / 2) (405 / 4) (397 / 4) 101
  previousBar := breakoutBar token 6 99 (199 / 2) 98 99
  featureDefinition := Features.Sample.version

/-- Its reflection at two hundred. -/
def reflectedItem (token : String) : BreakoutObservation ℚ where
  current :=
    { momentumObservation token 0 0 with snapshot := breakoutSnapshot token 40 105 100 101 (-1) }
  reference :=
    { momentumObservation token 0 0 with snapshot := breakoutSnapshot token 35 105 100 101 (-1) }
  bar := breakoutBar token 7 (201 / 2) (403 / 4) (395 / 4) 99
  previousBar := breakoutBar token 6 101 102 (201 / 2) 101
  featureDefinition := Features.Sample.version

theorem item_reflected : ReflectsBreakout 200 (breakoutItem "INFY") (reflectedItem "INFY") where
  bar := by constructor <;> decide +kernel
  previousBar := by constructor <;> decide +kernel
  featureDefinition := rfl
  timestamp := rfl
  high kind := by cases kind <;> decide +kernel
  low kind := by cases kind <;> decide +kernel
  vwap := by decide +kernel
  negated := by decide +kernel
  kept := by decide +kernel

theorem item_positive :
    PositiveBreakout 200 (breakoutItem "INFY") breakoutSettings (afterOpen 0) where
  levels kind level hlevel := by
    cases kind with
    | openingRange =>
      have hknown : levelOf (breakoutItem "INFY") .openingRange "high" = some 100 := by
        decide +kernel
      obtain rfl := Option.some.inj (hknown.symm.trans hlevel)
      norm_num
    | swing =>
      have hunknown : levelOf (breakoutItem "INFY") .swing "high" = none := by decide +kernel
      rw [hunknown] at hlevel
      cases hlevel
  vwap vwap hvwap := by
    have hread : numeric (breakoutItem "INFY").current "stock.session_vwap" = .ok 99 := by
      decide +kernel
    obtain rfl := Except.ok.inj (hread.symm.trans hvwap)
    norm_num
  invalidation levels hlevels pair hpair atr hatr := by
    have hcrossed : crossedLevels (breakoutItem "INFY") .long breakoutSettings (afterOpen 0) =
        .ok [(.openingRange, 100)] := by
      decide +kernel
    have hread : numeric (breakoutItem "INFY").current "stock.atr" = .ok 4 := by decide +kernel
    obtain rfl := Except.ok.inj (hcrossed.symm.trans hlevels)
    obtain rfl := Except.ok.inj (hread.symm.trans hatr)
    obtain rfl := List.mem_singleton.mp hpair
    decide +kernel

/-- A breakout that is measured, and its reflection. -/
theorem measureBreakout_mirrored_infy :
    (measureBreakout (breakoutItem "INFY") .long (9 / 10) breakoutSettings (afterOpen 0)
        (afterOpen 375) []).2.map (·.reasons) = .ok (brokenReasons .openingRange) ∧
      (measureBreakout (reflectedItem "INFY") .short (9 / 10) breakoutSettings (afterOpen 0)
          (afterOpen 375) []).1 =
        (measureBreakout (breakoutItem "INFY") .long (9 / 10) breakoutSettings (afterOpen 0)
          (afterOpen 375) []).1 ∧
      ResultsRelated (MirrorsMeasurement 200)
        (measureBreakout (breakoutItem "INFY") .long (9 / 10) breakoutSettings (afterOpen 0)
          (afterOpen 375) []).2
        (measureBreakout (reflectedItem "INFY") .short (9 / 10) breakoutSettings (afterOpen 0)
          (afterOpen 375) []).2 :=
  ⟨by decide +kernel, measureBreakout_mirrored item_reflected item_positive (9 / 10)
    (afterOpen 375) []⟩

end Godzilla.Alphas.Sample
