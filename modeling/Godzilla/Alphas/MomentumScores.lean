import Godzilla.Alphas.CrossSectionalMomentum
import Godzilla.Misc.Raises
import Godzilla.Misc.Related

/-!
# The score cards of a cross-section

What the readings of a cross-section hold, and in exact arithmetic the card of each
member: the ranks lie between zero and one, so no validator rejects what the engine builds.
-/

namespace Godzilla.Alphas
open Godzilla Misc Events Features MarketData MarketState Universe

section Inputs

variable {F : Type} [PyFloat F]

/-- The seven numbers that `_confirmation` reads. -/
structure ConfirmationInputs (F : Type) where
  stockVwap : F
  stockSlope : F
  sectorVwap : F
  spread : F
  age : F
  adv : F
  turnover : F

/-- The inputs are the features of the observation. -/
structure ReadsInputs (o : MomentumObservation F) (x : ConfirmationInputs F) : Prop where
  stockVwap : number o "stock.vwap_distance" = .ok x.stockVwap
  stockSlope : number o "stock.ema_20_slope" = .ok x.stockSlope
  sectorVwap : number o "sector.vwap_distance" = .ok x.sectorVwap
  spread : number o "liquidity.spread_bps" = .ok x.spread
  age : number o "liquidity.quote_age" = .ok x.age
  adv : number o "liquidity.adv" = .ok x.adv
  turnover : number o "liquidity.average_daily_turnover" = .ok x.turnover

namespace ConfirmationInputs

variable (x : ConfirmationInputs F)

/-- The three signs. -/
def trend : List F := [x.stockVwap, x.stockSlope, x.sectorVwap]

/-- The inputs are within the limits on liquidity. -/
def Liquid (cfg : MomentumSettings F) : Prop :=
  withinLiquidity cfg x.spread x.age x.adv x.turnover

instance (cfg : MomentumSettings F) : Decidable (x.Liquid cfg) :=
  inferInstanceAs (Decidable (withinLiquidity _ _ _ _ _))

/-- What `_confirmation` makes of its inputs. -/
def confirm (cfg : MomentumSettings F) : MomentumConfirmation F where
  longOk := x.trend.all fun v => decide (0 < v)
  shortOk := x.trend.all fun v => decide (v < 0)
  liquid := decide (x.Liquid cfg)
  trendQuality := PyFloat.sum (x.trend.map trendMark) / PyFloat.ofInt x.trend.length
  quality := if decide (x.Liquid cfg) then quoteQuality cfg x.spread x.age else 0

end ConfirmationInputs

theorem confirmation_ok {o : MomentumObservation F} {cfg : MomentumSettings F}
    {c : MomentumConfirmation F} :
    confirmation o cfg = .ok c ↔ ∃ x, ReadsInputs o x ∧ c = x.confirm cfg := by
  constructor
  · intro h
    rw [confirmation] at h
    obtain ⟨trend, htrend, h⟩ := bind_ok h
    obtain ⟨spread, hspread, h⟩ := bind_ok h
    obtain ⟨age, hage, h⟩ := bind_ok h
    obtain ⟨adv, hadv, h⟩ := bind_ok h
    obtain ⟨turnover, hturnover, h⟩ := bind_ok h
    have hread := related_of_mapM htrend
    rw [trendNames] at hread
    obtain _ | ⟨hstockVwap, _ | ⟨hstockSlope, _ | ⟨hsectorVwap, ⟨⟩⟩⟩⟩ := hread
    exact ⟨⟨_, _, _, spread, age, adv, turnover⟩,
      ⟨hstockVwap, hstockSlope, hsectorVwap, hspread, hage, hadv, hturnover⟩,
      (Except.ok.inj h).symm⟩
  · rintro ⟨x, hx, rfl⟩
    simp only [confirmation, trendNames, List.mapM_cons, List.mapM_nil, hx.stockVwap,
      hx.stockSlope, hx.sectorVwap, hx.spread, hx.age, hx.adv, hx.turnover]
    rfl

end Inputs

section Readings

variable {F : Type} [PyFloat F] [Platform] {engine : CrossSectionalMomentum F}
  {call : MomentumCall F}

/-- A reading holds what is read of the observation. -/
structure ReadOf (cfg : MomentumSettings F) (o : MomentumObservation F)
    (reading : MomentumReading F) : Prop where
  observation : reading.observation = o
  returns : returns o cfg = .ok reading.returns
  confirmation : confirmation o cfg = .ok reading.confirmation

omit [Platform] in
theorem readOf_zip {cfg : MomentumSettings F} {os : List (MomentumObservation F)}
    {rows : List (Fin 5 → F)} {cs : List (MomentumConfirmation F)}
    (hrows : List.Forall₂ (fun o row => returns o cfg = .ok row) os rows)
    (hcs : List.Forall₂ (fun o c => confirmation o cfg = .ok c) os cs) :
    List.Forall₂ (ReadOf cfg) os
      ((os.zip (rows.zip cs)).map fun (o, row, c) => ⟨o, row, c⟩) := by
  induction hrows generalizing cs with
  | nil => exact .nil
  | cons hrow _ ih =>
    cases hcs with
    | cons hc hrest => exact .cons ⟨rfl, hrow, hc⟩ (ih hrest)

theorem readings_ok {readings : List (MomentumReading F)}
    (h : engine.readings call = .ok readings) :
    List.Forall₂ (ReadOf engine.settings) call.selected readings := by
  rw [CrossSectionalMomentum.readings] at h
  obtain ⟨_, _, h⟩ := bind_ok h
  obtain ⟨rows, hrows, h⟩ := bind_ok h
  obtain ⟨cs, hcs, h⟩ := bind_ok h
  obtain rfl := Except.ok.inj h
  exact readOf_zip (related_of_mapM hrows) (related_of_mapM hcs)

/-- Every member of an unambiguous cross-section is a long token with an instrument. -/
theorem instrument_known (h : ¬ call.crossSectionAmbiguous engine.settings) {token : String}
    (htoken : token ∈ call.universeSnapshot.longTokens) :
    ∃ instrument, call.instrument token = .ok instrument := by
  simp only [MomentumCall.crossSectionAmbiguous, not_or, not_not] at h
  obtain ⟨-, -, -, -, -, hknown, -⟩ := h
  obtain ⟨instrument, hget⟩ := Option.isSome_iff_exists.mp
    ((Dict.mem_keys_iff _).mp (hknown htoken))
  exact ⟨instrument, by rw [MomentumCall.instrument, hget]⟩

theorem selected_long (h : ¬ call.crossSectionAmbiguous engine.settings)
    {o : MomentumObservation F} (ho : o ∈ call.selected) :
    o.snapshot.entity ∈ call.universeSnapshot.longTokens := by
  simp only [MomentumCall.crossSectionAmbiguous, not_or, not_not] at h
  obtain ⟨-, -, -, -, hsame, -⟩ := h
  exact hsame.1 (List.mem_map_of_mem ho)

end Readings

/-! The rest is exact arithmetic. -/

section Exact

theorem sum_rat (xs : List ℚ) : PyFloat.sum xs = xs.sum := (List.sum_eq_foldl).symm

theorem trendMark_range (v : ℚ) : 0 ≤ trendMark v ∧ trendMark v ≤ 1 := by
  rw [trendMark]
  split
  · exact ⟨by decide +kernel, by decide +kernel⟩
  · split
    · exact ⟨by decide +kernel, by decide +kernel⟩
    · exact ⟨by decide +kernel, by decide +kernel⟩

theorem trendQuality_range (cfg : MomentumSettings ℚ) (x : ConfirmationInputs ℚ) :
    0 ≤ (x.confirm cfg).trendQuality ∧ (x.confirm cfg).trendQuality ≤ 1 := by
  have hvwap := trendMark_range x.stockVwap
  have hslope := trendMark_range x.stockSlope
  have hsector := trendMark_range x.sectorVwap
  have hquality : (x.confirm cfg).trendQuality =
      (trendMark x.stockVwap + (trendMark x.stockSlope + (trendMark x.sectorVwap + 0))) / 3 := by
    simp [ConfirmationInputs.confirm, ConfirmationInputs.trend, sum_rat]
  rw [hquality]
  constructor
  · linarith
  · linarith

theorem quality_range (cfg : MomentumSettings ℚ) (x : ConfirmationInputs ℚ) :
    0 ≤ (x.confirm cfg).quality ∧ (x.confirm cfg).quality ≤ 1 := by
  have hquote : 0 ≤ quoteQuality cfg x.spread x.age ∧ quoteQuality cfg x.spread x.age ≤ 1 :=
    ⟨le_max_left _ _, max_le (by decide +kernel) (min_le_left _ _)⟩
  rw [ConfirmationInputs.confirm]
  by_cases hliquid : x.Liquid cfg
  · simpa [hliquid] using hquote
  · simp only [hliquid, decide_false, Bool.false_eq_true, if_false]
    exact ⟨le_rfl, by decide +kernel⟩

/-- The ranks of one member among the rows of all. -/
def memberRanks (rows : List (Fin 5 → ℚ)) (row : Fin 5 → ℚ) (i : Fin 5) : ℚ :=
  percentileIn (rows.map (· i)) (row i)

theorem rankColumns_rat {rows : List (Fin 5 → ℚ)} (h : rows ≠ []) :
    rankColumns rows = .ok ((List.finRange 5).map fun i => rows.map (memberRanks rows · i)) := by
  have hcolumn : (fun i => percentiles (rows.map (· i))) = fun i : Fin 5 =>
      (pure (rows.map (memberRanks rows · i)) : Except PyError (List ℚ)) := by
    funext i
    rw [percentiles_rat (mt List.map_eq_nil_iff.mp h), List.map_map]
    rfl
  rw [rankColumns, hcolumn]
  exact List.mapM_pure

theorem ranked_eq {rows : List (Fin 5 → ℚ)} {index : Nat} {row : Fin 5 → ℚ}
    (h : rows[index]? = some row) :
    ((List.finRange 5).map fun i => rows.map (memberRanks rows · i)).filterMap (·[index]?) =
      List.ofFn (memberRanks rows row) := by
  rw [List.filterMap_map, List.ofFn_eq_map, ← List.filterMap_eq_map]
  apply List.filterMap_congr
  intro i _
  simp [h]

/-- The weighted directional ranks of a member. -/
def directional (w : MomentumWeights ℚ) (ranks : Fin 5 → ℚ) (trend : ℚ) : ℚ :=
  w.return30m * ranks 0 + w.return60m * ranks 1 + w.return120m * ranks 2 +
    w.relativeSector30m * ranks 3 + w.relativeMarket30m * ranks 4 + w.trendQuality * trend

theorem directional_nonneg (w : MomentumWeights ℚ) {ranks : Fin 5 → ℚ} {trend : ℚ}
    (hranks : ∀ i, 0 ≤ ranks i) (htrend : 0 ≤ trend) : 0 ≤ directional w ranks trend := by
  have hweight : ∀ v ∈ w.named, 0 ≤ v.2 := by
    intro v hv
    exact (w.ranges v.2 (List.mem_map_of_mem (f := Prod.snd) hv)).1
  simp only [MomentumWeights.named, List.forall_mem_cons] at hweight
  obtain ⟨h30, h60, h120, hsector, hmarket, hquality, -⟩ := hweight
  rw [directional]
  have h0 := mul_nonneg h30 (hranks 0)
  have h1 := mul_nonneg h60 (hranks 1)
  have h2 := mul_nonneg h120 (hranks 2)
  have h3 := mul_nonneg hsector (hranks 3)
  have h4 := mul_nonneg hmarket (hranks 4)
  have h5 := mul_nonneg hquality htrend
  linarith

variable [Platform] {engine : CrossSectionalMomentum ℚ} {call : MomentumCall ℚ}
  {rows : List (Fin 5 → ℚ)} {index : Nat} {reading : MomentumReading ℚ}

/-- The qualities of a confirmation lie between zero and one. -/
structure Proper (c : MomentumConfirmation ℚ) : Prop where
  trend : 0 ≤ c.trendQuality ∧ c.trendQuality ≤ 1
  quality : 0 ≤ c.quality ∧ c.quality ≤ 1

omit [Platform] in
theorem ReadOf.proper {cfg : MomentumSettings ℚ} {o : MomentumObservation ℚ}
    (h : ReadOf cfg o reading) : Proper reading.confirmation := by
  obtain ⟨x, -, hx⟩ := confirmation_ok.mp h.confirmation
  rw [hx]
  exact ⟨trendQuality_range cfg x, quality_range cfg x⟩

/-- The contributions of the components of a card, under their names. -/
def contributions (w : MomentumWeights ℚ) (ranks : Fin 5 → ℚ) (trend quality : ℚ) :
    List (String × ℚ × ℚ) :=
  [ ("return_30m", w.return30m * ranks 0, w.return30m * (1 - ranks 0)),
    ("return_60m", w.return60m * ranks 1, w.return60m * (1 - ranks 1)),
    ("return_120m", w.return120m * ranks 2, w.return120m * (1 - ranks 2)),
    ("relative_sector_30m", w.relativeSector30m * ranks 3, w.relativeSector30m * (1 - ranks 3)),
    ("relative_market_30m", w.relativeMarket30m * ranks 4, w.relativeMarket30m * (1 - ranks 4)),
    ("trend_quality", w.trendQuality * trend, w.trendQuality * (1 - trend)),
    ("liquidity_quality", w.liquidityQuality * quality, w.liquidityQuality * quality) ]

theorem components_rat (engine : CrossSectionalMomentum ℚ) (hrow : rows[index]? = some reading.returns)
    (hproper : Proper reading.confirmation) :
    ∃ components, engine.components
        ((List.finRange 5).map fun i => rows.map (memberRanks rows · i)) index reading =
          .ok components ∧
      components.map (fun c => (c.name, c.longContribution, c.shortContribution)) =
        contributions engine.settings.weights (memberRanks rows reading.returns)
          reading.confirmation.trendQuality reading.confirmation.quality := by
  rw [CrossSectionalMomentum.components, ranked_eq hrow]
  set qualities := [reading.confirmation.trendQuality, reading.confirmation.quality]
  set inputs := engine.settings.weights.named.zip
    ((List.ofFn reading.returns ++ qualities).zip
      (List.ofFn (memberRanks rows reading.returns) ++ qualities)) with hinputs
  have hweight : ∀ x ∈ inputs, 0 ≤ x.1.2 ∧ x.1.2 ≤ 1 := by
    intro x hx
    exact engine.settings.weights.ranges x.1.2
      (List.mem_map_of_mem (f := Prod.snd) (List.of_mem_zip hx).1)
  have hrank : ∀ x ∈ inputs, 0 ≤ x.2.2 ∧ x.2.2 ≤ 1 := by
    intro x hx
    have hranked := (List.of_mem_zip (List.of_mem_zip hx).2).2
    rcases List.mem_append.mp hranked with hmem | hmem
    · obtain ⟨i, hi⟩ := List.mem_ofFn.mp hmem
      rw [← hi]
      exact percentileIn_range _ _
    · rcases List.mem_cons.mp hmem with heq | hmem
      · rw [heq]
        exact hproper.trend
      · rw [List.mem_singleton.mp hmem]
        exact hproper.quality
  have hcomponents : ∃ components, (inputs.mapM fun ((name, weight), value, p) =>
        CrossSectionalMomentum.component name weight value p) = .ok components ∧
      List.Forall₂ (fun x (c : ScoreComponent ℚ) =>
        (c.name, c.longContribution, c.shortContribution) = (x.1.1, x.1.2 * x.2.2,
          x.1.2 * if x.1.1 = "liquidity_quality" then x.2.2 else 1 - x.2.2))
        inputs components := by
    refine exists_mapM fun x hx => ?_
    simp only [CrossSectionalMomentum.component, ScoreComponent.validate]
    rw [dif_pos (hrank x hx), dif_pos (hweight x hx)]
    exact ⟨_, rfl, rfl⟩
  obtain ⟨components, hok, hrelated⟩ := hcomponents
  refine ⟨components, hok, ?_⟩
  rw [map_eq_of_related hrelated fun x c h => h]
  simp [hinputs, qualities, MomentumWeights.named, contributions]

/-- What the card of a member says. -/
structure Scored (cfg : MomentumSettings ℚ) (rows : List (Fin 5 → ℚ))
    (reading : MomentumReading ℚ) (card : MomentumScore ℚ) : Prop where
  instrumentId : card.instrumentId = reading.observation.snapshot.entity
  strength : card.strength = min 1 (max 0
    (directional cfg.weights (memberRanks rows reading.returns)
      reading.confirmation.trendQuality / (1 - cfg.weights.liquidityQuality)))
  longScore : card.longScore = min 1
    (directional cfg.weights (memberRanks rows reading.returns)
      reading.confirmation.trendQuality +
        cfg.weights.liquidityQuality * reading.confirmation.quality)
  shortScore : card.shortScore = min 1
    (directional cfg.weights (fun i => 1 - memberRanks rows reading.returns i)
      (1 - reading.confirmation.trendQuality) +
        cfg.weights.liquidityQuality * reading.confirmation.quality)
  longConfirmed : card.longConfirmed = reading.confirmation.longOk
  shortConfirmed : card.shortConfirmed = reading.confirmation.shortOk
  liquidityConfirmed : card.liquidityConfirmed = reading.confirmation.liquid

omit [Platform] in
theorem sums_of_contributions {w : MomentumWeights ℚ} {ranks : Fin 5 → ℚ} {trend quality : ℚ}
    {components : List (ScoreComponent ℚ)}
    (h : components.map (fun c => (c.name, c.longContribution, c.shortContribution)) =
      contributions w ranks trend quality) :
    PyFloat.sum (components.map (·.longContribution)) =
        directional w ranks trend + w.liquidityQuality * quality ∧
      PyFloat.sum (components.map (·.shortContribution)) =
        directional w (fun i => 1 - ranks i) (1 - trend) + w.liquidityQuality * quality ∧
      PyFloat.sum ((components.filter (·.name ≠ "liquidity_quality")).map (·.longContribution)) =
        directional w ranks trend := by
  have hlong : components.map (·.longContribution) =
      (contributions w ranks trend quality).map (·.2.1) := by
    rw [← h, List.map_map]
    rfl
  have hshort : components.map (·.shortContribution) =
      (contributions w ranks trend quality).map (·.2.2) := by
    rw [← h, List.map_map]
    rfl
  have hdirectional : (components.filter (·.name ≠ "liquidity_quality")).map
      (·.longContribution) =
        ((contributions w ranks trend quality).filter (·.1 ≠ "liquidity_quality")).map (·.2.1) := by
    rw [← h, List.filter_map, List.map_map]
    rfl
  rw [hlong, hshort, hdirectional, sum_rat, sum_rat, sum_rat]
  refine ⟨?_, ?_, ?_⟩
  · simp only [contributions, directional, List.map_cons, List.map_nil, List.sum_cons,
      List.sum_nil]
    ring
  · simp only [contributions, directional, List.map_cons, List.map_nil, List.sum_cons,
      List.sum_nil]
    ring
  · simp [contributions, directional]
    ring

theorem card_rat (hrow : rows[index]? = some reading.returns)
    (hproper : Proper reading.confirmation)
    (hknown : ∃ instrument, call.instrument reading.observation.snapshot.entity = .ok instrument) :
    ∃ card, engine.card call
        ((List.finRange 5).map fun i => rows.map (memberRanks rows · i)) index reading = .ok card ∧
      Scored engine.settings rows reading card := by
  obtain ⟨instrument, hinstrument⟩ := hknown
  obtain ⟨components, hcomponents, hcontributions⟩ :=
    components_rat engine hrow hproper
  obtain ⟨hlong, hshort, hdirectional⟩ := sums_of_contributions hcontributions
  have hliquidity : 0 ≤ engine.settings.weights.liquidityQuality :=
    (engine.settings.weights.ranges _ (by simp)).1
  have hquality := mul_nonneg hliquidity hproper.quality.1
  have hrange := fun i => percentileIn_range (rows.map (· i)) (reading.returns i)
  have hlongNonneg := directional_nonneg engine.settings.weights (fun i => (hrange i).1)
    hproper.trend.1
  have hshortNonneg : 0 ≤ directional engine.settings.weights
      (fun i => 1 - memberRanks rows reading.returns i) (1 - reading.confirmation.trendQuality) :=
    directional_nonneg engine.settings.weights (fun i => sub_nonneg.mpr (hrange i).2)
      (sub_nonneg.mpr hproper.trend.2)
  rw [CrossSectionalMomentum.card, hcomponents, hinstrument]
  simp only [bind, Except.bind, CrossSectionalMomentum.strength, hlong, hshort, hdirectional]
  rw [dif_pos]
  · exact ⟨_, rfl, rfl, rfl, rfl, rfl, rfl, rfl, rfl⟩
  · refine ⟨⟨?_, min_le_left _ _⟩, ⟨?_, min_le_left _ _⟩, ⟨?_, min_le_left _ _⟩⟩
    · exact le_min (by decide +kernel) (le_max_left _ _)
    · exact le_min (by decide +kernel) (add_nonneg hlongNonneg hquality)
    · exact le_min (by decide +kernel) (add_nonneg hshortNonneg hquality)

/-- The cards that a valid cross-section gets, each with the percentile of its strength. -/
theorem scores_rat {readings : List (MomentumReading ℚ)} (hne : readings ≠ [])
    (hproper : ∀ reading ∈ readings, Proper reading.confirmation)
    (hknown : ∀ reading ∈ readings, ∃ instrument,
      call.instrument reading.observation.snapshot.entity = .ok instrument) :
    ∃ scores, engine.scores call readings = .ok scores ∧
      List.Forall₂ (Scored engine.settings (readings.map (·.returns))) readings scores ∧
      ∀ s ∈ scores, s.percentile = percentileIn (scores.map (·.strength)) s.strength := by
  let rows := readings.map fun reading => reading.returns
  have hcards : ∃ cards, (readings.zipIdx.mapM fun (reading, index) =>
        engine.card call ((List.finRange 5).map fun i => rows.map (memberRanks rows · i)) index
          reading) = .ok cards ∧
      List.Forall₂ (fun x card => Scored engine.settings rows x.1 card) readings.zipIdx cards := by
    refine exists_mapM fun x hx => ?_
    have hget := List.mem_zipIdx_iff_getElem?.mp hx
    have hmem := List.mem_of_getElem? hget
    refine card_rat ?_ (hproper x.1 hmem) (hknown x.1 hmem)
    rw [List.getElem?_map, hget]
    rfl
  obtain ⟨cards, hok, hrelated⟩ := hcards
  have hscored : List.Forall₂ (Scored engine.settings (readings.map (·.returns)))
      readings cards := by
    have hfirst : readings.zipIdx.map Prod.fst = readings := List.zipIdx_map_fst 0 readings
    rw [← hfirst]
    exact List.forall₂_map_left_iff.mpr (by rwa [hfirst])
  have hstrengths : cards.map (·.strength) ≠ [] := by
    intro hempty
    have hlength := hscored.length_eq
    rw [List.map_eq_nil_iff.mp hempty] at hlength
    exact hne (List.eq_nil_of_length_eq_zero hlength)
  have hzip : ∀ p : MomentumScore ℚ → ℚ,
      cards.zip (cards.map p) = cards.map fun card => (card, p card) := by
    intro p
    have hpairs := List.zip_map' (f := id) (g := p) (l := cards)
    rwa [List.map_id] at hpairs
  let ranked : MomentumScore ℚ → MomentumScore ℚ := fun card =>
    { card with percentile := percentileIn (cards.map (·.strength)) card.strength }
  have hstrength : (cards.map ranked).map (·.strength) = cards.map (·.strength) := by
    rw [List.map_map]
    rfl
  refine ⟨cards.map ranked, ?_, ?_, ?_⟩
  · rw [CrossSectionalMomentum.scores, rankColumns_rat (mt List.map_eq_nil_iff.mp hne)]
    simp only [bind, Except.bind]
    rw [hok]
    simp only []
    rw [percentiles_rat hstrengths, List.map_map]
    simp only [hzip, List.map_map, Function.comp_def, ranked]
  · refine List.forall₂_map_right_iff.mpr (hscored.imp ?_)
    exact fun _ _ h => ⟨h.1, h.2, h.3, h.4, h.5, h.6, h.7⟩
  · intro s hs
    obtain ⟨card, -, rfl⟩ := List.mem_map.mp hs
    rw [hstrength]

section Gate

variable (hgate : ¬ call.crossSectionAmbiguous engine.settings)
  {readings : List (MomentumReading ℚ)} (hreadings : engine.readings call = .ok readings)
include hgate hreadings

theorem readings_ne_nil : readings ≠ [] := by
  rintro rfl
  have hnone : call.selected = [] := List.forall₂_nil_right_iff.mp (readings_ok hreadings)
  simp only [MomentumCall.crossSectionAmbiguous, not_or, not_not, hnone] at hgate
  obtain ⟨hcount, -, -, -, hsame, -⟩ := hgate
  have hempty : call.universeSnapshot.longTokens = [] := List.subset_nil.mp hsame.2
  have hminimum := engine.settings.universe_min
  rw [hempty] at hcount
  simp only [List.dedup_nil, List.length_nil] at hcount
  omega

theorem reading_long {reading : MomentumReading ℚ} (h : reading ∈ readings) :
    reading.observation.snapshot.entity ∈ call.universeSnapshot.longTokens := by
  obtain ⟨o, ho, hof⟩ := exists_left_of_related (readings_ok hreadings) h
  rw [hof.observation]
  exact selected_long hgate ho

/-- An unambiguous cross-section that can be read gets its scores. -/
theorem scored_of_readings :
    ∃ scores, engine.scores call readings = .ok scores ∧
      List.Forall₂ (Scored engine.settings (readings.map (·.returns))) readings scores ∧
      ∀ s ∈ scores, s.percentile = percentileIn (scores.map (·.strength)) s.strength := by
  apply scores_rat
  · exact readings_ne_nil hgate hreadings
  · intro reading hreading
    obtain ⟨o, -, ho⟩ := exists_left_of_related (readings_ok hreadings) hreading
    exact ho.proper
  · exact fun reading hreading => instrument_known hgate (reading_long hgate hreadings hreading)

theorem score_long {rows : List (Fin 5 → ℚ)} {scores : List (MomentumScore ℚ)}
    (hscored : List.Forall₂ (Scored engine.settings rows) readings scores)
    {card : MomentumScore ℚ} (h : card ∈ scores) :
    card.instrumentId ∈ call.universeSnapshot.longTokens := by
  obtain ⟨reading, hreading, hcard⟩ := exists_left_of_related hscored h
  rw [hcard.instrumentId]
  exact reading_long hgate hreadings hreading

end Gate

end Exact

end Godzilla.Alphas
