import Godzilla.Features.Engine
import Godzilla.Misc.Raises
import Godzilla.Misc.Related

/-!
# The names of the features

Every stage of a snapshot puts the same names whatever it reads, and no name twice. A
value in a snapshot is therefore the value of the one reading with its name.
-/

namespace Godzilla.Features
open Godzilla MarketData Misc Events

/-- The names that the features of a series have, with the gap of its open. -/
def seriesNames (series : String) : List String :=
  (horizons.flatMap fun horizon =>
    [series ++ ".return_" ++ toString horizon ++ "m",
      series ++ ".slope_" ++ toString horizon ++ "m"]) ++
  ([9, 20].flatMap fun period =>
    [series ++ ".ema_" ++ toString period, series ++ ".ema_" ++ toString period ++ "_slope"]) ++
  [series ++ ".session_vwap", series ++ ".vwap_distance", series ++ ".realized_volatility",
    series ++ ".range_volatility", series ++ ".range_percentile", series ++ ".atr",
    series ++ ".opening_range_high", series ++ ".opening_range_low", series ++ ".swing_high",
    series ++ ".swing_low", series ++ ".opening_gap"]

/-- The names of the differences of returns. -/
def relativeNames : List String :=
  horizons.flatMap fun horizon =>
    [("stock", "market"), ("stock", "sector"), ("sector", "market")].map
      fun (target, benchmark) => target ++ ".relative_" ++ benchmark ++ "_" ++ toString horizon ++ "m"

/-- The names of the breadth of a group. -/
def breadthNames (group : String) : List String :=
  [group ++ ".breadth_coverage", group ++ ".breadth_advancing", group ++ ".breadth_declining"]

/-- The names of the other stages. -/
def otherNames : List String :=
  ["market.vix_level", "market.vix_change", "liquidity.quote_age", "liquidity.spread_bps",
    "liquidity.median_spread_bps", "liquidity.adv", "liquidity.average_daily_turnover",
    "liquidity.adv_participation", "liquidity.turnover_participation", "stock.relative_volume",
    "stock.relative_turnover", "pairs.log_left", "pairs.log_right", "pairs.log_covariance",
    "pairs.log_variance_right", "pairs.hedge_ratio", "pairs.spread", "pairs.spread_mean",
    "pairs.spread_std", "pairs.zscore", "pairs.log_correlation", "pairs.stationarity_pvalue",
    "pairs.half_life"]

/-- The names of all features, in the order they are put. -/
def featureNames : List String :=
  seriesNames "stock" ++ seriesNames "market" ++ seriesNames "sector" ++ relativeNames ++
    breadthNames "market" ++ breadthNames "sector" ++ otherNames

theorem nodup_featureNames : featureNames.Nodup := by decide +kernel

variable {F : Type}

/-- The names of a `mapM` of readings are those of its elements. -/
theorem names_of_mapM {α : Type} {f : α → Except PyError (List (Reading F))} {xs : List α}
    {names : α → List String} {readings : List (List (Reading F))} (h : xs.mapM f = .ok readings)
    (hf : ∀ x ys, f x = .ok ys → ys.map (·.name) = names x) :
    readings.flatten.map (·.name) = xs.flatMap names := by
  have hmap : readings.map (fun ys => ys.map (·.name)) = xs.map names :=
    map_eq_of_related (related_of_mapM h) hf
  rw [List.map_flatten, hmap, List.flatMap_def]

variable [PyFloat F]

theorem names_horizonReadings {series : String} {closes : List F} {missing : MissingReason}
    {horizon : Nat} {readings : List (Reading F)}
    (h : horizonReadings series closes missing horizon = .ok readings) :
    readings.map (·.name) = [series ++ ".return_" ++ toString horizon ++ "m",
      series ++ ".slope_" ++ toString horizon ++ "m"] := by
  obtain ⟨steepness, -, h⟩ := bind_ok h
  obtain rfl := Except.ok.inj h
  rfl

theorem names_emaReadings {series : String} {closes : List F} {missing : MissingReason}
    {period : Nat} {readings : List (Reading F)}
    (h : emaReadings series closes missing period = .ok readings) :
    readings.map (·.name) = [series ++ ".ema_" ++ toString period,
      series ++ ".ema_" ++ toString period ++ "_slope"] := by
  obtain ⟨curve, -, h⟩ := bind_ok h
  obtain rfl := Except.ok.inj h
  rfl

variable [PyMath F]

theorem names_volatilityReadings {series : String} {bars : List Bar} {count : Nat}
    {missing : MissingReason} {readings : List (Reading F)}
    (h : volatilityReadings series bars count missing = .ok readings) :
    readings.map (·.name) = [series ++ ".realized_volatility", series ++ ".range_volatility",
      series ++ ".range_percentile"] := by
  obtain ⟨logReturns, -, h⟩ := bind_ok h
  obtain ⟨ranges, -, h⟩ := bind_ok h
  obtain rfl := Except.ok.inj h
  rfl

theorem names_seriesFeatures {series : String} {bars : List Bar} {version : FeatureSetVersion F}
    {missing : MissingReason} {readings : List (Reading F)}
    (h : seriesFeatures series bars version missing = .ok readings) :
    readings.map (·.name) ++ [series ++ ".opening_gap"] = seriesNames series := by
  obtain ⟨horizon, hhorizon, h⟩ := bind_ok h
  obtain ⟨averages, haverages, h⟩ := bind_ok h
  obtain ⟨volatility, hvolatility, h⟩ := bind_ok h
  obtain rfl := Except.ok.inj h
  have hreturns := names_of_mapM hhorizon fun _ _ => names_horizonReadings
  have hcurves := names_of_mapM haverages fun _ _ => names_emaReadings
  simp only [List.map_append, hreturns, hcurves, names_volatilityReadings hvolatility]
  simp only [seriesNames, vwapReadings, rangeReadings, swingReadings, List.map_cons, List.map_nil,
    List.append_assoc, List.cons_append, List.nil_append]

variable [Platform] {engine : CausalFeatureEngine F}

theorem names_priceReadings {name : String} {ref : Option InstrumentRef} {bars : List Bar}
    {opening endpoint now : Instant} {readings : List (Reading F)}
    (h : engine.priceReadings name ref bars opening endpoint now = .ok readings) :
    readings.map (·.name) = seriesNames name := by
  obtain ⟨features, hfeatures, h⟩ := bind_ok h
  obtain rfl := Except.ok.inj h
  rw [List.map_append, ← names_seriesFeatures hfeatures]
  rfl

omit [PyMath F] [Platform] in
theorem names_relativeReadings (result : Values F) :
    (relativeReadings result).map (·.name) = relativeNames := rfl

theorem names_pairReadings {left right : List Bar} {readings : List (Reading F)}
    (h : pairReadings engine.version left right = .ok readings) :
    readings.map (·.name) = ["pairs.log_left", "pairs.log_right", "pairs.log_covariance",
      "pairs.log_variance_right", "pairs.hedge_ratio", "pairs.spread", "pairs.spread_mean",
      "pairs.spread_std", "pairs.zscore", "pairs.log_correlation", "pairs.stationarity_pvalue",
      "pairs.half_life"] := by
  obtain ⟨a, -, h⟩ := bind_ok h
  obtain ⟨b, -, h⟩ := bind_ok h
  obtain ⟨cov, -, h⟩ := bind_ok h
  obtain ⟨var, -, h⟩ := bind_ok h
  obtain rfl := Except.ok.inj h
  rfl

/-- What `features` puts, stage by stage. -/
structure Stages (engine : CausalFeatureEngine F) (context : FeatureContext F) (bars : List Bar)
    (quotes : List Quote) (opening endpoint now : Instant) where
  stock : List (Reading F)
  market : List (Reading F)
  sector : List (Reading F)
  pairs : List (Reading F)
  stock_eq : engine.priceReadings "stock" (some context.entity) bars opening endpoint now = .ok stock
  market_eq : engine.priceReadings "market" context.nifty bars opening endpoint now = .ok market
  sector_eq : engine.priceReadings "sector" context.sector bars opening endpoint now = .ok sector
  pairs_eq : pairReadings engine.version (session F bars (some context.entity) opening endpoint now).1
    (session F bars context.pair opening endpoint now).1 = .ok pairs

variable {context : FeatureContext F} {bars : List Bar} {quotes : List Quote}
  {opening endpoint now : Instant}

namespace Stages

/-- All readings, in the order they are put. -/
def readings (stages : Stages engine context bars quotes opening endpoint now) :
    List (Reading F) :=
  stages.stock ++ stages.market ++ stages.sector ++
    (relativeReadings (Values.empty.putAll (stages.stock ++ stages.market ++ stages.sector)) ++
    breadthReadings "market" context.breadthMembers bars opening endpoint now ++
    breadthReadings "sector" context.sectorMembers bars opening endpoint now ++
    vixReadings (session F bars context.vix opening endpoint now).1
      (session F bars context.vix opening endpoint now).2 ++
    quoteReadings engine.version (relevantQuotes quotes context.entity now) now ++
    baselineReadings engine.version context (relevantQuotes quotes context.entity now).getLast?
      (session F bars (some context.entity) opening endpoint now).1
      (engine.priorSessions bars (some context.entity) opening now) now ++ stages.pairs)

theorem names_readings (stages : Stages engine context bars quotes opening endpoint now) :
    stages.readings.map (·.name) = featureNames := by
  simp only [readings, List.map_append, names_priceReadings stages.stock_eq,
    names_priceReadings stages.market_eq, names_priceReadings stages.sector_eq,
    names_relativeReadings, names_pairReadings stages.pairs_eq]
  simp only [featureNames, breadthNames, otherNames, breadthReadings, vixReadings, quoteReadings,
    baselineReadings, List.map_cons, List.map_nil, List.append_assoc, List.cons_append,
    List.nil_append]

end Stages

/-- The features of a snapshot are the readings of its stages. -/
theorem stages_of_features {result : Values F}
    (h : engine.features context bars quotes opening endpoint now = .ok result) :
    ∃ stages : Stages engine context bars quotes opening endpoint now,
      result = Values.empty.putAll stages.readings := by
  obtain ⟨stock, hstock, h⟩ := bind_ok h
  obtain ⟨market, hmarket, h⟩ := bind_ok h
  obtain ⟨sector, hsector, h⟩ := bind_ok h
  obtain ⟨pairs, hpairs, h⟩ := bind_ok h
  refine ⟨⟨stock, market, sector, pairs, hstock, hmarket, hsector, hpairs⟩, ?_⟩
  rw [Stages.readings, Values.putAll_append]
  exact (Except.ok.inj h).symm

/-- A value of a snapshot is the value of the reading with its name. -/
theorem value_of_features {result : Values F}
    {stages : Stages engine context bars quotes opening endpoint now}
    (h : result = Values.empty.putAll stages.readings) {reading : Reading F}
    (hmem : reading ∈ stages.readings) {value : F}
    (hvalue : result.value reading.name = some value) : reading.value = some value := by
  have hnodup : (stages.readings.map (·.name)).Nodup := by
    rw [stages.names_readings]
    exact nodup_featureNames
  rw [Values.value, h, Values.get?_putAll_of_mem hmem hnodup] at hvalue
  exact Reading.value_publish hvalue

end Godzilla.Features
