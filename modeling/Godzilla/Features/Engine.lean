import Godzilla.Core.Events.Serialization
import Godzilla.Features.Series
import Godzilla.Features.Session

/-!
# The feature engine

`CausalFeatureEngine` (`features/engine.py`): events are kept by id, and a snapshot reads
the bars and quotes of its context received by its time. The values of a snapshot are put
in the order of the code, and every stage puts the same names whatever it reads.
-/

namespace Godzilla.Features
open Godzilla MarketData Misc Events

variable {F : Type} [PyFloat F] [PyMath F] [Platform]

/-- `CausalFeatureEngine` (`features/engine.py:28-42`). -/
structure CausalFeatureEngine (F : Type) [PyFloat F] [Platform] where
  calendar : ExchangeCalendar
  timezone : String
  version : FeatureSetVersion F
  provenance : Provenance
  /-- `_events`. -/
  events : Dict Uuid (EventEnvelope F) := .empty

/-- `refs` (`features/engine.py:55-58`). -/
def FeatureContext.refs (context : FeatureContext F) : List InstrumentRef :=
  [context.entity] ++ context.breadthMembers ++ context.sectorMembers ++
    [context.nifty, context.sector, context.vix, context.pair].reduceOption

/-- The bar of a bar event. -/
def barOf (event : EventEnvelope F) : Option Bar :=
  match event.payload with
  | .barClose bar => some bar
  | _ => none

/-- The quote of a quote event. -/
def quoteOf (event : EventEnvelope F) : Option Quote :=
  match event.payload with
  | .quoteUpdate quote => some quote
  | _ => none

/-- The instrument of an observation. A bar of another interval is not observed
    (`features/engine.py:63-80`). -/
def observedRef (event : EventEnvelope F) : Option InstrumentRef :=
  match event.payload with
  | .barClose bar =>
    if bar.intervalMinutes ≠ 5 then none else some ⟨bar.instrumentId, bar.source⟩
  | .quoteUpdate quote => some ⟨quote.instrumentId, quote.source⟩
  | _ => none

/-- Whether a snapshot reads an event (`features/engine.py:60-81`). -/
def selectsEvent (context : FeatureContext F) (now : Instant) (event : EventEnvelope F) : Bool :=
  decide (event.receivedAt ≤ now) && (observedRef event).any fun ref => context.refs.contains ref

/-- The return over the last bar of a series. -/
def lastReturn (series : List Bar) : Option F :=
  match series.reverse with
  | last :: before :: _ => some (PyFloat.ofDecimal (last.close / before.close - 1))
  | _ => none

/-- `_relative` (`features/engine.py:205-219`). -/
def relativeReadings (result : Values F) : List (Reading F) :=
  horizons.flatMap fun horizon =>
    [("stock", "market"), ("stock", "sector"), ("sector", "market")].map
      fun (target, benchmark) =>
        let measure := ".return_" ++ toString horizon ++ "m"
        let difference := match result.value (target ++ measure),
            result.value (benchmark ++ measure) with
          | some left, some right => some (left - right)
          | _, _ => none
        ⟨target ++ ".relative_" ++ benchmark ++ "_" ++ toString horizon ++ "m", difference,
          .missingInput⟩

/-- `_breadth` (`features/engine.py:221-251`). -/
def breadthReadings (group : String) (members : List InstrumentRef) (bars : List Bar)
    (opening endpoint now : Instant) : List (Reading F) :=
  let returns : List F := members.filterMap fun ref =>
    lastReturn (session F bars (some ref) opening endpoint now).1
  let complete := members ≠ [] ∧ returns.length = members.length
  let share (p : F → Bool) : Option F :=
    if complete then some (PyFloat.ofInt (returns.countP p) / PyFloat.ofInt returns.length)
    else none
  [⟨group ++ ".breadth_coverage",
      if members = [] then none
      else some (PyFloat.ofInt returns.length / PyFloat.ofInt members.length), .missingInput⟩,
    ⟨group ++ ".breadth_advancing", share fun value => 0 < value, .missingInput⟩,
    ⟨group ++ ".breadth_declining", share fun value => value < 0, .missingInput⟩]

/-- The level and the change of the volatility index (`features/engine.py:113-119`). -/
def vixReadings (series : List Bar) (reason : MissingReason) : List (Reading F) :=
  [⟨"market.vix_level", series.getLast?.map fun bar => PyFloat.ofDecimal bar.close, reason⟩,
    ⟨"market.vix_change", lastReturn series, reason⟩]

section Quotes

/-- The quotes of the entity received by now, the latest last (`features/engine.py:263-272`). -/
def relevantQuotes (quotes : List Quote) (entity : InstrumentRef) (now : Instant) : List Quote :=
  sortOn (fun quote => toLex (quote.receivedAt, quote.timestamp)) (quotes.filter fun quote =>
    quote.instrumentId = entity.instrumentId ∧ quote.source = entity.source ∧
      quote.receivedAt ≤ now)

/-- `(at - quote.timestamp).total_seconds()`. -/
def quoteAge (now : Instant) (quote : Quote) : F := PyFloat.seconds (now - quote.timestamp)

/-- The spread of a quote in basis points of its middle. -/
def spreadBps (quote : Quote) : F :=
  PyFloat.ofDecimal ((quote.ask - quote.bid) / ((quote.ask + quote.bid) / 2) * 10000)

/-- `valid` (`features/engine.py:275-281`). -/
def validQuote (quote : Quote) : Bool :=
  decide (quote.qualityFlags = ∅ ∧ 0 < min (min quote.bid quote.ask) quote.last ∧
    quote.bid ≤ quote.ask ∧ quote.timestamp ≤ quote.receivedAt)

/-- `fresh` (`features/engine.py:282`). -/
def freshQuote (version : FeatureSetVersion F) (now : Instant) (quote : Quote) : Bool :=
  validQuote quote && decide ((0 : F) ≤ quoteAge now quote ∧
    quoteAge now quote ≤ version.quoteStaleSeconds)

/-- Whether a quote counts for the median spread (`features/engine.py:291-299`). -/
def spreadQuote (version : FeatureSetVersion F) (now : Instant) (quote : Quote) : Bool :=
  decide (quote.qualityFlags = ∅ ∧ (0 : F) ≤ quoteAge now quote ∧
    quoteAge now quote ≤ version.spreadWindowSeconds ∧ quote.timestamp ≤ quote.receivedAt ∧
    0 < quote.bid ∧ quote.bid ≤ quote.ask ∧ 0 < quote.last)

/-- `statistics.median`. -/
def median (values : List F) : Option F :=
  let ordered := sortOn id values
  let middle := ordered.length / 2
  if ordered.length % 2 = 1 then ordered[middle]?
  else match ordered[middle - 1]?, ordered[middle]? with
    | some low, some high => some ((low + high) / 2)
    | _, _ => none

/-- The age and the spreads of the quotes (`features/engine.py:273-305`). -/
def quoteReadings (version : FeatureSetVersion F) (relevant : List Quote) (now : Instant) :
    List (Reading F) :=
  let quote := relevant.getLast?
  let fresh := quote.any (freshQuote version now)
  let spreads : List F := (relevant.filter (spreadQuote version now)).map spreadBps
  [⟨"liquidity.quote_age", quote.map (quoteAge now), .missingInput⟩,
    ⟨"liquidity.spread_bps", if fresh then quote.map spreadBps else none,
      if quote.any validQuote then .stale else .invalidInput⟩,
    ⟨"liquidity.median_spread_bps", if fresh then median spreads else none, .stale⟩]

end Quotes

/-- The volume of a bar at its typical price. -/
def barTurnover (bar : Bar) : F := typical bar * PyFloat.ofDecimal bar.volume

/-- `x / y` where `y` is a number and not zero. -/
def ratioTo (x : F) (y : Option F) : Option F :=
  match y with
  | some divisor => if divisor = 0 then none else some (x / divisor)
  | none => none

/-- `float(bar.volume)`. -/
def barVolume (bar : Bar) : F := PyFloat.ofDecimal bar.volume

/-- `ready` (`features/engine.py:308`): as many sessions as the baseline has, all complete. -/
def baselineReady (version : FeatureSetVersion F) (sessions : List (List Bar)) : Prop :=
  sessions.length = version.baselineSessions ∧ ∀ session ∈ sessions, session ≠ []

instance (version : FeatureSetVersion F) (sessions : List (List Bar)) :
    Decidable (baselineReady version sessions) := inferInstanceAs (Decidable (_ ∧ _))

/-- The mean over the sessions of what their bars amount to (`features/engine.py:309-318`). -/
def dailyMean (version : FeatureSetVersion F) (sessions : List (List Bar)) (amount : Bar → F) :
    Option F :=
  if baselineReady version sessions then
    some (PyFloat.fmean (sessions.map fun session => PyFloat.sum (session.map amount)))
  else none

/-- The bars of the sessions in the slot of the latest bar (`features/engine.py:333-334`). -/
def slotBars (sessions : List (List Bar)) (current : List Bar) : List Bar :=
  if current = [] then [] else sessions.filterMap fun session => session[current.length - 1]?

/-- The mean over the sessions in that slot (`features/engine.py:335-337`). -/
def slotMean (version : FeatureSetVersion F) (sessions : List (List Bar)) (current : List Bar)
    (amount : Bar → F) : Option F :=
  if baselineReady version sessions ∧
      (slotBars sessions current).length = sessions.length ∧ current ≠ [] then
    some (PyFloat.fmean ((slotBars sessions current).map amount))
  else none

/-- The volume of past sessions and the latest bar next to it (`features/engine.py:306-347`). -/
def baselineReadings (version : FeatureSetVersion F) (context : FeatureContext F)
    (quote : Option Quote) (current : List Bar) (prior : List (List Bar)) (now : Instant) :
    List (Reading F) :=
  let sessions := lastN version.baselineSessions prior
  let adv : Option F := dailyMean version sessions barVolume
  let turnover : Option F := dailyMean version sessions barTurnover
  [⟨"liquidity.adv", adv, .warmup⟩,
    ⟨"liquidity.average_daily_turnover", turnover, .warmup⟩,
    ⟨"liquidity.adv_participation",
      context.proposedQuantity.bind fun quantity => ratioTo quantity adv, .missingInput⟩,
    ⟨"liquidity.turnover_participation",
      match context.proposedQuantity, quote with
      | some quantity, some quote =>
        if freshQuote version now quote then
          ratioTo (quantity * PyFloat.ofDecimal ((quote.bid + quote.ask) / 2)) turnover
        else none
      | _, _ => none, .missingInput⟩,
    ⟨"stock.relative_volume", current.getLast?.bind fun last =>
      ratioTo (barVolume last) (slotMean version sessions current barVolume), .warmup⟩,
    ⟨"stock.relative_turnover", current.getLast?.bind fun last =>
      ratioTo (barTurnover last) (slotMean version sessions current barTurnover), .warmup⟩]

/-- `_pairs` (`features/engine.py:349-389`). -/
def pairReadings (version : FeatureSetVersion F) (left right : List Bar) :
    Except PyError (List (Reading F)) := do
  let n := version.statisticsBars
  let ready := n + 1 ≤ left.length ∧ n + 1 ≤ right.length
  let a ← (lastN (n + 1) left).mapM fun bar => logOf (PyFloat.ofDecimal bar.close : F)
  let b ← (lastN (n + 1) right).mapM fun bar => logOf (PyFloat.ofDecimal bar.close : F)
  let cov ← (if ready then some <$> covariance a.dropLast b.dropLast else .ok none)
  let var ← (if ready then some <$> covariance b.dropLast b.dropLast else .ok none)
  let beta := cov.bind fun cov => ratioTo cov var
  let spreads := match beta with
    | some beta => (a.dropLast.zip b.dropLast).map fun p => p.1 - beta * p.2
    | none => []
  let mean := if spreads = [] then none else some (PyFloat.fmean spreads)
  let std := if spreads = [] then none else some (populationStd spreads)
  let spread := match beta, a.getLast?, b.getLast? with
    | some beta, some left, some right => some (left - beta * right)
    | _, _, _ => none
  let zscore := match spread, mean, std with
    | some spread, some mean, some std =>
      if std ≠ 0 ∧ PyFloat.ofDecimal (1 / 10 ^ 12) < std then some ((spread - mean) / std) else none
    | _, _, _ => none
  let denominator := if ready then some (populationStd a.dropLast * populationStd b.dropLast)
    else none
  let reason := if ready then .zeroDenominator else .warmup
  .ok [⟨"pairs.log_left", a.getLast?, .warmup⟩, ⟨"pairs.log_right", b.getLast?, .warmup⟩,
    ⟨"pairs.log_covariance", cov, .warmup⟩, ⟨"pairs.log_variance_right", var, .warmup⟩,
    ⟨"pairs.hedge_ratio", beta, reason⟩, ⟨"pairs.spread", spread, .warmup⟩,
    ⟨"pairs.spread_mean", mean, .warmup⟩, ⟨"pairs.spread_std", std, .warmup⟩,
    ⟨"pairs.zscore", zscore, reason⟩,
    ⟨"pairs.log_correlation", cov.bind fun cov => ratioTo cov denominator, .warmup⟩,
    ⟨"pairs.stationarity_pvalue", none, .notImplemented⟩,
    ⟨"pairs.half_life", none, .notImplemented⟩]

namespace CausalFeatureEngine

variable (engine : CausalFeatureEngine F)

/-- The events that a snapshot reads, in the order of their receipt
    (`features/engine.py:59-82`). -/
def selectEvents (context : FeatureContext F) (now : Instant) : List (EventEnvelope F) :=
  sortOn (fun event => toLex (event.receivedAt, event.eventId))
    (engine.events.values.filter (selectsEvent context now))

/-- A complete series of a past session, or nothing (`features/engine.py:198-200`). -/
def pastSession (bars : List Bar) (ref : InstrumentRef) (start stop now : Instant) : List Bar :=
  let series := (session F bars (some ref) start stop now).1
  if series.getLast?.any fun bar => bar.stop = stop then series else []

/-- The loop of `_prior_sessions` over the days before `day` (`features/engine.py:188-202`). -/
def priorLoop (bars : List Bar) (ref : InstrumentRef) (now : Instant) :
    Nat → Instant → List (List Bar) → List (List Bar)
  | 0, _, sessions => sessions
  | days + 1, day, sessions =>
    match sessionBounds engine.calendar (day - daysOf 1) engine.timezone with
    | .error _ => sessions
    | .ok none => priorLoop bars ref now days (day - daysOf 1) sessions
    | .ok (some (start, stop)) =>
      let found := sessions ++ [pastSession (F := F) bars ref start stop now]
      if found.length = engine.version.baselineSessions then found
      else priorLoop bars ref now days (day - daysOf 1) found

/-- `_prior_sessions` (`features/engine.py:182-203`), the newest last. -/
def priorSessions (bars : List Bar) (ref : Option InstrumentRef) (opening now : Instant) :
    List (List Bar) :=
  match ref with
  | none => []
  | some ref => (engine.priorLoop bars ref now 366 opening []).reverse

/-- The gap between the first open of a series and the last close before it
    (`features/engine.py:103-108`). -/
def openingGap (series : List Bar) (prior : List (List Bar)) : Option F :=
  match series.head?, prior.getLast?.bind (·.getLast?) with
  | some first, some last =>
    if last.close = 0 then none else some (PyFloat.ofDecimal (first.openPrice / last.close - 1))
  | _, _ => none

/-- The features of one of the price series (`features/engine.py:95-109`). -/
def priceReadings (name : String) (ref : Option InstrumentRef) (bars : List Bar)
    (opening endpoint now : Instant) : Except PyError (List (Reading F)) := do
  let series := session F bars ref opening endpoint now
  let features ← seriesFeatures name series.1 engine.version series.2
  .ok (features ++ [⟨name ++ ".opening_gap",
    openingGap series.1 (engine.priorSessions bars ref opening now), .missingInput⟩])

/-- The values of a snapshot (`features/engine.py:93-122`). -/
def features (context : FeatureContext F) (bars : List Bar) (quotes : List Quote)
    (opening endpoint now : Instant) : Except PyError (Values F) := do
  let stock ← engine.priceReadings "stock" (some context.entity) bars opening endpoint now
  let market ← engine.priceReadings "market" context.nifty bars opening endpoint now
  let sector ← engine.priceReadings "sector" context.sector bars opening endpoint now
  let priced := Values.empty.putAll (stock ++ market ++ sector)
  let own := (session F bars (some context.entity) opening endpoint now).1
  let vix := session F bars context.vix opening endpoint now
  let relevant := relevantQuotes quotes context.entity now
  let prior := engine.priorSessions bars (some context.entity) opening now
  let pairs ← pairReadings engine.version own (session F bars context.pair opening endpoint now).1
  .ok (priced.putAll (relativeReadings priced ++
    breadthReadings "market" context.breadthMembers bars opening endpoint now ++
    breadthReadings "sector" context.sectorMembers bars opening endpoint now ++
    vixReadings vix.1 vix.2 ++ quoteReadings engine.version relevant now ++
    baselineReadings engine.version context relevant.getLast? own prior now ++ pairs))

/-- The last whole five minutes of the session by now (`features/engine.py:89-92`). -/
def endpointOf (opening closing now : Instant) : Instant :=
  min closing (opening + minutesOf (5 * max 0 ((now - opening) / secondsOf 300)))

/-- `input_hash` (`features/engine.py:123-124`). -/
def inputHash (selected : List (EventEnvelope F)) : Digest :=
  Platform.sha256 (.arr (selected.map fun event => .str (eventHash event)))

/-- `CausalFeatureEngine.snapshot` (`features/engine.py:51-135`). -/
def snapshot (context : FeatureContext F) (now : Instant) :
    Except PyError (FeatureSnapshot F) :=
  if now < context.knownAt ∨ ¬ (context.validFrom ≤ now ∧ now < context.validTo) then
    .error (.valueError "feature context unavailable or outside effective window")
  else
    let selected := engine.selectEvents context now
    match sessionBounds engine.calendar now engine.timezone with
    | .error message => .error (.calendarCoverage message)
    | .ok none => .error (.valueError "no confirmed session for feature snapshot")
    | .ok (some (opening, closing)) => do
      let result ← engine.features context (selected.filterMap barOf) (selected.filterMap quoteOf)
        opening (endpointOf opening closing now) now
      .ok
        { entity := context.entity.instrumentId
          timestamp := now
          featureSetHash := engine.version.versionHash
          contextHash := contentHash context
          inputHash := inputHash selected
          codeCommit := engine.provenance.codeCommit
          configHash := engine.provenance.configHash
          dataSnapshot := engine.provenance.dataSnapshot
          values := result.sorted
          ordered_unique := result.sorted_pairwise }

end CausalFeatureEngine

end Godzilla.Features
