import Godzilla.Alphas.Ranking
import Godzilla.Core.Events.Models
import Godzilla.MarketData.Instruments
import Godzilla.Universe.Builder
import Mathlib.Data.Fin.VecNotation

/-!
# Cross-sectional momentum

`CrossSectionalMomentum.evaluate` (`alphas/cross_sectional_momentum.py`): the gates on the
cross-section, the ranks of the five returns, one score card for each member, and the cut
of the tail that the state permits. A `ValueError` while the inputs are read becomes a
reason; what raises behind that leaves the call.
-/

namespace Godzilla.Alphas
open Godzilla Misc Events Features MarketData MarketState Universe

/-- `int(x)` of a float. -/
class PyTruncate (F : Type) where
  truncate : F → Int

/-- The exact reading of `int(x)`: towards zero. -/
instance exactTruncate : PyTruncate ℚ where
  truncate x := if 0 ≤ x then ⌊x⌋ else ⌈x⌉

/-- `CrossSectionalMomentum` (`alphas/cross_sectional_momentum.py:102-104`). -/
structure CrossSectionalMomentum (F : Type) [PyFloat F] where
  settings : MomentumSettings F
  timezone : String := "Asia/Kolkata"

/-- The arguments of `evaluate` (`alphas/cross_sectional_momentum.py:106-113`). -/
structure MomentumCall (F : Type) [PyFloat F] [Platform] where
  observations : List (MomentumObservation F)
  universeSnapshot : UniverseSnapshot
  master : InstrumentMasterSnapshot
  state : StateDecision F
  now : Instant

/-- `MomentumResult` (`alphas/cross_sectional_momentum.py:33-41`). -/
structure MomentumResult (F : Type) [PyFloat F] [Platform] where
  timestamp : Instant
  scores : List (MomentumScore F) := []
  intents : List (SignalIntent F) := []
  reasons : List String := []
  crossSectionHash : Digest
  settings : MomentumSettings F
  codeCommit : String
  dataSnapshot : String

/-- `_CrossSection` (`alphas/cross_sectional_momentum.py:334-335`). -/
structure CrossSection (F : Type) where
  observations : List (MomentumObservation F)

/-- What `_confirmation` returns. -/
structure MomentumConfirmation (F : Type) where
  longOk : Bool
  shortOk : Bool
  liquid : Bool
  trendQuality : F
  quality : F

/-- What is read of one member: its row of returns and its confirmation. -/
structure MomentumReading (F : Type) where
  observation : MomentumObservation F
  returns : Fin 5 → F
  confirmation : MomentumConfirmation F

section Reading

variable {F : Type} [PyFloat F]

/-- `_number` (`alphas/cross_sectional_momentum.py:44-49`). -/
def number (observation : MomentumObservation F) (name : String) : Except PyError F :=
  match (observation.snapshot.lookup name).bind (·.value) with
  | none => .error (.valueError ("missing required feature: " ++ name))
  | some value => .ok value

/-- The row of returns, in the order of `RETURN_NAMES`. -/
def returnRow (stock30 stock60 stock120 sector market : F) : Fin 5 → F :=
  ![stock30, stock60, stock120, stock30 - sector, stock30 - market]

/-- `_returns` (`alphas/cross_sectional_momentum.py:52-61`). -/
def returns (item : MomentumObservation F) (cfg : MomentumSettings F) :
    Except PyError (Fin 5 → F) := do
  let stock30 ← number item "stock.return_30m"
  let stock60 ← number item "stock.return_60m"
  let stock120 ← number item "stock.return_120m"
  let sector ← number item "sector.return_30m"
  let market ← number item "market.return_30m"
  if min (min (min (min stock30 stock60) stock120) sector) market ≤ -1 then
    .error (.valueError "invalid price return")
  else if cfg.excludeRecent5m then do
    let recent ← number item "stock.return_5m"
    let stock30 ← withoutRecent stock30 recent
    let stock60 ← withoutRecent stock60 recent
    let stock120 ← withoutRecent stock120 recent
    let sectorRecent ← number item "sector.return_5m"
    let sector ← withoutRecent sector sectorRecent
    let marketRecent ← number item "market.return_5m"
    let market ← withoutRecent market marketRecent
    .ok (returnRow stock30 stock60 stock120 sector market)
  else .ok (returnRow stock30 stock60 stock120 sector market)

/-- The features whose signs confirm a trend. -/
def trendNames : List String :=
  ["stock.vwap_distance", "stock.ema_20_slope", "sector.vwap_distance"]

/-- What one sign adds to the trend quality. -/
def trendMark (value : F) : F :=
  if 0 < value then 1 else if value < 0 then 0 else PyFloat.ofDecimal (1 / 2)

/-- `valid`: the limits on liquidity (`alphas/cross_sectional_momentum.py:84-89`). -/
def withinLiquidity (cfg : MomentumSettings F) (spread age adv turnover : F) : Prop :=
  (0 ≤ spread ∧ spread ≤ cfg.maxSpreadBps) ∧ (0 ≤ age ∧ age ≤ cfg.maxQuoteAgeSeconds) ∧
    cfg.minAdv ≤ adv ∧ cfg.minDailyTurnover ≤ turnover

instance (cfg : MomentumSettings F) (spread age adv turnover : F) :
    Decidable (withinLiquidity cfg spread age adv turnover) :=
  inferInstanceAs (Decidable (_ ∧ _))

/-- `quality` of a valid quote (`alphas/cross_sectional_momentum.py:90-97`). -/
def quoteQuality (cfg : MomentumSettings F) (spread age : F) : F :=
  max 0 (min 1 (((1 - spread / cfg.maxSpreadBps) + (1 - age / cfg.maxQuoteAgeSeconds)) / 2))

/-- `_confirmation` (`alphas/cross_sectional_momentum.py:64-99`). -/
def confirmation (item : MomentumObservation F) (cfg : MomentumSettings F) :
    Except PyError (MomentumConfirmation F) := do
  let trend ← trendNames.mapM (number item)
  let spread ← number item "liquidity.spread_bps"
  let age ← number item "liquidity.quote_age"
  let adv ← number item "liquidity.adv"
  let turnover ← number item "liquidity.average_daily_turnover"
  let valid := decide (withinLiquidity cfg spread age adv turnover)
  .ok
    { longOk := trend.all fun v => decide (0 < v)
      shortOk := trend.all fun v => decide (v < 0)
      liquid := valid
      trendQuality := PyFloat.sum (trend.map trendMark) / PyFloat.ofInt trend.length
      quality := if valid then quoteQuality cfg spread age else 0 }

/-- `ranks` (`alphas/cross_sectional_momentum.py:192`): the percentiles of each column. -/
def rankColumns (rows : List (Fin 5 → F)) : Except PyError (List (List F)) :=
  (List.finRange 5).mapM fun i => percentiles (rows.map (· i))

end Reading

/-- `side` (`alphas/cross_sectional_momentum.py:251-257`). -/
def permittedSide {F : Type} [PyFloat F] [Platform] (state : StateDecision F) : Option Side :=
  if state.state = .trendUp ∧ .long ∈ state.directionalSides then some .long
  else if state.state = .trendDown ∧ .short ∈ state.directionalSides then some .short
  else none

variable {F : Type} [PyFloat F] [Platform]

namespace MomentumCall

variable (call : MomentumCall F)

/-- `selected` (`alphas/cross_sectional_momentum.py:116-121`): the observations of now, by
    their instrument. -/
def selected : List (MomentumObservation F) :=
  sortOn (·.snapshot.entity)
    (call.observations.filter fun o => decide (o.snapshot.timestamp = call.now))

/-- `digest`. -/
def digest : Digest := contentHash (CrossSection.mk call.selected)

/-- `instruments[token]`. -/
def instrument (token : String) : Except PyError Instrument :=
  match call.master.byToken.get? token with
  | none => .error (.keyError (Platform.reprStr token))
  | some instrument => .ok instrument

/-- Whether the universe or the master is of the future, of another day or of each other
    (`alphas/cross_sectional_momentum.py:137-143`). -/
def universeUnavailable (day : Date) : Prop :=
  call.now < call.universeSnapshot.generatedAt ∨ call.now < call.master.generatedAt ∨
  call.universeSnapshot.asOf ≠ day ∨ call.master.asOf ≠ day ∨
  call.universeSnapshot.instrumentSnapshotId ≠ call.master.snapshotId

/-- Whether the observations and the instruments are not one for each long token
    (`alphas/cross_sectional_momentum.py:148-157`). -/
def crossSectionAmbiguous (cfg : MomentumSettings F) : Prop :=
  call.universeSnapshot.longTokens.dedup.length < cfg.minimumUniverseSize ∨
  call.master.byToken.size ≠ call.master.instruments.length ∨
  ¬ call.universeSnapshot.longTokens.Nodup ∨
  ¬ (call.selected.map (·.snapshot.entity)).Nodup ∨
  ¬ (call.selected.map (·.snapshot.entity) ⊆ call.universeSnapshot.longTokens ∧
    call.universeSnapshot.longTokens ⊆ call.selected.map (·.snapshot.entity)) ∨
  ¬ call.universeSnapshot.longTokens ⊆ call.master.byToken.keys ∨
  ¬ call.universeSnapshot.shortTokens ⊆ call.universeSnapshot.longTokens ∨
  ¬ ((call.universeSnapshot.longTokens.filterMap call.master.byToken.get?).map (·.symbol)).Nodup

/-- Whether an observation's instrument, context or provenance is not what the call
    requires (`alphas/cross_sectional_momentum.py:161-187`). -/
def invalidProvenance (day : Date) (instrument : Instrument) (o : MomentumObservation F) : Prop :=
  ¬ instrument.Eligible day ∨
  o.context.entity.instrumentId ≠ o.snapshot.entity ∨
  o.context.sector = none ∨ o.context.nifty = none ∨
  o.context.universeVersion ≠ Platform.uuidStr call.universeSnapshot.snapshotId ∨
  call.now < o.context.knownAt ∨
  ¬ (o.context.validFrom ≤ call.now ∧ call.now < o.context.validTo) ∨
  contentHash o.context ≠ o.snapshot.contextHash ∨
  (o.snapshot.codeCommit, o.snapshot.configHash, o.snapshot.dataSnapshot,
      o.snapshot.featureSetHash) ≠
    (call.state.codeCommit, call.state.configHash, call.state.dataSnapshot,
      call.state.evidence.featureSetHash)

/-- `permitted` (`alphas/cross_sectional_momentum.py:246-250`). -/
def permitted : Prop :=
  call.state.timestamp = call.now ∧ 0 < call.state.grossRiskMultiplier ∧
    AlphaFamily.crossSectionalMomentum ∈ call.state.allowedAlphaFamilies

instance (day : Date) : Decidable (call.universeUnavailable day) :=
  inferInstanceAs (Decidable (_ ∨ _))
instance (cfg : MomentumSettings F) : Decidable (call.crossSectionAmbiguous cfg) :=
  inferInstanceAs (Decidable (_ ∨ _))
instance (day : Date) (instrument : Instrument) (o : MomentumObservation F) :
    Decidable (call.invalidProvenance day instrument o) :=
  inferInstanceAs (Decidable (_ ∨ _))
instance : Decidable call.permitted := inferInstanceAs (Decidable (_ ∧ _))

end MomentumCall

namespace CrossSectionalMomentum

variable (engine : CrossSectionalMomentum F) (call : MomentumCall F)

/-- `empty` (`alphas/cross_sectional_momentum.py:123-132`). -/
def emptyResult : MomentumResult F where
  timestamp := call.now
  crossSectionHash := call.digest
  settings := engine.settings
  codeCommit := call.state.codeCommit
  dataSnapshot := call.state.dataSnapshot

/-- `day`. -/
def day : Date := (Platform.zoneInfo engine.timezone).localDate call.now

/-- What is read of the cross-section, or why it is not valid
    (`alphas/cross_sectional_momentum.py:159-189`). -/
def readings : Except PyError (List (MomentumReading F)) := do
  call.selected.forM fun o => do
    let instrument ← call.instrument o.snapshot.entity
    if call.invalidProvenance (engine.day call) instrument o then
      .error (.valueError "invalid context/provenance")
    else .ok ()
  let rows ← call.selected.mapM (returns · engine.settings)
  let confirmations ← call.selected.mapM (confirmation · engine.settings)
  .ok ((call.selected.zip (rows.zip confirmations)).map fun (o, row, c) => ⟨o, row, c⟩)

/-- The component of one name (`alphas/cross_sectional_momentum.py:200-212`). -/
def component (name : String) (weight raw rank : F) : Except PyError (ScoreComponent F) :=
  ScoreComponent.validate name raw rank weight (weight * rank)
    (weight * if name = "liquidity_quality" then rank else 1 - rank)

/-- `components` (`alphas/cross_sectional_momentum.py:197-213`): the weights are named as
    `RETURN_NAMES` and the two qualities are, in that order. -/
def components (ranks : List (List F)) (index : Nat) (reading : MomentumReading F) :
    Except PyError (List (ScoreComponent F)) :=
  let qualities := [reading.confirmation.trendQuality, reading.confirmation.quality]
  let raw := List.ofFn reading.returns ++ qualities
  let ranked := ranks.filterMap (·[index]?) ++ qualities
  (engine.settings.weights.named.zip (raw.zip ranked)).mapM fun ((name, weight), value, p) =>
    component name weight value p

/-- `strength` (`alphas/cross_sectional_momentum.py:216-218`). -/
def strength (components : List (ScoreComponent F)) : F :=
  PyFloat.sum ((components.filter (·.name ≠ "liquidity_quality")).map (·.longContribution)) /
    (1 - engine.settings.weights.liquidityQuality)

/-- The reasons on a card (`alphas/cross_sectional_momentum.py:233-237`). -/
def cardReasons (confirmed : MomentumConfirmation F) : List String :=
  [ if confirmed.longOk then "LONG_TREND_CONFIRMED" else "LONG_TREND_REJECTED",
    if confirmed.shortOk then "SHORT_TREND_CONFIRMED" else "SHORT_TREND_REJECTED",
    if confirmed.liquid then "LIQUIDITY_CONFIRMED" else "LIQUIDITY_REJECTED" ]

/-- One of the `cards` (`alphas/cross_sectional_momentum.py:195-240`). -/
def card (ranks : List (List F)) (index : Nat) (reading : MomentumReading F) :
    Except PyError (MomentumScore F) := do
  let token := reading.observation.snapshot.entity
  let components ← engine.components ranks index reading
  let strength := min 1 (max 0 (engine.strength components))
  let longScore := min 1 (PyFloat.sum (components.map (·.longContribution)))
  let shortScore := min 1 (PyFloat.sum (components.map (·.shortContribution)))
  let instrument ← call.instrument token
  if h : (0 ≤ strength ∧ strength ≤ 1) ∧ (0 ≤ longScore ∧ longScore ≤ 1) ∧
      (0 ≤ shortScore ∧ shortScore ≤ 1) then
    .ok
      { instrumentId := token
        symbol := instrument.symbol
        sector := instrument.sector
        strength := strength
        percentile := PyFloat.ofDecimal (1 / 2)
        longScore := longScore
        shortScore := shortScore
        components := components
        longConfirmed := reading.confirmation.longOk
        shortConfirmed := reading.confirmation.shortOk
        liquidityConfirmed := reading.confirmation.liquid
        reasons := cardReasons reading.confirmation
        featureHash := reading.observation.snapshot.snapshotHash
        strength_range := h.1
        longScore_range := h.2.1
        shortScore_range := h.2.2 }
  else .error (invalid "MomentumScore" "score out of range")

/-- `scores` (`alphas/cross_sectional_momentum.py:192-245`): the cards, each with the
    percentile of its strength. -/
def scores (readings : List (MomentumReading F)) : Except PyError (List (MomentumScore F)) := do
  let ranks ← rankColumns (readings.map (·.returns))
  let cards ← readings.zipIdx.mapM fun (reading, index) => engine.card call ranks index reading
  let strengths ← percentiles (cards.map (·.strength))
  .ok ((cards.zip strengths).map fun (card, p) => { card with percentile := p })

/-- `fraction` (`alphas/cross_sectional_momentum.py:262`). -/
def fraction : Side → F
  | .long => engine.settings.longTailFraction
  | .short => engine.settings.shortTailFraction

/-- Whether a card is in the tail of a side (`alphas/cross_sectional_momentum.py:266`). -/
def inTail (side : Side) (card : MomentumScore F) : Prop :=
  match side with
  | .long => 1 - engine.fraction .long ≤ card.percentile
  | .short => card.percentile ≤ engine.fraction .short

instance (side : Side) (card : MomentumScore F) : Decidable (engine.inTail side card) :=
  match side with
  | .long => inferInstanceAs (Decidable (_ ≤ _))
  | .short => inferInstanceAs (Decidable (_ ≤ _))

/-- `cap` of `count` scores (`alphas/cross_sectional_momentum.py:268`). -/
def cap [PyTruncate F] (side : Side) (count : Nat) : Nat :=
  min engine.settings.maxCandidatesPerSide
    (PyTruncate.truncate (PyFloat.ofInt count * engine.fraction side)).toNat

/-- The sort key of the tail (`alphas/cross_sectional_momentum.py:270`). -/
def orderKey (side : Side) (card : MomentumScore F) : F ×ₗ String :=
  toLex (match side with | .long => -card.strength | .short => card.strength, card.instrumentId)

/-- The first `cap` of the ordered cards, less the tie group that the cap would split
    (`alphas/cross_sectional_momentum.py:272-277`). -/
def capped (cap : Nat) (ordered : List (MomentumScore F)) : List (MomentumScore F) :=
  match ordered[cap - 1]?, ordered[cap]? with
  | some last, some next =>
    if 0 < cap ∧ last.strength = next.strength then
      (ordered.take cap).filter fun s => decide (s.strength ≠ next.strength)
    else ordered.take cap
  | _, _ => ordered.take cap

/-- Whether an ordered card becomes an intent (`alphas/cross_sectional_momentum.py:280-288`). -/
def emits (side : Side) (card : MomentumScore F) : Except PyError Bool :=
  let trend := match side with | .long => card.longConfirmed | .short => card.shortConfirmed
  if card.liquidityConfirmed = false ∨ trend = false then .ok false
  else if side = .short then
    if card.instrumentId ∉ call.universeSnapshot.shortTokens then .ok false
    else do
      let instrument ← call.instrument card.instrumentId
      .ok instrument.foEligible
  else .ok true

/-- The intent of a card (`alphas/cross_sectional_momentum.py:289-321`). -/
def intent (side : Side) (card : MomentumScore F) : Except PyError (SignalIntent F) := do
  let evidence ← MomentumSignalEvidence.validate
    { timestamp := call.now
      side := side
      score := card.sideScore side
      ranked := card
      settings := engine.settings
      alphaVersionHash := engine.settings.versionHash
      universeHash := contentHash call.universeSnapshot
      instrumentMasterHash := contentHash call.master
      crossSectionHash := call.digest
      stateHash := call.state.decisionHash
      codeCommit := call.state.codeCommit
      configHash := call.state.configHash
      dataSnapshot := call.state.dataSnapshot
      featureSetHash := call.state.evidence.featureSetHash }
  SignalIntent.validate
    { signalId := Platform.uuid5 ("godzilla:" ++ momentumAlphaId ++ ":" ++
        Platform.isoformat call.now ++ ":" ++ card.instrumentId)
      instrumentId := card.instrumentId
      alphaId := momentumAlphaId
      side := side
      score := some evidence.score
      reasons := card.reasons ++
        [ match side with | .long => "TOP_TAIL" | .short => "BOTTOM_TAIL",
          if engine.settings.excludeRecent5m then "MICRO_WINDOW_EXCLUDED" else "FULL_WINDOW" ]
      evidence := some (.momentum evidence) }

/-- The loop over the ordered cards (`alphas/cross_sectional_momentum.py:278-321`). -/
def intents (side : Side) : List (MomentumScore F) → Except PyError (List (SignalIntent F))
  | [] => .ok []
  | card :: rest => do
    let passes ← emits call side card
    if passes then
      let first ← engine.intent call side card
      let others ← intents side rest
      .ok (first :: others)
    else intents side rest

variable [PyTruncate F]

/-- `ordered` (`alphas/cross_sectional_momentum.py:262-277`): what a side may take. -/
def ordered (side : Side) (scores : List (MomentumScore F)) : List (MomentumScore F) :=
  capped (engine.cap side scores.length)
    (sortOn (orderKey side) (scores.filter fun s => decide (engine.inTail side s)))

/-- The ranking and the selection (`alphas/cross_sectional_momentum.py:192-331`). -/
def rank (readings : List (MomentumReading F)) : Except PyError (MomentumResult F) := do
  let scores ← engine.scores call readings
  let empty := { engine.emptyResult call with scores := scores }
  match permittedSide call.state with
  | none => .ok { empty with reasons := ["STATE_PERMISSION_DENIED"] }
  | some side =>
    if ¬ call.permitted then .ok { empty with reasons := ["STATE_PERMISSION_DENIED"] }
    else do
      let intents ← engine.intents call side (engine.ordered side scores)
      .ok { empty with intents := intents, reasons := ["RANKING_COMPLETE"] }

/-- `CrossSectionalMomentum.evaluate` (`alphas/cross_sectional_momentum.py:106-331`). -/
def evaluate : Except PyError (MomentumResult F) :=
  let empty := engine.emptyResult call
  if engine.settings.enabled = false then .ok { empty with reasons := ["ALPHA_DISABLED"] }
  else if call.universeUnavailable (engine.day call) then
    .ok { empty with reasons := ["UNIVERSE_UNAVAILABLE"] }
  else if call.crossSectionAmbiguous engine.settings then
    .ok { empty with reasons := ["INCOMPLETE_OR_AMBIGUOUS_CROSS_SECTION"] }
  else
    match engine.readings call with
    | .error e =>
      if e.isValueError then
        .ok { empty with reasons := ["INVALID_OR_MISSING_INPUT", e.text] }
      else .error e
    | .ok readings => engine.rank call readings

end CrossSectionalMomentum

end Godzilla.Alphas
