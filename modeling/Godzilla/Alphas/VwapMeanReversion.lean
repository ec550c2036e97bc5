import Godzilla.Alphas.BreakoutScoring
import Godzilla.Config.Modes
import Godzilla.Core.Events.Models
import Godzilla.Features.Reversion
import Godzilla.MarketData.Instruments
import Godzilla.Universe.Generation

/-!
# VWAP mean reversion

`VwapMeanReversion.evaluate` (`alphas/vwap_mean_reversion.py`): the gates on the call, the
features of the session, the gates on what they say, and the intent. A gate that closes is a
result with its reason; a date that a `datetime` cannot hold leaves the call as an
`OverflowError`. `sign * x` is `signed side x`.
-/

namespace Godzilla.Features.ReversionFeatures
open Godzilla Alphas MarketState

variable {F : Type} [PyFloat F] (features : ReversionFeatures F) (cfg : VwapSettings F)

/-- `side`. -/
def side : Side := if features.stretch < 0 then .long else .short

/-- `impulse`: the earlier of two moves against the side. -/
def impulseAgainst : F := -signed features.side features.impulse

/-- `slower`: the later one. -/
def slowerAgainst : F := -signed features.side features.deceleratedImpulse

/-- `location`. -/
def sideLocation : F :=
  match features.side with
  | .long => features.closeLocation
  | .short => 1 - features.closeLocation

/-- `adverse`. -/
def adverseReference : F :=
  features.price - signed features.side cfg.adverseScale * features.volatilityScale

/-- `convergence_price`. -/
def convergencePrice : F :=
  features.price + cfg.convergenceFraction * (features.sessionVwap - features.price)

/-- `score`. -/
def stretchScore : F := min 1 (PyFloat.abs features.stretch / cfg.maxStretch)

/-- Whether the stretch is one to trade (`alphas/vwap_mean_reversion.py:146`). -/
def Stretched : Prop :=
  cfg.minStretch ≤ PyFloat.abs features.stretch ∧ PyFloat.abs features.stretch < cfg.maxStretch

/-- Whether the impulse slows down (`alphas/vwap_mean_reversion.py:154-156`). -/
def Decelerating : Prop :=
  cfg.minImpulse ≤ features.impulseAgainst ∧ 0 ≤ features.slowerAgainst ∧
    features.slowerAgainst ≤ cfg.maxDecelerationRatio * features.impulseAgainst

/-- Whether the last bar does not confirm the turn (`alphas/vwap_mean_reversion.py:157-163`). -/
def Unconfirmed : Prop :=
  signed features.side features.reversal < cfg.minReversal ∨
    signed features.side features.body < cfg.minBody ∨
    features.sideLocation < cfg.minCloseLocation

instance : Decidable (features.Stretched cfg) := inferInstanceAs (Decidable (_ ∧ _))
instance : Decidable (features.Decelerating cfg) := inferInstanceAs (Decidable (_ ∧ _))
instance : Decidable (features.Unconfirmed cfg) := inferInstanceAs (Decidable (_ ∨ _))

end Godzilla.Features.ReversionFeatures

namespace Godzilla.Alphas
open Godzilla Misc Events Features MarketData MarketState Universe

/-- `VwapMeanReversion` (`alphas/vwap_mean_reversion.py:38-42`). -/
structure VwapMeanReversion (F : Type) [PyFloat F] where
  settings : VwapSettings F
  calendar : ExchangeCalendar
  timezone : String := "Asia/Kolkata"

/-- The arguments of `evaluate` (`alphas/vwap_mean_reversion.py:44-53`). -/
structure VwapCall (F : Type) [PyFloat F] [Platform] where
  bars : List Bar
  liquidity : VwapLiquidity F
  universeSnapshot : UniverseSnapshot
  master : InstrumentMasterSnapshot
  state : StateDecision F
  now : Instant
  mode : TradingMode
  generatedAware : GeneratedAware := {}

/-- `VwapResult` (`alphas/vwap_mean_reversion.py:30-35`). -/
structure VwapResult (F : Type) [PyFloat F] [Platform] where
  timestamp : Instant
  intent : Option (SignalIntent F) := none
  reasons : List String

variable {F : Type} [PyFloat F] [Platform]

namespace VwapCall

variable (call : VwapCall F)

/-- `reject`. -/
def reject (reason : String) : VwapResult F := { timestamp := call.now, reasons := [reason] }

/-- Whether health or risk forbids entries (`alphas/vwap_mean_reversion.py:63-75`). -/
def healthVeto : Prop :=
  call.state.timestamp ≠ call.now ∨ call.state.grossRiskMultiplier ≤ 0 ∨
  call.state.state = .riskOff ∨ call.state.state = .openShock ∨
  call.state.evidence.health.blocksNewEntries = true ∨
  call.state.evidence.health.systemStatus ≠ .healthy ∨
  call.state.evidence.health.riskStatus ≠ .healthy ∨
  ¬ ((0 : F) ≤ PyFloat.seconds (call.now - call.state.evidence.health.observedAt) ∧
    PyFloat.seconds (call.now - call.state.evidence.health.observedAt) ≤
      (PyFloat.ofInt call.state.settings.healthMaxAgeSeconds : F))

/-- `override`. -/
def overrides (cfg : VwapSettings F) : Bool :=
  cfg.researchRegimeOverride && (call.mode = .research || call.mode = .backtest)

/-- Whether the regime is closed to the alpha (`alphas/vwap_mean_reversion.py:80-84`). -/
def regimeDenied (cfg : VwapSettings F) : Prop :=
  call.overrides cfg = false ∧
    (call.state.state ≠ .chop ∨ AlphaFamily.vwapMeanReversion ∉ call.state.allowedAlphaFamilies)

/-- `universe.generated_at > at or master.generated_at > at`, behind the comparison of the days:
    a time without a zone cannot be compared (`alphas/vwap_mean_reversion.py:114-117`). -/
def compareGeneration (day : Date) : Except PyError Unit :=
  let incomparable := PyError.typeError "can't compare offset-naive and offset-aware datetimes"
  if call.universeSnapshot.asOf ≠ day ∨ call.master.asOf ≠ day then .ok ()
  else if call.generatedAware.universeSnapshot = false then .error incomparable
  else if call.now < call.universeSnapshot.generatedAt then .ok ()
  else if call.generatedAware.master = false then .error incomparable
  else .ok ()

/-- Whether the universe and the master are not those of today, or the instrument is not one
    to trade (`alphas/vwap_mean_reversion.py:113-129`). -/
def ineligible (day : Date) (instrument : Instrument) : Prop :=
  call.universeSnapshot.asOf ≠ day ∨ call.master.asOf ≠ day ∨
  call.now < call.universeSnapshot.generatedAt ∨ call.now < call.master.generatedAt ∨
  call.universeSnapshot.instrumentSnapshotId ≠ call.master.snapshotId ∨
  call.master.byToken.size ≠ call.master.instruments.length ∨
  ¬ call.universeSnapshot.longTokens.Nodup ∨
  ¬ call.universeSnapshot.shortTokens ⊆ call.universeSnapshot.longTokens ∨
  instrument.token ∉ call.universeSnapshot.longTokens ∨ ¬ instrument.Eligible day

/-- Whether the quote or the liquidity is no basis for an entry
    (`alphas/vwap_mean_reversion.py:130-145`). -/
def illiquid (cfg : VwapSettings F) (features : ReversionFeatures F) : Prop :=
  let quote := call.liquidity.quote
  quote.instrumentId ≠ features.instrumentId ∨ quote.source ≠ features.source ∨
  quote.qualityFlags ≠ ∅ ∨ ¬ (0 < quote.bid ∧ quote.bid ≤ quote.ask) ∨ quote.last ≤ 0 ∨
  ¬ (quote.timestamp ≤ quote.receivedAt ∧ quote.receivedAt ≤ call.now) ∨
  ¬ ((0 : F) ≤ PyFloat.seconds (call.now - quote.timestamp) ∧
    PyFloat.seconds (call.now - quote.timestamp) ≤ cfg.maxQuoteAgeSeconds) ∨
  ¬ ((0 : F) ≤ PyFloat.seconds (call.now - call.liquidity.knownAt) ∧
    PyFloat.seconds (call.now - call.liquidity.knownAt) ≤ cfg.liquidityMaxAgeSeconds) ∨
  call.liquidity.adv < cfg.minAdv ∨ call.liquidity.dailyTurnover < cfg.minTurnover ∨
  cfg.maxSpreadBps <
    PyFloat.ofDecimal ((quote.ask - quote.bid) / ((quote.ask + quote.bid) / 2) * 10000)

/-- Whether the short side is closed to the instrument
    (`alphas/vwap_mean_reversion.py:150-153`). -/
def shortIneligible (side : Side) (instrument : Instrument) : Prop :=
  side = .short ∧
    (instrument.token ∉ call.universeSnapshot.shortTokens ∨ instrument.foEligible = false)

instance : Decidable call.healthVeto := inferInstanceAs (Decidable (_ ∨ _))
instance (cfg : VwapSettings F) : Decidable (call.regimeDenied cfg) :=
  inferInstanceAs (Decidable (_ ∧ _))
instance (day : Date) (instrument : Instrument) : Decidable (call.ineligible day instrument) :=
  inferInstanceAs (Decidable (_ ∨ _))
instance (cfg : VwapSettings F) (features : ReversionFeatures F) :
    Decidable (call.illiquid cfg features) :=
  inferInstanceAs (Decidable (_ ∨ _))
instance (side : Side) (instrument : Instrument) :
    Decidable (call.shortIneligible side instrument) :=
  inferInstanceAs (Decidable (_ ∧ _))

/-- `reasons` (`alphas/vwap_mean_reversion.py:169-175`). -/
def reasons (cfg : VwapSettings F) : List String :=
  ["EXTREME_VWAP_STRETCH", "IMPULSE_DECELERATING", "CLOSED_BAR_REVERSAL"] ++
    if call.overrides cfg then ["RESEARCH_REGIME_OVERRIDE"] else []

end VwapCall

namespace VwapMeanReversion

variable (engine : VwapMeanReversion F) (call : VwapCall F)

/-- `day`. -/
def day : Date := (Platform.zoneInfo engine.timezone).localDate call.now

/-- Whether entries are allowed now between a start, in minutes after the open, and the earliest
    of four ends; the last of them is added up only when the start has passed
    (`alphas/vwap_mean_reversion.py:99-105`). -/
def openWindow (opening closing finalEntry flatten : Instant) :
    Except PyError (Except String (Instant × Instant)) := do
  let start ← addDuration opening (minutesOf engine.settings.startMinutes)
  if call.now < start then .ok (.error "ENTRY_WINDOW_BLOCKED")
  else do
    let stop ← addDuration opening (minutesOf engine.settings.endMinutes)
    if call.now < min (min (min closing finalEntry) flatten) stop then .ok (.ok (opening, flatten))
    else .ok (.error "ENTRY_WINDOW_BLOCKED")

/-- The entry window of the session of today, whose times are combined with today
    (`alphas/vwap_mean_reversion.py:90-105`). -/
def sessionWindow (opening closing : Instant) :
    Except PyError (Except String (Instant × Instant)) := do
  let day ← localDateIn engine.timezone call.now
  let session ← ofCalendar (engine.calendar.sessionOn day)
  match session with
  | none => .ok (.error "SESSION_UNAVAILABLE")
  | some session => do
    let finalEntry ← combineIn session.timezone day session.times.finalEntryTime
    let flatten ← combineIn session.timezone day session.times.flattenStartTime
    engine.openWindow call opening closing finalEntry flatten

/-- The open and the time to flatten when entries are allowed now, or why they are not
    (`alphas/vwap_mean_reversion.py:86-105`). -/
def entryWindow : Except PyError (Except String (Instant × Instant)) := do
  let bounds ← readBounds engine.calendar call.now engine.timezone
  match bounds with
  | none => .ok (.error "SESSION_UNAVAILABLE")
  | some (opening, closing) => engine.sessionWindow call opening closing

/-- The features of the session and the time to flatten, or why there are none
    (`alphas/vwap_mean_reversion.py:86-106`). -/
def inputs : Except PyError (Except String (ReversionFeatures F × Instant)) := do
  let window ← engine.entryWindow call
  match window with
  | .error reason => .ok (.error reason)
  | .ok (opening, flatten) => do
    let features ← reversionFeatures call.bars call.now opening engine.settings.features
    .ok (.ok (features, flatten))

/-- The inputs, with an error that blocks as their reason
    (`alphas/vwap_mean_reversion.py:85-108`). -/
def caughtInputs : Except PyError (Except String (ReversionFeatures F × Instant)) :=
  match engine.inputs call with
  | .error e => if blocksSession e then .ok (.error e.text) else .error e
  | .ok outcome => .ok outcome

/-- Whether the last bar is too old, or not yet closed (`alphas/vwap_mean_reversion.py:109`). -/
def stale (features : ReversionFeatures F) : Prop :=
  ¬ ((0 : F) ≤ PyFloat.seconds (call.now - features.timestamp) ∧
    PyFloat.seconds (call.now - features.timestamp) ≤ engine.settings.maxBarLagSeconds)

instance (features : ReversionFeatures F) : Decidable (engine.stale call features) :=
  inferInstanceAs (Decidable (¬ _))

/-- The reason of the first gate that the features do not pass
    (`alphas/vwap_mean_reversion.py:130-166`). -/
def objection (features : ReversionFeatures F) (instrument : Instrument) : Option String :=
  let cfg := engine.settings
  if call.illiquid cfg features then some "LIQUIDITY_REJECTED"
  else if ¬ features.Stretched cfg then some "STRETCH_OUTSIDE_LIMITS"
  else if call.shortIneligible features.side instrument then some "SHORT_INELIGIBLE"
  else if ¬ features.Decelerating cfg then some "IMPULSE_NOT_DECELERATING"
  else if features.Unconfirmed cfg then some "REVERSAL_NOT_CONFIRMED"
  else if features.adverseReference cfg ≤ 0 then some "INVALID_ADVERSE_REFERENCE"
  else none

/-- The fields of `evidence` (`alphas/vwap_mean_reversion.py:176-201`). -/
def evidenceFields (features : ReversionFeatures F) (instrument : Instrument)
    (exits : VwapExitMetadata F) : VwapEvidenceFields F where
  timestamp := call.now
  instrumentId := instrument.token
  symbol := instrument.symbol
  source := features.source
  side := features.side
  score := features.stretchScore engine.settings
  features := features
  exits := exits
  settings := engine.settings
  alphaVersionHash := engine.settings.versionHash
  featureSetHash := engine.settings.features.versionHash
  universeHash := contentHash call.universeSnapshot
  instrumentMasterHash := contentHash call.master
  stateHash := call.state.decisionHash
  liquidityHash := contentHash call.liquidity
  codeCommit := call.state.codeCommit
  configHash := call.state.configHash
  dataSnapshot := call.state.dataSnapshot

/-- `exits` (`alphas/vwap_mean_reversion.py:184-190`). -/
def exits (features : ReversionFeatures F) (flatten : Instant) :
    Except PyError (VwapExitMetadata F) := do
  let held ← addDuration call.now (minutesOf engine.settings.maxHoldMinutes)
  let convergence := features.convergencePrice engine.settings
  let adverse := features.adverseReference engine.settings
  if ¬ [convergence, adverse].all PyFloat.isFinite then
    .error (invalid "VwapExitMetadata" "prices must be finite")
  else VwapExitMetadata.validate convergence adverse (min held flatten) call.state.state

/-- The intent (`alphas/vwap_mean_reversion.py:168-216`). -/
def intent (features : ReversionFeatures F) (instrument : Instrument) (flatten : Instant) :
    Except PyError (SignalIntent F) := do
  let exits ← engine.exits call features flatten
  if ¬ PyFloat.isFinite (features.stretchScore engine.settings) then
    .error (invalid "VwapSignalEvidence" "score must be finite")
  else do
    let evidence ← VwapSignalEvidence.validate
      (engine.evidenceFields call features instrument exits)
    SignalIntent.validate
      { signalId := Platform.uuid5 ("godzilla:" ++ vwapAlphaId ++ ":" ++ instrument.token ++ ":" ++
          Platform.isoformat features.timestamp)
        instrumentId := instrument.token
        alphaId := vwapAlphaId
        side := features.side
        reasons := call.reasons engine.settings
        score := some (features.stretchScore engine.settings)
        evidence := some (.vwap evidence) }

/-- What follows from the features (`alphas/vwap_mean_reversion.py:109-217`). -/
def conclude (features : ReversionFeatures F) (flatten : Instant) :
    Except PyError (VwapResult F) :=
  if engine.stale call features then .ok (call.reject "STALE_BAR")
  else do
    call.compareGeneration (engine.day call)
    match call.master.byToken.get? features.instrumentId with
    | none => .ok (call.reject "UNIVERSE_OR_INSTRUMENT_INELIGIBLE")
    | some instrument =>
      if call.ineligible (engine.day call) instrument then
        .ok (call.reject "UNIVERSE_OR_INSTRUMENT_INELIGIBLE")
      else
        match engine.objection call features instrument with
        | some reason => .ok (call.reject reason)
        | none => do
          let intent ← engine.intent call features instrument flatten
          .ok
            { timestamp := call.now
              reasons := call.reasons engine.settings
              intent := some intent }

/-- What follows from the inputs (`alphas/vwap_mean_reversion.py:107-217`). -/
def respond : Except String (ReversionFeatures F × Instant) → Except PyError (VwapResult F)
  | .error reason => .ok (call.reject reason)
  | .ok (features, flatten) => engine.conclude call features flatten

/-- `VwapMeanReversion.evaluate` (`alphas/vwap_mean_reversion.py:44-217`). -/
def evaluate : Except PyError (VwapResult F) := do
  let _ ← utc call.now
  if call.mode = .live then .ok (call.reject "LIVE_PROMOTION_REQUIRED")
  else if engine.settings.enabled = false then .ok (call.reject "ALPHA_DISABLED")
  else if call.healthVeto then .ok (call.reject "HEALTH_OR_RISK_VETO")
  else if call.regimeDenied engine.settings then .ok (call.reject "REGIME_PERMISSION_DENIED")
  else do
    let outcome ← engine.caughtInputs call
    engine.respond call outcome

end VwapMeanReversion

end Godzilla.Alphas
