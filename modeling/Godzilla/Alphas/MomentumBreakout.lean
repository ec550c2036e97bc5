import Godzilla.Alphas.BreakoutScoring
import Godzilla.Alphas.CrossSectionalMomentum
import Godzilla.MarketData.CalendarReads
import Godzilla.MarketData.Quality
import Godzilla.Universe.Generation

/-!
# Momentum breakout

`MomentumBreakout.evaluate` (`alphas/momentum_breakout.py`): the gates on the call, the
checks on every member of the cross-section, the strength of each among all, and one report
for each, with an intent where a breakout was measured. A `ValueError` of the checks or of a
measurement becomes a reason; what else raises leaves the call. The generation times are aware.
-/

namespace Godzilla.Alphas
open Godzilla Misc Events Features MarketData MarketState Universe

/-- `MomentumBreakout` (`alphas/momentum_breakout.py:46-50`). -/
structure MomentumBreakout (F : Type) [PyFloat F] where
  settings : BreakoutSettings F
  calendar : ExchangeCalendar
  timezone : String := "Asia/Kolkata"

/-- The arguments of `evaluate` (`alphas/momentum_breakout.py:52-59`). -/
structure BreakoutCall (F : Type) [PyFloat F] [Platform] where
  observations : List (BreakoutObservation F)
  universeSnapshot : UniverseSnapshot
  master : InstrumentMasterSnapshot
  state : StateDecision F
  now : Instant

/-- `BreakoutCandidateReport` (`alphas/momentum_breakout.py:28-31`). -/
structure BreakoutCandidateReport (F : Type) where
  instrumentId : String
  reasons : List String
  checks : List (ThresholdEvidence F) := []

/-- `BreakoutResult` (`alphas/momentum_breakout.py:34-39`). -/
structure BreakoutResult (F : Type) [PyFloat F] [Platform] where
  timestamp : Instant
  intents : List (SignalIntent F) := []
  reports : List (BreakoutCandidateReport F) := []
  reasons : List String := []
  crossSectionHash : Digest

/-- `_BreakoutCrossSection` (`alphas/momentum_breakout.py:42-43`). -/
structure BreakoutCrossSection (F : Type) [PyFloat F] where
  observations : List (BreakoutObservation F)

/-- What the loop over the candidates is given: a side, a session, and the members of the
    cross-section with the strength of each. -/
structure BreakoutRanking (F : Type) [PyFloat F] where
  side : Side
  opening : Instant
  closing : Instant
  members : List (BreakoutObservation F × F)

variable {F : Type} [PyFloat F] [Platform]

namespace BreakoutCall

variable (call : BreakoutCall F)

/-- `selected` (`alphas/momentum_breakout.py:61-66`): the observations of now, by their
    instrument. -/
def selected : List (BreakoutObservation F) :=
  sortOn (·.current.snapshot.entity)
    (call.observations.filter fun o => decide (o.current.snapshot.timestamp = call.now))

/-- `ids`. -/
def ids : List String := call.selected.map (·.current.snapshot.entity)

/-- `digest`. -/
def digest : Digest := contentHash (BreakoutCrossSection.mk call.selected)

/-- `instruments[token]`. -/
def instrument (token : String) : Except PyError Instrument :=
  match call.master.byToken.get? token with
  | none => .error (.keyError (Platform.reprStr token))
  | some instrument => .ok instrument

/-- Whether the state does not permit breakouts now (`alphas/momentum_breakout.py:80-85`). -/
def permissionDenied : Prop :=
  call.state.timestamp ≠ call.now ∨ call.state.grossRiskMultiplier ≤ 0 ∨
    AlphaFamily.momentumBreakout ∉ call.state.allowedAlphaFamilies

/-- Whether the universe, the master and the cross-section are not those of today, complete
    and unambiguous (`alphas/momentum_breakout.py:97-112`). -/
def universeUnavailable (day : Date) (cfg : BreakoutSettings F) : Prop :=
  call.universeSnapshot.asOf ≠ day ∨ call.master.asOf ≠ day ∨
  call.now < call.universeSnapshot.generatedAt ∨ call.now < call.master.generatedAt ∨
  call.universeSnapshot.instrumentSnapshotId ≠ call.master.snapshotId ∨
  call.universeSnapshot.longTokens.dedup.length < cfg.minimumUniverseSize ∨
  ¬ (call.ids ⊆ call.universeSnapshot.longTokens ∧ call.universeSnapshot.longTokens ⊆ call.ids) ∨
  call.ids.length ≠ call.universeSnapshot.longTokens.dedup.length ∨
  ¬ call.universeSnapshot.longTokens.Nodup ∨
  ¬ call.universeSnapshot.shortTokens ⊆ call.universeSnapshot.longTokens ∨
  call.master.byToken.size ≠ call.master.instruments.length ∨
  ¬ call.universeSnapshot.longTokens ⊆ call.master.byToken.keys ∨
  ¬ ((call.universeSnapshot.longTokens.filterMap call.master.byToken.get?).map (·.symbol)).Nodup

/-- Whether the reference is of other sources (`alphas/momentum_breakout.py:117-122`). -/
def sourceMismatch (item : BreakoutObservation F) : Prop :=
  item.current.context.entity ≠ item.reference.context.entity ∨
  item.current.context.nifty ≠ item.reference.context.nifty ∨
  item.current.context.sector ≠ item.reference.context.sector

/-- Whether the context or the provenance of one of the two observations is not what the call
    requires (`alphas/momentum_breakout.py:132-155`). -/
def invalidProvenance (item : BreakoutObservation F) (o : MomentumObservation F) : Prop :=
  o.snapshot.entity ≠ item.current.snapshot.entity ∨
  o.context.entity.instrumentId ≠ o.snapshot.entity ∨
  o.context.nifty = none ∨ o.context.sector = none ∨
  o.context.universeVersion ≠ Platform.uuidStr call.universeSnapshot.snapshotId ∨
  contentHash o.context ≠ o.snapshot.contextHash ∨
  o.snapshot.timestamp < o.context.knownAt ∨
  ¬ (o.context.validFrom ≤ o.snapshot.timestamp ∧ o.snapshot.timestamp < o.context.validTo) ∨
  o.snapshot.featureSetHash ≠ item.featureDefinition.versionHash ∨
  (o.snapshot.codeCommit, o.snapshot.configHash, o.snapshot.dataSnapshot,
      o.snapshot.featureSetHash) ≠
    (call.state.codeCommit, call.state.configHash, call.state.dataSnapshot,
      call.state.evidence.featureSetHash)

/-- Whether the bar, the bar before it and the reference do not follow each other up to now
    (`alphas/momentum_breakout.py:157-163`). -/
def notCausal (cfg : BreakoutSettings F) (opening : Instant) (item : BreakoutObservation F) :
    Prop :=
  ¬ (opening ≤ item.reference.snapshot.timestamp ∧
    item.reference.snapshot.timestamp ≤ item.bar.start) ∨
  item.previousBar.stop ≠ item.bar.start ∨ item.previousBar.start < opening ∨
  (item.bar.start - opening) % secondsOf 300 ≠ 0 ∨
  ¬ ((0 : F) ≤ PyFloat.seconds (call.now - item.bar.stop) ∧
    PyFloat.seconds (call.now - item.bar.stop) ≤ cfg.maxBarLagSeconds)

/-- Whether a bar is of another instrument or feed (`alphas/momentum_breakout.py:166-170`). -/
def foreignBar (item : BreakoutObservation F) (bar : Bar) : Prop :=
  bar.instrumentId ≠ item.current.snapshot.entity ∨
  bar.source ≠ item.current.context.entity.source ∨ bar.feedKind ≠ .equity

instance : Decidable call.permissionDenied := inferInstanceAs (Decidable (_ ∨ _))
instance (day : Date) (cfg : BreakoutSettings F) : Decidable (call.universeUnavailable day cfg) :=
  inferInstanceAs (Decidable (_ ∨ _))
instance (item : BreakoutObservation F) : Decidable (sourceMismatch item) :=
  inferInstanceAs (Decidable (_ ∨ _))
instance (item : BreakoutObservation F) (o : MomentumObservation F) :
    Decidable (call.invalidProvenance item o) :=
  inferInstanceAs (Decidable (_ ∨ _))
instance (cfg : BreakoutSettings F) (opening : Instant) (item : BreakoutObservation F) :
    Decidable (call.notCausal cfg opening item) :=
  inferInstanceAs (Decidable (_ ∨ _))
instance (item : BreakoutObservation F) (bar : Bar) : Decidable (foreignBar item bar) :=
  inferInstanceAs (Decidable (_ ∨ _))

/-- Whether the short side is closed to an instrument (`alphas/momentum_breakout.py:184-186`). -/
def shortIneligible (side : Side) (instrument : Instrument) : Prop :=
  side = .short ∧
    (instrument.token ∉ call.universeSnapshot.shortTokens ∨ instrument.foEligible = false)

instance (side : Side) (instrument : Instrument) :
    Decidable (call.shortIneligible side instrument) :=
  inferInstanceAs (Decidable (_ ∧ _))

end BreakoutCall

namespace MomentumBreakout

variable (engine : MomentumBreakout F) (call : BreakoutCall F)

/-- `day`. -/
def day : Date := (Platform.zoneInfo engine.timezone).localDate call.now

/-- `bounds`, when now lies between them; a day that the calendar does not cover has none, and
    what else `session_bounds` raises is not caught (`alphas/momentum_breakout.py:86-93`). -/
def session : Except PyError (Option (Instant × Instant)) :=
  match readBounds engine.calendar call.now engine.timezone with
  | .ok (some (opening, closing)) =>
    .ok (if opening ≤ call.now ∧ call.now < closing then some (opening, closing) else none)
  | .ok none => .ok none
  | .error (.calendarCoverage _) => .ok none
  | .error e => .error e

/-- The checks on one member (`alphas/momentum_breakout.py:116-170`). -/
def checkMember (opening : Instant) (item : BreakoutObservation F) : Except PyError Unit := do
  if BreakoutCall.sourceMismatch item then .error (.valueError "REFERENCE_SOURCE_MISMATCH")
  else do
    let instrument ← call.instrument item.current.snapshot.entity
    if ¬ instrument.Eligible (engine.day call) then .error (.valueError "INSTRUMENT_INELIGIBLE")
    else do
      [item.current, item.reference].forM fun o =>
        if call.invalidProvenance item o then
          .error (.valueError "CONTEXT_OR_PROVENANCE_MISMATCH")
        else .ok ()
      if call.notCausal engine.settings opening item then
        .error (.valueError "BAR_OR_REFERENCE_NOT_CAUSAL")
      else
        [item.bar, item.previousBar].forM fun bar => do
          bar.requireStrategyReady call.now
          if BreakoutCall.foreignBar item bar then .error (.valueError "BAR_IDENTITY_MISMATCH")
          else .ok ()

/-- `sector` and `market`, once every member passed (`alphas/momentum_breakout.py:114-172`). -/
def inputs (opening : Instant) : Except PyError (List F × List F) := do
  call.selected.forM (engine.checkMember call opening)
  let sector ← call.selected.mapM fun o => numeric o.current "stock.relative_sector_30m"
  let market ← call.selected.mapM fun o => numeric o.current "stock.relative_market_30m"
  .ok (sector, market)

/-- `strengths` (`alphas/momentum_breakout.py:175-177`). -/
def strengths (sector market : List F) : Except PyError (List F) := do
  let sectorRanks ← percentiles sector
  let marketRanks ← percentiles market
  .ok (List.zipWith (fun a b => (a + b) / 2) sectorRanks marketRanks)

/-- What the loop over the candidates is given once the session is open
    (`alphas/momentum_breakout.py:94-177`). -/
def rankMembers (side : Side) (opening closing : Instant) :
    Except PyError (Except (List String) (BreakoutRanking F)) :=
  if call.universeUnavailable (engine.day call) engine.settings then
    .ok (.error ["UNIVERSE_UNAVAILABLE_OR_AMBIGUOUS"])
  else
    match engine.inputs call opening with
    | .error e => if e.isValueError then .ok (.error ["INPUT_BLOCKED", e.text]) else .error e
    | .ok (sector, market) => do
      let strengths ← strengths sector market
      .ok (.ok ⟨side, opening, closing, call.selected.zip strengths⟩)

/-- What the loop over the candidates is given on a permitted side
    (`alphas/momentum_breakout.py:86-177`). -/
def rankSession (side : Side) : Except PyError (Except (List String) (BreakoutRanking F)) := do
  let found ← engine.session call
  match found with
  | none => .ok (.error ["SESSION_UNAVAILABLE"])
  | some (opening, closing) => do
    -- the days of the universe and of the master are compared before their times are read
    readGeneration {} call.universeSnapshot call.master (engine.day call) call.now
    engine.rankMembers call side opening closing

/-- What the loop over the candidates is given, or the reasons for an empty result
    (`alphas/momentum_breakout.py:71-177`). -/
def ranking : Except PyError (Except (List String) (BreakoutRanking F)) :=
  if engine.settings.enabled = false then .ok (.error ["ALPHA_DISABLED"])
  else
    match permittedSide call.state with
    | none => .ok (.error ["STATE_PERMISSION_DENIED"])
    | some side =>
      if call.permissionDenied then .ok (.error ["STATE_PERMISSION_DENIED"])
      else engine.rankSession call side

/-- The strength that a side is measured with (`alphas/momentum_breakout.py:197`). -/
def sideStrength (side : Side) (strength : F) : F :=
  match side with
  | .long => strength
  | .short => 1 - strength

/-- What is on record of a candidate and what was measured; a `ValueError` of the measurement
    becomes its reason (`alphas/momentum_breakout.py:192-205`). -/
def measured (ranking : BreakoutRanking F) (item : BreakoutObservation F) (strength : F) :
    Except PyError (List (ThresholdEvidence F) × BreakoutMeasurement F) :=
  match measureBreakout item ranking.side (sideStrength ranking.side strength) engine.settings
      ranking.opening ranking.closing [] with
  | (checks, .ok measurement) => .ok (checks, measurement)
  | (checks, .error e) =>
    if e.isValueError then .ok (checks, { reasons := [e.text] }) else .error e

/-- `score` (`alphas/momentum_breakout.py:206`). -/
def score (measurement : BreakoutMeasurement F) : F :=
  min 1 (PyFloat.sum (measurement.components.map (·.contribution)))

/-- The fields of `detail` (`alphas/momentum_breakout.py:218-239`). -/
def evidenceFields (side : Side) (instrument : Instrument) (item : BreakoutObservation F)
    (measurement : BreakoutMeasurement F) (invalidation : BreakoutInvalidation F)
    (checks : List (ThresholdEvidence F)) : BreakoutEvidenceFields F where
  timestamp := call.now
  instrumentId := instrument.token
  symbol := instrument.symbol
  source := item.bar.source
  side := side
  score := score measurement
  components := measurement.components
  checks := checks
  invalidation := invalidation
  settings := engine.settings
  alphaVersionHash := engine.settings.versionHash
  observationHash := contentHash item
  crossSectionHash := call.digest
  universeHash := contentHash call.universeSnapshot
  instrumentMasterHash := contentHash call.master
  stateHash := call.state.decisionHash
  codeCommit := call.state.codeCommit
  configHash := call.state.configHash
  dataSnapshot := call.state.dataSnapshot
  featureSetHash := call.state.evidence.featureSetHash

/-- The intent of a candidate (`alphas/momentum_breakout.py:218-254`). -/
def intent (side : Side) (instrument : Instrument) (item : BreakoutObservation F)
    (measurement : BreakoutMeasurement F) (invalidation : BreakoutInvalidation F)
    (checks : List (ThresholdEvidence F)) : Except PyError (SignalIntent F) := do
  let evidence ← BreakoutSignalEvidence.validate
    (engine.evidenceFields call side instrument item measurement invalidation checks)
  SignalIntent.validate
    { signalId := Platform.uuid5 ("godzilla:" ++ breakoutAlphaId ++ ":" ++
        Platform.isoformat item.bar.stop ++ ":" ++ instrument.token)
      instrumentId := instrument.token
      alphaId := breakoutAlphaId
      side := side
      reasons := measurement.reasons
      score := some (score measurement)
      evidence := some (.breakout evidence) }

/-- The report of a measured candidate, and its intent when its score is reached
    (`alphas/momentum_breakout.py:206-254`). -/
def conclude (side : Side) (instrument : Instrument) (item : BreakoutObservation F)
    (checks : List (ThresholdEvidence F)) (measurement : BreakoutMeasurement F) :
    Except PyError (BreakoutCandidateReport F × Option (SignalIntent F)) :=
  match measurement.invalidation with
  | none => .ok (⟨instrument.token, measurement.reasons, checks⟩, none)
  | some invalidation =>
    if PyFloat.isFinite (score measurement) = false then
      .error (invalid "ThresholdEvidence" "value must be finite")
    else
      let reached := record "candidate.score" (some (score measurement)) .ge
        engine.settings.minimumScore none
      if reached.passed = false then
        .ok (⟨instrument.token, ["SCORE_BELOW_THRESHOLD"], checks ++ [reached]⟩, none)
      else do
        let intent ← engine.intent call side instrument item measurement invalidation
          (checks ++ [reached])
        .ok (⟨instrument.token, measurement.reasons, checks ++ [reached]⟩, some intent)

/-- One turn of the loop: the report of a candidate and its intent
    (`alphas/momentum_breakout.py:179-254`). -/
def candidate (ranking : BreakoutRanking F) (item : BreakoutObservation F) (strength : F) :
    Except PyError (BreakoutCandidateReport F × Option (SignalIntent F)) := do
  let instrument ← call.instrument item.current.snapshot.entity
  if call.shortIneligible ranking.side instrument then
    .ok (⟨instrument.token, ["SHORT_INELIGIBLE"], []⟩, none)
  else do
    let (checks, measurement) ← engine.measured ranking item strength
    engine.conclude call ranking.side instrument item checks measurement

/-- `MomentumBreakout.evaluate` (`alphas/momentum_breakout.py:52-261`). -/
def evaluate : Except PyError (BreakoutResult F) := do
  let now ← utc call.now
  let empty : BreakoutResult F := { timestamp := now, crossSectionHash := call.digest }
  let outcome ← engine.ranking call
  match outcome with
  | .error reasons => .ok { empty with reasons := reasons }
  | .ok ranking => do
    let turns ← ranking.members.mapM fun (item, strength) =>
      engine.candidate call ranking item strength
    .ok
      { empty with
        intents := turns.filterMap (·.2)
        reports := turns.map (·.1)
        reasons := ["EVALUATION_COMPLETE"] }

end MomentumBreakout

end Godzilla.Alphas
