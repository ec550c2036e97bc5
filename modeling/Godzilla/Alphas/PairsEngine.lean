import Godzilla.Alphas.PairsData
import Godzilla.Alphas.PairsStatistics
import Godzilla.Config.Modes
import Godzilla.MarketData.Instruments
import Godzilla.Universe.Generation

/-!
# The pairs engine

`PairsEngine.evaluate` (`alphas/pairs_engine.py`): the gates on mode and inputs, the
refit of the relationship, and the decision for an open position or for none. Errors
inside the input gate become an evaluation, as do all errors of the statistics; what
raises behind them leaves the call.
-/

namespace Godzilla.Alphas
open Godzilla Misc Features MarketData MarketState Universe

/-- `PairsEngine` (`alphas/pairs_engine.py:44-57`). -/
structure PairsEngine (F : Type) [PyFloat F] where
  settings : PairsSettings F
  diagnostics : PairDiagnostics F
  calendar : ExchangeCalendar
  timezone : String

variable {F : Type} [PyFloat F] [PyMath F] [Platform]

/-- The arguments of `evaluate` (`alphas/pairs_engine.py:59-70`). -/
structure PairsCall (F : Type) [PyFloat F] [Platform] where
  candidate : PairCandidate
  observations : List PairObservation
  liquidity : PairLiquidity F × PairLiquidity F
  universeSnapshot : UniverseSnapshot
  master : InstrumentMasterSnapshot
  state : StateDecision F
  now : Instant
  mode : TradingMode
  position : Option (PairPosition F)
  generatedAware : GeneratedAware := {}

/-- `_PairInputs` (`alphas/pairs_engine.py:37-41`). -/
structure PairInputs (F : Type) [PyFloat F] where
  candidate : PairCandidate
  window : PairWindow
  liquidity : PairLiquidity F × PairLiquidity F
  position : Option (PairPosition F)

/-- The session of a call: its bounds, the time to flatten and the last entry. -/
structure PairSession where
  opening : Instant
  closing : Instant
  flattenAt : Instant
  finalEntry : Instant

/-- What the input gate lets through: the session and the window. -/
structure PairAdmitted where
  session : PairSession
  window : PairWindow

/-- What the decision reads. Where the spread and its score are NaN there are none. -/
structure PairReading (F : Type) [PyFloat F] where
  admitted : PairAdmitted
  fit : PairFit F
  score : Option (F × F)
  isLiquid : Bool

/-- `zscore`. -/
def PairReading.zscore (reading : PairReading F) : FloatOrNaN F := reading.score.map (·.2)

namespace PairsCall

variable (call : PairsCall F)

/-- Whether the candidate was not known, reviewed, effective and clear
    (`alphas/pairs_engine.py:112-117`). -/
def candidateAmbiguous (opening : Instant) : Prop :=
  opening < call.candidate.knownAt ∨ opening < call.candidate.reviewedAt ∨
  ¬ (call.candidate.effectiveFrom ≤ call.now ∧ call.now < call.candidate.effectiveTo) ∨
  call.candidate.corporateActionsClear = false

/-- Whether the universe and the master are of another day, of the future or of each other
    (`alphas/pairs_engine.py:120-126`). -/
def universeUnavailable (day : Date) : Prop :=
  call.universeSnapshot.asOf ≠ day ∨ call.master.asOf ≠ day ∨
  call.now < call.universeSnapshot.generatedAt ∨ call.now < call.master.generatedAt ∨
  call.universeSnapshot.instrumentSnapshotId ≠ call.master.snapshotId

/-- The checks on one leg's instrument (`alphas/pairs_engine.py:135-144`). -/
def eligibleLeg (day : Date) (ref : InstrumentRef) (sector : String) : Prop :=
  ∃ instrument ∈ call.master.byToken.get? ref.instrumentId,
    ref.instrumentId ∈ call.universeSnapshot.longTokens ∧ instrument.Eligible day ∧
      instrument.sector = sector

/-- Whether a position is of another pair or not of this session
    (`alphas/pairs_engine.py:147-152`). -/
def invalidPosition (opening : Instant) (position : PairPosition F) : Prop :=
  position.pairId ≠ call.candidate.pairId ∨
  ¬ (opening ≤ position.openedAt ∧ position.openedAt ≤ call.now) ∨
  position.openedAt ≤ position.entryFit.trainingEnd ∨ position.entryFit.beta ≤ 0

instance (opening : Instant) : Decidable (call.candidateAmbiguous opening) :=
  inferInstanceAs (Decidable (_ ∨ _))
instance (day : Date) : Decidable (call.universeUnavailable day) :=
  inferInstanceAs (Decidable (_ ∨ _))
instance (day : Date) (ref : InstrumentRef) (sector : String) :
    Decidable (call.eligibleLeg day ref sector) :=
  inferInstanceAs (Decidable (∃ _ ∈ _, _))
instance (opening : Instant) (position : PairPosition F) :
    Decidable (call.invalidPosition opening position) :=
  inferInstanceAs (Decidable (_ ∨ _))

/-- `permitted` (`alphas/pairs_engine.py:168-172`). -/
def permitted : Prop :=
  call.state.timestamp = call.now ∧ 0 < call.state.grossRiskMultiplier ∧
    AlphaFamily.pairsStatArb ∈ call.state.allowedAlphaFamilies

instance : Decidable call.permitted := inferInstanceAs (Decidable (_ ∧ _))

end PairsCall

/-- What `except (ValueError, RuntimeError)` catches. -/
def inputsCaught (e : PyError) : Bool := e.isValueError || e.isRuntimeError

namespace PairsEngine

variable (engine : PairsEngine F) (call : PairsCall F)

/-- The limits of the session whose bounds were read (`alphas/pairs_engine.py:94-109`). -/
def sessionLimits (bounds : Instant × Instant) : Except PyError PairSession := do
  let day ← localDateIn engine.timezone call.now
  let session ← ofCalendar (engine.calendar.sessionOn day)
  match session with
  | none => .error (.valueError "SESSION_UNAVAILABLE")
  | some session => do
    let flattenAt ← combineIn session.timezone session.sessionDate session.times.flattenStartTime
    let finalEntry ← combineIn session.timezone session.sessionDate session.times.finalEntryTime
    .ok ⟨bounds.1, bounds.2, flattenAt, finalEntry⟩

/-- The session of now (`alphas/pairs_engine.py:90-109`). -/
def sessionGate : Except PyError PairSession := do
  let bounds ← readBounds engine.calendar call.now engine.timezone
  match bounds with
  | none => .error (.valueError "SESSION_UNAVAILABLE")
  | some bounds => engine.sessionLimits call bounds

/-- `day`. -/
def day : Date := (Platform.zoneInfo engine.timezone).localDate call.now

/-- The checks on the instruments, on the window and on a position
    (`alphas/pairs_engine.py:127-153`). -/
def admitWindow (session : PairSession) : Except PyError PairAdmitted :=
  if call.master.byToken.size ≠ call.master.instruments.length then
    .error (.valueError "AMBIGUOUS_MASTER")
  else if ¬ (call.eligibleLeg (engine.day call) call.candidate.left call.candidate.leftSector ∧
      call.eligibleLeg (engine.day call) call.candidate.right call.candidate.rightSector) then
    .error (.valueError "PAIR_INSTRUMENT_INELIGIBLE")
  else do
    let window ← selectWindow call.observations call.candidate engine.settings engine.calendar
      engine.timezone call.now
    if ∃ position ∈ call.position, call.invalidPosition session.opening position then
      .error (.valueError "INVALID_RESEARCH_POSITION")
    else .ok ⟨session, window⟩

/-- The checks on the inputs inside a session (`alphas/pairs_engine.py:110-153`). -/
def admitInputs (session : PairSession) : Except PyError PairAdmitted :=
  if ¬ (session.opening ≤ call.now ∧ call.now ≤ session.closing) then
    .error (.valueError "OUTSIDE_SESSION")
  else if call.candidateAmbiguous session.opening then
    .error (.valueError "PAIR_METADATA_OR_CORPORATE_ACTION_AMBIGUITY")
  else do
    readGeneration call.generatedAware call.universeSnapshot call.master (engine.day call) call.now
    if call.universeUnavailable (engine.day call) then .error (.valueError "UNIVERSE_UNAVAILABLE")
    else engine.admitWindow call session

/-- The body of the input gate (`alphas/pairs_engine.py:89-153`). -/
def inputGate : Except PyError PairAdmitted := do
  let session ← engine.sessionGate call
  engine.admitInputs call session

/-- `empty` (`alphas/pairs_engine.py:72-81`). -/
def emptyEvaluation : PairEvaluation F where
  timestamp := call.now
  pairId := call.candidate.pairId
  reasons := []
  openRiskAttention := call.position.isSome
  inputHash := contentHash call.candidate
  settings := engine.settings
  codeCommit := call.state.codeCommit
  dataSnapshot := call.state.dataSnapshot

/-- `left_side` (`alphas/pairs_engine.py:224-226`). -/
def leftSide (action : PairAction) (direction : SpreadDirection) : Side :=
  let side := if direction = .longSpread then Side.long else Side.short
  if action = .exit then (if side = .long then .short else .long) else side

/-- The intent (`alphas/pairs_engine.py:238-282`), held since `since`. -/
def pairIntent (reading : PairReading F) (action : PairAction) (direction : SpreadDirection)
    (activeFit : PairFit F) (since : Instant) (digest : Digest) (reasons : List String) :
    Except PyError (PairSignalIntent F) := do
  let beta := activeFit.beta
  let side := leftSide action direction
  let left ← PairLeg.validate call.candidate.left.instrumentId side (1 / (1 + beta))
  let right ← PairLeg.validate call.candidate.right.instrumentId
    (if side = .long then .short else .long) (beta / (1 + beta))
  let deadline ← addDuration since (minutesOf engine.settings.maxHoldMinutes)
  let risk ← CombinedRiskReference.validate activeFit reading.score
    (if direction = .shortSpread then engine.settings.stopZ else -engine.settings.stopZ)
    (min reading.admitted.session.flattenAt deadline) (PyFloat.abs (1 - beta) / (1 + beta))
  PairSignalIntent.validate
    { signalId := Platform.uuid5
        ("godzilla:pairs:" ++ call.candidate.pairId ++ ":" ++ Platform.isoformat call.now)
      timestamp := call.now
      pairId := call.candidate.pairId
      action := action
      direction := direction
      legs := (left, right)
      hedgeRatio := beta
      riskReference := risk
      execution := ⟨engine.settings.maxLegLagSeconds, engine.settings.positive _ (by simp)⟩
      reasons := reasons
      fit := activeFit
      settings := engine.settings
      candidate := call.candidate
      inputHash := digest
      universeHash := contentHash call.universeSnapshot
      stateHash := call.state.decisionHash
      codeCommit := call.state.codeCommit
      configHash := call.state.configHash
      dataSnapshot := call.state.dataSnapshot }

/-- `adverse` (`alphas/pairs_engine.py:181`). -/
def adverse (direction : SpreadDirection) (zscore : FloatOrNaN F) : Prop :=
  ∃ z ∈ zscore, if direction = .shortSpread then engine.settings.stopZ ≤ z
    else z ≤ -engine.settings.stopZ

instance (direction : SpreadDirection) (zscore : FloatOrNaN F) :
    Decidable (engine.adverse direction zscore) :=
  inferInstanceAs (Decidable (∃ _ ∈ zscore, ite _ _ _))

/-- Whether the refit is rejected or its hedge has drifted from the entry
    (`alphas/pairs_engine.py:186`). -/
def structuralBreak (fit entryFit : PairFit F) : Prop :=
  relationshipRejections fit engine.settings ≠ [] ∨
    engine.settings.maxBetaDrift < PyFloat.abs (fit.beta - entryFit.beta) / entryFit.beta

instance (fit entryFit : PairFit F) : Decidable (engine.structuralBreak fit entryFit) :=
  inferInstanceAs (Decidable (_ ∨ _))

/-- Whether the spread has come back (`alphas/pairs_engine.py:194`). -/
def reverted (zscore : FloatOrNaN F) (entryZ : F) : Prop :=
  ∃ z ∈ zscore, PyFloat.abs z ≤ engine.settings.exitZ ∨
    ∃ product ∈ PyFloat.mul? z entryZ, product ≤ 0

instance (zscore : FloatOrNaN F) (entryZ : F) : Decidable (engine.reverted zscore entryZ) :=
  inferInstanceAs (Decidable (∃ _ ∈ zscore, _ ∨ _))

/-- Why a position is left (`alphas/pairs_engine.py:179-195`); empty to hold it. -/
def exitReasons (reading : PairReading F) (position : PairPosition F) :
    Except PyError (List String) :=
  if reading.admitted.session.flattenAt ≤ call.now then .ok ["SESSION_FLATTEN"]
  else do
    let deadline ← addDuration position.openedAt (minutesOf engine.settings.maxHoldMinutes)
    if deadline ≤ call.now then .ok ["MAX_HOLD"]
    else if engine.structuralBreak reading.fit position.entryFit then
      .ok ("STRUCTURAL_BREAK" :: relationshipRejections reading.fit engine.settings)
    else if reading.isLiquid = false then .ok ["LIQUIDITY_DETERIORATION"]
    else if ¬ call.permitted then .ok ["STATE_PERMISSION_WITHDRAWN"]
    else if engine.adverse position.direction reading.zscore then .ok ["SPREAD_ADVERSE_BOUNDARY"]
    else if engine.reverted reading.zscore position.entryZ then .ok ["SPREAD_REVERSION"]
    else .ok []

/-- The decision for an open position (`alphas/pairs_engine.py:179-195,213-296`). -/
def decideOpen (empty : PairEvaluation F) (reading : PairReading F) (position : PairPosition F) :
    Except PyError (PairEvaluation F) := do
  let accepted := relationshipRejections reading.fit engine.settings == []
  let reasons ← engine.exitReasons call reading position
  if reasons = [] then
    .ok { empty with
      fit := some reading.fit
      zscore := some reading.zscore
      acceptedRelationship := accepted
      reasons := ["HOLD"]
      openRiskAttention := false }
  else
    let intent ← engine.pairIntent call reading .exit position.direction position.entryFit
      position.openedAt empty.inputHash reasons
    .ok { empty with
      intent := some intent
      fit := some reading.fit
      zscore := some reading.zscore
      acceptedRelationship := accepted
      reasons := reasons
      openRiskAttention := true }

/-- What keeps a pair from being entered (`alphas/pairs_engine.py:197-202`). -/
def entryObstacles (reading : PairReading F) : List String :=
  relationshipRejections reading.fit engine.settings ++
  (if reading.isLiquid = false then ["POOR_LIQUIDITY"] else []) ++
  (if ¬ call.permitted ∨ reading.admitted.session.finalEntry ≤ call.now then
    ["STATE_OR_ENTRY_WINDOW_BLOCKED"] else []) ++
  if ∃ z ∈ reading.zscore, engine.settings.stopZ ≤ PyFloat.abs z then ["EXTREME_SPREAD"] else []

/-- Whether the short leg has a route (`alphas/pairs_engine.py:229-234`). -/
def shortRoute (direction : SpreadDirection) : Except PyError Bool :=
  let token := if leftSide .enter direction = .short then call.candidate.left.instrumentId
    else call.candidate.right.instrumentId
  if token ∉ call.universeSnapshot.shortTokens then .ok false
  else
    match call.master.byToken.get? token with
    | none => .error (.keyError (Platform.reprStr token))
    | some instrument => .ok instrument.foEligible

/-- The decision without a position (`alphas/pairs_engine.py:196-296`). -/
def decideFlat (empty : PairEvaluation F) (reading : PairReading F) :
    Except PyError (PairEvaluation F) :=
  let accepted := relationshipRejections reading.fit engine.settings == []
  let scored := { empty with fit := some reading.fit, zscore := some reading.zscore }
  let obstacles := engine.entryObstacles call reading
  let positive := decide (∃ z ∈ reading.zscore, 0 < z)
  let direction := if positive then SpreadDirection.shortSpread else .longSpread
  if obstacles ≠ [] then
    .ok { scored with reasons := obstacles, acceptedRelationship := accepted }
  else if ¬ ∃ z ∈ reading.zscore, engine.settings.entryZ ≤ PyFloat.abs z then
    .ok { scored with
      acceptedRelationship := accepted
      reasons := ["NO_ENTRY_THRESHOLD"]
      openRiskAttention := false }
  else do
    let reasons := [if positive then "POSITIVE_SPREAD_SHORT" else "NEGATIVE_SPREAD_LONG"]
    let route ← shortRoute call direction
    if route = false then .ok { scored with reasons := ["SHORT_ROUTE_INELIGIBLE"] }
    else
      let intent ← engine.pairIntent call reading .enter direction reading.fit call.now
        empty.inputHash reasons
      .ok { scored with
        intent := some intent
        acceptedRelationship := accepted
        reasons := reasons
        openRiskAttention := false }

/-- The decision (`alphas/pairs_engine.py:166-296`). -/
def decide (empty : PairEvaluation F) (admitted : PairAdmitted) (fit : PairFit F) :
    Except PyError (PairEvaluation F) := do
  let score ← spreadZ admitted.window.last ((call.position.map (·.entryFit)).getD fit)
  let isLiquid ← liquid call.liquidity call.candidate engine.settings call.now
  let reading : PairReading F := ⟨admitted, fit, score, isLiquid⟩
  match call.position with
  | some position => engine.decideOpen call empty reading position
  | none => engine.decideFlat call empty reading

/-- The evaluation behind the first gates (`alphas/pairs_engine.py:89-296`). -/
def evaluateInputs (empty : PairEvaluation F) : Except PyError (PairEvaluation F) :=
  match engine.inputGate call with
  | .error e =>
    if inputsCaught e then .ok { empty with reasons := ["INPUT_UNAVAILABLE_OR_AMBIGUOUS"] }
    else .error e
  | .ok admitted =>
    let empty := { empty with
      inputHash := contentHash
        (PairInputs.mk call.candidate admitted.window call.liquidity call.position) }
    match fitPair admitted.window.training engine.settings engine.diagnostics with
    | .error _ => .ok { empty with reasons := ["STATISTICAL_DIAGNOSTICS_UNAVAILABLE"] }
    | .ok fit => engine.decide call empty admitted fit

/-- `PairsEngine.evaluate` (`alphas/pairs_engine.py:59-296`). -/
def evaluate : Except PyError (PairEvaluation F) := do
  let _ ← utc call.now
  let empty := engine.emptyEvaluation call
  if call.mode = .live then .ok { empty with reasons := ["PAIR_LIVE_DISABLED"] }
  else if engine.settings.enabled = false then .ok { empty with reasons := ["ALPHA_DISABLED"] }
  else engine.evaluateInputs call empty

end PairsEngine

end Godzilla.Alphas
