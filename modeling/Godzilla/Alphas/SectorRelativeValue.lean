import Godzilla.Alphas.PairsData
import Godzilla.Alphas.Ranking
import Godzilla.Alphas.RelativeValueBeta
import Godzilla.Config.Modes
import Godzilla.Universe.Generation

/-!
# Sector relative value

`SectorRelativeValue.evaluate` (`alphas/sector_relative_value.py`): the gates on state,
inventory, session and cross-section, one candidate or one report for each member of the
universe, and for each sector a basket of its leaders against its laggards or a report. A
`ValueError` inside the reading of a member, of the session or of the weights becomes a
reason; any other error leaves the call, and so does one of the dates outside these blocks.
-/

namespace Godzilla.Alphas
open Godzilla Misc Features MarketData MarketState Universe

/-- `SectorRelativeValue` (`alphas/sector_relative_value.py:66-73`). -/
structure SectorRelativeValue (F : Type) [PyFloat F] where
  settings : RelativeValueSettings F
  calendar : ExchangeCalendar
  timezone : String := "Asia/Kolkata"

/-- The arguments of `evaluate` (`alphas/sector_relative_value.py:75-84`). -/
structure RelativeValueCall (F : Type) [PyFloat F] [Platform] where
  observations : List (RelativeValueObservation F)
  universeSnapshot : UniverseSnapshot
  master : InstrumentMasterSnapshot
  state : StateDecision F
  inventory : RelativeValueInventory
  now : Instant
  mode : TradingMode
  generatedAware : GeneratedAware := {}

/-- `RelativeValueReport` (`alphas/sector_relative_value.py:32-34`). -/
structure RelativeValueReport where
  entity : String
  reasons : List String
  deriving DecidableEq

/-- `RelativeValueResult` (`alphas/sector_relative_value.py:37-40`). -/
structure RelativeValueResult (F : Type) [PyFloat F] where
  intents : List (RelativeValueIntent F) := []
  reports : List RelativeValueReport := []
  reasons : List String

/-- `RankedSecurity` (`alphas/sector_relative_value.py:43-49`). -/
structure RankedSecurity (F : Type) [PyFloat F] where
  instrumentId : String
  sector : String
  strength : F
  percentile : F := 0
  beta : BetaEstimate F
  featureHash : Digest

/-- `_CrossSection` (`alphas/sector_relative_value.py:52-53`). -/
structure RankedCrossSection (F : Type) [PyFloat F] where
  candidates : List (RankedSecurity F)

/-- What the session gate lets through. -/
structure RelativeValueWindow where
  opening : Instant
  flatten : Instant

section Reading

variable {F : Type} [PyFloat F]

/-- `numeric` (`alphas/sector_relative_value.py:56-63`). -/
def RelativeValueObservation.numeric (item : RelativeValueObservation F) (name : String) :
    Except PyError F :=
  match (item.current.snapshot.lookup name).bind (·.value) with
  | none => .error (.valueError ("FEATURE_MISSING:" ++ name))
  | some value => .ok value

/-- The limits on liquidity (`alphas/sector_relative_value.py:198-204`): what follows a limit
    that fails is not read. -/
def checkLiquidity (item : RelativeValueObservation F) (cfg : RelativeValueSettings F) :
    Except PyError Unit := do
  let rejected := PyError.valueError "LIQUIDITY_REJECTED"
  let spread ← item.numeric "liquidity.spread_bps"
  if ¬ (0 ≤ spread ∧ spread ≤ cfg.maxSpreadBps) then .error rejected
  else do
    let age ← item.numeric "liquidity.quote_age"
    if ¬ (0 ≤ age ∧ age ≤ cfg.maxQuoteAgeSeconds) then .error rejected
    else do
      let adv ← item.numeric "liquidity.adv"
      if adv < cfg.minAdv then .error rejected
      else do
        let turnover ← item.numeric "liquidity.average_daily_turnover"
        if turnover < cfg.minTurnover then .error rejected else .ok ()

/-- `strength` (`alphas/sector_relative_value.py:205-207`). -/
def residualStrength (item : RelativeValueObservation F) (cfg : RelativeValueSettings F) :
    Except PyError F := do
  let sector ← item.numeric "stock.relative_sector_30m"
  let market ← item.numeric "stock.relative_market_30m"
  .ok (cfg.sectorResidualWeight * sector + (1 - cfg.sectorResidualWeight) * market)

/-- Build a `RankedSecurity`, raising what its fields raise. -/
def RankedSecurity.validate (security : RankedSecurity F) [Platform] :
    Except PyError (RankedSecurity F) :=
  if PyFloat.isFinite security.strength = false then
    .error (invalid "RankedSecurity" "strength: Input should be a finite number")
  else .ok security

/-- Build a `RelativeValueLeg`, raising what its fields raise. -/
def RelativeValueLeg.validate [Platform] (instrument : Instrument) (security : RankedSecurity F)
    (sector : String) (side : Side) (gross : F) : Except PyError (RelativeValueLeg F) :=
  if PyFloat.isFinite gross = false ∨ PyFloat.isFinite security.strength = false ∨
      PyFloat.isFinite security.percentile = false then
    .error (invalid "RelativeValueLeg" "Input should be a finite number")
  else if hgross : 0 < gross ∧ gross < 1 then
    if hpercentile : 0 ≤ security.percentile ∧ security.percentile ≤ 1 then
      .ok
        { entityId := securityId instrument
          instrumentId := security.instrumentId
          symbol := instrument.symbol
          sector := sector
          side := side
          grossFraction := gross
          residualStrength := security.strength
          percentile := security.percentile
          beta := security.beta
          featureHash := security.featureHash
          gross_range := hgross
          percentile_range := hpercentile }
    else .error (invalid "RelativeValueLeg" "percentile out of range")
  else .error (invalid "RelativeValueLeg" "gross_fraction out of range")

/-- Build a `RelativeValueRiskReference`, raising what its fields raise. -/
def RelativeValueRiskReference.validate [Platform] (net netBeta longBeta shortBeta : F)
    (flattenBy : Instant) : Except PyError (RelativeValueRiskReference F) :=
  if ∃ x ∈ [net, netBeta, longBeta, shortBeta], PyFloat.isFinite x = false then
    .error (invalid "RelativeValueRiskReference" "Input should be a finite number")
  else if h : 0 < longBeta ∧ 0 < shortBeta then
    .ok
      { signedNetGross := net
        signedBetaGross := netBeta
        longBeta := longBeta
        shortBeta := shortBeta
        flattenBy := flattenBy
        betas_pos := h }
  else .error (invalid "RelativeValueRiskReference" "Input should be greater than 0")

end Reading

variable {F : Type} [PyFloat F] [Platform]

namespace RelativeValueCall

variable (call : RelativeValueCall F)

/-- Whether the state or health forbids the alpha (`alphas/sector_relative_value.py:93-105`). -/
def blocked : Prop :=
  call.state.timestamp ≠ call.now ∨
  (call.state.state = .riskOff ∨ call.state.state = .openShock) ∨
  call.state.grossRiskMultiplier ≤ 0 ∨
  AlphaFamily.sectorRelativeValue ∉ call.state.allowedAlphaFamilies ∨
  call.state.evidence.health.blocksNewEntries = true ∨
  call.state.evidence.health.systemStatus ≠ .healthy ∨
  call.state.evidence.health.riskStatus ≠ .healthy ∨
  ¬ ((0 : F) ≤ PyFloat.seconds (call.now - call.state.evidence.health.observedAt) ∧
    PyFloat.seconds (call.now - call.state.evidence.health.observedAt) ≤
      (PyFloat.ofInt call.state.settings.healthMaxAgeSeconds : F))

/-- Whether the inventory is partial, of the future or stale
    (`alphas/sector_relative_value.py:106-112`). -/
def inventoryUnavailable (cfg : RelativeValueSettings F) : Prop :=
  call.inventory.complete = false ∨
  ¬ ((0 : F) ≤ PyFloat.seconds (call.now - call.inventory.observedAt) ∧
    PyFloat.seconds (call.now - call.inventory.observedAt) ≤ cfg.maxInventoryAgeSeconds)

/-- `selected` (`alphas/sector_relative_value.py:137-142`): the observations of now, by their
    instrument. -/
def selected : List (RelativeValueObservation F) :=
  sortOn (·.current.snapshot.entity)
    (call.observations.filter fun o => decide (o.current.snapshot.timestamp = call.now))

/-- `instruments[token]`. -/
def instrument (token : String) : Except PyError Instrument :=
  match call.master.byToken.get? token with
  | none => .error (.keyError (Platform.reprStr token))
  | some instrument => .ok instrument

/-- Whether the universe, the master and the observations are not of today, or not one for
    each long token (`alphas/sector_relative_value.py:145-159`). -/
def ambiguous (day : Date) : Prop :=
  call.universeSnapshot.asOf ≠ day ∨ call.master.asOf ≠ day ∨
  call.now < call.universeSnapshot.generatedAt ∨ call.now < call.master.generatedAt ∨
  call.universeSnapshot.instrumentSnapshotId ≠ call.master.snapshotId ∨
  call.master.byToken.size ≠ call.master.instruments.length ∨
  ¬ (call.master.instruments.map securityId).Nodup ∨
  ¬ call.universeSnapshot.longTokens.Nodup ∨
  ¬ call.universeSnapshot.shortTokens ⊆ call.universeSnapshot.longTokens ∨
  ¬ (call.selected.map (·.current.snapshot.entity) ⊆ call.universeSnapshot.longTokens ∧
    call.universeSnapshot.longTokens ⊆ call.selected.map (·.current.snapshot.entity)) ∨
  call.selected.length ≠ call.universeSnapshot.longTokens.dedup.length ∨
  ¬ call.universeSnapshot.longTokens ⊆ call.master.byToken.keys

/-- `{r.entity_id for r in inventory.reservations}`. -/
def reserved : List Uuid := call.inventory.reservations.map (·.entityId)

/-- Whether a member's context or provenance is not what the call requires
    (`alphas/sector_relative_value.py:175-197`). -/
def mismatched (instrument : Instrument) (item : RelativeValueObservation F) : Prop :=
  let snapshot := item.current.snapshot
  let context := item.current.context
  context.entity.instrumentId ≠ instrument.token ∨
  context.sector = none ∨ context.nifty = none ∨
  (∃ sector ∈ context.sector, sector.instrumentId ≠ instrument.sector) ∨
  call.now < context.knownAt ∨ ¬ (context.validFrom ≤ call.now ∧ call.now < context.validTo) ∨
  context.universeVersion ≠ Platform.uuidStr call.universeSnapshot.snapshotId ∨
  snapshot.contextHash ≠ contentHash context ∨
  (snapshot.codeCommit, snapshot.configHash, snapshot.dataSnapshot, snapshot.featureSetHash) ≠
    (call.state.codeCommit, call.state.configHash, call.state.dataSnapshot,
      call.state.evidence.featureSetHash)

instance : Decidable call.blocked := inferInstanceAs (Decidable (_ ∨ _))
instance (cfg : RelativeValueSettings F) : Decidable (call.inventoryUnavailable cfg) :=
  inferInstanceAs (Decidable (_ ∨ _))
instance (day : Date) : Decidable (call.ambiguous day) := inferInstanceAs (Decidable (_ ∨ _))
instance (instrument : Instrument) (item : RelativeValueObservation F) :
    Decidable (call.mismatched instrument item) :=
  inferInstanceAs (Decidable (_ ∨ _))

end RelativeValueCall

namespace SectorRelativeValue

variable (engine : SectorRelativeValue F) (call : RelativeValueCall F)

/-- `day`. -/
def day : Date := (Platform.zoneInfo engine.timezone).localDate call.now

/-- The window of the session of the day (`alphas/sector_relative_value.py:117-133`). -/
def sessionTimes (session : Session) : Except PyError RelativeValueWindow := do
  let opening ← combineIn session.timezone session.sessionDate session.times.openTime
  let final ← combineIn session.timezone session.sessionDate session.times.finalEntryTime
  let flatten ← combineIn session.timezone session.sessionDate session.times.flattenStartTime
  if ¬ (opening < call.now ∧ call.now < min final flatten) ∨
      (call.now - opening) % secondsOf 300 ≠ 0 then
    .error (.valueError "ENTRY_WINDOW_BLOCKED")
  else .ok ⟨opening, flatten⟩

/-- The body of the session gate (`alphas/sector_relative_value.py:113-133`). -/
def sessionGate : Except PyError RelativeValueWindow := do
  let day ← localDateIn engine.timezone call.now
  let session ← ofCalendar (engine.calendar.sessionOn day)
  match session with
  | none => .error (.valueError "SESSION_UNAVAILABLE")
  | some session => sessionTimes call session

/-- The body of the loop over the members (`alphas/sector_relative_value.py:165-217`). -/
def candidate (opening : Instant) (instrument : Instrument) (item : RelativeValueObservation F) :
    Except PyError (RankedSecurity F) :=
  if ¬ instrument.Eligible (engine.day call) then .error (.valueError "INSTRUMENT_INELIGIBLE")
  else if call.reserved.contains (securityId instrument) then
    .error (.valueError "STAT_ARB_OR_RV_INVENTORY_OVERLAP")
  else if call.mismatched instrument item then
    .error (.valueError "SECTOR_CONTEXT_OR_PROVENANCE_MISMATCH")
  else
    match item.current.context.nifty with
    -- excluded by `mismatched`
    | none => .error (.valueError "SECTOR_CONTEXT_OR_PROVENANCE_MISMATCH")
    | some nifty => do
      checkLiquidity item engine.settings
      let strength ← residualStrength item engine.settings
      let beta ← estimateBeta item.history item.current.context.entity nifty call.now opening
        engine.settings
      RankedSecurity.validate
        { instrumentId := instrument.token
          sector := instrument.sector
          strength := strength
          beta := beta
          featureHash := item.current.snapshot.snapshotHash }

/-- One turn of the loop over the members (`alphas/sector_relative_value.py:162-219`): a
    candidate or a report. -/
def member (opening : Instant) (item : RelativeValueObservation F) :
    Except PyError (RankedSecurity F ⊕ RelativeValueReport) := do
  let instrument ← call.instrument item.current.snapshot.entity
  match engine.candidate call opening instrument item with
  | .ok security => .ok (.inl security)
  | .error e =>
    if e.isValueError then .ok (.inr ⟨instrument.token, [e.text]⟩) else .error e

/-- `n` (`alphas/sector_relative_value.py:235`). -/
def membersPerSide : Nat :=
  if engine.settings.construction = .pair then 1 else engine.settings.membersPerSide

/-- `leaders` (`alphas/sector_relative_value.py:236-241`). -/
def leaders (ranked : List (Instrument × RankedSecurity F)) :
    List (Instrument × RankedSecurity F) :=
  (sortOn (fun c => toLex (-c.2.strength, securityId c.1))
    (ranked.filter fun c => decide (1 - engine.settings.tailFraction ≤ c.2.percentile))).take
    engine.membersPerSide

/-- `laggards` (`alphas/sector_relative_value.py:242-253`). -/
def laggards (ranked : List (Instrument × RankedSecurity F)) :
    List (Instrument × RankedSecurity F) :=
  (sortOn (fun c => toLex (c.2.strength, securityId c.1))
    (ranked.filter fun c => decide (c.2.percentile ≤ engine.settings.tailFraction ∧
      c.2.instrumentId ∈ call.universeSnapshot.shortTokens ∧ c.1.foEligible = true))).take
    engine.membersPerSide

/-- Whether the tails are short of members or too close
    (`alphas/sector_relative_value.py:254-259`). -/
def insufficient (leaders laggards : List (Instrument × RankedSecurity F)) : Prop :=
  leaders.length ≠ engine.membersPerSide ∨ laggards.length ≠ engine.membersPerSide ∨
  ∃ lowest ∈ (leaders.map (·.2.strength)).min?, ∃ highest ∈ (laggards.map (·.2.strength)).max?,
    lowest - highest < engine.settings.minResidualGap

instance (leaders laggards : List (Instrument × RankedSecurity F)) :
    Decidable (engine.insufficient leaders laggards) :=
  inferInstanceAs (Decidable (_ ∨ _))

/-- The legs of one side (`alphas/sector_relative_value.py:275-290`). -/
def legsOn (sector : String) (side : Side) (weight : F)
    (members : List (Instrument × RankedSecurity F)) : Except PyError (List (RelativeValueLeg F)) :=
  members.mapM fun c =>
    RelativeValueLeg.validate c.1 c.2 sector side (weight / PyFloat.ofInt engine.membersPerSide)

/-- `fmean(c.beta.beta for c in members)`. -/
def meanBeta (members : List (Instrument × RankedSecurity F)) : F :=
  PyFloat.fmean (members.map (·.2.beta.beta))

/-- `entity` (`alphas/sector_relative_value.py:291-294`). -/
def basketId (legs : List (RelativeValueLeg F)) : Uuid :=
  Platform.uuid5 ("godzilla:rv-basket:" ++
    ":".intercalate ((sortOn id (legs.map (·.entityId))).map Platform.uuidStr))

/-- The intent of a sector (`alphas/sector_relative_value.py:275-331`). -/
def basket (flatten : Instant) (digest : Digest) (sector : String)
    (leaders laggards : List (Instrument × RankedSecurity F)) (longWeight shortWeight : F) :
    Except PyError (RelativeValueIntent F) := do
  let longBeta := meanBeta leaders
  let shortBeta := meanBeta laggards
  let longs ← engine.legsOn sector .long longWeight leaders
  let shorts ← engine.legsOn sector .short shortWeight laggards
  let entity := basketId (longs ++ shorts)
  let risk ← RelativeValueRiskReference.validate (longWeight - shortWeight)
    (longWeight * longBeta - shortWeight * shortBeta) longBeta shortBeta flatten
  RelativeValueIntent.validate
    { signalId := Platform.uuid5 ("godzilla:" ++ relativeValueAlphaId ++ ":" ++
        Platform.uuidStr entity ++ ":" ++ Platform.isoformat call.now)
      entityId := entity
      timestamp := call.now
      sector := sector
      legs := longs ++ shorts
      hedgeRatio := shortWeight / longWeight
      riskReference := risk
      execution := ⟨engine.settings.maxLegLagSeconds, engine.settings.positive _ (by simp)⟩
      reasons := ["SECTOR_LEADER_LAGGARD", "TRAINING_ONLY_BETA", "NET_AND_BETA_LIMITS_PASSED"]
      settings := engine.settings
      universeHash := contentHash call.universeSnapshot
      masterHash := contentHash call.master
      inventoryHash := contentHash call.inventory
      stateHash := call.state.decisionHash
      crossSectionHash := digest
      codeCommit := call.state.codeCommit
      configHash := call.state.configHash
      dataSnapshot := call.state.dataSnapshot
      featureSetHash := call.state.evidence.featureSetHash }

/-- The members of a sector, each with its percentile and its instrument
    (`alphas/sector_relative_value.py:231-234`). -/
def ranked (group : List (RankedSecurity F)) :
    Except PyError (List (Instrument × RankedSecurity F)) := do
  let ranks ← percentiles (group.map (·.strength))
  (group.zip ranks).mapM fun (c, p) => do
    let instrument ← call.instrument c.instrumentId
    .ok (instrument, { c with percentile := p })

/-- One turn of the loop over the sectors (`alphas/sector_relative_value.py:226-331`): an intent
    or a report. -/
def sectorTurn (flatten : Instant) (candidates : List (RankedSecurity F)) (sector : String) :
    Except PyError (RelativeValueIntent F ⊕ RelativeValueReport) :=
  let group := candidates.filter fun c => decide (c.sector = sector)
  if group.length < engine.settings.minimumSectorSize then
    .ok (.inr ⟨sector, ["SECTOR_WARMUP"]⟩)
  else do
    let ranked ← ranked call group
    let leaders := engine.leaders ranked
    let laggards := engine.laggards call ranked
    if engine.insufficient leaders laggards then
      .ok (.inr ⟨sector, ["TAILS_OR_RESIDUAL_GAP_INSUFFICIENT"]⟩)
    else
      match neutralWeights (meanBeta leaders) (meanBeta laggards) engine.settings with
      | .error e => if e.isValueError then .ok (.inr ⟨sector, [e.text]⟩) else .error e
      | .ok (longWeight, shortWeight) => do
        let intent ← engine.basket call flatten (contentHash (RankedCrossSection.mk candidates))
          sector leaders laggards longWeight shortWeight
        .ok (.inl intent)

/-- `sorted({c.sector for c in candidates})`. -/
def sectors (candidates : List (RankedSecurity F)) : List String :=
  sortOn id (candidates.map (·.sector)).dedup

/-- What follows the gates (`alphas/sector_relative_value.py:160-334`). -/
def construct (window : RelativeValueWindow) : Except PyError (RelativeValueResult F) := do
  let members ← call.selected.mapM (engine.member call window.opening)
  let candidates := members.filterMap Sum.getLeft?
  let reports := members.filterMap Sum.getRight?
  if 1 < (candidates.map (·.beta.marketHash)).dedup.length then
    .ok { reports := reports, reasons := ["INCONSISTENT_MARKET_TRAINING"] }
  else do
    let turns ← (sectors candidates).mapM (engine.sectorTurn call window.flatten candidates)
    .ok
      { intents := turns.filterMap Sum.getLeft?
        reports := reports ++ turns.filterMap Sum.getRight?
        reasons := ["EVALUATION_COMPLETE"] }

/-- What follows the session gate (`alphas/sector_relative_value.py:136-334`). -/
def evaluateWindow (window : RelativeValueWindow) : Except PyError (RelativeValueResult F) := do
  readGeneration call.generatedAware call.universeSnapshot call.master (engine.day call) call.now
  if call.ambiguous (engine.day call) then
    .ok { reasons := ["CROSS_SECTION_OR_MASTER_AMBIGUOUS"] }
  else engine.construct call window

/-- What follows the gates on state and inventory
    (`alphas/sector_relative_value.py:113-334`). -/
def evaluateSession : Except PyError (RelativeValueResult F) :=
  match engine.sessionGate call with
  | .error e => if blocksSession e then .ok { reasons := [e.text] } else .error e
  | .ok window => engine.evaluateWindow call window

/-- `SectorRelativeValue.evaluate` (`alphas/sector_relative_value.py:75-334`). -/
def evaluate : Except PyError (RelativeValueResult F) := do
  let _ ← utc call.now
  if call.mode = .live then .ok { reasons := ["LIVE_VALIDATION_REQUIRED"] }
  else if engine.settings.enabled = false then .ok { reasons := ["ALPHA_DISABLED"] }
  else if call.blocked then .ok { reasons := ["STATE_OR_HEALTH_BLOCKED"] }
  else if call.inventoryUnavailable engine.settings then
    .ok { reasons := ["INVENTORY_UNAVAILABLE"] }
  else engine.evaluateSession call

end SectorRelativeValue

end Godzilla.Alphas
