import Godzilla.Alphas.BetaOrder
import Godzilla.Alphas.MomentumSelection
import Godzilla.Alphas.PairsAttention
import Godzilla.Alphas.RelativeValueReturns

/-!
# Reservations of active pairs

`stat_arb_inventory` (`alphas/relative_value_inventory.py`): the securities of pair intents that
are active or pending, by an identity that outlives tokens and symbols. The engine of relative
value leaves them alone, whatever the instruments are called by then.
-/

namespace Godzilla.Alphas
open Godzilla Misc Features MarketData MarketState Universe

section Inventory

variable {F : Type} [PyFloat F] [Platform]

/-- `entity_id` and `reference_id` of the reservation of a leg
    (`alphas/relative_value_inventory.py:37-46`). -/
def reservationOf (master : InstrumentMasterSnapshot) (intent : PairSignalIntent F)
    (leg : PairLeg F) : Except PyError ReservedSecurity :=
  match master.byToken.get? leg.instrumentId with
  | none =>
    .error (.valueError "inventory token cannot be resolved; entries must block")
  | some instrument =>
    .ok
      { entityId := securityId instrument
        ownerAlpha := .pairs
        referenceId := Platform.uuidStr intent.signalId }

/-- The body of the loop over the intents (`alphas/relative_value_inventory.py:29-46`); `generated`
    is `utc(master.generated_at)`. -/
def reservationsOf (master : InstrumentMasterSnapshot) (observedAt generated : Instant)
    (intent : PairSignalIntent F) : Except PyError (List ReservedSecurity) :=
  if observedAt < intent.timestamp then
    .error (.valueError "inventory cannot contain future intents")
  else do
    let day ← localDateIn "Asia/Kolkata" intent.timestamp
    if master.asOf ≠ day ∨ intent.timestamp < generated then
      .error (.valueError
        "inventory requires the entry-date master, not a later token mapping")
    else do
      let left ← reservationOf master intent intent.legs.1
      let right ← reservationOf master intent intent.legs.2
      .ok [left, right]

/-- Build the inventory, raising what its fields raise. -/
def RelativeValueInventory.validate (inventory : RelativeValueInventory) :
    Except PyError RelativeValueInventory :=
  if inventory.snapshotId = "" then
    .error (invalid "RelativeValueInventory" "snapshot_id: String should have at least 1 character")
  else .ok inventory

/-- `stat_arb_inventory` (`alphas/relative_value_inventory.py:16-52`); `aware` tells whether the
    `generated_at` of the master carries a zone. -/
def statArbInventory (activeOrPending : List (PairSignalIntent F))
    (master : InstrumentMasterSnapshot) (aware : Bool) (observedAt : Instant)
    (snapshotId : String) (complete : Bool) : Except PyError RelativeValueInventory := do
  let observedAt ← utc observedAt
  if master.byToken.size ≠ master.instruments.length then
    .error (.valueError "inventory instrument mapping unavailable")
  else do
    let generated ← utcOf aware master.generatedAt
    if observedAt < generated then
      .error (.valueError "inventory instrument mapping unavailable")
    else do
      let reservations ← activeOrPending.mapM (reservationsOf master observedAt generated)
      RelativeValueInventory.validate
        { snapshotId := snapshotId
          observedAt := observedAt
          complete := complete
          reservations := sortOn (fun r => toLex (r.entityId, r.referenceId)) reservations.flatten }

/-- Two instruments are one security: their exchange, segment and ISIN agree up to case and
    blanks around them. Tokens and symbols do not count. -/
def SameSecurity (instrument other : Instrument) : Prop :=
  Platform.upper (Platform.strip instrument.exchange) =
      Platform.upper (Platform.strip other.exchange) ∧
    Platform.upper (Platform.strip instrument.segment) =
      Platform.upper (Platform.strip other.segment) ∧
    Platform.upper (Platform.strip instrument.isin) = Platform.upper (Platform.strip other.isin)

omit [PyFloat F] in
theorem SameSecurity.securityId_eq {instrument other : Instrument}
    (h : SameSecurity instrument other) : securityId instrument = securityId other := by
  rw [securityId, securityId, h.1, h.2.1, h.2.2]

/-- The instruments of the legs of an intent, as a master names them. -/
def TradedBy (master : InstrumentMasterSnapshot) (intent : PairSignalIntent F)
    (instrument : Instrument) : Prop :=
  instrument ∈ master.instruments ∧
    (instrument.token = intent.legs.1.instrumentId ∨ instrument.token = intent.legs.2.instrumentId)

section Reserved

variable {master : InstrumentMasterSnapshot} {observedAt generated : Instant}
  {intent : PairSignalIntent F}

/-- The reservation of a leg is of the one instrument with its token. -/
theorem reservationOf_ok {leg : PairLeg F} {reserved : ReservedSecurity}
    (htokens : (master.instruments.map (·.token)).Nodup)
    (h : reservationOf master intent leg = .ok reserved) {instrument : Instrument}
    (hmem : instrument ∈ master.instruments) (htoken : instrument.token = leg.instrumentId) :
    reserved.entityId = securityId instrument := by
  have hfound : master.byToken.get? leg.instrumentId = some instrument :=
    (Dict.get?_index_of_nodup htokens).mpr ⟨hmem, htoken⟩
  rw [reservationOf, hfound] at h
  obtain rfl := Except.ok.inj h
  rfl

/-- Both legs of an intent are reserved. -/
theorem mem_reservationsOf {reservations : List ReservedSecurity}
    (htokens : (master.instruments.map (·.token)).Nodup)
    (h : reservationsOf master observedAt generated intent = .ok reservations)
    {instrument : Instrument} (htraded : TradedBy master intent instrument) :
    securityId instrument ∈ reservations.map (·.entityId) := by
  obtain ⟨hmem, htoken⟩ := htraded
  obtain ⟨-, h⟩ := guard_ok h
  obtain ⟨day, -, h⟩ := bind_ok h
  obtain ⟨-, h⟩ := guard_ok h
  obtain ⟨left, hleft, h⟩ := bind_ok h
  obtain ⟨right, hright, h⟩ := bind_ok h
  obtain rfl := Except.ok.inj h
  rcases htoken with htoken | htoken
  · rw [← reservationOf_ok htokens hleft hmem htoken]
    exact List.mem_cons_self
  · rw [← reservationOf_ok htokens hright hmem htoken]
    exact List.mem_cons_of_mem _ List.mem_cons_self

/-- Whatever instrument the intents trade is reserved. -/
theorem mem_statArbInventory {activeOrPending : List (PairSignalIntent F)} {aware complete : Bool}
    {snapshotId : String} {inventory : RelativeValueInventory}
    (h : statArbInventory activeOrPending master aware observedAt snapshotId complete =
      .ok inventory)
    (hintent : intent ∈ activeOrPending) {instrument : Instrument}
    (htraded : TradedBy master intent instrument) :
    securityId instrument ∈ inventory.reservations.map (·.entityId) := by
  obtain ⟨observedAt, -, h⟩ := bind_ok h
  obtain ⟨hsize, h⟩ := guard_ok h
  obtain ⟨generated, -, h⟩ := bind_ok h
  obtain ⟨-, h⟩ := guard_ok h
  obtain ⟨reservations, hreservations, h⟩ := bind_ok h
  obtain ⟨-, h⟩ := guard_ok h
  obtain rfl := Except.ok.inj h
  have htokens : (master.instruments.map (·.token)).Nodup :=
    (Dict.size_index_eq_length_iff _ _).mp (not_not.mp hsize)
  obtain ⟨found, hfound, hbuilt⟩ :=
    exists_right_of_related (related_of_mapM hreservations) hintent
  obtain ⟨reserved, hreserved, hid⟩ :=
    List.mem_map.mp (mem_reservationsOf htokens hbuilt htraded)
  refine List.mem_map.mpr ⟨reserved, ?_, hid⟩
  exact (sortOn_perm _ _).mem_iff.mpr (List.mem_flatten.mpr ⟨found, hfound, hreserved⟩)

end Reserved
end Inventory

section Exposure

variable [Platform] {engine : SectorRelativeValue ℚ} {call : RelativeValueCall ℚ}

/-- What an evaluation raises is raised where it reads its dates, before it builds an intent. -/
theorem evaluate_raises_dates : OnlyRaises (fun e => utc call.now = .error e ∨
    engine.sessionGate call = .error e ∨
      readGeneration call.generatedAware call.universeSnapshot call.master (engine.day call)
        call.now = .error e) (engine.evaluate call) := by
  refine OnlyRaises.bind (fun e h => .inl h) fun _ _ => ?_
  refine .ite (onlyRaises_ok _) (.ite (onlyRaises_ok _) (.ite (onlyRaises_ok _)
    (.ite (onlyRaises_ok _) ?_)))
  rw [SectorRelativeValue.evaluateSession]
  split
  · next e hgate => exact .ite (onlyRaises_ok _) (onlyRaises_error (.inr (.inl hgate)))
  next window hwindow =>
  refine OnlyRaises.bind (fun e h => .inr (.inr h)) fun _ _ => ?_
  by_cases hambiguous : call.ambiguous (engine.day call)
  · rw [if_pos hambiguous]
    exact onlyRaises_ok _
  · -- an unambiguous cross-section is constructed without an error
    obtain ⟨result, hresult, -⟩ := construct_ok engine (unambiguous_of_gate hambiguous)
      (flatten_of_sessionGate hwindow)
    rw [if_neg hambiguous, hresult]
    exact onlyRaises_ok _

/-- Whatever instrument of the master a leg names, no active pair trades that security, under
    these names or others. -/
theorem SoundResult.not_traded {F : Type} [PyFloat F] {result : RelativeValueResult ℚ}
    (h : SoundResult engine call result) {pairs : List (PairSignalIntent F)}
    {entryMaster : InstrumentMasterSnapshot} {aware complete : Bool} {observedAt : Instant}
    {snapshotId : String}
    (hinventory : statArbInventory pairs entryMaster aware observedAt snapshotId complete =
      .ok call.inventory)
    {intent : RelativeValueIntent ℚ} (hintent : intent ∈ result.intents)
    {leg : RelativeValueLeg ℚ} (hleg : leg ∈ intent.legs) {instrument : Instrument}
    (hlisted : instrument ∈ call.master.instruments) (htoken : instrument.token = leg.instrumentId)
    {pair : PairSignalIntent F} (hpair : pair ∈ pairs) {held : Instrument}
    (htraded : TradedBy entryMaster pair held) : ¬ SameSecurity instrument held := by
  intro hsame
  obtain ⟨named, hnamed, hentity, hname, -, -, hreserved, -⟩ :=
    (h.baskets intent hintent).legs leg hleg
  have hcall := unambiguous_of_gate (h.gates (List.ne_nil_of_mem hintent)).crossSection
  obtain rfl : instrument = named :=
    List.inj_on_of_nodup_map hcall.tokens hlisted hnamed (htoken.trans hname)
  refine hreserved ?_
  rw [hentity, hsame.securityId_eq]
  exact mem_statArbInventory hinventory hpair htraded

/-- An evaluation raises at its dates only, so no intent that it builds fails its validators. Its
    baskets are sound and share no security, and with an inventory of active pairs no leg is a
    security that one of these trades. -/
theorem evaluate_exposure {F : Type} [PyFloat F] (engine : SectorRelativeValue ℚ)
    (call : RelativeValueCall ℚ) :
    OnlyRaises (fun e => utc call.now = .error e ∨ engine.sessionGate call = .error e ∨
      readGeneration call.generatedAware call.universeSnapshot call.master (engine.day call)
        call.now = .error e) (engine.evaluate call) ∧
    ∀ result, engine.evaluate call = .ok result →
      (∀ intent ∈ result.intents, SoundBasket engine call intent) ∧
      (result.intents.flatMap fun intent => intent.legs.map (·.entityId)).Nodup ∧
      ∀ (pairs : List (PairSignalIntent F)) (entryMaster : InstrumentMasterSnapshot)
        (aware complete : Bool) (observedAt : Instant) (snapshotId : String),
        statArbInventory pairs entryMaster aware observedAt snapshotId complete =
          .ok call.inventory →
        ∀ intent ∈ result.intents, ∀ leg ∈ intent.legs, ∀ instrument ∈ call.master.instruments,
          instrument.token = leg.instrumentId →
            ∀ pair ∈ pairs, ∀ held, TradedBy entryMaster pair held →
              ¬ SameSecurity instrument held := by
  refine ⟨evaluate_raises_dates, fun result h => ?_⟩
  have hsound := (evaluate_spec engine call).2 result h
  refine ⟨hsound.baskets, hsound.distinct, ?_⟩
  intro pairs entryMaster aware complete observedAt snapshotId hinventory intent hintent leg hleg
    instrument hlisted htoken pair hpair held htraded
  exact hsound.not_traded hinventory hintent hleg hlisted htoken hpair htraded

end Exposure

end Godzilla.Alphas

/-! An active pair in INFY and TCS, and a later master that lists INFY under another token. -/

namespace Godzilla.Alphas.Sample
open Misc Features MarketData MarketState Universe Godzilla.MarketData.Sample Godzilla.Sample

theorem half_gross : (0 : ℚ) < 1 / 2 ∧ (1 / 2 : ℚ) < 1 := by norm_num

theorem sampleStd_pos : (0 : ℚ) < 1 := by norm_num

theorem noNet_range : (0 : ℚ) ≤ 0 ∧ (0 : ℚ) < 1 := by norm_num

theorem sampleLag_pos : (0 : ℚ) < 3 := by norm_num

/-- The fields of an entry into the pair at 10:00. -/
def activePairFields : PairIntentFields ℚ where
  signalId := Uuid.ofNat 7
  timestamp := afterOpen 45
  pairId := "INFY-TCS"
  action := .enter
  direction := .longSpread
  legs := (⟨"INFY", .long, 1 / 2, half_gross⟩, ⟨"TCS", .short, 1 / 2, half_gross⟩)
  hedgeRatio := 1
  riskReference := ⟨0, 1, 2, 2, 3, afterOpen 300, 0, sampleStd_pos, noNet_range⟩
  execution := ⟨3, sampleLag_pos⟩
  reasons := ["NEGATIVE_SPREAD_LONG"]
  fit := entryFit
  settings := pairsSettings
  candidate := pairCandidate
  inputHash := "digest"
  universeHash := "digest"
  stateHash := "digest"
  codeCommit := "commit"
  configHash := "config"
  dataSnapshot := "data"

theorem activePair_coupled : activePairFields.Coupled := by decide +kernel

def activePair : PairSignalIntent ℚ := ⟨activePairFields, activePair_coupled⟩

/-- The master of the entry. -/
def entryMaster : InstrumentMasterSnapshot :=
  ⟨"master", "1", "NSE", 0, 0, "source", [pairInstrument "INFY", pairInstrument "TCS"]⟩

/-- INFY under another token and symbol. -/
def renamed : Instrument := { pairInstrument "INFY" with token := "INFY-EQ", symbol := "INFY-EQ" }

/-- A later master of the sector. -/
def sectorMaster : InstrumentMasterSnapshot :=
  ⟨"master", "2", "NSE", 0, 0, "source",
    [renamed, pairInstrument "WIPRO", pairInstrument "HCLTECH"]⟩

/-- The reservations of the pair. -/
def pairInventory : RelativeValueInventory where
  snapshotId := "inventory"
  observedAt := afterOpen 50
  complete := true
  reservations := [⟨Uuid.ofNat 28, .pairs, "7"⟩, ⟨Uuid.ofNat 29, .pairs, "7"⟩]

theorem pairInventory_eq :
    statArbInventory [activePair] entryMaster true (afterOpen 50) "inventory" true =
      .ok pairInventory := by
  decide +kernel

theorem sector_names : ["liquidity.adv", "liquidity.average_daily_turnover",
    "liquidity.quote_age", "liquidity.spread_bps", "stock.relative_market_30m",
    "stock.relative_sector_30m"].Pairwise (· < ·) := by
  decide +kernel

/-- A liquid member whose return differs from those of its sector and market. -/
def sectorObservation (token : String) (residual : ℚ) : RelativeValueObservation ℚ where
  current :=
    { snapshot :=
        { entity := token
          timestamp := afterOpen 50
          featureSetHash := "features"
          contextHash := "digest"
          inputHash := "inputs"
          codeCommit := "commit"
          configHash := "config"
          dataSnapshot := "data"
          values :=
            let feature := MarketState.Sample.feature
            [ feature "liquidity.adv" 200000, feature "liquidity.average_daily_turnover" 20000000,
              feature "liquidity.quote_age" 1, feature "liquidity.spread_bps" 3,
              feature "stock.relative_market_30m" residual,
              feature "stock.relative_sector_30m" residual ]
          ordered_unique := sector_names }
      context :=
        { entity := ⟨token, "feed"⟩
          nifty := some ⟨"NIFTY", "feed"⟩
          sector := some ⟨"IT", "feed"⟩
          universeVersion := "1"
          knownAt := 0
          validFrom := 0
          validTo := daysOf 1
          window_ordered := momentum_window
          breadth_unique := List.nodup_nil
          sector_unique := List.nodup_nil } }
  history := (List.range 9).map fun slot =>
    { stock := betaBar token .equity slot (1 + slot % 2)
      market := betaBar "NIFTY" .index slot (1 + slot % 2) }

/-- The fields of a calm state that allows relative value. -/
def sectorStateFields : StateFields ℚ :=
  { Portfolio.Sample.state.toStateFields with
    timestamp := afterOpen 50
    stateSince := afterOpen 50
    allowedAlphaFamilies := [.sectorRelativeValue]
    evidence := { Portfolio.Sample.state.evidence with
      health := ⟨afterOpen 50, .healthy, .healthy, false, []⟩ } }

theorem sectorState_consistent : sectorStateFields.ConsistentPolicy :=
  ⟨by decide +kernel, by decide +kernel, le_refl _, rfl, by rintro (h | h) <;> cases h⟩

theorem sectorMembers_min : 2 ≤ 2 := Nat.le_refl 2

def sectorEngine : SectorRelativeValue ℚ where
  settings := { betaSettings with minimumSectorSize := 2, sector_min := sectorMembers_min }
  calendar := calendar

/-- A call at 10:05 that knows of the pair. -/
def sectorCall : RelativeValueCall ℚ where
  observations := [sectorObservation "INFY-EQ" (1 / 50), sectorObservation "WIPRO" (1 / 100),
    sectorObservation "HCLTECH" (-(1 / 100))]
  universeSnapshot := ⟨Uuid.ofNat 1, 0, 0, "master", "profile", ["HCLTECH", "INFY-EQ", "WIPRO"],
    ["HCLTECH"], []⟩
  master := sectorMaster
  state := ⟨sectorStateFields, sectorState_consistent⟩
  inventory := pairInventory
  now := afterOpen 50
  mode := .paper

/-- The legs of the baskets of a result. -/
def tokensOf (result : RelativeValueResult ℚ) : List (List (String × Side)) :=
  result.intents.map fun intent => intent.legs.map fun leg => (leg.instrumentId, leg.side)

theorem sectorCall_returns : (sectorEngine.evaluate sectorCall).toOption.map tokensOf =
    some [[("WIPRO", .long), ("HCLTECH", .short)]] := by
  decide +kernel

theorem infy_traded : TradedBy entryMaster activePair (pairInstrument "INFY") :=
  ⟨List.mem_cons_self, .inl rfl⟩

/-- INFY would lead its sector, and its new token does not let it in. -/
theorem evaluate_exposure_renamed :
    ∃ result, sectorEngine.evaluate sectorCall = .ok result ∧
      tokensOf result = [[("WIPRO", .long), ("HCLTECH", .short)]] ∧
      (∀ intent ∈ result.intents, SoundBasket sectorEngine sectorCall intent) ∧
      ∀ intent ∈ result.intents, ∀ leg ∈ intent.legs, leg.instrumentId ≠ renamed.token := by
  have hreturns := sectorCall_returns
  cases hrun : sectorEngine.evaluate sectorCall with
  | error e =>
    rw [hrun] at hreturns
    cases hreturns
  | ok result =>
    rw [hrun] at hreturns
    obtain ⟨hbaskets, -, hreserved⟩ :=
      (evaluate_exposure (F := ℚ) sectorEngine sectorCall).2 result hrun
    refine ⟨result, rfl, Option.some.inj hreturns, hbaskets, ?_⟩
    intro intent hintent leg hleg htoken
    exact hreserved [activePair] entryMaster true true (afterOpen 50) "inventory" pairInventory_eq
      intent hintent leg hleg renamed List.mem_cons_self htoken.symm activePair List.mem_cons_self
      (pairInstrument "INFY") infy_traded ⟨rfl, rfl, rfl⟩

end Godzilla.Alphas.Sample
