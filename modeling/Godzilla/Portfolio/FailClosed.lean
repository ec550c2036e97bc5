import Godzilla.MarketState.Runs
import Godzilla.Portfolio.Limits
import Mathlib.Tactic.NormNum

/-!
# New exposure is fail-closed

A position is added for a candidate only if every gate is open: the global
gates, the gates of the candidate, a correlation for each pair of securities and
a usable capacity for each leg. The lookups that raise and the broad `except`
around them leave no way around a missing input.
-/

namespace Godzilla.Portfolio
open Godzilla Features MarketState MarketData Ensemble Misc

variable {F : Type} [PyFloat F] [Platform] {inputs : AllocationInputs F}
  {calendar : ExchangeCalendar}

/-- What the portfolio, the state and the inputs as a whole must show. -/
structure SystemReady (inputs : AllocationInputs F) (calendar : ExchangeCalendar) : Prop where
  not_live : inputs.mode ≠ .live
  session : ∃ session, calendar.sessionOn (kolkata.localDate inputs.now) = .ok (some session) ∧
    session.instantAt session.times.openTime ≤ inputs.now ∧
    inputs.now < session.instantAt session.times.finalEntryTime
  portfolio_complete : inputs.portfolio.complete = true
  portfolio_open : inputs.portfolio.blocksNewEntries = false
  portfolio_fresh :
    Aged inputs.now inputs.portfolio.timestamp inputs.settings.maxInputAgeSeconds
  ensemble_current : inputs.ensemble.timestamp = inputs.now
  state_current : inputs.state.timestamp = inputs.now
  state_open : inputs.state.state ≠ .riskOff ∧ inputs.state.state ≠ .openShock
  multiplier_positive : 0 < inputs.state.grossRiskMultiplier
  health_open : inputs.state.evidence.health.blocksNewEntries = false
  system_healthy : inputs.state.evidence.health.systemStatus = .healthy
  risk_healthy : inputs.state.evidence.health.riskStatus = .healthy
  health_fresh : Aged inputs.now inputs.state.evidence.health.observedAt
    inputs.state.settings.healthMaxAgeSeconds
  existing_capped : withinCaps inputs.portfolio.positions inputs.settings = true
  keys_unique : KeysUnique inputs
  correlations_causal : inputs.correlations.trainingEnd < inputs.now ∧
    inputs.correlations.trainingEnd ≤ inputs.correlations.timestamp
  correlations_fresh :
    Aged inputs.now inputs.correlations.timestamp inputs.settings.maxInputAgeSeconds

/-- What the inputs of one candidate must show. -/
structure CandidateReady (inputs : AllocationInputs F) (c : NormalizedCandidate) : Prop where
  current : c.timestamp = inputs.now
  enabled : (inputs.registry.registration c.alphaId).enabled = true
  same_registry : c.registryHash = contentHash inputs.registry
  allowed : c.alphaId.family ∈ inputs.state.allowedAlphaFamilies
  health : ∃! health, health ∈ inputs.health ∧ health.alphaId = c.alphaId
  health_usable : ∀ health ∈ inputs.health, health.alphaId = c.alphaId →
    Aged inputs.now health.timestamp health.settings.healthMaxAgeSeconds ∧
    health.codeCommit = inputs.state.codeCommit ∧ health.configHash = inputs.state.configHash ∧
    health.dataSnapshot = inputs.state.dataSnapshot
  estimate : ∃! estimate, estimate ∈ inputs.estimates ∧ estimate.signalId = c.signalId
  estimate_fresh : ∀ estimate ∈ inputs.estimates, estimate.signalId = c.signalId →
    Aged inputs.now estimate.timestamp inputs.settings.maxInputAgeSeconds
  capacities : ∀ leg ∈ c.legs, ∃ capacity ∈ inputs.liquidity,
    capacity.entityId = leg.entityId ∧ CapacityUsable inputs capacity

/-- A correlation is supplied for two securities. -/
def Correlated (inputs : AllocationInputs F) (a b : Uuid) : Prop :=
  ∃ x ∈ inputs.correlations.estimates, ({x.left, x.right} : Finset Uuid) = {a, b}

/-- Each leg of `c` has a correlation with each position in the targets that `c` saw: the
    existing ones and the `earlier` ones, added before the bundle of `c`. -/
def CorrelationsSupplied (inputs : AllocationInputs F) (decision : PortfolioDecision)
    (c : NormalizedCandidate) : Prop :=
  ∃ earlier later, addedBy inputs decision =
      earlier ++ (addedBy inputs decision).filter (fun p => p.groupId = c.signalId) ++ later ∧
    ∀ leg ∈ c.legs, ∀ p ∈ inputs.portfolio.positions ++ earlier,
      Correlated inputs leg.entityId p.entityId

/-- Every gate of a candidate is open. -/
structure FailClosed (inputs : AllocationInputs F) (calendar : ExchangeCalendar)
    (decision : PortfolioDecision) (c : NormalizedCandidate) : Prop where
  system : SystemReady inputs calendar
  candidate : CandidateReady inputs c
  correlations : CorrelationsSupplied inputs decision c

theorem GateOpen.systemReady (h : GateOpen inputs calendar) : SystemReady inputs calendar := by
  have hallowed := h.allowed
  have hclear := h.unambiguous
  simp only [NewAllocationBlocked, MarketState.blocked, not_or, not_not, Bool.not_eq_false,
    Bool.not_eq_true, not_le] at hallowed
  simp only [InputAmbiguous, not_or, not_not, not_le, not_lt] at hclear
  obtain ⟨hlive, hcomplete, hopen, hfresh, hensemble, hstate, ⟨hriskOff, hshock⟩, hmultiplier,
    hentries, hsystem, hrisk, hhealth⟩ := hallowed
  obtain ⟨-, -, -, -, hcausal, hordered, hcorrelations⟩ := hclear
  exact {
    not_live := hlive
    session := h.session
    portfolio_complete := hcomplete
    portfolio_open := hopen
    portfolio_fresh := hfresh
    ensemble_current := hensemble
    state_current := hstate
    state_open := ⟨hriskOff, hshock⟩
    multiplier_positive := hmultiplier
    health_open := hentries
    system_healthy := hsystem
    risk_healthy := hrisk
    health_fresh := hhealth
    existing_capped := h.capped
    keys_unique := keysUnique_of_unambiguous h.unambiguous
    correlations_causal := ⟨hcausal, hordered⟩
    correlations_fresh := hcorrelations }

theorem Proposal.candidateReady (hkeys : KeysUnique inputs) {targets : List TargetPosition}
    {c : NormalizedCandidate} {health : AlphaHealthSnapshot F} {estimate : CandidateRiskEstimate}
    {amount : ℚ} (h : Proposal inputs targets c health estimate amount) :
    CandidateReady inputs c := by
  have havailable := h.available
  simp only [CandidateUnavailable, not_or, not_not, Bool.not_eq_false] at havailable
  obtain ⟨henabled, hregistry, hcurrent, hallowed, haged, hsame, -, hestimate⟩ := havailable
  obtain ⟨hcommit, hconfig, hdata⟩ : health.codeCommit = inputs.state.codeCommit ∧
      health.configHash = inputs.state.configHash ∧
      health.dataSnapshot = inputs.state.dataSnapshot := by
    simpa using hsame
  have hhealth := hkeys.health_found.mp h.health_found
  have hfound := hkeys.estimate_found.mp h.estimate_found
  have honly : ∀ health' ∈ inputs.health, health'.alphaId = c.alphaId → health' = health := by
    intro health' hmem halpha
    exact Option.some.inj ((hkeys.health_found.mpr ⟨hmem, halpha⟩).symm.trans h.health_found)
  have honly' : ∀ estimate' ∈ inputs.estimates, estimate'.signalId = c.signalId →
      estimate' = estimate := by
    intro estimate' hmem hid
    exact Option.some.inj ((hkeys.estimate_found.mpr ⟨hmem, hid⟩).symm.trans h.estimate_found)
  constructor
  · exact hcurrent
  · exact henabled
  · exact hregistry
  · exact hallowed
  · exact ⟨health, hhealth, fun health' ⟨hmem, halpha⟩ => honly health' hmem halpha⟩
  · intro health' hmem halpha
    rw [honly health' hmem halpha]
    exact ⟨haged, hcommit, hconfig, hdata⟩
  · exact ⟨estimate, hfound, fun estimate' ⟨hmem, hid⟩ => honly' estimate' hmem hid⟩
  · intro estimate' hmem hid
    rw [honly' estimate' hmem hid]
    exact hestimate
  · intro leg hleg
    obtain ⟨capacity, hget, husable, -⟩ := h.capacity leg hleg
    obtain ⟨hmem, hentity⟩ := hkeys.capacity_found.mp hget
    exact ⟨capacity, hmem, hentity, capacityUsable_iff.mp husable⟩

theorem correlated_of_get?_isSome {a b : Uuid}
    (h : (inputs.correlationsByPair.get? {a, b}).isSome) : Correlated inputs a b := by
  obtain ⟨value, hvalue⟩ := Option.isSome_iff_exists.mp h
  obtain ⟨x, hx, heq⟩ := List.mem_map.mp (Dict.mem_of_get?_ofList hvalue)
  exact ⟨x, hx, (Prod.mk.inj heq).1⟩

/-- If `allocate` adds a position for a candidate, every gate was open for it. -/
theorem allocate_failClosed {c : NormalizedCandidate} (hc : c ∈ inputs.ensemble.candidates)
    {p : TargetPosition} (hp : p ∈ addedBy inputs (allocate inputs calendar))
    (hgroup : p.groupId = c.signalId) :
    FailClosed inputs calendar (allocate inputs calendar) c := by
  obtain ⟨pair, hpair, rfl, -⟩ := taken_of_group hc hp hgroup
  obtain ⟨hgate, hpass⟩ := passed_of_taken hpair
  have hsystem := hgate.systemReady
  obtain ⟨before, after, health, estimate, hsplit, hproposal⟩ := hpass.decided pair hpair
  refine ⟨hsystem, hproposal.candidateReady hsystem.keys_unique,
    before.flatMap (additionsFor inputs), after.flatMap (additionsFor inputs), ?_, ?_⟩
  · have htaken : takenBy inputs (allocate inputs calendar) = before ++ pair :: after := hsplit
    rw [added_group hpair, addedBy_eq, htaken]
    simp
  · intro leg hleg q hq
    exact correlated_of_get?_isSome (hproposal.correlated leg hleg q hq)

end Godzilla.Portfolio

namespace Godzilla.Portfolio.Sample
open Features MarketState MarketData Ensemble Godzilla.Sample

/-- Half past ten on day 0, in the sample session. -/
def now : Instant := secondsOf 18000

/-- The default entry of an alpha. -/
def entry (alpha : AlphaId) : AlphaRegistration ℚ where
  alphaId := alpha
  budget_range := by decide +kernel
  floor_range := by decide +kernel
  ceiling_range := by decide +kernel
  ordered := by decide +kernel

/-- The default registry. -/
def registry : AlphaRegistry ℚ where
  entries := AlphaId.all.map entry
  covers := by decide
  each_once := rfl
  budgets := by decide +kernel

/-- A calm state that allows pairs. -/
def state : StateDecision ℚ where
  timestamp := now
  state := .chop
  candidate := .chop
  previousState := .chop
  stateSince := now
  confirmationCount := 2
  allowedAlphaFamilies := [.pairsStatArb]
  directionalSides := []
  grossRiskMultiplier := 1 / 2
  evidence :=
    { featureSnapshotHash := "snapshot"
      featureSetHash := "features"
      routerVersionHash := "digest"
      thresholds := []
      health :=
        { observedAt := now
          systemStatus := .healthy
          riskStatus := .healthy
          blocksNewEntries := false }
      sessionOpen := none
      reasons := [] }
  settings := Godzilla.MarketState.Sample.settings
  codeCommit := "commit"
  configHash := "config"
  dataSnapshot := "data"
  priorDecisionHash := none
  consistent := ⟨by decide +kernel, by decide +kernel, le_refl _, rfl, by rintro (h | h) <;> cases h⟩

/-- The health of an alpha without trades. -/
def health (alpha : AlphaId) : AlphaHealthSnapshot ℚ where
  alphaId := alpha
  timestamp := now
  trades := 0
  netExpectancy := none
  netPnl := 0
  drawdown := 0
  costs := 0
  slippageCost := 0
  regimes := []
  multiplier := ⟨1 / 2, 0, 1, by decide +kernel⟩
  lastIncreaseAt := now
  lastTradeAt := none
  settings :=
    { minimumMultiplier := 0
      initialMultiplier := 1 / 2
      maximumMultiplier := 1
      maxIncrease := 5 / 100
      maxReturnDrawdown := 5 / 100
      window_min := by decide
      minimum_pos := by decide
      multiplier_range := by decide +kernel
      increase_range := by decide +kernel
      interval_min := by decide
      drawdown_pos := by decide +kernel
      age_pos := metadata_age_pos
      ordered := by decide +kernel
      warmup := by decide }
  outcomesHash := "outcomes"
  priorHash := none
  codeCommit := "commit"
  configHash := "config"
  dataSnapshot := "data"
  increase_past := le_refl _
  trade_past := by rintro t ⟨⟩
  bounds_match := ⟨rfl, rfl⟩
  regimes_sum := rfl

/-- A pair: one security long, one short. -/
def candidate : NormalizedCandidate where
  signalId := Uuid.ofNat 1
  alphaId := .pairs
  timestamp := now
  strength := 4 / 5
  legs := [⟨Uuid.ofNat 100, "INFY", "IT", 1 / 2⟩, ⟨Uuid.ofNat 101, "TCS", "IT", -1 / 2⟩]
  rawIntentHash := "intent"
  registryHash := "digest"
  strength_range := by decide +kernel
  indivisible_weights := by decide +kernel

/-- A capacity of a security. -/
def capacity (entity : Uuid) : LiquidityCapacity where
  entityId := entity
  timestamp := now
  validUntil := now
  price := 100
  advShares := 10000000
  dailyTurnover := 1000000000
  maxNotional := 1000000
  sourceSnapshot := "liquidity"
  eligible := true
  price_pos := price_sample_pos
  adv_pos := by decide +kernel
  turnover_pos := by decide +kernel
  notional_pos := notional_sample_pos

/-- The default of two groups a sector is in range. -/
theorem sectorGroups_pos : 1 ≤ 2 := by decide

/-- The default settings of the allocator. -/
def cfg : AllocatorSettings where
  alpha_range := by decide +kernel
  gross_range := by decide +kernel
  net_range := by decide +kernel
  symbol_range := by decide +kernel
  sector_range := by decide +kernel
  openRisk_range := by decide +kernel
  candidateRisk_range := by decide +kernel
  groups_pos := by decide
  sectorGroups_pos := sectorGroups_pos
  adv_range := by decide +kernel
  turnover_range := by decide +kernel
  age_pos := by decide
  threshold_range := by decide +kernel
  correlationPenalty_nonneg := by decide +kernel
  sectorPenalty_nonneg := by decide +kernel
  net_le_gross := by decide +kernel
  sectorGroups_le := by decide

theorem held_risk_nonneg : (0 : ℚ) ≤ 1 / 1000 := by decide +kernel

/-- A bank that is held already. -/
def held : TargetPosition where
  entityId := Uuid.ofNat 102
  instrumentId := "HDFCBANK"
  sector := "BANK"
  alphaId := .momentum
  groupId := Uuid.ofNat 50
  signedNotionalFraction := 1 / 100
  openRiskFraction := 1 / 1000
  origin := .existingOrPending
  openRisk_nonneg := held_risk_nonneg

theorem held_unique : ([held].map fun p => (p.groupId, p.entityId)).Nodup :=
  List.nodup_singleton _

theorem correlation_sample_range : -1 ≤ (3 / 10 : ℚ) ∧ (3 / 10 : ℚ) ≤ 1 := by decide +kernel

/-- One pair to allocate beside the position, with a correlation for each of its legs. -/
def inputs : AllocationInputs ℚ where
  ensemble := ⟨Uuid.ofNat 999, now, [candidate], [], [], "inputs", []⟩
  registry := registry
  health := AlphaId.all.map health
  portfolio :=
    { snapshotId := "held"
      timestamp := now
      equity := 1000000
      complete := true
      blocksNewEntries := false
      positions := [held]
      equity_pos := notional_sample_pos
      unique_commitments := held_unique }
  liquidity := [capacity (Uuid.ofNat 100), capacity (Uuid.ofNat 101)]
  estimates := [⟨Uuid.ofNat 1, now, 1 / 100, 1, "risk", participation_sample, by decide +kernel⟩]
  correlations :=
    { timestamp := now
      trainingEnd := now - 1
      estimates := [⟨Uuid.ofNat 100, Uuid.ofNat 102, 3 / 10, correlation_sample_range⟩,
        ⟨Uuid.ofNat 102, Uuid.ofNat 101, 3 / 10, correlation_sample_range⟩]
      sourceSnapshot := "correlations" }
  state := state
  settings := cfg
  now := now
  mode := .research

/-- The pair is added, so every gate was open for it. -/
theorem allocate_failClosed_pair :
    FailClosed inputs Godzilla.MarketState.Sample.calendar
      (allocate inputs Godzilla.MarketState.Sample.calendar) candidate := by
  have hadded : (addedBy inputs (allocate inputs Godzilla.MarketState.Sample.calendar)).map
      (fun p => (p.groupId, p.signedNotionalFraction)) =
        [(Uuid.ofNat 1, 1 / 50), (Uuid.ofNat 1, -1 / 50)] := by
    decide +kernel
  obtain ⟨p, hp, hgroup⟩ := List.mem_map.mp (hadded ▸ List.mem_cons_self)
  exact allocate_failClosed (List.mem_singleton.mpr rfl) hp (Prod.mk.inj hgroup).1

end Godzilla.Portfolio.Sample
