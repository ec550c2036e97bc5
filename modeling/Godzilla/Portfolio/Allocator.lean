import Godzilla.MarketData.Calendar
import Godzilla.Misc.Dict
import Godzilla.Misc.Sorted
import Godzilla.Portfolio.Models

/-!
# The allocator

`portfolio/allocator.py`. `allocate` is the global gates, then one pass over the
candidates in descending strength; a candidate is allocated in one piece or not
at all. The `try` block of the pass is cut where it can raise, since the record
it leaves behind shows how far it came. `Decimal` arithmetic is exact, and the
arguments of every division are nonzero by the validators of the inputs.
-/

namespace Godzilla.Portfolio
open Godzilla Features MarketState MarketData Ensemble Misc

section Caps

/-- `sum(abs(p.signed_notional_fraction) for p in positions)`. -/
def grossOf (positions : List TargetPosition) : ℚ :=
  (positions.map fun p => |p.signedNotionalFraction|).sum

/-- `totals` (`portfolio/allocator.py:47-52`): gross, net and open risk. -/
def totals (positions : List TargetPosition) : ℚ × ℚ × ℚ :=
  (grossOf positions, (positions.map (·.signedNotionalFraction)).sum,
    (positions.map (·.openRiskFraction)).sum)

/-- `len({p.group_id for p in positions})`. -/
def groupCount (positions : List TargetPosition) : Nat :=
  (positions.map (·.groupId)).dedup.length

/-- Some value of the attribute carries more than the cap. -/
def capExceeded {κ : Type} [DecidableEq κ] (attr : TargetPosition → κ) (cap : ℚ)
    (positions : List TargetPosition) : Bool :=
  positions.any fun p => decide (cap < grossOf (positions.filter fun q => attr q = attr p))

/-- `within_caps` (`portfolio/allocator.py:55-78`). -/
def withinCaps (positions : List TargetPosition) (cfg : AllocatorSettings) : Bool :=
  let (gross, net, risk) := totals positions
  if cfg.maxGross < gross ∨ cfg.maxNet < |net| ∨ cfg.maxOpenRisk < risk ∨
      cfg.maxGroups < groupCount positions then false
  else if capExceeded (·.alphaId) cfg.maxAlpha positions ||
      capExceeded (·.sector) cfg.maxSector positions ||
      capExceeded (·.entityId) cfg.maxSymbol positions then false
  else positions.all fun p =>
    decide (groupCount (positions.filter fun q => q.sector = p.sector) ≤ cfg.maxSectorGroups)

end Caps

section Amounts

/-- `min(limits)`. -/
def leastOf (first : ℚ) (rest : List ℚ) : ℚ := rest.foldl min first

/-- `max(Decimal(0), x)` rounded down to twelve places
    (`portfolio/allocator.py:272-276`). -/
def roundDown (x : ℚ) : ℚ := ⌊max 0 x * 10 ^ 12⌋ / 10 ^ 12

theorem roundDown_nonneg (x : ℚ) : 0 ≤ roundDown x := by
  have hfloor : 0 ≤ ⌊max 0 x * 10 ^ 12⌋ := Int.floor_nonneg.mpr (by positivity)
  unfold roundDown
  positivity

/-- The penalty of a candidate (`portfolio/allocator.py:209-214`). -/
def penaltyOf (cfg : AllocatorSettings) (estimate : CandidateRiskEstimate) (duplicates : Nat)
    (corr : ℚ) : ℚ :=
  estimate.volatilityPenalty *
    (1 + cfg.sectorDuplicationPenalty * duplicates +
      cfg.correlationPenalty * max 0 (corr - cfg.correlationThreshold) /
        (1 - cfg.correlationThreshold))

theorem one_le_penaltyOf (cfg : AllocatorSettings) (estimate : CandidateRiskEstimate)
    (duplicates : Nat) (corr : ℚ) : 1 ≤ penaltyOf cfg estimate duplicates corr := by
  have hsector : 0 ≤ cfg.sectorDuplicationPenalty * duplicates :=
    mul_nonneg cfg.sectorPenalty_nonneg (Nat.cast_nonneg _)
  have hcorr : 0 ≤ cfg.correlationPenalty * max 0 (corr - cfg.correlationThreshold) /
      (1 - cfg.correlationThreshold) :=
    div_nonneg (mul_nonneg cfg.correlationPenalty_nonneg (le_max_left _ _))
      (sub_nonneg.mpr cfg.threshold_range.2.le)
  unfold penaltyOf
  nlinarith [estimate.penalty_min]

end Amounts

variable {F : Type} [PyFloat F] [Platform]

/-- `0 <= (at - timestamp).total_seconds() <= limit`. -/
def Aged (now timestamp : Instant) (limit : Nat) : Prop :=
  0 ≤ now - timestamp ∧ now - timestamp ≤ secondsOf limit

instance (now timestamp : Instant) (limit : Nat) : Decidable (Aged now timestamp limit) :=
  inferInstanceAs (Decidable (_ ∧ _))

namespace AllocationInputs

/-- `{h.alpha_id: h for h in inputs.health}`. -/
def healthByAlpha (inputs : AllocationInputs F) : Dict AlphaId (AlphaHealthSnapshot F) :=
  .index (·.alphaId) inputs.health

/-- `{c.entity_id: c for c in inputs.liquidity}`. -/
def capacities (inputs : AllocationInputs F) : Dict Uuid LiquidityCapacity :=
  .index (·.entityId) inputs.liquidity

/-- `{r.signal_id: r for r in inputs.estimates}`. -/
def estimatesById (inputs : AllocationInputs F) : Dict Uuid CandidateRiskEstimate :=
  .index (·.signalId) inputs.estimates

/-- `{frozenset((x.left, x.right)): abs(x.value) for x in inputs.correlations.estimates}`. -/
def correlationsByPair (inputs : AllocationInputs F) : Dict (Finset Uuid) ℚ :=
  .ofList (inputs.correlations.estimates.map fun x => ({x.left, x.right}, |x.value|))

/-- The candidates by descending strength, then signal id. -/
def ordered (inputs : AllocationInputs F) : List NormalizedCandidate :=
  sortOn (fun c => toLex (-c.strength, c.signalId)) inputs.ensemble.candidates

/-- `score_sums[alpha]`. -/
def scoreSum (inputs : AllocationInputs F) (alpha : AlphaId) : ℚ :=
  max 1 ((inputs.ordered.filter fun c => c.alphaId = alpha).map (·.strength)).sum

end AllocationInputs

/-- `_CalendarAudit` (`portfolio/allocator.py:43-45`). -/
structure CalendarAudit where
  inputsHash : Digest
  session : Session

section Gates

variable (inputs : AllocationInputs F)

/-- The veto of new allocations (`portfolio/allocator.py:122-137`). -/
def NewAllocationBlocked : Prop :=
  inputs.mode = .live ∨
  inputs.portfolio.complete = false ∨
  inputs.portfolio.blocksNewEntries = true ∨
  ¬ Aged inputs.now inputs.portfolio.timestamp inputs.settings.maxInputAgeSeconds ∨
  inputs.ensemble.timestamp ≠ inputs.now ∨
  inputs.state.timestamp ≠ inputs.now ∨
  inputs.state.state.blocked ∨
  inputs.state.grossRiskMultiplier ≤ 0 ∨
  inputs.state.evidence.health.blocksNewEntries = true ∨
  inputs.state.evidence.health.systemStatus ≠ .healthy ∨
  inputs.state.evidence.health.riskStatus ≠ .healthy ∨
  ¬ Aged inputs.now inputs.state.evidence.health.observedAt
    inputs.state.settings.healthMaxAgeSeconds

instance : Decidable (NewAllocationBlocked inputs) :=
  inferInstanceAs (Decidable (_ ∨ _))

/-- Duplicate keys and stale or acausal correlations (`portfolio/allocator.py:146-156`). -/
def InputAmbiguous : Prop :=
  inputs.healthByAlpha.size ≠ inputs.health.length ∨
  inputs.capacities.size ≠ inputs.liquidity.length ∨
  inputs.estimatesById.size ≠ inputs.estimates.length ∨
  inputs.correlationsByPair.size ≠ inputs.correlations.estimates.length ∨
  inputs.now ≤ inputs.correlations.trainingEnd ∨
  inputs.correlations.timestamp < inputs.correlations.trainingEnd ∨
  ¬ Aged inputs.now inputs.correlations.timestamp inputs.settings.maxInputAgeSeconds

instance : Decidable (InputAmbiguous inputs) := inferInstanceAs (Decidable (_ ∨ _))

/-- The global gates, in order, with the reason of the first that is closed
    (`portfolio/allocator.py:100-161`). -/
def gate (calendar : ExchangeCalendar) : Option String :=
  match calendar.sessionOn (kolkata.localDate inputs.now) with
  | .error _ | .ok none => some "CALENDAR_BLOCKED"
  | .ok (some session) =>
    if ¬ (session.instantAt session.times.openTime ≤ inputs.now ∧
        inputs.now < session.instantAt session.times.finalEntryTime) then
      some "CALENDAR_BLOCKED"
    else if NewAllocationBlocked inputs then some "NEW_ALLOCATION_BLOCKED"
    else if withinCaps inputs.portfolio.positions inputs.settings = false then
      some "EXISTING_EXPOSURE_REQUIRES_RISK_REVIEW"
    else if InputAmbiguous inputs then some "ALLOCATION_INPUT_AMBIGUOUS"
    else if (inputs.ordered.map (·.signalId)).dedup.length ≠ inputs.ordered.length then
      some "DUPLICATE_CANDIDATE"
    else none

/-- The digest of the inputs and, on a session day, of the session
    (`portfolio/allocator.py:83,105`). -/
def auditDigest (calendar : ExchangeCalendar) : Digest :=
  match calendar.sessionOn (kolkata.localDate inputs.now) with
  | .ok (some session) =>
    contentHash ({ inputsHash := contentHash inputs, session := session } : CalendarAudit)
  | _ => contentHash inputs

end Gates

section Candidate

variable (inputs : AllocationInputs F) (targets : List TargetPosition)
  (candidate : NormalizedCandidate)

/-- The first veto of the pass (`portfolio/allocator.py:175-188`). -/
def CandidateUnavailable (health : AlphaHealthSnapshot F) (estimate : CandidateRiskEstimate) :
    Prop :=
  (inputs.registry.registration candidate.alphaId).enabled = false ∨
  candidate.registryHash ≠ contentHash inputs.registry ∨
  candidate.timestamp ≠ inputs.now ∨
  candidate.alphaId.family ∉ inputs.state.allowedAlphaFamilies ∨
  ¬ Aged inputs.now health.timestamp health.settings.healthMaxAgeSeconds ∨
  (health.codeCommit, health.configHash, health.dataSnapshot) ≠
    (inputs.state.codeCommit, inputs.state.configHash, inputs.state.dataSnapshot) ∨
  ¬ (health.settings.minimumMultiplier ≤ health.multiplier.value ∧
    health.multiplier.value ≤ health.settings.maximumMultiplier) ∨
  ¬ Aged inputs.now estimate.timestamp inputs.settings.maxInputAgeSeconds

instance (health : AlphaHealthSnapshot F) (estimate : CandidateRiskEstimate) :
    Decidable (CandidateUnavailable inputs candidate health estimate) :=
  inferInstanceAs (Decidable (_ ∨ _))

/-- The lookups and the first veto (`portfolio/allocator.py:172-188`). -/
def candidateGates : Except PyError (AlphaHealthSnapshot F × CandidateRiskEstimate) :=
  match inputs.healthByAlpha.get? candidate.alphaId with
  | none => .error (.keyError candidate.alphaId.reprText)
  | some health =>
    match inputs.estimatesById.get? candidate.signalId with
    | none => .error (.keyError ("UUID('" ++ Platform.uuidStr candidate.signalId ++ "')"))
    | some estimate =>
      if CandidateUnavailable inputs candidate health estimate then
        .error (.valueError "CANDIDATE_INPUT_UNAVAILABLE")
      else .ok (health, estimate)

/-- `{x.sector for x in candidate.legs}`. -/
def sectorsOf (legs : List CandidateLeg) : List String := (legs.map (·.sector)).dedup

/-- Every security of the bundle against every security already in `targets`. -/
def securityPairs : List (Finset Uuid) :=
  candidate.legs.flatMap fun leg => targets.map fun other => {leg.entityId, other.entityId}

/-- The largest correlation of the bundle with the targets
    (`portfolio/allocator.py:201-207`). -/
def correlationOf : Except PyError ℚ :=
  (securityPairs targets candidate).foldlM (fun corr key =>
    match inputs.correlationsByPair.get? key with
    | none => .error (.valueError "CORRELATION_UNAVAILABLE")
    | some value => .ok (max corr value)) 0

/-- The overlap, group and correlation gates (`portfolio/allocator.py:190-207`). -/
def overlapGates : Except PyError ℚ :=
  if ∃ leg ∈ candidate.legs, leg.entityId ∈ targets.map (·.entityId) then
    .error (.valueError "EXISTING_OR_SELECTED_SYMBOL_OVERLAP")
  else if inputs.settings.maxGroups ≤ groupCount targets then
    .error (.valueError "POSITION_GROUP_CAP")
  else if ∃ sector ∈ sectorsOf candidate.legs, inputs.settings.maxSectorGroups ≤
      groupCount (targets.filter fun p => p.sector = sector) then
    .error (.valueError "SECTOR_GROUP_CAP")
  else correlationOf inputs targets candidate

/-- The budget of an alpha: its base budget under the state's and the health multiplier. -/
def alphaBudget (alpha : AlphaId) (health : AlphaHealthSnapshot F) : ℚ :=
  (inputs.registry.registration alpha).baseBudget *
    PyFloat.toDecimal inputs.state.grossRiskMultiplier * PyFloat.toDecimal health.multiplier.value

/-- What the alpha already carries in `targets`. -/
def alphaGross (alpha : AlphaId) : ℚ := grossOf (targets.filter fun p => p.alphaId = alpha)

/-- The amount the candidate's score asks for (`portfolio/allocator.py:215-222`). -/
def desired (health : AlphaHealthSnapshot F) (penalty : ℚ) : ℚ :=
  alphaBudget inputs candidate.alphaId health * candidate.strength /
    inputs.scoreSum candidate.alphaId / penalty

/-- The limits that do not depend on liquidity, after `desired`
    (`portfolio/allocator.py:223-258`). -/
def portfolioLimits (health : AlphaHealthSnapshot F) (estimate : CandidateRiskEstimate) :
    List ℚ :=
  let cfg := inputs.settings
  let (gross, net, risk) := totals targets
  let netWeight := (candidate.legs.map (·.signedWeight)).sum
  [ alphaBudget inputs candidate.alphaId health - alphaGross targets candidate.alphaId,
    cfg.maxGross - gross,
    (cfg.maxOpenRisk - risk) / estimate.lossPerGross,
    cfg.maxCandidateRisk / estimate.lossPerGross,
    cfg.maxAlpha - alphaGross targets candidate.alphaId ] ++
  (if 0 < netWeight then [(cfg.maxNet - net) / netWeight]
    else if netWeight < 0 then [(cfg.maxNet + net) / (-netWeight)] else []) ++
  (sectorsOf candidate.legs).map fun sector =>
    (cfg.maxSector - grossOf (targets.filter fun p => p.sector = sector)) /
      grossWeight (candidate.legs.filter fun leg => leg.sector = sector)

/-- The capacity checks of a leg (`portfolio/allocator.py:260-266`). -/
def CapacityUnavailable (capacity : LiquidityCapacity) : Prop :=
  capacity.eligible = false ∨
  ¬ (capacity.timestamp ≤ inputs.now ∧ inputs.now ≤ capacity.validUntil) ∨
  secondsOf inputs.settings.maxInputAgeSeconds < inputs.now - capacity.timestamp

instance (capacity : LiquidityCapacity) : Decidable (CapacityUnavailable inputs capacity) :=
  inferInstanceAs (Decidable (_ ∨ _))

/-- The most of equity one security may take (`portfolio/allocator.py:267-274`). -/
def capacityCap (capacity : LiquidityCapacity) : ℚ :=
  leastOf inputs.settings.maxSymbol
    [ capacity.maxNotional / inputs.portfolio.equity,
      capacity.advShares * capacity.price * inputs.settings.maxAdvParticipation /
        inputs.portfolio.equity,
      capacity.dailyTurnover * inputs.settings.maxTurnoverParticipation /
        inputs.portfolio.equity ]

/-- The limit one leg adds (`portfolio/allocator.py:259-275`). -/
def legLimit (leg : CandidateLeg) : Except PyError ℚ :=
  match inputs.capacities.get? leg.entityId with
  | none => .error (.keyError ("UUID('" ++ Platform.uuidStr leg.entityId ++ "')"))
  | some capacity =>
    if CapacityUnavailable inputs capacity then
      .error (.valueError "LIQUIDITY_CAPACITY_UNAVAILABLE")
    else .ok (capacityCap inputs capacity / |leg.signedWeight|)

/-- The positions an amount turns into (`portfolio/allocator.py:281-293`). -/
def additionsOf (estimate : CandidateRiskEstimate) (amount : ℚ) (h : 0 ≤ amount) :
    List TargetPosition :=
  candidate.legs.map fun leg =>
    { entityId := leg.entityId
      instrumentId := leg.instrumentId
      sector := leg.sector
      alphaId := candidate.alphaId
      groupId := candidate.signalId
      signedNotionalFraction := amount * leg.signedWeight
      openRiskFraction := amount * estimate.lossPerGross * |leg.signedWeight|
      origin := .proposed
      openRisk_nonneg :=
        mul_nonneg (mul_nonneg h estimate.loss_range.1.le) (abs_nonneg _) }

/-- The multiplier and the penalty a record reports; the defaults stand until the `try`
    block has computed them. -/
structure Terms where
  multiplier : ℚ := 0
  penalty : ℚ := 1
  multiplier_range : 0 ≤ multiplier ∧ multiplier ≤ 1 := by norm_num
  penalty_min : 1 ≤ penalty := by norm_num

/-- The record of a candidate (`portfolio/allocator.py:303-311`). -/
def recordOf (terms : Terms) (amount : ℚ) (h : 0 ≤ amount) (reason : String) :
    AllocationRecord where
  signalId := candidate.signalId
  allocatedGross := amount
  healthMultiplier := terms.multiplier
  penalty := terms.penalty
  reasons := [reason]
  gross_nonneg := h
  multiplier_range := terms.multiplier_range
  penalty_min := terms.penalty_min

/-- The last step of an iteration: add the bundle if it has an amount and keeps every cap
    (`portfolio/allocator.py:294-298`). -/
def settle (estimate : CandidateRiskEstimate) (terms : Terms) (amount : ℚ) (h : 0 ≤ amount) :
    List TargetPosition × AllocationRecord :=
  let additions := additionsOf candidate estimate amount h
  if 0 < amount ∧ withinCaps (targets ++ additions) inputs.settings = true then
    (additions, recordOf candidate terms amount h "PROPOSED_REQUIRES_INDEPENDENT_RISK")
  else ([], recordOf candidate terms 0 (le_refl 0) "NO_CAPACITY")

/-- One iteration of the pass: the positions it adds and its record
    (`portfolio/allocator.py:167-311`). -/
def allocateCandidate : List TargetPosition × AllocationRecord :=
  match candidateGates inputs candidate with
  | .error e => ([], recordOf candidate {} 0 (le_refl 0) e.text)
  | .ok (health, estimate) =>
    let multiplied : Terms :=
      { multiplier := PyFloat.toDecimal health.multiplier.value
        multiplier_range := health.multiplier.toDecimal_range }
    match overlapGates inputs targets candidate with
    | .error e => ([], recordOf candidate multiplied 0 (le_refl 0) e.text)
    | .ok corr =>
      let sectors := sectorsOf candidate.legs
      let duplicates := groupCount (targets.filter fun p => p.sector ∈ sectors)
      let terms : Terms :=
        { multiplied with
          penalty := penaltyOf inputs.settings estimate duplicates corr
          penalty_min := one_le_penaltyOf _ _ _ _ }
      match candidate.legs.mapM (legLimit inputs) with
      | .error e => ([], recordOf candidate terms 0 (le_refl 0) e.text)
      | .ok legLimits =>
        let least := leastOf (desired inputs candidate health terms.penalty)
          (portfolioLimits inputs targets candidate health estimate ++ legLimits)
        settle inputs targets candidate estimate terms (roundDown least) (roundDown_nonneg least)

end Candidate

/-- One iteration of the pass on the accumulated targets and records. -/
def passStep (inputs : AllocationInputs F) (acc : List TargetPosition × List AllocationRecord)
    (candidate : NormalizedCandidate) : List TargetPosition × List AllocationRecord :=
  let (additions, record) := allocateCandidate inputs acc.1 candidate
  (acc.1 ++ additions, acc.2 ++ [record])

/-- `allocate` (`portfolio/allocator.py:81-312`). -/
def allocate (inputs : AllocationInputs F) (calendar : ExchangeCalendar) : PortfolioDecision :=
  let digest := auditDigest inputs calendar
  let finish (targets : List TargetPosition) (records : List AllocationRecord) (reason : String) :
      PortfolioDecision :=
    { decisionId := Platform.uuid5 ("godzilla:portfolio:" ++ digest)
      timestamp := inputs.now
      targets := targets
      allocations := records
      reasons := [reason]
      inputHash := digest
      settings := inputs.settings }
  match gate inputs calendar with
  | some reason => finish inputs.portfolio.positions [] reason
  | none =>
    let (targets, records) :=
      inputs.ordered.foldl (passStep inputs) (inputs.portfolio.positions, [])
    finish targets records "PROPOSALS_ONLY_NO_EXECUTION"

end Godzilla.Portfolio
