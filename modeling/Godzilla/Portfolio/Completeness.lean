import Godzilla.Misc.Raises
import Godzilla.Portfolio.FailClosed

/-!
# The clipped amount always fits

For bundles of unit gross the limits that an amount is clipped to imply the caps that
`within_caps` computes again over all positions, as long as the targets so far are within
them. The targets are: the gate checks the existing ones, and every accepted bundle was
checked.
-/

namespace Godzilla.Portfolio
open Godzilla Features MarketState MarketData Ensemble Misc

section Bundle

variable {c : NormalizedCandidate} {estimate : CandidateRiskEstimate} {amount : ℚ} {h : 0 ≤ amount}

/-- The gross of the part of a bundle that a property of the legs selects. -/
theorem grossOf_filter_additionsOf (selected : TargetPosition → Bool) (leg : CandidateLeg → Bool)
    (hsame : ∀ l, ∀ p, p.entityId = l.entityId → p.sector = l.sector → selected p = leg l) :
    grossOf ((additionsOf c estimate amount h).filter selected) =
      amount * grossWeight (c.legs.filter leg) := by
  simp only [additionsOf, grossOf, grossWeight, List.filter_map, List.map_map, Function.comp_def,
    abs_mul, abs_of_nonneg h, List.sum_map_mul_left]
  rw [List.filter_congr (q := leg) fun l _ => hsame l _ rfl rfl]

/-- The gross of a bundle. -/
theorem grossOf_additionsOf :
    grossOf (additionsOf c estimate amount h) = amount * grossWeight c.legs := by
  have hall : grossOf ((additionsOf c estimate amount h).filter fun _ => true) =
      amount * grossWeight (c.legs.filter fun _ => true) :=
    grossOf_filter_additionsOf _ _ fun _ _ _ _ => rfl
  simpa using hall

/-- The net of a bundle. -/
theorem net_additionsOf :
    ((additionsOf c estimate amount h).map (·.signedNotionalFraction)).sum =
      amount * (c.legs.map (·.signedWeight)).sum := by
  simp [additionsOf, Function.comp_def, List.sum_map_mul_left]

/-- The legs of a candidate are in distinct securities. -/
theorem filter_entity_legs {leg : CandidateLeg} (hleg : leg ∈ c.legs) :
    c.legs.filter (fun l => l.entityId = leg.entityId) = [leg] := by
  have hgroup : (c.legs.flatMap fun l => [l]).filter (fun l => l.entityId = leg.entityId) =
      [leg] :=
    filter_flatMap_key c.indivisible_weights.unique
      (fun l _ y hy => by rw [List.mem_singleton.mp hy]) hleg
  rwa [List.flatMap_singleton'] at hgroup

/-- The selected part of the legs of a bundle weighs something. -/
theorem grossWeight_pos {legs : List CandidateLeg} (hlegs : IndivisibleWeights legs)
    {leg : CandidateLeg} (hleg : leg ∈ legs) {selected : CandidateLeg → Bool}
    (hselected : selected leg = true) : 0 < grossWeight (legs.filter selected) := by
  have hweight : 0 < |leg.signedWeight| := abs_pos.mpr (hlegs.nonzero leg hleg)
  refine hweight.trans_le (List.single_le_sum ?_ _ ?_)
  · intro x hx
    obtain ⟨l, -, rfl⟩ := List.mem_map.mp hx
    exact abs_nonneg _
  · exact List.mem_map.mpr ⟨leg, List.mem_filter.mpr ⟨hleg, hselected⟩, rfl⟩

/-- A bundle is one more position group at most. -/
theorem groupCount_append_le {xs ys : List TargetPosition} {group : Uuid}
    (hys : ∀ y ∈ ys, y.groupId = group) : groupCount (xs ++ ys) ≤ groupCount xs + 1 := by
  simp only [groupCount, ← List.card_toFinset, List.map_append, List.toFinset_append]
  have hone : (ys.map (·.groupId)).toFinset ⊆ {group} := by
    intro g hg
    obtain ⟨y, hy, rfl⟩ := List.mem_map.mp (List.mem_toFinset.mp hg)
    exact Finset.mem_singleton.mpr (hys y hy)
  calc ((xs.map (·.groupId)).toFinset ∪ (ys.map (·.groupId)).toFinset).card
      ≤ (xs.map (·.groupId)).toFinset.card + (ys.map (·.groupId)).toFinset.card :=
        Finset.card_union_le _ _
    _ ≤ (xs.map (·.groupId)).toFinset.card + 1 :=
        Nat.add_le_add_left (Finset.card_le_card hone) _

theorem groupId_of_mem_additionsOf {p : TargetPosition}
    (hp : p ∈ additionsOf c estimate amount h) : p.groupId = c.signalId := by
  obtain ⟨leg, -, rfl⟩ := List.mem_map.mp hp
  rfl

theorem leg_of_mem_additionsOf {p : TargetPosition} (hp : p ∈ additionsOf c estimate amount h) :
    ∃ leg ∈ c.legs, p.entityId = leg.entityId ∧ p.sector = leg.sector ∧
      p.alphaId = c.alphaId := by
  obtain ⟨leg, hleg, rfl⟩ := List.mem_map.mp hp
  exact ⟨leg, hleg, rfl, rfl, rfl⟩

/-- The gross of the part of the targets and a bundle that a property of the legs selects. -/
theorem grossOf_filter_append {targets : List TargetPosition} (selected : TargetPosition → Bool)
    (leg : CandidateLeg → Bool)
    (hsame : ∀ l, ∀ p, p.entityId = l.entityId → p.sector = l.sector → selected p = leg l) :
    grossOf ((targets ++ additionsOf c estimate amount h).filter selected) =
      grossOf (targets.filter selected) + amount * grossWeight (c.legs.filter leg) := by
  rw [List.filter_append, grossOf_append, grossOf_filter_additionsOf selected leg hsame]

theorem grossWeight_filter_of_none {legs : List CandidateLeg} {leg : CandidateLeg → Bool}
    (hnone : ∀ l ∈ legs, leg l = false) : grossWeight (legs.filter leg) = 0 := by
  have hnil : legs.filter leg = [] := List.filter_eq_nil_iff.mpr fun l hl => by simp [hnone l hl]
  rw [hnil, grossWeight, List.map_nil, List.sum_nil]

end Bundle

variable {F : Type} [PyFloat F] [Platform] {inputs : AllocationInputs F}
  {targets : List TargetPosition} {candidate : NormalizedCandidate}

/-- Every gate of an iteration was passed, with what it found. -/
structure Cleared (inputs : AllocationInputs F) (targets : List TargetPosition)
    (candidate : NormalizedCandidate) (health : AlphaHealthSnapshot F)
    (estimate : CandidateRiskEstimate) (corr : ℚ) (legLimits : List ℚ) : Prop where
  found : candidateGates inputs candidate = .ok (health, estimate)
  apart : overlapGates inputs targets candidate = .ok corr
  liquid : candidate.legs.mapM (legLimit inputs) = .ok legLimits

/-- The limits of an iteration, in order. -/
def clippingLimit (inputs : AllocationInputs F) (targets : List TargetPosition)
    (candidate : NormalizedCandidate) (health : AlphaHealthSnapshot F)
    (estimate : CandidateRiskEstimate) (corr : ℚ) (legLimits : List ℚ) : ℚ :=
  leastOf
    (desired inputs candidate health
      (penaltyOf inputs.settings estimate
        (groupCount (targets.filter fun p => p.sector ∈ sectorsOf candidate.legs)) corr))
    (portfolioLimits inputs targets candidate health estimate ++ legLimits)

/-- The clipped amount: rounded down to twelve places. -/
def clippedAmount (inputs : AllocationInputs F) (targets : List TargetPosition)
    (candidate : NormalizedCandidate) (health : AlphaHealthSnapshot F)
    (estimate : CandidateRiskEstimate) (corr : ℚ) (legLimits : List ℚ) : ℚ :=
  roundDown (clippingLimit inputs targets candidate health estimate corr legLimits)

section Fits

variable {health : AlphaHealthSnapshot F} {estimate : CandidateRiskEstimate} {corr amount : ℚ}
  {legLimits : List ℚ}

/-- What an amount below the clipping limit is below. -/
structure UnderLimits (inputs : AllocationInputs F) (targets : List TargetPosition)
    (candidate : NormalizedCandidate) (estimate : CandidateRiskEstimate) (amount : ℚ) : Prop where
  gross : amount ≤ inputs.settings.maxGross - grossOf targets
  open_risk : amount ≤
    (inputs.settings.maxOpenRisk - (targets.map (·.openRiskFraction)).sum) / estimate.lossPerGross
  alpha : amount ≤ inputs.settings.maxAlpha - alphaGross targets candidate.alphaId
  long : 0 < (candidate.legs.map (·.signedWeight)).sum →
    amount ≤ (inputs.settings.maxNet - (targets.map (·.signedNotionalFraction)).sum) /
      (candidate.legs.map (·.signedWeight)).sum
  short : (candidate.legs.map (·.signedWeight)).sum < 0 →
    amount ≤ (inputs.settings.maxNet + (targets.map (·.signedNotionalFraction)).sum) /
      -(candidate.legs.map (·.signedWeight)).sum
  sector : ∀ leg ∈ candidate.legs, amount ≤
    (inputs.settings.maxSector - grossOf (targets.filter fun p => p.sector = leg.sector)) /
      grossWeight (candidate.legs.filter fun l => l.sector = leg.sector)
  security : ∀ leg ∈ candidate.legs, amount * |leg.signedWeight| ≤ inputs.settings.maxSymbol

theorem Cleared.underLimits (h : Cleared inputs targets candidate health estimate corr legLimits)
    (hamount : amount ≤ clippingLimit inputs targets candidate health estimate corr legLimits) :
    UnderLimits inputs targets candidate estimate amount := by
  have hlimits := fun x hx => le_trans hamount ((leastOf_le _ _).2 x hx)
  have hportfolio : ∀ x ∈ portfolioLimits inputs targets candidate health estimate, amount ≤ x :=
    fun x hx => hlimits x (List.mem_append_left _ hx)
  refine ⟨?_, ?_, ?_, fun hlong => ?_, fun hshort => ?_, fun leg hleg => ?_, fun leg hleg => ?_⟩
  · exact hportfolio _ (by simp [portfolioLimits, totals])
  · exact hportfolio _ (by simp [portfolioLimits, totals])
  · exact hportfolio _ (by simp [portfolioLimits])
  · exact hportfolio _ (by simp [portfolioLimits, totals, hlong])
  · exact hportfolio _ (by simp [portfolioLimits, totals, hshort, hshort.not_gt])
  · exact hportfolio _
      (List.mem_append_right _ (List.mem_map_of_mem (mem_sectorsOf hleg)))
  · obtain ⟨limit, hmem, hlimit⟩ := exists_of_mapM_ok h.liquid leg hleg
    obtain ⟨capacity, -, -, rfl⟩ := legLimit_ok hlimit
    have hweight : 0 < |leg.signedWeight| :=
      abs_pos.mpr (candidate.indivisible_weights.nonzero leg hleg)
    have hcap := (le_div_iff₀ hweight).mp (hlimits _ (List.mem_append_right _ hmem))
    exact hcap.trans (leastOf_le _ _).1

section Capped

variable {hamount : 0 ≤ amount}

theorem UnderLimits.net_le (h : UnderLimits inputs targets candidate estimate amount)
    (hcapped : |(targets.map (·.signedNotionalFraction)).sum| ≤ inputs.settings.maxNet)
    (hamount : 0 ≤ amount) :
    |((targets ++ additionsOf candidate estimate amount hamount).map
      (·.signedNotionalFraction)).sum| ≤ inputs.settings.maxNet := by
  rw [List.map_append, List.sum_append, net_additionsOf]
  obtain ⟨hlower, hupper⟩ := abs_le.mp hcapped
  rcases lt_trichotomy (candidate.legs.map (·.signedWeight)).sum 0 with hshort | hflat | hlong
  · have hlimit := (le_div_iff₀ (neg_pos.mpr hshort)).mp (h.short hshort)
    have hdown := mul_nonneg hamount (neg_pos.mpr hshort).le
    rw [mul_neg] at hlimit hdown
    exact abs_le.mpr ⟨by linarith, by linarith⟩
  · rw [hflat, mul_zero, add_zero]
    exact hcapped
  · have hlimit := (le_div_iff₀ hlong).mp (h.long hlong)
    have hup := mul_nonneg hamount hlong.le
    exact abs_le.mpr ⟨by linarith, by linarith⟩

theorem UnderLimits.alpha_le (h : UnderLimits inputs targets candidate estimate amount)
    (hunit : grossWeight candidate.legs = 1) (hcapped : Capped targets inputs.settings)
    {p : TargetPosition} (hp : p ∈ targets ++ additionsOf candidate estimate amount hamount) :
    alphaGross (targets ++ additionsOf candidate estimate amount hamount) p.alphaId ≤
      inputs.settings.maxAlpha := by
  rw [alphaGross_append, alphaGross_additionsOf]
  by_cases halpha : candidate.alphaId = p.alphaId
  · rw [if_pos halpha, hunit, mul_one, ← halpha]
    linarith [h.alpha]
  · rw [if_neg halpha, add_zero]
    rcases List.mem_append.mp hp with hheld | hnew
    · exact hcapped.alpha p hheld
    · obtain ⟨leg, -, -, -, hsame⟩ := leg_of_mem_additionsOf hnew
      exact absurd hsame.symm halpha

theorem UnderLimits.sector_le (h : UnderLimits inputs targets candidate estimate amount)
    (hcapped : Capped targets inputs.settings) {p : TargetPosition}
    (hp : p ∈ targets ++ additionsOf candidate estimate amount hamount) :
    grossOf ((targets ++ additionsOf candidate estimate amount hamount).filter
      fun q => q.sector = p.sector) ≤ inputs.settings.maxSector := by
  rw [grossOf_filter_append _ (fun l => l.sector = p.sector) (fun l q _ hq => by rw [hq])]
  by_cases hsector : ∃ leg ∈ candidate.legs, leg.sector = p.sector
  · obtain ⟨leg, hleg, hsame⟩ := hsector
    have hpos : 0 < grossWeight (candidate.legs.filter fun l => l.sector = leg.sector) :=
      grossWeight_pos candidate.indivisible_weights hleg (by simp)
    have hlimit := (le_div_iff₀ hpos).mp (h.sector leg hleg)
    rw [hsame] at hlimit
    linarith
  · rw [grossWeight_filter_of_none fun l hl => by simpa using fun hsame => hsector ⟨l, hl, hsame⟩,
      mul_zero, add_zero]
    rcases List.mem_append.mp hp with hheld | hnew
    · exact hcapped.sector p hheld
    · obtain ⟨leg, hleg, -, hsame, -⟩ := leg_of_mem_additionsOf hnew
      exact absurd ⟨leg, hleg, hsame.symm⟩ hsector

theorem UnderLimits.security_le (h : UnderLimits inputs targets candidate estimate amount)
    (hcapped : Capped targets inputs.settings)
    (hapart : ∀ leg ∈ candidate.legs, leg.entityId ∉ targets.map (·.entityId))
    {p : TargetPosition} (hp : p ∈ targets ++ additionsOf candidate estimate amount hamount) :
    grossOf ((targets ++ additionsOf candidate estimate amount hamount).filter
      fun q => q.entityId = p.entityId) ≤ inputs.settings.maxSymbol := by
  rw [grossOf_filter_append _ (fun l => l.entityId = p.entityId) (fun l q hq _ => by rw [hq])]
  by_cases hentity : ∃ leg ∈ candidate.legs, leg.entityId = p.entityId
  · obtain ⟨leg, hleg, hsame⟩ := hentity
    have hnone : targets.filter (fun q => q.entityId = p.entityId) = [] :=
      List.filter_eq_nil_iff.mpr fun q hq => by
        rw [decide_eq_true_eq, ← hsame]
        exact fun heq => hapart leg hleg (heq ▸ List.mem_map_of_mem hq)
    have hlimit := h.security leg hleg
    rw [hnone, ← hsame, filter_entity_legs hleg]
    simpa [grossOf, grossWeight] using hlimit
  · rw [grossWeight_filter_of_none fun l hl => by simpa using fun hsame => hentity ⟨l, hl, hsame⟩,
      mul_zero, add_zero]
    rcases List.mem_append.mp hp with hheld | hnew
    · exact hcapped.security p hheld
    · obtain ⟨leg, hleg, hsame, -⟩ := leg_of_mem_additionsOf hnew
      exact absurd ⟨leg, hleg, hsame.symm⟩ hentity

/-- A bundle opens one group more in each of its sectors, where there was room for one. -/
theorem sector_groups_le (hcapped : Capped targets inputs.settings)
    (hsectors : ∀ leg ∈ candidate.legs, groupCount (targets.filter fun p => p.sector = leg.sector) <
      inputs.settings.maxSectorGroups)
    {p : TargetPosition} (hp : p ∈ targets ++ additionsOf candidate estimate amount hamount) :
    groupCount ((targets ++ additionsOf candidate estimate amount hamount).filter
      fun q => q.sector = p.sector) ≤ inputs.settings.maxSectorGroups := by
  rw [List.filter_append]
  by_cases hsector : ∃ leg ∈ candidate.legs, leg.sector = p.sector
  · obtain ⟨leg, hleg, hsame⟩ := hsector
    have hleft := hsectors leg hleg
    rw [hsame] at hleft
    exact (groupCount_append_le fun q hq =>
      groupId_of_mem_additionsOf (List.mem_of_mem_filter hq)).trans hleft
  · have hnone : (additionsOf candidate estimate amount hamount).filter
        (fun q => q.sector = p.sector) = [] :=
      List.filter_eq_nil_iff.mpr fun q hq => by
        obtain ⟨leg, hleg, -, hsame, -⟩ := leg_of_mem_additionsOf hq
        simpa using fun heq => hsector ⟨leg, hleg, hsame.symm.trans heq⟩
    rw [hnone, List.append_nil]
    rcases List.mem_append.mp hp with hheld | hnew
    · exact hcapped.sector_groups p hheld
    · obtain ⟨leg, hleg, -, hsame, -⟩ := leg_of_mem_additionsOf hnew
      exact absurd ⟨leg, hleg, hsame.symm⟩ hsector

/-- A bundle of unit gross under the limits keeps every cap. -/
theorem UnderLimits.capped (h : UnderLimits inputs targets candidate estimate amount)
    (hunit : grossWeight candidate.legs = 1) (hcapped : Capped targets inputs.settings)
    (hgroups : groupCount targets < inputs.settings.maxGroups)
    (hsectors : ∀ leg ∈ candidate.legs, groupCount (targets.filter fun p => p.sector = leg.sector) <
      inputs.settings.maxSectorGroups)
    (hapart : ∀ leg ∈ candidate.legs, leg.entityId ∉ targets.map (·.entityId))
    (hamount : 0 ≤ amount) :
    Capped (targets ++ additionsOf candidate estimate amount hamount) inputs.settings := by
  refine ⟨?_, h.net_le hcapped.net hamount, ?_, ?_, fun p hp => h.alpha_le hunit hcapped hp,
    fun p hp => h.sector_le hcapped hp, fun p hp => h.security_le hcapped hapart hp,
    fun p hp => sector_groups_le hcapped hsectors hp⟩
  · rw [grossOf_append, grossOf_additionsOf, hunit, mul_one]
    linarith [h.gross]
  · rw [List.map_append, List.sum_append, openRisk_additionsOf, hunit, mul_one]
    have hrisk := (le_div_iff₀ estimate.loss_range.1).mp h.open_risk
    linarith
  · have hone : groupCount (targets ++ additionsOf candidate estimate amount hamount) ≤
        groupCount targets + 1 :=
      groupCount_append_le fun p hp => groupId_of_mem_additionsOf hp
    omega

end Capped

end Fits

section Reasons

/-- An error whose text is not the reason of an empty amount. -/
def OtherReason (e : PyError) : Prop := e.text ≠ "NO_CAPACITY"

omit [Platform] in
/-- The `repr` of an identifier is not the reason of an empty amount. -/
theorem otherReason_uuid (text : String) : OtherReason (.keyError ("UUID('" ++ text)) := by
  intro h
  have hfirst := congrArg (fun s : String => s.toList.head?) h
  simp [PyError.text] at hfirst

omit [Platform] in
theorem otherReason_alpha (alpha : AlphaId) : OtherReason (.keyError alpha.reprText) := by
  unfold OtherReason
  cases alpha <;> decide

theorem candidateGates_onlyRaises :
    OnlyRaises OtherReason (candidateGates inputs candidate) := by
  unfold candidateGates
  split
  · exact onlyRaises_error (otherReason_alpha _)
  split
  · rw [String.append_assoc]
    exact onlyRaises_error (otherReason_uuid _)
  · exact .ite (onlyRaises_error (by simp [OtherReason, PyError.text])) (onlyRaises_ok _)

theorem overlapGates_onlyRaises :
    OnlyRaises OtherReason (overlapGates inputs targets candidate) := by
  refine .ite (onlyRaises_error (by simp [OtherReason, PyError.text]))
    (.ite (onlyRaises_error (by simp [OtherReason, PyError.text]))
      (.ite (onlyRaises_error (by simp [OtherReason, PyError.text])) ?_))
  unfold correlationOf
  generalize (0 : ℚ) = corr
  induction securityPairs targets candidate generalizing corr with
  | nil => exact onlyRaises_ok corr
  | cons key keys ih =>
    rw [List.foldlM_cons]
    cases inputs.correlationsByPair.get? key with
    | none => exact onlyRaises_error (by simp [OtherReason, PyError.text])
    | some value => exact (onlyRaises_ok _).bind fun next _ => ih next

theorem legLimits_onlyRaises :
    OnlyRaises OtherReason (candidate.legs.mapM (legLimit inputs)) := by
  refine OnlyRaises.mapM fun leg _ => ?_
  unfold legLimit
  split
  · rw [String.append_assoc]
    exact onlyRaises_error (otherReason_uuid _)
  · exact .ite (onlyRaises_error (by simp [OtherReason, PyError.text])) (onlyRaises_ok _)

end Reasons

section Iteration

/-- Past every gate an iteration settles the clipped amount. -/
theorem allocateCandidate_of_cleared {health : AlphaHealthSnapshot F}
    {estimate : CandidateRiskEstimate} {corr : ℚ} {legLimits : List ℚ}
    (h : Cleared inputs targets candidate health estimate corr legLimits) :
    ∃ terms, allocateCandidate inputs targets candidate =
      settle inputs targets candidate estimate terms
        (clippedAmount inputs targets candidate health estimate corr legLimits)
        (roundDown_nonneg _) := by
  refine ⟨{
    multiplier := PyFloat.toDecimal health.multiplier.value
    multiplier_range := health.multiplier.toDecimal_range
    penalty := penaltyOf inputs.settings estimate
      (groupCount (targets.filter fun p => p.sector ∈ sectorsOf candidate.legs)) corr
    penalty_min := one_le_penaltyOf _ _ _ _ }, ?_⟩
  simp only [allocateCandidate, h.found, h.apart, h.liquid]
  rfl

/-- A positive amount that keeps every cap is proposed. -/
theorem settle_of_fits {estimate : CandidateRiskEstimate} {terms : Terms} {amount : ℚ}
    {h : 0 ≤ amount} (hpositive : 0 < amount)
    (hcaps : withinCaps (targets ++ additionsOf candidate estimate amount h) inputs.settings =
      true) :
    settle inputs targets candidate estimate terms amount h =
      (additionsOf candidate estimate amount h,
        recordOf candidate terms amount h "PROPOSED_REQUIRES_INDEPENDENT_RISK") := by
  unfold settle
  exact if_pos ⟨hpositive, hcaps⟩

/-- An iteration that gives the reason of an empty amount has passed every gate. -/
theorem cleared_of_noCapacity
    (h : (allocateCandidate inputs targets candidate).2.reasons = ["NO_CAPACITY"]) :
    ∃ health estimate corr legLimits,
      Cleared inputs targets candidate health estimate corr legLimits := by
  cases hgates : candidateGates inputs candidate with
  | error e =>
    simp only [allocateCandidate, hgates, recordOf, List.cons.injEq, and_true] at h
    exact absurd h (candidateGates_onlyRaises e hgates)
  | ok found =>
    obtain ⟨health, estimate⟩ := found
    cases hoverlap : overlapGates inputs targets candidate with
    | error e =>
      simp only [allocateCandidate, hgates, hoverlap, recordOf, List.cons.injEq, and_true] at h
      exact absurd h (overlapGates_onlyRaises e hoverlap)
    | ok corr =>
      cases hlegs : candidate.legs.mapM (legLimit inputs) with
      | error e =>
        simp only [allocateCandidate, hgates, hoverlap, hlegs, recordOf, List.cons.injEq,
          and_true] at h
        exact absurd h (legLimits_onlyRaises e hlegs)
      | ok legLimits => exact ⟨health, estimate, corr, legLimits, hgates, hoverlap, hlegs⟩

/-- A cleared candidate of unit gross with a positive amount fits the caps. -/
theorem Cleared.fits {health : AlphaHealthSnapshot F} {estimate : CandidateRiskEstimate} {corr : ℚ}
    {legLimits : List ℚ} (h : Cleared inputs targets candidate health estimate corr legLimits)
    (hunit : grossWeight candidate.legs = 1) (hcapped : Capped targets inputs.settings)
    (hpositive : 0 < clippedAmount inputs targets candidate health estimate corr legLimits) :
    withinCaps (targets ++ additionsOf candidate estimate
      (clippedAmount inputs targets candidate health estimate corr legLimits)
      (roundDown_nonneg _)) inputs.settings = true := by
  obtain ⟨hapart, hgroups, hsectors, -⟩ := overlapGates_ok h.apart
  have hunder := h.underLimits (roundDown_le hpositive)
  exact withinCaps_iff.mpr (hunder.capped hunit hcapped hgroups hsectors hapart _)

end Iteration

/-- The targets stay within the caps along the pass. -/
theorem capped_run {calendar : ExchangeCalendar} (hgate : gate inputs calendar = none)
    (seen : List NormalizedCandidate) :
    Capped (seen.foldl (passStep inputs) (inputs.portfolio.positions, [])).1 inputs.settings := by
  have hpass := passInv_run inputs seen
  by_cases hnone : accepted seen
      (seen.foldl (passStep inputs) (inputs.portfolio.positions, [])).2 = []
  · rw [hpass.targets, hnone, targetsAfter, List.flatMap_nil, List.append_nil]
    exact withinCaps_iff.mp (gateOpen_of_gate hgate).capped
  · exact hpass.capped hnone

/-- The targets that the candidate at a position of the pass sees. -/
def targetsBefore (inputs : AllocationInputs F) (k : Nat) : List TargetPosition :=
  ((inputs.ordered.take k).foldl (passStep inputs) (inputs.portfolio.positions, [])).1

/-- The record at a position of the pass is that of its candidate. -/
theorem record_run (inputs : AllocationInputs F) (candidates : List NormalizedCandidate) {k : Nat}
    {c : NormalizedCandidate} (hk : candidates[k]? = some c) :
    (candidates.foldl (passStep inputs) (inputs.portfolio.positions, [])).2[k]? =
      some (allocateCandidate inputs ((candidates.take k).foldl (passStep inputs)
        (inputs.portfolio.positions, [])).1 c).2 := by
  induction candidates using List.reverseRecOn with
  | nil => cases hk
  | append_singleton seen last ih =>
    have hlength : (seen.foldl (passStep inputs) (inputs.portfolio.positions, [])).2.length =
        seen.length := by
      simpa using congrArg List.length (passInv_run inputs seen).ids
    rw [List.foldl_concat, passStep]
    rcases Nat.lt_trichotomy k seen.length with hlt | rfl | hgt
    · rw [List.getElem?_append_left hlt] at hk
      rw [List.getElem?_append_left (hlength ▸ hlt), List.take_append_of_le_length hlt.le]
      exact ih hk
    · rw [List.getElem?_concat_length] at hk
      obtain rfl := Option.some.inj hk
      rw [← hlength, List.getElem?_concat_length, hlength, List.take_left]
    · have hover : (seen ++ [last]).length ≤ k := by
        rw [List.length_append, List.length_singleton]
        omega
      rw [List.getElem?_eq_none hover] at hk
      cases hk

/-- The clipping limits of a decision are complete. -/
structure ClippingComplete (inputs : AllocationInputs F) (decision : PortfolioDecision) : Prop where
  /-- A positive clipped amount keeps every cap and is proposed. -/
  fits : ∀ k c record, inputs.ordered[k]? = some c → decision.allocations[k]? = some record →
    ∀ health estimate corr legLimits,
      Cleared inputs (targetsBefore inputs k) c health estimate corr legLimits →
      0 < clippedAmount inputs (targetsBefore inputs k) c health estimate corr legLimits →
        withinCaps (targetsBefore inputs k ++ additionsOf c estimate
          (clippedAmount inputs (targetsBefore inputs k) c health estimate corr legLimits)
          (roundDown_nonneg _)) inputs.settings = true ∧
        record.reasons = ["PROPOSED_REQUIRES_INDEPENDENT_RISK"] ∧
        record.allocatedGross =
          clippedAmount inputs (targetsBefore inputs k) c health estimate corr legLimits
  /-- The reason of an empty amount is given for an empty amount only. -/
  noCapacity : ∀ k record, decision.allocations[k]? = some record →
    record.reasons = ["NO_CAPACITY"] →
    ∃ c health estimate corr legLimits, inputs.ordered[k]? = some c ∧
      Cleared inputs (targetsBefore inputs k) c health estimate corr legLimits ∧
      clippedAmount inputs (targetsBefore inputs k) c health estimate corr legLimits = 0

/-- For candidates of unit gross the final recheck never rejects. -/
theorem allocate_clipping_complete (inputs : AllocationInputs F) (calendar : ExchangeCalendar)
    (hunit : ∀ c ∈ inputs.ensemble.candidates, grossWeight c.legs = 1) :
    ClippingComplete inputs (allocate inputs calendar) := by
  rcases allocate_cases inputs calendar with ⟨reason, -, -, -, -, hnone⟩ | ⟨hgate, -, hpass⟩
  · refine ⟨fun k c record _ hrecord => ?_, fun k record hrecord => ?_⟩ <;>
      rw [hnone] at hrecord <;> cases hrecord
  · have hrecords : ∀ k c, inputs.ordered[k]? = some c → (allocate inputs calendar).allocations[k]? =
        some (allocateCandidate inputs (targetsBefore inputs k) c).2 := by
      intro k c hk
      have hrun := record_run inputs inputs.ordered hk
      simpa [allocate, hgate, targetsBefore] using hrun
    have hfits : ∀ k c, inputs.ordered[k]? = some c → ∀ {health estimate corr legLimits}
        (_ : Cleared inputs (targetsBefore inputs k) c health estimate corr legLimits),
        0 < clippedAmount inputs (targetsBefore inputs k) c health estimate corr legLimits →
        withinCaps (targetsBefore inputs k ++ additionsOf c estimate
          (clippedAmount inputs (targetsBefore inputs k) c health estimate corr legLimits)
          (roundDown_nonneg _)) inputs.settings = true := by
      intro k c hk health estimate corr legLimits hcleared hpositive
      have hmem : c ∈ inputs.ensemble.candidates :=
        mem_sortOn.mp (List.mem_of_getElem? hk)
      exact hcleared.fits (hunit c hmem) (capped_run hgate _) hpositive
    refine ⟨?_, ?_⟩
    · intro k c record hk hrecord health estimate corr legLimits hcleared hpositive
      obtain rfl := Option.some.inj (hrecord.symm.trans (hrecords k c hk))
      have hcaps := hfits k c hk hcleared hpositive
      obtain ⟨terms, hsettle⟩ := allocateCandidate_of_cleared hcleared
      rw [hsettle, settle_of_fits hpositive hcaps]
      exact ⟨hcaps, rfl, rfl⟩
    · intro k record hrecord hreason
      have hlength : (allocate inputs calendar).allocations.length = inputs.ordered.length := by
        simpa using congrArg List.length hpass.ids
      have hlt : k < inputs.ordered.length := hlength ▸ (List.getElem?_eq_some_iff.mp hrecord).1
      obtain ⟨c, hk⟩ : ∃ c, inputs.ordered[k]? = some c := ⟨_, List.getElem?_eq_getElem hlt⟩
      obtain rfl := Option.some.inj (hrecord.symm.trans (hrecords k c hk))
      obtain ⟨health, estimate, corr, legLimits, hcleared⟩ := cleared_of_noCapacity hreason
      refine ⟨c, health, estimate, corr, legLimits, hk, hcleared, ?_⟩
      by_contra hne
      have hpositive : 0 < clippedAmount inputs (targetsBefore inputs k) c health estimate corr
          legLimits := lt_of_le_of_ne (roundDown_nonneg _) (Ne.symm hne)
      have hcaps := hfits k c hk hcleared hpositive
      obtain ⟨terms, hsettle⟩ := allocateCandidate_of_cleared hcleared
      rw [hsettle, settle_of_fits hpositive hcaps] at hreason
      simp [recordOf] at hreason

end Godzilla.Portfolio

namespace Godzilla.Portfolio.Sample
open Godzilla.Sample

/-- The sample pair has unit gross and passes the gates. -/
theorem allocate_clipping_complete_pair :
    gate inputs Godzilla.MarketState.Sample.calendar = none ∧
    ClippingComplete inputs (allocate inputs Godzilla.MarketState.Sample.calendar) := by
  refine ⟨by decide +kernel, allocate_clipping_complete _ _ fun c hc => ?_⟩
  obtain rfl : c = candidate := List.mem_singleton.mp hc
  decide +kernel

end Godzilla.Portfolio.Sample
