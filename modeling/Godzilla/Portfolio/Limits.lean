import Godzilla.Portfolio.Guarantees
import Mathlib.Algebra.BigOperators.Ring.List

/-!
# Limits that are clipped to and never rechecked

`within_caps` does not look at the budget of an alpha, the risk of a candidate or
the capacity of a security. They hold because every amount is below every limit
of its iteration, the budget because later bundles of the alpha see what the
earlier ones used. The factor `1 + 1 / 10 ^ 12` is the tolerance of
`NormalizedCandidate` on unit gross.
-/

namespace Godzilla.Portfolio
open Godzilla Features MarketState MarketData Ensemble Misc

section Unique

variable {F : Type} [PyFloat F] [Platform] {inputs : AllocationInputs F}

/-- The keys of the inputs are distinct. -/
structure KeysUnique (inputs : AllocationInputs F) : Prop where
  health : (inputs.health.map (·.alphaId)).Nodup
  liquidity : (inputs.liquidity.map (·.entityId)).Nodup
  estimates : (inputs.estimates.map (·.signalId)).Nodup
  correlations : (inputs.correlations.estimates.map fun x =>
    ({x.left, x.right} : Finset Uuid)).Nodup

theorem keysUnique_of_unambiguous (h : ¬ InputAmbiguous inputs) : KeysUnique inputs := by
  simp only [InputAmbiguous, not_or, not_not] at h
  obtain ⟨hhealth, hliquidity, hestimates, hcorrelations, -⟩ := h
  refine ⟨(Dict.size_index_eq_length_iff _ _).mp hhealth,
    (Dict.size_index_eq_length_iff _ _).mp hliquidity,
    (Dict.size_index_eq_length_iff _ _).mp hestimates, ?_⟩
  rw [AllocationInputs.correlationsByPair, Dict.size_ofList, List.map_map] at hcorrelations
  apply Dict.length_dedup_eq_iff.mp
  rw [List.length_map]
  exact hcorrelations

/-- With distinct keys the health of an alpha is its only health snapshot. -/
theorem KeysUnique.health_found (h : KeysUnique inputs) {alpha : AlphaId}
    {health : AlphaHealthSnapshot F} :
    inputs.healthByAlpha.get? alpha = some health ↔
      health ∈ inputs.health ∧ health.alphaId = alpha :=
  Dict.get?_index_of_nodup h.health

theorem KeysUnique.capacity_found (h : KeysUnique inputs) {entity : Uuid}
    {capacity : LiquidityCapacity} :
    inputs.capacities.get? entity = some capacity ↔
      capacity ∈ inputs.liquidity ∧ capacity.entityId = entity :=
  Dict.get?_index_of_nodup h.liquidity

theorem KeysUnique.estimate_found (h : KeysUnique inputs) {signal : Uuid}
    {estimate : CandidateRiskEstimate} :
    inputs.estimatesById.get? signal = some estimate ↔
      estimate ∈ inputs.estimates ∧ estimate.signalId = signal :=
  Dict.get?_index_of_nodup h.estimates

end Unique

section Groups

/-- Of groups with distinct keys, laid end to end, the members with one key are its group. -/
theorem filter_flatMap_key {α β κ : Type} [DecidableEq κ] {xs : List α} {key : α → κ}
    {f : α → List β} {keyOf : β → κ} (hunique : (xs.map key).Nodup)
    (hkey : ∀ x ∈ xs, ∀ y ∈ f x, keyOf y = key x) {x : α} (hx : x ∈ xs) :
    (xs.flatMap f).filter (fun y => keyOf y = key x) = f x := by
  have hother : ∀ z ∈ xs, (f z).filter (fun y => keyOf y = key x) =
      if key z = key x then f z else [] := by
    intro z hz
    split
    · rename_i heq
      exact List.filter_eq_self.mpr fun y hy => by simp [hkey z hz y hy, heq]
    · rename_i hne
      exact List.filter_eq_nil_iff.mpr fun y hy => by simp [hkey z hz y hy, hne]
  induction xs with
  | nil => cases hx
  | cons w rest ih =>
    rw [List.map_cons, List.nodup_cons] at hunique
    rw [List.flatMap_cons, List.filter_append, hother w List.mem_cons_self]
    rcases List.mem_cons.mp hx with rfl | hx
    · have hrest : (rest.flatMap f).filter (fun y => keyOf y = key x) = [] := by
        refine List.filter_eq_nil_iff.mpr ?_
        intro y hy
        obtain ⟨z, hz, hyz⟩ := List.mem_flatMap.mp hy
        rw [hkey z (List.mem_cons_of_mem _ hz) y hyz, decide_eq_true_eq]
        exact fun heq => hunique.1 (heq ▸ List.mem_map_of_mem hz)
      rw [if_pos rfl, hrest, List.append_nil]
    · have hne : key w ≠ key x := fun heq => hunique.1 (heq ▸ List.mem_map_of_mem hx)
      rw [if_neg hne, List.nil_append]
      exact ih hunique.2 (fun z hz => hkey z (List.mem_cons_of_mem _ hz)) hx
        fun z hz => hother z (List.mem_cons_of_mem _ hz)

variable {F : Type} [PyFloat F] [Platform] {inputs : AllocationInputs F}
  {calendar : ExchangeCalendar}

/-- Each candidate is accepted at most once. -/
theorem taken_unique (inputs : AllocationInputs F) (calendar : ExchangeCalendar) :
    ((takenBy inputs (allocate inputs calendar)).map (·.1.signalId)).Nodup := by
  rcases decision_cases inputs calendar with ⟨-, hnone, -⟩ | ⟨hgate, -, hpass⟩
  · simp [takenBy, accepted, hnone]
  · have hlength : inputs.ordered.length = (allocate inputs calendar).allocations.length := by
      simpa using (congrArg List.length hpass.ids).symm
    have hsub : ((takenBy inputs (allocate inputs calendar)).map (·.1)).Sublist inputs.ordered := by
      have hzip := List.map_fst_zip (le_of_eq hlength)
      rw [← hzip]
      exact List.filter_sublist.map _
    have hids := hsub.map (·.signalId)
    rw [List.map_map] at hids
    exact hids.nodup hgate.signals_unique

/-- What a decision adds under the signal of an accepted candidate is its bundle. -/
theorem added_group {pair : NormalizedCandidate × AllocationRecord}
    (h : pair ∈ takenBy inputs (allocate inputs calendar)) :
    (addedBy inputs (allocate inputs calendar)).filter
      (fun p => p.groupId = pair.1.signalId) = additionsFor inputs pair := by
  rw [addedBy_eq]
  refine filter_flatMap_key (taken_unique inputs calendar) ?_ h
  intro x hx p hp
  obtain ⟨estimate, leg, -, hleg⟩ := leg_of_added ((passed_of_taken hx).2.decided x hx) hp
  exact hleg.group

/-- A position added under the signal of a candidate means the candidate was accepted. -/
theorem taken_of_group {c : NormalizedCandidate} (hc : c ∈ inputs.ensemble.candidates)
    {p : TargetPosition} (hp : p ∈ addedBy inputs (allocate inputs calendar))
    (hgroup : p.groupId = c.signalId) :
    ∃ pair ∈ takenBy inputs (allocate inputs calendar),
      pair.1 = c ∧ p ∈ additionsFor inputs pair := by
  obtain ⟨pair, hpair, hmem⟩ := taken_of_added hp
  obtain ⟨hgate, hpass⟩ := passed_of_taken hpair
  obtain ⟨estimate, leg, -, hleg⟩ := leg_of_added (hpass.decided pair hpair) hmem
  refine ⟨pair, hpair, ?_, hmem⟩
  have hordered : pair.1 ∈ inputs.ordered := mem_sortOn.mpr (candidate_of_taken hpair)
  exact List.inj_on_of_nodup_map hgate.signals_unique hordered (mem_sortOn.mpr hc)
    (hleg.group.symm.trans hgroup)

end Groups

variable {F : Type} [PyFloat F] [Platform] {inputs : AllocationInputs F}
  {calendar : ExchangeCalendar}

section Amounts

omit [Platform] in
/-- The open risk of a bundle is its amount times the loss per gross and its unit gross. -/
theorem openRisk_additionsOf (candidate : NormalizedCandidate) (estimate : CandidateRiskEstimate)
    {amount : ℚ} (h : 0 ≤ amount) :
    ((additionsOf candidate estimate amount h).map (·.openRiskFraction)).sum =
      amount * estimate.lossPerGross * grossWeight candidate.legs := by
  simp only [additionsOf, grossWeight, List.map_map, Function.comp_def, List.sum_map_mul_left]

theorem Proposal.openRisk_le {targets : List TargetPosition} {candidate : NormalizedCandidate}
    {health : AlphaHealthSnapshot F} {estimate : CandidateRiskEstimate} {amount : ℚ}
    (h : Proposal inputs targets candidate health estimate amount) :
    amount * estimate.lossPerGross * grossWeight candidate.legs ≤
      (1 + 1 / 10 ^ 12) * inputs.settings.maxCandidateRisk := by
  have hloss := estimate.loss_range.1
  have hrisk : amount * estimate.lossPerGross ≤ inputs.settings.maxCandidateRisk :=
    (le_div_iff₀ hloss).mp h.within_risk
  calc amount * estimate.lossPerGross * grossWeight candidate.legs
      ≤ amount * estimate.lossPerGross * (1 + 1 / 10 ^ 12) :=
        mul_le_mul_of_nonneg_left candidate.indivisible_weights.gross_le
          (mul_nonneg h.positive.le hloss.le)
    _ ≤ inputs.settings.maxCandidateRisk * (1 + 1 / 10 ^ 12) :=
        mul_le_mul_of_nonneg_right hrisk (by norm_num)
    _ = (1 + 1 / 10 ^ 12) * inputs.settings.maxCandidateRisk := mul_comm _ _

/-- The most equity fraction of a security, in notional. -/
theorem capacityCap_mul_equity (inputs : AllocationInputs F) (capacity : LiquidityCapacity) :
    capacityCap inputs capacity * inputs.portfolio.equity ≤ capacity.maxNotional ∧
    capacityCap inputs capacity * inputs.portfolio.equity ≤
      capacity.advShares * capacity.price * inputs.settings.maxAdvParticipation ∧
    capacityCap inputs capacity * inputs.portfolio.equity ≤
      capacity.dailyTurnover * inputs.settings.maxTurnoverParticipation := by
  have hequity := inputs.portfolio.equity_pos
  have hle := (leastOf_le inputs.settings.maxSymbol
    [ capacity.maxNotional / inputs.portfolio.equity,
      capacity.advShares * capacity.price * inputs.settings.maxAdvParticipation /
        inputs.portfolio.equity,
      capacity.dailyTurnover * inputs.settings.maxTurnoverParticipation /
        inputs.portfolio.equity ]).2
  exact ⟨(le_div_iff₀ hequity).mp (hle _ (by simp)), (le_div_iff₀ hequity).mp (hle _ (by simp)),
    (le_div_iff₀ hequity).mp (hle _ (by simp))⟩

end Amounts

section Limits

/-- A capacity that may be used now. -/
structure CapacityUsable (inputs : AllocationInputs F) (capacity : LiquidityCapacity) : Prop where
  eligible : capacity.eligible = true
  valid : capacity.timestamp ≤ inputs.now ∧ inputs.now ≤ capacity.validUntil
  fresh : inputs.now - capacity.timestamp ≤ secondsOf inputs.settings.maxInputAgeSeconds

theorem capacityUsable_iff {capacity : LiquidityCapacity} :
    ¬ CapacityUnavailable inputs capacity ↔ CapacityUsable inputs capacity := by
  simp only [CapacityUnavailable, not_or, not_not, Bool.not_eq_false, not_lt]
  exact ⟨fun ⟨a, b, c⟩ => ⟨a, b, c⟩, fun ⟨a, b, c⟩ => ⟨a, b, c⟩⟩

/-- The notional of a position fits the capacity of its security. -/
structure FitsCapacity (inputs : AllocationInputs F) (p : TargetPosition)
    (capacity : LiquidityCapacity) : Prop where
  notional : |p.signedNotionalFraction| * inputs.portfolio.equity ≤ capacity.maxNotional
  volume : |p.signedNotionalFraction| * inputs.portfolio.equity ≤
    capacity.advShares * capacity.price * inputs.settings.maxAdvParticipation
  turnover : |p.signedNotionalFraction| * inputs.portfolio.equity ≤
    capacity.dailyTurnover * inputs.settings.maxTurnoverParticipation

/-- The limits that what a decision adds is clipped to. -/
structure Clipped (inputs : AllocationInputs F) (decision : PortfolioDecision) : Prop where
  /-- An alpha with an added position stays in its budget, existing positions included. -/
  budget : ∀ p ∈ addedBy inputs decision,
    (∃ health ∈ inputs.health, health.alphaId = p.alphaId) ∧
    ∀ health ∈ inputs.health, health.alphaId = p.alphaId →
      grossOf (decision.targets.filter fun q => q.alphaId = p.alphaId) ≤
        (1 + 1 / 10 ^ 12) * ((inputs.registry.registration p.alphaId).baseBudget *
          PyFloat.toDecimal inputs.state.grossRiskMultiplier *
          PyFloat.toDecimal health.multiplier.value)
  /-- The legs of an accepted candidate stay in the risk of one candidate. -/
  candidate_risk : ∀ pair ∈ takenBy inputs decision,
    (((addedBy inputs decision).filter fun p => p.groupId = pair.1.signalId).map
      (·.openRiskFraction)).sum ≤ (1 + 1 / 10 ^ 12) * inputs.settings.maxCandidateRisk
  /-- An added position fits a usable capacity of its security. -/
  capacity : ∀ p ∈ addedBy inputs decision,
    (∃ capacity ∈ inputs.liquidity, capacity.entityId = p.entityId) ∧
    ∀ capacity ∈ inputs.liquidity, capacity.entityId = p.entityId →
      CapacityUsable inputs capacity ∧ FitsCapacity inputs p capacity

/-- A leg of a proposal fits the capacity of its security. -/
theorem Proposal.leg_fits {targets : List TargetPosition} {candidate : NormalizedCandidate}
    {health : AlphaHealthSnapshot F} {estimate estimate' : CandidateRiskEstimate} {amount : ℚ}
    (h : Proposal inputs targets candidate health estimate amount) {leg : CandidateLeg}
    (hleg : leg ∈ candidate.legs) {p : TargetPosition}
    (hp : LegOf candidate estimate' amount leg p) :
    ∃ capacity, inputs.capacities.get? p.entityId = some capacity ∧
      CapacityUsable inputs capacity ∧ FitsCapacity inputs p capacity := by
  obtain ⟨capacity, hfound, husable, hle⟩ := h.capacity leg hleg
  have hweight : 0 < |leg.signedWeight| :=
    abs_pos.mpr (candidate.indivisible_weights.nonzero leg hleg)
  have hcap : |p.signedNotionalFraction| ≤ capacityCap inputs capacity := by
    rw [hp.notional, abs_mul, abs_of_pos h.positive]
    exact (le_div_iff₀ hweight).mp hle
  have hmul := mul_le_mul_of_nonneg_right hcap inputs.portfolio.equity_pos.le
  obtain ⟨hnotional, hvolume, hturnover⟩ := capacityCap_mul_equity inputs capacity
  exact ⟨capacity, hp.entity ▸ hfound, capacityUsable_iff.mp husable,
    hmul.trans hnotional, hmul.trans hvolume, hmul.trans hturnover⟩

/-- Every decision stays within the limits that are clipped to and not rechecked. -/
theorem allocate_clips (inputs : AllocationInputs F) (calendar : ExchangeCalendar) :
    Clipped inputs (allocate inputs calendar) := by
  constructor
  · intro p hp
    obtain ⟨pair, hpair, hmem⟩ := taken_of_added hp
    obtain ⟨hgate, hpass⟩ := passed_of_taken hpair
    have hunique := keysUnique_of_unambiguous hgate.unambiguous
    have hdecided := hpass.decided pair hpair
    obtain ⟨estimate, leg, -, hleg⟩ := leg_of_added hdecided hmem
    obtain ⟨before, after, health, estimate', -, hproposal⟩ := hdecided
    rw [hleg.alpha]
    refine ⟨⟨health, hunique.health_found.mp hproposal.health_found⟩, ?_⟩
    intro health' hmem' halpha
    exact hpass.budget pair hpair health' (hunique.health_found.mpr ⟨hmem', halpha⟩)
  · intro pair hpair
    obtain ⟨-, hpass⟩ := passed_of_taken hpair
    rw [added_group hpair]
    obtain ⟨before, after, health, estimate, -, hproposal⟩ := hpass.decided pair hpair
    have hadd : additionsFor inputs pair =
        additionsOf pair.1 estimate pair.2.allocatedGross pair.2.gross_nonneg := by
      simp [additionsFor, hproposal.estimate_found]
    rw [hadd, openRisk_additionsOf]
    exact hproposal.openRisk_le
  · intro p hp
    obtain ⟨pair, hpair, hmem⟩ := taken_of_added hp
    obtain ⟨hgate, hpass⟩ := passed_of_taken hpair
    have hunique := keysUnique_of_unambiguous hgate.unambiguous
    have hdecided := hpass.decided pair hpair
    obtain ⟨estimate, leg, hlegs, hleg⟩ := leg_of_added hdecided hmem
    obtain ⟨before, after, health, estimate', -, hproposal⟩ := hdecided
    obtain ⟨capacity, hfound, husable, hfits⟩ := hproposal.leg_fits hlegs hleg
    refine ⟨⟨capacity, hunique.capacity_found.mp hfound⟩, ?_⟩
    intro capacity' hmem' hentity
    have hsame := hunique.capacity_found.mpr ⟨hmem', hentity⟩
    obtain rfl : capacity = capacity' := Option.some.inj (hfound.symm.trans hsame)
    exact ⟨husable, hfits⟩

end Limits

end Godzilla.Portfolio
