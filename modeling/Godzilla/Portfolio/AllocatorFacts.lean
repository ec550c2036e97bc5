import Godzilla.Misc.Transition
import Godzilla.Portfolio.Allocator

/-!
# What one iteration of the allocator does

`allocateCandidate_cases` sums up an iteration: it adds nothing and reports
nothing allocated, or it adds the whole bundle of a `Proposal`, a candidate that
passed every gate against the targets it saw, with an amount below every limit.
-/

namespace Godzilla.Portfolio
open Godzilla Features MarketState MarketData Ensemble Misc

theorem leastOf_le (first : ℚ) (rest : List ℚ) :
    leastOf first rest ≤ first ∧ ∀ x ∈ rest, leastOf first rest ≤ x := by
  unfold leastOf
  induction rest generalizing first with
  | nil => simp
  | cons y rest ih =>
    obtain ⟨hfirst, hrest⟩ := ih (min first y)
    refine ⟨le_trans hfirst (min_le_left _ _), ?_⟩
    intro x hx
    rcases List.mem_cons.mp hx with rfl | hx
    · exact le_trans hfirst (min_le_right _ _)
    · exact hrest x hx

/-- A positive rounded amount is at most what was rounded. -/
theorem roundDown_le {x : ℚ} (h : 0 < roundDown x) : roundDown x ≤ x := by
  have hle : roundDown x ≤ max 0 x := by
    unfold roundDown
    rw [div_le_iff₀ (by norm_num)]
    exact Int.floor_le _
  rcases le_total x 0 with hx | hx
  · rw [max_eq_left hx] at hle
    exact absurd h (not_lt.mpr hle)
  · rwa [max_eq_right hx] at hle

theorem grossOf_nonneg (positions : List TargetPosition) : 0 ≤ grossOf positions :=
  List.sum_nonneg (by simp [abs_nonneg])

@[simp] theorem grossOf_append (xs ys : List TargetPosition) :
    grossOf (xs ++ ys) = grossOf xs + grossOf ys := by
  simp [grossOf]

/-- The caps that `within_caps` checks. -/
structure Capped (positions : List TargetPosition) (cfg : AllocatorSettings) : Prop where
  gross : grossOf positions ≤ cfg.maxGross
  net : |(positions.map (·.signedNotionalFraction)).sum| ≤ cfg.maxNet
  open_risk : (positions.map (·.openRiskFraction)).sum ≤ cfg.maxOpenRisk
  groups : groupCount positions ≤ cfg.maxGroups
  alpha : ∀ p ∈ positions,
    grossOf (positions.filter fun q => q.alphaId = p.alphaId) ≤ cfg.maxAlpha
  sector : ∀ p ∈ positions,
    grossOf (positions.filter fun q => q.sector = p.sector) ≤ cfg.maxSector
  security : ∀ p ∈ positions,
    grossOf (positions.filter fun q => q.entityId = p.entityId) ≤ cfg.maxSymbol
  sector_groups : ∀ p ∈ positions,
    groupCount (positions.filter fun q => q.sector = p.sector) ≤ cfg.maxSectorGroups

theorem capExceeded_eq_false {κ : Type} [DecidableEq κ] {attr : TargetPosition → κ} {cap : ℚ}
    {positions : List TargetPosition} :
    capExceeded attr cap positions = false ↔
      ∀ p ∈ positions, grossOf (positions.filter fun q => attr q = attr p) ≤ cap := by
  simp [capExceeded]

/-- `within_caps` answers whether every cap holds. -/
theorem withinCaps_iff {positions : List TargetPosition} {cfg : AllocatorSettings} :
    withinCaps positions cfg = true ↔ Capped positions cfg := by
  have hunfold : withinCaps positions cfg = true ↔
      (grossOf positions ≤ cfg.maxGross ∧
        |(positions.map (·.signedNotionalFraction)).sum| ≤ cfg.maxNet ∧
        (positions.map (·.openRiskFraction)).sum ≤ cfg.maxOpenRisk ∧
        groupCount positions ≤ cfg.maxGroups) ∧
      ((capExceeded (·.alphaId) cfg.maxAlpha positions = false ∧
        capExceeded (·.sector) cfg.maxSector positions = false) ∧
        capExceeded (·.entityId) cfg.maxSymbol positions = false) ∧
      ∀ p ∈ positions, groupCount (positions.filter fun q => q.sector = p.sector) ≤
        cfg.maxSectorGroups := by
    simp only [withinCaps, totals, Bool.if_false_left, Bool.and_eq_true, Bool.not_eq_true',
      decide_eq_false_iff_not, Bool.or_eq_true, not_or, not_lt, List.all_eq_true,
      decide_eq_true_eq, Bool.not_eq_true]
  simp only [hunfold, capExceeded_eq_false]
  constructor
  · rintro ⟨⟨hgross, hnet, hrisk, hgroups⟩, ⟨⟨halpha, hsector⟩, hsecurity⟩, hsectorGroups⟩
    exact ⟨hgross, hnet, hrisk, hgroups, halpha, hsector, hsecurity, hsectorGroups⟩
  · intro h
    exact ⟨⟨h.gross, h.net, h.open_risk, h.groups⟩, ⟨⟨h.alpha, h.sector⟩, h.security⟩,
      h.sector_groups⟩

/-- A monadic map that succeeds has an answer for every element. -/
theorem exists_of_mapM_ok {ε α β : Type} {f : α → Except ε β} {xs : List α} {ys : List β}
    (h : xs.mapM f = .ok ys) : ∀ x ∈ xs, ∃ y ∈ ys, f x = .ok y := by
  induction xs generalizing ys with
  | nil => simp
  | cons x xs ih =>
    rw [List.mapM_cons] at h
    cases hx : f x with
    | error e => rw [hx] at h; cases h
    | ok y =>
      cases hxs : xs.mapM f with
      | error e => rw [hx, hxs] at h; cases h
      | ok rest =>
        rw [hx, hxs] at h
        obtain rfl : y :: rest = ys := Except.ok.inj h
        intro z hz
        rcases List.mem_cons.mp hz with rfl | hz
        · exact ⟨y, List.mem_cons_self, hx⟩
        · obtain ⟨w, hw, hf⟩ := ih hxs z hz
          exact ⟨w, List.mem_cons_of_mem _ hw, hf⟩

/-- A monadic fold that succeeds answered at every element. -/
theorem ok_of_foldlM_ok {ε α β : Type} {f : β → α → Except ε β} {xs : List α} {b b' : β}
    (h : xs.foldlM f b = .ok b') : ∀ x ∈ xs, ∃ c d, f c x = .ok d := by
  induction xs generalizing b with
  | nil => simp
  | cons x xs ih =>
    rw [List.foldlM_cons] at h
    cases hx : f b x with
    | error e => rw [hx] at h; cases h
    | ok d =>
      rw [hx] at h
      intro z hz
      rcases List.mem_cons.mp hz with rfl | hz
      · exact ⟨b, d, hx⟩
      · exact ih h z hz

variable {F : Type} [PyFloat F] [Platform] {inputs : AllocationInputs F}
  {targets : List TargetPosition} {candidate : NormalizedCandidate}

/-- A candidate that passed every gate against `targets`, and the amount it was given. -/
structure Proposal (inputs : AllocationInputs F) (targets : List TargetPosition)
    (candidate : NormalizedCandidate) (health : AlphaHealthSnapshot F)
    (estimate : CandidateRiskEstimate) (amount : ℚ) : Prop where
  health_found : inputs.healthByAlpha.get? candidate.alphaId = some health
  estimate_found : inputs.estimatesById.get? candidate.signalId = some estimate
  available : ¬ CandidateUnavailable inputs candidate health estimate
  no_overlap : ∀ leg ∈ candidate.legs, leg.entityId ∉ targets.map (·.entityId)
  groups_left : groupCount targets < inputs.settings.maxGroups
  sectors_left : ∀ leg ∈ candidate.legs,
    groupCount (targets.filter fun p => p.sector = leg.sector) < inputs.settings.maxSectorGroups
  correlated : ∀ leg ∈ candidate.legs, ∀ p ∈ targets,
    (inputs.correlationsByPair.get? {leg.entityId, p.entityId}).isSome
  capacity : ∀ leg ∈ candidate.legs, ∃ capacity,
    inputs.capacities.get? leg.entityId = some capacity ∧ ¬ CapacityUnavailable inputs capacity ∧
      amount ≤ capacityCap inputs capacity / |leg.signedWeight|
  positive : 0 < amount
  within_budget : amount ≤
    alphaBudget inputs candidate.alphaId health - alphaGross targets candidate.alphaId
  within_risk : amount ≤ inputs.settings.maxCandidateRisk / estimate.lossPerGross
  capped : Capped (targets ++ additionsOf candidate estimate amount positive.le) inputs.settings

theorem candidateGates_ok {health : AlphaHealthSnapshot F} {estimate : CandidateRiskEstimate}
    (h : candidateGates inputs candidate = .ok (health, estimate)) :
    inputs.healthByAlpha.get? candidate.alphaId = some health ∧
      inputs.estimatesById.get? candidate.signalId = some estimate ∧
      ¬ CandidateUnavailable inputs candidate health estimate := by
  unfold candidateGates at h
  split at h
  · cases h
  rename_i health' hhealth
  split at h
  · cases h
  rename_i estimate' hestimate
  split at h
  · cases h
  rename_i havailable
  obtain ⟨rfl, rfl⟩ := Prod.mk.inj (Except.ok.inj h)
  exact ⟨hhealth, hestimate, havailable⟩

omit [Platform] in
theorem mem_sectorsOf {legs : List CandidateLeg} {leg : CandidateLeg} (h : leg ∈ legs) :
    leg.sector ∈ sectorsOf legs :=
  List.mem_dedup.mpr (List.mem_map_of_mem h)

theorem correlationOf_ok {corr : ℚ} (h : correlationOf inputs targets candidate = .ok corr) :
    ∀ leg ∈ candidate.legs, ∀ p ∈ targets,
      (inputs.correlationsByPair.get? {leg.entityId, p.entityId}).isSome := by
  intro leg hleg p hp
  have hpair : ({leg.entityId, p.entityId} : Finset Uuid) ∈ securityPairs targets candidate :=
    List.mem_flatMap.mpr ⟨leg, hleg, List.mem_map.mpr ⟨p, hp, rfl⟩⟩
  obtain ⟨c, d, hstep⟩ := ok_of_foldlM_ok h _ hpair
  cases hget : inputs.correlationsByPair.get? {leg.entityId, p.entityId} with
  | none => simp [hget] at hstep
  | some value => rfl

theorem overlapGates_ok {corr : ℚ} (h : overlapGates inputs targets candidate = .ok corr) :
    (∀ leg ∈ candidate.legs, leg.entityId ∉ targets.map (·.entityId)) ∧
      groupCount targets < inputs.settings.maxGroups ∧
      (∀ leg ∈ candidate.legs, groupCount (targets.filter fun p => p.sector = leg.sector) <
        inputs.settings.maxSectorGroups) ∧
      correlationOf inputs targets candidate = .ok corr := by
  unfold overlapGates at h
  split at h
  · cases h
  rename_i hoverlap
  split at h
  · cases h
  rename_i hgroups
  split at h
  · cases h
  rename_i hsectors
  push Not at hoverlap hgroups hsectors
  exact ⟨hoverlap, hgroups, fun leg hleg => hsectors _ (mem_sectorsOf hleg), h⟩

theorem legLimit_ok {leg : CandidateLeg} {limit : ℚ} (h : legLimit inputs leg = .ok limit) :
    ∃ capacity, inputs.capacities.get? leg.entityId = some capacity ∧
      ¬ CapacityUnavailable inputs capacity ∧
      limit = capacityCap inputs capacity / |leg.signedWeight| := by
  unfold legLimit at h
  split at h
  · cases h
  rename_i capacity hcapacity
  split at h
  · cases h
  rename_i havailable
  exact ⟨capacity, hcapacity, havailable, (Except.ok.inj h).symm⟩

/-- The last step adds nothing, or a positive amount within every cap. -/
theorem settle_cases (inputs : AllocationInputs F) (targets : List TargetPosition)
    (candidate : NormalizedCandidate) (estimate : CandidateRiskEstimate) (terms : Terms)
    {amount : ℚ} (h : 0 ≤ amount) :
    ((settle inputs targets candidate estimate terms amount h).1 = [] ∧
      (settle inputs targets candidate estimate terms amount h).2.allocatedGross = 0) ∨
    (0 < amount ∧ Capped (targets ++ additionsOf candidate estimate amount h) inputs.settings ∧
      (settle inputs targets candidate estimate terms amount h).1 =
        additionsOf candidate estimate amount h ∧
      (settle inputs targets candidate estimate terms amount h).2.allocatedGross = amount) := by
  unfold settle
  dsimp only
  split
  · rename_i haccepted
    exact Or.inr ⟨haccepted.1, withinCaps_iff.mp haccepted.2, rfl, rfl⟩
  · exact Or.inl ⟨rfl, rfl⟩

/-- An iteration adds nothing, or the whole bundle of a proposal. -/
theorem allocateCandidate_cases (inputs : AllocationInputs F) (targets : List TargetPosition)
    (candidate : NormalizedCandidate) :
    ((allocateCandidate inputs targets candidate).1 = [] ∧
      (allocateCandidate inputs targets candidate).2.allocatedGross = 0) ∨
    ∃ health estimate amount, ∃ h : Proposal inputs targets candidate health estimate amount,
      (allocateCandidate inputs targets candidate).1 =
        additionsOf candidate estimate amount h.positive.le ∧
      (allocateCandidate inputs targets candidate).2.allocatedGross = amount := by
  cases hgates : candidateGates inputs candidate with
  | error e => left; simp [allocateCandidate, hgates, recordOf]
  | ok found =>
    obtain ⟨health, estimate⟩ := found
    cases hoverlap : overlapGates inputs targets candidate with
    | error e => left; simp [allocateCandidate, hgates, hoverlap, recordOf]
    | ok corr =>
      cases hlegs : candidate.legs.mapM (legLimit inputs) with
      | error e => left; simp [allocateCandidate, hgates, hoverlap, hlegs, recordOf]
      | ok legLimits =>
        simp only [allocateCandidate, hgates, hoverlap, hlegs]
        rcases settle_cases inputs targets candidate estimate _ (roundDown_nonneg _) with
          hnone | ⟨hpositive, hcaps, hadded, hamount⟩
        · exact Or.inl hnone
        obtain ⟨hhealth, hestimate, havailable⟩ := candidateGates_ok hgates
        obtain ⟨hno, hgroups, hsectors, hcorr⟩ := overlapGates_ok hoverlap
        have hlimits := fun x hx => le_trans (roundDown_le hpositive) ((leastOf_le _ _).2 x hx)
        refine Or.inr ⟨health, estimate, _, ⟨hhealth, hestimate, havailable, hno, hgroups, hsectors,
          correlationOf_ok hcorr, ?_, hpositive, ?_, ?_, hcaps⟩, hadded, hamount⟩
        · intro leg hleg
          obtain ⟨limit, hmem, hlimit⟩ := exists_of_mapM_ok hlegs leg hleg
          obtain ⟨capacity, hcapacity, hfresh, rfl⟩ := legLimit_ok hlimit
          exact ⟨capacity, hcapacity, hfresh, hlimits _ (List.mem_append_right _ hmem)⟩
        · exact hlimits _ (by simp [portfolioLimits])
        · exact hlimits _ (by simp [portfolioLimits])

theorem allocateCandidate_signalId (inputs : AllocationInputs F) (targets : List TargetPosition)
    (candidate : NormalizedCandidate) :
    (allocateCandidate inputs targets candidate).2.signalId = candidate.signalId := by
  unfold allocateCandidate
  split
  · rfl
  split
  · rfl
  split
  · rfl
  · unfold settle
    dsimp only
    split <;> rfl

end Godzilla.Portfolio
