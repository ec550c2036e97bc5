import Godzilla.Portfolio.AllocatorFacts
import Mathlib.Algebra.BigOperators.Ring.List
import Mathlib.Data.List.Nodup

/-!
# The whole pass

`PassInv` is what the pass has established after any number of candidates: the
targets are the existing positions followed by the bundles of the accepted
candidates, no security is taken twice, the caps hold as soon as anything was
added, no alpha exceeds its budget beyond the tolerance of unit gross, and every
accepted candidate was a proposal against the targets it saw.
-/

namespace Godzilla.Portfolio
open Godzilla Features MarketState MarketData Ensemble Misc

/-- The candidates whose record allocates something, with the record. -/
def accepted (candidates : List NormalizedCandidate) (records : List AllocationRecord) :
    List (NormalizedCandidate × AllocationRecord) :=
  (candidates.zip records).filter fun pair => 0 < pair.2.allocatedGross

theorem accepted_concat {candidates : List NormalizedCandidate} {records : List AllocationRecord}
    (h : candidates.length = records.length) (c : NormalizedCandidate) (r : AllocationRecord) :
    accepted (candidates ++ [c]) (records ++ [r]) =
      accepted candidates records ++ if 0 < r.allocatedGross then [(c, r)] else [] := by
  rw [accepted, List.zip_append h, List.filter_append, accepted]
  by_cases hr : 0 < r.allocatedGross <;> simp [hr]

section Additions

variable {c : NormalizedCandidate} {estimate : CandidateRiskEstimate} {amount : ℚ} {h : 0 ≤ amount}

theorem map_entityId_additionsOf :
    (additionsOf c estimate amount h).map (·.entityId) = c.legs.map (·.entityId) := by
  simp [additionsOf]

/-- A bundle counts for its own alpha only, with the amount times its unit gross. -/
theorem alphaGross_additionsOf (alpha : AlphaId) :
    alphaGross (additionsOf c estimate amount h) alpha =
      if c.alphaId = alpha then amount * grossWeight c.legs else 0 := by
  unfold alphaGross additionsOf
  by_cases hc : c.alphaId = alpha
  · simp only [grossOf, List.filter_map, Function.comp_def, hc, decide_true, List.filter_true,
      List.map_map, if_true, grossWeight, abs_mul, abs_of_nonneg h, List.sum_map_mul_left]
  · simp [grossOf, List.filter_map, Function.comp_def, hc]

theorem alphaGross_append (xs ys : List TargetPosition) (alpha : AlphaId) :
    alphaGross (xs ++ ys) alpha = alphaGross xs alpha + alphaGross ys alpha := by
  simp [alphaGross]

end Additions

variable {F : Type} [PyFloat F] [Platform]

/-- The positions an accepted candidate turns into. -/
def additionsFor (inputs : AllocationInputs F) (pair : NormalizedCandidate × AllocationRecord) :
    List TargetPosition :=
  match inputs.estimatesById.get? pair.1.signalId with
  | some estimate => additionsOf pair.1 estimate pair.2.allocatedGross pair.2.gross_nonneg
  | none => []

/-- The targets after the bundles of some accepted candidates. -/
def targetsAfter (inputs : AllocationInputs F)
    (taken : List (NormalizedCandidate × AllocationRecord)) : List TargetPosition :=
  inputs.portfolio.positions ++ taken.flatMap (additionsFor inputs)

/-- An accepted candidate was a proposal against the targets that the candidates accepted
    before it had left. -/
def Decided (inputs : AllocationInputs F) (taken : List (NormalizedCandidate × AllocationRecord))
    (pair : NormalizedCandidate × AllocationRecord) : Prop :=
  ∃ before after health estimate, taken = before ++ pair :: after ∧
    Proposal inputs (targetsAfter inputs before) pair.1 health estimate pair.2.allocatedGross

/-- What the pass has established after the candidates `seen`. -/
structure PassInv (inputs : AllocationInputs F) (seen : List NormalizedCandidate)
    (acc : List TargetPosition × List AllocationRecord) : Prop where
  ids : acc.2.map (·.signalId) = seen.map (·.signalId)
  targets : acc.1 = targetsAfter inputs (accepted seen acc.2)
  capped : accepted seen acc.2 ≠ [] → Capped acc.1 inputs.settings
  distinct : (((accepted seen acc.2).flatMap (additionsFor inputs)).map (·.entityId)).Nodup
  disjoint : ∀ p ∈ (accepted seen acc.2).flatMap (additionsFor inputs),
    p.entityId ∉ inputs.portfolio.positions.map (·.entityId)
  budget : ∀ pair ∈ accepted seen acc.2, ∀ health,
    inputs.healthByAlpha.get? pair.1.alphaId = some health →
      alphaGross acc.1 pair.1.alphaId ≤
        (1 + 1 / 10 ^ 12) * alphaBudget inputs pair.1.alphaId health
  decided : ∀ pair ∈ accepted seen acc.2, Decided inputs (accepted seen acc.2) pair

section Step

variable {inputs : AllocationInputs F} {seen : List NormalizedCandidate}
  {acc : List TargetPosition × List AllocationRecord} {c : NormalizedCandidate}

theorem passInv_start : PassInv inputs [] (inputs.portfolio.positions, []) where
  ids := rfl
  targets := by simp [accepted, targetsAfter]
  capped := by simp [accepted]
  distinct := by simp [accepted]
  disjoint := by simp [accepted]
  budget := by simp [accepted]
  decided := by simp [accepted]

/-- The budget after a bundle is added: what was left, used up to the unit gross of the
    bundle. -/
theorem budget_after {health : AlphaHealthSnapshot F} {estimate : CandidateRiskEstimate}
    {targets : List TargetPosition} {amount : ℚ}
    (h : Proposal inputs targets c health estimate amount) :
    alphaGross (targets ++ additionsOf c estimate amount h.positive.le) c.alphaId ≤
      (1 + 1 / 10 ^ 12) * alphaBudget inputs c.alphaId health := by
  rw [alphaGross_append, alphaGross_additionsOf, if_pos rfl]
  have hgross := c.indivisible_weights.gross_le
  have hheld : 0 ≤ alphaGross targets c.alphaId := grossOf_nonneg _
  have hleft := h.within_budget
  calc alphaGross targets c.alphaId + amount * grossWeight c.legs
      ≤ alphaGross targets c.alphaId + amount * (1 + 1 / 10 ^ 12) := by
        have := mul_le_mul_of_nonneg_left hgross h.positive.le
        linarith
    _ ≤ alphaGross targets c.alphaId +
          (alphaBudget inputs c.alphaId health - alphaGross targets c.alphaId) *
            (1 + 1 / 10 ^ 12) := by
        have := mul_le_mul_of_nonneg_right hleft (show (0 : ℚ) ≤ 1 + 1 / 10 ^ 12 by norm_num)
        linarith
    _ ≤ (1 + 1 / 10 ^ 12) * alphaBudget inputs c.alphaId health := by
        nlinarith

theorem PassInv.step (h : PassInv inputs seen acc) (c : NormalizedCandidate) :
    PassInv inputs (seen ++ [c]) (passStep inputs acc c) := by
  obtain ⟨targets, records⟩ := acc
  have htargets : targets = targetsAfter inputs (accepted seen records) := h.targets
  have hlength : seen.length = records.length := by
    simpa using (congrArg List.length h.ids).symm
  have hid := allocateCandidate_signalId inputs targets c
  rcases hit : allocateCandidate inputs targets c with ⟨additions, r⟩
  have hstep : passStep inputs (targets, records) c = (targets ++ additions, records ++ [r]) := by
    simp [passStep, hit]
  rw [hstep]
  rw [hit] at hid
  have hids : (records ++ [r]).map (·.signalId) = (seen ++ [c]).map (·.signalId) := by
    simpa using ⟨h.ids, hid⟩
  have hcases := allocateCandidate_cases inputs targets c
  rw [hit] at hcases
  rcases hcases with ⟨rfl, hzero⟩ | ⟨health, estimate, amount, hp, rfl, hamount⟩
  · -- nothing was added
    have hsame : accepted (seen ++ [c]) (records ++ [r]) = accepted seen records := by
      rw [accepted_concat hlength, if_neg (by rw [hzero]; exact lt_irrefl _), List.append_nil]
    constructor
    · exact hids
    all_goals simp only [hsame, List.append_nil]
    · exact h.targets
    · exact h.capped
    · exact h.distinct
    · exact h.disjoint
    · exact h.budget
    · exact h.decided
  · -- the bundle of a proposal was added
    obtain rfl : r.allocatedGross = amount := hamount
    have hnew : accepted (seen ++ [c]) (records ++ [r]) = accepted seen records ++ [(c, r)] := by
      rw [accepted_concat hlength, if_pos hp.positive]
    have hadd : additionsFor inputs (c, r) =
        additionsOf c estimate r.allocatedGross hp.positive.le := by
      simp [additionsFor, hp.estimate_found]
    have hflat : (accepted seen records ++ [(c, r)]).flatMap (additionsFor inputs) =
        (accepted seen records).flatMap (additionsFor inputs) ++
          additionsOf c estimate r.allocatedGross hp.positive.le := by
      simp [hadd]
    have hheld : ∀ p ∈ additionsOf c estimate r.allocatedGross hp.positive.le,
        p.entityId ∉ targets.map (·.entityId) := by
      intro p hmem
      have hleg := List.mem_map_of_mem (f := TargetPosition.entityId) hmem
      rw [map_entityId_additionsOf] at hleg
      obtain ⟨leg, hleg, heq⟩ := List.mem_map.mp hleg
      rw [← heq]
      exact hp.no_overlap leg hleg
    constructor
    · exact hids
    all_goals simp only [hnew, hflat, targetsAfter]
    · exact (congrArg (· ++ _) htargets).trans (List.append_assoc _ _ _)
    · exact fun _ => hp.capped
    · rw [List.map_append, List.nodup_append]
      refine ⟨h.distinct, ?_, ?_⟩
      · rw [map_entityId_additionsOf]
        exact c.indivisible_weights.unique
      · intro a ha b hb hab
        obtain ⟨p, hmem, rfl⟩ := List.mem_map.mp hb
        apply hheld p hmem
        rw [htargets, targetsAfter, List.map_append, List.mem_append]
        exact Or.inr (hab ▸ ha)
    · intro p hmem
      rcases List.mem_append.mp hmem with hmem | hmem
      · exact h.disjoint p hmem
      · intro hpos
        apply hheld p hmem
        rw [htargets, targetsAfter, List.map_append, List.mem_append]
        exact Or.inl hpos
    · intro pair hpair health' hhealth'
      by_cases halpha : pair.1.alphaId = c.alphaId
      · rw [halpha] at hhealth' ⊢
        obtain rfl : health = health' := Option.some.inj (hp.health_found.symm.trans hhealth')
        exact budget_after hp
      · rcases List.mem_append.mp hpair with hpair | hpair
        · rw [alphaGross_append, alphaGross_additionsOf, if_neg (Ne.symm halpha), add_zero]
          exact h.budget pair hpair health' hhealth'
        · obtain rfl := List.mem_singleton.mp hpair
          exact absurd rfl halpha
    · intro pair hpair
      rcases List.mem_append.mp hpair with hpair | hpair
      · obtain ⟨before, after, health', estimate', hsplit, hprop⟩ := h.decided pair hpair
        refine ⟨before, after ++ [(c, r)], health', estimate', ?_, hprop⟩
        exact (congrArg (· ++ _) hsplit).trans (by simp)
      · obtain rfl := List.mem_singleton.mp hpair
        exact ⟨accepted seen records, [], health, estimate, rfl, htargets ▸ hp⟩

end Step

/-- After the whole pass. -/
theorem passInv_run (inputs : AllocationInputs F) (candidates : List NormalizedCandidate) :
    PassInv inputs candidates
      (candidates.foldl (passStep inputs) (inputs.portfolio.positions, [])) :=
  run_history passInv_start (fun _ _ c h => h.step c) candidates

/-- `allocate` stops at a closed gate and changes nothing, or reports the whole pass. -/
theorem allocate_cases (inputs : AllocationInputs F) (calendar : ExchangeCalendar) :
    (∃ reason, gate inputs calendar = some reason ∧ reason ≠ "PROPOSALS_ONLY_NO_EXECUTION" ∧
      (allocate inputs calendar).reasons = [reason] ∧
      (allocate inputs calendar).targets = inputs.portfolio.positions ∧
      (allocate inputs calendar).allocations = []) ∨
    (gate inputs calendar = none ∧
      (allocate inputs calendar).reasons = ["PROPOSALS_ONLY_NO_EXECUTION"] ∧
      PassInv inputs inputs.ordered
        ((allocate inputs calendar).targets, (allocate inputs calendar).allocations)) := by
  cases hgate : gate inputs calendar with
  | none =>
    right
    refine ⟨rfl, by simp [allocate, hgate], ?_⟩
    have hrun := passInv_run inputs inputs.ordered
    simpa [allocate, hgate] using hrun
  | some reason =>
    left
    refine ⟨reason, rfl, ?_, by simp [allocate, hgate], by simp [allocate, hgate],
      by simp [allocate, hgate]⟩
    rintro rfl
    unfold gate at hgate
    split at hgate
    · simp at hgate
    · simp at hgate
    · split at hgate
      · simp at hgate
      split at hgate
      · simp at hgate
      split at hgate
      · simp at hgate
      split at hgate
      · simp at hgate
      split at hgate <;> simp at hgate

end Godzilla.Portfolio
