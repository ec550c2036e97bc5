import Godzilla.Portfolio.Limits

/-!
# Rearranged inputs

The order of the candidates, of the health snapshots, of the capacities, of the risk
estimates and of the correlation estimates does not show in what a decision proposes:
an ambiguous key stops the pass before it is read, and the pass itself follows the sort
by strength and signal id.
-/

namespace Godzilla.Portfolio
open Godzilla Features MarketState MarketData Ensemble Misc

variable {F : Type} [PyFloat F] [Platform]

/-- Each keyed input, listed in another order. -/
structure Rearrangement (inputs : AllocationInputs F) where
  candidates : List NormalizedCandidate
  health : List (AlphaHealthSnapshot F)
  liquidity : List LiquidityCapacity
  estimates : List CandidateRiskEstimate
  correlations : List CorrelationEstimate
  candidates_perm : candidates.Perm inputs.ensemble.candidates
  health_perm : health.Perm inputs.health
  liquidity_perm : liquidity.Perm inputs.liquidity
  estimates_perm : estimates.Perm inputs.estimates
  correlations_perm : correlations.Perm inputs.correlations.estimates

variable {inputs : AllocationInputs F}

/-- The inputs in the other order. -/
def Rearrangement.apply (r : Rearrangement inputs) : AllocationInputs F :=
  { inputs with
    ensemble := { inputs.ensemble with candidates := r.candidates }
    health := r.health
    liquidity := r.liquidity
    estimates := r.estimates
    correlations := { inputs.correlations with estimates := r.correlations } }

/-- The bindings of the correlations. -/
def correlationBindings (estimates : List CorrelationEstimate) : List (Finset Uuid × ℚ) :=
  estimates.map fun x => ({x.left, x.right}, |x.value|)

namespace Rearrangement

variable (r : Rearrangement inputs)

theorem correlationBindings_perm :
    (correlationBindings r.correlations).Perm
      (correlationBindings inputs.correlations.estimates) :=
  r.correlations_perm.map _

/-- The gate on ambiguous keys counts keys. -/
theorem inputAmbiguous_iff : InputAmbiguous r.apply ↔ InputAmbiguous inputs := by
  have hhealth : r.apply.healthByAlpha.size = inputs.healthByAlpha.size :=
    Dict.size_ofList_perm (r.health_perm.map _)
  have hliquidity : r.apply.capacities.size = inputs.capacities.size :=
    Dict.size_ofList_perm (r.liquidity_perm.map _)
  have hestimates : r.apply.estimatesById.size = inputs.estimatesById.size :=
    Dict.size_ofList_perm (r.estimates_perm.map _)
  have hcorrelations : r.apply.correlationsByPair.size = inputs.correlationsByPair.size :=
    Dict.size_ofList_perm r.correlationBindings_perm
  rw [InputAmbiguous, InputAmbiguous, hhealth, hliquidity, hestimates, hcorrelations,
    show r.apply.health.length = inputs.health.length from r.health_perm.length_eq,
    show r.apply.liquidity.length = inputs.liquidity.length from r.liquidity_perm.length_eq,
    show r.apply.estimates.length = inputs.estimates.length from r.estimates_perm.length_eq,
    show r.apply.correlations.estimates.length = inputs.correlations.estimates.length from
      r.correlations_perm.length_eq]
  rfl

theorem ordered_perm : r.apply.ordered.Perm inputs.ordered :=
  (sortOn_perm _ _).trans (r.candidates_perm.trans (sortOn_perm _ _).symm)

/-- The gates do not depend on the order. -/
theorem gate_eq (calendar : ExchangeCalendar) : gate r.apply calendar = gate inputs calendar := by
  have hsignals : (r.apply.ordered.map (·.signalId)).dedup.length =
      (inputs.ordered.map (·.signalId)).dedup.length :=
    ((r.ordered_perm.map _).dedup).length_eq
  have hlength : r.apply.ordered.length = inputs.ordered.length := r.ordered_perm.length_eq
  have hblocked : NewAllocationBlocked r.apply ↔ NewAllocationBlocked inputs := Iff.rfl
  simp only [gate, hsignals, hlength, hblocked, r.inputAmbiguous_iff]
  rfl

/-- With distinct signals the pass takes the candidates in the same order. -/
theorem ordered_eq (h : (inputs.ordered.map (·.signalId)).Nodup) :
    r.apply.ordered = inputs.ordered := by
  refine sortOn_eq_of_perm r.candidates_perm fun a ha b hb hkey => ?_
  have hsignal : a.signalId = b.signalId := (Prod.mk.inj (toLex.injective hkey)).2
  have hmem : ∀ c ∈ r.candidates, c ∈ inputs.ordered := fun c hc =>
    mem_sortOn.mpr (r.candidates_perm.mem_iff.mp hc)
  exact List.inj_on_of_nodup_map h (hmem a ha) (hmem b hb) hsignal

section Lookups

variable {r} (h : KeysUnique inputs)
include h

theorem candidateGates_eq (c : NormalizedCandidate) :
    candidateGates r.apply c = candidateGates inputs c := by
  have hhealth : r.apply.healthByAlpha.get? c.alphaId = inputs.healthByAlpha.get? c.alphaId :=
    (Dict.get?_index_perm r.health_perm.symm h.health c.alphaId).symm
  have hestimate : r.apply.estimatesById.get? c.signalId = inputs.estimatesById.get? c.signalId :=
    (Dict.get?_index_perm r.estimates_perm.symm h.estimates c.signalId).symm
  rw [candidateGates, candidateGates, hhealth, hestimate]
  rfl

theorem overlapGates_eq (targets : List TargetPosition) (c : NormalizedCandidate) :
    overlapGates r.apply targets c = overlapGates inputs targets c := by
  have hkeys : ((correlationBindings inputs.correlations.estimates).map Prod.fst).Nodup := by
    rw [correlationBindings, List.map_map]
    exact h.correlations
  have hcorrelation : ∀ key, r.apply.correlationsByPair.get? key =
      inputs.correlationsByPair.get? key := fun key =>
    (Dict.get?_ofList_perm r.correlationBindings_perm.symm hkeys key).symm
  simp only [overlapGates, correlationOf, hcorrelation]
  rfl

theorem legLimit_eq (leg : CandidateLeg) : legLimit r.apply leg = legLimit inputs leg := by
  have hcapacity : r.apply.capacities.get? leg.entityId = inputs.capacities.get? leg.entityId :=
    (Dict.get?_index_perm r.liquidity_perm.symm h.liquidity leg.entityId).symm
  rw [legLimit, legLimit, hcapacity]
  rfl

/-- With distinct keys an iteration finds the same health, estimate, correlations and
    capacities. -/
theorem allocateCandidate_eq (hsignals : (inputs.ordered.map (·.signalId)).Nodup)
    (targets : List TargetPosition) (c : NormalizedCandidate) :
    allocateCandidate r.apply targets c = allocateCandidate inputs targets c := by
  have hlegs : legLimit r.apply = legLimit inputs := funext (legLimit_eq h)
  have hdesired : ∀ health penalty,
      desired r.apply c health penalty = desired inputs c health penalty := by
    intro health penalty
    rw [desired, desired, AllocationInputs.scoreSum, AllocationInputs.scoreSum,
      r.ordered_eq hsignals]
    rfl
  simp only [allocateCandidate, candidateGates_eq h, overlapGates_eq h, hlegs, hdesired]
  rfl

end Lookups

end Rearrangement

/-- What a decision proposes, records and reports does not depend on the order in which its
    keyed inputs are listed. -/
theorem allocate_rearranged (inputs : AllocationInputs F) (calendar : ExchangeCalendar)
    (r : Rearrangement inputs) :
    (allocate r.apply calendar).targets = (allocate inputs calendar).targets ∧
    (allocate r.apply calendar).allocations = (allocate inputs calendar).allocations ∧
    (allocate r.apply calendar).reasons = (allocate inputs calendar).reasons := by
  cases hgate : gate inputs calendar with
  | some reason =>
    have hgate' : gate r.apply calendar = some reason := (r.gate_eq calendar).trans hgate
    simp only [allocate, hgate, hgate']
    exact ⟨rfl, trivial, trivial⟩
  | none =>
    have hgate' : gate r.apply calendar = none := (r.gate_eq calendar).trans hgate
    have hopen := gateOpen_of_gate hgate
    have hunique := keysUnique_of_unambiguous hopen.unambiguous
    have hstep : passStep r.apply = passStep inputs := by
      funext acc c
      rw [passStep, passStep, Rearrangement.allocateCandidate_eq hunique hopen.signals_unique]
    simp only [allocate, hgate, hgate', hstep, r.ordered_eq hopen.signals_unique]
    exact ⟨rfl, rfl, trivial⟩

end Godzilla.Portfolio
