import Godzilla.Portfolio.Pass

/-!
# What an allocation guarantees

Three groups of results about every decision of `allocate`: what it adds is the
existing portfolio plus whole bundles under every cap; the limits it only clips
to (the budget of an alpha, the risk of a candidate, the capacity of a
security) hold of what was added; and nothing is added unless every gate is
open.
-/

namespace Godzilla.Portfolio
open Godzilla Features MarketState MarketData Ensemble Misc

variable {F : Type} [PyFloat F] [Platform] {inputs : AllocationInputs F}
  {calendar : ExchangeCalendar}

/-- The positions a decision adds to the portfolio. -/
def addedBy (inputs : AllocationInputs F) (decision : PortfolioDecision) : List TargetPosition :=
  decision.targets.drop inputs.portfolio.positions.length

/-- The accepted candidates of a decision, in the order of the pass, with their records. -/
def takenBy (inputs : AllocationInputs F) (decision : PortfolioDecision) :
    List (NormalizedCandidate × AllocationRecord) :=
  accepted inputs.ordered decision.allocations

section Gate

/-- The global gates are open. -/
structure GateOpen (inputs : AllocationInputs F) (calendar : ExchangeCalendar) : Prop where
  session : ∃ session, calendar.sessionOn (kolkata.localDate inputs.now) = .ok (some session) ∧
    session.instantAt session.times.openTime ≤ inputs.now ∧
    inputs.now < session.instantAt session.times.finalEntryTime
  allowed : ¬ NewAllocationBlocked inputs
  capped : withinCaps inputs.portfolio.positions inputs.settings = true
  unambiguous : ¬ InputAmbiguous inputs
  signals_unique : (inputs.ordered.map (·.signalId)).Nodup

theorem gateOpen_of_gate (h : gate inputs calendar = none) : GateOpen inputs calendar := by
  unfold gate at h
  split at h
  · cases h
  · cases h
  rename_i session hsession
  split at h
  · cases h
  rename_i hwindow
  split at h
  · cases h
  rename_i hallowed
  split at h
  · cases h
  rename_i hcapped
  split at h
  · cases h
  rename_i hclear
  split at h
  · cases h
  rename_i hunique
  refine ⟨⟨session, hsession, not_not.mp hwindow⟩, hallowed, by simpa using hcapped, hclear, ?_⟩
  apply Dict.length_dedup_eq_iff.mp
  rw [List.length_map]
  exact not_not.mp hunique

end Gate

/-- Either the decision stopped at a closed gate and is the portfolio unchanged, or the
    gates are open and the whole pass has established its invariant. -/
theorem decision_cases (inputs : AllocationInputs F) (calendar : ExchangeCalendar) :
    ((allocate inputs calendar).targets = inputs.portfolio.positions ∧
      (allocate inputs calendar).allocations = [] ∧
      (allocate inputs calendar).reasons ≠ ["PROPOSALS_ONLY_NO_EXECUTION"]) ∨
    (GateOpen inputs calendar ∧
      (allocate inputs calendar).reasons = ["PROPOSALS_ONLY_NO_EXECUTION"] ∧
      PassInv inputs inputs.ordered
        ((allocate inputs calendar).targets, (allocate inputs calendar).allocations)) := by
  rcases allocate_cases inputs calendar with ⟨reason, -, hne, hreasons, htargets, hnone⟩ |
    ⟨hgate, hreasons, hpass⟩
  · left
    refine ⟨htargets, hnone, ?_⟩
    rw [hreasons]
    exact fun h => hne (List.cons.inj h).1
  · exact Or.inr ⟨gateOpen_of_gate hgate, hreasons, hpass⟩

/-- Existing positions first, then the bundles of the accepted candidates. -/
theorem targets_eq (inputs : AllocationInputs F) (calendar : ExchangeCalendar) :
    (allocate inputs calendar).targets =
      targetsAfter inputs (takenBy inputs (allocate inputs calendar)) := by
  rcases decision_cases inputs calendar with ⟨htargets, hnone, -⟩ | ⟨-, -, hpass⟩
  · simp [htargets, hnone, takenBy, accepted, targetsAfter]
  · exact hpass.targets

theorem addedBy_eq (inputs : AllocationInputs F) (calendar : ExchangeCalendar) :
    addedBy inputs (allocate inputs calendar) =
      (takenBy inputs (allocate inputs calendar)).flatMap (additionsFor inputs) := by
  rw [addedBy, targets_eq, targetsAfter, List.drop_left]

theorem taken_of_added {p : TargetPosition}
    (h : p ∈ addedBy inputs (allocate inputs calendar)) :
    ∃ pair ∈ takenBy inputs (allocate inputs calendar), p ∈ additionsFor inputs pair := by
  rw [addedBy_eq] at h
  exact List.mem_flatMap.mp h

/-- Anything accepted has come through open gates. -/
theorem passed_of_taken {pair : NormalizedCandidate × AllocationRecord}
    (h : pair ∈ takenBy inputs (allocate inputs calendar)) :
    GateOpen inputs calendar ∧ PassInv inputs inputs.ordered
      ((allocate inputs calendar).targets, (allocate inputs calendar).allocations) := by
  rcases decision_cases inputs calendar with ⟨-, hnone, -⟩ | ⟨hgate, -, hpass⟩
  · rw [takenBy, hnone] at h
    simp [accepted] at h
  · exact ⟨hgate, hpass⟩

theorem candidate_of_taken {pair : NormalizedCandidate × AllocationRecord}
    (h : pair ∈ takenBy inputs (allocate inputs calendar)) :
    pair.1 ∈ inputs.ensemble.candidates := by
  obtain ⟨c, r⟩ := pair
  exact mem_sortOn.mp (List.of_mem_zip (List.mem_of_mem_filter h)).1

section Bundles

/-- The position that an amount of `candidate` puts into the security of `leg`. -/
structure LegOf (candidate : NormalizedCandidate) (estimate : CandidateRiskEstimate) (amount : ℚ)
    (leg : CandidateLeg) (p : TargetPosition) : Prop where
  entity : p.entityId = leg.entityId
  instrument : p.instrumentId = leg.instrumentId
  sector : p.sector = leg.sector
  alpha : p.alphaId = candidate.alphaId
  group : p.groupId = candidate.signalId
  notional : p.signedNotionalFraction = amount * leg.signedWeight
  open_risk : p.openRiskFraction = amount * estimate.lossPerGross * |leg.signedWeight|
  origin : p.origin = .proposed

/-- The whole bundle of an accepted candidate: one position per leg, in leg order. -/
def BundleOf (inputs : AllocationInputs F) (pair : NormalizedCandidate × AllocationRecord)
    (bundle : List TargetPosition) : Prop :=
  ∃ estimate, estimate ∈ inputs.estimates ∧ estimate.signalId = pair.1.signalId ∧
    List.Forall₂ (LegOf pair.1 estimate pair.2.allocatedGross) pair.1.legs bundle

omit [Platform] in
theorem forall₂_additionsOf (candidate : NormalizedCandidate) (estimate : CandidateRiskEstimate)
    {amount : ℚ} (h : 0 ≤ amount) :
    List.Forall₂ (LegOf candidate estimate amount) candidate.legs
      (additionsOf candidate estimate amount h) := by
  rw [additionsOf, List.forall₂_map_right_iff, List.forall₂_same]
  intro leg _
  exact ⟨rfl, rfl, rfl, rfl, rfl, rfl, rfl, rfl⟩

theorem additionsFor_eq {pair : NormalizedCandidate × AllocationRecord}
    {taken : List (NormalizedCandidate × AllocationRecord)} (h : Decided inputs taken pair) :
    ∃ estimate, inputs.estimatesById.get? pair.1.signalId = some estimate ∧
      additionsFor inputs pair =
        additionsOf pair.1 estimate pair.2.allocatedGross pair.2.gross_nonneg := by
  obtain ⟨before, after, health, estimate, -, hp⟩ := h
  exact ⟨estimate, hp.estimate_found, by simp [additionsFor, hp.estimate_found]⟩

theorem bundle_of_taken {pair : NormalizedCandidate × AllocationRecord}
    (h : pair ∈ takenBy inputs (allocate inputs calendar)) :
    BundleOf inputs pair (additionsFor inputs pair) := by
  obtain ⟨-, hpass⟩ := passed_of_taken h
  obtain ⟨estimate, hfound, hadd⟩ := additionsFor_eq (hpass.decided pair h)
  obtain ⟨hmem, hid⟩ := Dict.mem_of_get?_index hfound
  exact ⟨estimate, hmem, hid, hadd ▸ forall₂_additionsOf _ _ _⟩

/-- A position of a bundle comes from one of its legs. -/
theorem leg_of_added {pair : NormalizedCandidate × AllocationRecord} {p : TargetPosition}
    {taken : List (NormalizedCandidate × AllocationRecord)} (h : Decided inputs taken pair)
    (hp : p ∈ additionsFor inputs pair) :
    ∃ estimate, ∃ leg ∈ pair.1.legs, LegOf pair.1 estimate pair.2.allocatedGross leg p := by
  obtain ⟨estimate, -, hadd⟩ := additionsFor_eq h
  rw [hadd] at hp
  obtain ⟨leg, hleg, rfl⟩ := List.mem_map.mp hp
  exact ⟨estimate, leg, hleg, rfl, rfl, rfl, rfl, rfl, rfl, rfl, rfl⟩

end Bundles

section Conservation

/-- What a decision adds and keeps. -/
structure Conservation (inputs : AllocationInputs F) (decision : PortfolioDecision) : Prop where
  /-- The portfolio stands first, unchanged and in order. -/
  kept : decision.targets = inputs.portfolio.positions ++ addedBy inputs decision
  /-- What is added is one whole bundle per accepted candidate, in the order of the pass. -/
  bundles : ∃ bundles, addedBy inputs decision = bundles.flatten ∧
    List.Forall₂ (BundleOf inputs) (takenBy inputs decision) bundles
  /-- The pass takes the candidates by descending strength, then signal id. -/
  pass_order : inputs.ordered.Perm inputs.ensemble.candidates ∧
    inputs.ordered.Pairwise fun a b =>
      b.strength < a.strength ∨ b.strength = a.strength ∧ a.signalId ≤ b.signalId
  /-- The final pass records every candidate. -/
  recorded : decision.reasons = ["PROPOSALS_ONLY_NO_EXECUTION"] →
    decision.allocations.map (·.signalId) = inputs.ordered.map (·.signalId) ∧
      (inputs.ordered.map (·.signalId)).Nodup
  securities_distinct : ((addedBy inputs decision).map (·.entityId)).Nodup
  securities_new : ∀ p ∈ addedBy inputs decision,
    p.entityId ∉ inputs.portfolio.positions.map (·.entityId)
  capped : addedBy inputs decision ≠ [] →
    withinCaps decision.targets inputs.settings = true ∧ Capped decision.targets inputs.settings
  /-- Every other outcome adds and records nothing. -/
  other_outcomes : decision.reasons ≠ ["PROPOSALS_ONLY_NO_EXECUTION"] →
    addedBy inputs decision = [] ∧ decision.allocations = []

theorem ordered_pairwise (inputs : AllocationInputs F) :
    inputs.ordered.Pairwise fun a b =>
      b.strength < a.strength ∨ b.strength = a.strength ∧ a.signalId ≤ b.signalId := by
  have hsorted := sortOn_pairwise
    (fun c : NormalizedCandidate => toLex (-c.strength, c.signalId)) inputs.ensemble.candidates
  refine hsorted.imp ?_
  intro a b hab
  rcases Prod.Lex.toLex_le_toLex.mp hab with hlt | ⟨heq, hid⟩
  · exact Or.inl (neg_lt_neg_iff.mp hlt)
  · exact Or.inr ⟨(neg_inj.mp heq).symm, hid⟩

/-- Every decision keeps the portfolio and adds whole bundles under every cap. -/
theorem allocate_conserves (inputs : AllocationInputs F) (calendar : ExchangeCalendar) :
    Conservation inputs (allocate inputs calendar) := by
  have hadded := addedBy_eq inputs calendar
  have hbundles : ∃ bundles, addedBy inputs (allocate inputs calendar) = bundles.flatten ∧
      List.Forall₂ (BundleOf inputs) (takenBy inputs (allocate inputs calendar)) bundles := by
    refine ⟨(takenBy inputs (allocate inputs calendar)).map (additionsFor inputs),
      by rw [hadded, List.flatMap], ?_⟩
    rw [List.forall₂_map_right_iff, List.forall₂_same]
    intro pair hpair
    exact bundle_of_taken hpair
  have hkept : (allocate inputs calendar).targets =
      inputs.portfolio.positions ++ addedBy inputs (allocate inputs calendar) := by
    rw [hadded, targets_eq, targetsAfter]
  rcases decision_cases inputs calendar with ⟨htargets, hnone, hreasons⟩ | ⟨hgate, hreasons, hpass⟩
  · have hempty : addedBy inputs (allocate inputs calendar) = [] := by
      rw [addedBy, htargets, List.drop_length]
    exact {
      kept := hkept
      bundles := hbundles
      pass_order := ⟨sortOn_perm _ _, ordered_pairwise inputs⟩
      recorded := fun h => absurd h hreasons
      securities_distinct := by simp [hempty]
      securities_new := by simp [hempty]
      capped := fun h => absurd hempty h
      other_outcomes := fun _ => ⟨hempty, hnone⟩ }
  · exact {
      kept := hkept
      bundles := hbundles
      pass_order := ⟨sortOn_perm _ _, ordered_pairwise inputs⟩
      recorded := fun _ => ⟨hpass.ids, hgate.signals_unique⟩
      securities_distinct := by rw [hadded]; exact hpass.distinct
      securities_new := by rw [hadded]; exact hpass.disjoint
      capped := fun h => by
        have hcapped := hpass.capped fun hempty => h (by
          rw [hadded, takenBy, hempty, List.flatMap_nil])
        exact ⟨withinCaps_iff.mpr hcapped, hcapped⟩
      other_outcomes := fun h => absurd hreasons h }

end Conservation

end Godzilla.Portfolio
