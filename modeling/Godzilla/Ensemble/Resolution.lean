import Godzilla.Ensemble.NormalizeFacts
import Godzilla.Portfolio.FailClosed

/-!
# Resolved ensemble decisions

An ensemble decision that is not blocked returns or rejects each signal id once, never
returns a conflict, and drops a bundle as a duplicate only for one that comes before it.
Its id is a digest of the arguments without the time, so calls at two times that agree
in the arguments give two decisions under one id.
-/

namespace Godzilla.Ensemble
open Godzilla Misc Alphas Events Features MarketData MarketState Portfolio Universe

variable {F : Type} [PyFloat F] [Platform] {inputs : NormalizeInputs F} {now : Instant}

/-- What holds of a decision that is not blocked. -/
structure Resolved (intents : List (AlphaIntent F)) (inputs : NormalizeInputs F) (now : Instant)
    (decision : EnsembleDecision) : Prop where
  /-- The returned and the rejected ids partition the distinct ids of the intents. -/
  partition : (decision.candidates.map (·.signalId) ++ decision.rejected).Perm
    (intents.map (·.signalId)).dedup
  /-- Each rejected id has one reason, in the order of the rejected ids. -/
  listed : decision.rejectionReasons.map (·.signalId) = decision.rejected
  /-- No security occurs in two returned candidates. -/
  disjoint : decision.candidates.Pairwise fun c e => Disjoint c.entities e.entities
  /-- Candidates of opposite weights on one security are not returned. -/
  unopposed : ∀ i ∈ intents, ∀ j ∈ intents, ∀ c e, inputs.candidateOf now i = .ok c →
    inputs.candidateOf now j = .ok e → c.signalId ≠ e.signalId →
      (∃ a ∈ c.legs, ∃ b ∈ e.legs, a.entityId = b.entityId ∧ a.signedWeight * b.signedWeight < 0) →
        c.signalId ∉ decision.candidates.map (·.signalId) ∧
          e.signalId ∉ decision.candidates.map (·.signalId)
  /-- A candidate dropped as a duplicate shares a security with a returned one before it. -/
  duplicates : ∀ i ∈ intents, ∀ c, inputs.candidateOf now i = .ok c →
    ⟨c.signalId, ["SAME_SECURITY_DUPLICATE"]⟩ ∈ decision.rejectionReasons →
      ∃ e ∈ decision.candidates, e.selectionKey < c.selectionKey ∧ ¬ Disjoint c.entities e.entities
  /-- A returned candidate is that of an intent, with all its legs and unit gross. -/
  returned : ∀ c ∈ decision.candidates, IndivisibleWeights c.legs ∧
    ∃ i ∈ intents, CandidateOf inputs now i c

section Passes

variable {unique : List (AlphaIntent F)}

/-- The candidates of the eligible intents. -/
def candidatesOf (inputs : NormalizeInputs F) (now : Instant) (unique : List (AlphaIntent F)) :
    List NormalizedCandidate :=
  unique.filterMap fun intent => (inputs.candidateOf now intent).toOption

theorem mem_candidatesOf {candidate : NormalizedCandidate} :
    candidate ∈ candidatesOf inputs now unique ↔
      ∃ intent ∈ unique, inputs.candidateOf now intent = .ok candidate := by
  simp only [candidatesOf, List.mem_filterMap]
  refine exists_congr fun intent => and_congr_right fun _ => ?_
  cases inputs.candidateOf now intent <;> simp [Except.toOption]

/-- The ids of the intents that are not eligible. -/
def failedOf (inputs : NormalizeInputs F) (now : Instant) (unique : List (AlphaIntent F)) :
    List Uuid :=
  (unique.filter fun intent => !(inputs.candidateOf now intent).isOk).map (·.signalId)

/-- The first pass gives each distinct id a candidate or a rejection. -/
theorem candidatesOf_append_failedOf (inputs : NormalizeInputs F) (now : Instant)
    (unique : List (AlphaIntent F)) :
    ((candidatesOf inputs now unique).map (·.signalId) ++ failedOf inputs now unique).Perm
        (unique.map (·.signalId)) := by
  induction unique with
  | nil => exact List.Perm.refl []
  | cons intent rest ih =>
    cases hcandidate : inputs.candidateOf now intent with
    | ok candidate =>
      have hid : candidate.signalId = intent.signalId := (candidateOf_ok hcandidate).signalId
      simpa [candidatesOf, failedOf, hcandidate, Except.toOption, Except.isOk, Except.toBool, hid]
        using ih
    | error e =>
      have hmiddle := List.perm_middle.trans (ih.cons intent.signalId)
      simpa [candidatesOf, failedOf, hcandidate, Except.toOption, Except.isOk, Except.toBool]
        using hmiddle

/-- The candidates in the order of the selection. -/
def orderedOf (inputs : NormalizeInputs F) (now : Instant) (unique : List (AlphaIntent F)) :
    List NormalizedCandidate :=
  sortOn NormalizedCandidate.selectionKey (candidatesOf inputs now unique)

/-- The ids that are in conflict. -/
def conflictsOf (inputs : NormalizeInputs F) (now : Instant) (unique : List (AlphaIntent F)) :
    Finset Uuid :=
  conflicted (candidatesOf inputs now unique)

/-- The candidates that the selection keeps. -/
def keptOf (inputs : NormalizeInputs F) (now : Instant) (unique : List (AlphaIntent F)) :
    List NormalizedCandidate :=
  greedy (inConflict (conflictsOf inputs now unique)) NormalizedCandidate.entities ∅
    (orderedOf inputs now unique)

/-- The candidates that the selection drops. -/
def droppedOf (inputs : NormalizeInputs F) (now : Instant) (unique : List (AlphaIntent F)) :
    List NormalizedCandidate :=
  greedyDropped (inConflict (conflictsOf inputs now unique)) NormalizedCandidate.entities ∅
    (orderedOf inputs now unique)

/-- The decision of the passes, in closed form. -/
theorem resolve_ok {decision : EnsembleDecision} (h : inputs.resolve now unique = .ok decision) :
    decision.candidates = keptOf inputs now unique ∧
    decision.rejected =
      sortedIds (failedOf inputs now unique ++ (droppedOf inputs now unique).map (·.signalId)) ∧
    List.Forall₂ (fun id rejection => rejection.signalId = id ∧
      (id ∈ (droppedOf inputs now unique).map (·.signalId) →
        rejection.reasons = [droppedReason (conflictsOf inputs now unique) id]))
      decision.rejected decision.rejectionReasons := by
  cases hpass : unique.foldlM (Normalization.adapt inputs now) {} with
  | error e => simp [NormalizeInputs.resolve, hpass, bind, Except.bind] at h
  | ok pass =>
    obtain ⟨hcandidates, hfailed, -, -⟩ := foldlM_adapt hpass
    have hcandidates : pass.candidates = candidatesOf inputs now unique := hcandidates
    have hfailed : pass.rejected = failedOf inputs now unique := hfailed
    simp only [NormalizeInputs.resolve, hpass, bind, Except.bind, hcandidates, hfailed] at h
    obtain ⟨hselected, hdropped, hreasons⟩ := foldl_selection (conflictsOf inputs now unique)
      (orderedOf inputs now unique)
      { rejected := failedOf inputs now unique, rejectionReasons := pass.rejectionReasons }
    have hselection : (sortOn NormalizedCandidate.selectionKey
        (candidatesOf inputs now unique)).foldl
          (Selection.step (conflicted (candidatesOf inputs now unique)))
          { rejected := failedOf inputs now unique, rejectionReasons := pass.rejectionReasons } =
        (orderedOf inputs now unique).foldl (Selection.step (conflictsOf inputs now unique))
          { rejected := failedOf inputs now unique, rejectionReasons := pass.rejectionReasons } := rfl
    rw [hselection] at h
    generalize (orderedOf inputs now unique).foldl (Selection.step (conflictsOf inputs now unique))
      { rejected := failedOf inputs now unique, rejectionReasons := pass.rejectionReasons } =
        selection at h hselected hdropped hreasons
    cases hrejections : NormalizeInputs.rejections selection with
    | error e => simp [hrejections] at h
    | ok rejections =>
      simp only [hrejections] at h
      obtain rfl := Except.ok.inj h
      refine ⟨hselected, congrArg sortedIds hdropped, ?_⟩
      refine (related_of_mapM hrejections).imp fun id rejection hid => ?_
      cases hreason : selection.rejectionReasons.get? id with
      | none => simp [hreason] at hid
      | some reason =>
        simp only [hreason] at hid
        obtain rfl := Except.ok.inj hid
        refine ⟨rfl, fun hmem => ?_⟩
        have hdroppedReason := (hreasons id).trans (if_pos hmem)
        rw [hreason] at hdroppedReason
        rw [Option.some.inj hdroppedReason]

/-- The kept and the dropped candidates are the eligible ones. -/
theorem keptOf_append_droppedOf (inputs : NormalizeInputs F) (now : Instant)
    (unique : List (AlphaIntent F)) :
    (keptOf inputs now unique ++ droppedOf inputs now unique).Perm
      (candidatesOf inputs now unique) :=
  (greedy_append_dropped_perm ∅ _).trans (sortOn_perm _ _)

/-- Every id is kept, not eligible, or dropped, once. -/
theorem ids_perm (inputs : NormalizeInputs F) (now : Instant) (unique : List (AlphaIntent F)) :
    ((keptOf inputs now unique).map (·.signalId) ++ (failedOf inputs now unique ++
      (droppedOf inputs now unique).map (·.signalId))).Perm (unique.map (·.signalId)) := by
  have hkept := (keptOf_append_droppedOf inputs now unique).map (·.signalId)
  rw [List.map_append] at hkept
  have hswap : (failedOf inputs now unique ++ (droppedOf inputs now unique).map (·.signalId)).Perm
      ((droppedOf inputs now unique).map (·.signalId) ++ failedOf inputs now unique) :=
    List.perm_append_comm
  refine (hswap.append_left _).trans ?_
  rw [← List.append_assoc]
  exact (hkept.append_right _).trans (candidatesOf_append_failedOf inputs now unique)

theorem mem_of_mem_keptOf {candidate : NormalizedCandidate}
    (h : candidate ∈ keptOf inputs now unique) : candidate ∈ candidatesOf inputs now unique :=
  mem_sortOn.mp ((greedy_sublist ∅ _).subset h)

/-- The candidates in the order of the selection, each strictly before the next. -/
theorem orderedOf_pairwise (hnodup : (unique.map (·.signalId)).Nodup) :
    (orderedOf inputs now unique).Pairwise fun c e => c.selectionKey < e.selectionKey := by
  have hids := (candidatesOf_append_failedOf inputs now unique).nodup_iff.mpr hnodup
  have hdistinct := List.pairwise_map.mp (nodup_map_sortOn (List.Nodup.of_append_left hids) :
    ((orderedOf inputs now unique).map (·.signalId)).Nodup)
  refine ((sortOn_pairwise _ _).and hdistinct).imp fun {c e} hce => ?_
  refine lt_of_le_of_ne hce.1 fun heq => hce.2 ?_
  exact (Prod.mk.inj (toLex_inj.mp heq)).2

end Passes

/-- What the passes over distinct intents return. -/
theorem resolve_resolved {intents unique : List (AlphaIntent F)} {decision : EnsembleDecision}
    (hmem : ∀ intent, intent ∈ unique ↔ intent ∈ intents)
    (hnodup : (unique.map (·.signalId)).Nodup)
    (h : inputs.resolve now unique = .ok decision) : Resolved intents inputs now decision := by
  obtain ⟨hcandidates, hrejected, hreasons⟩ := resolve_ok h
  have hperm := ids_perm inputs now unique
  have hids := hperm.nodup_iff.mpr hnodup
  have heligible : ∀ i ∈ intents, ∀ c, inputs.candidateOf now i = .ok c →
      c ∈ candidatesOf inputs now unique :=
    fun i hi c hc => mem_candidatesOf.mpr ⟨i, (hmem i).mpr hi, hc⟩
  -- a candidate that is kept is in no conflict
  have hfree : ∀ c ∈ candidatesOf inputs now unique, c.signalId ∈ conflictsOf inputs now unique →
      c.signalId ∉ (keptOf inputs now unique).map (·.signalId) := by
    intro c hc hconflict hkept
    obtain ⟨kept, hmemKept, hid⟩ := List.mem_map.mp hkept
    have hblocked := (of_mem_greedy hmemKept).1
    rw [inConflict, hid] at hblocked
    exact of_decide_eq_false hblocked hconflict
  constructor
  · rw [hcandidates, hrejected]
    have hrest := (List.nodup_append.mp hids).2.1
    have hsorted : (sortedIds (failedOf inputs now unique ++
        (droppedOf inputs now unique).map (·.signalId))).Perm (failedOf inputs now unique ++
          (droppedOf inputs now unique).map (·.signalId)) :=
      (List.perm_ext_iff_of_nodup (nodup_sortedIds _) hrest).mpr fun id => mem_sortedIds
    refine (hsorted.append_left _).trans (hperm.trans ?_)
    refine (List.perm_ext_iff_of_nodup hnodup (List.nodup_dedup _)).mpr fun id => ?_
    simp only [List.mem_dedup, List.mem_map, hmem]
  · exact (map_eq_of_related hreasons fun id rejection hid => hid.1).trans (List.map_id' _)
  · rw [hcandidates]
    exact greedy_pairwise ∅ _
  · intro i hi j hj c e hc he hne hopposed
    have hcmem := heligible i hi c hc
    have hemem := heligible j hj e he
    have hboth : opposed c e := by
      rw [opposed, Bool.and_eq_true]
      refine ⟨decide_eq_true hne, ?_⟩
      obtain ⟨a, ha, b, hb, hab⟩ := hopposed
      exact List.any_eq_true.mpr ⟨a, ha, List.any_eq_true.mpr ⟨b, hb, decide_eq_true hab⟩⟩
    rw [hcandidates]
    exact ⟨hfree c hcmem (mem_conflicted.mpr ⟨c, hcmem, e, hemem, hboth, Or.inl rfl⟩),
      hfree e hemem (mem_conflicted.mpr ⟨c, hcmem, e, hemem, hboth, Or.inr rfl⟩)⟩
  · intro i hi c hc hduplicate
    have hcmem := heligible i hi c hc
    obtain ⟨id, hid, hown, hreason⟩ := exists_left_of_related hreasons hduplicate
    obtain rfl : c.signalId = id := hown
    rw [hrejected, mem_sortedIds] at hid
    have hnotKept : c ∉ keptOf inputs now unique := fun hkept =>
      (List.nodup_append.mp hids).2.2 _ (List.mem_map_of_mem hkept) _ hid rfl
    have hdropped : c ∈ droppedOf inputs now unique := by
      have hpart := (keptOf_append_droppedOf inputs now unique).mem_iff.mpr hcmem
      exact (List.mem_append.mp hpart).resolve_left hnotKept
    have htext := hreason (List.mem_map_of_mem hdropped)
    have hnoConflict : inConflict (conflictsOf inputs now unique) c = false := by
      refine decide_eq_false fun hconflict => ?_
      rw [droppedReason, if_pos hconflict] at htext
      simp at htext
    rcases shares_of_not_mem_greedy (orderedOf_pairwise hnodup) (mem_sortOn.mpr hcmem) hnotKept
      hnoConflict with hused | ⟨e, he, hbefore, hshared⟩
    · exact absurd (Finset.disjoint_empty_right _) hused
    · rw [hcandidates]
      exact ⟨e, he, hbefore, hshared⟩
  · intro c hc
    rw [hcandidates] at hc
    obtain ⟨i, hi, hic⟩ := mem_candidatesOf.mp (mem_of_mem_keptOf hc)
    exact ⟨c.indivisible_weights, i, (hmem i).mp hi, candidateOf_ok hic⟩

/-- A decision is blocked and returns nothing, or its metadata is there and it is resolved. -/
theorem normalizeIntents_cases [DecidableEq (AlphaIntent F)] {intents : List (AlphaIntent F)}
    {registry : AlphaRegistry F} {master : InstrumentMasterSnapshot}
    {universeSnapshot : UniverseSnapshot} {state : StateDecision F} {decision : EnsembleDecision}
    (h : normalizeIntents intents registry master universeSnapshot state now = .ok decision) :
    decision.candidates = [] ∧ decision.reasons ≠ ["NORMALIZED_CONFLICTS_RESOLVED"] ∨
      ¬ (normalizeInputs intents registry master universeSnapshot state).metadataUnavailable now ∧
        Resolved intents (normalizeInputs intents registry master universeSnapshot state) now
          decision := by
  rw [normalizeIntents] at h
  split at h
  · obtain rfl := Except.ok.inj h
    exact .inl ⟨rfl, by simp [NormalizeInputs.blocked]⟩
  next havailable =>
  split at h
  · obtain rfl := Except.ok.inj h
    exact .inl ⟨rfl, by simp [NormalizeInputs.blocked]⟩
  next unique hunique =>
  obtain ⟨hmem, hnodup⟩ := distinctIntents_values hunique
  refine .inr ⟨havailable, resolve_resolved (fun intent => ?_) hnodup h⟩
  rw [hmem]
  exact mem_sortOn

/-- An ensemble decision that is not blocked is resolved. -/
theorem normalizeIntents_resolved [DecidableEq (AlphaIntent F)] {intents : List (AlphaIntent F)}
    {registry : AlphaRegistry F} {master : InstrumentMasterSnapshot}
    {universeSnapshot : UniverseSnapshot} {state : StateDecision F} {decision : EnsembleDecision}
    (h : normalizeIntents intents registry master universeSnapshot state now = .ok decision)
    (hopen : decision.reasons = ["NORMALIZED_CONFLICTS_RESOLVED"]) :
    Resolved intents (normalizeInputs intents registry master universeSnapshot state) now
      decision := by
  obtain ⟨-, hblocked⟩ | ⟨-, hresolved⟩ := normalizeIntents_cases h
  · exact absurd hopen hblocked
  · exact hresolved

section Identity

/-- The arguments of a `normalize_intents` call. -/
structure NormalizeCall (F : Type) [PyFloat F] [Platform] where
  intents : List (AlphaIntent F)
  registry : AlphaRegistry F
  master : InstrumentMasterSnapshot
  universeSnapshot : UniverseSnapshot
  state : StateDecision F
  now : Instant

namespace NormalizeCall

/-- What the call hashes. -/
def hashed (call : NormalizeCall F) : NormalizeInputs F :=
  normalizeInputs call.intents call.registry call.master call.universeSnapshot call.state

variable [DecidableEq (AlphaIntent F)]

def run (call : NormalizeCall F) : Except PyError EnsembleDecision :=
  normalizeIntents call.intents call.registry call.master call.universeSnapshot call.state call.now

/-- A decision carries the time of the call and an id made of the hashed arguments. -/
theorem run_id {call : NormalizeCall F} {decision : EnsembleDecision}
    (h : call.run = .ok decision) :
    decision.timestamp = call.now ∧ decision.decisionId = ensembleId (contentHash call.hashed) := by
  rw [run, normalizeIntents, ← hashed] at h
  split at h
  · obtain rfl := Except.ok.inj h
    exact ⟨rfl, rfl⟩
  · split at h
    · obtain rfl := Except.ok.inj h
      exact ⟨rfl, rfl⟩
    · rename_i unique _
      cases hpass : unique.values.foldlM (Normalization.adapt call.hashed call.now) {} with
      | error e => simp [NormalizeInputs.resolve, hpass, bind, Except.bind] at h
      | ok pass =>
        simp only [NormalizeInputs.resolve, hpass, bind, Except.bind] at h
        split at h
        · cases h
        · obtain rfl := Except.ok.inj h
          exact ⟨rfl, rfl⟩

/-- The hashed arguments and the time determine the decision. -/
theorem run_congr {call call' : NormalizeCall F} (hinputs : call.hashed = call'.hashed)
    (hnow : call.now = call'.now) : call.run = call'.run := by
  simp only [hashed] at hinputs
  rw [run, run, normalizeIntents, normalizeIntents, hinputs, hnow]

end NormalizeCall

/-- Where `content_hash` and `uuid5` do not collide on two calls, one decision id stands for
    one decision if and only if the calls do not hash the same arguments at two times. -/
theorem decisionId_identifies [DecidableEq (AlphaIntent F)] {call call' : NormalizeCall F}
    {decision decision' : EnsembleDecision} (h : call.run = .ok decision)
    (h' : call'.run = .ok decision')
    (hhash : contentHash call.hashed = contentHash call'.hashed → call.hashed = call'.hashed)
    (huuid : ensembleId (contentHash call.hashed) = ensembleId (contentHash call'.hashed) →
      contentHash call.hashed = contentHash call'.hashed) :
    (decision.decisionId = decision'.decisionId → decision = decision') ↔
      (call.hashed = call'.hashed → call.now = call'.now) := by
  obtain ⟨htime, hid⟩ := NormalizeCall.run_id h
  obtain ⟨htime', hid'⟩ := NormalizeCall.run_id h'
  constructor
  · intro hidentifies hinputs
    have hsame := hidentifies (by rw [hid, hid', hinputs])
    rw [← htime, ← htime', hsame]
  · intro htimes hids
    have hinputs := hhash (huuid (by rw [← hid, ← hid', hids]))
    have hrun := NormalizeCall.run_congr hinputs (htimes hinputs)
    rw [h, h'] at hrun
    exact Except.ok.inj hrun

end Identity

end Godzilla.Ensemble

namespace Godzilla.Ensemble.Sample
open Alphas Events Features MarketData MarketState Universe Godzilla.Sample

/-- An instrument with its own identity number. -/
def instrument (token isin : String) : Instrument where
  symbol := token
  token := token
  isin := isin
  exchange := "NSE"
  segment := "EQ"
  tickSize := 1 / 20
  status := .active
  foEligible := true
  sector := "IT"
  priceBand := ⟨none, none, none, band_unbounded⟩
  effectiveFrom := 0
  effectiveTo := 10
  tickSize_pos := tick_size_pos
  dates_ordered := listing_dates_ordered

def master : InstrumentMasterSnapshot where
  snapshotId := "master"
  version := "1"
  exchange := "NSE"
  asOf := 0
  generatedAt := 0
  sourceReference := "exchange"
  instruments := [instrument "INFY" "INE1", instrument "TCS" "INE22"]

def universeSnapshot : UniverseSnapshot where
  snapshotId := Uuid.ofNat 0
  asOf := 0
  generatedAt := 0
  instrumentSnapshotId := "master"
  complianceProfileId := "profile"
  longTokens := ["INFY", "TCS"]
  shortTokens := ["INFY", "TCS"]
  exclusions := []

/-- A ranked card whose long score is four fifths. -/
def card : MomentumScore ℚ where
  instrumentId := "INFY"
  symbol := "INFY"
  sector := "IT"
  strength := 4 / 5
  percentile := 9 / 10
  longScore := 4 / 5
  shortScore := 1 / 5
  components := []
  longConfirmed := true
  shortConfirmed := false
  liquidityConfirmed := true
  reasons := []
  featureHash := "digest"
  strength_range := by decide +kernel
  longScore_range := by decide +kernel
  shortScore_range := by decide +kernel

/-- The evidence of a long signal in the sample state. -/
def evidence : MomentumSignalEvidence ℚ where
  timestamp := Portfolio.Sample.now
  side := .long
  score := 4 / 5
  ranked := card
  settings :=
    { weights := ⟨1 / 5, 1 / 5, 1 / 5, 3 / 20, 3 / 20, 1 / 20, 1 / 20, by decide +kernel,
        by decide +kernel, by decide +kernel⟩
      longTail_range := by decide +kernel
      shortTail_range := by decide +kernel
      candidates_pos := max_candidates_default
      universe_min := by decide
      spread_pos := by decide +kernel
      quoteAge_pos := by decide +kernel
      adv_pos := by decide +kernel
      turnover_pos := by decide +kernel }
  alphaVersionHash := "digest"
  universeHash := "digest"
  instrumentMasterHash := "digest"
  crossSectionHash := "digest"
  stateHash := "digest"
  codeCommit := "commit"
  configHash := "config"
  dataSnapshot := "data"
  featureSetHash := "digest"
  consistent := ⟨by decide +kernel, rfl, rfl⟩

/-- A momentum signal under an id. -/
def signal (id : Nat) : AlphaIntent ℚ :=
  .signal
    { signalId := Uuid.ofNat id
      instrumentId := "INFY"
      alphaId := momentumAlphaId
      side := .long
      reasons := []
      score := some (4 / 5)
      evidence := some (.momentum evidence)
      consistent :=
        ⟨by rintro s ⟨⟩; decide +kernel, iff_of_false (by simp) (by simp),
          by rintro e ⟨⟩; exact ⟨rfl, rfl, rfl, rfl⟩⟩ }

/-- Whether two intents of the sample are equal is decided classically. -/
noncomputable scoped instance decidableEqIntent : DecidableEq (AlphaIntent ℚ) :=
  Classical.decEq _

/-- A call in the sample state. -/
def call (intents : List (AlphaIntent ℚ)) (now : Instant) : NormalizeCall ℚ where
  intents := intents
  registry := Portfolio.Sample.registry
  master := master
  universeSnapshot := universeSnapshot
  state := Portfolio.Sample.state
  now := now

/-- Two signals on one security: the first is returned, the other one is its duplicate. -/
theorem normalizeIntents_resolved_duplicate :
    ∃ decision, (call [signal 2, signal 1] Portfolio.Sample.now).run = .ok decision ∧
      decision.candidates.map (·.signalId) = [Uuid.ofNat 1] ∧
      decision.rejectionReasons = [⟨Uuid.ofNat 2, ["SAME_SECURITY_DUPLICATE"]⟩] ∧
      Resolved [signal 2, signal 1] (call [signal 2, signal 1] Portfolio.Sample.now).hashed
        Portfolio.Sample.now decision := by
  have hrun : (call [signal 2, signal 1] Portfolio.Sample.now).run.toOption.map
      (fun d => (d.reasons, d.candidates.map (·.signalId), d.rejectionReasons)) =
        some (["NORMALIZED_CONFLICTS_RESOLVED"], [Uuid.ofNat 1],
          [⟨Uuid.ofNat 2, ["SAME_SECURITY_DUPLICATE"]⟩]) := by
    decide +kernel
  cases h : (call [signal 2, signal 1] Portfolio.Sample.now).run with
  | error e => rw [h] at hrun; cases hrun
  | ok decision =>
    rw [h] at hrun
    obtain ⟨hreasons, hrest⟩ := Prod.mk.inj (Option.some.inj hrun)
    obtain ⟨hcandidates, hrejections⟩ := Prod.mk.inj hrest
    exact ⟨decision, rfl, hcandidates, hrejections, normalizeIntents_resolved h hreasons⟩

/-- One second later the state is another one's time: the same arguments give a blocked
    decision under the id of the first. -/
theorem decisionId_stands_for_two :
    ∃ decision decision', (call [signal 1] Portfolio.Sample.now).run = .ok decision ∧
      (call [signal 1] (Portfolio.Sample.now + secondsOf 1)).run = .ok decision' ∧
      decision.decisionId = decision'.decisionId ∧ decision ≠ decision' := by
  have hrun : ((call [signal 1] Portfolio.Sample.now).run.toOption.map
        fun d => d.candidates.length) = some 1 ∧
      ((call [signal 1] (Portfolio.Sample.now + secondsOf 1)).run.toOption.map
        fun d => d.candidates.length) = some 0 := by
    decide +kernel
  cases h : (call [signal 1] Portfolio.Sample.now).run with
  | error e => rw [h] at hrun; cases hrun.1
  | ok decision =>
    cases h' : (call [signal 1] (Portfolio.Sample.now + secondsOf 1)).run with
    | error e => rw [h'] at hrun; cases hrun.2
    | ok decision' =>
      have hid := (NormalizeCall.run_id h).2
      have hid' := (NormalizeCall.run_id h').2
      refine ⟨decision, decision', rfl, rfl, hid.trans hid'.symm, ?_⟩
      rintro rfl
      rw [h, h'] at hrun
      exact absurd (hrun.1.symm.trans hrun.2) (by decide)

/-- Two signals given in either order. -/
theorem decisionId_identifies_swapped :
    ∃ decision decision', (call [signal 2, signal 1] Portfolio.Sample.now).run = .ok decision ∧
      (call [signal 1, signal 2] Portfolio.Sample.now).run = .ok decision' ∧
      (decision.decisionId = decision'.decisionId → decision = decision') := by
  have hhashed : (call [signal 2, signal 1] Portfolio.Sample.now).hashed =
      (call [signal 1, signal 2] Portfolio.Sample.now).hashed := by
    have hsorted : Misc.sortOn AlphaIntent.orderKey [signal 2, signal 1] =
        Misc.sortOn AlphaIntent.orderKey [signal 1, signal 2] := rfl
    rw [NormalizeCall.hashed, NormalizeCall.hashed, normalizeInputs, normalizeInputs]
    simp only [call, hsorted]
  have hruns : (call [signal 2, signal 1] Portfolio.Sample.now).run.isOk ∧
      (call [signal 1, signal 2] Portfolio.Sample.now).run.isOk := by
    decide +kernel
  cases h : (call [signal 2, signal 1] Portfolio.Sample.now).run with
  | error e => rw [h] at hruns; cases hruns.1
  | ok decision =>
    cases h' : (call [signal 1, signal 2] Portfolio.Sample.now).run with
    | error e => rw [h'] at hruns; cases hruns.2
    | ok decision' =>
      refine ⟨decision, decision', rfl, rfl, ?_⟩
      exact (decisionId_identifies h h' (fun _ => hhashed) fun _ => by rw [hhashed]).mpr
        fun _ => rfl

end Godzilla.Ensemble.Sample
