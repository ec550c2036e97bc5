import Godzilla.Ensemble.Normalize
import Godzilla.Misc.Greedy
import Godzilla.Misc.Related

/-!
# What normalisation keeps and what it rejects

One lemma for each pass of `normalize_intents`: the distinct intents, the candidates of
the eligible ones, the conflicts, and the selection, which is a greedy pass over the
candidates by strength.
-/

namespace Godzilla.Ensemble
open Godzilla Misc Alphas Events Features MarketData MarketState Portfolio Universe

section Ids

variable {ids : List Uuid}

@[simp] theorem mem_sortedIds {id : Uuid} : id ∈ sortedIds ids ↔ id ∈ ids := by
  rw [sortedIds, mem_sortOn, List.mem_dedup]

theorem nodup_sortedIds (ids : List Uuid) : (sortedIds ids).Nodup :=
  (sortOn_perm _ _).nodup_iff.mpr (List.nodup_dedup ids)

/-- The signal ids are sorted, so only which ones there are matters. -/
theorem sortedIds_congr {ids' : List Uuid} (h : ∀ id, id ∈ ids ↔ id ∈ ids') :
    sortedIds ids = sortedIds ids' := by
  refine sortOn_eq_of_mem_iff (List.nodup_dedup ids) (List.nodup_dedup ids') ?_ ?_
  · intro id
    rw [List.mem_dedup, List.mem_dedup, h]
  · exact fun a _ b _ hab => hab

end Ids

section Normalization

variable {F : Type} [PyFloat F] [Platform] {inputs : NormalizeInputs F} {now : Instant}

section Distinct

variable [DecidableEq (AlphaIntent F)]

/-- Every intent of the dictionary is held under its id. -/
def OwnKeys (unique : Dict Uuid (AlphaIntent F)) : Prop :=
  ∀ id intent, unique.get? id = some intent → intent.signalId = id

omit [DecidableEq (AlphaIntent F)] in
theorem ownKeys_empty : OwnKeys (F := F) .empty := by
  intro id intent hid
  cases hid

omit [DecidableEq (AlphaIntent F)] in
theorem OwnKeys.insert {unique : Dict Uuid (AlphaIntent F)} (h : OwnKeys unique)
    (first : AlphaIntent F) : OwnKeys (unique.insert first.signalId first) := by
  intro id intent hid
  rw [Dict.get?_insert] at hid
  split at hid
  · rename_i heq
    obtain rfl := Option.some.inj hid
    exact heq.symm
  · exact h id intent hid

omit [DecidableEq (AlphaIntent F)] in
theorem OwnKeys.map_values {unique : Dict Uuid (AlphaIntent F)} (h : OwnKeys unique) :
    unique.values.map (·.signalId) = unique.keys := by
  rw [Dict.values, Dict.keys, List.map_map]
  refine List.map_congr_left fun entry hentry => ?_
  exact h entry.1 entry.2 ((Dict.mem_entries_iff unique).mp hentry)

/-- The dictionary that is built holds the intents under their ids. -/
theorem distinctIntents_spec {intents : List (AlphaIntent F)}
    {unique result : Dict Uuid (AlphaIntent F)} (hkeys : OwnKeys unique)
    (h : distinctIntents intents unique = some result) :
    (∀ id intent, result.get? id = some intent → intent.signalId = id ∧
      (intent ∈ intents ∨ unique.get? id = some intent)) ∧
    (∀ id intent, unique.get? id = some intent → result.get? id = some intent) ∧
    ∀ intent ∈ intents, result.get? intent.signalId = some intent := by
  induction intents generalizing unique with
  | nil =>
    obtain rfl := Option.some.inj h
    exact ⟨fun id intent hid => ⟨hkeys id intent hid, Or.inr hid⟩, fun id intent hid => hid, by simp⟩
  | cons first rest ih =>
    rw [distinctIntents] at h
    split at h
    · cases h
    rename_i hsame
    have hknown : ∀ known, unique.get? first.signalId = some known → known = first := by
      intro known hget
      by_contra hne
      exact hsame ⟨known, hget, hne⟩
    obtain ⟨hfound, hkept, hmem⟩ := ih (hkeys.insert first) h
    refine ⟨fun id intent hid => ?_, fun id intent hid => hkept id intent ?_, ?_⟩
    · obtain ⟨hown, hrest | hold⟩ := hfound id intent hid
      · exact ⟨hown, Or.inl (List.mem_cons_of_mem _ hrest)⟩
      · rw [Dict.get?_insert] at hold
        split at hold
        · obtain rfl := Option.some.inj hold
          exact ⟨hown, Or.inl List.mem_cons_self⟩
        · exact ⟨hown, Or.inr hold⟩
    · rw [Dict.get?_insert]
      split
      · rename_i heq
        rw [heq] at hid
        rw [hknown intent hid]
      · exact hid
    · intro intent hintent
      rcases List.mem_cons.mp hintent with rfl | hintent
      · exact hkept _ _ (Dict.get?_insert_self _ _ _)
      · exact hmem intent hintent

/-- The distinct intents are the intents, one for each signal id. -/
theorem distinctIntents_values {intents : List (AlphaIntent F)}
    {result : Dict Uuid (AlphaIntent F)} (h : distinctIntents intents .empty = some result) :
    (∀ intent, intent ∈ result.values ↔ intent ∈ intents) ∧
      (result.values.map (·.signalId)).Nodup := by
  obtain ⟨hfound, -, hmem⟩ := distinctIntents_spec ownKeys_empty h
  constructor
  · intro intent
    rw [Dict.mem_values_iff]
    constructor
    · rintro ⟨id, hid⟩
      rcases (hfound id intent hid).2 with hintent | hnone
      · exact hintent
      · cases hnone
    · exact fun hintent => ⟨_, hmem intent hintent⟩
  · have hown : OwnKeys result := fun id intent hid => (hfound id intent hid).1
    rw [hown.map_values]
    exact result.keys_nodup

end Distinct

section Eligibility

/-- The candidates of the first pass come from the eligible intents, in their order, and the
    others are rejected with a reason. -/
theorem foldlM_adapt {intents : List (AlphaIntent F)} {pass result : Normalization}
    (h : intents.foldlM (Normalization.adapt inputs now) pass = .ok result) :
    result.candidates = pass.candidates ++
        intents.filterMap (fun intent => (inputs.candidateOf now intent).toOption) ∧
      result.rejected = pass.rejected ++ (intents.filter fun intent =>
        !(inputs.candidateOf now intent).isOk).map (·.signalId) ∧
      (∀ id, (pass.rejectionReasons.get? id).isSome → (result.rejectionReasons.get? id).isSome) ∧
      ∀ intent ∈ intents, (inputs.candidateOf now intent).isOk = false →
        (result.rejectionReasons.get? intent.signalId).isSome := by
  induction intents generalizing pass with
  | nil =>
    obtain rfl := Except.ok.inj h
    simp
  | cons intent rest ih =>
    rw [List.foldlM_cons] at h
    cases hcandidate : inputs.candidateOf now intent with
    | ok candidate =>
      simp only [Normalization.adapt, hcandidate, bind, Except.bind] at h
      obtain ⟨hcandidates, hrejected, hkept, hreasons⟩ := ih h
      refine ⟨?_, ?_, hkept, ?_⟩
      · rw [hcandidates]
        simp [hcandidate, Except.toOption]
      · rw [hrejected]
        simp [hcandidate, Except.isOk, Except.toBool]
      · intro other hother hfailed
        rcases List.mem_cons.mp hother with rfl | hother
        · rw [hcandidate] at hfailed
          cases hfailed
        · exact hreasons other hother hfailed
    | error e =>
      by_cases hrejection : isRejection e
      · simp only [Normalization.adapt, hcandidate, if_pos hrejection, bind, Except.bind] at h
        obtain ⟨hcandidates, hrejected, hkept, hreasons⟩ := ih h
        refine ⟨?_, ?_, ?_, ?_⟩
        · rw [hcandidates]
          simp [hcandidate, Except.toOption]
        · rw [hrejected]
          simp [hcandidate, Except.isOk, Except.toBool]
        · intro id hid
          refine hkept id ?_
          rw [Dict.get?_insert]
          split
          · rfl
          · exact hid
        · intro other hother hfailed
          rcases List.mem_cons.mp hother with rfl | hother
          · refine hkept _ ?_
            rw [Dict.get?_insert_self]
            rfl
          · exact hreasons other hother hfailed
      · simp [Normalization.adapt, hcandidate, hrejection, bind, Except.bind] at h

/-- A leg of a candidate is a token of its intent: an eligible instrument with its part of the
    gross weight. -/
structure LegOf (inputs : NormalizeInputs F) (now : Instant) (total : ℚ) (token : String × ℚ)
    (leg : CandidateLeg) : Prop where
  instrumentId : leg.instrumentId = token.1
  weight : leg.signedWeight = token.2 / total
  eligible : ∃ instrument, inputs.eligibleInstrument now token.1 token.2 = .ok instrument ∧
    leg.entityId = securityId instrument ∧ leg.sector = instrument.sector

/-- What the candidate of an intent is made of. -/
structure CandidateOf (inputs : NormalizeInputs F) (now : Instant) (intent : AlphaIntent F)
    (candidate : NormalizedCandidate) : Prop where
  signalId : candidate.signalId = intent.signalId
  alphaId : AlphaId.ofValue intent.alphaId = .ok candidate.alphaId
  enabled : (inputs.registry.registration candidate.alphaId).enabled = true
  timestamp : candidate.timestamp = now
  adapted : ∃ adapted, intent.adapt inputs.master = .ok adapted ∧
    ¬ inputs.provenanceMismatch now adapted ∧
    (adapted.tokens.map fun item => |item.2|).sum ≠ 0 ∧
    candidate.strength =
      strengthOf (inputs.registry.registration candidate.alphaId) adapted.score ∧
    List.Forall₂ (LegOf inputs now (adapted.tokens.map fun item => |item.2|).sum)
      adapted.tokens candidate.legs

theorem candidateLeg_ok {total : ℚ} {item : String × ℚ} {leg : CandidateLeg}
    (h : inputs.candidateLeg now total item = .ok leg) :
    total ≠ 0 ∧ LegOf inputs now total item leg := by
  cases hinstrument : inputs.eligibleInstrument now item.1 item.2 with
  | error e => simp [NormalizeInputs.candidateLeg, hinstrument, bind, Except.bind] at h
  | ok instrument =>
    simp only [NormalizeInputs.candidateLeg, hinstrument, bind, Except.bind] at h
    by_cases hzero : total = 0
    · rw [if_pos hzero] at h
      cases h
    · rw [if_neg hzero] at h
      obtain rfl := Except.ok.inj h
      exact ⟨hzero, rfl, rfl, instrument, hinstrument, rfl, rfl⟩

theorem candidateOf_ok {intent : AlphaIntent F} {candidate : NormalizedCandidate}
    (h : inputs.candidateOf now intent = .ok candidate) :
    CandidateOf inputs now intent candidate := by
  cases halpha : AlphaId.ofValue intent.alphaId with
  | error e => simp [NormalizeInputs.candidateOf, halpha, bind, Except.bind] at h
  | ok alpha =>
    cases henabled : (inputs.registry.registration alpha).enabled with
    | false => simp [NormalizeInputs.candidateOf, halpha, henabled, bind, Except.bind] at h
    | true =>
      cases hadapt : intent.adapt inputs.master with
      | error e => simp [NormalizeInputs.candidateOf, halpha, henabled, hadapt, bind, Except.bind] at h
      | ok adapted =>
        simp only [NormalizeInputs.candidateOf, halpha, henabled, hadapt, bind, Except.bind,
          Bool.true_eq_false, if_false] at h
        by_cases hmismatch : inputs.provenanceMismatch now adapted
        · rw [if_pos hmismatch] at h
          cases h
        rw [if_neg hmismatch] at h
        cases hlegs : adapted.tokens.mapM
            (inputs.candidateLeg now (adapted.tokens.map fun item => |item.2|).sum) with
        | error e => simp [hlegs] at h
        | ok legs =>
          simp only [hlegs] at h
          by_cases hweights : IndivisibleWeights legs
          · rw [dif_pos hweights] at h
            obtain rfl := Except.ok.inj h
            have hrelated := related_of_mapM hlegs
            have htotal : (adapted.tokens.map fun item => |item.2|).sum ≠ 0 := by
              obtain ⟨leg, hleg⟩ := List.exists_mem_of_ne_nil _ hweights.nonempty
              obtain ⟨item, -, hitem⟩ := exists_left_of_related hrelated hleg
              exact (candidateLeg_ok hitem).1
            refine ⟨rfl, halpha, henabled, rfl, adapted, hadapt, hmismatch, htotal, rfl, ?_⟩
            exact hrelated.imp fun item leg hitem => (candidateLeg_ok hitem).2
          · rw [dif_neg hweights] at h
            cases h

end Eligibility

end Normalization

section Conflicts

variable {candidates : List NormalizedCandidate}

/-- The ids that a loop with two insertions collects. -/
theorem mem_foldl_insert_pair {α : Type} {p : α → Bool} {f g : α → Uuid} {id : Uuid} (xs : List α)
    (ids : Finset Uuid) :
    id ∈ xs.foldl (fun ids x => if p x then insert (g x) (insert (f x) ids) else ids) ids ↔
      id ∈ ids ∨ ∃ x ∈ xs, p x ∧ (id = f x ∨ id = g x) := by
  induction xs generalizing ids with
  | nil => simp
  | cons x xs ih =>
    rw [List.foldl_cons, ih]
    by_cases hx : p x
    · simp only [hx, if_true, Finset.mem_insert, List.mem_cons, exists_eq_or_imp, true_and]
      generalize (∃ x ∈ xs, p x ∧ (id = f x ∨ id = g x)) = collected
      tauto
    · simp [hx]

/-- A candidate is in conflict if one of the candidates opposes it. -/
theorem mem_conflicted {id : Uuid} : id ∈ conflicted candidates ↔
    ∃ left ∈ candidates, ∃ right ∈ candidates, opposed left right ∧
      (id = left.signalId ∨ id = right.signalId) := by
  have houter : ∀ (lefts : List NormalizedCandidate) (ids : Finset Uuid),
      id ∈ lefts.foldl (fun ids left => candidates.foldl (fun ids right =>
        if opposed left right then insert right.signalId (insert left.signalId ids) else ids)
          ids) ids ↔
        id ∈ ids ∨ ∃ left ∈ lefts, ∃ right ∈ candidates, opposed left right ∧
          (id = left.signalId ∨ id = right.signalId) := by
    intro lefts
    induction lefts with
    | nil => simp
    | cons left rest ih =>
      intro ids
      rw [List.foldl_cons, ih, mem_foldl_insert_pair]
      simp only [List.mem_cons, exists_eq_or_imp, or_assoc]
  rw [conflicted, houter]
  simp

end Conflicts

section Selection

/-- The reason of a candidate that the selection drops. -/
def droppedReason (conflicts : Finset Uuid) (id : Uuid) : String :=
  if id ∈ conflicts then "OPPOSITE_DIRECTION_CONFLICT" else "SAME_SECURITY_DUPLICATE"

/-- Whether a candidate is blocked by a conflict. -/
def inConflict (conflicts : Finset Uuid) (candidate : NormalizedCandidate) : Bool :=
  decide (candidate.signalId ∈ conflicts)

/-- The selection is a greedy pass. -/
theorem foldl_selection (conflicts : Finset Uuid) (candidates : List NormalizedCandidate)
    (pass : Selection) :
    (candidates.foldl (Selection.step conflicts) pass).selected =
        pass.selected ++ greedy (inConflict conflicts) NormalizedCandidate.entities pass.used
          candidates ∧
      (candidates.foldl (Selection.step conflicts) pass).rejected =
        pass.rejected ++ (greedyDropped (inConflict conflicts) NormalizedCandidate.entities
          pass.used candidates).map (·.signalId) ∧
      ∀ id, (candidates.foldl (Selection.step conflicts) pass).rejectionReasons.get? id =
        if id ∈ (greedyDropped (inConflict conflicts) NormalizedCandidate.entities pass.used
          candidates).map (·.signalId) then some (droppedReason conflicts id)
        else pass.rejectionReasons.get? id := by
  induction candidates generalizing pass with
  | nil => simp [greedy, greedyDropped]
  | cons candidate rest ih =>
    rw [List.foldl_cons]
    by_cases hdrop : candidate.signalId ∈ conflicts ∨ ¬ Disjoint candidate.entities pass.used
    · have hdrop' : inConflict conflicts candidate ∨ ¬ Disjoint candidate.entities pass.used := by
        simpa [inConflict] using hdrop
      obtain ⟨hselected, hrejected, hreasons⟩ := ih (Selection.step conflicts pass candidate)
      rw [Selection.step, if_pos hdrop] at hselected hrejected hreasons ⊢
      rw [greedy_cons_of_drop hdrop', greedyDropped, if_pos hdrop']
      refine ⟨hselected, ?_, fun id => ?_⟩
      · rw [hrejected, List.map_cons, List.append_assoc]
        rfl
      · rw [hreasons, List.map_cons]
        by_cases hid : id ∈ (greedyDropped (inConflict conflicts) NormalizedCandidate.entities
            pass.used rest).map (·.signalId)
        · rw [if_pos hid, if_pos (List.mem_cons_of_mem _ hid)]
        · rw [if_neg hid, Dict.get?_insert]
          by_cases hown : id = candidate.signalId
          · subst hown
            rw [if_pos rfl, droppedReason]
            simp
          · rw [if_neg hown, if_neg (by simp [hown, hid])]
    · have hkeep : ¬ (inConflict conflicts candidate ∨ ¬ Disjoint candidate.entities pass.used) := by
        simpa [inConflict] using hdrop
      obtain ⟨hselected, hrejected, hreasons⟩ := ih (Selection.step conflicts pass candidate)
      rw [Selection.step, if_neg hdrop] at hselected hrejected hreasons ⊢
      rw [greedy_cons_of_keep hkeep, greedyDropped, if_neg hkeep]
      refine ⟨?_, hrejected, hreasons⟩
      rw [hselected, List.append_assoc]
      rfl

end Selection

end Godzilla.Ensemble
