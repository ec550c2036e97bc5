import Godzilla.Ensemble.Resolution

/-!
# Rearranged intents

The order in which intents arrive, and how often each of them does, does not show in what
`normalize_intents` decides: they are sorted by id and content hash, one of each id is
kept, and two that differ under one id block the batch wherever they stand.
-/

namespace Godzilla.Ensemble
open Godzilla Misc Alphas Events Features MarketData MarketState Portfolio Universe

variable {F : Type} [PyFloat F] [Platform]

section Distinct

variable [DecidableEq (AlphaIntent F)] {intents : List (AlphaIntent F)}
  {unique result : Dict Uuid (AlphaIntent F)}

/-- Two intents share an id and differ. -/
def ConflictingIds (intents : List (AlphaIntent F)) : Prop :=
  ∃ a ∈ intents, ∃ b ∈ intents, a.signalId = b.signalId ∧ a ≠ b

omit [DecidableEq (AlphaIntent F)] in
theorem conflictingIds_congr {intents' : List (AlphaIntent F)}
    (h : ∀ intent, intent ∈ intents' ↔ intent ∈ intents) :
    ConflictingIds intents' ↔ ConflictingIds intents := by
  simp only [ConflictingIds, h]

/-- The loop stops at an intent that differs from the one it keeps under the id. -/
theorem conflict_of_distinctIntents (hkeys : OwnKeys unique)
    (h : distinctIntents intents unique = none) :
    ∃ a b, (a ∈ intents ∨ unique.get? a.signalId = some a) ∧ b ∈ intents ∧
      a.signalId = b.signalId ∧ a ≠ b := by
  induction intents generalizing unique with
  | nil => cases h
  | cons first rest ih =>
    rw [distinctIntents] at h
    split at h
    · rename_i hconflict
      obtain ⟨known, hknown, hne⟩ := hconflict
      have hid := hkeys _ _ hknown
      exact ⟨known, first, Or.inr (hid ▸ hknown), List.mem_cons_self, hid, hne⟩
    · obtain ⟨a, b, ha, hb, hid, hne⟩ := ih (hkeys.insert first) h
      refine ⟨a, b, ?_, List.mem_cons_of_mem _ hb, hid, hne⟩
      rcases ha with ha | ha
      · exact Or.inl (List.mem_cons_of_mem _ ha)
      · rw [Dict.get?_insert] at ha
        split at ha
        · exact Or.inl (Option.some.inj ha ▸ List.mem_cons_self)
        · exact Or.inr ha

/-- The batch is blocked exactly when two intents share an id and differ. -/
theorem distinctIntents_eq_none_iff :
    distinctIntents intents .empty = none ↔ ConflictingIds intents := by
  constructor
  · intro h
    obtain ⟨a, b, ha | ha, hb, hid, hne⟩ := conflict_of_distinctIntents ownKeys_empty h
    · exact ⟨a, ha, b, hb, hid, hne⟩
    · cases ha
  · rintro ⟨a, ha, b, hb, hid, hne⟩
    cases h : distinctIntents intents .empty with
    | none => rfl
    | some result =>
      obtain ⟨-, -, hmem⟩ := distinctIntents_spec ownKeys_empty h
      have hsame := (hmem a ha).symm.trans (hid ▸ hmem b hb)
      exact absurd (Option.some.inj hsame) hne

/-- Of intents in order of their ids the dictionary keeps that order. -/
theorem distinctIntents_keys_sorted (hsorted : unique.keys.Pairwise (· ≤ ·))
    (hbelow : ∀ key ∈ unique.keys, ∀ intent ∈ intents, key ≤ intent.signalId)
    (hintents : intents.Pairwise fun a b => a.signalId ≤ b.signalId)
    (h : distinctIntents intents unique = some result) : result.keys.Pairwise (· ≤ ·) := by
  induction intents generalizing unique with
  | nil =>
    obtain rfl := Option.some.inj h
    exact hsorted
  | cons first rest ih =>
    obtain ⟨hfirst, hrest⟩ := List.pairwise_cons.mp hintents
    rw [distinctIntents] at h
    split at h
    · cases h
    refine ih ?_ ?_ hrest h
    · rw [Dict.keys_insert]
      split
      · exact hsorted
      · refine List.pairwise_append.mpr ⟨hsorted, List.pairwise_singleton _ _, ?_⟩
        intro key hkey last hlast
        rw [List.mem_singleton.mp hlast]
        exact hbelow key hkey first List.mem_cons_self
    · intro key hkey intent hintent
      rcases (Dict.mem_keys_insert _ _ _ _).mp hkey with rfl | hkey
      · exact hfirst intent hintent
      · exact hbelow key hkey intent (List.mem_cons_of_mem _ hintent)

/-- The kept intents depend only on which intents there are. -/
theorem distinctIntents_values_congr {intents' : List (AlphaIntent F)}
    {result' : Dict Uuid (AlphaIntent F)} (hmem : ∀ intent, intent ∈ intents' ↔ intent ∈ intents)
    (h : distinctIntents (sortOn AlphaIntent.orderKey intents) .empty = some result)
    (h' : distinctIntents (sortOn AlphaIntent.orderKey intents') .empty = some result') :
    result'.values = result.values := by
  have hordered : ∀ {xs : List (AlphaIntent F)} {kept : Dict Uuid (AlphaIntent F)},
      distinctIntents (sortOn AlphaIntent.orderKey xs) .empty = some kept →
      kept.values.Pairwise fun a b => a.signalId ≤ b.signalId := by
    intro xs kept hkept
    have hids : (sortOn AlphaIntent.orderKey xs).Pairwise fun a b => a.signalId ≤ b.signalId := by
      refine (sortOn_pairwise AlphaIntent.orderKey xs).imp ?_
      intro a b hab
      rcases Prod.Lex.toLex_le_toLex.mp hab with hlt | ⟨heq, -⟩
      · exact hlt.le
      · exact heq.le
    have hkeys := distinctIntents_keys_sorted (by simp) (by simp) hids hkept
    obtain ⟨hfound, -, -⟩ := distinctIntents_spec ownKeys_empty hkept
    have hown : OwnKeys kept := fun id intent hid => (hfound id intent hid).1
    rw [← hown.map_values, List.pairwise_map] at hkeys
    exact hkeys
  obtain ⟨hvalues, hnodup⟩ := distinctIntents_values h
  obtain ⟨hvalues', hnodup'⟩ := distinctIntents_values h'
  have hsame : ∀ intent, intent ∈ result'.values ↔ intent ∈ result.values := by
    intro intent
    rw [hvalues, hvalues', mem_sortOn, mem_sortOn, hmem]
  have hsort : sortOn AlphaIntent.signalId result'.values =
      sortOn AlphaIntent.signalId result.values :=
    sortOn_eq_of_mem_iff hnodup'.of_map hnodup.of_map hsame
      fun a ha b hb => List.inj_on_of_nodup_map hnodup' ha hb
  rwa [sortOn_eq_self (hordered h'), sortOn_eq_self (hordered h)] at hsort

end Distinct

section Outcome

/-- What a decision says, without the id and the hash of its inputs. -/
def outcome (decision : EnsembleDecision) :
    Instant × List NormalizedCandidate × List Uuid × List String × List EnsembleRejection :=
  (decision.timestamp, decision.candidates, decision.rejected, decision.reasons,
    decision.rejectionReasons)

variable (registry : AlphaRegistry F) (master : InstrumentMasterSnapshot)
  (universeSnapshot : UniverseSnapshot) (state : StateDecision F) (now : Instant)

/-- A blocked batch names the signals it was given. -/
theorem outcome_blocked_congr {intents intents' : List (AlphaIntent F)}
    (h : ∀ intent, intent ∈ intents' ↔ intent ∈ intents) (reason : String) :
    outcome ((normalizeInputs intents' registry master universeSnapshot state).blocked now reason) =
      outcome ((normalizeInputs intents registry master universeSnapshot state).blocked now
        reason) := by
  have hids : sortedIds ((sortOn AlphaIntent.orderKey intents').map (·.signalId)) =
      sortedIds ((sortOn AlphaIntent.orderKey intents).map (·.signalId)) := by
    refine sortedIds_congr fun id => ?_
    simp only [List.mem_map, mem_sortOn, h]
  simp only [outcome, NormalizeInputs.blocked, normalizeInputs, hids]

/-- The passes read the intents they are given and not those that are hashed. -/
theorem outcome_resolve_congr (intents intents' unique : List (AlphaIntent F)) :
    outcome <$> (normalizeInputs intents' registry master universeSnapshot state).resolve now
        unique =
      outcome <$> (normalizeInputs intents registry master universeSnapshot state).resolve now
        unique := by
  have hadapt : Normalization.adapt
      (normalizeInputs intents' registry master universeSnapshot state) now =
        Normalization.adapt (normalizeInputs intents registry master universeSnapshot state) now :=
    rfl
  rw [NormalizeInputs.resolve, NormalizeInputs.resolve, hadapt]
  cases unique.foldlM (Normalization.adapt
      (normalizeInputs intents registry master universeSnapshot state) now) {} with
  | error e => rfl
  | ok pass =>
    simp only [bind, Except.bind]
    cases NormalizeInputs.rejections _ with
    | error e => rfl
    | ok rejections => rfl

end Outcome

/-- The decision is the same for every order of the intents, and says the same for every list
    of the same intents. -/
theorem normalizeIntents_rearranged [DecidableEq (AlphaIntent F)] (intents : List (AlphaIntent F))
    (registry : AlphaRegistry F) (master : InstrumentMasterSnapshot)
    (universeSnapshot : UniverseSnapshot) (state : StateDecision F) (now : Instant) :
    (∀ intents', intents'.Perm intents →
      (∀ a ∈ intents, ∀ b ∈ intents, a.signalId = b.signalId → a.hash = b.hash → a = b) →
      normalizeIntents intents' registry master universeSnapshot state now =
        normalizeIntents intents registry master universeSnapshot state now) ∧
    ∀ intents', (∀ intent, intent ∈ intents' ↔ intent ∈ intents) →
      outcome <$> normalizeIntents intents' registry master universeSnapshot state now =
        outcome <$> normalizeIntents intents registry master universeSnapshot state now := by
  constructor
  · intro intents' hperm hhash
    have hsorted : sortOn AlphaIntent.orderKey intents' = sortOn AlphaIntent.orderKey intents := by
      refine sortOn_eq_of_perm hperm fun a ha b hb hkey => ?_
      obtain ⟨hid, hdigest⟩ := Prod.mk.inj (toLex.injective hkey)
      exact hhash a (hperm.mem_iff.mp ha) b (hperm.mem_iff.mp hb) hid hdigest
    rw [normalizeIntents, normalizeIntents, normalizeInputs, normalizeInputs, hsorted]
  · intro intents' hmem
    have hblocked := outcome_blocked_congr registry master universeSnapshot state now hmem
    rw [normalizeIntents, normalizeIntents]
    by_cases hmetadata :
        (normalizeInputs intents registry master universeSnapshot state).metadataUnavailable now
    · have hmetadata' : (normalizeInputs intents' registry master universeSnapshot
          state).metadataUnavailable now := hmetadata
      simp only [if_pos hmetadata, if_pos hmetadata']
      exact congrArg Except.ok (hblocked _)
    · have hmetadata' : ¬ (normalizeInputs intents' registry master universeSnapshot
          state).metadataUnavailable now := hmetadata
      have hconflict : ∀ intent, intent ∈ sortOn AlphaIntent.orderKey intents' ↔
          intent ∈ sortOn AlphaIntent.orderKey intents := by
        intro intent
        rw [mem_sortOn, mem_sortOn, hmem]
      simp only [if_neg hmetadata, if_neg hmetadata']
      cases hkept : distinctIntents (sortOn AlphaIntent.orderKey intents) .empty with
      | none =>
        have hkept' := distinctIntents_eq_none_iff.mpr
          ((conflictingIds_congr hconflict).mpr (distinctIntents_eq_none_iff.mp hkept))
        simp only [normalizeInputs, hkept, hkept']
        exact congrArg Except.ok (hblocked _)
      | some unique =>
        cases hkept' : distinctIntents (sortOn AlphaIntent.orderKey intents') .empty with
        | none =>
          have hnone := distinctIntents_eq_none_iff.mpr
            ((conflictingIds_congr hconflict).mp (distinctIntents_eq_none_iff.mp hkept'))
          rw [hkept] at hnone
          cases hnone
        | some unique' =>
          have hvalues := distinctIntents_values_congr hmem hkept hkept'
          have hresolve := outcome_resolve_congr registry master universeSnapshot state now intents
            intents' unique.values
          simpa only [normalizeInputs, hkept, hkept', hvalues] using hresolve

end Godzilla.Ensemble

namespace Godzilla.Ensemble.Sample
open Godzilla.Sample

/-- Two signals in either order give one decision, and one of them given again changes nothing
    that it says. -/
theorem normalizeIntents_rearranged_swapped :
    (call [signal 2, signal 1] Portfolio.Sample.now).run =
        (call [signal 1, signal 2] Portfolio.Sample.now).run ∧
      Ensemble.outcome <$> (call [signal 2, signal 1, signal 2] Portfolio.Sample.now).run =
        Ensemble.outcome <$> (call [signal 1, signal 2] Portfolio.Sample.now).run := by
  obtain ⟨hswapped, hrepeated⟩ := normalizeIntents_rearranged [signal 1, signal 2]
    Portfolio.Sample.registry master universeSnapshot Portfolio.Sample.state Portfolio.Sample.now
  refine ⟨hswapped [signal 2, signal 1] (.swap _ _ _) ?_,
    hrepeated [signal 2, signal 1, signal 2] ?_⟩
  · have hids : (signal 1).signalId ≠ (signal 2).signalId := by decide
    intro a ha b hb hid _
    simp only [List.mem_cons, List.not_mem_nil, or_false] at ha hb
    rcases ha with rfl | rfl <;> rcases hb with rfl | rfl
    · rfl
    · exact absurd hid hids
    · exact absurd hid.symm hids
    · rfl
  · intro intent
    simp only [List.mem_cons, List.not_mem_nil, or_false]
    tauto

end Godzilla.Ensemble.Sample
