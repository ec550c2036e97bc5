import Godzilla.MarketData.Freshness
import Godzilla.Misc.Transition

/-!
# Freshness over runs of updates

What a tracker answers after any run of updates, told by the updates alone: which of
them were free of flags next to the quotes stored before, and which one was the last
of an instrument. The clock of the updates may move backwards.
-/

namespace Godzilla.MarketData
open Godzilla Misc

/-- One call of `update`: the reading of the clock and the quote. -/
structure QuoteUpdate where
  made : Instant
  quote : Quote
  deriving DecidableEq

/-- The quote of an update is positive, uncrossed, not of the future, not stale, without a
    vendor flag and newer than every quote stored before for its instrument. -/
def FlagFree (staleSeconds : ℚ) (stored : List Quote) (u : QuoteUpdate) : Prop :=
  u.quote.qualityFlags = ∅ ∧
  (0 < u.quote.bid ∧ 0 < u.quote.ask ∧ 0 < u.quote.last) ∧ u.quote.bid ≤ u.quote.ask ∧
  (u.quote.timestamp ≤ u.quote.receivedAt ∧ u.quote.receivedAt ≤ u.made) ∧
  ((u.made - u.quote.timestamp : Int) : ℚ) ≤ staleSeconds * 1000000 ∧
  ∀ p ∈ stored, p.instrumentId = u.quote.instrumentId → p.timestamp < u.quote.timestamp

instance (staleSeconds : ℚ) (stored : List Quote) (u : QuoteUpdate) :
    Decidable (FlagFree staleSeconds stored u) :=
  inferInstanceAs (Decidable (_ ∧ _))

/-- The quotes that a run of updates stores. -/
def storedQuotes (staleSeconds : ℚ) (updates : List QuoteUpdate) : List Quote :=
  updates.foldl (fun stored u =>
    if FlagFree staleSeconds stored u then stored ++ [u.quote] else stored) []

/-- The quotes of one instrument. -/
def quotesOf (instrumentId : String) (quotes : List Quote) : List Quote :=
  quotes.filter fun quote => quote.instrumentId = instrumentId

/-- `u`, made after `before`, is the last update of an instrument. -/
def LastUpdate (instrumentId : String) (updates before : List QuoteUpdate) (u : QuoteUpdate) :
    Prop :=
  ∃ after, updates = before ++ u :: after ∧ u.quote.instrumentId = instrumentId ∧
    ∀ v ∈ after, v.quote.instrumentId ≠ instrumentId

namespace QuoteFreshnessTracker

/-- A tracker that has seen nothing yet, with the settings of another. -/
def unused (tracker : QuoteFreshnessTracker) : QuoteFreshnessTracker :=
  { tracker with quotes := .empty, invalid := ∅ }

/-- The tracker after an update. -/
def step (tracker : QuoteFreshnessTracker) (u : QuoteUpdate) : QuoteFreshnessTracker :=
  (tracker.update u.made u.quote).2

end QuoteFreshnessTracker

variable {staleSeconds : ℚ} {updates before : List QuoteUpdate} {u v : QuoteUpdate}
  {instrumentId : String}

theorem storedQuotes_concat (staleSeconds : ℚ) (updates : List QuoteUpdate) (u : QuoteUpdate) :
    storedQuotes staleSeconds (updates ++ [u]) =
      if FlagFree staleSeconds (storedQuotes staleSeconds updates) u then
        storedQuotes staleSeconds updates ++ [u.quote]
      else storedQuotes staleSeconds updates := by
  rw [storedQuotes, List.foldl_append]
  rfl

theorem lastUpdate_concat_self (h : u.quote.instrumentId = instrumentId) :
    LastUpdate instrumentId (updates ++ [u]) before v ↔ before = updates ∧ v = u := by
  constructor
  · rintro ⟨after, heq, -, hafter⟩
    rcases concat_split heq with ⟨-, hbefore, hv⟩ | ⟨after', rfl, -⟩
    · exact ⟨hbefore, hv⟩
    · exact absurd h (hafter u (by simp))
  · rintro ⟨rfl, rfl⟩
    exact ⟨[], rfl, h, by simp⟩

theorem lastUpdate_concat_other (h : u.quote.instrumentId ≠ instrumentId) :
    LastUpdate instrumentId (updates ++ [u]) before v ↔
      LastUpdate instrumentId updates before v := by
  constructor
  · rintro ⟨after, heq, hv, hafter⟩
    rcases concat_split heq with ⟨-, -, rfl⟩ | ⟨after', rfl, hsplit⟩
    · exact absurd hv h
    · exact ⟨after', hsplit, hv, fun w hw => hafter w (List.mem_append_left _ hw)⟩
  · rintro ⟨after, rfl, hv, hafter⟩
    refine ⟨after ++ [u], by simp, hv, fun w hw => ?_⟩
    rcases List.mem_append.mp hw with hw | hw
    · exact hafter w hw
    · rw [List.mem_singleton.mp hw]
      exact h

/-- What a tracker holds after a run of updates. -/
structure Tracks (staleSeconds : ℚ) (updates : List QuoteUpdate)
    (tracker : QuoteFreshnessTracker) : Prop where
  setting : tracker.staleSeconds = staleSeconds
  increasing : ∀ i, (quotesOf i (storedQuotes staleSeconds updates)).Pairwise
    fun p q => p.timestamp < q.timestamp
  latest : ∀ i, tracker.quotes.get? i = (quotesOf i (storedQuotes staleSeconds updates)).getLast?
  clean : ∀ i before u, LastUpdate i updates before u →
    FlagFree staleSeconds (storedQuotes staleSeconds before) u →
      tracker.quotes.get? i = some u.quote ∧ i ∉ tracker.invalid
  flagged : ∀ i before u, LastUpdate i updates before u →
    ¬ FlagFree staleSeconds (storedQuotes staleSeconds before) u → i ∈ tracker.invalid
  unseen : ∀ i, (∀ u ∈ updates, u.quote.instrumentId ≠ i) → tracker.quotes.get? i = none

/-- The last of increasing timestamps is below a bound exactly when all of them are. -/
theorem forall_getLast?_lt_iff {quotes : List Quote}
    (h : quotes.Pairwise fun p q => p.timestamp < q.timestamp) (bound : Instant) :
    (∀ q ∈ quotes.getLast?, q.timestamp < bound) ↔ ∀ q ∈ quotes, q.timestamp < bound := by
  constructor
  · intro hlast q hq
    rcases List.eq_nil_or_concat quotes with rfl | ⟨rest, last, rfl⟩
    · cases hq
    · rw [List.concat_eq_append] at h hlast hq
      have hbound : last.timestamp < bound := hlast last (by simp)
      rcases List.mem_append.mp hq with hrest | hsame
      · have hle := (List.pairwise_append.mp h).2.2 q hrest last (by simp)
        exact hle.trans hbound
      · rw [List.mem_singleton.mp hsame]
        exact hbound
  · intro hall q hq
    exact hall q (List.mem_of_mem_getLast? hq)

theorem mem_quotesOf {quotes : List Quote} {q : Quote} :
    q ∈ quotesOf instrumentId quotes ↔ q ∈ quotes ∧ q.instrumentId = instrumentId := by
  rw [quotesOf, List.mem_filter, decide_eq_true_eq]

theorem flagIf_eq_empty_iff {c : Prop} [Decidable c] {flag : QualityFlag} :
    (if c then {flag} else ∅ : Finset QualityFlag) = ∅ ↔ ¬ c := by
  by_cases hc : c <;> simp [hc]

/-- The flags of a tracker are those of the run. -/
theorem Tracks.flags_eq_empty_iff {tracker : QuoteFreshnessTracker}
    (h : Tracks staleSeconds updates tracker) (u : QuoteUpdate) :
    tracker.flags u.made u.quote = ∅ ↔
      FlagFree staleSeconds (storedQuotes staleSeconds updates) u := by
  have hnewer : (∀ q ∈ tracker.quotes.get? u.quote.instrumentId,
      q.timestamp < u.quote.timestamp) ↔
        ∀ p ∈ storedQuotes staleSeconds updates, p.instrumentId = u.quote.instrumentId →
          p.timestamp < u.quote.timestamp := by
    have hall := forall_getLast?_lt_iff (h.increasing u.quote.instrumentId) u.quote.timestamp
    rw [← h.latest] at hall
    simpa only [mem_quotesOf, and_imp] using hall
  rw [QuoteFreshnessTracker.flags, Finset.union_eq_empty, Finset.union_eq_empty,
    Finset.union_eq_empty, Finset.union_eq_empty, Finset.union_eq_empty, flagIf_eq_empty_iff,
    flagIf_eq_empty_iff, flagIf_eq_empty_iff, flagIf_eq_empty_iff, h.setting, not_le,
    lt_min_iff, lt_min_iff, not_lt, not_or, not_lt, not_lt, not_lt, FlagFree, ← hnewer]
  cases tracker.quotes.get? u.quote.instrumentId with
  | none =>
    simp only [Option.mem_def, reduceCtorEq, false_imp_iff, implies_true, and_true]
    tauto
  | some previous =>
    simp only [flagIf_eq_empty_iff, not_le, Option.mem_def, Option.some.injEq, forall_eq']
    tauto

theorem tracks_unused (tracker : QuoteFreshnessTracker) :
    Tracks tracker.staleSeconds [] tracker.unused := by
  refine ⟨rfl, fun i => List.Pairwise.nil, fun i => rfl, ?_, ?_, fun i _ => rfl⟩
  · rintro i before u ⟨after, h, -⟩
    cases before <;> cases h
  · rintro i before u ⟨after, h, -⟩
    cases before <;> cases h

theorem quotesOf_concat (quotes : List Quote) (q : Quote) :
    quotesOf instrumentId (quotes ++ [q]) =
      if q.instrumentId = instrumentId then quotesOf instrumentId quotes ++ [q]
      else quotesOf instrumentId quotes := by
  by_cases hq : q.instrumentId = instrumentId <;> simp [quotesOf, hq]

/-- An update that is free of flags is stored and clears its instrument. -/
theorem Tracks.step_of_flagFree {tracker : QuoteFreshnessTracker}
    (h : Tracks staleSeconds updates tracker)
    (hfree : FlagFree staleSeconds (storedQuotes staleSeconds updates) u) :
    Tracks staleSeconds (updates ++ [u]) (tracker.step u) := by
  have hflags := (h.flags_eq_empty_iff u).mpr hfree
  have hchecked : { u.quote with qualityFlags := (∅ : Finset QualityFlag) } = u.quote := by
    rw [← hfree.1]
  have hstep : tracker.step u = { tracker with
      quotes := tracker.quotes.insert u.quote.instrumentId u.quote
      invalid := tracker.invalid.erase u.quote.instrumentId } := by
    simp only [QuoteFreshnessTracker.step, QuoteFreshnessTracker.update, hflags, if_true, hchecked]
  rw [hstep]
  refine ⟨h.setting, fun i => ?_, fun i => ?_, ?_, ?_, ?_⟩
  · rw [storedQuotes_concat, if_pos hfree, quotesOf_concat]
    split
    · next hi =>
      refine List.pairwise_append.mpr ⟨h.increasing i, List.pairwise_singleton _ _, ?_⟩
      intro p hp q hq
      obtain ⟨hstored, hsame⟩ := mem_quotesOf.mp hp
      rw [List.mem_singleton.mp hq]
      exact hfree.2.2.2.2.2 p hstored (hsame.trans hi.symm)
    · exact h.increasing i
  · rw [storedQuotes_concat, if_pos hfree, quotesOf_concat, Dict.get?_insert]
    by_cases hi : u.quote.instrumentId = i
    · rw [if_pos hi.symm, if_pos hi, List.getLast?_concat]
    · rw [if_neg (Ne.symm hi), if_neg hi]
      exact h.latest i
  · intro i before v hlast hvfree
    by_cases hi : u.quote.instrumentId = i
    · obtain ⟨rfl, rfl⟩ := (lastUpdate_concat_self hi).mp hlast
      rw [Dict.get?_insert, if_pos hi.symm, hi]
      exact ⟨rfl, Finset.notMem_erase _ _⟩
    · obtain ⟨hget, hvalid⟩ := h.clean i before v ((lastUpdate_concat_other hi).mp hlast) hvfree
      rw [Dict.get?_insert, if_neg (Ne.symm hi)]
      exact ⟨hget, fun hmem => hvalid (Finset.mem_of_mem_erase hmem)⟩
  · intro i before v hlast hvflagged
    by_cases hi : u.quote.instrumentId = i
    · obtain ⟨rfl, rfl⟩ := (lastUpdate_concat_self hi).mp hlast
      exact absurd hfree hvflagged
    · exact Finset.mem_erase.mpr ⟨Ne.symm hi,
        h.flagged i before v ((lastUpdate_concat_other hi).mp hlast) hvflagged⟩
  · intro i hunseen
    rw [Dict.get?_insert, if_neg (Ne.symm (hunseen u (by simp)))]
    exact h.unseen i fun v hv => hunseen v (List.mem_append_left _ hv)

/-- A flagged update blocks its instrument and stores nothing. -/
theorem Tracks.step_of_flagged {tracker : QuoteFreshnessTracker}
    (h : Tracks staleSeconds updates tracker)
    (hflagged : ¬ FlagFree staleSeconds (storedQuotes staleSeconds updates) u) :
    Tracks staleSeconds (updates ++ [u]) (tracker.step u) := by
  have hflags := mt (h.flags_eq_empty_iff u).mp hflagged
  have hstep : tracker.step u =
      { tracker with invalid := insert u.quote.instrumentId tracker.invalid } := by
    simp only [QuoteFreshnessTracker.step, QuoteFreshnessTracker.update, if_neg hflags]
  rw [hstep]
  refine ⟨h.setting, fun i => ?_, fun i => ?_, ?_, ?_, ?_⟩
  · rw [storedQuotes_concat, if_neg hflagged]
    exact h.increasing i
  · rw [storedQuotes_concat, if_neg hflagged]
    exact h.latest i
  · intro i before v hlast hvfree
    by_cases hi : u.quote.instrumentId = i
    · obtain ⟨rfl, rfl⟩ := (lastUpdate_concat_self hi).mp hlast
      exact absurd hvfree hflagged
    · obtain ⟨hget, hvalid⟩ := h.clean i before v ((lastUpdate_concat_other hi).mp hlast) hvfree
      refine ⟨hget, fun hmem => ?_⟩
      rcases Finset.mem_insert.mp hmem with hsame | hmem
      · exact hi hsame.symm
      · exact hvalid hmem
  · intro i before v hlast hvflagged
    by_cases hi : u.quote.instrumentId = i
    · rw [← hi]
      exact Finset.mem_insert_self _ _
    · exact Finset.mem_insert_of_mem
        (h.flagged i before v ((lastUpdate_concat_other hi).mp hlast) hvflagged)
  · intro i hunseen
    exact h.unseen i fun v hv => hunseen v (List.mem_append_left _ hv)

/-- What a tracker holds after any run from its start. -/
theorem tracks_run (tracker : QuoteFreshnessTracker) (updates : List QuoteUpdate) :
    Tracks tracker.staleSeconds updates
      (run QuoteFreshnessTracker.step tracker.unused updates) := by
  refine run_history (P := Tracks tracker.staleSeconds) (tracks_unused tracker) ?_ updates
  intro seen state u h
  by_cases hfree : FlagFree tracker.staleSeconds (storedQuotes tracker.staleSeconds seen) u
  · exact h.step_of_flagFree hfree
  · exact h.step_of_flagged hfree

/-- What is stored stays stored. -/
theorem storedQuotes_subset (staleSeconds : ℚ) (updates later : List QuoteUpdate) :
    storedQuotes staleSeconds updates ⊆ storedQuotes staleSeconds (updates ++ later) := by
  induction later using List.reverseRecOn with
  | nil => simp
  | append_singleton later u ih =>
    rw [← List.append_assoc, storedQuotes_concat]
    split
    · exact fun q hq => List.mem_append_left _ (ih hq)
    · exact ih

/-- The last update of an instrument that follows another one of it stands behind that one. -/
theorem after_of_lastUpdate {after : List QuoteUpdate}
    (hsplit : updates = before ++ u :: after) {before' : List QuoteUpdate}
    (hlast : LastUpdate u.quote.instrumentId updates before' v) :
    (before' = before ∧ v = u) ∨ ∃ between rest,
      before' = before ++ u :: between ∧ after = between ++ v :: rest := by
  obtain ⟨after', heq, hv, hafter⟩ := hlast
  rw [hsplit] at heq
  rcases List.append_eq_append_iff.mp heq with ⟨shift, hbefore', hshift⟩ | ⟨shift, hbefore, hshift⟩
  · cases shift with
    | nil =>
      obtain ⟨rfl, -⟩ := List.cons_eq_cons.mp hshift
      exact Or.inl ⟨by simpa using hbefore', rfl⟩
    | cons first between =>
      obtain ⟨rfl, hrest⟩ := List.cons_eq_cons.mp hshift
      exact Or.inr ⟨between, after', hbefore', hrest⟩
  · cases shift with
    | nil =>
      obtain ⟨rfl, -⟩ := List.cons_eq_cons.mp hshift
      exact Or.inl ⟨by simpa using hbefore.symm, rfl⟩
    | cons first between =>
      -- the update would stand behind the last one of its instrument
      obtain ⟨rfl, rfl⟩ := List.cons_eq_cons.mp hshift
      exact absurd rfl (hafter u (by simp))

/-- An instrument with an update has a last one. -/
theorem exists_lastUpdate (h : ∃ u ∈ updates, u.quote.instrumentId = instrumentId) :
    ∃ before u, LastUpdate instrumentId updates before u := by
  induction updates using List.reverseRecOn with
  | nil => simp at h
  | append_singleton seen u ih =>
    by_cases hu : u.quote.instrumentId = instrumentId
    · exact ⟨seen, u, (lastUpdate_concat_self hu).mpr ⟨rfl, rfl⟩⟩
    · obtain ⟨v, hv, hinstrument⟩ := h
      rcases List.mem_append.mp hv with hv | hv
      · obtain ⟨before, w, hlast⟩ := ih ⟨v, hv, hinstrument⟩
        exact ⟨before, w, (lastUpdate_concat_other hu).mpr hlast⟩
      · rw [List.mem_singleton.mp hv] at hinstrument
        exact absurd hinstrument hu

/-- A tracker returns a quote exactly when it is the last update of its instrument, was free of
    flags and is still young. -/
theorem Tracks.requireFresh_iff {tracker : QuoteFreshnessTracker}
    (h : Tracks staleSeconds updates tracker) (now : Instant) (q : Quote) :
    tracker.requireFresh now instrumentId = .ok q ↔
      ∃ before u, LastUpdate instrumentId updates before u ∧
        FlagFree staleSeconds (storedQuotes staleSeconds before) u ∧ u.quote = q ∧
        QuoteFreshnessTracker.young staleSeconds now q := by
  rw [QuoteFreshnessTracker.requireFresh_eq_ok_iff, h.setting]
  constructor
  · rintro ⟨hget, hyoung, hvalid⟩
    have hseen : ∃ u ∈ updates, u.quote.instrumentId = instrumentId := by
      by_contra hnever
      push Not at hnever
      rw [h.unseen instrumentId hnever] at hget
      cases hget
    obtain ⟨before, u, hlast⟩ := exists_lastUpdate hseen
    by_cases hfree : FlagFree staleSeconds (storedQuotes staleSeconds before) u
    · have hsame := (h.clean instrumentId before u hlast hfree).1
      rw [hget] at hsame
      exact ⟨before, u, hlast, hfree, (Option.some.inj hsame).symm, hyoung⟩
    · exact absurd (h.flagged instrumentId before u hlast hfree) hvalid
  · rintro ⟨before, u, hlast, hfree, rfl, hyoung⟩
    obtain ⟨hget, hvalid⟩ := h.clean instrumentId before u hlast hfree
    exact ⟨hget, hyoung, hvalid⟩

/-- After any run of updates the quotes that were stored for an instrument have increasing
    timestamps and the tracker holds the last of them. It returns a quote exactly when that is
    the last update of its instrument, was free of flags and is still young; so a flagged update
    is followed by a newer quote that is free of flags before the instrument is available
    again. -/
theorem run_requireFresh (tracker : QuoteFreshnessTracker) (updates : List QuoteUpdate) :
    let s := tracker.staleSeconds
    let held := run QuoteFreshnessTracker.step tracker.unused updates
    (∀ i, (quotesOf i (storedQuotes s updates)).Pairwise (fun p q => p.timestamp < q.timestamp) ∧
      held.quotes.get? i = (quotesOf i (storedQuotes s updates)).getLast?) ∧
    (∀ i now q, held.requireFresh now i = .ok q ↔
      ∃ before u, LastUpdate i updates before u ∧ FlagFree s (storedQuotes s before) u ∧
        u.quote = q ∧ 0 ≤ now - q.timestamp ∧ ((now - q.timestamp : Int) : ℚ) ≤ s * 1000000) ∧
    ∀ before u after, updates = before ++ u :: after → ¬ FlagFree s (storedQuotes s before) u →
      ∀ now q, held.requireFresh now u.quote.instrumentId = .ok q →
        ∃ between v rest, after = between ++ v :: rest ∧ v.quote = q ∧
          v.quote.instrumentId = u.quote.instrumentId ∧
          FlagFree s (storedQuotes s (before ++ u :: between)) v ∧
          ∀ p ∈ storedQuotes s before, p.instrumentId = u.quote.instrumentId →
            p.timestamp < q.timestamp := by
  intro s held
  have htracks : Tracks s updates held := tracks_run tracker updates
  refine ⟨fun i => ⟨htracks.increasing i, htracks.latest i⟩,
    fun i now q => htracks.requireFresh_iff now q, ?_⟩
  intro before u after hsplit hflagged now q hfresh
  obtain ⟨before', v, hlast, hfree, rfl, -⟩ := (htracks.requireFresh_iff now q).mp hfresh
  rcases after_of_lastUpdate hsplit hlast with ⟨rfl, rfl⟩ | ⟨between, rest, rfl, hrest⟩
  · exact absurd hfree hflagged
  · obtain ⟨-, -, hinstrument, -⟩ := hlast
    refine ⟨between, v, rest, hrest, rfl, hinstrument, hfree, fun p hp hsame => ?_⟩
    exact hfree.2.2.2.2.2 p (storedQuotes_subset s before (u :: between) hp)
      (hsame.trans hinstrument.symm)

end Godzilla.MarketData
