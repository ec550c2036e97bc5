import Godzilla.MarketData.AggregationFacts

/-!
# Canonical bars never repaint

A complete five-minute bar keeps its values at every later cutoff, whatever is
received after the first one, and the bars of the first cutoff do not change at all.
Later copies come after the first ones in every bucket, and a bar received before
its own end falls into a later bucket than any that is complete.
-/

namespace Godzilla.MarketData
open Godzilla Misc

variable {cutoff later : Instant}

/-- `after` is `before` with bars inserted that are received after the cutoff. -/
inductive Extends (cutoff : Instant) : List Bar → List Bar → Prop where
  | nil : Extends cutoff [] []
  | keep (bar : Bar) {before after : List Bar} :
    Extends cutoff before after → Extends cutoff (bar :: before) (bar :: after)
  | insert (bar : Bar) {before after : List Bar} : cutoff < bar.receivedAt →
    Extends cutoff before after → Extends cutoff before (bar :: after)

/-- Inserted bars are not available at the cutoff. -/
theorem Extends.filter_availableAt {before after : List Bar} (h : Extends cutoff before after) :
    after.filter (·.availableAt cutoff) = before.filter (·.availableAt cutoff) := by
  induction h with
  | nil => rfl
  | keep bar _ ih => rw [List.filter_cons, List.filter_cons, ih]
  | insert bar hlate _ ih =>
    have hno : ¬ bar.availableAt cutoff := fun h =>
      absurd (availableAt_iff.mp h).2 (not_le.mpr hlate)
    rw [List.filter_cons, if_neg hno, ih]

/-- What is available at a cutoff is available later. -/
theorem filter_availableBars {bars : List Bar} (hle : cutoff ≤ later) :
    (availableBars bars later).filter (·.availableAt cutoff) = availableBars bars cutoff := by
  rw [availableBars, List.filter_filter, availableBars]
  refine List.filter_congr fun bar _ => ?_
  by_cases h : bar.availableAt cutoff
  · have hlater : bar.availableAt later :=
      availableAt_iff.mpr ((availableAt_iff.mp h).imp (le_trans · hle) (le_trans · hle))
    simp [h, hlater]
  · simp [h]

theorem Extends.availableBars_eq {before after : List Bar} (h : Extends cutoff before after) :
    availableBars after cutoff = availableBars before cutoff := by
  rw [availableBars, filter_sortOn, h.filter_availableAt, ← filter_sortOn, availableBars]

/-- The available bars come in receipt order. -/
theorem pairwise_availableBars (bars : List Bar) (cutoff : Instant) :
    (availableBars bars cutoff).Pairwise fun a b => a.receivedAt ≤ b.receivedAt := by
  exact ((sortOn_pairwise Bar.receiptKey bars).filter _).imp receivedAt_le_of_receiptKey_le

variable [Platform] {checker : BarQualityChecker}

/-- The checks of the bars available at a cutoff are their checks at every later one. -/
theorem filter_checkedBars {bars : List Bar}
    (hordered : bars.Pairwise fun a b => a.receivedAt ≤ b.receivedAt) :
    (checkedBars checker bars).filter (·.availableAt cutoff) =
      checkedBars checker (bars.filter (·.availableAt cutoff)) := by
  induction bars using List.reverseRecOn with
  | nil => rfl
  | append_singleton bars bar ih =>
    obtain ⟨hbars, _, hlast⟩ := List.pairwise_append.mp hordered
    rw [checkedBars_concat, List.filter_append, List.filter_append, ih hbars]
    by_cases havailable : bar.availableAt cutoff
    · -- the bars before an available one that it looks at are available
      have hcandidates : (checkedBars checker bars).filter (·.precedes bar) =
          ((checkedBars checker bars).filter (·.availableAt cutoff)).filter (·.precedes bar) := by
        rw [List.filter_filter]
        refine List.filter_congr fun item hitem => ?_
        by_cases hprecedes : item.precedes bar
        · obtain ⟨original, horiginal, previous, rfl⟩ := mem_checkedBars hitem
          have hreceived : original.receivedAt ≤ bar.receivedAt :=
            hlast original horiginal bar List.mem_cons_self
          obtain ⟨hstop, hcutoff⟩ := availableAt_iff.mp havailable
          have hitem' : (checker.checked original previous).availableAt cutoff := by
            refine availableAt_iff.mpr ⟨?_, hreceived.trans hcutoff⟩
            exact (precedes_iff.mp hprecedes).2.2.trans (bar.start_le_stop.trans hstop)
          simp [hprecedes, hitem']
        · simp [hprecedes]
      have hpredecessor : predecessor (checkedBars checker bars) bar =
          predecessor (checkedBars checker (bars.filter (·.availableAt cutoff))) bar := by
        rw [predecessor, hcandidates, ih hbars, predecessor]
      have hself : List.filter (·.availableAt cutoff) [bar] = [bar] := by simp [havailable]
      rw [hself, checkedBars_concat, hpredecessor]
      simp [BarQualityChecker.availableAt_checked, havailable]
    · simp [BarQualityChecker.availableAt_checked, havailable]

section Bucket

/-- The start of a bucket. -/
def BucketKey.start (key : BucketKey) : Instant := (ofLex (ofLex key).2).2

omit [Platform] in
theorem mem_bucketMinutes {start instant : Instant} : instant ∈ bucketMinutes start ↔
    start ≤ instant ∧ instant < start + minutesOf 5 ∧ (instant - start) % minutesOf 1 = 0 := by
  simp only [bucketMinutes, List.mem_map, List.mem_range, minutesOf]
  constructor
  · rintro ⟨minute, hminute, rfl⟩
    lia
  · rintro ⟨hfirst, hlast, haligned⟩
    exact ⟨((instant - start) / 60000000).toNat, by lia, by lia⟩

/-- A checked minute in a bucket starts at one of the minutes of the bucket. -/
theorem start_mem_bucketMinutes {bar : Bar} {previous : Option Bar} {key : BucketKey}
    (hminute : bar.intervalMinutes = 1)
    (hkey : checker.bucketKey (checker.checked bar previous) = some key) :
    bar.start ∈ bucketMinutes key.start := by
  rw [BarQualityChecker.bucketKey] at hkey
  have hstart : (checker.checked bar previous).start = bar.start := rfl
  rw [hstart] at hkey
  cases hfound : checker.found bar.start with
  | none => simp [hfound] at hkey
  | some bounds =>
    obtain ⟨opening, closing⟩ := bounds
    simp only [hfound] at hkey
    split at hkey
    · cases hkey
    rename_i hplaced
    -- the bar is in its session and aligned, or a flag would keep it out
    have hflags : BarQualityChecker.placeFlags bar (some (opening, closing)) ⊆
        (checker.checked bar previous).qualityFlags := by
      intro flag hflag
      simp [BarQualityChecker.checked, hfound, hflag]
    rw [Bar.outOfBuckets, decide_eq_true_eq, not_or] at hplaced
    have hinside : opening ≤ bar.start := by
      by_contra hbefore
      apply hplaced.1
      apply hflags
      rw [BarQualityChecker.placeFlags, if_pos (Or.inl (not_le.mp hbefore))]
      exact Finset.mem_singleton_self _
    have haligned : (bar.start - opening) % minutesOf bar.intervalMinutes = 0 := by
      by_contra hmisaligned
      by_cases hout : bar.start < opening ∨ closing < bar.stop
      · apply hplaced.1
        apply hflags
        rw [BarQualityChecker.placeFlags, if_pos hout]
        exact Finset.mem_singleton_self _
      · apply hplaced.2
        apply hflags
        rw [BarQualityChecker.placeFlags, if_neg hout, if_pos hmisaligned]
        exact Finset.mem_singleton_self _
    obtain rfl := Option.some.inj hkey
    rw [hminute] at haligned
    rw [mem_bucketMinutes]
    simp only [BucketKey.start, ofLex_toLex, Bar.bucketFrom, hstart, minutesOf, secondsOf]
      at haligned hinside ⊢
    lia

/-- What is known of the group of a bucket: every bar is one of its minutes. -/
structure Minutes (start : Instant) (group : List Bar) : Prop where
  start_mem : ∀ bar ∈ group, bar.start ∈ bucketMinutes start
  stop_eq : ∀ bar ∈ group, bar.stop = bar.start + minutesOf 1

theorem minutes_groupOf {bars : List Bar} (hminute : ∀ bar ∈ bars, bar.intervalMinutes = 1)
    (key : BucketKey) : Minutes key.start (groupOf checker bars key) := by
  have hcase : ∀ bar ∈ groupOf checker bars key,
      bar.start ∈ bucketMinutes key.start ∧ bar.stop = bar.start + minutesOf 1 := by
    intro bar hbar
    obtain ⟨hmem, hkey⟩ := List.mem_filter.mp hbar
    obtain ⟨original, horiginal, previous, rfl⟩ := mem_checkedBars hmem
    have hone := hminute original horiginal
    have hkey' : checker.bucketKey (checker.checked original previous) = some key :=
      of_decide_eq_true hkey
    have hstart : original.start ∈ bucketMinutes key.start := start_mem_bucketMinutes hone hkey'
    refine ⟨hstart, ?_⟩
    have hduration : original.stop - original.start = minutesOf 1 := hone ▸ original.duration
    show original.stop = original.start + minutesOf 1
    rw [← hduration]
    ring
  exact ⟨fun bar hbar => (hcase bar hbar).1, fun bar hbar => (hcase bar hbar).2⟩

end Bucket

section Copies

variable [DumpText] {start : Instant} {group group' : List Bar}

omit [Platform] in
/-- The copy of a minute that counts is the first in the order of the copies. -/
theorem get?_firstCopies (group : List Bar) (minute : Instant) :
    (firstCopies group).get? minute =
      (sortOn Bar.copyKey (group.filter fun bar => bar.start = minute)).head? := by
  rw [firstCopies, Dict.get?_index_reverse, ← filter_sortOn, List.head?_filter]

omit [Platform] in
/-- A copy received by the cutoff is preferred to one received after it. -/
theorem get?_firstCopies_filter (hminutes : Minutes start group)
    (hend : start + minutesOf 5 ≤ cutoff) {minute : Instant}
    (hsome : ((firstCopies (group.filter (·.availableAt cutoff))).get? minute).isSome) :
    (firstCopies group).get? minute =
      (firstCopies (group.filter (·.availableAt cutoff))).get? minute := by
  have hfiltered : (firstCopies (group.filter (·.availableAt cutoff))).get? minute =
      ((sortOn Bar.copyKey (group.filter fun bar => bar.start = minute)).filter
        (·.availableAt cutoff)).head? := by
    rw [get?_firstCopies, List.filter_comm, filter_sortOn]
  rw [hfiltered] at hsome
  rw [hfiltered, get?_firstCopies]
  have hsorted := sortOn_pairwise Bar.copyKey (group.filter fun bar => bar.start = minute)
  have hcopies : ∀ bar ∈ sortOn Bar.copyKey (group.filter fun bar => bar.start = minute),
      bar ∈ group ∧ bar.start = minute := by
    intro bar hbar
    simpa using hbar
  generalize sortOn Bar.copyKey (group.filter fun bar => bar.start = minute) = copies
    at hsome hsorted hcopies
  cases copies with
  | nil => rfl
  | cons first rest =>
    -- the first copy was received no later than one that is available
    obtain ⟨found, hfound⟩ := Option.isSome_iff_exists.mp hsome
    obtain ⟨hmem, havailable⟩ := List.mem_filter.mp (List.mem_of_mem_head? hfound)
    have hreceived : first.receivedAt ≤ found.receivedAt := by
      rcases List.mem_cons.mp hmem with rfl | hmem
      · exact le_refl _
      have hkey := (List.pairwise_cons.mp hsorted).1 found hmem
      have hstart : first.start = found.start :=
        (hcopies first List.mem_cons_self).2.trans
          (hcopies found (List.mem_cons_of_mem _ hmem)).2.symm
      rcases Prod.Lex.le_iff.mp hkey with hlt | ⟨_, hle⟩
      · exact absurd hstart (ne_of_lt hlt)
      rcases Prod.Lex.le_iff.mp hle with hlt | ⟨heq, _⟩
      · exact le_of_lt hlt
      · exact le_of_eq heq
    have hfirst : first.availableAt cutoff := by
      obtain ⟨hgroup, _⟩ := hcopies first List.mem_cons_self
      refine availableAt_iff.mpr ⟨?_, hreceived.trans (availableAt_iff.mp havailable).2⟩
      have hminute := (mem_bucketMinutes.mp (hminutes.start_mem first hgroup))
      rw [hminutes.stop_eq first hgroup]
      simp only [minutesOf] at hminute hend ⊢
      lia
    rw [List.filter_cons, if_pos hfirst]
    rfl

omit [Platform] in
/-- Copies with the same first ones have the same bars, in the order of the minutes. -/
theorem sortOn_values_firstCopies
    (hsame : ∀ minute, (firstCopies group).get? minute = (firstCopies group').get? minute) :
    sortOn (·.start) (firstCopies group).values = sortOn (·.start) (firstCopies group').values := by
  have hnodup : ∀ group : List Bar, ((firstCopies group).values.map (·.start)).Nodup := by
    intro group
    rw [firstCopies, Dict.map_values_index]
    exact Dict.keys_nodup _
  refine sortOn_eq_of_mem_iff (hnodup group).of_map (hnodup group').of_map ?_ ?_
  · intro bar
    simp only [Dict.mem_values_iff, hsame]
  · intro a ha b hb hab
    exact List.inj_on_of_nodup_map (hnodup group) ha hb hab

omit [Platform] in
/-- The flags of a group are those of its bars, and whether a minute is repeated. -/
theorem mem_groupFlags {flag : QualityFlag} : flag ∈ groupFlags group ↔
    (∃ bar ∈ group, flag ∈ bar.qualityFlags) ∨
      flag = .duplicate ∧ (firstCopies group).size ≠ group.length := by
  have hfold : ∀ (bars : List Bar) (flags : Finset QualityFlag),
      flag ∈ bars.foldl (fun flags bar => flags ∪ bar.qualityFlags) flags ↔
        flag ∈ flags ∨ ∃ bar ∈ bars, flag ∈ bar.qualityFlags := by
    intro bars
    induction bars with
    | nil => simp
    | cons bar rest ih => intro flags; simp [ih, or_assoc]
  rw [groupFlags, Finset.mem_union, hfold]
  by_cases hsize : (firstCopies group).size = group.length <;> simp [hsize]

omit [Platform] in
/-- A group has at least as many copies as minutes. -/
theorem size_firstCopies_le (group : List Bar) : (firstCopies group).size ≤ group.length := by
  rw [firstCopies, Dict.index, Dict.size_ofList]
  refine (List.dedup_sublist _).length_le.trans ?_
  simp

/-- `bar'` repeats what `bar` says: only flags may have come in addition. -/
structure Repeats (bar bar' : Bar) : Prop where
  instrumentId : bar'.instrumentId = bar.instrumentId
  source : bar'.source = bar.source
  start : bar'.start = bar.start
  openPrice : bar'.openPrice = bar.openPrice
  high : bar'.high = bar.high
  low : bar'.low = bar.low
  close : bar'.close = bar.close
  volume : bar'.volume = bar.volume
  receivedAt : bar'.receivedAt = bar.receivedAt
  complete : bar'.complete = bar.complete
  flags : bar.qualityFlags ⊆ bar'.qualityFlags

omit [Platform] in
/-- A complete bucket is reduced to the same bar when later copies have come in. -/
theorem reduceGroup_later {key : BucketKey} {bar : Bar} (hle : cutoff ≤ later)
    (hminutes : Minutes key.start group)
    (hreduce : reduceGroup cutoff key (group.filter (·.availableAt cutoff)) = some bar)
    (hcomplete : bar.complete) :
    ∃ bar', reduceGroup later key group = some bar' ∧ Repeats bar bar' := by
  have hdone : groupComplete cutoff key.start (group.filter (·.availableAt cutoff)) := by
    rw [reduceGroup] at hreduce
    split at hreduce
    · cases hreduce
    · rw [Option.some.injEq] at hreduce
      rw [← hreduce] at hcomplete
      exact hcomplete
  obtain ⟨⟨hkeys, hend⟩, hall⟩ : ((firstCopies (group.filter (·.availableAt cutoff))).keys.toFinset =
      (bucketMinutes key.start).toFinset ∧ key.start + minutesOf 5 ≤ cutoff) ∧
      ∀ bar ∈ (firstCopies (group.filter (·.availableAt cutoff))).values, bar.complete := by
    simpa [groupComplete] using hdone
  have hsame : ∀ minute, (firstCopies group).get? minute =
      (firstCopies (group.filter (·.availableAt cutoff))).get? minute := by
    intro minute
    by_cases hmem : minute ∈ bucketMinutes key.start
    · refine get?_firstCopies_filter hminutes hend ?_
      rw [← Dict.mem_keys_iff, ← List.mem_toFinset, hkeys, List.mem_toFinset]
      exact hmem
    · -- no copy has another start
      have hnone : (group.filter fun bar => bar.start = minute) = [] := by
        refine List.filter_eq_nil_iff.mpr fun bar hbar hstart => hmem ?_
        rw [← of_decide_eq_true hstart]
        exact hminutes.start_mem bar hbar
      rw [get?_firstCopies, get?_firstCopies, List.filter_comm, hnone]
      rfl
  have hkeys' : (firstCopies group).keys.toFinset =
      (firstCopies (group.filter (·.availableAt cutoff))).keys.toFinset := by
    ext minute
    rw [List.mem_toFinset, List.mem_toFinset, Dict.mem_keys_iff, Dict.mem_keys_iff, hsame]
  have hsize : (firstCopies group).size =
      (firstCopies (group.filter (·.availableAt cutoff))).size := by
    rw [← Dict.length_keys, ← Dict.length_keys, ← List.toFinset_card_of_nodup (Dict.keys_nodup _),
      ← List.toFinset_card_of_nodup (Dict.keys_nodup _), hkeys']
  have hdone' : groupComplete later key.start group := by
    have hall' : ∀ bar ∈ (firstCopies group).values, bar.complete := by
      intro bar hbar
      refine hall bar ?_
      rw [Dict.mem_values_iff] at hbar ⊢
      simpa only [hsame] using hbar
    simpa [groupComplete, hkeys', hkeys, hend.trans hle] using hall'
  have hflags : groupFlags (group.filter (·.availableAt cutoff)) ⊆ groupFlags group := by
    intro flag hflag
    rw [mem_groupFlags] at hflag ⊢
    rcases hflag with ⟨bar, hbar, hflag⟩ | ⟨hduplicate, hrepeated⟩
    · exact Or.inl ⟨bar, List.mem_of_mem_filter hbar, hflag⟩
    · refine Or.inr ⟨hduplicate, ?_⟩
      have hfew := size_firstCopies_le (group.filter (·.availableAt cutoff))
      have hmore := List.length_filter_le (·.availableAt cutoff) group
      rw [hsize]
      omega
  have hvalues := sortOn_values_firstCopies hsame
  rw [reduceGroup, ← hvalues] at hreduce
  rw [reduceGroup]
  split at hreduce
  · cases hreduce
  · rename_i first rest hsorted
    rw [Option.some.injEq] at hreduce
    refine ⟨_, rfl, ?_⟩
    rw [← hreduce]
    have hstart : (ofLex (ofLex key).2).2 = key.start := rfl
    constructor <;> try rfl
    · simp only [hstart, hdone, hdone']
    · simpa [hstart, hdone, hdone'] using hflags

end Copies

section Run

variable [DumpText] {before after : List Bar}

omit [DumpText] in
/-- The bars of a bucket at a cutoff are those available then of its later bars. -/
theorem groupOf_extends (hext : Extends cutoff before after) (hle : cutoff ≤ later)
    (key : BucketKey) : groupOf checker (availableBars before cutoff) key =
      (groupOf checker (availableBars after later) key).filter (·.availableAt cutoff) := by
  rw [groupOf, groupOf, List.filter_comm,
    filter_checkedBars (pairwise_availableBars after later), filter_availableBars hle,
    hext.availableBars_eq]

/-- Bars received after a cutoff do not change what is aggregated at it. -/
theorem aggregate_extends (hminute : ∀ bar ∈ after, bar.intervalMinutes = 1)
    (hext : Extends cutoff before after) :
    aggregate checker after cutoff = aggregate checker before cutoff := by
  have hsubset : ∀ bar ∈ before, bar ∈ after := by
    clear hminute
    induction hext with
    | nil => exact fun bar hbar => hbar
    | keep bar _ ih =>
      intro b hb
      rcases List.mem_cons.mp hb with rfl | hb
      · exact List.mem_cons_self
      · exact List.mem_cons_of_mem _ (ih b hb)
    | insert bar _ _ ih =>
      intro b hb
      exact List.mem_cons_of_mem _ (ih b hb)
  have hfilter : (sortOn Bar.receiptKey after).filter (·.availableAt cutoff) =
      (sortOn Bar.receiptKey before).filter (·.availableAt cutoff) := hext.availableBars_eq
  rw [aggregate, aggregate, loop_filter fun bar hbar => hminute bar (mem_sortOn.mp hbar), hfilter,
    ← loop_filter fun bar hbar => hminute bar (hsubset bar (mem_sortOn.mp hbar))]

/-- Canonical bars never repaint. With more bars, all received after the cutoff, the bars
    of the cutoff are the same, and at every later cutoff each complete one is there with the
    same values; the calendar alone can keep the later aggregation from returning. -/
theorem aggregate_never_repaints (hminute : ∀ bar ∈ after, bar.intervalMinutes = 1)
    (hext : Extends cutoff before after) (hle : cutoff ≤ later) :
    aggregate checker after cutoff = aggregate checker before cutoff ∧
    (∀ out out', aggregate checker before cutoff = .ok out →
      aggregate checker after later = .ok out' →
        ∀ bar ∈ out, bar.complete → ∃ bar' ∈ out', Repeats bar bar') ∧
    ((∀ bar ∈ after, bar.availableAt later → checker.Covers bar.start) →
      ∃ out', aggregate checker after later = .ok out') := by
  refine ⟨aggregate_extends hminute hext, ?_, fun hcovers => ⟨_, aggregate_eq hminute hcovers⟩⟩
  intro out out' hout hout' bar hbar hcomplete
  obtain ⟨key, hne, hreduce⟩ := (mem_aggregate hout bar).mp hbar
  have hminutes : Minutes key.start (groupOf checker (availableBars after later) key) := by
    refine minutes_groupOf (fun item hitem => hminute item ?_) key
    exact mem_sortOn.mp (List.mem_of_mem_filter hitem)
  rw [groupOf_extends hext hle] at hne hreduce
  obtain ⟨bar', hreduce', hrepeats⟩ := reduceGroup_later hle hminutes hreduce hcomplete
  refine ⟨bar', (mem_aggregate hout' bar').mpr ⟨key, ?_, hreduce'⟩, hrepeats⟩
  intro hempty
  rw [hempty] at hne
  exact hne rfl

end Run

end Godzilla.MarketData

namespace Godzilla.MarketData.Sample
open Godzilla.Sample

/-- A second copy of a minute comes in after the bucket is over. -/
def openingRepeated : List Bar := bar 2 6 90 :: opening

theorem aggregate_never_repaints_repeated :
    aggregate checker openingRepeated (afterOpen 5) = aggregate checker opening (afterOpen 5) ∧
      ∃ out out', aggregate checker opening (afterOpen 5) = .ok out ∧
        aggregate checker openingRepeated (afterOpen 6) = .ok out' ∧
        (∃ bar ∈ out, bar.complete) ∧
        ∀ bar ∈ out, bar.complete → ∃ bar' ∈ out', Repeats bar bar' := by
  have hext : Extends (afterOpen 5) opening openingRepeated := by
    refine .insert _ (by decide) ?_
    exact .keep _ (.keep _ (.keep _ (.keep _ (.keep _ .nil))))
  have hminute : ∀ bar ∈ openingRepeated, bar.intervalMinutes = 1 := by decide
  have hle : afterOpen 5 ≤ afterOpen 6 := by decide
  obtain ⟨hsame, hrepeats, -⟩ : aggregate checker openingRepeated _ = _ ∧ _ ∧ _ :=
    aggregate_never_repaints hminute hext hle
  refine ⟨hsame, ?_⟩
  have hcomplete : ((aggregate checker opening (afterOpen 5)).toOption.getD []).any
      (·.complete) = true := by decide +kernel
  have hreturns : (aggregate checker openingRepeated (afterOpen 6)).isOk = true := by
    decide +kernel
  cases hout : aggregate checker opening (afterOpen 5) with
  | error e => rw [hout] at hcomplete; cases hcomplete
  | ok out =>
    cases hout' : aggregate checker openingRepeated (afterOpen 6) with
    | error e => rw [hout'] at hreturns; cases hreturns
    | ok out' =>
      rw [hout] at hcomplete
      exact ⟨out, out', rfl, rfl, List.any_eq_true.mp hcomplete, hrepeats out out' hout hout'⟩

end Godzilla.MarketData.Sample
