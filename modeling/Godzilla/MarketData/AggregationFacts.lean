import Godzilla.MarketData.Aggregation

/-!
# What aggregation computes

`aggregate` in closed form: the calendar answers for every available bar or the
call raises, `checkedBars` are the available bars after their checks, and the group of
a bucket is the checked bars that fall into it. The checks of a past cutoff are those
of the later one, since a bar only looks at bars that end before it starts.
-/

namespace Godzilla.MarketData
open Godzilla Misc

theorem Bar.start_le_stop (bar : Bar) : bar.start ≤ bar.stop := by
  have hduration := bar.duration
  rcases bar.interval_supported with h | h <;> rw [h, minutesOf] at hduration <;> lia

theorem receivedAt_le_of_receiptKey_le {a b : Bar} (h : a.receiptKey ≤ b.receiptKey) :
    a.receivedAt ≤ b.receivedAt := by
  rcases Prod.Lex.le_iff.mp h with hlt | heq
  · exact le_of_lt hlt
  · exact le_of_eq heq.1

theorem availableAt_iff {bar : Bar} {cutoff : Instant} :
    bar.availableAt cutoff ↔ bar.stop ≤ cutoff ∧ bar.receivedAt ≤ cutoff := by
  simp [Bar.availableAt]

theorem precedes_iff {item bar : Bar} : item.precedes bar ↔
    item.instrumentId = bar.instrumentId ∧ item.source = bar.source ∧ item.stop ≤ bar.start := by
  simp [Bar.precedes]

namespace BarQualityChecker

variable [Platform] (checker : BarQualityChecker)

/-- The calendar answers for the day of the instant. -/
def Covers (instant : Instant) : Prop := ∃ found, checker.bounds instant = .ok found

/-- The session of an instant, if the calendar answers one. -/
def found (instant : Instant) : Option (Instant × Instant) :=
  match checker.bounds instant with
  | .ok found => found
  | .error _ => none

/-- The bar that `check` returns where the calendar answers. -/
def checked (bar : Bar) (previous : Option Bar) : Bar :=
  { bar with
    qualityFlags := bar.qualityFlags ∪ priceFlags bar ∪ placeFlags bar (checker.found bar.start) ∪
      timeFlags bar ∪ checker.changeFlags bar previous }

/-- The bucket of a checked bar, if it has one. -/
def bucketKey (bar : Bar) : Option BucketKey :=
  match checker.found bar.start with
  | none => none
  | some (opening, _) =>
    if bar.outOfBuckets then none
    else some (toLex (bar.instrumentId, toLex (bar.source, bar.bucketFrom opening)))

variable {checker}

theorem availableAt_checked (bar : Bar) (previous : Option Bar) (cutoff : Instant) :
    (checker.checked bar previous).availableAt cutoff = bar.availableAt cutoff := rfl

theorem bounds_eq (h : checker.Covers instant) :
    checker.bounds instant = .ok (checker.found instant) := by
  obtain ⟨found, hfound⟩ := h
  rw [BarQualityChecker.found, hfound]

theorem check_eq {bar : Bar} (h : checker.Covers bar.start) (previous : Option Bar) :
    checker.check bar previous = .ok (checker.checked bar previous) := by
  rw [check, bounds_eq h]
  rfl

theorem covers_of_check {bar checked : Bar} {previous : Option Bar}
    (h : checker.check bar previous = .ok checked) : checker.Covers bar.start := by
  cases hbounds : checker.bounds bar.start with
  | ok found => exact ⟨found, hbounds⟩
  | error e => simp [check, hbounds, bind, Except.bind] at h

end BarQualityChecker

section Loop

variable [Platform] {checker : BarQualityChecker} {cutoff : Instant}

/-- One iteration for an available bar where the calendar answers. -/
def Aggregation.next (checker : BarQualityChecker) (state : Aggregation) (bar : Bar) :
    Aggregation :=
  let checked := checker.checked bar (predecessor state.available bar)
  { available := state.available ++ [checked]
    groups := match checker.bucketKey checked with
      | none => state.groups
      | some key => state.groups.insert key ((state.groups.get? key).getD [] ++ [checked]) }

theorem step_of_available {state : Aggregation} {bar : Bar} (hminute : bar.intervalMinutes = 1)
    (havailable : bar.availableAt cutoff) (hcovers : checker.Covers bar.start) :
    state.step checker cutoff bar = .ok (state.next checker bar) := by
  rw [Aggregation.step, if_neg (by simp [hminute]), if_neg (by simp [havailable]),
    BarQualityChecker.check_eq hcovers, BarQualityChecker.bounds_eq hcovers]
  simp only [bind, Except.bind, Aggregation.next, BarQualityChecker.bucketKey]
  have hstart : (checker.checked bar (predecessor state.available bar)).start = bar.start := rfl
  rw [hstart]
  cases checker.found bar.start with
  | none => rfl
  | some found =>
    by_cases hout : (checker.checked bar (predecessor state.available bar)).outOfBuckets
    · simp only [if_pos hout]
    · simp only [if_neg hout]
      rfl

theorem step_of_unavailable {state : Aggregation} {bar : Bar} (hminute : bar.intervalMinutes = 1)
    (havailable : bar.availableAt cutoff = false) : state.step checker cutoff bar = .ok state := by
  rw [Aggregation.step, if_neg (by simp [hminute]), if_pos (by simp [havailable])]

/-- The loop over one-minute bars whose available ones the calendar covers. -/
theorem loop_eq {bars : List Bar} (hminute : ∀ bar ∈ bars, bar.intervalMinutes = 1)
    (hcovers : ∀ bar ∈ bars, bar.availableAt cutoff → checker.Covers bar.start)
    (state : Aggregation) : bars.foldlM (Aggregation.step checker cutoff) state =
      .ok ((bars.filter (·.availableAt cutoff)).foldl (Aggregation.next checker) state) := by
  induction bars generalizing state with
  | nil => rfl
  | cons bar rest ih =>
    have hrest := ih (fun b hb => hminute b (List.mem_cons_of_mem _ hb))
      (fun b hb => hcovers b (List.mem_cons_of_mem _ hb))
    have hbar := hminute bar List.mem_cons_self
    rw [List.foldlM_cons, List.filter_cons]
    by_cases havailable : bar.availableAt cutoff
    · rw [step_of_available hbar havailable (hcovers bar List.mem_cons_self havailable),
        if_pos havailable, List.foldl_cons]
      exact hrest _
    · rw [step_of_unavailable hbar (by simpa using havailable), if_neg havailable]
      exact hrest _

/-- The loop passes over bars that are not available. -/
theorem loop_filter {bars : List Bar} (hminute : ∀ bar ∈ bars, bar.intervalMinutes = 1)
    (state : Aggregation) : bars.foldlM (Aggregation.step checker cutoff) state =
      (bars.filter (·.availableAt cutoff)).foldlM (Aggregation.step checker cutoff) state := by
  induction bars generalizing state with
  | nil => rfl
  | cons bar rest ih =>
    have hrest := ih fun b hb => hminute b (List.mem_cons_of_mem _ hb)
    rw [List.foldlM_cons, List.filter_cons]
    by_cases havailable : bar.availableAt cutoff
    · rw [if_pos havailable, List.foldlM_cons]
      exact bind_congr hrest
    · rw [step_of_unavailable (hminute bar List.mem_cons_self) (by simpa using havailable),
        if_neg havailable]
      exact hrest state

/-- A loop that returns has met one-minute bars only, and a calendar that covers the available
    ones. -/
theorem covers_of_loop {bars : List Bar} {state result : Aggregation}
    (h : bars.foldlM (Aggregation.step checker cutoff) state = .ok result) :
    ∀ bar ∈ bars, bar.intervalMinutes = 1 ∧
      (bar.availableAt cutoff → checker.Covers bar.start) := by
  induction bars generalizing state with
  | nil => intro bar hbar; cases hbar
  | cons bar rest ih =>
    rw [List.foldlM_cons] at h
    cases hstep : state.step checker cutoff bar with
    | error e => simp [hstep, bind, Except.bind] at h
    | ok next =>
      simp only [hstep, bind, Except.bind] at h
      intro b hb
      rcases List.mem_cons.mp hb with rfl | hb
      · rw [Aggregation.step] at hstep
        split at hstep
        · cases hstep
        rename_i hminute
        refine ⟨not_not.mp hminute, fun havailable => ?_⟩
        rw [if_neg (by simp [havailable])] at hstep
        cases hcheck : checker.check b (predecessor state.available b) with
        | error e => simp [hcheck, bind, Except.bind] at hstep
        | ok checked => exact BarQualityChecker.covers_of_check hcheck
      · exact ih h b hb

/-- The available bars after their checks. -/
def checkedBars (checker : BarQualityChecker) (bars : List Bar) : List Bar :=
  bars.foldl (fun items bar => items ++ [checker.checked bar (predecessor items bar)]) []

@[simp] theorem checkedBars_nil : checkedBars checker [] = [] := rfl

@[simp] theorem checkedBars_concat (bars : List Bar) (bar : Bar) :
    checkedBars checker (bars ++ [bar]) =
      checkedBars checker bars ++
        [checker.checked bar (predecessor (checkedBars checker bars) bar)] := by
  rw [checkedBars, List.foldl_append]
  rfl

/-- A checked bar is the check of one of the bars. -/
theorem mem_checkedBars {bars : List Bar} {item : Bar} (h : item ∈ checkedBars checker bars) :
    ∃ bar ∈ bars, ∃ previous, item = checker.checked bar previous := by
  induction bars using List.reverseRecOn with
  | nil => cases h
  | append_singleton bars bar ih =>
    rw [checkedBars_concat] at h
    rcases List.mem_append.mp h with h | h
    · obtain ⟨original, horiginal, previous, heq⟩ := ih h
      exact ⟨original, List.mem_append_left _ horiginal, previous, heq⟩
    · exact ⟨bar, by simp, _, List.mem_singleton.mp h⟩

/-- The checked bars of a bucket, in the order of the loop. -/
def groupOf (checker : BarQualityChecker) (bars : List Bar) (key : BucketKey) : List Bar :=
  (checkedBars checker bars).filter fun bar => checker.bucketKey bar = some key

/-- The state of the loop: the checked bars, and the groups of the buckets that have one. -/
theorem foldl_next (bars : List Bar) :
    (bars.foldl (Aggregation.next checker) {}).available = checkedBars checker bars ∧
      ∀ key, (bars.foldl (Aggregation.next checker) {}).groups.get? key =
        if groupOf checker bars key = [] then none else some (groupOf checker bars key) := by
  induction bars using List.reverseRecOn with
  | nil => exact ⟨rfl, fun key => rfl⟩
  | append_singleton bars bar ih =>
    obtain ⟨havailable, hgroups⟩ := ih
    rw [List.foldl_append, List.foldl_cons, List.foldl_nil]
    generalize bars.foldl (Aggregation.next checker) {} = state at havailable hgroups
    have hconcat : ∀ key, groupOf checker (bars ++ [bar]) key = groupOf checker bars key ++
        if checker.bucketKey (checker.checked bar (predecessor (checkedBars checker bars) bar)) =
          some key then [checker.checked bar (predecessor (checkedBars checker bars) bar)]
        else [] := by
      intro key
      rw [groupOf, checkedBars_concat, List.filter_append, ← groupOf]
      split <;> simp [*]
    refine ⟨by simp [Aggregation.next, havailable], fun key => ?_⟩
    simp only [hconcat, Aggregation.next, havailable]
    generalize checker.checked bar (predecessor (checkedBars checker bars) bar) = checked
    cases hkey : checker.bucketKey checked with
    | none => simpa using hgroups key
    | some own =>
      simp only [Dict.get?_insert, hgroups own, Option.some.injEq]
      by_cases heq : key = own
      · subst heq
        by_cases hempty : groupOf checker bars key = [] <;> simp [hempty]
      · simpa [heq, Ne.symm heq] using hgroups key

end Loop

section Result

variable [Platform] [DumpText] {checker : BarQualityChecker} {bars out : List Bar}
  {asOf : Instant}

/-- The available bars in the order of the loop. -/
def availableBars (bars : List Bar) (cutoff : Instant) : List Bar :=
  (sortOn Bar.receiptKey bars).filter (·.availableAt cutoff)

/-- One-minute bars whose available ones the calendar covers are aggregated. -/
theorem aggregate_eq (hminute : ∀ bar ∈ bars, bar.intervalMinutes = 1)
    (hcovers : ∀ bar ∈ bars, bar.availableAt asOf → checker.Covers bar.start) :
    aggregate checker bars asOf =
      .ok ((sortOn Prod.fst ((availableBars bars asOf).foldl (Aggregation.next checker)
        {}).groups.entries).filterMap fun entry => reduceGroup asOf entry.1 entry.2) := by
  rw [aggregate, loop_eq (fun bar hbar => hminute bar (mem_sortOn.mp hbar))
    fun bar hbar => hcovers bar (mem_sortOn.mp hbar)]
  rfl

/-- An aggregation that returns has met one-minute bars only, and a calendar that covers the
    available ones. -/
theorem covers_of_aggregate (h : aggregate checker bars asOf = .ok out) :
    ∀ bar ∈ bars, bar.intervalMinutes = 1 ∧
      (bar.availableAt asOf → checker.Covers bar.start) := by
  cases hloop : (sortOn Bar.receiptKey bars).foldlM (Aggregation.step checker asOf) {} with
  | error e => simp [aggregate, hloop, bind, Except.bind] at h
  | ok state => exact fun bar hbar => covers_of_loop hloop bar (mem_sortOn.mpr hbar)

/-- The bars of the result are the reductions of the nonempty groups. -/
theorem mem_aggregate (h : aggregate checker bars asOf = .ok out) (bar : Bar) :
    bar ∈ out ↔ ∃ key, groupOf checker (availableBars bars asOf) key ≠ [] ∧
      reduceGroup asOf key (groupOf checker (availableBars bars asOf) key) = some bar := by
  have hcovers := covers_of_aggregate h
  rw [aggregate_eq (fun b hb => (hcovers b hb).1) fun b hb => (hcovers b hb).2,
    Except.ok.injEq] at h
  rw [← h, List.mem_filterMap]
  constructor
  · rintro ⟨⟨key, group⟩, hmem, hreduce⟩
    rw [mem_sortOn, Dict.mem_entries_iff, (foldl_next _).2 key] at hmem
    split at hmem
    · cases hmem
    rename_i hne
    obtain rfl := Option.some.inj hmem
    exact ⟨key, hne, hreduce⟩
  · rintro ⟨key, hne, hreduce⟩
    refine ⟨(key, groupOf checker (availableBars bars asOf) key), ?_, hreduce⟩
    rw [mem_sortOn, Dict.mem_entries_iff, (foldl_next _).2 key, if_neg hne]

end Result

end Godzilla.MarketData
