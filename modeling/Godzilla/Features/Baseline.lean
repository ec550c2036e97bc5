import Godzilla.Features.Names
import Godzilla.MarketData.NseCalendar

/-!
# The baseline of past sessions

`_prior_sessions` consults the most recent confirmed sessions before the date of a
snapshot, complete or not, and the features that compare with the past have a value only
where these very sessions are complete. An older session is never taken in the place of
an incomplete one, and no bar of the day itself enters.
-/

namespace Godzilla.Features
open Godzilla MarketData Misc Events

section Calendar

/-- The dates before a date, the latest first. -/
def datesBefore (days : Nat) (date : Date) : List Date :=
  (List.range days).map fun (i : Nat) => date - 1 - i

/-- The session of a date, if the calendar answers one. -/
def sessionOf (calendar : ExchangeCalendar) (day : Date) : Option Session :=
  match calendar.sessionOn day with
  | .ok found => found
  | .error _ => none

/-- The confirmed sessions before a date, the most recent first, as far as the calendar covers
    the dates without a gap. -/
def confirmedBefore (calendar : ExchangeCalendar) (days : Nat) (date : Date) : List Session :=
  ((datesBefore days date).takeWhile fun day => (calendar.sessionOn day).isOk).filterMap
    (sessionOf calendar)

variable {calendar : ExchangeCalendar}

theorem datesBefore_succ (days : Nat) (date : Date) :
    datesBefore (days + 1) date = (date - 1) :: datesBefore days (date - 1) := by
  rw [datesBefore, List.range_succ_eq_map, List.map_cons, List.map_map, datesBefore]
  congr 1
  · simp
  · refine List.map_congr_left fun i _ => ?_
    simp only [Function.comp_apply, Nat.succ_eq_add_one]
    lia

theorem confirmedBefore_succ (days : Nat) (date : Date) :
    confirmedBefore calendar (days + 1) date =
      match calendar.sessionOn (date - 1) with
      | .error _ => []
      | .ok none => confirmedBefore calendar days (date - 1)
      | .ok (some session) => session :: confirmedBefore calendar days (date - 1) := by
  rw [confirmedBefore, datesBefore_succ, List.takeWhile_cons]
  cases hday : calendar.sessionOn (date - 1) with
  | error message => rfl
  | ok found =>
    have hok : (Except.ok found : Except String (Option Session)).isOk = true := rfl
    rw [if_pos hok, confirmedBefore]
    cases found with
    | none => rw [List.filterMap_cons_none (by rw [sessionOf, hday])]
    | some session => rw [List.filterMap_cons_some (by rw [sessionOf, hday])]

/-- A confirmed session before a date is the session of an earlier one. -/
theorem mem_confirmedBefore {days : Nat} {date : Date} {session : Session}
    (h : session ∈ confirmedBefore calendar days date) :
    ∃ day, day < date ∧ calendar.sessionOn day = .ok (some session) := by
  obtain ⟨day, hday, hsession⟩ := List.mem_filterMap.mp h
  obtain ⟨i, -, rfl⟩ := List.mem_map.mp (List.takeWhile_subset _ hday)
  refine ⟨date - 1 - i, by lia, ?_⟩
  rw [sessionOf] at hsession
  split at hsession
  · next found hfound => rw [hfound, hsession]
  · cases hsession

variable [Platform]

/-- The engine and its calendar share a zone whose offset never changes, and a session is of
    the date it was asked for. -/
structure FixedOffset (calendar : ExchangeCalendar) (timezone : String) (offset : Duration) :
    Prop where
  zone : Platform.zoneInfo timezone = .fixed offset
  session : ∀ day session, calendar.sessionOn day = .ok (some session) →
    session.sessionDate = day ∧ Platform.zoneInfo session.timezone = .fixed offset

/-- An NSE calendar in the zone of the engine. -/
theorem fixedOffset_nse {calendar : NseExchangeCalendar} {offset : Duration}
    (hzone : Platform.zoneInfo calendar.snapshot.timezone = .fixed offset) :
    FixedOffset calendar.toExchangeCalendar calendar.snapshot.timezone offset where
  zone := hzone
  session day session h := by
    obtain ⟨hdate, htimezone⟩ := NseExchangeCalendar.sessionOn_some h
    exact ⟨hdate, htimezone ▸ hzone⟩

variable {timezone : String} {offset : Duration}

omit [Platform] in
theorem localDate_day_before (instant : Instant) :
    (ZoneInfo.fixed offset).localDate (instant - daysOf 1) =
      (ZoneInfo.fixed offset).localDate instant - 1 := by
  have hday : daysOf 1 = 86400000000 := rfl
  change (instant - daysOf 1 + offset) / 86400000000 = (instant + offset) / 86400000000 - 1
  rw [hday]
  lia

/-- The bounds that the search meets on a day are those of its session. -/
theorem sessionBounds_fixed (hfixed : FixedOffset calendar timezone offset) (instant : Instant) :
    sessionBounds calendar instant timezone =
      match calendar.sessionOn ((ZoneInfo.fixed offset).localDate instant) with
      | .error message => .error message
      | .ok none => .ok none
      | .ok (some session) => .ok (some (session.instantAt session.times.openTime,
          session.instantAt session.times.marketClose)) := by
  have hdate : (Platform.zoneInfo timezone).localDate instant =
      (ZoneInfo.fixed offset).localDate instant := by rw [hfixed.zone]
  exact hdate ▸ rfl

/-- A session opens before it closes. -/
theorem open_lt_close {session : Session} (hzone : Platform.zoneInfo session.timezone = .fixed offset) :
    session.instantAt session.times.openTime < session.instantAt session.times.marketClose := by
  obtain ⟨-, hfinal, hflatten, hdeadline, hclose⟩ := session.times.ordered
  simp only [Session.instantAt, hzone, ZoneInfo.combine, ZoneInfo.fixed]
  lia

/-- The session of now opens on the date of now. -/
theorem localDate_opening (hfixed : FixedOffset calendar timezone offset)
    {now opening closing : Instant}
    (h : sessionBounds calendar now timezone = .ok (some (opening, closing))) :
    (ZoneInfo.fixed offset).localDate opening = (ZoneInfo.fixed offset).localDate now := by
  rw [sessionBounds_fixed hfixed] at h
  split at h
  · cases h
  · cases h
  · next session hsession =>
    obtain ⟨hdate, hzone⟩ := hfixed.session _ _ hsession
    obtain ⟨rfl, -⟩ := Prod.mk.inj (Option.some.inj (Except.ok.inj h))
    rw [Session.localDate_of_fixed hzone (le_refl _) (open_lt_close hzone), hdate]

end Calendar

section Sessions

variable {F : Type} [PyFloat F] [Platform]

/-- The bars of a past session of the calendar, or nothing. -/
def pastSeries (F : Type) [PyFloat F] (bars : List Bar) (ref : InstrumentRef) (now : Instant)
    (session : Session) : List Bar :=
  CausalFeatureEngine.pastSession (F := F) bars ref (session.instantAt session.times.openTime)
    (session.instantAt session.times.marketClose) now

/-- The series of the most recent confirmed sessions before a date, the newest last. -/
def baseline (engine : CausalFeatureEngine F) (bars : List Bar) (ref : InstrumentRef)
    (today : Date) (now : Instant) : List (List Bar) :=
  (((confirmedBefore engine.calendar 366 today).take engine.version.baselineSessions).map
    (pastSeries F bars ref now)).reverse

variable {engine : CausalFeatureEngine F} {offset : Duration} {bars : List Bar}
  {ref : InstrumentRef} {now : Instant}

/-- The loop appends the series of the sessions it still wants. -/
theorem priorLoop_eq (hfixed : FixedOffset engine.calendar engine.timezone offset) (days : Nat)
    (day : Instant) (sessions : List (List Bar))
    (hwanted : sessions.length < engine.version.baselineSessions) :
    engine.priorLoop bars ref now days day sessions = sessions ++
      ((confirmedBefore engine.calendar days ((ZoneInfo.fixed offset).localDate day)).take
        (engine.version.baselineSessions - sessions.length)).map (pastSeries F bars ref now) := by
  induction days generalizing day sessions with
  | zero => simp [CausalFeatureEngine.priorLoop, confirmedBefore, datesBefore]
  | succ days ih =>
    rw [CausalFeatureEngine.priorLoop, sessionBounds_fixed hfixed, localDate_day_before,
      confirmedBefore_succ]
    cases hday : engine.calendar.sessionOn ((ZoneInfo.fixed offset).localDate day - 1) with
    | error message => simp
    | ok found =>
      cases found with
      | none =>
        rw [← localDate_day_before]
        exact ih _ _ hwanted
      | some session =>
        obtain ⟨left, hleft⟩ : ∃ left,
            engine.version.baselineSessions - sessions.length = left + 1 :=
          ⟨engine.version.baselineSessions - sessions.length - 1, by omega⟩
        simp only [hleft, List.take_succ_cons, List.map_cons]
        split
        · next hfull =>
          rw [List.length_append, List.length_singleton] at hfull
          obtain rfl : left = 0 := by omega
          rfl
        · next hmore =>
          rw [List.length_append, List.length_singleton] at hmore
          have hrest := ih (day - daysOf 1) (sessions ++ [pastSeries F bars ref now session])
            (by rw [List.length_append, List.length_singleton]; omega)
          rw [List.length_append, List.length_singleton, localDate_day_before] at hrest
          have hcount : engine.version.baselineSessions - (sessions.length + 1) = left := by omega
          rw [hcount, List.append_assoc, List.singleton_append] at hrest
          exact hrest

/-- The search returns the baseline of the date of the open. -/
theorem priorSessions_eq (hfixed : FixedOffset engine.calendar engine.timezone offset)
    (opening : Instant) : engine.priorSessions bars (some ref) opening now =
      baseline engine bars ref ((ZoneInfo.fixed offset).localDate opening) now := by
  rw [CausalFeatureEngine.priorSessions,
    priorLoop_eq hfixed 366 opening [] engine.version.baseline_pos, baseline]
  rfl

/-- The bars follow each other from `start` to `stop` without a gap. -/
structure Tiles (start stop : Instant) (series : List Bar) : Prop where
  opens : series.head?.map (·.start) = some start
  adjacent : series.IsChain fun bar next => next.start = bar.stop
  closes : series.getLast?.map (·.stop) = some stop

/-- The series of a past session is all that session: its usable bars tile it from open to
    close, and the instrument has no other bar in it. -/
structure CompleteSession (F : Type) [PyFloat F] (bars : List Bar) (ref : InstrumentRef)
    (now : Instant) (session : Session) : Prop where
  tiles : Tiles (session.instantAt session.times.openTime)
    (session.instantAt session.times.marketClose) (pastSeries F bars ref now session)
  whole : (pastSeries F bars ref now session).Perm (barsWithin bars ref
    (session.instantAt session.times.openTime) (session.instantAt session.times.marketClose))
  usable : ∀ bar ∈ pastSeries F bars ref now session, Usable F now bar

omit [Platform] in
/-- Five-minute bars that start at the slots of an interval, and end with it, tile it. -/
theorem tiles_of_slots {start stop : Instant} {series : List Bar}
    (hfive : ∀ bar ∈ series, bar.intervalMinutes = 5)
    (hslots : series.map (·.start) = sessionSlots start stop)
    (hlast : series.getLast?.map (·.stop) = some stop) : Tiles start stop series := by
  have hget : ∀ i (hi : i < series.length), series[i].start = start + minutesOf (5 * i) := by
    intro i hi
    have hi' : i < (series.map (·.start)).length := by simpa using hi
    have hmap : (series.map (·.start))[i] = series[i].start := List.getElem_map _
    rw [← hmap]
    simp only [hslots, sessionSlots, List.getElem_map, List.getElem_range]
  refine ⟨?_, ?_, hlast⟩
  · cases series with
    | nil => cases hlast
    | cons first rest =>
      have hfirst := hget 0 (by simp)
      simp only [List.getElem_cons_zero, minutesOf] at hfirst
      simp [hfirst]
  · refine List.isChain_iff_getElem.mpr fun i hi => ?_
    rw [hget (i + 1) hi]
    have hstop := series[i].duration
    rw [hfive _ (List.getElem_mem _), hget i (by omega)] at hstop
    simp only [minutesOf] at hstop ⊢
    lia

/-- A past series is empty or complete. -/
theorem pastSeries_cases (hfive : ∀ bar ∈ bars, bar.intervalMinutes = 5) (session : Session) :
    pastSeries F bars ref now session = [] ∨ CompleteSession F bars ref now session := by
  by_cases hempty : pastSeries F bars ref now session = []
  · exact Or.inl hempty
  refine Or.inr ?_
  have hseries : pastSeries F bars ref now session = (Features.session F bars (some ref)
      (session.instantAt session.times.openTime)
      (session.instantAt session.times.marketClose) now).1 ∧
      (pastSeries F bars ref now session).getLast?.map (·.stop) =
        some (session.instantAt session.times.marketClose) := by
    rw [pastSeries, CausalFeatureEngine.pastSession] at hempty ⊢
    split at hempty
    · next hlast =>
      rw [if_pos hlast]
      refine ⟨rfl, ?_⟩
      cases hget : (Features.session F bars (some ref)
          (session.instantAt session.times.openTime)
          (session.instantAt session.times.marketClose) now).1.getLast? with
      | none => rw [hget] at hlast; cases hlast
      | some last =>
        rw [hget] at hlast
        rw [Option.map_some, of_decide_eq_true hlast]
    · exact absurd rfl hempty
  obtain ⟨heq, hlast⟩ := hseries
  have hgapFree := gapFree_of_session (heq ▸ hempty)
  rw [session_of_gapFree hgapFree] at heq
  have hperm : (pastSeries F bars ref now session).Perm (barsWithin bars ref
      (session.instantAt session.times.openTime) (session.instantAt session.times.marketClose)) := by
    rw [heq]
    exact sortOn_perm _ _
  have hslots : (pastSeries F bars ref now session).map (·.start) = sessionSlots
      (session.instantAt session.times.openTime) (session.instantAt session.times.marketClose) := by
    rw [heq]
    exact map_sortOn_eq hgapFree.one_each (pairwise_sessionSlots.imp le_of_lt)
  have hmem : ∀ bar ∈ pastSeries F bars ref now session, bar ∈ barsWithin bars ref
      (session.instantAt session.times.openTime) (session.instantAt session.times.marketClose) :=
    fun bar hbar => hperm.mem_iff.mp hbar
  exact ⟨tiles_of_slots (fun bar hbar => hfive bar (List.mem_of_mem_filter (hmem bar hbar))) hslots
    hlast, hperm, fun bar hbar => hgapFree.usable bar (hmem bar hbar)⟩

/-- Every bar of the baseline lies on an earlier date. -/
theorem baseline_before (hfive : ∀ bar ∈ bars, bar.intervalMinutes = 5)
    (hfixed : FixedOffset engine.calendar engine.timezone offset) {today : Date}
    {series : List Bar} (hseries : series ∈ baseline engine bars ref today now) {bar : Bar}
    (hbar : bar ∈ series) : (ZoneInfo.fixed offset).localDate bar.start < today := by
  rw [baseline, List.mem_reverse] at hseries
  obtain ⟨session, hsession, rfl⟩ := List.mem_map.mp hseries
  obtain ⟨day, hday, hfound⟩ := mem_confirmedBefore (List.mem_of_mem_take hsession)
  obtain ⟨hdate, hzone⟩ := hfixed.session day session hfound
  rcases pastSeries_cases (F := F) hfive session with hempty | hcomplete
  · rw [hempty] at hbar
    cases hbar
  · have hwithin := of_decide_eq_true (List.mem_filter.mp (hcomplete.whole.mem_iff.mp hbar)).2
    obtain ⟨-, -, hopen, hclose⟩ := hwithin
    have hlt := lt_of_lt_of_le bar.start_lt_stop hclose
    rw [Session.localDate_of_fixed hzone hopen hlt, hdate]
    exact hday

/-- As many sessions were found as the baseline has, and all of them are complete. -/
structure FullBaseline (engine : CausalFeatureEngine F) (bars : List Bar) (ref : InstrumentRef)
    (today : Date) (now : Instant) : Prop where
  found : ((confirmedBefore engine.calendar 366 today).take
    engine.version.baselineSessions).length = engine.version.baselineSessions
  complete : ∀ session ∈ (confirmedBefore engine.calendar 366 today).take
    engine.version.baselineSessions, CompleteSession F bars ref now session

/-- The sessions of a baseline that the features may read. -/
theorem fullBaseline_of_ready (hfive : ∀ bar ∈ bars, bar.intervalMinutes = 5) {today : Date}
    (hlength : (baseline engine bars ref today now).length = engine.version.baselineSessions)
    (hcomplete : ∀ series ∈ baseline engine bars ref today now, series ≠ []) :
    FullBaseline engine bars ref today now := by
  rw [baseline, List.length_reverse, List.length_map] at hlength
  refine ⟨hlength, fun session hsession => ?_⟩
  have hmem : pastSeries F bars ref now session ∈ baseline engine bars ref today now := by
    rw [baseline, List.mem_reverse]
    exact List.mem_map_of_mem hsession
  exact (pastSeries_cases hfive session).resolve_left (hcomplete _ hmem)

end Sessions

section Snapshot

variable {F : Type} [PyFloat F] [PyMath F] [Platform]

/-- The value of a feature in a snapshot. -/
def FeatureSnapshot.valueOf (snapshot : FeatureSnapshot F) (name : String) : Option F :=
  (snapshot.lookup name).bind (·.value)

/-- The bars that a snapshot reads. -/
def CausalFeatureEngine.barsAt (engine : CausalFeatureEngine F) (context : FeatureContext F)
    (now : Instant) : List Bar :=
  (engine.selectEvents context now).filterMap barOf

/-- The current series of an instrument in a snapshot. -/
def CausalFeatureEngine.currentSeries (engine : CausalFeatureEngine F)
    (context : FeatureContext F) (now opening closing : Instant) (ref : Option InstrumentRef) :
    List Bar :=
  (session F (engine.barsAt context now) ref opening
    (CausalFeatureEngine.endpointOf opening closing now) now).1

/-- A value is the mean over all sessions of a full baseline. -/
def IsDailyMean (engine : CausalFeatureEngine F) (bars : List Bar) (ref : InstrumentRef)
    (today : Date) (now : Instant) (amount : Bar → F) (value : F) : Prop :=
  FullBaseline engine bars ref today now ∧
    value = PyFloat.fmean ((baseline engine bars ref today now).map fun series =>
      PyFloat.sum (series.map amount))

/-- A value is the latest bar against the mean of its slot over all sessions of a full
    baseline. -/
def IsSlotRatio (engine : CausalFeatureEngine F) (bars : List Bar) (ref : InstrumentRef)
    (today : Date) (now : Instant) (current : List Bar) (amount : Bar → F) (value : F) : Prop :=
  FullBaseline engine bars ref today now ∧ ∃ last matching, current.getLast? = some last ∧
    List.Forall₂ (fun series bar => series[current.length - 1]? = some bar)
      (baseline engine bars ref today now) matching ∧
    value = amount last / PyFloat.fmean (matching.map amount)

/-- A value is the gap of the first open after the last close of the most recent confirmed
    session, which is complete. -/
def IsOpeningGap (engine : CausalFeatureEngine F) (bars : List Bar) (ref : Option InstrumentRef)
    (today : Date) (now : Instant) (current : List Bar) (value : F) : Prop :=
  ∃ instrument previous last first, ref = some instrument ∧
    (confirmedBefore engine.calendar 366 today).head? = some previous ∧
    CompleteSession F bars instrument now previous ∧
    (pastSeries F bars instrument now previous).getLast? = some last ∧
    current.head? = some first ∧ value = PyFloat.ofDecimal (first.openPrice / last.close - 1)

/-- What the features of a snapshot take from the sessions before its date. -/
structure ComparesWithPast (engine : CausalFeatureEngine F) (context : FeatureContext F)
    (now opening closing : Instant) (today : Date) (snapshot : FeatureSnapshot F) : Prop where
  opening_gap : ∀ name ref, (name, ref) ∈ [("stock", some context.entity),
      ("market", context.nifty), ("sector", context.sector)] →
    ∀ value, snapshot.valueOf (name ++ ".opening_gap") = some value →
      IsOpeningGap engine (engine.barsAt context now) ref today now
        (engine.currentSeries context now opening closing ref) value
  adv : ∀ value, snapshot.valueOf "liquidity.adv" = some value →
    IsDailyMean engine (engine.barsAt context now) context.entity today now barVolume value
  turnover : ∀ value, snapshot.valueOf "liquidity.average_daily_turnover" = some value →
    IsDailyMean engine (engine.barsAt context now) context.entity today now barTurnover value
  relative_volume : ∀ value, snapshot.valueOf "stock.relative_volume" = some value →
    IsSlotRatio engine (engine.barsAt context now) context.entity today now
      (engine.currentSeries context now opening closing context.entity) barVolume value
  relative_turnover : ∀ value, snapshot.valueOf "stock.relative_turnover" = some value →
    IsSlotRatio engine (engine.barsAt context now) context.entity today now
      (engine.currentSeries context now opening closing context.entity) barTurnover value

variable {engine : CausalFeatureEngine F} {context : FeatureContext F} {offset : Duration}
  {now : Instant} {snapshot : FeatureSnapshot F}

omit [PyMath F] in
/-- A snapshot reads five-minute bars only. -/
theorem barsAt_five : ∀ bar ∈ engine.barsAt context now, bar.intervalMinutes = 5 := by
  intro bar hbar
  obtain ⟨event, hevent, hown⟩ := List.mem_filterMap.mp hbar
  have hselected := (List.mem_filter.mp (mem_sortOn.mp hevent)).2
  rw [selectsEvent, Bool.and_eq_true] at hselected
  by_contra hother
  have hnone : observedRef event = none := by
    rw [barOf] at hown
    split at hown
    · next own hpayload =>
      obtain rfl := Option.some.inj hown
      simp only [observedRef, hpayload, if_pos hother]
    · cases hown
  rw [hnone] at hselected
  exact absurd hselected.2 Bool.false_ne_true

/-- A snapshot that is returned consists of the readings of its stages. -/
theorem stages_of_snapshot (h : engine.snapshot context now = .ok snapshot) :
    ∃ opening closing, sessionBounds engine.calendar now engine.timezone =
        .ok (some (opening, closing)) ∧
      ∃ stages : Stages engine context (engine.barsAt context now)
          ((engine.selectEvents context now).filterMap quoteOf) opening
          (CausalFeatureEngine.endpointOf opening closing now) now,
        ∀ reading ∈ stages.readings, ∀ value, snapshot.valueOf reading.name = some value →
          reading.value = some value := by
  obtain ⟨-, h⟩ := guard_ok h
  cases hbounds : sessionBounds engine.calendar now engine.timezone with
  | error message => simp only [hbounds] at h; cases h
  | ok found =>
    cases found with
    | none => simp only [hbounds] at h; cases h
    | some bounds =>
      obtain ⟨opening, closing⟩ := bounds
      simp only [hbounds] at h
      obtain ⟨result, hresult, h⟩ := bind_ok h
      obtain ⟨stages, hstages⟩ := stages_of_features hresult
      refine ⟨opening, closing, rfl, stages, fun reading hreading value hvalue => ?_⟩
      refine value_of_features hstages hreading ?_
      rw [← hvalue, ← Except.ok.inj h, FeatureSnapshot.valueOf, FeatureSnapshot.lookup,
        Values.find?_sorted]
      rfl

omit [PyMath F] in
/-- The baseline is never longer than it should be, so all of it counts. -/
theorem lastN_baseline {bars : List Bar} {ref : InstrumentRef} {today : Date} :
    lastN engine.version.baselineSessions (baseline engine bars ref today now) =
      baseline engine bars ref today now := by
  have hle : (baseline engine bars ref today now).length ≤ engine.version.baselineSessions := by
    rw [baseline, List.length_reverse, List.length_map]
    exact List.length_take_le _ _
  rw [lastN, Nat.sub_eq_zero_of_le hle, List.drop_zero]

omit [PyMath F] in
theorem isDailyMean_of_dailyMean {bars : List Bar} {ref : InstrumentRef} {today : Date}
    (hfive : ∀ bar ∈ bars, bar.intervalMinutes = 5) {amount : Bar → F} {value : F}
    (h : dailyMean engine.version (baseline engine bars ref today now) amount = some value) :
    IsDailyMean engine bars ref today now amount value := by
  rw [dailyMean] at h
  split at h
  · next hready =>
    exact ⟨fullBaseline_of_ready hfive hready.1 hready.2, (Option.some.inj h).symm⟩
  · cases h

omit [PyMath F] in
theorem isSlotRatio_of_slotMean {bars : List Bar} {ref : InstrumentRef} {today : Date}
    (hfive : ∀ bar ∈ bars, bar.intervalMinutes = 5) {current : List Bar} {amount : Bar → F}
    {value : F} (h : (current.getLast?.bind fun last => ratioTo (amount last)
      (slotMean engine.version (baseline engine bars ref today now) current amount)) =
        some value) : IsSlotRatio engine bars ref today now current amount value := by
  obtain ⟨last, hlast, h⟩ := Option.bind_eq_some_iff.mp h
  rw [slotMean] at h
  split at h
  · next henough =>
    obtain ⟨hready, hmatching, hcurrent⟩ := henough
    have hslots : slotBars (baseline engine bars ref today now) current =
        (baseline engine bars ref today now).filterMap
          fun series => series[current.length - 1]? := if_neg hcurrent
    rw [hslots] at hmatching h
    refine ⟨fullBaseline_of_ready hfive hready.1 hready.2, last, _, hlast,
      forall₂_of_filterMap hmatching, ?_⟩
    rw [ratioTo] at h
    split at h
    · cases h
    · exact (Option.some.inj h).symm
  · cases h

omit [PyMath F] in
theorem isOpeningGap_of_openingGap {bars : List Bar} {ref : Option InstrumentRef}
    {opening : Instant} (hfive : ∀ bar ∈ bars, bar.intervalMinutes = 5)
    (hfixed : FixedOffset engine.calendar engine.timezone offset) {current : List Bar} {value : F}
    (h : CausalFeatureEngine.openingGap current (engine.priorSessions bars ref opening now) =
      some value) :
    IsOpeningGap engine bars ref ((ZoneInfo.fixed offset).localDate opening) now current value := by
  rw [CausalFeatureEngine.openingGap] at h
  split at h
  · next first last hfirst hprior =>
    split at h
    · cases h
    cases ref with
    | none => cases hprior
    | some instrument =>
      rw [priorSessions_eq hfixed, baseline, List.getLast?_reverse, List.head?_map] at hprior
      obtain ⟨series, hseries, hlast⟩ := Option.bind_eq_some_iff.mp hprior
      obtain ⟨previous, hprevious, rfl⟩ := Option.map_eq_some_iff.mp hseries
      have hcomplete : CompleteSession F bars instrument now previous :=
        (pastSeries_cases hfive previous).resolve_left
          (fun hempty => by rw [hempty] at hlast; cases hlast)
      have hfirstWanted := engine.version.baseline_pos
      rw [List.head?_take, if_neg (by omega)] at hprevious
      exact ⟨instrument, previous, last, first, rfl, hprevious, hcomplete, hlast, hfirst,
        (Option.some.inj h).symm⟩
  · cases h

/-- The gap of an open is among the readings of its series. -/
theorem gap_mem_priceReadings {name : String} {ref : Option InstrumentRef} {bars : List Bar}
    {opening endpoint : Instant} {readings : List (Reading F)}
    (h : engine.priceReadings name ref bars opening endpoint now = .ok readings) :
    ⟨name ++ ".opening_gap", CausalFeatureEngine.openingGap
      (session F bars ref opening endpoint now).1 (engine.priorSessions bars ref opening now),
      .missingInput⟩ ∈ readings := by
  obtain ⟨features, -, h⟩ := bind_ok h
  obtain rfl := Except.ok.inj h
  exact List.mem_append_right _ (List.mem_singleton_self _)

/-- A snapshot consults the most recent confirmed sessions before its date, complete or not, and
    compares with these only. -/
theorem snapshot_baseline (hfixed : FixedOffset engine.calendar engine.timezone offset)
    (h : engine.snapshot context now = .ok snapshot) :
    ∃ opening closing, sessionBounds engine.calendar now engine.timezone =
        .ok (some (opening, closing)) ∧
      (∀ ref, engine.priorSessions (engine.barsAt context now) (some ref) opening now =
        baseline engine (engine.barsAt context now) ref
          ((Platform.zoneInfo engine.timezone).localDate now) now) ∧
      (∀ ref, ∀ session ∈ (confirmedBefore engine.calendar 366
          ((Platform.zoneInfo engine.timezone).localDate now)).take engine.version.baselineSessions,
        pastSeries F (engine.barsAt context now) ref now session = [] ∨
          CompleteSession F (engine.barsAt context now) ref now session) ∧
      (∀ ref, ∀ series ∈ baseline engine (engine.barsAt context now) ref
          ((Platform.zoneInfo engine.timezone).localDate now) now, ∀ bar ∈ series,
        (Platform.zoneInfo engine.timezone).localDate bar.start <
          (Platform.zoneInfo engine.timezone).localDate now) ∧
      ComparesWithPast engine context now opening closing
        ((Platform.zoneInfo engine.timezone).localDate now) snapshot := by
  obtain ⟨opening, closing, hbounds, stages, hvalues⟩ := stages_of_snapshot h
  have hfive : ∀ bar ∈ engine.barsAt context now, bar.intervalMinutes = 5 := barsAt_five
  have htoday := localDate_opening hfixed hbounds
  have hprior : ∀ ref, engine.priorSessions (engine.barsAt context now) (some ref) opening now =
      baseline engine (engine.barsAt context now) ref ((ZoneInfo.fixed offset).localDate now)
        now := by
    intro ref
    rw [priorSessions_eq hfixed, htoday]
  rw [hfixed.zone]
  refine ⟨opening, closing, hbounds, hprior, fun ref session _ => pastSeries_cases hfive session,
    fun ref series hseries bar hbar => baseline_before hfive hfixed hseries hbar, ?_⟩
  have hbaseline : ∀ reading ∈ baselineReadings engine.version context
      (relevantQuotes ((engine.selectEvents context now).filterMap quoteOf) context.entity
        now).getLast? (engine.currentSeries context now opening closing context.entity)
      (engine.priorSessions (engine.barsAt context now) (some context.entity) opening now) now,
      ∀ value, snapshot.valueOf reading.name = some value → reading.value = some value := by
    intro reading hreading
    refine hvalues reading ?_
    simp only [Stages.readings, List.mem_append]
    exact Or.inr (Or.inl (Or.inr hreading))
  rw [hprior] at hbaseline
  simp only [baselineReadings, lastN_baseline, List.forall_mem_cons] at hbaseline
  obtain ⟨hadv, hturnover, -, -, hvolume, hslot, -⟩ := hbaseline
  refine ⟨fun name ref hname value hvalue => ?_,
    fun value hvalue => isDailyMean_of_dailyMean hfive (hadv value hvalue),
    fun value hvalue => isDailyMean_of_dailyMean hfive (hturnover value hvalue),
    fun value hvalue => isSlotRatio_of_slotMean hfive (hvolume value hvalue),
    fun value hvalue => isSlotRatio_of_slotMean hfive (hslot value hvalue)⟩
  rw [← htoday]
  refine isOpeningGap_of_openingGap hfive hfixed ?_
  have hgap : ⟨name ++ ".opening_gap", CausalFeatureEngine.openingGap
      (engine.currentSeries context now opening closing ref)
      (engine.priorSessions (engine.barsAt context now) ref opening now), .missingInput⟩ ∈
        stages.readings := by
    simp only [List.mem_cons, List.not_mem_nil, or_false, Prod.mk.injEq] at hname
    simp only [Stages.readings, List.mem_append]
    rcases hname with ⟨rfl, rfl⟩ | ⟨rfl, rfl⟩ | ⟨rfl, rfl⟩
    · exact Or.inl (Or.inl (Or.inl (gap_mem_priceReadings stages.stock_eq)))
    · exact Or.inl (Or.inl (Or.inr (gap_mem_priceReadings stages.market_eq)))
    · exact Or.inl (Or.inr (gap_mem_priceReadings stages.sector_eq))
  exact hvalues _ hgap value hvalue

end Snapshot

end Godzilla.Features

namespace Godzilla.Features.Sample
open Godzilla.Sample MarketData Events Misc

/-- The logarithm of a growth by a tenth, to seventeen places. -/
def logGrowth : ℚ := 9531017980432486 / 10 ^ 17

/-- Between the closes of the sample prices grow by a tenth; of so few no root is taken. -/
scoped instance pyMath : PyMath ℚ where
  log x := if x = 11 / 10 then logGrowth else 0
  sqrt x := if x = 1 then 1 else 0

theorem short_in_order : minutesOf 545 < minutesOf 555 ∧ minutesOf 555 < minutesOf 556 ∧
    minutesOf 556 < minutesOf 557 ∧ minutesOf 557 < minutesOf 558 ∧
    minutesOf 558 < minutesOf 565 := by decide

theorem short_within_day : 0 ≤ minutesOf 545 ∧ minutesOf 565 < daysOf 1 := by decide

/-- A calendar with ten minutes of trading on each of two days. -/
def nse : NseExchangeCalendar where
  snapshot :=
    { exchange := "NSE"
      timezone := "Asia/Kolkata"
      effectiveFrom := 0
      effectiveTo := 1
      regularWeekdays := {3, 4}
      regularTimes :=
        { preopenStart := minutesOf 545
          openTime := minutesOf 555
          finalEntryTime := minutesOf 556
          flattenStartTime := minutesOf 557
          hardFlattenDeadline := minutesOf 558
          marketClose := minutesOf 565
          ordered := short_in_order
          within_day := short_within_day } }
  exchange_nse := rfl

/-- The session of the first day. -/
def nseSession : Session where
  sessionDate := 0
  timezone := "Asia/Kolkata"
  times := nse.snapshot.regularTimes

/-- The first five minutes after an instant, at a price. -/
def fiveMinutes (start : Instant) (price : ℚ) : Bar where
  instrumentId := "INFY"
  source := "feed"
  receivedAt := start + minutesOf 5
  start := start
  stop := start + minutesOf 5
  intervalMinutes := 5
  openPrice := price
  high := price
  low := price
  close := price
  volume := 10
  interval_supported := fiveMinutes_supported
  duration := add_sub_cancel_left start (minutesOf 5)

def provenance : Provenance := ⟨"commit", "config", "data", "features"⟩

def closeEvent (number : Nat) (start : Instant) (price : ℚ) : EventEnvelope ℚ where
  eventId := Uuid.ofNat number
  correlationId := Uuid.ofNat number
  occurredAt := start + minutesOf 5
  receivedAt := start + minutesOf 5
  source := "feed"
  provenance := provenance
  payload := .barClose (fiveMinutes start price)
  received_after := le_refl _
  causal_times := ⟨rfl, le_refl _⟩

theorem opening_range_default : 1 ≤ 3 := by decide

theorem atr_default : 2 ≤ 14 := by decide

theorem statistics_default : 2 ≤ 20 := by decide

theorem swing_default : 1 ≤ 2 := by decide

theorem baseline_sessions_default : 1 ≤ 1 := Nat.le_refl 1

theorem spread_window_pos : (0 : ℚ) < 300 := by norm_num

/-- A baseline of one session. -/
def version : FeatureSetVersion ℚ where
  baselineSessions := 1
  quoteStaleSeconds := 3
  spreadWindowSeconds := 300
  openingRange_pos := opening_range_default
  atr_pos := atr_default
  statistics_pos := statistics_default
  baseline_pos := baseline_sessions_default
  swing_pos := swing_default
  quoteStale_pos := quote_age_pos
  spreadWindow_pos := spread_window_pos

/-- The open of a day. -/
def openOf (day : Int) : Instant := daysOf day + minutesOf 225

/-- The engine after a whole session and the first bar of the next. -/
def engine : CausalFeatureEngine ℚ where
  calendar := nse.toExchangeCalendar
  timezone := "Asia/Kolkata"
  version := version
  provenance := provenance
  events := Dict.index (·.eventId) [closeEvent 1 (openOf 0) 100,
    closeEvent 2 (openOf 0 + minutesOf 5) 110, closeEvent 3 (openOf 1) 121]

theorem window_of_context : (0 : Instant) < daysOf 10 := by decide

def context : FeatureContext ℚ where
  entity := ⟨"INFY", "feed"⟩
  universeVersion := "u1"
  knownAt := 0
  validFrom := 0
  validTo := daysOf 10
  window_ordered := window_of_context
  breadth_unique := List.nodup_nil
  sector_unique := List.nodup_nil

theorem snapshot_baseline_gap : ∃ snapshot opening closing,
    engine.snapshot context (openOf 1 + minutesOf 5) = .ok snapshot ∧
      ComparesWithPast engine context (openOf 1 + minutesOf 5) opening closing
        ((Platform.zoneInfo engine.timezone).localDate (openOf 1 + minutesOf 5)) snapshot ∧
      pastSeries ℚ (engine.barsAt context (openOf 1 + minutesOf 5)) context.entity
        (openOf 1 + minutesOf 5) nseSession = [fiveMinutes (openOf 0) 100,
          fiveMinutes (openOf 0 + minutesOf 5) 110] := by
  have hreturns : (engine.snapshot context (openOf 1 + minutesOf 5)).isOk = true := by
    decide +kernel
  cases hsnapshot : engine.snapshot context (openOf 1 + minutesOf 5) with
  | error e => rw [hsnapshot] at hreturns; cases hreturns
  | ok snapshot =>
    obtain ⟨opening, closing, -, -, -, -, hpast⟩ :=
      snapshot_baseline (fixedOffset_nse rfl) hsnapshot
    exact ⟨snapshot, opening, closing, rfl, hpast, by decide +kernel⟩

end Godzilla.Features.Sample
