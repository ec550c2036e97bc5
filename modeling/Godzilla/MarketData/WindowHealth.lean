import Godzilla.Core.Health
import Godzilla.MarketData.FailedHistory
import Godzilla.MarketData.NseCalendar

/-!
# Windows without a hole

`window_health` (`market_data/service.py:93-117`) asks for the minutes of a window on the
grid of its start, and on the local date of each. A healthy window has every minute of
its sessions if these minutes are on that grid and that date, and were over when the clock was
first read.
-/

namespace Godzilla.MarketData
open Godzilla Misc

variable [Platform]

/-- The bars of an instrument and source that start in a window
    (`market_data/service.py:97-103`). -/
def MarketDataService.windowBars (service : MarketDataService) (instrument source : String)
    (start stop : Instant) : List Bar :=
  service.bars.filter fun bar =>
    bar.instrumentId = instrument ∧ bar.source = source ∧ start ≤ bar.start ∧ bar.start < stop

/-- `window_health` (`market_data/service.py:93-117`): `asOf`, `now` and `observed` are its
    three readings of the clock. -/
def MarketDataService.windowHealth (service : MarketDataService) (asOf now observed : Instant)
    (instrument source : String) (start stop : Instant) : Except PyError ComponentHealth := do
  let bars := service.windowBars instrument source start stop
  let missing ← service.checker.missingIntervals bars start stop asOf
  let bad := bars.any fun bar => bar.qualityFlags ≠ ∅
  let ready := decide (stop ≤ now) && !bars.isEmpty && missing.isEmpty && !bad
  .ok
    { component := "bars:" ++ instrument ++ ":" ++ source
      observedAt := observed
      status := if ready then .healthy else .unhealthy
      blocking := true
      message := if ready then "validated window" else "incomplete or invalid window" }

namespace BarQualityChecker

variable (checker : BarQualityChecker)

/-- `missing_intervals` asks for the minute from `cursor` (`market_data/quality.py:104-109`). -/
def Expected (cursor : Instant) : Prop :=
  ∃ opening closing, checker.bounds cursor = .ok (some (opening, closing)) ∧ opening ≤ cursor ∧
    cursor + minutesOf 1 ≤ closing ∧ (cursor - opening) % secondsOf 60 = 0

variable {checker} {present : List Instant}

/-- The loop reports every minute it asks for that is not present. -/
theorem mem_missingFrom {minutes : Nat} {cursor : Instant} {missing : List Instant}
    (h : checker.missingFrom present minutes cursor = .ok missing) (i : Nat) (hi : i < minutes)
    (hexpected : checker.Expected (cursor + minutesOf i)) :
    cursor + minutesOf i ∈ present ∨ cursor + minutesOf i ∈ missing := by
  induction minutes generalizing cursor missing i with
  | zero => omega
  | succ minutes ih =>
    rw [missingFrom] at h
    cases hfound : checker.bounds cursor with
    | error e => rw [hfound] at h; cases h
    | ok found =>
      cases hlater : checker.missingFrom present minutes (cursor + minutesOf 1) with
      | error e => rw [hfound, hlater] at h; cases h
      | ok later =>
        simp only [hfound, hlater, bind, Except.bind] at h
        cases i with
        | zero =>
          -- the minute from the cursor itself
          have hself : cursor + minutesOf (0 : Nat) = cursor := by simp [minutesOf]
          rw [hself] at hexpected ⊢
          obtain ⟨opening, closing, hbounds, hopen, hclose, hgrid⟩ := hexpected
          obtain rfl := Except.ok.inj (hfound.symm.trans hbounds)
          by_cases hpresent : cursor ∈ present
          · exact Or.inl hpresent
          · simp only [hopen, hclose, hgrid, hpresent, not_false_eq_true, and_self, if_true] at h
            obtain rfl := Except.ok.inj h
            exact Or.inr List.mem_cons_self
        | succ i =>
          have hnext : cursor + minutesOf (i + 1 : Nat) = cursor + minutesOf 1 + minutesOf i := by
            simp only [minutesOf]
            lia
          rw [hnext] at hexpected ⊢
          refine (ih hlater i (by omega) hexpected).imp_right fun hmem => ?_
          have hsubset : later ⊆ missing := by
            split at h
            · exact (Except.ok.inj h) ▸ List.Subset.refl _
            · split at h
              · exact (Except.ok.inj h) ▸ List.subset_cons_self _ _
              · exact (Except.ok.inj h) ▸ List.Subset.refl _
          exact hsubset hmem

/-- `missing_intervals` starts on a minute. -/
theorem start_aligned {bars : List Bar} {start stop asOf : Instant} {missing : List Instant}
    (h : checker.missingIntervals bars start stop asOf = .ok missing) :
    start % minutesOf 1 = 0 := by
  rw [missingIntervals] at h
  split at h
  · cases h
  · next hwindow =>
    by_contra hne
    exact hwindow (Or.inr hne)

/-- `missing_intervals` reports every minute of the window it asks for that no complete bar
    available at the cutoff starts. -/
theorem mem_missingIntervals {bars : List Bar} {start stop asOf slot : Instant}
    {missing : List Instant} (h : checker.missingIntervals bars start stop asOf = .ok missing)
    (hgrid : (slot - start) % minutesOf 1 = 0) (hstart : start ≤ slot)
    (hstop : slot + minutesOf 1 ≤ min stop asOf) (hexpected : checker.Expected slot) :
    (∃ bar ∈ bars, bar.start = slot ∧ bar.intervalMinutes = 1 ∧ bar.complete) ∨
      slot ∈ missing := by
  rw [missingIntervals] at h
  split at h
  · cases h
  split at h
  · cases h
  obtain ⟨i, hi⟩ : ∃ i : Nat, slot = start + minutesOf i := by
    refine ⟨((slot - start) / minutesOf 1).toNat, ?_⟩
    simp only [minutesOf] at hgrid ⊢
    lia
  subst hi
  refine (mem_missingFrom h i ?_ hexpected).imp_left fun hpresent => ?_
  · simp only [minutesOf] at hstop ⊢
    lia
  · obtain ⟨bar, hbar, hslot⟩ := List.mem_map.mp hpresent
    obtain ⟨hmem, hkept⟩ := List.mem_filter.mp hbar
    obtain ⟨hminute, hcomplete, -⟩ := of_decide_eq_true hkept
    exact ⟨bar, hmem, hslot, hminute, hcomplete⟩

end BarQualityChecker

/-- A minute of the window in the confirmed session of a day, counted from its open. -/
structure IsSlot (calendar : ExchangeCalendar) (start stop : Instant) (day : Date)
    (slot : Instant) : Prop where
  in_session : ∃ session, calendar.sessionOn day = .ok (some session) ∧
    (∃ k : Nat, slot = session.instantAt session.times.openTime + minutesOf k) ∧
    slot + minutesOf 1 ≤ session.instantAt session.times.marketClose
  start_le : start ≤ slot
  le_stop : slot + minutesOf 1 ≤ stop

/-- The audit of a window asks for all of its minutes: they are over at the cutoff, and lie on
    the grid of its start and on their own date in the zone of the checker. -/
def AsksAll (checker : BarQualityChecker) (start stop asOf : Instant) : Prop :=
  ∀ day slot, IsSlot checker.calendar start stop day slot →
    slot + minutesOf 1 ≤ asOf ∧ (slot - start) % minutesOf 1 = 0 ∧
      (Platform.zoneInfo checker.timezone).localDate slot = day

/-- The window is over, every minute of it has a complete bar, and no bar of it has a flag. -/
structure NoHole (service : MarketDataService) (now : Instant) (instrument source : String)
    (start stop : Instant) : Prop where
  past : stop ≤ now
  covered : ∀ day slot, IsSlot service.checker.calendar start stop day slot →
    ∃ bar ∈ service.bars, bar.instrumentId = instrument ∧ bar.source = source ∧
      bar.start = slot ∧ bar.intervalMinutes = 1 ∧ bar.complete
  clear : ∀ bar ∈ service.bars, bar.instrumentId = instrument → bar.source = source →
    start ≤ bar.start → bar.start < stop → bar.qualityFlags = ∅

/-- A slot on its own date is a minute that `missing_intervals` asks for. -/
theorem IsSlot.expected {checker : BarQualityChecker} {start stop slot : Instant} {day : Date}
    (h : IsSlot checker.calendar start stop day slot)
    (hday : (Platform.zoneInfo checker.timezone).localDate slot = day) :
    checker.Expected slot := by
  obtain ⟨session, hsession, ⟨k, rfl⟩, hclose⟩ := h.in_session
  refine ⟨session.instantAt session.times.openTime, session.instantAt session.times.marketClose,
    ?_, ?_, hclose, ?_⟩
  · rw [BarQualityChecker.bounds, sessionBounds, hday, hsession]
  · simp only [minutesOf]
    lia
  · simp only [minutesOf, secondsOf]
    lia

/-- What a healthy window says. -/
theorem windowHealth_healthy {service : MarketDataService} {asOf now observed start stop : Instant}
    {instrument source : String} {health : ComponentHealth}
    (h : service.windowHealth asOf now observed instrument source start stop = .ok health)
    (hhealthy : health.status = .healthy) :
    stop ≤ now ∧
      service.checker.missingIntervals (service.windowBars instrument source start stop) start stop
        asOf = .ok [] ∧
      ∀ bar ∈ service.bars, bar.instrumentId = instrument → bar.source = source →
        start ≤ bar.start → bar.start < stop → bar.qualityFlags = ∅ := by
  rw [MarketDataService.windowHealth] at h
  cases hmissing : service.checker.missingIntervals
      (service.windowBars instrument source start stop) start stop asOf with
  | error e =>
    simp only [hmissing, bind, Except.bind] at h
    cases h
  | ok missing =>
    simp only [hmissing, bind, Except.bind] at h
    rw [← Except.ok.inj h] at hhealthy
    dsimp only at hhealthy
    split at hhealthy
    · next hready =>
      simp only [Bool.and_eq_true, decide_eq_true_eq, List.isEmpty_iff, Bool.not_eq_true',
        List.any_eq_false, not_not] at hready
      obtain ⟨⟨⟨hover, -⟩, rfl⟩, hclear⟩ := hready
      refine ⟨hover, rfl, fun bar hbar hinstrument hsource hstart hstop => hclear bar ?_⟩
      exact List.mem_filter.mpr ⟨hbar, decide_eq_true ⟨hinstrument, hsource, hstart, hstop⟩⟩
    · cases hhealthy

/-- A healthy window has no hole in any state that a run reaches, if the audit asks for all of
    its minutes; that of a window that is not over, or that does not start on a minute, need
    not. -/
theorem windowHealth_noHole [DumpText] (checker : BarQualityChecker)
    (freshness : QuoteFreshnessTracker) (run : List Operation)
    {asOf now observed start stop : Instant} {instrument source : String}
    {health : ComponentHealth}
    (hasks : start % minutesOf 1 = 0 → stop ≤ now → AsksAll checker start stop asOf)
    (h : (serviceAfter (.fresh checker freshness) run).windowHealth asOf now observed instrument
      source start stop = .ok health) (hhealthy : health.status = .healthy) :
    NoHole (serviceAfter (.fresh checker freshness) run) now instrument source start stop := by
  have hchecker : (serviceAfter (.fresh checker freshness) run).checker = checker :=
    serviceAfter_checker _ run
  generalize serviceAfter (.fresh checker freshness) run = service at *
  subst hchecker
  obtain ⟨hover, hmissing, hclear⟩ := windowHealth_healthy h hhealthy
  refine ⟨hover, fun day slot hslot => ?_, hclear⟩
  obtain ⟨hasOf, hgrid, hday⟩ :=
    hasks (BarQualityChecker.start_aligned hmissing) hover day slot hslot
  have hreported := BarQualityChecker.mem_missingIntervals hmissing hgrid hslot.start_le
    (le_min hslot.le_stop hasOf) (hslot.expected hday)
  rcases hreported with ⟨bar, hbar, hstart, hminute, hcomplete⟩ | hreported
  · obtain ⟨hmem, hown⟩ := List.mem_filter.mp hbar
    obtain ⟨hinstrument, hsource, -⟩ := of_decide_eq_true hown
    exact ⟨bar, hmem, hinstrument, hsource, hstart, hminute, hcomplete⟩
  · cases hreported

/-- Once a window is over the audit asks for all of its minutes in an NSE calendar in the zone
    of the checker, one without changes of its offset, if the sessions open on its grid. -/
theorem asksAll_nse {calendar : NseExchangeCalendar} {checker : BarQualityChecker}
    {offset : Duration} {start stop asOf : Instant} (hover : stop ≤ asOf)
    (hcalendar : checker.calendar = calendar.toExchangeCalendar)
    (htimezone : checker.timezone = calendar.snapshot.timezone)
    (hzone : Platform.zoneInfo calendar.snapshot.timezone = .fixed offset)
    (hgrid : ∀ day session, calendar.sessionOn day = .ok (some session) →
      (session.instantAt session.times.openTime - start) % minutesOf 1 = 0) :
    AsksAll checker start stop asOf := by
  intro day slot hslot
  refine ⟨hslot.le_stop.trans hover, ?_⟩
  rw [hcalendar] at hslot
  obtain ⟨session, hsession, ⟨k, rfl⟩, hclose⟩ := hslot.in_session
  obtain ⟨hdate, hown⟩ := NseExchangeCalendar.sessionOn_some hsession
  constructor
  · have hopen := hgrid day session hsession
    simp only [minutesOf] at hopen ⊢
    lia
  · rw [htimezone, hzone, ← hdate]
    refine Session.localDate_of_fixed (hown ▸ hzone) ?_ ?_
    · simp only [minutesOf]
      lia
    · simp only [minutesOf] at hclose ⊢
      lia

end Godzilla.MarketData

namespace Godzilla.MarketData.Sample
open Godzilla.Sample

theorem opens_in_order (seconds : Fin 60) :
    minutesOf 545 < minutesOf 555 + secondsOf seconds ∧
      minutesOf 555 + secondsOf seconds < minutesOf 870 ∧ minutesOf 870 < minutesOf 900 ∧
      minutesOf 900 < minutesOf 915 ∧ minutesOf 915 < minutesOf 930 := by
  have hlt := seconds.isLt
  simp only [minutesOf, secondsOf]
  lia

theorem closes_within_day : 0 ≤ minutesOf 545 ∧ minutesOf 930 < daysOf 1 := by decide

/-- The times of a session that opens some seconds after 09:15. -/
def timesFrom (seconds : Fin 60) : SessionTimes where
  preopenStart := minutesOf 545
  openTime := minutesOf 555 + secondsOf seconds
  finalEntryTime := minutesOf 870
  flattenStartTime := minutesOf 900
  hardFlattenDeadline := minutesOf 915
  marketClose := minutesOf 930
  ordered := opens_in_order seconds
  within_day := closes_within_day

/-- The calendar of day 0, a Thursday, with a session from then. -/
def nseFrom (seconds : Fin 60) : NseExchangeCalendar where
  snapshot :=
    { exchange := "NSE"
      timezone := "Asia/Kolkata"
      effectiveFrom := 0
      effectiveTo := 0
      regularWeekdays := {3}
      regularTimes := timesFrom seconds }
  exchange_nse := rfl

/-- The one session of that calendar. -/
def sessionFrom (seconds : Fin 60) : Session where
  sessionDate := 0
  timezone := "Asia/Kolkata"
  times := timesFrom seconds

theorem sessionOn_nseFrom {seconds : Fin 60} {day : Date} {session : Session}
    (h : (nseFrom seconds).sessionOn day = .ok (some session)) :
    day = 0 ∧ session = sessionFrom seconds := by
  by_cases hday : day = 0
  · subst hday
    have hzero : (nseFrom seconds).sessionOn 0 = .ok (some (sessionFrom seconds)) := rfl
    exact ⟨rfl, (Option.some.inj (Except.ok.inj (hzero.symm.trans h))).symm⟩
  · have huncovered : ¬ ((nseFrom seconds).snapshot.effectiveFrom ≤ day ∧
        day ≤ (nseFrom seconds).snapshot.effectiveTo) := by
      show ¬ (0 ≤ day ∧ day ≤ 0)
      lia
    rw [NseExchangeCalendar.sessionOn, if_pos huncovered] at h
    cases h

def checkerFrom (seconds : Fin 60) : BarQualityChecker :=
  { checker with calendar := (nseFrom seconds).toExchangeCalendar }

/-- The five minutes of `opening` are ingested one after the other. -/
def openingRun : List Operation :=
  opening.map fun bar => .ingestBar bar.receivedAt bar

theorem windowHealth_noHole_opening :
    NoHole (serviceAfter (.fresh (checkerFrom 0) tracker) openingRun) (afterOpen 5) "INFY" "feed"
      (afterOpen 0) (afterOpen 5) := by
  have hasks : AsksAll (checkerFrom 0) (afterOpen 0) (afterOpen 5) (afterOpen 5) := by
    have hgrid : ∀ day session, (nseFrom 0).sessionOn day = .ok (some session) →
        (session.instantAt session.times.openTime - afterOpen 0) % minutesOf 1 = 0 := by
      intro day session hsession
      rw [(sessionOn_nseFrom hsession).2]
      decide
    exact asksAll_nse (le_refl _) rfl rfl rfl hgrid
  have hstatus : ((serviceAfter (.fresh (checkerFrom 0) tracker) openingRun).windowHealth
      (afterOpen 5) (afterOpen 5) (afterOpen 5) "INFY" "feed" (afterOpen 0)
      (afterOpen 5)).toOption.map (·.status) = some .healthy := by decide +kernel
  cases hhealth : (serviceAfter (.fresh (checkerFrom 0) tracker) openingRun).windowHealth
      (afterOpen 5) (afterOpen 5) (afterOpen 5) "INFY" "feed" (afterOpen 0) (afterOpen 5) with
  | error e => rw [hhealth] at hstatus; cases hstatus
  | ok health =>
    rw [hhealth] at hstatus
    exact windowHealth_noHole (checkerFrom 0) tracker openingRun (fun _ _ => hasks) hhealth
      (Option.some.inj hstatus)

theorem halfPast_duration :
    afterOpen 0 + secondsOf 30 + minutesOf 1 - (afterOpen 0 + secondsOf 30) = minutesOf 1 :=
  add_sub_cancel_left _ _

/-- A bar of the first minute of a session that opens half a minute after 09:15. -/
def halfPast : Bar where
  instrumentId := "INFY"
  source := "feed"
  receivedAt := afterOpen 2
  start := afterOpen 0 + secondsOf 30
  stop := afterOpen 0 + secondsOf 30 + minutesOf 1
  intervalMinutes := 1
  openPrice := 100
  high := 100
  low := 100
  close := 100
  volume := 10
  interval_supported := oneMinute_supported
  duration := halfPast_duration

/-- In a session that opens at 09:15:30 no minute is ever asked for: the window from 09:15 to
    09:18 is healthy after its first minute, without the second. -/
theorem windowHealth_noHole_halfPast :
    ¬ ∀ health, (serviceAfter (.fresh (checkerFrom 30) tracker)
          [.ingestBar (afterOpen 2) halfPast]).windowHealth (afterOpen 3) (afterOpen 3)
          (afterOpen 3) "INFY" "feed" (afterOpen 0) (afterOpen 3) = .ok health →
        health.status = .healthy →
        NoHole (serviceAfter (.fresh (checkerFrom 30) tracker) [.ingestBar (afterOpen 2) halfPast])
          (afterOpen 3) "INFY" "feed" (afterOpen 0) (afterOpen 3) := by
  intro h
  have hstatus : ((serviceAfter (.fresh (checkerFrom 30) tracker)
      [.ingestBar (afterOpen 2) halfPast]).windowHealth (afterOpen 3) (afterOpen 3) (afterOpen 3)
      "INFY" "feed" (afterOpen 0) (afterOpen 3)).toOption.map (·.status) = some .healthy := by
    decide +kernel
  have hstarts : ((serviceAfter (.fresh (checkerFrom 30) tracker)
      [.ingestBar (afterOpen 2) halfPast]).bars.map (·.start)) =
        [afterOpen 0 + secondsOf 30] := by decide +kernel
  cases hhealth : (serviceAfter (.fresh (checkerFrom 30) tracker)
      [.ingestBar (afterOpen 2) halfPast]).windowHealth (afterOpen 3) (afterOpen 3) (afterOpen 3)
      "INFY" "feed" (afterOpen 0) (afterOpen 3) with
  | error e => rw [hhealth] at hstatus; cases hstatus
  | ok health =>
    rw [hhealth] at hstatus
    have hslot : IsSlot (checkerFrom 30).calendar (afterOpen 0) (afterOpen 3) 0
        (afterOpen 1 + secondsOf 30) :=
      ⟨⟨sessionFrom 30, rfl, ⟨1, by decide⟩, by decide⟩, by decide, by decide⟩
    obtain ⟨bar, hbar, -, -, hstart, -⟩ :=
      (h health hhealth (Option.some.inj hstatus)).covered 0 _ hslot
    have hmem := List.mem_map_of_mem (f := (·.start)) hbar
    rw [hstarts, hstart, List.mem_singleton] at hmem
    exact absurd hmem (by decide)

end Godzilla.MarketData.Sample
