import Godzilla.MarketData.Calendar
import Godzilla.Misc.Dict
import Godzilla.Misc.Sorted

/-!
# The NSE calendar

`CalendarSnapshot` and `NseExchangeCalendar` (`market_data/calendar.py:52-168`): the
sessions of the dates a reviewed snapshot covers, and the state of the session at an
instant. Descriptive fields of a snapshot that nothing reads are left out.
-/

namespace Godzilla.MarketData
open Godzilla Misc

/-- `SessionState` (`market_data/calendar.py:13-19`). -/
inductive SessionState where
  | closed
  | preopen
  | opened
  | finalEntryBlocked
  | flattening
  | closedPost
  deriving DecidableEq, Repr

/-- `SpecialSessionStatus` (`market_data/calendar.py:22-25`). -/
inductive SpecialSessionStatus where
  | confirmed
  | timingsPending
  | cancelled
  deriving DecidableEq, Repr

/-- `SpecialSession` (`market_data/calendar.py:58-69`). -/
structure SpecialSession where
  date : Date
  status : SpecialSessionStatus
  times : Option SessionTimes := none
  /-- `confirmed_requires_times`. -/
  confirmed_times : status = .confirmed → times.isSome
  deriving DecidableEq

/-- `CalendarSnapshot` (`market_data/calendar.py:72-90`); a holiday is its date. -/
structure CalendarSnapshot where
  exchange : String
  timezone : String
  effectiveFrom : Date
  effectiveTo : Date
  regularWeekdays : Finset Int
  regularTimes : SessionTimes
  holidays : List Date := []
  specialSessions : List SpecialSession := []
  deriving DecidableEq

/-- The year, month and day of a date in the proleptic Gregorian calendar. Years are counted
    from March, so that the leap day is the last of its year. -/
def civil (date : Date) : Int × Int × Int :=
  let shifted := date + 719468
  let era := shifted / 146097
  let dayOfEra := shifted % 146097
  let yearOfEra := (dayOfEra - dayOfEra / 1460 + dayOfEra / 36524 - dayOfEra / 146096) / 365
  let dayOfYear := dayOfEra - (365 * yearOfEra + yearOfEra / 4 - yearOfEra / 100)
  let march := (5 * dayOfYear + 2) / 153
  let month := if march < 10 then march + 3 else march - 9
  (yearOfEra + era * 400 + (if month ≤ 2 then 1 else 0), month,
    dayOfYear - (153 * march + 2) / 5 + 1)

/-- A number with leading zeros up to a width. -/
def padded (width : Nat) (n : Int) : String :=
  String.ofList (List.leftpad width '0' (toString n).toList)

/-- `date.isoformat()`. -/
def isoformatDate (date : Date) : String :=
  let (year, month, day) := civil date
  padded 4 year ++ "-" ++ padded 2 month ++ "-" ++ padded 2 day

example : isoformatDate 20454 = "2026-01-01" := by decide +kernel

/-- The state at a local time of a session (`market_data/calendar.py:155-168`). -/
def SessionTimes.stateAt (times : SessionTimes) (current : TimeOfDay) : SessionState :=
  if current < times.preopenStart then .closed
  else if current < times.openTime then .preopen
  else if current < times.finalEntryTime then .opened
  else if current < times.flattenStartTime then .finalEntryBlocked
  else if current < times.hardFlattenDeadline then .flattening
  else .closedPost

/-- `NseExchangeCalendar` (`market_data/calendar.py:112-117`). -/
structure NseExchangeCalendar where
  snapshot : CalendarSnapshot
  exchange_nse : snapshot.exchange = "NSE"

namespace NseExchangeCalendar

variable (calendar : NseExchangeCalendar)

/-- The special session of a date, the last one listed (`market_data/calendar.py:127-128`). -/
def special (day : Date) : Option SpecialSession :=
  (Dict.index (·.date) calendar.snapshot.specialSessions).get? day

/-- `NseExchangeCalendar.session_on` (`market_data/calendar.py:124-146`). -/
def sessionOn (day : Date) : Except String (Option Session) :=
  let snapshot := calendar.snapshot
  if ¬ (snapshot.effectiveFrom ≤ day ∧ day ≤ snapshot.effectiveTo) then
    .error ("calendar snapshot does not cover " ++ isoformatDate day)
  else
    match calendar.special day with
    | some special =>
      match special.times with
      | some times =>
        if special.status ≠ .confirmed then .ok none
        else .ok (some
          { sessionDate := day, timezone := snapshot.timezone, times := times, special := true })
      | none => .ok none
    | none =>
      if weekday day ∉ snapshot.regularWeekdays then .ok none
      else if day ∈ snapshot.holidays then .ok none
      else .ok (some
        { sessionDate := day, timezone := snapshot.timezone, times := snapshot.regularTimes })

/-- The calendar as the engines are given it. -/
def toExchangeCalendar : ExchangeCalendar where
  sessionOn := calendar.sessionOn

/-- `NseExchangeCalendar.state_at`, at the reading of the local wall clock
    (`market_data/calendar.py:148-168`). -/
def stateAt (wall : Int) : Except PyError SessionState :=
  match calendar.sessionOn (wall / 86400000000) with
  | .error message => .error (.calendarCoverage message)
  | .ok none => .ok .closed
  | .ok (some session) => .ok (session.times.stateAt (wall % 86400000000))

variable {calendar}

/-- A session is of the date it was asked for, in the zone of the snapshot. -/
theorem sessionOn_some {day : Date} {session : Session}
    (h : calendar.sessionOn day = .ok (some session)) :
    session.sessionDate = day ∧ session.timezone = calendar.snapshot.timezone := by
  rw [sessionOn] at h
  split at h
  · cases h
  split at h
  · split at h
    · split at h
      · cases h
      · obtain rfl := Option.some.inj (Except.ok.inj h)
        exact ⟨rfl, rfl⟩
    · cases h
  · split at h
    · cases h
    split at h
    · cases h
    · obtain rfl := Option.some.inj (Except.ok.inj h)
      exact ⟨rfl, rfl⟩

end NseExchangeCalendar

section Fixed

variable [Platform]

/-- In a zone whose offset never changes, a session lies within its local date. -/
theorem Session.localDate_of_fixed {session : Session} {offset : Duration} {instant : Instant}
    (hzone : Platform.zoneInfo session.timezone = .fixed offset)
    (hopen : session.instantAt session.times.openTime ≤ instant)
    (hclose : instant < session.instantAt session.times.marketClose) :
    (ZoneInfo.fixed offset).localDate instant = session.sessionDate := by
  obtain ⟨hpreopen, hfinal⟩ := session.times.within_day
  have hordered := session.times.ordered.1
  simp only [Session.instantAt, hzone, ZoneInfo.combine, ZoneInfo.fixed, ZoneInfo.localDate,
    ZoneInfo.wallClock, daysOf] at *
  lia

end Fixed

end Godzilla.MarketData
