import Godzilla.Core.Platform
import Mathlib.Data.Finset.Basic

/-!
# The exchange calendar

`market_data/calendar.py`: session times, the calendar protocol the engines are
given, and `session_bounds` (`market_data/quality.py:33-44`), the UTC window
that most of them derive from it. Any function from dates to sessions is a
calendar; a date it does not cover is an error carrying the message of
`CalendarCoverageError`.
-/

namespace Godzilla.MarketData
open Godzilla

/-- `SessionTimes` (`market_data/calendar.py:28-49`); `ordered` is its validator. -/
structure SessionTimes where
  preopenStart : TimeOfDay
  openTime : TimeOfDay
  finalEntryTime : TimeOfDay
  flattenStartTime : TimeOfDay
  hardFlattenDeadline : TimeOfDay
  marketClose : TimeOfDay
  ordered : preopenStart < openTime ∧ openTime < finalEntryTime ∧
    finalEntryTime < flattenStartTime ∧ flattenStartTime < hardFlattenDeadline ∧
    hardFlattenDeadline < marketClose
  within_day : 0 ≤ preopenStart ∧ marketClose < daysOf 1
  deriving DecidableEq

/-- `Session` (`market_data/calendar.py:91-96`). -/
structure Session where
  sessionDate : Date
  timezone : String
  times : SessionTimes
  special : Bool := false
  deriving DecidableEq

/-- `ExchangeCalendar.session_on` (`market_data/calendar.py:103-106`): no session, a
    session, or the message of a `CalendarCoverageError`. -/
structure ExchangeCalendar where
  sessionOn : Date → Except String (Option Session)

variable [Platform]

/-- `utc(datetime.combine(session.session_date, at, ZoneInfo(session.timezone)))`. -/
def Session.instantAt (session : Session) (time : TimeOfDay) : Instant :=
  (Platform.zoneInfo session.timezone).combine session.sessionDate time

/-- `session_bounds` (`market_data/quality.py:33-44`). -/
def sessionBounds (calendar : ExchangeCalendar) (instant : Instant) (timezone : String) :
    Except String (Option (Instant × Instant)) :=
  match calendar.sessionOn ((Platform.zoneInfo timezone).localDate instant) with
  | .error message => .error message
  | .ok none => .ok none
  | .ok (some session) =>
    .ok (some (session.instantAt session.times.openTime, session.instantAt session.times.marketClose))

end Godzilla.MarketData
