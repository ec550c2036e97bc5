import Mathlib.Algebra.Order.Ring.Int
import Mathlib.Tactic.Ring

/-!
# Instants, local dates and zones

Aware datetimes are instants, counted in microseconds from the Unix epoch, the
resolution of `datetime`. A `timedelta` is a difference of instants and
`total_seconds()` is read exactly. Dates are day numbers from the same epoch
and times of day are microseconds after local midnight.
-/

namespace Godzilla

/-- An aware `datetime`, normalised to UTC. -/
abbrev Instant := Int
/-- A `timedelta`. -/
abbrev Duration := Int
/-- A calendar `date`. -/
abbrev Date := Int
/-- A naive `time`. -/
abbrev TimeOfDay := Int

/-- `datetime.min`, in UTC. -/
def minInstant : Instant := -62135596800000000
/-- `datetime.max`, in UTC. -/
def maxInstant : Instant := 253402300799999999

/-- Whether a `datetime` can hold a reading, a wall clock or an instant in UTC. -/
def IsDatetime (reading : Int) : Prop := minInstant ≤ reading ∧ reading ≤ maxInstant

instance (reading : Int) : Decidable (IsDatetime reading) := inferInstanceAs (Decidable (_ ∧ _))

/-- `timedelta(seconds=n)`. -/
def secondsOf (n : Int) : Duration := n * 1000000
/-- `timedelta(minutes=n)`. -/
def minutesOf (n : Int) : Duration := n * 60000000
/-- `timedelta(days=n)`. -/
def daysOf (n : Int) : Duration := n * 86400000000

/-- `date.weekday()`: Monday is 0, and day 0 was a Thursday. -/
def weekday (d : Date) : Int := (d + 3) % 7

/-- What a `ZoneInfo` answers: the offset in force at an instant, and the offset
    `datetime.combine` applies to a wall-clock reading. -/
structure ZoneInfo where
  utcOffset : Instant → Duration
  wallOffset : Int → Duration

namespace ZoneInfo

/-- A zone whose offset never changes. -/
def fixed (offset : Duration) : ZoneInfo := ⟨fun _ => offset, fun _ => offset⟩

/-- The wall clock of `instant.astimezone(zone)`, in microseconds from the epoch midnight. -/
def wallClock (zone : ZoneInfo) (instant : Instant) : Int := instant + zone.utcOffset instant

/-- `instant.astimezone(zone).date()`. -/
def localDate (zone : ZoneInfo) (instant : Instant) : Date :=
  zone.wallClock instant / 86400000000

/-- `instant.astimezone(zone).time()`. -/
def localTime (zone : ZoneInfo) (instant : Instant) : TimeOfDay :=
  zone.wallClock instant % 86400000000

/-- `utc(datetime.combine(day, at, zone))`. -/
def combine (zone : ZoneInfo) (day : Date) (time : TimeOfDay) : Instant :=
  let wall := daysOf day + time
  wall - zone.wallOffset wall

end ZoneInfo

end Godzilla
