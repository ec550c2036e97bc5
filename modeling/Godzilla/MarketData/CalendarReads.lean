import Godzilla.MarketData.Calendar
import Godzilla.Misc.Raises

/-!
# What reading the calendar raises

The conversions of `datetime` around a session: to UTC, to the day of a zone, and from a day
and a time in a zone. Each is an `OverflowError` where its reading leaves the years one to
9999, and a zone is opened by a key that may not be one. `readBounds` is `session_bounds` with
what it raises; where it returns, it returns the bounds of `sessionBounds`.
-/

namespace Godzilla.MarketData
open Godzilla Misc

/-- `utc` of an aware `datetime` (`market_data/models.py:19-22`). -/
def utc (instant : Instant) : Except PyError Instant := asDatetime instant

/-- A `CalendarCoverageError` as an exception. -/
def ofCalendar {α : Type} (found : Except String α) : Except PyError α :=
  found.mapError .calendarCoverage

section Reads

variable [Platform]

/-- `ZoneInfo(key)`. -/
def openZone (key : String) : Except PyError ZoneInfo :=
  match Platform.zoneFault key with
  | none => .ok (Platform.zoneInfo key)
  | some .unknown => .error (.keyError (Platform.reprStr ("No time zone found with key " ++ key)))
  | some (.malformed message) => .error (.valueError message)

/-- `instant.astimezone(ZoneInfo(key)).date()`. -/
def localDateIn (key : String) (instant : Instant) : Except PyError Date := do
  let zone ← openZone key
  let wall ← asDatetime (zone.wallClock instant)
  .ok (wall / daysOf 1)

/-- `utc(datetime.combine(day, time, ZoneInfo(key)))`. -/
def combineIn (key : String) (day : Date) (time : TimeOfDay) : Except PyError Instant := do
  let zone ← openZone key
  asDatetime (zone.combine day time)

/-- `session_bounds` (`market_data/quality.py:33-44`). -/
def readBounds (calendar : ExchangeCalendar) (instant : Instant) (timezone : String) :
    Except PyError (Option (Instant × Instant)) := do
  let day ← localDateIn timezone instant
  let session ← ofCalendar (calendar.sessionOn day)
  match session with
  | none => .ok none
  | some session => do
    let zone ← openZone session.timezone
    let opening ← asDatetime (zone.combine session.sessionDate session.times.openTime)
    let closing ← asDatetime (zone.combine session.sessionDate session.times.marketClose)
    .ok (some (opening, closing))

/-- What `except (ValueError, CalendarCoverageError)` catches. -/
def blocksSession (e : PyError) : Bool :=
  e.isValueError ||
    match e with
    | .calendarCoverage _ => true
    | _ => false

/-- Whether `ZoneInfo(key)` opens a zone of which `reads` holds, or raises a `ValueError` that
    is to be caught. -/
def ZoneReads (caught : Prop) (key : String) (reads : Prop) : Prop :=
  match Platform.zoneFault key with
  | none => reads
  | some (.malformed _) => caught
  | some .unknown => False

/-- Whether a `datetime` can hold the reading of an instant in a zone. -/
def LocallyDated (caught : Prop) (key : String) (instant : Instant) : Prop :=
  ZoneReads caught key (IsDatetime ((Platform.zoneInfo key).wallClock instant))

/-- Whether a `datetime` can hold, in UTC, a day and a time in a zone. -/
def CombinedDated (caught : Prop) (key : String) (day : Date) (time : TimeOfDay) : Prop :=
  ZoneReads caught key (IsDatetime ((Platform.zoneInfo key).combine day time))

/-- Whether `session_bounds` can read what it is asked for: the zone of the caller and the local
    day of the instant, and of a session on that day its zone, its open and its close. Where a
    `ValueError` is caught, a key that is no path ends the reading. -/
def BoundsDated (caught : Prop) (calendar : ExchangeCalendar) (instant : Instant)
    (timezone : String) : Prop :=
  ZoneReads caught timezone
    (IsDatetime ((Platform.zoneInfo timezone).wallClock instant) ∧
      ∀ session, calendar.sessionOn ((Platform.zoneInfo timezone).localDate instant) =
          .ok (some session) →
        ZoneReads caught session.timezone
          (IsDatetime (session.instantAt session.times.openTime) ∧
            IsDatetime (session.instantAt session.times.marketClose)))

end Reads

/-- What no handler around the calendar catches: overflows and unknown zones. It may catch every
    `ValueError`. -/
structure DateHandler (handled : PyError → Prop) (caught : Prop) : Prop where
  overflow : ∀ message, ¬ handled (.arithmeticError message)
  unknown : ∀ key, ¬ handled (.keyError key)
  malformed : ∀ message, handled (.valueError message) ↔ caught

/-- A handler of `CalendarCoverageError`. -/
structure CalendarHandler (handled : PyError → Prop) (caught : Prop) : Prop
    extends DateHandler handled caught where
  coverage : ∀ message, handled (.calendarCoverage message)

/-- Nothing is caught outside a `try` block. -/
theorem unhandled : DateHandler (fun _ => False) False :=
  ⟨fun _ => id, fun _ => id, fun _ => Iff.rfl⟩

theorem blocksSession_handler : CalendarHandler (fun e => blocksSession e = true) True where
  overflow _ := Bool.false_ne_true
  unknown _ := Bool.false_ne_true
  malformed _ := iff_of_true rfl trivial
  coverage _ := rfl

section Facts

variable {handled : PyError → Prop} {caught : Prop} (handler : DateHandler handled caught)

theorem asDatetime_ok {reading result : Int} (h : asDatetime reading = .ok result) :
    result = reading ∧ IsDatetime reading := by
  rw [asDatetime] at h
  split at h
  · next hdated => exact ⟨(Except.ok.inj h).symm, hdated⟩
  · cases h

theorem asDatetime_eq {reading : Int} (h : IsDatetime reading) :
    asDatetime reading = .ok reading := if_pos h

include handler in
theorem asDatetime_raises_iff {reading : Int} :
    OnlyRaises handled (asDatetime reading) ↔ IsDatetime reading := by
  constructor
  · intro h
    by_contra hdated
    exact handler.overflow _ (h _ (if_neg hdated))
  · intro h
    rw [asDatetime_eq h]
    exact onlyRaises_ok _

include handler in
theorem asDatetime_bind_raises_iff {α : Type} {reading : Int} {f : Int → Except PyError α} :
    OnlyRaises handled (asDatetime reading >>= f) ↔
      IsDatetime reading ∧ OnlyRaises handled (f reading) := by
  rw [onlyRaises_bind_iff, asDatetime_raises_iff handler]
  refine and_congr_right fun hdated => ⟨fun h => h reading (asDatetime_eq hdated), ?_⟩
  rintro h result hresult
  rwa [(asDatetime_ok hresult).1]

include handler in
theorem addDuration_bind_raises_iff {α : Type} {instant : Instant} {duration : Duration}
    {f : Instant → Except PyError α} :
    OnlyRaises handled (addDuration instant duration >>= f) ↔
      instant + duration ≤ maxInstant ∧ OnlyRaises handled (f (instant + duration)) := by
  rw [addDuration]
  by_cases hfits : instant + duration ≤ maxInstant
  · rw [if_pos hfits, and_iff_right hfits]
    rfl
  · rw [if_neg hfits]
    exact iff_of_false (fun h => handler.overflow _ (h _ rfl)) fun h => hfits h.1

theorem ofCalendar_bind_raises_iff (handler : CalendarHandler handled caught) {α β : Type}
    {found : Except String α} {f : α → Except PyError β} :
    OnlyRaises handled (ofCalendar found >>= f) ↔ ∀ a, found = .ok a → OnlyRaises handled (f a) := by
  cases found with
  | error message =>
    exact iff_of_true (onlyRaises_error (handler.coverage message)) fun _ h => by cases h
  | ok a =>
    refine ⟨fun h b hb => ?_, fun h => h a rfl⟩
    obtain rfl := Except.ok.inj hb
    exact h

theorem ofCalendar_ok {α : Type} {found : Except String α} {a : α}
    (h : ofCalendar found = .ok a) : found = .ok a := by
  cases found with
  | error message => cases h
  | ok b => rw [Except.ok.inj h]

variable [Platform]

theorem openZone_ok {key : String} {zone : ZoneInfo} (h : openZone key = .ok zone) :
    zone = Platform.zoneInfo key := by
  rw [openZone] at h
  cases hfault : Platform.zoneFault key with
  | none =>
    rw [hfault] at h
    exact (Except.ok.inj h).symm
  | some fault =>
    rw [hfault] at h
    cases fault <;> cases h

include handler in
/-- Opening a zone and going on raises what is handled when the zone reads. -/
theorem openZone_bind_raises_iff {α : Type} {key : String} {f : ZoneInfo → Except PyError α} :
    OnlyRaises handled (openZone key >>= f) ↔
      ZoneReads caught key (OnlyRaises handled (f (Platform.zoneInfo key))) := by
  rw [openZone, ZoneReads]
  cases Platform.zoneFault key with
  | none => exact Iff.rfl
  | some fault =>
    cases fault with
    | unknown => exact iff_of_false (fun h => handler.unknown _ (h _ rfl)) id
    | malformed message =>
      exact ⟨fun h => (handler.malformed _).mp (h _ rfl),
        fun h => onlyRaises_error ((handler.malformed _).mpr h)⟩

theorem localDateIn_ok {key : String} {instant : Instant} {day : Date}
    (h : localDateIn key instant = .ok day) :
    day = (Platform.zoneInfo key).localDate instant := by
  obtain ⟨zone, hzone, h⟩ := bind_ok h
  obtain ⟨wall, hwall, h⟩ := bind_ok h
  obtain rfl := openZone_ok hzone
  obtain ⟨rfl, -⟩ := asDatetime_ok hwall
  exact (Except.ok.inj h).symm

include handler in
theorem localDateIn_bind_raises_iff {α : Type} {key : String} {instant : Instant}
    {f : Date → Except PyError α} :
    OnlyRaises handled (localDateIn key instant >>= f) ↔
      ZoneReads caught key (IsDatetime ((Platform.zoneInfo key).wallClock instant) ∧
        OnlyRaises handled (f ((Platform.zoneInfo key).localDate instant))) := by
  simp only [localDateIn, bind_assoc]
  rw [openZone_bind_raises_iff handler, asDatetime_bind_raises_iff handler]
  rfl

include handler in
theorem combineIn_bind_raises_iff {α : Type} {key : String} {day : Date} {time : TimeOfDay}
    {f : Instant → Except PyError α} :
    OnlyRaises handled (combineIn key day time >>= f) ↔
      ZoneReads caught key (IsDatetime ((Platform.zoneInfo key).combine day time) ∧
        OnlyRaises handled (f ((Platform.zoneInfo key).combine day time))) := by
  simp only [combineIn, bind_assoc]
  rw [openZone_bind_raises_iff handler, asDatetime_bind_raises_iff handler]

/-- A zone that was opened opens again. -/
theorem zoneReads_and_zoneReads {key : String} {reads further : Prop} :
    ZoneReads caught key (reads ∧ ZoneReads caught key further) ↔
      ZoneReads caught key (reads ∧ further) := by
  simp only [ZoneReads]
  split
  · exact Iff.rfl
  · exact Iff.rfl
  · exact Iff.rfl

theorem zoneReads_iff_of_opens {key : String} {reads : Prop}
    (h : Platform.zoneFault key = none) : ZoneReads caught key reads ↔ reads := by
  rw [ZoneReads, h]

theorem zoneReads_congr {key : String} {reads others : Prop} (h : reads ↔ others) :
    ZoneReads caught key reads ↔ ZoneReads caught key others := by
  rw [propext h]

/-- The bounds that are read are those of the session. -/
theorem readBounds_ok {calendar : ExchangeCalendar} {instant : Instant} {timezone : String}
    {bounds : Option (Instant × Instant)} (h : readBounds calendar instant timezone = .ok bounds) :
    sessionBounds calendar instant timezone = .ok bounds := by
  obtain ⟨day, hday, h⟩ := bind_ok h
  obtain ⟨session, hsession, h⟩ := bind_ok h
  have hfound : calendar.sessionOn ((Platform.zoneInfo timezone).localDate instant) =
      .ok session := localDateIn_ok hday ▸ ofCalendar_ok hsession
  simp only [sessionBounds, hfound]
  cases session with
  | none => exact congrArg _ (Except.ok.inj h)
  | some session =>
    obtain ⟨zone, hzone, h⟩ := bind_ok h
    obtain ⟨opening, hopening, h⟩ := bind_ok h
    obtain ⟨closing, hclosing, h⟩ := bind_ok h
    obtain rfl := openZone_ok hzone
    obtain ⟨rfl, -⟩ := asDatetime_ok hopening
    obtain ⟨rfl, -⟩ := asDatetime_ok hclosing
    exact congrArg _ (Except.ok.inj h)

/-- Bounds that are read belong to a session of the local day, in a zone that opens. -/
theorem readBounds_some {calendar : ExchangeCalendar} {instant : Instant} {timezone : String}
    {bounds : Instant × Instant} (h : readBounds calendar instant timezone = .ok (some bounds)) :
    localDateIn timezone instant = .ok ((Platform.zoneInfo timezone).localDate instant) ∧
      ∃ session, calendar.sessionOn ((Platform.zoneInfo timezone).localDate instant) =
          .ok (some session) ∧
        openZone session.timezone = .ok (Platform.zoneInfo session.timezone) := by
  obtain ⟨day, hday, h⟩ := bind_ok h
  obtain ⟨session, hsession, h⟩ := bind_ok h
  obtain rfl := localDateIn_ok hday
  refine ⟨hday, ?_⟩
  cases session with
  | none => cases h
  | some session =>
    obtain ⟨zone, hzone, -⟩ := bind_ok h
    obtain rfl := openZone_ok hzone
    exact ⟨session, ofCalendar_ok hsession, hzone⟩

/-- Reading the bounds and going on raises what is handled when the reading does and what
    follows does, for no session or for the bounds of the one of the day. -/
theorem readBounds_bind_raises_iff (handler : CalendarHandler handled caught) {α : Type}
    {calendar : ExchangeCalendar} {instant : Instant} {timezone : String}
    {f : Option (Instant × Instant) → Except PyError α} :
    OnlyRaises handled (readBounds calendar instant timezone >>= f) ↔
      ZoneReads caught timezone
        (IsDatetime ((Platform.zoneInfo timezone).wallClock instant) ∧
          (calendar.sessionOn ((Platform.zoneInfo timezone).localDate instant) = .ok none →
            OnlyRaises handled (f none)) ∧
          ∀ session, calendar.sessionOn ((Platform.zoneInfo timezone).localDate instant) =
              .ok (some session) →
            ZoneReads caught session.timezone
              (IsDatetime (session.instantAt session.times.openTime) ∧
                IsDatetime (session.instantAt session.times.marketClose) ∧
                OnlyRaises handled (f (some (session.instantAt session.times.openTime,
                  session.instantAt session.times.marketClose))))) := by
  simp only [readBounds, bind_assoc]
  rw [localDateIn_bind_raises_iff handler.toDateHandler]
  refine zoneReads_congr (and_congr_right fun _ => ?_)
  rcases calendar.sessionOn ((Platform.zoneInfo timezone).localDate instant) with
    message | session | session
  · exact iff_of_true (onlyRaises_error (handler.coverage message))
      ⟨(fun h => by cases h), fun _ h => by cases h⟩
  · exact ⟨fun h => ⟨fun _ => h, fun _ h => by cases h⟩, fun h => h.1 rfl⟩
  · change OnlyRaises handled ((openZone session.timezone >>= fun zone =>
      asDatetime (zone.combine session.sessionDate session.times.openTime) >>= fun opening =>
        asDatetime (zone.combine session.sessionDate session.times.marketClose) >>= fun closing =>
          .ok (some (opening, closing))) >>= f) ↔ _
    simp only [bind_assoc]
    rw [openZone_bind_raises_iff handler.toDateHandler,
      asDatetime_bind_raises_iff handler.toDateHandler,
      asDatetime_bind_raises_iff handler.toDateHandler]
    refine ⟨fun h => ⟨(fun hnone => by cases hnone), fun other hother => ?_⟩, fun h => h.2 session rfl⟩
    obtain rfl := Option.some.inj (Except.ok.inj hother)
    exact h

theorem readBounds_raises_iff (handler : CalendarHandler handled caught)
    {calendar : ExchangeCalendar} {instant : Instant} {timezone : String} :
    OnlyRaises handled (readBounds calendar instant timezone) ↔
      BoundsDated caught calendar instant timezone := by
  rw [← bind_pure (readBounds calendar instant timezone), readBounds_bind_raises_iff handler]
  have hreturns : ∀ bounds : Option (Instant × Instant),
      OnlyRaises handled (pure bounds : Except PyError _) := fun bounds => onlyRaises_ok bounds
  simp only [hreturns, and_true, implies_true, true_and]
  rfl

theorem zoneReads_false_iff {key : String} {reads : Prop} :
    ZoneReads False key reads ↔ Platform.zoneFault key = none ∧ reads := by
  rw [ZoneReads]
  cases Platform.zoneFault key with
  | none => exact (and_iff_right rfl).symm
  | some fault => cases fault <;> exact iff_of_false id fun h => nomatch h.1

theorem openZone_eq {key : String} (h : Platform.zoneFault key = none) :
    openZone key = .ok (Platform.zoneInfo key) := by
  rw [openZone, h]

theorem localDateIn_eq {key : String} {instant : Instant} (h : LocallyDated False key instant) :
    localDateIn key instant = .ok ((Platform.zoneInfo key).localDate instant) := by
  obtain ⟨hzone, hwall⟩ := zoneReads_false_iff.mp h
  simp only [localDateIn, openZone_eq hzone, bind, Except.bind, asDatetime_eq hwall]
  rfl

/-- Bounds that are dates in known zones are read as the calendar has them. -/
theorem readBounds_eq {calendar : ExchangeCalendar} {instant : Instant} {timezone : String}
    (h : BoundsDated False calendar instant timezone) :
    readBounds calendar instant timezone =
      ofCalendar (sessionBounds calendar instant timezone) := by
  obtain ⟨hzone, hwall, hsession⟩ := zoneReads_false_iff.mp h
  have hday := localDateIn_eq (zoneReads_false_iff.mpr ⟨hzone, hwall⟩)
  simp only [readBounds, hday, sessionBounds, bind, Except.bind]
  rcases hfound : calendar.sessionOn ((Platform.zoneInfo timezone).localDate instant) with
    message | session | session
  · rfl
  · rfl
  · obtain ⟨hown, hopen, hclose⟩ := zoneReads_false_iff.mp (hsession session hfound)
    change (openZone session.timezone >>= _) = _
    rw [openZone_eq hown]
    change (asDatetime (session.instantAt session.times.openTime) >>= fun _ =>
      asDatetime (session.instantAt session.times.marketClose) >>= _) = _
    rw [asDatetime_eq hopen, asDatetime_eq hclose]
    rfl

end Facts

end Godzilla.MarketData
