import Godzilla.Compliance.Service
import Godzilla.MarketData.CalendarReads
import Godzilla.MarketData.WindowHealth
import Mathlib.Tactic.NormNum

/-!
# The readings that the compliance gate compares

The effective range is compared with the date of the datetime's own wall clock
(`compliance/models.py:132`), and the expiry by the wall clocks where both datetimes carry one
`tzinfo` object. The verdict therefore depends on how the instant is written, and
`snapshot-check` may compare another date than the one it builds a universe for.
-/

namespace Godzilla.Compliance
open Godzilla Misc MarketData

section Issues

theorem length_intercalate (issues : List String) :
    (", ".intercalate issues).length =
      (issues.map String.length).sum + 2 * (issues.length - 1) := by
  induction issues with
  | nil => rfl
  | cons issue rest ih =>
    by_cases hrest : rest = []
    · subst hrest
      simp
    · have hsome : 0 < rest.length := List.length_pos_iff.mpr hrest
      have hcomma : ", ".length = 2 := rfl
      rw [String.intercalate_cons_of_ne_nil hrest, String.length_append, String.length_append, ih,
        List.map_cons, List.sum_cons, List.length_cons, hcomma]
      omega

/-- The issue of a date outside the effective range, where there is one. -/
def rangeIssue (outside : Bool) : List String :=
  if outside then ["compliance profile outside effective date range"] else []

/-- The issue of an expired profile, where there is one. -/
def expiredIssue (expired : Bool) : List String :=
  if expired then ["compliance profile expired"] else []

/-- What the gate raises shows which of the two temporal issues there are. -/
theorem raiseIssues_inj {mode : TradingMode} {before : List String}
    {outside expired outside' expired' : Bool}
    (h : raiseIssues mode (before ++ (rangeIssue outside ++ expiredIssue expired)) =
      raiseIssues mode (before ++ (rangeIssue outside' ++ expiredIssue expired'))) :
    outside = outside' ∧ expired = expired' := by
  have hlength : ∀ {issues others : List String},
      raiseIssues mode issues = raiseIssues mode others →
        (issues = [] ↔ others = []) ∧
          (issues.map String.length).sum + 2 * (issues.length - 1) =
            (others.map String.length).sum + 2 * (others.length - 1) := by
    intro issues others heq
    rw [raiseIssues, raiseIssues] at heq
    by_cases hissues : issues = [] <;> by_cases hothers : others = []
    · subst hissues hothers
      exact ⟨Iff.rfl, rfl⟩
    · rw [if_pos hissues, if_neg hothers] at heq
      cases heq
    · rw [if_neg hissues, if_pos hothers] at heq
      cases heq
    · rw [if_neg hissues, if_neg hothers] at heq
      have htexts := congrArg String.length (PyError.runtimeError.inj (Except.error.inj heq))
      simp only [String.length_append, length_intercalate] at htexts
      exact ⟨iff_of_false hissues hothers, by omega⟩
  obtain ⟨hnone, hsum⟩ := hlength h
  have hrange : "compliance profile outside effective date range".length = 47 := by decide
  have hexpired : "compliance profile expired".length = 26 := by decide
  cases outside <;> cases expired <;> cases outside' <;> cases expired' <;>
    simp [rangeIssue, expiredIssue, hrange, hexpired] at hnone hsum ⊢ <;> omega

end Issues

section Verdicts

variable {Tz : Type} [DecidableEq Tz] [TzInfo Tz] {profile : ComplianceProfile Tz}
  {mode : TradingMode}

/-- The verdict of a gate that is given the date to compare. -/
def verdictOn (day : Date) (now : AwareDatetime Tz) (profile : ComplianceProfile Tz)
    (mode : TradingMode) : Except PyError Unit :=
  if ¬ Gated mode then .ok ()
  else raiseIssues mode
    (profile.structuralIssues mode ++ (profile.dateIssues day ++ profile.expiryIssues now))

/-- The gate compares the date of the datetime's own wall clock. -/
theorem validate_eq (now : AwareDatetime Tz) :
    validate now.toDatetime profile mode = verdictOn now.date now profile mode := by
  rw [validate, verdictOn]
  split
  · rfl
  · rw [ComplianceProfile.temporalIssues, now.aware?_toDatetime]
    rfl

/-- Two readings give one verdict exactly when the mode needs no compliance, or neither of the
    temporal checks tells them apart. -/
theorem verdictOn_eq_iff {day day' : Date} {now other : AwareDatetime Tz} :
    verdictOn day now profile mode = verdictOn day' other profile mode ↔
      ¬ Gated mode ∨ ((profile.EffectiveOn day ↔ profile.EffectiveOn day') ∧
        (now.After profile.expiresAt ↔ other.After profile.expiresAt)) := by
  by_cases hmode : Gated mode
  · have hdate : ∀ day, profile.dateIssues day = rangeIssue (decide ¬ profile.EffectiveOn day) := by
      intro day
      simp only [ComplianceProfile.dateIssues, rangeIssue, decide_eq_true_eq]
    have hexpiry : ∀ time, profile.expiryIssues time =
        expiredIssue (decide (time.After profile.expiresAt)) := by
      intro time
      simp only [ComplianceProfile.expiryIssues, expiredIssue, decide_eq_true_eq]
    rw [verdictOn, verdictOn, if_neg (not_not.mpr hmode), if_neg (not_not.mpr hmode), hdate, hdate,
      hexpiry, hexpiry, or_iff_right (not_not.mpr hmode)]
    constructor
    · intro heq
      obtain ⟨hrange, hexpired⟩ := raiseIssues_inj heq
      exact ⟨not_iff_not.mp (decide_eq_decide.mp hrange), decide_eq_decide.mp hexpired⟩
    · rintro ⟨hrange, hexpired⟩
      rw [decide_eq_decide.mpr (not_iff_not.mpr hrange), decide_eq_decide.mpr hexpired]
  · exact iff_of_true (by rw [verdictOn, verdictOn, if_pos hmode, if_pos hmode]) (.inl hmode)

/-- A verdict is a violation or nothing. -/
theorem verdictOn_raises (day : Date) (now : AwareDatetime Tz) :
    OnlyRaises (fun e => ∃ message, e = .runtimeError message)
      (verdictOn day now profile mode) := by
  rw [verdictOn]
  refine (onlyRaises_ok _).ite ?_
  rw [raiseIssues]
  exact (onlyRaises_ok _).ite (onlyRaises_error ⟨_, rfl⟩)

/-- A verdict shows in what follows it, if that raises no violation of its own. -/
theorem verdict_inj {α : Type} {verdict other : Except PyError Unit} {rest : Except PyError α}
    (hverdict : OnlyRaises (fun e => ∃ message, e = .runtimeError message) verdict)
    (hother : OnlyRaises (fun e => ∃ message, e = .runtimeError message) other)
    (hrest : OnlyRaises (fun e => ∀ message, e ≠ .runtimeError message) rest)
    (h : (verdict >>= fun _ => rest) = (other >>= fun _ => rest)) : verdict = other := by
  cases verdict with
  | ok u =>
    cases other with
    | ok u' => rfl
    | error e =>
      obtain ⟨message, rfl⟩ := hother e rfl
      exact absurd rfl (hrest _ h message)
  | error e =>
    cases other with
    | ok u =>
      obtain ⟨message, rfl⟩ := hverdict e rfl
      exact absurd rfl (hrest _ h.symm message)
    | error e' => exact congrArg _ (Except.error.inj h)

/-- Where the expiry is compared by the wall clocks, these are in the order of the instants. -/
def ComparesInstants (time expires : AwareDatetime Tz) : Prop :=
  time.tzinfo = expires.tzinfo → (expires.wall < time.wall ↔ expires.instant < time.instant)

instance {time expires : AwareDatetime Tz} : Decidable (ComparesInstants time expires) :=
  inferInstanceAs (Decidable (_ → _))

theorem comparesInstants_iff {time expires : AwareDatetime Tz} :
    ComparesInstants time expires ↔ (time.After expires ↔ expires.instant < time.instant) := by
  rw [ComparesInstants, AwareDatetime.After]
  by_cases hsame : time.tzinfo = expires.tzinfo
  · rw [if_pos hsame, forall_prop_of_true hsame]
  · rw [if_neg hsame]
    exact iff_of_true (fun h => absurd h hsame) Iff.rfl

/-- Two spellings of one instant are on one side of the expiry exactly when both or neither are
    compared in the order of the instants. -/
theorem after_iff_after_iff {now other expires : AwareDatetime Tz}
    (hsame : now.instant = other.instant) :
    (now.After expires ↔ other.After expires) ↔
      (ComparesInstants now expires ↔ ComparesInstants other expires) := by
  rw [comparesInstants_iff, comparesInstants_iff, hsame]
  tauto

/-- The profile, effective on one day. -/
def ComplianceProfile.effectiveOnly (profile : ComplianceProfile Tz) (day : Date) :
    ComplianceProfile Tz :=
  { profile with effectiveFrom := day, effectiveTo := day, effective_ordered := le_refl day }

theorem effectiveOn_effectiveOnly {profile : ComplianceProfile Tz} {day day' : Date} :
    (profile.effectiveOnly day).EffectiveOn day' ↔ day' = day := by
  change day ≤ day' ∧ day' ≤ day ↔ day' = day
  lia

end Verdicts

section Dates

variable [Platform] {Tz : Type} [DecidableEq Tz] [TzInfo Tz] {calendar : NseExchangeCalendar}
  {mode : TradingMode} {now : AwareDatetime Tz}

/-- The wall clock of the datetime is on the day on which the exchange's offset puts it: the
    difference of the offsets does not carry the exchange's time of day across midnight. Nothing
    is converted for a datetime in the zone of the calendar, and no universe is built where the
    local reading is no date. -/
def OnExchangeDay (calendar : NseExchangeCalendar) (now : AwareDatetime Tz) : Prop :=
  let zone := Platform.zoneInfo calendar.snapshot.timezone
  now.tzinfo ≠ some (TzInfo.zoneInfo calendar.snapshot.timezone) →
    IsDatetime now.instant → IsDatetime (zone.wallClock now.instant) →
      0 ≤ zone.localTime now.instant + (now.offset - zone.utcOffset now.instant) ∧
        zone.localTime now.instant + (now.offset - zone.utcOffset now.instant) < daysOf 1

instance : Decidable (OnExchangeDay calendar now) := inferInstanceAs (Decidable (_ → _))

/-- The datetime is on the day of the exchange exactly when its date is the local date, if there
    is one. -/
theorem onExchangeDay_iff :
    OnExchangeDay calendar now ↔ ∀ day, localDate calendar now = .ok day → now.date = day := by
  rw [OnExchangeDay, localDate, localWall]
  by_cases hzone : now.tzinfo = some (TzInfo.zoneInfo calendar.snapshot.timezone)
  · rw [if_pos hzone]
    exact iff_of_true (fun h => absurd hzone h) fun day hday => Except.ok.inj hday
  rw [if_neg hzone, forall_prop_of_true hzone]
  by_cases hinstant : IsDatetime now.instant
  swap
  · rw [show asDatetime now.instant = .error _ from if_neg hinstant]
    exact iff_of_true (fun h => absurd h hinstant) fun day hday => nomatch hday
  rw [asDatetime_eq hinstant, forall_prop_of_true hinstant]
  change _ ↔ ∀ day, (asDatetime _ >>= fun wall => .ok (wall / 86400000000)) = Except.ok day → _
  by_cases hwall : IsDatetime ((Platform.zoneInfo calendar.snapshot.timezone).wallClock now.instant)
  swap
  · rw [show asDatetime _ = .error _ from if_neg hwall]
    exact iff_of_true (fun h => absurd h hwall) fun day hday => nomatch hday
  rw [asDatetime_eq hwall, forall_prop_of_true hwall]
  have hdate : now.date = (now.instant + now.offset) / 86400000000 := by
    rw [Datetime.date, AwareDatetime.instant, sub_add_cancel]
  constructor
  · rintro h day hday
    obtain rfl := Except.ok.inj hday
    simp only [ZoneInfo.localTime, ZoneInfo.wallClock, daysOf] at h ⊢
    lia
  · intro h
    have hlocal := h _ rfl
    simp only [ZoneInfo.localTime, ZoneInfo.wallClock, daysOf] at hlocal ⊢
    lia

variable [Universe.UniverseNamespace] {settings : Universe.UniverseSettings}
  {calendarVersion : String} {master : InstrumentMasterSnapshot} {clock : Datetime Tz}
  {instant : Option (Datetime Tz)}

/-- Behind the gate `snapshot-check` raises no violation. -/
theorem checkUniverse_raises (compliance : ComplianceProfile Tz) :
    OnlyRaises (fun e => ∀ message, e ≠ .runtimeError message)
      (checkUniverse compliance settings calendarVersion calendar master now) := by
  have hdated : ∀ reading, OnlyRaises (fun e => ∀ message, e ≠ .runtimeError message)
      (asDatetime reading) := by
    intro reading
    rw [asDatetime]
    exact (onlyRaises_ok _).ite (onlyRaises_error fun _ => by simp)
  have hwall : OnlyRaises (fun e => ∀ message, e ≠ .runtimeError message)
      (localWall calendar now) := by
    rw [localWall]
    exact (onlyRaises_ok _).ite ((hdated _).bind fun _ _ => hdated _)
  rw [checkUniverse, localDate]
  refine (hwall.bind fun _ _ => onlyRaises_ok _).bind fun day _ => ?_
  refine OnlyRaises.bind ?_ fun built _ => hwall.bind fun wall _ => ?_
  · rw [Universe.build]
    exact (onlyRaises_error fun _ => by simp).ite (onlyRaises_ok _)
  · refine OnlyRaises.bind ?_ fun state _ => onlyRaises_ok _
    rw [NseExchangeCalendar.stateAt]
    split
    · exact onlyRaises_error fun _ => by simp
    · exact onlyRaises_ok _
    · exact onlyRaises_ok _

/-- Whatever the profile, `snapshot-check` answers what a gate would answer that is given the
    exchange-local date, the one that the universe is built for. -/
def ComparesLocalDate (mode : TradingMode) (settings : Universe.UniverseSettings)
    (calendarVersion : String) (calendar : NseExchangeCalendar)
    (master : InstrumentMasterSnapshot) (clock : Datetime Tz) (instant : Option (Datetime Tz))
    (now : AwareDatetime Tz) : Prop :=
  ∀ (compliance : ComplianceProfile Tz) (day : Date), localDate calendar now = .ok day →
    snapshotCheck mode compliance settings calendarVersion calendar master clock instant = do
      verdictOn day now compliance mode
      checkUniverse compliance settings calendarVersion calendar master now

/-- `snapshot-check` compares the exchange-local date exactly when it compares none or its
    datetime is on the day of the exchange. -/
theorem comparesLocalDate_iff (profile : ComplianceProfile Tz)
    (hread : instant.getD clock = now.toDatetime) :
    ComparesLocalDate mode settings calendarVersion calendar master clock instant now ↔
      ¬ Gated mode ∨ OnExchangeDay calendar now := by
  have hcheck : ∀ compliance, snapshotCheck mode compliance settings calendarVersion calendar
      master clock instant = (verdictOn now.date now compliance mode >>= fun _ =>
        checkUniverse compliance settings calendarVersion calendar master now) := by
    intro compliance
    rw [snapshotCheck, hread, now.aware?_toDatetime, ← validate_eq]
  rw [onExchangeDay_iff]
  constructor
  · intro hcompares
    refine or_iff_not_imp_left.mpr fun hmode day hday => ?_
    have hsame := verdict_inj (verdictOn_raises _ _) (verdictOn_raises _ _)
      (checkUniverse_raises _)
      ((hcheck (profile.effectiveOnly now.date)).symm.trans (hcompares _ day hday))
    rcases verdictOn_eq_iff.mp hsame with hopen | ⟨hdays, -⟩
    · exact absurd hopen hmode
    · exact (effectiveOn_effectiveOnly.mp (hdays.mp (effectiveOn_effectiveOnly.mpr rfl))).symm
  · intro h compliance day hday
    rw [hcheck]
    refine congrArg (· >>= _) (verdictOn_eq_iff.mpr ?_)
    exact h.imp_right fun hdate => ⟨by rw [hdate day hday], Iff.rfl⟩

/-- Two spellings of one instant get one verdict exactly when the mode needs no compliance, or
    both of their dates are in the effective range or both outside, and the expiry is compared in
    the order of the instants for both or for neither. And `snapshot-check` compares the
    exchange-local date exactly when it compares none, or its datetime is on the day of the
    exchange. -/
theorem validate_spelling_iff (profile : ComplianceProfile Tz) (mode : TradingMode)
    (settings : Universe.UniverseSettings) (calendarVersion : String)
    (calendar : NseExchangeCalendar) (master : InstrumentMasterSnapshot)
    (now other : AwareDatetime Tz) (clock : Datetime Tz) (instant : Option (Datetime Tz))
    (hsame : now.instant = other.instant) (hread : instant.getD clock = now.toDatetime) :
    (validate now.toDatetime profile mode = validate other.toDatetime profile mode ↔
      ¬ Gated mode ∨ ((profile.EffectiveOn now.date ↔ profile.EffectiveOn other.date) ∧
        (ComparesInstants now profile.expiresAt ↔ ComparesInstants other profile.expiresAt))) ∧
    (ComparesLocalDate mode settings calendarVersion calendar master clock instant now ↔
      ¬ Gated mode ∨ OnExchangeDay calendar now) := by
  constructor
  · rw [validate_eq, validate_eq, verdictOn_eq_iff, after_iff_after_iff hsame]
  · exact comparesLocalDate_iff profile hread

end Dates

end Godzilla.Compliance

/-! Midnight in India at the end of the last effective day, and the hour that London repeats. -/

namespace Godzilla.Compliance.Sample
open MarketData Godzilla.Sample

/-- Zones of the sample. -/
inductive Zone where
  | utc
  | india
  | london
  deriving DecidableEq, Repr

/-- 2026-10-25, the end of summer time in London. -/
def summerEnd : Date := 20751

/-- The UTC offset of a zone; that of London around the end of summer time. -/
def zoneOffset : Zone → Int → Bool → Duration
  | .utc, _, _ => 0
  | .india, _, _ => minutesOf 330
  | .london, wall, fold =>
    if wall < daysOf summerEnd + minutesOf 60 then minutesOf 60
    else if wall < daysOf summerEnd + minutesOf 120 ∧ fold = false then minutesOf 60
    else 0

theorem zoneOffset_lt (zone : Zone) (wall : Int) (fold : Bool) :
    ∀ offset ∈ some (zoneOffset zone wall fold), -daysOf 1 < offset ∧ offset < daysOf 1 := by
  intro offset hoffset
  obtain rfl := Option.some.inj hoffset
  cases zone with
  | utc => exact (by decide : -daysOf 1 < (0 : Duration) ∧ (0 : Duration) < daysOf 1)
  | india => exact (by decide : -daysOf 1 < minutesOf 330 ∧ minutesOf 330 < daysOf 1)
  | london =>
    rw [zoneOffset]
    split
    · decide
    · split <;> decide

scoped instance zones : TzInfo Zone where
  utcoffset zone wall fold := some (zoneOffset zone wall fold)
  offset_lt := zoneOffset_lt
  zoneInfo key :=
    if key = "Asia/Kolkata" then .india else if key = "Europe/London" then .london else .utc

theorem reading_dated (day : Fin 30000) (minutes : Fin 1440) :
    IsDatetime (daysOf day + minutesOf minutes) := by
  have hday := day.isLt
  have hminutes := minutes.isLt
  simp only [IsDatetime, minInstant, maxInstant, daysOf, minutesOf]
  lia

/-- The wall clock of a zone at a minute of a day. -/
def reading (zone : Zone) (day : Fin 30000) (minutes : Fin 1440) (fold : Bool) :
    AwareDatetime Zone where
  wall := daysOf day + minutesOf minutes
  fold := fold
  tzinfo := some zone
  wall_dated := reading_dated day minutes
  offset := zoneOffset zone (daysOf day + minutesOf minutes) fold
  aware := rfl

/-- The rate limit of the local profile (`config/compliance.yaml:15-18`). -/
theorem exchange_threshold_pos : (0 : Int) < 10 := by decide

theorem configured_ops_le : (10 : Int) ≤ 10 := le_refl 10

theorem effective_year : (20544 : Date) ≤ 20818 := by decide

/-- A local paper profile that is effective from 2026-04-01 to 2026-12-31. -/
def profileUntil (expiresAt : AwareDatetime Zone)
    (h : expiresAt.After (reading .utc 0 0 false)) : ComplianceProfile Zone where
  profileId := "india-nse-local-paper"
  version := "1"
  intradayShortAllowed := true
  brokerPermissionVerified := true
  brokerRoute := .paperSimulator
  staticIpRequired := false
  staticIpRegistered := false
  apiTagging := ⟨false, true⟩
  rateLimit := ⟨10, 10, true, exchange_threshold_pos, exchange_threshold_pos, configured_ops_le⟩
  apiDailySessionResetRequired := false
  apiDailySessionResetVerified := true
  effectiveFrom := 20544
  effectiveTo := 20818
  reviewedAt := reading .utc 0 0 false
  expiresAt := expiresAt
  paperAllowed := true
  liveAllowed := false
  effective_ordered := effective_year
  reviewed_before := h

theorem expires_later : (reading .utc 29999 0 false).After (reading .utc 0 0 false) := by
  decide +kernel

theorem expires_in_fold :
    (reading .london 20751 90 false).After (reading .utc 0 0 false) := by
  decide +kernel

/-- The profile of the year, and one that expires at 01:30 in London before the clocks change. -/
def profile : ComplianceProfile Zone := profileUntil _ expires_later

def londonProfile : ComplianceProfile Zone := profileUntil _ expires_in_fold

/-- At 19:00 UTC it is 00:30 of the next day in India: the gate lets the UTC spelling pass and
    blocks the Indian one, and in UTC it compares the last day where the universe is built for
    the next one. At 01:15 of the repeated hour London's clock is before 01:30 and the instant is
    not: the gate lets the London spelling pass and the UTC one has expired. -/
theorem validate_spelling_differs :
    ((reading .utc 20818 1140 false).instant = (reading .india 20819 30 false).instant ∧
      validate (reading .utc 20818 1140 false).toDatetime profile .paper = .ok () ∧
      validate (reading .india 20819 30 false).toDatetime profile .paper = .error (.runtimeError
        "PAPER startup blocked by compliance: compliance profile outside effective date range") ∧
      (reading .utc 20818 1140 false).date = 20818 ∧
      localDate (MarketData.Sample.nseFrom 0) (reading .utc 20818 1140 false) = .ok 20819) ∧
    (reading .london 20751 75 true).instant = (reading .utc 20751 75 false).instant ∧
      validate (reading .london 20751 75 true).toDatetime londonProfile .paper = .ok () ∧
      validate (reading .utc 20751 75 false).toDatetime londonProfile .paper =
        .error (.runtimeError
          "PAPER startup blocked by compliance: compliance profile expired") := by
  decide +kernel

theorem participation_default : (0 : ℚ) < 1 / 100 ∧ (1 / 100 : ℚ) ≤ 1 := by norm_num

theorem liquidity_default : (0 : ℚ) ≤ 1 / 2 ∧ (1 / 2 : ℚ) ≤ 1 := by norm_num

theorem spread_default : (0 : Int) < 20 := by decide

def universeSettings : Universe.UniverseSettings where
  requireFoEligibilityForShort := true
  liquidityPercentileMin := 1 / 2
  maxSpreadBps := 20
  maxAdvParticipation := 1 / 100
  liquidity_range := liquidity_default
  spread_pos := spread_default
  participation_range := participation_default

scoped instance namespaceUuid : Universe.UniverseNamespace := ⟨fun _ => 1⟩

/-- A master of the last day that lists nothing. -/
def master : InstrumentMasterSnapshot where
  snapshotId := "master"
  version := "1"
  exchange := "NSE"
  asOf := 20818
  generatedAt := 0
  sourceReference := "exchange"
  instruments := []

/-- An hour earlier both spellings are on the last day, and so is the exchange. -/
theorem validate_spelling_iff_evening :
    validate (reading .utc 20818 1080 false).toDatetime profile .paper =
        validate (reading .india 20818 1410 false).toDatetime profile .paper ∧
      ComparesLocalDate .paper universeSettings "1" (MarketData.Sample.nseFrom 0) master
        (reading .utc 20818 1080 false).toDatetime none (reading .utc 20818 1080 false) := by
  obtain ⟨hsame, hdate⟩ := validate_spelling_iff profile .paper universeSettings "1"
    (MarketData.Sample.nseFrom 0) master (reading .utc 20818 1080 false)
    (reading .india 20818 1410 false) (reading .utc 20818 1080 false).toDatetime none
    (by decide +kernel) rfl
  exact ⟨hsame.mpr (.inr ⟨by decide +kernel, by decide +kernel⟩),
    hdate.mpr (.inr (by decide +kernel))⟩

end Godzilla.Compliance.Sample
