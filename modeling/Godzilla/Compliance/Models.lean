import Godzilla.Config.Modes
import Godzilla.Universe.Builder

/-!
# Compliance profiles

`ComplianceProfile` and its checks (`compliance/models.py`). A `datetime` keeps its wall clock
and its `tzinfo` here: `temporal_issues` takes its date from the wall clock, and two datetimes
of one `tzinfo` object are compared by theirs.
-/

namespace Godzilla.Compliance
open Godzilla

/-- The `tzinfo` objects that datetimes carry; equal ones are one object. -/
class TzInfo (Tz : Type) where
  /-- `tz.utcoffset` of the reading of a wall clock and its fold. -/
  utcoffset : Tz → Int → Bool → Option Duration
  offset_lt : ∀ tz wall fold, ∀ offset ∈ utcoffset tz wall fold,
    -daysOf 1 < offset ∧ offset < daysOf 1
  /-- The object that `ZoneInfo` keeps for a key. -/
  zoneInfo : String → Tz

/-- A `datetime`: the reading of its wall clock, in microseconds from the epoch midnight, the fold
    that tells a repeated reading from the first one, and the `tzinfo` that a naive one lacks. -/
structure Datetime (Tz : Type) where
  wall : Int
  fold : Bool := false
  tzinfo : Option Tz
  wall_dated : IsDatetime wall

namespace Datetime

variable {Tz : Type} (time : Datetime Tz)

/-- `datetime.date()`. -/
def date : Date := time.wall / 86400000000

/-- `datetime.utcoffset()`. -/
def utcOffset [TzInfo Tz] : Option Duration :=
  time.tzinfo.bind fun tz => TzInfo.utcoffset tz time.wall time.fold

end Datetime

/-- A `datetime` that knows its offset. -/
structure AwareDatetime (Tz : Type) [TzInfo Tz] extends Datetime Tz where
  offset : Duration
  aware : toDatetime.utcOffset = some offset

section Aware

variable {Tz : Type} [TzInfo Tz]

/-- A `datetime` whose `tzinfo` and `utcoffset()` are not `None`. -/
def Datetime.aware? (time : Datetime Tz) : Option (AwareDatetime Tz) :=
  match h : time.utcOffset with
  | none => none
  | some offset => some { time with offset := offset, aware := h }

/-- The instant of an aware `datetime`. -/
def AwareDatetime.instant (time : AwareDatetime Tz) : Int := time.wall - time.offset

/-- `time > other`: two datetimes of one `tzinfo` are compared by their wall clocks, others by
    their instants. -/
def AwareDatetime.After [DecidableEq Tz] (time other : AwareDatetime Tz) : Prop :=
  if time.tzinfo = other.tzinfo then other.wall < time.wall else other.instant < time.instant

instance [DecidableEq Tz] (time other : AwareDatetime Tz) : Decidable (time.After other) :=
  inferInstanceAs (Decidable (ite _ _ _))

theorem AwareDatetime.aware?_toDatetime (time : AwareDatetime Tz) :
    time.toDatetime.aware? = some time := by
  obtain ⟨time, offset, haware⟩ := time
  change time.aware? = _
  rw [Datetime.aware?]
  split
  · next hnone => cases haware.symm.trans hnone
  · next found hfound =>
    obtain rfl := Option.some.inj (haware.symm.trans hfound)
    rfl

end Aware

/-- `BrokerRoute` (`compliance/models.py:13-17`). -/
inductive BrokerRoute where
  | paperSimulator
  | clientDirectApi
  | memberFrontend
  | brokerHostedProvider
  deriving DecidableEq, Repr

/-- `ApiTaggingRule` (`compliance/models.py:32-36`), without the scheme. -/
structure ApiTaggingRule where
  required : Bool
  verified : Bool
  deriving DecidableEq, Repr

/-- `RateLimitRule` (`compliance/models.py:39-50`). -/
structure RateLimitRule where
  exchangeThresholdOps : Int
  configuredMaxOps : Int
  verified : Bool
  threshold_pos : 0 < exchangeThresholdOps
  configured_pos : 0 < configuredMaxOps
  /-- `configured_limit_cannot_exceed_exchange_threshold`. -/
  configured_le : configuredMaxOps ≤ exchangeThresholdOps
  deriving DecidableEq, Repr

/-- `ComplianceProfile` (`compliance/models.py:67-106`): what the universe builder reads and
    what the gate checks. -/
structure ComplianceProfile (Tz : Type) [DecidableEq Tz] [TzInfo Tz]
    extends Universe.ComplianceProfile where
  version : String
  brokerRoute : BrokerRoute
  staticIpRequired : Bool
  staticIpRegistered : Bool
  apiTagging : ApiTaggingRule
  rateLimit : RateLimitRule
  apiDailySessionResetRequired : Bool
  apiDailySessionResetVerified : Bool
  effectiveFrom : Date
  effectiveTo : Date
  /-- `timestamps_are_aware`. -/
  reviewedAt : AwareDatetime Tz
  /-- `timestamps_are_aware`. -/
  expiresAt : AwareDatetime Tz
  paperAllowed : Bool
  liveAllowed : Bool
  /-- `validate_ordering`. -/
  effective_ordered : effectiveFrom ≤ effectiveTo
  /-- `validate_ordering`. -/
  reviewed_before : expiresAt.After reviewedAt

namespace ComplianceProfile

variable {Tz : Type} [DecidableEq Tz] [TzInfo Tz] (profile : ComplianceProfile Tz)

/-- `ComplianceProfile.structural_issues` (`compliance/models.py:108-126`). -/
def structuralIssues (mode : TradingMode) : List String :=
  (if mode = .paper ∧ ¬ profile.paperAllowed then ["compliance.paper_allowed"] else []) ++
  if mode = .live then
    (if ¬ profile.liveAllowed then ["compliance.live_allowed"] else []) ++
    (if profile.brokerRoute = .paperSimulator then ["compliance.broker_route"] else []) ++
    (if profile.staticIpRequired ∧ ¬ profile.staticIpRegistered then
      ["compliance.static_ip_registered"] else []) ++
    (if profile.apiTagging.required ∧ ¬ profile.apiTagging.verified then
      ["compliance.api_tagging.verified"] else []) ++
    (if ¬ profile.rateLimit.verified then ["compliance.rate_limit.verified"] else []) ++
    (if ¬ profile.brokerPermissionVerified then
      ["compliance.short_eligibility.broker_permission_verified"] else []) ++
    (if profile.apiDailySessionResetRequired ∧ ¬ profile.apiDailySessionResetVerified then
      ["compliance.api_daily_session_reset_verified"] else [])
  else []

/-- `self.effective_from <= day <= self.effective_to`. -/
def EffectiveOn (day : Date) : Prop := profile.effectiveFrom ≤ day ∧ day ≤ profile.effectiveTo

instance (day : Date) : Decidable (profile.EffectiveOn day) :=
  inferInstanceAs (Decidable (_ ∧ _))

/-- The issue of a date outside the effective range. -/
def dateIssues (day : Date) : List String :=
  if ¬ profile.EffectiveOn day then ["compliance profile outside effective date range"] else []

/-- The issue of a time after the expiry. -/
def expiryIssues (now : AwareDatetime Tz) : List String :=
  if now.After profile.expiresAt then ["compliance profile expired"] else []

/-- `ComplianceProfile.temporal_issues` (`compliance/models.py:128-136`). -/
def temporalIssues (now : Datetime Tz) : Except PyError (List String) :=
  match now.aware? with
  | none => .error (.valueError "compliance evaluation time must be timezone-aware")
  | some aware => .ok (profile.dateIssues now.date ++ profile.expiryIssues aware)

end ComplianceProfile

end Godzilla.Compliance
