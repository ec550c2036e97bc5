import Godzilla.Compliance.Models
import Godzilla.MarketData.NseCalendar

/-!
# The compliance gate

`ComplianceGate.validate` (`compliance/service.py:14-25`) and the `snapshot-check` command
that runs it before it builds a universe (`app/cli.py:101-136`).
-/

namespace Godzilla.Compliance
open Godzilla MarketData Universe

/-- The modes that need compliance metadata. -/
def Gated (mode : TradingMode) : Prop := mode = .paper ∨ mode = .live

instance (mode : TradingMode) : Decidable (Gated mode) := inferInstanceAs (Decidable (_ ∨ _))

/-- `ComplianceViolation` for the issues, when there are any (`compliance/service.py:22-25`). -/
def raiseIssues (mode : TradingMode) (issues : List String) : Except PyError Unit :=
  if issues = [] then .ok ()
  else .error (.runtimeError
    (mode.value ++ " startup blocked by compliance: " ++ ", ".intercalate issues))

variable {Tz : Type} [DecidableEq Tz] [TzInfo Tz]

/-- `ComplianceGate.validate`, on a clock that reads `now` (`compliance/service.py:18-25`). -/
def validate (now : Datetime Tz) (profile : ComplianceProfile Tz) (mode : TradingMode) :
    Except PyError Unit :=
  if ¬ Gated mode then .ok ()
  else do
    let temporal ← profile.temporalIssues now
    raiseIssues mode (profile.structuralIssues mode ++ temporal)

/-- What `snapshot-check` prints (`app/cli.py:126-135`); the versions are of the files. -/
structure SnapshotReport where
  calendarVersion : String
  complianceVersion : String
  instrumentVersion : String
  sessionState : SessionState
  universeSnapshotId : Uuid
  longCount : Nat
  shortCount : Nat
  source : String := "local-fixtures-only"

variable [Platform]

/-- The wall clock of `instant.astimezone(self._timezone)`, which leaves a `datetime` of that very
    zone as it is. -/
def localWall (calendar : NseExchangeCalendar) (now : AwareDatetime Tz) : Except PyError Int :=
  if now.tzinfo = some (TzInfo.zoneInfo calendar.snapshot.timezone) then .ok now.wall
  else do
    let instant ← asDatetime now.instant
    asDatetime ((Platform.zoneInfo calendar.snapshot.timezone).wallClock instant)

/-- `NseExchangeCalendar.local_date` of an aware `datetime` (`market_data/calendar.py:119-122`). -/
def localDate (calendar : NseExchangeCalendar) (now : AwareDatetime Tz) : Except PyError Date := do
  let wall ← localWall calendar now
  .ok (wall / 86400000000)

variable [UniverseNamespace]

/-- What `_snapshot_check` does behind the gate (`app/cli.py:117-136`), after its files are
    read. -/
def checkUniverse (compliance : ComplianceProfile Tz) (settings : UniverseSettings)
    (calendarVersion : String) (calendar : NseExchangeCalendar)
    (master : InstrumentMasterSnapshot) (now : AwareDatetime Tz) :
    Except PyError SnapshotReport := do
  let day ← localDate calendar now
  let built ← build master compliance.toComplianceProfile settings day now.instant
  let wall ← localWall calendar now
  let state ← calendar.stateAt wall
  .ok
    { calendarVersion := calendarVersion
      complianceVersion := compliance.version
      instrumentVersion := master.version
      sessionState := state
      universeSnapshotId := built.snapshotId
      longCount := built.longTokens.length
      shortCount := built.shortTokens.length }

/-- `_snapshot_check` (`app/cli.py:107-136`); `clock` is the reading of the production clock. -/
def snapshotCheck (mode : TradingMode) (compliance : ComplianceProfile Tz)
    (settings : UniverseSettings) (calendarVersion : String) (calendar : NseExchangeCalendar)
    (master : InstrumentMasterSnapshot) (clock : Datetime Tz) (instant : Option (Datetime Tz)) :
    Except PyError SnapshotReport :=
  let now := instant.getD clock
  match now.aware? with
  | none => .error (.valueError "--at must include a UTC offset")
  | some aware => do
    validate now compliance mode
    checkUniverse compliance settings calendarVersion calendar master aware

end Godzilla.Compliance
