import Godzilla.MarketData.Instruments
import Godzilla.Misc.FrozenSet
import Godzilla.Misc.Sorted
import Mathlib.Data.String.Basic

/-!
# Universe snapshots

The point-in-time long and short universe of `universe/builder.py`: the snapshot that the
engines and the normaliser read, and its builder. The excluded symbols and sectors are
`frozenset`s, which `model_dump` lists in the order they are iterated over in.
-/

namespace Godzilla.Universe
open Godzilla MarketData Misc

/-- `ExclusionReason` (`universe/builder.py:20-29`). -/
inductive ExclusionReason where
  | notEffective
  | suspended
  | untradable
  | surveillance
  | dataAmbiguity
  | configSymbol
  | configSector
  | shortNotFoEligible
  | shortNotPermitted
  deriving DecidableEq, Repr

/-- `Exclusion` (`universe/builder.py:32-36`). -/
structure Exclusion where
  instrumentToken : String
  symbol : String
  reasons : List ExclusionReason
  deriving DecidableEq

/-- `UniverseSnapshot` (`universe/builder.py:39-48`). -/
structure UniverseSnapshot where
  snapshotId : Uuid
  asOf : Date
  generatedAt : Instant
  instrumentSnapshotId : String
  complianceProfileId : String
  longTokens : List String
  shortTokens : List String
  exclusions : List Exclusion
  deriving DecidableEq

/-- `UniverseSettings` (`config/models.py:67-75`). -/
structure UniverseSettings where
  requireFoEligibilityForShort : Bool
  liquidityPercentileMin : ℚ
  maxSpreadBps : Int
  maxAdvParticipation : ℚ
  excludedSymbols : FrozenSet String := ⟨[], List.nodup_nil⟩
  excludedSectors : FrozenSet String := ⟨[], List.nodup_nil⟩
  excludeSurveillance : Bool := true
  excludeDataAmbiguity : Bool := true
  liquidity_range : 0 ≤ liquidityPercentileMin ∧ liquidityPercentileMin ≤ 1
  spread_pos : 0 < maxSpreadBps
  participation_range : 0 < maxAdvParticipation ∧ maxAdvParticipation ≤ 1

/-- What the builder reads of a `ComplianceProfile` (`compliance/models.py`): its id and the
    rule on shorts. -/
structure ComplianceProfile where
  profileId : String
  intradayShortAllowed : Bool
  requireFoEligibility : Bool := true
  brokerPermissionVerified : Bool

/-- The value of the reason. -/
def ExclusionReason.value : ExclusionReason → String
  | notEffective => "NOT_EFFECTIVE"
  | suspended => "SUSPENDED"
  | untradable => "UNTRADABLE"
  | surveillance => "SURVEILLANCE"
  | dataAmbiguity => "DATA_AMBIGUITY"
  | configSymbol => "CONFIG_SYMBOL"
  | configSector => "CONFIG_SECTOR"
  | shortNotFoEligible => "SHORT_NOT_FO_ELIGIBLE"
  | shortNotPermitted => "SHORT_NOT_PERMITTED"

/-- `_base_exclusions` (`universe/builder.py:111-131`). -/
def baseExclusions (instrument : Instrument) (settings : UniverseSettings) (asOf : Date) :
    List ExclusionReason :=
  (if instrument.activeOn asOf then [] else [.notEffective]) ++
  (match instrument.status with
    | .suspended => [.suspended]
    | .untradable => [.untradable]
    | .active => []) ++
  (if settings.excludeSurveillance && instrument.surveillance then [.surveillance] else []) ++
  (if settings.excludeDataAmbiguity && instrument.dataAmbiguous then [.dataAmbiguity] else []) ++
  (if instrument.symbol ∈ settings.excludedSymbols then [.configSymbol] else []) ++
  (if instrument.sector ∈ settings.excludedSectors then [.configSector] else [])

/-- The reasons against a short (`universe/builder.py:75-83`). -/
def shortExclusions (instrument : Instrument) (compliance : ComplianceProfile)
    (settings : UniverseSettings) : List ExclusionReason :=
  (if !compliance.intradayShortAllowed || !compliance.brokerPermissionVerified then
    [.shortNotPermitted] else []) ++
  (if (settings.requireFoEligibilityForShort || compliance.requireFoEligibility) &&
      !instrument.foEligible then [.shortNotFoEligible] else [])

/-- What the loop has collected. -/
structure Eligibility where
  longs : List String := []
  shorts : List String := []
  exclusions : List Exclusion := []

/-- One instrument of the loop (`universe/builder.py:68-87`). -/
def Eligibility.step (compliance : ComplianceProfile) (settings : UniverseSettings) (asOf : Date)
    (found : Eligibility) (instrument : Instrument) : Eligibility :=
  let excluded (reasons : List ExclusionReason) : Exclusion :=
    ⟨instrument.token, instrument.symbol, reasons⟩
  match baseExclusions instrument settings asOf with
  | [] =>
    let eligible := { found with longs := found.longs ++ [instrument.token] }
    match shortExclusions instrument compliance settings with
    | [] => { eligible with shorts := found.shorts ++ [instrument.token] }
    | reasons => { eligible with exclusions := found.exclusions ++ [excluded reasons] }
  | reasons => { found with exclusions := found.exclusions ++ [excluded reasons] }

/-- `(item.symbol, item.token)`. -/
def listingKey (instrument : Instrument) : String ×ₗ String :=
  toLex (instrument.symbol, instrument.token)

/-- The loop over the sorted instruments (`universe/builder.py:65-87`). -/
def eligibility (instruments : List Instrument) (compliance : ComplianceProfile)
    (settings : UniverseSettings) (asOf : Date) : Eligibility :=
  (sortOn listingKey instruments).foldl (Eligibility.step compliance settings asOf) {}

/-- `uuid5(_UNIVERSE_NAMESPACE, name)`. -/
class UniverseNamespace where
  uuid5 : String → Uuid

variable [Platform]

/-- `settings.model_dump(mode="json")`, with sorted keys. -/
def UniverseSettings.dump (settings : UniverseSettings) : Json :=
  .obj
    [ ("exclude_data_ambiguity", .bool settings.excludeDataAmbiguity),
      ("exclude_surveillance", .bool settings.excludeSurveillance),
      ("excluded_sectors", .arr (settings.excludedSectors.order.map .str)),
      ("excluded_symbols", .arr (settings.excludedSymbols.order.map .str)),
      ("liquidity_percentile_min", Platform.modelDump settings.liquidityPercentileMin),
      ("max_adv_participation", Platform.modelDump settings.maxAdvParticipation),
      ("max_spread_bps", Platform.modelDump settings.maxSpreadBps),
      ("require_fo_eligibility_for_short", .bool settings.requireFoEligibilityForShort) ]

/-- `item.model_dump(mode="json")`, with sorted keys. -/
def Exclusion.dump (exclusion : Exclusion) : Json :=
  .obj
    [ ("instrument_token", .str exclusion.instrumentToken),
      ("reasons", .arr (exclusion.reasons.map fun reason => .str reason.value)),
      ("symbol", .str exclusion.symbol) ]

/-- The value behind `fingerprint`, with sorted keys (`universe/builder.py:88-100`). -/
def fingerprint (master : InstrumentMasterSnapshot) (compliance : ComplianceProfile)
    (settings : UniverseSettings) (asOf : Date) (found : Eligibility) : Json :=
  .obj
    [ ("as_of", Platform.modelDump asOf),
      ("compliance", .str compliance.profileId),
      ("exclusions", .arr (found.exclusions.map Exclusion.dump)),
      ("longs", .arr (found.longs.map .str)),
      ("master", .str master.snapshotId),
      ("settings", settings.dump),
      ("shorts", .arr (found.shorts.map .str)) ]

variable [UniverseNamespace]

/-- The id that a fingerprint gives a snapshot. -/
def universeId (value : Json) : Uuid := UniverseNamespace.uuid5 (Platform.sha256 value)

/-- `UniverseBuilder.build` (`universe/builder.py:52-109`). -/
def build (master : InstrumentMasterSnapshot) (compliance : ComplianceProfile)
    (settings : UniverseSettings) (asOf : Date) (generatedAt : Instant) :
    Except PyError UniverseSnapshot :=
  if master.asOf ≠ asOf then
    .error (.valueError "daily universe date must match instrument snapshot as_of")
  else
    let found := eligibility master.instruments compliance settings asOf
    .ok
      { snapshotId := universeId (fingerprint master compliance settings asOf found)
        asOf := asOf
        generatedAt := generatedAt
        instrumentSnapshotId := master.snapshotId
        complianceProfileId := compliance.profileId
        longTokens := found.longs
        shortTokens := found.shorts
        exclusions := found.exclusions }

end Godzilla.Universe
