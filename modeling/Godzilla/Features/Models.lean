import Godzilla.Core.Float
import Godzilla.MarketData.Models

/-!
# Feature inputs and snapshots

`features/models.py`: explicit missingness, the context that names the
instruments a snapshot may read, and the content-addressed snapshot itself.
Fields with a single permitted value (`formula_revision`) are left out.
-/

namespace Godzilla.Features
open Godzilla

/-- `MissingReason` (`features/models.py:25-31`). -/
inductive MissingReason where
  | warmup
  | missingInput
  | invalidInput
  | stale
  | zeroDenominator
  | notImplemented
  deriving DecidableEq, Repr

/-- `str(reason)` of the `StrEnum`. -/
def MissingReason.text : MissingReason → String
  | warmup => "WARMUP"
  | missingInput => "MISSING_INPUT"
  | invalidInput => "INVALID_INPUT"
  | stale => "STALE"
  | zeroDenominator => "ZERO_DENOMINATOR"
  | notImplemented => "NOT_IMPLEMENTED"

/-- `FeatureValue` (`features/models.py:34-43`). -/
structure FeatureValue (F : Type) where
  name : String
  value : Option F
  reason : Option MissingReason := none
  /-- `explicit_missingness`: a value is missing exactly when a reason is given. -/
  explicit : value = none ↔ reason.isSome
  deriving DecidableEq

/-- `FeatureSetVersion` (`features/models.py:46-58`). -/
structure FeatureSetVersion (F : Type) [PyFloat F] where
  name : String := "godzilla-causal-v1"
  openingRangeBars : Nat := 3
  atrBars : Nat := 14
  statisticsBars : Nat := 20
  baselineSessions : Nat := 20
  swingConfirmationBars : Nat := 2
  quoteStaleSeconds : F
  spreadWindowSeconds : F
  openingRange_pos : 1 ≤ openingRangeBars
  atr_pos : 2 ≤ atrBars
  statistics_pos : 2 ≤ statisticsBars
  baseline_pos : 1 ≤ baselineSessions
  swing_pos : 1 ≤ swingConfirmationBars
  quoteStale_pos : 0 < quoteStaleSeconds
  spreadWindow_pos : 0 < spreadWindowSeconds
  deriving DecidableEq

/-- `InstrumentRef` (`features/models.py:61-63`). -/
structure InstrumentRef where
  instrumentId : String
  source : String
  deriving DecidableEq, Repr

/-- `FeatureContext` (`features/models.py:66-88`). -/
structure FeatureContext (F : Type) where
  entity : InstrumentRef
  nifty : Option InstrumentRef := none
  sector : Option InstrumentRef := none
  vix : Option InstrumentRef := none
  pair : Option InstrumentRef := none
  breadthMembers : List InstrumentRef := []
  sectorMembers : List InstrumentRef := []
  universeVersion : String
  knownAt : Instant
  validFrom : Instant
  validTo : Instant
  proposedQuantity : Option F := none
  window_ordered : validFrom < validTo
  breadth_unique : breadthMembers.Nodup
  sector_unique : sectorMembers.Nodup
  deriving DecidableEq

/-- `FeatureSnapshot` (`features/models.py:91-117`). -/
structure FeatureSnapshot (F : Type) where
  entity : String
  timestamp : Instant
  featureSetHash : Digest
  contextHash : Digest
  inputHash : Digest
  codeCommit : String
  configHash : Digest
  dataSnapshot : String
  values : List (FeatureValue F)
  /-- `ordered_unique_features`. -/
  ordered_unique : (values.map (·.name)).Pairwise (· < ·)
  deriving DecidableEq

/-- `{item.name: item for item in snapshot.values}.get(name)`; the names are distinct. -/
def FeatureSnapshot.lookup {F : Type} (snapshot : FeatureSnapshot F) (name : String) :
    Option (FeatureValue F) :=
  snapshot.values.find? fun item => item.name == name

variable [Platform] {F : Type}

/-- `FeatureSnapshot.snapshot_hash` (`features/models.py:113-114`). -/
def FeatureSnapshot.snapshotHash (snapshot : FeatureSnapshot F) : Digest := contentHash snapshot

/-- `FeatureSetVersion.version_hash` (`features/models.py:57-58`). -/
def FeatureSetVersion.versionHash [PyFloat F] (version : FeatureSetVersion F) : Digest :=
  contentHash version

end Godzilla.Features
