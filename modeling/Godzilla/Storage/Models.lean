import Godzilla.Core.Events.Serialization
import Godzilla.Misc.Projection

/-!
# Tables

The rows of `storage/models.py` that an append writes, with the columns that are
not a second copy of another one, and the tables as a whole. A table is the list
of its rows in the order they were inserted.
-/

namespace Godzilla.Storage
open Godzilla Alphas Events MarketState Misc

/-- `AuditEventRow` (`storage/models.py:69-84`). -/
structure AuditEventRow where
  sequence : Nat
  eventId : Uuid
  correlationId : Uuid
  idempotencyKey : String
  eventType : String
  occurredAt : Instant
  receivedAt : Instant
  source : String
  provenanceId : Digest
  payloadHash : Digest
  previousHash : Digest
  chainHash : Digest
  envelope : Json

/-- `Bar1mRow` and `Bar5mRow` (`storage/models.py:87-110`). -/
structure BarRow where
  eventId : Uuid
  instrumentId : String
  barStart : Instant
  source : String
  payload : Json

/-- `QuoteRow` (`storage/models.py:113-122`). -/
structure QuoteRow where
  eventId : Uuid
  instrumentId : String
  timestamp : Instant
  source : String
  payload : Json

/-- `SystemStateRow` (`storage/models.py:125-136`). -/
structure SystemStateRow where
  snapshot : SystemStateSnapshot
  payload : Json

/-- `FeatureVersionRow` (`storage/models.py:139-143`). -/
structure FeatureVersionRow where
  versionHash : Digest
  name : String
  definition : Json

/-- `MarketStateRow` (`storage/models.py:146-153`). -/
structure MarketStateRow where
  decisionHash : Digest
  eventId : Uuid
  timestamp : Instant
  state : String
  configVersion : Digest
  payload : Json

/-- The side column of `AlphaSignalRow`. -/
inductive SignalSide where
  | longShort
  | spread (direction : SpreadDirection)
  | single (side : Side)
  deriving DecidableEq, Repr

/-- `AlphaSignalRow` (`storage/models.py:156-169`). -/
structure AlphaSignalRow (F : Type) where
  signalId : Uuid
  eventId : Uuid
  alphaId : String
  instrumentId : String
  symbol : String
  timestamp : Instant
  side : SignalSide
  score : F
  payload : Json

/-- `AlphaHealthRow` (`storage/models.py:172-178`), `EnsembleDecisionRow` and
    `PortfolioDecisionRow` (`storage/models.py:181-194`): a payload under its own key. -/
structure KeyedRow (κ : Type) where
  key : κ
  eventId : Uuid
  timestamp : Instant
  payload : Json

/-- `FeatureSnapshotRow` (`storage/models.py:197-206`). -/
structure FeatureSnapshotRow where
  snapshotHash : Digest
  eventId : Uuid
  featureSetHash : Digest
  entity : String
  timestamp : Instant
  inputHash : Digest
  payload : Json

/-- The tables that `_project` writes. -/
structure Projections (F : Type) where
  bars1m : List BarRow := []
  bars5m : List BarRow := []
  quotes : List QuoteRow := []
  featureVersions : Dict Digest FeatureVersionRow := .empty
  featureSnapshots : List FeatureSnapshotRow := []
  marketStates : List MarketStateRow := []
  alphaSignals : List (AlphaSignalRow F) := []
  alphaHealth : List (KeyedRow Digest) := []
  ensembleDecisions : List (KeyedRow Uuid) := []
  portfolioDecisions : List (KeyedRow Uuid) := []

/-- The tables that an append may write, and the next value of the sequence column. -/
structure Tables (F : Type) where
  audit : List AuditEventRow := []
  nextSequence : Nat := 1
  provenance : Dict Digest Provenance := .empty
  projections : Projections F := {}
  systemState : Dict String SystemStateRow := .empty

/-- Insert a row, raising `IntegrityError` when it repeats a unique key of another row. -/
def insertRow {Row : Type} (clash : Row → Row → Bool) (rows : List Row) (row : Row) :
    Except PyError (List Row) :=
  if rows.any (clash row) then .error (.databaseError "duplicate key value violates unique constraint")
  else .ok (rows ++ [row])

/-- A row that is inserted clashes with none. -/
theorem insertRow_ok {Row : Type} {clash : Row → Row → Bool} {rows rows' : List Row} {row : Row}
    (h : insertRow clash rows row = .ok rows') : Appends clash (some row) rows rows' := by
  unfold insertRow at h
  split at h
  · cases h
  · rename_i hany
    refine ⟨(Except.ok.inj h).symm, ?_⟩
    intro new hnew earlier hearlier
    obtain rfl := Option.mem_some_iff.mp hnew
    by_contra hclash
    exact hany (List.any_eq_true.mpr ⟨earlier, hearlier, by simpa using hclash⟩)

end Godzilla.Storage
