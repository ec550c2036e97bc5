import Godzilla.Core.Platform
import Godzilla.Misc.Dict
import Mathlib.Algebra.Order.Field.Rat

/-!
# The instrument master

`market_data/instruments.py`: instruments with their effective dates, and the
master snapshot that lists them.
-/

namespace Godzilla.MarketData
open Godzilla

/-- `InstrumentStatus` (`market_data/instruments.py:15-18`). -/
inductive InstrumentStatus where
  | active
  | suspended
  | untradable
  deriving DecidableEq, Repr

/-- `PriceBand` (`market_data/instruments.py:27-37`). -/
structure PriceBand where
  lower : Option ℚ := none
  upper : Option ℚ := none
  category : Option String := none
  /-- `bounds_are_ordered`. -/
  ordered : ∀ l ∈ lower, ∀ u ∈ upper, l < u
  deriving DecidableEq

/-- `Instrument` (`market_data/instruments.py:40-64`). -/
structure Instrument where
  symbol : String
  token : String
  isin : String
  exchange : String
  segment : String
  tickSize : ℚ
  status : InstrumentStatus
  foEligible : Bool
  sector : String
  priceBand : PriceBand
  surveillance : Bool := false
  dataAmbiguous : Bool := false
  effectiveFrom : Date
  effectiveTo : Date
  tickSize_pos : 0 < tickSize
  /-- `effective_dates_are_ordered`. -/
  dates_ordered : effectiveFrom ≤ effectiveTo
  deriving DecidableEq

/-- `Instrument.active_on` (`market_data/instruments.py:63-64`). -/
def Instrument.activeOn (instrument : Instrument) (day : Date) : Prop :=
  instrument.effectiveFrom ≤ day ∧ day ≤ instrument.effectiveTo

instance (instrument : Instrument) (day : Date) : Decidable (instrument.activeOn day) :=
  inferInstanceAs (Decidable (_ ∧ _))

/-- `InstrumentMasterSnapshot` (`market_data/instruments.py:78-86`). -/
structure InstrumentMasterSnapshot where
  snapshotId : String
  version : String
  exchange : String
  asOf : Date
  generatedAt : Instant
  sourceReference : String
  instruments : List Instrument
  deriving DecidableEq

/-- `{i.token: i for i in master.instruments}`. -/
def InstrumentMasterSnapshot.byToken (master : InstrumentMasterSnapshot) :
    Misc.Dict String Instrument :=
  Misc.Dict.index (·.token) master.instruments

/-- The checks on an instrument that the engines and the normaliser share: active today,
    under no surveillance and unambiguous. -/
def Instrument.Eligible (instrument : Instrument) (day : Date) : Prop :=
  instrument.status = .active ∧ instrument.activeOn day ∧ instrument.surveillance = false ∧
    instrument.dataAmbiguous = false

instance (instrument : Instrument) (day : Date) : Decidable (instrument.Eligible day) :=
  inferInstanceAs (Decidable (_ ∧ _))

end Godzilla.MarketData
