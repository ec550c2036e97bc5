import Godzilla.Alphas.PairsAttention
import Godzilla.Alphas.RelativeValueInventory
import Godzilla.Alphas.VwapReturns
import Godzilla.MarketData.NseCalendar

/-!
# Session gates

`allocate` and three engines work out from `session_on`, in UTC, when a session lets entries in;
`state_at` reads the local wall clock and compares times of the day. In a zone whose offset never
changes the two agree: a moment between an open and a final entry lies on the date of its session,
whatever zone the day of the session was looked up in. What `allocate` reads of the calendar is
modelled here with what it raises: the open of a session on the first date there is may lie before
the first datetime of UTC.
-/

namespace Godzilla.MarketData
open Godzilla Misc

section States

variable {calendar : NseExchangeCalendar} {wall : Int}

end States

variable [Platform]

variable {calendar : NseExchangeCalendar} {session : Session} {day : Date} {now : Instant}

end Godzilla.MarketData

namespace Godzilla.Portfolio
open Godzilla Misc MarketData MarketState Ensemble

variable {F : Type} [PyFloat F] [Platform]

/-- Whether UTC has the time of a call, and the open of the session of its day. -/
def GateDated (calendar : ExchangeCalendar) (now : Instant) : Prop :=
  IsDatetime now ∧ ∀ session, calendar.sessionOn (kolkata.localDate now) = .ok (some session) →
    IsDatetime (session.instantAt session.times.openTime)

variable {inputs : AllocationInputs F} {calendar : ExchangeCalendar}

section Agreement

variable {calendar : NseExchangeCalendar}

end Agreement

end Godzilla.Portfolio

namespace Godzilla.Alphas
open Godzilla Misc MarketData

variable {F : Type} [PyFloat F] [Platform]

end Godzilla.Alphas

namespace Godzilla.Portfolio
open Godzilla Misc MarketData Alphas

variable {F : Type} [PyFloat F] [PyMath F] [Platform] {calendar : NseExchangeCalendar}

end Godzilla.Portfolio

namespace Godzilla.Portfolio.Sample
open MarketData Alphas Alphas.Sample Godzilla.Sample

end Godzilla.Portfolio.Sample
