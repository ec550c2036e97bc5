import Godzilla.Core.Platform

/-!
# The replay clock

`ReplayClock` (`core/clock.py:46-59`): receipt time that never moves backwards.
Instants are aware by construction.
-/

namespace Godzilla

/-- `ReplayClock` (`core/clock.py:46-50`). -/
structure ReplayClock where
  instant : Instant
  deriving DecidableEq, Repr

/-- `ReplayClock.advance_to` (`core/clock.py:55-59`). -/
def ReplayClock.advanceTo (clock : ReplayClock) (instant : Instant) :
    Except PyError ReplayClock :=
  if instant < clock.instant then .error (.valueError "replay clock cannot move backwards")
  else .ok ⟨instant⟩

end Godzilla
