import Godzilla.Core.Time

/-!
# Health status

The status scale of `core/health.py:14-18`, an `IntEnum` whose value the router
records as evidence, and the observation of one component. The free-form
`details` of an observation are read by nothing and are left out.
-/

namespace Godzilla

/-- `HealthStatus` (`core/health.py:14-18`). -/
inductive HealthStatus where
  | healthy
  | unknown
  | degraded
  | unhealthy
  deriving DecidableEq, Repr

/-- The integer value of the status. -/
def HealthStatus.code : HealthStatus → Int
  | healthy => 0
  | unknown => 1
  | degraded => 2
  | unhealthy => 3

/-- `ComponentHealth` (`core/health.py:21-34`). -/
structure ComponentHealth where
  component : String
  status : HealthStatus
  observedAt : Instant
  message : String := ""
  blocking : Bool := false
  deriving DecidableEq, Repr

theorem HealthStatus.code_eq_healthy {s : HealthStatus} :
    s.code = HealthStatus.healthy.code ↔ s = .healthy := by
  cases s <;> simp [HealthStatus.code]

end Godzilla
