import Godzilla.Features.Models

/-!
# Session features for exhaustion and reversal

`features/vwap_reversion.py`: the versioned definition, the measured features and
`reversion_features`, which reads the closed bars of the session in order.
-/

namespace Godzilla.Features
open Godzilla MarketData

/-- `ReversionFeatureVersion` (`features/vwap_reversion.py:14-19`). -/
structure ReversionFeatureVersion where
  revision : String := "vwap-reversion-features-v1"
  scaleBars : Nat := 12
  scale_min : 3 ≤ scaleBars
  deriving DecidableEq

/-- `ReversionFeatures` (`features/vwap_reversion.py:22-39`). -/
structure ReversionFeatures (F : Type) [PyFloat F] where
  timestamp : Instant
  instrumentId : String
  source : String
  sessionVwap : F
  volatilityScale : F
  stretch : F
  impulse : F
  deceleratedImpulse : F
  reversal : F
  body : F
  closeLocation : F
  price : F
  definition : ReversionFeatureVersion
  inputHash : Digest
  scale_pos : 0 < volatilityScale
  location_range : 0 ≤ closeLocation ∧ closeLocation ≤ 1

/-- `ReversionFeatureVersion.version_hash` (`features/vwap_reversion.py:18-19`). -/
def ReversionFeatureVersion.versionHash [Platform] (version : ReversionFeatureVersion) : Digest :=
  contentHash version

end Godzilla.Features
