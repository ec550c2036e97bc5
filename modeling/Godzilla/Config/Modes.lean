/-!
# Operating modes and process states

`config/modes.py`.
-/

namespace Godzilla

/-- `TradingMode` (`config/modes.py:6-10`). -/
inductive TradingMode where
  | research
  | backtest
  | paper
  | live
  deriving DecidableEq, Repr

/-- The value of a mode. -/
def TradingMode.value : TradingMode → String
  | research => "RESEARCH"
  | backtest => "BACKTEST"
  | paper => "PAPER"
  | live => "LIVE"

/-- `SystemState` (`config/modes.py:13-20`). -/
inductive SystemState where
  | starting
  | ready
  | degraded
  | halted
  | emergency
  | stopping
  | stopped
  deriving DecidableEq, Repr

end Godzilla
