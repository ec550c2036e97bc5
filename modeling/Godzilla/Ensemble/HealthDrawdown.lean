import Godzilla.Ensemble.HealthCausality
import Godzilla.Ensemble.HealthPace
import Godzilla.Misc.Drawdown

/-!
# The drawdown of the returns

The loop of `measure_health` (`ensemble/health.py:51-55`) keeps the curve, its peak and
its drawdown. In exact arithmetic it is the pass of `Misc.Drawdown`, so the drawdown is
the greatest loss from a level of the curve to a later one, the level before the first
trade among them.
-/

namespace Godzilla.Ensemble
open Godzilla Misc Features MarketState

section Loop

variable {F : Type} [PyFloat F]

/-- `returns` (`ensemble/health.py:50`). -/
def returnsOf (trades : List TradeOutcome) : List F :=
  trades.map fun trade => PyFloat.ofDecimal (trade.pnl / trade.grossCapital.value)

/-- The drawdown after the loop over the returns (`ensemble/health.py:51-55`). -/
def returnDrawdown (returns : List F) : F := (returns.foldl Curve.step ⟨0, 0, 0⟩).drawdown

/-- What is measured of a window is the drawdown of its returns. -/
theorem measure_drawdown (trades : List TradeOutcome) :
    (measure trades : Measured F).drawdown = returnDrawdown (returnsOf trades) := rfl

end Loop

/-- The curve as the state of a pass. -/
def Curve.state (curve : Curve ℚ) : PathState ℚ := ⟨curve.curve, curve.peak, curve.drawdown⟩

theorem Curve.state_step (curve : Curve ℚ) (value : ℚ) :
    (curve.step value).state = curve.state.step value := rfl

theorem Curve.state_foldl (returns : List ℚ) (curve : Curve ℚ) :
    (returns.foldl Curve.step curve).state = returns.foldl PathState.step curve.state := by
  induction returns generalizing curve with
  | nil => rfl
  | cons value rest ih =>
    simp only [List.foldl_cons]
    rw [ih, Curve.state_step]

/-- The loop finds the greatest fall of the curve. -/
theorem returnDrawdown_isGreatest (returns : List ℚ) :
    IsGreatest (falls returns) (returnDrawdown returns) := by
  have htracks := (PathState.tracks_foldl returns).fall
  have hstate := Curve.state_foldl returns ⟨0, 0, 0⟩
  have hstart : (⟨0, 0, 0⟩ : Curve ℚ).state = ⟨0, 0, 0⟩ := rfl
  rw [← hstart, ← hstate] at htracks
  exact htracks

/-- The drawdown of the returns is the greatest `S i - S j` with `i ≤ j`, where `S` sums the
    first returns. It is not negative, it is zero exactly when no return is negative, and
    further trades do not make it smaller. It is what is measured of every window with these
    returns. -/
theorem returnDrawdown_spec (returns : List ℚ) :
    IsGreatest {d | ∃ i j, i ≤ j ∧ j ≤ returns.length ∧
        d = (returns.take i).sum - (returns.take j).sum} (returnDrawdown returns) ∧
      0 ≤ returnDrawdown returns ∧
      (returnDrawdown returns = 0 ↔ ∀ value ∈ returns, 0 ≤ value) ∧
      (∀ more, returnDrawdown returns ≤ returnDrawdown (returns ++ more)) ∧
      ∀ trades : List TradeOutcome, returnsOf trades = returns →
        (measure trades : Measured ℚ).drawdown = returnDrawdown returns := by
  have hgreatest := returnDrawdown_isGreatest returns
  refine ⟨hgreatest, fall_nonneg hgreatest, fall_eq_zero_iff hgreatest, ?_, ?_⟩
  · intro more
    exact fall_le_append hgreatest (returnDrawdown_isGreatest (returns ++ more))
  · rintro trades rfl
    exact measure_drawdown trades

/-- The published drawdown is the greatest fall over the window of the trades known at the
    measurement. -/
theorem measureHealth_drawdown [Platform] {alpha : AlphaId} {cfg : AlphaHealthSettings ℚ}
    {call : MeasureCall} {previous : Option (AlphaHealthSnapshot ℚ)}
    {snapshot : AlphaHealthSnapshot ℚ}
    (h : measureHealth alpha cfg call previous = .ok snapshot) :
    IsGreatest (falls (returnsOf
      (lastItems cfg.windowTrades (closedTrades alpha call.now call.outcomes)))) snapshot.drawdown := by
  by_cases hconflict : Conflicting alpha call.now call.outcomes
  · obtain ⟨e, he⟩ := measureHealth_of_conflicting cfg previous hconflict
    rw [he] at h
    cases h
  · rw [measureHealth_of_agreeing cfg previous (not_conflicting_iff.mp hconflict)] at h
    simp only [measureTrades] at h
    split at h
    · cases h
    rename_i hpredecessor
    split at h
    · cases h
    have hsnapshot := healthSnapshot_ok (measure_coherent _)
      (fun p hp hinvalid => hpredecessor ⟨p, hp, hinvalid⟩) h
    rw [hsnapshot.drawdown, measure_drawdown]
    exact returnDrawdown_isGreatest _

end Godzilla.Ensemble
