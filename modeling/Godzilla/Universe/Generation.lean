import Godzilla.MarketData.CalendarReads
import Godzilla.Universe.Builder

/-!
# When the snapshots of a call were generated

The engines compare `utc(generated_at)` of the universe and of the master with the time of the
call, once both are of its day. Neither model asks for a zone: without one `utc` raises a
`ValueError`, and with one it is an `OverflowError` outside the years one to 9999.
-/

namespace Godzilla.Universe
open Godzilla MarketData Misc

/-- Whether the `generated_at` of the universe and of the master carry a zone. -/
structure GeneratedAware where
  universeSnapshot : Bool := true
  master : Bool := true
  deriving DecidableEq, Repr

/-- `utc` of a `datetime` that may carry no zone (`market_data/models.py:19-22`). -/
def utcOf (aware : Bool) (instant : Instant) : Except PyError Instant :=
  if aware then utc instant else .error (.valueError "timestamp must be timezone-aware")

/-- The two conversions of `utc(universe.generated_at) > at or utc(master.generated_at) > at`,
    behind the comparison of the days (`alphas/momentum_breakout.py:99-102`). -/
def readGeneration (aware : GeneratedAware) (universeSnapshot : UniverseSnapshot)
    (master : InstrumentMasterSnapshot) (day : Date) (now : Instant) : Except PyError Unit :=
  if universeSnapshot.asOf ≠ day ∨ master.asOf ≠ day then .ok ()
  else do
    let generated ← utcOf aware.universeSnapshot universeSnapshot.generatedAt
    if now < generated then .ok ()
    else do
      let _ ← utcOf aware.master master.generatedAt
      .ok ()

/-- Whether `utc` reads a `generated_at`, or raises a `ValueError` that is to be caught. -/
def UtcReads (caught : Prop) (aware : Bool) (instant : Instant) : Prop :=
  if aware then IsDatetime instant else caught

/-- Whether both conversions can be made, as far as the code comes to them. -/
def GenerationDated (caught : Prop) (aware : GeneratedAware) (universeSnapshot : UniverseSnapshot)
    (master : InstrumentMasterSnapshot) (day : Date) (now : Instant) : Prop :=
  universeSnapshot.asOf = day → master.asOf = day →
    UtcReads caught aware.universeSnapshot universeSnapshot.generatedAt ∧
      (aware.universeSnapshot = true → universeSnapshot.generatedAt ≤ now →
        UtcReads caught aware.master master.generatedAt)

section Facts

variable {handled : PyError → Prop} {caught : Prop} (handler : DateHandler handled caught)

theorem utcOf_ok {aware : Bool} {instant result : Instant} (h : utcOf aware instant = .ok result) :
    aware = true ∧ result = instant := by
  rw [utcOf] at h
  split at h
  · next haware => exact ⟨haware, (asDatetime_ok h).1⟩
  · cases h

include handler in
theorem utcOf_raises_iff {aware : Bool} {instant : Instant} :
    OnlyRaises handled (utcOf aware instant) ↔ UtcReads caught aware instant := by
  cases aware with
  | true => exact asDatetime_raises_iff handler
  | false =>
    exact ⟨fun h => (handler.malformed _).mp (h _ rfl),
      fun h => onlyRaises_error ((handler.malformed _).mpr h)⟩

include handler in
theorem readGeneration_raises_iff {aware : GeneratedAware} {universeSnapshot : UniverseSnapshot}
    {master : InstrumentMasterSnapshot} {day : Date} {now : Instant} :
    OnlyRaises handled (readGeneration aware universeSnapshot master day now) ↔
      GenerationDated caught aware universeSnapshot master day now := by
  rw [readGeneration, GenerationDated]
  by_cases hday : universeSnapshot.asOf ≠ day ∨ master.asOf ≠ day
  · rw [if_pos hday]
    refine iff_of_true (onlyRaises_ok _) fun huniverse hmaster => ?_
    exact absurd hday (not_or.mpr ⟨not_not.mpr huniverse, not_not.mpr hmaster⟩)
  rw [if_neg hday]
  rw [not_or, not_not, not_not] at hday
  rw [forall_prop_of_true hday.1, forall_prop_of_true hday.2, onlyRaises_bind_iff,
    utcOf_raises_iff handler]
  refine and_congr_right fun hreads => ⟨fun h haware hnow => ?_, fun h generated hgenerated => ?_⟩
  · have hgenerated : utcOf aware.universeSnapshot universeSnapshot.generatedAt =
        .ok universeSnapshot.generatedAt := by
      rw [UtcReads, if_pos haware] at hreads
      rw [utcOf, if_pos haware]
      exact asDatetime_eq hreads
    have hmaster := h _ hgenerated
    rw [if_neg (not_lt.mpr hnow)] at hmaster
    exact (utcOf_raises_iff handler).mp ((onlyRaises_bind_iff.mp hmaster).1)
  · obtain ⟨haware, rfl⟩ := utcOf_ok hgenerated
    by_cases hnow : now < universeSnapshot.generatedAt
    · rw [if_pos hnow]
      exact onlyRaises_ok _
    · rw [if_neg hnow]
      exact ((utcOf_raises_iff handler).mpr (h haware (not_lt.mp hnow))).bind fun _ _ =>
        onlyRaises_ok _

end Facts

end Godzilla.Universe
