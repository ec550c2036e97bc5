import Godzilla.Features.Math
import Godzilla.Features.Models
import Godzilla.Misc.Dict
import Godzilla.Misc.Sorted
import Mathlib.Data.String.Basic

/-!
# Features of one price series

`features/series.py`: the values of a snapshot while it is computed, and the formulas
that stock, index and sector series share. A formula that meets a zero denominator or a
logarithm out of range raises, as in the code.
-/

namespace Godzilla.Features
open Godzilla MarketData Misc

/-- The arguments of one `put`. -/
structure Reading (F : Type) where
  name : String
  value : Option F
  missing : MissingReason := .warmup

/-- `HORIZONS` (`features/series.py:11`). -/
def horizons : List Nat := [5, 15, 30, 60, 120]

/-- `xs[-n:]`. -/
def lastN {α : Type} (n : Nat) (xs : List α) : List α := xs.drop (xs.length - n)

section Values

variable {F : Type} [PyFloat F]

/-- What `put` publishes: a value that is not finite is missing
    (`features/series.py:18-25`). -/
def Reading.publish (reading : Reading F) : FeatureValue F :=
  match reading.value with
  | some value =>
    if PyFloat.isFinite value then ⟨reading.name, some value, none, by simp⟩
    else ⟨reading.name, none, some .invalidInput, by simp⟩
  | none => ⟨reading.name, none, some reading.missing, by simp⟩

/-- `Values` (`features/series.py:14-25`); every value stands under its own name. -/
structure Values (F : Type) where
  values : Dict String (FeatureValue F)
  named : ∀ name item, values.get? name = some item → item.name = name

theorem Reading.name_publish (reading : Reading F) : reading.publish.name = reading.name := by
  rw [publish]
  split
  · split <;> rfl
  · rfl

/-- A published value is the finite value of its reading. -/
theorem Reading.value_publish {reading : Reading F} {value : F}
    (h : reading.publish.value = some value) : reading.value = some value := by
  rw [publish] at h
  split at h
  · next own hown =>
    split at h
    · rw [hown]
      exact h
    · cases h
  · cases h

namespace Values

/-- `Values()`. -/
def empty : Values F where
  values := .empty
  named := nofun

/-- `Values.put` (`features/series.py:18-25`). -/
def put (result : Values F) (reading : Reading F) : Values F where
  values := result.values.insert reading.name reading.publish
  named name item h := by
    rw [Dict.get?_insert] at h
    split at h
    · next heq =>
      obtain rfl := Option.some.inj h
      rw [reading.name_publish, heq]
    · exact result.named name item h

/-- One `put` after the other. -/
def putAll (result : Values F) (readings : List (Reading F)) : Values F := readings.foldl put result

/-- `result.values[name].value`. -/
def value (result : Values F) (name : String) : Option F :=
  (result.values.get? name).bind (·.value)

/-- `tuple(result.values[name] for name in sorted(result.values))`. -/
def sorted (result : Values F) : List (FeatureValue F) :=
  (sortOn id result.values.keys).filterMap result.values.get?

theorem get?_put (result : Values F) (reading : Reading F) (name : String) :
    (result.put reading).values.get? name =
      if name = reading.name then some reading.publish else result.values.get? name :=
  Dict.get?_insert _ _ _ _

/-- A name that no reading has keeps its value. -/
theorem get?_putAll_of_not_mem {readings : List (Reading F)} {name : String}
    (h : name ∉ readings.map (·.name)) (result : Values F) :
    (result.putAll readings).values.get? name = result.values.get? name := by
  induction readings generalizing result with
  | nil => rfl
  | cons reading rest ih =>
    simp only [List.map_cons, List.mem_cons, not_or] at h
    have hstep : (result.putAll (reading :: rest)) = (result.put reading).putAll rest := rfl
    rw [hstep, ih h.2, get?_put, if_neg h.1]

/-- A name that one reading has is published from it. -/
theorem get?_putAll_of_mem {readings : List (Reading F)} {reading : Reading F}
    (hmem : reading ∈ readings) (hnodup : (readings.map (·.name)).Nodup) (result : Values F) :
    (result.putAll readings).values.get? reading.name = some reading.publish := by
  induction readings generalizing result with
  | nil => cases hmem
  | cons first rest ih =>
    obtain ⟨hfirst, hrest⟩ := List.nodup_cons.mp hnodup
    have hstep : (result.putAll (first :: rest)) = (result.put first).putAll rest := rfl
    rcases List.mem_cons.mp hmem with rfl | hmem
    · rw [hstep, get?_putAll_of_not_mem hfirst, get?_put, if_pos rfl]
    · rw [hstep]
      exact ih hmem hrest _

theorem putAll_append (result : Values F) (xs ys : List (Reading F)) :
    result.putAll (xs ++ ys) = (result.putAll xs).putAll ys := List.foldl_append

omit [PyFloat F] in
/-- The names of the sorted values are the sorted names. -/
theorem map_name_sorted (result : Values F) :
    result.sorted.map (·.name) = sortOn id result.values.keys := by
  have hkeys : ∀ name ∈ sortOn id result.values.keys, (result.values.get? name).isSome :=
    fun name hname => (Dict.mem_keys_iff _).mp (mem_sortOn.mp hname)
  rw [sorted]
  generalize sortOn id result.values.keys = names at hkeys
  induction names with
  | nil => rfl
  | cons name rest ih =>
    obtain ⟨item, hitem⟩ := Option.isSome_iff_exists.mp (hkeys name List.mem_cons_self)
    rw [List.filterMap_cons_some hitem, List.map_cons, result.named name item hitem,
      ih fun other hother => hkeys other (List.mem_cons_of_mem _ hother)]

omit [PyFloat F] in
/-- The sorted values meet the order a snapshot requires. -/
theorem sorted_pairwise (result : Values F) :
    (result.sorted.map (·.name)).Pairwise (· < ·) := by
  rw [map_name_sorted]
  have hnodup : (sortOn id result.values.keys).Nodup :=
    (sortOn_perm id _).nodup_iff.mpr (Dict.keys_nodup _)
  exact ((sortOn_pairwise id _).and hnodup).imp fun hlt => lt_of_le_of_ne hlt.1 hlt.2

omit [PyFloat F] in
theorem mem_sorted {result : Values F} {item : FeatureValue F} :
    item ∈ result.sorted ↔ result.values.get? item.name = some item := by
  rw [sorted, List.mem_filterMap]
  constructor
  · rintro ⟨name, -, hget⟩
    rwa [result.named name item hget]
  · intro hget
    refine ⟨item.name, mem_sortOn.mpr ((Dict.mem_keys_iff _).mpr ?_), hget⟩
    rw [hget]
    rfl

omit [PyFloat F] in
/-- A name is looked up in the sorted values as in the values. -/
theorem find?_sorted (result : Values F) (name : String) :
    (result.sorted.find? fun item => item.name == name) = result.values.get? name := by
  cases hfind : result.sorted.find? fun item => item.name == name with
  | some item =>
    have hname : item.name = name := by simpa using List.find?_some hfind
    rw [← hname, mem_sorted.mp (List.mem_of_find?_eq_some hfind)]
  | none =>
    cases hget : result.values.get? name with
    | none => rfl
    | some item =>
      have hname := result.named name item hget
      have hmem : item ∈ result.sorted := mem_sorted.mpr (by rw [hname, hget])
      exact absurd (beq_iff_eq.mpr hname) (List.find?_eq_none.mp hfind item hmem)

end Values

end Values

/-- `x / y` of floats, which raises for a zero divisor. -/
def divide {F : Type} [PyFloat F] (x y : F) : Except PyError F :=
  if y = 0 then .error (.arithmeticError "float division by zero") else .ok (x / y)

section Formulas

variable {F : Type} [PyFloat F]

/-- `tuple(float(bar.close) for bar in bars)`. -/
def closesOf (bars : List Bar) : List F := bars.map fun bar => PyFloat.ofDecimal bar.close

/-- `typical` (`features/series.py:28-29`). -/
def typical (bar : Bar) : F :=
  (PyFloat.ofDecimal bar.high + PyFloat.ofDecimal bar.low + PyFloat.ofDecimal bar.close) / 3

/-- The slope of a window relative to its first value (`features/series.py:44`). -/
def relativeSlope (window : List F) : Except PyError (Option F) :=
  match window.head? with
  | some first => do
    let rise ← slope window
    some <$> divide rise first
  | none => .ok none

/-- The return and the slope over a horizon (`features/series.py:40-45`). -/
def horizonReadings (series : String) (closes : List F) (missing : MissingReason) (horizon : Nat) :
    Except PyError (List (Reading F)) := do
  let bars := horizon / 5
  let window := if bars < closes.length then lastN (bars + 1) closes else []
  let change := match window.head?, window.getLast? with
    | some first, some last => ratioChange last first
    | _, _ => none
  let steepness ← relativeSlope window
  .ok [⟨series ++ ".return_" ++ toString horizon ++ "m", change, missing⟩,
    ⟨series ++ ".slope_" ++ toString horizon ++ "m", steepness, missing⟩]

/-- The moving average of a period and its change (`features/series.py:46-53`). -/
def emaReadings (series : String) (closes : List F) (missing : MissingReason) (period : Nat) :
    Except PyError (List (Reading F)) := do
  let curve ← ema closes period
  let change := match curve.reverse with
    | last :: before :: _ => ratioChange last before
    | _ => none
  .ok [⟨series ++ ".ema_" ++ toString period, curve.getLast?, missing⟩,
    ⟨series ++ ".ema_" ++ toString period ++ "_slope", change, missing⟩]

/-- The volume-weighted price of the session (`features/series.py:54-60`). -/
def vwapReadings (series : String) (bars : List Bar) (missing : MissingReason) :
    List (Reading F) :=
  let volume : F := PyFloat.sum (bars.map fun bar => PyFloat.ofDecimal bar.volume)
  let vwap := if 0 < volume then
      some (PyFloat.sum (bars.map fun bar => typical bar * PyFloat.ofDecimal bar.volume) / volume)
    else none
  let reason := if bars ≠ [] ∧ volume = 0 then .zeroDenominator else missing
  let distance := match (closesOf bars : List F).getLast?, vwap with
    | some last, some price => if price = 0 then none else some (last / price - 1)
    | _, _ => none
  [⟨series ++ ".session_vwap", vwap, reason⟩, ⟨series ++ ".vwap_distance", distance, reason⟩]

/-- The volatilities of the returns and of the ranges (`features/series.py:61-78`). -/
def volatilityReadings [PyMath F] (series : String) (bars : List Bar) (count : Nat)
    (missing : MissingReason) : Except PyError (List (Reading F)) := do
  let closes : List F := closesOf bars
  let logReturns ← (closes.zip closes.tail).mapM fun p => do
    let growth ← divide p.2 p.1
    logOf growth
  let ranges ← bars.mapM fun bar =>
    divide (PyFloat.ofDecimal (bar.high - bar.low) : F) (PyFloat.ofDecimal bar.close)
  let realized := if count ≤ logReturns.length then some (populationStd (lastN count logReturns))
    else none
  let rangeVolatility := if count ≤ ranges.length then
      some (PyMath.sqrt (PyFloat.fmean ((lastN count ranges).map fun value => value * value)))
    else none
  let percentile := if count < ranges.length then
      ranges.getLast?.map fun last =>
        PyFloat.ofInt ((lastN (count + 1) ranges).dropLast.countP fun value => value ≤ last) /
          PyFloat.ofInt count
    else none
  .ok [⟨series ++ ".realized_volatility", realized, missing⟩,
    ⟨series ++ ".range_volatility", rangeVolatility, missing⟩,
    ⟨series ++ ".range_percentile", percentile, missing⟩]

/-- The true range of a bar after a close (`features/series.py:79-86`). -/
def trueRange (bar : Bar) (previous : F) : F :=
  max (max (PyFloat.ofDecimal (bar.high - bar.low))
    (PyFloat.abs (PyFloat.ofDecimal bar.high - previous)))
    (PyFloat.abs (PyFloat.ofDecimal bar.low - previous))

/-- The average true range and the opening range (`features/series.py:79-103`). -/
def rangeReadings (series : String) (bars : List Bar) (version : FeatureSetVersion F)
    (missing : MissingReason) : List (Reading F) :=
  let ranges : List F := (bars.tail.zip (closesOf bars).dropLast).map fun p => trueRange p.1 p.2
  let average := if version.atrBars ≤ ranges.length then
      some (PyFloat.fmean (lastN version.atrBars ranges))
    else none
  let opening := if version.openingRangeBars ≤ bars.length then bars.take version.openingRangeBars
    else []
  [⟨series ++ ".atr", average, missing⟩,
    ⟨series ++ ".opening_range_high",
      (opening.map fun bar => (PyFloat.ofDecimal bar.high : F)).max?, missing⟩,
    ⟨series ++ ".opening_range_low",
      (opening.map fun bar => (PyFloat.ofDecimal bar.low : F)).min?, missing⟩]

/-- The bars that beat the `k` bars on either side, each found when the last of these is there
    (`features/series.py:104-113`). -/
def confirmedSwings (beats : Bar → Bar → Bool) (k : Nat) (bars : List Bar) : List Bar :=
  (List.range' (2 * k) (bars.length - 2 * k)).filterMap fun confirmed =>
    match bars[confirmed - k]? with
    | some bar =>
      let neighbors := (bars.drop (confirmed - 2 * k)).take k ++
        (bars.drop (confirmed - k + 1)).take k
      if neighbors.all (beats bar) then some bar else none
    | none => none

/-- The last confirmed swings (`features/series.py:104-115`). -/
def swingReadings (series : String) (bars : List Bar) (k : Nat) (missing : MissingReason) :
    List (Reading F) :=
  let highs := confirmedSwings (fun bar other => other.high < bar.high) k bars
  let lows := confirmedSwings (fun bar other => bar.low < other.low) k bars
  [⟨series ++ ".swing_high", highs.getLast?.map fun bar => PyFloat.ofDecimal bar.high, missing⟩,
    ⟨series ++ ".swing_low", lows.getLast?.map fun bar => PyFloat.ofDecimal bar.low, missing⟩]

/-- `series_features` (`features/series.py:32-115`). -/
def seriesFeatures [PyMath F] (series : String) (bars : List Bar) (version : FeatureSetVersion F)
    (missing : MissingReason) : Except PyError (List (Reading F)) := do
  let horizon ← horizons.mapM (horizonReadings series (closesOf bars) missing)
  let averages ← [9, 20].mapM (emaReadings series (closesOf bars) missing)
  let volatility ← volatilityReadings series bars version.statisticsBars missing
  .ok (horizon.flatten ++ averages.flatten ++ vwapReadings series bars missing ++ volatility ++
    rangeReadings series bars version missing ++
    swingReadings series bars version.swingConfirmationBars missing)

end Formulas

end Godzilla.Features
