import Godzilla.Features.Models
import Godzilla.MarketData.AggregationOrder

/-!
# The series of a session

`CausalFeatureEngine._session` (`features/engine.py:137-180`), on which every feature
rests: the bars of an instrument from the open to an endpoint, or nothing. A series is
one usable bar for every five minutes, whatever the order of the bars was.
-/

namespace Godzilla.Features
open Godzilla MarketData Misc

section Session

variable (F : Type) [PyFloat F]

/-- The prices and the volume of a bar. -/
def barNumbers (bar : Bar) : List ℚ := [bar.openPrice, bar.high, bar.low, bar.close, bar.volume]

/-- The checks on one bar of a series (`features/engine.py:162-175`). -/
def usableBar (now : Instant) (bar : Bar) : Bool :=
  (if bar.feedKind = .equity then (bar.requireStrategyReady now).isOk
    else bar.complete && decide ((bar.qualityFlags ∪ priceFlags bar) \ {.zeroVolume} = ∅) &&
      decide (max bar.stop bar.receivedAt ≤ now)) &&
    (barNumbers bar).all fun value => PyFloat.isFinite (PyFloat.ofDecimal value : F)

/-- The bars of the instrument between the open and the endpoint
    (`features/engine.py:147-154`). -/
def selectBars (bars : List Bar) (ref : InstrumentRef) (opening endpoint : Instant) : List Bar :=
  bars.filter fun bar => bar.instrumentId = ref.instrumentId ∧ bar.source = ref.source ∧
    opening ≤ bar.start ∧ bar.start < endpoint ∧ bar.stop ≤ endpoint

/-- The starts of the whole five-minute intervals from the open to the endpoint
    (`features/engine.py:155,178`). -/
def sessionSlots (opening endpoint : Instant) : List Instant :=
  (List.range ((endpoint - opening) / secondsOf 300).toNat).map fun (i : Nat) =>
    opening + minutesOf (5 * i)

/-- `_session` (`features/engine.py:137-180`). -/
def session (bars : List Bar) (ref : Option InstrumentRef) (opening endpoint now : Instant) :
    List Bar × MissingReason :=
  match ref with
  | none => ([], .missingInput)
  | some ref =>
    let selected := selectBars bars ref opening endpoint
    let starts := (selected.map (·.start)).toFinset
    if selected = [] then ([], .missingInput)
    else if starts.card ≠ selected.length then ([], .invalidInput)
    else if ¬ selected.all (usableBar F now) then ([], .invalidInput)
    else if starts ≠ (sessionSlots opening endpoint).toFinset then ([], .missingInput)
    else (sortOn (·.start) selected, .warmup)

end Session

/-- A bar that a series may hold: an equity bar must be ready for strategies, a bar of a price
    feed may have no volume. -/
structure Usable (F : Type) [PyFloat F] (now : Instant) (bar : Bar) : Prop where
  equity : bar.feedKind = .equity → bar.requireStrategyReady now = .ok ()
  feed : bar.feedKind ≠ .equity → bar.complete ∧ bar.receivedAt ≤ now ∧ bar.stop ≤ now ∧
    ∀ flag ∈ bar.qualityFlags ∪ priceFlags bar, flag = .zeroVolume
  finite : ∀ value ∈ barNumbers bar, PyFloat.isFinite (PyFloat.ofDecimal value : F)

/-- The bars of an instrument inside an interval. -/
def barsWithin (bars : List Bar) (ref : InstrumentRef) (opening endpoint : Instant) : List Bar :=
  bars.filter fun bar => bar.instrumentId = ref.instrumentId ∧ bar.source = ref.source ∧
    opening ≤ bar.start ∧ bar.stop ≤ endpoint

variable {F : Type} [PyFloat F] {bars bars' : List Bar} {ref : InstrumentRef}
  {opening endpoint now : Instant}

theorem usableBar_iff {bar : Bar} : usableBar F now bar ↔ Usable F now bar := by
  have hready : (bar.requireStrategyReady now).isOk ↔ bar.requireStrategyReady now = .ok () := by
    cases bar.requireStrategyReady now with
    | ok result => exact iff_of_true rfl rfl
    | error e => exact iff_of_false nofun nofun
  have hflags : (bar.qualityFlags ∪ priceFlags bar) \ {.zeroVolume} = ∅ ↔
      ∀ flag ∈ bar.qualityFlags ∪ priceFlags bar, flag = .zeroVolume := by
    rw [Finset.sdiff_eq_empty_iff_subset]
    exact ⟨fun h flag hflag => Finset.mem_singleton.mp (h hflag),
      fun h flag hflag => Finset.mem_singleton.mpr (h flag hflag)⟩
  rw [usableBar, Bool.and_eq_true, List.all_eq_true]
  by_cases hequity : bar.feedKind = .equity
  · rw [if_pos hequity, hready]
    exact ⟨fun h => ⟨fun _ => h.1, fun hne => absurd hequity hne, h.2⟩,
      fun h => ⟨h.equity hequity, h.finite⟩⟩
  · rw [if_neg hequity, Bool.and_eq_true, Bool.and_eq_true, decide_eq_true_eq, decide_eq_true_eq,
      hflags, max_le_iff]
    constructor
    · rintro ⟨⟨⟨hcomplete, hclear⟩, hstop, hreceived⟩, hfinite⟩
      exact ⟨fun h => absurd h hequity, fun _ => ⟨hcomplete, hreceived, hstop, hclear⟩, hfinite⟩
    · intro h
      obtain ⟨hcomplete, hreceived, hstop, hclear⟩ := h.feed hequity
      exact ⟨⟨⟨hcomplete, hclear⟩, hstop, hreceived⟩, h.finite⟩

/-- A bar that ends by the endpoint starts before it. -/
theorem selectBars_eq :
    selectBars bars ref opening endpoint = barsWithin bars ref opening endpoint := by
  refine List.filter_congr fun bar _ => ?_
  have hlt := bar.start_lt_stop
  refine decide_eq_decide.mpr ⟨fun ⟨hid, hsource, hopen, _, hstop⟩ => ⟨hid, hsource, hopen, hstop⟩,
    fun ⟨hid, hsource, hopen, hstop⟩ => ⟨hid, hsource, hopen, lt_of_lt_of_le hlt hstop, hstop⟩⟩

theorem pairwise_sessionSlots : (sessionSlots opening endpoint).Pairwise (· < ·) := by
  rw [sessionSlots, List.pairwise_map]
  refine List.pairwise_lt_range.imp fun {a b} hlt => ?_
  simp only [minutesOf]
  lia

/-- The bars of an instrument inside an interval are one usable bar for each of its slots, of
    which there is one. -/
structure GapFree (F : Type) [PyFloat F] (bars : List Bar) (ref : InstrumentRef)
    (opening endpoint now : Instant) : Prop where
  long_enough : opening + minutesOf 5 ≤ endpoint
  one_each : ((barsWithin bars ref opening endpoint).map (·.start)).Perm
    (sessionSlots opening endpoint)
  usable : ∀ bar ∈ barsWithin bars ref opening endpoint, Usable F now bar

theorem GapFree.length_eq (h : GapFree F bars ref opening endpoint now) :
    (barsWithin bars ref opening endpoint).length =
      ((endpoint - opening) / secondsOf 300).toNat := by
  have hslots := h.one_each.length_eq
  rwa [List.length_map, sessionSlots, List.length_map, List.length_range] at hslots

/-- Gap-free bars make the series, in the order of their starts. -/
theorem session_of_gapFree (h : GapFree F bars ref opening endpoint now) :
    session F bars (some ref) opening endpoint now =
      (sortOn (·.start) (barsWithin bars ref opening endpoint), .warmup) := by
  have hnodup : ((barsWithin bars ref opening endpoint).map (·.start)).Nodup :=
    h.one_each.nodup_iff.mpr pairwise_sessionSlots.nodup
  have hne : barsWithin bars ref opening endpoint ≠ [] := by
    have hlength := h.length_eq
    have hlong := h.long_enough
    intro hnil
    rw [hnil, List.length_nil] at hlength
    simp only [minutesOf, secondsOf] at hlength hlong
    lia
  have hcard : ((barsWithin bars ref opening endpoint).map (·.start)).toFinset.card =
      (barsWithin bars ref opening endpoint).length := by
    rw [List.toFinset_card_of_nodup hnodup, List.length_map]
  have husable : (barsWithin bars ref opening endpoint).all (usableBar F now) :=
    List.all_eq_true.mpr fun bar hbar => usableBar_iff.mpr (h.usable bar hbar)
  simp only [session, selectBars_eq]
  rw [if_neg hne, if_neg (not_not.mpr hcard), if_neg (not_not.mpr husable),
    if_neg (not_not.mpr (List.toFinset_eq_of_perm _ _ h.one_each))]

/-- Only gap-free bars make a series. -/
theorem gapFree_of_session (h : (session F bars (some ref) opening endpoint now).1 ≠ []) :
    GapFree F bars ref opening endpoint now := by
  simp only [session, selectBars_eq] at h
  split at h
  · exact absurd rfl h
  next hne =>
  split at h
  · exact absurd rfl h
  next hcard =>
  split at h
  · exact absurd rfl h
  next husable =>
  split at h
  · exact absurd rfl h
  next hstarts =>
  rw [not_not] at hcard husable hstarts
  have hnodup : ((barsWithin bars ref opening endpoint).map (·.start)).Nodup := by
    refine Dict.length_dedup_eq_iff.mp ?_
    rw [← List.card_toFinset, hcard, List.length_map]
  have hperm : ((barsWithin bars ref opening endpoint).map (·.start)).Perm
      (sessionSlots opening endpoint) := by
    refine (List.perm_ext_iff_of_nodup hnodup pairwise_sessionSlots.nodup).mpr fun slot => ?_
    rw [← List.mem_toFinset, hstarts, List.mem_toFinset]
  refine ⟨?_, hperm, fun bar hbar => usableBar_iff.mp (List.all_eq_true.mp husable bar hbar)⟩
  have hlength := hperm.length_eq
  rw [List.length_map, sessionSlots, List.length_map, List.length_range] at hlength
  have hpos := List.length_pos_of_ne_nil hne
  simp only [minutesOf, secondsOf] at hlength ⊢
  lia

theorem GapFree.session_ne_nil (h : GapFree F bars ref opening endpoint now) :
    (session F bars (some ref) opening endpoint now).1 ≠ [] := by
  have hlength := h.length_eq
  have hlong := h.long_enough
  intro hnil
  rw [session_of_gapFree h] at hnil
  have hsorted : sortOn (·.start) (barsWithin bars ref opening endpoint) = [] := hnil
  rw [← length_sortOn (·.start), hsorted, List.length_nil] at hlength
  simp only [minutesOf, secondsOf] at hlength hlong
  lia

/-- The order of the bars does not matter. -/
theorem GapFree.perm (h : GapFree F bars ref opening endpoint now) (hperm : bars'.Perm bars) :
    GapFree F bars' ref opening endpoint now where
  long_enough := h.long_enough
  one_each := ((hperm.filter _).map _).trans h.one_each
  usable bar hbar := h.usable bar ((hperm.filter _).mem_iff.mp hbar)

/-- A series is there exactly if the bars are gap-free; it is then these bars in the order of
    their starts, for every order of the input. -/
theorem session_ne_nil_iff (bars : List Bar) (ref : InstrumentRef)
    (opening endpoint now : Instant) :
    ((session F bars (some ref) opening endpoint now).1 ≠ [] ↔
      GapFree F bars ref opening endpoint now) ∧
    ((session F bars (some ref) opening endpoint now).1 ≠ [] →
      (session F bars (some ref) opening endpoint now).1.Perm
          (barsWithin bars ref opening endpoint) ∧
        (session F bars (some ref) opening endpoint now).1.map (·.start) =
          sessionSlots opening endpoint ∧
        ∀ bars', bars'.Perm bars →
          (session F bars' (some ref) opening endpoint now).1 =
            (session F bars (some ref) opening endpoint now).1) := by
  refine ⟨⟨gapFree_of_session, GapFree.session_ne_nil⟩, fun hne => ?_⟩
  have hgapFree := gapFree_of_session hne
  rw [session_of_gapFree hgapFree]
  refine ⟨sortOn_perm _ _, map_sortOn_eq hgapFree.one_each (pairwise_sessionSlots.imp le_of_lt),
    fun bars' hperm => ?_⟩
  rw [session_of_gapFree (hgapFree.perm hperm)]
  refine sortOn_eq_of_perm (hperm.filter _) fun a ha b hb hab => ?_
  have hnodup : ((barsWithin bars' ref opening endpoint).map (·.start)).Nodup :=
    (hgapFree.perm hperm).one_each.nodup_iff.mpr pairwise_sessionSlots.nodup
  exact List.inj_on_of_nodup_map hnodup ha hb hab

end Godzilla.Features
