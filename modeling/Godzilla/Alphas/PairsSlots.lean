import Godzilla.Alphas.PairsOrder
import Godzilla.Features.Baseline
import Godzilla.MarketData.AggregationReady

/-!
# The slots of a pair window

A window that `select_window` returns has one row for every five-minute slot of the sessions
between its ends. The slots are counted from the open of each session, so that a special session
or a session that is no multiple of five minutes has its own; a session lies within its date
where the offset of the zone never changes.
-/

namespace Godzilla.Alphas
open Godzilla Misc Features MarketData

variable [Platform]

/-- A five-minute slot, counted from the open of a confirmed session, inside that session. -/
def SessionSlot (calendar : ExchangeCalendar) (cursor : Instant) : Prop :=
  ∃ day session, calendar.sessionOn day = .ok (some session) ∧
    ∃ i : Nat, cursor = session.instantAt session.times.openTime + minutesOf 5 * i ∧
      cursor + minutesOf 5 ≤ session.instantAt session.times.marketClose

omit [Platform] in
/-- The slots of a session between two instants are those of its grid that fit. -/
theorem mem_slotsBetween {first stop opening closing cursor : Instant} :
    cursor ∈ slotsBetween first stop opening closing ↔
      (∃ i : Nat, cursor = opening + minutesOf 5 * i ∧ cursor + minutesOf 5 ≤ closing) ∧
        first ≤ cursor ∧ cursor + minutesOf 5 ≤ stop := by
  rw [slotsBetween, List.mem_filter, List.mem_map, decide_eq_true_eq]
  refine and_congr_left fun _ => ⟨?_, ?_⟩
  · rintro ⟨i, hi, rfl⟩
    refine ⟨i, rfl, ?_⟩
    rw [List.mem_range, slotCount] at hi
    simp only [minutesOf] at hi ⊢
    lia
  · rintro ⟨i, rfl, hclose⟩
    refine ⟨i, ?_, rfl⟩
    rw [List.mem_range, slotCount]
    simp only [minutesOf] at hclose ⊢
    lia

omit [Platform] in
/-- The slots of a session come in order. -/
theorem slotsBetween_pairwise (first stop opening closing : Instant) :
    (slotsBetween first stop opening closing).Pairwise (· < ·) := by
  rw [slotsBetween]
  refine List.Pairwise.filter _ (List.pairwise_map.mpr ?_)
  refine List.pairwise_lt_range.imp fun {i j} hij => ?_
  simp only [minutesOf]
  lia

section Days

variable {calendar : ExchangeCalendar} {timezone : String} {offset : Duration}
  {first stop cursor : Instant} {slots : List Instant}

omit [Platform] in
theorem localDate_day_after (instant : Instant) (days : Int) :
    (ZoneInfo.fixed offset).localDate (instant + daysOf days) =
      (ZoneInfo.fixed offset).localDate instant + days := by
  change (instant + days * 86400000000 + offset) / 86400000000 =
    (instant + offset) / 86400000000 + days
  lia

omit [Platform] in
theorem localDate_mono {instant later : Instant} (h : instant ≤ later) :
    (ZoneInfo.fixed offset).localDate instant ≤ (ZoneInfo.fixed offset).localDate later := by
  change (instant + offset) / 86400000000 ≤ (later + offset) / 86400000000
  lia

/-- The slots of the session of a date. -/
def daySlots (calendar : ExchangeCalendar) (first stop : Instant) (day : Date) : List Instant :=
  match calendar.sessionOn day with
  | .ok (some session) => slotsBetween first stop
      (session.instantAt session.times.openTime) (session.instantAt session.times.marketClose)
  | _ => []

theorem daySlots_pairwise (day : Date) : (daySlots calendar first stop day).Pairwise (· < ·) := by
  unfold daySlots
  split
  · exact slotsBetween_pairwise _ _ _ _
  · exact List.Pairwise.nil

/-- A slot of a date is a slot of its session between the ends. -/
theorem mem_daySlots {day : Date} :
    cursor ∈ daySlots calendar first stop day ↔
      (∃ session, calendar.sessionOn day = .ok (some session) ∧
        ∃ i : Nat, cursor = session.instantAt session.times.openTime + minutesOf 5 * i ∧
          cursor + minutesOf 5 ≤ session.instantAt session.times.marketClose) ∧
      first ≤ cursor ∧ cursor + minutesOf 5 ≤ stop := by
  unfold daySlots
  split
  · next session hsession =>
    rw [mem_slotsBetween, hsession]
    simp
  · next hnone =>
    constructor
    · intro h
      cases h
    · rintro ⟨⟨session, hsession, -⟩, -⟩
      exact absurd hsession (hnone session)

/-- A slot lies on the date of its session. -/
theorem localDate_slot (hfixed : FixedOffset calendar timezone offset) {day : Date}
    (h : cursor ∈ daySlots calendar first stop day) :
    (ZoneInfo.fixed offset).localDate cursor = day := by
  obtain ⟨⟨session, hsession, i, rfl, hclose⟩, -⟩ := mem_daySlots.mp h
  obtain ⟨hdate, hzone⟩ := hfixed.session day session hsession
  rw [← hdate]
  apply Session.localDate_of_fixed hzone
  · simp only [minutesOf]
    lia
  · simp only [minutesOf] at hclose ⊢
    lia

omit [Platform] in
theorem sessionSlots_ok {bounds : Option (Instant × Instant)}
    (h : sessionSlots first stop bounds = .ok slots) :
    slots = (bounds.map fun b => slotsBetween first stop b.1 b.2).getD [] := by
  cases bounds with
  | none => exact (Except.ok.inj h).symm
  | some bounds =>
    obtain ⟨_, -, h⟩ := bind_ok h
    exact (Except.ok.inj h).symm

/-- The slots of a day that is read are those of its date. -/
theorem offsetSlots_ok (hfixed : FixedOffset calendar timezone offset) {days : Nat}
    (h : offsetSlots calendar timezone first stop days = .ok slots) :
    slots = daySlots calendar first stop ((ZoneInfo.fixed offset).localDate first + days) := by
  obtain ⟨instant, hinstant, h⟩ := bind_ok h
  obtain ⟨bounds, hbounds, hread⟩ := bind_ok h
  obtain ⟨rfl, -⟩ := addDuration_ok hinstant
  have hfound := readBounds_ok hbounds
  rw [sessionBounds_fixed hfixed, localDate_day_after] at hfound
  rw [sessionSlots_ok hread, daySlots]
  cases hsession : calendar.sessionOn ((ZoneInfo.fixed offset).localDate first + days) with
  | error message => rw [hsession] at hfound; cases hfound
  | ok found =>
    rw [hsession] at hfound
    cases found with
    | none =>
      obtain rfl : bounds = none := (Except.ok.inj hfound).symm
      rfl
    | some session =>
      obtain rfl := Except.ok.inj hfound
      rfl

/-- The expected slots are those of the dates from the first row to the last. -/
theorem expectedSlots_eq (hfixed : FixedOffset calendar timezone offset)
    (h : expectedSlots calendar timezone first stop = .ok slots) :
    slots = ((List.range ((ZoneInfo.fixed offset).localDate stop -
        (ZoneInfo.fixed offset).localDate first + 1).toNat).map fun i : Nat =>
      daySlots calendar first stop ((ZoneInfo.fixed offset).localDate first + i)).flatten := by
  obtain ⟨startDay, hstart, h⟩ := bind_ok h
  obtain ⟨endDay, hend, h⟩ := bind_ok h
  obtain rfl := localDateIn_ok hstart
  obtain rfl := localDateIn_ok hend
  obtain ⟨-, h⟩ := guard_ok h
  obtain ⟨found, hfound, h⟩ := bind_ok h
  obtain rfl := Except.ok.inj h
  rw [hfixed.zone] at hfound
  congr 1
  have hmap := map_eq_of_related (f := fun i : Nat =>
    daySlots calendar first stop ((ZoneInfo.fixed offset).localDate first + i)) (g := id)
    (related_of_mapM hfound) fun i day hday => offsetSlots_ok hfixed hday
  rw [List.map_id] at hmap
  exact hmap

/-- The expected slots come in order, and are the session slots between the ends. -/
theorem expectedSlots_spec (hfixed : FixedOffset calendar timezone offset)
    (h : expectedSlots calendar timezone first stop = .ok slots) :
    slots.Pairwise (· < ·) ∧ ∀ cursor, cursor ∈ slots ↔
      SessionSlot calendar cursor ∧ first ≤ cursor ∧ cursor + minutesOf 5 ≤ stop := by
  rw [expectedSlots_eq hfixed h]
  constructor
  · rw [List.pairwise_flatten]
    constructor
    · intro day hday
      obtain ⟨i, -, rfl⟩ := List.mem_map.mp hday
      exact daySlots_pairwise _
    · refine List.pairwise_map.mpr (List.pairwise_lt_range.imp fun {i j} hij => ?_)
      intro cursor hcursor later hlater
      by_contra hle
      have hdates : (ZoneInfo.fixed offset).localDate later ≤
          (ZoneInfo.fixed offset).localDate cursor := localDate_mono (not_lt.mp hle)
      rw [localDate_slot hfixed hcursor, localDate_slot hfixed hlater] at hdates
      lia
  · intro cursor
    rw [List.mem_flatten]
    constructor
    · rintro ⟨day, hday, hcursor⟩
      obtain ⟨i, -, rfl⟩ := List.mem_map.mp hday
      obtain ⟨⟨session, hsession, hgrid⟩, hbetween⟩ := mem_daySlots.mp hcursor
      exact ⟨⟨_, session, hsession, hgrid⟩, hbetween⟩
    · rintro ⟨⟨day, session, hsession, hgrid⟩, hfirst, hstop⟩
      have hcursor : cursor ∈ daySlots calendar first stop day :=
        mem_daySlots.mpr ⟨⟨session, hsession, hgrid⟩, hfirst, hstop⟩
      have hday := localDate_slot hfixed hcursor
      have hfrom : (ZoneInfo.fixed offset).localDate first ≤ day :=
        hday ▸ localDate_mono hfirst
      have hto : day ≤ (ZoneInfo.fixed offset).localDate stop := by
        rw [← hday]
        apply localDate_mono
        simp only [minutesOf] at hstop
        lia
      refine ⟨_, List.mem_map.mpr ⟨(day - (ZoneInfo.fixed offset).localDate first).toNat, ?_, rfl⟩, ?_⟩
      · rw [List.mem_range]
        lia
      · have hsame : (ZoneInfo.fixed offset).localDate first +
            ((day - (ZoneInfo.fixed offset).localDate first).toNat : Int) = day := by lia
        rw [hsame]
        exact hcursor

end Days

section Window

variable {F : Type} [PyFloat F] {candidate : PairCandidate} {cfg : PairsSettings F}
  {calendar : ExchangeCalendar} {timezone : String} {now : Instant}
  {observations : List PairObservation} {window : PairWindow}

/-- The bar is an equity bar of the instrument and source of a reference. -/
def OfReference (bar : Bar) (ref : InstrumentRef) : Prop :=
  bar.instrumentId = ref.instrumentId ∧ bar.source = ref.source ∧ bar.feedKind = .equity

/-- What holds of the rows of a window: as many as asked for, each of two synchronized bars of
    the candidate that are ready, one for every slot between the ends, and no others. -/
structure SelectedRows (candidate : PairCandidate) (cfg : PairsSettings F)
    (calendar : ExchangeCalendar) (now : Instant) (window : PairWindow) : Prop where
  length : window.rows.length = cfg.trainingBars + 1
  synchronized : ∀ row ∈ window.rows,
    row.left.start = row.right.start ∧ row.left.stop = row.right.stop
  ready : ∀ row ∈ window.rows, row.left.requireStrategyReady now = .ok () ∧
    row.right.requireStrategyReady now = .ok ()
  identity : ∀ row ∈ window.rows, OfReference row.left.toBar candidate.left ∧
    OfReference row.right.toBar candidate.right
  /-- The row starts come in order, without repetition. -/
  ordered : (window.rows.map (·.left.start)).Pairwise (· < ·)
  /-- The row starts are the session slots between the ends of the window. -/
  slots : ∀ cursor, cursor ∈ window.rows.map (·.left.start) ↔
    SessionSlot calendar cursor ∧ window.first.left.start ≤ cursor ∧
      cursor + minutesOf 5 ≤ window.last.left.stop
  covered : candidate.effectiveFrom ≤ window.first.left.start
  fresh : (0 : F) ≤ PyFloat.seconds (now - window.last.left.stop) ∧
    PyFloat.seconds (now - window.last.left.stop) ≤ cfg.maxBarLagSeconds

omit [Platform] in
theorem checkPairBar_ok {bar : Bar} {ref : InstrumentRef}
    (h : checkPairBar now bar ref = .ok ()) :
    bar.requireStrategyReady now = .ok () ∧ OfReference bar ref := by
  obtain ⟨⟨⟩, hready, h⟩ := bind_ok h
  obtain ⟨hidentity, -⟩ := guard_ok h
  push Not at hidentity
  exact ⟨hready, hidentity⟩

omit [Platform] in
theorem checkPairRow_ok {row : PairObservation} (h : checkPairRow candidate now row = .ok ()) :
    (row.left.start = row.right.start ∧ row.left.stop = row.right.stop) ∧
      (row.left.requireStrategyReady now = .ok () ∧ OfReference row.left.toBar candidate.left) ∧
      row.right.requireStrategyReady now = .ok () ∧ OfReference row.right.toBar candidate.right := by
  obtain ⟨hsynchronized, h⟩ := guard_ok h
  obtain ⟨⟨⟩, hleft, hright⟩ := bind_ok h
  push Not at hsynchronized
  exact ⟨hsynchronized, checkPairBar_ok hleft, checkPairBar_ok hright⟩

/-- Rows that are admissible are as a window wants them. -/
theorem selectedRows_of_ok {offset : Duration} (hfixed : FixedOffset calendar timezone offset)
    (h : selectWindow observations candidate cfg calendar timezone now = .ok window) :
    SelectedRows candidate cfg calendar now window := by
  obtain ⟨hrows, hadmissible⟩ := selectWindow_ok_iff.mp h
  have hfirst : window.rows.head? = some window.first := List.head?_eq_some_head window.nonempty
  have hlast : window.rows.getLast? = some window.last :=
    List.getLast?_eq_some_getLast window.nonempty
  have henough := hadmissible.enough
  rw [cutRows] at henough
  have hlength := length_latest henough
  rw [← hrows] at hadmissible
  have hchecked := fun row hrow => checkPairRow_ok (hadmissible.checked row hrow)
  obtain ⟨hordered, hslots⟩ := expectedSlots_spec hfixed (hadmissible.slots _ hfirst _ hlast)
  exact {
    length := by rw [hrows, cutRows, hlength]
    synchronized := fun row hrow => (hchecked row hrow).1
    ready := fun row hrow => ⟨(hchecked row hrow).2.1.1, (hchecked row hrow).2.2.1⟩
    identity := fun row hrow => ⟨(hchecked row hrow).2.1.2, (hchecked row hrow).2.2.2⟩
    ordered := hordered
    slots := hslots
    covered := hadmissible.covered _ hfirst
    fresh := hadmissible.fresh _ hlast }

/-- A row that is not known yet, or whose left bar ends before that of the first row. -/
def Irrelevant (now : Instant) (window : PairWindow) (row : PairObservation) : Prop :=
  now < row.knownBy ∨ row.left.stop < window.first.left.stop

/-- Irrelevant rows, wherever they are added, leave the window as it is. -/
theorem selectWindow_inserted {observations' : List PairObservation}
    (h : selectWindow observations candidate cfg calendar timezone now = .ok window)
    (hinserted : Inserted (Irrelevant now window) observations observations') :
    selectWindow observations' candidate cfg calendar timezone now = .ok window := by
  obtain ⟨hrows, hadmissible⟩ := selectWindow_ok_iff.mp h
  have hlast : ∀ row ∈ cutRows cfg now observations, window.first.left.stop ≤ rowEnd row := by
    intro row hrow
    have hsorted := latest_pairwise rowEnd (cfg.trainingBars + 1) (knownRows now observations)
    rw [← cutRows, ← hrows] at hsorted
    rw [← hrows] at hrow
    rw [← List.cons_head_tail window.nonempty] at hrow hsorted
    rcases List.mem_cons.mp hrow with rfl | htail
    · exact le_refl _
    · exact (List.pairwise_cons.mp hsorted).1 row htail
  have hknown : Inserted (fun row => rowEnd row < window.first.left.stop)
      (knownRows now observations) (knownRows now observations') := by
    clear h hrows hadmissible hlast
    induction hinserted with
    | nil => exact .nil
    | keep row _ ih =>
      rw [knownRows, knownRows, List.filter_cons, List.filter_cons]
      split
      · exact .keep row ih
      · exact ih
    | add row hrow _ ih =>
      rw [knownRows, knownRows, List.filter_cons]
      split
      · next hnow =>
        rcases hrow with hlater | hbefore
        · exact absurd (of_decide_eq_true hnow) (not_le.mpr hlater)
        · exact .add row hbefore ih
      · exact ih
  have hsame : cutRows cfg now observations' = cutRows cfg now observations :=
    latest_inserted hknown (fun _ hbefore => hbefore) hlast hadmissible.enough
  rw [selectWindow_ok_iff, hsame]
  exact ⟨hrows, hadmissible⟩

/-- A window that is returned has a row for every slot of the sessions between its ends and
    nothing else, and rows that are not known yet or end before it do not change it. -/
theorem selectWindow_slots (observations : List PairObservation) (candidate : PairCandidate)
    (cfg : PairsSettings F) (calendar : ExchangeCalendar) (timezone : String)
    (offset : Duration) (now : Instant) (window : PairWindow)
    (hfixed : FixedOffset calendar timezone offset)
    (h : selectWindow observations candidate cfg calendar timezone now = .ok window) :
    SelectedRows candidate cfg calendar now window ∧
      ∀ observations' : List PairObservation,
        Inserted (Irrelevant now window) observations observations' →
          selectWindow observations' candidate cfg calendar timezone now = .ok window :=
  ⟨selectedRows_of_ok hfixed h, fun _ hinserted => selectWindow_inserted h hinserted⟩

end Window

end Godzilla.Alphas

namespace Godzilla.Alphas.Sample
open Misc Features MarketData Godzilla.MarketData.Sample Godzilla.Sample

/-- The sessions of the calendar are of their dates, in a zone of one offset. -/
theorem fixedOffset_calendar : FixedOffset calendar "Asia/Kolkata" (minutesOf 330) where
  zone := rfl
  session day session h := by
    simp only [calendar] at h
    split at h
    · next hday =>
      obtain rfl := Option.some.inj (Except.ok.inj h)
      exact ⟨hday.symm, rfl⟩
    · cases h

/-- The window of the slots since the open, and a row that is still to come. -/
theorem selectWindow_slots_since : ∃ window,
    SelectedRows pairCandidate pairsSettings calendar (afterOpen 325) window ∧
      selectWindow (pairRow 65 :: slotRows) pairCandidate pairsSettings calendar "Asia/Kolkata"
        (afterOpen 325) = .ok window := by
  have hone : firstClose slotRows = some 1 := by decide +kernel
  cases hrun : selectWindow slotRows pairCandidate pairsSettings calendar "Asia/Kolkata"
      (afterOpen 325) with
  | error e =>
    rw [firstClose, hrun] at hone
    cases hone
  | ok window =>
    obtain ⟨hrows, hinserted⟩ := selectWindow_slots slotRows pairCandidate pairsSettings calendar
      "Asia/Kolkata" (minutesOf 330) (afterOpen 325) window fixedOffset_calendar hrun
    refine ⟨window, hrows, hinserted _ (.add _ (.inl (by decide +kernel)) ?_)⟩
    exact Inserted.refl _

end Godzilla.Alphas.Sample
