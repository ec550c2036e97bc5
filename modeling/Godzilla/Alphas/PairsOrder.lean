import Godzilla.Alphas.PairsAttention
import Godzilla.Misc.Latest

/-!
# The window of a pair and the order of its rows

`select_window` sorts the known rows by the end of their left bars alone and cuts the last
ones off. Rows that tie inside the window are refused, as one slot is expected once; of rows that
tie where the window is cut the one that comes last in the input is taken.
-/

namespace Godzilla.Alphas
open Godzilla Misc Features MarketData MarketState Universe

/-- The rows that are known by a time. -/
def knownRows (now : Instant) (observations : List PairObservation) : List PairObservation :=
  observations.filter fun row => row.knownBy ≤ now

/-- The end of the left bar, by which rows are sorted. -/
def rowEnd (row : PairObservation) : Instant := row.left.stop

/-- An order of the known rows is that of an order of all rows. -/
theorem exists_knownRows_eq {now : Instant} {observations rows : List PairObservation}
    (hp : rows.Perm (knownRows now observations)) :
    ∃ observations' : List PairObservation, observations'.Perm observations ∧
      knownRows now observations' = rows := by
  refine ⟨rows ++ observations.filter fun row => !decide (row.knownBy ≤ now), ?_, ?_⟩
  · exact (hp.append_right _).trans (List.filter_append_perm _ observations)
  · have hknown : ∀ row ∈ rows, row.knownBy ≤ now := fun row hrow => by
      simpa [knownRows] using (List.mem_filter.mp (hp.mem_iff.mp hrow)).2
    have hall : rows.filter (fun row => row.knownBy ≤ now) = rows :=
      List.filter_eq_self.mpr fun row hrow => decide_eq_true (hknown row hrow)
    rw [knownRows, List.filter_append, hall, List.filter_filter]
    simp

section Window

variable [Platform] {F : Type} [PyFloat F] {candidate : PairCandidate} {cfg : PairsSettings F}
  {calendar : ExchangeCalendar} {timezone : String} {now : Instant}

/-- The checks of `select_window` on the rows that it has cut off (`alphas/pairs_data.py:30-72`). -/
structure Admissible (candidate : PairCandidate) (cfg : PairsSettings F)
    (calendar : ExchangeCalendar) (timezone : String) (now : Instant)
    (rows : List PairObservation) : Prop where
  enough : cfg.trainingBars + 1 ≤ rows.length
  fresh : ∀ last ∈ rows.getLast?, (0 : F) ≤ PyFloat.seconds (now - last.left.stop) ∧
    PyFloat.seconds (now - last.left.stop) ≤ cfg.maxBarLagSeconds
  covered : ∀ first ∈ rows.head?, candidate.effectiveFrom ≤ first.left.start
  checked : ∀ row ∈ rows, checkPairRow candidate now row = .ok ()
  slots : ∀ first ∈ rows.head?, ∀ last ∈ rows.getLast?,
    expectedSlots calendar timezone first.left.start last.left.stop =
      .ok (rows.map (·.left.start))

/-- The rows that `select_window` cuts off. -/
def cutRows (cfg : PairsSettings F) (now : Instant) (observations : List PairObservation) :
    List PairObservation :=
  latest rowEnd (cfg.trainingBars + 1) (knownRows now observations)

omit [Platform] in
theorem PairWindow.ext_rows {window other : PairWindow} (h : window.rows = other.rows) :
    window = other := by
  cases window
  cases other
  cases h
  rfl

omit [Platform] in
/-- The available window has the rows that are cut off, if these are enough. -/
theorem availableWindow_eq_some {observations : List PairObservation} {window : PairWindow} :
    availableWindow observations cfg now = some window ↔
      window.rows = cutRows cfg now observations ∧
        cfg.trainingBars + 1 ≤ (cutRows cfg now observations).length := by
  have hrows : cutRows cfg now observations = (sortOn rowEnd (knownRows now observations)).drop
      ((sortOn rowEnd (knownRows now observations)).length - (cfg.trainingBars + 1)) := by
    rw [cutRows, latest, length_sortOn]
  have hlength : (cutRows cfg now observations).length =
      (sortOn rowEnd (knownRows now observations)).length -
        ((sortOn rowEnd (knownRows now observations)).length - (cfg.trainingBars + 1)) := by
    rw [hrows, List.length_drop]
  by_cases hshort : (sortOn rowEnd (knownRows now observations)).length < cfg.trainingBars + 1
  · have hnone : availableWindow observations cfg now = none := dif_pos hshort
    rw [hnone]
    refine iff_of_false (fun h => by cases h) fun h => ?_
    omega
  · have hsome : ∃ found, availableWindow observations cfg now = some found ∧
        found.rows = cutRows cfg now observations := ⟨_, dif_neg hshort, hrows.symm⟩
    obtain ⟨found, hfound, hsame⟩ := hsome
    rw [hfound, ← hsame]
    constructor
    · intro h
      obtain rfl := Option.some.inj h
      rw [hsame, hlength]
      exact ⟨rfl, by omega⟩
    · rintro ⟨h, -⟩
      rw [PairWindow.ext_rows h]

omit [Platform] in
theorem checkWindow_ok_iff {window : PairWindow} :
    checkWindow candidate cfg now window = .ok () ↔
      ((0 : F) ≤ PyFloat.seconds (now - window.last.left.stop) ∧
        PyFloat.seconds (now - window.last.left.stop) ≤ cfg.maxBarLagSeconds) ∧
      candidate.effectiveFrom ≤ window.first.left.start ∧
      ∀ row ∈ window.rows, checkPairRow candidate now row = .ok () := by
  rw [checkWindow]
  constructor
  · intro h
    obtain ⟨hfresh, h⟩ := guard_ok h
    obtain ⟨hcovered, h⟩ := guard_ok h
    exact ⟨not_not.mp hfresh, not_lt.mp hcovered, forM_ok_iff.mp h⟩
  · rintro ⟨hfresh, hcovered, hchecked⟩
    rw [if_neg (not_not.mpr hfresh), if_neg (not_lt.mpr hcovered)]
    exact forM_ok_iff.mpr hchecked

/-- The rows of a window are admissible when it has enough, passes its checks and has a row for
    every slot. -/
theorem admissible_iff {window : PairWindow} :
    Admissible candidate cfg calendar timezone now window.rows ↔
      cfg.trainingBars + 1 ≤ window.rows.length ∧
      checkWindow candidate cfg now window = .ok () ∧
      expectedSlots calendar timezone window.first.left.start window.last.left.stop =
        .ok (window.rows.map (·.left.start)) := by
  have hfirst : window.rows.head? = some window.first := List.head?_eq_some_head window.nonempty
  have hlast : window.rows.getLast? = some window.last :=
    List.getLast?_eq_some_getLast window.nonempty
  rw [checkWindow_ok_iff]
  constructor
  · intro h
    exact ⟨h.enough, ⟨h.fresh _ hlast, h.covered _ hfirst, h.checked⟩, h.slots _ hfirst _ hlast⟩
  · rintro ⟨henough, ⟨hfresh, hcovered, hchecked⟩, hslots⟩
    refine ⟨henough, fun last hmem => ?_, fun first hmem => ?_, hchecked,
      fun first hmem last hmem' => ?_⟩
    · obtain rfl := Option.some.inj (hlast.symm.trans hmem)
      exact hfresh
    · obtain rfl := Option.some.inj (hfirst.symm.trans hmem)
      exact hcovered
    · obtain rfl := Option.some.inj (hfirst.symm.trans hmem)
      obtain rfl := Option.some.inj (hlast.symm.trans hmem')
      exact hslots

theorem selectWindow_ok_iff {observations : List PairObservation} {window : PairWindow} :
    selectWindow observations candidate cfg calendar timezone now = .ok window ↔
      window.rows = cutRows cfg now observations ∧
        Admissible candidate cfg calendar timezone now (cutRows cfg now observations) := by
  constructor
  · intro h
    rw [selectWindow] at h
    split at h
    · cases h
    next found hfound =>
    obtain ⟨⟨⟩, hchecked, h⟩ := bind_ok h
    obtain ⟨expected, hexpected, h⟩ := bind_ok h
    obtain ⟨hslots, h⟩ := guard_ok h
    obtain rfl := Except.ok.inj h
    obtain ⟨hrows, henough⟩ := availableWindow_eq_some.mp hfound
    rw [← hrows] at henough ⊢
    rw [not_not] at hslots
    exact ⟨rfl, admissible_iff.mpr ⟨henough, hchecked, hslots ▸ hexpected⟩⟩
  · rintro ⟨hrows, hadmissible⟩
    have hfound := availableWindow_eq_some.mpr ⟨hrows, hadmissible.enough⟩
    rw [← hrows] at hadmissible
    obtain ⟨-, hchecked, hslots⟩ := admissible_iff.mp hadmissible
    simp only [selectWindow, hfound, hchecked, hslots]
    exact if_neg (not_not.mpr rfl)

/-- Rows that tie where the window is cut are equal, or no order of the known rows leaves
    admissible ones. -/
def OrderFree (candidate : PairCandidate) (cfg : PairsSettings F) (calendar : ExchangeCalendar)
    (timezone : String) (now : Instant) (observations : List PairObservation) : Prop :=
  TiesAgree rowEnd (cfg.trainingBars + 1) (knownRows now observations) ∨
    ∀ rows : List PairObservation, rows.Perm (knownRows now observations) →
      ¬ Admissible candidate cfg calendar timezone now (latest rowEnd (cfg.trainingBars + 1) rows)

/-- Every order of the rows gives the same window or is rejected as well, exactly when rows that
    tie at the cut are equal or no order is admissible. -/
theorem selectWindow_sameResult_iff {observations : List PairObservation} :
    (∀ observations' : List PairObservation, observations'.Perm observations →
      SameResult (selectWindow observations candidate cfg calendar timezone now)
        (selectWindow observations' candidate cfg calendar timezone now)) ↔
      OrderFree candidate cfg calendar timezone now observations := by
  constructor
  · intro hsame
    by_cases hnone : ∀ rows : List PairObservation, rows.Perm (knownRows now observations) →
        ¬ Admissible candidate cfg calendar timezone now (latest rowEnd (cfg.trainingBars + 1) rows)
    · exact .inr hnone
    · push Not at hnone
      obtain ⟨rows, hp, hadmissible⟩ := hnone
      -- the window of one order is that of every order
      have hwindow : ∀ zs : List PairObservation, zs.Perm (knownRows now observations) →
          latest rowEnd (cfg.trainingBars + 1) zs = latest rowEnd (cfg.trainingBars + 1) rows := by
        obtain ⟨first, hfirst, rfl⟩ := exists_knownRows_eq hp
        have hnonempty : cutRows cfg now first ≠ [] := by
          intro hnil
          have henough := hadmissible.enough
          rw [← cutRows, hnil] at henough
          exact absurd henough (Nat.not_succ_le_zero _)
        have hok : selectWindow first candidate cfg calendar timezone now =
            .ok ⟨cutRows cfg now first, hnonempty⟩ := selectWindow_ok_iff.mpr ⟨rfl, hadmissible⟩
        intro zs hzs
        obtain ⟨second, hsecond, rfl⟩ := exists_knownRows_eq hzs
        have hok' := (hsame second hsecond).ok_iff.mp ((hsame first hfirst).ok_iff.mpr hok)
        exact (selectWindow_ok_iff.mp hok').1.symm
      left
      refine latest_order_iff.mp fun zs hzs => ?_
      rw [hwindow zs hzs, hwindow _ (List.Perm.refl _)]
  · rintro (hties | hnone) observations' hp
    · have hcut : cutRows cfg now observations = cutRows cfg now observations' :=
        latest_eq_of_tiesAgree (hp.symm.filter _) hties
      refine .of_ok_iff fun window => ?_
      rw [selectWindow_ok_iff, selectWindow_ok_iff, hcut]
    · refine .of_ok_iff fun window => ?_
      have hnever : ∀ rows : List PairObservation, rows.Perm observations →
          selectWindow rows candidate cfg calendar timezone now ≠ .ok window := by
        intro rows hrows h
        exact hnone _ (hrows.filter _) (selectWindow_ok_iff.mp h).2
      exact iff_of_false (hnever observations (List.Perm.refl _)) (hnever observations' hp)

/-- Windows are selected alike when rows that tie at the cut are equal: what is available is the
    same. -/
theorem selectWindow_perm {observations observations' : List PairObservation}
    (hties : TiesAgree rowEnd (cfg.trainingBars + 1) (knownRows now observations))
    (hp : observations'.Perm observations) :
    selectWindow observations candidate cfg calendar timezone now =
      selectWindow observations' candidate cfg calendar timezone now := by
  have hcut : cutRows cfg now observations = cutRows cfg now observations' :=
    latest_eq_of_tiesAgree (hp.symm.filter _) hties
  have havailable : availableWindow observations cfg now = availableWindow observations' cfg now := by
    refine Option.ext fun window => ?_
    rw [availableWindow_eq_some, availableWindow_eq_some, hcut]
  rw [selectWindow, selectWindow, havailable]

/-- The engine sees one window, or none in any order: rows that tie at the cut are equal, or no
    order is admissible and the days that any order comes to read can be read. -/
def EvaluatedAlike (candidate : PairCandidate) (cfg : PairsSettings F)
    (calendar : ExchangeCalendar) (timezone : String) (now : Instant)
    (observations : List PairObservation) : Prop :=
  TiesAgree rowEnd (cfg.trainingBars + 1) (knownRows now observations) ∨
    (∀ rows : List PairObservation, rows.Perm (knownRows now observations) →
      ¬ Admissible candidate cfg calendar timezone now
        (latest rowEnd (cfg.trainingBars + 1) rows)) ∧
    ∀ observations' : List PairObservation, observations'.Perm observations →
      WindowDated observations' candidate cfg calendar timezone now

end Window

/-- Two results are the same, or both raise what the input gate catches. -/
def GatedAlike {α : Type} (x y : Except PyError α) : Prop :=
  x = y ∨ ∃ e e', x = .error e ∧ y = .error e' ∧ inputsCaught e = true ∧ inputsCaught e' = true

theorem GatedAlike.bind {α β : Type} {x y : Except PyError α} {f g : α → Except PyError β}
    (h : GatedAlike x y) (hfg : ∀ a, GatedAlike (f a) (g a)) :
    GatedAlike (x >>= f) (y >>= g) := by
  rcases h with rfl | ⟨e, e', rfl, rfl, hcaught⟩
  · cases x with
    | error e => exact .inl rfl
    | ok a => exact hfg a
  · exact .inr ⟨e, e', rfl, rfl, hcaught⟩

theorem GatedAlike.ite {α : Type} {c : Prop} [Decidable c] {x y x' y' : Except PyError α}
    (h : GatedAlike x x') (h' : GatedAlike y y') :
    GatedAlike (if c then x else y) (if c then x' else y') := by
  split
  · exact h
  · exact h'

namespace PairsEngine

variable {F : Type} [PyFloat F] [PyMath F] [Platform] {engine : PairsEngine F} {call : PairsCall F}
  {observations' : List PairObservation}

omit [PyMath F] in
theorem selectWindow_gatedAlike
    (h : EvaluatedAlike call.candidate engine.settings engine.calendar engine.timezone call.now
      call.observations) (hp : observations'.Perm call.observations) :
    GatedAlike
      (selectWindow call.observations call.candidate engine.settings engine.calendar
        engine.timezone call.now)
      (selectWindow observations' call.candidate engine.settings engine.calendar
        engine.timezone call.now) := by
  rcases h with hties | ⟨hnone, hdated⟩
  · exact .inl (selectWindow_perm hties hp)
  · have hnever : ∀ rows : List PairObservation, rows.Perm call.observations →
        ∃ e, selectWindow rows call.candidate engine.settings engine.calendar engine.timezone
          call.now = .error e ∧ inputsCaught e = true := by
      intro rows hrows
      cases hrun : selectWindow rows call.candidate engine.settings engine.calendar engine.timezone
          call.now with
      | error e => exact ⟨e, rfl, selectWindow_raises_iff.mpr (hdated rows hrows) e hrun⟩
      | ok window => exact absurd (selectWindow_ok_iff.mp hrun).2 (hnone _ (hrows.filter _))
    obtain ⟨e, he, hcaught⟩ := hnever _ (List.Perm.refl _)
    obtain ⟨e', he', hcaught'⟩ := hnever _ hp
    exact .inr ⟨e, e', he, he', hcaught, hcaught'⟩

omit [PyMath F] in
theorem inputGate_gatedAlike
    (h : GatedAlike
      (selectWindow call.observations call.candidate engine.settings engine.calendar
        engine.timezone call.now)
      (selectWindow observations' call.candidate engine.settings engine.calendar
        engine.timezone call.now)) :
    GatedAlike (engine.inputGate call)
      (engine.inputGate { call with observations := observations' }) := by
  have hwindow : ∀ session, GatedAlike (engine.admitWindow call session)
      (engine.admitWindow { call with observations := observations' } session) := fun session =>
    .ite (.inl rfl) (.ite (.inl rfl) (h.bind fun _ => .inl rfl))
  have hinputs : ∀ session, GatedAlike (engine.admitInputs call session)
      (engine.admitInputs { call with observations := observations' } session) := by
    intro session
    refine .ite (.inl rfl) (.ite (.inl rfl) ?_)
    exact GatedAlike.bind (.inl rfl) fun _ => .ite (.inl rfl) (hwindow session)
  exact GatedAlike.bind (.inl rfl) hinputs

/-- The evaluation is seen through the input gate. -/
theorem evaluate_eq_of_gatedAlike
    (h : GatedAlike (engine.inputGate call)
      (engine.inputGate { call with observations := observations' })) :
    engine.evaluate call = engine.evaluate { call with observations := observations' } := by
  have hinputs : ∀ empty, engine.evaluateInputs call empty =
      engine.evaluateInputs { call with observations := observations' } empty := by
    intro empty
    rw [evaluateInputs, evaluateInputs]
    rcases h with heq | ⟨e, e', he, he', hcaught, hcaught'⟩
    · rw [← heq]
      rfl
    · rw [he, he']
      exact (if_pos hcaught).trans (if_pos hcaught').symm
  rw [evaluate, evaluate]
  refine congrArg _ (funext fun _ => ?_)
  exact ite_congr rfl (fun _ => rfl) fun _ => ite_congr rfl (fun _ => rfl) fun _ => hinputs _

variable (F)

/-- For every order of the rows `select_window` gives the same window or a rejection, exactly when
    rows that tie where the window is cut are equal or no order is admissible. And the engine
    evaluates every order alike when they are equal, or when no order is admissible and every
    order is rejected by an error that the engine catches. -/
theorem selectWindow_order :
    (∀ (observations : List PairObservation) (candidate : PairCandidate) (cfg : PairsSettings F)
      (calendar : ExchangeCalendar) (timezone : String) (now : Instant),
      (∀ observations' : List PairObservation, observations'.Perm observations →
        SameResult (selectWindow observations candidate cfg calendar timezone now)
          (selectWindow observations' candidate cfg calendar timezone now)) ↔
        OrderFree candidate cfg calendar timezone now observations) ∧
    ∀ (engine : PairsEngine F) (call : PairsCall F),
      EvaluatedAlike call.candidate engine.settings engine.calendar engine.timezone call.now
        call.observations →
      ∀ observations' : List PairObservation, observations'.Perm call.observations →
        engine.evaluate call = engine.evaluate { call with observations := observations' } := by
  refine ⟨fun observations candidate cfg calendar timezone now => selectWindow_sameResult_iff, ?_⟩
  intro engine call hfree observations' hp
  exact evaluate_eq_of_gatedAlike (inputGate_gatedAlike (selectWindow_gatedAlike hfree hp))

end PairsEngine

end Godzilla.Alphas

/-! A second row for the oldest slot of the window. -/

namespace Godzilla.Alphas.Sample
open Misc Features MarketData Universe Godzilla.MarketData.Sample Godzilla.Sample

/-- The first row with another price of the left leg. -/
def otherRow : PairObservation := { pairRow 0 with left := pairBar "INFY" 0 2 }

/-- The rows since the open. -/
def slotRows : List PairObservation := (List.range 65).map pairRow

theorem slotRows_ties {a b : PairObservation} (ha : a ∈ slotRows) (hb : b ∈ slotRows)
    (h : rowEnd a = rowEnd b) : a = b := by
  obtain ⟨i, -, rfl⟩ := List.mem_map.mp ha
  obtain ⟨j, -, rfl⟩ := List.mem_map.mp hb
  have hslot : afterOpen (5 * (i : Int)) + minutesOf 5 = afterOpen (5 * (j : Int)) + minutesOf 5 := h
  have heq : i = j := by
    simp only [afterOpen, minutesOf] at hslot
    lia
  rw [heq]

/-- Rows of different slots are evaluated alike in every order. -/
theorem selectWindow_order_slots :
    pairsEngine.evaluate pairsCall =
      pairsEngine.evaluate { pairsCall with observations := slotRows.reverse } := by
  refine (PairsEngine.selectWindow_order ℚ).2 pairsEngine pairsCall (.inl ?_) _
    (List.reverse_perm _)
  intro a ha b hb _ hkey
  exact slotRows_ties (List.mem_of_mem_filter ha) (List.mem_of_mem_filter hb) hkey

/-- The first price of the window of an order. -/
def firstClose (observations : List PairObservation) : Option ℚ :=
  (selectWindow observations pairCandidate pairsSettings calendar "Asia/Kolkata"
    (afterOpen 325)).toOption.bind fun window => window.rows.head?.map (·.left.close)

theorem firstClose_first : firstClose (otherRow :: slotRows) = some 1 := by decide +kernel

theorem firstClose_last : firstClose (slotRows ++ [otherRow]) = some 2 := by decide +kernel

/-- The row that comes last in the input is in the window: either order returns a window, and the
    two differ. -/
theorem selectWindow_cut :
    ¬ ∀ observations' : List PairObservation, observations'.Perm (otherRow :: slotRows) →
      SameResult
        (selectWindow (otherRow :: slotRows) pairCandidate pairsSettings calendar "Asia/Kolkata"
          (afterOpen 325))
        (selectWindow observations' pairCandidate pairsSettings calendar "Asia/Kolkata"
          (afterOpen 325)) := by
  intro h
  have hsame := h (slotRows ++ [otherRow]) (List.perm_append_singleton otherRow slotRows)
  have hprice : firstClose (otherRow :: slotRows) = firstClose (slotRows ++ [otherRow]) := by
    cases hrun : selectWindow (slotRows ++ [otherRow]) pairCandidate pairsSettings calendar
        "Asia/Kolkata" (afterOpen 325) with
    | error e =>
      have hlast := firstClose_last
      rw [firstClose, hrun] at hlast
      cases hlast
    | ok window => rw [firstClose, firstClose, hrun, hsame.ok_iff.mpr hrun]
  rw [firstClose_first, firstClose_last] at hprice
  revert hprice
  decide +kernel

end Godzilla.Alphas.Sample
