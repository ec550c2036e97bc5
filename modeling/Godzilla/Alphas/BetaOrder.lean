import Godzilla.Alphas.RelativeValueBeta
import Godzilla.MarketData.Aggregation
import Godzilla.Misc.Latest

/-!
# The training rows of a beta and their order

`estimate_beta` (`alphas/relative_value_beta.py:24-90`) sorts the known rows by the end of their
stock bars alone and cuts the last ones off. Rows that tie inside the cut are refused, as each
row has to start where the one before ends; of rows that tie where the cut is made the one that
comes last in the input is taken.
-/

namespace Godzilla.Alphas
open Godzilla Misc Features MarketData

/-- The rows of a session that were known at the cutoff. -/
def knownBetaRows (cutoff opening : Instant) (history : List BetaObservation) :
    List BetaObservation :=
  history.filter fun row => opening ≤ row.stock.start ∧ row.knownBy ≤ cutoff

/-- The end of the stock bar, by which rows are sorted. -/
def stockEnd (row : BetaObservation) : Instant := row.stock.stop

section Rows

variable {F : Type} [PyFloat F] [Platform] {stock market : InstrumentRef}
  {cutoff opening : Instant} {cfg : RelativeValueSettings F} {history : List BetaObservation}

omit [Platform] in
theorem betaRows_eq : betaRows history cutoff opening cfg =
    latest stockEnd (cfg.trainingReturns + 1) (knownBetaRows cutoff opening history) := by
  rw [latest, ← length_sortOn stockEnd]
  rfl

/-- What becomes of the rows that were cut off (`alphas/relative_value_beta.py:48-90`). -/
def estimateRows (stock market : InstrumentRef) (cutoff opening : Instant)
    (cfg : RelativeValueSettings F) (rows : List BetaObservation) :
    Except PyError (BetaEstimate F) :=
  if rows.length ≠ cfg.trainingReturns + 1 then .error (.valueError "BETA_WARMUP")
  else
    match rows.head?, rows.getLast? with
    | some first, some last =>
      if last.stock.stop ≠ cutoff then .error (.valueError "BETA_HISTORY_STALE")
      else do
        checkBetaRows stock market cutoff opening none rows
        let left := simpleReturns (rows.map (·.stock.close))
        let right := simpleReturns (rows.map (·.market.close))
        let (intercept, beta) ← ols left right
        if ¬ (cfg.minBeta ≤ beta ∧ beta ≤ cfg.maxBeta) then
          .error (.valueError "BETA_OUT_OF_RANGE")
        else
          let (before, after) ← halfSlopes left right
          let drift := PyFloat.abs (before - after) / beta
          if cfg.maxSplitBetaDrift < drift then .error (.valueError "BETA_UNSTABLE")
          else
            BetaEstimate.validate beta intercept drift rows first.stock.start last.stock.stop
              left.length
    | _, _ => .error (.valueError "BETA_WARMUP")

/-- The estimate is one of the rows that are cut off. -/
theorem estimateBeta_eq {now : Instant} :
    estimateBeta history stock market now opening cfg =
      estimateRows stock market (now - minutesOf 5) opening cfg
        (latest stockEnd (cfg.trainingReturns + 1)
          (knownBetaRows (now - minutesOf 5) opening history)) := by
  rw [← betaRows_eq]
  rfl

/-- The fit of the returns of the rows that `estimate_beta` accepts
    (`alphas/relative_value_beta.py:71-80`). -/
def BetaFits (cfg : RelativeValueSettings F) (rows : List BetaObservation) : Prop :=
  let left : List F := simpleReturns (rows.map (·.stock.close))
  let right : List F := simpleReturns (rows.map (·.market.close))
  ∃ intercept beta before after, ols left right = .ok (intercept, beta) ∧
    halfSlopes left right = .ok (before, after) ∧
    (cfg.minBeta ≤ beta ∧ beta ≤ cfg.maxBeta) ∧
    ¬ cfg.maxSplitBetaDrift < PyFloat.abs (before - after) / beta ∧
    0 ≤ PyFloat.abs (before - after) / beta ∧
    PyFloat.isFinite beta ∧ PyFloat.isFinite intercept ∧
    PyFloat.isFinite (PyFloat.abs (before - after) / beta)

/-- The checks of `estimate_beta` on the rows that it has cut off
    (`alphas/relative_value_beta.py:48-80`). -/
structure BetaAdmissible (stock market : InstrumentRef) (cutoff opening : Instant)
    (cfg : RelativeValueSettings F) (rows : List BetaObservation) : Prop where
  enough : rows.length = cfg.trainingReturns + 1
  current : ∀ last ∈ rows.getLast?, last.stock.stop = cutoff
  checked : checkBetaRows stock market cutoff opening none rows = .ok ()
  fits : BetaFits cfg rows

theorem validate_ok {beta intercept drift : F} {rows : List BetaObservation}
    {start stop : Instant} {returns : Nat} {estimate : BetaEstimate F}
    (h : BetaEstimate.validate beta intercept drift rows start stop returns = .ok estimate) :
    PyFloat.isFinite beta ∧ PyFloat.isFinite intercept ∧ PyFloat.isFinite drift ∧ 0 ≤ drift ∧
      estimate.inputHash = contentHash (BetaTraining.mk rows) := by
  rw [BetaEstimate.validate] at h
  split at h
  · cases h
  next hfinite =>
  split at h
  · next hdrift =>
    split at h
    · obtain rfl := Except.ok.inj h
      push Not at hfinite
      simp only [ne_eq, Bool.not_eq_false] at hfinite
      exact ⟨hfinite.1, hfinite.2.1, hfinite.2.2, hdrift, rfl⟩
    · cases h
  · cases h

/-- Rows that give an estimate are admissible, and their digest is in it. -/
theorem estimateRows_ok {rows : List BetaObservation} {estimate : BetaEstimate F}
    (h : estimateRows stock market cutoff opening cfg rows = .ok estimate) :
    BetaAdmissible stock market cutoff opening cfg rows ∧
      estimate.inputHash = contentHash (BetaTraining.mk rows) := by
  obtain ⟨hlength, h⟩ := guard_ok h
  split at h
  · next first last hfirst hlast =>
    obtain ⟨hcurrent, h⟩ := guard_ok h
    obtain ⟨⟨⟩, hchecked, h⟩ := bind_ok h
    obtain ⟨⟨intercept, beta⟩, hols, h⟩ := bind_ok h
    obtain ⟨hrange, h⟩ := guard_ok h
    obtain ⟨⟨before, after⟩, hhalves, h⟩ := bind_ok h
    obtain ⟨hstable, h⟩ := guard_ok h
    obtain ⟨hbeta, hintercept, hdrift, hnonneg, hhash⟩ := validate_ok h
    refine ⟨⟨not_not.mp hlength, ?_, hchecked, ?_⟩, hhash⟩
    · intro other hother
      obtain rfl := Option.some.inj (hlast.symm.trans hother)
      exact not_not.mp hcurrent
    · exact ⟨intercept, beta, before, after, hols, hhalves, not_not.mp hrange, hstable, hnonneg,
        hbeta, hintercept, hdrift⟩
  · cases h

/-- Admissible rows give an estimate. -/
theorem BetaAdmissible.estimate {rows : List BetaObservation}
    (h : BetaAdmissible stock market cutoff opening cfg rows) :
    ∃ estimate, estimateRows stock market cutoff opening cfg rows = .ok estimate := by
  have hnonempty : rows ≠ [] := by
    intro hnil
    have hlength := h.enough
    rw [hnil] at hlength
    cases hlength
  have hfirst : rows.head? = some (rows.head hnonempty) := List.head?_eq_some_head hnonempty
  have hlast : rows.getLast? = some (rows.getLast hnonempty) :=
    List.getLast?_eq_some_getLast hnonempty
  obtain ⟨intercept, beta, before, after, hols, hhalves, hrange, hstable, hnonneg, hbeta,
    hintercept, hdrift⟩ := h.fits
  have hreturns : 8 ≤ (simpleReturns (rows.map (·.stock.close)) : List F).length := by
    have hmin := cfg.training_min
    have hlength := h.enough
    simp only [simpleReturns, List.length_map, List.length_zip, List.length_tail]
    omega
  unfold estimateRows
  rw [if_neg (not_not.mpr h.enough), hfirst, hlast]
  simp only [h.current _ hlast, ne_eq, not_true_eq_false, if_false, h.checked, hols, hhalves]
  simp [Bind.bind, Except.bind, hrange, hstable, BetaEstimate.validate, hbeta, hintercept, hdrift,
    hnonneg, hreturns]

/-- The rows that tie where the cut is made are equal, or no order of the known rows leaves
    admissible ones. -/
def BetaOrderFree (stock market : InstrumentRef) (cutoff opening : Instant)
    (cfg : RelativeValueSettings F) (history : List BetaObservation) : Prop :=
  TiesAgree stockEnd (cfg.trainingReturns + 1) (knownBetaRows cutoff opening history) ∨
    ∀ rows : List BetaObservation, rows.Perm (knownBetaRows cutoff opening history) →
      ¬ BetaAdmissible stock market cutoff opening cfg
        (latest stockEnd (cfg.trainingReturns + 1) rows)

/-- Training sets that orders of the known rows give have different digests when they differ. -/
def DigestsTrainingSets (cutoff opening : Instant) (cfg : RelativeValueSettings F)
    (history : List BetaObservation) : Prop :=
  ∀ ys zs : List BetaObservation, ys.Perm (knownBetaRows cutoff opening history) →
    zs.Perm (knownBetaRows cutoff opening history) →
    contentHash (BetaTraining.mk (latest stockEnd (cfg.trainingReturns + 1) ys)) =
      contentHash (BetaTraining.mk (latest stockEnd (cfg.trainingReturns + 1) zs)) →
    latest stockEnd (cfg.trainingReturns + 1) ys = latest stockEnd (cfg.trainingReturns + 1) zs

/-- No order passes the checks exactly when none gives an estimate. -/
theorem never_admissible_iff :
    (∀ rows : List BetaObservation, rows.Perm (knownBetaRows cutoff opening history) →
      ¬ BetaAdmissible stock market cutoff opening cfg
        (latest stockEnd (cfg.trainingReturns + 1) rows)) ↔
    ∀ rows : List BetaObservation, rows.Perm (knownBetaRows cutoff opening history) →
      ∀ estimate, estimateRows stock market cutoff opening cfg
        (latest stockEnd (cfg.trainingReturns + 1) rows) ≠ .ok estimate := by
  constructor
  · intro hnone rows hrows estimate hestimate
    exact hnone rows hrows (estimateRows_ok hestimate).1
  · intro hnone rows hrows hadmissible
    obtain ⟨estimate, hestimate⟩ := hadmissible.estimate
    exact hnone rows hrows estimate hestimate

/-- Where rows that tie at the cut are equal, or no order is admissible, every order of the history
    gives the same estimate or is rejected; and only there, as long as digests tell the training
    sets of the history apart. -/
theorem estimateBeta_order (history : List BetaObservation) (stock market : InstrumentRef)
    (now opening : Instant) (cfg : RelativeValueSettings F) :
    (BetaOrderFree stock market (now - minutesOf 5) opening cfg history →
      ∀ history' : List BetaObservation, history'.Perm history →
        SameResult (estimateBeta history stock market now opening cfg)
          (estimateBeta history' stock market now opening cfg)) ∧
    (DigestsTrainingSets (now - minutesOf 5) opening cfg history →
      (∀ history' : List BetaObservation, history'.Perm history →
        SameResult (estimateBeta history stock market now opening cfg)
          (estimateBeta history' stock market now opening cfg)) →
      BetaOrderFree stock market (now - minutesOf 5) opening cfg history) := by
  simp only [estimateBeta_eq]
  rw [BetaOrderFree, never_admissible_iff]
  refine ⟨fun hfree history' hp => sameResult_latest hfree history' hp, fun hdigests hsame => ?_⟩
  refine tiesAgree_of_sameResult ?_ hsame
  intro ys zs hys hzs estimate hestimate hother
  apply hdigests ys zs hys hzs
  rw [← (estimateRows_ok hestimate).2, (estimateRows_ok hother).2]

end Rows

end Godzilla.Alphas

/-! Nine rows of prices that alternate, and another row for the oldest slot. -/

namespace Godzilla.Alphas.Sample
open Misc Features MarketData Godzilla.MarketData.Sample Godzilla.Sample

/-- A five-minute bar of the stock or of the index. -/
def betaBar (token : String) (kind : FeedKind) (slot : Nat) (price : Nat) : WrittenBar where
  instrumentId := token
  source := "feed"
  receivedAt := afterOpen (5 * slot) + minutesOf 5
  feedKind := kind
  start := afterOpen (5 * slot)
  stop := afterOpen (5 * slot) + minutesOf 5
  intervalMinutes := 5
  openPrice := price
  high := price
  low := price
  close := price
  volume := 10
  interval_supported := fiveMinutes_supported
  duration := slot_duration slot
  openWritten := wholePrice price
  highWritten := wholePrice price
  lowWritten := wholePrice price
  closeWritten := wholePrice price
  volumeWritten := wholePrice 10
  written := wholePrices_written price

/-- A row of the stock and the index at two prices. -/
def betaRow (slot : Nat) (price index : Nat) : BetaObservation where
  stock := betaBar "INFY" .equity slot price
  market := betaBar "NIFTY" .index slot index

/-- The rows since the open: the stock follows the index. -/
def betaHistory : List BetaObservation :=
  (List.range 9).map fun slot => betaRow slot (1 + slot % 2) (1 + slot % 2)

theorem betaTraining_min : 8 ≤ 8 := Nat.le_refl 8

theorem betaLimits_pos : ∀ x ∈ [(1 / 500 : ℚ), 1 / 5, 3, 1 / 2, 30, 12, 3, 100000, 10000000, 3],
    0 < x := by norm_num

theorem betaTail_range : (0 : ℚ) < 1 / 4 ∧ (1 / 4 : ℚ) < 1 / 2 := by norm_num

theorem betaWeight_range : (0 : ℚ) ≤ 1 / 2 ∧ (1 / 2 : ℚ) ≤ 1 := by norm_num

theorem betaNet_range : (0 : ℚ) ≤ 3 / 20 ∧ (3 / 20 : ℚ) < 1 := by norm_num

theorem betaGross_range : (0 : ℚ) ≤ 1 / 50 ∧ (1 / 50 : ℚ) < 1 := by norm_num

theorem betaBounds_ordered : (1 / 5 : ℚ) < 3 := by norm_num

theorem betaMembers_range : 1 ≤ 2 ∧ 2 ≤ 5 := by decide

theorem betaSectors_min : 2 ≤ 4 := by decide

/-- The defaults, with a training set of eight returns. -/
def betaSettings : RelativeValueSettings ℚ where
  trainingReturns := 8
  members_range := betaMembers_range
  sector_min := betaSectors_min
  tail_range := betaTail_range
  weight_range := betaWeight_range
  training_min := betaTraining_min
  positive := betaLimits_pos
  net_range := betaNet_range
  beta_range := betaGross_range
  beta_ordered := betaBounds_ordered

/-- The beta that an order of the rows gives at 10:05. -/
def betaOf (history : List BetaObservation) : Option ℚ :=
  (estimateBeta history ⟨"INFY", "feed"⟩ ⟨"NIFTY", "feed"⟩ (afterOpen 50) (afterOpen 0)
    betaSettings).toOption.map (·.beta)

theorem betaOf_first : betaOf (betaRow 0 4 2 :: betaHistory) = some 1 := by decide +kernel

theorem betaOf_last : betaOf (betaHistory ++ [betaRow 0 4 2]) = some (63 / 62) := by
  decide +kernel

/-- Of two rows for the oldest slot the one that comes last in the history is used: either order
    gives an estimate, and the betas are 1 and 63 / 62. -/
theorem estimateBeta_cut :
    ¬ ∀ history' : List BetaObservation, history'.Perm (betaRow 0 4 2 :: betaHistory) →
      SameResult
        (estimateBeta (betaRow 0 4 2 :: betaHistory) ⟨"INFY", "feed"⟩ ⟨"NIFTY", "feed"⟩
          (afterOpen 50) (afterOpen 0) betaSettings)
        (estimateBeta history' ⟨"INFY", "feed"⟩ ⟨"NIFTY", "feed"⟩ (afterOpen 50) (afterOpen 0)
          betaSettings) := by
  intro h
  have hsame := h (betaHistory ++ [betaRow 0 4 2]) (List.perm_append_singleton _ betaHistory)
  have hbeta : betaOf (betaRow 0 4 2 :: betaHistory) = betaOf (betaHistory ++ [betaRow 0 4 2]) := by
    cases hrun : estimateBeta (betaHistory ++ [betaRow 0 4 2]) ⟨"INFY", "feed"⟩ ⟨"NIFTY", "feed"⟩
        (afterOpen 50) (afterOpen 0) betaSettings with
    | error e =>
      have hlast := betaOf_last
      rw [betaOf, hrun] at hlast
      cases hlast
    | ok estimate => rw [betaOf, betaOf, hrun, hsame.ok_iff.mpr hrun]
  rw [betaOf_first, betaOf_last] at hbeta
  revert hbeta
  decide +kernel

theorem betaHistory_ties {a b : BetaObservation} (ha : a ∈ betaHistory) (hb : b ∈ betaHistory)
    (h : stockEnd a = stockEnd b) : a = b := by
  obtain ⟨i, -, rfl⟩ := List.mem_map.mp ha
  obtain ⟨j, -, rfl⟩ := List.mem_map.mp hb
  have hslot : afterOpen (5 * (i : Int)) + minutesOf 5 = afterOpen (5 * (j : Int)) + minutesOf 5 := h
  have heq : i = j := by
    simp only [afterOpen, minutesOf] at hslot
    lia
  rw [heq]

/-- Rows of different slots give one estimate in either order. -/
theorem estimateBeta_order_slots :
    SameResult
      (estimateBeta betaHistory ⟨"INFY", "feed"⟩ ⟨"NIFTY", "feed"⟩ (afterOpen 50) (afterOpen 0)
        betaSettings)
      (estimateBeta betaHistory.reverse ⟨"INFY", "feed"⟩ ⟨"NIFTY", "feed"⟩ (afterOpen 50)
        (afterOpen 0) betaSettings) := by
  refine (estimateBeta_order betaHistory ⟨"INFY", "feed"⟩ ⟨"NIFTY", "feed"⟩ (afterOpen 50)
    (afterOpen 0) betaSettings).1 (.inl ?_) _ (List.reverse_perm _)
  intro a ha b hb _ hkey
  exact betaHistory_ties (List.mem_of_mem_filter ha) (List.mem_of_mem_filter hb) hkey

end Godzilla.Alphas.Sample
