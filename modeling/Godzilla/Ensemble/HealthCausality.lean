import Godzilla.Core.Events.RoundTrip
import Godzilla.Ensemble.HealthPace
import Godzilla.Misc.Raises

/-!
# What a measurement of health depends on

`measure_health` sees the visible outcomes of its alpha: those received and closed by the time
of the measurement. Of several outcomes of one trade that compare equal it keeps the last one,
so the set of visible outcomes decides the snapshot when equal outcomes are also written alike.
-/

namespace Godzilla.Ensemble
open Godzilla Misc Features MarketState

section Visible

variable (alpha : AlphaId) (now : Instant)

/-- An outcome of the alpha that is known at the time. -/
def Visible (trade : TradeOutcome) : Prop :=
  trade.alphaId = alpha ∧ trade.receivedAt ≤ now ∧ trade.closedAt ≤ now

instance (trade : TradeOutcome) : Decidable (Visible alpha now trade) :=
  inferInstanceAs (Decidable (_ ∧ _))

/-- The visible outcomes among some, in their order. -/
def visible (outcomes : List TradeOutcome) : List TradeOutcome :=
  outcomes.filter fun trade => Visible alpha now trade

/-- Two outcomes of one trade that do not compare equal. -/
def Conflicting (outcomes : List TradeOutcome) : Prop :=
  ∃ a ∈ visible alpha now outcomes, ∃ b ∈ visible alpha now outcomes,
    a.tradeId = b.tradeId ∧ a.fields ≠ b.fields

/-- Visible outcomes that compare equal are written alike. -/
def WrittenAlike (outcomes : List TradeOutcome) : Prop :=
  ∀ a ∈ visible alpha now outcomes, ∀ b ∈ visible alpha now outcomes,
    a.fields = b.fields → a = b

instance (outcomes : List TradeOutcome) : Decidable (WrittenAlike alpha now outcomes) :=
  inferInstanceAs (Decidable (∀ a ∈ visible alpha now outcomes,
    ∀ b ∈ visible alpha now outcomes, a.fields = b.fields → a = b))

/-- The same visible outcomes, in any order and any number of times. -/
def SameVisible (outcomes outcomes' : List TradeOutcome) : Prop :=
  ∀ trade, trade ∈ visible alpha now outcomes ↔ trade ∈ visible alpha now outcomes'

variable {alpha now}

theorem mem_visible {outcomes : List TradeOutcome} {trade : TradeOutcome} :
    trade ∈ visible alpha now outcomes ↔ trade ∈ outcomes ∧ Visible alpha now trade := by
  simp [visible]

theorem SameVisible.conflicting {outcomes outcomes' : List TradeOutcome}
    (h : SameVisible alpha now outcomes outcomes') (hconflict : Conflicting alpha now outcomes) :
    Conflicting alpha now outcomes' := by
  obtain ⟨a, ha, b, hb, hdiffer⟩ := hconflict
  exact ⟨a, (h a).mp ha, b, (h b).mp hb, hdiffer⟩

theorem SameVisible.writtenAlike {outcomes outcomes' : List TradeOutcome}
    (h : SameVisible alpha now outcomes outcomes') (halike : WrittenAlike alpha now outcomes) :
    WrittenAlike alpha now outcomes' :=
  fun a ha b hb => halike a ((h a).mpr ha) b ((h b).mpr hb)

theorem fields_tradeId {a b : TradeOutcome} (h : a.fields = b.fields) : a.tradeId = b.tradeId :=
  congrArg (fun fields => fields.1.1) h

end Visible

section Unique

variable {alpha : AlphaId} {now : Instant}

/-- Outcomes of one trade compare equal. -/
def Agreeing (trades : List TradeOutcome) : Prop :=
  ∀ a ∈ trades, ∀ b ∈ trades, a.tradeId = b.tradeId → a.fields = b.fields

instance (trades : List TradeOutcome) : Decidable (Agreeing trades) :=
  inferInstanceAs (Decidable (∀ a ∈ trades, ∀ b ∈ trades, a.tradeId = b.tradeId →
    a.fields = b.fields))

theorem not_conflicting_iff {outcomes : List TradeOutcome} :
    ¬ Conflicting alpha now outcomes ↔ Agreeing (visible alpha now outcomes) := by
  simp only [Conflicting, Agreeing, not_exists, not_and, not_not]

/-- The check of the loop: an outcome agrees with those seen if it agrees with the last one. -/
theorem agreeing_concat_iff {seen : List TradeOutcome} (hseen : Agreeing seen)
    {trade : TradeOutcome} : Agreeing (seen ++ [trade]) ↔
      ¬ ∃ known ∈ (Dict.index TradeOutcome.tradeId seen).get? trade.tradeId,
        known.fields ≠ trade.fields := by
  constructor
  · rintro hagree ⟨known, hknown, hdiffer⟩
    obtain ⟨hmem, hid⟩ := Dict.mem_of_get?_index hknown
    exact hdiffer (hagree known (List.mem_append_left _ hmem) trade
      (List.mem_append_right _ List.mem_cons_self) hid)
  · intro hlast
    have hold : ∀ a ∈ seen, a.tradeId = trade.tradeId → a.fields = trade.fields := by
      intro a ha hid
      obtain ⟨known, hknown⟩ := Option.isSome_iff_exists.mp
        ((Dict.get?_index_isSome_iff TradeOutcome.tradeId seen trade.tradeId).mpr ⟨a, ha, hid⟩)
      obtain ⟨hmem, hknownId⟩ := Dict.mem_of_get?_index hknown
      have hsame : known.fields = trade.fields := by
        by_contra hdiffer
        exact hlast ⟨known, hknown, hdiffer⟩
      exact (hseen a ha known hmem (hid.trans hknownId.symm)).trans hsame
    intro a ha b hb hid
    rcases List.mem_append.mp ha with ha | ha <;> rcases List.mem_append.mp hb with hb | hb
    · exact hseen a ha b hb hid
    · rw [List.mem_singleton.mp hb] at hid ⊢
      exact hold a ha hid
    · rw [List.mem_singleton.mp ha] at hid ⊢
      exact (hold b hb hid.symm).symm
    · rw [List.mem_singleton.mp ha, List.mem_singleton.mp hb]

theorem visible_cons (trade : TradeOutcome) (rest : List TradeOutcome) :
    visible alpha now (trade :: rest) =
      if Visible alpha now trade then trade :: visible alpha now rest
      else visible alpha now rest := by
  by_cases h : Visible alpha now trade <;> simp [visible, h]

theorem skipped_iff (trade : TradeOutcome) :
    (trade.alphaId ≠ alpha ∨ now < trade.receivedAt ∨ now < trade.closedAt) ↔
      ¬ Visible alpha now trade := by
  simp only [Visible, not_and_or, not_le]

/-- Without a conflict the loop collects the last visible outcome of each trade. -/
theorem uniqueTrades_eq_ok {outcomes seen : List TradeOutcome}
    (h : Agreeing (seen ++ visible alpha now outcomes)) :
    uniqueTrades alpha now outcomes (Dict.index TradeOutcome.tradeId seen) =
      .ok (Dict.index TradeOutcome.tradeId (seen ++ visible alpha now outcomes)) := by
  induction outcomes generalizing seen with
  | nil => simp [uniqueTrades, visible]
  | cons trade rest ih =>
    rw [visible_cons] at h ⊢
    by_cases hvisible : Visible alpha now trade
    · rw [if_pos hvisible] at h ⊢
      have hsplit : seen ++ trade :: visible alpha now rest =
          (seen ++ [trade]) ++ visible alpha now rest := by simp
      rw [hsplit] at h ⊢
      have hconcat : Agreeing (seen ++ [trade]) := fun a ha b hb =>
        h a (List.mem_append_left _ ha) b (List.mem_append_left _ hb)
      have hseen : Agreeing seen := fun a ha b hb =>
        hconcat a (List.mem_append_left _ ha) b (List.mem_append_left _ hb)
      rw [uniqueTrades, if_neg ((skipped_iff trade).not.mpr (not_not.mpr hvisible)),
        if_neg ((agreeing_concat_iff hseen).mp hconcat), ← Dict.index_concat]
      exact ih h
    · rw [if_neg hvisible] at h ⊢
      rw [uniqueTrades, if_pos ((skipped_iff trade).mpr hvisible)]
      exact ih h

/-- A conflict among the visible outcomes is found, whichever comes first. -/
theorem uniqueTrades_eq_error {outcomes seen : List TradeOutcome} (hseen : Agreeing seen)
    (h : ¬ Agreeing (seen ++ visible alpha now outcomes)) :
    ∃ e, uniqueTrades alpha now outcomes (Dict.index TradeOutcome.tradeId seen) = .error e := by
  induction outcomes generalizing seen with
  | nil => simp [visible, hseen] at h
  | cons trade rest ih =>
    rw [visible_cons] at h
    by_cases hvisible : Visible alpha now trade
    · rw [if_pos hvisible] at h
      have hsplit : seen ++ trade :: visible alpha now rest =
          (seen ++ [trade]) ++ visible alpha now rest := by simp
      rw [hsplit] at h
      rw [uniqueTrades, if_neg ((skipped_iff trade).not.mpr (not_not.mpr hvisible))]
      by_cases hconcat : Agreeing (seen ++ [trade])
      · rw [if_neg ((agreeing_concat_iff hseen).mp hconcat), ← Dict.index_concat]
        exact ih hconcat h
      · rw [if_pos (not_not.mp ((agreeing_concat_iff hseen).not.mp hconcat))]
        exact ⟨_, rfl⟩
    · rw [if_neg hvisible] at h
      rw [uniqueTrades, if_pos ((skipped_iff trade).mpr hvisible)]
      exact ih hseen h

end Unique

section Latest

variable {alpha : AlphaId}

/-- The last visible outcome of each trade. -/
def latest (alpha : AlphaId) (now : Instant) (outcomes : List TradeOutcome) :
    Dict Uuid TradeOutcome :=
  .index TradeOutcome.tradeId (visible alpha now outcomes)

theorem mem_latest_values {now : Instant} {outcomes : List TradeOutcome}
    (hagree : Agreeing (visible alpha now outcomes)) (halike : WrittenAlike alpha now outcomes)
    {trade : TradeOutcome} :
    trade ∈ (latest alpha now outcomes).values ↔ trade ∈ visible alpha now outcomes := by
  rw [Dict.mem_values_iff]
  constructor
  · rintro ⟨id, hfound⟩
    exact (Dict.mem_of_get?_index hfound).1
  · intro hmem
    obtain ⟨last, hlast⟩ := Option.isSome_iff_exists.mp
      ((Dict.get?_index_isSome_iff TradeOutcome.tradeId (visible alpha now outcomes)
        trade.tradeId).mpr ⟨trade, hmem, rfl⟩)
    obtain ⟨hlastMem, hid⟩ := Dict.mem_of_get?_index hlast
    have hsame : last = trade := halike last hlastMem trade hmem (hagree last hlastMem trade hmem hid)
    exact ⟨trade.tradeId, hsame ▸ hlast⟩

theorem latest_values_nodup (now : Instant) (outcomes : List TradeOutcome) :
    (latest alpha now outcomes).values.Nodup := by
  have hkeys : ((latest alpha now outcomes).values.map TradeOutcome.tradeId).Nodup := by
    rw [latest, Dict.map_values_index]
    exact Dict.keys_nodup _
  exact hkeys.of_map

/-- The trades in the order in which they were closed. -/
def closedTrades (alpha : AlphaId) (now : Instant) (outcomes : List TradeOutcome) :
    List TradeOutcome :=
  sortOn TradeOutcome.closeKey (latest alpha now outcomes).values

/-- The outcomes decide the trades when equal ones are written alike. -/
theorem closedTrades_eq {now : Instant} {outcomes outcomes' : List TradeOutcome}
    (hsame : SameVisible alpha now outcomes outcomes')
    (hagree : Agreeing (visible alpha now outcomes)) (halike : WrittenAlike alpha now outcomes) :
    closedTrades alpha now outcomes = closedTrades alpha now outcomes' := by
  have hagree' : Agreeing (visible alpha now outcomes') := fun a ha b hb =>
    hagree a ((hsame a).mpr ha) b ((hsame b).mpr hb)
  refine sortOn_eq_of_mem_iff (latest_values_nodup now outcomes) (latest_values_nodup now outcomes')
    ?_ ?_
  · intro trade
    rw [mem_latest_values hagree halike, mem_latest_values hagree' (hsame.writtenAlike halike)]
    exact hsame trade
  · intro a ha b hb hkey
    rw [mem_latest_values hagree halike] at ha hb
    have hid : a.tradeId = b.tradeId := congrArg (fun key => (ofLex key).2) hkey
    exact halike a ha b hb (hagree a ha b hb hid)

theorem mem_closedTrades {now : Instant} {outcomes : List TradeOutcome} {trade : TradeOutcome} :
    trade ∈ closedTrades alpha now outcomes ↔
      (latest alpha now outcomes).get? trade.tradeId = some trade := by
  rw [closedTrades, mem_sortOn, Dict.mem_values_iff]
  constructor
  · rintro ⟨id, hfound⟩
    rwa [(Dict.mem_of_get?_index hfound).2]
  · intro hfound
    exact ⟨trade.tradeId, hfound⟩

/-- The outcome that comes last is the one that is kept. -/
theorem mem_closedTrades_concat {now : Instant} {outcomes : List TradeOutcome}
    {last trade : TradeOutcome} (hlast : Visible alpha now last)
    (hid : trade.tradeId = last.tradeId) :
    trade ∈ closedTrades alpha now (outcomes ++ [last]) ↔ trade = last := by
  have hvisible : visible alpha now (outcomes ++ [last]) = visible alpha now outcomes ++ [last] := by
    simp [visible, hlast]
  rw [mem_closedTrades, latest, hvisible, Dict.index_concat, hid, Dict.get?_insert_self,
    Option.some.injEq, eq_comm]

theorem sameVisible_concat {now : Instant} {outcomes : List TradeOutcome} {trade : TradeOutcome}
    (h : trade ∈ visible alpha now outcomes) :
    SameVisible alpha now outcomes (outcomes ++ [trade]) := by
  intro other
  have hvisible := (mem_visible.mp h).2
  rw [mem_visible, mem_visible, List.mem_append, List.mem_singleton]
  constructor
  · rintro ⟨hmem, hother⟩
    exact ⟨.inl hmem, hother⟩
  · rintro ⟨hmem | rfl, hother⟩
    · exact ⟨hmem, hother⟩
    · exact mem_visible.mp h

end Latest

section Measure

variable {F : Type} [PyFloat F] [Platform] {alpha : AlphaId} {call : MeasureCall}

/-- What follows the loop over the outcomes, which is seen through the trades alone. -/
def measureTrades (alpha : AlphaId) (cfg : AlphaHealthSettings F) (call : MeasureCall)
    (previous : Option (AlphaHealthSnapshot F)) (trades : List TradeOutcome) :
    Except PyError (AlphaHealthSnapshot F) :=
  if ∃ p ∈ previous, invalidPredecessor alpha cfg call.now p then
    .error (.valueError "invalid health predecessor")
  else
    let measured := measure (lastItems cfg.windowTrades trades)
    if ∃ p ∈ previous, regressed measured p then
      .error (.valueError "health history regressed or disappeared")
    else healthSnapshot alpha cfg call measured previous

theorem measureHealth_of_agreeing (cfg : AlphaHealthSettings F)
    (previous : Option (AlphaHealthSnapshot F)) {call : MeasureCall}
    (hagree : Agreeing (visible alpha call.now call.outcomes)) :
    measureHealth alpha cfg call previous =
      measureTrades alpha cfg call previous (closedTrades alpha call.now call.outcomes) := by
  have hunique : uniqueTrades alpha call.now call.outcomes .empty =
      .ok (latest alpha call.now call.outcomes) :=
    @uniqueTrades_eq_ok alpha call.now call.outcomes [] hagree
  rw [measureHealth, hunique]
  rfl

theorem measureHealth_of_conflicting (cfg : AlphaHealthSettings F)
    (previous : Option (AlphaHealthSnapshot F)) {call : MeasureCall}
    (hconflict : Conflicting alpha call.now call.outcomes) :
    ∃ e, measureHealth alpha cfg call previous = .error e := by
  have hdisagree : ¬ Agreeing ([] ++ visible alpha call.now call.outcomes) := by
    rw [List.nil_append, ← not_conflicting_iff, not_not]
    exact hconflict
  obtain ⟨e, he⟩ := uniqueTrades_eq_error (fun _ h => absurd h List.not_mem_nil) hdisagree
  refine ⟨e, ?_⟩
  have hunique : uniqueTrades alpha call.now call.outcomes .empty = .error e := he
  rw [measureHealth, hunique]
  rfl

/-- A first measurement of visible trades returns a snapshot with the hash of its window. -/
theorem measureTrades_first (alpha : AlphaId) (call : MeasureCall) (cfg : AlphaHealthSettings F)
    {trades : List TradeOutcome}
    (hclosed : ∀ trade ∈ trades, trade.closedAt ≤ call.now) :
    ∃ snapshot, measureTrades alpha cfg call none trades = .ok snapshot ∧
      snapshot.outcomesHash = contentHash (Outcomes.mk (lastItems cfg.windowTrades trades)) := by
  let measured : Measured F := measure (lastItems cfg.windowTrades trades)
  have hnext : (nextMultiplier measured cfg call.now none).2 = call.now ∧
      ((nextMultiplier measured cfg call.now none).1 = cfg.minimumMultiplier ∨
        (nextMultiplier measured cfg call.now none).1 = cfg.initialMultiplier) := by
    have hcarried : carriedMultiplier measured cfg none = cfg.initialMultiplier := by
      simp [carriedMultiplier]
    by_cases hcut : measured.deteriorated cfg
    · simp [nextMultiplier, hcut]
    · simp [nextMultiplier, hcut, mayIncrease, hcarried]
  have hbounded : 0 ≤ cfg.minimumMultiplier ∧
      cfg.minimumMultiplier ≤ (nextMultiplier measured cfg call.now none).1 ∧
      (nextMultiplier measured cfg call.now none).1 ≤ cfg.maximumMultiplier ∧
      cfg.maximumMultiplier ≤ 1 := by
    obtain ⟨hmin, hmax⟩ := cfg.ordered
    rcases hnext.2 with heq | heq <;> rw [heq]
    · exact ⟨cfg.multiplier_range.1, le_refl _, hmin.trans hmax, cfg.multiplier_range.2⟩
    · exact ⟨cfg.multiplier_range.1, hmin, hmax, cfg.multiplier_range.2⟩
  have hlast : ∀ t ∈ measured.lastTrade, t ≤ call.now := by
    intro t ht
    obtain ⟨trade, htrade, rfl⟩ := Option.map_eq_some_iff.mp ht
    exact hclosed trade (List.mem_of_mem_drop (List.mem_of_getLast? htrade))
  have hsnapshot : ∃ snapshot, healthSnapshot alpha cfg call measured none = .ok snapshot ∧
      snapshot.outcomesHash = contentHash (Outcomes.mk measured.trades) := by
    rw [healthSnapshot, dif_pos hbounded, dif_pos hnext.1.le, dif_pos hlast]
    exact ⟨_, rfl, rfl⟩
  have hrun : measureTrades alpha cfg call none trades =
      healthSnapshot alpha cfg call measured none := by
    simp [measureTrades, measured]
  rw [hrun]
  exact hsnapshot

end Measure

section Order

variable (F : Type) [PyFloat F] [Platform]

/-- Whatever the settings and the predecessor, a call raises or returns as it does with any
    other outcomes of which the same are visible. -/
def Unaffected (alpha : AlphaId) (call : MeasureCall) : Prop :=
  ∀ (cfg : AlphaHealthSettings F) (previous : Option (AlphaHealthSnapshot F))
    (outcomes' : List TradeOutcome), SameVisible alpha call.now call.outcomes outcomes' →
      SameResult (measureHealth alpha cfg call previous)
        (measureHealth alpha cfg { call with outcomes := outcomes' } previous)

variable {F} {alpha : AlphaId} {call : MeasureCall}

theorem unaffected_of_conflicting (h : Conflicting alpha call.now call.outcomes) :
    Unaffected F alpha call := by
  intro cfg previous outcomes' hsame
  obtain ⟨e, he⟩ := measureHealth_of_conflicting cfg previous h
  have hconflict : Conflicting alpha { call with outcomes := outcomes' }.now outcomes' :=
    hsame.conflicting h
  obtain ⟨e', he'⟩ := measureHealth_of_conflicting cfg previous hconflict
  rw [he, he']
  trivial

theorem unaffected_of_writtenAlike (h : WrittenAlike alpha call.now call.outcomes) :
    Unaffected F alpha call := by
  by_cases hconflict : Conflicting alpha call.now call.outcomes
  · exact unaffected_of_conflicting hconflict
  · intro cfg previous outcomes' hsame
    have hagree : Agreeing (visible alpha call.now call.outcomes) :=
      not_conflicting_iff.mp hconflict
    have hagree' : Agreeing (visible alpha { call with outcomes := outcomes' }.now outcomes') :=
      fun a ha b hb => hagree a ((hsame a).mpr ha) b ((hsame b).mpr hb)
    refine .of_eq ?_
    rw [measureHealth_of_agreeing cfg previous hagree, measureHealth_of_agreeing cfg previous hagree',
      closedTrades_eq hsame hagree h]
    rfl

/-- A measurement that does not depend on the order of the outcomes tells no two outcomes
    apart that compare equal. -/
theorem writtenAlike_of_unaffected (base : AlphaHealthSettings F)
    (hinjective : Function.Injective (contentHash : Outcomes → Digest))
    (hunaffected : Unaffected F alpha call) (hconflict : ¬ Conflicting alpha call.now call.outcomes) :
    WrittenAlike alpha call.now call.outcomes := by
  intro a ha b hb hfields
  let trades (trade : TradeOutcome) : List TradeOutcome :=
    closedTrades alpha call.now (call.outcomes ++ [trade])
  -- a window that holds every trade
  let window := (trades a).length + (trades b).length + base.windowTrades
  let cfg : AlphaHealthSettings F :=
    { base with
      windowTrades := window
      window_min := base.window_min.trans (Nat.le_add_left _ _)
      warmup := base.warmup.trans (Nat.le_add_left _ _) }
  have hmeasured : ∀ trade ∈ visible alpha call.now call.outcomes,
      (trades trade).length ≤ window → ∃ snapshot,
        measureHealth alpha cfg call none = .ok snapshot ∧
        snapshot.outcomesHash = contentHash (Outcomes.mk (trades trade)) := by
    intro trade htrade hlength
    have hsame := sameVisible_concat htrade
    have hagree : Agreeing (visible alpha { call with outcomes := call.outcomes ++ [trade] }.now
        (call.outcomes ++ [trade])) := by
      intro x hx y hy
      exact not_conflicting_iff.mp hconflict x ((hsame x).mpr hx) y ((hsame y).mpr hy)
    have hclosed : ∀ x ∈ trades trade, x.closedAt ≤ call.now := by
      intro x hx
      exact (mem_visible.mp (Dict.mem_of_get?_index (mem_closedTrades.mp hx)).1).2.2.2
    obtain ⟨snapshot, hok, hhash⟩ := measureTrades_first alpha call cfg hclosed
    have hall : lastItems cfg.windowTrades (trades trade) = trades trade := by
      rw [lastItems, Nat.sub_eq_zero_of_le hlength, List.drop_zero]
    refine ⟨snapshot, ?_, by rw [hhash, hall]⟩
    rw [(hunaffected cfg none _ hsame).ok_iff, measureHealth_of_agreeing cfg none hagree]
    exact hok
  obtain ⟨snapshot, hok, hhash⟩ := hmeasured a ha (by omega)
  obtain ⟨snapshot', hok', hhash'⟩ := hmeasured b hb (by omega)
  have hsnapshot : snapshot = snapshot' := Except.ok.inj (hok.symm.trans hok')
  have htrades : trades a = trades b := by
    have heq := hinjective (hhash.symm.trans (hsnapshot ▸ hhash'))
    exact congrArg Outcomes.trades heq
  have hkept : a ∈ trades a := (mem_closedTrades_concat (mem_visible.mp ha).2 rfl).mpr rfl
  rw [htrades] at hkept
  exact (mem_closedTrades_concat (mem_visible.mp hb).2 (fields_tradeId hfields)).mp hkept

/-- The visible outcomes decide the result, in any order and any number of times, exactly when
    they conflict or those that compare equal are written alike. -/
theorem measureHealth_unaffected_iff (base : AlphaHealthSettings F)
    (hinjective : Function.Injective (contentHash : Outcomes → Digest)) :
    Unaffected F alpha call ↔
      Conflicting alpha call.now call.outcomes ∨ WrittenAlike alpha call.now call.outcomes := by
  constructor
  · intro hunaffected
    by_cases hconflict : Conflicting alpha call.now call.outcomes
    · exact .inl hconflict
    · exact .inr (writtenAlike_of_unaffected base hinjective hunaffected hconflict)
  · rintro (hconflict | halike)
    · exact unaffected_of_conflicting hconflict
    · exact unaffected_of_writtenAlike halike

end Order

end Godzilla.Ensemble

/-! Two outcomes of one trade that compare equal and are written differently. -/

namespace Godzilla.Ensemble.OutcomeSample
open Misc Codec MarketState Godzilla.Wire.Sample

/-- A `Decimal` by its parts. -/
def parts : Codec Decimal :=
  .object (
    .field "coefficient" (nat .int) (·.coefficient) <|
    .field "exponent" .int (·.exponent) <|
    .field "negative" .bool (·.negative) .done)
    (fun (coefficient, exponent, negative, _) => some ⟨negative, coefficient, exponent⟩) fun _ => rfl

/-- The texts of the numbers below. -/
def decimal : Codec Decimal :=
  (((parts.spelled .zero "0" fun _ => Json.noConfusion).spelled ⟨false, 100, 0⟩ "100"
    (spelled_enc_ne (by decide) fun _ => Json.noConfusion)).spelled ⟨false, 10, 0⟩ "10"
      (spelled_enc_ne (by decide) (spelled_enc_ne (by decide) fun _ => Json.noConfusion))).spelled
        ⟨false, 1, 1⟩ "1E+1" (spelled_enc_ne (by decide)
          (spelled_enc_ne (by decide) (spelled_enc_ne (by decide) fun _ => Json.noConfusion)))

theorem decimal_valid (d : Decimal) : decimal.Valid d := ⟨trivial, trivial, trivial, trivial⟩

/-- `TradeOutcome` in JSON. -/
def tradeOutcome : Codec TradeOutcome :=
  .object (
    .field "alpha_id" Wire.alphaId (·.alphaId) <|
    .field "closed_at" (Wire.instant ℚ) (·.closedAt) <|
    .field "costs" decimal (·.costs) <|
    .field "gross_capital" decimal (·.grossCapital) <|
    .field "gross_pnl" decimal (·.grossPnl) <|
    .field "received_at" (Wire.instant ℚ) (·.receivedAt) <|
    .field "regime" Wire.marketState (·.regime) <|
    .field "slippage_cost" decimal (·.slippageCost) <|
    .field "trade_id" (Wire.uuid ℚ) (·.tradeId) .done)
    (fun (alphaId, closedAt, costs, grossCapital, grossPnl, receivedAt, regime, slippageCost,
        tradeId, _) =>
      if h : (0 ≤ costs.value ∧ 0 ≤ slippageCost.value) ∧ 0 < grossCapital.value ∧
          closedAt ≤ receivedAt then
        some ⟨tradeId, alphaId, closedAt, receivedAt, grossPnl, costs, slippageCost, grossCapital,
          regime, h.1, h.2.1, h.2.2⟩
      else none)
    (fun trade => by
      dsimp
      exact dite_eq_some ⟨trade.costs_nonneg, trade.capital_pos, trade.closed_first⟩ rfl)

theorem tradeOutcome_valid (trade : TradeOutcome) : tradeOutcome.Valid trade :=
  ⟨trivial, Wire.instant_valid ℚ trade.closedAt, decimal_valid _, decimal_valid _, decimal_valid _,
    Wire.instant_valid ℚ trade.receivedAt, trivial, decimal_valid _,
    Wire.uuid_valid ℚ trade.tradeId, trivial⟩

/-- `_Outcomes` in JSON. -/
def outcomesDump (outcomes : Outcomes) : Json :=
  .obj [("trades", tradeOutcome.list.enc outcomes.trades)]

theorem outcomesDump_injective : Function.Injective outcomesDump := by
  intro a b h
  have htrades : tradeOutcome.list.enc a.trades = tradeOutcome.list.enc b.trades := by
    simpa [outcomesDump] using h
  have heq := eq_of_enc_eq tradeOutcome.list (fun t _ => tradeOutcome_valid t)
    (fun t _ => tradeOutcome_valid t) htrades
  cases a
  cases b
  exact congrArg Outcomes.mk heq

open Classical in
/-- A platform that dumps outcomes, with the text itself as the digest. -/
noncomputable scoped instance dumping : Platform :=
  { TextDigest.platform with
    modelDump := fun {α} value =>
      if h : α = Outcomes then outcomesDump (cast h value) else .obj [] }

theorem contentHash_injective : Function.Injective (contentHash : Outcomes → Digest) := by
  intro a b h
  have hdump : ∀ o : Outcomes, contentHash o = (outcomesDump o).text := by
    intro o
    have hmodel : Platform.modelDump o = outcomesDump o := dif_pos rfl
    exact congrArg Json.text hmodel
  rw [hdump, hdump] at h
  exact outcomesDump_injective (Json.text_injective h)

/-- A profit of `Decimal("10")`. -/
def ten : TradeOutcome := Sample.outcome 1 1 ⟨false, 10, 0⟩

/-- The same profit as `Decimal("1E+1")`. -/
def oneTen : TradeOutcome := Sample.outcome 1 1 ⟨false, 1, 1⟩

/-- A measurement after the trade has closed. -/
def measured (outcomes : List TradeOutcome) : MeasureCall := Sample.measureCall outcomes 2

theorem agreeing : Agreeing (visible .momentum (measured []).now [ten, oneTen]) ∧
    Agreeing (visible .momentum (measured []).now [oneTen, ten]) := by decide +kernel

theorem closedTrades_last :
    closedTrades .momentum (measured []).now [ten, oneTen] = [oneTen] ∧
    closedTrades .momentum (measured []).now [oneTen, ten] = [ten] := by decide +kernel

/-- A measurement of a trade has the hash of that trade. -/
theorem measureHealth_hash (outcomes : List TradeOutcome) (trade : TradeOutcome)
    (hagree : Agreeing (visible .momentum (measured outcomes).now outcomes))
    (hclosed : closedTrades .momentum (measured outcomes).now outcomes = [trade])
    (hpast : trade.closedAt ≤ (measured outcomes).now) :
    ∃ snapshot, measureHealth .momentum Sample.healthSettings (measured outcomes) none =
      .ok snapshot ∧ snapshot.outcomesHash = contentHash (Outcomes.mk [trade]) := by
  have hmem : ∀ t ∈ [trade], t.closedAt ≤ (measured outcomes).now := by
    intro t ht
    rwa [List.mem_singleton.mp ht]
  obtain ⟨snapshot, hok, hhash⟩ :=
    measureTrades_first .momentum (measured outcomes) Sample.healthSettings hmem
  refine ⟨snapshot, ?_, hhash⟩
  have hagree' : Agreeing (visible .momentum (measured outcomes).now (measured outcomes).outcomes) :=
    hagree
  have hclosed' : closedTrades .momentum (measured outcomes).now (measured outcomes).outcomes =
      [trade] := hclosed
  rw [measureHealth_of_agreeing _ _ hagree', hclosed']
  exact hok

/-- One trade that is written in one way. -/
theorem measureHealth_unaffected_single : Unaffected ℚ .momentum (measured [ten, ten]) :=
  (measureHealth_unaffected_iff Sample.healthSettings contentHash_injective).mpr
    (.inr (by decide +kernel))

/-- The two writings of one trade are equal outcomes, and the one that comes last decides the
    hash. -/
theorem measureHealth_order :
    SameVisible .momentum (measured []).now [ten, oneTen] [oneTen, ten] ∧
    ¬ SameResult (measureHealth .momentum Sample.healthSettings (measured [ten, oneTen]) none)
      (measureHealth .momentum Sample.healthSettings (measured [oneTen, ten]) none) := by
  constructor
  · intro trade
    rw [mem_visible, mem_visible]
    simp [or_comm]
  · intro hsame
    obtain ⟨snapshot, hok, hhash⟩ :=
      measureHealth_hash [ten, oneTen] oneTen agreeing.1 closedTrades_last.1 (by decide +kernel)
    obtain ⟨snapshot', hok', hhash'⟩ :=
      measureHealth_hash [oneTen, ten] ten agreeing.2 closedTrades_last.2 (by decide +kernel)
    rw [hok, hok'] at hsame
    have hsnapshot : snapshot = snapshot' := hsame
    rw [← hsnapshot, hhash] at hhash'
    have htrades : [oneTen] = [ten] := congrArg Outcomes.trades (contentHash_injective hhash')
    revert htrades
    decide +kernel

end Godzilla.Ensemble.OutcomeSample
