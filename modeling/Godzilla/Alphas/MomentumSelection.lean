import Godzilla.Alphas.MomentumScores
import Godzilla.MarketState.Runs
import Godzilla.Misc.TieGroups

/-!
# What a side of the tail may take

In exact arithmetic the cards considered for intents are the largest choice of whole groups
of equal strength, from the strongest on for a long side and from the weakest on for a
short one, that the cap allows; the intents are those of them that pass, in their order.
-/

namespace Godzilla.Alphas
open Godzilla Misc Events Features MarketData MarketState Universe

section Intents

variable {F : Type} [PyFloat F] [Platform] {engine : CrossSectionalMomentum F}
  {call : MomentumCall F} {side : Side}

/-- The intent is the one of the card on this side. -/
structure IntentOf (side : Side) (card : MomentumScore F) (intent : SignalIntent F) : Prop where
  instrumentId : intent.instrumentId = card.instrumentId
  score : intent.score = some (card.sideScore side)
  side : intent.side = side

omit [Platform] in
theorem sideScore_range (card : MomentumScore F) (side : Side) :
    0 ≤ card.sideScore side ∧ card.sideScore side ≤ 1 := by
  cases side with
  | long => exact card.longScore_range
  | short => exact card.shortScore_range

/-- No validator rejects an intent that the engine builds. -/
theorem intent_ok (engine : CrossSectionalMomentum F) (call : MomentumCall F) (side : Side)
    (card : MomentumScore F) :
    ∃ intent, engine.intent call side card = .ok intent ∧ IntentOf side card intent := by
  have hrange := sideScore_range card side
  unfold CrossSectionalMomentum.intent
  rw [MomentumSignalEvidence.validate, dif_pos ⟨hrange, rfl, rfl⟩]
  simp only [bind, Except.bind]
  rw [SignalIntent.validate, dif_pos]
  · exact ⟨_, rfl, rfl, rfl, rfl⟩
  · refine ⟨?_, by simp, ?_⟩
    · rintro score ⟨⟩
      exact hrange
    · rintro evidence ⟨⟩
      exact ⟨rfl, rfl, rfl, rfl⟩

/-- The flag of a card that confirms the trend of a side. -/
def trendConfirmed (side : Side) (card : MomentumScore F) : Bool :=
  match side with
  | .long => card.longConfirmed
  | .short => card.shortConfirmed

/-- The instrument may be sold short. -/
def ShortEligible (call : MomentumCall F) (token : String) : Prop :=
  token ∈ call.universeSnapshot.shortTokens ∧
    ∃ instrument ∈ call.master.byToken.get? token, instrument.foEligible = true

/-- Whether a card becomes an intent is decided by its flags and, for a short side, by its
    instrument. -/
theorem emits_spec {card : MomentumScore F}
    (hknown : ∃ instrument, call.instrument card.instrumentId = .ok instrument) :
    ∃ passes, CrossSectionalMomentum.emits call side card = .ok passes ∧
      (passes = true ↔ card.liquidityConfirmed = true ∧ trendConfirmed side card = true ∧
        (side = .short → ShortEligible call card.instrumentId)) := by
  obtain ⟨instrument, hinstrument⟩ := hknown
  have hget : call.master.byToken.get? card.instrumentId = some instrument := by
    rw [MomentumCall.instrument] at hinstrument
    split at hinstrument
    · cases hinstrument
    · next found hfound =>
      rw [hfound, Except.ok.inj hinstrument]
  unfold CrossSectionalMomentum.emits
  by_cases hflags : card.liquidityConfirmed = false ∨ trendConfirmed side card = false
  · refine ⟨false, if_pos hflags, ?_⟩
    rcases hflags with hflag | hflag <;> simp [hflag]
  · have hliquid : card.liquidityConfirmed = true := by
      simpa using fun h => hflags (.inl h)
    have htrend : trendConfirmed side card = true := by
      simpa using fun h => hflags (.inr h)
    cases side with
    | long => exact ⟨true, if_neg hflags, by simp [hliquid, htrend]⟩
    | short =>
      by_cases htoken : card.instrumentId ∈ call.universeSnapshot.shortTokens
      · refine ⟨instrument.foEligible, ?_, by simp [hliquid, htrend, ShortEligible, htoken, hget]⟩
        refine (if_neg hflags).trans ?_
        rw [if_pos rfl, if_neg (not_not.mpr htoken), hinstrument]
        rfl
      · refine ⟨false, ?_, by simp [ShortEligible, htoken]⟩
        refine (if_neg hflags).trans ?_
        rw [if_pos rfl, if_pos htoken]

theorem emits_true_iff {card : MomentumScore F}
    (hknown : ∃ instrument, call.instrument card.instrumentId = .ok instrument) :
    CrossSectionalMomentum.emits call side card = .ok true ↔
      card.liquidityConfirmed = true ∧ trendConfirmed side card = true ∧
        (side = .short → ShortEligible call card.instrumentId) := by
  obtain ⟨passes, hemits, hpasses⟩ := emits_spec hknown
  rw [hemits, ← hpasses]
  exact ⟨Except.ok.inj, congrArg Except.ok⟩

/-- The loop returns the intents of the cards that pass, in their order. -/
theorem intents_ok (engine : CrossSectionalMomentum F) (call : MomentumCall F) (side : Side)
    {cards : List (MomentumScore F)}
    (h : ∀ card ∈ cards, ∃ passes, CrossSectionalMomentum.emits call side card = .ok passes) :
    ∃ intents, engine.intents call side cards = .ok intents ∧
      List.Forall₂ (IntentOf side)
        (cards.filter fun card =>
          decide (CrossSectionalMomentum.emits call side card = .ok true)) intents := by
  induction cards with
  | nil => exact ⟨[], rfl, .nil⟩
  | cons card rest ih =>
    obtain ⟨others, hothers, hrelated⟩ := ih fun c hc => h c (List.mem_cons_of_mem _ hc)
    obtain ⟨passes, hpasses⟩ := h card List.mem_cons_self
    rw [CrossSectionalMomentum.intents, hpasses]
    simp only [bind, Except.bind]
    cases passes with
    | false =>
      refine ⟨others, hothers, ?_⟩
      rw [List.filter_cons_of_neg (by simp [hpasses])]
      exact hrelated
    | true =>
      obtain ⟨first, hfirst, hcard⟩ := intent_ok engine call side card
      refine ⟨first :: others, by simp [hfirst, hothers], ?_⟩
      rw [List.filter_cons_of_pos (by simp [hpasses])]
      exact .cons hcard hrelated

end Intents

section Cut

/-- How early a card comes on a side: the strongest first for a long one. -/
def place (side : Side) (card : MomentumScore ℚ) : ℚ :=
  match side with
  | .long => -card.strength
  | .short => card.strength

variable {side : Side} {cards : List (MomentumScore ℚ)} {cap : Nat}

theorem orderKey_eq (side : Side) (card : MomentumScore ℚ) :
    CrossSectionalMomentum.orderKey side card = toLex (place side card, card.instrumentId) := by
  cases side <;> rfl

theorem place_inj (side : Side) {a b : MomentumScore ℚ} : place side a = place side b ↔
    a.strength = b.strength := by
  cases side with
  | long => exact neg_inj
  | short => exact Iff.rfl

/-- The cut of the source takes the foremost groups of an ordered list. -/
theorem capped_eq_foremost
    (hsorted : cards.Pairwise fun a b => place side a ≤ place side b) :
    CrossSectionalMomentum.capped cap cards = foremost (place side) cap cards := by
  cases hnext : cards[cap]? with
  | none =>
    have hshort : cards.length ≤ cap := List.getElem?_eq_none_iff.mp hnext
    have htake : CrossSectionalMomentum.capped cap cards = cards.take cap := by
      rw [CrossSectionalMomentum.capped, hnext]
      split
      · next heq => cases heq
      · rfl
    rw [htake, foremost_of_short hshort, List.take_of_length_le hshort]
  | some next =>
    obtain ⟨hlt, rfl⟩ := List.getElem?_eq_some_iff.mp hnext
    have horder := List.pairwise_iff_getElem.mp hsorted
    have hlast : cards[cap - 1]? = some cards[cap - 1] := List.getElem?_eq_getElem (by omega)
    rw [foremost_of_next hsorted hnext, CrossSectionalMomentum.capped, hlast, hnext]
    simp only []
    by_cases htie : 0 < cap ∧ cards[cap - 1].strength = cards[cap].strength
    · rw [if_pos htie]
      apply List.filter_congr
      intro a ha
      obtain ⟨i, hi, rfl⟩ := List.mem_take_iff_getElem.mp ha
      have hle := horder i cap (by omega) hlt (by omega)
      rw [decide_eq_decide, ne_eq, ← place_inj side, lt_iff_le_and_ne]
      exact ⟨fun hne => ⟨hle, hne⟩, And.right⟩
    · rw [if_neg htie, eq_comm, List.filter_eq_self]
      intro a ha
      obtain ⟨i, hi, rfl⟩ := List.mem_take_iff_getElem.mp ha
      have hpos : 0 < cap := by omega
      have hne : place side cards[cap - 1] ≠ place side cards[cap] :=
        fun heq => htie ⟨hpos, (place_inj side).mp heq⟩
      have hbefore := lt_of_le_of_ne (horder (cap - 1) cap (by omega) hlt (by omega)) hne
      -- up to the last one taken, the order is only weak
      have hupto : place side cards[i] ≤ place side cards[cap - 1] := by
        rcases Nat.lt_or_ge i (cap - 1) with hbefore' | hge
        · exact horder i (cap - 1) (by omega) (by omega) hbefore'
        · have heq : i = cap - 1 := by omega
          subst heq
          exact le_rfl
      exact decide_eq_true (hupto.trans_lt hbefore)

/-- The part of the strength order that the tail of a side is. -/
theorem inTail_of_place_le {engine : CrossSectionalMomentum ℚ} {a b : MomentumScore ℚ}
    {strengths : List ℚ} (ha : a.percentile = percentileIn strengths a.strength)
    (hb : b.percentile = percentileIn strengths b.strength)
    (hle : place side a ≤ place side b) (htail : engine.inTail side b) :
    engine.inTail side a := by
  cases side with
  | long =>
    have hrank := percentileIn_mono strengths (neg_le_neg_iff.mp hle)
    rw [← ha, ← hb] at hrank
    exact htail.trans hrank
  | short =>
    have hrank := percentileIn_mono strengths (show a.strength ≤ b.strength from hle)
    rw [← ha, ← hb] at hrank
    exact hrank.trans htail

end Cut

section Selection

variable [Platform] {engine : CrossSectionalMomentum ℚ} {call : MomentumCall ℚ} {side : Side}

namespace CrossSectionalMomentum

/-- Every gate before the selection of a tail lets the call through, for this side. -/
structure ReachesTail (engine : CrossSectionalMomentum ℚ) (call : MomentumCall ℚ)
    (side : Side) : Prop where
  enabled : engine.settings.enabled = true
  available : ¬ call.universeUnavailable (engine.day call)
  unambiguous : ¬ call.crossSectionAmbiguous engine.settings
  readable : ∃ readings, engine.readings call = .ok readings
  permitted : call.permitted
  permittedSide : permittedSide call.state = some side

/-- The sign that a side asks of a trend input. -/
def Confirms (side : Side) (v : ℚ) : Prop :=
  match side with
  | .long => 0 < v
  | .short => v < 0

/-- The member passes liquidity, the three trend signs and, on a short side, the checks on
    its instrument. -/
def Passes (engine : CrossSectionalMomentum ℚ) (call : MomentumCall ℚ) (side : Side)
    (token : String) : Prop :=
  (∃ o ∈ call.selected, o.snapshot.entity = token ∧ ∃ x, ReadsInputs o x ∧
    x.Liquid engine.settings ∧ ∀ v ∈ x.trend, Confirms side v) ∧
  (side = .short → ShortEligible call token)

/-- What a selection takes from the scores of a cross-section. -/
structure Selects (engine : CrossSectionalMomentum ℚ) (call : MomentumCall ℚ) (side : Side)
    (result : MomentumResult ℚ) (considered emitted : List (MomentumScore ℚ)) : Prop where
  members : result.scores.map (·.instrumentId) = call.selected.map (·.snapshot.entity)
  largest : LargestGroups (place side)
    (min engine.settings.maxCandidatesPerSide
      ⌊(result.scores.length : ℚ) * engine.fraction side⌋₊)
    (result.scores.filter fun s => decide (engine.inTail side s)) considered
  unbeaten : ∀ a ∈ result.scores, ∀ b ∈ considered, place side a ≤ place side b →
    a ∈ considered
  ordered : considered.Pairwise fun a b =>
    toLex (place side a, a.instrumentId) < toLex (place side b, b.instrumentId)
  sublist : emitted.Sublist considered
  passing : ∀ card ∈ considered, card ∈ emitted ↔ engine.Passes call side card.instrumentId
  intents : result.intents.map (fun i => (i.instrumentId, i.side)) =
    emitted.map fun card => (card.instrumentId, side)

omit [Platform] in
/-- The product is positive, so that to truncate it is to take its floor. -/
theorem cap_eq (engine : CrossSectionalMomentum ℚ) (side : Side) (count : ℕ) :
    engine.cap side count =
      min engine.settings.maxCandidatesPerSide ⌊(count : ℚ) * engine.fraction side⌋₊ := by
  have hfraction : 0 ≤ engine.fraction side := by
    cases side with
    | long => exact engine.settings.longTail_range.1.le
    | short => exact engine.settings.shortTail_range.1.le
  have hnonneg : 0 ≤ (count : ℚ) * engine.fraction side := mul_nonneg (by positivity) hfraction
  have htruncate : PyTruncate.truncate (PyFloat.ofInt (count : ℤ) * engine.fraction side) =
      ⌊(count : ℚ) * engine.fraction side⌋ := if_pos hnonneg
  rw [cap, htruncate, Int.floor_toNat]

omit [Platform] in
/-- The flag of a side says that the side confirms all three signs. -/
theorem confirm_iff (cfg : MomentumSettings ℚ) (x : ConfirmationInputs ℚ) {c : MomentumScore ℚ}
    (hlong : c.longConfirmed = (x.confirm cfg).longOk)
    (hshort : c.shortConfirmed = (x.confirm cfg).shortOk) :
    trendConfirmed side c = true ↔ ∀ v ∈ x.trend, Confirms side v := by
  cases side with
  | long =>
    rw [trendConfirmed, hlong, ConfirmationInputs.confirm, List.all_eq_true]
    simp only [decide_eq_true_eq]
    exact Iff.rfl
  | short =>
    rw [trendConfirmed, hshort, ConfirmationInputs.confirm, List.all_eq_true]
    simp only [decide_eq_true_eq]
    exact Iff.rfl

/-- The flags on a card say what the inputs of its member pass. -/
theorem flags_iff (side : Side) {rows : List (Fin 5 → ℚ)} {readings : List (MomentumReading ℚ)}
    {scores : List (MomentumScore ℚ)} {card : MomentumScore ℚ}
    (hunique : (call.selected.map (·.snapshot.entity)).Nodup)
    (hread : List.Forall₂ (ReadOf engine.settings) call.selected readings)
    (hscored : List.Forall₂ (Scored engine.settings rows) readings scores)
    (hcard : card ∈ scores) :
    card.liquidityConfirmed = true ∧ trendConfirmed side card = true ↔
      ∃ o ∈ call.selected, o.snapshot.entity = card.instrumentId ∧ ∃ x, ReadsInputs o x ∧
        x.Liquid engine.settings ∧ ∀ v ∈ x.trend, Confirms side v := by
  obtain ⟨reading, hreading, hscore⟩ := exists_left_of_related hscored hcard
  obtain ⟨o, ho, hof⟩ := exists_left_of_related hread hreading
  have htoken : o.snapshot.entity = card.instrumentId := by
    rw [hscore.instrumentId, hof.observation]
  have hflags : ∀ x : ConfirmationInputs ℚ, reading.confirmation = x.confirm engine.settings →
      (card.liquidityConfirmed = true ∧ trendConfirmed side card = true ↔
        x.Liquid engine.settings ∧ ∀ v ∈ x.trend, Confirms side v) := by
    intro x hx
    have hliquid : card.liquidityConfirmed = decide (x.Liquid engine.settings) := by
      rw [hscore.liquidityConfirmed, hx]
      rfl
    rw [hliquid, decide_eq_true_eq, confirm_iff engine.settings x
      (by rw [hscore.longConfirmed, hx]) (by rw [hscore.shortConfirmed, hx])]
  constructor
  · intro hpass
    obtain ⟨x, hreads, hx⟩ := confirmation_ok.mp hof.confirmation
    obtain ⟨hliquid, htrend⟩ := (hflags x hx).mp hpass
    exact ⟨o, ho, htoken, x, hreads, hliquid, htrend⟩
  · rintro ⟨o', ho', htoken', x, hreads, hliquid, htrend⟩
    -- the members have different tokens, so the inputs are those of the card's own member
    obtain rfl : o' = o := List.inj_on_of_nodup_map hunique ho' ho (htoken'.trans htoken.symm)
    have hx : confirmation o' engine.settings = .ok (x.confirm engine.settings) :=
      confirmation_ok.mpr ⟨x, hreads, rfl⟩
    rw [hof.confirmation] at hx
    exact (hflags x (Except.ok.inj hx)).mpr ⟨hliquid, htrend⟩

section Ordered

variable {scores : List (MomentumScore ℚ)}

omit [Platform] in
theorem sortOn_orderKey_pairwise (side : Side) (cards : List (MomentumScore ℚ)) :
    (sortOn (orderKey side) cards).Pairwise fun a b => place side a ≤ place side b := by
  refine (sortOn_pairwise (orderKey side) cards).imp fun {a b} hle => ?_
  rw [orderKey_eq, orderKey_eq, Prod.Lex.toLex_le_toLex'] at hle
  exact hle.1

omit [Platform] in
theorem ordered_eq_foremost (engine : CrossSectionalMomentum ℚ) (side : Side)
    (scores : List (MomentumScore ℚ)) :
    engine.ordered side scores = foremost (place side)
      (min engine.settings.maxCandidatesPerSide ⌊(scores.length : ℚ) * engine.fraction side⌋₊)
      (sortOn (orderKey side) (scores.filter fun s => decide (engine.inTail side s))) := by
  rw [ordered, capped_eq_foremost (sortOn_orderKey_pairwise side _), cap_eq]

variable (hunique : (scores.map (·.instrumentId)).Nodup)
include hunique

omit [Platform] in
theorem nodup_sorted_tail (engine : CrossSectionalMomentum ℚ) (side : Side) :
    ((sortOn (orderKey side) (scores.filter fun s => decide (engine.inTail side s))).map
      (·.instrumentId)).Nodup :=
  nodup_map_sortOn ((List.filter_sublist.map _).nodup hunique)

omit [Platform] in
theorem ordered_largest (engine : CrossSectionalMomentum ℚ) (side : Side) :
    LargestGroups (place side)
      (min engine.settings.maxCandidatesPerSide ⌊(scores.length : ℚ) * engine.fraction side⌋₊)
      (scores.filter fun s => decide (engine.inTail side s)) (engine.ordered side scores) := by
  rw [ordered_eq_foremost]
  exact (foremost_largest (nodup_sorted_tail hunique engine side).of_map).of_mem_iff
    fun _ => mem_sortOn

omit [Platform] in
/-- Ties are in the order of the tokens, which differ. -/
theorem ordered_pairwise (engine : CrossSectionalMomentum ℚ) (side : Side) :
    (engine.ordered side scores).Pairwise fun a b =>
      toLex (place side a, a.instrumentId) < toLex (place side b, b.instrumentId) := by
  rw [ordered_eq_foremost]
  refine List.Pairwise.filter _ ?_
  have hdistinct := List.pairwise_map.mp (nodup_sorted_tail hunique engine side)
  refine (sortOn_pairwise (orderKey side) _).imp₂ (fun {a b} hle hne => ?_) hdistinct
  rw [orderKey_eq, orderKey_eq] at hle
  refine lt_of_le_of_ne hle fun heq => hne ?_
  exact congrArg (fun key => (ofLex key).2) heq

end Ordered

/-- A call that reaches the tail completes with the intents of the ordered cards. -/
theorem evaluate_eq (h : engine.ReachesTail call side) {readings : List (MomentumReading ℚ)}
    {scores : List (MomentumScore ℚ)} {intents : List (SignalIntent ℚ)}
    (hreadings : engine.readings call = .ok readings)
    (hscores : engine.scores call readings = .ok scores)
    (hintents : engine.intents call side (engine.ordered side scores) = .ok intents) :
    engine.evaluate call = .ok
      { engine.emptyResult call with
        scores := scores
        intents := intents
        reasons := ["RANKING_COMPLETE"] } := by
  rw [evaluate, if_neg (by simp [h.enabled]), if_neg h.available, if_neg h.unambiguous, hreadings]
  simp only [rank, hscores, bind, Except.bind, h.permittedSide, hintents]
  rw [if_neg (not_not.mpr h.permitted)]

/-- The selection of the tail: the largest choice of whole groups that the cap allows, and of
    it the intents of the members that pass. -/
theorem evaluate_selects (h : engine.ReachesTail call side) :
    ∃ result considered emitted, engine.evaluate call = .ok result ∧
      engine.Selects call side result considered emitted := by
  obtain ⟨readings, hreadings⟩ := h.readable
  have hread := readings_ok hreadings
  obtain ⟨scores, hscores, hscored, hpercentile⟩ := scored_of_readings h.unambiguous hreadings
  have hmembers : scores.map (·.instrumentId) = call.selected.map (·.snapshot.entity) := by
    rw [map_eq_of_related hscored fun _ _ hs => hs.instrumentId,
      map_eq_of_related hread fun _ _ hr => congrArg (·.snapshot.entity) hr.observation]
  have hentities : (call.selected.map (·.snapshot.entity)).Nodup := by
    have hgate := h.unambiguous
    simp only [MomentumCall.crossSectionAmbiguous, not_or, not_not] at hgate
    exact hgate.2.2.2.1
  have hunique : (scores.map (·.instrumentId)).Nodup := hmembers ▸ hentities
  have hlargest := ordered_largest hunique engine side
  have hsub : engine.ordered side scores ⊆ scores :=
    fun a ha => List.mem_of_mem_filter (hlargest.subset ha)
  have hknown : ∀ card ∈ engine.ordered side scores, ∃ instrument,
      call.instrument card.instrumentId = .ok instrument := fun card hcard =>
    instrument_known h.unambiguous (score_long h.unambiguous hreadings hscored (hsub hcard))
  obtain ⟨intents, hintents, hof⟩ := intents_ok engine call side
    fun card hcard => (emits_spec (hknown card hcard)).imp fun _ hpass => hpass.1
  refine ⟨_, engine.ordered side scores, (engine.ordered side scores).filter fun card =>
    decide (emits call side card = .ok true), evaluate_eq h hreadings hscores hintents, ?_⟩
  constructor
  · exact hmembers
  · exact hlargest
  · -- the tail is closed upwards, as percentiles grow with the strengths
    intro a ha b hb hle
    obtain ⟨hscore, htail⟩ := List.mem_filter.mp (hlargest.subset hb)
    have htail := inTail_of_place_le (hpercentile a ha) (hpercentile b hscore) hle
      (of_decide_eq_true htail)
    exact hlargest.closed a (List.mem_filter.mpr ⟨ha, decide_eq_true htail⟩) b hb hle
  · exact ordered_pairwise hunique engine side
  · exact List.filter_sublist
  · intro card hcard
    have hflags := flags_iff side hentities hread hscored (hsub hcard)
    rw [List.mem_filter, decide_eq_true_eq, emits_true_iff (hknown card hcard), Passes, ← hflags,
      and_assoc]
    exact and_iff_right hcard
  · exact map_eq_of_related hof fun _ _ hi => Prod.ext hi.instrumentId hi.side

end CrossSectionalMomentum

end Selection

end Godzilla.Alphas

namespace Godzilla.Alphas.Sample
open Features MarketData MarketState Universe CrossSectionalMomentum Godzilla.Sample

theorem weights_ranges : ∀ w ∈ [(1 : ℚ) / 5, 1 / 5, 1 / 5, 3 / 20, 3 / 20, 1 / 20, 1 / 20],
    0 ≤ w ∧ w ≤ 1 := by
  norm_num

theorem weights_normalized : PyFloat.IsClose (PyFloat.sum [(1 : ℚ) / 5, 1 / 5, 1 / 5, 3 / 20,
    3 / 20, 1 / 20, 1 / 20]) 1 (1 / 10 ^ 12) := by
  left
  rw [sum_rat]
  norm_num

theorem weights_directional : (1 / 20 : ℚ) ≠ 1 := by norm_num

theorem two_fifths_range : (0 : ℚ) < 2 / 5 ∧ (2 / 5 : ℚ) < 1 / 2 := by norm_num

theorem twelve_bps : (0 : ℚ) < 12 := by norm_num

theorem hundred_thousand_pos : (0 : ℚ) < 100000 := by norm_num

theorem turnover_default_pos : (0 : ℚ) < 10000000 := by norm_num

theorem two_members : 2 ≤ 2 := le_rfl

/-- The default settings but for larger tails and a smaller universe. -/
def momentumSettings : MomentumSettings ℚ where
  weights :=
    { return30m := 1 / 5
      return60m := 1 / 5
      return120m := 1 / 5
      relativeSector30m := 3 / 20
      relativeMarket30m := 3 / 20
      trendQuality := 1 / 20
      liquidityQuality := 1 / 20
      ranges := weights_ranges
      normalized := weights_normalized
      directional := weights_directional }
  longTailFraction := 2 / 5
  shortTailFraction := 2 / 5
  minimumUniverseSize := 2
  longTail_range := two_fifths_range
  shortTail_range := two_fifths_range
  candidates_pos := max_candidates_default
  universe_min := two_members
  spread_pos := twelve_bps
  quoteAge_pos := quote_age_pos
  adv_pos := hundred_thousand_pos
  turnover_pos := turnover_default_pos

def momentumEngine : CrossSectionalMomentum ℚ where
  settings := momentumSettings

theorem momentum_names : ["liquidity.adv", "liquidity.average_daily_turnover",
    "liquidity.quote_age", "liquidity.spread_bps", "market.return_30m", "sector.return_30m",
    "sector.vwap_distance", "stock.ema_20_slope", "stock.return_120m", "stock.return_30m",
    "stock.return_60m", "stock.vwap_distance"].Pairwise (· < ·) := by
  decide +kernel

/-- A liquid member with a return in every window, and trend inputs of one sign. -/
def momentumSnapshot (token : String) (change sign : ℚ) : FeatureSnapshot ℚ where
  entity := token
  timestamp := minutesOf 240
  featureSetHash := "features"
  contextHash := "digest"
  inputHash := "inputs"
  codeCommit := "commit"
  configHash := "config"
  dataSnapshot := "data"
  values :=
    let feature := MarketState.Sample.feature
    [ feature "liquidity.adv" 200000, feature "liquidity.average_daily_turnover" 20000000,
      feature "liquidity.quote_age" 1, feature "liquidity.spread_bps" 3,
      feature "market.return_30m" 0, feature "sector.return_30m" 0,
      feature "sector.vwap_distance" sign, feature "stock.ema_20_slope" sign,
      feature "stock.return_120m" change, feature "stock.return_30m" change,
      feature "stock.return_60m" change, feature "stock.vwap_distance" sign ]
  ordered_unique := momentum_names

theorem momentum_window : (0 : Instant) < daysOf 1 := by decide

def momentumObservation (token : String) (change sign : ℚ) : MomentumObservation ℚ where
  snapshot := momentumSnapshot token change sign
  context :=
    { entity := ⟨token, "feed"⟩
      nifty := some ⟨"NIFTY", "feed"⟩
      sector := some ⟨"IT", "feed"⟩
      universeVersion := "1"
      knownAt := 0
      validFrom := 0
      validTo := daysOf 1
      window_ordered := momentum_window
      breadth_unique := List.nodup_nil
      sector_unique := List.nodup_nil }

def momentumInstrument (token : String) : Instrument where
  symbol := token
  token := token
  isin := token
  exchange := "NSE"
  segment := "CM"
  tickSize := 1 / 20
  status := .active
  foEligible := true
  sector := "IT"
  priceBand := ⟨none, none, none, band_unbounded⟩
  effectiveFrom := 0
  effectiveTo := 10
  tickSize_pos := tick_size_pos
  dates_ordered := listing_dates_ordered

/-- The fields of a state that permits momentum on one side. -/
def momentumState (state : MarketState) (side : Side) : StateFields ℚ where
  timestamp := minutesOf 240
  state := state
  candidate := .chop
  previousState := .chop
  stateSince := minutesOf 240
  confirmationCount := 2
  allowedAlphaFamilies := [.crossSectionalMomentum]
  directionalSides := [side]
  grossRiskMultiplier := 1
  evidence :=
    { featureSnapshotHash := "snapshot"
      featureSetHash := "features"
      routerVersionHash := "digest"
      thresholds := []
      health := ⟨minutesOf 240, .healthy, .healthy, false, []⟩
      sessionOpen := none
      reasons := [] }
  settings := MarketState.Sample.settings
  codeCommit := "commit"
  configHash := "config"
  dataSnapshot := "data"
  priorDecisionHash := none

theorem momentumState_consistent {state : MarketState} (side : Side)
    (h : state = .trendUp ∨ state = .trendDown) :
    (momentumState state side).ConsistentPolicy := by
  constructor
  · exact zero_le_one' ℚ
  · exact le_rfl
  · exact le_rfl
  · rfl
  · rcases h with rfl | rfl
    · rintro (h | h) <;> cases h
    · rintro (h | h) <;> cases h

/-- Three members in a trend that leads up. -/
def momentumCall : MomentumCall ℚ where
  observations :=
    [ momentumObservation "INFY" (1 / 100) 1, momentumObservation "SBIN" (-1 / 100) 1,
      momentumObservation "TCS" (2 / 100) 1 ]
  universeSnapshot :=
    ⟨Uuid.ofNat 1, 0, 0, "master", "profile", ["INFY", "SBIN", "TCS"], ["INFY", "SBIN", "TCS"], []⟩
  master := ⟨"master", "1", "NSE", 0, 0, "source",
    [momentumInstrument "INFY", momentumInstrument "SBIN", momentumInstrument "TCS"]⟩
  state := ⟨momentumState .trendUp .long, momentumState_consistent .long (.inl rfl)⟩
  now := minutesOf 240

theorem evaluate_selects_three :
    momentumEngine.ReachesTail momentumCall .long ∧
      ∃ result considered emitted, momentumEngine.evaluate momentumCall = .ok result ∧
        momentumEngine.Selects momentumCall .long result considered emitted := by
  have hreadable : (momentumEngine.readings momentumCall).isOk = true := by decide +kernel
  have hreaches : momentumEngine.ReachesTail momentumCall .long := by
    constructor
    · rfl
    · decide +kernel
    · decide +kernel
    · cases hreadings : momentumEngine.readings momentumCall with
      | error e => rw [hreadings] at hreadable; cases hreadable
      | ok readings => exact ⟨readings, rfl⟩
    · decide +kernel
    · decide +kernel
  exact ⟨hreaches, evaluate_selects hreaches⟩

end Godzilla.Alphas.Sample
