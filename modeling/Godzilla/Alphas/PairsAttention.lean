import Godzilla.Alphas.PairsDates
import Godzilla.MarketData.Aggregation
import Godzilla.Portfolio.FailClosed

/-!
# An open pair is attended to

With a position, `PairsEngine.evaluate` leaves it, flags it, or holds it after every
check of an open pair has passed. What the input gate raises is caught, its dates aside, and so
is what the statistics raise. Behind them four steps may still raise: the logarithm of the last
prices, the arithmetic of the quoted spreads, the end of the holding time, and the validators of
the exit intent; and a score that is NaN passes every test of an open pair.
-/

namespace Godzilla.Alphas
open Godzilla Misc Features MarketData MarketState Universe

section Gate

variable {F : Type} [PyFloat F] [Platform] (engine : PairsEngine F) (call : PairsCall F)

/-- A position that the gate lets through has a positive hedge ratio. -/
theorem beta_pos_of_inputGate {admitted : PairAdmitted} (h : engine.inputGate call = .ok admitted)
    {position : PairPosition F} (hposition : call.position = some position) :
    0 < position.entryFit.beta := by
  obtain ⟨session, -, h⟩ := bind_ok h
  obtain ⟨⟨⟩, -, h⟩ := bind_ok (guard_ok (guard_ok h).2).2
  have h := (guard_ok (guard_ok (guard_ok h).2).2).2
  obtain ⟨window, -, h⟩ := bind_ok h
  have hvalid := (guard_ok h).1
  by_contra hbeta
  exact hvalid ⟨position, hposition, Or.inr (Or.inr (Or.inr (not_lt.mp hbeta)))⟩

end Gate

section Liquidity

variable {F : Type} [PyFloat F] {cfg : PairsSettings F} {now : Instant}

/-- The half of the sum of a bid and an ask is a `Decimal` other than zero. -/
structure MidpointExists (quote : Quote) : Prop where
  representable : quote.bid + quote.ask < Decimal.overflow
  nonzero : 3 / 2 * Decimal.least ≤ quote.bid + quote.ask

/-- The spreads of the legs that are quoted can be computed, of the right leg when the left one is
    liquid. -/
structure LiquidityReads (liquidity : PairLiquidity F × PairLiquidity F)
    (candidate : PairCandidate) (cfg : PairsSettings F) (now : Instant) : Prop where
  left : LegQuoted cfg now liquidity.1 candidate.left → MidpointExists liquidity.1.quote
  right : liquidLeg cfg now liquidity.1 candidate.left = .ok true →
    LegQuoted cfg now liquidity.2 candidate.right → MidpointExists liquidity.2.quote

theorem spreadBps_isOk_iff {quote : Quote} :
    (∃ spread : F, spreadBps quote = .ok spread) ↔ MidpointExists quote := by
  rw [spreadBps]
  split
  · next hoverflow =>
    exact iff_of_false (not_exists_ok _) fun h => absurd h.representable (not_lt.mpr hoverflow)
  next hoverflow =>
  split
  · next hzero => exact iff_of_false (not_exists_ok _) fun h => absurd h.nonzero (not_le.mpr hzero)
  · next hzero => exact iff_of_true ⟨_, rfl⟩ ⟨not_le.mp hoverflow, not_lt.mp hzero⟩

theorem liquidLeg_isOk_iff {item : PairLiquidity F} {ref : InstrumentRef} :
    (∃ passed, liquidLeg cfg now item ref = .ok passed) ↔
      (LegQuoted cfg now item ref → MidpointExists item.quote) := by
  rw [liquidLeg, ← spreadBps_isOk_iff (F := F)]
  split
  · next hunquoted => exact iff_of_true ⟨_, rfl⟩ fun hquoted => absurd hquoted hunquoted
  · next hquoted =>
    rw [forall_prop_of_true (not_not.mp hquoted)]
    cases (spreadBps item.quote : Except PyError F) with
    | error e => exact iff_of_false (not_exists_ok e) (not_exists_ok e)
    | ok spread => exact iff_of_true ⟨_, rfl⟩ ⟨spread, rfl⟩

theorem liquid_isOk_iff {liquidity : PairLiquidity F × PairLiquidity F}
    {candidate : PairCandidate} :
    (∃ passed, liquid liquidity candidate cfg now = .ok passed) ↔
      LiquidityReads liquidity candidate cfg now := by
  constructor
  · rintro ⟨passed, h⟩
    obtain ⟨left, hleft, h⟩ := bind_ok h
    refine ⟨liquidLeg_isOk_iff.mp ⟨left, hleft⟩, fun htrue => ?_⟩
    obtain rfl := Except.ok.inj (hleft.symm.trans htrue)
    exact liquidLeg_isOk_iff.mp ⟨passed, h⟩
  · rintro ⟨hleft, hright⟩
    obtain ⟨left, hleft⟩ := liquidLeg_isOk_iff.mpr hleft
    rw [liquid, hleft]
    cases left with
    | false => exact ⟨false, rfl⟩
    | true => exact liquidLeg_isOk_iff.mpr (hright hleft)

end Liquidity

section Intent

variable {F : Type} [PyFloat F]

/-- A hedge ratio that splits into two legs: both fractions and their imbalance are in range,
    they sum to one and have the ratio, as the arithmetic of floats has it. -/
structure Splits (beta : F) : Prop where
  left : 0 < 1 / (1 + beta) ∧ 1 / (1 + beta) < 1
  right : 0 < beta / (1 + beta) ∧ beta / (1 + beta) < 1
  net : 0 ≤ PyFloat.abs (1 - beta) / (1 + beta) ∧ PyFloat.abs (1 - beta) / (1 + beta) < 1
  whole : PyFloat.IsClose (1 / (1 + beta) + beta / (1 + beta)) 1
  ratio : PyFloat.IsClose (beta / (1 + beta) / (1 / (1 + beta))) beta

/-- In exact arithmetic every positive ratio splits. -/
theorem splits_of_pos {beta : ℚ} (h : 0 < beta) : Splits beta := by
  have hsum : 0 < 1 + beta := by linarith
  have hone : ((1 : ℚ) / (1 + beta) + beta / (1 + beta)) = 1 := by
    field_simp
  refine ⟨⟨by positivity, ?_⟩, ⟨by positivity, ?_⟩, ⟨?_, ?_⟩, Or.inl hone, Or.inl ?_⟩
  · rw [div_lt_one hsum]
    linarith
  · rw [div_lt_one hsum]
    linarith
  · exact div_nonneg (abs_nonneg _) (le_of_lt hsum)
  · rw [div_lt_one hsum]
    exact abs_lt.mpr ⟨by linarith, by linarith⟩
  · field_simp

variable [Platform]

/-- What an intent of the engine trades. -/
structure PairIntentOf (call : PairsCall F) (action : PairAction) (direction : SpreadDirection)
    (activeFit : PairFit F) (intent : PairSignalIntent F) : Prop where
  action : intent.action = action
  direction : intent.direction = direction
  timestamp : intent.timestamp = call.now
  candidate : intent.candidate = call.candidate
  fit : intent.fit = activeFit

variable {engine : PairsEngine F} {call : PairsCall F} {reading : PairReading F}
  {action : PairAction} {direction : SpreadDirection} {activeFit : PairFit F} {since : Instant}
  {digest : Digest} {reasons : List String}

/-- The spread and its score are finite numbers. -/
def FiniteScore (score : Option (F × F)) : Prop :=
  ∃ spread zscore, score = some (spread, zscore) ∧ PyFloat.isFinite spread ∧
    PyFloat.isFinite zscore

theorem PairLeg.of_validate {token : String} {side : Side} {gross : F} {leg : PairLeg F}
    (h : PairLeg.validate token side gross = .ok leg) :
    leg.instrumentId = token ∧ leg.side = side ∧ leg.grossFraction = gross := by
  rw [PairLeg.validate] at h
  split at h
  · obtain rfl := Except.ok.inj h
    exact ⟨rfl, rfl, rfl⟩
  · cases h

theorem CombinedRiskReference.of_validate {fit : PairFit F} {score : Option (F × F)}
    {boundary net : F} {holdUntil : Instant} {risk : CombinedRiskReference F}
    (h : CombinedRiskReference.validate fit score boundary holdUntil net = .ok risk) :
    FiniteScore score ∧ 0 ≤ net ∧ net < 1 := by
  cases score with
  | none => cases h
  | some score =>
    obtain ⟨hfinite, h⟩ := guard_ok h
    rw [not_or, Bool.not_eq_false, Bool.not_eq_false] at hfinite
    split at h
    · next hnet => exact ⟨⟨score.1, score.2, rfl, hfinite⟩, hnet⟩
    · cases h

theorem PairSignalIntent.of_validate {fields : PairIntentFields F} {intent : PairSignalIntent F}
    (h : PairSignalIntent.validate fields = .ok intent) : intent.toPairIntentFields = fields := by
  rw [PairSignalIntent.validate] at h
  split at h
  · obtain rfl := Except.ok.inj h
    rfl
  · cases h

omit [Platform] in
theorem leftSide_eq_expectedLeft : PairsEngine.leftSide action direction =
    expectedLeft action direction := by
  cases action <;> cases direction <;> rfl

/-- What a built intent says. -/
theorem pairIntent_ok {intent : PairSignalIntent F}
    (h : engine.pairIntent call reading action direction activeFit since digest reasons =
      .ok intent) :
    PairIntentOf call action direction activeFit intent ∧ Splits activeFit.beta ∧
      since + minutesOf engine.settings.maxHoldMinutes ≤ maxInstant ∧
      FiniteScore reading.score := by
  obtain ⟨left, hleft, h⟩ := bind_ok h
  obtain ⟨right, hright, h⟩ := bind_ok h
  obtain ⟨deadline, hdeadline, h⟩ := bind_ok h
  obtain ⟨risk, hrisk, h⟩ := bind_ok h
  have hfields := PairSignalIntent.of_validate h
  obtain ⟨-, -, hleftGross⟩ := PairLeg.of_validate hleft
  obtain ⟨-, -, hrightGross⟩ := PairLeg.of_validate hright
  obtain ⟨hfinite, hnet⟩ := CombinedRiskReference.of_validate hrisk
  obtain ⟨-, -, -, -, -, hwhole, hratio, -⟩ := intent.coupled
  rw [hfields] at hwhole hratio
  dsimp only at hwhole hratio
  rw [hleftGross, hrightGross] at hwhole hratio
  refine ⟨⟨?_, ?_, ?_, ?_, ?_⟩, ⟨?_, ?_, hnet, hwhole, hratio⟩, (addDuration_ok hdeadline).2,
    hfinite⟩
  · rw [hfields]
  · rw [hfields]
  · rw [hfields]
  · rw [hfields]
  · rw [hfields]
  · rw [← hleftGross]
    exact left.gross_range
  · rw [← hrightGross]
    exact right.gross_range

/-- An intent is built when the ratio splits, the holding time ends on the calendar and the
    score is finite. -/
theorem pairIntent_isOk (hbeta : 0 < activeFit.beta) (hsplits : Splits activeFit.beta)
    (hdeadline : since + minutesOf engine.settings.maxHoldMinutes ≤ maxInstant)
    (hscore : FiniteScore reading.score) :
    ∃ intent, engine.pairIntent call reading action direction activeFit since digest reasons =
      .ok intent := by
  obtain ⟨spread, zscore, hscore, hspread, hzscore⟩ := hscore
  have hfinite : ¬ (PyFloat.isFinite spread = false ∨ PyFloat.isFinite zscore = false) := by
    simp [hspread, hzscore]
  rw [PairsEngine.pairIntent, hscore]
  simp only [PairLeg.validate, dif_pos hsplits.left, dif_pos hsplits.right, addDuration,
    if_pos hdeadline, CombinedRiskReference.validate, if_neg hfinite, dif_pos hsplits.net,
    bind, Except.bind, PairSignalIntent.validate]
  rw [dif_pos]
  · exact ⟨_, rfl⟩
  · refine ⟨hbeta, rfl, rfl, leftSide_eq_expectedLeft, ?_, hsplits.whole, hsplits.ratio, rfl, rfl⟩
    dsimp only
    cases PairsEngine.leftSide action direction <;> decide

end Intent

section Decision

variable {F : Type} [PyFloat F] [PyMath F] [Platform]

/-- The call with an open position. -/
def PairsCall.holding (call : PairsCall F) (position : PairPosition F) : PairsCall F :=
  { call with position := some position }

namespace PairsEngine

variable (engine : PairsEngine F) (call : PairsCall F) (position : PairPosition F)

/-- The call comes to a decision: it is not in LIVE mode, the alpha is enabled, the inputs are
    valid and the relationship was refitted. -/
structure Judged (admitted : PairAdmitted) (fit : PairFit F) : Prop where
  not_live : call.mode ≠ .live
  enabled : engine.settings.enabled = true
  inputs_valid : engine.inputGate call = .ok admitted
  refit : fitPair admitted.window.training engine.settings engine.diagnostics = .ok fit

/-- The evaluation flags the position and proposes nothing. -/
def Flagged (evaluation : PairEvaluation F) : Prop :=
  evaluation.intent = none ∧ evaluation.openRiskAttention = true

/-- The evaluation leaves the position. -/
def Exits (evaluation : PairEvaluation F) : Prop :=
  (∃ intent ∈ evaluation.intent, intent.action = .exit) ∧ evaluation.openRiskAttention = true

/-- Why an open position is left: the conditions of `exitReasons`. -/
def ExitDue (reading : PairReading F) : Prop :=
  reading.admitted.session.flattenAt ≤ call.now ∨
  position.openedAt + minutesOf engine.settings.maxHoldMinutes ≤ call.now ∨
  engine.structuralBreak reading.fit position.entryFit ∨
  reading.isLiquid = false ∨ ¬ call.permitted ∨
  engine.adverse position.direction reading.zscore ∨
  engine.reverted reading.zscore position.entryZ

/-- The checks of an open pair that is held. -/
structure Held (admitted : PairAdmitted) (fit : PairFit F) (zscore : F) : Prop where
  accepted : relationshipRejections fit engine.settings = []
  drift : PyFloat.abs (fit.beta - position.entryFit.beta) / position.entryFit.beta ≤
    engine.settings.maxBetaDrift
  liquid : liquid call.liquidity call.candidate engine.settings call.now = .ok true
  permitted : call.state.timestamp = call.now ∧ 0 < call.state.grossRiskMultiplier ∧
    AlphaFamily.pairsStatArb ∈ call.state.allowedAlphaFamilies
  before_flatten : call.now < admitted.session.flattenAt
  before_deadline : call.now < position.openedAt + minutesOf engine.settings.maxHoldMinutes
  not_adverse : match position.direction with
    | .shortSpread => zscore < engine.settings.stopZ
    | .longSpread => -engine.settings.stopZ < zscore
  outside_exit : engine.settings.exitZ < PyFloat.abs zscore
  entry_sign : (0 < zscore ∧ 0 < position.entryZ) ∨ (zscore < 0 ∧ position.entryZ < 0)

/-- The evaluation holds the position: its call came to a decision, and every check passed for
    the score of the last row under the fit of the entry. -/
def Holds (evaluation : PairEvaluation F) : Prop :=
  evaluation.reasons = ["HOLD"] ∧ evaluation.openRiskAttention = false ∧
  ∃ admitted fit spread zscore, engine.Judged call admitted fit ∧
    spreadZ admitted.window.last position.entryFit = .ok (some (spread, zscore)) ∧
    engine.Held call position admitted fit zscore

variable {engine call position} {admitted : PairAdmitted} {fit : PairFit F}

omit [PyMath F] in
/-- A pair with a score that has a product with the one of the entry is held when no exit is
    due. -/
theorem held_of_not_exitDue {spread zscore : F} {isLiquid : Bool}
    (hliquid : Alphas.liquid call.liquidity call.candidate engine.settings call.now = .ok isLiquid)
    (hproduct : PyFloat.mul? zscore position.entryZ ≠ none)
    (h : ¬ engine.ExitDue call position ⟨admitted, fit, some (spread, zscore), isLiquid⟩) :
    engine.Held call position admitted fit zscore := by
  simp only [ExitDue, structuralBreak, adverse, reverted, PairReading.zscore, Option.map_some,
    Option.mem_some_iff, exists_eq_left', PyFloat.mul?_eq_some hproduct, not_or, not_not, not_le,
    not_lt, Bool.not_eq_false] at h
  obtain ⟨hflatten, hdeadline, ⟨haccepted, hdrift⟩, rfl, hpermitted, hadverse, hexit, hsign⟩ := h
  refine ⟨haccepted, hdrift, hliquid, hpermitted, hflatten, hdeadline, ?_, hexit,
    PyFloat.pos_of_mul_pos hsign⟩
  cases hdirection : position.direction with
  | shortSpread => simpa [hdirection] using hadverse
  | longSpread => simpa [hdirection] using hadverse

omit [PyMath F] in
/-- With a holding time that ends on the calendar, there are reasons to leave exactly when an
    exit is due. -/
theorem exitReasons_eq (reading : PairReading F)
    (hdeadline : position.openedAt + minutesOf engine.settings.maxHoldMinutes ≤ maxInstant) :
    ∃ reasons, engine.exitReasons call reading position = .ok reasons ∧
      (reasons ≠ [] ↔ engine.ExitDue call position reading) := by
  have hadd : addDuration position.openedAt (minutesOf engine.settings.maxHoldMinutes) =
      .ok (position.openedAt + minutesOf engine.settings.maxHoldMinutes) := if_pos hdeadline
  rw [exitReasons, hadd]
  simp only [bind, Except.bind]
  by_cases hflatten : reading.admitted.session.flattenAt ≤ call.now
  · exact ⟨_, if_pos hflatten, iff_of_true (by simp) (Or.inl hflatten)⟩
  rw [if_neg hflatten]
  by_cases hhold : position.openedAt + minutesOf engine.settings.maxHoldMinutes ≤ call.now
  · exact ⟨_, if_pos hhold, iff_of_true (by simp) (Or.inr (Or.inl hhold))⟩
  rw [if_neg hhold]
  by_cases hbreak : engine.structuralBreak reading.fit position.entryFit
  · exact ⟨_, if_pos hbreak, iff_of_true (by simp) (Or.inr (Or.inr (Or.inl hbreak)))⟩
  rw [if_neg hbreak]
  by_cases hliquid : reading.isLiquid = false
  · exact ⟨_, if_pos hliquid, iff_of_true (by simp) (Or.inr (Or.inr (Or.inr (Or.inl hliquid))))⟩
  · rw [if_neg hliquid]
    by_cases hpermitted : call.permitted
    · rw [if_neg (not_not.mpr hpermitted)]
      by_cases hadverse : engine.adverse position.direction reading.zscore
      · refine ⟨_, if_pos hadverse, iff_of_true (by simp) ?_⟩
        simp only [ExitDue, hadverse, true_or, or_true]
      rw [if_neg hadverse]
      by_cases hreverted : engine.reverted reading.zscore position.entryZ
      · refine ⟨_, if_pos hreverted, iff_of_true (by simp) ?_⟩
        simp only [ExitDue, hreverted, or_true]
      · refine ⟨_, if_neg hreverted, iff_of_false (by simp) ?_⟩
        simp only [ExitDue, hflatten, hhold, hbreak, hliquid, hpermitted, hadverse, hreverted,
          not_true, Bool.true_eq_false, or_self, not_false_eq_true]
    · refine ⟨_, if_pos hpermitted, iff_of_true (by simp) ?_⟩
      simp only [ExitDue, hpermitted, not_false_eq_true, true_or, or_true]

omit [PyMath F] in
/-- A decision for an open position holds it without reasons, or leaves it with an intent. -/
theorem decideOpen_ok {empty evaluation : PairEvaluation F} {reading : PairReading F}
    (h : engine.decideOpen call empty reading position = .ok evaluation) :
    ∃ reasons, engine.exitReasons call reading position = .ok reasons ∧
      ((reasons = [] ∧ evaluation.intent = empty.intent ∧ evaluation.reasons = ["HOLD"] ∧
          evaluation.openRiskAttention = false) ∨
        (reasons ≠ [] ∧ ∃ intent, engine.pairIntent call reading .exit position.direction
            position.entryFit position.openedAt empty.inputHash reasons = .ok intent ∧
          evaluation.intent = some intent ∧ evaluation.openRiskAttention = true)) := by
  obtain ⟨reasons, hreasons, h⟩ := bind_ok h
  refine ⟨reasons, hreasons, ?_⟩
  by_cases hempty : reasons = []
  · rw [if_pos hempty] at h
    obtain rfl := Except.ok.inj h
    exact Or.inl ⟨hempty, rfl, rfl, rfl⟩
  · rw [if_neg hempty] at h
    obtain ⟨intent, hintent, h⟩ := bind_ok h
    obtain rfl := Except.ok.inj h
    exact Or.inr ⟨hempty, intent, hintent, rfl, rfl⟩

/-- What lets a call that comes to a decision return one: the last prices have logarithms, the
    quoted spreads can be computed, the holding time ends on the calendar and, when an exit is due,
    the ratio of the entry splits into legs and the score is finite. -/
structure Returns (engine : PairsEngine F) (call : PairsCall F) (position : PairPosition F)
    (admitted : PairAdmitted) (fit : PairFit F) : Prop where
  left_price : (0 : F) < PyFloat.ofDecimal admitted.window.last.left.close
  right_price : (0 : F) < PyFloat.ofDecimal admitted.window.last.right.close
  liquidity : LiquidityReads call.liquidity call.candidate engine.settings call.now
  deadline : position.openedAt + minutesOf engine.settings.maxHoldMinutes ≤ maxInstant
  exit : ∀ score isLiquid, spreadZ admitted.window.last position.entryFit = .ok score →
    liquid call.liquidity call.candidate engine.settings call.now = .ok isLiquid →
    engine.ExitDue call position ⟨admitted, fit, score, isLiquid⟩ →
      Splits position.entryFit.beta ∧ FiniteScore score

/-- What lets a call that comes to a decision return one that attends to the pair: when no exit is
    due the score is no NaN, and neither is its product with the score of the entry. -/
structure Unobstructed (engine : PairsEngine F) (call : PairsCall F) (position : PairPosition F)
    (admitted : PairAdmitted) (fit : PairFit F) : Prop
    extends engine.Returns call position admitted fit where
  hold : ∀ score isLiquid, spreadZ admitted.window.last position.entryFit = .ok score →
    liquid call.liquidity call.candidate engine.settings call.now = .ok isLiquid →
    ¬ engine.ExitDue call position ⟨admitted, fit, score, isLiquid⟩ →
      ∃ spread zscore, score = some (spread, zscore) ∧
        PyFloat.mul? zscore position.entryZ ≠ none

omit [Platform] in
theorem logOf_ok {x y : F} (h : logOf x = .ok y) : 0 < x ∧ y = PyMath.log x := by
  rw [logOf] at h
  split at h
  · next hpos => exact ⟨hpos, (Except.ok.inj h).symm⟩
  · cases h

omit [Platform] in
/-- A row has a score exactly when its prices have logarithms. -/
theorem spreadZ_isOk_iff (row : PairObservation) (fit : PairFit F) :
    (∃ score, spreadZ row fit = .ok score) ↔
      (0 : F) < PyFloat.ofDecimal row.left.close ∧ (0 : F) < PyFloat.ofDecimal row.right.close := by
  constructor
  · rintro ⟨score, h⟩
    obtain ⟨left, hleft, h⟩ := bind_ok h
    obtain ⟨right, hright, -⟩ := bind_ok h
    exact ⟨(logOf_ok hleft).1, (logOf_ok hright).1⟩
  · rintro ⟨hleft, hright⟩
    rw [spreadZ, logPrice, logPrice, logOf, logOf, if_pos hleft, if_pos hright]
    exact ⟨_, rfl⟩

omit [PyMath F] in
/-- Reasons that are found without the end of the holding time are those of the flattening. -/
theorem exitReasons_deadline {reading : PairReading F} {reasons : List String}
    (h : engine.exitReasons call reading position = .ok reasons) :
    reasons ≠ [] ∨ position.openedAt + minutesOf engine.settings.maxHoldMinutes ≤ maxInstant := by
  rw [exitReasons] at h
  split at h
  · obtain rfl := Except.ok.inj h
    exact Or.inl (by simp)
  · obtain ⟨deadline, hdeadline, -⟩ := bind_ok h
    exact Or.inr (addDuration_ok hdeadline).2

omit [PyMath F] in
/-- A decision that returns was not past the calendar, and its intent was built if an exit was
    due. -/
theorem of_decideOpen_ok {empty evaluation : PairEvaluation F} {reading : PairReading F}
    (h : engine.decideOpen call empty reading position = .ok evaluation) :
    position.openedAt + minutesOf engine.settings.maxHoldMinutes ≤ maxInstant ∧
    (engine.ExitDue call position reading →
      Splits position.entryFit.beta ∧ FiniteScore reading.score) := by
  obtain ⟨reasons, hreasons, ⟨hempty, -⟩ | ⟨hne, intent, hintent, -⟩⟩ := decideOpen_ok h
  · have hdeadline := (exitReasons_deadline hreasons).resolve_left (not_not.mpr hempty)
    refine ⟨hdeadline, fun hdue => ?_⟩
    obtain ⟨found, hfound, hiff⟩ := exitReasons_eq reading hdeadline
    rw [hreasons] at hfound
    obtain rfl := Except.ok.inj hfound
    exact absurd hempty (hiff.mpr hdue)
  · obtain ⟨-, hsplits, hdeadline, hfinite⟩ := pairIntent_ok hintent
    exact ⟨hdeadline, fun _ => ⟨hsplits, hfinite⟩⟩

omit [PyMath F] in
/-- A decision that nothing obstructs returns. -/
theorem decideOpen_isOk (empty : PairEvaluation F) (reading : PairReading F)
    (hbeta : 0 < position.entryFit.beta)
    (hdeadline : position.openedAt + minutesOf engine.settings.maxHoldMinutes ≤ maxInstant)
    (hexit : engine.ExitDue call position reading →
      Splits position.entryFit.beta ∧ FiniteScore reading.score) :
    ∃ evaluation, engine.decideOpen call empty reading position = .ok evaluation := by
  obtain ⟨reasons, hreasons, hiff⟩ := exitReasons_eq reading hdeadline
  rw [decideOpen, hreasons]
  simp only [bind, Except.bind]
  by_cases hempty : reasons = []
  · rw [if_pos hempty]
    exact ⟨_, rfl⟩
  · rw [if_neg hempty]
    obtain ⟨hsplits, hscore⟩ := hexit (hiff.mp hempty)
    obtain ⟨intent, hintent⟩ : ∃ intent, engine.pairIntent call reading .exit position.direction
        position.entryFit position.openedAt empty.inputHash reasons = .ok intent :=
      pairIntent_isOk hbeta hsplits hdeadline hscore
    rw [hintent]
    exact ⟨_, rfl⟩

theorem decide_eq (empty : PairEvaluation F) (hposition : call.position = some position) :
    engine.decide call empty admitted fit =
      spreadZ admitted.window.last position.entryFit >>= fun score =>
        liquid call.liquidity call.candidate engine.settings call.now >>= fun isLiquid =>
          engine.decideOpen call empty ⟨admitted, fit, score, isLiquid⟩ position := by
  rw [decide, hposition]
  rfl

/-- A decision for an open position returns exactly when nothing raises. -/
theorem decide_isOk_iff (empty : PairEvaluation F) (hposition : call.position = some position)
    (hbeta : 0 < position.entryFit.beta) :
    (∃ evaluation, engine.decide call empty admitted fit = .ok evaluation) ↔
      engine.Returns call position admitted fit := by
  rw [decide_eq empty hposition]
  constructor
  · rintro ⟨evaluation, h⟩
    obtain ⟨score, hscore, h⟩ := bind_ok h
    obtain ⟨isLiquid, hliquid, h⟩ := bind_ok h
    obtain ⟨hleft, hright⟩ := (spreadZ_isOk_iff _ _).mp ⟨score, hscore⟩
    obtain ⟨hdeadline, hexit⟩ := of_decideOpen_ok h
    refine ⟨hleft, hright, liquid_isOk_iff.mp ⟨isLiquid, hliquid⟩, hdeadline, ?_⟩
    intro score' isLiquid' hscore' hliquid'
    obtain rfl := Except.ok.inj (hscore.symm.trans hscore')
    obtain rfl := Except.ok.inj (hliquid.symm.trans hliquid')
    exact hexit
  · rintro ⟨hleft, hright, hreads, hdeadline, hexit⟩
    obtain ⟨score, hscore⟩ :=
      (spreadZ_isOk_iff admitted.window.last position.entryFit).mpr ⟨hleft, hright⟩
    obtain ⟨isLiquid, hliquid⟩ := liquid_isOk_iff.mpr hreads
    rw [hscore, hliquid]
    exact decideOpen_isOk empty ⟨admitted, fit, score, isLiquid⟩ hbeta hdeadline
      (hexit score isLiquid hscore hliquid)

/-- The intent of an exit trades both legs against the entry, at its hedge ratio. -/
def ExitsOpposite (call : PairsCall F) (position : PairPosition F) (intent : PairSignalIntent F) :
    Prop :=
  intent.legs.1.instrumentId = call.candidate.left.instrumentId ∧
  intent.legs.2.instrumentId = call.candidate.right.instrumentId ∧
  intent.legs.1.side = opposite position.direction.entryLeft ∧
  intent.legs.2.side = position.direction.entryLeft ∧
  intent.hedgeRatio = position.entryFit.beta ∧ intent.fit = position.entryFit

omit [PyMath F] in
theorem exitsOpposite_of_intent {intent : PairSignalIntent F}
    (h : PairIntentOf call .exit position.direction position.entryFit intent) :
    ExitsOpposite call position intent := by
  obtain ⟨-, hleft, hright, hside, hother, -, -, hratio, -⟩ := intent.coupled
  rw [h.candidate] at hleft hright
  rw [h.action, h.direction] at hside
  rw [hside] at hother
  refine ⟨hleft, hright, hside, ?_, ?_, h.fit⟩
  · cases hdirection : position.direction <;> cases hlast : intent.legs.2.side <;>
      simp_all [expectedLeft, opposite, SpreadDirection.entryLeft]
  · rw [← hratio, h.fit]

/-- What a decision for an open position that returns says: an intent against the entry when an
    exit is due, and otherwise nothing but the answer to hold. -/
theorem outcome_of_decide {empty evaluation : PairEvaluation F}
    (hposition : call.position = some position) (hempty : empty.intent = none)
    (h : engine.decide call empty admitted fit = .ok evaluation) :
    ∃ score isLiquid, spreadZ admitted.window.last position.entryFit = .ok score ∧
      liquid call.liquidity call.candidate engine.settings call.now = .ok isLiquid ∧
      ((engine.ExitDue call position ⟨admitted, fit, score, isLiquid⟩ ∧ Exits evaluation ∧
          ∀ intent ∈ evaluation.intent, ExitsOpposite call position intent) ∨
        (¬ engine.ExitDue call position ⟨admitted, fit, score, isLiquid⟩ ∧
          evaluation.reasons = ["HOLD"] ∧ evaluation.openRiskAttention = false ∧
          evaluation.intent = none)) := by
  rw [decide_eq empty hposition] at h
  obtain ⟨score, hscore, h⟩ := bind_ok h
  obtain ⟨isLiquid, hliquid, h⟩ := bind_ok h
  have hdeadline := (of_decideOpen_ok h).1
  obtain ⟨reasons, hreasons, hcase⟩ := decideOpen_ok h
  obtain ⟨found, hfound, hiff⟩ : ∃ found,
      engine.exitReasons call ⟨admitted, fit, score, isLiquid⟩ position = .ok found ∧
        (found ≠ [] ↔ engine.ExitDue call position ⟨admitted, fit, score, isLiquid⟩) :=
    exitReasons_eq _ hdeadline
  obtain rfl := Except.ok.inj (hreasons.symm.trans hfound)
  refine ⟨score, isLiquid, hscore, hliquid, ?_⟩
  rcases hcase with ⟨hnone, hintent, hhold, hattention⟩ | ⟨hsome, intent, hbuilt, hintent, hattention⟩
  · exact Or.inr ⟨mt hiff.mpr (not_not.mpr hnone), hhold, hattention, hintent.trans hempty⟩
  · have hof := (pairIntent_ok hbuilt).1
    refine Or.inl ⟨hiff.mp hsome, ⟨⟨intent, hintent, hof.action⟩, hattention⟩, ?_⟩
    intro other hother
    rw [hintent] at hother
    obtain rfl := Option.some.inj hother
    exact exitsOpposite_of_intent hof

/-- A call that comes to a decision returns it. -/
theorem evaluate_of_judged (hnow : IsDatetime call.now) (h : engine.Judged call admitted fit) :
    ∃ empty : PairEvaluation F, empty.intent = none ∧
      engine.evaluate call = engine.decide call empty admitted fit := by
  refine ⟨{ engine.emptyEvaluation call with
    inputHash := contentHash
      (PairInputs.mk call.candidate admitted.window call.liquidity call.position) }, rfl, ?_⟩
  rw [evaluate, utc, asDatetime_eq hnow]
  change (if call.mode = .live then _ else _) = _
  rw [if_neg h.not_live, if_neg (by rw [h.enabled]; decide), evaluateInputs]
  simp only [h.inputs_valid, h.refit]

/-- A call with readable dates that does not flags its position. -/
theorem evaluate_of_not_judged (hdated : call.Dated engine)
    (h : ∀ admitted fit, ¬ engine.Judged call admitted fit) :
    ∃ evaluation, engine.evaluate call = .ok evaluation ∧ evaluation.intent = none ∧
      evaluation.openRiskAttention = call.position.isSome := by
  rw [evaluate, utc, asDatetime_eq hdated.now]
  change ∃ evaluation, (if call.mode = .live then _ else _) = _ ∧ _
  split
  · exact ⟨_, rfl, rfl, rfl⟩
  next hmode =>
  split
  · exact ⟨_, rfl, rfl, rfl⟩
  next henabled =>
  have henabled := Bool.eq_true_of_not_eq_false henabled
  rw [evaluateInputs]
  split
  · next e hadmit =>
    rw [if_pos (inputGate_raises_iff.mpr (hdated.gate hmode henabled) e hadmit)]
    exact ⟨_, rfl, rfl, rfl⟩
  · next admitted hadmit =>
    dsimp only
    split
    · exact ⟨_, rfl, rfl, rfl⟩
    · next fit hfit => exact absurd ⟨hmode, henabled, hadmit, hfit⟩ (h admitted fit)

/-- A call that returns has read its dates. -/
theorem dated_of_evaluate {evaluation : PairEvaluation F}
    (h : engine.evaluate call = .ok evaluation) : call.Dated engine := by
  obtain ⟨now, hnow, h⟩ := bind_ok h
  refine ⟨(asDatetime_ok hnow).2, fun hmode henabled => inputGate_raises_iff.mp fun e hraised => ?_⟩
  rw [if_neg hmode, if_neg (by rw [henabled]; decide), evaluateInputs] at h
  simp only [hraised] at h
  by_contra hcaught
  rw [if_neg hcaught] at h
  cases h

/-- Exactly one of three. -/
def ExactlyOne (a b c : Prop) : Prop := (a ∧ ¬ b ∧ ¬ c) ∨ (¬ a ∧ b ∧ ¬ c) ∨ (¬ a ∧ ¬ b ∧ c)

/-- The call returns an evaluation that leaves the position against its entry, flags it, or
    holds it. -/
def Attended (engine : PairsEngine F) (call : PairsCall F) (position : PairPosition F) : Prop :=
  ∃ evaluation, engine.evaluate call = .ok evaluation ∧
    ExactlyOne (Exits evaluation) (Flagged evaluation)
      (engine.Holds call position evaluation) ∧
    ∀ intent ∈ evaluation.intent, intent.action = .exit → ExitsOpposite call position intent

theorem attended_of_flagged {evaluation : PairEvaluation F}
    (h : engine.evaluate call = .ok evaluation) (hflagged : Flagged evaluation) :
    engine.Attended call position := by
  refine ⟨evaluation, h, Or.inr (Or.inl ⟨?_, hflagged, ?_⟩), ?_⟩
  · rintro ⟨⟨intent, hintent, -⟩, -⟩
    rw [hflagged.1] at hintent
    cases hintent
  · rintro ⟨-, hattention, -⟩
    rw [hflagged.2] at hattention
    cases hattention
  · intro intent hintent
    rw [hflagged.1] at hintent
    cases hintent

theorem attended_of_exits {evaluation : PairEvaluation F}
    (h : engine.evaluate call = .ok evaluation) (hexits : Exits evaluation)
    (hopposite : ∀ intent ∈ evaluation.intent, ExitsOpposite call position intent) :
    engine.Attended call position := by
  refine ⟨evaluation, h, Or.inl ⟨hexits, ?_, ?_⟩, fun intent hintent _ => hopposite intent hintent⟩
  · rintro ⟨hnone, -⟩
    obtain ⟨⟨intent, hintent, -⟩, -⟩ := hexits
    rw [hnone] at hintent
    cases hintent
  · rintro ⟨-, hattention, -⟩
    rw [hexits.2] at hattention
    cases hattention

theorem attended_of_holds {evaluation : PairEvaluation F}
    (h : engine.evaluate call = .ok evaluation) (hholds : engine.Holds call position evaluation)
    (hnone : evaluation.intent = none) : engine.Attended call position := by
  refine ⟨evaluation, h, Or.inr (Or.inr ⟨?_, ?_, hholds⟩), ?_⟩
  · rintro ⟨-, hattention⟩
    rw [hholds.2.1] at hattention
    cases hattention
  · rintro ⟨-, hattention⟩
    rw [hholds.2.1] at hattention
    cases hattention
  · intro intent hintent
    rw [hnone] at hintent
    cases hintent

/-- An attended call without attention holds its position. -/
theorem holds_of_attended {evaluation : PairEvaluation F}
    (hattended : engine.Attended call position) (h : engine.evaluate call = .ok evaluation)
    (hattention : evaluation.openRiskAttention = false) :
    engine.Holds call position evaluation := by
  obtain ⟨found, hfound, hone, -⟩ := hattended
  obtain rfl := Except.ok.inj (h.symm.trans hfound)
  rcases hone with ⟨hexits, -, -⟩ | ⟨-, hflagged, -⟩ | ⟨-, -, hholds⟩
  · exact absurd (hattention.symm.trans hexits.2) Bool.false_ne_true
  · exact absurd (hattention.symm.trans hflagged.2) Bool.false_ne_true
  · exact hholds

/-- A call that comes to a decision attends to its pair when nothing obstructs the decision. -/
theorem attended_of_judged (hnow : IsDatetime call.now) (hposition : call.position = some position)
    (hjudged : engine.Judged call admitted fit)
    (hclear : engine.Unobstructed call position admitted fit) :
    engine.Attended call position := by
  obtain ⟨empty, hempty, heq⟩ := evaluate_of_judged hnow hjudged
  have hbeta := beta_pos_of_inputGate _ _ hjudged.inputs_valid hposition
  obtain ⟨evaluation, h⟩ := (decide_isOk_iff empty hposition hbeta).mpr hclear.toReturns
  obtain ⟨score, isLiquid, hscore, hliquid, ⟨-, hexits, hopposite⟩ |
    ⟨hdue, hhold, hattention, hnone⟩⟩ := outcome_of_decide hposition hempty h
  · exact attended_of_exits (heq.trans h) hexits hopposite
  · obtain ⟨spread, zscore, rfl, hproduct⟩ := hclear.hold score isLiquid hscore hliquid hdue
    have hheld := held_of_not_exitDue hliquid hproduct hdue
    exact attended_of_holds (heq.trans h)
      ⟨hhold, hattention, admitted, fit, spread, zscore, hjudged, hscore, hheld⟩ hnone

/-- Nothing obstructs the decision of a call that attends to its pair. -/
theorem unobstructed_of_attended (hnow : IsDatetime call.now)
    (hposition : call.position = some position) (hjudged : engine.Judged call admitted fit)
    (hattended : engine.Attended call position) :
    engine.Unobstructed call position admitted fit := by
  obtain ⟨empty, hempty, heq⟩ := evaluate_of_judged hnow hjudged
  have hbeta := beta_pos_of_inputGate _ _ hjudged.inputs_valid hposition
  have hattends := hattended
  obtain ⟨evaluation, h, -⟩ := hattends
  have hdecide := heq.symm.trans h
  refine ⟨(decide_isOk_iff empty hposition hbeta).mp ⟨evaluation, hdecide⟩, ?_⟩
  intro score isLiquid hscore hliquid hdue
  obtain ⟨score', isLiquid', hscore', hliquid', hcase⟩ := outcome_of_decide hposition hempty hdecide
  obtain rfl := Except.ok.inj (hscore.symm.trans hscore')
  obtain rfl := Except.ok.inj (hliquid.symm.trans hliquid')
  obtain ⟨-, hattention, -⟩ := (hcase.resolve_left fun hexits => hdue hexits.1).2
  obtain ⟨-, -, admitted', fit', spread, zscore, hjudged', hfound, hheld⟩ :=
    holds_of_attended hattended h hattention
  obtain rfl := Except.ok.inj (hjudged.inputs_valid.symm.trans hjudged'.inputs_valid)
  exact ⟨spread, zscore, Except.ok.inj (hscore.symm.trans hfound),
    PyFloat.mul?_ne_none hheld.entry_sign⟩

/-- An open pair is attended to exactly when its call can read its dates and nothing obstructs the
    decision that it comes to, if it comes to one. -/
theorem attended_iff (engine : PairsEngine F) (call : PairsCall F) (position : PairPosition F) :
    engine.Attended (call.holding position) position ↔
      (call.holding position).Dated engine ∧
      ∀ admitted fit, engine.Judged (call.holding position) admitted fit →
        engine.Unobstructed (call.holding position) position admitted fit := by
  have hposition : (call.holding position).position = some position := rfl
  constructor
  · intro hattended
    have hattends := hattended
    obtain ⟨evaluation, h, -⟩ := hattends
    have hdated := dated_of_evaluate h
    exact ⟨hdated, fun admitted fit hjudged =>
      unobstructed_of_attended hdated.now hposition hjudged hattended⟩
  · rintro ⟨hdated, hclear⟩
    by_cases hjudged : ∃ admitted fit, engine.Judged (call.holding position) admitted fit
    · obtain ⟨admitted, fit, hjudged⟩ := hjudged
      exact attended_of_judged hdated.now hposition hjudged (hclear admitted fit hjudged)
    · have hnever : ∀ admitted fit, ¬ engine.Judged (call.holding position) admitted fit :=
        fun admitted fit h => hjudged ⟨admitted, fit, h⟩
      obtain ⟨evaluation, h, hnone, hattention⟩ := evaluate_of_not_judged hdated hnever
      exact attended_of_flagged h ⟨hnone, hattention.trans (by rw [hposition]; rfl)⟩

end PairsEngine

end Decision

end Godzilla.Alphas

namespace Godzilla.Alphas.Sample
open Features MarketData MarketState Universe Godzilla.MarketData.Sample Godzilla.Sample

/-- The double of the logarithm of two. -/
def logTwo : ℚ := 6243314768165359 / 2 ^ 53

/-- The logarithms of the prices one, two and four, and the roots of the variances of what takes
    the values zero and `logTwo`, or its double, equally often. -/
scoped instance pyMath : PyMath ℚ where
  log x := if x = 2 then logTwo else if x = 4 then 2 * logTwo else 0
  sqrt x := if x = logTwo / 2 * (logTwo / 2) then logTwo / 2
    else if x = logTwo * logTwo then logTwo else 0

/-- A five-minute bar of a leg. -/
def pairBar (token : String) (slot : Nat) (price : Nat) : WrittenBar where
  instrumentId := token
  source := "feed"
  receivedAt := afterOpen (5 * slot) + minutesOf 5
  start := afterOpen (5 * slot)
  stop := afterOpen (5 * slot) + minutesOf 5
  intervalMinutes := 5
  openPrice := price
  high := price
  low := price
  close := price
  volume := 10
  interval_supported := fiveMinutes_supported
  duration := slot_duration slot
  openWritten := wholePrice price
  highWritten := wholePrice price
  lowWritten := wholePrice price
  closeWritten := wholePrice price
  volumeWritten := wholePrice 10
  written := wholePrices_written price

/-- A row of the pair; the legs pass through four pairs of prices. -/
def pairRow (slot : Nat) : PairObservation where
  left := pairBar "INFY" slot (if slot % 4 = 0 then 1 else if slot % 4 = 3 then 4 else 2)
  right := pairBar "TCS" slot (if slot % 4 < 2 then 1 else 2)

def pairCandidate : PairCandidate where
  pairId := "INFY-TCS"
  left := ⟨"INFY", "feed"⟩
  right := ⟨"TCS", "feed"⟩
  economicTags := ["software"]
  leftSector := "IT"
  rightSector := "IT"
  rationale := "same business"
  sourceReference := "review"
  knownAt := 0
  effectiveFrom := 0
  effectiveTo := daysOf 30
  reviewedAt := 0
  corporateActionsClear := true
  adjustmentSnapshot := "none"
  distinct_legs := by decide
  window_ordered := by decide

def pairInstrument (token : String) : Instrument where
  symbol := token
  token := token
  isin := token
  exchange := "NSE"
  segment := "EQ"
  tickSize := 1 / 20
  status := .active
  foEligible := true
  sector := "IT"
  priceBand := ⟨none, none, none, by simp⟩
  effectiveFrom := 0
  effectiveTo := 30
  tickSize_pos := by decide +kernel
  dates_ordered := by decide

/-- Settings without a limit on the holding time that a calendar could bound. -/
def pairsSettings : PairsSettings ℚ where
  trainingBars := 64
  maxHoldMinutes := 10 ^ 10
  training_min := by decide
  lags_max := by decide
  significance_range := by decide +kernel
  positive := by decide +kernel
  ratio_min := by decide +kernel
  exit_nonneg := by decide +kernel
  hold_pos := by decide
  net_range := by decide +kernel
  barLag_nonneg := by decide +kernel
  metadataAge_pos := metadata_age_pos
  z_ordered := by decide +kernel
  limits_ordered := by decide +kernel

/-- The tests of a relationship that passes them. -/
def pairTests : StatisticalTests ℚ :=
  ⟨"sample", 1 / 100, 1 / 100, 1 / 2, 1 / 2, by decide +kernel⟩

def pairsEngine : PairsEngine ℚ where
  settings := pairsSettings
  diagnostics := ⟨fun _ _ _ _ => .ok pairTests⟩
  calendar := calendar
  timezone := "Asia/Kolkata"

/-- The fit that a position was entered with. -/
def entryFit : PairFit ℚ where
  beta := 1
  intercept := 0
  spreadMean := 0
  spreadStd := 1
  halfLifeBars := some 5
  splitBetaDrift := 0
  spreadStdRatio := 1
  spreadMeanShift := 0
  tests := pairTests
  trainingStart := afterOpen 0
  trainingEnd := afterOpen 100
  trainingHash := "digest"
  observations := 64
  std_pos := by decide +kernel

def pairPosition : PairPosition ℚ where
  positionId := Uuid.ofNat 1
  pairId := "INFY-TCS"
  direction := .shortSpread
  openedAt := afterOpen 320
  entryFit := entryFit
  entryZ := 2

def pairQuote (token : String) : PairLiquidity ℚ where
  quote :=
    { instrumentId := token
      source := "feed"
      receivedAt := afterOpen 325
      timestamp := afterOpen 325
      bid := 1
      ask := 1
      last := 1 }
  adv := 1000000
  dailyTurnover := 100000000
  knownAt := afterOpen 0
  snapshotId := "liquidity"
  adv_pos := by decide +kernel
  turnover_pos := by decide +kernel

/-- A call forty minutes before the close, with rows since the open. -/
def pairsCall : PairsCall ℚ where
  candidate := pairCandidate
  observations := (List.range 65).map pairRow
  liquidity := (pairQuote "INFY", pairQuote "TCS")
  universeSnapshot := ⟨Uuid.ofNat 1, 0, 0, "master", "profile", ["INFY", "TCS"], ["INFY", "TCS"], []⟩
  master := ⟨"master", "1", "NSE", 0, 0, "source", [pairInstrument "INFY", pairInstrument "TCS"]⟩
  state := Portfolio.Sample.state
  now := afterOpen 325
  mode := .paper
  position := none

/-- The end of an unbounded holding time is no date: the call raises, and nobody attends to the
    pair. -/
theorem attended_raises :
    ¬ pairsEngine.Attended (pairsCall.holding pairPosition) pairPosition := by
  have hraises : pairsEngine.evaluate (pairsCall.holding pairPosition) =
      .error (.arithmeticError "date value out of range") := by
    have hcomputed : (match pairsEngine.evaluate (pairsCall.holding pairPosition) with
        | .ok _ => none
        | .error e => some e) = some (.arithmeticError "date value out of range") := by
      decide +kernel
    split at hcomputed
    · cases hcomputed
    · next e h =>
      obtain rfl := Option.some.inj hcomputed
      exact h
  rintro ⟨evaluation, h, -⟩
  rw [hraises] at h
  cases h

end Godzilla.Alphas.Sample
