import Godzilla.Alphas.BreakoutEmission
import Godzilla.Alphas.MomentumSelection
import Godzilla.Alphas.PairsAttention
import Godzilla.Alphas.SectorRelativeValue
import Godzilla.Alphas.VwapReturns
import Godzilla.Ensemble.Resolution
import Godzilla.Portfolio.FailClosed

/-!
# Permissions through the pipeline

No component checks all that a market state permits. The engines of momentum and of breakouts
look at the sides, the normaliser at the instruments, the allocator at the families, and an
engine under a research override emits intents that the state forbids. Whatever intents the
engines return, a target that comes of them is permitted by the state, the master and the
universe that they were made with.
-/

namespace Godzilla.Alphas
open Godzilla Misc Events Features MarketData MarketState Universe

variable {F : Type} [PyFloat F] [Platform]

/-- Whether a state grants a side to the alphas that follow its direction. -/
def SideGranted (state : StateDecision F) : Side → Prop
  | .long => state.state = .trendUp ∧ .long ∈ state.directionalSides
  | .short => state.state = .trendDown ∧ .short ∈ state.directionalSides

theorem sideGranted_of_permitted {state : StateDecision F} {side : Side}
    (h : permittedSide state = some side) : SideGranted state side := by
  rw [permittedSide] at h
  split_ifs at h with hlong hshort
  · obtain rfl := Option.some.inj h
    exact hlong
  · obtain rfl := Option.some.inj h
    exact hshort

/-- An intent that passes its validators has the fields it was built from. -/
theorem fields_of_validate {fields : SignalFields F} {intent : SignalIntent F}
    (h : SignalIntent.validate fields = .ok intent) : intent.toSignalFields = fields := by
  rw [SignalIntent.validate] at h
  split at h
  · obtain rfl := Except.ok.inj h
    rfl
  · split at h <;> cases h

/-- The intent is of an alpha and on a side. -/
structure DrawnFor (alpha : String) (side : Side) (intent : SignalIntent F) : Prop where
  alphaId : intent.alphaId = alpha
  side : intent.side = side

theorem drawnFor_of_validate {fields : SignalFields F} {intent : SignalIntent F}
    (h : SignalIntent.validate fields = .ok intent) :
    DrawnFor fields.alphaId fields.side intent := by
  have hfields := fields_of_validate h
  exact ⟨congrArg SignalFields.alphaId hfields, congrArg SignalFields.side hfields⟩

section Momentum

variable {engine : CrossSectionalMomentum F} {call : MomentumCall F} {side : Side}

theorem CrossSectionalMomentum.drawn_of_intents {cards : List (MomentumScore F)}
    {intents : List (SignalIntent F)} (h : engine.intents call side cards = .ok intents) :
    ∀ intent ∈ intents, DrawnFor momentumAlphaId side intent := by
  induction cards generalizing intents with
  | nil =>
    obtain rfl := Except.ok.inj h
    exact List.forall_mem_nil _
  | cons card rest ih =>
    obtain ⟨passes, -, h⟩ := bind_ok h
    split at h
    · obtain ⟨first, hfirst, h⟩ := bind_ok h
      obtain ⟨others, hothers, h⟩ := bind_ok h
      obtain rfl := Except.ok.inj h
      obtain ⟨evidence, -, hfirst⟩ := bind_ok hfirst
      exact List.forall_mem_cons.mpr ⟨drawnFor_of_validate hfirst, ih hothers⟩
    · exact ih h

/-- The side of a momentum intent is granted by the state. -/
theorem CrossSectionalMomentum.granted_of_evaluate [PyTruncate F] {result : MomentumResult F}
    (h : engine.evaluate call = .ok result) {intent : SignalIntent F}
    (hintent : intent ∈ result.intents) :
    intent.alphaId = momentumAlphaId ∧ SideGranted call.state intent.side := by
  rw [CrossSectionalMomentum.evaluate] at h
  obtain ⟨-, h⟩ := skip_ok h (by rintro rfl; cases hintent)
  obtain ⟨-, h⟩ := skip_ok h (by rintro rfl; cases hintent)
  obtain ⟨-, h⟩ := skip_ok h (by rintro rfl; cases hintent)
  split at h
  · split at h
    · obtain rfl := Except.ok.inj h
      cases hintent
    · cases h
  obtain ⟨scores, -, h⟩ := bind_ok h
  split at h
  · obtain rfl := Except.ok.inj h
    cases hintent
  next side hside =>
  obtain ⟨-, h⟩ := skip_ok h (by rintro rfl; cases hintent)
  obtain ⟨intents, hintents, h⟩ := bind_ok h
  obtain rfl := Except.ok.inj h
  have hdrawn := drawn_of_intents hintents intent hintent
  exact ⟨hdrawn.alphaId, hdrawn.side ▸ sideGranted_of_permitted hside⟩

end Momentum

section Breakout

variable {engine : MomentumBreakout F} {call : BreakoutCall F}

/-- What is ranked is on the side that the state permits. -/
theorem MomentumBreakout.permitted_of_ranking {ranking : BreakoutRanking F}
    (h : engine.ranking call = .ok (.ok ranking)) :
    permittedSide call.state = some ranking.side := by
  rw [MomentumBreakout.ranking] at h
  split at h
  · cases Except.ok.inj h
  split at h
  · cases Except.ok.inj h
  next side hside =>
  split at h
  · cases Except.ok.inj h
  obtain ⟨found, -, h⟩ := bind_ok h
  split at h
  · cases Except.ok.inj h
  obtain ⟨_, -, h⟩ := bind_ok h
  rw [rankMembers] at h
  split at h
  · cases Except.ok.inj h
  split at h
  · split at h
    · cases Except.ok.inj h
    · cases h
  obtain ⟨strengths, -, h⟩ := bind_ok h
  obtain rfl := Except.ok.inj (Except.ok.inj h)
  exact hside

theorem MomentumBreakout.drawn_of_candidate {ranking : BreakoutRanking F}
    {item : BreakoutObservation F} {strength : F} {report : BreakoutCandidateReport F}
    {intent : SignalIntent F}
    (h : engine.candidate call ranking item strength = .ok (report, some intent)) :
    DrawnFor breakoutAlphaId ranking.side intent := by
  obtain ⟨instrument, -, h⟩ := bind_ok h
  split at h
  · cases Except.ok.inj h
  obtain ⟨⟨checks, measurement⟩, -, h⟩ := bind_ok h
  change engine.conclude call ranking.side instrument item checks measurement = _ at h
  unfold MomentumBreakout.conclude at h
  split at h
  · cases Except.ok.inj h
  split at h
  · cases h
  dsimp only at h
  split at h
  · cases Except.ok.inj h
  obtain ⟨own, hown, h⟩ := bind_ok h
  obtain ⟨-, hsame⟩ := Prod.mk.inj (Except.ok.inj h)
  obtain rfl := Option.some.inj hsame
  obtain ⟨evidence, -, hown⟩ := bind_ok hown
  exact drawnFor_of_validate hown

/-- The side of a breakout intent is granted by the state. -/
theorem MomentumBreakout.granted_of_evaluate {result : BreakoutResult F}
    (h : engine.evaluate call = .ok result) {intent : SignalIntent F}
    (hintent : intent ∈ result.intents) :
    intent.alphaId = breakoutAlphaId ∧ SideGranted call.state intent.side := by
  obtain ⟨_, -, h⟩ := bind_ok h
  obtain ⟨outcome, houtcome, h⟩ := bind_ok h
  cases outcome with
  | error reasons =>
    obtain rfl := Except.ok.inj h
    cases hintent
  | ok ranking =>
    obtain ⟨turns, hturns, h⟩ := bind_ok h
    obtain rfl := Except.ok.inj h
    obtain ⟨⟨report, drawn⟩, hturn, hsome⟩ := List.mem_filterMap.mp hintent
    obtain rfl : drawn = some intent := hsome
    obtain ⟨⟨item, strength⟩, -, hcandidate⟩ :=
      exists_left_of_related (related_of_mapM hturns) hturn
    have hdrawn := drawn_of_candidate hcandidate
    exact ⟨hdrawn.alphaId, hdrawn.side ▸ sideGranted_of_permitted (permitted_of_ranking houtcome)⟩

end Breakout

/-- The intent of a reversion is of its alpha. -/
theorem VwapMeanReversion.alphaId_of_evaluate {engine : VwapMeanReversion F} {call : VwapCall F}
    {result : VwapResult F} (h : engine.evaluate call = .ok result) {intent : SignalIntent F}
    (hintent : result.intent = some intent) : intent.alphaId = vwapAlphaId := by
  obtain ⟨features, flatten, -, h⟩ := conclude_of_intent h (hintent ▸ rfl)
  obtain ⟨-, h⟩ := skip_ok h (by rintro rfl; cases hintent)
  obtain ⟨_, -, h⟩ := bind_ok h
  split at h
  · obtain rfl := Except.ok.inj h
    cases hintent
  obtain ⟨-, h⟩ := skip_ok h (by rintro rfl; cases hintent)
  split at h
  · obtain rfl := Except.ok.inj h
    cases hintent
  obtain ⟨own, hown, h⟩ := bind_ok h
  obtain rfl := Except.ok.inj h
  obtain rfl := Option.some.inj hintent
  obtain ⟨exits, -, hown⟩ := bind_ok hown
  obtain ⟨-, hown⟩ := guard_ok hown
  obtain ⟨evidence, -, hown⟩ := bind_ok hown
  exact (drawnFor_of_validate hown).alphaId

end Godzilla.Alphas

namespace Godzilla.Ensemble
open Godzilla Misc Alphas Events Features MarketData MarketState Portfolio Universe

section Signs

/-- Whether an amount has the sign of a side. -/
def Signed (amount : ℚ) : Side → Prop
  | .long => 0 < amount
  | .short => amount < 0

theorem signed_unique {amount : ℚ} {side other : Side} (h : Signed amount side)
    (hother : Signed amount other) : side = other := by
  cases side <;> cases other <;>
    first | rfl | exact absurd h (not_lt.mpr hother.le)

theorem signed_mul_iff {amount weight : ℚ} (hpositive : 0 < amount) (side : Side) :
    Signed (amount * weight) side ↔ Signed weight side := by
  cases side with
  | long => exact mul_pos_iff_of_pos_left hpositive
  | short => exact ⟨fun h => neg_of_mul_neg_right h hpositive.le, mul_neg_of_pos_of_neg hpositive⟩

/-- A part of a gross weight that is not zero has the sign of its side. -/
theorem signed_of_part {gross total : ℚ} {side : Side} (hgross : 0 ≤ gross) (htotal : 0 ≤ total)
    (hpart : gross * sideWeight side / total ≠ 0) :
    Signed (gross * sideWeight side / total) side := by
  cases side with
  | long =>
    rw [sideWeight, mul_one] at hpart ⊢
    exact lt_of_le_of_ne (div_nonneg hgross htotal) hpart.symm
  | short =>
    rw [sideWeight, mul_neg_one, neg_div] at hpart ⊢
    exact lt_of_le_of_ne (neg_nonpos.mpr (div_nonneg hgross htotal)) hpart

end Signs

/-- The value of an alpha that is read from its text. -/
theorem value_of_ofValue {text : String} {alpha : AlphaId} (h : AlphaId.ofValue text = .ok alpha) :
    alpha.value = text := by
  rw [AlphaId.ofValue] at h
  split at h
  · next found hfound =>
    obtain rfl := Except.ok.inj h
    have hequal := List.find?_some hfound
    exact eq_of_beq hequal
  · cases h

variable {F : Type} [PyFloat F] [Platform]

/-- The instruments of an intent, each with its side. -/
def AlphaIntent.legs : AlphaIntent F → List (String × Side)
  | signal intent => [(intent.instrumentId, intent.side)]
  | pair intent => [intent.legs.1, intent.legs.2].map fun leg => (leg.instrumentId, leg.side)
  | relativeValue intent => intent.legs.map fun leg => (leg.instrumentId, leg.side)

/-- What an adapter reads of a leg. -/
structure TokenOf (leg : String × Side) (token : String × ℚ) : Prop where
  instrumentId : token.1 = leg.1
  weight : ∃ gross, 0 ≤ gross ∧ token.2 = gross * sideWeight leg.2

/-- An adapter reads every leg of its intent. -/
theorem adapt_tokens {master : InstrumentMasterSnapshot} {intent : AlphaIntent F}
    {adapted : Adapted F} (h : intent.adapt master = .ok adapted) :
    List.Forall₂ TokenOf intent.legs adapted.tokens := by
  cases intent with
  | signal intent =>
    rw [AlphaIntent.adapt, AlphaIntent.adaptSignal] at h
    split at h
    · split at h
      · cases h
      · obtain rfl := Except.ok.inj h
        exact .cons ⟨rfl, 1, zero_le_one, (one_mul _).symm⟩ .nil
    · cases h
  | pair intent =>
    rw [AlphaIntent.adapt, AlphaIntent.adaptPair] at h
    split at h
    · cases h
    · obtain rfl := Except.ok.inj h
      rw [AlphaIntent.legs, List.forall₂_map_left_iff, List.forall₂_map_right_iff,
        List.forall₂_same]
      exact fun leg _ => ⟨rfl, _, PyFloat.toDecimal_nonneg leg.gross_range.1.le, rfl⟩
  | relativeValue intent =>
    rw [AlphaIntent.adapt, AlphaIntent.adaptRelativeValue] at h
    split at h
    · cases h
    · obtain rfl := Except.ok.inj h
      rw [AlphaIntent.legs, List.forall₂_map_left_iff, List.forall₂_map_right_iff,
        List.forall₂_same]
      exact fun leg _ => ⟨rfl, _, PyFloat.toDecimal_nonneg leg.gross_range.1.le, rfl⟩

end Godzilla.Ensemble

namespace Godzilla.Ensemble
open Godzilla Misc Alphas Events Features MarketData MarketState Portfolio Universe

variable {F : Type} [PyFloat F] [Platform] {inputs : NormalizeInputs F} {now : Instant}

/-- The instrument of a leg, as the normaliser accepts it. -/
structure Accepted (inputs : NormalizeInputs F) (now : Instant) (token : String) (weight : ℚ)
    (instrument : Instrument) : Prop where
  listed : instrument ∈ inputs.master.instruments
  named : instrument.token = token
  only : ∀ other ∈ inputs.master.instruments, other.token = token → other = instrument
  eligible : instrument.Eligible (NormalizeInputs.day now)
  route : weight < 0 →
    token ∈ inputs.universeSnapshot.shortTokens ∧ instrument.foEligible = true

theorem accepted_of_eligible (havailable : ¬ inputs.metadataUnavailable now) {token : String}
    {weight : ℚ} {instrument : Instrument}
    (h : inputs.eligibleInstrument now token weight = .ok instrument) :
    Accepted inputs now token weight instrument := by
  simp only [NormalizeInputs.metadataUnavailable, not_or, not_not] at havailable
  have htokens : (inputs.master.instruments.map (·.token)).Nodup :=
    (Dict.size_index_eq_length_iff _ _).mp havailable.2.2.2.2.2.1
  rw [NormalizeInputs.eligibleInstrument] at h
  split at h
  · cases h
  next found hfound =>
  obtain ⟨hpasses, h⟩ := guard_ok h
  obtain rfl := Except.ok.inj h
  simp only [not_or, not_not, not_and, Bool.not_eq_false] at hpasses
  obtain ⟨hlisted, htoken⟩ := (Dict.get?_index_of_nodup htokens).mp hfound
  refine ⟨hlisted, htoken, fun other hother hsame => ?_, hpasses.2.1, hpasses.2.2⟩
  exact List.inj_on_of_nodup_map htokens hother hlisted (hsame.trans htoken.symm)

/-- A leg of a candidate is a leg of its intent, with the sign of its side. -/
structure LegFrom (inputs : NormalizeInputs F) (now : Instant) (intent : AlphaIntent F)
    (leg : CandidateLeg) : Prop where
  side : ∃ side, (leg.instrumentId, side) ∈ intent.legs ∧ Signed leg.signedWeight side
  instrument : ∃ instrument,
    Accepted inputs now leg.instrumentId leg.signedWeight instrument ∧
      leg.entityId = securityId instrument

theorem legFrom_of_candidate (havailable : ¬ inputs.metadataUnavailable now)
    {intent : AlphaIntent F} {c : NormalizedCandidate} (h : CandidateOf inputs now intent c)
    {leg : CandidateLeg} (hleg : leg ∈ c.legs) : LegFrom inputs now intent leg := by
  obtain ⟨adapted, hadapted, -, htotal, -, hlegs⟩ := h.adapted
  obtain ⟨token, htoken, hof⟩ := exists_left_of_related hlegs hleg
  obtain ⟨⟨instrumentId, side⟩, hread, hshape⟩ :=
    exists_left_of_related (adapt_tokens hadapted) htoken
  obtain ⟨instrument, hinstrument, hentity, -⟩ := hof.eligible
  obtain ⟨gross, hgross, hweight⟩ := hshape.weight
  have hname : leg.instrumentId = instrumentId := hof.instrumentId.trans hshape.instrumentId
  have hpositive : 0 < (adapted.tokens.map fun item => |item.2|).sum :=
    lt_of_le_of_ne (List.sum_nonneg fun x hx => by
      obtain ⟨item, -, rfl⟩ := List.mem_map.mp hx
      exact abs_nonneg _) htotal.symm
  have hpart := hof.weight
  rw [hweight] at hpart
  have haccepted := accepted_of_eligible havailable hinstrument
  refine ⟨⟨side, hname ▸ hread, ?_⟩, instrument, ?_, hentity⟩
  · rw [hpart]
    exact signed_of_part hgross hpositive.le (hpart ▸ c.indivisible_weights.nonzero leg hleg)
  · rw [hof.instrumentId]
    refine { haccepted with route := fun hnegative => haccepted.route ?_ }
    rw [hof.weight] at hnegative
    have hfrom : 0 ≤ token.2 → ¬ token.2 / _ < 0 :=
      fun hnonneg => not_lt.mpr (div_nonneg hnonneg hpositive.le)
    exact not_le.mp fun hnonneg => hfrom hnonneg hnegative

end Godzilla.Ensemble

namespace Godzilla.Portfolio
open Godzilla Misc Alphas Events Features MarketData MarketState Ensemble Universe

variable {F : Type} [PyFloat F] [PyMath F] [PyTruncate F] [Platform]

/-- Whether an engine returned the intent from a call with the state, the master, the universe and
    the time, whatever its settings and the other arguments. -/
inductive Evaluated (state : StateDecision F) (master : InstrumentMasterSnapshot)
    (universeSnapshot : UniverseSnapshot) (now : Instant) : AlphaIntent F → Prop
  | momentum (engine : CrossSectionalMomentum F) (call : MomentumCall F) {result intent}
      (returned : engine.evaluate { call with
        universeSnapshot := universeSnapshot, master := master, state := state, now := now } =
          .ok result)
      (mem : intent ∈ result.intents) : Evaluated state master universeSnapshot now (.signal intent)
  | breakout (engine : MomentumBreakout F) (call : BreakoutCall F) {result intent}
      (returned : engine.evaluate { call with
        universeSnapshot := universeSnapshot, master := master, state := state, now := now } =
          .ok result)
      (mem : intent ∈ result.intents) : Evaluated state master universeSnapshot now (.signal intent)
  | pairs (engine : PairsEngine F) (call : PairsCall F) {evaluation intent}
      (returned : engine.evaluate { call with
        universeSnapshot := universeSnapshot, master := master, state := state, now := now } =
          .ok evaluation)
      (mem : evaluation.intent = some intent) :
      Evaluated state master universeSnapshot now (.pair intent)
  | vwap (engine : VwapMeanReversion F) (call : VwapCall F) {result intent}
      (returned : engine.evaluate { call with
        universeSnapshot := universeSnapshot, master := master, state := state, now := now } =
          .ok result)
      (mem : result.intent = some intent) :
      Evaluated state master universeSnapshot now (.signal intent)
  | relativeValue (engine : SectorRelativeValue F) (call : RelativeValueCall F) {result intent}
      (returned : engine.evaluate { call with
        universeSnapshot := universeSnapshot, master := master, state := state, now := now } =
          .ok result)
      (mem : intent ∈ result.intents) :
      Evaluated state master universeSnapshot now (.relativeValue intent)

/-- What a target must show that comes of some intents. -/
structure TargetPermitted (intents : List (AlphaIntent F)) (state : StateDecision F)
    (master : InstrumentMasterSnapshot) (universeSnapshot : UniverseSnapshot) (now : Instant)
    (p : TargetPosition) : Prop where
  family : p.alphaId.family ∈ state.allowedAlphaFamilies
  directional : p.alphaId = .momentum ∨ p.alphaId = .breakout → ∀ side,
    Signed p.signedNotionalFraction side → SideGranted state side
  route : p.signedNotionalFraction < 0 → p.instrumentId ∈ universeSnapshot.shortTokens
  /-- The instrument of the master with its token. -/
  instrument : ∃ instrument ∈ master.instruments, instrument.token = p.instrumentId ∧
    (∀ other ∈ master.instruments, other.token = p.instrumentId → other = instrument) ∧
      p.entityId = securityId instrument ∧ instrument.Eligible (NormalizeInputs.day now) ∧
        (p.signedNotionalFraction < 0 → instrument.foEligible = true)
  /-- The leg of the intent that it comes of. -/
  leg : ∃ intent ∈ intents, intent.signalId = p.groupId ∧ intent.alphaId = p.alphaId.value ∧
    ∃ side, (p.instrumentId, side) ∈ intent.legs ∧ Signed p.signedNotionalFraction side

/-- An intent of momentum or of a breakout is on a side that the state grants. -/
theorem granted_of_evaluated {state : StateDecision F} {master : InstrumentMasterSnapshot}
    {universeSnapshot : UniverseSnapshot} {now : Instant} {intent : AlphaIntent F}
    (h : Evaluated state master universeSnapshot now intent)
    (halpha : intent.alphaId = momentumAlphaId ∨ intent.alphaId = breakoutAlphaId)
    {leg : String × Side} (hleg : leg ∈ intent.legs) : SideGranted state leg.2 := by
  cases h with
  | momentum engine call returned mem =>
    obtain rfl := List.mem_singleton.mp hleg
    exact (CrossSectionalMomentum.granted_of_evaluate returned mem).2
  | breakout engine call returned mem =>
    obtain rfl := List.mem_singleton.mp hleg
    exact (MomentumBreakout.granted_of_evaluate returned mem).2
  | pairs =>
    change pairsAlphaId = momentumAlphaId ∨ pairsAlphaId = breakoutAlphaId at halpha
    exact absurd halpha (by decide)
  | vwap engine call returned mem =>
    rw [AlphaIntent.alphaId, VwapMeanReversion.alphaId_of_evaluate returned mem] at halpha
    exact absurd halpha (by decide)
  | relativeValue =>
    change relativeValueAlphaId = momentumAlphaId ∨ relativeValueAlphaId = breakoutAlphaId at halpha
    exact absurd halpha (by decide)

/-- A target that `allocate` adds for intents of the engines is permitted by the state, the master
    and the universe that they were made with. -/
theorem allocate_permitted [DecidableEq (AlphaIntent F)] {intents : List (AlphaIntent F)}
    {registry : AlphaRegistry F} {master : InstrumentMasterSnapshot}
    {universeSnapshot : UniverseSnapshot} {now : Instant} {inputs : AllocationInputs F}
    {calendar : ExchangeCalendar}
    (hevaluated : ∀ intent ∈ intents,
      Evaluated inputs.state master universeSnapshot now intent)
    (hnormalized : normalizeIntents intents registry master universeSnapshot inputs.state now =
      .ok inputs.ensemble)
    {p : TargetPosition} (hp : p ∈ addedBy inputs (allocate inputs calendar)) :
    TargetPermitted intents inputs.state master universeSnapshot now p := by
  obtain ⟨pair, hpair, hmem⟩ := taken_of_added hp
  obtain ⟨hgate, hpass⟩ := passed_of_taken hpair
  obtain ⟨_, _, _, _, _, hproposal⟩ := hpass.decided pair hpair
  obtain ⟨estimate, leg, hleg, hof⟩ := leg_of_added (hpass.decided pair hpair) hmem
  have hcandidate := candidate_of_taken hpair
  obtain ⟨hnone, -⟩ | ⟨havailable, hresolved⟩ := normalizeIntents_cases hnormalized
  · rw [hnone] at hcandidate
    cases hcandidate
  obtain ⟨-, intent, hintent, hfrom⟩ := hresolved.returned pair.1 hcandidate
  have hlegFrom := legFrom_of_candidate havailable hfrom hleg
  obtain ⟨side, hread, hsigned⟩ := hlegFrom.side
  obtain ⟨instrument, haccepted, hentity⟩ := hlegFrom.instrument
  have hsign : ∀ other, Signed p.signedNotionalFraction other ↔ Signed leg.signedWeight other :=
    fun other => by rw [hof.notional]; exact signed_mul_iff hproposal.positive other
  have hvalue : pair.1.alphaId.value = intent.alphaId := value_of_ofValue hfrom.alphaId
  refine ⟨?_, ?_, ?_, ?_, ?_⟩
  · rw [hof.alpha]
    exact (hproposal.candidateReady hgate.systemReady.keys_unique).allowed
  · intro halpha other hother
    have hside := signed_unique ((hsign other).mp hother) hsigned
    rw [hof.alpha] at halpha
    have hdirected : intent.alphaId = momentumAlphaId ∨ intent.alphaId = breakoutAlphaId := by
      rw [← hvalue]
      exact halpha.imp (fun h => congrArg AlphaId.value h) (fun h => congrArg AlphaId.value h)
    subst hside
    exact granted_of_evaluated (hevaluated intent hintent) hdirected hread
  · intro hnegative
    rw [hof.instrument]
    exact (haccepted.route ((hsign .short).mp hnegative)).1
  · rw [hof.instrument]
    exact ⟨instrument, haccepted.listed, haccepted.named, haccepted.only,
      hof.entity.trans hentity, haccepted.eligible,
      fun hnegative => (haccepted.route ((hsign .short).mp hnegative)).2⟩
  · rw [hof.instrument, hof.group, hof.alpha]
    exact ⟨intent, hintent, hfrom.signalId.symm, hvalue.symm, side, hread, (hsign side).mpr hsigned⟩

end Godzilla.Portfolio

namespace Godzilla.Portfolio.Sample
open Alphas Alphas.Sample MarketData MarketState Ensemble Ensemble.Sample Universe Godzilla.Sample

/-- The fields of a state that permits momentum on the long side. -/
def trendFields : StateFields ℚ :=
  { state.toStateFields with
    state := .trendUp
    allowedAlphaFamilies := [.crossSectionalMomentum]
    directionalSides := [.long] }

theorem trend_consistent : trendFields.ConsistentPolicy :=
  ⟨by decide +kernel, by decide +kernel, le_rfl, rfl, by rintro (h | h) <;> cases h⟩

/-- An observation of a member now. -/
def trendObservation (token : String) (change : ℚ) : MomentumObservation ℚ :=
  { momentumObservation token change 1 with
    snapshot := { momentumSnapshot token change 1 with timestamp := now } }

/-- Three members with a security id each, in a trend that leads up. -/
def trendCall : MomentumCall ℚ where
  observations :=
    [ trendObservation "WIPRO" (-1 / 100), trendObservation "INFY" (1 / 100),
      trendObservation "TCS" (2 / 100) ]
  universeSnapshot :=
    ⟨Uuid.ofNat 1, 0, 0, "master", "profile", ["WIPRO", "INFY", "TCS"],
      ["WIPRO", "INFY", "TCS"], []⟩
  master := ⟨"master", "1", "NSE", 0, 0, "source",
    [momentumInstrument "WIPRO", momentumInstrument "INFY", momentumInstrument "TCS"]⟩
  state := ⟨trendFields, trend_consistent⟩
  now := now

/-- The intents that the engine returns. -/
def trendIntents : List (AlphaIntent ℚ) :=
  ((momentumEngine.evaluate trendCall).toOption.elim [] (·.intents)).map .signal

/-- What is allocated of them beside the position. -/
def trendInputs (ensemble : EnsembleDecision) : AllocationInputs ℚ :=
  { inputs with
    ensemble := ensemble
    liquidity := trendCall.master.instruments.map fun i => capacity (securityId i)
    estimates := inputs.estimates.map fun e =>
      { e with signalId := Uuid.ofNat 49 }
    correlations :=
      { inputs.correlations with
        estimates := trendCall.master.instruments.map fun i =>
          ⟨securityId i, held.entityId, 3 / 10, correlation_sample_range⟩ }
    state := trendCall.state }

/-- The long leg of the engine's intent becomes a target that the state permits. -/
theorem allocate_permitted_trend :
    ∃ ensemble, normalizeIntents trendIntents registry trendCall.master trendCall.universeSnapshot
        trendCall.state now = .ok ensemble ∧
      ∃ p ∈ addedBy (trendInputs ensemble)
          (allocate (trendInputs ensemble) Godzilla.MarketState.Sample.calendar),
        TargetPermitted trendIntents trendCall.state trendCall.master trendCall.universeSnapshot
          now p := by
  have hevaluated : ∀ intent ∈ trendIntents, Evaluated trendCall.state trendCall.master
      trendCall.universeSnapshot now intent := by
    rw [trendIntents]
    cases hrun : momentumEngine.evaluate trendCall with
    | error e => exact List.forall_mem_nil _
    | ok result =>
      intro intent hintent
      obtain ⟨own, hown, rfl⟩ := List.mem_map.mp hintent
      exact .momentum momentumEngine trendCall hrun hown
  have hadded : (normalizeIntents trendIntents registry trendCall.master
      trendCall.universeSnapshot trendCall.state now).toOption.map (fun ensemble =>
        (addedBy (trendInputs ensemble) (allocate (trendInputs ensemble)
          Godzilla.MarketState.Sample.calendar)).map (·.signedNotionalFraction)) =
            some [1 / 25] := by
    decide +kernel
  cases hnormalized : normalizeIntents trendIntents registry trendCall.master
      trendCall.universeSnapshot trendCall.state now with
  | error e =>
    rw [hnormalized] at hadded
    cases hadded
  | ok ensemble =>
    rw [hnormalized] at hadded
    have hpositions := Option.some.inj hadded
    obtain ⟨p, hp, -⟩ := List.mem_map.mp (hpositions ▸ List.mem_cons_self)
    refine ⟨ensemble, rfl, p, hp, ?_⟩
    exact @allocate_permitted ℚ _ _ _ _ _ trendIntents registry trendCall.master
      trendCall.universeSnapshot now (trendInputs ensemble) Godzilla.MarketState.Sample.calendar
      hevaluated hnormalized p hp

end Godzilla.Portfolio.Sample
