import Godzilla.Alphas.BreakoutMirror
import Godzilla.Alphas.PairsModels
import Godzilla.Alphas.VwapMeanReversion
import Godzilla.Features.ReversionMirror

/-!
# VWAP reversion up and down are mirror images

In exact arithmetic, a session whose bars are all reflected at one point is rejected for the
same reason, or gives an intent on the opposite side with its references reflected.
-/

namespace Godzilla.Features.ReversionFeatures
open Godzilla Alphas MarketState

variable {c : ℚ} {f f' : ReversionFeatures ℚ} {cfg : VwapSettings ℚ}

theorem abs_neg (x : ℚ) : PyFloat.abs (-x) = PyFloat.abs x := by
  rw [PyFloat.abs, PyFloat.abs, neg_neg, max_comm]

theorem signed_opposite (side : Side) (x : ℚ) : signed (opposite side) (-x) = signed side x := by
  cases side with
  | long => exact neg_neg x
  | short => rfl

theorem stretched_mirrored (h : MirrorsFeatures c f f') : f'.Stretched cfg ↔ f.Stretched cfg := by
  rw [Stretched, Stretched, h.stretch, abs_neg]

/-- What is stretched is stretched to one side. -/
theorem side_mirrored (h : MirrorsFeatures c f f') (hstretched : f.Stretched cfg) :
    f'.side = opposite f.side := by
  have hpos : 0 < PyFloat.abs f.stretch :=
    lt_of_lt_of_le (cfg.positive _ List.mem_cons_self) hstretched.1
  rw [side, side, h.stretch]
  rcases lt_trichotomy f.stretch 0 with hlt | heq | hgt
  · have hnot : ¬ -f.stretch < 0 := not_lt.mpr (neg_pos.mpr hlt).le
    rw [if_pos hlt, if_neg hnot]
    rfl
  · rw [heq] at hpos
    exact absurd hpos (by decide +kernel)
  · have hnot : ¬ f.stretch < 0 := not_lt.mpr hgt.le
    have hneg : -f.stretch < 0 := neg_neg_iff_pos.mpr hgt
    rw [if_neg hnot, if_pos hneg]
    rfl

section Mirrored

variable (h : MirrorsFeatures c f f') (hside : f'.side = opposite f.side)

include h hside

theorem decelerating_mirrored : f'.Decelerating cfg ↔ f.Decelerating cfg := by
  rw [Decelerating, Decelerating, impulseAgainst, impulseAgainst, slowerAgainst, slowerAgainst,
    hside, h.impulse, h.deceleratedImpulse, signed_opposite, signed_opposite]

theorem sideLocation_mirrored : f'.sideLocation = f.sideLocation := by
  rw [sideLocation, sideLocation, hside, h.closeLocation]
  cases f.side with
  | long => exact sub_sub_cancel 1 f.closeLocation
  | short => rfl

theorem unconfirmed_mirrored : f'.Unconfirmed cfg ↔ f.Unconfirmed cfg := by
  rw [Unconfirmed, Unconfirmed, sideLocation_mirrored h hside, hside, h.reversal, h.body,
    signed_opposite, signed_opposite]

/-- The adverse reference is reflected. -/
theorem adverseReference_mirrored : f'.adverseReference cfg = c - f.adverseReference cfg := by
  rw [adverseReference, adverseReference, hside, h.price, h.volatilityScale]
  cases f.side with
  | long =>
    simp only [Alphas.signed, opposite]
    ring
  | short =>
    simp only [Alphas.signed, opposite]
    ring

end Mirrored

theorem stretchScore_mirrored (h : MirrorsFeatures c f f') :
    f'.stretchScore cfg = f.stretchScore cfg := by
  rw [stretchScore, stretchScore, h.stretch, abs_neg]

/-- The convergence price is reflected. -/
theorem convergencePrice_mirrored (h : MirrorsFeatures c f f') :
    f'.convergencePrice cfg = c - f.convergencePrice cfg := by
  rw [convergencePrice, convergencePrice, h.price, h.sessionVwap]
  ring

/-- It lies between the price and the VWAP. -/
theorem convergencePrice_range (h : ReflectableFeatures c f) :
    0 < f.convergencePrice cfg ∧ f.convergencePrice cfg < c := by
  have hpos : 0 < cfg.convergenceFraction := cfg.positive _ (by simp)
  have hle : 0 ≤ 1 - cfg.convergenceFraction := sub_nonneg.mpr cfg.convergence_le
  have hmix : f.convergencePrice cfg =
      (1 - cfg.convergenceFraction) * f.price + cfg.convergenceFraction * f.sessionVwap := by
    rw [convergencePrice]
    ring
  have hlow := add_pos_of_nonneg_of_pos (mul_nonneg hle h.price.1.le)
    (mul_pos hpos h.sessionVwap.1)
  have hhigh := add_pos_of_nonneg_of_pos (mul_nonneg hle (sub_pos.mpr h.price.2).le)
    (mul_pos hpos (sub_pos.mpr h.sessionVwap.2))
  rw [hmix]
  exact ⟨hlow, by linarith⟩

end Godzilla.Features.ReversionFeatures

namespace Godzilla.Alphas
open Godzilla Misc Events Features MarketData MarketState Universe

variable [Platform] {c : ℚ} {engine : VwapMeanReversion ℚ} {call : VwapCall ℚ}

/-- The call on the reflected bars. -/
def VwapCall.reflect (c : ℚ) (call : VwapCall ℚ) : VwapCall ℚ :=
  { call with bars := call.bars.map (Bar.reflect c) }

/-- The instrument may be sold short, and every price and every adverse reference is positive
    before and after the reflection. -/
structure ReflectableCall (c : ℚ) (engine : VwapMeanReversion ℚ) (call : VwapCall ℚ) :
    Prop where
  eligible : ∀ features flatten instrument,
    engine.inputs call = .ok (.ok (features, flatten)) →
    call.master.byToken.get? features.instrumentId = some instrument →
    instrument.token ∈ call.universeSnapshot.shortTokens ∧ instrument.foEligible = true
  prices : ∀ bar ∈ call.bars, bar.Reflectable c
  adverse : ∀ features flatten, engine.inputs call = .ok (.ok (features, flatten)) →
    features.Stretched engine.settings →
    0 < features.adverseReference engine.settings ∧ features.adverseReference engine.settings < c

/-- The evidence of the mirror image. -/
structure ReflectsEvidence (c : ℚ) (e e' : VwapSignalEvidence ℚ) : Prop where
  side : e'.side = opposite e.side
  score : e'.score = e.score
  features : MirrorsFeatures c e.features e'.features
  convergencePrice : e'.exits.convergencePrice = c - e.exits.convergencePrice
  adversePrice : e'.exits.adversePrice = c - e.exits.adversePrice
  timeStop : e'.exits.timeStop = e.exits.timeStop

/-- The intent of the mirror image. -/
structure ReflectsIntent (c : ℚ) (i i' : SignalIntent ℚ) : Prop where
  side : i'.side = opposite i.side
  score : i'.score = i.score
  reasons : i'.reasons = i.reasons
  evidence : ∃ e e', i.evidence = some (.vwap e) ∧ i'.evidence = some (.vwap e') ∧
    ReflectsEvidence c e e'

/-- The result of the mirror image. -/
structure ReflectsResult (c : ℚ) (r r' : VwapResult ℚ) : Prop where
  timestamp : r'.timestamp = r.timestamp
  reasons : r'.reasons = r.reasons
  intent : Option.Rel (ReflectsIntent c) r.intent r'.intent

/-- A rejection is its own mirror image. -/
theorem reject_mirrored (reason : String) :
    ReflectsResult c (call.reject reason) ((call.reflect c).reject reason) :=
  ⟨rfl, rfl, .none⟩

/-- The same window, and the features of the reflected bars. -/
theorem inputs_mirrored (engine : VwapMeanReversion ℚ)
    (h : ∀ bar ∈ call.bars, bar.Reflectable c) :
    ResultsRelated (fun x x' => (∃ reason, x = .error reason ∧ x' = .error reason) ∨
      ∃ f f' flatten, x = .ok (f, flatten) ∧ x' = .ok (f', flatten) ∧
        ReflectableFeatures c f ∧ MirrorsFeatures c f f')
      (engine.inputs call) (engine.inputs (call.reflect c)) := by
  have hwindow : engine.entryWindow (call.reflect c) = engine.entryWindow call := rfl
  rw [VwapMeanReversion.inputs, VwapMeanReversion.inputs, hwindow]
  refine (ResultsRelated.of_eq rfl).bind ?_
  rintro window _ rfl
  cases window with
  | error reason => exact .ok (.inl ⟨reason, rfl, rfl⟩)
  | ok window =>
    refine (reversionFeatures_reflect h).bind ?_
    rintro f f' ⟨hband, hmirrors⟩
    exact .ok (.inr ⟨f, f', window.2, rfl, rfl, hband, hmirrors⟩)

/-- The same gates open. -/
theorem objection_mirrored {f f' : ReversionFeatures ℚ} {instrument : Instrument}
    (h : MirrorsFeatures c f f')
    (hshort : instrument.token ∈ call.universeSnapshot.shortTokens ∧ instrument.foEligible = true)
    (hadverse : f.Stretched engine.settings → 0 < f.adverseReference engine.settings ∧
      f.adverseReference engine.settings < c) :
    engine.objection (call.reflect c) f' instrument = engine.objection call f instrument := by
  have hilliquid : (call.reflect c).illiquid engine.settings f' ↔
      call.illiquid engine.settings f := by
    rw [VwapCall.illiquid, VwapCall.illiquid, h.instrumentId, h.source]
    rfl
  have heligible : ∀ side, ¬ call.shortIneligible side instrument := by
    rintro side ⟨-, hnot | hnot⟩
    · exact hnot hshort.1
    · rw [hshort.2] at hnot
      cases hnot
  have hreflected : ∀ side, ¬ (call.reflect c).shortIneligible side instrument := heligible
  rw [VwapMeanReversion.objection, VwapMeanReversion.objection]
  simp only [hilliquid, ReversionFeatures.stretched_mirrored h, if_neg (heligible _),
    if_neg (hreflected _)]
  by_cases hliquid : call.illiquid engine.settings f
  · rw [if_pos hliquid, if_pos hliquid]
  rw [if_neg hliquid, if_neg hliquid]
  by_cases hstretched : f.Stretched engine.settings
  · have hside := ReversionFeatures.side_mirrored h hstretched
    obtain ⟨hpos, hlt⟩ := hadverse hstretched
    have hnot : ¬ f.adverseReference engine.settings ≤ 0 := not_le.mpr hpos
    have hnot' : ¬ f'.adverseReference engine.settings ≤ 0 := by
      rw [ReversionFeatures.adverseReference_mirrored h hside, not_le]
      exact sub_pos.mpr hlt
    simp only [ReversionFeatures.decelerating_mirrored h hside,
      ReversionFeatures.unconfirmed_mirrored h hside, if_neg hnot, if_neg hnot']
  · rw [if_pos hstretched, if_pos hstretched]

/-- The exits are reflected at the same time stop. -/
theorem exits_mirrored {f f' : ReversionFeatures ℚ} {flatten : Instant}
    (h : MirrorsFeatures c f f') (hside : f'.side = opposite f.side)
    (hband : ReflectableFeatures c f)
    (hadverse : 0 < f.adverseReference engine.settings ∧
      f.adverseReference engine.settings < c) :
    ResultsRelated (fun e e' => e'.convergencePrice = c - e.convergencePrice ∧
        e'.adversePrice = c - e.adversePrice ∧ e'.timeStop = e.timeStop)
      (engine.exits call f flatten) (engine.exits (call.reflect c) f' flatten) := by
  obtain ⟨hpos, hlt⟩ : 0 < f.convergencePrice engine.settings ∧
      f.convergencePrice engine.settings < c := ReversionFeatures.convergencePrice_range hband
  rw [VwapMeanReversion.exits, VwapMeanReversion.exits]
  refine (ResultsRelated.of_eq rfl).bind ?_
  rintro held _ rfl
  simp only [ReversionFeatures.convergencePrice_mirrored h,
    ReversionFeatures.adverseReference_mirrored h hside]
  rw [if_neg (by simp), if_neg (by simp), VwapExitMetadata.validate, VwapExitMetadata.validate,
    dif_pos hpos, dif_pos hadverse.1, dif_pos (sub_pos.mpr hlt), dif_pos (sub_pos.mpr hadverse.2)]
  exact .ok ⟨rfl, rfl, rfl⟩

/-- An intent with the numbers of its evidence is consistent. -/
theorem vwapIntent_consistent (evidence : VwapSignalEvidence ℚ) (signalId : Uuid)
    (reasons : List String) :
    SignalFields.Consistent
      { signalId := signalId
        instrumentId := evidence.instrumentId
        alphaId := vwapAlphaId
        side := evidence.side
        reasons := reasons
        score := some evidence.score
        evidence := some (.vwap evidence) } := by
  refine ⟨?_, ⟨nofun, nofun⟩, ?_⟩
  · rintro _ ⟨⟩
    exact evidence.consistent.1
  · rintro _ ⟨⟩
    exact ⟨rfl, rfl, rfl, rfl⟩

theorem evidence_consistent_mirrored {f f' : ReversionFeatures ℚ} {instrument : Instrument}
    {exits exits' : VwapExitMetadata ℚ} (h : MirrorsFeatures c f f')
    (htime : exits'.timeStop = exits.timeStop) :
    (engine.evidenceFields (call.reflect c) f' instrument exits').Consistent ↔
      (engine.evidenceFields call f instrument exits).Consistent := by
  simp only [VwapEvidenceFields.Consistent, VwapMeanReversion.evidenceFields,
    ReversionFeatures.stretchScore_mirrored h, h.definition, h.instrumentId, h.source,
    h.timestamp, htime]
  rfl

theorem validate_mirrored {fields fields' : SignalFields ℚ} (h : fields.Consistent)
    (h' : fields'.Consistent) (hmirrors : ReflectsIntent c ⟨fields, h⟩ ⟨fields', h'⟩) :
    ResultsRelated (ReflectsIntent c) (SignalIntent.validate fields)
      (SignalIntent.validate fields') := by
  rw [SignalIntent.validate, SignalIntent.validate, dif_pos h, dif_pos h']
  exact .ok hmirrors

/-- The intent of the reflected bars. -/
theorem intent_mirrored {f f' : ReversionFeatures ℚ} {instrument : Instrument} {flatten : Instant}
    (h : MirrorsFeatures c f f') (hside : f'.side = opposite f.side)
    (hband : ReflectableFeatures c f)
    (hadverse : 0 < f.adverseReference engine.settings ∧
      f.adverseReference engine.settings < c) :
    ResultsRelated (ReflectsIntent c) (engine.intent call f instrument flatten)
      (engine.intent (call.reflect c) f' instrument flatten) := by
  rw [VwapMeanReversion.intent, VwapMeanReversion.intent]
  refine (exits_mirrored h hside hband hadverse).bind ?_
  rintro exits exits' ⟨hconvergence, hreference, htime⟩
  rw [if_neg (by simp), if_neg (by simp)]
  have hiff : (engine.evidenceFields (call.reflect c) f' instrument exits').Consistent ↔
      (engine.evidenceFields call f instrument exits).Consistent :=
    evidence_consistent_mirrored h htime
  rw [VwapSignalEvidence.validate, VwapSignalEvidence.validate]
  by_cases hconsistent : (engine.evidenceFields call f instrument exits).Consistent
  · rw [dif_pos hconsistent, dif_pos (hiff.mpr hconsistent)]
    have hintent := vwapIntent_consistent ⟨_, hconsistent⟩
    have hintent' := vwapIntent_consistent ⟨_, hiff.mpr hconsistent⟩
    refine validate_mirrored (hintent _ _) (hintent' _ _)
      { side := hside
        score := congrArg some (ReversionFeatures.stretchScore_mirrored h)
        reasons := rfl
        evidence := ⟨_, _, rfl, rfl, ?_⟩ }
    exact
      { side := hside
        score := ReversionFeatures.stretchScore_mirrored h
        features := h
        convergencePrice := hconvergence
        adversePrice := hreference
        timeStop := htime }
  · rw [dif_neg hconsistent, dif_neg (mt hiff.mp hconsistent)]
    exact .error _

/-- An objection that is none leaves a stretch within the limits. -/
theorem stretched_of_objection {f : ReversionFeatures ℚ} {instrument : Instrument}
    (h : engine.objection call f instrument = none) : f.Stretched engine.settings := by
  by_contra hnot
  rw [VwapMeanReversion.objection] at h
  simp only [if_pos hnot] at h
  split at h <;> cases h

/-- What follows from the features of the reflected bars. -/
theorem conclude_mirrored {f f' : ReversionFeatures ℚ} {flatten : Instant}
    (hcall : ReflectableCall c engine call)
    (hinputs : engine.inputs call = .ok (.ok (f, flatten))) (hband : ReflectableFeatures c f)
    (h : MirrorsFeatures c f f') :
    ResultsRelated (ReflectsResult c) (engine.conclude call f flatten)
      (engine.conclude (call.reflect c) f' flatten) := by
  have hstale : engine.stale (call.reflect c) f' ↔ engine.stale call f := by
    rw [VwapMeanReversion.stale, VwapMeanReversion.stale, h.timestamp]
    rfl
  have hmaster : (call.reflect c).master = call.master := rfl
  rw [VwapMeanReversion.conclude, VwapMeanReversion.conclude, hmaster, h.instrumentId]
  by_cases hold : engine.stale call f
  · rw [if_pos hold, if_pos (hstale.mpr hold)]
    exact .ok (reject_mirrored _)
  rw [if_neg hold, if_neg (mt hstale.mp hold)]
  have hgeneration : (call.reflect c).compareGeneration (engine.day (call.reflect c)) =
      call.compareGeneration (engine.day call) := rfl
  rw [hgeneration]
  refine (ResultsRelated.of_eq rfl).bind ?_
  rintro _ _ -
  cases hfound : call.master.byToken.get? f.instrumentId with
  | none => exact .ok (reject_mirrored _)
  | some instrument =>
    have hineligible : (call.reflect c).ineligible (engine.day (call.reflect c)) instrument ↔
        call.ineligible (engine.day call) instrument := Iff.rfl
    simp only [hineligible]
    by_cases hclosed : call.ineligible (engine.day call) instrument
    · rw [if_pos hclosed, if_pos hclosed]
      exact .ok (reject_mirrored _)
    rw [if_neg hclosed, if_neg hclosed, objection_mirrored h
      (hcall.eligible f flatten instrument hinputs hfound) (hcall.adverse f flatten hinputs)]
    cases hobjection : engine.objection call f instrument with
    | some reason => exact .ok (reject_mirrored _)
    | none =>
      have hstretched := stretched_of_objection hobjection
      refine (intent_mirrored h (ReversionFeatures.side_mirrored h hstretched) hband
        (hcall.adverse f flatten hinputs hstretched)).bind ?_
      intro i i' hintent
      exact .ok ⟨rfl, rfl, .some hintent⟩

/-- VWAP reversion is side-symmetric: the reflected bars are rejected for the same reason, or
    give the mirror image of the intent, or both calls raise the same. -/
theorem evaluate_reflected (h : ReflectableCall c engine call) :
    ResultsRelated (ReflectsResult c) (engine.evaluate call)
      (engine.evaluate (call.reflect c)) := by
  have hhealth : (call.reflect c).healthVeto ↔ call.healthVeto := Iff.rfl
  have hregime : (call.reflect c).regimeDenied engine.settings ↔
      call.regimeDenied engine.settings := Iff.rfl
  have hmode : (call.reflect c).mode = call.mode := rfl
  have hnow : (call.reflect c).now = call.now := rfl
  rw [VwapMeanReversion.evaluate, VwapMeanReversion.evaluate, hmode, hnow]
  simp only [hhealth, hregime]
  refine (ResultsRelated.of_eq rfl).bind ?_
  rintro _ _ -
  by_cases hlive : call.mode = .live
  · rw [if_pos hlive, if_pos hlive]
    exact .ok (reject_mirrored _)
  rw [if_neg hlive, if_neg hlive]
  by_cases hdisabled : engine.settings.enabled = false
  · rw [if_pos hdisabled, if_pos hdisabled]
    exact .ok (reject_mirrored _)
  rw [if_neg hdisabled, if_neg hdisabled]
  by_cases hveto : call.healthVeto
  · rw [if_pos hveto, if_pos hveto]
    exact .ok (reject_mirrored _)
  rw [if_neg hveto, if_neg hveto]
  by_cases hdenied : call.regimeDenied engine.settings
  · rw [if_pos hdenied, if_pos hdenied]
    exact .ok (reject_mirrored _)
  rw [if_neg hdenied, if_neg hdenied]
  have hinputs := inputs_mirrored engine h.prices
  rw [VwapMeanReversion.caughtInputs, VwapMeanReversion.caughtInputs]
  generalize houtcome : engine.inputs (call.reflect c) = outcome' at hinputs ⊢
  cases hcase : engine.inputs call with
  | error e =>
    rw [hcase] at hinputs
    cases hinputs
    by_cases hblocks : blocksSession e
    · simp only [if_pos hblocks]
      exact .ok (reject_mirrored _)
    · simp only [if_neg hblocks]
      exact .error e
  | ok outcome =>
    rw [hcase] at hinputs
    cases hinputs with
    | ok hrelated =>
      rcases hrelated with ⟨reason, rfl, rfl⟩ | ⟨f, f', flatten, rfl, rfl, hband, hmirrors⟩
      · exact .ok (reject_mirrored _)
      · exact conclude_mirrored h hcase hband hmirrors

end Godzilla.Alphas
