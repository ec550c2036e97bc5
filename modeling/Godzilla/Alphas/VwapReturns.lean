import Godzilla.Alphas.VwapMirror
import Godzilla.Features.ReversionRaises

/-!
# When an evaluation of the VWAP alpha returns

In exact arithmetic `VwapMeanReversion.evaluate` raises for its dates alone: what it adds up
or converts outside the years one to 9999, zones that are not known, and generation times that
cannot be compared. A call that reads none of these returns, and so does its mirror image.
-/

namespace Godzilla.Alphas
open Godzilla Misc Events Features MarketData MarketState Universe

variable [Platform]

/-- The gates before the session are open. -/
structure VwapCall.Admitted {F : Type} [PyFloat F] (engine : VwapMeanReversion F)
    (call : VwapCall F) : Prop where
  not_live : call.mode ≠ .live
  enabled : engine.settings.enabled = true
  healthy : ¬ call.healthVeto
  regime : ¬ call.regimeDenied engine.settings

/-- The limits of the entry window of a session are dates; the last one is read only from the
    start of the window on. -/
structure VwapCall.WindowDated {F : Type} [PyFloat F] (engine : VwapMeanReversion F)
    (call : VwapCall F) (opening : Instant) (session : Session) : Prop where
  finalEntry : IsDatetime ((Platform.zoneInfo session.timezone).combine (engine.day call)
    session.times.finalEntryTime)
  flatten : IsDatetime ((Platform.zoneInfo session.timezone).combine (engine.day call)
    session.times.flattenStartTime)
  start : opening + minutesOf engine.settings.startMinutes ≤ maxInstant
  stop : opening + minutesOf engine.settings.startMinutes ≤ call.now →
    opening + minutesOf engine.settings.endMinutes ≤ maxInstant

/-- The features of a call whose last bar is fresh, and the time to flatten. -/
def VwapCall.Fresh {F : Type} [PyFloat F] (engine : VwapMeanReversion F) (call : VwapCall F)
    (features : ReversionFeatures F) (flatten : Instant) : Prop :=
  engine.inputs call = .ok (.ok (features, flatten)) ∧ ¬ engine.stale call features

/-- The instrument of the features is tradable, and no gate objects to an entry. -/
structure VwapCall.Enters {F : Type} [PyFloat F] (engine : VwapMeanReversion F)
    (call : VwapCall F) (features : ReversionFeatures F) : Prop where
  entry : ∃ instrument, call.master.byToken.get? features.instrumentId = some instrument ∧
    ¬ call.ineligible (engine.day call) instrument ∧
    engine.objection call features instrument = none

/-- The dates that a call comes to read are dates: now in UTC; behind the first gates the bounds of
    the session and the limits of its entry window; with fresh features the generation times of
    snapshots of the day, which carry a zone; and for an entry the end of its holding time. -/
structure VwapCall.Dated {F : Type} [PyFloat F] (engine : VwapMeanReversion F)
    (call : VwapCall F) : Prop where
  now : IsDatetime call.now
  bounds : call.Admitted engine →
    BoundsDated True engine.calendar call.now engine.timezone
  window : call.Admitted engine → ∀ opening closing session,
    readBounds engine.calendar call.now engine.timezone = .ok (some (opening, closing)) →
    engine.calendar.sessionOn (engine.day call) = .ok (some session) →
      call.WindowDated engine opening session
  aware : call.Admitted engine → ∀ features flatten, call.Fresh engine features flatten →
    call.universeSnapshot.asOf = engine.day call → call.master.asOf = engine.day call →
      call.generatedAware.universeSnapshot = true ∧
        (call.universeSnapshot.generatedAt ≤ call.now → call.generatedAware.master = true)
  hold : call.Admitted engine → ∀ features flatten, call.Fresh engine features flatten →
    call.Enters engine features →
      call.now + minutesOf engine.settings.maxHoldMinutes ≤ maxInstant

section Window

variable {F : Type} [PyFloat F] {engine : VwapMeanReversion F} {call : VwapCall F}

theorem openWindow_raises_iff {opening closing finalEntry flatten : Instant} :
    OnlyRaises (blocksSession ·) (engine.openWindow call opening closing finalEntry flatten) ↔
      opening + minutesOf engine.settings.startMinutes ≤ maxInstant ∧
        (opening + minutesOf engine.settings.startMinutes ≤ call.now →
          opening + minutesOf engine.settings.endMinutes ≤ maxInstant) := by
  rw [VwapMeanReversion.openWindow, addDuration_bind_raises_iff blocksSession_handler.toDateHandler]
  refine and_congr_right fun _ => ?_
  by_cases hearly : call.now < opening + minutesOf engine.settings.startMinutes
  · rw [if_pos hearly]
    exact iff_of_true (onlyRaises_ok _) fun hstarted => absurd hearly (not_lt.mpr hstarted)
  · rw [if_neg hearly, addDuration_bind_raises_iff blocksSession_handler.toDateHandler,
      and_iff_left ((onlyRaises_ok _).ite (onlyRaises_ok _))]
    exact ⟨fun h _ => h, fun h => h (not_lt.mp hearly)⟩

/-- An entry window that is found ends before the time to flatten. -/
theorem openWindow_ok {opening closing finalEntry flatten : Instant} {window : Instant × Instant}
    (h : engine.openWindow call opening closing finalEntry flatten = .ok (.ok window)) :
    call.now < window.2 := by
  obtain ⟨start, -, h⟩ := bind_ok h
  split at h
  · cases h
  obtain ⟨stop, -, h⟩ := bind_ok h
  split at h
  · next hbefore =>
    obtain rfl := Except.ok.inj (Except.ok.inj h)
    exact hbefore.trans_le ((min_le_left _ _).trans (min_le_right _ _))
  · cases h

theorem entryWindow_ok {window : Instant × Instant}
    (h : engine.entryWindow call = .ok (.ok window)) : call.now < window.2 := by
  obtain ⟨bounds, -, h⟩ := bind_ok h
  cases bounds with
  | none => cases h
  | some bounds =>
    obtain ⟨day, -, h⟩ := bind_ok h
    obtain ⟨session, -, h⟩ := bind_ok h
    cases session with
    | none => cases h
    | some session =>
      obtain ⟨finalEntry, -, h⟩ := bind_ok h
      obtain ⟨flatten, -, h⟩ := bind_ok h
      exact openWindow_ok h

/-- The window of a session whose zone opens raises no more than what is caught when its limits
    are dates. -/
theorem sessionWindow_raises_iff {opening closing : Instant} {session : Session}
    (hday : localDateIn engine.timezone call.now = .ok (engine.day call))
    (hsession : engine.calendar.sessionOn (engine.day call) = .ok (some session))
    (hzone : openZone session.timezone = .ok (Platform.zoneInfo session.timezone)) :
    OnlyRaises (blocksSession ·) (engine.sessionWindow call opening closing) ↔
      call.WindowDated engine opening session := by
  have hcombine : ∀ time, combineIn session.timezone (engine.day call) time =
      asDatetime ((Platform.zoneInfo session.timezone).combine (engine.day call) time) := by
    intro time
    rw [combineIn, hzone]
    rfl
  have hread : engine.sessionWindow call opening closing = (do
      let finalEntry ← combineIn session.timezone (engine.day call) session.times.finalEntryTime
      let flatten ← combineIn session.timezone (engine.day call) session.times.flattenStartTime
      engine.openWindow call opening closing finalEntry flatten) := by
    rw [VwapMeanReversion.sessionWindow, hday]
    change (ofCalendar (engine.calendar.sessionOn (engine.day call)) >>= _) = _
    rw [hsession]
    rfl
  rw [hread, hcombine, asDatetime_bind_raises_iff blocksSession_handler.toDateHandler, hcombine,
    asDatetime_bind_raises_iff blocksSession_handler.toDateHandler, openWindow_raises_iff]
  exact ⟨fun h => ⟨h.1, h.2.1, h.2.2.1, h.2.2.2⟩, fun h => ⟨h.1, h.2, h.3, h.4⟩⟩

/-- The entry window raises no more than what is caught when its dates are dates. -/
theorem entryWindow_raises_iff :
    OnlyRaises (blocksSession ·) (engine.entryWindow call) ↔
      BoundsDated True engine.calendar call.now engine.timezone ∧
        ∀ opening closing session,
          readBounds engine.calendar call.now engine.timezone = .ok (some (opening, closing)) →
          engine.calendar.sessionOn (engine.day call) = .ok (some session) →
            call.WindowDated engine opening session := by
  rw [VwapMeanReversion.entryWindow, onlyRaises_bind_iff,
    readBounds_raises_iff blocksSession_handler]
  refine and_congr_right fun _ => ?_
  constructor
  · intro h opening closing session hread hsession
    obtain ⟨hday, other, hother, hzone⟩ := readBounds_some hread
    obtain rfl := Option.some.inj (Except.ok.inj (hother.symm.trans hsession))
    exact (sessionWindow_raises_iff hday hsession hzone).mp (h _ hread)
  · rintro h (_ | ⟨opening, closing⟩) hread
    · exact onlyRaises_ok _
    · obtain ⟨hday, session, hsession, hzone⟩ := readBounds_some hread
      exact (sessionWindow_raises_iff hday hsession hzone).mpr
        (h opening closing session hread hsession)

theorem caughtInputs_isOk_iff : (∃ outcome, engine.caughtInputs call = .ok outcome) ↔
    OnlyRaises (blocksSession ·) (engine.inputs call) := by
  rw [VwapMeanReversion.caughtInputs]
  cases engine.inputs call with
  | ok outcome => exact iff_of_true ⟨outcome, rfl⟩ (onlyRaises_ok outcome)
  | error e =>
    by_cases hcaught : blocksSession e = true
    · exact iff_of_true ⟨.error e.text, if_pos hcaught⟩ (onlyRaises_error hcaught)
    · refine iff_of_false ?_ fun h => hcaught (h e rfl)
      rintro ⟨outcome, h⟩
      simp only [if_neg hcaught] at h
      cases h

/-- Features that are found are those of the inputs. -/
theorem caughtInputs_ok {found : ReversionFeatures F × Instant}
    (h : engine.caughtInputs call = .ok (.ok found)) : engine.inputs call = .ok (.ok found) := by
  rw [VwapMeanReversion.caughtInputs] at h
  cases hinputs : engine.inputs call with
  | ok outcome =>
    rw [hinputs] at h
    exact h
  | error e =>
    rw [hinputs] at h
    by_cases hcaught : blocksSession e = true
    · simp only [if_pos hcaught] at h
      cases h
    · simp only [if_neg hcaught] at h
      cases h

/-- A result with an intent comes of features of the session. -/
theorem conclude_of_intent {result : VwapResult F} (h : engine.evaluate call = .ok result)
    (hintent : result.intent.isSome) : ∃ features flatten,
      engine.inputs call = .ok (.ok (features, flatten)) ∧
        engine.conclude call features flatten = .ok result := by
  obtain ⟨_, -, h⟩ := bind_ok h
  obtain ⟨-, h⟩ := skip_ok h (by rintro rfl; cases hintent)
  obtain ⟨-, h⟩ := skip_ok h (by rintro rfl; cases hintent)
  obtain ⟨-, h⟩ := skip_ok h (by rintro rfl; cases hintent)
  obtain ⟨-, h⟩ := skip_ok h (by rintro rfl; cases hintent)
  obtain ⟨outcome, houtcome, h⟩ := bind_ok h
  cases outcome with
  | error reason =>
    obtain rfl := Except.ok.inj h
    cases hintent
  | ok found => exact ⟨found.1, found.2, caughtInputs_ok houtcome, h⟩

/-- Generation times are compared when both are of today and carry a zone. -/
theorem compareGeneration_isOk_iff {day : Date} :
    (∃ u, call.compareGeneration day = .ok u) ↔
      (call.universeSnapshot.asOf = day → call.master.asOf = day →
        call.generatedAware.universeSnapshot = true ∧
          (call.universeSnapshot.generatedAt ≤ call.now → call.generatedAware.master = true)) := by
  rw [VwapCall.compareGeneration]
  by_cases hday : call.universeSnapshot.asOf ≠ day ∨ call.master.asOf ≠ day
  · rw [if_pos hday]
    refine iff_of_true ⟨(), rfl⟩ fun huniverse hmaster => ?_
    exact absurd hday (not_or.mpr ⟨not_not.mpr huniverse, not_not.mpr hmaster⟩)
  rw [if_neg hday]
  rw [not_or, not_not, not_not] at hday
  rw [forall_prop_of_true hday.1, forall_prop_of_true hday.2]
  cases call.generatedAware.universeSnapshot with
  | false => exact iff_of_false (fun ⟨_, h⟩ => nomatch h) fun h => nomatch h.1
  | true =>
    rw [if_neg Bool.true_eq_false.mp]
    by_cases hlater : call.now < call.universeSnapshot.generatedAt
    · rw [if_pos hlater]
      exact iff_of_true ⟨(), rfl⟩ ⟨rfl, fun hle => absurd hlater (not_lt.mpr hle)⟩
    rw [if_neg hlater]
    cases call.generatedAware.master with
    | false =>
      exact iff_of_false (fun ⟨_, h⟩ => nomatch h) fun h => nomatch h.2 (not_lt.mp hlater)
    | true => exact iff_of_true ⟨(), rfl⟩ ⟨rfl, fun _ => rfl⟩

end Window

section Exact

variable {c : ℚ} {engine : VwapMeanReversion ℚ} {call : VwapCall ℚ} {f : ReversionFeatures ℚ}
  {flatten : Instant} {instrument : Instrument}

theorem inputs_raises_iff (hnow : call.now ≤ maxInstant) :
    OnlyRaises (blocksSession ·) (engine.inputs call) ↔
      OnlyRaises (blocksSession ·) (engine.entryWindow call) := by
  rw [VwapMeanReversion.inputs, onlyRaises_bind_iff]
  refine and_iff_left fun window _ => ?_
  cases window with
  | error reason => exact onlyRaises_ok _
  | ok window =>
    refine OnlyRaises.bind (fun e he => ?_) fun _ _ => onlyRaises_ok _
    have hvalue : e.isValueError = true := reversionFeatures_raises hnow e he
    change (e.isValueError || _) = true
    rw [hvalue, Bool.true_or]

/-- Features that are found are of the definition of the settings, before the time to flatten. -/
theorem of_inputs (h : engine.inputs call = .ok (.ok (f, flatten))) :
    f.definition = engine.settings.features ∧ call.now < flatten := by
  obtain ⟨window, hwindow, h⟩ := bind_ok h
  cases window with
  | error reason => cases h
  | ok window =>
    obtain ⟨features, hfeatures, h⟩ := bind_ok h
    obtain ⟨rfl, rfl⟩ := Prod.mk.inj (Except.ok.inj (Except.ok.inj h))
    exact ⟨definition_of_reversionFeatures hfeatures, entryWindow_ok hwindow⟩

omit [Platform] in
theorem stretchScore_range (f : ReversionFeatures ℚ) (cfg : VwapSettings ℚ) :
    0 ≤ f.stretchScore cfg ∧ f.stretchScore cfg ≤ 1 := by
  have hmax : 0 < cfg.maxStretch := cfg.positive _ (by simp)
  have habs : (0 : ℚ) ≤ PyFloat.abs f.stretch := abs_nonneg f.stretch
  exact ⟨le_min zero_le_one (div_nonneg habs hmax.le), min_le_left _ _⟩

/-- The evidence of an entry is consistent. -/
theorem vwapEvidence_consistent (hfresh : call.Fresh engine f flatten)
    (hinstrument : instrument.token = f.instrumentId) {exits : VwapExitMetadata ℚ}
    (htime : exits.timeStop = min (call.now + minutesOf engine.settings.maxHoldMinutes) flatten) :
    (engine.evidenceFields call f instrument exits).Consistent := by
  obtain ⟨hdefinition, hflatten⟩ := of_inputs hfresh.1
  have hpast : f.timestamp ≤ call.now := by
    have hlag := PyFloat.zero_le_seconds.mp (not_not.mp hfresh.2).1
    lia
  have hheld : call.now < call.now + minutesOf engine.settings.maxHoldMinutes := by
    have hmin := engine.settings.hold_pos
    simp only [minutesOf]
    lia
  refine ⟨stretchScore_range f engine.settings, rfl, ?_, hdefinition, hinstrument, rfl, hpast, ?_⟩
  · change engine.settings.features.versionHash = f.definition.versionHash
    rw [hdefinition]
  · change call.now < exits.timeStop
    rw [htime]
    exact lt_min hheld hflatten

/-- The intent of an entry is built when its holding time ends on a date. -/
theorem intent_isOk_iff (hfresh : call.Fresh engine f flatten) (hband : ReflectableFeatures c f)
    (hadverse : 0 < f.adverseReference engine.settings)
    (hinstrument : instrument.token = f.instrumentId) :
    (∃ intent, engine.intent call f instrument flatten = .ok intent) ↔
      call.now + minutesOf engine.settings.maxHoldMinutes ≤ maxInstant := by
  constructor
  · rintro ⟨intent, h⟩
    obtain ⟨exits, hexits, -⟩ := bind_ok h
    obtain ⟨held, hheld, -⟩ := bind_ok hexits
    exact (addDuration_ok hheld).2
  · intro hfits
    have hconvergence : 0 < f.convergencePrice engine.settings :=
      (ReversionFeatures.convergencePrice_range hband).1
    have hadd : addDuration call.now (minutesOf engine.settings.maxHoldMinutes) =
        .ok (call.now + minutesOf engine.settings.maxHoldMinutes) := if_pos hfits
    obtain ⟨exits, hexits, htime⟩ : ∃ exits, engine.exits call f flatten = .ok exits ∧
        exits.timeStop =
          min (call.now + minutesOf engine.settings.maxHoldMinutes) flatten := by
      rw [VwapMeanReversion.exits, hadd]
      simp only [bind, Except.bind]
      rw [if_neg (by simp), VwapExitMetadata.validate, dif_pos hconvergence, dif_pos hadverse]
      exact ⟨_, rfl, rfl⟩
    have hconsistent := vwapEvidence_consistent hfresh hinstrument htime
    rw [VwapMeanReversion.intent, hexits]
    simp only [bind, Except.bind]
    rw [if_neg (by simp), VwapSignalEvidence.validate, dif_pos hconsistent]
    have hintent := vwapIntent_consistent ⟨_, hconsistent⟩
    refine ⟨_, dif_pos (hintent _ _)⟩

/-- What follows from fresh features returns when the generation times can be compared, and for
    an entry when the holding time ends on a date. -/
theorem conclude_isOk_iff (h : ReflectableCall c engine call)
    (hinputs : engine.inputs call = .ok (.ok (f, flatten))) (hband : ReflectableFeatures c f) :
    (∃ result, engine.conclude call f flatten = .ok result) ↔
      (¬ engine.stale call f → call.universeSnapshot.asOf = engine.day call →
        call.master.asOf = engine.day call → call.generatedAware.universeSnapshot = true ∧
          (call.universeSnapshot.generatedAt ≤ call.now → call.generatedAware.master = true)) ∧
      (¬ engine.stale call f → call.Enters engine f →
        call.now + minutesOf engine.settings.maxHoldMinutes ≤ maxInstant) := by
  rw [VwapMeanReversion.conclude]
  by_cases hstale : engine.stale call f
  · rw [if_pos hstale]
    exact iff_of_true ⟨_, rfl⟩ ⟨fun hfresh => absurd hstale hfresh,
      fun hfresh => absurd hstale hfresh⟩
  rw [if_neg hstale, forall_prop_of_true hstale, forall_prop_of_true hstale,
    ← compareGeneration_isOk_iff]
  cases hcompare : call.compareGeneration (engine.day call) with
  | error e => exact iff_of_false (not_exists_ok e) fun h => not_exists_ok e h.1
  | ok _ =>
    rw [and_iff_right ⟨_, rfl⟩]
    cases hfound : call.master.byToken.get? f.instrumentId with
    | none =>
      simp only [bind, Except.bind]
      refine iff_of_true ⟨_, rfl⟩ ?_
      rintro ⟨instrument, hget, -⟩
      cases hfound.symm.trans hget
    | some instrument =>
      have henters : call.Enters engine f ↔
          ¬ call.ineligible (engine.day call) instrument ∧
            engine.objection call f instrument = none := by
        refine ⟨?_, fun hentry => ⟨instrument, hfound, hentry⟩⟩
        rintro ⟨other, hget, hentry⟩
        obtain rfl := Option.some.inj (hfound.symm.trans hget)
        exact hentry
      rw [henters]
      simp only [bind, Except.bind]
      by_cases hclosed : call.ineligible (engine.day call) instrument
      · simp only [if_pos hclosed]
        exact iff_of_true ⟨_, rfl⟩ fun hentry => absurd hclosed hentry.1
      simp only [if_neg hclosed]
      cases hobjection : engine.objection call f instrument with
      | some reason =>
        exact iff_of_true ⟨_, rfl⟩ fun hentry => absurd hentry.2 (Option.some_ne_none reason)
      | none =>
        have hadverse := (h.adverse f flatten hinputs (stretched_of_objection hobjection)).1
        rw [forall_prop_of_true ⟨hclosed, rfl⟩,
          ← intent_isOk_iff ⟨hinputs, hstale⟩ hband hadverse (Dict.mem_of_get?_index hfound).2]
        cases engine.intent call f instrument flatten with
        | error e => exact iff_of_false (not_exists_ok e) (not_exists_ok e)
        | ok intent => exact iff_of_true ⟨_, rfl⟩ ⟨intent, rfl⟩

/-- The prices among the features of reflectable bars can be reflected. -/
theorem reflectable_of_inputs (h : ∀ bar ∈ call.bars, bar.Reflectable c)
    (hinputs : engine.inputs call = .ok (.ok (f, flatten))) : ReflectableFeatures c f := by
  have hmirrored := inputs_mirrored engine h
  rw [hinputs] at hmirrored
  generalize engine.inputs (call.reflect c) = reflected at hmirrored
  cases hmirrored with
  | ok hrelated =>
    rcases hrelated with ⟨reason, hreason, -⟩ | ⟨found, _, _, hfound, -, hband, -⟩
    · cases hreason
    · obtain ⟨rfl, -⟩ := Prod.mk.inj (Except.ok.inj hfound)
      exact hband

/-- A call that the first gates do not admit is rejected. -/
theorem evaluate_of_not_admitted (hnow : IsDatetime call.now) (h : ¬ call.Admitted engine) :
    ∃ r, engine.evaluate call = .ok r := by
  have hutc : utc call.now = .ok call.now := asDatetime_eq hnow
  rw [VwapMeanReversion.evaluate, hutc]
  simp only [bind, Except.bind]
  by_cases hlive : call.mode = .live
  · exact ⟨_, if_pos hlive⟩
  rw [if_neg hlive]
  by_cases hdisabled : engine.settings.enabled = false
  · exact ⟨_, if_pos hdisabled⟩
  rw [if_neg hdisabled]
  by_cases hveto : call.healthVeto
  · exact ⟨_, if_pos hveto⟩
  rw [if_neg hveto]
  by_cases hdenied : call.regimeDenied engine.settings
  · exact ⟨_, if_pos hdenied⟩
  · exact absurd ⟨hlive, Bool.eq_true_of_not_eq_false hdisabled, hveto, hdenied⟩ h

theorem evaluate_of_admitted (hnow : IsDatetime call.now) (h : call.Admitted engine) :
    engine.evaluate call = engine.caughtInputs call >>= engine.respond call := by
  have hutc : utc call.now = .ok call.now := asDatetime_eq hnow
  have henabled : ¬ engine.settings.enabled = false := by
    rw [h.enabled]
    exact Bool.true_eq_false.mp
  rw [VwapMeanReversion.evaluate, hutc, if_neg h.not_live, if_neg henabled, if_neg h.healthy,
    if_neg h.regime]
  rfl

/-- An evaluation returns when its dates are dates. -/
theorem evaluate_isOk_iff (h : ReflectableCall c engine call) :
    (∃ r, engine.evaluate call = .ok r) ↔ call.Dated engine := by
  by_cases hnow : IsDatetime call.now
  swap
  · refine iff_of_false ?_ fun hdated => hnow hdated.now
    rintro ⟨r, hreturns⟩
    obtain ⟨now, hutc, -⟩ := bind_ok hreturns
    exact hnow (asDatetime_ok hutc).2
  by_cases hadmitted : call.Admitted engine
  swap
  · exact iff_of_true (evaluate_of_not_admitted hnow hadmitted)
      ⟨hnow, fun hopen => absurd hopen hadmitted, fun hopen => absurd hopen hadmitted,
        fun hopen => absurd hopen hadmitted, fun hopen => absurd hopen hadmitted⟩
  rw [evaluate_of_admitted hnow hadmitted]
  have hraises : OnlyRaises (blocksSession ·) (engine.inputs call) ↔ _ :=
    (inputs_raises_iff hnow.2).trans entryWindow_raises_iff
  cases houtcome : engine.caughtInputs call with
  | error e =>
    refine iff_of_false (fun ⟨_, hreturns⟩ => nomatch hreturns) fun hdated => ?_
    obtain ⟨outcome, hfound⟩ := caughtInputs_isOk_iff.mpr
      (hraises.mpr ⟨hdated.bounds hadmitted, hdated.window hadmitted⟩)
    cases houtcome.symm.trans hfound
  | ok outcome =>
    obtain ⟨hbounds, hwindow⟩ := hraises.mp (caughtInputs_isOk_iff.mp ⟨outcome, houtcome⟩)
    cases outcome with
    | error reason =>
      have hnone : ∀ features flatten, ¬ call.Fresh engine features flatten := by
        rintro features flatten ⟨hinputs, -⟩
        rw [VwapMeanReversion.caughtInputs, hinputs] at houtcome
        cases houtcome
      exact iff_of_true ⟨_, rfl⟩ ⟨hnow, fun _ => hbounds, fun _ => hwindow,
        fun _ f flatten hfresh => absurd hfresh (hnone f flatten),
        fun _ f flatten hfresh => absurd hfresh (hnone f flatten)⟩
    | ok found =>
      obtain ⟨f, flatten⟩ := found
      have hinputs := caughtInputs_ok houtcome
      have honly : ∀ f' flatten', call.Fresh engine f' flatten' →
          f' = f ∧ ¬ engine.stale call f := by
        rintro f' flatten' ⟨hinputs', hfresh⟩
        obtain ⟨rfl, -⟩ := Prod.mk.inj
          (Except.ok.inj (Except.ok.inj (hinputs.symm.trans hinputs')))
        exact ⟨rfl, hfresh⟩
      refine (conclude_isOk_iff h hinputs (reflectable_of_inputs h.prices hinputs)).trans ?_
      constructor
      · rintro ⟨haware, hhold⟩
        refine ⟨hnow, fun _ => hbounds, fun _ => hwindow, fun _ f' flatten' hfresh => ?_,
          fun _ f' flatten' hfresh => ?_⟩
        · exact haware (honly f' flatten' hfresh).2
        · obtain ⟨rfl, hfresh⟩ := honly f' flatten' hfresh
          exact hhold hfresh
      · intro hdated
        exact ⟨fun hfresh => hdated.aware hadmitted f flatten ⟨hinputs, hfresh⟩,
          fun hfresh => hdated.hold hadmitted f flatten ⟨hinputs, hfresh⟩⟩

/-- VWAP reversion is side-symmetric exactly where its dates are dates: then both calls return,
    the same rejection or intents that are mirror images. -/
theorem evaluate_reflected_iff (h : ReflectableCall c engine call) :
    (∃ r r', engine.evaluate call = .ok r ∧ engine.evaluate (call.reflect c) = .ok r' ∧
        ReflectsResult c r r') ↔ call.Dated engine := by
  rw [← evaluate_isOk_iff h]
  refine ⟨fun ⟨r, _, hreturns, _⟩ => ⟨r, hreturns⟩, fun ⟨r, hreturns⟩ => ?_⟩
  have hmirrored := evaluate_reflected h
  rw [hreturns] at hmirrored
  generalize engine.evaluate (call.reflect c) = reflected at hmirrored ⊢
  cases hmirrored with
  | ok hresult => exact ⟨r, _, hreturns, rfl, hresult⟩

end Exact

end Godzilla.Alphas

namespace Godzilla.Alphas.Sample
open Misc Features MarketData MarketState Universe Godzilla.MarketData.Sample Godzilla.Sample

theorem vwap_positive : ∀ x ∈ [(2 : ℚ), 6, 1 / 2, 7 / 10, 1 / 10, 1 / 20, 4 / 5, 1, 12, 3, 86400,
    100000, 10000000], 0 < x := by
  norm_num

theorem vwap_deceleration : (7 : ℚ) / 10 < 1 := by norm_num

theorem vwap_location : (1 : ℚ) / 2 ≤ 13 / 20 ∧ (13 : ℚ) / 20 ≤ 1 := by norm_num

theorem vwap_convergence : (4 : ℚ) / 5 ≤ 1 := by norm_num

theorem vwap_ordered : (2 : ℚ) < 6 ∧ 75 < 300 := by norm_num

theorem three_scale_bars : 3 ≤ 12 := by decide

theorem vwap_end : 1 ≤ 300 := by decide

theorem vwap_hold : 1 ≤ 30 := by decide

/-- The default settings. -/
def vwapSettings : VwapSettings ℚ where
  features := { scale_min := three_scale_bars }
  positive := vwap_positive
  deceleration_lt := vwap_deceleration
  location_range := vwap_location
  end_pos := vwap_end
  hold_pos := vwap_hold
  convergence_le := vwap_convergence
  barLag_nonneg := breakout_lag
  ordered := vwap_ordered

/-- The default settings with another holding time. -/
def vwapHolding (minutes : ℕ) (h : 1 ≤ minutes) : VwapMeanReversion ℚ where
  settings := { vwapSettings with maxHoldMinutes := minutes, hold_pos := h }
  calendar := calendar

def vwapEngine : VwapMeanReversion ℚ := vwapHolding 30 vwap_hold

/-- Twelve quiet bars, two falling ones, and one that turns. -/
def fallingBars : List Bar :=
  (List.range 12).map (fun slot => breakoutBar "INFY" slot 100 (1001 / 10) (999 / 10) 100) ++
    [ breakoutBar "INFY" 12 98 (981 / 10) (979 / 10) 98,
      breakoutBar "INFY" 13 97 (971 / 10) (969 / 10) 97,
      breakoutBar "INFY" 14 97 (975 / 10) (969 / 10) (974 / 10) ]

/-- A sideways market that permits the alpha. -/
def vwapState : StateFields ℚ :=
  { momentumState .chop .long with
    timestamp := afterOpen 75
    stateSince := afterOpen 75
    allowedAlphaFamilies := [.vwapMeanReversion]
    evidence :=
      { (momentumState .chop .long).evidence with
        health := ⟨afterOpen 75, .healthy, .healthy, false, []⟩ } }

theorem vwapState_consistent : vwapState.ConsistentPolicy where
  multiplier_nonneg := zero_le_one' ℚ
  multiplier_le_one := le_rfl
  since_le := le_rfl
  settings_match := rfl
  blocked_grants_nothing h := by rcases h with h | h <;> cases h

theorem vwap_adv : (0 : ℚ) < 200000 := by norm_num

theorem vwap_turnover : (0 : ℚ) < 20000000 := by norm_num

def vwapCall : VwapCall ℚ where
  bars := fallingBars
  liquidity :=
    { quote :=
        { instrumentId := "INFY"
          source := "feed"
          receivedAt := afterOpen 75
          timestamp := afterOpen 75
          bid := 9739 / 100
          ask := 9741 / 100
          last := 974 / 10 }
      adv := 200000
      dailyTurnover := 20000000
      knownAt := afterOpen 75
      snapshotId := "liquidity"
      adv_pos := vwap_adv
      turnover_pos := vwap_turnover }
  universeSnapshot := momentumCall.universeSnapshot
  master := momentumCall.master
  state := ⟨vwapState, vwapState_consistent⟩
  now := afterOpen 75
  mode := .research

theorem falling_reflectable : ∀ bar ∈ fallingBars, bar.Reflectable 200 := by
  have hdecided : ∀ bar ∈ fallingBars, (0 < bar.openPrice ∧ bar.openPrice < 200) ∧
      (0 < bar.high ∧ bar.high < 200) ∧ (0 < bar.low ∧ bar.low < 200) ∧
      (0 < bar.close ∧ bar.close < 200) := by
    decide +kernel
  intro bar hbar
  obtain ⟨hopen, hhigh, hlow, hclose⟩ := hdecided bar hbar
  exact ⟨hopen, hhigh, hlow, hclose⟩

theorem falling_features : (vwapEngine.inputs vwapCall).map (fun outcome => outcome.toOption.map
    fun p => (p.1.instrumentId, p.1.adverseReference vwapSettings)) =
      .ok (some ("INFY", 974 / 10 - 26 / 60)) := by
  decide +kernel

theorem falling_of_inputs {minutes : ℕ} {h : 1 ≤ minutes} {f : ReversionFeatures ℚ}
    {flatten : Instant} (hinputs : (vwapHolding minutes h).inputs vwapCall = .ok (.ok (f, flatten))) :
    f.instrumentId = "INFY" ∧ f.adverseReference vwapSettings = 974 / 10 - 26 / 60 := by
  have hfeatures := falling_features
  have hsame : vwapEngine.inputs vwapCall = (vwapHolding minutes h).inputs vwapCall := rfl
  rw [hsame, hinputs] at hfeatures
  exact Prod.mk.inj (Option.some.inj (Except.ok.inj hfeatures))

/-- The call can be reflected at twice its opening price, however long a position is held. -/
theorem falling_call (minutes : ℕ) (h : 1 ≤ minutes) :
    ReflectableCall 200 (vwapHolding minutes h) vwapCall where
  eligible f flatten instrument hinputs hfound := by
    rw [(falling_of_inputs hinputs).1] at hfound
    have hinstrument : vwapCall.master.byToken.get? "INFY" = some (momentumInstrument "INFY") := by
      decide +kernel
    obtain rfl := Option.some.inj (hinstrument.symm.trans hfound)
    exact ⟨by decide +kernel, rfl⟩
  prices := falling_reflectable
  adverse f flatten hinputs _ := by
    have hadverse := (falling_of_inputs hinputs).2
    change 0 < f.adverseReference vwapSettings ∧ f.adverseReference vwapSettings < 200
    rw [hadverse]
    norm_num

/-- A fall that turns is bought, and its reflection is sold. -/
theorem evaluate_reflected_falling :
    (vwapEngine.evaluate vwapCall).map (fun r => r.intent.map (·.side)) = .ok (some .long) ∧
      (vwapEngine.evaluate (vwapCall.reflect 200)).map (fun r => r.intent.map (·.side)) =
        .ok (some .short) ∧
      ((∃ r r', vwapEngine.evaluate vwapCall = .ok r ∧
          vwapEngine.evaluate (vwapCall.reflect 200) = .ok r' ∧ ReflectsResult 200 r r') ↔
        vwapCall.Dated vwapEngine) :=
  ⟨by decide +kernel, by decide +kernel, evaluate_reflected_iff (falling_call 30 vwap_hold)⟩

theorem vwap_endless_hold : 1 ≤ 10 ^ 10 := by decide

/-- The end of an unbounded holding time is no date: both calls raise where an entry was due. -/
theorem evaluate_reflected_endless :
    ReflectableCall 200 (vwapHolding (10 ^ 10) vwap_endless_hold) vwapCall ∧
      ¬ ∃ r r', (vwapHolding (10 ^ 10) vwap_endless_hold).evaluate vwapCall = .ok r ∧
        (vwapHolding (10 ^ 10) vwap_endless_hold).evaluate (vwapCall.reflect 200) = .ok r' ∧
        ReflectsResult 200 r r' := by
  refine ⟨falling_call _ _, ?_⟩
  have hraises : ((vwapHolding (10 ^ 10) vwap_endless_hold).evaluate vwapCall).isOk = false := by
    decide +kernel
  rintro ⟨r, -, hreturns, -⟩
  rw [hreturns] at hraises
  cases hraises

end Godzilla.Alphas.Sample
