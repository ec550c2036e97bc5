import Godzilla.Alphas.RelativeValueExposure

/-!
# When an evaluation of relative value returns

In exact arithmetic `SectorRelativeValue.evaluate` raises for its dates alone: a time that no
`datetime` holds in UTC, in the zone of the engine or for its session, a zone that is not known,
and a generation time that carries no zone. Otherwise it returns, and its baskets are sound.
-/

namespace Godzilla.Alphas
open Godzilla Misc Features MarketData MarketState Universe

variable [Platform]

/-- The gates before the session are open. -/
structure RelativeValueCall.Admitted {F : Type} [PyFloat F] (engine : SectorRelativeValue F)
    (call : RelativeValueCall F) : Prop where
  not_live : call.mode ≠ .live
  enabled : engine.settings.enabled = true
  state : ¬ call.blocked
  inventory : ¬ call.inventoryUnavailable engine.settings

/-- The open, the last entry and the time to flatten of a session are dates. -/
structure SessionDated (session : Session) : Prop where
  opening : IsDatetime (session.instantAt session.times.openTime)
  finalEntry : IsDatetime (session.instantAt session.times.finalEntryTime)
  flatten : IsDatetime (session.instantAt session.times.flattenStartTime)

/-- The dates that a call comes to read are dates: now in UTC; behind the first gates the local
    day and the times of its session, unless a key that is no path ends the reading; and in the
    entry window the generation times of snapshots of the day, which carry a zone. -/
structure RelativeValueCall.Dated {F : Type} [PyFloat F] (engine : SectorRelativeValue F)
    (call : RelativeValueCall F) : Prop where
  now : IsDatetime call.now
  session : call.Admitted engine →
    ZoneReads True engine.timezone
      (IsDatetime ((Platform.zoneInfo engine.timezone).wallClock call.now) ∧
        ∀ session, engine.calendar.sessionOn (engine.day call) = .ok (some session) →
          ZoneReads True session.timezone (SessionDated session))
  generation : call.Admitted engine → ∀ window, engine.sessionGate call = .ok window →
    GenerationDated False call.generatedAware call.universeSnapshot call.master
      (engine.day call) call.now

section Gates

variable {F : Type} [PyFloat F] {engine : SectorRelativeValue F} {call : RelativeValueCall F}

/-- The window of a session raises no more than what is caught when the times of the session are
    dates. -/
theorem sessionTimes_raises_iff {session : Session} :
    OnlyRaises (blocksSession ·) (SectorRelativeValue.sessionTimes call session) ↔
      ZoneReads True session.timezone (SessionDated session) := by
  have handler := blocksSession_handler.toDateHandler
  rw [SectorRelativeValue.sessionTimes, combineIn_bind_raises_iff handler,
    combineIn_bind_raises_iff handler, combineIn_bind_raises_iff handler]
  simp only [zoneReads_and_zoneReads]
  refine zoneReads_congr ⟨fun h => ⟨h.1, h.2.1, h.2.2.1⟩, fun h => ?_⟩
  exact ⟨h.opening, h.finalEntry, h.flatten, .ite (onlyRaises_error rfl) (onlyRaises_ok _)⟩

/-- The session gate raises no more than what is caught when its dates are dates. -/
theorem sessionGate_raises_iff :
    OnlyRaises (blocksSession ·) (engine.sessionGate call) ↔
      ZoneReads True engine.timezone
        (IsDatetime ((Platform.zoneInfo engine.timezone).wallClock call.now) ∧
          ∀ session, engine.calendar.sessionOn (engine.day call) = .ok (some session) →
            ZoneReads True session.timezone (SessionDated session)) := by
  have handler := blocksSession_handler.toDateHandler
  rw [SectorRelativeValue.sessionGate, localDateIn_bind_raises_iff handler]
  refine zoneReads_congr (and_congr_right fun _ => ?_)
  rw [ofCalendar_bind_raises_iff blocksSession_handler]
  constructor
  · intro h session hsession
    exact sessionTimes_raises_iff.mp (h _ hsession)
  · rintro h (_ | session) hsession
    · exact onlyRaises_error rfl
    · exact sessionTimes_raises_iff.mpr (h session hsession)

/-- A session that lets the call through leaves time to flatten. -/
theorem flatten_of_sessionGate {window : RelativeValueWindow}
    (h : engine.sessionGate call = .ok window) : call.now < window.flatten := by
  obtain ⟨day, -, h⟩ := bind_ok h
  obtain ⟨session, -, h⟩ := bind_ok h
  cases session with
  | none => cases h
  | some session =>
    obtain ⟨opening, -, h⟩ := bind_ok h
    obtain ⟨final, -, h⟩ := bind_ok h
    obtain ⟨flatten, -, h⟩ := bind_ok h
    obtain ⟨hwindow, h⟩ := guard_ok h
    push Not at hwindow
    obtain rfl := Except.ok.inj h
    exact lt_of_lt_of_le hwindow.1.2 (min_le_right _ _)

end Gates

/-- What is open when a basket is proposed. -/
structure GatesOpen (engine : SectorRelativeValue ℚ) (call : RelativeValueCall ℚ) : Prop where
  admitted : call.Admitted engine
  session : ∃ window, engine.sessionGate call = .ok window
  crossSection : ¬ call.ambiguous (engine.day call)

/-- A result whose baskets come through open gates only, are sound, and share no security. -/
structure SoundResult (engine : SectorRelativeValue ℚ) (call : RelativeValueCall ℚ)
    (result : RelativeValueResult ℚ) : Prop where
  gates : result.intents ≠ [] → GatesOpen engine call
  baskets : ∀ intent ∈ result.intents, SoundBasket engine call intent
  distinct : (result.intents.flatMap fun intent => intent.legs.map (·.entityId)).Nodup

section Results

variable {engine : SectorRelativeValue ℚ} {call : RelativeValueCall ℚ}

/-- A result without baskets is sound. -/
theorem soundResult_closed (reasons : List String) :
    SoundResult engine call { reasons := reasons } :=
  ⟨fun h => absurd rfl h, fun _ h => absurd h List.not_mem_nil, List.nodup_nil⟩

theorem RelativeValueCall.evaluate_of_admitted (hnow : IsDatetime call.now) (h : call.Admitted engine) :
    engine.evaluate call = engine.evaluateSession call := by
  rw [SectorRelativeValue.evaluate, utc, asDatetime_eq hnow]
  change (if call.mode = .live then _ else _) = _
  rw [if_neg h.not_live, if_neg (by rw [h.enabled]; decide), if_neg h.state, if_neg h.inventory]

/-- A call that a first gate stops returns no baskets. -/
theorem RelativeValueCall.evaluate_of_not_admitted (hnow : IsDatetime call.now)
    (h : ¬ call.Admitted engine) :
    ∃ reasons, engine.evaluate call = .ok { reasons := reasons } := by
  rw [SectorRelativeValue.evaluate, utc, asDatetime_eq hnow]
  change ∃ reasons, (if call.mode = .live then _ else _) = _
  by_cases hmode : call.mode = .live
  · exact ⟨_, if_pos hmode⟩
  rw [if_neg hmode]
  by_cases henabled : engine.settings.enabled = false
  · exact ⟨_, if_pos henabled⟩
  rw [if_neg henabled]
  by_cases hblocked : call.blocked
  · exact ⟨_, if_pos hblocked⟩
  rw [if_neg hblocked]
  by_cases hinventory : call.inventoryUnavailable engine.settings
  · exact ⟨_, if_pos hinventory⟩
  exact absurd ⟨hmode, eq_true_of_ne_false henabled, hblocked, hinventory⟩ h

/-- In the entry window a call returns when its generation times are dates. -/
theorem evaluateWindow_spec (hadmitted : call.Admitted engine) {window : RelativeValueWindow}
    (hwindow : engine.sessionGate call = .ok window) :
    ((∃ result, engine.evaluateWindow call window = .ok result) ↔
      GenerationDated False call.generatedAware call.universeSnapshot call.master
        (engine.day call) call.now) ∧
    ∀ result, engine.evaluateWindow call window = .ok result → SoundResult engine call result := by
  rw [SectorRelativeValue.evaluateWindow, ← readGeneration_raises_iff unhandled,
    onlyRaises_false_iff]
  cases hread : readGeneration call.generatedAware call.universeSnapshot call.master
      (engine.day call) call.now with
  | error e =>
    refine ⟨iff_of_false ?_ ?_, fun result h => nomatch h⟩
    · rintro ⟨result, h⟩
      cases h
    · rintro ⟨_, h⟩
      cases h
  | ok u =>
    rw [iff_true_right ⟨u, rfl⟩]
    by_cases hambiguous : call.ambiguous (engine.day call)
    · refine ⟨⟨_, if_pos hambiguous⟩, fun result h => ?_⟩
      obtain rfl := Except.ok.inj ((if_pos hambiguous).symm.trans h)
      exact soundResult_closed _
    have hcall := unambiguous_of_gate hambiguous
    obtain ⟨built, hbuilt, hsound, hsectors⟩ :=
      construct_ok engine hcall (flatten_of_sessionGate hwindow)
    refine ⟨⟨built, (if_neg hambiguous).trans hbuilt⟩, fun result h => ?_⟩
    obtain rfl := Except.ok.inj (hbuilt.symm.trans ((if_neg hambiguous).symm.trans h))
    exact ⟨fun _ => ⟨hadmitted, ⟨window, hwindow⟩, hambiguous⟩, hsound,
      legs_nodup hcall hsound hsectors⟩

/-- Behind the first gates a call returns when the dates of its session and of its snapshots are
    dates. -/
theorem evaluateSession_spec (hadmitted : call.Admitted engine) :
    ((∃ result, engine.evaluateSession call = .ok result) ↔
      OnlyRaises (blocksSession ·) (engine.sessionGate call) ∧
        ∀ window, engine.sessionGate call = .ok window →
          GenerationDated False call.generatedAware call.universeSnapshot call.master
            (engine.day call) call.now) ∧
    ∀ result, engine.evaluateSession call = .ok result → SoundResult engine call result := by
  rw [SectorRelativeValue.evaluateSession]
  cases hgate : engine.sessionGate call with
  | error e =>
    by_cases hblocks : blocksSession e = true
    · simp only [if_pos hblocks]
      refine ⟨iff_of_true ⟨_, rfl⟩ ⟨onlyRaises_error hblocks, fun _ h => nomatch h⟩, ?_⟩
      intro result h
      obtain rfl := Except.ok.inj h
      exact soundResult_closed _
    · simp only [if_neg hblocks]
      refine ⟨iff_of_false ?_ fun h => hblocks (h.1 e rfl), fun _ h => nomatch h⟩
      rintro ⟨_, h⟩
      cases h
  | ok window =>
    have hspec := evaluateWindow_spec hadmitted hgate
    refine ⟨hspec.1.trans ⟨fun h => ⟨onlyRaises_ok _, fun _ _ => h⟩, fun h => h.2 window rfl⟩, ?_⟩
    exact hspec.2

/-- Evaluating returns exactly when the dates that it comes to are dates, and returns a sound
    result. -/
theorem evaluate_spec (engine : SectorRelativeValue ℚ) (call : RelativeValueCall ℚ) :
    ((∃ result, engine.evaluate call = .ok result) ↔ call.Dated engine) ∧
    ∀ result, engine.evaluate call = .ok result → SoundResult engine call result := by
  by_cases hnow : IsDatetime call.now
  swap
  · have hraises : ∀ result, engine.evaluate call ≠ .ok result := by
      intro result h
      obtain ⟨_, hutc, -⟩ := bind_ok h
      exact hnow (asDatetime_ok hutc).2
    exact ⟨iff_of_false (fun ⟨result, h⟩ => hraises result h) fun h => hnow h.now,
      fun result h => absurd h (hraises result)⟩
  by_cases hadmitted : call.Admitted engine
  · rw [RelativeValueCall.evaluate_of_admitted hnow hadmitted]
    obtain ⟨hreturns, hsound⟩ := evaluateSession_spec hadmitted
    rw [sessionGate_raises_iff] at hreturns
    exact ⟨hreturns.trans ⟨fun h => ⟨hnow, fun _ => h.1, fun _ => h.2⟩,
      fun h => ⟨h.session hadmitted, h.generation hadmitted⟩⟩, hsound⟩
  · obtain ⟨reasons, hclosed⟩ := RelativeValueCall.evaluate_of_not_admitted hnow hadmitted
    rw [hclosed]
    refine ⟨iff_of_true ⟨_, rfl⟩ ⟨hnow, fun h => absurd h hadmitted, fun h => absurd h hadmitted⟩,
      fun result h => ?_⟩
    obtain rfl := Except.ok.inj h
    exact soundResult_closed reasons

/-- Evaluating returns exactly when the dates that it comes to are dates. Its baskets come through
    open gates only; each is sound, and no security is in two of them. -/
theorem evaluate_sound (engine : SectorRelativeValue ℚ) (call : RelativeValueCall ℚ) :
    ((∃ result, engine.evaluate call = .ok result) ↔ call.Dated engine) ∧
    ∀ result, engine.evaluate call = .ok result →
      (result.intents ≠ [] → GatesOpen engine call) ∧
      (∀ intent ∈ result.intents, SoundBasket engine call intent) ∧
      (result.intents.flatMap fun intent => intent.legs.map (·.entityId)).Nodup := by
  obtain ⟨hreturns, hsound⟩ := evaluate_spec engine call
  refine ⟨hreturns, fun result h => ?_⟩
  exact ⟨(hsound result h).gates, (hsound result h).baskets, (hsound result h).distinct⟩

end Results

end Godzilla.Alphas
