import Godzilla.Alphas.BreakoutMirror
import Godzilla.Alphas.BreakoutRaises
import Godzilla.Alphas.MomentumBreakout

/-!
# When an evaluation of breakouts returns

The three `try` blocks of `MomentumBreakout.evaluate` turn a day without calendar and a
`ValueError` into a reason. Not caught are dates that a `datetime` cannot hold,
the instants and quotients of a measurement that have no value, and the evidence of a signal
that has expired before it is made. An evaluation returns exactly when it meets none of them.
-/

namespace Godzilla.Alphas
open Godzilla Misc Events Features MarketData MarketState Universe

section Ranking

variable {F : Type} [PyFloat F] [Platform] {engine : MomentumBreakout F} {call : BreakoutCall F}

open MomentumBreakout

/-- The values of the snapshots are finite, as `allow_inf_nan=False` has them. -/
def BreakoutCall.FiniteValues (call : BreakoutCall F) : Prop :=
  ∀ o ∈ call.observations, ∀ value ∈ o.current.snapshot.values, ∀ x ∈ value.value,
    PyFloat.isFinite x = true

/-- The reasons of an evaluation that is blocked. -/
def Blocker (reasons : List String) : Prop :=
  reasons ∈ [["ALPHA_DISABLED"], ["STATE_PERMISSION_DENIED"], ["SESSION_UNAVAILABLE"],
      ["UNIVERSE_UNAVAILABLE_OR_AMBIGUOUS"]] ∨
    ∃ message, reasons = ["INPUT_BLOCKED", message]

/-- What the gates leave of the cross-section: one observation for each long token. -/
structure CompleteSection (call : BreakoutCall F) : Prop where
  nonempty : call.selected ≠ []
  distinct : call.ids.Nodup
  tokens : ∀ token, token ∈ call.ids ↔ token ∈ call.universeSnapshot.longTokens
  known : ∀ item ∈ call.selected, ∃ instrument,
    call.instrument item.current.snapshot.entity = .ok instrument ∧
      instrument.token = item.current.snapshot.entity

theorem completeSection (h : ¬ call.universeUnavailable (engine.day call) engine.settings) :
    CompleteSection call := by
  simp only [BreakoutCall.universeUnavailable, not_or, not_not] at h
  obtain ⟨-, -, -, -, -, hsize, ⟨hids, hlong⟩, hlength, -, -, -, hknown, -⟩ := h
  have hmem : ∀ token, token ∈ call.ids ↔ token ∈ call.universeSnapshot.longTokens :=
    fun token => ⟨fun ht => hids ht, fun ht => hlong ht⟩
  have hperm : call.ids.dedup.Perm call.universeSnapshot.longTokens.dedup := by
    rw [List.perm_ext_iff_of_nodup (List.nodup_dedup _) (List.nodup_dedup _)]
    intro token
    rw [List.mem_dedup, List.mem_dedup, hmem]
  refine ⟨?_, Dict.length_dedup_eq_iff.mp (by rw [hperm.length_eq, hlength]), hmem, ?_⟩
  · intro hnil
    have hzero : call.ids.length = 0 := by rw [BreakoutCall.ids, hnil]; rfl
    have := engine.settings.universe_min
    omega
  · intro item hitem
    have hlisted : item.current.snapshot.entity ∈ call.universeSnapshot.longTokens :=
      (hmem _).mp (List.mem_map_of_mem hitem)
    obtain ⟨instrument, hget⟩ := Option.isSome_iff_exists.mp
      ((Dict.mem_keys_iff _).mp (hknown hlisted))
    exact ⟨instrument, by rw [BreakoutCall.instrument, hget], (Dict.mem_of_get?_index hget).2⟩

theorem checkMember_raises (hcomplete : CompleteSection call) (opening : Instant)
    {item : BreakoutObservation F} (hitem : item ∈ call.selected) :
    OnlyRaises (·.isValueError) (engine.checkMember call opening item) := by
  obtain ⟨instrument, hinstrument, -⟩ := hcomplete.known item hitem
  rw [checkMember]
  refine .ite (onlyRaises_error rfl) ?_
  rw [hinstrument]
  refine OnlyRaises.ite (onlyRaises_error rfl) ?_
  refine OnlyRaises.bind ?_ fun _ _ => OnlyRaises.ite (onlyRaises_error rfl) ?_
  · refine OnlyRaises.forM fun o _ => ?_
    exact .ite (onlyRaises_error rfl) (onlyRaises_ok _)
  · refine OnlyRaises.forM fun bar _ => OnlyRaises.bind ?_ fun _ _ =>
      .ite (onlyRaises_error rfl) (onlyRaises_ok _)
    rw [Bar.requireStrategyReady]
    exact .ite (onlyRaises_ok _) (onlyRaises_error rfl)

/-- A member that passed its checks: the reference precedes the end of the bar, and the bar
    has ended. -/
theorem checkMember_causal {opening : Instant} {item : BreakoutObservation F}
    (h : engine.checkMember call opening item = .ok ()) :
    item.reference.snapshot.timestamp < item.bar.stop ∧ item.bar.stop ≤ call.now := by
  rw [checkMember] at h
  obtain ⟨-, h⟩ := guard_ok h
  obtain ⟨instrument, -, h⟩ := bind_ok h
  obtain ⟨-, h⟩ := guard_ok h
  obtain ⟨_, -, h⟩ := bind_ok h
  obtain ⟨hcausal, -⟩ := guard_ok h
  simp only [BreakoutCall.notCausal, not_or, not_not] at hcausal
  obtain ⟨⟨-, hreference⟩, -, -, -, hlag, -⟩ := hcausal
  have hlag := PyFloat.zero_le_seconds.mp hlag
  have hduration := item.bar.duration
  have hinterval : 0 < minutesOf item.bar.intervalMinutes := by
    rcases item.bar.interval_supported with hone | hfive
    · rw [hone]
      decide
    · rw [hfive]
      decide
  constructor
  · lia
  · lia

/-- What the loop over the candidates is given. -/
structure Ranked (call : BreakoutCall F) (ranking : BreakoutRanking F) : Prop where
  closes : call.now < ranking.closing
  members : ranking.members.map Prod.fst = call.selected
  complete : CompleteSection call
  causal : ∀ item ∈ call.selected,
    item.reference.snapshot.timestamp < item.bar.stop ∧ item.bar.stop ≤ call.now

theorem inputs_raises (hcomplete : CompleteSection call) (opening : Instant) :
    OnlyRaises (·.isValueError) (engine.inputs call opening) := by
  rw [inputs]
  refine (OnlyRaises.forM fun item hitem => checkMember_raises hcomplete opening hitem).bind
    fun _ _ => ?_
  exact (OnlyRaises.mapM fun o _ => numeric_raises _ _).bind fun _ _ =>
    (OnlyRaises.mapM fun o _ => numeric_raises _ _).bind fun _ _ => onlyRaises_ok _

/-- The values of one feature of a cross-section can be ranked. -/
theorem percentiles_ok (hcomplete : CompleteSection call) (hfinite : call.FiniteValues)
    {name : String} {values : List F}
    (h : call.selected.mapM (fun o => numeric o.current name) = .ok values) :
    ∃ ranks, percentiles values = .ok ranks ∧ ranks.length = call.selected.length := by
  have hrelated := related_of_mapM h
  have hne : values ≠ [] := by
    intro hnil
    rw [hnil] at hrelated
    exact hcomplete.nonempty (List.length_eq_zero_iff.mp hrelated.length_eq)
  have hall : ¬ ∃ value ∈ values, PyFloat.isFinite value = false := by
    rintro ⟨value, hvalue, hnot⟩
    obtain ⟨item, hitem, hread⟩ := exists_left_of_related hrelated hvalue
    have hobserved : item ∈ call.observations := by
      rw [BreakoutCall.selected, mem_sortOn] at hitem
      exact List.mem_of_mem_filter hitem
    rw [numeric] at hread
    cases hlookup : item.current.snapshot.lookup name with
    | none =>
      rw [hlookup] at hread
      cases hread
    | some feature =>
      cases hfeature : feature.value with
      | none =>
        rw [hlookup, Option.bind_some, hfeature] at hread
        cases hread
      | some x =>
        rw [hlookup, Option.bind_some, hfeature] at hread
        obtain rfl := Except.ok.inj hread
        have := hfinite item hobserved feature (List.mem_of_find?_eq_some hlookup) x hfeature
        rw [this] at hnot
        cases hnot
  refine ⟨values.map (percentileIn values), ?_, ?_⟩
  · rw [percentiles, if_neg (not_or.mpr ⟨hne, hall⟩)]
  · rw [List.length_map, ← hrelated.length_eq]

/-- What `except CalendarCoverageError` catches. -/
def NotCovered (e : PyError) : Prop := ∃ message, e = .calendarCoverage message

omit [Platform] in
theorem notCovered_handler : CalendarHandler NotCovered False where
  overflow _ := by rintro ⟨_, h⟩; cases h
  unknown _ := by rintro ⟨_, h⟩; cases h
  malformed _ := by
    refine iff_of_false ?_ id
    rintro ⟨_, h⟩
    cases h
  coverage message := ⟨message, rfl⟩

/-- The settings and the state permit breakouts to one side now. -/
structure Permitted (engine : MomentumBreakout F) (call : BreakoutCall F) (side : Side) :
    Prop where
  enabled : engine.settings.enabled = true
  side : permittedSide call.state = some side
  granted : ¬ call.permissionDenied

/-- The dates that a call comes to read are dates: now in UTC; for a permitted call its local day
    and the bounds of its session, in known zones; and in an open session of the day of both
    snapshots, the times at which they were generated. -/
structure BreakoutCall.Dated (engine : MomentumBreakout F) (call : BreakoutCall F) : Prop where
  now : IsDatetime call.now
  bounds : ∀ side, Permitted engine call side →
    BoundsDated False engine.calendar call.now engine.timezone
  generation : ∀ side, Permitted engine call side → ∀ opening closing,
    sessionBounds engine.calendar call.now engine.timezone = .ok (some (opening, closing)) →
    opening ≤ call.now → call.now < closing →
      GenerationDated False {} call.universeSnapshot call.master (engine.day call) call.now

/-- The session of a call is read when its bounds are dates. -/
theorem session_isOk_iff : (∃ found, engine.session call = .ok found) ↔
    BoundsDated False engine.calendar call.now engine.timezone := by
  rw [← readBounds_raises_iff notCovered_handler, MomentumBreakout.session]
  rcases readBounds engine.calendar call.now engine.timezone with e | bounds | ⟨opening, closing⟩
  · cases e with
    | calendarCoverage message => exact iff_of_true ⟨none, rfl⟩ (onlyRaises_error ⟨message, rfl⟩)
    | _ =>
      refine iff_of_false ?_ fun h => ?_
      · rintro ⟨_, h⟩
        cases h
      · obtain ⟨_, h⟩ := h _ rfl
        cases h
  · exact iff_of_true ⟨none, rfl⟩ (onlyRaises_ok _)
  · exact iff_of_true ⟨_, rfl⟩ (onlyRaises_ok _)

/-- A session that is found is the one of the calendar, and open. -/
theorem session_some {opening closing : Instant}
    (h : engine.session call = .ok (some (opening, closing))) :
    sessionBounds engine.calendar call.now engine.timezone = .ok (some (opening, closing)) ∧
      opening ≤ call.now ∧ call.now < closing := by
  rw [MomentumBreakout.session] at h
  cases hread : readBounds engine.calendar call.now engine.timezone with
  | error e =>
    rw [hread] at h
    cases e <;> cases h
  | ok bounds =>
    rw [hread] at h
    cases bounds with
    | none => cases h
    | some bounds =>
      obtain ⟨start, stop⟩ := bounds
      by_cases hopen : start ≤ call.now ∧ call.now < stop
      · simp only [if_pos hopen, Except.ok.injEq, Option.some.injEq] at h
        obtain ⟨rfl, rfl⟩ := Prod.mk.inj h
        exact ⟨readBounds_ok hread, hopen⟩
      · simp only [if_neg hopen, Except.ok.injEq] at h
        cases h

theorem ranking_of_permitted {side : Side} (h : Permitted engine call side) :
    engine.ranking call = engine.rankSession call side := by
  rw [MomentumBreakout.ranking, h.enabled, h.side]
  simp only [Bool.true_eq_false, if_false, if_neg h.granted]

/-- A call that is not permitted is blocked. -/
theorem ranking_of_not_permitted (h : ∀ side, ¬ Permitted engine call side) :
    ∃ reasons, engine.ranking call = .ok (.error reasons) ∧ Blocker reasons := by
  rw [MomentumBreakout.ranking]
  by_cases hdisabled : engine.settings.enabled = false
  · rw [if_pos hdisabled]
    exact ⟨_, rfl, .inl (by simp)⟩
  rw [if_neg hdisabled]
  cases hside : permittedSide call.state with
  | none => exact ⟨_, rfl, .inl (by simp)⟩
  | some side =>
    by_cases hdenied : call.permissionDenied
    · simp only [if_pos hdenied]
      exact ⟨_, rfl, .inl (by simp)⟩
    · exact absurd ⟨Bool.eq_true_of_not_eq_false hdisabled, hside, hdenied⟩ (h side)

/-- Ranking the members raises nothing: it names one blocker, or leaves a ranking. -/
theorem rankMembers_spec (engine : MomentumBreakout F) (hfinite : call.FiniteValues) (side : Side)
    {opening closing : Instant} (hcloses : call.now < closing) :
    (∃ reasons, engine.rankMembers call side opening closing = .ok (.error reasons) ∧
        Blocker reasons) ∨
      ∃ ranking, engine.rankMembers call side opening closing = .ok (.ok ranking) ∧
        Ranked call ranking := by
  rw [rankMembers]
  by_cases hunavailable : call.universeUnavailable (engine.day call) engine.settings
  · rw [if_pos hunavailable]
    exact .inl ⟨_, rfl, .inl (by simp)⟩
  rw [if_neg hunavailable]
  have hcomplete := completeSection hunavailable
  cases hinputs : engine.inputs call opening with
  | error e =>
    have hvalue := inputs_raises hcomplete opening e hinputs
    simp only [hvalue, if_true]
    exact .inl ⟨_, rfl, .inr ⟨_, rfl⟩⟩
  | ok columns =>
    obtain ⟨sector, market⟩ := columns
    right
    rw [inputs] at hinputs
    obtain ⟨_, hadmitted, hinputs⟩ := bind_ok hinputs
    obtain ⟨_, hsector, hinputs⟩ := bind_ok hinputs
    obtain ⟨_, hmarket, hinputs⟩ := bind_ok hinputs
    obtain ⟨rfl, rfl⟩ := Prod.mk.inj (Except.ok.inj hinputs)
    obtain ⟨sectorRanks, hsectorRanks, hsectorLength⟩ :=
      percentiles_ok hcomplete hfinite hsector
    obtain ⟨marketRanks, hmarketRanks, hmarketLength⟩ :=
      percentiles_ok hcomplete hfinite hmarket
    refine ⟨_, by simp only [strengths, hsectorRanks, hmarketRanks]; rfl, hcloses, ?_,
      hcomplete, fun item hitem => checkMember_causal (forM_ok hadmitted item hitem)⟩
    refine List.map_fst_zip ?_
    rw [List.length_zipWith, hsectorLength, hmarketLength, min_self]

/-- With dates to read the gates raise nothing: they name one blocker, or leave a ranking. -/
theorem ranking_spec (hfinite : call.FiniteValues) (hdated : call.Dated engine) :
    (∃ reasons, engine.ranking call = .ok (.error reasons) ∧ Blocker reasons) ∨
      ∃ ranking, engine.ranking call = .ok (.ok ranking) ∧ Ranked call ranking := by
  by_cases hpermitted : ∃ side, Permitted engine call side
  · obtain ⟨side, hpermitted⟩ := hpermitted
    obtain ⟨found, hsession⟩ := session_isOk_iff.mpr (hdated.bounds side hpermitted)
    rw [ranking_of_permitted hpermitted, rankSession, hsession]
    cases found with
    | none => exact .inl ⟨_, rfl, .inl (by simp)⟩
    | some bounds =>
      obtain ⟨hbounds, hopen, hcloses⟩ := session_some hsession
      obtain ⟨_, hread⟩ := onlyRaises_false_iff.mp ((readGeneration_raises_iff unhandled).mpr
        (hdated.generation side hpermitted _ _ hbounds hopen hcloses))
      simp only [bind, Except.bind, hread]
      exact rankMembers_spec engine hfinite side hcloses
  · exact .inl (ranking_of_not_permitted (not_exists.mp hpermitted))

/-- Gates that return have read dates. -/
theorem dated_of_ranking (hnow : IsDatetime call.now)
    {outcome : Except (List String) (BreakoutRanking F)}
    (h : engine.ranking call = .ok outcome) : call.Dated engine := by
  have hsession : ∀ side, Permitted engine call side →
      BoundsDated False engine.calendar call.now engine.timezone := by
    intro side hpermitted
    rw [ranking_of_permitted hpermitted] at h
    obtain ⟨found, hfound, -⟩ := bind_ok h
    exact session_isOk_iff.mp ⟨found, hfound⟩
  refine ⟨hnow, hsession, ?_⟩
  intro side hpermitted opening closing hbounds hopen hcloses
  have hfound : engine.session call = .ok (some (opening, closing)) := by
    rw [MomentumBreakout.session, readBounds_eq (hsession side hpermitted), hbounds]
    exact congrArg _ (if_pos ⟨hopen, hcloses⟩)
  rw [ranking_of_permitted hpermitted, rankSession] at h
  obtain ⟨found, hsame, h⟩ := bind_ok h
  obtain rfl := Except.ok.inj (hfound.symm.trans hsame)
  obtain ⟨_, hread, -⟩ := bind_ok h
  exact (readGeneration_raises_iff unhandled).mp (onlyRaises_false_iff.mpr ⟨_, hread⟩)

end Ranking

section Candidates

variable {F : Type} [PyFloat F] [Platform] (engine : MomentumBreakout F) (call : BreakoutCall F)
  (ranking : BreakoutRanking F)

open MomentumBreakout

/-- Whether the side of the ranking is open to a member. -/
def sideEligible (item : BreakoutObservation F) : Bool :=
  match call.instrument item.current.snapshot.entity with
  | .ok instrument => decide (¬ call.shortIneligible ranking.side instrument)
  | .error _ => false

/-- What `measure_breakout` returns or raises for a member. -/
def measurementOf (member : BreakoutObservation F × F) : Except PyError (BreakoutMeasurement F) :=
  (measureBreakout member.1 ranking.side (sideStrength ranking.side member.2) engine.settings
    ranking.opening ranking.closing []).2

/-- Whether a member is side-eligible, has an invalidation and reaches the minimum score. -/
def emits (member : BreakoutObservation F × F) : Bool :=
  sideEligible call ranking member.1 &&
    match measurementOf engine ranking member with
    | .ok m => m.invalidation.isSome && decide (engine.settings.minimumScore ≤ score m)
    | .error _ => false

/-- The condition on a side-eligible member: its measurement raises no more than a `ValueError`,
    and a signal that it emits has not expired. -/
structure Emittable (member : BreakoutObservation F × F) : Prop where
  representable : Representable member.1 ranking.side (sideStrength ranking.side member.2)
    engine.settings ranking.opening
  unexpired : emits engine call ranking member = true →
    call.now < member.1.bar.stop + minutesOf (5 * engine.settings.observationBars)

/-- The intent that a member emits. -/
structure BreakoutIntentOf (member : BreakoutObservation F × F) (intent : SignalIntent F) : Prop where
  instrumentId : intent.instrumentId = member.1.current.snapshot.entity
  side : intent.side = ranking.side
  evidence : ∃ (e : BreakoutSignalEvidence F) (m : BreakoutMeasurement F),
    intent.evidence = some (.breakout e) ∧ measurementOf engine ranking member = .ok m ∧
      m.invalidation = some e.invalidation ∧ e.score = score m ∧
      e.invalidation.levelKnownAt < e.invalidation.triggerBarEnd ∧
      e.invalidation.triggerBarEnd ≤ call.now ∧ call.now < e.invalidation.expiresAt

/-- One turn of the loop: the report of a member, and an intent when it emits one. -/
structure TurnOf (member : BreakoutObservation F × F)
    (turn : BreakoutCandidateReport F × Option (SignalIntent F)) : Prop where
  token : turn.1.instrumentId = member.1.current.snapshot.entity
  silent : turn.2 = none → emits engine call ranking member = false
  intent : ∀ intent, turn.2 = some intent → emits engine call ranking member = true ∧
    BreakoutIntentOf engine call ranking member intent

variable {engine call ranking} {item : BreakoutObservation F} {strength : F} {side : Side}
  {instrument : Instrument} {m : BreakoutMeasurement F} {i : BreakoutInvalidation F}
  {checks : List (ThresholdEvidence F)}

omit [Platform] in
theorem score_close [RoundedFloat F] {closing : Instant}
    (h : MeasuredFrom item strength engine.settings closing m i) :
    (0 ≤ score m ∧ score m ≤ 1) ∧ PyFloat.IsClose (score m)
      (PyFloat.sum (m.components.map (·.contribution))) (PyFloat.ofDecimal (1 / 10 ^ 12)) := by
  obtain ⟨r, hcontributions⟩ := h.contributions
  rw [score, hcontributions]
  exact contributions_close r strength engine.settings

/-- The evidence of a signal is consistent when the signal has not expired. -/
theorem evidence_consistent_iff [RoundedFloat F] (side : Side) (instrument : Instrument)
    (checks : List (ThresholdEvidence F)) (hranked : Ranked call ranking)
    (hitem : item ∈ call.selected)
    (h : MeasuredFrom item strength engine.settings ranking.closing m i) :
    (engine.evidenceFields call side instrument item m i checks).Consistent ↔
      call.now < item.bar.stop + minutesOf (5 * engine.settings.observationBars) := by
  obtain ⟨hreference, hended⟩ := hranked.causal item hitem
  have hscore := score_close h
  have hexpires : call.now < i.expiresAt ↔
      call.now < item.bar.stop + minutesOf (5 * engine.settings.observationBars) := by
    rw [h.expiresAt, lt_min_iff]
    exact and_iff_right hranked.closes
  constructor
  · rintro ⟨-, -, -, -, hunexpired⟩
    exact hexpires.mp hunexpired
  · intro hunexpired
    refine ⟨hscore.1, rfl, hscore.2, ⟨?_, ?_⟩, hexpires.mpr hunexpired⟩
    · change i.levelKnownAt < i.triggerBarEnd
      rw [h.levelKnownAt, h.triggerBarEnd]
      exact hreference
    · change i.triggerBarEnd ≤ call.now
      rw [h.triggerBarEnd]
      exact hended

theorem intent_of_consistent
    (hconsistent : (engine.evidenceFields call side instrument item m i checks).Consistent) :
    ∃ intent, engine.intent call side instrument item m i checks = .ok intent ∧
      intent.instrumentId = instrument.token ∧ intent.side = side ∧
      ∃ e : BreakoutSignalEvidence F, intent.evidence = some (.breakout e) ∧
        e.invalidation = i ∧ e.score = score m ∧
        e.invalidation.levelKnownAt < e.invalidation.triggerBarEnd ∧
        e.invalidation.triggerBarEnd ≤ call.now ∧ call.now < e.invalidation.expiresAt := by
  have hfields : SignalFields.Consistent (F := F)
      { signalId := Platform.uuid5 ("godzilla:" ++ breakoutAlphaId ++ ":" ++
          Platform.isoformat item.bar.stop ++ ":" ++ instrument.token)
        instrumentId := instrument.token
        alphaId := breakoutAlphaId
        side := side
        reasons := m.reasons
        score := some (score m)
        evidence := some (.breakout ⟨_, hconsistent⟩) } := by
    refine ⟨?_, by simp, ?_⟩
    · intro s hs
      obtain rfl := Option.some.inj hs
      exact hconsistent.1
    · intro e he
      obtain rfl := Option.some.inj he
      exact ⟨rfl, rfl, rfl, rfl⟩
  rw [MomentumBreakout.intent, BreakoutSignalEvidence.validate, dif_pos hconsistent]
  simp only [bind, Except.bind]
  rw [SignalIntent.validate, dif_pos hfields]
  obtain ⟨-, -, -, htimes, hunexpired⟩ := hconsistent
  exact ⟨_, rfl, rfl, rfl, _, rfl, rfl, rfl, htimes.1, htimes.2, hunexpired⟩

theorem intent_of_inconsistent
    (hinconsistent : ¬ (engine.evidenceFields call side instrument item m i checks).Consistent) :
    ¬ ∃ intent, engine.intent call side instrument item m i checks = .ok intent := by
  rintro ⟨intent, hintent⟩
  rw [MomentumBreakout.intent, BreakoutSignalEvidence.validate, dif_neg hinconsistent] at hintent
  cases hintent

omit [Platform] in
theorem reached_passed (x : F) : (record "candidate.score" (some x) .ge
    engine.settings.minimumScore none).passed = decide (engine.settings.minimumScore ≤ x) := rfl

/-- Without an invalidation, or below the minimum score, a candidate is reported. -/
theorem conclude_silent (engine : MomentumBreakout F) (call : BreakoutCall F) (side : Side)
    (instrument : Instrument) (item : BreakoutObservation F) (checks : List (ThresholdEvidence F))
    (h : ∀ i, m.invalidation = some i →
      PyFloat.isFinite (score m) = true ∧ ¬ engine.settings.minimumScore ≤ score m) :
    ∃ report : BreakoutCandidateReport F, report.instrumentId = instrument.token ∧
      engine.conclude call side instrument item checks m = .ok (report, none) := by
  rw [conclude]
  cases hinvalidation : m.invalidation with
  | none => exact ⟨_, rfl, rfl⟩
  | some i =>
    obtain ⟨hfinite, hbelow⟩ := h i hinvalidation
    simp only [hfinite, Bool.true_eq_false, if_false, reached_passed, decide_eq_false hbelow,
      if_true]
    exact ⟨_, rfl, rfl⟩

/-- At the minimum score, the intent of a candidate decides. -/
theorem conclude_reached (engine : MomentumBreakout F) (call : BreakoutCall F) (side : Side)
    (instrument : Instrument) (item : BreakoutObservation F) (checks : List (ThresholdEvidence F))
    (hinvalidation : m.invalidation = some i)
    (hfinite : PyFloat.isFinite (score m) = true)
    (hreached : engine.settings.minimumScore ≤ score m) :
    ∃ (report : BreakoutCandidateReport F) (checks' : List (ThresholdEvidence F)),
      report.instrumentId = instrument.token ∧
      engine.conclude call side instrument item checks m =
        (engine.intent call side instrument item m i checks').map
          fun intent => (report, some intent) := by
  rw [conclude, hinvalidation]
  simp only [hfinite, Bool.true_eq_false, if_false, reached_passed, decide_eq_true hreached]
  generalize record "candidate.score" (some (score m)) .ge engine.settings.minimumScore none =
    reached
  refine ⟨⟨instrument.token, m.reasons, checks ++ [reached]⟩, checks ++ [reached], rfl, ?_⟩
  cases engine.intent call side instrument item m i (checks ++ [reached]) <;> rfl

theorem candidate_closed {member : BreakoutObservation F × F}
    (hinstrument : call.instrument member.1.current.snapshot.entity = .ok instrument)
    (hclosed : call.shortIneligible ranking.side instrument) :
    engine.candidate call ranking member.1 member.2 =
      .ok (⟨instrument.token, ["SHORT_INELIGIBLE"], []⟩, none) := by
  rw [candidate, hinstrument]
  exact if_pos hclosed

theorem candidate_open {member : BreakoutObservation F × F}
    (hinstrument : call.instrument member.1.current.snapshot.entity = .ok instrument)
    (hopen : ¬ call.shortIneligible ranking.side instrument) :
    engine.candidate call ranking member.1 member.2 =
      engine.measured ranking member.1 member.2 >>= fun pair =>
        engine.conclude call ranking.side instrument member.1 pair.1 pair.2 := by
  rw [candidate, hinstrument]
  exact if_neg hopen

/-- A report without an intent is the turn of a member that emits none. -/
theorem turnOf_silent {member : BreakoutObservation F × F} {report : BreakoutCandidateReport F}
    (htoken : report.instrumentId = member.1.current.snapshot.entity)
    (hemits : emits engine call ranking member = false) :
    TurnOf engine call ranking member (report, none) where
  token := htoken
  silent _ := hemits
  intent _ h := (Option.some_ne_none _ h.symm).elim

/-- The turn of a member whose measurement returned. -/
theorem conclude_spec [RoundedFloat F] (checks : List (ThresholdEvidence F))
    (hranked : Ranked call ranking)
    {member : BreakoutObservation F × F} (hitem : member.1 ∈ call.selected)
    (htoken : instrument.token = member.1.current.snapshot.entity)
    (hopen : sideEligible call ranking member.1 = true)
    (hmeasured : measurementOf engine ranking member = .ok m) :
    ((∃ turn, engine.conclude call ranking.side instrument member.1 checks m = .ok turn) ↔
        (emits engine call ranking member = true → call.now <
          member.1.bar.stop + minutesOf (5 * engine.settings.observationBars))) ∧
      ∀ turn, engine.conclude call ranking.side instrument member.1 checks m = .ok turn →
        TurnOf engine call ranking member turn := by
  have hemits : emits engine call ranking member =
      (m.invalidation.isSome && decide (engine.settings.minimumScore ≤ score m)) := by
    rw [emits, hopen, Bool.true_and, hmeasured]
  have hfrom : ∀ i, m.invalidation = some i → MeasuredFrom member.1
      (sideStrength ranking.side member.2) engine.settings ranking.closing m i :=
    fun i hi => measureBreakout_spec hmeasured hi
  have hfinite : ∀ i, m.invalidation = some i → PyFloat.isFinite (score m) = true := by
    intro i hi
    have hscore := (score_close (hfrom i hi)).1
    exact RoundedFloat.isFinite_unit hscore.1 hscore.2
  by_cases hemitted : emits engine call ranking member = true
  · -- the member emits: its evidence decides
    have hboth := hemitted
    rw [hemits, Bool.and_eq_true] at hboth
    obtain ⟨i, hi⟩ := Option.isSome_iff_exists.mp hboth.1
    obtain ⟨report, checks', hreport, hconclude⟩ := conclude_reached engine call ranking.side
      instrument member.1 checks hi (hfinite i hi) (of_decide_eq_true hboth.2)
    have hiff := evidence_consistent_iff ranking.side instrument checks' hranked hitem (hfrom i hi)
    rw [hconclude]
    by_cases hunexpired : call.now <
        member.1.bar.stop + minutesOf (5 * engine.settings.observationBars)
    · obtain ⟨intent, hintent, hid, hside, e, hevidence, rfl, hscored, htimes⟩ :=
        intent_of_consistent (hiff.mpr hunexpired)
      rw [hintent]
      refine ⟨⟨fun _ _ => hunexpired, fun _ => ⟨_, rfl⟩⟩, ?_⟩
      rintro turn hturn
      obtain rfl := Except.ok.inj hturn
      constructor
      · exact hreport.trans htoken
      · intro hnone
        exact (Option.some_ne_none _ hnone).elim
      · intro intent' hintent'
        obtain rfl := Option.some.inj hintent'
        exact ⟨hemitted, hid.trans htoken, hside, e, m, hevidence, hmeasured, hi, hscored, htimes⟩
    · have hnone := intent_of_inconsistent (mt hiff.mp hunexpired)
      cases hintent : engine.intent call ranking.side instrument member.1 m i checks' with
      | ok intent => exact absurd ⟨intent, hintent⟩ hnone
      | error e =>
        refine ⟨⟨?_, fun h => absurd (h hemitted) hunexpired⟩, ?_⟩
        · rintro ⟨turn, hturn⟩
          cases hturn
        · intro turn hturn
          cases hturn
  · have hsilent := Bool.eq_false_iff.mpr hemitted
    obtain ⟨report, hreport, hconclude⟩ := conclude_silent engine call ranking.side
      instrument member.1 checks (m := m) fun i hi => ⟨hfinite i hi, fun hreached => hemitted (by
        rw [hemits, hi, Option.isSome_some, Bool.true_and]
        exact decide_eq_true hreached)⟩
    rw [hconclude]
    refine ⟨⟨fun _ h => absurd h hemitted, fun _ => ⟨_, rfl⟩⟩, ?_⟩
    rintro turn hturn
    obtain rfl := Except.ok.inj hturn
    exact turnOf_silent (hreport.trans htoken) hsilent

/-- What is measured of a member: the checks on record, and the measurement or its reason. -/
theorem measured_eq (engine : MomentumBreakout F) (ranking : BreakoutRanking F)
    (member : BreakoutObservation F × F) :
    ∃ checks, engine.measured ranking member.1 member.2 =
      match measurementOf engine ranking member with
      | .ok m => .ok (checks, m)
      | .error e => if e.isValueError then .ok (checks, { reasons := [e.text] }) else .error e := by
  rw [measured, measurementOf]
  generalize measureBreakout member.1 ranking.side (sideStrength ranking.side member.2)
    engine.settings ranking.opening ranking.closing [] = outcome
  obtain ⟨checks, outcome⟩ := outcome
  refine ⟨checks, ?_⟩
  cases outcome <;> rfl

/-- A turn of the loop returns exactly when the member is closed to the side or can be emitted,
    and then it is the turn of that member. -/
theorem turn_spec [RoundedFloat F] (engine : MomentumBreakout F) (hranked : Ranked call ranking)
    {member : BreakoutObservation F × F} (hmember : member ∈ ranking.members) :
    ((∃ turn, engine.candidate call ranking member.1 member.2 = .ok turn) ↔
        (sideEligible call ranking member.1 = true → Emittable engine call ranking member)) ∧
      ∀ turn, engine.candidate call ranking member.1 member.2 = .ok turn →
        TurnOf engine call ranking member turn := by
  have hitem : member.1 ∈ call.selected := by
    rw [← hranked.members]
    exact List.mem_map_of_mem hmember
  obtain ⟨instrument, hinstrument, htoken⟩ := hranked.complete.known member.1 hitem
  have heligible : sideEligible call ranking member.1 =
      decide (¬ call.shortIneligible ranking.side instrument) := by
    rw [sideEligible, hinstrument]
  by_cases hclosed : call.shortIneligible ranking.side instrument
  · have hnot : sideEligible call ranking member.1 = false := by
      rw [heligible]
      exact decide_eq_false (not_not.mpr hclosed)
    have hemits : emits engine call ranking member = false := by rw [emits, hnot, Bool.false_and]
    rw [candidate_closed hinstrument hclosed, hnot]
    refine ⟨⟨fun _ h => (Bool.false_ne_true h).elim, fun _ => ⟨_, rfl⟩⟩, ?_⟩
    rintro turn hturn
    obtain rfl := Except.ok.inj hturn
    exact turnOf_silent htoken hemits
  have hopen : sideEligible call ranking member.1 = true := by
    rw [heligible]
    exact decide_eq_true hclosed
  have hraises : OnlyRaises (·.isValueError) (measurementOf engine ranking member) ↔
      Representable member.1 ranking.side (sideStrength ranking.side member.2) engine.settings
        ranking.opening :=
    measureBreakout_raises_iff []
  obtain ⟨checks, hmeasured⟩ := measured_eq engine ranking member
  rw [candidate_open hinstrument hclosed, hmeasured]
  cases hmeasure : measurementOf engine ranking member with
  | ok m =>
    rw [hmeasure] at hraises
    obtain ⟨hreturns, hturns⟩ := conclude_spec checks hranked hitem htoken hopen hmeasure
    refine ⟨⟨fun h _ => ⟨hraises.mp (onlyRaises_ok m), hreturns.mp h⟩, fun h => ?_⟩, hturns⟩
    exact hreturns.mpr (h hopen).unexpired
  | error e =>
    rw [hmeasure] at hraises
    have hemits : emits engine call ranking member = false := by
      rw [emits, hmeasure, Bool.and_false]
    by_cases hvalue : e.isValueError = true
    · obtain ⟨report, hreport, hconclude⟩ := conclude_silent engine call ranking.side
        instrument member.1 checks (m := { reasons := [e.text] })
        fun i hi => (Option.some_ne_none i hi.symm).elim
      have hreported : (if e.isValueError = true then
            .ok (checks, ({ reasons := [e.text] } : BreakoutMeasurement F))
          else .error e : Except PyError _) = .ok (checks, { reasons := [e.text] }) := if_pos hvalue
      simp only [hreported, bind, Except.bind, hconclude]
      have hrepresentable := hraises.mp (onlyRaises_error hvalue)
      refine ⟨⟨fun _ _ => ⟨hrepresentable, fun h => ?_⟩, fun _ => ⟨_, rfl⟩⟩, ?_⟩
      · rw [hemits] at h
        cases h
      · rintro turn hturn
        obtain rfl := Except.ok.inj hturn
        exact turnOf_silent (hreport.trans htoken) hemits
    · simp only [if_neg hvalue, bind, Except.bind]
      refine ⟨⟨?_, fun h => absurd (hraises.mpr (h hopen).representable e rfl) hvalue⟩, ?_⟩
      · rintro ⟨turn, hturn⟩
        cases hturn
      · intro turn hturn
        cases hturn

end Candidates

section Evaluation

variable {F : Type} [PyFloat F] [Platform] {engine : MomentumBreakout F} {call : BreakoutCall F}
  {ranking : BreakoutRanking F}

open MomentumBreakout

/-- The result of a blocked evaluation: its reasons name one blocker. -/
structure Blocked (result : BreakoutResult F) : Prop where
  intents : result.intents = []
  reports : result.reports = []
  blocker : Blocker result.reasons

/-- The result of an evaluation that reached its candidates: one report for each long token, in
    the order of the tokens, and the intents of the members that emit one, in that order. Which
    members do is a matter of each alone. -/
structure Evaluated (engine : MomentumBreakout F) (call : BreakoutCall F)
    (ranking : BreakoutRanking F) (result : BreakoutResult F) : Prop where
  reasons : result.reasons = ["EVALUATION_COMPLETE"]
  members : result.reports.map (·.instrumentId) =
    ranking.members.map (·.1.current.snapshot.entity)
  ordered : (result.reports.map (·.instrumentId)).Pairwise (· < ·)
  tokens : ∀ token, token ∈ result.reports.map (·.instrumentId) ↔
    token ∈ call.universeSnapshot.longTokens
  intents : List.Forall₂ (BreakoutIntentOf engine call ranking)
    (ranking.members.filter (emits engine call ranking)) result.intents

theorem Ranked.entities (h : Ranked call ranking) :
    ranking.members.map (·.1.current.snapshot.entity) = call.ids := by
  rw [BreakoutCall.ids, ← h.members, List.map_map]
  rfl

theorem ids_ordered (h : call.ids.Nodup) : call.ids.Pairwise (· < ·) := by
  have hle : call.ids.Pairwise (· ≤ ·) := List.pairwise_map.mpr (sortOn_pairwise _ _)
  exact (hle.and h).imp fun hpair => lt_of_le_of_ne hpair.1 hpair.2

/-- Turns of the members, one after the other, make an evaluated result. -/
theorem evaluated_of_turns (hranked : Ranked call ranking)
    {turns : List (BreakoutCandidateReport F × Option (SignalIntent F))}
    (h : List.Forall₂ (TurnOf engine call ranking) ranking.members turns) :
    Evaluated engine call ranking
      { timestamp := call.now
        crossSectionHash := call.digest
        intents := turns.filterMap (·.2)
        reports := turns.map (·.1)
        reasons := ["EVALUATION_COMPLETE"] } := by
  have hmembers : (turns.map (·.1)).map (·.instrumentId) =
      ranking.members.map (·.1.current.snapshot.entity) := by
    rw [List.map_map]
    exact map_eq_of_related h fun _ _ hturn => hturn.token
  refine ⟨rfl, hmembers, ?_, ?_, ?_⟩
  · rw [hmembers, hranked.entities]
    exact ids_ordered hranked.complete.distinct
  · intro token
    rw [hmembers, hranked.entities]
    exact hranked.complete.tokens token
  · exact related_filterMap (fun _ _ hturn hnone => hturn.silent hnone)
      (fun _ _ intent hturn hsome => hturn.intent intent hsome) h

/-- An evaluation returns what its gates or its candidates make of it exactly when it reads dates
    and every member of a ranked cross-section that is open to the side can be emitted. -/
theorem evaluate_returns_iff [RoundedFloat F] (engine : MomentumBreakout F)
    (call : BreakoutCall F) (hfinite : call.FiniteValues) :
    (∃ result, engine.evaluate call = .ok result ∧
        (Blocked result ∨ ∃ ranking, engine.ranking call = .ok (.ok ranking) ∧
          Evaluated engine call ranking result)) ↔
      call.Dated engine ∧
        ∀ ranking, engine.ranking call = .ok (.ok ranking) → ∀ member ∈ ranking.members,
          sideEligible call ranking member.1 = true → Emittable engine call ranking member := by
  by_cases hdated : call.Dated engine
  · have hutc : utc call.now = .ok call.now := asDatetime_eq hdated.now
    rw [and_iff_right hdated, evaluate, hutc]
    rcases ranking_spec hfinite hdated with
      ⟨reasons, hblocked, hblocker⟩ | ⟨ranking, hranking, hranked⟩
    · rw [hblocked]
      refine ⟨fun _ ranking hranking => ?_, fun _ => ?_⟩
      · cases hranking
      · exact ⟨_, rfl, .inl ⟨rfl, rfl, hblocker⟩⟩
    have hturn := fun member (hmember : member ∈ ranking.members) =>
      turn_spec engine hranked hmember
    rw [hranking]
    simp only [bind, Except.bind]
    constructor
    · rintro ⟨result, hresult, -⟩ ranking' hranking' member hmember
      obtain rfl := Except.ok.inj (Except.ok.inj hranking')
      obtain ⟨turns, hturns, -⟩ := bind_ok hresult
      obtain ⟨turn, -, hreturned⟩ := exists_right_of_related (related_of_mapM hturns) hmember
      exact (hturn member hmember).1.mp ⟨turn, hreturned⟩
    · intro hemittable
      have hturns : ∀ member ∈ ranking.members, ∃ turn,
          engine.candidate call ranking member.1 member.2 = .ok turn ∧
            TurnOf engine call ranking member turn := by
        intro member hmember
        obtain ⟨hreturns, hspec⟩ := hturn member hmember
        obtain ⟨turn, hreturned⟩ := hreturns.mpr (hemittable ranking rfl member hmember)
        exact ⟨turn, hreturned, hspec turn hreturned⟩
      obtain ⟨turns, hmapped, hrelated⟩ := exists_mapM hturns
      rw [hmapped]
      exact ⟨_, rfl, .inr ⟨ranking, rfl, evaluated_of_turns hranked hrelated⟩⟩
  · refine iff_of_false ?_ fun h => hdated h.1
    rintro ⟨result, hresult, -⟩
    obtain ⟨now, hnow, hresult⟩ := bind_ok hresult
    obtain ⟨outcome, hranking, -⟩ := bind_ok hresult
    exact hdated (dated_of_ranking (asDatetime_ok hnow).2 hranking)

end Evaluation

end Godzilla.Alphas

namespace Godzilla.Alphas.Sample
open Misc Features MarketData MarketState Universe MomentumBreakout Godzilla.MarketData.Sample
open Godzilla.Sample

theorem breakout_long_lag : (0 : ℚ) ≤ 1200 := by norm_num

/-- The default observation window of three bars, under a lag of four. -/
def breakoutEngine : MomentumBreakout ℚ where
  settings := { breakoutSettings with maxBarLagSeconds := 1200, barLag_nonneg := breakout_long_lag }
  calendar := calendar

/-- A close above the opening range that is observed `minutes` after the open. -/
def breakoutMember (token : String) (minutes : Int) (sign : ℚ) : BreakoutObservation ℚ :=
  { breakoutItem token with
    current :=
      { momentumObservation token 0 0 with
        snapshot := breakoutSnapshot token minutes 100 95 99 sign } }

/-- A state that permits breakouts upwards. -/
def breakoutState (minutes : Int) : StateFields ℚ :=
  { momentumState .trendUp .long with
    timestamp := afterOpen minutes
    stateSince := afterOpen minutes
    allowedAlphaFamilies := [.momentumBreakout]
    evidence := { (momentumState .trendUp .long).evidence with featureSetHash := "digest" } }

theorem breakoutState_consistent (minutes : Int) : (breakoutState minutes).ConsistentPolicy where
  multiplier_nonneg := zero_le_one' ℚ
  multiplier_le_one := le_rfl
  since_le := le_rfl
  settings_match := rfl
  blocked_grants_nothing h := by rcases h with h | h <;> cases h

/-- Three members that broke their opening range forty minutes after the open. -/
def breakoutCall (minutes : Int) : BreakoutCall ℚ where
  observations :=
    [ breakoutMember "INFY" minutes 1, breakoutMember "SBIN" minutes (1 / 2),
      breakoutMember "TCS" minutes (1 / 4) ]
  universeSnapshot := momentumCall.universeSnapshot
  master := momentumCall.master
  state := ⟨breakoutState minutes, breakoutState_consistent minutes⟩
  now := afterOpen minutes

theorem breakoutCall_finite (minutes : Int) : (breakoutCall minutes).FiniteValues :=
  fun _ _ _ _ _ _ => rfl

/-- Evaluated as soon as the bar ends, the strongest member emits an intent. -/
theorem evaluate_returns_fresh :
    (breakoutEngine.evaluate (breakoutCall 40)).map
        (fun result => (result.intents.map (·.instrumentId), result.reports.map (·.instrumentId))) =
      .ok (["INFY"], ["INFY", "SBIN", "TCS"]) ∧
    ((∃ result, breakoutEngine.evaluate (breakoutCall 40) = .ok result ∧
        (Blocked result ∨ ∃ ranking, breakoutEngine.ranking (breakoutCall 40) = .ok (.ok ranking) ∧
          Evaluated breakoutEngine (breakoutCall 40) ranking result)) ↔
      (breakoutCall 40).Dated breakoutEngine ∧
        ∀ ranking, breakoutEngine.ranking (breakoutCall 40) = .ok (.ok ranking) →
          ∀ member ∈ ranking.members, sideEligible (breakoutCall 40) ranking member.1 = true →
            Emittable breakoutEngine (breakoutCall 40) ranking member) :=
  ⟨by decide +kernel,
    evaluate_returns_iff breakoutEngine (breakoutCall 40) (breakoutCall_finite 40)⟩

/-- Evaluated twenty minutes later, within the lag, its signal has expired and the evidence
    raises. -/
theorem evaluate_raises_expired :
    ¬ ∃ result, breakoutEngine.evaluate (breakoutCall 60) = .ok result := by
  have hraises : (breakoutEngine.evaluate (breakoutCall 60)).isOk = false := by decide +kernel
  rintro ⟨result, hresult⟩
  rw [hresult] at hraises
  cases hraises

end Godzilla.Alphas.Sample
