import Godzilla.Alphas.SectorRelativeValue
import Godzilla.Misc.Raises
import Godzilla.Misc.Related
import Mathlib.Algebra.BigOperators.Ring.List

/-!
# The exposure of relative-value baskets

In exact arithmetic what follows the gates of `SectorRelativeValue.evaluate` returns, and it
returns baskets of one sector with unit gross, no beta, a bounded net and a residual gap, of
securities that no other basket and no reservation holds.
-/

namespace Godzilla.Alphas
open Godzilla Misc Features MarketData MarketState Universe

section Estimates

variable {F : Type} [PyFloat F]

theorem covariance_raises (left right : List F) :
    OnlyRaises (·.isValueError) (Features.covariance left right) := by
  unfold Features.covariance
  exact .ite (onlyRaises_error rfl) (onlyRaises_ok _)

theorem ols_raises (left right : List F) : OnlyRaises (·.isValueError) (ols left right) := by
  unfold ols
  refine .ite (onlyRaises_error rfl) ((covariance_raises right right).bind fun variance _ => ?_)
  refine .ite (onlyRaises_error rfl) ((covariance_raises left right).bind fun together _ => ?_)
  exact onlyRaises_ok _

theorem checkBetaBar_raises (cutoff : Instant) (bar : Bar) (ref : InstrumentRef)
    (kind : FeedKind) : OnlyRaises (·.isValueError) (checkBetaBar cutoff bar ref kind) := by
  unfold checkBetaBar Bar.requireStrategyReady
  refine OnlyRaises.bind (.ite (onlyRaises_ok _) (onlyRaises_error rfl)) fun _ _ => ?_
  exact .ite (onlyRaises_error rfl) (onlyRaises_ok _)

theorem checkBetaRows_raises (stock market : InstrumentRef) (cutoff opening : Instant)
    (previous : Option BetaObservation) (rows : List BetaObservation) :
    OnlyRaises (·.isValueError) (checkBetaRows stock market cutoff opening previous rows) := by
  induction rows generalizing previous with
  | nil => exact onlyRaises_ok _
  | cons row rest ih =>
    refine OnlyRaises.bind (checkBetaBar_raises cutoff row.stock.toBar stock .equity) fun _ _ => ?_
    refine OnlyRaises.bind (checkBetaBar_raises cutoff row.market.toBar market .index) fun _ _ => ?_
    exact .ite (onlyRaises_error rfl) (ih (some row))

variable [Platform]

theorem betaEstimate_raises (beta intercept drift : F) (rows : List BetaObservation)
    (start stop : Instant) (returns : Nat) :
    OnlyRaises (·.isValueError)
      (BetaEstimate.validate beta intercept drift rows start stop returns) := by
  unfold BetaEstimate.validate
  split
  · exact onlyRaises_error rfl
  · split
    · split
      · exact onlyRaises_ok _
      · exact onlyRaises_error rfl
    · exact onlyRaises_error rfl

/-- Whatever keeps a beta from being estimated is a `ValueError`. -/
theorem estimateBeta_raises (history : List BetaObservation) (stock market : InstrumentRef)
    (now opening : Instant) (cfg : RelativeValueSettings F) :
    OnlyRaises (·.isValueError) (estimateBeta history stock market now opening cfg) := by
  unfold estimateBeta
  refine .ite (onlyRaises_error rfl) ?_
  split
  · refine .ite (onlyRaises_error rfl) ?_
    refine OnlyRaises.bind (checkBetaRows_raises _ _ _ _ _ _) fun _ _ => ?_
    refine (ols_raises _ _).bind fun fit _ => ?_
    refine .ite (onlyRaises_error rfl) (OnlyRaises.bind ?_ fun halves _ => ?_)
    · unfold halfSlopes
      exact (ols_raises _ _).bind fun _ _ => (ols_raises _ _).bind fun _ _ => onlyRaises_ok _
    · exact .ite (onlyRaises_error rfl) (betaEstimate_raises _ _ _ _ _ _ _)
  · exact onlyRaises_error rfl

/-- An estimate is within the limits and was trained before the decision. -/
theorem estimateBeta_ok {history : List BetaObservation} {stock market : InstrumentRef}
    {now opening : Instant} {cfg : RelativeValueSettings F} {estimate : BetaEstimate F}
    (h : estimateBeta history stock market now opening cfg = .ok estimate) :
    (cfg.minBeta ≤ estimate.beta ∧ estimate.beta ≤ cfg.maxBeta) ∧
      estimate.trainingEnd = now - minutesOf 5 := by
  unfold estimateBeta at h
  obtain ⟨-, h⟩ := guard_ok h
  split at h
  · obtain ⟨hstale, h⟩ := guard_ok h
    obtain ⟨-, -, h⟩ := bind_ok h
    obtain ⟨⟨intercept, beta⟩, -, h⟩ := bind_ok h
    obtain ⟨hrange, h⟩ := guard_ok h
    obtain ⟨⟨before, after⟩, -, h⟩ := bind_ok h
    obtain ⟨-, h⟩ := guard_ok h
    unfold BetaEstimate.validate at h
    obtain ⟨-, h⟩ := guard_ok h
    split at h
    · split at h
      · obtain rfl := Except.ok.inj h
        exact ⟨not_not.mp hrange, not_not.mp hstale⟩
      · cases h
    · cases h
  · cases h

end Estimates

/-- What a selection of related elements leaves of their keys. -/
theorem filterMap_sublist {α β γ κ : Type} {R : α → β → Prop} {f : β → Option γ} {g : γ → κ}
    {key : α → κ} {xs : List α} {ys : List β} (h : List.Forall₂ R xs ys)
    (hkey : ∀ x y c, R x y → f y = some c → g c = key x) :
    ((ys.filterMap f).map g).Sublist (xs.map key) := by
  induction h with
  | nil => exact List.Sublist.slnil
  | @cons x y xs ys hxy _ ih =>
    cases hy : f y with
    | none =>
      rw [List.filterMap_cons_none hy]
      exact ih.cons _
    | some c =>
      rw [List.filterMap_cons_some hy, List.map_cons, List.map_cons, hkey x y c hxy hy]
      exact ih.cons_cons _

section Members

variable {F : Type} [PyFloat F] [Platform] {engine : SectorRelativeValue F}
  {call : RelativeValueCall F} {opening : Instant} {instrument : Instrument}
  {item : RelativeValueObservation F}

omit [PyFloat F] [Platform] in
theorem RelativeValueObservation.numeric_raises (item : RelativeValueObservation F)
    (name : String) : OnlyRaises (·.isValueError) (item.numeric name) := by
  unfold RelativeValueObservation.numeric
  split
  · exact onlyRaises_error rfl
  · exact onlyRaises_ok _

omit [Platform] in
theorem checkLiquidity_raises (item : RelativeValueObservation F)
    (cfg : RelativeValueSettings F) : OnlyRaises (·.isValueError) (checkLiquidity item cfg) := by
  have hread := item.numeric_raises
  unfold checkLiquidity
  refine (hread _).bind fun _ _ => .ite (onlyRaises_error rfl) ?_
  refine (hread _).bind fun _ _ => .ite (onlyRaises_error rfl) ?_
  refine (hread _).bind fun _ _ => .ite (onlyRaises_error rfl) ?_
  exact (hread _).bind fun _ _ => .ite (onlyRaises_error rfl) (onlyRaises_ok _)

/-- Whatever keeps a member out is a `ValueError`. -/
theorem candidate_raises : OnlyRaises (·.isValueError)
    (engine.candidate call opening instrument item) := by
  unfold SectorRelativeValue.candidate
  refine .ite (onlyRaises_error rfl) (.ite (onlyRaises_error rfl)
    (.ite (onlyRaises_error rfl) ?_))
  split
  · exact onlyRaises_error rfl
  · refine (checkLiquidity_raises item engine.settings).bind fun _ _ => ?_
    refine OnlyRaises.bind ?_ fun strength _ => ?_
    · unfold residualStrength
      exact (item.numeric_raises _).bind fun _ _ => (item.numeric_raises _).bind fun _ _ =>
        onlyRaises_ok _
    · refine (estimateBeta_raises _ _ _ _ _ _).bind fun beta _ => ?_
      unfold RankedSecurity.validate
      exact .ite (onlyRaises_error rfl) (onlyRaises_ok _)

/-- What holds of a candidate and the instrument it is of. -/
structure Admitted (engine : SectorRelativeValue F) (call : RelativeValueCall F)
    (instrument : Instrument) (security : RankedSecurity F) : Prop where
  eligible : instrument.Eligible (engine.day call)
  unreserved : securityId instrument ∉ call.reserved
  instrumentId : security.instrumentId = instrument.token
  sector : security.sector = instrument.sector
  beta_range : engine.settings.minBeta ≤ security.beta.beta ∧
    security.beta.beta ≤ engine.settings.maxBeta
  trained : security.beta.trainingEnd < call.now

theorem admitted_of_candidate {security : RankedSecurity F}
    (h : engine.candidate call opening instrument item = .ok security) :
    Admitted engine call instrument security := by
  unfold SectorRelativeValue.candidate at h
  obtain ⟨heligible, h⟩ := guard_ok h
  obtain ⟨hreserved, h⟩ := guard_ok h
  obtain ⟨-, h⟩ := guard_ok h
  split at h
  · cases h
  · obtain ⟨-, -, h⟩ := bind_ok h
    obtain ⟨strength, -, h⟩ := bind_ok h
    obtain ⟨beta, hbeta, h⟩ := bind_ok h
    unfold RankedSecurity.validate at h
    obtain ⟨-, h⟩ := guard_ok h
    obtain rfl := Except.ok.inj h
    obtain ⟨hrange, hend⟩ := estimateBeta_ok hbeta
    refine ⟨not_not.mp heligible, fun h => hreserved (List.contains_iff_mem.mpr h), rfl, rfl,
      hrange, ?_⟩
    show beta.trainingEnd < call.now
    rw [hend]
    exact sub_lt_self _ (by decide)

/-- What the gate on the cross-section lets through. -/
structure Unambiguous (call : RelativeValueCall F) : Prop where
  /-- The master has one instrument for each token and each security. -/
  tokens : (call.master.instruments.map (·.token)).Nodup
  securities : (call.master.instruments.map securityId).Nodup
  /-- There is one observation for each instrument, and the master has its instrument. -/
  observed : (call.selected.map (·.current.snapshot.entity)).Nodup
  found : ∀ item ∈ call.selected, ∃ instrument ∈ call.master.instruments,
    instrument.token = item.current.snapshot.entity

theorem unambiguous_of_gate {day : Date} (h : ¬ call.ambiguous day) : Unambiguous call := by
  unfold RelativeValueCall.ambiguous at h
  push Not at h
  obtain ⟨-, -, -, -, -, hsize, hsecurities, hlong, -, ⟨hsub, hsup⟩, hlength, hkeys⟩ := h
  have htokens : (call.master.instruments.map (·.token)).Nodup :=
    (Dict.size_index_eq_length_iff _ _).mp hsize
  refine ⟨htokens, hsecurities, ?_, ?_⟩
  · have hperm : (call.selected.map (·.current.snapshot.entity)).dedup.Perm
        call.universeSnapshot.longTokens.dedup := by
      rw [List.perm_ext_iff_of_nodup (List.nodup_dedup _) (List.nodup_dedup _)]
      intro token
      rw [List.mem_dedup, List.mem_dedup]
      exact ⟨fun h => hsub h, fun h => hsup h⟩
    rw [← Dict.length_dedup_eq_iff, hperm.length_eq, List.length_map, hlength]
  · intro item hitem
    have hkey := hkeys (hsub (List.mem_map_of_mem hitem))
    exact (Dict.mem_keys_index _ _ _).mp hkey

/-- The master's instrument for a token it has. -/
theorem instrument_eq (h : Unambiguous call) {instrument : Instrument}
    (hmem : instrument ∈ call.master.instruments) :
    call.instrument instrument.token = .ok instrument := by
  have hfound : call.master.byToken.get? instrument.token = some instrument :=
    (Dict.get?_index_of_nodup h.tokens).mpr ⟨hmem, rfl⟩
  rw [RelativeValueCall.instrument, hfound]

/-- What the loop over the members leaves: candidates, each with its instrument. -/
structure Candidates (engine : SectorRelativeValue F) (call : RelativeValueCall F)
    (candidates : List (RankedSecurity F)) : Prop where
  admitted : ∀ c ∈ candidates, ∃ instrument ∈ call.master.instruments,
    Admitted engine call instrument c
  distinct : (candidates.map (·.instrumentId)).Nodup

variable (engine) in
/-- The loop over the members returns. -/
theorem members_ok (h : Unambiguous call) (opening : Instant) :
    ∃ members, call.selected.mapM (engine.member call opening) = .ok members ∧
      Candidates engine call (members.filterMap Sum.getLeft?) := by
  have hmember : ∀ item ∈ call.selected, ∃ turn, engine.member call opening item = .ok turn ∧
      ∀ c, turn = .inl c → c.instrumentId = item.current.snapshot.entity ∧
        ∃ instrument ∈ call.master.instruments, Admitted engine call instrument c := by
    intro item hitem
    obtain ⟨instrument, hinstrument, htoken⟩ := h.found item hitem
    have hfound := instrument_eq h hinstrument
    rw [htoken] at hfound
    cases hcandidate : engine.candidate call opening instrument item with
    | error e =>
      refine ⟨.inr ⟨instrument.token, [e.text]⟩, ?_, by rintro c ⟨⟩⟩
      have hvalue : e.isValueError = true := candidate_raises e hcandidate
      simp [SectorRelativeValue.member, hfound, hcandidate, hvalue, bind, Except.bind]
    | ok security =>
      have hadmitted := admitted_of_candidate hcandidate
      refine ⟨.inl security, ?_, ?_⟩
      · simp [SectorRelativeValue.member, hfound, hcandidate, bind, Except.bind]
      · rintro c ⟨⟩
        exact ⟨hadmitted.instrumentId.trans htoken, instrument, hinstrument, hadmitted⟩
  obtain ⟨members, hmembers, hrelated⟩ := exists_mapM hmember
  refine ⟨members, hmembers, ?_, ?_⟩
  · intro c hc
    obtain ⟨turn, hturn, hleft⟩ := List.mem_filterMap.mp hc
    obtain ⟨item, -, hitem⟩ := exists_left_of_related hrelated hturn
    cases turn with
    | inl security =>
      obtain rfl := Option.some.inj hleft
      exact (hitem _ rfl).2
    | inr report => cases hleft
  · refine List.Sublist.nodup ?_ h.observed
    refine filterMap_sublist hrelated ?_
    intro item turn c hturn hleft
    cases turn with
    | inl security =>
      obtain rfl := Option.some.inj hleft
      exact (hturn _ rfl).1
    | inr report => cases hleft

end Members

section Baskets

variable [Platform] {engine : SectorRelativeValue ℚ} {call : RelativeValueCall ℚ}

omit [Platform] in
theorem sum_exact (xs : List ℚ) : PyFloat.sum xs = xs.sum := List.sum_eq_foldl.symm

/-- A member of a sector with its percentile and its instrument. -/
structure RankedMember (engine : SectorRelativeValue ℚ) (call : RelativeValueCall ℚ)
    (sector : String) (x : Instrument × RankedSecurity ℚ) : Prop where
  listed : x.1 ∈ call.master.instruments
  admitted : Admitted engine call x.1 x.2
  sector : x.2.sector = sector
  percentile : 0 ≤ x.2.percentile ∧ x.2.percentile ≤ 1

/-- The candidates of a sector. -/
def groupOf (candidates : List (RankedSecurity ℚ)) (sector : String) : List (RankedSecurity ℚ) :=
  candidates.filter fun c => decide (c.sector = sector)

/-- Ranking the members of a sector returns each with its instrument, no security twice. -/
theorem ranked_ok (hcall : Unambiguous call) {candidates : List (RankedSecurity ℚ)}
    (h : Candidates engine call candidates) {sector : String}
    (hne : groupOf candidates sector ≠ []) :
    ∃ ranked, SectorRelativeValue.ranked call (groupOf candidates sector) = .ok ranked ∧
      (∀ x ∈ ranked, RankedMember engine call sector x) ∧
      ranked.map (·.2.instrumentId) = (groupOf candidates sector).map (·.instrumentId) := by
  have hranks : percentiles ((groupOf candidates sector).map (·.strength)) =
      .ok (((groupOf candidates sector).map (·.strength)).map
        (percentileIn ((groupOf candidates sector).map (·.strength)))) :=
    percentiles_rat (by simpa using hne)
  have hstep : ∀ pair ∈ (groupOf candidates sector).zip
      (((groupOf candidates sector).map (·.strength)).map
        (percentileIn ((groupOf candidates sector).map (·.strength)))),
      ∃ x, (do
          let instrument ← call.instrument pair.1.instrumentId
          Except.ok (instrument, { pair.1 with percentile := pair.2 })) = Except.ok x ∧
        (RankedMember engine call sector x ∧ x.2.instrumentId = pair.1.instrumentId) := by
    intro pair hpair
    obtain ⟨hgroup, hrank⟩ := List.of_mem_zip hpair
    obtain ⟨hmem, hsector⟩ := List.mem_filter.mp hgroup
    obtain ⟨instrument, hlisted, hadmitted⟩ := h.admitted pair.1 hmem
    obtain ⟨strength, -, hpercentile⟩ := List.mem_map.mp hrank
    refine ⟨(instrument, { pair.1 with percentile := pair.2 }), ?_, ?_, rfl⟩
    · rw [hadmitted.instrumentId, instrument_eq hcall hlisted]
      rfl
    · refine ⟨hlisted, ⟨hadmitted.eligible, hadmitted.unreserved, hadmitted.instrumentId,
        hadmitted.sector, hadmitted.beta_range, hadmitted.trained⟩, of_decide_eq_true hsector, ?_⟩
      rw [← hpercentile]
      exact percentileIn_range _ strength
  obtain ⟨ranked, hranked, hrelated⟩ := exists_mapM hstep
  refine ⟨ranked, ?_, ?_, ?_⟩
  · rw [SectorRelativeValue.ranked, hranks]
    exact hranked
  · intro x hx
    obtain ⟨pair, -, hpair⟩ := exists_left_of_related hrelated hx
    exact hpair.1
  · rw [map_eq_of_related hrelated fun _ _ hpair => hpair.2]
    have hfst : ((groupOf candidates sector).zip
        (((groupOf candidates sector).map (·.strength)).map
          (percentileIn ((groupOf candidates sector).map (·.strength))))).map Prod.fst =
        groupOf candidates sector := List.map_fst_zip (by simp)
    have hids := congrArg (List.map (·.instrumentId)) hfst
    rwa [List.map_map] at hids

/-- Members with distinct instruments are of distinct securities. -/
theorem securities_nodup (hcall : Unambiguous call) {sector : String}
    {members : List (Instrument × RankedSecurity ℚ)}
    (hmembers : ∀ x ∈ members, RankedMember engine call sector x)
    (hdistinct : (members.map (·.2.instrumentId)).Nodup) :
    (members.map fun x => securityId x.1).Nodup := by
  refine List.Nodup.map_on ?_ hdistinct.of_map
  intro x hx y hy heq
  have hinstrument : x.1 = y.1 := List.inj_on_of_nodup_map hcall.securities
    (hmembers x hx).listed (hmembers y hy).listed heq
  refine List.inj_on_of_nodup_map hdistinct hx hy ?_
  show x.2.instrumentId = y.2.instrumentId
  rw [(hmembers x hx).admitted.instrumentId, (hmembers y hy).admitted.instrumentId, hinstrument]

/-- The two sides of a basket. -/
structure Sides (engine : SectorRelativeValue ℚ) (call : RelativeValueCall ℚ) (sector : String)
    (leaders laggards : List (Instrument × RankedSecurity ℚ)) : Prop where
  members : ∀ x ∈ leaders ++ laggards, RankedMember engine call sector x
  lengths : leaders.length = engine.membersPerSide ∧ laggards.length = engine.membersPerSide
  distinct : ((leaders ++ laggards).map fun x => securityId x.1).Nodup
  gap : ∀ x ∈ leaders, ∀ y ∈ laggards,
    engine.settings.minResidualGap ≤ x.2.strength - y.2.strength
  high : ∀ x ∈ leaders, 1 - engine.settings.tailFraction ≤ x.2.percentile
  low : ∀ x ∈ laggards, x.2.percentile ≤ engine.settings.tailFraction
  route : ∀ x ∈ laggards, x.2.instrumentId ∈ call.universeSnapshot.shortTokens ∧
    x.1.foEligible = true

omit [Platform] in
theorem RelativeValueSettings.gap_pos (cfg : RelativeValueSettings ℚ) : 0 < cfg.minResidualGap :=
  cfg.positive _ (by simp)

/-- Tails that are not insufficient are the sides of a basket. -/
theorem sides_of_sufficient (hcall : Unambiguous call) {sector : String}
    {ranked : List (Instrument × RankedSecurity ℚ)}
    (hmembers : ∀ x ∈ ranked, RankedMember engine call sector x)
    (hdistinct : (ranked.map (·.2.instrumentId)).Nodup)
    (h : ¬ engine.insufficient (engine.leaders ranked) (engine.laggards call ranked)) :
    Sides engine call sector (engine.leaders ranked) (engine.laggards call ranked) := by
  have hleader : ∀ x ∈ engine.leaders ranked, x ∈ ranked ∧
      1 - engine.settings.tailFraction ≤ x.2.percentile := by
    intro x hx
    have hfilter := mem_sortOn.mp (List.mem_of_mem_take hx)
    obtain ⟨hmem, htail⟩ := List.mem_filter.mp hfilter
    exact ⟨hmem, of_decide_eq_true htail⟩
  have hlaggard : ∀ x ∈ engine.laggards call ranked, x ∈ ranked ∧
      x.2.percentile ≤ engine.settings.tailFraction ∧
      x.2.instrumentId ∈ call.universeSnapshot.shortTokens ∧ x.1.foEligible = true := by
    intro x hx
    have hfilter := mem_sortOn.mp (List.mem_of_mem_take hx)
    obtain ⟨hmem, htail⟩ := List.mem_filter.mp hfilter
    exact ⟨hmem, of_decide_eq_true htail⟩
  unfold SectorRelativeValue.insufficient at h
  push Not at h
  obtain ⟨hlong, hshort, hgap⟩ := h
  have hapart : ∀ x ∈ engine.leaders ranked, ∀ y ∈ engine.laggards call ranked,
      engine.settings.minResidualGap ≤ x.2.strength - y.2.strength := by
    intro x hx y hy
    obtain ⟨lowest, hlowest⟩ := Option.ne_none_iff_exists'.mp (mt List.min?_eq_none_iff.mp
      (List.ne_nil_of_mem (List.mem_map_of_mem (f := fun c => c.2.strength) hx)))
    obtain ⟨highest, hhighest⟩ := Option.ne_none_iff_exists'.mp (mt List.max?_eq_none_iff.mp
      (List.ne_nil_of_mem (List.mem_map_of_mem (f := fun c => c.2.strength) hy)))
    have hbound := hgap lowest hlowest highest hhighest
    have hx' := (List.min?_eq_some_iff.mp hlowest).2 _
      (List.mem_map_of_mem (f := fun c => c.2.strength) hx)
    have hy' := (List.max?_eq_some_iff.mp hhighest).2 _
      (List.mem_map_of_mem (f := fun c => c.2.strength) hy)
    exact le_trans hbound (sub_le_sub hx' hy')
  have hnodup := securities_nodup hcall hmembers hdistinct
  have htail : ∀ {κ : Type} [LinearOrder κ] (key : Instrument × RankedSecurity ℚ → κ)
      (p : Instrument × RankedSecurity ℚ → Bool) (n : ℕ),
      (((sortOn key (ranked.filter p)).take n).map fun x => securityId x.1).Nodup := by
    intro κ _ key p n
    refine List.Sublist.nodup ((List.take_sublist n _).map _) ?_
    rw [((sortOn_perm key (ranked.filter p)).map _).nodup_iff]
    exact List.Sublist.nodup (List.filter_sublist.map _) hnodup
  refine ⟨?_, ⟨hlong, hshort⟩, ?_, hapart, fun x hx => (hleader x hx).2,
    fun x hx => (hlaggard x hx).2.1, fun x hx => (hlaggard x hx).2.2⟩
  · intro x hx
    rcases List.mem_append.mp hx with hx | hx
    · exact hmembers x (hleader x hx).1
    · exact hmembers x (hlaggard x hx).1
  · rw [List.map_append, List.nodup_append]
    refine ⟨htail _ _ _, htail _ _ _, ?_⟩
    intro id hid id' hid' heq
    obtain ⟨x, hx, rfl⟩ := List.mem_map.mp hid
    obtain ⟨y, hy, rfl⟩ := List.mem_map.mp hid'
    -- a security on both sides would be away from itself
    have hsame := List.inj_on_of_nodup_map hnodup (hleader x hx).1 (hlaggard y hy).1 heq
    have hbound := hapart x hx y hy
    rw [hsame, sub_self] at hbound
    exact absurd engine.settings.gap_pos (not_lt.mpr hbound)

/-- The leg of a member. -/
structure LegOf (sector : String) (side : Side) (gross : ℚ) (x : Instrument × RankedSecurity ℚ)
    (leg : RelativeValueLeg ℚ) : Prop where
  entityId : leg.entityId = securityId x.1
  instrumentId : leg.instrumentId = x.2.instrumentId
  sector : leg.sector = sector
  side : leg.side = side
  gross : leg.grossFraction = gross
  strength : leg.residualStrength = x.2.strength
  percentile : leg.percentile = x.2.percentile
  beta : leg.beta = x.2.beta

/-- The legs of one side. -/
structure LegsOf (engine : SectorRelativeValue ℚ) (sector : String) (side : Side) (weight : ℚ)
    (members : List (Instrument × RankedSecurity ℚ)) (legs : List (RelativeValueLeg ℚ)) : Prop where
  related : List.Forall₂ (LegOf sector side (weight / (engine.membersPerSide : ℚ))) members legs
  length : members.length = engine.membersPerSide

omit [Platform] in
theorem membersPerSide_pos (engine : SectorRelativeValue ℚ) : 0 < engine.membersPerSide := by
  unfold SectorRelativeValue.membersPerSide
  split
  · exact Nat.one_pos
  · exact engine.settings.members_range.1

theorem legsOn_ok (sector : String) (side : Side) {weight : ℚ}
    (hweight : 0 < weight ∧ weight < 1) {members : List (Instrument × RankedSecurity ℚ)}
    (hmembers : ∀ x ∈ members, RankedMember engine call sector x)
    (hlength : members.length = engine.membersPerSide) :
    ∃ legs, engine.legsOn sector side weight members = .ok legs ∧
      LegsOf engine sector side weight members legs := by
  have hpos : (0 : ℚ) < (engine.membersPerSide : ℚ) := by exact_mod_cast membersPerSide_pos engine
  have hone : (1 : ℚ) ≤ (engine.membersPerSide : ℚ) := by
    exact_mod_cast membersPerSide_pos engine
  have hgross : 0 < weight / (engine.membersPerSide : ℚ) ∧
      weight / (engine.membersPerSide : ℚ) < 1 := by
    refine ⟨div_pos hweight.1 hpos, ?_⟩
    rw [div_lt_one hpos]
    exact lt_of_lt_of_le hweight.2 hone
  have hleg : ∀ x ∈ members, ∃ leg, RelativeValueLeg.validate x.1 x.2 sector side
      (weight / PyFloat.ofInt engine.membersPerSide) = .ok leg ∧
        LegOf sector side (weight / (engine.membersPerSide : ℚ)) x leg := by
    intro x hx
    unfold RelativeValueLeg.validate
    rw [if_neg (by simp), ofInt_rat, Int.cast_natCast, dif_pos hgross,
      dif_pos (hmembers x hx).percentile]
    exact ⟨_, rfl, ⟨rfl, rfl, rfl, rfl, rfl, rfl, rfl, rfl⟩⟩
  obtain ⟨legs, hlegs, hrelated⟩ := exists_mapM hleg
  exact ⟨legs, hlegs, hrelated, hlength⟩

section Sums

variable {sector : String} {side : Side} {weight : ℚ}
  {members : List (Instrument × RankedSecurity ℚ)} {legs : List (RelativeValueLeg ℚ)}

theorem LegsOf.side_eq (h : LegsOf engine sector side weight members legs) :
    ∀ leg ∈ legs, leg.side = side := by
  intro leg hleg
  obtain ⟨x, -, hx⟩ := exists_left_of_related h.related hleg
  exact hx.side

theorem LegsOf.even (h : LegsOf engine sector side weight members legs) :
    ∀ leg ∈ legs, leg.grossFraction = weight / (engine.membersPerSide : ℚ) := by
  intro leg hleg
  obtain ⟨x, -, hx⟩ := exists_left_of_related h.related hleg
  exact hx.gross

/-- The gross fractions of a side add up to its weight. -/
theorem LegsOf.gross (h : LegsOf engine sector side weight members legs) :
    (legs.map (·.grossFraction)).sum = weight := by
  have hpos : (engine.membersPerSide : ℚ) ≠ 0 := by
    exact_mod_cast (membersPerSide_pos engine).ne'
  have hmap : legs.map (·.grossFraction) =
      members.map fun _ => weight / (engine.membersPerSide : ℚ) :=
    map_eq_of_related h.related fun _ _ hx => hx.gross
  rw [hmap, List.map_const', List.sum_replicate, h.length, nsmul_eq_mul]
  field_simp

/-- The beta of a side is its weight at the mean of its members' betas. -/
theorem LegsOf.beta (h : LegsOf engine sector side weight members legs) :
    (legs.map fun x => x.grossFraction * x.beta.beta).sum =
      weight * SectorRelativeValue.meanBeta members := by
  have hmap : (legs.map fun x => x.grossFraction * x.beta.beta) =
      members.map fun x => weight / (engine.membersPerSide : ℚ) * x.2.beta.beta :=
    map_eq_of_related h.related fun _ _ hx => by rw [hx.gross, hx.beta]
  rw [hmap, List.sum_map_mul_left, SectorRelativeValue.meanBeta, PyFloat.fmean, fsum_rat,
    List.length_map, h.length, ofInt_rat, Int.cast_natCast]
  ring

/-- A sum over one side that counts its sign. -/
theorem LegsOf.signed (h : LegsOf engine sector side weight members legs)
    (f : RelativeValueLeg ℚ → ℚ) :
    (legs.map fun x => f x * sideSign x.side).sum = sideSign side * (legs.map f).sum := by
  have hmap : (legs.map fun x => f x * sideSign x.side) =
      legs.map fun x => sideSign side * f x := by
    refine List.map_congr_left fun x hx => ?_
    rw [h.side_eq x hx, mul_comm]
  rw [hmap, List.sum_map_mul_left]

/-- The mean of a side's percentiles. -/
theorem LegsOf.percentile (h : LegsOf engine sector side weight members legs) :
    legs.map (·.percentile) = members.map (·.2.percentile) ∧
      legs.length = engine.membersPerSide := by
  refine ⟨map_eq_of_related h.related fun _ _ hx => hx.percentile, ?_⟩
  rw [← h.related.length_eq, h.length]

end Sums

end Baskets

section Weights

variable {longBeta shortBeta longWeight shortWeight : ℚ} {cfg : RelativeValueSettings ℚ}

theorem neutralWeights_raises {F : Type} [PyFloat F] (longBeta shortBeta : F)
    (cfg : RelativeValueSettings F) :
    OnlyRaises (·.isValueError) (neutralWeights longBeta shortBeta cfg) := by
  unfold neutralWeights
  refine .ite (onlyRaises_error rfl) (.ite (onlyRaises_error rfl) ?_)
  exact .ite (onlyRaises_error rfl) (onlyRaises_ok _)

/-- What the weights of two positive betas satisfy. -/
structure NeutralWeights (cfg : RelativeValueSettings ℚ)
    (longBeta shortBeta longWeight shortWeight : ℚ) : Prop where
  long_range : 0 < longWeight ∧ longWeight < 1
  short_range : 0 < shortWeight ∧ shortWeight < 1
  unit : longWeight + shortWeight = 1
  neutral : longWeight * longBeta = shortWeight * shortBeta
  net : |longWeight - shortWeight| ≤ cfg.maxNetGross + 1 / 10 ^ 12

theorem abs_exact (x : ℚ) : PyFloat.abs x = |x| := rfl

theorem neutralWeights_ok (hlong : 0 < longBeta) (hshort : 0 < shortBeta)
    (h : neutralWeights longBeta shortBeta cfg = .ok (longWeight, shortWeight)) :
    NeutralWeights cfg longBeta shortBeta longWeight shortWeight := by
  unfold neutralWeights at h
  obtain ⟨-, h⟩ := guard_ok h
  obtain ⟨hnet, h⟩ := guard_ok h
  obtain ⟨-, h⟩ := guard_ok h
  obtain ⟨hlongWeight, hshortWeight⟩ := Prod.mk.inj (Except.ok.inj h)
  rw [hlongWeight] at hshortWeight hnet
  rw [hshortWeight, ofDecimal_rat, abs_exact, not_lt] at hnet
  rw [PyFloat.ofNat_eq, ofInt_rat, Nat.cast_one, Int.cast_one] at hshortWeight
  have hsum : 0 < longBeta + shortBeta := add_pos hlong hshort
  have hweight : 0 < longWeight ∧ longWeight < 1 := by
    rw [← hlongWeight, div_lt_one hsum]
    exact ⟨div_pos hshort hsum, by linarith⟩
  refine ⟨hweight, ⟨by linarith [hweight.2], by linarith [hweight.1]⟩, by linarith, ?_, hnet⟩
  have hproduct : longWeight * (longBeta + shortBeta) = shortBeta := by
    rw [← hlongWeight, div_mul_cancel₀ _ hsum.ne']
  rw [← hshortWeight]
  linarith

end Weights

section Coherence

variable [Platform] {engine : SectorRelativeValue ℚ} {call : RelativeValueCall ℚ}
  {sector : String} {leaders laggards : List (Instrument × RankedSecurity ℚ)}
  {longWeight shortWeight : ℚ} {longs shorts : List (RelativeValueLeg ℚ)}

omit [Platform] in
theorem mean_bounds (xs : List ℚ) {n : ℕ} (hn : 0 < n) (hlength : xs.length = n) (low high : ℚ)
    (h : ∀ x ∈ xs, low ≤ x ∧ x ≤ high) :
    low ≤ xs.sum / (n : ℚ) ∧ xs.sum / (n : ℚ) ≤ high := by
  have hpos : (0 : ℚ) < (n : ℚ) := by exact_mod_cast hn
  have hlow := List.card_nsmul_le_sum xs low fun x hx => (h x hx).1
  have hhigh := List.sum_le_card_nsmul xs high fun x hx => (h x hx).2
  rw [hlength, nsmul_eq_mul] at hlow hhigh
  rw [le_div_iff₀ hpos, div_le_iff₀ hpos]
  exact ⟨by linarith, by linarith⟩

/-- The legs of the two sides, told apart. -/
theorem on_sides (hlongs : LegsOf engine sector .long longWeight leaders longs)
    (hshorts : LegsOf engine sector .short shortWeight laggards shorts) :
    (longs ++ shorts).filter (fun x => x.side = .long) = longs ∧
      (longs ++ shorts).filter (fun x => x.side = .short) = shorts := by
  have hlong := hlongs.side_eq
  have hshort := hshorts.side_eq
  rw [List.filter_append, List.filter_append]
  refine ⟨?_, ?_⟩
  · rw [List.filter_eq_self.mpr fun x hx => by simp [hlong x hx],
      List.filter_eq_nil_iff.mpr fun x hx => by simp [hshort x hx], List.append_nil]
  · rw [List.filter_eq_nil_iff.mpr fun x hx => by simp [hlong x hx],
      List.filter_eq_self.mpr fun x hx => by simp [hshort x hx], List.nil_append]

/-- The legs of a basket. -/
structure Legs (engine : SectorRelativeValue ℚ) (sector : String)
    (leaders laggards : List (Instrument × RankedSecurity ℚ)) (longWeight shortWeight : ℚ)
    (fields : RelativeValueFields ℚ) (longs shorts : List (RelativeValueLeg ℚ)) : Prop where
  legs : fields.legs = longs ++ shorts
  longs : LegsOf engine sector .long longWeight leaders longs
  shorts : LegsOf engine sector .short shortWeight laggards shorts

namespace Legs

variable {fields : RelativeValueFields ℚ}

theorem on_long (h : Legs engine sector leaders laggards longWeight shortWeight fields longs
    shorts) : fields.on .long = longs := by
  rw [RelativeValueFields.on, h.legs]
  exact (on_sides h.longs h.shorts).1

theorem on_short (h : Legs engine sector leaders laggards longWeight shortWeight fields longs
    shorts) : fields.on .short = shorts := by
  rw [RelativeValueFields.on, h.legs]
  exact (on_sides h.longs h.shorts).2

theorem grossOn_long (h : Legs engine sector leaders laggards longWeight shortWeight fields longs
    shorts) : fields.grossOn .long = longWeight := by
  rw [RelativeValueFields.grossOn, h.on_long, sum_exact, h.longs.gross]

theorem grossOn_short (h : Legs engine sector leaders laggards longWeight shortWeight fields
    longs shorts) : fields.grossOn .short = shortWeight := by
  rw [RelativeValueFields.grossOn, h.on_short, sum_exact, h.shorts.gross]

theorem betaOn_long (h : Legs engine sector leaders laggards longWeight shortWeight fields longs
    shorts) : fields.betaOn .long = longWeight * SectorRelativeValue.meanBeta leaders := by
  rw [RelativeValueFields.betaOn, h.on_long, sum_exact, h.longs.beta]

theorem betaOn_short (h : Legs engine sector leaders laggards longWeight shortWeight fields longs
    shorts) : fields.betaOn .short = shortWeight * SectorRelativeValue.meanBeta laggards := by
  rw [RelativeValueFields.betaOn, h.on_short, sum_exact, h.shorts.beta]

/-- The gross of all legs. -/
theorem total (h : Legs engine sector leaders laggards longWeight shortWeight fields longs
    shorts) : PyFloat.sum (fields.legs.map (·.grossFraction)) = longWeight + shortWeight := by
  rw [sum_exact, h.legs, List.map_append, List.sum_append, h.longs.gross, h.shorts.gross]

/-- What the sides add to a sum that counts their signs. -/
theorem signed (h : Legs engine sector leaders laggards longWeight shortWeight fields longs
    shorts) (f : RelativeValueLeg ℚ → ℚ) :
    PyFloat.sum (fields.legs.map fun x => f x * sideSign x.side) =
      (longs.map f).sum - (shorts.map f).sum := by
  have hlong : (sideSign .long : ℚ) = 1 := by rw [sideSign, PyFloat.ofNat_eq, ofInt_rat]
  have hshort : (sideSign .short : ℚ) = -1 := by rw [sideSign, PyFloat.ofNat_eq, ofInt_rat]
  rw [sum_exact, h.legs, List.map_append, List.sum_append, h.longs.signed f, h.shorts.signed f,
    hlong, hshort]
  ring

theorem net (h : Legs engine sector leaders laggards longWeight shortWeight fields longs
    shorts) : fields.net = longWeight - shortWeight := by
  rw [RelativeValueFields.net, h.signed (·.grossFraction), h.longs.gross, h.shorts.gross]

theorem netBeta (h : Legs engine sector leaders laggards longWeight shortWeight fields longs
    shorts) : fields.netBeta = longWeight * SectorRelativeValue.meanBeta leaders -
      shortWeight * SectorRelativeValue.meanBeta laggards := by
  rw [RelativeValueFields.netBeta, h.signed fun x => x.grossFraction * x.beta.beta, h.longs.beta,
    h.shorts.beta]

/-- Every leg is of a member of its side. -/
theorem member (h : Legs engine sector leaders laggards longWeight shortWeight fields longs shorts)
    {leg : RelativeValueLeg ℚ} (hleg : leg ∈ fields.legs) :
    (∃ x ∈ leaders, LegOf sector .long (longWeight / (engine.membersPerSide : ℚ)) x leg) ∨
      ∃ x ∈ laggards, LegOf sector .short (shortWeight / (engine.membersPerSide : ℚ)) x leg := by
  rw [h.legs, List.mem_append] at hleg
  rcases hleg with hleg | hleg
  · exact Or.inl (exists_left_of_related h.longs.related hleg)
  · exact Or.inr (exists_left_of_related h.shorts.related hleg)

end Legs

/-- What the exposure validator reads beside the legs. -/
structure Referenced (engine : SectorRelativeValue ℚ) (call : RelativeValueCall ℚ)
    (sector : String) (leaders laggards : List (Instrument × RankedSecurity ℚ))
    (longWeight shortWeight : ℚ) (fields : RelativeValueFields ℚ) : Prop where
  timestamp : fields.timestamp = call.now
  flatten : call.now < fields.riskReference.flattenBy
  sector : fields.sector = sector
  settings : fields.settings = engine.settings
  lag : fields.execution.maxLegLagSeconds = engine.settings.maxLegLagSeconds
  hedge : fields.hedgeRatio = shortWeight / longWeight
  net : fields.riskReference.signedNetGross = longWeight - shortWeight
  netBeta : fields.riskReference.signedBetaGross =
    longWeight * SectorRelativeValue.meanBeta leaders -
      shortWeight * SectorRelativeValue.meanBeta laggards
  longBeta : fields.riskReference.longBeta = SectorRelativeValue.meanBeta leaders
  shortBeta : fields.riskReference.shortBeta = SectorRelativeValue.meanBeta laggards

/-- The distance of the mean ranks of the two sides. -/
theorem score_range {fields : RelativeValueFields ℚ}
    (hsides : Sides engine call sector leaders laggards)
    (hlegs : Legs engine sector leaders laggards longWeight shortWeight fields longs shorts) :
    0 ≤ fields.score ∧ fields.score ≤ 1 := by
  have htail := engine.settings.tail_range
  have hpercentile : ∀ x ∈ leaders ++ laggards, 0 ≤ x.2.percentile ∧ x.2.percentile ≤ 1 :=
    fun x hx => (hsides.members x hx).percentile
  obtain ⟨hlongs, hlongCount⟩ := hlegs.longs.percentile
  obtain ⟨hshorts, hshortCount⟩ := hlegs.shorts.percentile
  have hlong := mean_bounds (leaders.map (·.2.percentile)) (membersPerSide_pos engine)
    (by rw [List.length_map, hsides.lengths.1]) (1 - engine.settings.tailFraction) 1 (by
      intro p hp
      obtain ⟨x, hx, rfl⟩ := List.mem_map.mp hp
      exact ⟨hsides.high x hx, (hpercentile x (List.mem_append_left _ hx)).2⟩)
  have hshort := mean_bounds (laggards.map (·.2.percentile)) (membersPerSide_pos engine)
    (by rw [List.length_map, hsides.lengths.2]) 0 engine.settings.tailFraction (by
      intro p hp
      obtain ⟨x, hx, rfl⟩ := List.mem_map.mp hp
      exact ⟨(hpercentile x (List.mem_append_right _ hx)).1, hsides.low x hx⟩)
  have hhalf : engine.settings.tailFraction < 1 / 2 := htail.2
  have hscore : fields.score =
      (leaders.map (·.2.percentile)).sum / (engine.membersPerSide : ℚ) -
        (laggards.map (·.2.percentile)).sum / (engine.membersPerSide : ℚ) := by
    rw [RelativeValueFields.score, hlegs.on_long, hlegs.on_short, hlongs, hshorts, sum_exact,
      sum_exact, hlongCount, hshortCount, ofInt_rat, Int.cast_natCast]
  rw [hscore]
  refine ⟨?_, ?_⟩
  · show (0 : ℚ) ≤ _
    linarith [hlong.1, hshort.2]
  · show _ ≤ (1 : ℚ)
    linarith [hlong.2, hshort.1]

/-- The exposure validator accepts a basket. -/
theorem coherent {fields : RelativeValueFields ℚ}
    (hsides : Sides engine call sector leaders laggards)
    (hweights : NeutralWeights engine.settings (SectorRelativeValue.meanBeta leaders)
      (SectorRelativeValue.meanBeta laggards) longWeight shortWeight)
    (hlegs : Legs engine sector leaders laggards longWeight shortWeight fields longs shorts)
    (href : Referenced engine call sector leaders laggards longWeight shortWeight fields) :
    fields.CoherentExposure := by
  have hpos := membersPerSide_pos engine
  have hlongCount := hlegs.longs.percentile.2
  have hshortCount := hlegs.shorts.percentile.2
  have hne : ∀ {legs : List (RelativeValueLeg ℚ)}, legs.length = engine.membersPerSide →
      legs ≠ [] := by
    rintro _ hlength rfl
    rw [← hlength] at hpos
    cases hpos
  refine ⟨?_, ?_, ?_, ?_, ?_, ?_, score_range hsides hlegs, ?_, ?_, ?_, ?_, ?_, ?_, ?_, ?_, ?_, ?_,
    ?_⟩
  · rw [hlegs.legs, List.length_append, hlongCount, hshortCount]
    omega
  · rw [href.hedge]
    exact div_pos hweights.short_range.1 hweights.long_range.1
  · rw [hlegs.on_long]
    exact hne hlongCount
  · rw [hlegs.on_short]
    exact hne hshortCount
  · have hids : fields.legs.map (·.entityId) =
        (leaders ++ laggards).map fun x => securityId x.1 := by
      rw [hlegs.legs, List.map_append, List.map_append,
        map_eq_of_related hlegs.longs.related fun _ _ hx => hx.entityId,
        map_eq_of_related hlegs.shorts.related fun _ _ hx => hx.entityId]
    rw [hids]
    exact hsides.distinct
  · intro side
    rw [href.settings]
    cases side with
    | long => rw [hlegs.on_long, hlongCount]; rfl
    | short => rw [hlegs.on_short, hshortCount]; rfl
  · left
    rw [hlegs.betaOn_long, hlegs.grossOn_long, href.longBeta]
    exact mul_div_cancel_left₀ _ hweights.long_range.1.ne'
  · left
    rw [hlegs.betaOn_short, hlegs.grossOn_short, href.shortBeta]
    exact mul_div_cancel_left₀ _ hweights.short_range.1.ne'
  · rw [href.lag, href.settings]
  · intro leg hleg
    have hmember : ∃ x ∈ leaders ++ laggards, leg.sector = sector ∧ leg.beta = x.2.beta := by
      rcases hlegs.member hleg with ⟨x, hx, hof⟩ | ⟨x, hx, hof⟩
      · exact ⟨x, List.mem_append_left _ hx, hof.sector, hof.beta⟩
      · exact ⟨x, List.mem_append_right _ hx, hof.sector, hof.beta⟩
    obtain ⟨x, hx, hsector, hbeta⟩ := hmember
    rw [hsector, href.sector, hbeta, href.timestamp]
    exact ⟨rfl, (hsides.members x hx).admitted.trained⟩
  · left
    rw [hlegs.total, hweights.unit]
  · left
    rw [hlegs.grossOn_long, hlegs.grossOn_short, href.hedge]
  · left
    rw [hlegs.net, href.net]
  · left
    rw [hlegs.netBeta, href.netBeta]
  · rw [hlegs.net, href.settings]
    exact hweights.net
  · rw [hlegs.netBeta, hweights.neutral, sub_self, href.settings, abs_exact, abs_zero, ofDecimal_rat]
    have hgross : (0 : ℚ) ≤ engine.settings.maxBetaGross := engine.settings.beta_range.1
    positivity
  · rw [href.timestamp]
    exact href.flatten

end Coherence

section Evaluation

variable [Platform] {engine : SectorRelativeValue ℚ} {call : RelativeValueCall ℚ}

/-- What holds of a basket that the engine returns. -/
structure SoundBasket (engine : SectorRelativeValue ℚ) (call : RelativeValueCall ℚ)
    (intent : RelativeValueIntent ℚ) : Prop where
  /-- Every leg is of an eligible instrument of the sector that no reservation holds, and a
      short one has a route. -/
  legs : ∀ leg ∈ intent.legs, ∃ instrument ∈ call.master.instruments,
    leg.entityId = securityId instrument ∧ leg.instrumentId = instrument.token ∧
      instrument.sector = intent.sector ∧ instrument.Eligible (engine.day call) ∧
      leg.entityId ∉ call.reserved ∧ leg.beta.trainingEnd < call.now ∧
      (leg.side = .short → instrument.token ∈ call.universeSnapshot.shortTokens ∧
        instrument.foEligible = true)
  /-- No security is on two legs. -/
  distinct : (intent.legs.map (·.entityId)).Nodup
  /-- Each side has its number of members, in equal parts. -/
  even : ∀ side, (intent.on side).length = engine.membersPerSide ∧
    ∀ leg ∈ intent.on side, leg.grossFraction = intent.grossOn side / (engine.membersPerSide : ℚ)
  /-- The gross is one. -/
  unit : intent.grossOn .long + intent.grossOn .short = 1
  /-- The betas of the sides cancel. -/
  neutral : intent.betaOn .long = intent.betaOn .short
  /-- The net is bounded. -/
  net : |intent.grossOn .long - intent.grossOn .short| ≤
    engine.settings.maxNetGross + 1 / 10 ^ 12
  /-- Every leader is ahead of every laggard. -/
  gap : ∀ long ∈ intent.on .long, ∀ short ∈ intent.on .short,
    engine.settings.minResidualGap ≤ long.residualStrength - short.residualStrength
  /-- The basket is of now, and there is time left to flatten it. -/
  timely : intent.timestamp = call.now ∧ call.now < intent.riskReference.flattenBy

variable {sector : String} {leaders laggards : List (Instrument × RankedSecurity ℚ)}
  {longWeight shortWeight : ℚ} {longs shorts : List (RelativeValueLeg ℚ)}

/-- A basket of two sides is sound. -/
theorem soundBasket (hsides : Sides engine call sector leaders laggards)
    (hweights : NeutralWeights engine.settings (SectorRelativeValue.meanBeta leaders)
      (SectorRelativeValue.meanBeta laggards) longWeight shortWeight)
    {intent : RelativeValueIntent ℚ}
    (hlegs : Legs engine sector leaders laggards longWeight shortWeight
      intent.toRelativeValueFields longs shorts)
    (href : Referenced engine call sector leaders laggards longWeight shortWeight
      intent.toRelativeValueFields) : SoundBasket engine call intent := by
  have hleg : ∀ {side : Side} {weight : ℚ} {x : Instrument × RankedSecurity ℚ}
      {leg : RelativeValueLeg ℚ}, x ∈ leaders ++ laggards → LegOf sector side weight x leg →
      (side = .short → x ∈ laggards) → ∃ instrument ∈ call.master.instruments,
        leg.entityId = securityId instrument ∧ leg.instrumentId = instrument.token ∧
          instrument.sector = intent.sector ∧ instrument.Eligible (engine.day call) ∧
          leg.entityId ∉ call.reserved ∧ leg.beta.trainingEnd < call.now ∧
          (leg.side = .short → instrument.token ∈ call.universeSnapshot.shortTokens ∧
            instrument.foEligible = true) := by
    intro side weight x leg hx hof hshort
    have hmember := hsides.members x hx
    refine ⟨x.1, hmember.listed, hof.entityId, ?_, ?_, hmember.admitted.eligible, ?_, ?_, ?_⟩
    · rw [hof.instrumentId, hmember.admitted.instrumentId]
    · rw [href.sector, ← hmember.admitted.sector, hmember.sector]
    · rw [hof.entityId]
      exact hmember.admitted.unreserved
    · rw [hof.beta]
      exact hmember.admitted.trained
    · intro hside
      rw [hof.side] at hside
      have hroute := hsides.route x (hshort hside)
      rwa [hmember.admitted.instrumentId] at hroute
  constructor
  · intro leg hmem
    rcases hlegs.member hmem with ⟨x, hx, hof⟩ | ⟨x, hx, hof⟩
    · exact hleg (List.mem_append_left _ hx) hof (by rintro ⟨⟩)
    · exact hleg (List.mem_append_right _ hx) hof fun _ => hx
  · exact intent.coherent_exposure.2.2.2.2.1
  · intro side
    cases side with
    | long =>
      rw [hlegs.on_long, hlegs.grossOn_long]
      exact ⟨hlegs.longs.percentile.2, hlegs.longs.even⟩
    | short =>
      rw [hlegs.on_short, hlegs.grossOn_short]
      exact ⟨hlegs.shorts.percentile.2, hlegs.shorts.even⟩
  · rw [hlegs.grossOn_long, hlegs.grossOn_short, hweights.unit]
  · rw [hlegs.betaOn_long, hlegs.betaOn_short, hweights.neutral]
  · rw [hlegs.grossOn_long, hlegs.grossOn_short]
    exact hweights.net
  · intro long hlong short hshort
    rw [hlegs.on_long] at hlong
    rw [hlegs.on_short] at hshort
    obtain ⟨x, hx, hxof⟩ := exists_left_of_related hlegs.longs.related hlong
    obtain ⟨y, hy, hyof⟩ := exists_left_of_related hlegs.shorts.related hshort
    rw [hxof.strength, hyof.strength]
    exact hsides.gap x hx y hy
  · exact ⟨href.timestamp, href.flatten⟩

/-- The betas of members are positive on the mean. -/
theorem meanBeta_pos {members : List (Instrument × RankedSecurity ℚ)}
    (hmembers : ∀ x ∈ members, RankedMember engine call sector x)
    (hlength : members.length = engine.membersPerSide) :
    0 < SectorRelativeValue.meanBeta members := by
  have hmin : 0 < engine.settings.minBeta := engine.settings.positive _ (by simp)
  have hbounds := mean_bounds (members.map (·.2.beta.beta)) (membersPerSide_pos engine)
    (by rw [List.length_map, hlength]) engine.settings.minBeta engine.settings.maxBeta (by
      intro b hb
      obtain ⟨x, hx, rfl⟩ := List.mem_map.mp hb
      exact (hmembers x hx).admitted.beta_range)
  rw [SectorRelativeValue.meanBeta, PyFloat.fmean, fsum_rat, List.length_map, hlength, ofInt_rat,
    Int.cast_natCast]
  exact lt_of_lt_of_le hmin hbounds.1

theorem Sides.betas_pos (hsides : Sides engine call sector leaders laggards) :
    0 < SectorRelativeValue.meanBeta leaders ∧ 0 < SectorRelativeValue.meanBeta laggards :=
  ⟨meanBeta_pos (fun x hx => hsides.members x (List.mem_append_left _ hx)) hsides.lengths.1,
    meanBeta_pos (fun x hx => hsides.members x (List.mem_append_right _ hx)) hsides.lengths.2⟩

/-- The risk reference of two positive betas. -/
theorem riskReference_ok (net netBeta : ℚ) {longBeta shortBeta : ℚ}
    (h : 0 < longBeta ∧ 0 < shortBeta) (flatten : Instant) :
    ∃ risk, RelativeValueRiskReference.validate net netBeta longBeta shortBeta flatten = .ok risk ∧
      risk.signedNetGross = net ∧ risk.signedBetaGross = netBeta ∧ risk.longBeta = longBeta ∧
      risk.shortBeta = shortBeta ∧ risk.flattenBy = flatten := by
  unfold RelativeValueRiskReference.validate
  rw [if_neg (by simp), dif_pos h]
  exact ⟨_, rfl, rfl, rfl, rfl, rfl, rfl⟩

/-- Building a basket returns. -/
theorem basket_ok (hsides : Sides engine call sector leaders laggards)
    (hweights : NeutralWeights engine.settings (SectorRelativeValue.meanBeta leaders)
      (SectorRelativeValue.meanBeta laggards) longWeight shortWeight)
    {flatten : Instant} (hflatten : call.now < flatten) (digest : Digest) :
    ∃ intent, engine.basket call flatten digest sector leaders laggards longWeight shortWeight =
      .ok intent ∧ intent.sector = sector ∧ SoundBasket engine call intent := by
  obtain ⟨longs, hlongs, hlongLegs⟩ := legsOn_ok sector .long
    hweights.long_range (fun x hx => hsides.members x (List.mem_append_left _ hx)) hsides.lengths.1
  obtain ⟨shorts, hshorts, hshortLegs⟩ := legsOn_ok sector .short
    hweights.short_range (fun x hx => hsides.members x (List.mem_append_right _ hx)) hsides.lengths.2
  have hlegs : ∀ {fields : RelativeValueFields ℚ}, fields.legs = longs ++ shorts →
      Legs engine sector leaders laggards longWeight shortWeight fields longs shorts :=
    fun h => ⟨h, hlongLegs, hshortLegs⟩
  obtain ⟨risk, hrisk, hnet, hnetBeta, hlongBeta, hshortBeta, rfl⟩ :=
    riskReference_ok (longWeight - shortWeight) (longWeight * SectorRelativeValue.meanBeta leaders -
      shortWeight * SectorRelativeValue.meanBeta laggards) hsides.betas_pos flatten
  unfold SectorRelativeValue.basket
  rw [hlongs, hshorts]
  dsimp only [bind, Except.bind]
  rw [hrisk]
  dsimp only
  unfold RelativeValueIntent.validate
  refine ⟨_, dif_pos (coherent hsides hweights (hlegs rfl)
    ⟨rfl, hflatten, rfl, rfl, rfl, rfl, hnet, hnetBeta, hlongBeta, hshortBeta⟩), rfl, ?_⟩
  exact soundBasket hsides hweights (hlegs rfl)
    ⟨rfl, hflatten, rfl, rfl, rfl, rfl, hnet, hnetBeta, hlongBeta, hshortBeta⟩

/-- A turn of the loop over the sectors returns. -/
theorem sectorTurn_ok (hcall : Unambiguous call) {candidates : List (RankedSecurity ℚ)}
    (h : Candidates engine call candidates) {flatten : Instant} (hflatten : call.now < flatten)
    (sector : String) :
    ∃ turn, engine.sectorTurn call flatten candidates sector = .ok turn ∧
      ∀ intent, turn = .inl intent → intent.sector = sector ∧ SoundBasket engine call intent := by
  have hgroup : (candidates.filter fun c => decide (c.sector = sector)) =
      groupOf candidates sector := rfl
  unfold SectorRelativeValue.sectorTurn
  dsimp only
  rw [hgroup]
  by_cases hsize : (groupOf candidates sector).length < engine.settings.minimumSectorSize
  · rw [if_pos hsize]
    exact ⟨_, rfl, by rintro _ ⟨⟩⟩
  rw [if_neg hsize]
  have hne : groupOf candidates sector ≠ [] := by
    intro hnil
    have hmin := engine.settings.sector_min
    rw [hnil, List.length_nil] at hsize
    omega
  obtain ⟨ranked, hranked, hmembers, hids⟩ := ranked_ok hcall h hne
  have hdistinct : (ranked.map (·.2.instrumentId)).Nodup := by
    rw [hids]
    exact List.Sublist.nodup (List.filter_sublist.map _) h.distinct
  rw [hranked]
  dsimp only [bind, Except.bind]
  by_cases hinsufficient :
      engine.insufficient (engine.leaders ranked) (engine.laggards call ranked)
  · rw [if_pos hinsufficient]
    exact ⟨_, rfl, by rintro _ ⟨⟩⟩
  rw [if_neg hinsufficient]
  have hsides := sides_of_sufficient hcall hmembers hdistinct hinsufficient
  cases hweights : neutralWeights (SectorRelativeValue.meanBeta (engine.leaders ranked))
      (SectorRelativeValue.meanBeta (engine.laggards call ranked)) engine.settings with
  | error e =>
    have hvalue : e.isValueError = true := neutralWeights_raises _ _ _ e hweights
    dsimp only
    rw [if_pos hvalue]
    exact ⟨_, rfl, by rintro _ ⟨⟩⟩
  | ok weights =>
    obtain ⟨longWeight, shortWeight⟩ := weights
    have hneutral := neutralWeights_ok hsides.betas_pos.1 hsides.betas_pos.2 hweights
    obtain ⟨intent, hintent, hsector, hsound⟩ := basket_ok hsides hneutral hflatten
      (contentHash (RankedCrossSection.mk candidates))
    dsimp only
    rw [hintent]
    refine ⟨_, rfl, ?_⟩
    rintro _ ⟨⟩
    exact ⟨hsector, hsound⟩

/-- The baskets of distinct sectors share no security. -/
theorem legs_nodup (hcall : Unambiguous call) {intents : List (RelativeValueIntent ℚ)}
    (hsound : ∀ intent ∈ intents, SoundBasket engine call intent)
    (hsectors : (intents.map (·.sector)).Nodup) :
    (intents.flatMap fun intent => intent.legs.map (·.entityId)).Nodup := by
  rw [List.nodup_flatMap]
  refine ⟨fun intent h => (hsound intent h).distinct, ?_⟩
  refine (List.pairwise_map.mp hsectors).imp_of_mem ?_
  intro intent other hmem hother hne
  refine List.disjoint_left.mpr ?_
  intro id hid hid'
  obtain ⟨leg, hleg, rfl⟩ := List.mem_map.mp hid
  obtain ⟨leg', hleg', heq⟩ := List.mem_map.mp hid'
  obtain ⟨instrument, hlisted, hentity, -, hsector, -⟩ := (hsound intent hmem).legs leg hleg
  obtain ⟨instrument', hlisted', hentity', -, hsector', -⟩ :=
    (hsound other hother).legs leg' hleg'
  rw [hentity, hentity'] at heq
  -- one security is one instrument of the master, which has one sector
  have hsame := List.inj_on_of_nodup_map hcall.securities hlisted' hlisted heq
  exact hne (hsector.symm.trans ((congrArg (·.sector) hsame).symm.trans hsector'))

variable (engine) in
/-- What follows the gates returns. -/
theorem construct_ok (hcall : Unambiguous call) {window : RelativeValueWindow}
    (hflatten : call.now < window.flatten) :
    ∃ result, engine.construct call window = .ok result ∧
      (∀ intent ∈ result.intents, SoundBasket engine call intent) ∧
      (result.intents.map (·.sector)).Nodup := by
  obtain ⟨members, hmembers, hcandidates⟩ := members_ok engine hcall window.opening
  unfold SectorRelativeValue.construct
  rw [hmembers]
  dsimp only [bind, Except.bind]
  by_cases hmarket : 1 < ((members.filterMap Sum.getLeft?).map (·.beta.marketHash)).dedup.length
  · rw [if_pos hmarket]
    exact ⟨_, rfl, by rintro _ ⟨⟩, List.nodup_nil⟩
  obtain ⟨turns, hturns, hrelated⟩ := exists_mapM
    fun sector (_ : sector ∈ SectorRelativeValue.sectors (members.filterMap Sum.getLeft?)) =>
      sectorTurn_ok hcall hcandidates hflatten sector
  rw [if_neg hmarket, hturns]
  refine ⟨_, rfl, ?_, ?_⟩
  · intro intent hintent
    obtain ⟨turn, hturn, hleft⟩ := List.mem_filterMap.mp hintent
    obtain ⟨sector, -, hsector⟩ := exists_left_of_related hrelated hturn
    exact (hsector intent (Sum.getLeft?_eq_some_iff.mp hleft)).2
  · have hsectors : ((SectorRelativeValue.sectors (members.filterMap Sum.getLeft?)).map
        id).Nodup := by
      rw [List.map_id, SectorRelativeValue.sectors, (sortOn_perm _ _).nodup_iff]
      exact List.nodup_dedup _
    refine List.Sublist.nodup (filterMap_sublist hrelated ?_) hsectors
    intro sector turn intent hturn hleft
    exact (hturn intent (Sum.getLeft?_eq_some_iff.mp hleft)).1

end Evaluation

end Godzilla.Alphas
