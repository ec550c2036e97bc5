import Godzilla.MarketState.Router

/-!
# What one routing call does

One lemma per phase of `route`: which inputs pass the safety checks, which
states a transition can reach, what a grant may contain, and that the decision
it builds always passes its validators. Later modules use these and never
unfold a phase.
-/

namespace Godzilla.MarketState
open Godzilla Features MarketData

variable {F : Type} [PyFloat F] [Platform]

/-- The safety checks of a call in plain terms: health and features known good and
    of acceptable age, inside a confirmed session. -/
structure Safe (cfg : RouterSettings F) (calendar : ExchangeCalendar) (timezone : String)
    (call : RouteCall F) : Prop where
  system_healthy : call.health.systemStatus = .healthy
  risk_healthy : call.health.riskStatus = .healthy
  entries_open : call.health.blocksNewEntries = false
  health_age : call.health.observedAt ≤ call.now ∧
    call.now - call.health.observedAt ≤ secondsOf cfg.healthMaxAgeSeconds
  feature_age : call.snapshot.timestamp ≤ call.now ∧
    call.now - call.snapshot.timestamp ≤ secondsOf cfg.featureMaxAgeSeconds
  in_session : ∃ opens closes, sessionBounds calendar call.now timezone = .ok (some (opens, closes)) ∧
    opens ≤ call.snapshot.timestamp ∧ call.now < closes

omit [Platform] in
theorem floatOfBool_eq_zero {b : Bool} : (floatOfBool b : F) = 0 ↔ b = false := by
  cases b
  · simp [floatOfBool]
  · simp [floatOfBool, PyFloat.zero_ne_one.symm]

omit [Platform] in
theorem ofInt_code_eq_healthy {s : HealthStatus} :
    (PyFloat.ofInt s.code : F) = PyFloat.ofInt HealthStatus.healthy.code ↔ s = .healthy := by
  have hcode : ∀ s : HealthStatus, IsFloatInt s.code := fun s => by cases s <;> decide
  rw [PyFloat.ofInt_inj (hcode s) (hcode .healthy), HealthStatus.code_eq_healthy]

omit [Platform] in
/-- The seven recorded checks of `safe` pass exactly on the ages and statuses of `Safe`. -/
theorem safetyChecks_passed {cfg : RouterSettings F} {call : RouteCall F} :
    (safetyChecks cfg call).all (·.passed) = true ↔
      call.health.systemStatus = .healthy ∧ call.health.riskStatus = .healthy ∧
      call.health.blocksNewEntries = false ∧
      call.health.observedAt ≤ call.now ∧
      call.now - call.health.observedAt ≤ secondsOf cfg.healthMaxAgeSeconds ∧
      call.snapshot.timestamp ≤ call.now ∧
      call.now - call.snapshot.timestamp ≤ secondsOf cfg.featureMaxAgeSeconds := by
  simp only [safetyChecks, record, Operator.holds, Option.elim_some, List.all_cons, List.all_nil,
    Bool.and_true, Bool.and_eq_true, decide_eq_true_eq, ofInt_code_eq_healthy,
    floatOfBool_eq_zero, PyFloat.zero_le_seconds, PyFloat.seconds_le_ofInt, Int.sub_nonneg, secondsOf]

namespace MarketStateRouter

theorem bounds_eq_some {router : MarketStateRouter F} {now opens closes : Instant} :
    router.bounds now = some (opens, closes) ↔
      sessionBounds router.calendar now router.timezone = .ok (some (opens, closes)) := by
  unfold bounds
  split <;> simp_all

/-- The veto condition of the code is the failure of `Safe`. -/
theorem safe_iff {router : MarketStateRouter F} {call : RouteCall F} :
    ((safetyChecks router.settings call).all (·.passed) && router.inSession call) = true ↔
      Safe router.settings router.calendar router.timezone call := by
  rw [Bool.and_eq_true, safetyChecks_passed]
  constructor
  · rintro ⟨⟨hsys, hrisk, hblock, hpast, hage, hfpast, hfage⟩, hin⟩
    refine ⟨hsys, hrisk, hblock, ⟨hpast, hage⟩, ⟨hfpast, hfage⟩, ?_⟩
    unfold inSession at hin
    split at hin
    · rename_i opens closes hb
      have h := of_decide_eq_true hin
      exact ⟨opens, closes, bounds_eq_some.mp hb, h.1, h.2.2⟩
    · simp at hin
  · intro h
    obtain ⟨opens, closes, hb, hopen, hclose⟩ := h.in_session
    refine ⟨⟨h.system_healthy, h.risk_healthy, h.entries_open, h.health_age.1, h.health_age.2,
      h.feature_age.1, h.feature_age.2⟩, ?_⟩
    simp [inSession, bounds_eq_some.mpr hb, hopen, hclose, h.feature_age.1]

/-- A failed safety check makes the candidate `RISK_OFF`. -/
theorem assess_vetoed {router : MarketStateRouter F} {call : RouteCall F}
    (h : ¬ Safe router.settings router.calendar router.timezone call) :
    (router.assess call).candidate = .riskOff := by
  unfold assess
  rw [if_neg fun hs => h (safe_iff.mp hs)]

/-- Everything a transition can do: stay on the held state, or move to the candidate
    because it is immediate or because it is confirmed and dwelt. -/
theorem transition_cases (router : MarketStateRouter F) (call : RouteCall F) (a : Assessment F)
    (count : Nat) :
    ((router.transition call a count).1 = router.held a.opening call.now ∧
      (a.candidate = (router.held a.opening call.now).1 ∨ immediate a.candidate = false ∧
        ¬ (router.settings.confirmationCount ≤ count ∧
          secondsOf router.settings.minDurationSeconds ≤
            call.now - (router.held a.opening call.now).2))) ∨
    ((router.transition call a count).1 = (a.candidate, call.now) ∧
      a.candidate ≠ (router.held a.opening call.now).1 ∧
      (immediate a.candidate = true ∨ router.settings.confirmationCount ≤ count ∧
        secondsOf router.settings.minDurationSeconds ≤
          call.now - (router.held a.opening call.now).2)) := by
  rcases hh : router.held a.opening call.now with ⟨state, since⟩
  simp only [transition, hh]
  by_cases heq : a.candidate = state
  · rw [if_pos heq]
    exact Or.inl ⟨rfl, Or.inl heq⟩
  · rw [if_neg heq]
    split
    · rename_i hmove
      simp only [Bool.or_eq_true, Bool.and_eq_true, decide_eq_true_eq] at hmove
      exact Or.inr ⟨rfl, heq, hmove⟩
    · rename_i hstay
      simp only [Bool.or_eq_true, Bool.and_eq_true, decide_eq_true_eq, not_or,
        Bool.not_eq_true] at hstay
      exact Or.inl ⟨rfl, Or.inr hstay⟩

/-- An immediate candidate is the state at once. -/
theorem transition_of_immediate {router : MarketStateRouter F} {call : RouteCall F}
    {a : Assessment F} (count : Nat) (h : immediate a.candidate = true) :
    (router.transition call a count).1.1 = a.candidate := by
  rcases router.transition_cases call a count with ⟨hs, hcase⟩ | ⟨hs, -⟩
  · rcases hcase with heq | ⟨hno, -⟩
    · rw [hs, heq]
    · rw [h] at hno; cases hno
  · rw [hs]

/-- What the confirmation counter keeps of the calls before this one. -/
def carried (router : MarketStateRouter F) (candidate : MarketState) (opening : Option Instant)
    (now : Instant) : Nat :=
  if router.newSession opening = false ∧ router.gapExceeded now = false ∧
    router.pending = some candidate then router.count else 0

/-- The counter is what it keeps plus the fresh observation. -/
theorem confirm_eq (router : MarketStateRouter F) (call : RouteCall F) (a : Assessment F) :
    router.confirm call a = router.carried a.candidate a.opening call.now +
      if router.freshObservation call.snapshot then 1 else 0 := by
  unfold confirm carried
  cases router.newSession a.opening <;> cases router.gapExceeded call.now <;>
    by_cases hp : router.pending = some a.candidate <;>
    cases router.freshObservation call.snapshot <;> simp [hp]

section Grant

omit [Platform]

variable (cfg : RouterSettings F) (state candidate : MarketState)

theorem grant_families_subset :
    (grant cfg state candidate).1 ⊆ (permissions state cfg).1 ∧
      (grant cfg state candidate).1 ⊆ (permissions candidate cfg).1 := by
  have hfilter : (grant cfg state candidate).1 ⊆
      (permissions state cfg).1.filter (· ∈ (permissions candidate cfg).1) := by
    unfold grant
    dsimp only
    split
    · exact List.filter_subset_self _
    · exact List.Subset.refl _
  refine ⟨fun f hf => (List.mem_filter.mp (hfilter hf)).1, fun f hf => ?_⟩
  simpa using (List.mem_filter.mp (hfilter hf)).2

theorem mem_grant_sides {side : Side} :
    side ∈ (grant cfg state candidate).2.1 ↔
      side ∈ (permissions state cfg).2.1 ∧ side ∈ (permissions candidate cfg).2.1 := by
  simp [grant, List.mem_filter]

theorem grant_multiplier :
    (grant cfg state candidate).2.2 =
      if (grant cfg state candidate).1.isEmpty then 0
      else min (permissions state cfg).2.2 (permissions candidate cfg).2.2 := rfl

theorem grant_multiplier_le :
    (grant cfg state candidate).2.2 ≤ (permissions state cfg).2.2 ∧
      (grant cfg state candidate).2.2 ≤ (permissions candidate cfg).2.2 := by
  rw [grant_multiplier]
  split
  · exact ⟨(permissions_multiplier_range state cfg).1, (permissions_multiplier_range candidate cfg).1⟩
  · exact ⟨min_le_left _ _, min_le_right _ _⟩

theorem grant_multiplier_nonneg : 0 ≤ (grant cfg state candidate).2.2 := by
  rw [grant_multiplier]
  split
  · exact le_refl _
  · exact le_min (permissions_multiplier_range state cfg).1
      (permissions_multiplier_range candidate cfg).1

/-- Momentum and breakout need a side. -/
theorem grant_directional {family : AlphaFamily} (hf : family ∈ (grant cfg state candidate).1)
    (hd : family = .crossSectionalMomentum ∨ family = .momentumBreakout) :
    (grant cfg state candidate).2.1 ≠ [] := by
  intro hnone
  have hempty : ((permissions state cfg).2.1.filter
      (· ∈ (permissions candidate cfg).2.1)).isEmpty = true := by
    have h : (grant cfg state candidate).2.1.isEmpty = true := by rw [hnone]; rfl
    exact h
  simp only [grant, hempty, if_true, List.mem_filter] at hf
  rcases hd with rfl | rfl <;> simp at hf

/-- A side is granted only when state and candidate are the same trend. -/
theorem grant_sides_same_trend (h : (grant cfg state candidate).2.1 ≠ []) :
    state = candidate ∧ (state = .trendUp ∨ state = .trendDown) := by
  obtain ⟨side, hside⟩ := List.exists_mem_of_ne_nil _ h
  rw [mem_grant_sides, mem_permissions_sides, mem_permissions_sides] at hside
  rcases hside with ⟨⟨rfl, rfl⟩ | ⟨rfl, rfl⟩, ⟨rfl, hs⟩ | ⟨rfl, hs⟩⟩
  · exact ⟨rfl, Or.inl rfl⟩
  · cases hs
  · cases hs
  · exact ⟨rfl, Or.inr rfl⟩

theorem grant_of_blocked (h : state.blocked) : grant cfg state candidate = ([], [], 0) := by
  simp [grant, permissions_of_blocked cfg h]

end Grant

/-- The start of the held state is never after the call. -/
theorem held_since_le {router : MarketStateRouter F} {call : RouteCall F}
    {opening : Option Instant}
    (hpast : ∀ last, router.last = some last → last.timestamp ≤ call.now) :
    (router.held opening call.now).2 ≤ call.now := by
  unfold held
  split
  · exact le_refl _
  · cases hl : router.last with
    | none => exact le_refl _
    | some last => exact le_trans last.consistent.since_le (hpast last hl)

/-- The fields `route` puts together pass every validator of `StateDecision`, from
    any router whose last decision is not in the future. -/
theorem decisionFields_consistent {router : MarketStateRouter F} {call : RouteCall F}
    (hpast : ∀ last, router.last = some last → last.timestamp ≤ call.now) :
    (router.decisionFields call).ConsistentPolicy where
  multiplier_nonneg := grant_multiplier_nonneg _ _ _
  multiplier_le_one :=
    le_trans (grant_multiplier_le _ _ _).1 (permissions_multiplier_range _ _).2
  since_le := by
    show (router.transition call (router.assess call) _).1.2 ≤ call.now
    rcases router.transition_cases call (router.assess call)
      (router.confirm call (router.assess call)) with ⟨hs, -⟩ | ⟨hs, -⟩
    · rw [hs]; exact held_since_le hpast
    · rw [hs]
  settings_match := rfl
  blocked_grants_nothing := by
    intro hblocked
    have hgrant := grant_of_blocked router.settings (router.decisionFields call).state
      (router.assess call).candidate hblocked
    exact ⟨congrArg (·.1) hgrant, congrArg (·.2.1) hgrant, congrArg (·.2.2) hgrant⟩

/-- The decision of an admitted call. -/
def decision (router : MarketStateRouter F) (call : RouteCall F)
    (hpast : ∀ last, router.last = some last → last.timestamp ≤ call.now) : StateDecision F :=
  { toStateFields := router.decisionFields call
    consistent := decisionFields_consistent hpast }

/-- The router after an admitted call that decided `d`. -/
def committed (router : MarketStateRouter F) (call : RouteCall F) (d : StateDecision F) :
    MarketStateRouter F :=
  { router.counted call with
    last := some d
    identity := some call.identity
    featureTime := some (router.featureTime.elim call.snapshot.timestamp
      (max call.snapshot.timestamp ·)) }

theorem decideNow_eq {router : MarketStateRouter F} {call : RouteCall F}
    (hpast : ∀ last, router.last = some last → last.timestamp ≤ call.now) :
    router.decideNow call =
      (.ok (router.decision call hpast), router.committed call (router.decision call hpast)) := by
  rw [decideNow, StateDecision.validate_eq_ok (decisionFields_consistent hpast)]
  rfl

/-- The gate, read backwards: which calls it turns away, and why. -/
theorem admission_cases (router : MarketStateRouter F) (call : RouteCall F) :
    (∃ last, router.last = some last ∧ call.now < last.timestamp ∧
      router.admission call = .regressed) ∨
    (∃ last, router.last = some last ∧ router.identity = some call.identity ∧
      router.admission call = .redelivered last) ∨
    (∃ last, router.last = some last ∧ call.now = last.timestamp ∧
      router.admission call = .conflicting) ∨
    (router.admission call = .admitted ∧ ∀ last, router.last = some last →
      last.timestamp < call.now ∧ router.identity ≠ some call.identity) := by
  cases hl : router.last with
  | none =>
    exact Or.inr (Or.inr (Or.inr ⟨by simp [admission, hl], by simp⟩))
  | some last =>
    by_cases hreg : call.now < last.timestamp
    · exact Or.inl ⟨last, rfl, hreg, by simp [admission, hl, hreg]⟩
    by_cases hid : router.identity = some call.identity
    · exact Or.inr (Or.inl ⟨last, rfl, hid, by simp [admission, hl, hreg, hid]⟩)
    by_cases hconf : call.now = last.timestamp
    · exact Or.inr (Or.inr (Or.inl ⟨last, rfl, hconf, by simp [admission, hl, hid, hconf]⟩))
    · refine Or.inr (Or.inr (Or.inr ⟨by simp [admission, hl, hreg, hid, hconf], ?_⟩))
      rintro other ⟨⟩
      exact ⟨lt_of_le_of_ne (not_lt.mp hreg) (Ne.symm hconf), hid⟩

/-- Everything `route` can do: raise and change nothing, repeat the last decision and
    change nothing, or decide and commit. -/
theorem route_cases (router : MarketStateRouter F) (call : RouteCall F) :
    (∃ message last, router.route call = (.error (.valueError message), router) ∧
      router.last = some last ∧ call.now ≤ last.timestamp) ∨
    (∃ last, router.route call = (.ok last, router) ∧ router.last = some last ∧
      router.identity = some call.identity) ∨
    (∃ hpast : ∀ last, router.last = some last → last.timestamp ≤ call.now,
      router.route call =
        (.ok (router.decision call hpast), router.committed call (router.decision call hpast)) ∧
      ∀ last, router.last = some last →
        last.timestamp < call.now ∧ router.identity ≠ some call.identity) := by
  rcases router.admission_cases call with
    ⟨last, hl, hreg, ha⟩ | ⟨last, hl, hid, ha⟩ | ⟨last, hl, hconf, ha⟩ | ⟨ha, hnew⟩
  · exact Or.inl ⟨_, last, by rw [route, ha], hl, le_of_lt hreg⟩
  · exact Or.inr (Or.inl ⟨last, by rw [route, ha], hl, hid⟩)
  · exact Or.inl ⟨_, last, by rw [route, ha], hl, le_of_eq hconf⟩
  · exact Or.inr (Or.inr ⟨fun last hl => le_of_lt (hnew last hl).1,
      by rw [route, ha]; exact decideNow_eq _, hnew⟩)

end MarketStateRouter

end Godzilla.MarketState
