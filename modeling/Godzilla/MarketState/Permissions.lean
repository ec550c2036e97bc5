import Godzilla.MarketState.Runs

/-!
# What a decision may permit

Every decision of every run grants no more than both the state and the candidate
do, an unsafe input is answered with `RISK_OFF` and no permission in the same
call, and the validators of `StateDecision` never reject what the router builds.
-/

namespace Godzilla.MarketState
open Godzilla Features MarketData Misc

variable {F : Type} [PyFloat F] [Platform]

/-- The hashes of the calls do not collide: equal routing identities come from equal calls. -/
def CollisionFree (calls : List (RouteCall F)) : Prop :=
  ∀ c ∈ calls, ∀ c' ∈ calls, c.identity = c'.identity → c = c'

instance (calls : List (RouteCall F)) : Decidable (CollisionFree calls) :=
  inferInstanceAs (Decidable (∀ c ∈ calls, ∀ c' ∈ calls, c.identity = c'.identity → c = c'))

/-- The permissions of a decision are bounded by those of its state and its candidate. -/
structure PermissionsBounded (cfg : RouterSettings F) (d : StateDecision F) : Prop where
  families_of_state : d.allowedAlphaFamilies ⊆ (permissions d.state cfg).1
  families_of_candidate : d.allowedAlphaFamilies ⊆ (permissions d.candidate cfg).1
  sides_of_state : d.directionalSides ⊆ (permissions d.state cfg).2.1
  sides_of_candidate : d.directionalSides ⊆ (permissions d.candidate cfg).2.1
  multiplier_of_state : d.grossRiskMultiplier ≤ (permissions d.state cfg).2.2
  multiplier_of_candidate : d.grossRiskMultiplier ≤ (permissions d.candidate cfg).2.2
  multiplier_zero : d.allowedAlphaFamilies = [] → d.grossRiskMultiplier = 0
  directional : ∀ family ∈ d.allowedAlphaFamilies,
    family = .crossSectionalMomentum ∨ family = .momentumBreakout → d.directionalSides ≠ []
  same_trend : d.directionalSides ≠ [] →
    d.state = d.candidate ∧ (d.state = .trendUp ∨ d.state = .trendDown)

/-- A decision that grants nothing. -/
structure Vetoed (d : StateDecision F) : Prop where
  state : d.state = .riskOff
  families : d.allowedAlphaFamilies = []
  sides : d.directionalSides = []
  multiplier : d.grossRiskMultiplier = 0

section Decision

variable {router : MarketStateRouter F} {call : RouteCall F}
  (hpast : ∀ last, router.last = some last → last.timestamp ≤ call.now)

theorem decision_bounded :
    PermissionsBounded router.settings (router.decision call hpast) := by
  have hfam := MarketStateRouter.grant_families_subset router.settings
    (router.decision call hpast).state (router.decision call hpast).candidate
  have hmul := MarketStateRouter.grant_multiplier_le router.settings
    (router.decision call hpast).state (router.decision call hpast).candidate
  constructor
  · exact hfam.1
  · exact hfam.2
  · intro side hside
    exact ((MarketStateRouter.mem_grant_sides _ _ _).mp hside).1
  · intro side hside
    exact ((MarketStateRouter.mem_grant_sides _ _ _).mp hside).2
  · exact hmul.1
  · exact hmul.2
  · intro hnone
    have hempty : (MarketStateRouter.grant router.settings (router.decision call hpast).state
        (router.decision call hpast).candidate).1.isEmpty = true := List.isEmpty_iff.mpr hnone
    exact (MarketStateRouter.grant_multiplier _ _ _).trans (if_pos hempty)
  · intro family hf hd
    exact MarketStateRouter.grant_directional _ _ _ hf hd
  · intro hsides
    exact MarketStateRouter.grant_sides_same_trend _ _ _ hsides

/-- The veto wins over whatever state was held. -/
theorem decision_vetoed
    (hveto : ¬ Safe router.settings router.calendar router.timezone call) :
    Vetoed (router.decision call hpast) := by
  have hcand := MarketStateRouter.assess_vetoed hveto
  have hstate : (router.decision call hpast).state = .riskOff := by
    show (router.transition call (router.assess call) _).1.1 = .riskOff
    rw [MarketStateRouter.transition_of_immediate _ (by rw [hcand]; rfl), hcand]
  obtain ⟨hfam, hsides, hmul⟩ :=
    (router.decision call hpast).consistent.blocked_grants_nothing (Or.inl hstate)
  exact ⟨hstate, hfam, hsides, hmul⟩

end Decision

variable (cfg : RouterSettings F) (calendar : ExchangeCalendar) (timezone : String)

/-- A decision `route` returns, new or repeated, was made for this very call by a
    router of the same configuration. -/
theorem route_decided {calls : List (RouteCall F)} {call : RouteCall F}
    (hfree : CollisionFree (calls ++ [call])) {d : StateDecision F}
    (h : ((routerRun cfg calendar timezone calls).router.route call).1 = .ok d) :
    ∃ (router : MarketStateRouter F)
      (hpast : ∀ last, router.last = some last → last.timestamp ≤ call.now),
      router.settings = cfg ∧ router.calendar = calendar ∧ router.timezone = timezone ∧
        d = router.decision call hpast := by
  have htracks := tracks_run cfg calendar timezone calls
  set s := routerRun cfg calendar timezone calls with hs
  rcases s.router.route_cases call with
    ⟨message, last, hr, -, -⟩ | ⟨last, hr, hl, hid⟩ | ⟨hpast, hr, -⟩
  · rw [hr] at h; cases h
  · -- redelivered: the newest entry answered the same call
    rw [hr] at h
    obtain rfl : last = d := by simpa using h
    rw [htracks.last] at hl
    obtain ⟨e, he, rfl⟩ := Option.map_eq_some_iff.mp hl
    rw [htracks.identity, he] at hid
    obtain ⟨before, htrace⟩ : ∃ before, s.trace = before ++ e :: [] :=
      ⟨s.trace.dropLast, (List.dropLast_append_getLast? e he).symm⟩
    obtain ⟨s', hs', -, call', hmem, hpast, rfl, -⟩ :=
      entry_decided cfg calendar timezone calls htrace
    obtain rfl : call' = call :=
      hfree call' (List.mem_append_left _ hmem) call (by simp) (Option.some.inj hid)
    exact ⟨s'.router, hpast, hs'.settings, hs'.calendar, hs'.timezone, rfl⟩
  · rw [hr] at h
    exact ⟨s.router, hpast, htracks.settings, htracks.calendar, htracks.timezone,
      (Except.ok.inj h).symm⟩

/-- From every reachable router a returned decision is bounded by its state and its
    candidate and vetoed when the input is unsafe; the fields it is built from pass
    every validator, and only a call no later than the last decision raises. -/
theorem route_permissions (calls : List (RouteCall F)) (call : RouteCall F)
    (hfree : CollisionFree (calls ++ [call])) :
    (∀ d, ((routerRun cfg calendar timezone calls).router.route call).1 = .ok d →
      PermissionsBounded cfg d ∧ (¬ Safe cfg calendar timezone call → Vetoed d)) ∧
    ((∀ last, (routerRun cfg calendar timezone calls).router.last = some last →
        last.timestamp ≤ call.now) →
      ((routerRun cfg calendar timezone calls).router.decisionFields call).ConsistentPolicy) ∧
    (∀ e, ((routerRun cfg calendar timezone calls).router.route call).1 = .error e →
      ∃ last, (routerRun cfg calendar timezone calls).router.last = some last ∧
        call.now ≤ last.timestamp) := by
  refine ⟨?_, MarketStateRouter.decisionFields_consistent, ?_⟩
  · intro d hd
    obtain ⟨router, hpast, rfl, rfl, rfl, rfl⟩ :=
      route_decided cfg calendar timezone hfree hd
    exact ⟨decision_bounded hpast, decision_vetoed hpast⟩
  · intro e he
    rcases (routerRun cfg calendar timezone calls).router.route_cases call with
      ⟨message, last, -, hl, hle⟩ | ⟨last, hr, -, -⟩ | ⟨hpast, hr, -⟩
    · exact ⟨last, hl, hle⟩
    · rw [hr] at he; cases he
    · rw [hr] at he; cases he

end Godzilla.MarketState

namespace Godzilla.MarketState.Sample
open Features MarketData Godzilla.Sample

/-- A snapshot from the future is vetoed while a trend is being confirmed. -/
theorem route_permissions_future_snapshot :
    ∃ d, ((routerRun settings calendar "Asia/Kolkata" [call 3600 0, call 3900 0]).router.route
      (call 4200 86400)).1 = .ok d ∧ PermissionsBounded settings d ∧ Vetoed d := by
  have hfree : CollisionFree ([call 3600 0, call 3900 0] ++ [call 4200 86400]) := by
    decide +kernel
  obtain ⟨hok, -, -⟩ := route_permissions settings calendar "Asia/Kolkata"
    [call 3600 0, call 3900 0] (call 4200 86400) hfree
  have hreturns : ((routerRun settings calendar "Asia/Kolkata"
      [call 3600 0, call 3900 0]).router.route (call 4200 86400)).1.isOk = true := by
    decide +kernel
  have hveto : ¬ Safe settings calendar "Asia/Kolkata" (call 4200 86400) := fun h =>
    absurd h.feature_age.1 (by decide)
  cases hr : ((routerRun settings calendar "Asia/Kolkata"
      [call 3600 0, call 3900 0]).router.route (call 4200 86400)).1 with
  | error e => rw [hr] at hreturns; cases hreturns
  | ok d => exact ⟨d, rfl, (hok d hr).1, (hok d hr).2 hveto⟩

end Godzilla.MarketState.Sample
