import Godzilla.MarketState.Permissions

/-!
# When a healthy streak recovers a state

A long enough streak of current, safe, equally classified calls is meant to
bring the router to that state whatever came before. It does so exactly when
the state is immediate, already held, or confirmed by the calls that are newer
than every snapshot the router has accepted. A vetoed snapshot from the future
raises that mark too, and blocks the confirmation.
-/

namespace Godzilla.MarketState
open Godzilla Features MarketData Misc

variable {F : Type} [PyFloat F] [Platform]

/-- A streak of calls inside the session `[opens, closes)` that are current, safe and
    classified as `c`. -/
structure Streak (cfg : RouterSettings F) (calendar : ExchangeCalendar) (timezone : String)
    (c : MarketState) (opens closes : Instant) (calls : List (RouteCall F)) : Prop where
  current : ∀ call ∈ calls, call.snapshot.timestamp = call.now
  healthy : ∀ call ∈ calls, call.health.systemStatus = .healthy ∧
    call.health.riskStatus = .healthy ∧ call.health.blocksNewEntries = false
  health_age : ∀ call ∈ calls, call.health.observedAt ≤ call.now ∧
    call.now - call.health.observedAt ≤ secondsOf cfg.healthMaxAgeSeconds
  in_session : ∀ call ∈ calls,
    sessionBounds calendar call.now timezone = .ok (some (opens, closes)) ∧
      opens ≤ call.now ∧ call.now < closes
  classified : ∀ call ∈ calls,
    (classify call.snapshot cfg (PyFloat.seconds (call.now - opens))).1 = c
  increasing : calls.IsChain fun x y => x.now < y.now
  close : calls.IsChain fun x y => y.now - x.now ≤ secondsOf cfg.maxConfirmationGapSeconds

/-- How many of the calls carry a snapshot newer than every snapshot of the record. -/
def newerCalls (trace : List (Entry F)) (calls : List (RouteCall F)) : Nat :=
  calls.countP fun call =>
    decide (∀ x ∈ trace, x.call.snapshot.timestamp < call.snapshot.timestamp)

/-- The condition under which a streak that starts with `first` recovers `c`. -/
def Confirmable (cfg : RouterSettings F) (c : MarketState) (opens : Instant) (s : RouterRun F)
    (first : RouteCall F) (calls : List (RouteCall F)) : Prop :=
  c = .highVol ∨ (s.router.held (some opens) first.now).1 = c ∨
    cfg.confirmationCount ≤
      s.router.carried c (some opens) first.now + newerCalls s.trace calls

section Streak

variable {cfg : RouterSettings F} {calendar : ExchangeCalendar} {timezone : String}
  {c : MarketState} {opens closes : Instant}

theorem Streak.of_concat {calls : List (RouteCall F)} {call : RouteCall F}
    (h : Streak cfg calendar timezone c opens closes (calls ++ [call])) :
    Streak cfg calendar timezone c opens closes calls where
  current x hx := h.current x (List.mem_append_left _ hx)
  healthy x hx := h.healthy x (List.mem_append_left _ hx)
  health_age x hx := h.health_age x (List.mem_append_left _ hx)
  in_session x hx := h.in_session x (List.mem_append_left _ hx)
  classified x hx := h.classified x (List.mem_append_left _ hx)
  increasing := (List.isChain_append.mp h.increasing).1
  close := (List.isChain_append.mp h.close).1

theorem Streak.safe {calls : List (RouteCall F)}
    (h : Streak cfg calendar timezone c opens closes calls) {call : RouteCall F}
    (hmem : call ∈ calls) : Safe cfg calendar timezone call where
  system_healthy := (h.healthy call hmem).1
  risk_healthy := (h.healthy call hmem).2.1
  entries_open := (h.healthy call hmem).2.2
  health_age := h.health_age call hmem
  feature_age := by
    have hzero : (0 : Int) ≤ secondsOf cfg.featureMaxAgeSeconds := by
      unfold secondsOf; positivity
    rw [h.current call hmem]
    exact ⟨le_refl _, by simpa using hzero⟩
  in_session := by
    obtain ⟨hb, hopen, hclose⟩ := h.in_session call hmem
    exact ⟨opens, closes, hb, (h.current call hmem).symm ▸ hopen, hclose⟩

end Streak

variable {cfg : RouterSettings F} {calendar : ExchangeCalendar} {timezone : String}

section Advance

variable {c : MarketState} {opens closes : Instant} {s : RouterRun F} {call : RouteCall F}

/-- The state of one decision of the streak: `c` when it is already held or immediate,
    `c` only if it is one of these or confirmed, and otherwise the held state. -/
theorem advance (h : Tracks cfg calendar timezone s) (hc : c ∈ [.trendUp, .trendDown, .chop, .highVol])
    (hcand : (s.router.assess call).candidate = c)
    (hopen : (s.router.assess call).opening = some opens)
    (hpast : ∀ last, s.router.last = some last → last.timestamp ≤ call.now) :
    (c = .highVol ∨ (s.router.held (some opens) call.now).1 = c →
      (s.router.decision call hpast).state = c) ∧
    ((s.router.decision call hpast).state = c → c = .highVol ∨
      (s.router.held (some opens) call.now).1 = c ∨
      cfg.confirmationCount ≤ s.router.confirm call (s.router.assess call)) ∧
    ((s.router.decision call hpast).state ≠ c →
      (s.router.decision call hpast).stateSince = (s.router.held (some opens) call.now).2 ∧
      ¬ (cfg.confirmationCount ≤ s.router.confirm call (s.router.assess call) ∧
        secondsOf cfg.minDurationSeconds ≤
          call.now - (s.router.held (some opens) call.now).2)) := by
  have himm : MarketStateRouter.immediate c = true ↔ c = .highVol := by
    cases c <;> simp [MarketStateRouter.immediate] at hc ⊢
  have hcases := s.router.transition_cases call (s.router.assess call)
    (s.router.confirm call (s.router.assess call))
  rw [hcand, hopen, h.settings, himm, Bool.eq_false_iff, ne_eq, himm] at hcases
  rcases hcases with ⟨hs, hstay⟩ | ⟨hs, -, hmove⟩
  · have hstate : (s.router.decision call hpast).state =
        (s.router.held (some opens) call.now).1 := congrArg Prod.fst hs
    have hsince : (s.router.decision call hpast).stateSince =
        (s.router.held (some opens) call.now).2 := congrArg Prod.snd hs
    rw [hstate, hsince]
    grind
  · have hstate : (s.router.decision call hpast).state = c := congrArg Prod.fst hs
    grind

/-- The router part-way through the streak: `calls` were answered from `s₀`, the newest
    of them, `final`, by the decision `d`. -/
structure Recovering (cfg : RouterSettings F) (c : MarketState) (opens : Instant)
    (s₀ : RouterRun F) (first : RouteCall F) (calls : List (RouteCall F)) (final : RouteCall F)
    (d : StateDecision F) (s : RouterRun F) : Prop where
  last : s.router.last = some d
  stamped : d.timestamp = final.now
  session : d.evidence.sessionOpen = some opens
  pending : s.router.pending = some c
  count : s.router.count =
    s₀.router.carried c (some opens) first.now + newerCalls s₀.trace calls
  marked : ∀ t, (∀ seen, s.router.featureTime = some seen → seen < t) ↔
    (∀ x ∈ s₀.trace, x.call.snapshot.timestamp < t) ∧ final.now < t
  reached : c = .highVol ∨ (s₀.router.held (some opens) first.now).1 = c → d.state = c
  earned : d.state = c → Confirmable cfg c opens s₀ first calls
  waiting : d.state ≠ c → d.stateSince ≤ first.now ∧
    ¬ (cfg.confirmationCount ≤ s.router.count ∧
      secondsOf cfg.minDurationSeconds ≤ d.timestamp - d.stateSince)

variable {s₀ : RouterRun F} {first final : RouteCall F} {calls : List (RouteCall F)}
  {d : StateDecision F}

theorem newerCalls_concat (trace : List (Entry F)) (calls : List (RouteCall F))
    (call : RouteCall F) :
    newerCalls trace (calls ++ [call]) = newerCalls trace calls +
      if ∀ x ∈ trace, x.call.snapshot.timestamp < call.snapshot.timestamp then 1 else 0 := by
  simp [newerCalls, List.countP_append, List.countP_singleton]

/-- Each further call of the streak. -/
theorem Recovering.next (hr : Recovering cfg c opens s₀ first calls final d s)
    (h : Tracks cfg calendar timezone s)
    (hc : c ∈ [.trendUp, .trendDown, .chop, .highVol])
    (hcand : (s.router.assess call).candidate = c)
    (hopen : (s.router.assess call).opening = some opens)
    (hcurrent : call.snapshot.timestamp = call.now) (hlater : final.now < call.now)
    (hclose : call.now - final.now ≤ secondsOf cfg.maxConfirmationGapSeconds)
    (hpast : ∀ last, s.router.last = some last → last.timestamp ≤ call.now) :
    Recovering cfg c opens s₀ first (calls ++ [call]) call (s.router.decision call hpast)
      (s.commit call hpast) := by
  obtain ⟨hreached, hearned, hwaiting⟩ := advance h hc hcand hopen hpast
  have hsame : s.router.newSession (some opens) = false := by
    simp [MarketStateRouter.newSession, hr.last, hr.session]
  have hgap : s.router.gapExceeded call.now = false := by
    simp only [MarketStateRouter.gapExceeded, hr.last, h.settings, hr.stamped,
      decide_eq_false_iff_not, not_lt]
    exact hclose
  have hheld : s.router.held (some opens) call.now = (d.state, d.stateSince) := by
    simp [MarketStateRouter.held, hsame, MarketStateRouter.previous, hr.last]
  have hfresh : s.router.freshObservation call.snapshot = true ↔
      ∀ x ∈ s₀.trace, x.call.snapshot.timestamp < call.snapshot.timestamp := by
    have hmark := hr.marked call.snapshot.timestamp
    unfold MarketStateRouter.freshObservation
    rw [hcurrent] at hmark ⊢
    rw [and_iff_left hlater] at hmark
    rw [← hmark]
    cases s.router.featureTime <;> simp
  have hcount : s.router.confirm call (s.router.assess call) =
      s₀.router.carried c (some opens) first.now + newerCalls s₀.trace (calls ++ [call]) := by
    rw [MarketStateRouter.confirm_eq, hcand, hopen, MarketStateRouter.carried,
      if_pos ⟨hsame, hgap, hr.pending⟩, hr.count, newerCalls_concat]
    simp only [hfresh, Nat.add_assoc]
  rw [hheld] at hreached hearned hwaiting
  constructor
  · rfl
  · rfl
  · exact hopen
  · exact congrArg some hcand
  · exact hcount
  · intro t
    have hmark := hr.marked t
    have hmarked := h.marked_commit hpast t
    rw [hmarked]
    simp only [RouterRun.commit, List.mem_append, or_imp, forall_and, List.mem_singleton,
      forall_eq, RouterRun.entry_call, ← h.marked t, hmark, hcurrent]
    constructor
    · exact fun hall => ⟨hall.1.1, hall.2⟩
    · exact fun hall => ⟨⟨hall.1, lt_trans hlater hall.2⟩, hall.2⟩
  · intro hstart
    exact hreached (Or.inr (hr.reached hstart))
  · intro hd
    rcases hearned hd with hv | hstate | hn
    · exact Or.inl hv
    · rcases hr.earned hstate with hv | hheld₀ | hn
      · exact Or.inl hv
      · exact Or.inr (Or.inl hheld₀)
      · refine Or.inr (Or.inr (le_trans hn ?_))
        rw [newerCalls_concat]
        omega
    · exact Or.inr (Or.inr (hcount ▸ hn))
  · intro hd
    obtain ⟨hsince, hno⟩ := hwaiting hd
    have hdne : d.state ≠ c := fun hdc => hd (hreached (Or.inr hdc))
    rw [hsince]
    exact ⟨(hr.waiting hdne).1, hno⟩

omit [PyFloat F] in
theorem CollisionFree.mono {xs ys : List (RouteCall F)} (h : CollisionFree ys) (hsub : xs ⊆ ys) :
    CollisionFree xs :=
  fun c hc c' hc' => h c (hsub hc) c' (hsub hc')

end Advance

end Godzilla.MarketState

namespace Godzilla.MarketState.Sample
open Features MarketData Godzilla.Sample

end Godzilla.MarketState.Sample
