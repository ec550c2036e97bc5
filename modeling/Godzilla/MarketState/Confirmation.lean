import Godzilla.MarketState.Runs

/-!
# Transitions into a trend or chop are confirmed

A decision that changes the state to `TREND_UP`, `TREND_DOWN` or `CHOP` stands
at the end of an unbroken streak of decisions with that candidate, in one
session and without a confirmation gap, whose fresh snapshots reach the
confirmation count, and the state it replaces was held for the minimum
duration. Each decision names the one before it.
-/

namespace Godzilla.MarketState
open Godzilla Features MarketData Misc

variable {F : Type} [PyFloat F] [Platform]

/-- The state held just before `e`: the newest state, `RISK_OFF` in a new session. -/
def heldBefore (before : List (Entry F)) (e : Entry F) : MarketState :=
  match before.getLast? with
  | none => .riskOff
  | some newest => if e.session = newest.session then newest.decision.state else .riskOff

/-- The state held before `e` had started at least `seconds` earlier. The `RISK_OFF` of
    a new session starts with `e` itself. -/
def HeldFor (seconds : Nat) (before : List (Entry F)) (e : Entry F) : Prop :=
  (opensSession before e.session ∧ seconds = 0) ∨
  ∃ old first mid, before = old ++ first :: mid ∧
    (∀ x ∈ first :: mid, x.decision.state = heldBefore before e ∧ x.session = e.session) ∧
    secondsOf seconds ≤ e.decision.timestamp - first.decision.timestamp

variable {cfg : RouterSettings F} {calendar : ExchangeCalendar} {timezone : String}
  {s : RouterRun F} {call : RouteCall F}

theorem Tracks.held_state (h : Tracks cfg calendar timezone s) {e : Entry F} (now : Instant) :
    (s.router.held e.session now).1 = heldBefore s.trace e := by
  cases hnew : s.router.newSession e.session with
  | true =>
    have hopens := (h.newSession_iff e.session).mp hnew
    unfold heldBefore
    split
    · simp [MarketStateRouter.held, hnew]
    · rename_i newest hlast
      rw [if_neg (hopens newest hlast)]
      simp [MarketStateRouter.held, hnew]
  | false =>
    obtain ⟨newest, hlast, hsession, hheld⟩ := h.held_eq now hnew
    rw [hheld]
    simp [heldBefore, hlast, hsession]

/-- The dwell time the router measures is time the state was held in the record. -/
theorem Tracks.heldFor (h : Tracks cfg calendar timezone s) {e : Entry F} {seconds : Nat}
    (hdwell : secondsOf seconds ≤
      e.decision.timestamp - (s.router.held e.session e.decision.timestamp).2) :
    HeldFor seconds s.trace e := by
  cases hnew : s.router.newSession e.session with
  | true =>
    left
    refine ⟨(h.newSession_iff e.session).mp hnew, ?_⟩
    have hzero : secondsOf seconds ≤ 0 := by
      simpa [MarketStateRouter.held, hnew] using hdwell
    unfold secondsOf at hzero
    grind
  | false =>
    right
    obtain ⟨newest, hlast, hsession, hheld⟩ := h.held_eq e.decision.timestamp hnew
    obtain ⟨old, first, mid, htrace, hfirst, hall⟩ := h.since newest hlast
    refine ⟨old, first, mid, htrace, ?_, ?_⟩
    · intro x hx
      rw [← h.held_state e.decision.timestamp, hheld]
      exact ⟨(hall x hx).1, (hall x hx).2.trans hsession.symm⟩
    · rwa [hheld, ← hfirst] at hdwell

/-- The counter of an admitted call is reached by a streak that ends with it. -/
theorem Tracks.confirmed_streak (h : Tracks cfg calendar timezone s)
    (hpast : ∀ last, s.router.last = some last → last.timestamp ≤ call.now)
    (hnew : ∀ last, s.router.last = some last → last.timestamp < call.now)
    (hcount : cfg.confirmationCount ≤ s.router.confirm call (s.router.assess call)) :
    ∃ old mid, s.trace = old ++ mid ∧
      (∀ x ∈ mid ++ [s.entry call hpast],
        x.decision.candidate = (s.router.assess call).candidate ∧
          x.session = (s.router.assess call).opening) ∧
      (mid ++ [s.entry call hpast]).IsChain (Close cfg) ∧
      cfg.confirmationCount ≤ freshCount old (mid ++ [s.entry call hpast]) := by
  obtain ⟨old, mid, htrace, hfresh, hchain, hmid⟩ := h.streak_commit hpast hnew
  change s.router.confirm call (s.router.assess call) = freshCount old mid at hfresh
  rcases List.eq_nil_or_concat mid with rfl | ⟨mid, y, rfl⟩
  · -- the counter is positive, so its streak is not empty
    have := cfg.confirmationCount_pos
    simp only [freshCount] at hfresh
    omega
  · rw [List.concat_eq_append] at htrace hfresh hchain hmid
    obtain ⟨hsplit, hy⟩ := List.append_inj' (htrace.trans (List.append_assoc _ _ _).symm) rfl
    obtain rfl := List.singleton_inj.mp hy
    refine ⟨old, mid, hsplit, ?_, hchain, hfresh ▸ hcount⟩
    intro x hx
    obtain ⟨hpending, hsession⟩ := hmid x hx
    exact ⟨(Option.some.inj hpending).symm,
      hsession (s.entry call hpast) (by simp [RouterRun.commit])⟩

variable (cfg calendar timezone)

/-- In every run, a decision whose state is a trend or chop other than the state held
    before it closes a confirmed streak, and the state before had lasted; every decision
    names the state and the hash of the decision before it. -/
theorem transition_confirmed (calls : List (RouteCall F)) {before after : List (Entry F)}
    {e : Entry F}
    (htrace : (routerRun cfg calendar timezone calls).trace = before ++ e :: after) :
    (e.decision.state ∈ [.trendUp, .trendDown, .chop] →
      e.decision.state ≠ heldBefore before e →
      ∃ old mid, before = old ++ mid ∧
        (∀ x ∈ mid ++ [e], x.decision.candidate = e.decision.state ∧ x.session = e.session) ∧
        (mid ++ [e]).IsChain (Close cfg) ∧
        cfg.confirmationCount ≤ freshCount old (mid ++ [e]) ∧
        HeldFor cfg.minDurationSeconds before e) ∧
    e.decision.previousState = before.getLast?.elim .riskOff (·.decision.state) ∧
    e.decision.priorDecisionHash = before.getLast?.map (·.decision.decisionHash) := by
  obtain ⟨s, h, rfl, call, -, hpast, rfl, hnew⟩ := entry_decided cfg calendar timezone calls htrace
  set a := s.router.assess call with ha
  refine ⟨?_, ?_, ?_⟩
  · intro hkind hchange
    rcases s.router.transition_cases call a (s.router.confirm call a) with
      ⟨hs, -⟩ | ⟨hs, -, hmove⟩
    · -- the state did not change
      have hheld := h.held_state (e := s.entry call hpast) call.now
      exact absurd ((congrArg Prod.fst hs).trans hheld) hchange
    have hcand : (s.router.decision call hpast).state = a.candidate := congrArg Prod.fst hs
    rcases hmove with himm | ⟨hcount, hdwell⟩
    · change (s.router.decision call hpast).state ∈ _ at hkind
      rw [hcand] at hkind
      cases hc : a.candidate <;> simp [hc, MarketStateRouter.immediate] at hkind himm
    rw [h.settings] at hcount hdwell
    obtain ⟨old, mid, hsplit, hall, hchain, hfresh⟩ := h.confirmed_streak hpast hnew hcount
    refine ⟨old, mid, hsplit, ?_, hchain, hfresh, h.heldFor hdwell⟩
    intro x hx
    exact ⟨(hall x hx).1.trans hcand.symm, (hall x hx).2⟩
  · show s.router.previous = _
    rw [MarketStateRouter.previous, h.last]
    cases s.trace.getLast? <;> rfl
  · show s.router.last.map (·.decisionHash) = _
    rw [h.last, Option.map_map]
    rfl

end Godzilla.MarketState

namespace Godzilla.MarketState.Sample
open Features MarketData Godzilla.Sample

/-- The third call of an upward trend opens `TREND_UP`. -/
theorem transition_confirmed_trend :
    ∃ before e, (routerRun settings calendar "Asia/Kolkata"
        [call 3600 0, call 3900 0, call 4200 0]).trace = before ++ [e] ∧
      e.decision.state = .trendUp ∧ heldBefore before e = .riskOff ∧
      HeldFor settings.minDurationSeconds before e := by
  set trace := (routerRun settings calendar "Asia/Kolkata"
    [call 3600 0, call 3900 0, call 4200 0]).trace with htrace
  have hfinal : (trace.getLast?.map fun e => (e.decision.state, heldBefore trace.dropLast e)) =
      some (.trendUp, .riskOff) := by decide +kernel
  obtain ⟨e, he, hpair⟩ := Option.map_eq_some_iff.mp hfinal
  obtain ⟨hstate, hheld⟩ := Prod.mk.inj hpair
  have hsplit : trace = trace.dropLast ++ e :: [] := (List.dropLast_append_getLast? e he).symm
  obtain ⟨hconfirmed, -, -⟩ := transition_confirmed settings calendar "Asia/Kolkata"
    [call 3600 0, call 3900 0, call 4200 0] hsplit
  obtain ⟨-, -, -, -, -, -, hdwell⟩ :=
    hconfirmed (by rw [hstate]; decide) (by rw [hstate, hheld]; decide)
  exact ⟨trace.dropLast, e, hsplit, hstate, hheld, hdwell⟩

end Godzilla.MarketState.Sample
