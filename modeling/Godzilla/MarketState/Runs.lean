import Godzilla.MarketState.RouterFacts
import Godzilla.Misc.Transition
import Mathlib.Data.List.Chain

/-!
# Runs of the router

A run feeds calls to a fresh router and records an entry for every decision it
commits. Calls that raise and redelivered calls leave both the router and the
record unchanged, so the record is the sequence of decisions of the run.
`Tracks` says what each piece of carried state means in terms of that record;
it holds after every run.
-/

namespace Godzilla.MarketState
open Godzilla Features MarketData Misc

/-- A committed decision and the call it answered. -/
structure Entry (F : Type) [PyFloat F] [Platform] where
  call : RouteCall F
  decision : StateDecision F

/-- A router with the decisions it has committed, oldest first. -/
structure RouterRun (F : Type) [PyFloat F] [Platform] where
  router : MarketStateRouter F
  trace : List (Entry F) := []

variable {F : Type} [PyFloat F] [Platform]

namespace Entry

/-- The session the decision was made in. -/
def session (e : Entry F) : Option Instant := e.decision.evidence.sessionOpen

end Entry

/-- `MarketStateRouter(settings, calendar, timezone, metrics)`. -/
def freshRouter (cfg : RouterSettings F) (calendar : ExchangeCalendar) (timezone : String) :
    MarketStateRouter F :=
  { settings := cfg, calendar := calendar, timezone := timezone }

/-- One call on the router of a run. -/
def RouterRun.step (s : RouterRun F) (call : RouteCall F) : RouterRun F :=
  match s.router.admission call, s.router.route call with
  | .admitted, (.ok decision, router) => ⟨router, s.trace ++ [⟨call, decision⟩]⟩
  | _, (_, router) => ⟨router, s.trace⟩

/-- The run of a fresh router on a sequence of calls. -/
def routerRun (cfg : RouterSettings F) (calendar : ExchangeCalendar) (timezone : String)
    (calls : List (RouteCall F)) : RouterRun F :=
  run RouterRun.step ⟨freshRouter cfg calendar timezone, []⟩ calls

/-- The entry of an admitted call. -/
def RouterRun.entry (s : RouterRun F) (call : RouteCall F)
    (hpast : ∀ last, s.router.last = some last → last.timestamp ≤ call.now) : Entry F :=
  ⟨call, s.router.decision call hpast⟩

section

variable {s : RouterRun F} {call : RouteCall F}
  {hpast : ∀ last, s.router.last = some last → last.timestamp ≤ call.now}

@[simp] theorem RouterRun.entry_call : (s.entry call hpast).call = call := rfl

@[simp] theorem RouterRun.entry_decision :
    (s.entry call hpast).decision = s.router.decision call hpast := rfl

end

/-- The router and record after an admitted call. -/
def RouterRun.commit (s : RouterRun F) (call : RouteCall F)
    (hpast : ∀ last, s.router.last = some last → last.timestamp ≤ call.now) : RouterRun F :=
  ⟨s.router.committed call (s.router.decision call hpast), s.trace ++ [s.entry call hpast]⟩

/-- A step changes nothing, or commits the decision of an admitted call. -/
theorem RouterRun.step_cases (s : RouterRun F) (call : RouteCall F) :
    s.step call = s ∨
    ∃ hpast : ∀ last, s.router.last = some last → last.timestamp ≤ call.now,
      s.step call = s.commit call hpast ∧ ∀ last, s.router.last = some last →
        last.timestamp < call.now ∧ s.router.identity ≠ some call.identity := by
  rcases s.router.admission_cases call with
    ⟨last, -, -, ha⟩ | ⟨last, -, -, ha⟩ | ⟨last, -, -, ha⟩ | ⟨ha, hnew⟩
  · left; simp [RouterRun.step, MarketStateRouter.route, ha]
  · left; simp [RouterRun.step, MarketStateRouter.route, ha]
  · left; simp [RouterRun.step, MarketStateRouter.route, ha]
  · right
    have hpast : ∀ last, s.router.last = some last → last.timestamp ≤ call.now :=
      fun last hl => le_of_lt (hnew last hl).1
    refine ⟨hpast, ?_, hnew⟩
    rw [RouterRun.step, MarketStateRouter.route, ha]
    simp only [MarketStateRouter.decideNow_eq hpast]
    rfl

/-- How many entries of a segment carry a snapshot newer than every earlier one of
    the run, `earlier` being what precedes the segment. -/
def freshCount (earlier : List (Entry F)) : List (Entry F) → Nat
  | [] => 0
  | e :: rest =>
    (if ∀ x ∈ earlier, x.call.snapshot.timestamp < e.call.snapshot.timestamp then 1 else 0) +
      freshCount (earlier ++ [e]) rest

theorem freshCount_concat (earlier mid : List (Entry F)) (e : Entry F) :
    freshCount earlier (mid ++ [e]) = freshCount earlier mid +
      if ∀ x ∈ earlier ++ mid, x.call.snapshot.timestamp < e.call.snapshot.timestamp
      then 1 else 0 := by
  induction mid generalizing earlier with
  | nil => simp [freshCount]
  | cons head rest ih =>
    simp only [List.cons_append, freshCount, ih, List.append_assoc, List.nil_append, Nat.add_assoc]

/-- Consecutive decisions no further apart than the confirmation gap. -/
def Close (cfg : RouterSettings F) (x y : Entry F) : Prop :=
  x.decision.timestamp < y.decision.timestamp ∧
    y.decision.timestamp - x.decision.timestamp ≤ secondsOf cfg.maxConfirmationGapSeconds

/-- What the carried state of the router means in terms of the record. -/
structure Tracks (cfg : RouterSettings F) (calendar : ExchangeCalendar) (timezone : String)
    (s : RouterRun F) : Prop where
  settings : s.router.settings = cfg
  calendar : s.router.calendar = calendar
  timezone : s.router.timezone = timezone
  /-- `_last` and `_identity` belong to the newest entry. -/
  last : s.router.last = s.trace.getLast?.map (·.decision)
  identity : s.router.identity = s.trace.getLast?.map (·.call.identity)
  /-- `_feature_time` is the newest snapshot time of the record. -/
  marked : ∀ t, (∀ seen, s.router.featureTime = some seen → seen < t) ↔
    ∀ e ∈ s.trace, e.call.snapshot.timestamp < t
  /-- `_count` counts the fresh snapshots of the streak of `_pending` candidates. -/
  streak : ∃ old mid, s.trace = old ++ mid ∧ s.router.count = freshCount old mid ∧
    mid.IsChain (Close cfg) ∧
    ∀ x ∈ mid, s.router.pending = some x.decision.candidate ∧
      ∀ newest, s.trace.getLast? = some newest → x.session = newest.session
  /-- `state_since` is the time of the entry from which the state has been held. -/
  since : ∀ newest, s.trace.getLast? = some newest → ∃ old first mid,
    s.trace = old ++ first :: mid ∧ first.decision.timestamp = newest.decision.stateSince ∧
    ∀ x ∈ first :: mid, x.decision.state = newest.decision.state ∧ x.session = newest.session

section Step

variable {cfg : RouterSettings F} {calendar : ExchangeCalendar} {timezone : String}
  {s : RouterRun F} {call : RouteCall F}

theorem tracks_fresh : Tracks cfg calendar timezone ⟨freshRouter cfg calendar timezone, []⟩ where
  settings := rfl
  calendar := rfl
  timezone := rfl
  last := rfl
  identity := rfl
  marked := by simp [freshRouter]
  streak := ⟨[], [], rfl, rfl, .nil, by simp⟩
  since := by simp

/-- A call opens a session when nothing precedes it or the session changed. -/
def opensSession (before : List (Entry F)) (session : Option Instant) : Prop :=
  ∀ newest, before.getLast? = some newest → session ≠ newest.session

theorem Tracks.newSession_iff (h : Tracks cfg calendar timezone s) (opening : Option Instant) :
    s.router.newSession opening = true ↔ opensSession s.trace opening := by
  unfold MarketStateRouter.newSession opensSession
  rw [h.last]
  cases s.trace.getLast? with
  | none => simp
  | some newest => simp [Entry.session]

theorem Tracks.freshObservation_iff (h : Tracks cfg calendar timezone s)
    (snapshot : FeatureSnapshot F) :
    s.router.freshObservation snapshot = true ↔
      ∀ x ∈ s.trace, x.call.snapshot.timestamp < snapshot.timestamp := by
  rw [← h.marked]
  unfold MarketStateRouter.freshObservation
  cases s.router.featureTime <;> simp

/-- Within the gap of the newest decision. -/
theorem Tracks.close_of_not_gap (h : Tracks cfg calendar timezone s) {newest e : Entry F}
    (hlast : s.trace.getLast? = some newest) (he : e.decision.timestamp = call.now)
    (hgap : s.router.gapExceeded call.now = false)
    (hnew : ∀ last, s.router.last = some last → last.timestamp < call.now) :
    Close cfg newest e := by
  have hl : s.router.last = some newest.decision := by rw [h.last, hlast]; rfl
  simp only [MarketStateRouter.gapExceeded, hl, h.settings, decide_eq_false_iff_not, not_lt] at hgap
  exact ⟨he ▸ hnew _ hl, he ▸ hgap⟩

/-- Off a new session the call builds on the newest decision. -/
theorem Tracks.held_eq (h : Tracks cfg calendar timezone s) {opening : Option Instant}
    (now : Instant) (hnew : s.router.newSession opening = false) :
    ∃ newest, s.trace.getLast? = some newest ∧ opening = newest.session ∧
      s.router.held opening now = (newest.decision.state, newest.decision.stateSince) := by
  have hopen : ¬ opensSession s.trace opening := by
    rw [← h.newSession_iff]; simp [hnew]
  unfold opensSession at hopen
  push Not at hopen
  obtain ⟨newest, hlast, hsession⟩ := hopen
  refine ⟨newest, hlast, hsession, ?_⟩
  simp [MarketStateRouter.held, hnew, MarketStateRouter.previous, h.last, hlast]

variable (hpast : ∀ last, s.router.last = some last → last.timestamp ≤ call.now)
  (hnew : ∀ last, s.router.last = some last → last.timestamp < call.now)

theorem Tracks.marked_commit (h : Tracks cfg calendar timezone s) (t : Instant) :
    (∀ seen, (s.commit call hpast).router.featureTime = some seen → seen < t) ↔
      ∀ e ∈ (s.commit call hpast).trace, e.call.snapshot.timestamp < t := by
  have hold := h.marked t
  simp only [RouterRun.commit, MarketStateRouter.committed, List.mem_append, List.mem_singleton,
    Option.some.injEq, forall_eq', or_imp, forall_and, forall_eq, ← hold]
  cases s.router.featureTime with
  | none => simp
  | some seen => simp [and_comm]

include hnew in
theorem Tracks.streak_commit (h : Tracks cfg calendar timezone s) :
    ∃ old mid, (s.commit call hpast).trace = old ++ mid ∧
      (s.commit call hpast).router.count = freshCount old mid ∧ mid.IsChain (Close cfg) ∧
      ∀ x ∈ mid, (s.commit call hpast).router.pending = some x.decision.candidate ∧
        ∀ newest, (s.commit call hpast).trace.getLast? = some newest →
          x.session = newest.session := by
  set a := s.router.assess call with ha
  set e := s.entry call hpast with he
  have hcount : (s.commit call hpast).router.count = s.router.confirm call a := rfl
  have hfresh : (if s.router.freshObservation call.snapshot then 1 else 0) =
      if ∀ x ∈ s.trace, x.call.snapshot.timestamp < e.call.snapshot.timestamp then 1 else 0 := by
    simp only [h.freshObservation_iff, he, RouterRun.entry]
  have hnewest : (s.commit call hpast).trace.getLast? = some e := by
    simp [RouterRun.commit, he]
  rw [hcount, MarketStateRouter.confirm_eq, MarketStateRouter.carried, hfresh, hnewest]
  obtain ⟨old, mid, htrace, hold, hchain, hmid⟩ := h.streak
  by_cases hkeep : s.router.newSession a.opening = false ∧
      s.router.gapExceeded call.now = false ∧ s.router.pending = some a.candidate
  · -- the streak continues: the new entry extends it
    obtain ⟨hsame, hgap, hpending⟩ := hkeep
    obtain ⟨newest, hlast, hsession, -⟩ := h.held_eq call.now hsame
    refine ⟨old, mid ++ [e], ?_, ?_, ?_, ?_⟩
    · simp [RouterRun.commit, htrace, he]
    · rw [if_pos ⟨hsame, hgap, hpending⟩, freshCount_concat, hold, htrace]
    · rw [List.isChain_append]
      refine ⟨hchain, List.isChain_singleton _, ?_⟩
      intro x hx y hy
      obtain rfl : e = y := by simpa using hy
      have hx' : s.trace.getLast? = some x := by
        rw [htrace, List.getLast?_append, Option.mem_def.mp hx]; rfl
      exact h.close_of_not_gap hx' rfl hgap hnew
    · intro x hx
      rcases List.mem_append.mp hx with hx | hx
      · refine ⟨hpending.symm.trans (hmid x hx).1, ?_⟩
        rintro _ ⟨⟩
        exact ((hmid x hx).2 newest hlast).trans hsession.symm
      · obtain rfl := List.mem_singleton.mp hx
        exact ⟨rfl, by rintro _ ⟨⟩; rfl⟩
  · -- the counter was reset: the streak is the new entry alone
    refine ⟨s.trace, [e], rfl, ?_, List.isChain_singleton _, ?_⟩
    · rw [if_neg hkeep]; simp [freshCount]
    · intro x hx
      obtain rfl := List.mem_singleton.mp hx
      exact ⟨rfl, by rintro _ ⟨⟩; rfl⟩

theorem Tracks.since_commit (h : Tracks cfg calendar timezone s) :
    ∃ old first mid, (s.commit call hpast).trace = old ++ first :: mid ∧
      first.decision.timestamp = (s.router.decision call hpast).stateSince ∧
      ∀ x ∈ first :: mid, x.decision.state = (s.router.decision call hpast).state ∧
        x.session = (s.router.assess call).opening := by
  set a := s.router.assess call with ha
  set e := s.entry call hpast with he
  have hstart : (s.router.decision call hpast).stateSince = call.now →
      ∃ old first mid, (s.commit call hpast).trace = old ++ first :: mid ∧
        first.decision.timestamp = (s.router.decision call hpast).stateSince ∧
        ∀ x ∈ first :: mid, x.decision.state = (s.router.decision call hpast).state ∧
          x.session = a.opening := by
    intro hs
    refine ⟨s.trace, e, [], rfl, hs.symm, ?_⟩
    intro x hx
    obtain rfl := List.mem_singleton.mp hx
    exact ⟨rfl, rfl⟩
  rcases s.router.transition_cases call a (s.router.confirm call a) with ⟨hs, -⟩ | ⟨hs, -⟩
  · cases hsame : s.router.newSession a.opening with
    | true =>
      apply hstart
      show (s.router.transition call a (s.router.confirm call a)).1.2 = call.now
      rw [hs]
      simp [MarketStateRouter.held, hsame]
    | false =>
      obtain ⟨newest, hlast, hsession, hheld⟩ := h.held_eq call.now hsame
      obtain ⟨old, first, mid, htrace, hfirst, hall⟩ := h.since newest hlast
      rw [hheld] at hs
      have hstate : (s.router.decision call hpast).state = newest.decision.state :=
        congrArg Prod.fst hs
      have hsince : (s.router.decision call hpast).stateSince = newest.decision.stateSince :=
        congrArg Prod.snd hs
      refine ⟨old, first, mid ++ [e], ?_, hfirst.trans hsince.symm, ?_⟩
      · simp [RouterRun.commit, htrace, he]
      · intro x hx
        rw [← List.cons_append, List.mem_append, List.mem_singleton] at hx
        rcases hx with hx | rfl
        · exact ⟨(hall x hx).1.trans hstate.symm, (hall x hx).2.trans hsession.symm⟩
        · exact ⟨rfl, rfl⟩
  · exact hstart (congrArg Prod.snd hs)

include hnew in
/-- Committing an admitted call keeps the record in step with the router. -/
theorem Tracks.commit (h : Tracks cfg calendar timezone s) :
    Tracks cfg calendar timezone (s.commit call hpast) where
  settings := h.settings
  calendar := h.calendar
  timezone := h.timezone
  last := by simp [RouterRun.commit, MarketStateRouter.committed]
  identity := by simp [RouterRun.commit, MarketStateRouter.committed]
  marked := h.marked_commit hpast
  streak := h.streak_commit hpast hnew
  since := by
    intro newest hlast
    obtain rfl : s.entry call hpast = newest := by
      simpa [RouterRun.commit] using hlast
    exact h.since_commit hpast

/-- One call keeps the record in step with the router. -/
theorem Tracks.step (h : Tracks cfg calendar timezone s) (call : RouteCall F) :
    Tracks cfg calendar timezone (s.step call) := by
  rcases s.step_cases call with hs | ⟨hpast, hs, hnew⟩
  · rw [hs]; exact h
  · rw [hs]; exact h.commit hpast fun last hl => (hnew last hl).1

end Step

section Run

variable (cfg : RouterSettings F) (calendar : ExchangeCalendar) (timezone : String)

/-- The record tracks the router after every run. -/
theorem tracks_run (calls : List (RouteCall F)) :
    Tracks cfg calendar timezone (routerRun cfg calendar timezone calls) :=
  run_invariant tracks_fresh (fun _ call h => h.step call) calls

/-- Entry `e` answers one of `calls`, by a router that tracked the entries before it. -/
def Decided (calls : List (RouteCall F)) (before : List (Entry F)) (e : Entry F) : Prop :=
  ∃ s : RouterRun F, Tracks cfg calendar timezone s ∧ s.trace = before ∧
    ∃ call ∈ calls, ∃ hpast : ∀ last, s.router.last = some last → last.timestamp ≤ call.now,
      e = s.entry call hpast ∧ ∀ last, s.router.last = some last → last.timestamp < call.now

/-- Every entry of a run was decided so. -/
theorem entry_decided (calls : List (RouteCall F)) {before after : List (Entry F)} {e : Entry F}
    (htrace : (routerRun cfg calendar timezone calls).trace = before ++ e :: after) :
    Decided cfg calendar timezone calls before e := by
  have hrun := run_history (f := RouterRun.step) (s := ⟨freshRouter cfg calendar timezone, []⟩)
    (P := fun seen s => Tracks cfg calendar timezone s ∧ ∀ before e after,
      s.trace = before ++ e :: after → Decided cfg calendar timezone seen before e)
    ⟨tracks_fresh, by simp⟩ ?_ calls
  · exact hrun.2 before e after htrace
  rintro seen s call ⟨htracks, hall⟩
  have hearlier : ∀ before e after, s.trace = before ++ e :: after →
      Decided cfg calendar timezone (seen ++ [call]) before e := by
    intro before e after htrace
    obtain ⟨s', hs', hbefore, call', hmem, rest⟩ := hall before e after htrace
    exact ⟨s', hs', hbefore, call', List.mem_append_left _ hmem, rest⟩
  refine ⟨htracks.step call, ?_⟩
  intro before e after htrace
  rcases s.step_cases call with hs | ⟨hpast, hs, hnew⟩
  · rw [hs] at htrace
    exact hearlier before e after htrace
  · rw [hs] at htrace
    rcases concat_split htrace with ⟨rfl, rfl, rfl⟩ | ⟨after', rfl, hsplit⟩
    · -- the newest entry
      exact ⟨s, htracks, rfl, call, by simp, hpast, rfl, fun last hl => (hnew last hl).1⟩
    · exact hearlier before e after' hsplit

end Run

end Godzilla.MarketState

/-! Inputs to run the router on: default settings, a session on every day, and
    calls whose snapshot is a clear upward trend. -/

namespace Godzilla.MarketState.Sample
open Features MarketData Godzilla.Sample

/-- The default settings of the source. -/
def settings : RouterSettings ℚ where
  vwapDistance := 1 / 1000
  slope15m := 2 / 10000
  slope30m := 1 / 10000
  breadthFraction := 6 / 10
  highRealizedVol := 5 / 1000
  highRangeVol := 1 / 100
  highVix := 25
  openingGap := 15 / 1000
  trendMultiplier := 1
  chopMultiplier := 1 / 2
  highVolMultiplier := 1 / 4
  vwapDistance_range := by decide +kernel
  slope15m_range := by decide +kernel
  slope30m_range := by decide +kernel
  breadthFraction_range := by decide +kernel
  highRealizedVol_pos := by decide +kernel
  highRangeVol_pos := by decide +kernel
  highVix_pos := by decide +kernel
  openingGap_range := by decide +kernel
  shockWindow_pos := by decide
  confirmationCount_pos := confirmation_count_default
  maxConfirmationGap_pos := by decide
  trendMultiplier_range := by decide +kernel
  chopMultiplier_range := by decide +kernel
  highVolMultiplier_range := by decide +kernel
  shock_covers := by decide
  multipliers_ordered := by decide +kernel

/-- An exchange that opens every day. -/
def calendar : ExchangeCalendar where
  sessionOn day := .ok (some
    { sessionDate := day
      timezone := "Asia/Kolkata"
      times :=
        { preopenStart := minutesOf 540
          openTime := minutesOf 555
          finalEntryTime := minutesOf 900
          flattenStartTime := minutesOf 910
          hardFlattenDeadline := minutesOf 920
          marketClose := minutesOf 930
          ordered := by decide
          within_day := by decide } })

/-- A feature with a value. -/
def feature (name : String) (value : ℚ) : FeatureValue ℚ := ⟨name, some value, none, by simp⟩

/-- A snapshot of an upward trend. -/
def snapshot (timestamp : Instant) : FeatureSnapshot ℚ where
  entity := "NIFTY"
  timestamp := timestamp
  featureSetHash := "features"
  contextHash := "context"
  inputHash := "inputs"
  codeCommit := "commit"
  configHash := "config"
  dataSnapshot := "data"
  values :=
    [ feature "market.breadth_advancing" (8 / 10), feature "market.breadth_coverage" 1,
      feature "market.breadth_declining" (1 / 10), feature "market.range_volatility" (1 / 1000),
      feature "market.realized_volatility" (1 / 1000), feature "market.slope_15m" (1 / 100),
      feature "market.slope_30m" (1 / 100), feature "market.vwap_distance" (1 / 100) ]
  ordered_unique := by decide +kernel

/-- A healthy call at `seconds` after the open of day 0, with a snapshot dated `skew`
    seconds later. -/
def call (seconds skew : Int) : RouteCall ℚ where
  snapshot := snapshot (secondsOf (13500 + seconds + skew))
  health :=
    { observedAt := secondsOf (13500 + seconds)
      systemStatus := .healthy
      riskStatus := .healthy
      blocksNewEntries := false }
  now := secondsOf (13500 + seconds)

example : ((routerRun settings calendar "Asia/Kolkata"
    [call 3600 0, call 3900 0, call 4200 0]).trace.map (·.decision.state)) =
      [.riskOff, .riskOff, .trendUp] := by decide +kernel

end Godzilla.MarketState.Sample
