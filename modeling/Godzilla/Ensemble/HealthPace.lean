import Godzilla.Ensemble.Health
import Godzilla.Misc.Paced
import Mathlib.Data.List.Chain

/-!
# The pace of the health multiplier

Over any chain of measurements the multiplier stays in its range, is cut at once when
the window deteriorates, waits for enough trades, and rises only for newly closed ones,
by at most one increase for each interval that has passed and one more.
-/

namespace Godzilla.Ensemble
open Godzilla Misc Features MarketState

section Step

variable {F : Type} [PyFloat F] {cfg : AlphaHealthSettings F} {measured : Measured F}

/-- The measures of a window agree with each other. -/
structure Measured.Coherent (measured : Measured F) : Prop where
  expectancy : measured.trades ≠ [] → measured.expectancy.isSome
  drawdown : measured.trades = [] → measured.drawdown = 0

theorem measure_coherent (trades : List TradeOutcome) : (measure trades : Measured F).Coherent := by
  constructor
  · intro hne
    simpa [measure] using hne
  · rintro (rfl : trades = [])
    rfl

/-- A drawdown at the limit cuts the multiplier, since it comes from trades. -/
theorem deteriorated_of_drawdown (hcoherent : measured.Coherent)
    (h : cfg.maxReturnDrawdown ≤ measured.drawdown) : measured.deteriorated cfg := by
  by_cases hempty : measured.trades = []
  · have hpos := cfg.drawdown_pos
    rw [hcoherent.drawdown hempty] at h
    exact absurd hpos (not_lt.mpr h)
  · obtain ⟨expectancy, hexpectancy⟩ := Option.isSome_iff_exists.mp (hcoherent.expectancy hempty)
    exact ⟨expectancy, hexpectancy, Or.inr h⟩

variable {alpha : AlphaId} {previous : Option (AlphaHealthSnapshot F)}
  {snapshot : AlphaHealthSnapshot F}

/-- What a snapshot says of its window. -/
structure SnapshotOf (alpha : AlphaId) (cfg : AlphaHealthSettings F) (now : Instant)
    (previous : Option (AlphaHealthSnapshot F)) (measured : Measured F)
    (snapshot : AlphaHealthSnapshot F) : Prop where
  coherent : measured.Coherent
  predecessor : ∀ p ∈ previous, ¬ invalidPredecessor alpha cfg now p
  alphaId : snapshot.alphaId = alpha
  timestamp : snapshot.timestamp = now
  settings : snapshot.settings = cfg
  trades : snapshot.trades = measured.trades.length
  netExpectancy : snapshot.netExpectancy = measured.expectancy
  drawdown : snapshot.drawdown = measured.drawdown
  lastTradeAt : snapshot.lastTradeAt = measured.lastTrade
  multiplier : snapshot.multiplier.value = (nextMultiplier measured cfg now previous).1
  lastIncreaseAt : snapshot.lastIncreaseAt = (nextMultiplier measured cfg now previous).2

namespace SnapshotOf

variable {now : Instant} (hsnapshot : SnapshotOf alpha cfg now previous measured snapshot)
include hsnapshot

theorem multiplier_range : cfg.minimumMultiplier ≤ snapshot.multiplier.value ∧
    snapshot.multiplier.value ≤ cfg.maximumMultiplier := by
  obtain ⟨hminimum, hmaximum⟩ := snapshot.bounds_match
  rw [hsnapshot.settings] at hminimum hmaximum
  rw [← hminimum, ← hmaximum]
  exact ⟨snapshot.multiplier.bounded.2.1, snapshot.multiplier.bounded.2.2.1⟩

theorem multiplier_cut (h : (∃ e ∈ snapshot.netExpectancy, e ≤ 0) ∨
    cfg.maxReturnDrawdown ≤ snapshot.drawdown) :
    snapshot.multiplier.value = cfg.minimumMultiplier := by
  have hdeteriorated : measured.deteriorated cfg := by
    rw [hsnapshot.netExpectancy, hsnapshot.drawdown] at h
    rcases h with ⟨e, he, hle⟩ | h
    · exact ⟨e, he, Or.inl hle⟩
    · exact deteriorated_of_drawdown hsnapshot.coherent h
  rw [hsnapshot.multiplier, nextMultiplier, if_pos hdeteriorated]

/-- The multiplier and its last increase are carried over, or the multiplier is cut, or it
    rises by at most the increase. -/
theorem multiplier_cases :
    (measured.deteriorated cfg ∧ snapshot.multiplier.value = cfg.minimumMultiplier ∧
      snapshot.lastIncreaseAt = (previous.map (·.lastIncreaseAt)).getD now) ∨
    (¬ measured.deteriorated cfg ∧ mayIncrease measured cfg now previous ∧
      snapshot.multiplier.value = min cfg.maximumMultiplier
        (carriedMultiplier measured cfg previous + cfg.maxIncrease) ∧
      snapshot.lastIncreaseAt = now) ∨
    (¬ measured.deteriorated cfg ∧ ¬ mayIncrease measured cfg now previous ∧
      snapshot.multiplier.value = carriedMultiplier measured cfg previous ∧
      snapshot.lastIncreaseAt = (previous.map (·.lastIncreaseAt)).getD now) := by
  rw [hsnapshot.multiplier, hsnapshot.lastIncreaseAt, nextMultiplier]
  by_cases hdeteriorated : measured.deteriorated cfg
  · exact Or.inl ⟨hdeteriorated, by rw [if_pos hdeteriorated], by rw [if_pos hdeteriorated]⟩
  · by_cases hincrease : mayIncrease measured cfg now previous
    · refine Or.inr (Or.inl ⟨hdeteriorated, hincrease, ?_, ?_⟩) <;>
        rw [if_neg hdeteriorated, if_pos hincrease]
    · refine Or.inr (Or.inr ⟨hdeteriorated, hincrease, ?_, ?_⟩) <;>
        rw [if_neg hdeteriorated, if_neg hincrease]

theorem multiplier_warmup (h : snapshot.trades < cfg.minimumTrades) :
    snapshot.multiplier.value ≤ cfg.initialMultiplier := by
  rw [hsnapshot.trades, Int.ofNat_lt] at h
  rcases hsnapshot.multiplier_cases with ⟨-, hvalue, -⟩ | ⟨-, hincrease, -, -⟩ | ⟨-, -, hvalue, -⟩
  · rw [hvalue]
    exact cfg.ordered.1
  · cases previous with
    | none => exact hincrease.elim
    | some p => exact absurd hincrease.1 (not_le.mpr h)
  · rw [hvalue, carriedMultiplier, if_pos h]
    exact min_le_right _ _

end SnapshotOf

/-- What a rise of the multiplier over its predecessor takes. -/
def RiseEarned (cfg : AlphaHealthSettings F) (p s : AlphaHealthSnapshot F) : Prop :=
  (∃ last ∈ s.lastTradeAt, ∀ known ∈ p.lastTradeAt, known < last) ∧
    (∃ expectancy ∈ s.netExpectancy, 0 < expectancy) ∧
    s.drawdown < cfg.maxReturnDrawdown ∧ cfg.minimumTrades ≤ s.trades

/-- What is carried over from a predecessor is no more than its multiplier. -/
theorem carriedMultiplier_le (p : AlphaHealthSnapshot F) :
    carriedMultiplier measured cfg (some p) ≤ p.multiplier.value := by
  rw [carriedMultiplier]
  dsimp only [Option.map_some, Option.getD_some]
  split
  · exact min_le_left _ _
  · exact le_refl _

/-- One measurement after another: the multiplier rises only when it is earned, by at most the
    increase, and no sooner than the interval after the last rise. -/
theorem SnapshotOf.after {now : Instant} {p : AlphaHealthSnapshot F}
    (hpsettings : p.settings = cfg)
    (hsnapshot : SnapshotOf alpha cfg now (some p) measured snapshot) :
    p.timestamp < snapshot.timestamp ∧
    (p.multiplier.value < snapshot.multiplier.value → RiseEarned cfg p snapshot) ∧
    ((snapshot.multiplier.value ≤ p.multiplier.value ∧
        snapshot.lastIncreaseAt = p.lastIncreaseAt) ∨
      (snapshot.multiplier.value ≤ p.multiplier.value + cfg.maxIncrease ∧
        p.lastIncreaseAt + secondsOf cfg.increaseIntervalSeconds ≤ snapshot.timestamp ∧
        snapshot.lastIncreaseAt = snapshot.timestamp)) := by
  have hlater : p.timestamp < snapshot.timestamp := by
    have hvalid := hsnapshot.predecessor p rfl
    rw [invalidPredecessor, not_or, not_or, not_le] at hvalid
    rw [hsnapshot.timestamp]
    exact hvalid.2.2
  refine ⟨hlater, ?_⟩
  rcases hsnapshot.multiplier_cases with
    ⟨-, hvalue, hlast⟩ | ⟨hfine, ⟨htrades, hclosed, hinterval⟩, hvalue, hlast⟩ | ⟨-, -, hvalue, hlast⟩
  · have hle : snapshot.multiplier.value ≤ p.multiplier.value := by
      rw [hvalue, ← hpsettings, ← p.bounds_match.1]
      exact p.multiplier.bounded.2.1
    exact ⟨fun hrise => absurd hrise (not_lt.mpr hle), Or.inl ⟨hle, hlast⟩⟩
  · have hcarried : carriedMultiplier measured cfg (some p) = p.multiplier.value := by
      rw [carriedMultiplier, if_neg (not_lt.mpr htrades)]
      rfl
    refine ⟨fun _ => ⟨?_, ?_, ?_, ?_⟩, Or.inr ⟨?_, ?_, ?_⟩⟩
    · rw [hsnapshot.lastTradeAt]
      exact hclosed
    · -- there is a trade, so there is an expectancy
      have hne : measured.trades ≠ [] := by
        intro hempty
        have hminimum := cfg.minimum_pos
        rw [hempty, List.length_nil] at htrades
        omega
      obtain ⟨expectancy, hexpectancy⟩ :=
        Option.isSome_iff_exists.mp (hsnapshot.coherent.expectancy hne)
      refine ⟨expectancy, hsnapshot.netExpectancy ▸ hexpectancy, ?_⟩
      by_contra hle
      exact hfine ⟨expectancy, hexpectancy, Or.inl (not_lt.mp hle)⟩
    · rw [hsnapshot.drawdown]
      by_contra hle
      exact hfine (deteriorated_of_drawdown hsnapshot.coherent (not_lt.mp hle))
    · rw [hsnapshot.trades]
      exact_mod_cast htrades
    · rw [hvalue, hcarried]
      exact min_le_right _ _
    · rw [hsnapshot.timestamp]
      lia
    · rw [hlast, hsnapshot.timestamp]
  · have hle : snapshot.multiplier.value ≤ p.multiplier.value := by
      rw [hvalue]
      exact carriedMultiplier_le p
    exact ⟨fun hrise => absurd hrise (not_lt.mpr hle), Or.inl ⟨hle, hlast⟩⟩

variable [Platform] {call : MeasureCall}

theorem healthSnapshot_ok {measured : Measured F} (hcoherent : measured.Coherent)
    (hpredecessor : ∀ p ∈ previous, ¬ invalidPredecessor alpha cfg call.now p)
    (h : healthSnapshot alpha cfg call measured previous = .ok snapshot) :
    SnapshotOf alpha cfg call.now previous measured snapshot := by
  simp only [healthSnapshot] at h
  split at h
  · split at h
    · split at h
      · obtain rfl := Except.ok.inj h
        exact ⟨hcoherent, hpredecessor, rfl, rfl, rfl, rfl, rfl, rfl, rfl, rfl, rfl⟩
      · cases h
    · cases h
  · cases h

theorem measureHealth_ok (h : measureHealth alpha cfg call previous = .ok snapshot) :
    ∃ measured, SnapshotOf alpha cfg call.now previous measured snapshot := by
  cases hunique : uniqueTrades alpha call.now call.outcomes .empty with
  | error e => simp [measureHealth, hunique, bind, Except.bind] at h
  | ok unique =>
    simp only [measureHealth, hunique, bind, Except.bind] at h
    split at h
    · cases h
    rename_i hpredecessor
    split at h
    · cases h
    exact ⟨_, healthSnapshot_ok (measure_coherent _) (fun p hp hinvalid =>
      hpredecessor ⟨p, hp, hinvalid⟩) h⟩

end Step

section Chain

/-- The multiplier of a snapshot as a reading. -/
def AlphaHealthSnapshot.reading (snapshot : AlphaHealthSnapshot ℚ) : Reading ℚ :=
  ⟨snapshot.multiplier.value, snapshot.timestamp, snapshot.lastIncreaseAt⟩

/-- What holds between a snapshot and the next one. -/
structure Successor (cfg : AlphaHealthSettings ℚ) (p s : AlphaHealthSnapshot ℚ) : Prop where
  earned : p.multiplier.value < s.multiplier.value → RiseEarned cfg p s
  paced : PacedStep cfg.maxIncrease (secondsOf cfg.increaseIntervalSeconds) p.reading s.reading

/-- What holds of every snapshot of a chain. -/
structure Bounded (cfg : AlphaHealthSettings ℚ) (s : AlphaHealthSnapshot ℚ) : Prop where
  range : cfg.minimumMultiplier ≤ s.multiplier.value ∧ s.multiplier.value ≤ cfg.maximumMultiplier
  cut : (∃ e ∈ s.netExpectancy, e ≤ 0) ∨ cfg.maxReturnDrawdown ≤ s.drawdown →
    s.multiplier.value = cfg.minimumMultiplier
  warmup : s.trades < cfg.minimumTrades → s.multiplier.value ≤ cfg.initialMultiplier

/-- Between two snapshots of a chain the multiplier rises by no more than one increase for each
    full interval and one more. -/
theorem rise_le_of_successors {cfg : AlphaHealthSettings ℚ} {p s : AlphaHealthSnapshot ℚ}
    (hinterval : 0 < secondsOf cfg.increaseIntervalSeconds)
    (hsteps : Relation.TransGen (Successor cfg) p s) :
    s.multiplier.value - p.multiplier.value ≤ cfg.maxIncrease * (1 +
      ((s.timestamp - p.timestamp) / secondsOf cfg.increaseIntervalSeconds : Int)) := by
  have hpaced : Relation.ReflTransGen (PacedStep cfg.maxIncrease
      (secondsOf cfg.increaseIntervalSeconds)) p.reading s.reading := by
    induction hsteps with
    | single hstep => exact .single hstep.paced
    | tail _ hstep ih => exact .tail ih hstep.paced
  have hlimit : 0 ≤ cfg.maxIncrease := le_of_lt cfg.increase_range.1
  have hstart : p.reading.lastRise ≤ p.reading.time := p.increase_past
  have hrise := level_sub_le_of_steps hinterval hlimit hstart hpaced
  simpa only [AlphaHealthSnapshot.reading] using hrise

variable [Platform] {alpha : AlphaId}

theorem measureChain_ok {cfg : AlphaHealthSettings ℚ} {previous : Option (AlphaHealthSnapshot ℚ)}
    {calls : List MeasureCall} {snapshots : List (AlphaHealthSnapshot ℚ)}
    (hprevious : ∀ p ∈ previous, p.settings = cfg)
    (h : measureChain alpha cfg previous calls = .ok snapshots) :
    (∀ s ∈ snapshots, Bounded cfg s) ∧
      (previous.toList ++ snapshots).IsChain (Successor cfg) := by
  induction calls generalizing previous snapshots with
  | nil =>
    obtain rfl := Except.ok.inj h
    cases previous <;> simp
  | cons call rest ih =>
    cases hfirst : measureHealth alpha cfg call previous with
    | error e => simp [measureChain, hfirst, bind, Except.bind] at h
    | ok first =>
      cases hrest : measureChain alpha cfg (some first) rest with
      | error e => simp [measureChain, hfirst, hrest, bind, Except.bind] at h
      | ok later =>
        simp only [measureChain, hfirst, hrest, bind, Except.bind] at h
        obtain rfl := Except.ok.inj h
        obtain ⟨measured, hsnapshot⟩ := measureHealth_ok hfirst
        obtain ⟨hbounded, hchain⟩ := ih (by rintro p ⟨⟩; exact hsnapshot.settings) hrest
        refine ⟨?_, ?_⟩
        · intro s hs
          rcases List.mem_cons.mp hs with rfl | hs
          · exact ⟨hsnapshot.multiplier_range, hsnapshot.multiplier_cut,
              hsnapshot.multiplier_warmup⟩
          · exact hbounded s hs
        · cases previous with
          | none => exact hchain
          | some p =>
            obtain ⟨hlater, hearned, hpaced⟩ := hsnapshot.after (hprevious p rfl)
            exact List.isChain_cons_cons.mpr ⟨⟨hearned, hlater, hpaced⟩, hchain⟩

/-- Over every chain of measurements the multiplier stays in its range, is cut when the window
    deteriorates and held back during the warm-up; it rises from one snapshot to the next only
    when the rise is earned, and between any two by no more than one increase for each full
    interval and one more. -/
theorem measureChain_bounded {cfg : AlphaHealthSettings ℚ} {calls : List MeasureCall}
    {snapshots : List (AlphaHealthSnapshot ℚ)}
    (h : measureChain alpha cfg none calls = .ok snapshots) :
    (∀ s ∈ snapshots, Bounded cfg s) ∧
    snapshots.IsChain (fun p s => p.multiplier.value < s.multiplier.value → RiseEarned cfg p s) ∧
    snapshots.Pairwise fun p s => p.timestamp < s.timestamp ∧
      s.multiplier.value - p.multiplier.value ≤ cfg.maxIncrease * (1 +
        ((s.timestamp - p.timestamp) / secondsOf cfg.increaseIntervalSeconds : Int)) := by
  obtain ⟨hbounded, hchain⟩ := measureChain_ok (by rintro p ⟨⟩) h
  have hchain : snapshots.IsChain (Successor cfg) := hchain
  refine ⟨hbounded, hchain.imp fun p s hps => hps.earned, ?_⟩
  have hinterval : 0 < secondsOf cfg.increaseIntervalSeconds := by
    have hmin : (3600 : Int) ≤ cfg.increaseIntervalSeconds := by exact_mod_cast cfg.interval_min
    simp only [secondsOf]
    lia
  have hsteps : snapshots.Pairwise (Relation.TransGen (Successor cfg)) :=
    List.isChain_iff_pairwise.mp (hchain.imp fun p s hps => Relation.TransGen.single hps)
  refine hsteps.imp fun {p s} hps => ⟨?_, ?_⟩
  · induction hps with
    | single hstep => exact hstep.paced.1
    | tail _ hstep ih => exact ih.trans hstep.paced.1
  · exact rise_le_of_successors hinterval hps

end Chain

end Godzilla.Ensemble

namespace Godzilla.Ensemble.Sample
open Features MarketState Godzilla.Sample

/-- Settings of a short window. -/
def healthSettings : AlphaHealthSettings ℚ where
  windowTrades := 2
  minimumTrades := 1
  minimumMultiplier := 1 / 5
  initialMultiplier := 1 / 2
  maximumMultiplier := 1
  maxIncrease := 1 / 10
  increaseIntervalSeconds := 3600
  maxReturnDrawdown := 1 / 10
  window_min := by decide
  minimum_pos := by decide
  multiplier_range := by decide +kernel
  increase_range := by decide +kernel
  interval_min := by decide
  drawdown_pos := by decide +kernel
  age_pos := by decide
  ordered := by decide +kernel
  warmup := by decide

/-- A trade of a given profit, closed at a number of hours. -/
def outcome (id : Nat) (hours : Nat) (profit : Decimal) : TradeOutcome where
  tradeId := Uuid.ofNat id
  alphaId := AlphaId.momentum
  closedAt := secondsOf (3600 * hours)
  receivedAt := secondsOf (3600 * hours)
  grossPnl := profit
  costs := .zero
  slippageCost := .zero
  grossCapital := ⟨false, 100, 0⟩
  regime := .trendUp
  costs_nonneg := by decide +kernel
  capital_pos := by decide +kernel
  closed_first := le_refl _

/-- A measurement of these trades at a number of hours. -/
def measureCall (outcomes : List TradeOutcome) (hours : Nat) : MeasureCall where
  outcomes := outcomes
  now := secondsOf (3600 * hours)
  codeCommit := "commit"
  configHash := "config"
  dataSnapshot := "data"

/-- A first trade, a second one that earns a rise, and a loss that cuts the multiplier. -/
def measureCalls : List MeasureCall :=
  let gain : Decimal := ⟨false, 1, 0⟩
  let loss : Decimal := ⟨true, 50, 0⟩
  [measureCall [outcome 1 1 gain] 2, measureCall [outcome 1 1 gain, outcome 2 2 gain] 3,
    measureCall [outcome 1 1 gain, outcome 2 2 gain, outcome 3 3 loss] 4]

/-- The multiplier of the three measurements. -/
theorem measureChain_bounded_cut :
    ∃ snapshots, measureChain AlphaId.momentum healthSettings none measureCalls = .ok snapshots ∧
      snapshots.map (·.multiplier.value) = [1 / 2, 3 / 5, 1 / 5] ∧
      ∀ s ∈ snapshots, Bounded healthSettings s := by
  have hrun : (measureChain AlphaId.momentum healthSettings none measureCalls).toOption.map
      (fun snapshots => snapshots.map (·.multiplier.value)) = some [1 / 2, 3 / 5, 1 / 5] := by
    decide +kernel
  cases h : measureChain AlphaId.momentum healthSettings none measureCalls with
  | error e => rw [h] at hrun; cases hrun
  | ok snapshots =>
    rw [h] at hrun
    exact ⟨snapshots, rfl, Option.some.inj hrun, (measureChain_bounded h).1⟩

end Godzilla.Ensemble.Sample
