import Godzilla.Ensemble.Wire
import Godzilla.Portfolio.Models

/-!
# Allocation decisions in JSON

The codecs of the decisions of `portfolio/models.py`.
-/

namespace Godzilla.Portfolio

/-- The text of the origin. -/
def Origin.text : Origin → String
  | existingOrPending => "EXISTING_OR_PENDING"
  | proposed => "PROPOSED"

end Godzilla.Portfolio

namespace Godzilla.Wire
open Misc Codec Portfolio

def origin : Codec Origin :=
  tag [.existingOrPending, .proposed] Origin.text fun origin => by cases origin <;> decide

variable (F : Type) [PyFloat F] [ScalarCodecs F]

/-- `AllocatorSettings` (`portfolio/models.py:15-38`). -/
def allocatorSettings : Codec AllocatorSettings :=
  .object (
    .defaulted "correlation_penalty" (decimal F) 1 (·.correlationPenalty) <|
    .defaulted "correlation_threshold" (decimal F) (7 / 10) (·.correlationThreshold) <|
    .defaulted "max_adv_participation" (decimal F) (25 / 10000) (·.maxAdvParticipation) <|
    .defaulted "max_alpha" (decimal F) (4 / 10) (·.maxAlpha) <|
    .defaulted "max_candidate_risk" (decimal F) (25 / 10000) (·.maxCandidateRisk) <|
    .defaulted "max_gross" (decimal F) 1 (·.maxGross) <|
    .defaulted "max_groups" (count F) 4 (·.maxGroups) <|
    .defaulted "max_input_age_seconds" (count F) 30 (·.maxInputAgeSeconds) <|
    .defaulted "max_net" (decimal F) (6 / 10) (·.maxNet) <|
    .defaulted "max_open_risk" (decimal F) (1 / 100) (·.maxOpenRisk) <|
    .defaulted "max_sector" (decimal F) (4 / 10) (·.maxSector) <|
    .defaulted "max_sector_groups" (count F) 2 (·.maxSectorGroups) <|
    .defaulted "max_symbol" (decimal F) (15 / 100) (·.maxSymbol) <|
    .defaulted "max_turnover_participation" (decimal F) (25 / 10000)
      (·.maxTurnoverParticipation) <|
    .defaulted "sector_duplication_penalty" (decimal F) (1 / 2) (·.sectorDuplicationPenalty) <|
    .literal "version" (.str "portfolio-research-v1") .done)
    (fun (penalty, threshold, adv, alpha, candidateRisk, gross, groups, age, net, openRisk, sector,
        sectorGroups, symbol, turnover, duplication, _) =>
      if h : (0 < alpha ∧ alpha ≤ 1) ∧ (0 < gross ∧ gross ≤ 1) ∧ (0 ≤ net ∧ net ≤ 1) ∧
          (0 < symbol ∧ symbol ≤ 1) ∧ (0 < sector ∧ sector ≤ 1) ∧ (0 < openRisk ∧ openRisk ≤ 1) ∧
          (0 < candidateRisk ∧ candidateRisk ≤ 1) ∧ 1 ≤ groups ∧ 1 ≤ sectorGroups ∧
          (0 < adv ∧ adv ≤ 1) ∧ (0 < turnover ∧ turnover ≤ 1) ∧ 0 < age ∧
          (0 ≤ threshold ∧ threshold < 1) ∧ 0 ≤ penalty ∧ 0 ≤ duplication ∧ net ≤ gross ∧
          sectorGroups ≤ groups then
        some (
          let ⟨halpha, hgross, hnet, hsymbol, hsector, hrisk, hcandidate, hgroups, hsectorGroups,
            hadv, hturnover, hage, hthreshold, hpenalty, hduplication, hnetGross, hle⟩ := h
          ⟨alpha, gross, net, symbol, sector, openRisk, candidateRisk, groups, sectorGroups, adv,
            turnover, age, threshold, penalty, duplication, halpha, hgross, hnet, hsymbol, hsector,
            hrisk, hcandidate, hgroups, hsectorGroups, hadv, hturnover, hage, hthreshold, hpenalty,
            hduplication, hnetGross, hle⟩)
      else none)
    (fun cfg => by
      dsimp
      exact dite_eq_some ⟨cfg.alpha_range, cfg.gross_range, cfg.net_range, cfg.symbol_range,
        cfg.sector_range, cfg.openRisk_range, cfg.candidateRisk_range, cfg.groups_pos,
        cfg.sectorGroups_pos, cfg.adv_range, cfg.turnover_range, cfg.age_pos, cfg.threshold_range,
        cfg.correlationPenalty_nonneg, cfg.sectorPenalty_nonneg, cfg.net_le_gross,
        cfg.sectorGroups_le⟩ rfl)

/-- `TargetPosition` (`portfolio/models.py:41-50`). -/
def targetPosition : Codec TargetPosition :=
  .object (
    .field "alpha_id" alphaId (·.alphaId) <|
    .field "entity_id" (uuid F) (·.entityId) <|
    .field "group_id" (uuid F) (·.groupId) <|
    .literal "independent_risk_required" (.bool true) <|
    .field "instrument_id" text (·.instrumentId) <|
    .field "open_risk_fraction" (decimal F) (·.openRiskFraction) <|
    .field "origin" origin (·.origin) <|
    .field "sector" text (·.sector) <|
    .field "signed_notional_fraction" (decimal F) (·.signedNotionalFraction) .done)
    (fun (alphaId, entityId, groupId, instrumentId, openRisk, origin, sector, notional, _) =>
      if h : 0 ≤ openRisk then
        some ⟨entityId, instrumentId, sector, alphaId, groupId, notional, openRisk, origin, h⟩
      else none)
    (fun position => by dsimp; exact dite_eq_some position.openRisk_nonneg rfl)

/-- `AllocationRecord` (`portfolio/models.py:109-114`). -/
def allocationRecord : Codec AllocationRecord :=
  .object (
    .field "allocated_gross" (decimal F) (·.allocatedGross) <|
    .field "health_multiplier" (decimal F) (·.healthMultiplier) <|
    .field "penalty" (decimal F) (·.penalty) <|
    .field "reasons" texts (·.reasons) <|
    .field "signal_id" (uuid F) (·.signalId) .done)
    (fun (gross, multiplier, penalty, reasons, signalId, _) =>
      if h : 0 ≤ gross ∧ (0 ≤ multiplier ∧ multiplier ≤ 1) ∧ 1 ≤ penalty then
        some ⟨signalId, gross, multiplier, penalty, reasons, h.1, h.2.1, h.2.2⟩
      else none)
    (fun record => by
      dsimp
      exact dite_eq_some ⟨record.gross_nonneg, record.multiplier_range, record.penalty_min⟩ rfl)

/-- `PortfolioDecision` (`portfolio/models.py:117-128`). -/
def portfolioDecision : Codec PortfolioDecision :=
  .object (
    .field "allocations" (allocationRecord F).list (·.allocations) <|
    .field "decision_id" (uuid F) (·.decisionId) <|
    .literal "execution_authorized" (.bool false) <|
    .literal "independent_risk_required" (.bool true) <|
    .field "input_hash" text (·.inputHash) <|
    .field "reasons" texts (·.reasons) <|
    .field "settings" (allocatorSettings F) (·.settings) <|
    .field "targets" (targetPosition F).list (·.targets) <|
    .field "timestamp" (instant F) (·.timestamp) .done)
    (fun (allocations, decisionId, inputHash, reasons, settings, targets, timestamp, _) =>
      some ⟨decisionId, timestamp, targets, allocations, reasons, inputHash, settings⟩)
    fun _ => rfl

/-- `EnsembleRejection` (`portfolio/models.py:131-133`). -/
def ensembleRejection : Codec EnsembleRejection :=
  .object (
    .field "reasons" texts (·.reasons) <|
    .field "signal_id" (uuid F) (·.signalId) .done)
    (fun (reasons, signalId, _) => some ⟨signalId, reasons⟩) fun _ => rfl

/-- `EnsembleDecision` (`portfolio/models.py:136-145`). -/
def ensembleDecision : Codec EnsembleDecision :=
  .object (
    .field "candidates" (normalizedCandidate F).list (·.candidates) <|
    .field "decision_id" (uuid F) (·.decisionId) <|
    .field "input_hash" text (·.inputHash) <|
    .field "reasons" texts (·.reasons) <|
    .field "rejected" (uuid F).list (·.rejected) <|
    .defaulted "rejection_reasons" (ensembleRejection F).list [] (·.rejectionReasons) <|
    .field "timestamp" (instant F) (·.timestamp) .done)
    (fun (candidates, decisionId, inputHash, reasons, rejected, rejectionReasons, timestamp, _) =>
      some ⟨decisionId, timestamp, candidates, rejected, reasons, inputHash, rejectionReasons⟩)
    fun _ => rfl

end Godzilla.Wire
