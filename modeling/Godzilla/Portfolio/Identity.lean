import Godzilla.Portfolio.FailClosed

/-!
# The identity of a portfolio decision

The id of a decision is taken from a digest that is computed twice: of the inputs, and
once there is a session of the inputs' digest with that session. The calendar itself is
not hashed, but all that `allocate` asks of it is the session of one day.
-/

namespace Godzilla.Portfolio
open Godzilla Features MarketState MarketData Ensemble Misc

variable {F : Type} [PyFloat F] [Platform]

/-- What the digest of a decision is taken of. -/
inductive Audited (F : Type) [PyFloat F] [Platform] where
  | ofInputs (inputs : AllocationInputs F)
  | ofSession (audit : CalendarAudit)

/-- `content_hash` of what is audited. -/
def Audited.digest : Audited F → Digest
  | ofInputs inputs => contentHash inputs
  | ofSession audit => contentHash audit

/-- What a call of `allocate` audits (`portfolio/allocator.py:83,105`). -/
def audited (inputs : AllocationInputs F) (calendar : ExchangeCalendar) : Audited F :=
  match calendar.sessionOn (kolkata.localDate inputs.now) with
  | .ok (some session) => .ofSession { inputsHash := contentHash inputs, session := session }
  | _ => .ofInputs inputs

variable {inputs inputs' : AllocationInputs F} {calendar calendar' : ExchangeCalendar}

theorem auditDigest_eq (inputs : AllocationInputs F) (calendar : ExchangeCalendar) :
    auditDigest inputs calendar = (audited inputs calendar).digest := by
  rw [auditDigest, audited]
  cases calendar.sessionOn (kolkata.localDate inputs.now) with
  | error message => rfl
  | ok session => cases session <;> rfl

/-- Neither `content_hash` nor `uuid5` collides on what two calls hash. -/
structure CollisionFree (inputs inputs' : AllocationInputs F)
    (calendar calendar' : ExchangeCalendar) : Prop where
  uuid5 : Platform.uuid5 ("godzilla:portfolio:" ++ auditDigest inputs calendar) =
      Platform.uuid5 ("godzilla:portfolio:" ++ auditDigest inputs' calendar') →
    auditDigest inputs calendar = auditDigest inputs' calendar'
  audited : (audited inputs calendar).digest = (audited inputs' calendar').digest →
    audited inputs calendar = audited inputs' calendar'
  inputs : contentHash inputs = contentHash inputs' → inputs = inputs'

/-- Either no session was audited, or the session of the day. -/
theorem audited_cases (inputs : AllocationInputs F) (calendar : ExchangeCalendar) :
    (audited inputs calendar = .ofInputs inputs ∧ gate inputs calendar = some "CALENDAR_BLOCKED") ∨
    ∃ session, calendar.sessionOn (kolkata.localDate inputs.now) = .ok (some session) ∧
      audited inputs calendar =
        .ofSession { inputsHash := contentHash inputs, session := session } := by
  rw [audited, gate]
  cases calendar.sessionOn (kolkata.localDate inputs.now) with
  | error message => exact Or.inl ⟨rfl, rfl⟩
  | ok found =>
    cases found with
    | none => exact Or.inl ⟨rfl, rfl⟩
    | some session => exact Or.inr ⟨session, rfl, rfl⟩

/-- All that a decision takes from the calendar is the audited digest and the gate. -/
theorem allocate_congr (hdigest : auditDigest inputs calendar = auditDigest inputs calendar')
    (hgate : gate inputs calendar = gate inputs calendar') :
    allocate inputs calendar = allocate inputs calendar' := by
  rw [allocate, allocate, hdigest, hgate]

/-- Where the hashes do not collide, a decision id stands for one decision. -/
theorem portfolioId_identifies (hfree : CollisionFree inputs inputs' calendar calendar')
    (hid : (allocate inputs calendar).decisionId = (allocate inputs' calendar').decisionId) :
    allocate inputs calendar = allocate inputs' calendar' := by
  have hids : ∀ (i : AllocationInputs F) (c : ExchangeCalendar), (allocate i c).decisionId =
      Platform.uuid5 ("godzilla:portfolio:" ++ auditDigest i c) := by
    intro i c
    rw [allocate]
    cases gate i c <;> rfl
  rw [hids, hids] at hid
  have hdigest := hfree.uuid5 hid
  have haudited := hfree.audited (by rw [← auditDigest_eq, ← auditDigest_eq, hdigest])
  rcases audited_cases inputs calendar with ⟨hnone, hgate⟩ | ⟨session, hsession, haudit⟩
  · rcases audited_cases inputs' calendar' with ⟨hnone', hgate'⟩ | ⟨session', -, haudit'⟩
    · -- both were blocked before any session was hashed
      rw [hnone, hnone'] at haudited
      obtain rfl := Audited.ofInputs.inj haudited
      exact allocate_congr hdigest (hgate.trans hgate'.symm)
    · rw [hnone, haudit'] at haudited
      cases haudited
  · rcases audited_cases inputs' calendar' with ⟨hnone', -⟩ | ⟨session', hsession', haudit'⟩
    · rw [haudit, hnone'] at haudited
      cases haudited
    · -- the same inputs met the same session
      rw [haudit, haudit'] at haudited
      obtain ⟨hinputs, rfl⟩ := CalendarAudit.mk.inj (Audited.ofSession.inj haudited)
      obtain rfl := hfree.inputs hinputs
      refine allocate_congr hdigest ?_
      rw [gate, gate, hsession, hsession']

end Godzilla.Portfolio

namespace Godzilla.Portfolio.Sample
open MarketData Godzilla.Sample

/-- The sample exchange, open on day 0 only. -/
def openedOnce : ExchangeCalendar where
  sessionOn day := if day = 0 then Godzilla.MarketState.Sample.calendar.sessionOn 0 else .ok none

/-- Two calendars that agree on the day of the decision. -/
theorem portfolioId_identifies_calendars :
    allocate inputs Godzilla.MarketState.Sample.calendar = allocate inputs openedOnce := by
  have hday : kolkata.localDate inputs.now = 0 := by decide +kernel
  have hsession : Godzilla.MarketState.Sample.calendar.sessionOn (kolkata.localDate inputs.now) =
      openedOnce.sessionOn (kolkata.localDate inputs.now) := by
    rw [hday]
    rfl
  have haudited : audited inputs Godzilla.MarketState.Sample.calendar =
      audited inputs openedOnce := by
    rw [audited, audited, hsession]
  have hdigest : auditDigest inputs Godzilla.MarketState.Sample.calendar =
      auditDigest inputs openedOnce := by
    rw [auditDigest_eq, auditDigest_eq, haudited]
  exact portfolioId_identifies ⟨fun _ => hdigest, fun _ => haudited, fun _ => rfl⟩ rfl

end Godzilla.Portfolio.Sample
