import Godzilla.MarketData.Service

/-!
# Failed history requests

`load_history` checks the scope of a bar right before it ingests it, and the window after
all bars are ingested (`market_data/service.py:77-86`). A call that raises after its first
bar leaves that bar behind, and a retry of the request finds every such minute seen.
-/

namespace Godzilla.MarketData
open Godzilla Misc

variable [Platform]

/-- A bar is refused by the loop of a call: it is outside the request, or not a one-minute bar,
    or not available yet, or of a date the calendar does not cover. -/
def HistoryCall.Refuses (call : HistoryCall) (checker : BarQualityChecker) (now : Instant)
    (bar : Bar) : Prop :=
  call.outOfScope bar ∨ bar.intervalMinutes ≠ 1 ∨ now < max bar.stop bar.receivedAt ∨
    ¬ checker.Covers bar.start

namespace MarketDataService

variable {service service' : MarketDataService}

theorem ingestBar_ok {now : Instant} {bar : Bar} (h : service.ingestBar now bar = .ok service') :
    service'.checker = service.checker ∧ service'.bars.length = service.bars.length + 1 := by
  rw [ingestBar] at h
  split at h
  · cases h
  · split at h
    · cases h
    · cases hcheck : service.checker.check bar (predecessor service.bars bar) with
      | error e => rw [hcheck] at h; cases h
      | ok checked =>
        rw [hcheck] at h
        obtain rfl := Except.ok.inj h
        exact ⟨rfl, by simp [store]⟩

section Loop

variable {call : HistoryCall} {count : Nat} {bar : Bar}

theorem ingestHistory_outOfScope (h : call.outOfScope bar) (rest : List Bar) :
    ingestHistory call count (bar :: rest) service =
      (.error (.valueError "provider returned data outside request scope"), service) := by
  rw [ingestHistory, if_pos h]

theorem ingestHistory_error {e : PyError} (h : ¬ call.outOfScope bar)
    (hbar : service.ingestBar (call.ingestAt count) bar = .error e) (rest : List Bar) :
    ingestHistory call count (bar :: rest) service = (.error e, service) := by
  rw [ingestHistory, if_neg h, hbar]

theorem ingestHistory_next (h : ¬ call.outOfScope bar)
    (hbar : service.ingestBar (call.ingestAt count) bar = .ok service') (rest : List Bar) :
    ingestHistory call count (bar :: rest) service =
      ingestHistory call (count + 1) rest service' := by
  rw [ingestHistory, if_neg h, hbar]

end Loop

/-- The loop only adds bars. -/
theorem ingestHistory_grows (call : HistoryCall) (bars : List Bar) (count : Nat)
    (service : MarketDataService) :
    (ingestHistory call count bars service).2.checker = service.checker ∧
      service.bars.length ≤ (ingestHistory call count bars service).2.bars.length := by
  induction bars generalizing count service with
  | nil => exact ⟨rfl, le_refl _⟩
  | cons bar rest ih =>
    by_cases hscope : call.outOfScope bar
    · rw [ingestHistory_outOfScope hscope]
      exact ⟨rfl, le_refl _⟩
    cases hbar : service.ingestBar (call.ingestAt count) bar with
    | error e =>
      rw [ingestHistory_error hscope hbar]
      exact ⟨rfl, le_refl _⟩
    | ok next =>
      rw [ingestHistory_next hscope hbar]
      obtain ⟨hchecker, hlength⟩ := ingestBar_ok hbar
      obtain ⟨hchecker', hgrows⟩ := ih (count + 1) next
      exact ⟨hchecker'.trans hchecker, by omega⟩

variable [DumpText]

/-- The service that a call leaves is the one its loop leaves. -/
theorem loadHistory_service (service : MarketDataService) (call : HistoryCall) :
    (service.loadHistory call).2 = match call.response with
      | .error _ => service
      | .ok bars => (ingestHistory call 0 (sortOn Bar.receiptKey bars) service).2 := by
  rw [loadHistory]
  cases call.response with
  | error e => rfl
  | ok bars =>
    dsimp only
    cases hloop : ingestHistory call 0 (sortOn Bar.receiptKey bars) service with
    | mk result service' => cases result <;> rfl

end MarketDataService

/-- What is asked of a service. -/
inductive Operation where
  | ingestBar (now : Instant) (bar : Bar)
  | ingestQuote (now : Instant) (quote : Quote)
  | refreshQuote (now : Instant) (instrument : String) (response : Except PyError Quote)
  | loadHistory (call : HistoryCall)

variable [DumpText]

namespace Operation

/-- The service after an operation, whether it raises or not. -/
def apply (service : MarketDataService) : Operation → MarketDataService
  | .ingestBar now bar => (service.ingestBar now bar).toOption.getD service
  | .ingestQuote now quote => service.ingestQuote now quote
  | .refreshQuote now instrument response =>
    (service.refreshQuote now instrument response).toOption.getD service
  | .loadHistory call => (service.loadHistory call).2

end Operation

/-- The service after a run. -/
def serviceAfter (service : MarketDataService) (run : List Operation) : MarketDataService :=
  run.foldl Operation.apply service

theorem apply_checker (service : MarketDataService) (operation : Operation) :
    (operation.apply service).checker = service.checker := by
  cases operation with
  | ingestBar now bar =>
    cases hbar : service.ingestBar now bar with
    | error e => simp [Operation.apply, hbar, Except.toOption]
    | ok service' =>
      simpa [Operation.apply, hbar, Except.toOption] using (MarketDataService.ingestBar_ok hbar).1
  | ingestQuote now quote => rfl
  | refreshQuote now instrument response =>
    cases response with
    | error e => rfl
    | ok quote =>
      simp only [Operation.apply, MarketDataService.refreshQuote, bind, Except.bind]
      split <;> rfl
  | loadHistory call =>
    rw [Operation.apply, MarketDataService.loadHistory_service]
    cases call.response with
    | error e => rfl
    | ok bars => exact (MarketDataService.ingestHistory_grows call _ 0 service).1

theorem serviceAfter_checker (service : MarketDataService) (run : List Operation) :
    (serviceAfter service run).checker = service.checker := by
  induction run generalizing service with
  | nil => rfl
  | cons operation rest ih => exact (ih _).trans (apply_checker service operation)

end Godzilla.MarketData

namespace Godzilla.MarketData.Sample
open Godzilla.Sample

end Godzilla.MarketData.Sample
