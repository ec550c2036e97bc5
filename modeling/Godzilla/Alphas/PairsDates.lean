import Godzilla.Alphas.PairsEngine
import Godzilla.Misc.Raises

/-!
# The dates that the input gate of a pair reads

The gate catches every `ValueError` and `RuntimeError`: what it raises beyond these are the
zones and dates that it comes to read, now and its session, the generation times, and day by day
the sessions under the rows of the window.
-/

namespace Godzilla.Alphas
open Godzilla Misc Features MarketData MarketState Universe

theorem inputsCaught_handler : CalendarHandler (fun e => inputsCaught e = true) True where
  overflow _ := Bool.false_ne_true
  unknown _ := Bool.false_ne_true
  malformed _ := iff_of_true rfl trivial
  coverage _ := rfl

theorem inputError_raises {α : Type} (message : String) :
    OnlyRaises (inputsCaught ·) (.error (.valueError message) : Except PyError α) :=
  onlyRaises_error rfl

section Window

theorem requireStrategyReady_raises (bar : Bar) (now : Instant) :
    OnlyRaises (inputsCaught ·) (bar.requireStrategyReady now) :=
  (onlyRaises_ok ()).ite (inputError_raises _)

theorem checkPairBar_raises (now : Instant) (bar : Bar) (ref : InstrumentRef) :
    OnlyRaises (inputsCaught ·) (checkPairBar now bar ref) :=
  (requireStrategyReady_raises bar now).bind fun _ _ =>
    (inputError_raises _).ite (onlyRaises_ok ())

theorem checkPairRow_raises (candidate : PairCandidate) (now : Instant) (row : PairObservation) :
    OnlyRaises (inputsCaught ·) (checkPairRow candidate now row) :=
  (inputError_raises _).ite
    ((checkPairBar_raises now row.left.toBar _).bind fun _ _ =>
      checkPairBar_raises now row.right.toBar _)

theorem checkWindow_raises {F : Type} [PyFloat F] (candidate : PairCandidate)
    (cfg : PairsSettings F) (now : Instant) (window : PairWindow) :
    OnlyRaises (inputsCaught ·) (checkWindow candidate cfg now window) :=
  (inputError_raises _).ite ((inputError_raises _).ite
    (OnlyRaises.forM fun row _ => checkPairRow_raises candidate now row))

variable [Platform]

/-- A day of the window can be read: it is a date, and so are the bounds of its session and the
    sum that ends the loop over its slots. -/
structure DayDated (calendar : ExchangeCalendar) (timezone : String) (first : Instant)
    (offset : Nat) : Prop where
  instant : first + daysOf offset ≤ maxInstant
  bounds : BoundsDated True calendar (first + daysOf offset) timezone
  slots : ∀ opening closing,
    readBounds calendar (first + daysOf offset) timezone = .ok (some (opening, closing)) →
      opening + minutesOf 5 * (slotCount opening closing + 1) ≤ maxInstant

/-- The days of the window can be read, as far as the code comes to them: none when there are too
    many, and none behind a day whose reading ends the loop. -/
def SlotsDated (calendar : ExchangeCalendar) (timezone : String) (first stop : Instant) : Prop :=
  let zone := Platform.zoneInfo timezone
  ZoneReads True timezone
    (IsDatetime (zone.wallClock first) ∧ IsDatetime (zone.wallClock stop) ∧
      (zone.localDate stop - zone.localDate first ≤ 366 →
        ∀ offset < (zone.localDate stop - zone.localDate first + 1).toNat,
          (∀ earlier < offset, ∃ slots,
            offsetSlots calendar timezone first stop earlier = .ok slots) →
          DayDated calendar timezone first offset))

variable {calendar : ExchangeCalendar} {timezone : String} {first stop : Instant}

theorem offsetSlots_raises_iff {offset : Nat} :
    OnlyRaises (inputsCaught ·) (offsetSlots calendar timezone first stop offset) ↔
      DayDated calendar timezone first offset := by
  have handler := inputsCaught_handler.toDateHandler
  have hslots : ∀ bounds : Option (Instant × Instant),
      OnlyRaises (inputsCaught ·) (sessionSlots first stop bounds) ↔
        ∀ opening closing, bounds = some (opening, closing) →
          opening + minutesOf 5 * (slotCount opening closing + 1) ≤ maxInstant := by
    rintro (_ | ⟨opening, closing⟩)
    · exact iff_of_true (onlyRaises_ok []) fun _ _ h => by cases h
    · rw [sessionSlots, addDuration_bind_raises_iff handler, and_iff_left (onlyRaises_ok _)]
      refine ⟨fun h _ _ hbounds => ?_, fun h => h opening closing rfl⟩
      cases hbounds
      exact h
  rw [offsetSlots, addDuration_bind_raises_iff handler, onlyRaises_bind_iff,
    readBounds_raises_iff inputsCaught_handler]
  constructor
  · rintro ⟨hinstant, hbounds, hrest⟩
    exact ⟨hinstant, hbounds, fun opening closing h => (hslots _).mp (hrest _ h) _ _ rfl⟩
  · rintro ⟨hinstant, hbounds, hrest⟩
    refine ⟨hinstant, hbounds, fun bounds h => (hslots bounds).mpr ?_⟩
    rintro opening closing rfl
    exact hrest opening closing h

theorem expectedSlots_raises_iff :
    OnlyRaises (inputsCaught ·) (expectedSlots calendar timezone first stop) ↔
      SlotsDated calendar timezone first stop := by
  have handler := inputsCaught_handler.toDateHandler
  rw [expectedSlots, localDateIn_bind_raises_iff handler, localDateIn_bind_raises_iff handler,
    zoneReads_and_zoneReads, SlotsDated]
  refine zoneReads_congr (and_congr_right fun _ => and_congr_right fun _ => ?_)
  split
  · next hsparse =>
    exact iff_of_true (inputError_raises _) fun h => absurd hsparse (not_lt.mpr h)
  · next hsparse =>
    rw [forall_prop_of_true (not_lt.mp hsparse), onlyRaises_bind_iff,
      and_iff_left fun _ _ => onlyRaises_ok _, onlyRaises_mapM_range_iff]
    simp only [offsetSlots_raises_iff]

variable {F : Type} [PyFloat F]

/-- The days under a window that passes its own checks can be read. -/
def WindowDated (observations : List PairObservation) (candidate : PairCandidate)
    (cfg : PairsSettings F) (calendar : ExchangeCalendar) (timezone : String) (now : Instant) :
    Prop :=
  ∀ window, availableWindow observations cfg now = some window →
    checkWindow candidate cfg now window = .ok () →
    SlotsDated calendar timezone window.first.left.start window.last.left.stop

theorem selectWindow_raises_iff {observations : List PairObservation} {candidate : PairCandidate}
    {cfg : PairsSettings F} {now : Instant} :
    OnlyRaises (inputsCaught ·)
        (selectWindow observations candidate cfg calendar timezone now) ↔
      WindowDated observations candidate cfg calendar timezone now := by
  rw [selectWindow, WindowDated]
  split
  · next hnone =>
    exact iff_of_true (inputError_raises _) fun window h => by rw [hnone] at h; cases h
  · next window hwindow =>
    rw [onlyRaises_bind_iff, and_iff_right (checkWindow_raises _ _ _ _)]
    constructor
    · intro h found hfound hchecked
      obtain rfl := Option.some.inj (hwindow.symm.trans hfound)
      exact expectedSlots_raises_iff.mp (onlyRaises_bind_iff.mp (h () hchecked)).1
    · intro h _ hchecked
      refine (expectedSlots_raises_iff.mpr (h window hwindow hchecked)).bind fun _ _ => ?_
      exact (inputError_raises _).ite (onlyRaises_ok _)

end Window

section Gate

variable {F : Type} [PyFloat F] [Platform]

/-- The bounds of a session, its time to flatten and its last entry are dates. -/
structure PairSessionDated (session : Session) : Prop where
  opening : IsDatetime (session.instantAt session.times.openTime)
  closing : IsDatetime (session.instantAt session.times.marketClose)
  flatten : IsDatetime (session.instantAt session.times.flattenStartTime)
  finalEntry : IsDatetime (session.instantAt session.times.finalEntryTime)

/-- The call is inside the session, with a candidate that is known, reviewed, effective and
    clear. -/
def PairsCall.InSession (call : PairsCall F) (session : PairSession) : Prop :=
  (session.opening ≤ call.now ∧ call.now ≤ session.closing) ∧
    ¬ call.candidateAmbiguous session.opening

/-- The universe, the master and the instruments of the pair pass. -/
structure PairsCall.InstrumentsPass (engine : PairsEngine F) (call : PairsCall F) : Prop where
  generation : readGeneration call.generatedAware call.universeSnapshot call.master
    (engine.day call) call.now = .ok ()
  available : ¬ call.universeUnavailable (engine.day call)
  master : call.master.byToken.size = call.master.instruments.length
  legs : call.eligibleLeg (engine.day call) call.candidate.left call.candidate.leftSector ∧
    call.eligibleLeg (engine.day call) call.candidate.right call.candidate.rightSector

/-- The dates that the input gate comes to read are dates. A key of a zone that is no path ends
    the reading with a `ValueError`. -/
structure PairsCall.GateDated (engine : PairsEngine F) (call : PairsCall F) : Prop where
  session : ZoneReads True engine.timezone
    (IsDatetime ((Platform.zoneInfo engine.timezone).wallClock call.now) ∧
      ∀ session, engine.calendar.sessionOn (engine.day call) = .ok (some session) →
        ZoneReads True session.timezone (PairSessionDated session))
  generation : ∀ session, engine.sessionGate call = .ok session → call.InSession session →
    GenerationDated True call.generatedAware call.universeSnapshot call.master
      (engine.day call) call.now
  window : ∀ session, engine.sessionGate call = .ok session → call.InSession session →
    call.InstrumentsPass engine →
    WindowDated call.observations call.candidate engine.settings engine.calendar
      engine.timezone call.now

variable {engine : PairsEngine F} {call : PairsCall F}

/-- In a zone that opens, the limits of a session are read when they are dates. -/
theorem PairsEngine.sessionLimits_raises_iff {session : Session} {bounds : Instant × Instant}
    (hfault : Platform.zoneFault engine.timezone = none)
    (hwall : IsDatetime ((Platform.zoneInfo engine.timezone).wallClock call.now))
    (hsession : engine.calendar.sessionOn (engine.day call) = .ok (some session)) :
    OnlyRaises (inputsCaught ·) (engine.sessionLimits call bounds) ↔
      ZoneReads True session.timezone
        (IsDatetime (session.instantAt session.times.flattenStartTime) ∧
          IsDatetime (session.instantAt session.times.finalEntryTime)) := by
  have handler := inputsCaught_handler.toDateHandler
  rw [PairsEngine.sessionLimits, localDateIn_bind_raises_iff handler,
    zoneReads_iff_of_opens hfault, and_iff_right hwall,
    ofCalendar_bind_raises_iff inputsCaught_handler]
  have hlimits : OnlyRaises (inputsCaught ·)
      (combineIn session.timezone session.sessionDate session.times.flattenStartTime >>=
        fun flattenAt => combineIn session.timezone session.sessionDate
          session.times.finalEntryTime >>= fun finalEntry =>
            .ok (PairSession.mk bounds.1 bounds.2 flattenAt finalEntry)) ↔
      ZoneReads True session.timezone
        (IsDatetime (session.instantAt session.times.flattenStartTime) ∧
          IsDatetime (session.instantAt session.times.finalEntryTime)) := by
    rw [combineIn_bind_raises_iff handler, combineIn_bind_raises_iff handler,
      zoneReads_and_zoneReads, and_iff_left (onlyRaises_ok _)]
    rfl
  refine ⟨fun h => hlimits.mp (h _ hsession), fun h found hfound => ?_⟩
  obtain rfl := Except.ok.inj (hsession.symm.trans hfound)
  exact hlimits.mpr h

/-- The session gate raises no more than what is caught when its dates are dates. -/
theorem PairsEngine.sessionGate_raises_iff :
    OnlyRaises (inputsCaught ·) (engine.sessionGate call) ↔
      ZoneReads True engine.timezone
        (IsDatetime ((Platform.zoneInfo engine.timezone).wallClock call.now) ∧
          ∀ session, engine.calendar.sessionOn (engine.day call) = .ok (some session) →
            ZoneReads True session.timezone (PairSessionDated session)) := by
  rw [PairsEngine.sessionGate, readBounds_bind_raises_iff inputsCaught_handler]
  cases hfault : Platform.zoneFault engine.timezone with
  | some fault => cases fault <;> simp only [ZoneReads, hfault]
  | none =>
    rw [zoneReads_iff_of_opens hfault, zoneReads_iff_of_opens hfault]
    refine and_congr_right fun hwall => ?_
    rw [and_iff_right fun _ => inputError_raises _]
    refine forall_congr' fun session => forall_congr' fun hsession => ?_
    rw [PairsEngine.sessionLimits_raises_iff hfault hwall hsession, ← and_assoc,
      zoneReads_and_zoneReads]
    exact zoneReads_congr ⟨fun h => ⟨h.1.1, h.1.2, h.2.1, h.2.2⟩,
      fun h => ⟨⟨h.opening, h.closing⟩, h.flatten, h.finalEntry⟩⟩

theorem PairsEngine.admitWindow_raises_iff {session : PairSession} :
    OnlyRaises (inputsCaught ·) (engine.admitWindow call session) ↔
      (call.master.byToken.size = call.master.instruments.length →
        call.eligibleLeg (engine.day call) call.candidate.left call.candidate.leftSector ∧
          call.eligibleLeg (engine.day call) call.candidate.right call.candidate.rightSector →
        WindowDated call.observations call.candidate engine.settings engine.calendar
          engine.timezone call.now) := by
  rw [PairsEngine.admitWindow]
  split
  · next hmaster => exact iff_of_true (inputError_raises _) fun h => absurd h hmaster
  next hmaster =>
  split
  · next hlegs => exact iff_of_true (inputError_raises _) fun _ h => absurd h hlegs
  next hlegs =>
  rw [not_not] at hmaster hlegs
  rw [forall_prop_of_true hmaster, forall_prop_of_true hlegs, ← selectWindow_raises_iff,
    onlyRaises_bind_iff, and_iff_left fun _ _ => .ite (inputError_raises _) (onlyRaises_ok _)]

theorem PairsEngine.inputGate_raises_iff :
    OnlyRaises (inputsCaught ·) (engine.inputGate call) ↔ call.GateDated engine := by
  have handler := inputsCaught_handler.toDateHandler
  have hpasses : ∀ session, OnlyRaises (inputsCaught ·) (engine.admitInputs call session) ↔
      (call.InSession session →
        GenerationDated True call.generatedAware call.universeSnapshot call.master
          (engine.day call) call.now ∧
        (call.InstrumentsPass engine →
          WindowDated call.observations call.candidate engine.settings engine.calendar
            engine.timezone call.now)) := by
    intro session
    rw [PairsEngine.admitInputs, PairsCall.InSession]
    split
    · next houtside =>
      exact iff_of_true (inputError_raises _) fun hinside => absurd hinside.1 houtside
    next hinside =>
    split
    · next hambiguous =>
      exact iff_of_true (inputError_raises _) fun hclear => absurd hambiguous hclear.2
    next hclear =>
    rw [forall_prop_of_true ⟨not_not.mp hinside, hclear⟩, onlyRaises_bind_iff,
      readGeneration_raises_iff handler]
    refine and_congr_right fun _ => ⟨fun h hpass => ?_, fun h _ hread => ?_⟩
    · have hwindow := h () hpass.generation
      rw [if_neg hpass.available] at hwindow
      exact (PairsEngine.admitWindow_raises_iff.mp hwindow) hpass.master hpass.legs
    · by_cases havailable : call.universeUnavailable (engine.day call)
      · rw [if_pos havailable]
        exact inputError_raises _
      · rw [if_neg havailable]
        exact PairsEngine.admitWindow_raises_iff.mpr fun hmaster hlegs =>
          h ⟨hread, havailable, hmaster, hlegs⟩
  rw [PairsEngine.inputGate, onlyRaises_bind_iff, PairsEngine.sessionGate_raises_iff]
  constructor
  · rintro ⟨hsession, hrest⟩
    exact ⟨hsession, fun session hok hin => ((hpasses session).mp (hrest session hok) hin).1,
      fun session hok hin => ((hpasses session).mp (hrest session hok) hin).2⟩
  · rintro ⟨hsession, hgeneration, hwindow⟩
    exact ⟨hsession, fun session hok => (hpasses session).mpr fun hin =>
      ⟨hgeneration session hok hin, hwindow session hok hin⟩⟩

end Gate

/-- The dates that a call comes to read are dates: now in UTC, and behind the first gates those of
    the input gate. -/
structure PairsCall.Dated {F : Type} [PyFloat F] [Platform] (engine : PairsEngine F)
    (call : PairsCall F) : Prop where
  now : IsDatetime call.now
  gate : call.mode ≠ .live → engine.settings.enabled = true → call.GateDated engine

end Godzilla.Alphas
