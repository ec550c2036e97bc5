import Godzilla.Core.Float
import Godzilla.Universe.Builder

/-!
# Reproducible universes

What two processes build from one master, one profile and one set of settings. The
instruments may come in any order, and each process iterates over the excluded symbols and
sectors in an order of its own, since string hashes are salted per process. Membership is
all the exclusions ask of the sets; the fingerprint lists them as they are iterated over.
-/

namespace Godzilla.Universe
open Godzilla MarketData Misc

/-- The settings as another process iterates over their sets. -/
def UniverseSettings.iterated (settings : UniverseSettings) (symbols sectors : FrozenSet String) :
    UniverseSettings :=
  { settings with excludedSymbols := symbols, excludedSectors := sectors }

section Eligible

variable {settings : UniverseSettings} {symbols sectors : FrozenSet String}
  {compliance : ComplianceProfile} {asOf : Date}

theorem baseExclusions_iterated (hsymbols : symbols.Same settings.excludedSymbols)
    (hsectors : sectors.Same settings.excludedSectors) (instrument : Instrument) :
    baseExclusions instrument (settings.iterated symbols sectors) asOf =
      baseExclusions instrument settings asOf := by
  refine congrArg₂ (· ++ ·) (congrArg₂ (· ++ ·) rfl ?_) ?_
  · exact if_congr hsymbols.mem_iff rfl rfl
  · exact if_congr hsectors.mem_iff rfl rfl

theorem step_iterated (hsymbols : symbols.Same settings.excludedSymbols)
    (hsectors : sectors.Same settings.excludedSectors) (found : Eligibility)
    (instrument : Instrument) :
    Eligibility.step compliance (settings.iterated symbols sectors) asOf found instrument =
      Eligibility.step compliance settings asOf found instrument := by
  rw [Eligibility.step, Eligibility.step, baseExclusions_iterated hsymbols hsectors]
  rfl

/-- The lists found are a function of the set of instruments and of the sets excluded. -/
theorem eligibility_reordered {instruments instruments' : List Instrument}
    (hdistinct : (instruments.map listingKey).Nodup) (hperm : instruments'.Perm instruments)
    (hsymbols : symbols.Same settings.excludedSymbols)
    (hsectors : sectors.Same settings.excludedSectors) :
    eligibility instruments' compliance (settings.iterated symbols sectors) asOf =
      eligibility instruments compliance settings asOf := by
  have hsorted : sortOn listingKey instruments' = sortOn listingKey instruments := by
    refine sortOn_eq_of_perm hperm fun a ha b hb hkey => ?_
    exact List.inj_on_of_nodup_map hdistinct (hperm.mem_iff.mp ha) (hperm.mem_iff.mp hb) hkey
  have hsteps : Eligibility.step compliance (settings.iterated symbols sectors) asOf =
      Eligibility.step compliance settings asOf := by
    funext found instrument
    exact step_iterated hsymbols hsectors found instrument
  rw [eligibility, eligibility, hsorted, hsteps]

end Eligible

variable [Platform]

/-- A dump shows the order of both sets. -/
theorem dump_iterated_iff {settings : UniverseSettings} {symbols sectors : FrozenSet String} :
    (settings.iterated symbols sectors).dump = settings.dump ↔
      symbols = settings.excludedSymbols ∧ sectors = settings.excludedSectors := by
  have hstr : Function.Injective Json.str := fun a b h => Json.str.inj h
  constructor
  · intro h
    simp only [UniverseSettings.dump, UniverseSettings.iterated, Json.obj.injEq, List.cons.injEq,
      Prod.mk.injEq, Json.arr.injEq, true_and, and_true] at h
    obtain ⟨hsectors, hsymbols⟩ := h
    exact ⟨FrozenSet.ext (List.map_injective_iff.mpr hstr hsymbols),
      FrozenSet.ext (List.map_injective_iff.mpr hstr hsectors)⟩
  · rintro ⟨rfl, rfl⟩
    rfl

variable (master : InstrumentMasterSnapshot) (compliance : ComplianceProfile)
  (settings : UniverseSettings) (asOf : Date)

/-- The fingerprint of a process that iterates over the sets in these orders. -/
def iteratedFingerprint (symbols sectors : FrozenSet String) : Json :=
  fingerprint master compliance (settings.iterated symbols sectors) asOf
    (eligibility master.instruments compliance settings asOf)

/-- The fingerprints of all processes. -/
def fingerprints : Set Json :=
  { value | ∃ symbols sectors, symbols.Same settings.excludedSymbols ∧
    sectors.Same settings.excludedSectors ∧
    value = iteratedFingerprint master compliance settings asOf symbols sectors }

variable {master compliance settings asOf}

theorem iteratedFingerprint_mem {symbols sectors : FrozenSet String}
    (hsymbols : symbols.Same settings.excludedSymbols)
    (hsectors : sectors.Same settings.excludedSectors) :
    iteratedFingerprint master compliance settings asOf symbols sectors ∈
      fingerprints master compliance settings asOf :=
  ⟨symbols, sectors, hsymbols, hsectors, rfl⟩

theorem iteratedFingerprint_eq_iff {symbols sectors : FrozenSet String} :
    iteratedFingerprint master compliance settings asOf symbols sectors =
        iteratedFingerprint master compliance settings asOf settings.excludedSymbols
          settings.excludedSectors ↔
      symbols = settings.excludedSymbols ∧ sectors = settings.excludedSectors := by
  rw [← dump_iterated_iff]
  simp [iteratedFingerprint, fingerprint]
  rfl

variable [UniverseNamespace]

variable (master compliance settings asOf) in
/-- Every order of the instruments and every iteration order of the excluded symbols and
    sectors gives the same snapshot. -/
def Reproducible (generatedAt : Instant) : Prop :=
  ∀ instruments, instruments.Perm master.instruments →
    ∀ symbols, symbols.Same settings.excludedSymbols →
      ∀ sectors, sectors.Same settings.excludedSectors →
        build { master with instruments } compliance (settings.iterated symbols sectors) asOf
            generatedAt =
          build master compliance settings asOf generatedAt

/-- Two processes find the same lists; only the ids of their snapshots may differ. -/
theorem build_reordered {instruments : List Instrument} {symbols sectors : FrozenSet String}
    {generatedAt : Instant} (hdate : master.asOf = asOf)
    (hdistinct : (master.instruments.map listingKey).Nodup)
    (hperm : instruments.Perm master.instruments)
    (hsymbols : symbols.Same settings.excludedSymbols)
    (hsectors : sectors.Same settings.excludedSectors) :
    build { master with instruments } compliance (settings.iterated symbols sectors) asOf
        generatedAt =
      (build master compliance settings asOf generatedAt).map fun snapshot =>
        { snapshot with
          snapshotId := universeId
            (iteratedFingerprint master compliance settings asOf symbols sectors) } := by
  simp only [build, hdate, ne_eq, not_true_eq_false, if_false, Except.map,
    eligibility_reordered hdistinct hperm hsymbols hsectors]
  rfl

theorem build_refused {settings : UniverseSettings} {generatedAt : Instant}
    (hdate : master.asOf ≠ asOf) :
    build master compliance settings asOf generatedAt =
      .error (.valueError "daily universe date must match instrument snapshot as_of") :=
  if_pos hdate

/-- A reproducible snapshot has one id in all processes. -/
theorem Reproducible.universeId_eq {generatedAt : Instant} {symbols sectors : FrozenSet String}
    (h : Reproducible master compliance settings asOf generatedAt) (hdate : master.asOf = asOf)
    (hdistinct : (master.instruments.map listingKey).Nodup)
    (hsymbols : symbols.Same settings.excludedSymbols)
    (hsectors : sectors.Same settings.excludedSectors) :
    universeId (iteratedFingerprint master compliance settings asOf symbols sectors) =
      universeId (iteratedFingerprint master compliance settings asOf settings.excludedSymbols
        settings.excludedSectors) := by
  have hsame := h _ (List.Perm.refl _) symbols hsymbols sectors hsectors
  rw [build_reordered hdate hdistinct (List.Perm.refl _) hsymbols hsectors] at hsame
  simp only [build, hdate, ne_eq, not_true_eq_false, if_false, Except.map, Except.ok.injEq,
    UniverseSnapshot.mk.injEq, and_true] at hsame
  exact hsame

/-- On the day of the master the snapshot is reproducible exactly when all processes have one
    fingerprint. -/
theorem reproducible_iff_fingerprint {generatedAt : Instant} (hdate : master.asOf = asOf)
    (hdistinct : (master.instruments.map listingKey).Nodup)
    (hids : Set.InjOn universeId (fingerprints master compliance settings asOf)) :
    Reproducible master compliance settings asOf generatedAt ↔
      ∀ symbols, symbols.Same settings.excludedSymbols →
        ∀ sectors, sectors.Same settings.excludedSectors →
          symbols = settings.excludedSymbols ∧ sectors = settings.excludedSectors := by
  have hown : build master compliance settings asOf generatedAt =
      (build master compliance settings asOf generatedAt).map fun snapshot =>
        { snapshot with
          snapshotId := universeId (iteratedFingerprint master compliance settings asOf
            settings.excludedSymbols settings.excludedSectors) } :=
    build_reordered hdate hdistinct (List.Perm.refl _) (List.Perm.refl _) (List.Perm.refl _)
  constructor
  · intro h symbols hsymbols sectors hsectors
    have hid := h.universeId_eq hdate hdistinct hsymbols hsectors
    have hfingerprint := hids (iteratedFingerprint_mem hsymbols hsectors)
      (iteratedFingerprint_mem (List.Perm.refl _) (List.Perm.refl _)) hid
    exact iteratedFingerprint_eq_iff.mp hfingerprint
  · intro h instruments hperm symbols hsymbols sectors hsectors
    rw [build_reordered hdate hdistinct hperm hsymbols hsectors,
      iteratedFingerprint_eq_iff.mpr (h symbols hsymbols sectors hsectors)]
    exact hown.symm

/-- The daily universe is reproducible exactly when its build is refused, or at most one symbol
    and at most one sector are excluded. -/
theorem build_reproducible (generatedAt : Instant)
    (hdistinct : (master.instruments.map listingKey).Nodup)
    (hids : Set.InjOn universeId (fingerprints master compliance settings asOf)) :
    Reproducible master compliance settings asOf generatedAt ↔
      master.asOf ≠ asOf ∨ settings.excludedSymbols.order.length ≤ 1 ∧
        settings.excludedSectors.order.length ≤ 1 := by
  by_cases hdate : master.asOf = asOf
  · rw [reproducible_iff_fingerprint hdate hdistinct hids]
    constructor
    · intro h
      have hsymbols : ∀ symbols, symbols.Same settings.excludedSymbols →
          symbols = settings.excludedSymbols :=
        fun symbols hsame => (h symbols hsame _ (List.Perm.refl _)).1
      have hsectors : ∀ sectors, sectors.Same settings.excludedSectors →
          sectors = settings.excludedSectors :=
        fun sectors hsame => (h _ (List.Perm.refl _) sectors hsame).2
      exact .inr ⟨FrozenSet.unique_order_iff.mp hsymbols, FrozenSet.unique_order_iff.mp hsectors⟩
    · rintro (hother | ⟨hsymbols, hsectors⟩) symbols hsame sectors hsame'
      · exact absurd hdate hother
      · exact ⟨FrozenSet.unique_order_iff.mpr hsymbols symbols hsame,
          FrozenSet.unique_order_iff.mpr hsectors sectors hsame'⟩
  · refine iff_of_true ?_ (.inl hdate)
    intro instruments _ symbols _ sectors _
    rw [build_refused hdate]
    exact build_refused hdate

end Godzilla.Universe

namespace Godzilla.Universe.Sample
open Godzilla MarketData Misc Godzilla.TextDigest

def instrument (symbol token : String) : Instrument where
  symbol := symbol
  token := token
  isin := "INE1"
  exchange := "NSE"
  segment := "EQ"
  tickSize := 1 / 20
  status := .active
  foEligible := true
  sector := "IT"
  priceBand := ⟨none, none, none, Godzilla.Sample.band_unbounded⟩
  effectiveFrom := 0
  effectiveTo := 10
  tickSize_pos := Godzilla.Sample.tick_size_pos
  dates_ordered := Godzilla.Sample.listing_dates_ordered

/-- A master that lists its instruments in no particular order. -/
def master : InstrumentMasterSnapshot where
  snapshotId := "master"
  version := "1"
  exchange := "NSE"
  asOf := 0
  generatedAt := 0
  sourceReference := "exchange"
  instruments :=
    [instrument "TCS" "100003", instrument "INFY" "100001", instrument "RELIANCE" "100002"]

def compliance : ComplianceProfile where
  profileId := "profile"
  intradayShortAllowed := true
  brokerPermissionVerified := true

/-- Settings that exclude these symbols and the metal sector. -/
def settings (symbols : List String) : UniverseSettings where
  requireFoEligibilityForShort := true
  liquidityPercentileMin := 1 / 2
  maxSpreadBps := 20
  maxAdvParticipation := 1 / 100
  excludedSymbols := FrozenSet.ofList symbols
  excludedSectors := FrozenSet.ofList ["METAL"]
  liquidity_range := by decide +kernel
  spread_pos := by decide
  participation_range := Godzilla.Sample.participation_sample

/-- The fingerprint of a process that iterates over the excluded symbols in this order. -/
def watched (symbols : List String) : Json :=
  iteratedFingerprint master compliance (settings ["WATCH", "FUTURE"]) 0 (FrozenSet.ofList symbols)
    (FrozenSet.ofList ["METAL"])

/-- Ids that tell one digest from all others. -/
@[reducible] def telling (own : Json) : UniverseNamespace :=
  ⟨fun name => if name = own.text then Uuid.ofNat 1 else Uuid.ofNat 2⟩

theorem universeId_telling (own : Json) : @universeId _ (telling own) own = Uuid.ofNat 1 := if_pos rfl

theorem universeId_telling_of_ne {own value : Json} (h : value ≠ own) :
    @universeId _ (telling own) value = Uuid.ofNat 2 :=
  if_neg (Json.text_injective.ne h)

scoped instance namespaceUuid : UniverseNamespace := telling (watched ["WATCH", "FUTURE"])

/-- One excluded symbol and one excluded sector have one iteration order, and the order in
    which the master lists its three instruments does not matter. -/
theorem build_reproducible_single :
    Reproducible master compliance (settings ["WATCH"]) 0 0 := by
  refine (build_reproducible 0 (by decide +kernel) ?_).mpr (.inr (by decide))
  rintro _ ⟨symbols, sectors, hsymbols, hsectors, rfl⟩
    _ ⟨symbols', sectors', hsymbols', hsectors', rfl⟩ -
  have hone {xs ys : FrozenSet String} {a : String} (hx : xs.order.Perm [a])
      (hy : ys.order.Perm [a]) : xs = ys :=
    FrozenSet.ext ((List.perm_singleton.mp hx).trans (List.perm_singleton.mp hy).symm)
  rw [hone hsymbols hsymbols', hone hsectors hsectors']

/-- Two excluded symbols, iterated over in both orders, give two ids. -/
theorem snapshotId_iteration :
    ¬ Reproducible master compliance (settings ["WATCH", "FUTURE"]) 0 0 := by
  intro h
  have hsymbols : (FrozenSet.ofList ["FUTURE", "WATCH"]).Same
      (settings ["WATCH", "FUTURE"]).excludedSymbols :=
    List.Perm.swap _ _ _
  have hsectors : (FrozenSet.ofList ["METAL"]).Same
      (settings ["WATCH", "FUTURE"]).excludedSectors :=
    List.Perm.refl _
  have hid : universeId (watched ["FUTURE", "WATCH"]) = universeId (watched ["WATCH", "FUTURE"]) :=
    h.universeId_eq rfl (by decide) hsymbols hsectors
  have hother : watched ["FUTURE", "WATCH"] ≠ watched ["WATCH", "FUTURE"] := by
    intro hsame
    have horders := (iteratedFingerprint_eq_iff.mp hsame).1
    exact absurd (congrArg FrozenSet.order horders) (by decide)
  rw [universeId_telling, universeId_telling_of_ne hother] at hid
  exact absurd hid (by decide +kernel)

end Godzilla.Universe.Sample
