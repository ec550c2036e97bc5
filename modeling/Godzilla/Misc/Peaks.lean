import Mathlib.Data.List.Basic
import Mathlib.Order.Bounds.Basic

/-!
# Peaks of a list, found when they are confirmed

A peak is an element that beats the `k` elements on either side of it, all of which are
there. A pass over the list finds each peak at the last of the elements it has to beat,
so what it has found is never taken back when the list grows.
-/

namespace Misc

variable {α : Type}

/-- The element at `i` beats the `k` elements on either side of it, all of which are there. -/
structure IsPeak (beats : α → α → Bool) (k : ℕ) (xs : List α) (i : ℕ) : Prop where
  before : k ≤ i
  after : i + k < xs.length
  beaten : ∀ x ∈ xs[i]?, ∀ j, j ≠ i → i ≤ j + k → j ≤ i + k → ∀ y ∈ xs[j]?, beats x y

/-- The peak that the element at `confirmed` confirms. -/
def peakAt (beats : α → α → Bool) (k : ℕ) (xs : List α) (confirmed : ℕ) : Option α :=
  match xs[confirmed - k]? with
  | some x =>
    let neighbors := (xs.drop (confirmed - 2 * k)).take k ++ (xs.drop (confirmed - k + 1)).take k
    if neighbors.all (beats x) then some x else none
  | none => none

/-- The peaks in the order in which they are confirmed. -/
def confirmedPeaks (beats : α → α → Bool) (k : ℕ) (xs : List α) : List α :=
  (List.range' (2 * k) (xs.length - 2 * k)).filterMap (peakAt beats k xs)

/-- Where the confirmed peaks are. -/
def peakIndices (beats : α → α → Bool) (k : ℕ) (xs : List α) : List ℕ :=
  ((List.range' (2 * k) (xs.length - 2 * k)).filter
    fun confirmed => (peakAt beats k xs confirmed).isSome).map (· - k)

theorem mem_window {xs : List α} {start count : ℕ} {y : α} :
    y ∈ (xs.drop start).take count ↔ ∃ j, start ≤ j ∧ j < start + count ∧ y ∈ xs[j]? := by
  rw [List.mem_iff_getElem?]
  constructor
  · rintro ⟨n, hn⟩
    rw [List.getElem?_take] at hn
    split at hn
    · next hlt =>
      rw [List.getElem?_drop] at hn
      exact ⟨start + n, by omega, by omega, hn⟩
    · cases hn
  · rintro ⟨j, hstart, hstop, hj⟩
    refine ⟨j - start, ?_⟩
    rw [List.getElem?_take, if_pos (by omega), List.getElem?_drop,
      Nat.add_sub_cancel' hstart]
    exact hj

variable {beats : α → α → Bool} {k : ℕ} {xs : List α}

/-- The elements before and after a position are those it has to beat. -/
theorem all_neighbors_iff {confirmed : ℕ} (hstart : 2 * k ≤ confirmed) {x : α} :
    ((xs.drop (confirmed - 2 * k)).take k ++ (xs.drop (confirmed - k + 1)).take k).all (beats x) ↔
      ∀ j, j ≠ confirmed - k → confirmed - k ≤ j + k → j ≤ confirmed - k + k →
        ∀ y ∈ xs[j]?, beats x y := by
  simp only [List.all_append, Bool.and_eq_true, List.all_eq_true, mem_window]
  constructor
  · rintro ⟨hleft, hright⟩ j hne hlow hhigh y hy
    rcases Nat.lt_or_gt_of_ne hne with hlt | hgt
    · exact hleft y ⟨j, by omega, by omega, hy⟩
    · exact hright y ⟨j, by omega, by omega, hy⟩
  · intro h
    constructor
    · rintro y ⟨j, hlow, hhigh, hy⟩
      exact h j (by omega) (by omega) (by omega) y hy
    · rintro y ⟨j, hlow, hhigh, hy⟩
      exact h j (by omega) (by omega) (by omega) y hy

theorem peakAt_eq {confirmed : ℕ} {x : α} (h : xs[confirmed - k]? = some x) :
    peakAt beats k xs confirmed =
      if ((xs.drop (confirmed - 2 * k)).take k ++ (xs.drop (confirmed - k + 1)).take k).all (beats x)
      then some x else none := by
  rw [peakAt, h]

/-- A peak is confirmed by the last of the elements it has to beat. -/
theorem mem_peakAt {confirmed : ℕ} (hstart : 2 * k ≤ confirmed) (hstop : confirmed < xs.length)
    {x : α} : x ∈ peakAt beats k xs confirmed ↔
      x ∈ xs[confirmed - k]? ∧ IsPeak beats k xs (confirmed - k) := by
  have hlt : confirmed - k < xs.length := by omega
  have hget : xs[confirmed - k]? = some xs[confirmed - k] := List.getElem?_eq_getElem hlt
  rw [peakAt_eq hget, hget]
  constructor
  · intro h
    by_cases hall : ((xs.drop (confirmed - 2 * k)).take k ++
        (xs.drop (confirmed - k + 1)).take k).all (beats xs[confirmed - k])
    · rw [if_pos hall] at h
      refine ⟨h, by omega, by omega, ?_⟩
      rw [hget]
      rintro _ ⟨⟩
      exact (all_neighbors_iff hstart).mp hall
    · rw [if_neg hall] at h
      cases h
  · rintro ⟨hx, hpeak⟩
    rw [if_pos ((all_neighbors_iff hstart).mpr (hpeak.beaten _ hget))]
    exact hx

theorem isSome_peakAt {confirmed : ℕ} (hstart : 2 * k ≤ confirmed) (hstop : confirmed < xs.length) :
    (peakAt beats k xs confirmed).isSome ↔ IsPeak beats k xs (confirmed - k) := by
  rw [Option.isSome_iff_exists]
  constructor
  · rintro ⟨x, hx⟩
    exact ((mem_peakAt hstart hstop).mp hx).2
  · intro hpeak
    have hlt : confirmed - k < xs.length := by omega
    exact ⟨xs[confirmed - k], (mem_peakAt hstart hstop).mpr ⟨List.getElem?_eq_getElem hlt, hpeak⟩⟩

/-- The confirmed peaks are all the peaks. -/
theorem mem_peakIndices {i : ℕ} : i ∈ peakIndices beats k xs ↔ IsPeak beats k xs i := by
  simp only [peakIndices, List.mem_map, List.mem_filter, List.mem_range'_1]
  constructor
  · rintro ⟨confirmed, ⟨⟨hstart, hstop⟩, hsome⟩, rfl⟩
    exact (isSome_peakAt hstart (by omega)).mp hsome
  · intro hpeak
    have hbefore := hpeak.before
    have hafter := hpeak.after
    refine ⟨i + k, ⟨⟨by omega, by omega⟩, ?_⟩, Nat.add_sub_cancel i k⟩
    rw [isSome_peakAt (by omega) hafter, Nat.add_sub_cancel]
    exact hpeak

/-- Peaks that are confirmed later stand later. -/
theorem peakIndices_pairwise : (peakIndices beats k xs).Pairwise (· < ·) := by
  rw [peakIndices, List.pairwise_map]
  have hordered := (List.pairwise_lt_range' (s := 2 * k) (n := xs.length - 2 * k) 1).filter
    fun confirmed => (peakAt beats k xs confirmed).isSome
  refine hordered.imp_of_mem ?_
  intro a b ha hb hlt
  have hstart := (List.mem_range'_1.mp (List.mem_of_mem_filter ha)).1
  omega

/-- The confirmed peaks are the elements where they are. -/
theorem confirmedPeaks_eq :
    confirmedPeaks beats k xs = (peakIndices beats k xs).filterMap (xs[·]?) := by
  rw [confirmedPeaks, peakIndices, List.filterMap_map, List.filterMap_filter]
  refine List.filterMap_congr ?_
  intro confirmed hmem
  obtain ⟨hstart, hstop⟩ := List.mem_range'_1.mp hmem
  cases hpeak : peakAt beats k xs confirmed with
  | none => rfl
  | some x => exact ((mem_peakAt hstart (by omega)).mp hpeak).1.symm

/-- A peak stays one as the list grows, and needs only the elements that confirm it. -/
theorem isPeak_append (more : List α) {i : ℕ} (h : i + k < xs.length) :
    IsPeak beats k (xs ++ more) i ↔ IsPeak beats k xs i := by
  have hget : ∀ j, j ≤ i + k → (xs ++ more)[j]? = xs[j]? := fun j hj =>
    List.getElem?_append_left (by omega)
  constructor
  · intro hpeak
    refine ⟨hpeak.before, h, ?_⟩
    intro x hx j hne hlow hhigh y hy
    exact hpeak.beaten x (by rwa [hget i (by omega)]) j hne hlow hhigh y (by rwa [hget j hhigh])
  · intro hpeak
    refine ⟨hpeak.before, by rw [List.length_append]; omega, ?_⟩
    intro x hx j hne hlow hhigh y hy
    rw [hget i (by omega)] at hx
    rw [hget j hhigh] at hy
    exact hpeak.beaten x hx j hne hlow hhigh y hy

/-- A peak of a longer list is an old one, or is confirmed by one of the further elements. -/
theorem isPeak_append_cases {more : List α} {i : ℕ} (h : IsPeak beats k (xs ++ more) i) :
    IsPeak beats k xs i ∨ xs.length ≤ i + k := by
  rcases Nat.lt_or_ge (i + k) xs.length with hlt | hge
  · exact Or.inl ((isPeak_append more hlt).mp h)
  · exact Or.inr hge

/-- What has been found where it was looked for does not change as the list grows. -/
theorem peakAt_append (more : List α) {confirmed : ℕ} (hstart : 2 * k ≤ confirmed)
    (hstop : confirmed < xs.length) :
    peakAt beats k (xs ++ more) confirmed = peakAt beats k xs confirmed := by
  apply Option.ext
  intro x
  have hlonger : confirmed < (xs ++ more).length := by rw [List.length_append]; omega
  have hkept : (xs ++ more)[confirmed - k]? = xs[confirmed - k]? :=
    List.getElem?_append_left (by omega)
  rw [← Option.mem_def, ← Option.mem_def, mem_peakAt hstart hlonger, mem_peakAt hstart hstop, hkept,
    isPeak_append more (by omega)]

/-- The positions that a pass looks at, continued. -/
theorem range'_append_more (k : ℕ) (xs more : List α) :
    ∃ later, List.range' (2 * k) ((xs ++ more).length - 2 * k) =
      List.range' (2 * k) (xs.length - 2 * k) ++ later := by
  refine ⟨List.range' (2 * k + (xs.length - 2 * k))
    ((xs ++ more).length - 2 * k - (xs.length - 2 * k)), ?_⟩
  rw [List.range'_append_1]
  congr 1
  rw [List.length_append]
  omega

/-- The peaks of a list come first among those of a longer one. -/
theorem confirmedPeaks_prefix (more : List α) :
    confirmedPeaks beats k xs <+: confirmedPeaks beats k (xs ++ more) := by
  obtain ⟨later, hrange⟩ := range'_append_more k xs more
  have hfirst : (List.range' (2 * k) (xs.length - 2 * k)).filterMap (peakAt beats k (xs ++ more)) =
      (List.range' (2 * k) (xs.length - 2 * k)).filterMap (peakAt beats k xs) := by
    refine List.filterMap_congr ?_
    intro confirmed hmem
    obtain ⟨hstart, hstop⟩ := List.mem_range'_1.mp hmem
    exact peakAt_append more hstart (by omega)
  rw [confirmedPeaks, confirmedPeaks, hrange, List.filterMap_append, hfirst]
  exact List.prefix_append _ _

/-- The last of the confirmed peaks is the latest peak. -/
theorem getLast?_confirmedPeaks {i : ℕ} (h : IsGreatest {i | IsPeak beats k xs i} i) :
    (confirmedPeaks beats k xs).getLast? = xs[i]? := by
  obtain ⟨before, later, hsplit⟩ := List.append_of_mem (mem_peakIndices.mpr h.1)
  have hpairwise : (peakIndices beats k xs).Pairwise (· < ·) := peakIndices_pairwise
  have hlater : later = [] := by
    rw [List.eq_nil_iff_forall_not_mem]
    intro j hj
    have hlt : i < j := by
      rw [hsplit] at hpairwise
      exact (List.pairwise_cons.mp (List.pairwise_append.mp hpairwise).2.1).1 j hj
    have hpeak : IsPeak beats k xs j := mem_peakIndices.mp (by rw [hsplit]; simp [hj])
    exact absurd (h.2 hpeak) (not_le.mpr hlt)
  have hinside : i < xs.length := lt_of_le_of_lt (Nat.le_add_right i k) h.1.after
  rw [confirmedPeaks_eq, hsplit, hlater, List.filterMap_append, List.getElem?_eq_getElem hinside]
  simp [hinside]

/-- Without a peak none is found. -/
theorem confirmedPeaks_eq_nil (h : ∀ i, ¬ IsPeak beats k xs i) : confirmedPeaks beats k xs = [] := by
  have hnone : peakIndices beats k xs = [] := by
    rw [List.eq_nil_iff_forall_not_mem]
    intro i hi
    exact h i (mem_peakIndices.mp hi)
  rw [confirmedPeaks_eq, hnone, List.filterMap_nil]

end Misc
