import Mathlib.Data.List.Induction

/-!
# Hash chains

A chain of records: each names the hash of the record before it and carries its
own, which `link` recomputes from that hash and the record. Any type of records
and of hashes.
-/

namespace Misc

variable {R H : Type} (prevOf hashOf : R → H) (link : H → R → H)

/-- The records are chained from `prev` on. -/
def Linked : H → List R → Prop
  | _, [] => True
  | prev, r :: rest => prevOf r = prev ∧ hashOf r = link prev r ∧ Linked (hashOf r) rest

/-- The hash a record appended after these has to name. -/
def tip : H → List R → H
  | prev, [] => prev
  | _, r :: rest => tip (hashOf r) rest

variable {prevOf hashOf link}

theorem tip_concat (prev : H) (rs : List R) (r : R) : tip hashOf prev (rs ++ [r]) = hashOf r := by
  induction rs generalizing prev with
  | nil => rfl
  | cons s rest ih => exact ih (hashOf s)

theorem tip_eq_getLast? (prev : H) (rs : List R) :
    tip hashOf prev rs = (rs.getLast?.map hashOf).getD prev := by
  rcases List.eq_nil_or_concat rs with rfl | ⟨init, r, rfl⟩
  · rfl
  · rw [List.concat_eq_append, tip_concat, List.getLast?_concat]
    rfl

/-- Appending a record that names the tip keeps the chain. -/
theorem Linked.concat {prev : H} {rs : List R} {r : R} (h : Linked prevOf hashOf link prev rs)
    (hprev : prevOf r = tip hashOf prev rs) (hhash : hashOf r = link (tip hashOf prev rs) r) :
    Linked prevOf hashOf link prev (rs ++ [r]) := by
  induction rs generalizing prev with
  | nil => exact ⟨hprev, hhash, trivial⟩
  | cons s rest ih =>
    obtain ⟨hs, hlink, hrest⟩ := h
    exact ⟨hs, hlink, ih hrest hprev hhash⟩

/-- The chain of a prefix, and what the record after it names and carries. -/
theorem Linked.of_concat {prev : H} {rs : List R} {r : R}
    (h : Linked prevOf hashOf link prev (rs ++ [r])) :
    Linked prevOf hashOf link prev rs ∧ hashOf r = link (tip hashOf prev rs) r := by
  induction rs generalizing prev with
  | nil => exact ⟨trivial, h.2.1⟩
  | cons s rest ih =>
    obtain ⟨hs, hlink, hrest⟩ := h
    obtain ⟨hinit, hlast⟩ := ih hrest
    exact ⟨⟨hs, hlink, hinit⟩, hlast⟩

/-- The tip of a chain determines what its records carry, when a link determines the hash
    before it and what its record carries, and no link is the hash the chains start from. -/
theorem Linked.contents_eq_of_tip_eq {C : Type} {content : R → C} {start : H}
    (hlink : ∀ p q r s, link p r = link q s → p = q ∧ content r = content s)
    (hstart : ∀ p r, link p r ≠ start) {rs ss : List R}
    (hr : Linked prevOf hashOf link start rs) (hs : Linked prevOf hashOf link start ss)
    (htip : tip hashOf start rs = tip hashOf start ss) : rs.map content = ss.map content := by
  induction rs using List.reverseRecOn generalizing ss with
  | nil =>
    rcases List.eq_nil_or_concat ss with rfl | ⟨init, s, rfl⟩
    · rfl
    · rw [List.concat_eq_append] at hs htip
      rw [tip_concat, hs.of_concat.2] at htip
      exact absurd htip.symm (hstart _ _)
  | append_singleton rs r ih =>
    obtain ⟨hrs, hhash⟩ := hr.of_concat
    rcases List.eq_nil_or_concat ss with rfl | ⟨init, s, rfl⟩
    · rw [tip_concat, hhash] at htip
      exact absurd htip (hstart _ _)
    · rw [List.concat_eq_append] at hs htip ⊢
      obtain ⟨hinit, hhash'⟩ := hs.of_concat
      rw [tip_concat, tip_concat, hhash, hhash'] at htip
      obtain ⟨hprev, hcontent⟩ := hlink _ _ _ _ htip
      rw [List.map_append, List.map_append, ih hrs hinit hprev, List.map_singleton,
        List.map_singleton, hcontent]

end Misc
