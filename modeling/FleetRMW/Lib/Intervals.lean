import Mathlib.Order.Lattice

/-! # Reports of intervals

A set is reported as closed intervals in ascending order, with a number that is not in the set
between any two of them.
-/

namespace FleetRMW.Lib

variable {α : Type*} [LinearOrder α] {ranges : List (α × α)} {missing missing' : α → Prop}

/-- The intervals are the set: sorted, disjoint, not adjacent, and with the set as their union. -/
structure Reports (ranges : List (α × α)) (missing : α → Prop) : Prop where
  inhabited : ∀ r ∈ ranges, r.1 ≤ r.2
  apart : ranges.Pairwise fun r r' => ∃ m, r.2 < m ∧ m < r'.1
  covers : ∀ n, (∃ r ∈ ranges, r.1 ≤ n ∧ n ≤ r.2) ↔ missing n

namespace Reports

theorem congr (reports : Reports ranges missing) (same : ∀ n, missing n ↔ missing' n) :
    Reports ranges missing' where
  inhabited := reports.inhabited
  apart := reports.apart
  covers n := (reports.covers n).trans (same n)

theorem nil (nothing : ∀ n, ¬missing n) : Reports [] missing where
  inhabited := nofun
  apart := .nil
  covers n := by
    constructor
    · intro inside
      obtain ⟨r, among, _⟩ := inside
      cases among
    · intro isMissing
      exact absurd isMissing (nothing n)

/-- An interval in front of a report whose numbers all stand behind a gap. -/
theorem cons {a b m : α} (le : a ≤ b) (gap : b < m) (rest : Reports ranges missing')
    (behind : ∀ n, missing' n → m < n) (same : ∀ n, missing n ↔ (a ≤ n ∧ n ≤ b) ∨ missing' n) :
    Reports ((a, b) :: ranges) missing where
  inhabited r among := by
    cases among with
    | head => exact le
    | tail _ later => exact rest.inhabited r later
  apart := by
    apply List.pairwise_cons.mpr
    refine ⟨?_, rest.apart⟩
    intro r among
    have first : missing' r.1 :=
      (rest.covers r.1).mp ⟨r, among, le_refl _, rest.inhabited r among⟩
    exact ⟨m, gap, behind _ first⟩
  covers n := by
    rw [same, ← rest.covers]
    constructor
    · intro inside
      obtain ⟨r, among, bounds⟩ := inside
      cases among with
      | head => exact .inl bounds
      | tail _ later => exact .inr ⟨r, later, bounds⟩
    · intro inside
      cases inside with
      | inl bounds => exact ⟨(a, b), List.mem_cons_self, bounds⟩
      | inr later =>
          obtain ⟨r, among, bounds⟩ := later
          exact ⟨r, List.mem_cons_of_mem _ among, bounds⟩

/-- One interval. -/
theorem single {a b : α} (le : a ≤ b) (same : ∀ n, missing n ↔ a ≤ n ∧ n ≤ b) :
    Reports [(a, b)] missing where
  inhabited r among := by
    cases List.mem_singleton.mp among
    exact le
  apart := List.pairwise_singleton _ _
  covers n := by
    rw [same]
    constructor
    · intro inside
      obtain ⟨r, among, bounds⟩ := inside
      cases List.mem_singleton.mp among
      exact bounds
    · intro bounds
      exact ⟨(a, b), List.mem_singleton_self _, bounds⟩

end Reports

end FleetRMW.Lib
