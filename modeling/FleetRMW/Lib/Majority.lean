import Mathlib.Data.Finset.Card
import Mathlib.Tactic.Common

/-! # Majorities of a finite set

A majority holds more than half of the members, so two majorities share a member and
a majority of a nonempty set is nonempty.
-/

namespace FleetRMW.Lib

variable {ι : Type*} [DecidableEq ι]

/-- `Q` consists of members and holds more than half of them. -/
structure Majority (members Q : Finset ι) : Prop where
  subset : Q ⊆ members
  large : members.card < 2 * Q.card

theorem Majority.meet {members Q R : Finset ι} (hQ : Majority members Q)
    (hR : Majority members R) : ∃ v, v ∈ Q ∧ v ∈ R := by
  by_contra none
  have disjoint : Disjoint Q R :=
    Finset.disjoint_left.mpr fun v vQ vR => none ⟨v, vQ, vR⟩
  have inside : (Q ∪ R).card ≤ members.card :=
    Finset.card_le_card (Finset.union_subset hQ.subset hR.subset)
  rw [Finset.card_union_of_disjoint disjoint] at inside
  have := hQ.large
  have := hR.large
  omega

end FleetRMW.Lib
