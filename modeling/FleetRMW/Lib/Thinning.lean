import Mathlib.Algebra.BigOperators.Group.List.Basic
import Mathlib.Algebra.Order.Field.Rat
import Mathlib.Data.List.Forall2

/-! # Choosing by thinning

From each of some groups at most one option is chosen, within limits on what the choice costs and
on how many options it has, for the greatest value. A program goes through the groups and keeps
some of the choices from those before. It may drop a choice that another one dominates: with as
many options, at no more cost, of no less value. What it keeps then holds a best choice in the
end.
-/

namespace FleetRMW.Lib

/-- For each group one of its options, or none. -/
def Chooses {O : Type*} (groups : List (List O)) (choice : List (Option O)) : Prop :=
  List.Forall₂ (fun group chosen => ∀ o ∈ chosen, o ∈ group) groups choice

theorem Chooses.of_concat {O : Type*} {groups : List (List O)} {group : List O}
    {choice : List (Option O)} (h : Chooses (groups ++ [group]) choice) :
    ∃ first o, choice = first ++ [o] ∧ Chooses groups first ∧ ∀ x ∈ o, x ∈ group := by
  induction groups generalizing choice with
  | nil =>
      cases h with
      | cons offered rest =>
          cases rest
          exact ⟨[], _, rfl, .nil, offered⟩
  | cons g groups ih =>
      cases h with
      | cons offered rest =>
          obtain ⟨first, o, rfl, chosen, last⟩ := ih rest
          exact ⟨_ :: first, o, rfl, .cons offered chosen, last⟩

namespace Choice

variable {O : Type*} (cost : O → Int) (value : O → Rat)

def totalCost (choice : List (Option O)) : Int := (choice.map fun o => o.elim 0 cost).sum

def totalValue (choice : List (Option O)) : Rat := (choice.map fun o => o.elim 0 value).sum

/-- The number of options that are chosen. -/
def count (choice : List (Option O)) : Int := totalCost (fun _ => 1) choice

@[simp] theorem totalCost_concat (choice : List (Option O)) (o : Option O) :
    totalCost cost (choice ++ [o]) = totalCost cost choice + o.elim 0 cost := by
  simp only [totalCost, List.map_append, List.map_singleton, List.sum_append, List.sum_singleton]

@[simp] theorem totalValue_concat (choice : List (Option O)) (o : Option O) :
    totalValue value (choice ++ [o]) = totalValue value choice + o.elim 0 value := by
  simp only [totalValue, List.map_append, List.map_singleton, List.sum_append, List.sum_singleton]

@[simp] theorem count_concat (choice : List (Option O)) (o : Option O) :
    count (choice ++ [o]) = count choice + o.elim 0 fun _ => 1 :=
  totalCost_concat _ choice o

@[simp] theorem count_cons (o : Option O) (choice : List (Option O)) :
    count (o :: choice) = (o.elim 0 fun _ => 1) + count choice := by
  simp only [count, totalCost, List.map_cons, List.sum_cons]

theorem count_nonneg (choice : List (Option O)) : 0 ≤ count choice := by
  induction choice with
  | nil => exact Int.le_refl 0
  | cons o choice ih =>
      rw [count_cons]
      cases o with
      | none => simpa using ih
      | some x => simp only [Option.elim_some]; omega

/-- Without an option there is no value. -/
theorem totalValue_eq_zero {choice : List (Option O)} (h : count choice ≤ 0) :
    totalValue value choice = 0 := by
  induction choice with
  | nil => rfl
  | cons o choice ih =>
      rw [count_cons] at h
      have rest := count_nonneg choice
      cases o with
      | none =>
          rw [Option.elim_none, Int.zero_add] at h
          have later := ih h
          simp only [totalValue, List.map_cons, List.sum_cons, Option.elim_none] at later ⊢
          rw [later, add_zero]
      | some x =>
          simp only [Option.elim_some] at h
          omega

/-- As many options, for no more, of no less value. -/
structure Dominates (better worse : List (Option O)) : Prop where
  count : count better = count worse
  cost : totalCost cost better ≤ totalCost cost worse
  value : totalValue value worse ≤ totalValue value better

namespace Dominates

variable {cost value} {c c' c'' : List (Option O)}

theorem refl (c : List (Option O)) : Dominates cost value c c := ⟨rfl, Int.le_refl _, le_refl _⟩

theorem trans (h : Dominates cost value c c') (h' : Dominates cost value c' c'') :
    Dominates cost value c c'' :=
  ⟨h.count.trans h'.count, Int.le_trans h.cost h'.cost, le_trans h'.value h.value⟩

theorem concat (h : Dominates cost value c c') (o : Option O) :
    Dominates cost value (c ++ [o]) (c' ++ [o]) where
  count := by rw [count_concat, count_concat, h.count]
  cost := by
    rw [totalCost_concat, totalCost_concat]
    exact Int.add_le_add_right h.cost _
  value := by
    rw [totalValue_concat, totalValue_concat]
    exact add_le_add_left h.value _

end Dominates

/-- The limits on a choice. -/
structure Within (capacity : Int) (limit : Option Int) (choice : List (Option O)) : Prop where
  cost : totalCost cost choice ≤ capacity
  count : ∀ most ∈ limit, count choice ≤ most

variable {cost value} {capacity : Int} {limit : Option Int} {groups : List (List O)}
  {kept kept' : Set (List (Option O))} {c c' : List (Option O)}

theorem Within.of_dominates (h : Within cost capacity limit c') (d : Dominates cost value c c') :
    Within cost capacity limit c where
  cost := Int.le_trans d.cost h.cost
  count most isLimit := d.count.trans_le (h.count most isLimit)

/-- What is within the limits was so before its last group. -/
theorem Within.of_concat {o : Option O} (h : Within cost capacity limit (c ++ [o]))
    (dear : 0 ≤ o.elim 0 cost) : Within cost capacity limit c where
  cost := by
    have := h.cost
    rw [totalCost_concat] at this
    omega
  count most isLimit := by
    have := h.count most isLimit
    rw [count_concat] at this
    have : 0 ≤ o.elim 0 fun _ : O => (1 : Int) := by
      cases o with
      | none => exact Int.le_refl 0
      | some x => exact Int.one_nonneg
    omega

/-- The choices that are kept are choices, and every choice within the limits is dominated by one
    that is kept. -/
structure Frontier (cost : O → Int) (value : O → Rat) (capacity : Int) (limit : Option Int)
    (groups : List (List O)) (kept : Set (List (Option O))) : Prop where
  chooses : ∀ c ∈ kept, Chooses groups c
  complete : ∀ c, Chooses groups c → Within cost capacity limit c →
    ∃ k ∈ kept, Dominates cost value k c

namespace Frontier

theorem nil : Frontier cost value capacity limit [] {[]} where
  chooses := by
    rintro c rfl
    exact .nil
  complete := by
    intro c choice _
    cases choice
    exact ⟨[], rfl, .refl []⟩

/-- Every kept choice is extended by every option of the next group, as far as the limits allow. -/
theorem concat (h : Frontier cost value capacity limit groups kept) {group : List O}
    (nonneg : ∀ o ∈ group, 0 ≤ cost o)
    (extends_ : ∀ c ∈ kept', ∃ k ∈ kept, ∃ o : Option O, (∀ x ∈ o, x ∈ group) ∧ c = k ++ [o])
    (extended : ∀ k ∈ kept, ∀ o : Option O, (∀ x ∈ o, x ∈ group) →
      Within cost capacity limit (k ++ [o]) → ∃ c ∈ kept', Dominates cost value c (k ++ [o])) :
    Frontier cost value capacity limit (groups ++ [group]) kept' where
  chooses := by
    intro c isKept
    obtain ⟨k, before, o, offered, rfl⟩ := extends_ c isKept
    exact List.rel_append (h.chooses k before) (.cons offered .nil)
  complete := by
    intro c choice within
    obtain ⟨first, o, rfl, chosen, offered⟩ := choice.of_concat
    have dear : 0 ≤ o.elim 0 cost := by
      cases o with
      | none => exact Int.le_refl 0
      | some x => exact nonneg x (offered x rfl)
    obtain ⟨k, isKept, d⟩ := h.complete first chosen (within.of_concat dear)
    have extension := d.concat o
    obtain ⟨c, isKept', d'⟩ := extended k isKept o offered (within.of_dominates extension)
    exact ⟨c, isKept', d'.trans extension⟩

/-- Choices that others dominate may go. -/
theorem thin (h : Frontier cost value capacity limit groups kept) (some_of : kept' ⊆ kept)
    (dominated : ∀ c ∈ kept, ∃ c' ∈ kept', Dominates cost value c' c) :
    Frontier cost value capacity limit groups kept' where
  chooses c isKept := h.chooses c (some_of isKept)
  complete c choice within := by
    obtain ⟨k, isKept, d⟩ := h.complete c choice within
    obtain ⟨k', isKept', d'⟩ := dominated k isKept
    exact ⟨k', isKept', d'.trans d⟩

/-- The best choice that is kept is the best of all. -/
theorem best (h : Frontier cost value capacity limit groups kept)
    (most : ∀ k ∈ kept, totalValue value k ≤ totalValue value c) (choice : Chooses groups c')
    (within : Within cost capacity limit c') : totalValue value c' ≤ totalValue value c := by
  obtain ⟨k, isKept, d⟩ := h.complete c' choice within
  exact le_trans d.value (most k isKept)

end Frontier

end Choice

end FleetRMW.Lib
