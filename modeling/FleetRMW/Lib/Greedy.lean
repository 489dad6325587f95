import FleetRMW.Lib.Totals
import Mathlib.Data.List.Basic
import Mathlib.Algebra.Order.Group.Int

/-! # Greedy passes under a budget

A pass goes through items in an order. For each it takes the first offer that fits in what is left
of the budget, or nothing. It never takes more than the budget; and if it takes no more than a
smaller budget, then it takes the same under that one.
-/

namespace FleetRMW.Lib

namespace Greedy

variable {α β : Type} (offers : α → List β) (cost : β → Int)

/-- What one item takes. -/
def serve (remaining : Int) (x : α) : Option β := (offers x).find? fun b => cost b ≤ remaining

/-- The offers that are taken, and what is left. -/
def pass (items : List α) (budget : Int) : List β × Int :=
  items.foldl (fun (taken, remaining) x =>
    match serve offers cost remaining x with
    | some b => (taken ++ [b], remaining - cost b)
    | none => (taken, remaining)) ([], budget)

/-- What is taken, one item after the other. -/
def taken : List α → Int → List β
  | [], _ => []
  | x :: items, remaining =>
      match serve offers cost remaining x with
      | some b => b :: taken items (remaining - cost b)
      | none => taken items remaining

def total (taken : List β) : Int := (taken.map cost).sum

variable {offers cost}

theorem pass_eq (items : List α) (budget : Int) :
    pass offers cost items budget =
      (taken offers cost items budget, budget - total cost (taken offers cost items budget)) := by
  have general : ∀ (items : List α) (before : List β) (budget : Int),
      items.foldl (fun (taken, remaining) x =>
        match serve offers cost remaining x with
        | some b => (taken ++ [b], remaining - cost b)
        | none => (taken, remaining)) (before, budget) =
      (before ++ taken offers cost items budget,
        budget - total cost (taken offers cost items budget)) := by
    intro items
    induction items with
    | nil =>
        intro before budget
        simp [taken, total]
    | cons x items ih =>
        intro before budget
        rw [List.foldl_cons]
        cases served : serve offers cost budget x with
        | none =>
            dsimp only
            rw [served, ih, taken, served]
        | some b =>
            dsimp only
            rw [served]
            dsimp only
            rw [ih, taken, served]
            simp [total, sub_sub]
  exact general items [] budget

theorem serve_spec {remaining : Int} {x : α} {b : β} (h : serve offers cost remaining x = some b) :
    b ∈ offers x ∧ cost b ≤ remaining :=
  ⟨List.mem_of_find?_eq_some h, by simpa using List.find?_some h⟩

/-- An offer that was taken is taken with less left, as long as it fits. -/
theorem serve_of_le {remaining less : Int} {x : α} {b : β}
    (h : serve offers cost remaining x = some b) (le : less ≤ remaining) (fits : cost b ≤ less) :
    serve offers cost less x = some b := by
  unfold serve at h ⊢
  obtain ⟨-, before, after, split, refused⟩ := List.find?_eq_some_iff_append.mp h
  refine List.find?_eq_some_iff_append.mpr ⟨by simpa using fits, before, after, split, ?_⟩
  intro x among
  have dear := refused x among
  simp only [Bool.not_eq_true', decide_eq_false_iff_not] at dear ⊢
  omega

theorem serve_eq_none_of_le {remaining less : Int} {x : α}
    (h : serve offers cost remaining x = none) (le : less ≤ remaining) :
    serve offers cost less x = none := by
  unfold serve at h ⊢
  rw [List.find?_eq_none] at h ⊢
  intro b offered
  have dear := h b offered
  simp only [decide_eq_true_eq] at dear ⊢
  omega

@[simp] theorem total_nil : total cost ([] : List β) = 0 := rfl

@[simp] theorem total_cons (b : β) (bs : List β) : total cost (b :: bs) = cost b + total cost bs := by
  simp only [total, List.map_cons, List.sum_cons]

theorem total_nonneg {bs : List β} (nonneg : ∀ b ∈ bs, 0 ≤ cost b) : 0 ≤ total cost bs := by
  induction bs with
  | nil => exact Int.le_refl 0
  | cons b bs ih =>
      have first := nonneg b List.mem_cons_self
      have rest := ih fun c among => nonneg c (List.mem_cons_of_mem _ among)
      rw [total_cons]
      omega

theorem mem_taken {items : List α} {budget : Int} {b : β} (h : b ∈ taken offers cost items budget) :
    ∃ x ∈ items, b ∈ offers x := by
  induction items generalizing budget with
  | nil => cases h
  | cons x items ih =>
      unfold taken at h
      cases served : serve offers cost budget x with
      | none =>
          rw [served] at h
          obtain ⟨y, among, offered⟩ := ih h
          exact ⟨y, List.mem_cons_of_mem _ among, offered⟩
      | some c =>
          rw [served] at h
          cases List.mem_cons.mp h with
          | inl same => exact ⟨x, List.mem_cons_self, same ▸ (serve_spec served).1⟩
          | inr later =>
              obtain ⟨y, among, offered⟩ := ih later
              exact ⟨y, List.mem_cons_of_mem _ among, offered⟩

theorem total_taken_le (nonneg : ∀ x, ∀ b ∈ offers x, 0 ≤ cost b) (items : List α)
    (budget : Int) : total cost (taken offers cost items budget) ≤ max 0 budget := by
  induction items generalizing budget with
  | nil => exact le_max_left 0 budget
  | cons x items ih =>
      unfold taken
      cases served : serve offers cost budget x with
      | none => exact ih budget
      | some b =>
          obtain ⟨offered, fits⟩ := serve_spec served
          have free := nonneg x b offered
          have rest := ih (budget - cost b)
          rw [max_eq_right (by omega)] at rest ⊢
          dsimp only
          rw [total_cons]
          omega

/-- What is taken under a budget is taken under a smaller one that it does not exceed. -/
theorem taken_of_total_le (nonneg : ∀ x, ∀ b ∈ offers x, 0 ≤ cost b) {items : List α}
    (budget less : Int) (le : less ≤ budget)
    (fits : total cost (taken offers cost items budget) ≤ less) :
    taken offers cost items less = taken offers cost items budget := by
  induction items generalizing budget less with
  | nil => rfl
  | cons x items ih =>
      unfold taken at fits ⊢
      cases served : serve offers cost budget x with
      | none =>
          rw [served] at fits
          rw [serve_eq_none_of_le served le]
          exact ih budget less le fits
      | some b =>
          rw [served] at fits
          dsimp only at fits
          rw [total_cons] at fits
          have rest : 0 ≤ total cost (taken offers cost items (budget - cost b)) := by
            apply total_nonneg
            intro c among
            obtain ⟨y, -, offered⟩ := mem_taken among
            exact nonneg y c offered
          have later := ih (budget - cost b) (less - cost b) (by omega) (by omega)
          rw [serve_of_le served le (by omega)]
          dsimp only
          rw [later]

/-- Each item takes at most one offer. -/
theorem keys_taken_sublist {κ : Type} {key : α → κ} {name : β → κ} {items : List α}
    (named : ∀ x, ∀ b ∈ offers x, name b = key x) (budget : Int) :
    ((taken offers cost items budget).map name).Sublist (items.map key) := by
  induction items generalizing budget with
  | nil => exact .slnil
  | cons x items ih =>
      unfold taken
      cases served : serve offers cost budget x with
      | none => exact (ih budget).cons _
      | some b =>
          dsimp only
          rw [List.map_cons, List.map_cons, named x b (serve_spec served).1]
          exact (ih _).cons_cons _

end Greedy

end FleetRMW.Lib
