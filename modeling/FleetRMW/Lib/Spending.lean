import FleetRMW.Lib.Greedy
import Mathlib.Data.List.Perm.Lattice
import Mathlib.Order.Lattice

/-! # Passes that spend

A pass goes through items in an order with a state that says what may still be spent. What an item
takes depends on the state, and leaves a new one. A meter is a number of the state that falls by
what is taken and is never overdrawn: then all that is taken costs no more than it showed at the
start.
-/

namespace FleetRMW.Lib

namespace Spending

variable {α β σ κ : Type} (offer : σ → α → Option (β × σ))

/-- What a pass takes, and the state behind it. -/
def pass (items : List α) (s : σ) : List β × σ :=
  items.foldl (fun (taken, s) x =>
    match offer s x with
    | some (b, s') => (taken ++ [b], s')
    | none => (taken, s)) ([], s)

def taken : List α → σ → List β
  | [], _ => []
  | x :: items, s =>
      match offer s x with
      | some (b, s') => b :: taken items s'
      | none => taken items s

def left : List α → σ → σ
  | [], s => s
  | x :: items, s =>
      match offer s x with
      | some (_, s') => left items s'
      | none => left items s

variable {offer} {items : List α} {s : σ} {b : β}

theorem pass_eq (items : List α) (s : σ) :
    pass offer items s = (taken offer items s, left offer items s) := by
  have general : ∀ (items : List α) (before : List β) (s : σ),
      items.foldl (fun (taken, s) x =>
        match offer s x with
        | some (b, s') => (taken ++ [b], s')
        | none => (taken, s)) (before, s) =
      (before ++ taken offer items s, left offer items s) := by
    intro items
    induction items with
    | nil =>
        intro before s
        rw [List.foldl_nil, taken, left, List.append_nil]
    | cons x items ih =>
        intro before s
        rw [List.foldl_cons, taken, left]
        cases made : offer s x with
        | none =>
            dsimp only
            rw [made]
            exact ih before s
        | some taking =>
            dsimp only
            rw [made]
            dsimp only
            rw [ih, List.append_assoc, List.singleton_append]
  exact general items [] s

theorem taken_append (items later : List α) (s : σ) :
    taken offer (items ++ later) s =
      taken offer items s ++ taken offer later (left offer items s) := by
  induction items generalizing s with
  | nil => rfl
  | cons x items ih =>
      rw [List.cons_append, taken, taken, left]
      cases offer s x with
      | none => exact ih s
      | some taking =>
          dsimp only
          rw [ih, List.cons_append]

/-- What holds before a pass and is kept by what is taken holds of every state in between. -/
theorem of_mem_taken {I : σ → Prop} {P : α → β → Prop}
    (takes : ∀ s x b s', I s → offer s x = some (b, s') → P x b ∧ I s')
    (start : I s) (among : b ∈ taken offer items s) : ∃ x ∈ items, P x b := by
  induction items generalizing s with
  | nil => cases among
  | cons x items ih =>
      unfold taken at among
      cases made : offer s x with
      | none =>
          rw [made] at among
          obtain ⟨y, inside, holds⟩ := ih start among
          exact ⟨y, List.mem_cons_of_mem _ inside, holds⟩
      | some taking =>
          obtain ⟨holds, kept⟩ := takes s x taking.1 taking.2 start made
          rw [made] at among
          cases List.mem_cons.mp among with
          | inl same =>
              rw [same]
              exact ⟨x, List.mem_cons_self, holds⟩
          | inr later =>
              obtain ⟨y, inside, holds⟩ := ih kept later
              exact ⟨y, List.mem_cons_of_mem _ inside, holds⟩

/-- For some items and in some states the number falls by what is taken, and stays at least 0 if
    it was. -/
structure Meter (offer : σ → α → Option (β × σ)) (A : α → Prop) (I : σ → Prop) (meter : σ → Int)
    (cost : β → Int) : Prop where
  keeps : ∀ s x b s', A x → I s → offer s x = some (b, s') → I s'
  spends : ∀ s x b s', A x → I s → offer s x = some (b, s') → meter s' = meter s - cost b
  within : ∀ s x b s', A x → I s → offer s x = some (b, s') → min 0 (meter s) ≤ meter s'

namespace Meter

variable {A : α → Prop} {I : σ → Prop} {meter : σ → Int} {cost : β → Int}

theorem left_eq (m : Meter offer A I meter cost) (items_ok : ∀ x ∈ items, A x) (start : I s) :
    I (left offer items s) ∧
      meter (left offer items s) = meter s - Greedy.total cost (taken offer items s) ∧
      min 0 (meter s) ≤ meter (left offer items s) := by
  induction items generalizing s with
  | nil =>
      refine ⟨start, ?_, min_le_right _ _⟩
      rw [taken, left, Greedy.total_nil, Int.sub_zero]
  | cons x items ih =>
      have first := items_ok x List.mem_cons_self
      have rest := fun y among => items_ok y (List.mem_cons_of_mem x among)
      unfold taken left
      cases made : offer s x with
      | none => exact ih rest start
      | some taking =>
          obtain ⟨b, s'⟩ := taking
          have spent := m.spends s x b s' first start made
          have within := m.within s x b s' first start made
          obtain ⟨kept, same, later⟩ := ih rest (m.keeps s x b s' first start made)
          dsimp only
          refine ⟨kept, ?_, by omega⟩
          rw [same, Greedy.total_cons]
          omega

/-- A pass costs no more than the meter shows. -/
theorem total_taken_le (m : Meter offer A I meter cost) (items_ok : ∀ x ∈ items, A x)
    (start : I s) : Greedy.total cost (taken offer items s) ≤ max 0 (meter s) := by
  obtain ⟨-, same, within⟩ := m.left_eq items_ok start
  omega

end Meter

/-- Each item takes at most once. -/
theorem keys_taken_sublist {key : α → κ} {name : β → κ}
    (named : ∀ s x b s', offer s x = some (b, s') → name b = key x) (items : List α) (s : σ) :
    ((taken offer items s).map name).Sublist (items.map key) := by
  induction items generalizing s with
  | nil => exact .slnil
  | cons x items ih =>
      unfold taken
      cases made : offer s x with
      | none => exact (ih s).cons _
      | some taking =>
          dsimp only
          rw [List.map_cons, List.map_cons, named s x taking.1 taking.2 made]
          exact (ih _).cons_cons _

/-- Where the state knows the keys that have been taken, no key is taken twice. -/
theorem nodup_keys_taken {name : β → κ} {known : σ → List κ}
    (fresh : ∀ s x b s', offer s x = some (b, s') → name b ∉ known s)
    (learns : ∀ s x b s', offer s x = some (b, s') → ∀ k, k ∈ known s' ↔ k ∈ known s ∨ k = name b)
    (items : List α) (s : σ) :
    ((taken offer items s).map name).Nodup ∧ ∀ b ∈ taken offer items s, name b ∉ known s := by
  induction items generalizing s with
  | nil => exact ⟨List.nodup_nil, fun _ among => absurd among List.not_mem_nil⟩
  | cons x items ih =>
      unfold taken
      cases made : offer s x with
      | none => exact ih s
      | some taking =>
          obtain ⟨b, s'⟩ := taking
          obtain ⟨distinct, apart⟩ := ih s'
          have learned := learns s x b s' made
          dsimp only
          constructor
          · rw [List.map_cons, List.nodup_cons]
            refine ⟨?_, distinct⟩
            intro again
            obtain ⟨c, among, same⟩ := List.mem_map.mp again
            exact apart c among ((learned _).mpr (.inr same))
          · intro c among
            cases List.mem_cons.mp among with
            | inl same =>
                rw [same]
                exact fresh s x b s' made
            | inr later => exact fun before => apart c later ((learned _).mpr (.inl before))

end Spending

/-! ## What was chosen and what was not -/

variable {α κ : Type} {key : α → κ} {items : List α} {chosen : List κ} {p : α → Bool}

theorem perm_append_filter (distinct : (items.map key).Nodup) (once : chosen.Nodup)
    (some_of : chosen ⊆ items.map key) (others : ∀ x, p x = true ↔ key x ∉ chosen) :
    (chosen ++ (items.filter p).map key).Perm (items.map key) := by
  refine (List.perm_ext_iff_of_nodup ?_ distinct).mpr ?_
  · rw [List.nodup_append]
    refine ⟨once, distinct.sublist (List.filter_sublist.map _), ?_⟩
    rintro k before _ behind rfl
    obtain ⟨x, among, rfl⟩ := List.mem_map.mp behind
    exact (others x).mp (List.mem_filter.mp among).2 before
  · intro k
    rw [List.mem_append]
    constructor
    · rintro (before | behind)
      · exact some_of before
      · exact (List.filter_sublist.map _).subset behind
    · intro among
      by_cases taken : k ∈ chosen
      case pos => exact .inl taken
      case neg =>
        obtain ⟨x, inside, rfl⟩ := List.mem_map.mp among
        exact .inr (List.mem_map_of_mem (List.mem_filter.mpr ⟨inside, (others x).mpr taken⟩))

end FleetRMW.Lib
