import Mathlib.Algebra.BigOperators.Ring.Finset
import Mathlib.Algebra.Order.BigOperators.Group.Finset
import Mathlib.Algebra.Order.Ring.Int
import Mathlib.Data.Int.ConditionallyCompleteOrder
import Mathlib.Tactic.Ring

/-! # Smooth weighted turns

Each client has a weight. At a turn every client gains credit by its weight, and one with the most
credit is picked and pays the weights of all. The credits stay above a bound, so after as many
turns as all weights together everybody has been picked as often as its weight says, nobody has
credit left, and the same turns follow again.
-/

namespace FleetRMW.Lib.SmoothRoundRobin

open Finset

variable {α : Type*} [DecidableEq α] (clients : Finset α) (weight : α → Int)
  (choose : (α → Int) → α)

/-! ## Turns -/

def total : Int := ∑ a ∈ clients, weight a

/-- The turns until everything begins again. -/
def period : Nat := (total clients weight).toNat

def gain (credit : α → Int) (a : α) : Int := credit a + weight a

def turn (credit : α → Int) (a : α) : Int :=
  gain weight credit a - if a = choose (gain weight credit) then total clients weight else 0

/-- The credits after so many turns. -/
def credits : Nat → α → Int
  | 0 => fun _ => 0
  | t + 1 => turn clients weight choose (credits t)

/-- Who is picked at a turn. -/
def pick (t : Nat) : α := choose (gain weight (credits clients weight choose t))

def picks (t : Nat) : List α := (List.range t).map (pick clients weight choose)

/-- A client with the most credit is chosen, by the credits of the clients only. -/
structure Chooses : Prop where
  mem : ∀ credit : α → Int, choose credit ∈ clients
  most : ∀ credit : α → Int, ∀ a ∈ clients, credit a ≤ credit (choose credit)
  within : ∀ credit credit' : α → Int, (∀ a ∈ clients, credit a = credit' a) →
    choose credit = choose credit'

variable {clients weight choose} {t : Nat} {a : α}

@[simp] theorem picks_length : (picks clients weight choose t).length = t := by
  rw [picks, List.length_map, List.length_range]

theorem picks_succ : picks clients weight choose (t + 1) =
    picks clients weight choose t ++ [pick clients weight choose t] := by
  rw [picks, List.range_succ, List.map_append, List.map_singleton, picks]

theorem picks_take {i : Nat} (le : i ≤ t) : (picks clients weight choose t).take i =
    picks clients weight choose i := by
  rw [picks, ← List.map_take, List.take_range, Nat.min_eq_left le, picks]

/-- How often somebody has been picked. -/
theorem count_picks_succ : ((picks clients weight choose (t + 1)).countP (· = a) : Int) =
    (picks clients weight choose t).countP (· = a) +
      if a = pick clients weight choose t then 1 else 0 := by
  rw [picks_succ, List.countP_append, List.countP_singleton]
  by_cases here : a = pick clients weight choose t
  · simp [here]
  · simp [here, Ne.symm here]

theorem credits_eq (t : Nat) (a : α) : credits clients weight choose t a =
    t * weight a - total clients weight * (picks clients weight choose t).countP (· = a) := by
  induction t with
  | zero => simp [credits, picks]
  | succ t ih =>
      rw [credits, turn, gain, ih, count_picks_succ]
      change _ - (if a = pick clients weight choose t then _ else _) = _
      split <;> push_cast <;> ring

section
variable (chooses : Chooses clients choose)
include chooses

theorem pick_mem (t : Nat) : pick clients weight choose t ∈ clients := chooses.mem _

theorem sum_count_picks (t : Nat) :
    ∑ a ∈ clients, ((picks clients weight choose t).countP (· = a) : Int) = t := by
  induction t with
  | zero => simp [picks]
  | succ t ih =>
      have one : ∑ a ∈ clients, (if a = pick clients weight choose t then (1 : Int) else 0) = 1 := by
        rw [sum_ite_eq' clients, if_pos (pick_mem chooses t)]
      simp only [count_picks_succ, sum_add_distrib, ih, one]
      push_cast
      rfl

/-- What the clients gain, the one that is picked pays. -/
theorem sum_credits (t : Nat) : ∑ a ∈ clients, credits clients weight choose t a = 0 := by
  simp only [credits_eq, sum_sub_distrib, ← mul_sum, sum_count_picks chooses]
  rw [← total]
  ring

variable (positive : ∀ a ∈ clients, 0 < weight a)
include positive

omit [DecidableEq α] in
theorem total_pos : 0 < total clients weight :=
  sum_pos positive ⟨_, chooses.mem fun _ => 0⟩

omit [DecidableEq α] in
theorem coe_period : (period clients weight : Int) = total clients weight :=
  Int.toNat_of_nonneg (total_pos chooses positive).le

/-- Who is picked had something to pay with. -/
theorem gain_pick_pos (t : Nat) :
    0 < gain weight (credits clients weight choose t) (pick clients weight choose t) := by
  by_contra poor
  have none_ : ∑ a ∈ clients, gain weight (credits clients weight choose t) a ≤ 0 :=
    sum_nonpos fun a among => (chooses.most _ a among).trans (not_lt.mp poor)
  have all : ∑ a ∈ clients, gain weight (credits clients weight choose t) a = total clients weight := by
    simp only [gain, sum_add_distrib, sum_credits chooses, total, zero_add]
  have := total_pos chooses positive
  omega

/-- Nobody ever owes as much as all weights together. -/
theorem lt_credits (t : Nat) (among : a ∈ clients) :
    -total clients weight < credits clients weight choose t a := by
  induction t with
  | zero =>
      have := total_pos chooses positive
      change -total clients weight < 0
      omega
  | succ t ih =>
      rw [credits, turn]
      by_cases here : a = choose (gain weight (credits clients weight choose t))
      · have rich := gain_pick_pos chooses positive t
        rw [if_pos here]
        rw [pick, ← here] at rich
        omega
      · have := positive a among
        rw [if_neg here, gain]
        omega

/-- After whole periods everybody has been picked by its weight. -/
theorem count_picks_periods (k : Nat) (among : a ∈ clients) :
    ((picks clients weight choose (k * period clients weight)).countP (· = a) : Int) = k * weight a := by
  have whole := total_pos chooses positive
  have due : ∀ b ∈ clients, 0 ≤ k * weight b -
      ((picks clients weight choose (k * period clients weight)).countP (· = b) : Int) := by
    intro b isClient
    have bound := lt_credits chooses positive (k * period clients weight) isClient
    rw [credits_eq, Nat.cast_mul, coe_period chooses positive] at bound
    have factor : (k : Int) * total clients weight * weight b -
        total clients weight * (picks clients weight choose (k * period clients weight)).countP (· = b) =
        total clients weight * (k * weight b -
          (picks clients weight choose (k * period clients weight)).countP (· = b)) := by
      ring
    rw [factor] at bound
    by_contra short
    have less : k * weight b -
        ((picks clients weight choose (k * period clients weight)).countP (· = b) : Int) ≤ -1 := by
      omega
    have := mul_le_mul_of_nonneg_left less whole.le
    omega
  have all : ∑ b ∈ clients, (k * weight b -
      ((picks clients weight choose (k * period clients weight)).countP (· = b) : Int)) = 0 := by
    rw [sum_sub_distrib, ← mul_sum, sum_count_picks chooses, Nat.cast_mul, coe_period chooses positive,
      total, sub_self]
  have none_ := (sum_eq_zero_iff_of_nonneg due).mp all a among
  omega

/-- After whole periods nobody has credit left. -/
theorem credits_periods (k : Nat) (among : a ∈ clients) :
    credits clients weight choose (k * period clients weight) a = 0 := by
  rw [credits_eq, count_picks_periods chooses positive k among, Nat.cast_mul,
    coe_period chooses positive]
  ring

theorem credits_periodic (t : Nat) : ∀ a ∈ clients,
    credits clients weight choose (t + period clients weight) a =
      credits clients weight choose t a := by
  induction t with
  | zero =>
      intro a among
      have none_ := credits_periods chooses positive 1 among
      rw [one_mul] at none_
      rw [Nat.zero_add, none_]
      rfl
  | succ t ih =>
      intro a among
      have gains : ∀ b ∈ clients, gain weight (credits clients weight choose (t + period clients weight)) b =
          gain weight (credits clients weight choose t) b := by
        intro b isClient
        rw [gain, gain, ih b isClient]
      rw [Nat.add_right_comm, credits, credits, turn, turn, gains a among,
        chooses.within _ _ gains]

theorem pick_periodic (t : Nat) : pick clients weight choose (t + period clients weight) =
    pick clients weight choose t := by
  apply chooses.within
  intro a among
  rw [gain, gain, credits_periodic chooses positive t a among]

/-- In any turns one after the other, as many as a period has, everybody is picked by its weight. -/
theorem count_picks_window (t : Nat) (among : a ∈ clients) :
    ((picks clients weight choose (t + period clients weight)).countP (· = a) : Int) =
      (picks clients weight choose t).countP (· = a) + weight a := by
  induction t with
  | zero =>
      have first := count_picks_periods chooses positive 1 among
      rw [one_mul, Nat.cast_one, one_mul] at first
      rw [Nat.zero_add, first]
      simp [picks]
  | succ t ih =>
      rw [Nat.add_right_comm, count_picks_succ, count_picks_succ, ih, pick_periodic chooses positive]
      ring

end

end FleetRMW.Lib.SmoothRoundRobin
