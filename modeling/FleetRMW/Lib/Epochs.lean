import Mathlib.Algebra.BigOperators.Group.List.Basic
import Mathlib.Algebra.Order.Floor.Ring
import Mathlib.Tactic.Linarith

/-! # Quotas that start again with every epoch

Time is cut into epochs of one length that follow each other without a gap, or is a single epoch
that never ends. A log is kept of what happens, and a counter of what it amounts to in the current
epoch. As long as the counter never goes beyond a bound, no epoch does, past ones included.
-/

namespace FleetRMW.Lib

variable {F : Type*} [Field F] [LinearOrder F]

/-- The epochs from a start on, or no length for the one that never ends. -/
structure Epochs (F : Type*) where
  start : F
  length : Option F

namespace Epochs

variable (epochs : Epochs F)

def startOf (k : Nat) : F := epochs.start + k * epochs.length.getD 0

/-- The time is in the epoch that starts at `s`. -/
def During (s t : F) : Prop := ∀ length ∈ epochs.length, s ≤ t ∧ t < s + length

instance (s t : F) : Decidable (epochs.During s t) :=
  inferInstanceAs (Decidable (∀ length ∈ epochs.length, s ≤ t ∧ t < s + length))

variable {epochs} {s t : F}

/-- No time is in two epochs. -/
theorem startOf_eq_of_during [IsStrictOrderedRing F] (positive : ∀ length ∈ epochs.length, 0 < length) {j k : Nat}
    (h : epochs.During (epochs.startOf j) t) (h' : epochs.During (epochs.startOf k) t) :
    epochs.startOf j = epochs.startOf k := by
  unfold startOf at *
  cases found : epochs.length with
  | none => rw [Option.getD_none, mul_zero, mul_zero]
  | some length =>
      have long := positive length found
      obtain ⟨after, before⟩ := h length found
      obtain ⟨after', before'⟩ := h' length found
      rw [found, Option.getD_some] at after before after' before'
      have close : ∀ m n : Nat, epochs.start + m * length < epochs.start + n * length + length →
          m ≤ n := by
        intro m n less
        have scaled : (m : F) * length < (n + 1) * length := by linarith
        have cast : (m : F) < ((n + 1 : Nat) : F) := by
          push_cast
          exact lt_of_mul_lt_mul_right scaled long.le
        exact Nat.lt_succ_iff.mp (Nat.cast_lt.mp cast)
      rw [Nat.le_antisymm (close j k (by linarith)) (close k j (by linarith))]

/-- As many whole epochs as have passed, which is one at least, end in the epoch of the time. -/
theorem catch_up [IsStrictOrderedRing F] [FloorRing F] {passed length : F} (long : 0 < length)
    (over_ : length ≤ passed) :
    let n := max 1 ⌊passed / length⌋
    1 ≤ n ∧ n * length ≤ passed ∧ passed < n * length + length := by
  have some_ : 1 ≤ ⌊passed / length⌋ := Int.le_floor.mpr <| by
    rw [Int.cast_one]
    exact (one_le_div₀ long).mpr over_
  dsimp only
  rw [max_eq_right some_]
  refine ⟨some_, ?_, ?_⟩
  · exact (le_div_iff₀ long).mp (Int.floor_le _)
  · have less := (div_lt_iff₀ long).mp (Int.lt_floor_add_one (passed / length))
    rwa [add_mul, one_mul] at less

/-! ## Counters -/

section
variable {α M : Type*} [AddMonoid M] (epochs) (time : α → F) (amount : α → M)

/-- What the entries of an epoch amount to. -/
def tally (s : F) (log : List α) : M :=
  ((log.filter fun entry => epochs.During s (time entry)).map amount).sum

/-- The counter is that of the current epoch, and no epoch goes beyond the bound. -/
structure Metered [Preorder M] (log : List α) (s : F) (count bound : M) : Prop where
  current : epochs.tally time amount s log = count
  all : ∀ k, epochs.tally time amount (epochs.startOf k) log ≤ bound

variable {epochs time amount} {log : List α} {entry : α} {count bound : M}

theorem tally_concat :
    epochs.tally time amount s (log ++ [entry]) = epochs.tally time amount s log +
      if epochs.During s (time entry) then amount entry else 0 := by
  unfold tally
  rw [List.filter_append, List.map_append, List.sum_append]
  by_cases during : epochs.During s (time entry)
  case pos => simp [during]
  case neg => simp [during]

variable [Preorder M]

theorem Metered.nil (nonneg : 0 ≤ bound) :
    Metered epochs time amount ([] : List α) s 0 bound := ⟨rfl, fun _ => nonneg⟩

/-- What happens is counted, as far as the bound allows. -/
theorem Metered.record [IsStrictOrderedRing F] (h : Metered epochs time amount log s count bound)
    (positive : ∀ length ∈ epochs.length, 0 < length) (grid : ∃ k, s = epochs.startOf k)
    (during : epochs.During s (time entry)) (fits : count + amount entry ≤ bound) :
    Metered epochs time amount (log ++ [entry]) s (count + amount entry) bound := by
  obtain ⟨k, rfl⟩ := grid
  have current : epochs.tally time amount (epochs.startOf k) (log ++ [entry]) =
      count + amount entry := by
    rw [tally_concat, if_pos during, h.current]
  refine ⟨current, ?_⟩
  intro j
  by_cases in_ : epochs.During (epochs.startOf j) (time entry)
  case pos =>
    rw [startOf_eq_of_during positive in_ during, current]
    exact fits
  case neg =>
    rw [tally_concat, if_neg in_, add_zero]
    exact h.all j

/-- What amounts to nothing leaves the counter. -/
theorem Metered.skip (h : Metered epochs time amount log s count bound)
    (nothing : amount entry = 0) :
    Metered epochs time amount (log ++ [entry]) s count bound := by
  have same : ∀ s, epochs.tally time amount s (log ++ [entry]) = epochs.tally time amount s log := by
    intro s
    rw [tally_concat, nothing, ite_self, add_zero]
  exact ⟨(same s).trans h.current, fun k => (same _).trans_le (h.all k)⟩

/-- The counter starts again with an epoch that is later than all entries. -/
theorem Metered.restart (h : Metered epochs time amount log s count bound) {s' : F}
    (past : ∀ entry ∈ log, ¬epochs.During s' (time entry)) :
    Metered epochs time amount log s' 0 bound := by
  refine ⟨?_, h.all⟩
  unfold tally
  rw [List.filter_eq_nil_iff.mpr fun entry among => by simpa using past entry among]
  rfl

end

end Epochs

end FleetRMW.Lib
