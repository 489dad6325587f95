import Mathlib.Data.List.Basic
import Mathlib.Data.List.Perm.Basic
import Mathlib.Data.List.Flatten

/-! # Sweeps

A loop over the entries of a container that changes each of them or drops it, and on the way
changes something else that depends on the entries.
-/

namespace FleetRMW.Lib

variable {α β γ σ : Type*} {turn : α → σ → Option α × σ} {here : α → Bool}

def sweep (turn : α → σ → Option α × σ) : List α → σ → List α × σ
  | [], s => ([], s)
  | a :: as, s =>
      let (kept, s) := turn a s
      let (rest, s) := sweep turn as s
      (kept.toList ++ rest, s)

/-- The entries of which it does not hold stay as they are. -/
def sweepWhere (here : α → Bool) (turn : α → σ → Option α × σ) : List α → σ → List α × σ :=
  sweep fun a s => if here a then turn a s else (some a, s)

/-- What every turn keeps between the entries, taken apart in any order, and the rest, the loop
    keeps. -/
theorem sweep_keeps {R : List β → σ → Prop} {parts : α → List β} {as : List α}
    (reorder : ∀ {l l' s}, l.Perm l' → R l s → R l' s)
    (keeps : ∀ a ∈ as, ∀ others s, R (parts a ++ others) s →
      R ((turn a s).1.toList.flatMap parts ++ others) (turn a s).2)
    {others : List β} {s : σ} (start : R (as.flatMap parts ++ others) s) :
    R ((sweep turn as s).1.flatMap parts ++ others) (sweep turn as s).2 := by
  induction as generalizing others s with
  | nil => exact start
  | cons a as ih =>
      rw [List.flatMap_cons, List.append_assoc] at start
      have first := keeps a List.mem_cons_self _ s start
      have moved := reorder (List.perm_append_comm_assoc _ _ _) first
      have later := ih (fun a among => keeps a (List.mem_cons_of_mem _ among)) moved
      have back := reorder (List.perm_append_comm_assoc _ _ _) later
      rw [sweep, List.flatMap_append, List.append_assoc]
      exact back

/-- The same where only some of the entries take a turn. -/
theorem sweepWhere_keeps {R : List β → σ → Prop} {parts : α → List β} {as : List α}
    (reorder : ∀ {l l' s}, l.Perm l' → R l s → R l' s)
    (keeps : ∀ a ∈ as, here a = true → ∀ others s, R (parts a ++ others) s →
      R ((turn a s).1.toList.flatMap parts ++ others) (turn a s).2)
    {others : List β} {s : σ} (start : R (as.flatMap parts ++ others) s) :
    R ((sweepWhere here turn as s).1.flatMap parts ++ others) (sweepWhere here turn as s).2 := by
  refine sweep_keeps (R := R) reorder ?_ start
  intro a among others s held
  by_cases taken : here a = true
  · rw [if_pos taken]
    exact keeps a among taken others s held
  · rw [if_neg taken, Option.toList_some, List.flatMap_singleton]
    exact held

/-- What no turn changes of an entry, the loop leaves as it is. -/
theorem map_sweep_sublist {f : α → γ} (keeps : ∀ a s, ∀ a' ∈ (turn a s).1, f a' = f a)
    (as : List α) (s : σ) : ((sweep turn as s).1.map f).Sublist (as.map f) := by
  induction as generalizing s with
  | nil => exact List.Sublist.slnil
  | cons a as ih =>
      rw [sweep, List.map_append, List.map_cons]
      cases kept : (turn a s).1 with
      | none => exact (ih _).cons _
      | some a' =>
          rw [Option.toList_some, List.map_singleton, keeps a s a' kept]
          exact (ih _).cons_cons _

theorem map_sweepWhere_sublist {f : α → γ} (keeps : ∀ a s, ∀ a' ∈ (turn a s).1, f a' = f a)
    (as : List α) (s : σ) : ((sweepWhere here turn as s).1.map f).Sublist (as.map f) := by
  apply map_sweep_sublist
  intro a s a' kept
  by_cases taken : here a = true
  · rw [if_pos taken] at kept
    exact keeps a s a' kept
  · rw [if_neg taken] at kept
    exact congrArg f (Option.some.inj kept).symm

/-- Where the turn drops every entry that takes it, those stay that do not. -/
theorem sweepWhere_of_drops (drops : ∀ a s, here a = true → (turn a s).1 = none) (as : List α)
    (s : σ) : ∀ a ∈ (sweepWhere here turn as s).1, here a = false := by
  unfold sweepWhere
  induction as generalizing s with
  | nil =>
      intro a among
      cases among
  | cons a as ih =>
      intro b among
      rw [sweep] at among
      rcases List.mem_append.mp among with first | later
      · by_cases taken : here a = true
        · rw [if_pos taken, drops a s taken] at first
          cases first
        · rw [if_neg taken] at first
          rw [List.mem_singleton.mp first]
          exact Bool.eq_false_iff.mpr taken
      · exact ih _ b later

end FleetRMW.Lib
