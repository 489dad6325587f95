import FleetRMW.Lib.Window
import Mathlib.Algebra.GroupWithZero.Nat

/-! # Rings that overwrite

Writers append to a log, of which a ring of `c` slots keeps the last `c` entries. A reader
catches up with the log now and then: it takes some of the newest entries it has not passed yet
and gives up the others. What it takes is, in order and once each, what was appended since it
started.
-/

namespace FleetRMW.Lib

variable {α β : Type*} {c i k n started passed : Nat} {log taken : List α}

section Slots

variable [NeZero c] {holds : Nat → α → β → Prop} {slots : Fin c → β} {entry : α} {slot : β}

theorem ofNat_ne_of_near (before : i < n) (near : n < i + c) : Fin.ofNat c i ≠ Fin.ofNat c n := by
  intro same
  have remainders : i % c = n % c := by simpa [Fin.ext_iff] using same
  have apart : c ∣ n - i := Nat.dvd_of_mod_eq_zero (Nat.sub_mod_eq_zero_of_mod_eq remainders.symm)
  have := Nat.le_of_dvd (by omega) apart
  omega

/-- Of the last entries of the log each is in its slot. -/
def KeepsLast (holds : Nat → α → β → Prop) (slots : Fin c → β) (log : List α) : Prop :=
  ∀ i (inLog : i < log.length), log.length ≤ i + c → holds i log[i] (slots (Fin.ofNat c i))

theorem KeepsLast.nil : KeepsLast holds slots [] := by
  intro i inLog
  exact absurd inLog (Nat.not_lt_zero i)

theorem KeepsLast.concat (h : KeepsLast holds slots log) (written : holds log.length entry slot) :
    KeepsLast holds (Function.update slots (Fin.ofNat c log.length) slot) (log ++ [entry]) := by
  intro i inLog near
  rw [List.length_append, List.length_singleton] at inLog near
  cases Nat.lt_succ_iff_lt_or_eq.mp inLog with
  | inl earlier =>
      rw [Function.update_of_ne (ofNat_ne_of_near earlier (by omega)),
        List.getElem_append_left earlier]
      exact h i earlier (by omega)
  | inr last =>
      subst last
      rw [Function.update_self, List.getElem_concat_length rfl]
      exact written

end Slots

/-- What has been taken is from the part of the log between the start and where the reader is. -/
structure Trails (log : List α) (started passed : Nat) (taken : List α) : Prop where
  started_le : started ≤ passed
  passed_le : passed ≤ log.length
  inOrder : taken.Sublist ((log.take passed).drop started)

namespace Trails

theorem start : Trails log log.length log.length [] where
  started_le := le_rfl
  passed_le := le_rfl
  inOrder := List.nil_sublist _

theorem concat (h : Trails log started passed taken) (entry : α) :
    Trails (log ++ [entry]) started passed taken where
  started_le := h.started_le
  passed_le := by
    rw [List.length_append]
    exact h.passed_le.trans (Nat.le_add_right _ _)
  inOrder := by
    rw [List.take_append_of_le_length h.passed_le]
    exact h.inOrder

theorem catchUp (h : Trails log started passed taken) (unread : k ≤ log.length - passed) :
    Trails log started log.length (taken ++ window k log) where
  started_le := h.started_le.trans h.passed_le
  passed_le := le_rfl
  inOrder := by
    have newer : (window k log).Sublist (log.drop passed) := by
      rw [window, show log.length - k = passed + (log.length - k - passed) by
        have := h.passed_le
        omega, ← List.drop_drop]
      exact List.drop_sublist _ _
    have parts : log.drop started = (log.take passed).drop started ++ log.drop passed := by
      conv_lhs => rw [← List.take_append_drop passed log]
      rw [List.drop_append_of_le_length]
      rw [List.length_take, Nat.min_eq_left h.passed_le]
      exact h.started_le
    rw [List.take_length, parts]
    exact h.inOrder.append newer

end Trails

end FleetRMW.Lib
