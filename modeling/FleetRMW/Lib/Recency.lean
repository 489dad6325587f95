import FleetRMW.Lib.Python
import Mathlib.Data.List.Nodup

/-! # Keys by their last use

A list of keys, the least recently used one first. Using a key moves it to the end, and adding
one drops keys from the front while there are too many. A key is forgotten only as the first of
a full list.
-/

namespace FleetRMW.Lib

variable {α : Type*} {n : Nat} {l : List α} {k x : α}

theorem nodup_moveToEnd [DecidableEq α] (distinct : l.Nodup) (present : k ∈ l) :
    (moveToEnd k l).Nodup :=
  (moveToEnd_perm present).nodup_iff.mpr distinct

theorem nodup_popWhileLonger_concat (distinct : l.Nodup) (new : x ∉ l) :
    (popWhileLonger n (l ++ [x])).Nodup := by
  apply List.Nodup.sublist (popWhileLonger_sublist n _)
  rw [← List.concat_eq_append]
  exact distinct.concat new

theorem length_popWhileLonger_le (n : Nat) (l : List α) : (popWhileLonger n l).length ≤ n := by
  rw [length_popWhileLonger]
  exact Nat.min_le_right _ _

/-- What was dropped before does not matter later. -/
theorem popWhileLonger_append (n : Nat) (l l' : List α) :
    popWhileLonger n (popWhileLonger n l ++ l') = popWhileLonger n (l ++ l') := by
  have front : l.drop (l.length - n) ++ l' = (l ++ l').drop (l.length - n) :=
    (List.drop_append_of_le_length (Nat.sub_le _ _)).symm
  rw [popWhileLonger_eq_drop n l, front, popWhileLonger_eq_drop, popWhileLonger_eq_drop,
    List.drop_drop, List.length_drop, List.length_append]
  congr 1
  omega

/-- What is left after a key was added to a list that had room, or was full. -/
theorem mem_popWhileLonger_concat (few : l.length ≤ n) (room : 0 < n) (distinct : l.Nodup) :
    k ∈ popWhileLonger n (l ++ [x]) ↔ k = x ∨ (k ∈ l ∧ ¬(l.length = n ∧ l.head? = some k)) := by
  rw [popWhileLonger_concat few room, List.mem_append, List.mem_singleton, or_comm]
  apply or_congr_right
  split
  case isTrue short =>
    have notFull : l.length ≠ n := Nat.ne_of_lt short
    simp only [notFull, false_and, not_false_eq_true, and_true]
  case isFalse long =>
    have full : l.length = n := Nat.le_antisymm few (Nat.not_lt.mp long)
    cases l with
    | nil =>
        simp only [List.tail_nil, List.not_mem_nil, false_and]
    | cons first rest =>
        obtain ⟨once, -⟩ := List.nodup_cons.mp distinct
        simp only [List.tail_cons, full, true_and, List.head?_cons, Option.some.injEq,
          List.mem_cons]
        constructor
        · intro later
          refine ⟨.inr later, ?_⟩
          rintro rfl
          exact once later
        · rintro ⟨rfl | later, other⟩
          · exact absurd rfl other
          · exact later

end FleetRMW.Lib
