import FleetRMW.Lib.Python

/-! # The retained end of a log

A log is written at its end and keeps its last elements only. A reader has a cursor: it
reads the element there and goes on, or is moved past elements that are gone. Between where
it started and its cursor it has read, once and in order, all that is still retained.
-/

namespace FleetRMW.Lib

variable {α β : Type*} {l written : List α} {n : Nat}

/-- The last `n` elements. -/
def window (n : Nat) (l : List α) : List α := l.drop (l.length - n)

@[simp] theorem length_window : (window n l).length = min l.length n := by
  rw [window, List.length_drop]
  omega

@[simp] theorem window_nil : window n ([] : List α) = [] := List.drop_nil

theorem window_concat (x : α) : popWhileLonger n (window n l ++ [x]) = window n (l ++ [x]) := by
  have shift : (window n l ++ [x]) = (l ++ [x]).drop (l.length - n) := by
    rw [window, List.drop_append_of_le_length (by omega)]
  rw [popWhileLonger_eq_drop, shift, List.drop_drop, window]
  congr 1
  simp only [List.length_drop, List.length_append, List.length_singleton]
  omega

/-- Keep of the elements that satisfy `p` the last `n`, and all others. -/
def keepNewest (p : α → Bool) (n : Nat) : List α → List α
  | [] => []
  | x :: xs =>
      if p x && n ≤ (xs.filter p).length then keepNewest p n xs else x :: keepNewest p n xs

theorem keepNewest_sublist (p : α → Bool) (n : Nat) (l : List α) :
    (keepNewest p n l).Sublist l := by
  induction l with
  | nil => exact .slnil
  | cons x xs ih =>
      unfold keepNewest
      split
      · exact ih.cons x
      · exact ih.cons_cons x

/-- Among the elements that satisfy `p`, the last `n` are kept. -/
theorem filter_keepNewest (p : α → Bool) (n : Nat) (l : List α) :
    (keepNewest p n l).filter p = window n (l.filter p) := by
  rw [window, ← popWhileLonger_eq_drop]
  induction l with
  | nil => rfl
  | cons x xs ih =>
      unfold keepNewest
      by_cases satisfies : p x
      · have longer : (x :: xs.filter p).length > n ↔ n ≤ (xs.filter p).length := by
          simp only [List.length_cons, gt_iff_lt, Nat.lt_succ_iff]
        simp only [satisfies, Bool.true_and, decide_eq_true_eq, List.filter_cons, if_true,
          popWhileLonger, longer]
        split
        case isTrue => exact ih
        case isFalse short =>
          rw [List.filter_cons_of_pos satisfies, ih, popWhileLonger_of_le (by omega)]
      · simp only [satisfies, Bool.false_and, Bool.false_eq_true, if_false, List.filter_cons]
        exact ih

/-- Elements that do not satisfy `p` are all kept. -/
theorem filter_keepNewest_of_disjoint {p q : α → Bool} (disjoint : ∀ x, q x → ¬p x) (n : Nat)
    (l : List α) : (keepNewest p n l).filter q = l.filter q := by
  induction l with
  | nil => rfl
  | cons x xs ih =>
      unfold keepNewest
      split
      case isTrue old =>
        have out : ¬q x := fun h => disjoint x h (Bool.and_eq_true_iff.mp old).1
        rw [ih, List.filter_cons_of_neg out]
      case isFalse =>
        rw [List.filter_cons, List.filter_cons, ih]

/-- Where `f` tells the elements apart, its values on a suffix select that suffix. -/
theorem filter_eq_drop {f : α → β} {p : α → Bool} {k : Nat} (distinct : (l.map f).Nodup)
    (selects : ∀ x, p x ↔ f x ∈ (l.drop k).map f) : l.filter p = l.drop k := by
  have parts := List.take_append_drop k l
  have apart : (((l.take k).map f) ++ ((l.drop k).map f)).Nodup := by
    rw [← List.map_append, parts]
    exact distinct
  have front : (l.take k).filter p = [] := by
    refine List.filter_eq_nil_iff.mpr fun x isFront selected => ?_
    have again := (selects x).mp selected
    exact (List.nodup_append.mp apart).2.2 _ (List.mem_map_of_mem isFront) _ again rfl
  have back : (l.drop k).filter p = l.drop k :=
    List.filter_eq_self.mpr fun x isBack => (selects x).mpr (List.mem_map_of_mem isBack)
  calc l.filter p = (l.take k ++ l.drop k).filter p := by rw [parts]
    _ = l.drop k := by rw [List.filter_append, front, back, List.nil_append]

/-- In a list numbered from `k` on, the first number not below `c` is `c` itself. -/
theorem find?_numbered_ge {number : α → Nat} {k c : Nat}
    (numbered : ∀ i x, l[i]? = some x → number x = k + i) (below : k ≤ c) :
    (l.find? fun x => number x ≥ c) = l[c - k]? := by
  induction l generalizing k with
  | nil => simp only [List.find?_nil, List.getElem?_nil]
  | cons x l ih =>
      have here : number x = k := numbered 0 x rfl
      rcases below.eq_or_lt with rfl | before
      · simp only [List.find?_cons, here, ge_iff_le, le_refl, decide_true, Nat.sub_self,
          List.getElem?_cons_zero]
      · have rest := ih (k := k + 1)
          (fun i y at_ => by rw [numbered (i + 1) y at_]; omega) before
        simp only [List.find?_cons, here, ge_iff_le, before.not_ge, decide_false]
        rw [show c - k = (c - (k + 1)) + 1 by omega, List.getElem?_cons_succ, ← rest]

/-- In a log numbered by its places, the first retained number not below `c` is `c`. -/
theorem find?_window_ge {number : α → Nat} {c : Nat}
    (numbered : ∀ i x, l[i]? = some x → number x = i) (retained : l.length - n ≤ c) :
    ((window n l).find? fun x => number x ≥ c) = l[c]? := by
  have shifted : ∀ i x, (window n l)[i]? = some x → number x = (l.length - n) + i :=
    fun i x at_ => numbered _ x (by rwa [window, List.getElem?_drop] at at_)
  rw [find?_numbered_ge shifted retained, window, List.getElem?_drop,
    Nat.add_sub_cancel' retained]

/-- What a reader has read of the log, with the places, since it started. -/
structure Reader (written : List α) (oldest start cursor : Nat) (read : List (Nat × α)) :
    Prop where
  start_le : start ≤ cursor
  cursor_le : cursor ≤ written.length
  increasing : (read.map Prod.fst).Pairwise (· < ·)
  inside : ∀ r ∈ read, start ≤ r.1 ∧ r.1 < cursor
  faithful : ∀ r ∈ read, written[r.1]? = some r.2
  complete : ∀ i, start ≤ i → i < cursor → oldest ≤ i → i ∈ read.map Prod.fst

namespace Reader

variable {oldest oldest' start cursor cursor' : Nat} {read : List (Nat × α)}

theorem begin (inside : cursor ≤ written.length) : Reader written oldest cursor cursor [] where
  start_le := le_rfl
  cursor_le := inside
  increasing := .nil
  inside := nofun
  faithful := nofun
  complete i := by omega

/-- Writing at the end, and dropping some of the oldest. -/
theorem append (R : Reader written oldest start cursor read) (x : α) (gone : oldest ≤ oldest') :
    Reader (written ++ [x]) oldest' start cursor read where
  start_le := R.start_le
  cursor_le := R.cursor_le.trans (by simp only [List.length_append, Nat.le_add_right])
  increasing := R.increasing
  inside := R.inside
  faithful r isRead := by
    have here := R.faithful r isRead
    rw [List.getElem?_append_left (List.getElem?_eq_some_iff.mp here).1]
    exact here
  complete i hs hc ho := R.complete i hs hc (gone.trans ho)

/-- Moving past what is gone. -/
theorem skip (R : Reader written oldest start cursor read) (forward : cursor ≤ cursor')
    (inside : cursor' ≤ written.length) (gone : ∀ i, cursor ≤ i → i < cursor' → i < oldest) :
    Reader written oldest start cursor' read where
  start_le := R.start_le.trans forward
  cursor_le := inside
  increasing := R.increasing
  inside r isRead := ⟨(R.inside r isRead).1, (R.inside r isRead).2.trans_le forward⟩
  faithful := R.faithful
  complete i hs hc ho := by
    rcases lt_or_ge i cursor with before | after
    · exact R.complete i hs before ho
    · exact absurd ho (gone i after hc).not_ge

/-- Reading the element at the cursor. -/
theorem next (R : Reader written oldest start cursor read) {x : α}
    (here : written[cursor]? = some x) :
    Reader written oldest start (cursor + 1) (read ++ [(cursor, x)]) where
  start_le := R.start_le.trans (Nat.le_succ _)
  cursor_le := (List.getElem?_eq_some_iff.mp here).1
  increasing := by
    rw [List.map_append, List.pairwise_append]
    refine ⟨R.increasing, List.pairwise_singleton _ _, ?_⟩
    simp only [List.mem_map, List.map_cons, List.map_nil, List.mem_singleton, forall_eq]
    rintro _ ⟨r, isRead, rfl⟩
    exact (R.inside r isRead).2
  inside r isRead := by
    rcases List.mem_append.mp isRead with old | new
    · exact ⟨(R.inside r old).1, (R.inside r old).2.trans (Nat.lt_succ_self _)⟩
    · obtain rfl := List.mem_singleton.mp new
      exact ⟨R.start_le, Nat.lt_succ_self _⟩
  faithful r isRead := by
    rcases List.mem_append.mp isRead with old | new
    · exact R.faithful r old
    · obtain rfl := List.mem_singleton.mp new
      exact here
  complete i hs hc ho := by
    rw [List.map_append, List.mem_append]
    rcases Nat.lt_succ_iff_lt_or_eq.mp hc with before | rfl
    · exact .inl (R.complete i hs before ho)
    · exact .inr (List.mem_singleton_self _)

end Reader

end FleetRMW.Lib
