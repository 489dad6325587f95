import FleetRMW.Lib.Python
import Mathlib.Data.List.Range
import Mathlib.Data.List.Sort

/-! # Queues in the order of a key

A new element goes in behind the last one that its key does not come before, looked for from the
back. So the queue is ordered by key, and elements with one key are in the order of arrival.
Beside the queue an account is kept of all arrivals, by number: each is in the queue, has been
taken from it, or is lost.
-/

namespace FleetRMW.Lib

variable {α β : Type*} {stop : α → Bool} {stop' : β → Bool} {x : α} {queue : List α}

/-- Go from the back as far as an element that stops. -/
def insertBehind (stop : α → Bool) (x : α) (queue : List α) : List α :=
  (queue.reverse.orderedInsert (fun _ y => stop y) x).reverse

theorem insertBehind_perm (stop : α → Bool) (x : α) (queue : List α) :
    (insertBehind stop x queue).Perm (x :: queue) := by
  unfold insertBehind
  apply (List.reverse_perm _).trans
  apply (List.perm_orderedInsert _ _ _).trans
  exact (List.reverse_perm queue).cons x

variable (stop') in
theorem map_insertBehind {f : α → β} (same : ∀ y ∈ queue, stop y = stop' (f y)) :
    (insertBehind stop x queue).map f = insertBehind stop' (f x) (queue.map f) := by
  have reversed : ∀ l : List α, (∀ y ∈ l, stop y = stop' (f y)) →
      (l.orderedInsert (fun _ y => stop y) x).map f =
        (l.map f).orderedInsert (fun _ y => stop' y) (f x) := by
    intro l
    induction l with
    | nil => exact fun _ => rfl
    | cons y l ih =>
        intro same
        have here := same y List.mem_cons_self
        have rest := ih fun z among => same z (List.mem_cons_of_mem _ among)
        cases stops : stop y with
        | true => simp [stops, ← here]
        | false => simp [stops, ← here, rest]
  unfold insertBehind
  rw [List.map_reverse, reversed _ fun y among => same y (List.mem_reverse.mp among),
    List.map_reverse]

/-- The queue stays ordered where the elements that stop come before the new one and the others
behind it. -/
theorem insertBehind_pairwise {r : α → α → Prop} (trans : ∀ {a b c}, r a b → r b c → r a c)
    (ordered : queue.Pairwise r) (behind : ∀ y ∈ queue, stop y = true → r y x)
    (before : ∀ y ∈ queue, stop y = false → r x y) :
    (insertBehind stop x queue).Pairwise r := by
  have reversed : ∀ l : List α, l.Pairwise (fun a b => r b a) →
      (∀ y ∈ l, stop y = true → r y x) → (∀ y ∈ l, stop y = false → r x y) →
      (l.orderedInsert (fun _ y => stop y) x).Pairwise (fun a b => r b a) := by
    intro l
    induction l with
    | nil => simp
    | cons y l ih =>
        intro ordered behind before
        obtain ⟨first, later⟩ := List.pairwise_cons.mp ordered
        have rest := ih later (fun z among => behind z (List.mem_cons_of_mem _ among))
          (fun z among => before z (List.mem_cons_of_mem _ among))
        cases stops : stop y with
        | true =>
            rw [List.orderedInsert_cons, if_pos stops]
            refine List.pairwise_cons.mpr ⟨?_, ordered⟩
            intro z among
            cases List.mem_cons.mp among with
            | inl same => exact same ▸ behind y List.mem_cons_self stops
            | inr further => exact trans (first z further) (behind y List.mem_cons_self stops)
        | false =>
            rw [List.orderedInsert_cons, if_neg (Bool.eq_false_iff.mp stops)]
            refine List.pairwise_cons.mpr ⟨?_, rest⟩
            intro z among
            cases (List.mem_orderedInsert _).mp among with
            | inl same => exact same ▸ before y List.mem_cons_self stops
            | inr further => exact first z further
  unfold insertBehind
  rw [List.pairwise_reverse]
  apply reversed
  · exact List.pairwise_reverse.mpr ordered
  · exact fun y among => behind y (List.mem_reverse.mp among)
  · exact fun y among => before y (List.mem_reverse.mp among)

theorem insertBehind_last (all : ∀ y ∈ queue, stop y = true) :
    insertBehind stop x queue = queue ++ [x] := by
  have ahead : queue.reverse.orderedInsert (fun _ y => stop y) x = x :: queue.reverse := by
    cases reversed : queue.reverse with
    | nil => rfl
    | cons y rest =>
        have among : y ∈ queue := List.mem_reverse.mp (reversed ▸ List.mem_cons_self)
        rw [List.orderedInsert_cons, if_pos (all y among)]
  rw [insertBehind, ahead, List.reverse_cons, List.reverse_reverse]

/-- The `i`-th arrival comes before the `j`-th by key, or with the same key by arrival. -/
def InTurn {κ : Type*} [LT κ] (key : Nat → κ) (i j : Nat) : Prop :=
  key i < key j ∨ key i = key j ∧ i < j

/-- Of `n` arrivals each is taken, queued or lost. -/
structure Account (n : Nat) where
  taken : List Nat
  queued : List Nat
  lost : List Nat
  whole : (taken ++ queued ++ lost).Perm (List.range n)

namespace Account

variable {n i : Nat} {rest : List Nat} (a : Account n)

theorem lt_of_queued (among : i ∈ a.queued) : i < n := by
  have everywhere : i ∈ a.taken ++ a.queued ++ a.lost := by simp [among]
  exact List.mem_range.mp (a.whole.mem_iff.mp everywhere)

theorem lt_of_taken (among : i ∈ a.taken) : i < n := by
  have everywhere : i ∈ a.taken ++ a.queued ++ a.lost := by simp [among]
  exact List.mem_range.mp (a.whole.mem_iff.mp everywhere)

theorem whole_arrive (stop : Nat → Bool) :
    (a.taken ++ insertBehind stop n a.queued ++ a.lost).Perm (List.range (n + 1)) := by
  rw [List.perm_iff_count]
  intro i
  have grown := (insertBehind_perm stop n a.queued).count_eq i
  have before := a.whole.count_eq i
  simp only [List.range_succ, List.count_append, List.count_cons, List.count_nil] at before grown ⊢
  omega

theorem whole_miss : (a.taken ++ a.queued ++ n :: a.lost).Perm (List.range (n + 1)) := by
  rw [List.perm_iff_count]
  intro i
  have before := a.whole.count_eq i
  simp only [List.range_succ, List.count_append, List.count_cons, List.count_nil] at before ⊢
  omega

theorem whole_drop (k : Nat) :
    (a.taken ++ a.queued.drop k ++ (a.queued.take k ++ a.lost)).Perm (List.range n) := by
  rw [List.perm_iff_count]
  intro i
  have before := a.whole.count_eq i
  have parts : a.queued.count i = (a.queued.take k).count i + (a.queued.drop k).count i := by
    rw [← List.count_append, List.take_append_drop]
  simp only [List.count_append] at before ⊢
  omega

theorem whole_take (first : a.queued = i :: rest) :
    (a.taken ++ [i] ++ rest ++ a.lost).Perm (List.range n) := by
  have before := a.whole
  rw [first, List.append_cons] at before
  exact before

def none : Account 0 := ⟨[], [], [], List.Perm.nil⟩

/-- A new arrival is queued. -/
def arrive (stop : Nat → Bool) : Account (n + 1) :=
  ⟨a.taken, insertBehind stop n a.queued, a.lost, a.whole_arrive stop⟩

/-- A new arrival is lost. -/
def miss : Account (n + 1) := ⟨a.taken, a.queued, n :: a.lost, a.whole_miss⟩

/-- The first `k` in the queue are lost. -/
def drop (k : Nat) : Account n :=
  ⟨a.taken, a.queued.drop k, a.queued.take k ++ a.lost, a.whole_drop k⟩

/-- The first in the queue is taken. -/
def take (first : a.queued = i :: rest) : Account n :=
  ⟨a.taken ++ [i], rest, a.lost, a.whole_take first⟩

theorem arrive_ordered {key : Nat → Int} {stop : Nat → Bool}
    (ordered : a.queued.Pairwise (InTurn key))
    (stops : ∀ i ∈ a.queued, stop i = true ↔ key i ≤ key n) :
    (a.arrive stop).queued.Pairwise (InTurn key) := by
  apply insertBehind_pairwise
  · unfold InTurn
    omega
  · exact ordered
  · intro i among stopped
    have := (stops i among).mp stopped
    have := a.lt_of_queued among
    unfold InTurn
    omega
  · intro i among passed
    have := mt (stops i among).mpr (Bool.eq_false_iff.mp passed)
    unfold InTurn
    omega

end Account

end FleetRMW.Lib
