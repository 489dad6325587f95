import FleetRMW.Lib.Eviction
import Mathlib.Algebra.Order.Group.Multiset

/-! # Indexes

An index keeps one record for each key that some item has: a summary of the items of that key.
It follows the items as they come and go, where the summaries do. A tally is the index of the
keys themselves, with their number as the summary.
-/

namespace FleetRMW.Lib

variable {κ α V : Type*} [DecidableEq κ]

/-! ## Tables as lists of pairs -/

namespace Dict

variable {d : Dict κ V} {k : κ} {v : V}

theorem erase_of_get?_eq_none (absent : d.get? k = none) : d.erase k = d := by
  apply erase_of_absent
  intro among
  obtain ⟨entry, inside, rfl⟩ := List.mem_map.mp among
  have there := isSome_get?_of_mem inside
  rw [absent] at there
  exact absurd there Bool.false_ne_true

theorem set_perm (distinct : (d.map Prod.fst).Nodup) : (d.set k v).Perm ((k, v) :: d.erase k) := by
  induction d with
  | nil => exact .refl _
  | cons e d ih =>
      obtain ⟨first, rest⟩ := List.nodup_cons.mp distinct
      unfold set
      split
      case isTrue same =>
        have gone : erase (e :: d) k = d := by
          unfold erase
          rw [List.filter_cons_of_neg (by simp only [same, ne_eq, not_true_eq_false, decide_false,
            Bool.false_eq_true, not_false_eq_true])]
          exact erase_of_absent (same ▸ first)
        rw [gone]
      case isFalse other =>
        have kept : erase (e :: d) k = e :: erase d k :=
          List.filter_cons_of_pos (by simp only [other, ne_eq, not_false_eq_true, decide_true])
        rw [kept]
        exact ((ih rest).cons e).trans (List.Perm.swap _ _ _)

theorem set_of_get? (there : d.get? k = some v) : d.set k v = d := by
  induction d with
  | nil => cases there
  | cons e d ih =>
      rw [get?_cons] at there
      unfold set
      split
      case isTrue same =>
        rw [if_pos same] at there
        cases there
        rw [← same]
      case isFalse other =>
        rw [if_neg other] at there
        rw [ih there]

theorem perm_cons_erase (distinct : (d.map Prod.fst).Nodup) (there : d.get? k = some v) :
    d.Perm ((k, v) :: d.erase k) := by
  have split := set_perm (v := v) distinct (k := k)
  rw [set_of_get? there] at split
  exact split

end Dict

/-! ## Indexes -/

/-- The items of a key. -/
def itemsOf (key : α → κ) (items : Multiset α) (k : κ) : Multiset α := items.filter (key · = k)

section
variable {key : α → κ} {items : Multiset α} {x : α} {k : κ}

@[simp] theorem itemsOf_zero : itemsOf key 0 k = 0 := Multiset.filter_zero _

theorem itemsOf_cons_self : itemsOf key (x ::ₘ items) (key x) = x ::ₘ itemsOf key items (key x) :=
  Multiset.filter_cons_of_pos _ rfl

theorem itemsOf_cons_of_ne (other : key x ≠ k) :
    itemsOf key (x ::ₘ items) k = itemsOf key items k :=
  Multiset.filter_cons_of_neg _ other

end

/-- What the table has for a key says the same as the items of the key: nothing of no items, and
    of some items a record that sums them up. -/
def Covers (sums : κ → Multiset α → V → Prop) (k : κ) (group : Multiset α) : Option V → Prop
  | none => group = 0
  | some v => group ≠ 0 ∧ sums k group v

/-- The table has a record of exactly the keys that items have, and each sums up the items. -/
def Indexes (sums : κ → Multiset α → V → Prop) (key : α → κ) (table : Dict κ V)
    (items : Multiset α) : Prop :=
  ∀ k, Covers sums k (itemsOf key items k) (table.get? k)

namespace Indexes

variable {sums : κ → Multiset α → V → Prop} {key : α → κ} {table : Dict κ V} {items : Multiset α}
  {x : α} {k : κ} {v : V}

theorem nil : Indexes sums key [] 0 := fun _ => itemsOf_zero

/-- A record of a key that the item has is there, and counts the item in. -/
theorem found (h : Indexes sums key table (x ::ₘ items)) :
    ∃ v, table.get? (key x) = some v ∧ sums (key x) (x ::ₘ itemsOf key items (key x)) v := by
  have covers := h (key x)
  rw [itemsOf_cons_self] at covers
  cases there : table.get? (key x) with
  | none =>
      rw [there] at covers
      exact absurd covers (Multiset.cons_ne_zero)
  | some v =>
      rw [there] at covers
      exact ⟨v, rfl, covers.2⟩

theorem set_of_add (h : Indexes sums key table items)
    (new : sums (key x) (x ::ₘ itemsOf key items (key x)) v) :
    Indexes sums key (table.set (key x) v) (x ::ₘ items) := by
  intro k
  by_cases same : key x = k
  · subst same
    rw [itemsOf_cons_self, Dict.get?_set_self]
    exact ⟨Multiset.cons_ne_zero, new⟩
  · rw [itemsOf_cons_of_ne same, Dict.get?_set_of_ne (Ne.symm same)]
    exact h k

theorem set_of_remove (h : Indexes sums key table (x ::ₘ items))
    (left : itemsOf key items (key x) ≠ 0) (new : sums (key x) (itemsOf key items (key x)) v) :
    Indexes sums key (table.set (key x) v) items := by
  intro k
  by_cases same : key x = k
  · subst same
    rw [Dict.get?_set_self]
    exact ⟨left, new⟩
  · rw [Dict.get?_set_of_ne (Ne.symm same), ← itemsOf_cons_of_ne same]
    exact h k

theorem erase_of_remove (h : Indexes sums key table (x ::ₘ items))
    (last : itemsOf key items (key x) = 0) : Indexes sums key (table.erase (key x)) items := by
  intro k
  rw [Dict.get?_erase]
  by_cases same : key x = k
  · subst same
    rw [if_pos rfl]
    exact last
  · rw [if_neg (Ne.symm same), ← itemsOf_cons_of_ne same]
    exact h k

theorem isSome_iff (h : Indexes sums key table items) :
    (table.get? k).isSome ↔ ∃ x ∈ items, key x = k := by
  have covers := h k
  cases there : table.get? k with
  | none =>
      rw [there] at covers
      have none_left : ∀ x ∈ items, ¬key x = k := Multiset.filter_eq_nil.mp covers
      simp only [Option.isSome_none, Bool.false_eq_true, false_iff, not_exists, not_and]
      exact none_left
  | some v =>
      rw [there] at covers
      obtain ⟨x, inside⟩ := Multiset.exists_mem_of_ne_zero covers.1
      simp only [Option.isSome_some, true_iff]
      exact ⟨x, (Multiset.mem_filter.mp inside).1, (Multiset.mem_filter.mp inside).2⟩

theorem of_get? (h : Indexes sums key table items) (there : table.get? k = some v) :
    sums k (itemsOf key items k) v := by
  have covers := h k
  rw [there] at covers
  exact covers.2

end Indexes

/-! ## Tallies -/

/-- The table has the number of each of the keys, written as `write` writes it. -/
abbrev Tallies (write : κ → Nat → V) : Dict κ V → Multiset κ → Prop :=
  Indexes (fun k group v => v = write k group.card) id

namespace Tallies

variable {write : κ → Nat → V} {table : Dict κ V} {keys : Multiset κ} {k : κ}

theorem itemsOf_id : (itemsOf id keys k).card = keys.count k := by
  unfold itemsOf
  rw [Multiset.count, Multiset.countP_eq_card_filter]
  simp only [id, eq_comm]

theorem get?_eq (h : Tallies write table keys) :
    table.get? k = if keys.count k = 0 then none else some (write k (keys.count k)) := by
  have covers := h k
  cases there : table.get? k with
  | none =>
      rw [there] at covers
      have none_left : (itemsOf id keys k).card = 0 := Multiset.card_eq_zero.mpr covers
      rw [itemsOf_id] at none_left
      rw [if_pos none_left]
  | some v =>
      rw [there] at covers
      have some_left : (itemsOf id keys k).card ≠ 0 :=
        fun empty => covers.1 (Multiset.card_eq_zero.mp empty)
      rw [itemsOf_id] at some_left
      rw [if_neg some_left, covers.2, itemsOf_id]

theorem set_of_add (h : Tallies write table keys) :
    Tallies write (table.set k (write k (keys.count k + 1))) (k ::ₘ keys) := by
  apply Indexes.set_of_add (x := k) h
  rw [Multiset.card_cons]
  exact congrArg (fun n => write k (n + 1)) itemsOf_id.symm

theorem set_of_remove (h : Tallies write table (k ::ₘ keys)) (left : keys.count k ≠ 0) :
    Tallies write (table.set k (write k (keys.count k))) keys := by
  apply Indexes.set_of_remove (x := k) h
  · intro empty
    apply left
    rw [← itemsOf_id]
    exact Multiset.card_eq_zero.mpr empty
  · exact congrArg (write k) itemsOf_id.symm

theorem erase_of_remove (h : Tallies write table (k ::ₘ keys)) (last : keys.count k = 0) :
    Tallies write (table.erase k) keys := by
  apply Indexes.erase_of_remove (x := k) h
  apply Multiset.card_eq_zero.mp
  exact itemsOf_id.trans last

end Tallies

end FleetRMW.Lib
