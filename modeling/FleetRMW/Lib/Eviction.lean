import FleetRMW.Lib.Python
import Mathlib.Data.List.Nodup
import Mathlib.Data.Nat.Notation
import Mathlib.Logic.Function.Iterate

/-! # Tables that drop their oldest entry

A keyed table whose values have an age. While it is too long, the first of the entries with
the least age is erased.
-/

namespace FleetRMW.Lib.Dict

variable {K V : Type*} [DecidableEq K] {d : Dict K V} {k k' : K} {v : V}

def erase (d : Dict K V) (k : K) : Dict K V := d.filter fun e => e.1 ≠ k

/-- The first of the entries with the least age. -/
def oldest (age : V → Int) (d : Dict K V) : Option (K × V) :=
  d.foldl (fun oldest e => match oldest with
    | none => some e
    | some o => if age e.2 < age o.2 then some e else some o) none

def evictOldest (age : V → Int) (d : Dict K V) : Dict K V :=
  match d.oldest age with
  | some e => d.erase e.1
  | none => d

/-- `while (size >= limit) erase(oldest)` -/
def evictWhileAtLeast (age : V → Int) (limit : Nat) (d : Dict K V) : Dict K V :=
  (evictOldest age)^[d.length + 1 - limit] d

theorem get?_erase : (d.erase k).get? k' = if k' = k then none else d.get? k' := by
  induction d with
  | nil =>
      rw [show erase ([] : Dict K V) k = [] from rfl, get?_nil, ite_self]
  | cons e d ih =>
      rw [get?_cons]
      by_cases here : e.1 = k
      · have dropped : erase (e :: d) k = erase d k := by simp [erase, here]
        rw [dropped, ih, here]
        by_cases same : k' = k
        · rw [if_pos same, if_pos same]
        · rw [if_neg same, if_neg same, if_neg (Ne.symm same)]
      · have kept : erase (e :: d) k = e :: erase d k := by simp [erase, here]
        rw [kept, get?_cons, ih]
        by_cases found : e.1 = k'
        · have other : k' ≠ k := found ▸ here
          rw [if_pos found, if_pos found, if_neg other]
        · rw [if_neg found, if_neg found]

theorem mem_of_mem_erase {e : K × V} (h : e ∈ d.erase k) : e ∈ d := List.mem_of_mem_filter h

theorem mem_of_mem_evictOldest {age : V → Int} {e : K × V} (h : e ∈ d.evictOldest age) : e ∈ d := by
  unfold evictOldest at h
  split at h
  · exact mem_of_mem_erase h
  · exact h

theorem mem_of_mem_iterate_evictOldest {age : V → Int} {e : K × V} {n : Nat}
    (h : e ∈ (evictOldest age)^[n] d) : e ∈ d := by
  induction n generalizing d with
  | zero => exact h
  | succ n ih => exact mem_of_mem_evictOldest (ih h)

theorem mem_of_mem_evictWhileAtLeast {age : V → Int} {limit : Nat} {e : K × V}
    (h : e ∈ d.evictWhileAtLeast age limit) : e ∈ d := mem_of_mem_iterate_evictOldest h

theorem mem_of_get? (h : d.get? k = some v) : (k, v) ∈ d := by
  obtain ⟨e, found, rfl⟩ := Option.map_eq_some_iff.mp h
  have key : e.1 = k := by simpa using List.find?_some found
  exact key ▸ List.mem_of_find?_eq_some found

theorem isSome_get?_of_mem {e : K × V} (h : e ∈ d) : (d.get? e.1).isSome := by
  rw [get?, Option.isSome_map, List.find?_isSome]
  exact ⟨e, h, by simp⟩

theorem mem_set {e : K × V} (h : e ∈ d.set k v) : e = (k, v) ∨ e ∈ d := by
  induction d with
  | nil => exact .inl (List.mem_singleton.mp h)
  | cons x d ih =>
      unfold set at h
      split at h
      · rcases List.mem_cons.mp h with rfl | inside
        · exact .inl rfl
        · exact .inr (List.mem_cons_of_mem _ inside)
      · rcases List.mem_cons.mp h with rfl | inside
        · exact .inr List.mem_cons_self
        · exact (ih inside).imp_right (List.mem_cons_of_mem _)

theorem mem_set_of_ne {e : K × V} (other : e.1 ≠ k) (h : e ∈ d) : e ∈ d.set k v := by
  induction d with
  | nil => cases h
  | cons x d ih =>
      unfold set
      split
      case isTrue here =>
        cases h with
        | head => exact absurd here other
        | tail _ inside => exact List.mem_cons_of_mem _ inside
      case isFalse =>
        cases h with
        | head => exact List.mem_cons_self
        | tail _ inside => exact List.mem_cons_of_mem _ (ih inside)

theorem mem_erase_of_ne {e : K × V} (other : e.1 ≠ k) (h : e ∈ d) : e ∈ d.erase k :=
  List.mem_filter.mpr ⟨h, decide_eq_true other⟩

/-- Setting a key adds at most one entry that counts. -/
theorem countP_set_le (counts : K × V → Bool) :
    (d.set k v).countP counts ≤ d.countP counts + if counts (k, v) then 1 else 0 := by
  induction d with
  | nil => simp only [set, List.countP_cons, List.countP_nil, Nat.le_refl]
  | cons x d ih =>
      unfold set
      split
      · simp only [List.countP_cons]
        omega
      · simp only [List.countP_cons]
        omega

omit [DecidableEq K] in
theorem eq_of_key (distinct : (d.map Prod.fst).Nodup) {e e' : K × V} (h : e ∈ d) (h' : e' ∈ d)
    (same : e.1 = e'.1) : e = e' :=
  List.inj_on_of_nodup_map distinct h h' same

theorem erase_of_absent (absent : k ∉ d.map Prod.fst) : d.erase k = d := by
  apply List.filter_eq_self.mpr
  intro e inside
  apply decide_eq_true
  intro same
  exact absent (List.mem_map.mpr ⟨e, inside, same⟩)

/-- Erasing a key erases at most one entry. -/
theorem countP_le_erase (distinct : (d.map Prod.fst).Nodup) (counts : K × V → Bool) :
    d.countP counts ≤ (d.erase k).countP counts + 1 := by
  induction d with
  | nil => exact Nat.zero_le _
  | cons x d ih =>
      obtain ⟨once, distinct⟩ := List.nodup_cons.mp distinct
      by_cases here : x.1 = k
      · have dropped : erase (x :: d) k = erase d k := by simp [erase, here]
        rw [dropped, erase_of_absent (here ▸ once), List.countP_cons]
        split <;> omega
      · have kept : erase (x :: d) k = x :: erase d k := by simp [erase, here]
        have := ih distinct
        rw [kept, List.countP_cons, List.countP_cons]
        omega

theorem nodup_keys_set (distinct : (d.map Prod.fst).Nodup) : ((d.set k v).map Prod.fst).Nodup := by
  induction d with
  | nil => exact List.nodup_singleton k
  | cons x d ih =>
      obtain ⟨once, distinct⟩ := List.nodup_cons.mp distinct
      unfold set
      split
      case isTrue here =>
        rw [here] at once
        exact List.nodup_cons.mpr ⟨once, distinct⟩
      case isFalse other =>
        refine List.nodup_cons.mpr ⟨?_, ih distinct⟩
        intro inside
        obtain ⟨e, among, same⟩ := List.mem_map.mp inside
        cases mem_set among with
        | inl new =>
            rw [new] at same
            exact other same.symm
        | inr old => exact once (List.mem_map.mpr ⟨e, old, same⟩)

/-! ## A dictionary of lists -/

section
variable {α : Type*} {lists : Dict K (List α)} {x : α}

variable (lists k x) in
/-- An element that joins one of the lists. -/
theorem flatMap_set_perm : ((lists.set k ((lists.get? k).getD [] ++ [x])).flatMap Prod.snd).Perm
    (lists.flatMap Prod.snd ++ [x]) := by
  induction lists with
  | nil => exact List.Perm.refl _
  | cons e lists ih =>
      by_cases here : e.1 = k
      · rw [get?_cons, if_pos here, Option.getD_some, set, if_pos here, List.flatMap_cons,
          List.flatMap_cons, List.append_assoc, List.append_assoc]
        exact List.perm_append_comm.append_left _
      · rw [get?_cons, if_neg here, set, if_neg here, List.flatMap_cons, List.flatMap_cons,
          List.append_assoc]
        exact ih.append_left _

/-- One of the lists is taken out. -/
theorem flatMap_erase_perm (distinct : (lists.map Prod.fst).Nodup) :
    (lists.flatMap Prod.snd).Perm ((lists.get? k).getD [] ++ (lists.erase k).flatMap Prod.snd) := by
  induction lists with
  | nil => exact List.Perm.refl _
  | cons e lists ih =>
      obtain ⟨once, distinct⟩ := List.nodup_cons.mp distinct
      by_cases here : e.1 = k
      · have dropped : erase (e :: lists) k = erase lists k := by simp [erase, here]
        rw [get?_cons, if_pos here, Option.getD_some, dropped, erase_of_absent (here ▸ once),
          List.flatMap_cons]
      · have kept : erase (e :: lists) k = e :: erase lists k := by simp [erase, here]
        rw [get?_cons, if_neg here, kept, List.flatMap_cons, List.flatMap_cons]
        refine ((ih distinct).append_left _).trans ?_
        rw [← List.append_assoc, ← List.append_assoc]
        exact List.perm_append_comm.append_right _

end

/-! ## The oldest entry -/

variable {age : V → Int} {o : K × V}

/-- One turn of the search for the oldest entry. -/
def older (age : V → Int) (oldest : Option (K × V)) (e : K × V) : Option (K × V) :=
  match oldest with
  | none => some e
  | some o => if age e.2 < age o.2 then some e else some o

omit [DecidableEq K] in
theorem foldl_older {sofar : Option (K × V)} (h : d.foldl (older age) sofar = some o) :
    (o ∈ d ∨ sofar = some o) ∧ (∀ e ∈ d, age o.2 ≤ age e.2) ∧
      ∀ e, sofar = some e → age o.2 ≤ age e.2 := by
  induction d generalizing sofar with
  | nil =>
      refine ⟨.inr h, fun e inside => absurd inside List.not_mem_nil, ?_⟩
      intro e first
      obtain rfl := Option.some.inj (first.symm.trans h)
      exact Int.le_refl _
  | cons x d ih =>
      obtain ⟨found, least, before⟩ := ih h
      cases sofar with
      | none =>
          have first := before x rfl
          refine ⟨?_, ?_, fun e none_ => by cases none_⟩
          · cases found with
            | inl inside => exact .inl (List.mem_cons_of_mem _ inside)
            | inr same => exact .inl (Option.some.inj same ▸ List.mem_cons_self)
          · intro e inside
            cases inside with
            | head => exact first
            | tail _ later => exact least e later
      | some p =>
          by_cases less : age x.2 < age p.2
          · have taken : older age (some p) x = some x := if_pos less
            rw [taken] at found before
            have first := before x rfl
            refine ⟨?_, ?_, ?_⟩
            · cases found with
              | inl inside => exact .inl (List.mem_cons_of_mem _ inside)
              | inr same => exact .inl (Option.some.inj same ▸ List.mem_cons_self)
            · intro e inside
              cases inside with
              | head => exact first
              | tail _ later => exact least e later
            · intro e same
              obtain rfl := Option.some.inj same
              exact Int.le_trans first (Int.le_of_lt less)
          · have kept : older age (some p) x = some p := if_neg less
            rw [kept] at found before
            have first := before p rfl
            refine ⟨?_, ?_, ?_⟩
            · exact found.imp_left (List.mem_cons_of_mem _)
            · intro e inside
              cases inside with
              | head => exact Int.le_trans first (Int.not_lt.mp less)
              | tail _ later => exact least e later
            · intro e same
              obtain rfl := Option.some.inj same
              exact first

/-- The entry that is found is an entry, and none is older. -/
theorem oldest_spec (h : d.oldest age = some o) : o ∈ d ∧ ∀ e ∈ d, age o.2 ≤ age e.2 := by
  have searched : d.foldl (older age) none = some o := h
  obtain ⟨found, least, -⟩ := foldl_older searched
  cases found with
  | inl inside => exact ⟨inside, least⟩
  | inr absurd_ => cases absurd_

/-! ## Bounded tables

`d[k] = v` in a table of at most `n` keys, from whose front the keys go that are too many.
-/

theorem get?_of_mem (distinct : (d.map Prod.fst).Nodup) (inside : (k, v) ∈ d) :
    d.get? k = some v := by
  obtain ⟨w, found⟩ := Option.isSome_iff_exists.mp (isSome_get?_of_mem inside)
  rw [found, (Prod.mk.inj (eq_of_key distinct (mem_of_get? found) inside rfl)).2]

theorem set_of_absent (absent : d.get? k = none) : d.set k v = d ++ [(k, v)] := by
  induction d with
  | nil => rfl
  | cons e d ih =>
      rw [get?_cons] at absent
      split at absent
      · cases absent
      · next other => rw [set, if_neg other, ih absent, List.cons_append]

theorem length_set_of_present (present : (d.get? k).isSome) : (d.set k v).length = d.length := by
  induction d with
  | nil => cases present
  | cons e d ih =>
      rw [get?_cons] at present
      rw [set]
      split
      · rfl
      · next other =>
          rw [if_neg other] at present
          rw [List.length_cons, ih present, List.length_cons]

theorem get?_tail (other : d.head?.map Prod.fst ≠ some k) : get? d.tail k = d.get? k := by
  cases d with
  | nil => rfl
  | cons e d =>
      rw [get?_cons, if_neg fun same => other (congrArg some same)]
      rfl

theorem get?_append {d' : Dict K V} : get? (d ++ d') k = (d.get? k).or (d'.get? k) := by
  induction d with
  | nil => rfl
  | cons e d ih =>
      rw [List.cons_append, get?_cons, get?_cons, ih]
      split <;> rfl

section
variable {n : Nat}

theorem popWhileLonger_set (few : d.length ≤ n) (room : 0 < n) :
    popWhileLonger n (d.set k v) =
      if (d.get? k).isSome then d.set k v
      else (if d.length < n then d else d.tail) ++ [(k, v)] := by
  split
  case isTrue present =>
    exact popWhileLonger_of_le (length_set_of_present present ▸ few)
  case isFalse absent =>
    rw [set_of_absent (Option.not_isSome_iff_eq_none.mp absent), popWhileLonger_concat few room]

theorem get?_popWhileLonger_set_self (few : d.length ≤ n) (room : 0 < n) :
    get? (popWhileLonger n (d.set k v)) k = some v := by
  rw [popWhileLonger_set few room]
  split
  · exact get?_set_self
  · next absent =>
      have gone : get? (if d.length < n then d else d.tail) k = none := by
        apply Option.eq_none_iff_forall_ne_some.mpr
        intro w found
        apply absent
        apply isSome_get?_of_mem (e := (k, w))
        split at found
        · exact mem_of_get? found
        · exact List.mem_of_mem_tail (mem_of_get? found)
      rw [get?_append, gone, Option.none_or, get?_cons, if_pos rfl]

/-- Another key stays, unless it is the first one and has to make room. -/
theorem get?_popWhileLonger_set_of_ne (few : d.length ≤ n) (room : 0 < n) (other : k' ≠ k)
    (stays : d.get? k = none → ¬d.length < n → d.head?.map Prod.fst ≠ some k') :
    get? (popWhileLonger n (d.set k v)) k' = d.get? k' := by
  have appended : ∀ d' : Dict K V, get? (d' ++ [(k, v)]) k' = d'.get? k' := by
    intro d'
    rw [get?_append, get?_cons, if_neg (Ne.symm other), get?_nil, Option.or_none]
  rw [popWhileLonger_set few room]
  split
  · exact get?_set_of_ne other
  · next absent =>
      rw [appended]
      split
      · rfl
      · next full => exact get?_tail (stays (Option.not_isSome_iff_eq_none.mp absent) full)

end

end FleetRMW.Lib.Dict
