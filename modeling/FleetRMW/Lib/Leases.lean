import Mathlib.Data.List.Basic
import Mathlib.Data.List.Induction
import Mathlib.Data.List.Nodup

/-! # Tables whose entries expire

An entry is learned with a time at which it expires. Learning it again renews it, and purging
drops what has expired. What a table holds for a key is told by what has been learned.
-/

namespace FleetRMW.Lib

variable {α κ : Type*}

/-- Drop the entries that have expired. -/
def purge (expiresAt : α → Int) (now : Int) (table : List α) : List α :=
  table.filter fun entry => now < expiresAt entry

/-- Renew the first entry that is known, or append a new one. -/
def renew (known : α → Bool) (renewal : α → α) (new : α) : List α → List α
  | [] => [new]
  | entry :: table =>
      if known entry then renewal entry :: table else entry :: renew known renewal new table

section
variable [DecidableEq κ] {key : α → κ} {expiresAt : α → Int} {table : List α} {k : κ}

/-- When the entry of a key expires. -/
def expiry? (key : α → κ) (expiresAt : α → Int) (table : List α) (k : κ) : Option Int :=
  (table.find? fun entry => key entry = k).map expiresAt

theorem expiry?_cons (entry : α) : expiry? key expiresAt (entry :: table) k =
    if key entry = k then some (expiresAt entry) else expiry? key expiresAt table k := by
  by_cases here : key entry = k
  · simp only [expiry?, List.find?_cons, here, decide_true, Option.map_some, if_true]
  · simp only [expiry?, List.find?_cons, here, decide_false, if_false]

variable (expiresAt) in
theorem expiry?_isSome :
    (expiry? key expiresAt table k).isSome ↔ ∃ entry ∈ table, key entry = k := by
  simp only [expiry?, Option.isSome_map, List.find?_isSome, decide_eq_true_eq]

variable (expiresAt) in
theorem nodup_purge (distinct : (table.map key).Nodup) (now : Int) :
    ((purge expiresAt now table).map key).Nodup :=
  distinct.sublist (List.filter_sublist.map key)

theorem expiry?_purge (distinct : (table.map key).Nodup) (now : Int) :
    expiry? key expiresAt (purge expiresAt now table) k =
      (expiry? key expiresAt table k).filter fun x => now < x := by
  induction table with
  | nil => rfl
  | cons entry table ih =>
      obtain ⟨once, distinct⟩ := List.nodup_cons.mp distinct
      have rest := ih distinct
      have absent : key entry = k → expiry? key expiresAt table k = none := by
        intro here
        apply Option.not_isSome_iff_eq_none.mp
        intro found
        obtain ⟨other, among, same⟩ := (expiry?_isSome expiresAt).mp found
        exact once (List.mem_map.mpr ⟨other, among, same.trans here.symm⟩)
      by_cases live : now < expiresAt entry
      · have kept : purge expiresAt now (entry :: table) =
            entry :: purge expiresAt now table := by
          simp only [purge, List.filter_cons, live, decide_true, if_true]
        rw [kept, expiry?_cons, expiry?_cons, rest]
        split
        · rw [Option.filter_some, if_pos (decide_eq_true live)]
        · rfl
      · have dropped : purge expiresAt now (entry :: table) = purge expiresAt now table := by
          simp only [purge, List.filter_cons, live, decide_false, Bool.false_eq_true, if_false]
        rw [dropped, expiry?_cons, rest]
        split
        · next here =>
            rw [absent here, Option.filter_some, Option.filter_none,
              if_neg (by simp only [live, decide_false, Bool.false_eq_true, not_false_eq_true])]
        · rfl

section
variable {known : α → Bool} {renewal : α → α} {new : α} {x : Int} {k' : κ}

theorem keys_renew (knows : ∀ entry, known entry ↔ key entry = k)
    (keeps : ∀ entry, key (renewal entry) = key entry) (names : key new = k) :
    (renew known renewal new table).map key =
      if k ∈ table.map key then table.map key else table.map key ++ [k] := by
  induction table with
  | nil => simp only [renew, List.map_cons, names, List.map_nil, List.not_mem_nil, if_false,
      List.nil_append]
  | cons entry table ih =>
      rw [renew]
      split
      case isTrue here =>
        have same := (knows entry).mp here
        rw [List.map_cons, List.map_cons, keeps, if_pos (same ▸ List.mem_cons_self)]
      case isFalse there =>
        have other : k ≠ key entry := fun same => there ((knows entry).mpr same.symm)
        rw [List.map_cons, ih, List.map_cons]
        by_cases among : k ∈ table.map key
        · rw [if_pos among, if_pos (List.mem_cons_of_mem _ among)]
        · rw [if_neg among, if_neg (List.not_mem_cons_of_ne_of_not_mem other among),
            List.cons_append]

theorem nodup_renew (distinct : (table.map key).Nodup)
    (knows : ∀ entry, known entry ↔ key entry = k)
    (keeps : ∀ entry, key (renewal entry) = key entry) (names : key new = k) :
    ((renew known renewal new table).map key).Nodup := by
  rw [keys_renew knows keeps names]
  split
  · exact distinct
  · next absent =>
      exact distinct.append (List.nodup_singleton k) (List.disjoint_singleton.mpr absent)

theorem expiry?_renew (knows : ∀ entry, known entry ↔ key entry = k)
    (keeps : ∀ entry, key (renewal entry) = key entry)
    (renews : ∀ entry, expiresAt (renewal entry) = x) (names : key new = k)
    (lasts : expiresAt new = x) :
    expiry? key expiresAt (renew known renewal new table) k' =
      if k' = k then some x else expiry? key expiresAt table k' := by
  induction table with
  | nil =>
      rw [renew, expiry?_cons, names, lasts]
      by_cases same : k' = k
      · rw [if_pos same.symm, if_pos same]
      · rw [if_neg (Ne.symm same), if_neg same]
  | cons entry table ih =>
      rw [renew]
      split
      case isTrue here =>
        have same := (knows entry).mp here
        rw [expiry?_cons, keeps, renews, same, expiry?_cons, same]
        by_cases asked : k' = k
        · rw [if_pos asked.symm, if_pos asked]
        · rw [if_neg (Ne.symm asked), if_neg asked, if_neg (Ne.symm asked)]
      case isFalse there =>
        have other : key entry ≠ k := fun same => there ((knows entry).mpr same)
        rw [expiry?_cons, ih, expiry?_cons]
        by_cases asked : k' = k
        · rw [if_pos asked, if_pos asked, asked, if_neg other]
        · rw [if_neg asked, if_neg asked]

end

/-! ## What has been learned -/

/-- When the entry of a key expires after a history of times, oldest first, at each of which the
    table is purged and then the entry of a key may be learned for the duration of a lease. -/
def leased (lease : Int) (k : κ) (past : List (Int × Option κ)) : Option Int :=
  past.foldl (fun held learned =>
    if learned.2 = some k then some (learned.1 + lease)
    else held.filter fun x => learned.1 < x) none

theorem leased_concat (lease : Int) (k : κ) (past : List (Int × Option κ))
    (learned : Int × Option κ) : leased lease k (past ++ [learned]) =
      if learned.2 = some k then some (learned.1 + lease)
      else (leased lease k past).filter fun x => learned.1 < x := by
  rw [leased, List.foldl_append]
  rfl

/-- An entry is held whose key was learned last at a time after which the table has not been
    purged too late. -/
theorem leased_eq_some_iff {lease : Int} {past : List (Int × Option κ)} {x : Int} :
    leased lease k past = some x ↔ ∃ before at_ after,
      past = before ++ (at_, some k) :: after ∧ x = at_ + lease ∧
        ∀ later ∈ after, later.2 ≠ some k ∧ later.1 < x := by
  induction past using List.reverseRecOn with
  | nil =>
      constructor
      · intro held
        cases held
      · rintro ⟨before, at_, after, shape, -⟩
        cases before <;> cases shape
  | append_singleton past learned ih =>
      rw [leased_concat]
      constructor
      · intro held
        split at held
        case isTrue here =>
          refine ⟨past, learned.1, [], ?_, (Option.some.inj held).symm, ?_⟩
          · rw [← here]
          · exact fun later none => absurd none List.not_mem_nil
        case isFalse other =>
          obtain ⟨before_, still⟩ := Option.filter_eq_some_iff.mp held
          obtain ⟨before, at_, after, shape, lasts, quiet⟩ := ih.mp before_
          refine ⟨before, at_, after ++ [learned], ?_, lasts, ?_⟩
          · rw [shape, List.append_assoc, List.cons_append]
          · intro later among
            cases List.mem_append.mp among with
            | inl old => exact quiet later old
            | inr last => exact List.mem_singleton.mp last ▸ ⟨other, of_decide_eq_true still⟩
      · rintro ⟨before, at_, after, shape, lasts, quiet⟩
        cases after using List.reverseRecOn with
        | nil =>
            obtain ⟨-, same⟩ := List.append_inj' shape rfl
            obtain rfl := List.singleton_inj.mp same
            rw [if_pos rfl, lasts]
        | append_singleton after last =>
            rw [← List.cons_append, ← List.append_assoc] at shape
            obtain ⟨old, same⟩ := List.append_inj' shape rfl
            obtain rfl := List.singleton_inj.mp same
            obtain ⟨other, still⟩ := quiet learned (List.mem_append_right _ List.mem_cons_self)
            have held := ih.mpr ⟨before, at_, after, old, lasts, fun later among =>
              quiet later (List.mem_append_left _ among)⟩
            rw [if_neg other, held, Option.filter_some, if_pos (decide_eq_true still)]

end

end FleetRMW.Lib
