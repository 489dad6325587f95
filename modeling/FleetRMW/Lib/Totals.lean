import FleetRMW.Lib.Eviction
import Mathlib.Algebra.BigOperators.Group.List.Basic
import Mathlib.Algebra.Order.Ring.Int

/-! # Totals over tables

A table that is built by a comprehension, the total of a number over its values, and loops whose
invariant looks at the items to come.
-/

namespace FleetRMW.Lib

/-! ## Loops -/

section
variable {α σ ε : Type}

theorem foldl_holds {I : List α → σ → Prop} {f : σ → α → σ}
    (step : ∀ x rest s, I (x :: rest) s → I rest (f s x)) {items : List α} {s : σ}
    (start : I items s) : I [] (items.foldl f s) := by
  induction items generalizing s with
  | nil => exact start
  | cons x rest ih => exact ih (step x rest s start)

/-- A loop whose body never raises, and keeps what holds before it. -/
theorem foldlM_holds {I : List α → σ → Prop} {f : σ → α → Except ε σ}
    (step : ∀ x rest s, I (x :: rest) s → ∃ s', f s x = .ok s' ∧ I rest s') {items : List α}
    {s : σ} (start : I items s) : ∃ s', items.foldlM f s = .ok s' ∧ I [] s' := by
  induction items generalizing s with
  | nil => exact ⟨s, rfl, start⟩
  | cons x rest ih =>
      obtain ⟨mid, returned, holds⟩ := step x rest s start
      obtain ⟨s', later, holds⟩ := ih holds
      refine ⟨s', ?_, holds⟩
      rw [List.foldlM_cons, returned]
      exact later

theorem foldlM_keeps {P : σ → Prop} {f : σ → α → Except ε σ} {items : List α} {s : σ}
    (step : ∀ x ∈ items, ∀ s, P s → ∃ s', f s x = .ok s' ∧ P s') (start : P s) :
    ∃ s', items.foldlM f s = .ok s' ∧ P s' := by
  let I (rest : List α) (s : σ) : Prop := (∀ x ∈ rest, x ∈ items) ∧ P s
  have turn : ∀ x rest s, I (x :: rest) s → ∃ s', f s x = .ok s' ∧ I rest s' := by
    intro x rest s ⟨some_of, holds⟩
    obtain ⟨s', returned, holds⟩ := step x (some_of x List.mem_cons_self) s holds
    exact ⟨s', returned, fun y among => some_of y (List.mem_cons_of_mem _ among), holds⟩
  obtain ⟨s', returned, -, holds⟩ := foldlM_holds (I := I) turn ⟨fun _ among => among, start⟩
  exact ⟨s', returned, holds⟩

theorem map_eq_ok_iff {f : α → σ} {x : Except ε α} {s : σ} :
    f <$> x = .ok s ↔ ∃ a, x = .ok a ∧ f a = s := by
  cases x with
  | error e => exact iff_of_false (by rintro ⟨⟩) (by rintro ⟨_, ⟨⟩, _⟩)
  | ok a =>
      constructor
      · intro same
        exact ⟨a, rfl, Except.ok.inj same⟩
      · rintro ⟨_, ⟨⟩, rfl⟩
        rfl

/-- A loop whose body keeps what holds before it whenever it does not raise. -/
theorem foldlM_ok {P : σ → Prop} {f : σ → α → Except ε σ} {items : List α} {s s' : σ}
    (step : ∀ x s s', P s → f s x = .ok s' → P s') (start : P s)
    (returned : items.foldlM f s = .ok s') : P s' := by
  induction items generalizing s with
  | nil => exact Except.ok.inj returned ▸ start
  | cons x rest ih =>
      rw [List.foldlM_cons] at returned
      cases first : f s x with
      | error e =>
          rw [first] at returned
          cases returned
      | ok mid =>
          rw [first] at returned
          exact ih (step x s mid start first) returned

theorem foldlM_ok_of_mem {P : σ → Prop} {f : σ → α → Except ε σ} {items : List α} {s s' : σ}
    (step : ∀ x ∈ items, ∀ s s', P s → f s x = .ok s' → P s') (start : P s)
    (returned : items.foldlM f s = .ok s') : P s' := by
  induction items generalizing s with
  | nil => exact Except.ok.inj returned ▸ start
  | cons x rest ih =>
      rw [List.foldlM_cons] at returned
      cases first : f s x with
      | error e =>
          rw [first] at returned
          cases returned
      | ok mid =>
          rw [first] at returned
          exact ih (fun y among => step y (List.mem_cons_of_mem x among))
            (step x List.mem_cons_self s mid start first) returned

/-- A loop that checks each item and puts it into one of two lists. -/
theorem foldlM_partition {β γ : Type} {check : α → Except ε Unit} {p : α → Prop} [DecidablePred p]
    {f : α → β} {g : α → γ} {items : List α} (checked : ∀ x ∈ items, check x = .ok ()) :
    items.foldlM (fun (kept, gone) x => do
      check x
      if p x then pure (kept, gone ++ [g x]) else pure (kept ++ [f x], gone)) ([], []) =
    (.ok ((items.filter fun x => ¬p x).map f, (items.filter fun x => p x).map g) :
      Except ε (List β × List γ)) := by
  have general : ∀ (rest : List α) (kept : List β) (gone : List γ),
      (∀ x ∈ rest, check x = .ok ()) →
      rest.foldlM (fun (kept, gone) x => do
        check x
        if p x then pure (kept, gone ++ [g x]) else pure (kept ++ [f x], gone)) (kept, gone) =
      (.ok (kept ++ (rest.filter fun x => ¬p x).map f, gone ++ (rest.filter fun x => p x).map g) :
        Except ε (List β × List γ)) := by
    intro rest
    induction rest with
    | nil =>
        intro kept gone _
        simp only [List.filter_nil, List.map_nil, List.append_nil, List.foldlM_nil]
        rfl
    | cons x rest ih =>
        intro kept gone checked
        have later := fun kept gone =>
          ih kept gone fun y among => checked y (List.mem_cons_of_mem _ among)
        rw [List.foldlM_cons, checked x List.mem_cons_self]
        dsimp only [bind, Except.bind]
        by_cases holds : p x
        case pos =>
          rw [if_pos holds]
          refine (later kept (gone ++ [g x])).trans ?_
          simp [holds]
        case neg =>
          rw [if_neg holds]
          refine (later (kept ++ [f x]) gone).trans ?_
          simp [holds]
  exact general items [] [] checked

theorem checked_of_foldlM_partition {β γ : Type} {check : α → Except ε Unit} {p : α → Prop}
    [DecidablePred p] {f : α → β} {g : α → γ} {items : List α} {start r : List β × List γ}
    (h : items.foldlM (fun (kept, gone) x => do
      check x
      if p x then pure (kept, gone ++ [g x]) else pure (kept ++ [f x], gone)) start = .ok r) :
    ∀ x ∈ items, check x = .ok () := by
  induction items generalizing start with
  | nil => exact fun x among => absurd among List.not_mem_nil
  | cons x rest ih =>
      rw [List.foldlM_cons] at h
      dsimp only [bind, Except.bind] at h
      cases first : check x with
      | error e =>
          rw [first] at h
          cases h
      | ok unit =>
          rw [first] at h
          intro y among
          cases List.mem_cons.mp among with
          | inl same => exact same ▸ first
          | inr later =>
              by_cases holds : p x
              case pos =>
                rw [if_pos holds] at h
                exact ih h y later
              case neg =>
                rw [if_neg holds] at h
                exact ih h y later

/-- A comprehension whose body never raises, item by item. -/
theorem mapM_related {β : Type} {P : α → β → Prop} {f : α → Except ε β} {items : List α}
    (each : ∀ x ∈ items, ∃ y, f x = .ok y ∧ P x y) :
    ∃ ys, items.mapM f = .ok ys ∧ List.Forall₂ P items ys := by
  induction items with
  | nil => exact ⟨[], rfl, .nil⟩
  | cons x rest ih =>
      obtain ⟨y, first, holds⟩ := each x List.mem_cons_self
      obtain ⟨ys, later, all⟩ := ih fun z among => each z (List.mem_cons_of_mem _ among)
      refine ⟨y :: ys, ?_, .cons holds all⟩
      rw [List.mapM_cons, first, later]
      rfl

theorem mem_of_mapM_ok {β : Type} {f : α → Except ε β} {items : List α} {ys : List β} {y : β}
    (returned : items.mapM f = .ok ys) (among : y ∈ ys) : ∃ x ∈ items, f x = .ok y := by
  induction items generalizing ys with
  | nil =>
      obtain rfl : ys = [] := (Except.ok.inj returned).symm
      cases among
  | cons x rest ih =>
      rw [List.mapM_cons] at returned
      cases first : f x with
      | error e =>
          rw [first] at returned
          cases returned
      | ok z =>
          cases later : rest.mapM f with
          | error e =>
              rw [first, later] at returned
              cases returned
          | ok zs =>
              rw [first, later] at returned
              obtain rfl : ys = z :: zs := (Except.ok.inj returned).symm
              cases List.mem_cons.mp among with
              | inl same => exact ⟨x, List.mem_cons_self, same ▸ first⟩
              | inr inside =>
                  obtain ⟨w, listed, found⟩ := ih later inside
                  exact ⟨w, List.mem_cons_of_mem x listed, found⟩

theorem mem_of_related {β : Type} {P : α → β → Prop} {xs : List α} {ys : List β} {y : β}
    (related : List.Forall₂ P xs ys) (among : y ∈ ys) : ∃ x ∈ xs, P x y := by
  induction related with
  | nil => cases among
  | cons first _ ih =>
      cases List.mem_cons.mp among with
      | inl same => exact ⟨_, List.mem_cons_self, same ▸ first⟩
      | inr later =>
          obtain ⟨x, inside, holds⟩ := ih later
          exact ⟨x, List.mem_cons_of_mem _ inside, holds⟩

/-- A comprehension whose body never raises. -/
theorem mapM_holds {β : Type} {P : α → β → Prop} {f : α → Except ε β} {items : List α}
    (each : ∀ x ∈ items, ∃ y, f x = .ok y ∧ P x y) :
    ∃ ys, items.mapM f = .ok ys ∧ ∀ y ∈ ys, ∃ x ∈ items, P x y := by
  induction items with
  | nil => exact ⟨[], rfl, fun y among => absurd among List.not_mem_nil⟩
  | cons x rest ih =>
      obtain ⟨y, first, holds⟩ := each x List.mem_cons_self
      obtain ⟨ys, later, all⟩ := ih fun z among => each z (List.mem_cons_of_mem _ among)
      refine ⟨y :: ys, ?_, ?_⟩
      · rw [List.mapM_cons, first, later]
        rfl
      · intro z among
        cases List.mem_cons.mp among with
        | inl same => exact ⟨x, List.mem_cons_self, same ▸ holds⟩
        | inr among =>
            obtain ⟨x', inside, holds⟩ := all z among
            exact ⟨x', List.mem_cons_of_mem _ inside, holds⟩

end

namespace Dict

variable {K V α : Type*} [DecidableEq K]

/-! ## Comprehensions -/

/-- `{key(x): value(x) for x in items}` -/
theorem foldl_set_eq_map (key : α → K) (value : α → V) {items : List α}
    (distinct : (items.map key).Nodup) :
    items.foldl (fun d x => set d (key x) (value x)) [] =
      items.map fun x => (key x, value x) := by
  have general : ∀ (before : Dict K V), (∀ x ∈ items, key x ∉ before.map Prod.fst) →
      items.foldl (fun d x => set d (key x) (value x)) before =
        before ++ items.map fun x => (key x, value x) := by
    induction items with
    | nil =>
        intro before _
        exact (List.append_nil before).symm
    | cons x rest ih =>
        obtain ⟨first, rest_distinct⟩ := List.nodup_cons.mp distinct
        intro before fresh
        have absent : get? before (key x) = none := by
          cases there : get? before (key x) with
          | none => rfl
          | some v =>
              have among := List.mem_map_of_mem (f := Prod.fst) (mem_of_get? there)
              exact absurd among (fresh x List.mem_cons_self)
        rw [List.foldl_cons, set_of_absent absent, ih rest_distinct, List.append_assoc]
        · rfl
        · intro y later
          rw [List.map_append, List.mem_append]
          intro among
          cases among with
          | inl before => exact fresh y (List.mem_cons_of_mem _ later) before
          | inr same =>
              have same : key y = key x := List.mem_singleton.mp same
              have among : key y ∈ rest.map key := List.mem_map_of_mem later
              exact first (same ▸ among)
  exact general [] (fun _ _ => List.not_mem_nil)

/-! ## Totals -/

variable {d : Dict K V} {k k' : K} {v old : V}

/-- The total of a number over the values. -/
def total (f : V → Int) (d : Dict K V) : Int := (d.map fun e => f e.2).sum

theorem keys_set_of_get? (there : d.get? k = some old) :
    (d.set k v).map Prod.fst = d.map Prod.fst := by
  induction d with
  | nil => cases there
  | cons e d ih =>
      rw [get?_cons] at there
      unfold set
      split
      case isTrue same => rw [List.map_cons, List.map_cons, same]
      case isFalse other =>
        rw [if_neg other] at there
        rw [List.map_cons, List.map_cons, ih there]

theorem total_set_of_get? (f : V → Int) (there : d.get? k = some old) :
    (d.set k v).total f = d.total f - f old + f v := by
  induction d with
  | nil => cases there
  | cons e d ih =>
      rw [get?_cons] at there
      unfold set total
      split
      case isTrue same =>
        rw [if_pos same] at there
        obtain rfl := Option.some.inj there
        simp only [List.map_cons, List.sum_cons]
        omega
      case isFalse other =>
        rw [if_neg other] at there
        have rest := ih there
        unfold total at rest
        simp only [List.map_cons, List.sum_cons, rest]
        omega

theorem get?_of_mem_keys (there : k ∈ d.map Prod.fst) : ∃ v, d.get? k = some v := by
  obtain ⟨e, among, rfl⟩ := List.mem_map.mp there
  exact Option.isSome_iff_exists.mp (isSome_get?_of_mem among)

end Dict

end FleetRMW.Lib
