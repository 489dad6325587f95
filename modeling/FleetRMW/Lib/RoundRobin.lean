import FleetRMW.Lib.Index

/-! # Queues that take turns

Every key has a queue, and the keys whose queues are not empty stand in the order of their turns.
The first key's first task is taken, and the key goes to the end if it has more. So nobody waits
for more than one task of each other key.
-/

namespace FleetRMW.Lib

structure RoundRobin (κ τ : Type*) where
  queues : Dict κ (List τ) := []
  order : List κ := []
  size : Nat := 0
  deriving Repr, DecidableEq

namespace RoundRobin

variable {κ τ : Type*} [DecidableEq κ]

/-- Tasks behind those of the key. A key without a queue gets one, and the last turn. -/
def push (r : RoundRobin κ τ) (k : κ) (tasks : List τ) : RoundRobin κ τ :=
  match r.queues.get? k with
  | none =>
      { queues := r.queues.set k tasks
        order := r.order ++ [k]
        size := r.size + tasks.length }
  | some queued =>
      { r with
        queues := r.queues.set k (queued ++ tasks)
        size := r.size + tasks.length }

/-- The first task of the key whose turn it is. A key without a task loses its turn. -/
def pop (r : RoundRobin κ τ) : RoundRobin κ τ × Option (κ × τ) :=
  match r.order with
  | [] => (r, none)
  | k :: order =>
      match r.queues.get? k with
      | none | some [] => ({ r with order }, none)
      | some [task] =>
          ({ queues := r.queues.erase k, order, size := r.size - 1 }, some (k, task))
      | some (task :: next :: rest) =>
          ({ queues := r.queues.set k (next :: rest), order := order ++ [k], size := r.size - 1 },
            some (k, task))

def queue (r : RoundRobin κ τ) (k : κ) : List τ := (r.queues.get? k).getD []

/-- All tasks that wait. -/
def tasks (r : RoundRobin κ τ) : List τ := r.queues.flatMap Prod.snd

/-- The keys whose turns come before that of `k`. -/
def ahead (r : RoundRobin κ τ) (k : κ) : List κ := r.order.takeWhile fun k' => k' ≠ k

/-- The keys with a task are those that have a turn, each one turn, and the size is the number of
    tasks. -/
structure WellFormed (r : RoundRobin κ τ) : Prop where
  distinct : r.order.Nodup
  keys : (r.queues.map Prod.fst).Nodup
  listed : ∀ k, k ∈ r.order ↔ r.queue k ≠ []
  filled : ∀ k, r.queues.get? k ≠ some []
  size : r.size = r.tasks.length

variable {r : RoundRobin κ τ} {k k' : κ} {added : List τ}

theorem WellFormed.empty : WellFormed ({} : RoundRobin κ τ) where
  distinct := List.nodup_nil
  keys := List.nodup_nil
  listed k := iff_of_false List.not_mem_nil fun some_ => some_ rfl
  filled k := nofun
  size := rfl

/-! ## Adding tasks -/

variable (r k added) in
theorem push_queues : (r.push k added).queues = r.queues.set k (r.queue k ++ added) := by
  unfold push queue
  cases r.queues.get? k with
  | none => rfl
  | some queued => rfl

variable (r k added) in
theorem push_size : (r.push k added).size = r.size + added.length := by
  unfold push
  cases r.queues.get? k with
  | none => rfl
  | some queued => rfl

theorem push_queue : (r.push k added).queue k' =
    if k' = k then r.queue k ++ added else r.queue k' := by
  unfold queue
  rw [push_queues]
  by_cases here : k' = k
  · rw [if_pos here, here, Dict.get?_set_self]
    rfl
  · rw [if_neg here, Dict.get?_set_of_ne here]

variable (added) in
theorem WellFormed.push_order (formed : r.WellFormed) (k : κ) : (r.push k added).order =
    if k ∈ r.order then r.order else r.order ++ [k] := by
  have listed := formed.listed k
  unfold push queue at *
  cases queued : r.queues.get? k with
  | none =>
      rw [queued] at listed
      rw [if_neg (by simpa using listed)]
  | some queued_ =>
      have filled := formed.filled k
      rw [queued] at listed filled
      rw [if_pos (listed.mpr fun none => filled (congrArg some none))]

variable (r k added) in
theorem push_tasks : (r.push k added).tasks.Perm (r.tasks ++ added) := by
  unfold tasks
  rw [push_queues]
  unfold queue
  induction r.queues with
  | nil => simp [Dict.set]
  | cons e queues ih =>
      by_cases here : e.1 = k
      · rw [Dict.get?_cons, if_pos here, Option.getD_some, Dict.set, if_pos here,
          List.flatMap_cons, List.flatMap_cons, List.append_assoc, List.append_assoc]
        exact List.perm_append_comm.append_left _
      · rw [Dict.get?_cons, if_neg here, Dict.set, if_neg here, List.flatMap_cons,
          List.flatMap_cons, List.append_assoc]
        exact ih.append_left _

theorem WellFormed.push (formed : r.WellFormed) (some_ : added ≠ []) :
    (r.push k added).WellFormed where
  distinct := by
    rw [formed.push_order]
    split
    case isTrue => exact formed.distinct
    case isFalse absent =>
      apply List.nodup_append.mpr ⟨formed.distinct, List.nodup_singleton k, ?_⟩
      intro a among b isK same
      exact absent (List.mem_singleton.mp isK ▸ same ▸ among)
  keys := by
    rw [push_queues]
    exact Dict.nodup_keys_set formed.keys
  listed k' := by
    rw [formed.push_order, push_queue]
    by_cases here : k' = k
    · have nonempty : r.queue k ++ added ≠ [] := List.append_ne_nil_of_right_ne_nil _ some_
      rw [if_pos here, here]
      refine iff_of_true ?_ nonempty
      split
      case isTrue among => exact among
      case isFalse => exact List.mem_append_right _ (List.mem_singleton.mpr rfl)
    · rw [if_neg here, ← formed.listed k']
      split
      case isTrue => rfl
      case isFalse => simp [here]
  filled k' := by
    rw [push_queues]
    by_cases here : k' = k
    · rw [here, Dict.get?_set_self]
      intro empty
      exact some_ (List.append_eq_nil_iff.mp (Option.some.inj empty)).2
    · rw [Dict.get?_set_of_ne here]
      exact formed.filled k'
  size := by
    rw [push_size, (push_tasks r k added).length_eq, List.length_append, formed.size]

/-! ## Taking a task -/

/-- What taking a task does. -/
structure Pops (r : RoundRobin κ τ) (k : κ) (task : τ) (r' : RoundRobin κ τ) : Prop where
  pop_eq : r.pop = (r', some (k, task))
  formed : r'.WellFormed
  queue_self : r.queue k = task :: r'.queue k
  queue_of_ne : ∀ k', k' ≠ k → r'.queue k' = r.queue k'
  tasks : r.tasks.Perm (task :: r'.tasks)
  order : ∃ rest, r.order = k :: rest ∧ (r'.order = rest ∨ r'.order = rest ++ [k])

theorem WellFormed.tasks_perm (formed : r.WellFormed) (k : κ) :
    r.tasks.Perm (r.queue k ++ (r.queues.erase k).flatMap Prod.snd) :=
  Dict.flatMap_erase_perm formed.keys

theorem WellFormed.size_pos_iff (formed : r.WellFormed) : 0 < r.size ↔ r.order ≠ [] := by
  rw [formed.size]
  constructor
  · intro waiting noTurn
    cases queues : r.queues with
    | nil =>
        rw [tasks, queues] at waiting
        exact absurd waiting (Nat.lt_irrefl 0)
    | cons e queues' =>
        have found : r.queues.get? e.1 = some e.2 := by rw [queues, Dict.get?_cons, if_pos rfl]
        have empty : r.queue e.1 = [] := by
          by_contra some_
          have turn := (formed.listed e.1).mpr some_
          rw [noTurn] at turn
          cases turn
        rw [queue, found, Option.getD_some] at empty
        exact formed.filled e.1 (found.trans (congrArg some empty))
  · intro turns
    obtain ⟨k, rest, order⟩ := List.exists_cons_of_ne_nil turns
    have some_ := (formed.listed k).mp (order ▸ List.mem_cons_self)
    have positive := List.length_pos_iff.mpr some_
    rw [(formed.tasks_perm k).length_eq, List.length_append]
    omega

/-- While tasks wait, one of them is taken. -/
theorem WellFormed.exists_pops (formed : r.WellFormed) (waiting : 0 < r.size) :
    ∃ k task r', Pops r k task r' := by
  obtain ⟨k, rest, order⟩ := List.exists_cons_of_ne_nil (formed.size_pos_iff.mp waiting)
  obtain ⟨absent, distinct⟩ := List.nodup_cons.mp (order ▸ formed.distinct)
  have some_ := (formed.listed k).mp (order ▸ List.mem_cons_self)
  have turns (k' : κ) (other : k' ≠ k) : k' ∈ rest ↔ r.queue k' ≠ [] := by
    rw [← formed.listed k', order, List.mem_cons]
    exact ⟨.inr, fun among => among.resolve_left other⟩
  have perm := formed.tasks_perm k
  cases found : r.queues.get? k with
  | none =>
      rw [queue, found] at some_
      exact absurd rfl some_
  | some queued =>
      have isQueue : r.queue k = queued := by rw [queue, found, Option.getD_some]
      rw [isQueue] at some_ perm
      obtain ⟨task, later, rfl⟩ := List.exists_cons_of_ne_nil some_
      cases later with
      | nil =>
          -- the key has no more tasks
          refine ⟨k, task, ⟨r.queues.erase k, rest, r.size - 1⟩, ?_⟩
          have erased (k' : κ) : (⟨r.queues.erase k, rest, r.size - 1⟩ : RoundRobin κ τ).queue k' =
              if k' = k then [] else r.queue k' := by
            rw [queue, Dict.get?_erase]
            split
            · rfl
            · rfl
          constructor
          · rw [pop, order]
            dsimp only
            rw [found]
          · constructor
            · exact distinct
            · exact formed.keys.sublist (List.filter_sublist.map _)
            · intro k'
              rw [erased]
              by_cases here : k' = k
              · rw [if_pos here, here]
                exact iff_of_false absent fun none => none rfl
              · rw [if_neg here]
                exact turns k' here
            · intro k'
              rw [Dict.get?_erase]
              split
              · intro none_
                cases none_
              · exact formed.filled k'
            · rw [formed.size, perm.length_eq]
              rfl
          · rw [isQueue, erased, if_pos rfl]
          · intro k' other
            rw [erased, if_neg other]
          · exact perm
          · exact ⟨rest, order, .inl rfl⟩
      | cons next later =>
          refine ⟨k, task, ⟨r.queues.set k (next :: later), rest ++ [k], r.size - 1⟩, ?_⟩
          have kept (k' : κ) : (⟨r.queues.set k (next :: later), rest ++ [k], r.size - 1⟩ :
              RoundRobin κ τ).queue k' = if k' = k then next :: later else r.queue k' := by
            rw [queue]
            by_cases here : k' = k
            · rw [if_pos here, here, Dict.get?_set_self, Option.getD_some]
            · rw [if_neg here, Dict.get?_set_of_ne here, queue]
          have tasks_ : r.tasks.Perm
              (task :: (r.queues.set k (next :: later)).flatMap Prod.snd) := by
            have others := (Dict.set_perm (v := next :: later) (k := k) formed.keys).flatMap_right
              Prod.snd
            exact perm.trans (others.symm.cons task)
          constructor
          · rw [pop, order]
            dsimp only
            rw [found]
          · constructor
            · apply List.nodup_append.mpr ⟨distinct, List.nodup_singleton k, ?_⟩
              intro a among b isK same
              exact absent (List.mem_singleton.mp isK ▸ same ▸ among)
            · exact Dict.nodup_keys_set formed.keys
            · intro k'
              rw [kept, List.mem_append, List.mem_singleton]
              by_cases here : k' = k
              · rw [if_pos here]
                exact iff_of_true (.inr here) (List.cons_ne_nil _ _)
              · rw [if_neg here, ← turns k' here]
                exact ⟨fun among => among.resolve_right here, .inl⟩
            · intro k'
              by_cases here : k' = k
              · rw [here, Dict.get?_set_self]
                intro same
                cases same
              · rw [Dict.get?_set_of_ne here]
                exact formed.filled k'
            · rw [formed.size, tasks_.length_eq]
              rfl
          · rw [isQueue, kept, if_pos rfl]
          · intro k' other
            rw [kept, if_neg other]
          · exact tasks_
          · exact ⟨rest, order, .inr rfl⟩

theorem Pops.size {r' : RoundRobin κ τ} {task : τ} (pops : Pops r k task r')
    (formed : r.WellFormed) : r.size = r'.size + 1 := by
  rw [formed.size, pops.formed.size, pops.tasks.length_eq, List.length_cons]

/-! ## Turns -/

theorem takeWhile_ne_append {l l' : List κ} (among : k ∈ l) :
    (l ++ l').takeWhile (fun k' => k' ≠ k) = l.takeWhile fun k' => k' ≠ k := by
  induction l with
  | nil => cases among
  | cons x l ih =>
      by_cases here : x = k
      · simp [here]
      · have later := (List.mem_cons.mp among).resolve_left (Ne.symm here)
        simp only [List.cons_append, List.takeWhile_cons, ne_eq, here, not_false_eq_true,
          decide_true, if_true]
        exact congrArg (x :: ·) (ih later)

/-- Each key is ahead once. -/
theorem WellFormed.ahead_nodup (formed : r.WellFormed) (k : κ) : (r.ahead k).Nodup :=
  formed.distinct.sublist (List.takeWhile_sublist _)

/-- New tasks do not get ahead. -/
theorem WellFormed.ahead_push (formed : r.WellFormed) (waiting : r.queue k ≠ []) :
    (r.push k' added).ahead k = r.ahead k := by
  unfold ahead
  rw [formed.push_order]
  split
  case isTrue => rfl
  case isFalse => exact takeWhile_ne_append ((formed.listed k).mpr waiting)

/-- A key that is served was the first one ahead, and is ahead no more. -/
theorem Pops.ahead_eq {r' : RoundRobin κ τ} {task : τ} (pops : Pops r k' task r')
    (formed : r.WellFormed) (waiting : r.queue k ≠ []) (other : k' ≠ k) :
    r.ahead k = k' :: r'.ahead k := by
  obtain ⟨rest, order, next⟩ := pops.order
  have turn := (formed.listed k).mpr waiting
  rw [order] at turn
  have later := (List.mem_cons.mp turn).resolve_left (Ne.symm other)
  have rest_eq : r'.ahead k = rest.takeWhile fun k'' => k'' ≠ k := by
    unfold ahead
    rcases next with gone | again
    · rw [gone]
    · rw [again, takeWhile_ne_append later]
  rw [rest_eq, ahead, order, List.takeWhile_cons]
  simp only [ne_eq, other, not_false_eq_true, decide_true, if_true]

end RoundRobin

end FleetRMW.Lib
