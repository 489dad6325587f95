import FleetRMW.Lib.Thinning
import FleetRMW.Repair.Scheduler
import Mathlib.Tactic.Linarith
import Mathlib.Tactic.NormNum

/-! # The repair schedule is the best one

The states of the dynamic program stand for choices of options, and the ones that are merged or
pruned are dominated by others. The state that is selected in the end is therefore a best choice
within the capacity and the limit.
-/

namespace FleetRMW.Repair

open Lib

abbrev State := StateKey × StateValue

/-! ## Keeping and pruning states -/

section
variable {states next : List State} {s : State}

/-- As many repairs, for no more bytes, of no less utility. -/
structure Covers (better worse : State) : Prop where
  admitted : better.1.2 = worse.1.2
  used : better.1.1 ≤ worse.1.1
  utility : worse.2.1 ≤ better.2.1

theorem Covers.refl (s : State) : Covers s s := ⟨rfl, Int.le_refl _, le_refl _⟩

theorem Covers.trans {s s' s'' : State} (h : Covers s s') (h' : Covers s' s'') : Covers s s'' :=
  ⟨h.admitted.trans h'.admitted, Int.le_trans h.used h'.used, le_trans h'.utility h.utility⟩

theorem utility_le_of_lt {x y : StateValue} (less : x.lt y) : x.1 ≤ y.1 := by
  have less : toLex x < toLex y := of_decide_eq_true less
  rw [Prod.Lex.toLex_lt_toLex] at less
  rcases less with less | ⟨same, -⟩
  · exact le_of_lt less
  · exact le_of_eq same

theorem utility_le_of_not_lt {x y : StateValue} (less : ¬x.lt y) : y.1 ≤ x.1 := by
  by_contra more
  apply less
  apply decide_eq_true
  rw [Prod.Lex.toLex_lt_toLex]
  exact .inl (not_le.mp more)

theorem mem_keepState (h : s ∈ keepState states key value) : s ∈ states ∨ s = (key, value) := by
  induction states with
  | nil => exact .inr (List.mem_singleton.mp h)
  | cons x states ih =>
      unfold keepState at h
      split at h
      · cases List.mem_cons.mp h with
        | inl first =>
            split at first
            · exact .inr first
            · exact .inl (first ▸ List.mem_cons_self)
        | inr later => exact .inl (List.mem_cons_of_mem _ later)
      · cases List.mem_cons.mp h with
        | inl first => exact .inl (first ▸ List.mem_cons_self)
        | inr later => exact (ih later).imp_left (List.mem_cons_of_mem _)

/-- A state that was there, or that was to be kept, is covered. -/
theorem keepState_covers (key : StateKey) (value : StateValue)
    (h : s ∈ states ∨ s = (key, value)) : ∃ s' ∈ keepState states key value, Covers s' s := by
  induction states with
  | nil =>
      rcases h with absent | rfl
      · cases absent
      · exact ⟨_, List.mem_cons_self, .refl _⟩
  | cons x states ih =>
      obtain ⟨k, current⟩ := x
      unfold keepState
      split
      case isTrue here =>
        subst here
        split
        case isTrue less =>
          rcases h with among | rfl
          · cases List.mem_cons.mp among with
            | inl first =>
                rw [first]
                exact ⟨_, List.mem_cons_self, rfl, Int.le_refl _, utility_le_of_lt less⟩
            | inr later => exact ⟨s, List.mem_cons_of_mem _ later, .refl s⟩
          · exact ⟨_, List.mem_cons_self, .refl _⟩
        case isFalse less =>
          rcases h with among | rfl
          · exact ⟨s, among, .refl s⟩
          · exact ⟨_, List.mem_cons_self, rfl, Int.le_refl _, utility_le_of_not_lt less⟩
      case isFalse =>
        rcases h with among | same
        · cases List.mem_cons.mp among with
          | inl first => exact ⟨_, List.mem_cons_self, first ▸ .refl _⟩
          | inr later =>
              obtain ⟨s', isKept, covers⟩ := ih (.inl later)
              exact ⟨s', List.mem_cons_of_mem _ isKept, covers⟩
        · obtain ⟨s', isKept, covers⟩ := ih (.inr same)
          exact ⟨s', List.mem_cons_of_mem _ isKept, covers⟩

/-- Keep one state after the other. -/
def keepStates (states new : List State) : List State :=
  new.foldl (fun states s => keepState states s.1 s.2) states

theorem mem_keepStates {new : List State} (h : s ∈ keepStates states new) :
    s ∈ states ∨ s ∈ new := by
  induction new generalizing states with
  | nil => exact .inl h
  | cons x new ih =>
      rcases ih h with before | later
      · cases mem_keepState before with
        | inl old => exact .inl old
        | inr same => exact .inr (same ▸ List.mem_cons_self)
      · exact .inr (List.mem_cons_of_mem _ later)

variable (states) in
theorem keepStates_covers {new : List State} (h : s ∈ states ∨ s ∈ new) :
    ∃ s' ∈ keepStates states new, Covers s' s := by
  induction new generalizing states s with
  | nil =>
      rcases h with before | absent
      · exact ⟨s, before, .refl s⟩
      · cases absent
  | cons x new ih =>
      have first : s ∈ states ∨ s = x → ∃ s' ∈ keepStates states (x :: new), Covers s' s := by
        intro h
        obtain ⟨s', isKept, covers⟩ := keepState_covers x.1 x.2 h
        obtain ⟨s'', isKept', covers'⟩ := ih _ (.inl isKept)
        exact ⟨s'', isKept', covers'.trans covers⟩
      rcases h with before | among
      · exact first (.inl before)
      · cases List.mem_cons.mp among with
        | inl same => exact first (.inr same)
        | inr later => exact ih _ (.inr later)

theorem mem_of_mem_pruneFrom {best : Int → Option Rat} (h : s ∈ pruneFrom best states) :
    s ∈ states := by
  induction states generalizing best with
  | nil => exact h
  | cons x states ih =>
      unfold pruneFrom at h
      split at h
      · exact List.mem_cons_of_mem _ (ih h)
      · cases List.mem_cons.mp h with
        | inl first => exact first ▸ List.mem_cons_self
        | inr later => exact List.mem_cons_of_mem _ (ih later)

/-- What is pruned is covered by a state that was kept before. -/
theorem pruneFrom_covers {best : Int → Option Rat} (kept : List State)
    (sorted : states.Pairwise fun x y => x.1.2 = y.1.2 → x.1.1 ≤ y.1.1)
    (seen : ∀ n b, best n = some b → ∃ k ∈ kept, k.1.2 = n ∧ b ≤ k.2.1 ∧
      ∀ x ∈ states, x.1.2 = n → k.1.1 ≤ x.1.1) (h : s ∈ states) :
    ∃ s' ∈ kept ++ pruneFrom best states, Covers s' s := by
  induction states generalizing best kept with
  | nil => cases h
  | cons x states ih =>
      obtain ⟨key, value⟩ := x
      obtain ⟨first, rest_sorted⟩ := List.pairwise_cons.mp sorted
      have seen_later : ∀ n b, best n = some b → ∃ k ∈ kept, k.1.2 = n ∧ b ≤ k.2.1 ∧
          ∀ x ∈ states, x.1.2 = n → k.1.1 ≤ x.1.1 := by
        intro n b isBest
        obtain ⟨k, isKept, number, more, least⟩ := seen n b isBest
        exact ⟨k, isKept, number, more, fun x among => least x (List.mem_cons_of_mem _ among)⟩
      unfold pruneFrom
      split
      case isTrue pruned =>
        cases List.mem_cons.mp h with
        | inr later => exact ih kept rest_sorted seen_later later
        | inl same =>
            obtain ⟨b, isBest, less⟩ := (Option.any_eq_true _ _).mp pruned
            have less : value.1 + 1 / 10 ^ 12 < b := of_decide_eq_true less
            obtain ⟨k, isKept, number, more, least⟩ := seen _ b isBest
            refine ⟨k, List.mem_append_left _ isKept, ?_⟩
            rw [same]
            refine ⟨number, least _ List.mem_cons_self rfl, ?_⟩
            have tolerance : (0 : Rat) ≤ 1 / 10 ^ 12 := by norm_num
            dsimp only
            linarith
      case isFalse =>
        have seen_now : ∀ n b,
            Function.update best key.2 (some (max value.1 ((best key.2).getD value.1))) n = some b →
            ∃ k ∈ kept ++ [(key, value)], k.1.2 = n ∧ b ≤ k.2.1 ∧
              ∀ x ∈ states, x.1.2 = n → k.1.1 ≤ x.1.1 := by
          intro n b isBest
          by_cases here : n = key.2
          · rw [here, Function.update_self, Option.some.injEq] at isBest
            have own : b ≤ value.1 → ∃ k ∈ kept ++ [(key, value)], k.1.2 = n ∧ b ≤ k.2.1 ∧
                ∀ x ∈ states, x.1.2 = n → k.1.1 ≤ x.1.1 := by
              intro most
              refine ⟨(key, value), List.mem_append_right _ (List.mem_singleton_self _), here.symm,
                most, ?_⟩
              intro x among number
              exact first x among (here.symm.trans number.symm)
            cases before : best key.2 with
            | none =>
                rw [before, Option.getD_none, max_self] at isBest
                exact own isBest.ge
            | some b₀ =>
                rw [before, Option.getD_some] at isBest
                rcases le_total b₀ value.1 with less | more
                · rw [max_eq_left less] at isBest
                  exact own isBest.ge
                · rw [max_eq_right more] at isBest
                  obtain ⟨k, isKept, rest⟩ := seen_later _ b₀ before
                  rw [here, ← isBest]
                  exact ⟨k, List.mem_append_left _ isKept, rest⟩
          · rw [Function.update_of_ne here] at isBest
            obtain ⟨k, isKept, rest⟩ := seen_later n b isBest
            exact ⟨k, List.mem_append_left _ isKept, rest⟩
        cases List.mem_cons.mp h with
        | inl same =>
            exact ⟨s, List.mem_append_right _ (same ▸ List.mem_cons_self), .refl s⟩
        | inr later =>
            obtain ⟨s', isKept, covers⟩ := ih _ rest_sorted seen_now later
            rw [List.append_assoc, List.singleton_append] at isKept
            exact ⟨s', isKept, covers⟩

theorem mem_of_mem_paretoPrune (h : s ∈ paretoPrune states) : s ∈ states :=
  (List.perm_insertionSort _ _).subset (mem_of_mem_pruneFrom h)

theorem paretoPrune_covers (h : s ∈ states) : ∃ s' ∈ paretoPrune states, Covers s' s := by
  have sorted := List.pairwise_insertionSort
    (fun x y : State => toLex (x.1.2, x.1.1) ≤ toLex (y.1.2, y.1.1)) states
  have sorted : (states.insertionSort fun x y => toLex (x.1.2, x.1.1) ≤ toLex (y.1.2, y.1.1)).Pairwise
      fun x y => x.1.2 = y.1.2 → x.1.1 ≤ y.1.1 := by
    refine sorted.imp ?_
    intro x y before same
    rw [Prod.Lex.toLex_le_toLex] at before
    rcases before with less | ⟨-, least⟩
    · exact absurd same (ne_of_lt less)
    · exact least
  exact pruneFrom_covers [] sorted nofun ((List.perm_insertionSort _ _).symm.subset h)

theorem bestState_spec {best : State} (h : bestState states = some best) :
    best ∈ states ∧ ∀ s ∈ states, s.2.1 ≤ best.2.1 := by
  have chosen : ∀ (rest : List State) (first : State),
      let b := rest.foldl (fun best s => if rank best < rank s then s else best) first
      b ∈ first :: rest ∧ ∀ s ∈ first :: rest, s.2.1 ≤ b.2.1 := by
    intro rest
    induction rest with
    | nil =>
        intro first
        refine ⟨List.mem_cons_self, ?_⟩
        intro s among
        rw [List.mem_singleton.mp among]
        exact le_refl _
    | cons x rest ih =>
        intro first
        dsimp only
        rw [List.foldl_cons]
        split
        case isTrue less =>
          have utility : first.2.1 ≤ x.2.1 := by
            rw [rank, rank, Prod.Lex.toLex_lt_toLex] at less
            rcases less with less | ⟨same, -⟩
            · exact le_of_lt less
            · exact le_of_eq same
          obtain ⟨among, most⟩ := ih x
          refine ⟨List.mem_cons_of_mem _ among, ?_⟩
          intro s inside
          cases List.mem_cons.mp inside with
          | inl same => exact same ▸ le_trans utility (most x List.mem_cons_self)
          | inr later => exact most s later
        case isFalse less =>
          have utility : x.2.1 ≤ first.2.1 := by
            rw [rank, rank, Prod.Lex.toLex_lt_toLex, not_or, not_lt] at less
            exact less.1
          obtain ⟨among, most⟩ := ih first
          refine ⟨?_, ?_⟩
          · cases List.mem_cons.mp among with
            | inl same =>
                rw [same]
                exact List.mem_cons_self
            | inr later => exact List.mem_cons_of_mem _ (List.mem_cons_of_mem _ later)
          · intro s inside
            cases List.mem_cons.mp inside with
            | inl same => exact same ▸ most first List.mem_cons_self
            | inr inside =>
                cases List.mem_cons.mp inside with
                | inl same => exact same ▸ le_trans utility (most first List.mem_cons_self)
                | inr later => exact most s (List.mem_cons_of_mem _ later)
  cases states with
  | nil => cases h
  | cons first rest =>
      cases Option.some.inj h
      exact chosen rest first

end

/-! ## What the states stand for -/

/-- The option that an index selects, where -1 selects none. -/
def pick (group : List RepairOption) (index : Int) : Option RepairOption :=
  if index < 0 then none else group[index.toNat]?

def choiceOf (groups : List (List RepairOption)) (selected : List Int) :
    List (Option RepairOption) :=
  List.zipWith pick groups selected

/-- A state has the totals of the choice that it selects. -/
structure Stands (groups : List (List RepairOption)) (s : State) : Prop where
  length : s.2.2.length = groups.length
  used : s.1.1 = Choice.totalCost RepairOption.cost (choiceOf groups s.2.2)
  admitted : s.1.2 = Choice.count (choiceOf groups s.2.2)
  utility : s.2.1 = Choice.totalValue RepairOption.utility (choiceOf groups s.2.2)

section
variable {groups : List (List RepairOption)} {group : List RepairOption} {states : List State}
  {s s' : State}

theorem choiceOf_concat {selected : List Int} (length : selected.length = groups.length)
    (index : Int) :
    choiceOf (groups ++ [group]) (selected ++ [index]) =
      choiceOf groups selected ++ [pick group index] :=
  List.zipWith_append length.symm

theorem Stands.dominates (h : Stands groups s) (h' : Stands groups s') (covers : Covers s' s) :
    Choice.Dominates RepairOption.cost RepairOption.utility (choiceOf groups s'.2.2)
      (choiceOf groups s.2.2) where
  count := by rw [← h.admitted, ← h'.admitted, covers.admitted]
  cost := by
    rw [← h.used, ← h'.used]
    exact covers.used
  value := by
    rw [← h.utility, ← h'.utility]
    exact covers.utility

/-- The choices that some states select. -/
def choices (groups : List (List RepairOption)) (states : List State) :
    Set (List (Option RepairOption)) :=
  fun c => ∃ s ∈ states, c = choiceOf groups s.2.2

/-- The states after some groups: they stand for choices, and for the best ones. -/
structure Searched (config : FleetRepairSchedulerConfig) (groups : List (List RepairOption))
    (states : List State) : Prop where
  nonempty : ∃ s, s ∈ states
  stands : ∀ s ∈ states, Stands groups s
  frontier : Choice.Frontier RepairOption.cost RepairOption.utility config.capacityBytes
    config.maxAdmittedRepairs groups (choices groups states)
  used : ∀ s ∈ states, s.1.1 ≤ config.capacityBytes
  admitted : ∀ s ∈ states, ∀ limit ∈ config.maxAdmittedRepairs, s.1.2 ≤ max 0 limit

variable {config : FleetRepairSchedulerConfig}

/-- The states that follow on one. -/
def extensions (config : FleetRepairSchedulerConfig) (group : List RepairOption) (s : State) :
    List State :=
  ((s.1.1, s.1.2), (s.2.1, s.2.2 ++ [-1])) :: group.zipIdx.filterMap fun (o, index) =>
    if s.1.1 + o.cost > config.capacityBytes then none
    else if config.maxAdmittedRepairs.any fun limit => s.1.2 + 1 > limit then none
    else some ((s.1.1 + o.cost, s.1.2 + 1), (s.2.1 + o.utility, s.2.2 ++ [(index : Int)]))

theorem extendState_eq (next : List State) :
    config.extendState group next s = keepStates next (extensions config group s) := by
  unfold FleetRepairSchedulerConfig.extendState keepStates extensions
  rw [List.foldl_cons, List.foldl_filterMap]
  dsimp only
  congr 1
  funext next x
  split
  · rfl
  split
  · rfl
  · rfl

/-- A state that follows on one selects one option more, or none. -/
theorem mem_extensions_iff :
    s' ∈ extensions config group s ↔
      s' = ((s.1.1, s.1.2), (s.2.1, s.2.2 ++ [-1])) ∨
      ∃ o, ∃ index : Nat, group[index]? = some o ∧ s.1.1 + o.cost ≤ config.capacityBytes ∧
        (∀ limit ∈ config.maxAdmittedRepairs, s.1.2 + 1 ≤ limit) ∧
        s' = ((s.1.1 + o.cost, s.1.2 + 1), (s.2.1 + o.utility, s.2.2 ++ [(index : Int)])) := by
  unfold extensions
  rw [List.mem_cons, List.mem_filterMap]
  apply or_congr_right
  constructor
  · rintro ⟨⟨o, index⟩, among, chosen⟩
    dsimp only at chosen
    split at chosen
    case isTrue => cases chosen
    case isFalse fits =>
      split at chosen
      case isTrue => cases chosen
      case isFalse few =>
        refine ⟨o, index, List.mem_zipIdx_iff_getElem?.mp among, Int.not_lt.mp fits, ?_,
          (Option.some.inj chosen).symm⟩
        intro limit isLimit
        rw [isLimit, Option.any_some, decide_eq_true_eq] at few
        exact Int.not_lt.mp few
  · rintro ⟨o, index, at_, fits, few, rfl⟩
    refine ⟨(o, index), List.mem_zipIdx_iff_getElem?.mpr at_, ?_⟩
    dsimp only
    rw [if_neg (Int.not_lt.mpr fits), if_neg]
    intro exceeds
    obtain ⟨limit, isLimit, more⟩ := (Option.any_eq_true _ _).mp exceeds
    exact absurd (of_decide_eq_true more) (Int.not_lt.mpr (few limit isLimit))

theorem pick_of_getElem? {index : Nat} {o : RepairOption} (at_ : group[index]? = some o) :
    pick group index = some o := by
  rw [pick, if_neg (Int.not_lt.mpr (Int.natCast_nonneg index)), Int.toNat_natCast, at_]

theorem pick_none : pick group (-1) = none := rfl

/-- The choice of a state that follows on one. -/
theorem choiceOf_extension (h : Stands groups s) (among : s' ∈ extensions config group s) :
    Stands (groups ++ [group]) s' ∧ ∃ o : Option RepairOption, (∀ x ∈ o, x ∈ group) ∧
      choiceOf (groups ++ [group]) s'.2.2 = choiceOf groups s.2.2 ++ [o] := by
  rcases mem_extensions_iff.mp among with rfl | ⟨o, index, at_, -, -, rfl⟩
  · have extended : choiceOf (groups ++ [group]) (s.2.2 ++ [-1]) =
        choiceOf groups s.2.2 ++ [pick group (-1)] := choiceOf_concat h.length (-1)
    rw [pick_none] at extended
    refine ⟨⟨?_, ?_, ?_, ?_⟩, none, nofun, extended⟩
    · rw [List.length_append, List.length_append, h.length]
      rfl
    · rw [extended, Choice.totalCost_concat, ← h.used]
      exact (Int.add_zero _).symm
    · rw [extended, Choice.count_concat, ← h.admitted]
      exact (Int.add_zero _).symm
    · rw [extended, Choice.totalValue_concat, ← h.utility]
      exact (add_zero _).symm
  · have extended : choiceOf (groups ++ [group]) (s.2.2 ++ [(index : Int)]) =
        choiceOf groups s.2.2 ++ [pick group index] := choiceOf_concat h.length index
    rw [pick_of_getElem? at_] at extended
    refine ⟨⟨?_, ?_, ?_, ?_⟩, some o, ?_, extended⟩
    · rw [List.length_append, List.length_append, h.length]
      rfl
    · rw [extended, Choice.totalCost_concat, ← h.used]
      rfl
    · rw [extended, Choice.count_concat, ← h.admitted]
      rfl
    · rw [extended, Choice.totalValue_concat, ← h.utility]
      rfl
    · rintro x ⟨⟩
      exact List.mem_of_getElem? at_

/-- Every option that fits is followed. -/
theorem exists_extension (h : Stands groups s) {o : Option RepairOption}
    (offered : ∀ x ∈ o, x ∈ group)
    (within : Choice.Within RepairOption.cost config.capacityBytes config.maxAdmittedRepairs
      (choiceOf groups s.2.2 ++ [o])) :
    ∃ s' ∈ extensions config group s,
      choiceOf (groups ++ [group]) s'.2.2 = choiceOf groups s.2.2 ++ [o] := by
  cases o with
  | none =>
      refine ⟨_, mem_extensions_iff.mpr (.inl rfl), ?_⟩
      exact (choiceOf_concat h.length (-1)).trans (by rw [pick_none])
  | some x =>
      obtain ⟨index, at_⟩ := List.mem_iff_getElem?.mp (offered x rfl)
      have fits := within.cost
      have few := within.count
      rw [Choice.totalCost_concat, ← h.used] at fits
      rw [Choice.count_concat, ← h.admitted] at few
      refine ⟨_, mem_extensions_iff.mpr (.inr ⟨x, index, at_, fits, few, rfl⟩), ?_⟩
      exact (choiceOf_concat h.length index).trans (by rw [pick_of_getElem? at_])

theorem foldl_extendState_eq (states next : List State) :
    states.foldl (config.extendState group) next =
      keepStates next (states.flatMap (extensions config group)) := by
  unfold keepStates
  rw [List.foldl_flatMap]
  congr 1
  funext next s
  exact extendState_eq next

/-- One more group. -/
theorem Searched.step (h : Searched config groups states) (costs : ∀ o ∈ group, 0 ≤ o.cost) :
    Searched config (groups ++ [group])
      (paretoPrune (states.foldl (config.extendState group) [])) := by
  rw [foldl_extendState_eq]
  have origin : ∀ s' ∈ paretoPrune (keepStates [] (states.flatMap (extensions config group))),
      ∃ s ∈ states, s' ∈ extensions config group s := by
    intro s' isKept
    rcases mem_keepStates (mem_of_mem_paretoPrune isKept) with absent | among
    · cases absent
    · exact List.mem_flatMap.mp among
  have stands : ∀ s' ∈ paretoPrune (keepStates [] (states.flatMap (extensions config group))),
      Stands (groups ++ [group]) s' := by
    intro s' isKept
    obtain ⟨s, among, isNext⟩ := origin s' isKept
    exact (choiceOf_extension (h.stands s among) isNext).1
  refine ⟨?_, stands, ?_, ?_, ?_⟩
  · obtain ⟨s, among⟩ := h.nonempty
    have without : _ ∈ states.flatMap (extensions config group) :=
      List.mem_flatMap.mpr ⟨s, among, mem_extensions_iff.mpr (.inl rfl)⟩
    obtain ⟨kept, isKept, -⟩ := keepStates_covers [] (.inr without)
    obtain ⟨pruned, isPruned, -⟩ := paretoPrune_covers isKept
    exact ⟨pruned, isPruned⟩
  · apply h.frontier.concat costs
    · rintro c ⟨s', isKept, rfl⟩
      obtain ⟨s, among, isNext⟩ := origin s' isKept
      obtain ⟨-, o, offered, extended⟩ := choiceOf_extension (h.stands s among) isNext
      exact ⟨_, ⟨s, among, rfl⟩, o, offered, extended⟩
    · rintro k ⟨s, among, rfl⟩ o offered within
      obtain ⟨s', isNext, extended⟩ := exists_extension (h.stands s among) offered within
      obtain ⟨kept, isKept, covers⟩ := keepStates_covers []
        (.inr (List.mem_flatMap.mpr ⟨s, among, isNext⟩))
      obtain ⟨pruned, isPruned, covers'⟩ := paretoPrune_covers isKept
      have dominates := (choiceOf_extension (h.stands s among) isNext).1.dominates
        (stands pruned isPruned) (covers'.trans covers)
      rw [extended] at dominates
      exact ⟨_, ⟨pruned, isPruned, rfl⟩, dominates⟩
  · intro s' isKept
    obtain ⟨s, among, isNext⟩ := origin s' isKept
    rcases mem_extensions_iff.mp isNext with rfl | ⟨o, index, -, fits, -, rfl⟩
    · exact h.used s among
    · exact fits
  · intro s' isKept limit isLimit
    obtain ⟨s, among, isNext⟩ := origin s' isKept
    rcases mem_extensions_iff.mp isNext with rfl | ⟨o, index, -, -, few, rfl⟩
    · exact h.admitted s among limit isLimit
    · exact le_max_of_le_right (few limit isLimit)

theorem Searched.start (capacity : 0 ≤ config.capacityBytes) :
    Searched config [] [((0, 0), (0, []))] where
  nonempty := ⟨_, List.mem_singleton_self _⟩
  stands := by
    intro s among
    rw [List.mem_singleton.mp among]
    exact ⟨rfl, rfl, rfl, rfl⟩
  frontier := by
    have only : choices [] [((0, 0), (0, []))] = {[]} := by
      ext c
      constructor
      · rintro ⟨s, among, rfl⟩
        rw [List.mem_singleton.mp among]
        rfl
      · rintro rfl
        exact ⟨_, List.mem_singleton_self _, rfl⟩
    rw [only]
    exact .nil
  used := by
    intro s among
    rw [List.mem_singleton.mp among]
    exact capacity
  admitted := by
    intro s among limit _
    rw [List.mem_singleton.mp among]
    exact le_max_left 0 limit

/-- After all groups. -/
theorem finalStates_searched (capacity : 0 ≤ config.capacityBytes)
    (costs : ∀ group ∈ groups, ∀ o ∈ group, 0 ≤ o.cost) :
    Searched config groups (config.finalStates groups) := by
  have general : ∀ (rest before : List (List RepairOption)) (states : List State),
      Searched config before states → (∀ group ∈ rest, ∀ o ∈ group, 0 ≤ o.cost) →
      Searched config (before ++ rest) (rest.foldl (fun states group =>
        paretoPrune (states.foldl (config.extendState group) [])) states) := by
    intro rest
    induction rest with
    | nil =>
        intro before states searched _
        rw [List.append_nil]
        exact searched
    | cons group rest ih =>
        intro before states searched costs
        have next := searched.step (costs group List.mem_cons_self)
        have later := ih (before ++ [group]) _ next
          fun group among => costs group (List.mem_cons_of_mem _ among)
        rw [List.append_assoc, List.singleton_append] at later
        exact later
  exact general groups [] _ (.start capacity) costs

end

/-! ## The schedule -/

/-- `FleetRepairSchedule.admitted` -/
def admitted (decisions : List RepairDecision) : List RepairDecision :=
  decisions.filter fun decision => decision.action = .repair

/-- `FleetRepairSchedule.allocated_bytes` -/
def allocatedBytes (decisions : List RepairDecision) : Int :=
  ((admitted decisions).map RepairDecision.allocatedBytes).sum

def admittedUtility (decisions : List RepairDecision) : Rat :=
  ((admitted decisions).map RepairDecision.utility).sum

/-- The decisions for the selected options. -/
def decisionsOf (demands : List RepairDemand) (groups : List (List RepairOption))
    (selected : List Int) : List RepairDecision :=
  (demands.zip groups).zipWith (fun (demand, options) index => decisionAt demand options index)
    selected

section
variable {demands : List RepairDemand} {groups : List (List RepairOption)} {selected : List Int}
  {demand : RepairDemand} {paths : List RepairPath} {log1p : Rat → Rat}
  {config : FleetRepairSchedulerConfig}

theorem decisionAt_eq (demand : RepairDemand) (options : List RepairOption) (index : Int) :
    decisionAt demand options index =
      (pick options index).elim (deferredDecision demand) (repairDecision demand) := by
  unfold decisionAt pick
  split
  · rfl
  · rfl

/-- A total over the admitted decisions is that over the options that they repair with. -/
theorem sum_admitted {α : Type} [AddMonoid α] {f : RepairDecision → α} {g : RepairOption → α}
    (same : ∀ demand o, f (repairDecision demand o) = g o)
    (length : groups.length = demands.length) (length' : selected.length = groups.length) :
    ((admitted (decisionsOf demands groups selected)).map f).sum =
      ((choiceOf groups selected).map fun o => o.elim 0 g).sum := by
  induction demands generalizing groups selected with
  | nil =>
      obtain rfl := List.eq_nil_of_length_eq_zero length
      rfl
  | cons demand demands ih =>
      obtain ⟨group, groups, rfl⟩ := List.exists_cons_of_length_eq_add_one length
      obtain ⟨index, selected, rfl⟩ := List.exists_cons_of_length_eq_add_one length'
      have rest := ih (Nat.succ.inj length) (Nat.succ.inj length')
      have decisions : decisionsOf (demand :: demands) (group :: groups) (index :: selected) =
        decisionAt demand group index :: decisionsOf demands groups selected := rfl
      have choice : choiceOf (group :: groups) (index :: selected) =
        pick group index :: choiceOf groups selected := rfl
      rw [decisions, choice, decisionAt_eq, List.map_cons, List.sum_cons, ← rest]
      cases pick group index with
      | none =>
          have gone : admitted (deferredDecision demand :: decisionsOf demands groups selected) =
            admitted (decisionsOf demands groups selected) := rfl
          rw [Option.elim_none, gone, Option.elim_none, zero_add]
      | some o =>
          have there : admitted (repairDecision demand o :: decisionsOf demands groups selected) =
            repairDecision demand o :: admitted (decisionsOf demands groups selected) := rfl
          rw [Option.elim_some, there, Option.elim_some, List.map_cons, List.sum_cons, same]

theorem decisionAt_demandId (demand : RepairDemand) (options : List RepairOption) (index : Int) :
    (decisionAt demand options index).demandId = demand.demandId := by
  rw [decisionAt_eq]
  cases pick options index with
  | none => rfl
  | some o => rfl

/-- There is one decision for each demand. -/
theorem decisionsOf_demandId (length : groups.length = demands.length)
    (length' : selected.length = groups.length) :
    (decisionsOf demands groups selected).map RepairDecision.demandId =
      demands.map RepairDemand.demandId := by
  induction demands generalizing groups selected with
  | nil => rfl
  | cons demand demands ih =>
      obtain ⟨group, groups, rfl⟩ := List.exists_cons_of_length_eq_add_one length
      obtain ⟨index, selected, rfl⟩ := List.exists_cons_of_length_eq_add_one length'
      have rest := ih (Nat.succ.inj length) (Nat.succ.inj length')
      have decisions : decisionsOf (demand :: demands) (group :: groups) (index :: selected) =
        decisionAt demand group index :: decisionsOf demands groups selected := rfl
      rw [decisions, List.map_cons, decisionAt_demandId, rest, List.map_cons]

/-- A demand that is not empty has options, which cost something. -/
theorem options_ok (log1p : Rat → Rat) (config : FleetRepairSchedulerConfig)
    (paths : List RepairPath) (positive : 0 < demand.payloadBytes) :
    ∃ options, config.options log1p demand paths = .ok options ∧ ∀ o ∈ options, 0 ≤ o.cost := by
  unfold FleetRepairSchedulerConfig.options
  rw [raiseIf_of_not (Int.not_le.mpr positive), ok_bind]
  split
  · exact ⟨[], rfl, fun _ among => absurd among List.not_mem_nil⟩
  · refine ⟨_, rfl, ?_⟩
    intro o among
    obtain ⟨selected, -, chosen⟩ := List.mem_filterMap.mp among
    unfold FleetRepairSchedulerConfig.option at chosen
    dsimp only at chosen
    split at chosen
    · cases chosen
    · rw [← Option.some.inj chosen]
      exact Int.mul_nonneg (Int.le_of_lt positive) (Int.natCast_nonneg _)

/-- An option of the demand, or none. -/
def Offers (log1p : Rat → Rat) (config : FleetRepairSchedulerConfig) (paths : List RepairPath)
    (demand : RepairDemand) (chosen : Option RepairOption) : Prop :=
  ∀ o ∈ chosen, ∃ options, config.options log1p demand paths = .ok options ∧ o ∈ options

theorem chooses_iff_offers
    (answers : List.Forall₂ (fun demand options => config.options log1p demand paths = .ok options)
      demands groups) {choice : List (Option RepairOption)} :
    Chooses groups choice ↔ List.Forall₂ (Offers log1p config paths) demands choice := by
  induction answers generalizing choice with
  | nil => exact ⟨fun | .nil => .nil, fun | .nil => .nil⟩
  | @cons demand options demands groups answer rest ih =>
      constructor
      · intro h
        cases h with
        | cons offered later =>
            exact .cons (fun o among => ⟨options, answer, offered o among⟩) (ih.mp later)
      · intro h
        cases h with
        | cons offered later =>
            refine .cons ?_ (ih.mpr later)
            intro o among
            obtain ⟨options', answer', inside⟩ := offered o among
            rw [answer] at answer'
            cases answer'
            exact inside

/-- A limit below 0 admits no less than 0 does. -/
def FleetRepairSchedulerConfig.limit (config : FleetRepairSchedulerConfig) : Option Int :=
  config.maxAdmittedRepairs.map (max 0)

/-- The choices of at most one option for each demand, within the capacity and the limit. -/
structure Feasible (log1p : Rat → Rat) (config : FleetRepairSchedulerConfig)
    (paths : List RepairPath) (demands : List RepairDemand) (choice : List (Option RepairOption)) :
    Prop where
  offers : List.Forall₂ (Offers log1p config paths) demands choice
  within : Choice.Within RepairOption.cost config.capacityBytes config.limit choice

/-- The order of the demands does not matter. -/
theorem Feasible.of_perm {demands' : List RepairDemand} {choice : List (Option RepairOption)}
    (h : Feasible log1p config paths demands choice) (perm : demands'.Perm demands) :
    ∃ choice', Feasible log1p config paths demands' choice' ∧
      Choice.totalValue RepairOption.utility choice' =
        Choice.totalValue RepairOption.utility choice := by
  obtain ⟨choice', offers, same⟩ := List.perm_comp_forall₂ perm h.offers
  have total {α : Type} [AddCommMonoid α] (g : RepairOption → α) :
      (choice'.map fun o => o.elim 0 g).sum = (choice.map fun o => o.elim 0 g).sum :=
    (same.map _).sum_eq
  refine ⟨choice', ⟨offers, ?_, ?_⟩, total RepairOption.utility⟩
  · exact (total RepairOption.cost).trans_le h.within.cost
  · intro most isLimit
    exact (total fun _ => (1 : Int)).trans_le (h.within.count most isLimit)

theorem limit_of_nonneg (h : ∀ limit ∈ config.maxAdmittedRepairs, 0 ≤ limit) :
    config.limit = config.maxAdmittedRepairs := by
  unfold FleetRepairSchedulerConfig.limit
  cases found : config.maxAdmittedRepairs with
  | none => rfl
  | some limit => rw [Option.map_some, max_eq_right (h limit found)]

/-- The best state is the best choice, also for a limit below 0, which admits nothing. -/
theorem Searched.best {s : State} (h : Searched config groups states) (among : s ∈ states)
    (most : ∀ s' ∈ states, s'.2.1 ≤ s.2.1) {choice : List (Option RepairOption)}
    (chooses : Chooses groups choice)
    (within : Choice.Within RepairOption.cost config.capacityBytes config.limit choice) :
    Choice.totalValue RepairOption.utility choice ≤
      Choice.totalValue RepairOption.utility (choiceOf groups s.2.2) := by
  by_cases nonneg : ∀ limit ∈ config.maxAdmittedRepairs, 0 ≤ limit
  case pos =>
    rw [limit_of_nonneg nonneg] at within
    refine h.frontier.best ?_ chooses within
    rintro k ⟨s', isState, rfl⟩
    rw [← (h.stands s among).utility, ← (h.stands s' isState).utility]
    exact most s' isState
  case neg =>
    push Not at nonneg
    obtain ⟨limit, isLimit, negative⟩ := nonneg
    have nothing : max 0 limit = 0 := max_eq_left (Int.le_of_lt negative)
    have few := within.count (max 0 limit) (Option.mem_map.mpr ⟨limit, isLimit, rfl⟩)
    have few' := h.admitted s among limit isLimit
    rw [(h.stands s among).admitted] at few'
    rw [nothing] at few few'
    rw [Choice.totalValue_eq_zero _ few, Choice.totalValue_eq_zero _ few']

/-- Every demand has its options. -/
theorem options_all_ok (log1p : Rat → Rat) (config : FleetRepairSchedulerConfig)
    (paths : List RepairPath) (demands : List RepairDemand)
    (positive : ∀ d ∈ demands, 0 < d.payloadBytes) :
    ∃ groups, demands.mapM (fun demand => config.options log1p demand paths) = .ok groups ∧
      List.Forall₂ (fun demand options => config.options log1p demand paths = .ok options)
        demands groups ∧ ∀ group ∈ groups, ∀ o ∈ group, 0 ≤ o.cost := by
  induction demands with
  | nil => exact ⟨[], rfl, .nil, fun _ among => absurd among List.not_mem_nil⟩
  | cons demand demands ih =>
      obtain ⟨options, answer, costs⟩ := options_ok log1p config paths
        (positive demand List.mem_cons_self)
      obtain ⟨groups, answers, each, all⟩ := ih
        fun d among => positive d (List.mem_cons_of_mem _ among)
      refine ⟨options :: groups, ?_, .cons answer each, ?_⟩
      · rw [List.mapM_cons, answer, answers]
        rfl
      · intro group among
        cases List.mem_cons.mp among with
        | inl same => exact same ▸ costs
        | inr later => exact all group later

theorem capacity_nonneg (accepted : config.init = .ok ()) : 0 ≤ config.capacityBytes := by
  obtain ⟨⟨⟩, capacity, -⟩ := bind_eq_ok_iff.mp accepted
  exact Int.not_lt.mp (raiseIf_eq_ok.mp capacity)

/-- The schedule is read off the best state that the search ends with. -/
structure Scheduled (log1p : Rat → Rat) (config : FleetRepairSchedulerConfig)
    (demands : List RepairDemand) (paths : List RepairPath) (groups : List (List RepairOption))
    (s : State) : Prop where
  each : List.Forall₂ (fun demand options => config.options log1p demand paths = .ok options)
    (demands.insertionSort fun x y => x.demandId ≤ y.demandId) groups
  searched : Searched config groups (config.finalStates groups)
  among : s ∈ config.finalStates groups
  most : ∀ s' ∈ config.finalStates groups, s'.2.1 ≤ s.2.1
  answer : config.schedule log1p demands paths =
    .ok (decisionsOf (demands.insertionSort fun x y => x.demandId ≤ y.demandId) groups s.2.2)

theorem schedule_scheduled (log1p : Rat → Rat) (demands : List RepairDemand)
    (capacity : 0 ≤ config.capacityBytes) (positive : ∀ d ∈ demands, 0 < d.payloadBytes)
    (some_path : paths ≠ []) : ∃ groups s, Scheduled log1p config demands paths groups s := by
  have perm := List.perm_insertionSort
    (fun x y : RepairDemand => x.demandId ≤ y.demandId) demands
  obtain ⟨groups, answers, each, costs⟩ := options_all_ok log1p config paths
    (demands.insertionSort fun x y => x.demandId ≤ y.demandId)
    fun d among => positive d (perm.subset among)
  have searched := finalStates_searched capacity costs
  obtain ⟨s, found⟩ : ∃ s, bestState (config.finalStates groups) = some s := by
    obtain ⟨s, among⟩ := searched.nonempty
    cases h : config.finalStates groups with
    | nil => rw [h] at among; cases among
    | cons first rest => exact ⟨_, rfl⟩
  obtain ⟨among, most⟩ := bestState_spec found
  refine ⟨groups, s, each, searched, among, most, ?_⟩
  unfold FleetRepairSchedulerConfig.schedule
  dsimp only
  rw [raiseIf_of_not (fun missing => some_path missing.2), ok_bind, answers, ok_bind, found]
  rfl

namespace Scheduled

variable {s : State} (h : Scheduled log1p config demands paths groups s)
include h

theorem length :
    groups.length = (demands.insertionSort fun x y => x.demandId ≤ y.demandId).length :=
  h.each.length_eq.symm

theorem stands : Stands groups s := h.searched.stands s h.among

theorem demandIds :
    ((decisionsOf (demands.insertionSort fun x y => x.demandId ≤ y.demandId) groups s.2.2).map
      RepairDecision.demandId).Perm (demands.map RepairDemand.demandId) := by
  rw [decisionsOf_demandId h.length h.stands.length]
  exact (List.perm_insertionSort _ demands).map _

theorem allocatedBytes_le :
    allocatedBytes (decisionsOf (demands.insertionSort fun x y => x.demandId ≤ y.demandId) groups
      s.2.2) ≤ config.capacityBytes := by
  have total := sum_admitted (f := RepairDecision.allocatedBytes) (g := RepairOption.cost)
    (fun _ _ => rfl) h.length h.stands.length
  rw [allocatedBytes, total]
  exact h.stands.used.symm.trans_le (h.searched.used s h.among)

end Scheduled

/-- A repair that is scheduled alone fits into the capacity. -/
theorem schedule_one {decision : RepairDecision} {rest : List RepairDecision}
    (capacity : 0 ≤ config.capacityBytes) (positive : 0 < demand.payloadBytes)
    (some_path : paths ≠ []) (h : config.schedule log1p [demand] paths = .ok (decision :: rest))
    (repairs : decision.action = .repair) : decision.allocatedBytes ≤ config.capacityBytes := by
  obtain ⟨groups, s, scheduled⟩ := schedule_scheduled log1p [demand] capacity
    (by simpa using positive) some_path
  have answer := Except.ok.inj (h.symm.trans scheduled.answer)
  have single := scheduled.demandIds.length_eq
  have bytes := scheduled.allocatedBytes_le
  rw [← answer] at single bytes
  obtain rfl : rest = [] := by simpa using single
  simpa [allocatedBytes, admitted, repairs] using bytes

/-- There is one decision for each demand. Those that repair keep the capacity and the limit, and
    no feasible choice has a greater utility. -/
theorem FleetRepairSchedulerConfig.schedule_optimal (log1p : Rat → Rat)
    (config : FleetRepairSchedulerConfig) (demands : List RepairDemand) (paths : List RepairPath)
    (accepted : config.init = .ok ()) (positive : ∀ d ∈ demands, 0 < d.payloadBytes)
    (some_path : paths ≠ []) :
    ∃ decisions, config.schedule log1p demands paths = .ok decisions ∧
      (decisions.map RepairDecision.demandId).Perm (demands.map RepairDemand.demandId) ∧
      allocatedBytes decisions ≤ config.capacityBytes ∧
      (∀ limit ∈ config.maxAdmittedRepairs, ((admitted decisions).length : Int) ≤ max 0 limit) ∧
      IsGreatest (Choice.totalValue RepairOption.utility ''
        {choice | Feasible log1p config paths demands choice}) (admittedUtility decisions) := by
  obtain ⟨groups, s, scheduled⟩ :=
    schedule_scheduled log1p demands (capacity_nonneg accepted) positive some_path
  have perm := List.perm_insertionSort
    (fun x y : RepairDemand => x.demandId ≤ y.demandId) demands
  have searched := scheduled.searched
  have among := scheduled.among
  have each := scheduled.each
  have length := scheduled.length
  have stands := scheduled.stands
  refine ⟨_, scheduled.answer, scheduled.demandIds, scheduled.allocatedBytes_le, ?_, ?_⟩
  · intro limit isLimit
    have total := sum_admitted (f := fun _ => (1 : Int)) (g := fun _ => 1) (fun _ _ => rfl)
      length stands.length
    rw [List.map_const', List.sum_replicate, nsmul_one] at total
    rw [total]
    exact stands.admitted.symm.trans_le (searched.admitted s among limit isLimit)
  · have total := sum_admitted (f := RepairDecision.utility) (g := RepairOption.utility)
      (fun _ _ => rfl) length stands.length
    rw [admittedUtility, total]
    constructor
    · have chooses := searched.frontier.chooses _ ⟨s, among, rfl⟩
      have feasible : Feasible log1p config paths
          (demands.insertionSort fun x y => x.demandId ≤ y.demandId) (choiceOf groups s.2.2) := by
        refine ⟨(chooses_iff_offers each).mp chooses, ?_, ?_⟩
        · exact stands.used.symm.trans_le (searched.used s among)
        · intro most isLimit
          obtain ⟨limit, isLimit', rfl⟩ := Option.mem_map.mp isLimit
          exact stands.admitted.symm.trans_le (searched.admitted s among limit isLimit')
      obtain ⟨choice, feasible, same⟩ := feasible.of_perm perm.symm
      exact ⟨choice, feasible, same⟩
    · rintro value ⟨choice, feasible, rfl⟩
      obtain ⟨choice, feasible, same⟩ := feasible.of_perm perm
      rw [← same]
      exact searched.best among scheduled.most ((chooses_iff_offers each).mpr feasible.offers) feasible.within

end

theorem schedule_optimal_oneDemand :
    ∃ decisions, FleetRepairSchedulerConfig.schedule id { capacityBytes := 10 }
        [{ topic := lit "/scan", robotId := lit "r1", publisherId := lit "p1",
           sourceSequenceNumber := 3, payloadBytes := 8, remainingDeadlineMs := 40, qoeDebt := 0,
           criticality := 1 }]
        [{ pathId := lit "wifi", latencyMs := 5, loss := 0 }] = .ok decisions ∧
      allocatedBytes decisions ≤ 10 := by
  obtain ⟨decisions, answer, -, capacity, -⟩ :=
    FleetRepairSchedulerConfig.schedule_optimal id { capacityBytes := 10 }
      [{ topic := lit "/scan", robotId := lit "r1", publisherId := lit "p1",
         sourceSequenceNumber := 3, payloadBytes := 8, remainingDeadlineMs := 40, qoeDebt := 0,
         criticality := 1 }]
      [{ pathId := lit "wifi", latencyMs := 5, loss := 0 }] rfl (by simp) (by simp)
  exact ⟨decisions, answer, capacity⟩

/-- A limit below 0 is accepted, but no schedule has less than 0 repairs. -/
theorem negative_limit_exceeded :
    ∃ (config : FleetRepairSchedulerConfig) (demands : List RepairDemand) (paths : List RepairPath)
      (decisions : List RepairDecision) (limit : Int),
      config.init = .ok () ∧ (∀ d ∈ demands, 0 < d.payloadBytes) ∧ paths ≠ [] ∧
      config.schedule id demands paths = .ok decisions ∧ limit ∈ config.maxAdmittedRepairs ∧
      ¬((admitted decisions).length : Int) ≤ limit :=
  ⟨{ capacityBytes := 10, maxAdmittedRepairs := some (-1) }, [],
    [{ pathId := lit "wifi", latencyMs := 5, loss := 0 }], [], -1, rfl, by simp, by simp, rfl, rfl,
    by decide⟩

end FleetRMW.Repair
