import FleetRMW.Rmw.Reassembly
import FleetRMW.Rmw.RepairRequests

/-! # Lists of fragment indexes

A request writes the indexes that it asks for as runs: `3,5-9`. Indexes that ascend, and are not
more than one request may name, are read as they were written.
-/

namespace FleetRMW.Rmw

open Lib

/-! ## Writing -/

/-- The maximal runs of consecutive indexes, where one has begun at `first` and reached `last`. -/
def fragmentIndexRuns : Nat → Nat → List Nat → List (Nat × Nat)
  | first, last, [] => [(first, last)]
  | first, last, next :: indexes =>
      if next = (last + 1) % 2 ^ 64 then fragmentIndexRuns first next indexes
      else (first, last) :: fragmentIndexRuns next next indexes

def encodeFragmentIndexRun (run : Nat × Nat) : Bytes :=
  if run.2 ≠ run.1 then decimal run.1 ++ 45 :: decimal run.2 else decimal run.1

def encodeFragmentIndexes : List Nat → Bytes
  | [] => []
  | first :: indexes =>
      [44].intercalate ((fragmentIndexRuns first first indexes).map encodeFragmentIndexRun)

/-! ## One run -/

variable {first last index count fragmentCount : Nat} {indexes seen : List Nat} {token : Bytes}
  {tokens : List Bytes}

theorem encodeFragmentIndexRun_ne_nil (run : Nat × Nat) : encodeFragmentIndexRun run ≠ [] := by
  unfold encodeFragmentIndexRun
  split
  · exact List.append_ne_nil_of_left_ne_nil (decimal_ne_nil _) _
  · exact decimal_ne_nil _

/-- The text of a run holds no comma. -/
theorem encodeFragmentIndexRun_plain (run : Nat × Nat) : 44 ∉ encodeFragmentIndexRun run := by
  have digits (n : Nat) : 44 ∉ decimal n := decimal_notMem (by decide) n
  unfold encodeFragmentIndexRun
  split
  · simp [digits]
  · exact digits _

/-- A run is read as it was written. -/
theorem parseFragmentIndexRange_encode (ordered : first ≤ last) (fits : last < 2 ^ 64) :
    parseFragmentIndexRange (encodeFragmentIndexRun (first, last)) = some (first, last) := by
  have digits (n : Nat) : ∀ c ∈ decimal n, decide (c ≠ 45) = true := by
    intro c among
    apply decide_eq_true
    rintro rfl
    exact decimal_notMem (by decide) n among
  have readFirst : parseSizeToken (decimal first) = some first := parseSizeToken_decimal (by omega)
  have readLast : parseSizeToken (decimal last) = some last := parseSizeToken_decimal fits
  unfold encodeFragmentIndexRun parseFragmentIndexRange
  by_cases single : last = first
  · subst single
    have whole : (decimal last).span (fun c => decide (c ≠ 45)) = (decimal last, []) := by
      rw [List.span_eq_takeWhile_dropWhile, List.takeWhile_eq_self_iff.mpr (digits last),
        List.dropWhile_eq_nil_iff.mpr (digits last)]
    rw [if_neg (fun other => other rfl), whole]
    dsimp only
    rw [readLast, Option.map_some]
  · have front : (decimal first ++ 45 :: decimal last).span (fun c => decide (c ≠ 45)) =
        (decimal first, 45 :: decimal last) := by
      rw [List.span_eq_takeWhile_dropWhile, List.takeWhile_append_of_pos (digits first),
        List.dropWhile_append_of_pos (digits first)]
      simp
    rw [if_pos single, front]
    dsimp only
    rw [readFirst, readLast]
    dsimp only
    rw [if_neg (by omega)]

/-- The indexes of a run are put behind smaller ones. -/
theorem pushIndexes_eq (below : ∀ n ∈ seen, n < index)
    (room : seen.length + count ≤ kMaxFragmentRepairIndexesPerRequest) :
    pushIndexes count index seen = seen ++ List.range' index count := by
  induction count generalizing index seen with
  | zero => rw [pushIndexes, List.range'_zero, List.append_nil]
  | succ count ih =>
      have other : seen.getLast? ≠ some index := fun same =>
        absurd (below index (List.mem_of_getLast? same)) (Nat.lt_irrefl index)
      have below' : ∀ n ∈ seen ++ [index], n < index + 1 := by
        intro n among
        rcases List.mem_append.mp among with old | new
        · exact Nat.lt_succ_of_lt (below n old)
        · rw [List.mem_singleton.mp new]
          exact Nat.lt_succ_self index
      have room' : (seen ++ [index]).length + count ≤ kMaxFragmentRepairIndexesPerRequest := by
        rw [List.length_append, List.length_singleton]
        omega
      rw [pushIndexes, if_pos (by omega), if_neg other, ih below' room', List.append_assoc,
        List.range'_succ, List.singleton_append]

/-! ## All runs -/

theorem collectFragmentIndexes_cons (some_ : token ≠ [])
    (room : seen.length < kMaxFragmentRepairIndexesPerRequest)
    (read : parseFragmentIndexRange token = some (first, last)) (valid : last < fragmentCount) :
    collectFragmentIndexes fragmentCount (token :: tokens) seen =
      collectFragmentIndexes fragmentCount tokens (pushIndexes (last + 1 - first) first seen) := by
  rw [collectFragmentIndexes]
  · rw [if_neg (by omega), read]
    dsimp only
    rw [if_neg (by omega)]
  · intro empty
    exact absurd empty some_

/-- What is read from the runs: the indexes from `first` to `last`, and those that follow. -/
theorem collectFragmentIndexes_runs (fits : fragmentCount < 2 ^ 64)
    (ordered : first ≤ last) (valid : last < fragmentCount)
    (ascending : (last :: indexes).Pairwise (· < ·)) (within : ∀ n ∈ indexes, n < fragmentCount)
    (below : ∀ n ∈ seen, n < first)
    (room : seen.length + (last + 1 - first) + indexes.length ≤ kMaxFragmentRepairIndexesPerRequest) :
    collectFragmentIndexes fragmentCount
        ((fragmentIndexRuns first last indexes).map encodeFragmentIndexRun) seen =
      some (seen ++ List.range' first (last + 1 - first) ++ indexes) := by
  induction indexes generalizing first last seen with
  | nil =>
      rw [List.length_nil] at room
      rw [fragmentIndexRuns, List.map_singleton, List.append_nil,
        collectFragmentIndexes_cons (encodeFragmentIndexRun_ne_nil _) (by omega)
          (parseFragmentIndexRange_encode ordered (by omega)) valid,
        collectFragmentIndexes, pushIndexes_eq below (by omega)]
  | cons next indexes ih =>
      obtain ⟨after, rest⟩ := List.pairwise_cons.mp ascending
      have later : last < next := after next List.mem_cons_self
      have nextValid : next < fragmentCount := within next List.mem_cons_self
      have within' : ∀ n ∈ indexes, n < fragmentCount :=
        fun n among => within n (List.mem_cons_of_mem _ among)
      rw [List.length_cons] at room
      rw [fragmentIndexRuns]
      split
      case isTrue consecutive =>
        have step : next = last + 1 := by omega
        have longer : next + 1 - first = (last + 1 - first) + 1 := by omega
        have end_ : next = first + (last + 1 - first) := by omega
        rw [ih (by omega) nextValid rest within' below (by omega), longer, List.range'_concat,
          Nat.one_mul, ← end_]
        simp only [List.append_assoc, List.singleton_append]
      case isFalse =>
        have below' : ∀ n ∈ seen ++ List.range' first (last + 1 - first), n < next := by
          intro n among
          rcases List.mem_append.mp among with old | new
          · have := below n old
            omega
          · have := (List.mem_range'_1.mp new).2
            omega
        have room' : (seen ++ List.range' first (last + 1 - first)).length + (next + 1 - next) +
            indexes.length ≤ kMaxFragmentRepairIndexesPerRequest := by
          rw [List.length_append, List.length_range']
          omega
        rw [List.map_cons, collectFragmentIndexes_cons (encodeFragmentIndexRun_ne_nil _) (by omega)
            (parseFragmentIndexRange_encode ordered (by omega)) valid,
          pushIndexes_eq below (by omega), ih (Nat.le_refl next) nextValid rest within' below' room']
        have single : next + 1 - next = 1 := by omega
        rw [single, List.range'_one, List.append_assoc, List.singleton_append]

theorem fragmentIndexRuns_ne_nil : fragmentIndexRuns first last indexes ≠ [] := by
  induction indexes generalizing first last with
  | nil => exact List.cons_ne_nil _ _
  | cons next indexes ih =>
      rw [fragmentIndexRuns]
      split
      · exact ih
      · exact List.cons_ne_nil _ _

variable (first indexes) in
/-- The tokens of the text are the texts of the runs. -/
theorem encodeFragmentIndexes_splitOn : (encodeFragmentIndexes (first :: indexes)).splitOn 44 =
    (fragmentIndexRuns first first indexes).map encodeFragmentIndexRun := by
  apply List.splitOn_intercalate
  · intro text among
    obtain ⟨run, -, rfl⟩ := List.mem_map.mp among
    exact encodeFragmentIndexRun_plain run
  · exact fun none => fragmentIndexRuns_ne_nil (List.map_eq_nil_iff.mp none)

/-! ## Indexes that are accepted -/

/-- What a reader of a request relies on. -/
structure ValidIndexes (fragmentCount : Nat) (indexes : List Nat) : Prop where
  within : ∀ index ∈ indexes, index < fragmentCount
  atMost : indexes.length ≤ kMaxFragmentRepairIndexesPerRequest

theorem ValidIndexes.pushIndexes (valid : ValidIndexes fragmentCount seen)
    (within : index + count ≤ fragmentCount) :
    ValidIndexes fragmentCount (pushIndexes count index seen) := by
  induction count generalizing index seen with
  | zero => exact valid
  | succ count ih =>
      rw [Rmw.pushIndexes]
      split
      case isFalse => exact valid
      case isTrue room =>
        apply ih ?_ (by omega)
        split
        case isTrue => exact valid
        case isFalse =>
          constructor
          · intro n among
            rcases List.mem_append.mp among with old | new
            · exact valid.within n old
            · rw [List.mem_singleton.mp new]
              omega
          · rw [List.length_append, List.length_singleton]
            omega

theorem parseFragmentIndexRange_ordered (read : parseFragmentIndexRange token = some (first, last)) :
    first ≤ last := by
  unfold parseFragmentIndexRange at read
  split at read
  case h_1 =>
    obtain ⟨index, -, same⟩ := Option.map_eq_some_iff.mp read
    obtain ⟨rfl, rfl⟩ := Prod.mk.inj same
    exact Nat.le_refl _
  case h_2 =>
    split at read
    case h_1 =>
      split at read
      case isTrue => cases read
      case isFalse ordered =>
        obtain ⟨rfl, rfl⟩ := Prod.mk.inj (Option.some.inj read)
        exact Nat.le_of_not_lt ordered
    case h_2 => cases read

theorem ValidIndexes.collect (valid : ValidIndexes fragmentCount seen)
    (read : collectFragmentIndexes fragmentCount tokens seen = some indexes) :
    ValidIndexes fragmentCount indexes := by
  induction tokens generalizing seen with
  | nil =>
      rw [← Option.some.inj read]
      exact valid
  | cons token tokens ih =>
      by_cases last_ : token = [] ∧ tokens = []
      case pos =>
        obtain ⟨rfl, rfl⟩ := last_
        rw [← Option.some.inj read]
        exact valid
      case neg =>
        rw [collectFragmentIndexes] at read
        case x_2 => exact fun none none' => last_ ⟨none, none'⟩
        split at read
        case isTrue =>
          rw [← Option.some.inj read]
          exact valid
        case isFalse =>
          split at read
          case h_1 => cases read
          case h_2 first last range =>
            have ordered := parseFragmentIndexRange_ordered range
            split at read
            case isTrue => cases read
            case isFalse below => exact ih (valid.pushIndexes (by omega)) read

theorem ValidIndexes.of_parse {text : Bytes}
    (read : parseFragmentIndexRanges text fragmentCount = some indexes) :
    ValidIndexes fragmentCount indexes := by
  have none_ : ValidIndexes fragmentCount [] :=
    ⟨fun _ among => absurd among List.not_mem_nil, Nat.zero_le _⟩
  unfold parseFragmentIndexRanges at read
  split at read
  case isTrue => cases read
  case isFalse =>
    split at read
    case h_1 => cases read
    case h_2 => cases read
    case h_3 collected =>
      rw [← Option.some.inj read]
      exact none_.collect collected

/-- Ascending indexes of the frame, at least one and at most as many as a request may name, are
    read from their text. Whatever is accepted is a list of so many indexes of the frame. -/
theorem parseFragmentIndexRanges_encode (fits : fragmentCount < 2 ^ 64) :
    (∀ indexes : List Nat, indexes.Pairwise (· < ·) → indexes ≠ [] →
      (∀ index ∈ indexes, index < fragmentCount) →
      indexes.length ≤ kMaxFragmentRepairIndexesPerRequest →
      parseFragmentIndexRanges (encodeFragmentIndexes indexes) fragmentCount = some indexes) ∧
    ∀ text indexes, parseFragmentIndexRanges text fragmentCount = some indexes →
      (∀ index ∈ indexes, index < fragmentCount) ∧
        indexes.length ≤ kMaxFragmentRepairIndexesPerRequest := by
  constructor
  · intro indexes ascending some_ within atMost
    cases indexes with
    | nil => exact absurd rfl some_
    | cons first indexes =>
        have valid : first < fragmentCount := within first List.mem_cons_self
        have none_ : ∀ n ∈ ([] : List Nat), n < first := fun _ among => absurd among List.not_mem_nil
        have read := collectFragmentIndexes_runs fits (Nat.le_refl first) valid ascending
          (fun n among => within n (List.mem_cons_of_mem _ among)) none_
          (by simp only [List.length_nil, List.length_cons] at atMost ⊢; omega)
        have one : first + 1 - first = 1 := by omega
        have text : encodeFragmentIndexes (first :: indexes) ≠ [] := by
          intro empty
          have split_ := encodeFragmentIndexes_splitOn first indexes
          rw [empty] at split_
          cases runs : fragmentIndexRuns first first indexes with
          | nil => exact fragmentIndexRuns_ne_nil runs
          | cons run runs' =>
              rw [runs] at split_
              exact encodeFragmentIndexRun_ne_nil run (List.cons.inj split_).1.symm
        rw [one, List.range'_one, List.nil_append, List.singleton_append] at read
        unfold parseFragmentIndexRanges
        have whole : ¬(encodeFragmentIndexes (first :: indexes) = [] ∨ fragmentCount = 0) := by
          rintro (empty | zero)
          · exact text empty
          · omega
        rw [if_neg whole, encodeFragmentIndexes_splitOn, read]
  · intro text indexes read
    have valid := ValidIndexes.of_parse read
    exact ⟨valid.within, valid.atMost⟩

theorem parseFragmentIndexRanges_encode_runs :
    encodeFragmentIndexes [0, 4, 5, 6, 9] = octets "0,4-6,9" ∧
      parseFragmentIndexRanges (encodeFragmentIndexes [0, 4, 5, 6, 9]) 10 = some [0, 4, 5, 6, 9] :=
  ⟨by decide, (parseFragmentIndexRanges_encode (by decide)).1 _ (by decide) (by decide) (by decide)
    (by decide)⟩

/-- No index at all is written as the empty text, which is refused. -/
theorem parseFragmentIndexRanges_encode_nil :
    parseFragmentIndexRanges (encodeFragmentIndexes []) 1 = none := by
  decide

end FleetRMW.Rmw
