import Mathlib.Data.List.Nodup
import Mathlib.Data.Nat.Log
import Mathlib.Order.Bounds.Basic
import FleetRMW.Lib.Float64
import FleetRMW.Lib.Intervals
import FleetRMW.Lib.Python

/-! # The tracker of source sequences

`RmwAckNackTracker` of the sidecar follows each stream's sequence numbers and answers each record
with the gaps. It remembers the numbers of a window behind the highest one only.
-/

namespace FleetRMW.Rmw

open Lib

/-- `int(float(i))` of an `int`: 53 bits are kept. `none` is `OverflowError`. -/
def intOfFloat (i : Int) : Option Int :=
  let shift := Nat.log 2 i.natAbs - 52
  let magnitude := Float64.roundHalfEven i.natAbs (2 ^ shift) * 2 ^ shift
  if 2 ^ 1024 ≤ magnitude then none else some (i.sign * magnitude)

structure RmwSourceSequenceState where
  highestContiguousSequence : Option Int := none
  highestObservedSequence : Option Int := none
  observedSequences : List Int := []
  deriving Repr, DecidableEq

/-- What `observe` reads of a record: the stream's key, and the first of the fields with a
    sequence number that holds a number. -/
structure AckRecord where
  stream : Option (List Str)
  sequence : Option Int
  deriving Repr, DecidableEq

structure AckNackFeedbackRecord where
  stream : List Str
  sourceSequenceNumber : Int
  missingSequenceRanges : List (Int × Int)
  highestContiguousSequence : Option Int
  highestObservedSequence : Option Int
  duplicate : Bool
  outOfOrder : Bool
  deriving Repr, DecidableEq

namespace RmwSourceSequenceState

/-- `while contiguous + 1 in observed: contiguous += 1`. -/
def advance (observed : List Int) : Nat → Int → Int
  | 0, contiguous => contiguous
  | turns + 1, contiguous =>
      if contiguous + 1 ∈ observed then advance observed turns (contiguous + 1) else contiguous

/-- `_advance_contiguous`: the loop ends within as many turns as there are elements. -/
def advanceContiguous (s : RmwSourceSequenceState) : RmwSourceSequenceState :=
  if s.observedSequences = [] then s
  else { s with highestContiguousSequence := some (advance s.observedSequences
    s.observedSequences.length (s.highestContiguousSequence.getD 0)) }

/-- `_trim_observed` -/
def trimObserved (windowSize : Int) (s : RmwSourceSequenceState) : RmwSourceSequenceState :=
  match s.highestObservedSequence with
  | none => s
  | some highest => { s with
      observedSequences := s.observedSequences.filter fun n => n ≥ highest - windowSize }

/-- `range(first, first + n)` -/
def rangeFrom (first : Int) : Nat → List Int
  | 0 => []
  | n + 1 => first :: rangeFrom (first + 1) n

/-- The loop of `missing_sequence_ranges`, with the range that is open. -/
def scanMissing (observed : List Int) : Option (Int × Int) → List Int → List (Int × Int)
  | opened, [] => opened.toList
  | opened, n :: rest =>
      if n ∈ observed then opened.toList ++ scanMissing observed none rest
      else scanMissing observed (some ((opened.map Prod.fst).getD n, n)) rest

def missingSequenceRanges (s : RmwSourceSequenceState) : List (Int × Int) :=
  match s.highestContiguousSequence, s.highestObservedSequence with
  | some contiguous, some highest =>
      if highest ≤ contiguous then []
      else scanMissing s.observedSequences none
        (rangeFrom (contiguous + 1) (highest - contiguous).toNat)
  | _, _ => []

/-- The part of `observe` that updates the stream's state. -/
def observe (windowSize : Int) (s : RmwSourceSequenceState) (sequence : Int) :
    RmwSourceSequenceState :=
  ({ s with
    observedSequences :=
      if sequence ∈ s.observedSequences then s.observedSequences
      else s.observedSequences ++ [sequence]
    highestObservedSequence := some (match s.highestObservedSequence with
      | none => sequence
      | some previous => max previous sequence) }.advanceContiguous).trimObserved windowSize

end RmwSourceSequenceState

structure RmwAckNackTracker where
  windowSize : Int
  streams : Dict (List Str) RmwSourceSequenceState := []

namespace RmwAckNackTracker

/-- `RmwAckNackTracker(window_size=...)` -/
def init (windowSize : Int) : RmwAckNackTracker where
  windowSize := max 1 windowSize

/-- `none` outside is the `OverflowError` of a sequence number that is no float. -/
def observe (t : RmwAckNackTracker) (record : AckRecord) :
    Option (Option AckNackFeedbackRecord × RmwAckNackTracker) :=
  match record.stream, record.sequence with
  | some stream, some number => do
      let sequence ← intOfFloat number
      let state := (t.streams.get? stream).getD {}
      let state' := state.observe t.windowSize sequence
      some (some {
          stream
          sourceSequenceNumber := sequence
          missingSequenceRanges := state'.missingSequenceRanges
          highestContiguousSequence := state'.highestContiguousSequence
          highestObservedSequence := state'.highestObservedSequence
          duplicate := sequence ∈ state.observedSequences
          outOfOrder := state.highestObservedSequence.any fun previous => sequence < previous },
        { t with streams := t.streams.set stream state' })
  | none, some number => (intOfFloat number).map fun _ => (none, t)
  | _, none => some (none, t)

/-- An exception leaves the tracker as it is. -/
def after (t : RmwAckNackTracker) (record : AckRecord) : RmwAckNackTracker :=
  match t.observe record with
  | some (_, t') => t'
  | none => t

def observeAll (t : RmwAckNackTracker) (records : List AckRecord) : RmwAckNackTracker :=
  records.foldl after t

end RmwAckNackTracker

/-- Numbers of up to 53 bits are floats. -/
theorem intOfFloat_of_lt {i : Int} (small : i.natAbs < 2 ^ 53) : intOfFloat i = some i := by
  have log : Nat.log 2 i.natAbs - 52 = 0 := by
    have : Nat.log 2 i.natAbs < 53 := by
      by_cases zero : i.natAbs = 0
      · rw [zero, Nat.log_zero_right]
        omega
      · exact (Nat.log_lt_iff_lt_pow (by omega) zero).mpr small
    omega
  have round : Float64.roundHalfEven i.natAbs (2 ^ 0) * 2 ^ 0 = i.natAbs := by
    simp [Float64.roundHalfEven, Nat.mod_one]
  have fits : ¬2 ^ 1024 ≤ i.natAbs :=
    Nat.not_le.mpr (small.trans (Nat.pow_lt_pow_right (by omega) (by omega)))
  unfold intOfFloat
  rw [log]
  dsimp only
  rw [round, if_neg fits, Int.sign_mul_natAbs]

namespace RmwSourceSequenceState

/-! ## The loops -/

section
variable {observed : List Int} {turns : Nat} {c : Int}

theorem le_advance : c ≤ advance observed turns c := by
  induction turns generalizing c with
  | zero => exact Int.le_refl _
  | succ turns ih =>
      unfold advance
      split
      · have further : c + 1 ≤ advance observed turns (c + 1) := ih
        omega
      · exact Int.le_refl _

theorem mem_of_le_advance {n : Int} (above : c < n) (below : n ≤ advance observed turns c) :
    n ∈ observed := by
  induction turns generalizing c with
  | zero =>
      change n ≤ c at below
      omega
  | succ turns ih =>
      unfold advance at below
      split at below
      case isTrue next =>
        by_cases here : n = c + 1
        · exact here ▸ next
        · exact ih (by omega) below
      case isFalse => omega

theorem advance_chain (unfinished : advance observed turns c + 1 ∈ observed) :
    ∀ i ≤ turns, c + i + 1 ∈ observed := by
  induction turns generalizing c with
  | zero =>
      intro i first
      obtain rfl := Nat.le_zero.mp first
      rw [Int.natCast_zero, Int.add_zero]
      exact unfinished
  | succ turns ih =>
      unfold advance at unfinished
      split at unfinished
      case isTrue next =>
        intro i inside
        cases i with
        | zero =>
            rw [Int.natCast_zero, Int.add_zero]
            exact next
        | succ i =>
            have later := ih unfinished i (Nat.le_of_succ_le_succ inside)
            have same : c + 1 + (i : Int) + 1 = c + ((i + 1 : Nat) : Int) + 1 := by omega
            exact same ▸ later
      case isFalse last => exact absurd unfinished last

theorem advance_stops (observed : List Int) (c : Int) :
    advance observed observed.length c + 1 ∉ observed := by
  intro unfinished
  have chain := advance_chain unfinished
  let following := (List.range (observed.length + 1)).map fun i : Nat => c + i + 1
  have distinct : following.Nodup := by
    apply List.Nodup.map_on ?_ List.nodup_range
    intro i _ j _ same
    omega
  have among : following ⊆ observed := by
    intro n isFollowing
    obtain ⟨i, isIn, rfl⟩ := List.mem_map.mp isFollowing
    exact chain i (Nat.lt_succ_iff.mp (List.mem_range.mp isIn))
  have few := (List.subperm_of_subset distinct among).length_le
  rw [List.length_map, List.length_range] at few
  omega

/-- The numbers of the range that is open. -/
def InOpened : Option (Int × Int) → Int → Prop
  | none, _ => False
  | some r, m => r.1 ≤ m ∧ m ≤ r.2

/-- The loop reports the open range and the numbers from `first` on that are not in the set. -/
theorem scanMissing_reports (opened : Option (Int × Int)) (first : Int) (n : Nat)
    (before : ∀ r, opened = some r → r.1 ≤ r.2 ∧ r.2 + 1 = first) :
    Reports (scanMissing observed opened (rangeFrom first n)) fun m =>
      InOpened opened m ∨ (first ≤ m ∧ m < first + n ∧ m ∉ observed) := by
  induction n generalizing opened first with
  | zero =>
      cases opened with
      | none =>
          apply Reports.nil
          intro m missing
          cases missing with
          | inl nothing => exact nothing
          | inr inside => omega
      | some r =>
          apply Reports.single (before r rfl).1
          intro m
          simp only [InOpened]
          omega
  | succ n ih =>
      unfold rangeFrom scanMissing
      split
      case isTrue here =>
        have rest := ih none (first + 1) nofun
        cases opened with
        | none =>
            apply rest.congr
            intro m
            simp only [InOpened]
            grind
        | some r =>
            obtain ⟨le, next⟩ := before r rfl
            have behind : ∀ m, (InOpened none m ∨
                (first + 1 ≤ m ∧ m < first + 1 + n ∧ m ∉ observed)) → first < m := by
              intro m later
              cases later with
              | inl nothing => exact nothing.elim
              | inr inside => omega
            apply Reports.cons le (by omega) rest behind
            intro m
            simp only [InOpened]
            grind
      case isFalse absent =>
        cases opened with
        | none =>
            apply (ih (some (first, first)) (first + 1) ?_).congr
            · intro m
              simp only [InOpened]
              grind
            · intro r same
              obtain rfl := Option.some.inj same
              exact ⟨Int.le_refl _, rfl⟩
        | some r =>
            obtain ⟨le, next⟩ := before r rfl
            apply (ih (some (r.1, first)) (first + 1) ?_).congr
            · intro m
              simp only [InOpened]
              grind
            · intro r' same
              obtain rfl := Option.some.inj same
              exact ⟨by omega, rfl⟩

end

/-! ## One stream -/

/-- Every number seen that has an unseen one below it is inside the window behind the highest. -/
def InWindow (windowSize : Int) (seen : Int → Prop) (highest : Int) : Prop :=
  ∀ m k, seen m → 1 ≤ k → k < m → ¬seen k → highest - windowSize ≤ m

/-- The state has the numbers seen that are inside the window, and the end of the contiguous part
    is where the first unseen number is. -/
structure Follows (windowSize : Int) (s : RmwSourceSequenceState) (seen : Int → Prop) : Prop where
  unset : s.highestObservedSequence = none → ∀ m, ¬seen m
  greatest : ∀ h, s.highestObservedSequence = some h → IsGreatest {m | seen m} h
  observed : ∀ m, m ∈ s.observedSequences ↔
    seen m ∧ ∀ h, s.highestObservedSequence = some h → h - windowSize ≤ m
  nonneg : 0 ≤ s.highestContiguousSequence.getD 0
  filled : ∀ m, 1 ≤ m → m ≤ s.highestContiguousSequence.getD 0 → seen m
  stuck : ¬seen (s.highestContiguousSequence.getD 0 + 1)

section
variable {windowSize sequence : Int} {s : RmwSourceSequenceState} {seen : Int → Prop}

theorem Follows.start : Follows windowSize {} fun _ => False where
  unset _ _ := id
  greatest h isHighest := by cases isHighest
  observed m := by
    constructor
    · intro among
      cases among
    · intro absurd_
      exact absurd_.1.elim
  nonneg := Int.le_refl _
  filled m positive small := by
    change m ≤ 0 at small
    omega
  stuck := id

theorem Follows.congr {seen' : Int → Prop} (follows : Follows windowSize s seen)
    (same : ∀ m, seen m ↔ seen' m) : Follows windowSize s seen' := by
  obtain rfl : seen = seen' := funext fun m => propext (same m)
  exact follows

/-- The numbers after the new one is added, and the highest. -/
def added (s : RmwSourceSequenceState) (sequence : Int) : List Int :=
  if sequence ∈ s.observedSequences then s.observedSequences
  else s.observedSequences ++ [sequence]

def highestWith (s : RmwSourceSequenceState) (sequence : Int) : Int :=
  match s.highestObservedSequence with
  | none => sequence
  | some previous => max previous sequence

theorem mem_added {m : Int} : m ∈ s.added sequence ↔ m = sequence ∨ m ∈ s.observedSequences := by
  unfold added
  split
  case isTrue present =>
    constructor
    · exact .inr
    · intro either
      cases either with
      | inl same => exact same ▸ present
      | inr old => exact old
  case isFalse => rw [List.mem_append, List.mem_singleton, or_comm]

theorem observe_eq : s.observe windowSize sequence = {
    highestContiguousSequence := some (advance (s.added sequence) (s.added sequence).length
      (s.highestContiguousSequence.getD 0))
    highestObservedSequence := some (s.highestWith sequence)
    observedSequences := (s.added sequence).filter fun n =>
      n ≥ s.highestWith sequence - windowSize } := by
  have some_ : s.added sequence ≠ [] :=
    List.ne_nil_of_mem (mem_added.mpr (.inl rfl))
  unfold observe advanceContiguous
  change (trimObserved windowSize (if s.added sequence = [] then _ else _)) = _
  rw [if_neg some_]
  rfl

theorem Follows.highestWith (follows : Follows windowSize s seen) (sequence : Int) :
    IsGreatest {m | m = sequence ∨ seen m} (s.highestWith sequence) := by
  unfold RmwSourceSequenceState.highestWith
  split
  case h_1 unset =>
    refine ⟨.inl rfl, ?_⟩
    intro m known
    cases known with
    | inl same => exact Int.le_of_eq same
    | inr old => exact absurd old (follows.unset unset m)
  case h_2 previous isHighest =>
    have greatest := follows.greatest previous isHighest
    constructor
    · by_cases newer : previous ≤ sequence
      · rw [max_eq_right newer]
        exact .inl rfl
      · rw [max_eq_left (Int.le_of_lt (Int.not_le.mp newer))]
        exact .inr greatest.1
    · intro m known
      cases known with
      | inl same => exact same ▸ le_max_right _ _
      | inr old => exact (greatest.2 old).trans (le_max_left _ _)

/-- A number behind the contiguous part that has been seen has not been trimmed. -/
theorem Follows.unseen_next (follows : Follows windowSize s seen)
    (inside : ∀ h, s.highestObservedSequence = some h → InWindow windowSize seen h) {c : Int}
    (further : s.highestContiguousSequence.getD 0 ≤ c) (stops : c + 1 ∉ s.added sequence) :
    ¬(c + 1 = sequence ∨ seen (c + 1)) := by
  rw [mem_added, follows.observed] at stops
  intro known
  apply stops
  apply known.imp_right
  intro old
  refine ⟨old, ?_⟩
  intro h isHighest
  have nonneg := follows.nonneg
  apply inside h isHighest _ (s.highestContiguousSequence.getD 0 + 1) old (by omega)
  · by_contra here
    have same : c = s.highestContiguousSequence.getD 0 := by omega
    exact follows.stuck (same ▸ old)
  · exact follows.stuck

/-- An observation, as long as the numbers seen before were inside the window. -/
theorem Follows.observe (follows : Follows windowSize s seen)
    (inside : ∀ h, s.highestObservedSequence = some h → InWindow windowSize seen h) :
    Follows windowSize (s.observe windowSize sequence) fun m => m = sequence ∨ seen m := by
  have greatest := follows.highestWith sequence
  have forward : ∀ h, s.highestObservedSequence = some h → h ≤ s.highestWith sequence :=
    fun h isHighest => greatest.2 (.inr (follows.greatest h isHighest).1)
  rw [observe_eq]
  exact {
    unset := nofun
    greatest := by
      intro h isHighest
      obtain rfl := Option.some.inj isHighest
      exact greatest
    observed := by
      intro m
      rw [List.mem_filter, mem_added, follows.observed, decide_eq_true_eq]
      constructor
      · intro kept
        refine ⟨kept.1.imp_right And.left, ?_⟩
        intro h isHighest
        obtain rfl := Option.some.inj isHighest
        exact kept.2
      · intro kept
        have floor := kept.2 _ rfl
        refine ⟨kept.1.imp_right fun known => ⟨known, ?_⟩, floor⟩
        intro h isHighest
        have := forward h isHighest
        omega
    nonneg := follows.nonneg.trans le_advance
    filled := by
      intro m above within
      by_cases old : m ≤ s.highestContiguousSequence.getD 0
      · exact .inr (follows.filled m above old)
      · have among := mem_of_le_advance (Int.not_le.mp old) within
        exact (mem_added.mp among).imp_right fun known => ((follows.observed m).mp known).1
    stuck := follows.unseen_next inside le_advance (advance_stops _ _) }

/-- The ranges are the numbers not seen exactly when none of those seen is outside the window. -/
theorem Follows.reports_iff {contiguous highest : Int} (follows : Follows windowSize s seen)
    (ends : s.highestContiguousSequence = some contiguous)
    (isHighest : s.highestObservedSequence = some highest) :
    (Reports s.missingSequenceRanges fun m => 1 ≤ m ∧ m ≤ highest ∧ ¬seen m) ↔
      InWindow windowSize seen highest := by
  have nonneg := follows.nonneg
  have filled := follows.filled
  have stuck := follows.stuck
  rw [ends, Option.getD_some] at nonneg filled stuck
  have bounded : ∀ m, seen m → m ≤ highest := fun m known =>
    (follows.greatest highest isHighest).2 known
  have observed : ∀ m, m ∈ s.observedSequences ↔ seen m ∧ highest - windowSize ≤ m := by
    intro m
    rw [follows.observed, isHighest]
    exact and_congr_right fun _ =>
      ⟨fun all => all _ rfl, fun inside h same => Option.some.inj same ▸ inside⟩
  have unseen_above : ∀ k, 1 ≤ k → ¬seen k → contiguous < k := by
    intro k positive unseen
    by_contra within
    exact unseen (filled k positive (by omega))
  unfold missingSequenceRanges
  rw [ends, isHighest]
  dsimp only
  split
  case isTrue full =>
    constructor
    · intro _ m k known positive below unseen
      have := unseen_above k positive unseen
      have := bounded m known
      omega
    · intro _
      apply Reports.nil
      intro m missing
      have := unseen_above m missing.1 missing.2.2
      omega
  case isFalse gap =>
    have scanned := @scanMissing_reports s.observedSequences none (contiguous + 1)
      (highest - contiguous).toNat nofun
    constructor
    · intro reports m k known positive below unseen
      by_contra outside
      have above := unseen_above k positive unseen
      have within := bounded m known
      have absent : m ∉ s.observedSequences := fun among => outside ((observed m).mp among).2
      have reported := (scanned.covers m).mpr (.inr ⟨by omega, by omega, absent⟩)
      exact ((reports.covers m).mp reported).2.2 known
    · intro inside
      apply scanned.congr
      intro m
      constructor
      · intro missing
        cases missing with
        | inl nothing => exact nothing.elim
        | inr missing =>
            refine ⟨by omega, by omega, ?_⟩
            intro known
            have other : m ≠ contiguous + 1 := fun same => stuck (same ▸ known)
            exact missing.2.2 ((observed m).mpr ⟨known,
              inside m (contiguous + 1) known (by omega) (by omega) stuck⟩)
      · intro missing
        have := unseen_above m missing.1 missing.2.2
        exact .inr ⟨by omega, by omega, fun among => missing.2.2 ((observed m).mp among).1⟩

end

end RmwSourceSequenceState

/-! ## Records of many streams -/

/-- A sequence number that its conversion through a float keeps. -/
def AckRecord.Numbered (record : AckRecord) : Prop :=
  ∀ n, record.sequence = some n → 1 ≤ n ∧ intOfFloat n = some n

/-- A record of the stream had this number. -/
def Seen (stream : List Str) (records : List AckRecord) (m : Int) : Prop :=
  ∃ record ∈ records, record.stream = some stream ∧ record.sequence = some m

namespace RmwAckNackTracker

open RmwSourceSequenceState

/-- Of the numbers seen of the stream, those with an unseen one below are inside the window. -/
def WindowHolds (windowSize : Int) (stream : List Str) (records : List AckRecord) : Prop :=
  ∀ highest, IsGreatest {m | Seen stream records m} highest →
    InWindow windowSize (Seen stream records) highest

/-- The record's feedback has the numbers that its stream has not seen as missing. -/
def ReportsGaps (t : RmwAckNackTracker) (before : List AckRecord) (record : AckRecord) : Prop :=
  ∀ stream sequence, record.stream = some stream → record.sequence = some sequence →
    ∃ feedback t' highest, t.observe record = some (some feedback, t') ∧
      IsGreatest {m | Seen stream (before ++ [record]) m} highest ∧
      Reports feedback.missingSequenceRanges fun m =>
        1 ≤ m ∧ m ≤ highest ∧ ¬Seen stream (before ++ [record]) m

section
variable {t : RmwAckNackTracker} {records before : List AckRecord} {record : AckRecord}
  {stream : List Str} {sequence windowSize : Int}

theorem seen_concat_of_observed (isStream : record.stream = some stream)
    (isNumber : record.sequence = some sequence) (m : Int) :
    (m = sequence ∨ Seen stream records m) ↔ Seen stream (records ++ [record]) m := by
  constructor
  · intro known
    cases known with
    | inl same => exact ⟨record, by simp, isStream, same ▸ isNumber⟩
    | inr old =>
        obtain ⟨r, among, isOld⟩ := old
        exact ⟨r, List.mem_append_left _ among, isOld⟩
  · intro known
    obtain ⟨r, among, isSame, isThis⟩ := known
    cases List.mem_append.mp among with
    | inl old => exact .inr ⟨r, old, isSame, isThis⟩
    | inr last =>
        obtain rfl := List.mem_singleton.mp last
        exact .inl (Option.some.inj (isThis.symm.trans isNumber))

theorem seen_concat_of_other (other : ∀ n, record.stream = some stream → record.sequence ≠ some n)
    (m : Int) : Seen stream records m ↔ Seen stream (records ++ [record]) m := by
  constructor
  · intro known
    obtain ⟨r, among, isOld⟩ := known
    exact ⟨r, List.mem_append_left _ among, isOld⟩
  · intro known
    obtain ⟨r, among, isSame, isThis⟩ := known
    cases List.mem_append.mp among with
    | inl old => exact ⟨r, old, isSame, isThis⟩
    | inr last =>
        obtain rfl := List.mem_singleton.mp last
        exact absurd isThis (other m isSame)

/-- The state of a stream, the default where it has none. -/
def stateOf (t : RmwAckNackTracker) (stream : List Str) : RmwSourceSequenceState :=
  (t.streams.get? stream).getD {}

theorem observe_of_observed (isStream : record.stream = some stream)
    (isNumber : record.sequence = some sequence) (exact_ : intOfFloat sequence = some sequence) :
    ∃ feedback t', t.observe record = some (some feedback, t') ∧
      feedback.missingSequenceRanges =
        ((t.stateOf stream).observe t.windowSize sequence).missingSequenceRanges ∧
      t'.windowSize = t.windowSize ∧
      t'.streams = t.streams.set stream ((t.stateOf stream).observe t.windowSize sequence) := by
  unfold observe
  rw [isStream, isNumber]
  dsimp only
  rw [exact_]
  exact ⟨_, _, rfl, rfl, rfl, rfl⟩

theorem after_of_observed (isStream : record.stream = some stream)
    (isNumber : record.sequence = some sequence) (exact_ : intOfFloat sequence = some sequence) :
    (t.after record).streams =
      t.streams.set stream ((t.stateOf stream).observe t.windowSize sequence) := by
  obtain ⟨feedback, t', observed, -, -, streams⟩ :=
    observe_of_observed (t := t) isStream isNumber exact_
  unfold after
  rw [observed]
  exact streams

/-- A record without a stream or a number changes nothing. -/
theorem after_of_unread (unread : record.stream = none ∨ record.sequence = none) :
    t.after record = t := by
  obtain ⟨key, number⟩ := record
  cases number with
  | none => cases key <;> rfl
  | some n =>
      cases key with
      | none =>
          unfold after observe
          dsimp only
          cases intOfFloat n <;> rfl
      | some k => cases unread <;> contradiction

@[simp] theorem windowSize_after : (t.after record).windowSize = t.windowSize := by
  obtain ⟨key, number⟩ := record
  cases key with
  | none => rw [after_of_unread (.inl rfl)]
  | some k =>
      cases number with
      | none => rw [after_of_unread (.inr rfl)]
      | some n =>
          unfold after observe
          dsimp only
          cases intOfFloat n <;> rfl

theorem windowSize_observeAll (t : RmwAckNackTracker) (records : List AckRecord) :
    (t.observeAll records).windowSize = t.windowSize := by
  induction records using List.reverseRecOn with
  | nil => rfl
  | append_singleton records record ih =>
      rw [observeAll, List.foldl_append]
      exact windowSize_after.trans ih

theorem stateOf_after (numbered : record.Numbered) (isStream : record.stream = some stream)
    (isNumber : record.sequence = some sequence) :
    (t.after record).stateOf stream = (t.stateOf stream).observe t.windowSize sequence := by
  rw [stateOf, after_of_observed isStream isNumber (numbered sequence isNumber).2,
    Dict.get?_set_self, Option.getD_some]

theorem stateOf_after_of_other (numbered : record.Numbered)
    (other : ∀ n, record.stream = some stream → record.sequence ≠ some n) :
    (t.after record).stateOf stream = t.stateOf stream := by
  cases isStream : record.stream with
  | none => rw [after_of_unread (.inl isStream)]
  | some k =>
      cases isNumber : record.sequence with
      | none => rw [after_of_unread (.inr isNumber)]
      | some n =>
          have apart : stream ≠ k := by
            intro same
            exact other n (same ▸ isStream) isNumber
          rw [stateOf, after_of_observed isStream isNumber (numbered n isNumber).2,
            Dict.get?_set_of_ne apart]
          rfl

/-- The states follow their streams as long as the window holds. -/
theorem follows_of_window (numbered : ∀ r ∈ records, r.Numbered) (stream : List Str)
    (holds : ∀ before, before <+: records → before ≠ records →
      WindowHolds (max 1 windowSize) stream before) :
    Follows (max 1 windowSize) (((init windowSize).observeAll records).stateOf stream)
      (Seen stream records) := by
  induction records using List.reverseRecOn with
  | nil =>
      apply Follows.start.congr
      intro m
      constructor
      · exact False.elim
      · intro seen
        obtain ⟨r, among, -⟩ := seen
        cases among
  | append_singleton records record ih =>
      have earlier : ∀ before, before <+: records → WindowHolds (max 1 windowSize) stream before := by
        intro before isPart
        apply holds before (isPart.trans (List.prefix_append _ _))
        intro same
        have := isPart.length_le
        rw [same, List.length_append, List.length_singleton] at this
        omega
      have follows := ih (fun r among => numbered r (List.mem_append_left _ among))
        fun before isPart _ => earlier before isPart
      have numbered := numbered record (List.mem_append_right _ (List.mem_singleton_self _))
      have size : ((init windowSize).observeAll records).windowSize = max 1 windowSize :=
        windowSize_observeAll _ _
      rw [observeAll, List.foldl_append]
      change Follows _ ((((init windowSize).observeAll records).after record).stateOf stream) _
      by_cases observed : ∃ n, record.stream = some stream ∧ record.sequence = some n
      · obtain ⟨n, isStream, isNumber⟩ := observed
        rw [stateOf_after numbered isStream isNumber, size]
        apply (follows.observe ?_).congr (seen_concat_of_observed isStream isNumber)
        intro h isHighest
        exact earlier records (List.prefix_refl _) h (follows.greatest h isHighest)
      · have other : ∀ n, record.stream = some stream → record.sequence ≠ some n :=
          fun n isStream isNumber => observed ⟨n, isStream, isNumber⟩
        rw [stateOf_after_of_other numbered other]
        exact follows.congr (seen_concat_of_other other)

/-- One record's feedback is exact exactly when the window holds with it, if it held before. -/
theorem reportsGaps_iff (size : t.windowSize = windowSize) (numbered : record.Numbered)
    (isStream : record.stream = some stream) (isNumber : record.sequence = some sequence)
    (follows : Follows windowSize (t.stateOf stream) (Seen stream before))
    (holds : WindowHolds windowSize stream before) :
    t.ReportsGaps before record ↔ WindowHolds windowSize stream (before ++ [record]) := by
  have exact_ := (numbered sequence isNumber).2
  have same := fun m => @seen_concat_of_observed before record stream sequence isStream isNumber m
  have inside : ∀ h, (t.stateOf stream).highestObservedSequence = some h →
      InWindow windowSize (Seen stream before) h := fun h isHighest =>
    holds h (follows.greatest h isHighest)
  have follows' := (follows.observe inside).congr same
  obtain ⟨feedback, t', observed, missing, -, -⟩ :=
    observe_of_observed (t := t) isStream isNumber exact_
  rw [size] at missing
  obtain ⟨contiguous, highest, ends, isHighest⟩ : ∃ contiguous highest,
      ((t.stateOf stream).observe windowSize sequence).highestContiguousSequence =
        some contiguous ∧
      ((t.stateOf stream).observe windowSize sequence).highestObservedSequence = some highest := by
    rw [observe_eq]
    exact ⟨_, _, rfl, rfl⟩
  have greatest := follows'.greatest highest isHighest
  have exactly := follows'.reports_iff ends isHighest
  rw [← missing] at exactly
  constructor
  · intro reports h isGreatest
    obtain ⟨feedback', t'', h', observed', isGreatest', ranges⟩ :=
      reports stream sequence isStream isNumber
    obtain rfl : feedback = feedback' := by
      rw [observed] at observed'
      exact Option.some.inj (Prod.mk.inj (Option.some.inj observed')).1
    rw [isGreatest.unique greatest]
    rw [isGreatest'.unique greatest] at ranges
    exact exactly.mp ranges
  · intro window stream' sequence' isStream' isNumber'
    obtain rfl := Option.some.inj (isStream.symm.trans isStream')
    obtain rfl := Option.some.inj (isNumber.symm.trans isNumber')
    exact ⟨feedback, t', highest, observed, greatest, exactly.mpr (window highest greatest)⟩

/-- Every feedback of a run names exactly the numbers that its stream has not seen if and only if
    at each point of the run no stream has seen a number behind a gap and outside the window. -/
theorem reports_gaps_iff (windowSize : Int) (records : List AckRecord)
    (numbered : ∀ r ∈ records, r.Numbered) :
    (∀ before record, before ++ [record] <+: records →
        ((init windowSize).observeAll before).ReportsGaps before record) ↔
      ∀ stream before, before <+: records → WindowHolds (max 1 windowSize) stream before := by
  have size : ∀ before, ((init windowSize).observeAll before).windowSize = max 1 windowSize :=
    fun before => windowSize_observeAll _ before
  constructor
  · intro reports stream
    -- Up to each point the window holds, since the feedback there is exact.
    have upTo : ∀ before, before <+: records → ∀ p, p <+: before →
        WindowHolds (max 1 windowSize) stream p := by
      intro before isPart
      induction before using List.reverseRecOn with
      | nil =>
          intro p isFirst h isGreatest
          obtain rfl := List.prefix_nil.mp isFirst
          obtain ⟨r, among, -⟩ := isGreatest.1
          cases among
      | append_singleton before record ih =>
          have earlier := ih ((List.prefix_append _ _).trans isPart)
          have numbered' : ∀ r ∈ before, r.Numbered := fun r among =>
            numbered r (isPart.subset (List.mem_append_left _ among))
          have last := numbered record
            (isPart.subset (List.mem_append_right _ (List.mem_singleton_self _)))
          intro p isFirst
          cases List.prefix_concat_iff.mp isFirst with
          | inr old => exact earlier p old
          | inl whole =>
              rw [whole]
              by_cases observed : ∃ n, record.stream = some stream ∧ record.sequence = some n
              · obtain ⟨n, isStream, isNumber⟩ := observed
                have follows := follows_of_window numbered' stream fun p isFirst _ =>
                  earlier p isFirst
                exact (reportsGaps_iff (size before) last isStream isNumber follows
                  (earlier before (List.prefix_refl _))).mp (reports before record isPart)
              · have other : ∀ n, record.stream = some stream → record.sequence ≠ some n :=
                  fun n isStream isNumber => observed ⟨n, isStream, isNumber⟩
                have same : Seen stream (before ++ [record]) = Seen stream before :=
                  funext fun m => propext (seen_concat_of_other other m).symm
                unfold WindowHolds
                rw [same]
                exact earlier before (List.prefix_refl _)
    exact fun before isPart => upTo before isPart before (List.prefix_refl _)
  · intro holds before record isPart stream sequence isStream isNumber
    have isPart' := (List.prefix_append before [record]).trans isPart
    have numbered' : ∀ r ∈ before, r.Numbered := fun r among =>
      numbered r (isPart'.subset among)
    have follows := follows_of_window numbered' stream
      fun p isFirst _ => holds stream p (isFirst.trans isPart')
    have last := numbered record
      (isPart.subset (List.mem_append_right _ (List.mem_singleton_self _)))
    exact (reportsGaps_iff (size before) last isStream isNumber follows
      (holds stream before isPart')).mpr (holds stream _ isPart) stream sequence isStream isNumber

/-- A record of one stream. -/
def recordOf (n : Int) : AckRecord := ⟨some [], some n⟩

theorem numbered_recordOf {n : Int} (positive : 1 ≤ n) (small : n.natAbs < 2 ^ 53) :
    (recordOf n).Numbered := by
  intro m isNumber
  obtain rfl := Option.some.inj isNumber
  exact ⟨positive, intOfFloat_of_lt small⟩

theorem seen_recordOf {numbers : List Int} {records : List AckRecord}
    (isPart : records <+: numbers.map recordOf) {m : Int} (seen : Seen stream records m) :
    m ∈ numbers := by
  obtain ⟨r, among, -, isNumber⟩ := seen
  obtain ⟨n, isElement, rfl⟩ := List.mem_map.mp (isPart.subset among)
  exact Option.some.inj isNumber ▸ isElement

/-- Numbers that are close to each other are inside the window. -/
theorem windowHolds_of_close {numbers : List Int} {records : List AckRecord}
    (isPart : records <+: numbers.map recordOf)
    (close : ∀ m ∈ numbers, ∀ n ∈ numbers, n - windowSize ≤ m) :
    WindowHolds windowSize stream records := by
  intro highest isGreatest m k seen _ _ _
  exact close m (seen_recordOf isPart seen) highest (seen_recordOf isPart isGreatest.1)

/-- A gap inside a window of two. -/
theorem reports_gaps_iff_oneGap :
    ((init 2).observeAll [recordOf 1]).ReportsGaps [recordOf 1] (recordOf 3) := by
  have numbered : ∀ r ∈ [1, 3].map recordOf, r.Numbered := by
    intro r among
    obtain ⟨n, isElement, rfl⟩ := List.mem_map.mp among
    apply numbered_recordOf <;> revert n <;> decide
  exact (reports_gaps_iff 2 ([1, 3].map recordOf) numbered).mpr
    (fun stream before isPart => windowHolds_of_close isPart (by decide)) _ _ (List.prefix_refl _)

/-- With a window of one, 3 is forgotten and asked for again once 5 has come. -/
theorem observed_requested_again :
    ¬((init 1).observeAll [recordOf 1, recordOf 3]).ReportsGaps [recordOf 1, recordOf 3]
      (recordOf 5) := by
  have numbered : ∀ r ∈ [1, 3, 5].map recordOf, r.Numbered := by
    intro r among
    obtain ⟨n, isElement, rfl⟩ := List.mem_map.mp among
    apply numbered_recordOf <;> revert n <;> decide
  have holds : ∀ before, before <+: [1, 3].map recordOf → WindowHolds (max 1 1) [] before := by
    intro before isPart highest isGreatest m k seen positive below _
    have known := seen_recordOf isPart seen
    have known' := seen_recordOf isPart isGreatest.1
    simp only [List.mem_cons, List.not_mem_nil, or_false] at known known'
    omega
  have early : ∀ r ∈ [1, 3].map recordOf, r.Numbered := fun r among =>
    numbered r ((List.prefix_append [recordOf 1, recordOf 3] [recordOf 5]).subset among)
  have follows := follows_of_window early [] fun before isPart _ => holds before isPart
  intro reports
  have window := (reportsGaps_iff (windowSize_observeAll (init 1) _) (numbered _ (by simp)) rfl rfl
    follows (holds _ (List.prefix_refl _))).mp reports
  have greatest : IsGreatest {m | Seen [] ([recordOf 1, recordOf 3] ++ [recordOf 5]) m} 5 := by
    constructor
    · exact ⟨recordOf 5, by simp, rfl, rfl⟩
    · intro m seen
      have known := seen_recordOf (List.prefix_refl ([1, 3, 5].map recordOf)) seen
      simp only [List.mem_cons, List.not_mem_nil, or_false] at known
      omega
  have three := window 5 greatest 3 2 ⟨recordOf 3, by simp, rfl, rfl⟩ (by decide) (by decide) (by
    intro seen
    have known := seen_recordOf (List.prefix_refl ([1, 3, 5].map recordOf)) seen
    simp at known)
  exact absurd three (by decide)

end

end RmwAckNackTracker

end FleetRMW.Rmw
