import Mathlib.Data.List.Sort
import Mathlib.Data.Prod.Lex
import FleetRMW.Rmw.Frames

/-! # Which samples have been received

`SequenceState` follows one publisher's sequence numbers: a set of those observed, a floor
that a baseline sets, and the end of the contiguous part, which observations and confirmed
losses move. The feedback acknowledges the numbers between the lowest observed one and that
end, so each of them must have been observed or confirmed lost.
-/

namespace FleetRMW.Rmw

open Lib

/-- The elements of a `std::set<std::uint64_t>`, in ascending order. -/
abbrev SequenceSet := List UInt64

namespace SequenceSet

def insert (sequence : UInt64) : SequenceSet → SequenceSet
  | [] => [sequence]
  | least :: rest =>
      if sequence < least then sequence :: least :: rest
      else if sequence = least then least :: rest
      else least :: insert sequence rest

/-- The elements from `lower_bound(sequence)` on. -/
def lowerBound (observed : SequenceSet) (sequence : UInt64) : SequenceSet :=
  observed.dropWhile (· < sequence)

theorem mem_insert {sequence n : UInt64} {observed : SequenceSet} :
    n ∈ insert sequence observed ↔ n = sequence ∨ n ∈ observed := by
  induction observed with
  | nil => simp only [insert, List.mem_singleton, List.not_mem_nil, or_false]
  | cons least rest ih =>
      unfold insert
      split
      · exact List.mem_cons
      · split
        case isTrue same =>
          rw [same, List.mem_cons]
          exact ⟨.inr, fun h => h.elim .inl id⟩
        case isFalse =>
          rw [List.mem_cons, List.mem_cons, ih]
          exact or_left_comm

theorem insert_ascending {sequence : UInt64} {observed : SequenceSet}
    (ascending : observed.Pairwise (· < ·)) : (insert sequence observed).Pairwise (· < ·) := by
  induction observed with
  | nil => exact List.pairwise_singleton _ _
  | cons least rest ih =>
      obtain ⟨first, later⟩ := List.pairwise_cons.mp ascending
      unfold insert
      split
      case isTrue less =>
        refine List.pairwise_cons.mpr ⟨?_, ascending⟩
        intro n isElement
        cases isElement with
        | head => exact less
        | tail _ isLater =>
            have := first n isLater
            grind
      case isFalse =>
        split
        · exact ascending
        · refine List.pairwise_cons.mpr ⟨?_, ih later⟩
          intro n isElement
          rcases mem_insert.mp isElement with rfl | isLater
          · grind
          · exact first n isLater

end SequenceSet

/-- `std::max`. -/
def stdMax (a b : UInt64) : UInt64 := if a < b then b else a

def maxSequence : UInt64 := UInt64.ofNat (2 ^ 64 - 1)

structure TimedMissingSequenceRange where
  first : UInt64
  last : UInt64
  firstObservedNs : Int64
  deriving Repr, DecidableEq

structure SequenceState where
  initialized : Bool := false
  receptionSequenceBaselineInitialized : Bool := false
  cumulativeAckFloor : UInt64 := 0
  highestContiguousSequence : UInt64 := 0
  highestObservedSequence : UInt64 := 0
  observedSequences : SequenceSet := []
  pendingMissingRanges : List TimedMissingSequenceRange := []
  confirmedLostRanges : List SequenceRange := []
  deriving Repr, DecidableEq

/-! ## Feedback -/

/-- The loop over the observed numbers from the next missing candidate on, and the range
    behind them. -/
def missingRanges (highest : UInt64) : UInt64 → SequenceSet → List SequenceRange
  | next, [] => if next ≤ highest then [(next, highest)] else []
  | next, observed :: rest =>
      if observed ≤ highest then
        if observed < next then missingRanges highest next rest
        else
          (if observed > next then [(next, observed - 1)] else []) ++
            if observed = maxSequence then [] else missingRanges highest (observed + 1) rest
      else if next ≤ highest then [(next, highest)] else []

def feedbackFromSequenceState (s : SequenceState) : AckNackFeedback where
  missingSequenceRanges :=
    if s.highestContiguousSequence ≥ s.highestObservedSequence ∨
        s.highestContiguousSequence = maxSequence then []
    else
      let next := s.highestContiguousSequence + 1
      missingRanges s.highestObservedSequence next (s.observedSequences.lowerBound next)
  lowestObservedSequence :=
    match s.observedSequences with
    | [] => 0
    | lowest :: _ =>
        if s.cumulativeAckFloor > 0 then stdMax lowest s.cumulativeAckFloor else lowest
  highestContiguousSequence := s.highestContiguousSequence
  highestObservedSequence := s.highestObservedSequence

/-- `while (observed.find(contiguous + 1) != observed.end()) ++contiguous`. A set with less
    than all numbers ends it within as many turns as it has elements (`advance_stops`). -/
def advance (observed : SequenceSet) : Nat → UInt64 → UInt64
  | 0, contiguous => contiguous
  | turns + 1, contiguous =>
      if contiguous + 1 ∈ observed then advance observed turns (contiguous + 1) else contiguous

/-- The same loop with a check against the largest number. -/
def advanceGuarded (observed : SequenceSet) : Nat → UInt64 → UInt64
  | 0, contiguous => contiguous
  | turns + 1, contiguous =>
      if contiguous ≠ maxSequence ∧ contiguous + 1 ∈ observed then
        advanceGuarded observed turns (contiguous + 1)
      else contiguous

def observeFrame (s : SequenceState) (frame : DataFrame) : AckNackFeedback × SequenceState :=
  let sequence := frame.sourceSequenceNumber
  let observed := s.observedSequences.insert sequence
  let s' := { s with
    initialized := true
    observedSequences := observed
    highestObservedSequence := stdMax s.highestObservedSequence sequence
    highestContiguousSequence := advance observed observed.length s.highestContiguousSequence }
  ({ feedbackFromSequenceState s' with
      duplicate := sequence ∈ s.observedSequences
      outOfOrder := s.initialized && sequence < s.highestObservedSequence }, s')

def establishReceptionSequenceBaseline (s : SequenceState) : AckNackFeedback × SequenceState :=
  let s := { s with
    receptionSequenceBaselineInitialized := true
    cumulativeAckFloor := s.highestObservedSequence
    highestContiguousSequence := s.highestObservedSequence
    pendingMissingRanges := [] }
  (feedbackFromSequenceState s, s)

def ackNackAcknowledgesSequence (frame : AckNackFrame) (sequence : UInt64) : Bool :=
  sequence = frame.ackSequenceNumber ||
    (frame.lowestObservedSequence > 0 &&
      frame.lowestObservedSequence ≤ frame.highestContiguousSequence &&
      sequence ≥ frame.lowestObservedSequence && sequence ≤ frame.highestContiguousSequence)

/-! ## Confirmed losses -/

/-- One turn of the merging loop. -/
def mergeRange (merged : List SequenceRange) (range : SequenceRange) : List SequenceRange :=
  match merged.getLast? with
  | none => [range]
  | some previous =>
      if range.1 ≤ previous.2 ∨ (previous.2 ≠ maxSequence ∧ range.1 = previous.2 + 1) then
        merged.dropLast ++ [(previous.1, stdMax previous.2 range.2)]
      else merged ++ [range]

/-- The order of `std::sort` on pairs. -/
def rangeLe (x y : SequenceRange) : Bool := x.1 < y.1 || (x.1 = y.1 && x.2 ≤ y.2)

def mergeConfirmedLostRange (ranges : List SequenceRange) (range : SequenceRange) :
    List SequenceRange :=
  if range.1 = 0 ∨ range.1 > range.2 then ranges
  else ((ranges ++ [range]).insertionSort fun x y => rangeLe x y).foldl mergeRange []

def maxCount : Nat := 2 ^ 64 - 1

def confirmedLostRangeCount (range : SequenceRange) : Nat :=
  if range.1 = 0 ∨ range.1 > range.2 then 0
  else min ((range.2 - range.1).toNat + 1) maxCount

/-- The outer loop: each turn but the last takes one range off. It gives the ranges that
    are left, the end of the contiguous part, and the count. -/
def consumeLostRanges (observed : SequenceSet) :
    List SequenceRange → UInt64 → Nat → List SequenceRange × UInt64 × Nat
  | [], contiguous, lost => ([], advanceGuarded observed observed.length contiguous, lost)
  | first :: rest, contiguous, lost =>
      let contiguous := advanceGuarded observed observed.length contiguous
      if first.2 ≤ contiguous then consumeLostRanges observed rest contiguous lost
      else if first.1 ≤ contiguous ∧ contiguous = maxSequence then ([], contiguous, lost)
      else
        let first := if first.1 ≤ contiguous then (contiguous + 1, first.2) else first
        if contiguous = maxSequence ∨ first.1 ≠ contiguous + 1 then
          (first :: rest, contiguous, lost)
        else
          consumeLostRanges observed rest first.2
            (min (lost + confirmedLostRangeCount first) maxCount)

/-- `apply_confirmed_lost_ranges_locked`. -/
def applyConfirmedLostRanges (s : SequenceState) (ranges : List SequenceRange) :
    Nat × SequenceState :=
  if !s.initialized then (0, s)
  else
    let merged := ranges.foldl mergeConfirmedLostRange s.confirmedLostRanges
    let (left, contiguous, lost) :=
      consumeLostRanges s.observedSequences merged s.highestContiguousSequence 0
    (lost, { s with confirmedLostRanges := left, highestContiguousSequence := contiguous })

end FleetRMW.Rmw
