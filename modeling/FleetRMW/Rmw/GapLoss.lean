import FleetRMW.Rmw.LossAccount

/-! # Gaps of a best-effort stream

A best-effort subscription asks for no repair. It keeps the ranges of the numbers that it lacks,
each with the time at which they were found missing, and counts them as lost once they have been
missing for a time of grace.
-/

namespace FleetRMW.Rmw

open Lib

/-! ## The functions -/

def stdMin (a b : UInt64) : UInt64 := if b < a then b else a

def appendPendingMissingRange (ranges : List TimedMissingSequenceRange) (first last : UInt64)
    (firstObservedNs : Int64) : List TimedMissingSequenceRange :=
  if first = 0 ∨ first > last then ranges
  else match ranges.getLast? with
    | none => [⟨first, last, firstObservedNs⟩]
    | some previous =>
        if previous.firstObservedNs = firstObservedNs ∧ previous.last ≠ maxSequence ∧
            previous.last + 1 = first then
          ranges.dropLast ++ [{ previous with last }]
        else ranges ++ [⟨first, last, firstObservedNs⟩]

/-- The loop over the previous ranges for one missing range, with the part behind it. -/
def trackMissingRange (receiveNs : Int64) (missing : SequenceRange) :
    List TimedMissingSequenceRange → UInt64 → List TimedMissingSequenceRange →
      List TimedMissingSequenceRange
  | [], cursor, updated =>
      if cursor ≤ missing.2 then appendPendingMissingRange updated cursor missing.2 receiveNs
      else updated
  | previous :: rest, cursor, updated =>
      if previous.last < cursor then trackMissingRange receiveNs missing rest cursor updated
      else if previous.first > missing.2 then
        if cursor ≤ missing.2 then appendPendingMissingRange updated cursor missing.2 receiveNs
        else updated
      else
        let updated := if previous.first > cursor then
            appendPendingMissingRange updated cursor (stdMin missing.2 (previous.first - 1)) receiveNs
          else updated
        let overlapFirst := stdMax cursor previous.first
        let overlapLast := stdMin missing.2 previous.last
        let updated := if overlapFirst ≤ overlapLast then
            appendPendingMissingRange updated overlapFirst overlapLast previous.firstObservedNs
          else updated
        if overlapLast ≥ missing.2 ∨ overlapLast = maxSequence then updated
        else trackMissingRange receiveNs missing rest (overlapLast + 1) updated

/-- `track_best_effort_sequence_gaps_locked` -/
def trackBestEffortSequenceGaps (s : SequenceState) (feedback : AckNackFeedback)
    (receiveNs : Int64) : SequenceState :=
  let track := fun updated missing =>
    trackMissingRange receiveNs missing s.pendingMissingRanges missing.1 updated
  { s with pendingMissingRanges := feedback.missingSequenceRanges.foldl track [] }

def missingSequenceRangeCount (range : TimedMissingSequenceRange) : Nat :=
  if range.first = 0 ∨ range.first > range.last then 0
  else if (range.last - range.first).toNat ≥ maxCount then maxCount
  else (range.last - range.first).toNat + 1

/-- The loop over the pending ranges of a stream. It gives the ranges that are left, the end of
    the contiguous part, and the count. -/
def finalizePending (graceNs nowNs : Int64) (observed : SequenceSet) :
    List TimedMissingSequenceRange → UInt64 → Nat → List TimedMissingSequenceRange × UInt64 × Nat
  | [], contiguous, lost => ([], contiguous, lost)
  | first :: rest, contiguous, lost =>
      if first.last ≤ contiguous then finalizePending graceNs nowNs observed rest contiguous lost
      else if first.first ≤ contiguous ∧ contiguous = maxSequence then ([], contiguous, lost)
      else
        let first := if first.first ≤ contiguous then { first with first := contiguous + 1 }
          else first
        if contiguous = maxSequence ∨ first.first ≠ contiguous + 1 then
          (first :: rest, contiguous, lost)
        else if nowNs < first.firstObservedNs ∨ nowNs - first.firstObservedNs < graceNs then
          (first :: rest, contiguous, lost)
        else
          finalizePending graceNs nowNs observed rest
            (advanceGuarded observed observed.length first.last)
            (min (lost + missingSequenceRangeCount first) maxCount)

/-- One stream's turn in `finalize_best_effort_sequence_gaps_locked`. -/
def finalizeBestEffortSequenceGaps (graceNs nowNs : Int64) (s : SequenceState) :
    Nat × SequenceState :=
  let (pending, contiguous, lost) := finalizePending graceNs nowNs s.observedSequences
    s.pendingMissingRanges s.highestContiguousSequence 0
  (lost, { s with pendingMissingRanges := pending, highestContiguousSequence := contiguous })

/-- A frame's arrival at the stream: it is observed, the first one sets the baseline, and the gaps
    are tracked. -/
def receiveBestEffort (s : SequenceState) (frame : DataFrame) (receiveNs : Int64) : SequenceState :=
  let (feedback, observed) := observeFrame s frame
  let (feedback, observed) :=
    if !s.receptionSequenceBaselineInitialized then establishReceptionSequenceBaseline observed
    else (feedback, observed)
  trackBestEffortSequenceGaps observed feedback receiveNs

/-! ## Runs -/

/-- The number is missing: it is behind the contiguous part, not above the highest number and has
    not been observed. -/
def Missing (s : SequenceState) (n : Nat) : Prop :=
  s.highestContiguousSequence.toNat < n ∧ n ≤ s.highestObservedSequence.toNat ∧
    ∀ o ∈ s.observedSequences, o.toNat ≠ n

instance (s : SequenceState) (n : Nat) : Decidable (Missing s n) :=
  letI := List.decidableBAll (fun o : UInt64 => o.toNat ≠ n) s.observedSequences
  inferInstanceAs (Decidable (_ ∧ _ ∧ _))

/-- A count that was returned, with what it was counted from. -/
structure GapCount where
  count : Nat
  state : SequenceState
  firstMissing : Nat → Option Int64
  nowNs : Int64

/-- The stream, the clock, since when each number has been missing, and what was counted. -/
structure GapRun where
  state : SequenceState := {}
  clockNs : Int64 := 0
  firstMissing : Nat → Option Int64 := fun _ => none
  counts : List GapCount := []

inductive GapEvent where
  | receive (frame : DataFrame) (receiveNs : Int64)
  | finalize (nowNs : Int64)

namespace GapRun

variable (graceNs : Int64)

/-- Numbers that have become missing are so from this time on. -/
def notice (firstMissing : Nat → Option Int64) (s : SequenceState) (receiveNs : Int64) (n : Nat) :
    Option Int64 :=
  if firstMissing n = none ∧ Missing s n then some receiveNs else firstMissing n

def receive (r : GapRun) (frame : DataFrame) (receiveNs : Int64) : GapRun :=
  let state := receiveBestEffort r.state frame receiveNs
  { r with state, clockNs := receiveNs, firstMissing := notice r.firstMissing state receiveNs }

def finalize (r : GapRun) (nowNs : Int64) : GapRun :=
  let (count, state) := finalizeBestEffortSequenceGaps graceNs nowNs r.state
  { r with
    state
    clockNs := nowNs
    counts := r.counts ++ [⟨count, r.state, r.firstMissing, nowNs⟩] }

/-- The clock does not go back. -/
def step (r : GapRun) : GapEvent → Option GapRun
  | .receive frame receiveNs => if receiveNs < r.clockNs then none else some (r.receive frame receiveNs)
  | .finalize nowNs => if nowNs < r.clockNs then none else some (r.finalize graceNs nowNs)

/-- What was found missing at this time has been missing for the time of grace. -/
def Ripe (nowNs firstMissingNs : Int64) : Prop :=
  graceNs.toInt ≤ nowNs.toInt - firstMissingNs.toInt

/-- The numbers are those that were missing for the time of grace, and they are counted. -/
structure CountOf (numbers : List Nat) (c : GapCount) : Prop where
  length : numbers.length = c.count
  exact_ : ∀ n, n ∈ numbers ↔
    Missing c.state n ∧ ∃ t, c.firstMissing n = some t ∧ Ripe graceNs c.nowNs t

/-- A pending range with this time has the number. -/
def TimedIn (ranges : List TimedMissingSequenceRange) (n : Nat) (t : Int64) : Prop :=
  ∃ r ∈ ranges, r.first.toNat ≤ n ∧ n ≤ r.last.toNat ∧ r.firstObservedNs = t

/-- The pending ranges are the missing numbers with the time since when they are, each count was
    of those that had been missing long enough, and no number was counted twice. -/
structure Exact (r : GapRun) : Prop where
  pending : ∀ n t, TimedIn r.state.pendingMissingRanges n t ↔
    Missing r.state n ∧ r.firstMissing n = some t
  known : ∀ n, Missing r.state n → (r.firstMissing n).isSome
  counted : ∃ numbers : List (List Nat), List.Forall₂ (CountOf graceNs) numbers r.counts ∧
    numbers.flatten.Nodup

/-- The contiguous part does not come round to zero. -/
def Fits (r : GapRun) : GapEvent → Prop
  | .receive frame _ =>
      Unwrapped (r.state.observedSequences.insert frame.sourceSequenceNumber)
        r.state.highestContiguousSequence
  | .finalize _ => True

end GapRun

/-! ## Lists of pending ranges -/

section

open GapRun (TimedIn)

variable {ranges updated previous : List TimedMissingSequenceRange} {first last cursor : UInt64}
  {receiveNs t : Int64} {n lowest highest : Nat} {missing : SequenceRange}

/-- The ranges ascend without overlaps. -/
structure Ordered (ranges : List TimedMissingSequenceRange) : Prop where
  inhabited : ∀ r ∈ ranges, r.first.toNat ≤ r.last.toNat
  ascending : ranges.Pairwise fun r r' => r.last.toNat < r'.first.toNat

/-- The list has become longer by numbers up to `highest`. -/
structure Extends (ranges extended : List TimedMissingSequenceRange) (highest : Nat)
    (added : Nat → Int64 → Prop) : Prop where
  ordered : Ordered extended
  bounded : ∀ r ∈ extended, r.last.toNat ≤ highest
  timed : ∀ n t, TimedIn extended n t ↔ TimedIn ranges n t ∨ added n t

theorem timedIn_append {ranges' : List TimedMissingSequenceRange} :
    TimedIn (ranges ++ ranges') n t ↔ TimedIn ranges n t ∨ TimedIn ranges' n t := by
  unfold TimedIn
  simp only [List.mem_append, or_and_right, exists_or]

theorem timedIn_singleton {r : TimedMissingSequenceRange} : TimedIn [r] n t ↔
    r.first.toNat ≤ n ∧ n ≤ r.last.toNat ∧ r.firstObservedNs = t := by
  unfold TimedIn
  simp only [List.mem_singleton, exists_eq_left]

theorem Ordered.nil : Ordered [] where
  inhabited _ among := absurd among List.not_mem_nil
  ascending := .nil

theorem Ordered.concat {r : TimedMissingSequenceRange} (ordered : Ordered ranges)
    (le : r.first.toNat ≤ r.last.toNat)
    (behind : ∀ r' ∈ ranges, r'.last.toNat < r.first.toNat) : Ordered (ranges ++ [r]) where
  inhabited := by
    intro r' among
    cases List.mem_append.mp among with
    | inl before => exact ordered.inhabited r' before
    | inr now =>
        rw [List.mem_singleton.mp now]
        exact le
  ascending := by
    apply List.pairwise_append.mpr
    refine ⟨ordered.ascending, List.pairwise_singleton _ _, ?_⟩
    intro r' among r'' now
    rw [List.mem_singleton.mp now]
    exact behind r' among

theorem Ordered.init {r : TimedMissingSequenceRange} (ordered : Ordered (ranges ++ [r])) :
    Ordered ranges ∧ r.first.toNat ≤ r.last.toNat ∧
      ∀ r' ∈ ranges, r'.last.toNat < r.first.toNat := by
  obtain ⟨ascending, -, behind⟩ := List.pairwise_append.mp ordered.ascending
  refine ⟨⟨?_, ascending⟩, ?_, ?_⟩
  · exact fun r' among => ordered.inhabited r' (List.mem_append_left _ among)
  · exact ordered.inhabited r (List.mem_append_right _ (List.mem_singleton_self r))
  · exact fun r' among => behind r' among r (List.mem_singleton_self r)

variable (first last t) in
theorem extends_append (ordered : Ordered ranges) (positive : first ≠ 0)
    (le : first.toNat ≤ last.toNat) (behind : ∀ r ∈ ranges, r.last.toNat < first.toNat) :
    Extends ranges (appendPendingMissingRange ranges first last t) last.toNat
      fun n t' => first.toNat ≤ n ∧ n ≤ last.toNat ∧ t = t' := by
  have proper : ¬(first = 0 ∨ first > last) := by
    intro improper
    cases improper with
    | inl zero => exact positive zero
    | inr inverted =>
        have := UInt64.lt_iff_toNat_lt.mp inverted
        omega
  have appended : Extends ranges (ranges ++ [⟨first, last, t⟩]) last.toNat
      fun n t' => first.toNat ≤ n ∧ n ≤ last.toNat ∧ t = t' := by
    refine ⟨ordered.concat le behind, ?_, ?_⟩
    · intro r among
      cases List.mem_append.mp among with
      | inl before => exact (behind r before).le.trans le
      | inr now => rw [List.mem_singleton.mp now]
    · intro n t'
      rw [timedIn_append, timedIn_singleton]
  unfold appendPendingMissingRange
  rw [if_neg proper]
  cases isLast : ranges.getLast? with
  | none =>
      rw [List.getLast?_eq_none_iff.mp isLast] at appended ⊢
      exact appended
  | some previous =>
      dsimp only
      split
      case isFalse => exact appended
      case isTrue adjacent =>
        obtain ⟨sameTime, notLargest, next⟩ := adjacent
        obtain ⟨init, rfl⟩ := List.getLast?_eq_some_iff.mp isLast
        obtain ⟨ordered, previousLe, before⟩ := ordered.init
        have next := congrArg UInt64.toNat next
        rw [toNat_succ notLargest] at next
        rw [List.dropLast_concat]
        refine ⟨ordered.concat ?_ before, ?_, ?_⟩
        · change previous.first.toNat ≤ last.toNat
          omega
        · intro r among
          cases List.mem_append.mp among with
          | inl early =>
              have := before r early
              omega
          | inr now => rw [List.mem_singleton.mp now]
        · intro n t'
          rw [timedIn_append, timedIn_append, timedIn_singleton, timedIn_singleton, or_assoc]
          apply or_congr_right
          rw [sameTime]
          constructor
          · intro inside
            obtain ⟨low, high, same⟩ := inside
            change n ≤ last.toNat at high
            by_cases old : n ≤ previous.last.toNat
            · exact .inl ⟨low, old, same⟩
            · exact .inr ⟨by omega, high, same⟩
          · intro inside
            cases inside with
            | inl old =>
                refine ⟨old.1, ?_, old.2.2⟩
                change n ≤ last.toNat
                omega
            | inr new =>
                refine ⟨?_, new.2.1, new.2.2⟩
                change previous.first.toNat ≤ n
                omega

theorem Extends.trans {extended extended' : List TimedMissingSequenceRange} {highest' : Nat}
    {added added' added'' : Nat → Int64 → Prop} (first : Extends ranges extended highest added)
    (second : Extends extended extended' highest' added')
    (both : ∀ n t, added'' n t ↔ added n t ∨ added' n t) :
    Extends ranges extended' highest' added'' where
  ordered := second.ordered
  bounded := second.bounded
  timed n t := by rw [second.timed, first.timed, both, or_assoc]

theorem Extends.congr {extended : List TimedMissingSequenceRange}
    {added added' : Nat → Int64 → Prop} (h : Extends ranges extended highest added)
    (same : ∀ n t, added' n t ↔ added n t) : Extends ranges extended highest added' where
  ordered := h.ordered
  bounded := h.bounded
  timed n t := by rw [h.timed, same]

/-- The time of the range that has the number, or another one if none does. -/
def stampIn (otherwise : Int64) : List TimedMissingSequenceRange → Nat → Int64
  | [], _ => otherwise
  | r :: rest, n =>
      if r.first.toNat ≤ n ∧ n ≤ r.last.toNat then r.firstObservedNs else stampIn otherwise rest n

theorem stampIn_of_before (before : ∀ r ∈ ranges, n < r.first.toNat) :
    stampIn t ranges n = t := by
  induction ranges with
  | nil => rfl
  | cons r rest ih =>
      have here := before r List.mem_cons_self
      rw [stampIn, if_neg (by omega)]
      exact ih fun r' among => before r' (List.mem_cons_of_mem _ among)

theorem toNat_stdMax (a b : UInt64) : (stdMax a b).toNat = max a.toNat b.toNat := by
  unfold stdMax
  split
  case isTrue less =>
    have := UInt64.lt_iff_toNat_lt.mp less
    omega
  case isFalse notLess =>
    have := Nat.not_lt.mp (mt UInt64.lt_iff_toNat_lt.mpr notLess)
    omega

theorem toNat_stdMin (a b : UInt64) : (stdMin a b).toNat = min a.toNat b.toNat := by
  unfold stdMin
  split
  case isTrue less =>
    have := UInt64.lt_iff_toNat_lt.mp less
    omega
  case isFalse notLess =>
    have := Nat.not_lt.mp (mt UInt64.lt_iff_toNat_lt.mpr notLess)
    omega

theorem extends_remainder (start : Ordered updated) (positive : cursor ≠ 0)
    (le : cursor.toNat ≤ missing.2.toNat) (behind : ∀ r ∈ updated, r.last.toNat < cursor.toNat) :
    Extends updated (if cursor ≤ missing.2 then
        appendPendingMissingRange updated cursor missing.2 receiveNs else updated) missing.2.toNat
      fun n t => cursor.toNat ≤ n ∧ n ≤ missing.2.toNat ∧ receiveNs = t := by
  rw [if_pos (UInt64.le_iff_toNat_le.mpr le)]
  exact extends_append cursor missing.2 receiveNs start positive le behind

variable (receiveNs) in
/-- The part of a missing range up to the end of its overlap with a previous range. -/
theorem extends_overlap {r : TimedMissingSequenceRange} {rest : List TimedMissingSequenceRange}
    (later : ∀ r' ∈ rest, r.last.toNat < r'.first.toNat) (inhabited : r.first.toNat ≤ r.last.toNat)
    (start : Ordered updated) (positive : cursor ≠ 0) (le : cursor.toNat ≤ missing.2.toNat)
    (behind : ∀ r ∈ updated, r.last.toNat < cursor.toNat) (reaches : cursor.toNat ≤ r.last.toNat)
    (within : r.first.toNat ≤ missing.2.toNat) :
    let before := if r.first > cursor then
        appendPendingMissingRange updated cursor (stdMin missing.2 (r.first - 1)) receiveNs
      else updated
    let overlapFirst := stdMax cursor r.first
    let overlapLast := stdMin missing.2 r.last
    Extends updated (if overlapFirst ≤ overlapLast then
        appendPendingMissingRange before overlapFirst overlapLast r.firstObservedNs
      else before) overlapLast.toNat
      fun n t => cursor.toNat ≤ n ∧ n ≤ overlapLast.toNat ∧
        stampIn receiveNs (r :: rest) n = t := by
  intro before overlapFirst overlapLast
  have isFirst : overlapFirst.toNat = max cursor.toNat r.first.toNat := toNat_stdMax _ _
  have isLast : overlapLast.toNat = min missing.2.toNat r.last.toNat := toNat_stdMin _ _
  have positiveNat : cursor.toNat ≠ 0 := fun zero => positive (UInt64.toNat_inj.mp zero)
  have uncovered : Extends updated before (overlapFirst.toNat - 1)
      fun n t => cursor.toNat ≤ n ∧ n < overlapFirst.toNat ∧ receiveNs = t := by
    by_cases gap : r.first > cursor
    · have wide := UInt64.lt_iff_toNat_lt.mp gap
      have pred : (r.first - 1).toNat = r.first.toNat - 1 := by
        apply toNat_pred
        rw [UInt64.lt_iff_toNat_lt]
        exact Nat.zero_lt_of_lt wide
      have upTo : (stdMin missing.2 (r.first - 1)).toNat = overlapFirst.toNat - 1 := by
        rw [toNat_stdMin, pred, isFirst]
        omega
      have extended := extends_append cursor (stdMin missing.2 (r.first - 1)) receiveNs start
        positive (by omega) behind
      rw [upTo] at extended
      simp only [before, if_pos gap]
      apply extended.congr
      intro n t
      grind
    · have none := Nat.not_lt.mp (mt UInt64.lt_iff_toNat_lt.mpr gap)
      simp only [before, if_neg gap]
      refine ⟨start, ?_, ?_⟩
      · intro r' among
        have := behind r' among
        omega
      · intro n t
        constructor
        · exact .inl
        · intro either
          cases either with
          | inl old => exact old
          | inr impossible => omega
  have covered := extends_append overlapFirst overlapLast r.firstObservedNs uncovered.ordered
    (by intro zero; rw [zero] at isFirst; change 0 = _ at isFirst; omega) (by omega) (by
      intro r' among
      have := uncovered.bounded r' among
      omega)
  rw [if_pos (UInt64.le_iff_toNat_le.mpr (by omega))]
  apply uncovered.trans covered
  intro n t
  rw [stampIn]
  by_cases early : n < overlapFirst.toNat
  · by_cases reached : cursor.toNat ≤ n
    · have unseen : stampIn receiveNs rest n = receiveNs := by
        apply stampIn_of_before
        intro r' among
        have := later r' among
        omega
      rw [if_neg (by omega), unseen]
      grind
    · grind
  · by_cases inside : n ≤ overlapLast.toNat
    · rw [if_pos (by omega)]
      grind
    · grind

variable (receiveNs missing cursor) in
/-- A missing range is appended with the times of the previous ranges where they have it. -/
theorem extends_trackMissingRange (ordered : Ordered previous) (start : Ordered updated)
    (positive : cursor ≠ 0) (le : cursor.toNat ≤ missing.2.toNat)
    (behind : ∀ r ∈ updated, r.last.toNat < cursor.toNat) :
    Extends updated (trackMissingRange receiveNs missing previous cursor updated) missing.2.toNat
      fun n t => cursor.toNat ≤ n ∧ n ≤ missing.2.toNat ∧ stampIn receiveNs previous n = t := by
  induction previous generalizing cursor updated with
  | nil => exact extends_remainder start positive le behind
  | cons r rest ih =>
      obtain ⟨later, ascending⟩ := List.pairwise_cons.mp ordered.ascending
      have inhabited := ordered.inhabited r List.mem_cons_self
      have tail : Ordered rest :=
        ⟨fun r' among => ordered.inhabited r' (List.mem_cons_of_mem _ among), ascending⟩
      have positiveNat : cursor.toNat ≠ 0 := fun zero => positive (UInt64.toNat_inj.mp zero)
      unfold trackMissingRange
      by_cases passed : r.last < cursor
      · have passed' := UInt64.lt_iff_toNat_lt.mp passed
        rw [if_pos passed]
        apply (ih cursor tail start positive le behind).congr
        intro n t
        rw [stampIn]
        constructor
        · intro inside
          rw [if_neg (by omega)] at inside
          exact inside
        · intro inside
          rw [if_neg (by omega)]
          exact inside
      rw [if_neg passed]
      have reaches := Nat.not_lt.mp (mt UInt64.lt_iff_toNat_lt.mpr passed)
      by_cases beyond : r.first > missing.2
      · have beyond' := UInt64.lt_iff_toNat_lt.mp beyond
        rw [if_pos beyond]
        apply (extends_remainder start positive le behind).congr
        intro n t
        apply and_congr_right
        intro _
        apply and_congr_right
        intro high
        rw [stampIn_of_before]
        intro r' among
        cases List.mem_cons.mp among with
        | inl same => rw [same]; omega
        | inr further => have := later r' further; omega
      rw [if_neg beyond]
      have within := Nat.not_lt.mp (mt UInt64.lt_iff_toNat_lt.mpr beyond)
      have overlap := extends_overlap receiveNs later inhabited start positive le
        behind reaches within
      have isLast := toNat_stdMin missing.2 r.last
      dsimp only at overlap ⊢
      by_cases complete : stdMin missing.2 r.last ≥ missing.2 ∨ stdMin missing.2 r.last = maxSequence
      · have all : (stdMin missing.2 r.last).toNat = missing.2.toNat := by
          cases complete with
          | inl reached =>
              have := UInt64.le_iff_toNat_le.mp reached
              omega
          | inr largest =>
              have := le_maxSequence missing.2
              rw [largest] at isLast ⊢
              omega
        rw [if_pos complete]
        rw [all] at overlap
        exact overlap
      · rw [if_neg complete]
        have notLargest : stdMin missing.2 r.last ≠ maxSequence := fun same => complete (.inr same)
        have some_left := Nat.not_le.mp
          (mt UInt64.le_iff_toNat_le.mpr fun reached => complete (.inl reached))
        have next := toNat_succ notLargest
        have further := ih (stdMin missing.2 r.last + 1) tail overlap.ordered
          (by intro zero; rw [zero] at next; exact absurd next (Nat.succ_ne_zero _).symm)
          (by omega) (by
            intro r' among
            have := overlap.bounded r' among
            omega)
        apply overlap.trans further
        intro n t
        rw [stampIn]
        by_cases early : n ≤ (stdMin missing.2 r.last).toNat
        · grind
        · rw [if_neg (by omega), next]
          constructor
          · exact fun inside => .inr ⟨by omega, inside.2⟩
          · intro either
            cases either with
            | inl front => exact absurd front.2.1 early
            | inr back => exact ⟨by omega, back.2⟩

theorem Ordered.tail {r : TimedMissingSequenceRange} (ordered : Ordered (r :: ranges)) :
    Ordered ranges where
  inhabited r' among := ordered.inhabited r' (List.mem_cons_of_mem _ among)
  ascending := (List.pairwise_cons.mp ordered.ascending).2

variable (receiveNs) in
/-- The missing ranges, one after the other, with the times of the previous ranges. -/
theorem track_spec {missingRanges : List SequenceRange} (ordered : Ordered previous)
    (start : Ordered updated)
    (proper : ∀ m ∈ missingRanges, m.1 ≠ 0 ∧ m.1.toNat ≤ m.2.toNat)
    (apart : missingRanges.Pairwise fun m m' => m.2.toNat < m'.1.toNat)
    (behind : ∀ m ∈ missingRanges, ∀ r ∈ updated, r.last.toNat < m.1.toNat) :
    let tracked := missingRanges.foldl
      (fun updated missing => trackMissingRange receiveNs missing previous missing.1 updated) updated
    Ordered tracked ∧ ∀ n t, TimedIn tracked n t ↔ TimedIn updated n t ∨
      (∃ m ∈ missingRanges, m.1.toNat ≤ n ∧ n ≤ m.2.toNat) ∧ stampIn receiveNs previous n = t := by
  induction missingRanges generalizing updated with
  | nil => simpa using start
  | cons m rest ih =>
      obtain ⟨later, apart⟩ := List.pairwise_cons.mp apart
      obtain ⟨positive, le⟩ := proper m List.mem_cons_self
      have extended := extends_trackMissingRange m.1 receiveNs m ordered start positive le
        (behind m List.mem_cons_self)
      obtain ⟨orderedAll, timed⟩ := ih extended.ordered
        (fun m' among => proper m' (List.mem_cons_of_mem _ among)) apart (by
          intro m' among r isIn
          exact (extended.bounded r isIn).trans_lt (later m' among))
      refine ⟨orderedAll, ?_⟩
      intro n t
      rw [List.foldl_cons, timed, extended.timed, or_assoc]
      apply or_congr_right
      simp only [List.exists_mem_cons_iff]
      grind

theorem stampIn_of_timedIn (ordered : Ordered ranges) (timed : TimedIn ranges n t)
    (otherwise : Int64) : stampIn otherwise ranges n = t := by
  induction ranges with
  | nil =>
      obtain ⟨r, among, -⟩ := timed
      exact absurd among List.not_mem_nil
  | cons r rest ih =>
      obtain ⟨r', among, low, high, same⟩ := timed
      rw [stampIn]
      cases List.mem_cons.mp among with
      | inl here =>
          rw [here] at low high same
          rw [if_pos ⟨low, high⟩, same]
      | inr further =>
          have apart := (List.pairwise_cons.mp ordered.ascending).1 r' further
          rw [if_neg (by omega)]
          exact ih ordered.tail ⟨r', further, low, high, same⟩

theorem stampIn_of_not_timedIn {otherwise : Int64} (untimed : ∀ t, ¬TimedIn ranges n t) :
    stampIn otherwise ranges n = otherwise := by
  induction ranges with
  | nil => rfl
  | cons r rest ih =>
      rw [stampIn, if_neg]
      · apply ih
        intro t timed
        obtain ⟨r', among, inside⟩ := timed
        exact untimed t ⟨r', List.mem_cons_of_mem _ among, inside⟩
      · intro inside
        exact untimed r.firstObservedNs ⟨r, List.mem_cons_self, inside.1, inside.2, rfl⟩

end

/-! ## The loops over observed numbers -/

section

variable {observed : SequenceSet} {c : UInt64} {turns : Nat} {s : SequenceState}

/-- A loop that does not come round to zero is the guarded one. -/
theorem advance_eq_advanceGuarded (unwrapped : Unwrapped observed c) :
    advance observed turns c = advanceGuarded observed turns c := by
  induction turns generalizing c with
  | zero => rfl
  | succ turns ih =>
      unfold advance advanceGuarded
      by_cases next : c + 1 ∈ observed
      · have notLargest : c ≠ maxSequence := by
          intro largest
          apply unwrapped
          rw [largest] at next ⊢
          refine ⟨next, ?_⟩
          intro n beyond
          have := UInt64.lt_iff_toNat_lt.mp beyond
          have := le_maxSequence n
          omega
        rw [if_pos next, if_pos ⟨notLargest, next⟩]
        apply ih
        intro wrapped
        apply unwrapped
        refine ⟨wrapped.1, ?_⟩
        intro n above
        by_cases here : n = c + 1
        · exact here ▸ next
        · apply wrapped.2
          have := UInt64.lt_iff_toNat_lt.mp above
          have : n.toNat ≠ (c + 1).toNat := fun same => here (UInt64.toNat_inj.mp same)
          rw [UInt64.lt_iff_toNat_lt]
          rw [toNat_succ notLargest] at this ⊢
          omega
      · rw [if_neg next, if_neg fun both => next both.2]

/-- What the guarded loop passes has been observed. -/
theorem observed_of_le_advanceGuarded {n : Nat} (above : c.toNat < n)
    (within : n ≤ (advanceGuarded observed turns c).toNat) : ∃ o ∈ observed, o.toNat = n := by
  induction turns generalizing c with
  | zero =>
      change n ≤ c.toNat at within
      omega
  | succ turns ih =>
      unfold advanceGuarded at within
      split at within
      case isTrue next =>
        have succ := toNat_succ next.1
        by_cases here : n = c.toNat + 1
        · exact ⟨c + 1, next.2, by omega⟩
        · exact ih (by omega) within
      case isFalse => omega

/-- The contiguous part ends where the next number has not been observed. -/
def Stuck (observed : SequenceSet) (c : UInt64) : Prop := c ≠ maxSequence → c + 1 ∉ observed

theorem stuck_advanceGuarded : Stuck observed (advanceGuarded observed observed.length c) :=
  advanceGuarded_stops observed c

/-- The feedback names the missing numbers. -/
theorem feedback_missing (ascending : s.observedSequences.Pairwise (· < ·)) :
    Reports ((feedbackFromSequenceState s).missingSequenceRanges.map SequenceRange.toNat)
      (Missing s) := by
  unfold feedbackFromSequenceState
  dsimp only
  split
  case isTrue full =>
    apply Reports.nil
    intro n missing
    obtain ⟨low, high, -⟩ := missing
    cases full with
    | inl all =>
        have := UInt64.le_iff_toNat_le.mp all
        omega
    | inr largest =>
        have := le_maxSequence s.highestObservedSequence
        rw [largest] at low
        omega
  case isFalse some_ =>
    have notLargest : s.highestContiguousSequence ≠ maxSequence := fun same => some_ (.inr same)
    have ascending : (s.observedSequences.lowerBound (s.highestContiguousSequence + 1)).Pairwise
        (· ≤ ·) := (ascending.sublist (List.dropWhile_sublist _)).imp UInt64.le_of_lt
    apply (missingRanges_reports ascending).congr
    intro n
    rw [missingFrom_lowerBound, MissingFrom, toNat_succ notLargest]
    exact Iff.rfl

end

/-! ## What is finalized -/

section

open GapRun (TimedIn Ripe)

variable {graceNs nowNs : Int64} {observed : SequenceSet} {pending : List TimedMissingSequenceRange}
  {c : UInt64} {highest lost : Nat}

/-- The ranges are the numbers behind the contiguous part, as far as the highest, that have not
    been observed. -/
def Covers (observed : SequenceSet) (highest : Nat) (pending : List TimedMissingSequenceRange)
    (c : UInt64) : Prop :=
  ∀ n, (∃ t, TimedIn pending n t) ↔ c.toNat < n ∧ n ≤ highest ∧ ∀ o ∈ observed, o.toNat ≠ n

/-- The times do not decrease along the ranges and lie between zero and now. -/
structure Aged (nowNs : Int64) (pending : List TimedMissingSequenceRange) : Prop where
  past : ∀ r ∈ pending, 0 ≤ r.firstObservedNs.toInt ∧ r.firstObservedNs.toInt ≤ nowNs.toInt
  aging : pending.Pairwise fun r r' => r.firstObservedNs.toInt ≤ r'.firstObservedNs.toInt

theorem Aged.le_of_lt (aged : Aged nowNs pending) (ordered : Ordered pending)
    {n n' : Nat} {t t' : Int64}
    (first : TimedIn pending n t) (second : TimedIn pending n' t') (lt : n < n') :
    t.toInt ≤ t'.toInt := by
  induction pending with
  | nil =>
      obtain ⟨range, among, -⟩ := first
      exact absurd among List.not_mem_nil
  | cons range rest ih =>
      obtain ⟨older, aging⟩ := List.pairwise_cons.mp aged.aging
      obtain ⟨later, -⟩ := List.pairwise_cons.mp ordered.ascending
      obtain ⟨x, amongX, lowX, highX, rfl⟩ := first
      obtain ⟨y, amongY, lowY, highY, rfl⟩ := second
      cases List.mem_cons.mp amongX with
      | inl hereX =>
          cases List.mem_cons.mp amongY with
          | inl hereY => rw [hereX, hereY]
          | inr restY =>
              rw [hereX]
              exact older y restY
      | inr restX =>
          cases List.mem_cons.mp amongY with
          | inl hereY =>
              have := later x restX
              rw [hereY] at highY
              omega
          | inr restY =>
              exact ih ⟨fun z among => aged.past z (List.mem_cons_of_mem _ among), aging⟩
                ordered.tail ⟨x, restX, lowX, highX, rfl⟩ ⟨y, restY, lowY, highY, rfl⟩

theorem ripe_iff {t : Int64} (positive : 0 ≤ t.toInt) (past : t.toInt ≤ nowNs.toInt) :
    ¬(nowNs < t ∨ nowNs - t < graceNs) ↔ Ripe graceNs nowNs t := by
  have difference : (nowNs - t).toInt = nowNs.toInt - t.toInt :=
    Int64.toInt_sub_of_le _ _ (Int64.le_iff_toInt_le.mpr positive)
      (Int64.le_iff_toInt_le.mpr past)
  unfold Ripe
  rw [Int64.lt_iff_toInt_lt, Int64.lt_iff_toInt_lt, difference]
  omega

theorem missingSequenceRangeCount_eq {r : TimedMissingSequenceRange}
    (inhabited : r.first.toNat ≤ r.last.toNat) (positive : r.first.toNat ≠ 0) :
    missingSequenceRangeCount r = r.last.toNat + 1 - r.first.toNat := by
  have proper : ¬(r.first = 0 ∨ r.first > r.last) := by
    intro improper
    cases improper with
    | inl zero => exact positive (congrArg UInt64.toNat zero)
    | inr inverted =>
        have := UInt64.lt_iff_toNat_lt.mp inverted
        omega
  have span := UInt64.toNat_sub_of_le _ _ (UInt64.le_iff_toNat_le.mpr inhabited)
  have fits := r.last.toNat_lt
  unfold missingSequenceRangeCount maxCount
  rw [if_neg proper, span]
  split <;> omega

/-- What a loop over the pending ranges has done: the ranges it took off are counted, and what is
    left is still missing. -/
structure Finalized (graceNs nowNs : Int64) (observed : SequenceSet) (highest : Nat)
    (pending : List TimedMissingSequenceRange) (c : UInt64) (numbers : List Nat)
    (left : List TimedMissingSequenceRange) (c' : UInt64) : Prop where
  distinct : numbers.Nodup
  forward : c.toNat ≤ c'.toNat
  inside : ∀ n ∈ numbers, c.toNat < n ∧ n ≤ c'.toNat
  ripe : ∀ n, n ∈ numbers ↔ ∃ t, TimedIn pending n t ∧ Ripe graceNs nowNs t
  rest : left <:+ pending
  covers : Covers observed highest left c'
  stuck : Stuck observed c'

theorem Covers.first {first : TimedMissingSequenceRange} {rest : List TimedMissingSequenceRange}
    (covers : Covers observed highest (first :: rest) c) (ordered : Ordered (first :: rest))
    (stuck : Stuck observed c) :
    c ≠ maxSequence ∧ first.first.toNat = c.toNat + 1 ∧ first.first = c + 1 := by
  have inhabited := ordered.inhabited first List.mem_cons_self
  obtain ⟨above, reached, -⟩ := (covers first.first.toNat).mp
    ⟨first.firstObservedNs, first, List.mem_cons_self, le_rfl, inhabited, rfl⟩
  have notLargest : c ≠ maxSequence := by
    intro largest
    have := le_maxSequence first.first
    rw [largest] at above
    omega
  have next := toNat_succ notLargest
  have unobserved : ∀ o ∈ observed, o.toNat ≠ c.toNat + 1 := by
    intro o among same
    rw [← next] at same
    exact stuck notLargest (UInt64.toNat_inj.mp same ▸ among)
  obtain ⟨t, r, among, low, high, -⟩ := (covers (c.toNat + 1)).mpr
    ⟨Nat.lt_succ_self _, by omega, unobserved⟩
  have here : first.first.toNat = c.toNat + 1 := by
    cases List.mem_cons.mp among with
    | inl same =>
        rw [same] at low
        omega
    | inr further =>
        have := (List.pairwise_cons.mp ordered.ascending).1 r further
        omega
  exact ⟨notLargest, here, UInt64.toNat_inj.mp (here.trans next.symm)⟩

theorem Ordered.suffix {left : List TimedMissingSequenceRange} (ordered : Ordered pending)
    (rest : left <:+ pending) : Ordered left where
  inhabited r among := ordered.inhabited r (rest.subset among)
  ascending := ordered.ascending.sublist rest.sublist

theorem Aged.suffix {left : List TimedMissingSequenceRange} (aged : Aged nowNs pending)
    (rest : left <:+ pending) : Aged nowNs left where
  past r among := aged.past r (rest.subset among)
  aging := aged.aging.sublist rest.sublist

/-- With the first range taken off the others cover what is left. -/
theorem Covers.rest {first : TimedMissingSequenceRange} {rest : List TimedMissingSequenceRange}
    (covers : Covers observed highest (first :: rest) c) (ordered : Ordered (first :: rest))
    (above : c.toNat < first.first.toNat) (turns : Nat) :
    Covers observed highest rest (advanceGuarded observed turns first.last) := by
  have inhabited := ordered.inhabited first List.mem_cons_self
  have later := (List.pairwise_cons.mp ordered.ascending).1
  intro n
  constructor
  · intro timed
    obtain ⟨t, r, among, low, high, same⟩ := timed
    obtain ⟨-, reached, unobserved⟩ :=
      (covers n).mp ⟨t, r, List.mem_cons_of_mem _ among, low, high, same⟩
    refine ⟨?_, reached, unobserved⟩
    by_contra within
    have behind := later r among
    have above : first.last.toNat < n := by omega
    have passed : n ≤ (advanceGuarded observed turns first.last).toNat := by omega
    obtain ⟨o, isObserved, isN⟩ := observed_of_le_advanceGuarded above passed
    exact unobserved o isObserved isN
  · intro missing
    obtain ⟨beyond, reached, unobserved⟩ := missing
    have forward : first.last.toNat ≤ (advanceGuarded observed turns first.last).toNat :=
      le_advanceGuarded
    obtain ⟨t, r, among, low, high, same⟩ := (covers n).mpr ⟨by omega, reached, unobserved⟩
    cases List.mem_cons.mp among with
    | inl here =>
        rw [here] at high
        omega
    | inr further => exact ⟨t, r, further, low, high, same⟩

variable (graceNs) in
theorem finalizePending_spec (ordered : Ordered pending) (aged : Aged nowNs pending)
    (covers : Covers observed highest pending c) (stuck : Stuck observed c)
    (few : lost ≤ c.toNat) :
    ∃ numbers, Finalized graceNs nowNs observed highest pending c numbers
        (finalizePending graceNs nowNs observed pending c lost).1
        (finalizePending graceNs nowNs observed pending c lost).2.1 ∧
      (finalizePending graceNs nowNs observed pending c lost).2.2 = lost + numbers.length := by
  have nothing : ∀ n, n ∉ ([] : List Nat) := fun n => List.not_mem_nil
  induction pending generalizing c lost with
  | nil =>
      refine ⟨[], ⟨.nil, le_rfl, fun n among => absurd among (nothing n), ?_, List.suffix_rfl,
        covers, stuck⟩, rfl⟩
      intro n
      simp [TimedIn]
  | cons first rest ih =>
      have inhabited := ordered.inhabited first List.mem_cons_self
      obtain ⟨notLargest, isNext, same⟩ := covers.first ordered stuck
      obtain ⟨older, agingRest⟩ := List.pairwise_cons.mp aged.aging
      obtain ⟨positive, past⟩ := aged.past first List.mem_cons_self
      have beyond : ¬first.last ≤ c := by
        intro le
        have := UInt64.le_iff_toNat_le.mp le
        omega
      have behind : ¬first.first ≤ c := by
        intro le
        have := UInt64.le_iff_toNat_le.mp le
        omega
      have atEnd : ¬(c = maxSequence ∨ first.first ≠ c + 1) := by
        intro either
        cases either with
        | inl largest => exact notLargest largest
        | inr other => exact other same
      unfold finalizePending
      simp only [if_neg beyond, if_neg behind, if_neg atEnd, behind, false_and, if_false]
      by_cases waits : nowNs < first.firstObservedNs ∨ nowNs - first.firstObservedNs < graceNs
      · have unripe : ¬Ripe graceNs nowNs first.firstObservedNs :=
          fun ripe => (ripe_iff positive past).mpr ripe waits
        rw [if_pos waits]
        refine ⟨[], ⟨.nil, le_rfl, fun n among => absurd among (nothing n), ?_, List.suffix_rfl,
          covers, stuck⟩, rfl⟩
        intro n
        constructor
        · exact fun among => absurd among (nothing n)
        · intro timed
          obtain ⟨t, ⟨r, among, -, -, isTime⟩, ripe⟩ := timed
          exfalso
          apply unripe
          unfold Ripe at ripe ⊢
          cases List.mem_cons.mp among with
          | inl here =>
              rw [← here, isTime]
              exact ripe
          | inr further =>
              have := older r further
              rw [isTime] at this
              omega
      · rw [if_neg waits]
        have ripe := (ripe_iff positive past).mp waits
        have count := missingSequenceRangeCount_eq inhabited (by omega)
        have fits := first.last.toNat_lt
        have forward : first.last.toNat ≤
            (advanceGuarded observed observed.length first.last).toNat := le_advanceGuarded
        have total : min (lost + missingSequenceRangeCount first) maxCount =
            lost + missingSequenceRangeCount first := by
          unfold maxCount
          omega
        have agedRest : Aged nowNs rest :=
          ⟨fun r among => aged.past r (List.mem_cons_of_mem _ among), agingRest⟩
        have fewer : lost + missingSequenceRangeCount first ≤
            (advanceGuarded observed observed.length first.last).toNat := by
          omega
        obtain ⟨numbers, finalized, counted⟩ := ih ordered.tail agedRest
          (covers.rest ordered (by omega) observed.length) stuck_advanceGuarded fewer
        have later := (List.pairwise_cons.mp ordered.ascending).1
        have taken : ∀ n, n ∈ List.range' first.first.toNat
            (first.last.toNat + 1 - first.first.toNat) ↔
              first.first.toNat ≤ n ∧ n ≤ first.last.toNat := by
          intro n
          rw [List.mem_range'_1]
          omega
        rw [total]
        refine ⟨List.range' first.first.toNat (first.last.toNat + 1 - first.first.toNat) ++ numbers,
          ⟨?_, ?_, ?_, ?_, ?_, finalized.covers, finalized.stuck⟩, ?_⟩
        · apply List.nodup_append.mpr
          refine ⟨List.nodup_range', finalized.distinct, ?_⟩
          intro n now m others same
          have := (taken n).mp now
          have := finalized.inside m others
          omega
        · have := finalized.forward
          omega
        · intro n among
          have := finalized.forward
          cases List.mem_append.mp among with
          | inl now =>
              have := (taken n).mp now
              omega
          | inr others =>
              have := finalized.inside n others
              omega
        · intro n
          rw [List.mem_append, taken, finalized.ripe]
          constructor
          · intro either
            cases either with
            | inl now => exact ⟨_, ⟨first, List.mem_cons_self, now.1, now.2, rfl⟩, ripe⟩
            | inr others =>
                obtain ⟨t, ⟨r, among, inside⟩, isRipe⟩ := others
                exact ⟨t, ⟨r, List.mem_cons_of_mem _ among, inside⟩, isRipe⟩
          · intro timed
            obtain ⟨t, ⟨r, among, low, high, isTime⟩, isRipe⟩ := timed
            cases List.mem_cons.mp among with
            | inl here =>
                rw [here] at low high
                exact .inl ⟨low, high⟩
            | inr further => exact .inr ⟨t, ⟨r, further, low, high, isTime⟩, isRipe⟩
        · exact finalized.rest.trans (List.suffix_cons _ _)
        · rw [counted, List.length_append, List.length_range', count]
          omega

end

/-! ## Every step keeps the account exact -/

namespace GapRun

/-- The invariant: `Exact`, and what the loops rely on. -/
structure Sound (graceNs : Int64) (r : GapRun) : Prop extends Exact graceNs r where
  clock : 0 ≤ r.clockNs.toInt
  fresh : r.state.receptionSequenceBaselineInitialized = false →
    r.state = {} ∧ ∀ n, r.firstMissing n = none
  ascending : r.state.observedSequences.Pairwise (· < ·)
  stuck : Stuck r.state.observedSequences r.state.highestContiguousSequence
  ordered : Ordered r.state.pendingMissingRanges
  aged : Aged r.clockNs r.state.pendingMissingRanges
  recent : ∀ n t, r.firstMissing n = some t → n ≤ r.state.highestObservedSequence.toNat ∧
    0 ≤ t.toInt ∧ t.toInt ≤ r.clockNs.toInt
  below : ∃ numbers : List (List Nat), List.Forall₂ (CountOf graceNs) numbers r.counts ∧
    numbers.flatten.Nodup ∧
    ∀ n ∈ numbers.flatten, n ≤ r.state.highestContiguousSequence.toNat

variable {graceNs receiveNs nowNs t t' : Int64} {r r' : GapRun} {frame : DataFrame}
  {ranges : List TimedMissingSequenceRange} {n n' : Nat}

theorem Sound.start : Sound graceNs {} where
  pending n t := by
    constructor
    · intro timed
      obtain ⟨range, among, -⟩ := timed
      exact absurd among List.not_mem_nil
    · intro missing
      obtain ⟨-, first⟩ := missing
      cases first
  known n missing := by
    obtain ⟨above, within, -⟩ := missing
    exact absurd (above.trans_le within) (Nat.lt_irrefl _)
  counted := ⟨[], .nil, .nil⟩
  clock := le_rfl
  fresh _ := ⟨rfl, fun _ => rfl⟩
  ascending := .nil
  stuck _ := List.not_mem_nil
  ordered := .nil
  aged := ⟨fun _ among => absurd among List.not_mem_nil, .nil⟩
  recent n t first := by cases first
  below := ⟨[], .nil, .nil, fun _ among => absurd among List.not_mem_nil⟩

/-- The first frame sets the baseline, with nothing missing. -/
theorem receiveBestEffort_first (frame : DataFrame) :
    receiveBestEffort {} frame receiveNs = {
      initialized := true
      receptionSequenceBaselineInitialized := true
      cumulativeAckFloor := frame.sourceSequenceNumber
      highestContiguousSequence := frame.sourceSequenceNumber
      highestObservedSequence := frame.sourceSequenceNumber
      observedSequences := [frame.sourceSequenceNumber] } := by
  have highest : stdMax 0 frame.sourceSequenceNumber = frame.sourceSequenceNumber := by
    unfold stdMax
    grind
  simp [receiveBestEffort, observeFrame, establishReceptionSequenceBaseline,
    trackBestEffortSequenceGaps, feedbackFromSequenceState, SequenceSet.insert, highest]

/-- What an observation does to the state of a stream that has its baseline. -/
structure Grown (s s' : SequenceState) : Prop where
  begun : s'.receptionSequenceBaselineInitialized = true
  pending : s'.pendingMissingRanges = s.pendingMissingRanges
  ascending : s'.observedSequences.Pairwise (· < ·)
  stuck : Stuck s'.observedSequences s'.highestContiguousSequence
  kept : ∀ o ∈ s.observedSequences, o ∈ s'.observedSequences
  forward : s.highestContiguousSequence.toNat ≤ s'.highestContiguousSequence.toNat
  higher : s.highestObservedSequence.toNat ≤ s'.highestObservedSequence.toNat

variable (receiveNs) in
/-- A later frame is observed and the gaps are tracked. -/
theorem receiveBestEffort_later {s : SequenceState}
    (ascending : s.observedSequences.Pairwise (· < ·))
    (begun : s.receptionSequenceBaselineInitialized = true)
    (unwrapped : Unwrapped (s.observedSequences.insert frame.sourceSequenceNumber)
      s.highestContiguousSequence) :
    ∃ s', Grown s s' ∧ receiveBestEffort s frame receiveNs =
      trackBestEffortSequenceGaps s' (feedbackFromSequenceState s') receiveNs := by
  refine ⟨(observeFrame s frame).2, ?_, ?_⟩
  · have contiguous : (observeFrame s frame).2.highestContiguousSequence = advanceGuarded
        (s.observedSequences.insert frame.sourceSequenceNumber)
        (s.observedSequences.insert frame.sourceSequenceNumber).length
          s.highestContiguousSequence := advance_eq_advanceGuarded unwrapped
    refine ⟨begun, rfl, SequenceSet.insert_ascending ascending, ?_, ?_, ?_, ?_⟩
    · rw [contiguous]
      exact stuck_advanceGuarded
    · exact fun o among => SequenceSet.mem_insert.mpr (.inr among)
    · rw [contiguous]
      exact le_advanceGuarded
    · exact UInt64.le_iff_toNat_le.mp (stdMax_left _ _)
  · simp [receiveBestEffort, observeFrame, begun, trackBestEffortSequenceGaps]

variable (receiveNs) in
theorem tracked_spec {s : SequenceState} (ascending : s.observedSequences.Pairwise (· < ·))
    (ordered : Ordered s.pendingMissingRanges) :
    let tracked := trackBestEffortSequenceGaps s (feedbackFromSequenceState s) receiveNs
    Ordered tracked.pendingMissingRanges ∧ ∀ n t, TimedIn tracked.pendingMissingRanges n t ↔
      Missing s n ∧ stampIn receiveNs s.pendingMissingRanges n = t := by
  have reports := feedback_missing ascending
  have inhabited : ∀ m ∈ (feedbackFromSequenceState s).missingSequenceRanges,
      m.1.toNat ≤ m.2.toNat := fun m among =>
    reports.inhabited _ (List.mem_map_of_mem among)
  have proper : ∀ m ∈ (feedbackFromSequenceState s).missingSequenceRanges,
      m.1 ≠ 0 ∧ m.1.toNat ≤ m.2.toNat := by
    intro m among
    have missing : Missing s m.1.toNat :=
      (reports.covers _).mp ⟨_, List.mem_map_of_mem among, le_rfl, inhabited m among⟩
    refine ⟨?_, inhabited m among⟩
    intro zero
    have above := missing.1
    rw [zero] at above
    exact Nat.not_lt_zero _ above
  have apart : (feedbackFromSequenceState s).missingSequenceRanges.Pairwise
      fun m m' => m.2.toNat < m'.1.toNat := by
    apply (List.pairwise_map.mp reports.apart).imp
    intro m m' gap
    obtain ⟨between, low, high⟩ := gap
    exact low.trans high
  obtain ⟨orderedAfter, timed⟩ := track_spec receiveNs ordered Ordered.nil proper
    apart fun _ _ _ among => absurd among List.not_mem_nil
  refine ⟨orderedAfter, ?_⟩
  intro n t
  refine (timed n t).trans ?_
  have covers : (∃ m ∈ (feedbackFromSequenceState s).missingSequenceRanges,
      m.1.toNat ≤ n ∧ n ≤ m.2.toNat) ↔ Missing s n := by
    rw [← reports.covers]
    simp only [List.mem_map, SequenceRange.toNat, exists_exists_and_eq_and]
  rw [covers]
  constructor
  · intro either
    cases either with
    | inl none =>
        obtain ⟨range, among, -⟩ := none
        exact absurd among List.not_mem_nil
    | inr missing => exact missing
  · exact .inr

theorem Sound.receive_first (sound : Sound graceNs r)
    (new : r.state.receptionSequenceBaselineInitialized = false)
    (later : r.clockNs.toInt ≤ receiveNs.toInt) : Sound graceNs (r.receive frame receiveNs) := by
  obtain ⟨fresh, unknown⟩ := sound.fresh new
  have clock := sound.clock
  have state : (r.receive frame receiveNs).state = receiveBestEffort {} frame receiveNs :=
    congrArg (receiveBestEffort · frame receiveNs) fresh
  rw [receiveBestEffort_first] at state
  have complete : ∀ n, ¬Missing (r.receive frame receiveNs).state n := by
    intro n missing
    rw [state] at missing
    obtain ⟨above, within, -⟩ := missing
    exact absurd (above.trans_le within) (Nat.lt_irrefl _)
  have stillUnknown : ∀ n, (r.receive frame receiveNs).firstMissing n = none := by
    intro n
    exact (if_neg fun both => complete n both.2).trans (unknown n)
  have untimed : ∀ n t, ¬TimedIn (r.receive frame receiveNs).state.pendingMissingRanges n t := by
    intro n t timed
    rw [state] at timed
    obtain ⟨range, among, -⟩ := timed
    exact absurd among List.not_mem_nil
  obtain ⟨numbers, counted, distinct, below⟩ := sound.below
  have zero : r.state.highestContiguousSequence.toNat = 0 := by
    rw [fresh]
    rfl
  refine ⟨⟨?_, ?_, numbers, counted, distinct⟩, ?_, ?_, ?_, ?_, ?_, ?_, ?_, numbers, counted,
    distinct, ?_⟩
  · exact fun n t => ⟨fun timed => absurd timed (untimed n t),
      fun missing => absurd missing.1 (complete n)⟩
  · exact fun n missing => absurd missing (complete n)
  · exact clock.trans later
  · intro notBegun
    rw [state] at notBegun
    cases notBegun
  · rw [state]
    exact List.pairwise_singleton _ _
  · rw [state]
    intro notLargest next
    have same := congrArg UInt64.toNat (List.mem_singleton.mp next)
    rw [toNat_succ notLargest] at same
    exact absurd same (Nat.succ_ne_self _)
  · rw [state]
    exact .nil
  · rw [state]
    exact ⟨fun _ among => absurd among List.not_mem_nil, .nil⟩
  · intro n t first
    rw [stillUnknown] at first
    cases first
  · intro n among
    have := below n among
    omega

theorem Sound.receive_later (sound : Sound graceNs r)
    (begun : r.state.receptionSequenceBaselineInitialized = true)
    (unwrapped : r.Fits (.receive frame receiveNs)) (later : r.clockNs.toInt ≤ receiveNs.toInt) :
    Sound graceNs (r.receive frame receiveNs) := by
  have clock := sound.clock
  obtain ⟨s, grown, received⟩ :=
    receiveBestEffort_later receiveNs sound.ascending begun unwrapped
  have ordered : Ordered s.pendingMissingRanges := grown.pending ▸ sound.ordered
  obtain ⟨orderedAfter, timed⟩ := tracked_spec receiveNs grown.ascending ordered
  rw [← received] at orderedAfter timed
  have tracked : receiveBestEffort r.state frame receiveNs = { s with
      pendingMissingRanges :=
        (receiveBestEffort r.state frame receiveNs).pendingMissingRanges } := by
    rw [received]
    rfl
  have missing : ∀ n, Missing (r.receive frame receiveNs).state n ↔ Missing s n := by
    intro n
    change Missing (receiveBestEffort r.state frame receiveNs) n ↔ _
    rw [tracked]
    exact Iff.rfl
  -- What was not missing before is above the highest number until then.
  have before : ∀ n, Missing s n →
      Missing r.state n ∨ r.state.highestObservedSequence.toNat < n ∧ r.firstMissing n = none := by
    intro n isMissing
    obtain ⟨above, within, unobserved⟩ := isMissing
    have forward := grown.forward
    by_cases old : n ≤ r.state.highestObservedSequence.toNat
    · exact .inl ⟨by omega, old, fun o among => unobserved o (grown.kept o among)⟩
    · refine .inr ⟨by omega, ?_⟩
      cases first : r.firstMissing n with
      | none => rfl
      | some t => exact absurd (sound.recent n t first).1 old
  have old : ∀ n, Missing r.state n → ∃ t, r.firstMissing n = some t ∧
      TimedIn r.state.pendingMissingRanges n t ∧
      stampIn receiveNs s.pendingMissingRanges n = t := by
    intro n wasMissing
    obtain ⟨t, first⟩ := Option.isSome_iff_exists.mp (sound.known n wasMissing)
    have timedBefore := (sound.pending n t).mpr ⟨wasMissing, first⟩
    refine ⟨t, first, timedBefore, ?_⟩
    rw [grown.pending]
    exact stampIn_of_timedIn sound.ordered timedBefore receiveNs
  have new : ∀ n, r.state.highestObservedSequence.toNat < n →
      stampIn receiveNs s.pendingMissingRanges n = receiveNs := by
    intro n above
    apply stampIn_of_not_timedIn
    intro t timedBefore
    rw [grown.pending] at timedBefore
    have := ((sound.pending n t).mp timedBefore).1.2.1
    omega
  have stamped : ∀ n, Missing s n → (r.receive frame receiveNs).firstMissing n =
      some (stampIn receiveNs s.pendingMissingRanges n) := by
    intro n isMissing
    change notice r.firstMissing _ receiveNs n = _
    unfold notice
    cases before n isMissing with
    | inl wasMissing =>
        obtain ⟨t, first, -, same⟩ := old n wasMissing
        rw [if_neg (by rw [first]; exact fun both => Option.some_ne_none t both.1), first, same]
    | inr appeared => rw [if_pos ⟨appeared.2, (missing n).mpr isMissing⟩, new n appeared.1]
  have recent : ∀ n t, (r.receive frame receiveNs).firstMissing n = some t →
      n ≤ s.highestObservedSequence.toNat ∧ 0 ≤ t.toInt ∧ t.toInt ≤ receiveNs.toInt := by
    intro n t first
    have higher := grown.higher
    change notice r.firstMissing _ receiveNs n = _ at first
    unfold notice at first
    split at first
    case isTrue appeared =>
      obtain rfl := Option.some.inj first
      exact ⟨((missing n).mp appeared.2).2.1, clock.trans later, le_rfl⟩
    case isFalse =>
      obtain ⟨within, positive, past⟩ := sound.recent n t first
      exact ⟨by omega, positive, past.trans later⟩
  have monotone : ∀ n n', Missing s n → Missing s n' → n < n' →
      (stampIn receiveNs s.pendingMissingRanges n).toInt ≤
        (stampIn receiveNs s.pendingMissingRanges n').toInt := by
    intro n n' first second lt
    cases before n' second with
    | inr appeared =>
        rw [new n' appeared.1]
        exact (recent n _ (stamped n first)).2.2
    | inl wasMissing' =>
        cases before n first with
        | inr appeared =>
            have := wasMissing'.2.1
            omega
        | inl wasMissing =>
            obtain ⟨t, -, isTimed, same⟩ := old n wasMissing
            obtain ⟨t', -, isTimed', same'⟩ := old n' wasMissing'
            rw [same, same']
            exact sound.aged.le_of_lt sound.ordered isTimed isTimed' lt
  have ofRange : ∀ range ∈ (receiveBestEffort r.state frame receiveNs).pendingMissingRanges,
      Missing s range.first.toNat ∧
        stampIn receiveNs s.pendingMissingRanges range.first.toNat = range.firstObservedNs := by
    intro range among
    exact (timed _ _).mp ⟨range, among, le_rfl, orderedAfter.inhabited range among, rfl⟩
  obtain ⟨numbers, counted, distinct, below⟩ := sound.below
  refine ⟨⟨?_, ?_, numbers, counted, distinct⟩, ?_, ?_, ?_, ?_, orderedAfter, ⟨?_, ?_⟩, ?_, numbers,
    counted, distinct, ?_⟩
  · intro n t
    rw [missing]
    refine (timed n t).trans ?_
    apply and_congr_right
    intro isMissing
    rw [stamped n isMissing, Option.some_inj]
  · intro n isMissing
    rw [stamped n ((missing n).mp isMissing)]
    rfl
  · exact clock.trans later
  · intro notBegun
    change (receiveBestEffort r.state frame receiveNs).receptionSequenceBaselineInitialized = false
      at notBegun
    rw [tracked] at notBegun
    exact absurd (grown.begun.symm.trans notBegun) Bool.true_eq_false.mp
  · change (receiveBestEffort r.state frame receiveNs).observedSequences.Pairwise _
    rw [tracked]
    exact grown.ascending
  · change Stuck (receiveBestEffort r.state frame receiveNs).observedSequences
      (receiveBestEffort r.state frame receiveNs).highestContiguousSequence
    rw [tracked]
    exact grown.stuck
  · intro range among
    obtain ⟨isMissing, same⟩ := ofRange range among
    rw [← same]
    exact (recent _ _ (stamped _ isMissing)).2
  · apply orderedAfter.ascending.imp_of_mem
    intro range range' among among' lt
    obtain ⟨isMissing, same⟩ := ofRange range among
    obtain ⟨isMissing', same'⟩ := ofRange range' among'
    have inhabited := orderedAfter.inhabited range among
    rw [← same, ← same']
    exact monotone _ _ isMissing isMissing' (by omega)
  · intro n t first
    change n ≤ (receiveBestEffort r.state frame receiveNs).highestObservedSequence.toNat ∧ _
    rw [tracked]
    exact recent n t first
  · intro n among
    change n ≤ (receiveBestEffort r.state frame receiveNs).highestContiguousSequence.toNat
    rw [tracked]
    exact (below n among).trans grown.forward

theorem Sound.finalize (sound : Sound graceNs r) (later : r.clockNs.toInt ≤ nowNs.toInt) :
    Sound graceNs (r.finalize graceNs nowNs) := by
  have clock := sound.clock
  have covers : Covers r.state.observedSequences r.state.highestObservedSequence.toNat
      r.state.pendingMissingRanges r.state.highestContiguousSequence := by
    intro n
    constructor
    · intro timed
      obtain ⟨t, timed⟩ := timed
      exact ((sound.pending n t).mp timed).1
    · intro missing
      obtain ⟨t, first⟩ := Option.isSome_iff_exists.mp (sound.known n missing)
      exact ⟨t, (sound.pending n t).mpr ⟨missing, first⟩⟩
  have aged : Aged nowNs r.state.pendingMissingRanges := by
    refine ⟨?_, sound.aged.aging⟩
    intro range among
    obtain ⟨positive, past⟩ := sound.aged.past range among
    exact ⟨positive, past.trans later⟩
  obtain ⟨now, finalized, count⟩ := finalizePending_spec graceNs sound.ordered aged
    covers sound.stuck (Nat.zero_le _)
  generalize isLeft : (finalizePending graceNs nowNs r.state.observedSequences
    r.state.pendingMissingRanges r.state.highestContiguousSequence 0).1 = left at finalized
  generalize isEnd : (finalizePending graceNs nowNs r.state.observedSequences
    r.state.pendingMissingRanges r.state.highestContiguousSequence 0).2.1 = c' at finalized
  have state : (r.finalize graceNs nowNs).state = { r.state with
      pendingMissingRanges := left, highestContiguousSequence := c' } := by
    rw [← isLeft, ← isEnd]
    rfl
  have missing : ∀ n, Missing (r.finalize graceNs nowNs).state n ↔ ∃ t, TimedIn left n t := by
    intro n
    rw [state, finalized.covers]
    exact Iff.rfl
  have timed : ∀ n t, TimedIn left n t → TimedIn r.state.pendingMissingRanges n t := by
    intro n t isLeft
    obtain ⟨range, among, inside⟩ := isLeft
    exact ⟨range, finalized.rest.subset among, inside⟩
  obtain ⟨numbers, counted, distinct, below⟩ := sound.below
  have last : CountOf graceNs now ⟨(finalizeBestEffortSequenceGaps graceNs nowNs r.state).1,
      r.state, r.firstMissing, nowNs⟩ := by
    constructor
    · exact (count.trans (Nat.zero_add _)).symm
    · intro n
      rw [finalized.ripe]
      simp only [sound.pending, and_assoc, exists_and_left]
  have counts : List.Forall₂ (CountOf graceNs) (numbers ++ [now])
      (r.finalize graceNs nowNs).counts := List.rel_append counted (.cons last .nil)
  have forward := finalized.forward
  have flat : (numbers ++ [now]).flatten = numbers.flatten ++ now := by
    rw [List.flatten_append, List.flatten_singleton]
  have once : (numbers ++ [now]).flatten.Nodup := by
    rw [flat]
    apply List.nodup_append.mpr
    refine ⟨distinct, finalized.distinct, ?_⟩
    intro n among n' among' same
    have := below n among
    have := finalized.inside n' among'
    omega
  refine ⟨⟨?_, ?_, _, counts, once⟩, ?_, ?_, ?_, ?_, ?_, ?_, ?_, _, counts, once, ?_⟩
  · intro n t
    rw [missing, state]
    constructor
    · intro isTimed
      exact ⟨⟨t, isTimed⟩, ((sound.pending n t).mp (timed n t isTimed)).2⟩
    · intro both
      obtain ⟨⟨t', isTimed⟩, first⟩ := both
      have first' := ((sound.pending n t').mp (timed n t' isTimed)).2
      obtain rfl := Option.some.inj (first.symm.trans first')
      exact isTimed
  · intro n isMissing
    obtain ⟨t, isTimed⟩ := (missing n).mp isMissing
    exact sound.known n ((sound.pending n t).mp (timed n t isTimed)).1
  · exact clock.trans later
  · intro notBegun
    rw [state] at notBegun
    obtain ⟨fresh, unknown⟩ := sound.fresh notBegun
    refine ⟨?_, unknown⟩
    change (finalizeBestEffortSequenceGaps graceNs nowNs r.state).2 = {}
    rw [fresh]
    rfl
  · rw [state]
    exact sound.ascending
  · rw [state]
    exact finalized.stuck
  · rw [state]
    exact sound.ordered.suffix finalized.rest
  · rw [state]
    exact aged.suffix finalized.rest
  · intro n t first
    obtain ⟨within, positive, past⟩ := sound.recent n t first
    rw [state]
    exact ⟨within, positive, past.trans later⟩
  · intro n among
    rw [state]
    rw [flat] at among
    cases List.mem_append.mp among with
    | inl early => exact (below n early).trans forward
    | inr late => exact (finalized.inside n late).2

theorem Sound.step {e : GapEvent} (sound : Sound graceNs r) (fits : r.Fits e)
    (taken : r.step graceNs e = some r') : Sound graceNs r' := by
  cases e with
  | receive frame receiveNs =>
      simp only [GapRun.step] at taken
      split at taken
      case isTrue => cases taken
      case isFalse notBefore =>
        obtain rfl := Option.some.inj taken
        have later := Int.not_lt.mp (mt Int64.lt_iff_toInt_lt.mpr notBefore)
        cases begun : r.state.receptionSequenceBaselineInitialized with
        | false => exact sound.receive_first begun later
        | true => exact sound.receive_later begun fits later
  | finalize nowNs =>
      simp only [GapRun.step] at taken
      split at taken
      case isTrue => cases taken
      case isFalse notBefore =>
        obtain rfl := Option.some.inj taken
        exact sound.finalize (Int.not_lt.mp (mt Int64.lt_iff_toInt_lt.mpr notBefore))

/-- In a run in which the contiguous part never comes round to zero the account is exact. -/
theorem gaps_exact_of_fits (graceNs : Int64) {events : List GapEvent} {r : GapRun}
    (fits : RunMeets (step graceNs) Fits {} events)
    (ran : run (step graceNs) {} events = some r) : r.Exact graceNs := by
  have sound : Sound graceNs r :=
    run_invariant (fun held ok taken => held.step ok taken) .start fits ran
  exact sound.toExact

/-- Of five frames two are late, one of them too late. -/
theorem gaps_exact_of_fits_lateFrames :
    ∃ r, run (step 10) {} [.receive { sourceSequenceNumber := 1 } 5,
        .receive { sourceSequenceNumber := 5 } 7, .receive { sourceSequenceNumber := 3 } 9,
        .receive { sourceSequenceNumber := 8 } 12, .finalize 17,
        .receive { sourceSequenceNumber := 2 } 20, .finalize 30] = some r ∧
      r.counts.map GapCount.count = [2, 2] ∧ r.Exact 10 := by
  have fits : RunMeets (step 10) Fits {} [.receive { sourceSequenceNumber := 1 } 5,
      .receive { sourceSequenceNumber := 5 } 7, .receive { sourceSequenceNumber := 3 } 9,
      .receive { sourceSequenceNumber := 8 } 12, .finalize 17,
      .receive { sourceSequenceNumber := 2 } 20, .finalize 30] := by
    apply RunMeets.of_step (fun wrapped => absurd wrapped.1 (by decide)) rfl
    apply RunMeets.of_step (fun wrapped => absurd wrapped.1 (by decide)) rfl
    apply RunMeets.of_step (fun wrapped => absurd wrapped.1 (by decide)) rfl
    apply RunMeets.of_step (fun wrapped => absurd wrapped.1 (by decide)) rfl
    apply RunMeets.of_step True.intro rfl
    apply RunMeets.of_step (fun wrapped => absurd wrapped.1 (by decide)) rfl
    apply RunMeets.of_step True.intro rfl
    exact True.intro
  exact ⟨_, rfl, by decide, gaps_exact_of_fits 10 fits rfl⟩

/-- The numbers 2 and 3 before the end are counted as lost. Then zero comes in, the contiguous part
    starts again from it, and they are counted once more. -/
theorem counted_again_after_zero :
    ∃ r, run (step 25000000) {} [.receive { sourceSequenceNumber := maxSequence - 3 } 1,
        .receive { sourceSequenceNumber := maxSequence } 2, .finalize 30000000,
        .receive { sourceSequenceNumber := 0 } 40000000, .finalize 80000000] = some r ∧
      ¬r.Exact 25000000 := by
  refine ⟨_, rfl, ?_⟩
  intro exact_
  obtain ⟨numbers, counted, distinct⟩ := exact_.counted
  cases counted with
  | cons first rest =>
      rename_i now numbers
      cases rest with
      | cons second rest =>
          rename_i again others
          have early : 18446744073709551613 ∈ now :=
            (first.exact_ _).mpr ⟨by decide, 2, by decide, by unfold Ripe; decide⟩
          have late : 18446744073709551613 ∈ again :=
            (second.exact_ _).mpr ⟨by decide, 2, by decide, by unfold Ripe; decide⟩
          rw [List.flatten_cons, List.flatten_cons] at distinct
          have apart := (List.nodup_append.mp distinct).2.2
          exact apart _ early _ (List.mem_append_left _ late) rfl

end GapRun

end FleetRMW.Rmw
