import FleetRMW.Rmw.Sequence

/-! # What is acknowledged has been received

Numbers are received when they are observed or confirmed lost. Every event keeps the window
between the floor and the end of the contiguous part received.
-/

namespace FleetRMW.Rmw

open Lib

/-! ## The loops end -/

theorem advance_chain {observed : SequenceSet} {turns : Nat} {c : UInt64}
    (unfinished : advance observed turns c + 1 ∈ observed) :
    ∀ i ≤ turns, c + UInt64.ofNat (i + 1) ∈ observed := by
  induction turns generalizing c with
  | zero =>
      intro i first
      obtain rfl := Nat.le_zero.mp first
      exact unfinished
  | succ turns ih =>
      unfold advance at unfinished
      split at unfinished
      case isTrue next =>
        intro i inside
        cases i with
        | zero => exact next
        | succ i =>
            have := ih unfinished i (Nat.le_of_succ_le_succ inside)
            rw [UInt64.add_assoc] at this
            rw [UInt64.ofNat_add, UInt64.add_comm _ (UInt64.ofNat 1)]
            exact this
      case isFalse last => exact absurd unfinished last

/-- The loop has ended, unless the set holds every number there is. -/
theorem advance_stops {observed : SequenceSet} (notAll : observed.length < 2 ^ 64) (c : UInt64) :
    advance observed observed.length c + 1 ∉ observed := by
  intro unfinished
  have chain := advance_chain unfinished
  let following := (List.range (observed.length + 1)).map fun i => c + UInt64.ofNat (i + 1)
  have distinct : following.Nodup := by
    refine List.Nodup.map_on ?_ List.nodup_range
    intro i isIn j isIn' same
    rw [List.mem_range] at isIn isIn'
    have same := congrArg UInt64.toNat ((UInt64.add_right_inj c).mp same)
    simp only [UInt64.toNat_ofNat'] at same
    omega
  have subset : following ⊆ observed := by
    intro n isFollowing
    obtain ⟨i, isIn, rfl⟩ := List.mem_map.mp isFollowing
    exact chain i (Nat.lt_succ_iff.mp (List.mem_range.mp isIn))
  have := (List.subperm_of_subset distinct subset).length_le
  simp only [following, List.length_map, List.length_range] at this
  omega

theorem advanceGuarded_eq {observed : SequenceSet} {turns : Nat} {c : UInt64}
    (noZero : 0 ∉ observed) : advanceGuarded observed turns c = advance observed turns c := by
  induction turns generalizing c with
  | zero => rfl
  | succ turns ih =>
      have largest : c = maxSequence → c + 1 ∉ observed := by
        rintro rfl
        exact noZero
      unfold advanceGuarded advance
      by_cases next : c + 1 ∈ observed
      · rw [if_pos next, if_pos ⟨fun isLargest => largest isLargest next, next⟩, ih]
      · rw [if_neg next, if_neg fun both => next both.2]

/-! ## The window -/

/-- All numbers from the floor on up to the end are known. -/
def Window (known : UInt64 → Prop) (floor last : UInt64) : Prop :=
  ∀ n, 0 < n → floor ≤ n → n ≤ last → known n

section
variable {known : UInt64 → Prop} {floor c : UInt64} {observed : SequenceSet}

theorem Window.next (W : Window known floor c) (here : known (c + 1)) :
    Window known floor (c + 1) := by
  intro n positive above below
  by_cases old : n ≤ c
  · exact W n positive above old
  · have : n = c + 1 := by grind
    rw [this]
    exact here

theorem Window.advance (W : Window known floor c) (knows : ∀ n ∈ observed, known n) (turns : Nat) :
    Window known floor (advance observed turns c) := by
  induction turns generalizing c with
  | zero => exact W
  | succ turns ih =>
      unfold Rmw.advance
      split
      case isTrue next => exact ih (W.next (knows _ next))
      case isFalse => exact W

theorem Window.advanceGuarded (W : Window known floor c) (knows : ∀ n ∈ observed, known n)
    (turns : Nat) : Window known floor (advanceGuarded observed turns c) := by
  induction turns generalizing c with
  | zero => exact W
  | succ turns ih =>
      unfold Rmw.advanceGuarded
      split
      case isTrue next => exact ih (W.next (knows _ next.2))
      case isFalse => exact W

/-- A range that is known and reaches back to the window lengthens it. -/
theorem Window.range (W : Window known floor c) {range : SequenceRange}
    (knows : ∀ n, range.Mem n → known n) (reaches : range.1 ≤ c + 1) (more : c < range.2) :
    Window known floor range.2 := by
  intro n positive above below
  by_cases old : n ≤ c
  · exact W n positive above old
  · refine knows n ⟨?_, below⟩
    grind

/-! ## Lost ranges -/

def AllKnown (known : UInt64 → Prop) (ranges : List SequenceRange) : Prop :=
  ∀ range ∈ ranges, ∀ n, range.Mem n → known n

theorem AllKnown.nil {known : UInt64 → Prop} : AllKnown known [] :=
  fun _ among => absurd among List.not_mem_nil

theorem AllKnown.mergeRange {merged : List SequenceRange} (K : AllKnown known merged)
    {range : SequenceRange} (knows : ∀ n, range.Mem n → known n) :
    AllKnown known (mergeRange merged range) := by
  unfold Rmw.mergeRange
  cases last : merged.getLast? with
  | none =>
      intro r isRange
      rw [List.mem_singleton.mp isRange]
      exact knows
  | some previous =>
      have isLast := List.mem_of_getLast? last
      dsimp only
      split
      case isTrue touches =>
        intro r isRange n inside
        rcases List.mem_append.mp isRange with early | new
        · exact K r (List.mem_of_mem_dropLast early) n inside
        · rw [List.mem_singleton.mp new] at inside
          obtain ⟨first, second⟩ := inside
          by_cases inPrevious : n ≤ previous.2
          · exact K previous isLast n ⟨first, inPrevious⟩
          · refine knows n ⟨?_, ?_⟩ <;> grind [stdMax]
      case isFalse =>
        intro r isRange
        rcases List.mem_append.mp isRange with old | new
        · exact K r old
        · rw [List.mem_singleton.mp new]
          exact knows

theorem AllKnown.foldl_mergeRange {merged ranges : List SequenceRange}
    (K : AllKnown known merged) (knows : AllKnown known ranges) :
    AllKnown known (ranges.foldl Rmw.mergeRange merged) := by
  induction ranges generalizing merged with
  | nil => exact K
  | cons range ranges ih =>
      apply ih
      · exact K.mergeRange (knows range List.mem_cons_self)
      · exact fun r isRange => knows r (List.mem_cons_of_mem _ isRange)

theorem AllKnown.mergeConfirmedLostRange {ranges : List SequenceRange} (K : AllKnown known ranges)
    {range : SequenceRange} (knows : ∀ n, range.Mem n → known n) :
    AllKnown known (mergeConfirmedLostRange ranges range) := by
  unfold Rmw.mergeConfirmedLostRange
  split
  · exact K
  · apply AllKnown.foldl_mergeRange
    · exact nofun
    · intro r isRange
      have isRange := (List.perm_insertionSort _ _).mem_iff.mp isRange
      rcases List.mem_append.mp isRange with old | new
      · exact K r old
      · rw [List.mem_singleton.mp new]
        exact knows

theorem AllKnown.foldl_mergeConfirmedLostRange {ranges lost : List SequenceRange}
    (K : AllKnown known ranges) (knows : AllKnown known lost) :
    AllKnown known (lost.foldl Rmw.mergeConfirmedLostRange ranges) := by
  induction lost generalizing ranges with
  | nil => exact K
  | cons range lost ih =>
      apply ih
      · exact K.mergeConfirmedLostRange (knows range List.mem_cons_self)
      · exact fun r isRange => knows r (List.mem_cons_of_mem _ isRange)

theorem AllKnown.consume {ranges : List SequenceRange} (K : AllKnown known ranges)
    (W : Window known floor c) (knows : ∀ n ∈ observed, known n) (lost : Nat) :
    AllKnown known (consumeLostRanges observed ranges c lost).1 ∧
      Window known floor (consumeLostRanges observed ranges c lost).2.1 := by
  induction ranges generalizing c lost with
  | nil => exact ⟨nofun, W.advanceGuarded knows _⟩
  | cons first rest ih =>
      have W := W.advanceGuarded knows observed.length
      have first' := K first List.mem_cons_self
      have rest' : AllKnown known rest := fun r isRange => K r (List.mem_cons_of_mem _ isRange)
      unfold consumeLostRanges
      generalize Rmw.advanceGuarded observed observed.length c = c at W
      dsimp only
      split
      · exact ih rest' W lost
      case isFalse beyond =>
      split
      · exact ⟨nofun, W⟩
      case isFalse =>
      generalize shortened : (if first.1 ≤ c then (c + 1, first.2) else first) = trimmed
      have sameEnd : trimmed.2 = first.2 := by
        rw [← shortened]
        split <;> rfl
      have trimmed' : ∀ n, SequenceRange.Mem trimmed n → known n := by
        intro n inside
        rw [← shortened] at inside
        split at inside
        · obtain ⟨low, high⟩ := inside
          refine first' n ⟨?_, high⟩
          grind
        · exact first' n inside
      split
      case isTrue =>
        refine ⟨fun r isRange => ?_, W⟩
        cases isRange with
        | head => exact trimmed'
        | tail _ isRest => exact rest' r isRest
      case isFalse adjacent =>
        apply ih rest'
        apply W.range trimmed' <;> grind

end

/-! ## Runs -/

inductive ReceptionEvent where
  | observeFrame (frame : DataFrame)
  | establishBaseline
  | applyConfirmedLost (ranges : List SequenceRange)

namespace SequenceState

def receive (s : SequenceState) : ReceptionEvent → SequenceState
  | .observeFrame frame => (observeFrame s frame).2
  | .establishBaseline => (establishReceptionSequenceBaseline s).2
  | .applyConfirmedLost ranges => (applyConfirmedLostRanges s ranges).2

def runs (events : List ReceptionEvent) : SequenceState := events.foldl receive {}

/-- The number was passed to `observe_frame` or lies in a range that was confirmed lost. -/
def Received (events : List ReceptionEvent) (sequence : UInt64) : Prop :=
  (∃ frame, .observeFrame frame ∈ events ∧ frame.sourceSequenceNumber = sequence) ∨
    ∃ ranges, .applyConfirmedLost ranges ∈ events ∧ ∃ range ∈ ranges, range.Mem sequence

theorem Received.mono {events more : List ReceptionEvent} {sequence : UInt64}
    (R : Received events sequence) : Received (events ++ more) sequence := by
  rcases R with ⟨frame, isEvent, same⟩ | ⟨ranges, isEvent, inside⟩
  · exact .inl ⟨frame, List.mem_append_left _ isEvent, same⟩
  · exact .inr ⟨ranges, List.mem_append_left _ isEvent, inside⟩

structure Sound (known : UInt64 → Prop) (s : SequenceState) : Prop where
  observed : ∀ n ∈ s.observedSequences, known n
  lost : AllKnown known s.confirmedLostRanges
  window : Window known s.cumulativeAckFloor s.highestContiguousSequence
  highest : s.highestObservedSequence = 0 ∨ s.highestObservedSequence ∈ s.observedSequences

namespace Sound

variable {known : UInt64 → Prop} {s : SequenceState}

theorem mono {known' : UInt64 → Prop} (S : s.Sound known) (more : ∀ n, known n → known' n) :
    s.Sound known' where
  observed n isObserved := more n (S.observed n isObserved)
  lost range isRange n inside := more n (S.lost range isRange n inside)
  window n positive above below := more n (S.window n positive above below)
  highest := S.highest

theorem observeFrame (S : s.Sound known) {frame : DataFrame}
    (here : known frame.sourceSequenceNumber) : (observeFrame s frame).2.Sound known := by
  have observed : ∀ n ∈ s.observedSequences.insert frame.sourceSequenceNumber, known n := by
    intro n isObserved
    rcases SequenceSet.mem_insert.mp isObserved with rfl | old
    · exact here
    · exact S.observed n old
  refine ⟨observed, S.lost, S.window.advance observed _, ?_⟩
  simp only [Rmw.observeFrame, SequenceSet.mem_insert]
  by_cases newest : s.highestObservedSequence ≤ frame.sourceSequenceNumber
  · right
    left
    grind [stdMax]
  · have same : stdMax s.highestObservedSequence frame.sourceSequenceNumber =
        s.highestObservedSequence := by grind [stdMax]
    rw [same]
    exact S.highest.imp_right .inr

theorem establishBaseline (S : s.Sound known) :
    (establishReceptionSequenceBaseline s).2.Sound known where
  observed := S.observed
  lost := S.lost
  window := by
    intro n positive above below
    simp only [establishReceptionSequenceBaseline] at above below
    have same : n = s.highestObservedSequence := by grind
    rcases S.highest with zero | isObserved
    · grind
    · exact same ▸ S.observed _ isObserved
  highest := S.highest

theorem applyConfirmedLost (S : s.Sound known) {ranges : List SequenceRange}
    (knows : AllKnown known ranges) : (applyConfirmedLostRanges s ranges).2.Sound known := by
  unfold applyConfirmedLostRanges
  split
  · exact S
  · obtain ⟨left, window⟩ :=
      (S.lost.foldl_mergeConfirmedLostRange knows).consume S.window S.observed 0
    exact ⟨S.observed, left, window, S.highest⟩

/-- What the feedback acknowledges besides the frame itself lies in the window. -/
theorem acknowledges (S : s.Sound known) {frame : AckNackFrame} {sequence : UInt64}
    (here : known frame.ackSequenceNumber)
    (lowest : frame.lowestObservedSequence = (feedbackFromSequenceState s).lowestObservedSequence)
    (contiguous : frame.highestContiguousSequence = s.highestContiguousSequence)
    (acknowledged : ackNackAcknowledgesSequence frame sequence) : known sequence := by
  simp only [ackNackAcknowledgesSequence, lowest, contiguous, feedbackFromSequenceState,
    Bool.or_eq_true, decide_eq_true_eq, Bool.and_eq_true] at acknowledged
  rcases acknowledged with rfl | ⟨⟨⟨positive, -⟩, above⟩, below⟩
  · exact here
  · refine S.window sequence ?_ ?_ below
    · grind
    · split at above
      · grind
      · split at above <;> grind [stdMax]

end Sound

theorem sound_runs (events : List ReceptionEvent) : (runs events).Sound (Received events) := by
  induction events using List.reverseRecOn with
  | nil => exact ⟨nofun, nofun, fun n positive _ below => by grind [runs], .inl rfl⟩
  | append_singleton events e ih =>
      have S : (runs events).Sound (Received (events ++ [e])) := ih.mono fun n R => R.mono
      have isLast : e ∈ events ++ [e] := List.mem_append_right _ (List.mem_singleton_self _)
      rw [runs, List.foldl_append]
      cases e with
      | observeFrame frame => exact S.observeFrame (.inl ⟨frame, isLast, rfl⟩)
      | establishBaseline => exact S.establishBaseline
      | applyConfirmedLost ranges =>
          apply S.applyConfirmedLost
          intro range isRange n inside
          exact .inr ⟨ranges, isLast, range, isRange, inside⟩

/-- After any events, the feedback on a frame acknowledges only what was received. -/
theorem acknowledged_received (events : List ReceptionEvent) (frame : DataFrame)
    (subscriberId : Bytes) (sequence : UInt64)
    (acknowledged : ackNackAcknowledgesSequence
      ((observeFrame (runs events) frame).1.frame frame subscriberId) sequence) :
    Received (events ++ [.observeFrame frame]) sequence := by
  have S := sound_runs (events ++ [.observeFrame frame])
  rw [runs, List.foldl_append] at S
  have isLast : ReceptionEvent.observeFrame frame ∈ events ++ [.observeFrame frame] :=
    List.mem_append_right _ (List.mem_singleton_self _)
  exact Sound.acknowledges S (.inl ⟨frame, isLast, rfl⟩) rfl rfl acknowledged

/-- A baseline at 7, the loss of 8 and 9, and frame 10 acknowledge 7 to 10. -/
theorem acknowledged_received_lossAfterBaseline :
    Received [.observeFrame { sourceSequenceNumber := 7 }, .establishBaseline,
      .applyConfirmedLost [(8, 9)], .observeFrame { sourceSequenceNumber := 10 }] 9 :=
  acknowledged_received [.observeFrame { sourceSequenceNumber := 7 }, .establishBaseline,
    .applyConfirmedLost [(8, 9)]] { sourceSequenceNumber := 10 } [] 9 (by decide)

end SequenceState

end FleetRMW.Rmw
