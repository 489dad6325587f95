import FleetRMW.Rmw.GapReport
import FleetRMW.Rmw.Ledger
import Mathlib.Data.List.Lex

/-! # What a request for missing frames is answered with

The requested ranges are walked one after the other, each along the frames of the ledger in
ascending order. A frame that is in a range is selected to be sent again, unless an earlier range
has selected it, and what lies between the frames is reported as unavailable. So the numbers of a
request are parted into those of the ledger and the rest.
-/

namespace FleetRMW.Rmw

open Lib

/-! ## The walk -/

/-- `operator<=` of `std::pair<std::uint64_t, std::string>` -/
def historyLe (left right : UInt64 × Bytes) : Bool :=
  left.1 < right.1 || (left.1 = right.1 && left.2 ≤ right.2)

/-- The reliable frames of the stream that the feedback is about, in ascending order. -/
def availableHistory (ledger : RetransmitLedger) (ackNack : AckNackFrame) :
    List (UInt64 × Bytes) :=
  ((ledger.filter fun item => item.2.reliable && item.2.publisherId = ackNack.publisherId &&
      item.2.domainId = ackNack.domainId).map fun item =>
    (item.2.sourceSequenceNumber, item.2.encodedFrame)).mergeSort historyLe

structure NackAnswer where
  retransmitFrames : List (UInt64 × Bytes) := []
  unavailableRanges : List SequenceRange := []
  deriving Repr, DecidableEq

namespace NackAnswer

/-- The elements of `retransmit_sequences`. -/
def retransmitSequences (answer : NackAnswer) : List UInt64 := answer.retransmitFrames.map (·.1)

def select (answer : NackAnswer) (available : UInt64 × Bytes) : NackAnswer :=
  if answer.retransmitSequences.any (· = available.1) then answer
  else { answer with retransmitFrames := answer.retransmitFrames ++ [available] }

def lack (answer : NackAnswer) (first last : UInt64) : NackAnswer :=
  { answer with unavailableRanges := answer.unavailableRanges ++ [(first, last)] }

/-- What stands between the cursor and the next frame. -/
def lackBefore (answer : NackAnswer) (cursor available : UInt64) : NackAnswer :=
  if available > cursor then answer.lack cursor (available - 1) else answer

/-- What is left of the range when no frame of it is left. -/
def lackRest (answer : NackAnswer) (cursor last : UInt64) : NackAnswer :=
  if cursor ≤ last then answer.lack cursor last else answer

/-- The walk along the history from a cursor to the end of a range. -/
def walk (last : UInt64) : UInt64 → List (UInt64 × Bytes) → NackAnswer → NackAnswer
  | cursor, [], answer => answer.lackRest cursor last
  | cursor, available :: rest, answer =>
      if available.1 < cursor then walk last cursor rest answer
      else if available.1 > last then answer.lackRest cursor last
      else if available.1 = maxSequence then
        (answer.lackBefore cursor available.1).select available
      else
        walk last (available.1 + 1) rest ((answer.lackBefore cursor available.1).select available)

def ofRanges (history : List (UInt64 × Bytes)) (ranges : List SequenceRange) : NackAnswer :=
  ranges.foldl (fun answer range =>
    if range.1 = 0 ∨ range.1 > range.2 then answer
    else answer.walk range.2 range.1 history) {}

end NackAnswer

/-- What `handle_ack_nack_feedback` selects and reports, and the notice that it prepares for the
    subscriber; `none` for the feedback on another robot's frames. -/
def answerAckNack (localRobotId : Bytes) (publishers : List (Bytes × LedgerPublisher))
    (ledger : RetransmitLedger) (now : Int64) (ackNack : AckNackFrame) :
    Option (NackAnswer × Option UnrecoverableLossNotice) :=
  if ackNack.robotId ≠ localRobotId then none
  else
    let answer := NackAnswer.ofRanges (availableHistory ledger ackNack) ackNack.missingSequenceRanges
    let localReliablePublisher := publishers.any fun publisher =>
      publisher.1 = ackNack.publisherId && publisher.2.domainId = ackNack.domainId &&
        publisher.2.topicName = ackNack.topic && publisher.2.qos.reliable
    some (answer,
      if localReliablePublisher && ackNack.subscriberId ≠ [] then
        some { robotId := ackNack.robotId
               topic := ackNack.topic
               publisherId := ackNack.publisherId
               subscriberId := ackNack.subscriberId
               sourceTimestampNs := now
               lostSequenceRanges := answer.unavailableRanges
               domainId := ackNack.domainId }
      else none)

/-! ## What is held and what is requested -/

/-- The ledger has a frame of the stream under the number. -/
def HeldFor (ledger : RetransmitLedger) (ackNack : AckNackFrame) (sequence : UInt64)
    (encodedFrame : Bytes) : Prop :=
  ∃ item ∈ ledger, item.2.reliable ∧ item.2.publisherId = ackNack.publisherId ∧
    item.2.domainId = ackNack.domainId ∧ item.2.sourceSequenceNumber = sequence ∧
    item.2.encodedFrame = encodedFrame

/-- The number is in a range that is well formed. -/
def Requested (ranges : List SequenceRange) (sequence : UInt64) : Prop :=
  ∃ range ∈ ranges, range.1 ≠ 0 ∧ range.1 ≤ range.2 ∧ SequenceRange.Mem range sequence

/-- Each requested number is selected once, or is in a range that is unavailable. -/
structure Parts (ledger : RetransmitLedger) (ackNack : AckNackFrame) (answer : NackAnswer) :
    Prop where
  once : answer.retransmitSequences.Nodup
  frames : ∀ sequence encodedFrame, (sequence, encodedFrame) ∈ answer.retransmitFrames →
    HeldFor ledger ackNack sequence encodedFrame
  selected : ∀ sequence, sequence ∈ answer.retransmitSequences ↔
    (∃ encodedFrame, HeldFor ledger ackNack sequence encodedFrame) ∧
      Requested ackNack.missingSequenceRanges sequence
  unavailable : ∀ sequence, (∃ range ∈ answer.unavailableRanges, SequenceRange.Mem range sequence) ↔
    Requested ackNack.missingSequenceRanges sequence ∧
      ¬∃ encodedFrame, HeldFor ledger ackNack sequence encodedFrame

/-! ## The history -/

section
variable {ledger : RetransmitLedger} {ackNack : AckNackFrame}

theorem mem_availableHistory {sequence : UInt64} {encodedFrame : Bytes} :
    (sequence, encodedFrame) ∈ availableHistory ledger ackNack ↔
      HeldFor ledger ackNack sequence encodedFrame := by
  simp only [availableHistory, List.mem_mergeSort, List.mem_map, List.mem_filter, Prod.mk.injEq,
    Bool.and_eq_true, decide_eq_true_eq, HeldFor]
  constructor
  · intro found
    obtain ⟨item, ⟨among, ⟨reliable, publisher⟩, domain⟩, same, frame⟩ := found
    exact ⟨item, among, reliable, publisher, domain, same, frame⟩
  · intro held
    obtain ⟨item, among, reliable, publisher, domain, same, frame⟩ := held
    exact ⟨item, ⟨among, ⟨reliable, publisher⟩, domain⟩, same, frame⟩

theorem historyLe_iff {left right : UInt64 × Bytes} : historyLe left right ↔
    left.1.toNat < right.1.toNat ∨ left.1.toNat = right.1.toNat ∧ left.2 ≤ right.2 := by
  simp only [historyLe, Bool.or_eq_true, Bool.and_eq_true, decide_eq_true_eq, UInt64.lt_iff_toNat_lt,
    UInt64.toNat_inj]

theorem availableHistory_ascending :
    ((availableHistory ledger ackNack).map (·.1)).Pairwise (· ≤ ·) := by
  apply List.pairwise_map.mpr
  have sorted : ∀ l : List (UInt64 × Bytes),
      (l.mergeSort historyLe).Pairwise fun left right => historyLe left right :=
    List.pairwise_mergeSort (fun a b c ab bc => by
      rw [historyLe_iff] at *
      rcases ab with less | ⟨same, le⟩
      · rcases bc with less' | ⟨same', -⟩
        · exact .inl (less.trans less')
        · exact .inl (less.trans_eq same')
      · rcases bc with less' | ⟨same', le'⟩
        · exact .inl (same.trans_lt less')
        · exact .inr ⟨same.trans same', List.le_trans le le'⟩)
    (fun a b => by
      rw [Bool.or_eq_true, historyLe_iff, historyLe_iff]
      rcases Nat.lt_trichotomy a.1.toNat b.1.toNat with less | same | greater
      · exact .inl (.inl less)
      · rcases List.le_total a.2 b.2 with le | ge
        · exact .inl (.inr ⟨same, le⟩)
        · exact .inr (.inr ⟨same.symm, ge⟩)
      · exact .inr (.inl greater))
  apply (sorted _).imp
  intro left right le
  rw [UInt64.le_iff_toNat_le]
  rcases historyLe_iff.mp le with less | ⟨same, -⟩
  · exact less.le
  · exact same.le

end

/-! ## The walk parts a range -/

namespace NackAnswer

variable {answer : NackAnswer} {available : UInt64 × Bytes} {history : List (UInt64 × Bytes)}

theorem mem_select {sequence : UInt64} : sequence ∈ (answer.select available).retransmitSequences ↔
    sequence ∈ answer.retransmitSequences ∨ sequence = available.1 := by
  unfold select
  split
  case isTrue known =>
    obtain ⟨held, among, same⟩ := List.any_eq_true.mp known
    obtain rfl := decide_eq_true_eq.mp same
    constructor
    · exact .inl
    · rintro (earlier | rfl)
      · exact earlier
      · exact among
  case isFalse =>
    simp only [retransmitSequences, List.map_append, List.map_singleton, List.mem_append,
      List.mem_singleton]

/-- No frame is selected twice, and each is one of the history. -/
structure Selects (history : List (UInt64 × Bytes)) (answer : NackAnswer) : Prop where
  once : answer.retransmitSequences.Nodup
  frames : ∀ available ∈ answer.retransmitFrames, available ∈ history

theorem Selects.select (h : Selects history answer) (among : available ∈ history) :
    Selects history (answer.select available) := by
  unfold NackAnswer.select
  split
  case isTrue => exact h
  case isFalse fresh =>
    have fresh : available.1 ∉ answer.retransmitSequences := by
      intro known
      exact fresh (List.any_eq_true.mpr ⟨_, known, decide_eq_true rfl⟩)
    constructor
    · rw [retransmitSequences, List.map_append, List.map_singleton]
      exact List.nodup_append.mpr ⟨h.once, List.nodup_singleton _, by
        intro a isEarlier b isNew same
        obtain rfl := List.mem_singleton.mp isNew
        exact fresh (same ▸ isEarlier)⟩
    · intro other isOther
      rcases List.mem_append.mp isOther with earlier | new
      · exact h.frames other earlier
      · exact List.mem_singleton.mp new ▸ among

/-- Behind the end of the range nothing is missing. -/
theorem missingRanges_of_lt {last cursor : UInt64} {observed : SequenceSet} (through : last < cursor) :
    missingRanges last cursor observed = [] := by
  have notLeft : ¬cursor ≤ last := UInt64.not_le.mpr through
  induction observed with
  | nil => rw [missingRanges, if_neg notLeft]
  | cons least rest ih =>
      unfold missingRanges
      by_cases within : least ≤ last
      · rw [if_pos within, if_pos (UInt64.lt_of_le_of_lt within through), ih]
      · rw [if_neg within, if_neg notLeft]

@[simp] theorem select_unavailableRanges :
    (answer.select available).unavailableRanges = answer.unavailableRanges := by
  unfold select
  split <;> rfl

theorem lackBefore_unavailableRanges {cursor next : UInt64} :
    (answer.lackBefore cursor next).unavailableRanges =
      answer.unavailableRanges ++ if next > cursor then [(cursor, next - 1)] else [] := by
  unfold lackBefore
  split
  · rfl
  · rw [List.append_nil]

theorem lackRest_unavailableRanges {cursor last : UInt64} :
    (answer.lackRest cursor last).unavailableRanges =
      answer.unavailableRanges ++ if cursor ≤ last then [(cursor, last)] else [] := by
  unfold lackRest
  split
  · rfl
  · rw [List.append_nil]

@[simp] theorem lackBefore_retransmitFrames {cursor next : UInt64} :
    (answer.lackBefore cursor next).retransmitFrames = answer.retransmitFrames := by
  unfold lackBefore
  split <;> rfl

@[simp] theorem lackRest_retransmitFrames {cursor last : UInt64} :
    (answer.lackRest cursor last).retransmitFrames = answer.retransmitFrames := by
  unfold lackRest
  split <;> rfl

/-- The ranges that a walk reports are those of a gap report. -/
theorem walk_unavailableRanges {last cursor : UInt64} :
    (answer.walk last cursor history).unavailableRanges =
      answer.unavailableRanges ++ missingRanges last cursor (history.map (·.1)) := by
  induction history generalizing answer cursor with
  | nil =>
      rw [walk, lackRest_unavailableRanges]
      rfl
  | cons available rest ih =>
      rw [List.map_cons, walk, missingRanges]
      by_cases before : available.1 < cursor
      case pos =>
        rw [if_pos before, ih]
        by_cases within : available.1 ≤ last
        case pos => rw [if_pos within, if_pos before]
        case neg =>
          have through : last < cursor := UInt64.lt_trans (UInt64.not_le.mp within) before
          rw [if_neg within, missingRanges_of_lt through, if_neg (UInt64.not_le.mpr through)]
      case neg =>
        rw [if_neg before]
        by_cases within : available.1 ≤ last
        case neg =>
          rw [if_pos (UInt64.not_le.mp within), if_neg within, lackRest_unavailableRanges]
        case pos =>
          rw [if_neg (UInt64.not_lt.mpr within), if_pos within, if_neg before]
          by_cases largest : available.1 = maxSequence
          case pos =>
            rw [if_pos largest, if_pos largest, select_unavailableRanges,
              lackBefore_unavailableRanges, List.append_nil]
          case neg =>
            rw [if_neg largest, if_neg largest, ih, select_unavailableRanges,
              lackBefore_unavailableRanges, List.append_assoc]

theorem Selects.of_frames {other : NackAnswer} (h : Selects history answer)
    (same : other.retransmitFrames = answer.retransmitFrames) : Selects history other where
  once := by
    rw [retransmitSequences, same]
    exact h.once
  frames := by
    rw [same]
    exact h.frames

theorem Selects.walk {last cursor : UInt64} {part : List (UInt64 × Bytes)}
    (h : Selects history answer) (among : ∀ available ∈ part, available ∈ history) :
    Selects history (answer.walk last cursor part) := by
  induction part generalizing answer cursor with
  | nil => exact h.of_frames lackRest_retransmitFrames
  | cons available rest ih =>
      have later : ∀ other ∈ rest, other ∈ history := fun other isOther =>
        among other (List.mem_cons_of_mem _ isOther)
      have selected : Selects history ((answer.lackBefore cursor available.1).select available) :=
        (h.of_frames lackBefore_retransmitFrames).select (among available List.mem_cons_self)
      unfold NackAnswer.walk
      split
      · exact ih h later
      · split
        · exact h.of_frames lackRest_retransmitFrames
        · split
          · exact selected
          · exact ih selected later

/-- A walk adds the numbers of the history that are in the range. -/
theorem mem_walk {last cursor sequence : UInt64}
    (ascending : (history.map (·.1)).Pairwise (· ≤ ·)) :
    sequence ∈ (answer.walk last cursor history).retransmitSequences ↔
      sequence ∈ answer.retransmitSequences ∨
        sequence ∈ history.map (·.1) ∧ cursor ≤ sequence ∧ sequence ≤ last := by
  induction history generalizing answer cursor with
  | nil => simp [walk, retransmitSequences]
  | cons available rest ih =>
      obtain ⟨above, ascending⟩ := List.pairwise_cons.mp ascending
      rw [List.map_cons, List.mem_cons, walk]
      have kept : (answer.lackBefore cursor available.1).retransmitSequences =
          answer.retransmitSequences := by
        rw [retransmitSequences, lackBefore_retransmitFrames, retransmitSequences]
      split
      case isTrue before =>
        rw [ih ascending]
        grind
      case isFalse notBefore =>
        split
        case isTrue beyond =>
          rw [retransmitSequences, lackRest_retransmitFrames, ← retransmitSequences]
          grind
        case isFalse within =>
          split
          case isTrue largest =>
            have top : ∀ n ∈ rest.map (·.1), n = available.1 := by
              intro n among
              apply UInt64.le_antisymm _ (above n among)
              change n ≤ available.1
              rw [largest, UInt64.le_iff_toNat_le]
              exact le_maxSequence n
            rw [mem_select, kept]
            grind
          case isFalse notLargest =>
            rw [ih ascending, mem_select, kept]
            grind

theorem mem_walk_unavailable {last cursor sequence : UInt64}
    (ascending : (history.map (·.1)).Pairwise (· ≤ ·)) :
    (∃ range ∈ (answer.walk last cursor history).unavailableRanges,
        SequenceRange.Mem range sequence) ↔
      (∃ range ∈ answer.unavailableRanges, SequenceRange.Mem range sequence) ∨
        sequence ∉ history.map (·.1) ∧ cursor ≤ sequence ∧ sequence ≤ last := by
  have reports : Reports ((missingRanges last cursor (history.map (·.1))).map SequenceRange.toNat)
      (MissingFrom last cursor (history.map (·.1))) := missingRanges_reports ascending
  have covers := reports.covers sequence.toNat
  have walked : (∃ range ∈ missingRanges last cursor (history.map (·.1)),
      SequenceRange.Mem range sequence) ↔
      sequence ∉ history.map (·.1) ∧ cursor ≤ sequence ∧ sequence ≤ last := by
    rw [UInt64.le_iff_toNat_le, UInt64.le_iff_toNat_le]
    constructor
    · intro inside
      obtain ⟨range, among, low, high⟩ := inside
      obtain ⟨low, high, fresh⟩ := covers.mp ⟨range.toNat, List.mem_map_of_mem among,
        UInt64.le_iff_toNat_le.mp low, UInt64.le_iff_toNat_le.mp high⟩
      exact ⟨fun held => fresh sequence held rfl, low, high⟩
    · intro lacking
      obtain ⟨fresh, low, high⟩ := lacking
      obtain ⟨_, isRange, low, high⟩ := covers.mpr ⟨low, high, by
        intro n among same
        exact fresh (UInt64.toNat_inj.mp same ▸ among)⟩
      obtain ⟨range, among, rfl⟩ := List.mem_map.mp isRange
      exact ⟨range, among, UInt64.le_iff_toNat_le.mpr low, UInt64.le_iff_toNat_le.mpr high⟩
  rw [walk_unavailableRanges, ← walked]
  simp only [List.mem_append, or_and_right, exists_or]

/-- What the walks along the ranges select and report. -/
theorem ofRanges_parts (ascending : (history.map (·.1)).Pairwise (· ≤ ·))
    (ranges : List SequenceRange) :
    Selects history (ofRanges history ranges) ∧
      (∀ sequence, sequence ∈ (ofRanges history ranges).retransmitSequences ↔
        sequence ∈ history.map (·.1) ∧ Requested ranges sequence) ∧
      ∀ sequence, (∃ range ∈ (ofRanges history ranges).unavailableRanges,
          SequenceRange.Mem range sequence) ↔
        Requested ranges sequence ∧ sequence ∉ history.map (·.1) := by
  unfold ofRanges
  induction ranges using List.reverseRecOn with
  | nil =>
      refine ⟨⟨List.nodup_nil, nofun⟩, ?_, ?_⟩
      · simp [retransmitSequences, Requested]
      · simp [Requested]
  | append_singleton ranges range ih =>
      obtain ⟨selects, selected, unavailable⟩ := ih
      rw [List.foldl_append, List.foldl_cons, List.foldl_nil]
      have requested : ∀ sequence, Requested (ranges ++ [range]) sequence ↔
          Requested ranges sequence ∨
            range.1 ≠ 0 ∧ range.1 ≤ range.2 ∧ SequenceRange.Mem range sequence := by
        intro sequence
        simp only [Requested, List.mem_append, List.mem_singleton, or_and_right, exists_or,
          exists_eq_left]
      split
      case isTrue malformed =>
        have not_ : ¬(range.1 ≠ 0 ∧ range.1 ≤ range.2) := by grind
        refine ⟨selects, ?_, ?_⟩
        · intro sequence
          rw [selected, requested]
          grind
        · intro sequence
          rw [unavailable, requested]
          grind
      case isFalse wellFormed =>
        refine ⟨selects.walk fun _ among => among, ?_, ?_⟩
        · intro sequence
          rw [mem_walk ascending, selected, requested, SequenceRange.Mem]
          grind
        · intro sequence
          rw [mem_walk_unavailable ascending, unavailable, requested, SequenceRange.Mem]
          grind

end NackAnswer

/-! ## Answers -/

/-- Feedback on a frame of the local robot is answered by parting what it requests, and the
    notice names what is unavailable. -/
theorem answerAckNack_parts (localRobotId : Bytes) (publishers : List (Bytes × LedgerPublisher))
    (ledger : RetransmitLedger) (now : Int64) (ackNack : AckNackFrame) :
    match answerAckNack localRobotId publishers ledger now ackNack with
    | none => ackNack.robotId ≠ localRobotId
    | some (answer, notice) => ackNack.robotId = localRobotId ∧ Parts ledger ackNack answer ∧
        ∀ n ∈ notice, n.lostSequenceRanges = answer.unavailableRanges := by
  unfold answerAckNack
  split
  case h_1 none_ =>
    split at none_
    case isTrue foreign => exact foreign
    case isFalse => cases none_
  case h_2 answer notice found =>
    split at found
    case isTrue => cases found
    case isFalse known =>
      obtain ⟨rfl, rfl⟩ := Prod.mk.inj (Option.some.inj found)
      have held : ∀ sequence, sequence ∈ (availableHistory ledger ackNack).map (·.1) ↔
          ∃ encodedFrame, HeldFor ledger ackNack sequence encodedFrame := by
        intro sequence
        simp only [← mem_availableHistory, List.mem_map, Prod.exists, exists_and_right,
          exists_eq_right]
      obtain ⟨selects, selected, unavailable⟩ :=
        NackAnswer.ofRanges_parts availableHistory_ascending ackNack.missingSequenceRanges
      refine ⟨not_not.mp known, ⟨selects.once, ?_, ?_, ?_⟩, ?_⟩
      · intro sequence encodedFrame among
        exact mem_availableHistory.mp (selects.frames _ among)
      · intro sequence
        rw [selected, held]
      · intro sequence
        rw [unavailable, held]
      · intro notice isNotice
        split at isNotice
        · obtain rfl := Option.some.inj isNotice
          rfl
        · cases isNotice

/-- The feedback of a subscriber on the stream of another robot that has the same publisher. -/
def foreignAckNack : AckNackFrame where
  robotId := octets "b"
  publisherId := octets "p"
  missingSequenceRanges := [(1, 1)]

def heldEntry : ReliableRetransmitEntry where
  publisherId := octets "p"
  sourceSequenceNumber := 1
  reliable := true

/-- The frame that is requested is in the ledger, and nothing is selected. -/
theorem foreign_nack_unanswered :
    ¬∀ localRobotId publishers ledger now ackNack sequence encodedFrame,
      HeldFor ledger ackNack sequence encodedFrame →
      Requested ackNack.missingSequenceRanges sequence →
      ∃ answer notice, answerAckNack localRobotId publishers ledger now ackNack =
        some (answer, notice) ∧ sequence ∈ answer.retransmitSequences := by
  intro all
  obtain ⟨_, _, answered, _⟩ := all (octets "a") [] [(octets "p|1", heldEntry)] 0 foreignAckNack 1 []
    ⟨_, List.mem_singleton_self _, rfl, rfl, rfl, rfl, rfl⟩
    ⟨(1, 1), List.mem_singleton_self _, by decide, by decide, by decide, by decide⟩
  have foreign : foreignAckNack.robotId ≠ octets "a" := by decide
  rw [answerAckNack, if_pos foreign] at answered
  cases answered

end FleetRMW.Rmw
