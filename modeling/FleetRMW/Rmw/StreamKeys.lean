import FleetRMW.Rmw.Coherent
import Mathlib.Data.List.DropRight

/-! # Stream keys

A reader keeps the state of a stream under a text of its three names. For a stream with a gap it
reads the names back from the text to ask for a repair.
-/

namespace FleetRMW.Rmw

open Lib

/-- `trim_copy` -/
def trimCopy (text : Bytes) : Bytes := (text.dropWhile isSpace).rdropWhile isSpace

/-- `split_nonempty` -/
def splitNonempty (text : Bytes) (delimiter : UInt8) : List Bytes :=
  ((text.splitOn delimiter).map trimCopy).filter fun item => item ≠ []

def repairMarkerFrameFromStreamKey (key : Bytes) (highestObservedSequence : UInt64)
    (timestampNs : Int64) : Option DataFrame :=
  match splitNonempty key 124 with
  | [robotId, topic, publisherId] => some
      { robotId, topic, publisherId
        sourceSequenceNumber := highestObservedSequence
        sourceTimestampNs := timestampNs }
  | _ => none

/-! ## Trimmed texts -/

variable {text item : Bytes} {b : UInt8} {frame other : DataFrame}

/-- A text with no blank at either end. -/
structure Trimmed (text : Bytes) : Prop where
  first : ∀ c ∈ text.head?, isSpace c = false
  last : ∀ c ∈ text.getLast?, isSpace c = false

instance (text : Bytes) : Decidable (Trimmed text) :=
  decidable_of_iff (text.head?.all (fun c => !isSpace c) = true ∧
      text.getLast?.all (fun c => !isSpace c) = true) <| by
    simp only [Option.all_eq_true, Bool.not_eq_true']
    exact ⟨fun h => ⟨h.1, h.2⟩, fun h => ⟨h.first, h.last⟩⟩

theorem trimCopy_sublist (text : Bytes) : (trimCopy text).Sublist text :=
  (List.rdropWhile_prefix _ _).sublist.trans (List.dropWhile_sublist _)

theorem trimmed_trimCopy (text : Bytes) : Trimmed (trimCopy text) where
  first c among := by
    obtain ⟨rest, whole⟩ : ∃ rest, text.dropWhile isSpace = c :: rest := by
      obtain ⟨behind, append⟩ := List.rdropWhile_prefix isSpace (text.dropWhile isSpace)
      change trimCopy text ++ behind = _ at append
      obtain ⟨more, start⟩ := List.head?_eq_some_iff.mp among
      rw [start] at append
      exact ⟨more ++ behind, append.symm⟩
    have start := List.head?_dropWhile_not isSpace text
    rw [whole] at start
    exact start
  last c among := by
    obtain ⟨some_, last⟩ := List.mem_getLast?_eq_getLast among
    rw [last]
    exact Bool.not_eq_true _ ▸ List.rdropWhile_last_not isSpace _ some_

theorem trimCopy_eq_self (trimmed : Trimmed text) : trimCopy text = text := by
  have start : text.dropWhile isSpace = text := by
    cases text with
    | nil => rfl
    | cons c rest => rw [List.dropWhile_cons_of_neg (by rw [trimmed.first c rfl]; decide)]
  rw [trimCopy, start, List.rdropWhile_eq_self_iff]
  intro some_
  rw [trimmed.last _ (List.getLast_mem_getLast? some_)]
  decide

/-- A name that stands in a key unchanged. -/
structure Unmistakable (name : Bytes) : Prop where
  given : name ≠ []
  plain : 124 ∉ name
  trimmed : Trimmed name

instance (name : Bytes) : Decidable (Unmistakable name) :=
  decidable_of_iff (name ≠ [] ∧ 124 ∉ name ∧ Trimmed name)
    ⟨fun h => ⟨h.1, h.2.1, h.2.2⟩, fun h => ⟨h.given, h.plain, h.trimmed⟩⟩

/-! ## Pieces -/

theorem splitOn_plain (among : item ∈ text.splitOn b) : b ∉ item := by
  induction text generalizing item with
  | nil =>
      rw [List.splitOn_nil, List.mem_singleton] at among
      rw [among]
      exact List.not_mem_nil
  | cons c text ih =>
      rw [List.splitOn_cons_eq_if_modifyHead] at among
      split at among
      case isTrue =>
        rcases List.mem_cons.mp among with rfl | later
        · exact List.not_mem_nil
        · exact ih later
      case isFalse other =>
        cases pieces : text.splitOn b with
        | nil => exact absurd pieces (List.splitOn_ne_nil b text)
        | cons piece rest =>
            rw [pieces] at among ih
            rcases List.mem_cons.mp among with rfl | later
            · intro inside
              rcases List.mem_cons.mp inside with rfl | behind
              · exact other (beq_self_eq_true _)
              · exact ih List.mem_cons_self behind
            · exact ih (List.mem_cons_of_mem _ later)

/-- What comes out of a key could stand in one. -/
theorem unmistakable_of_mem (among : item ∈ splitNonempty text 124) : Unmistakable item := by
  obtain ⟨inside, given⟩ := List.mem_filter.mp among
  obtain ⟨piece, isPiece, rfl⟩ := List.mem_map.mp inside
  exact ⟨of_decide_eq_true given,
    fun bar => splitOn_plain isPiece ((trimCopy_sublist piece).subset bar), trimmed_trimCopy piece⟩

/-- The names of the stream. -/
def DataFrame.names (frame : DataFrame) : Bytes × Bytes × Bytes :=
  (frame.robotId, frame.topic, frame.publisherId)

theorem streamKey_splitOn (frame : DataFrame) : (streamKey frame).splitOn 124 =
    frame.robotId.splitOn 124 ++ (frame.topic.splitOn 124 ++ frame.publisherId.splitOn 124) := by
  have shape : streamKey frame =
      frame.robotId ++ 124 :: (frame.topic ++ 124 :: frame.publisherId) := by
    unfold streamKey
    simp only [List.append_assoc]
    rfl
  have bar : ∀ front behind : Bytes,
      (front ++ 124 :: behind).splitOn 124 = front.splitOn 124 ++ behind.splitOn 124 :=
    fun front behind => List.splitOnP_append_cons front behind (beq_self_eq_true _)
  rw [shape, bar, bar]

theorem text_of_splitOn (single : text.splitOn b = [item]) : text = item := by
  have whole : [b].intercalate (text.splitOn b) = text := List.intercalate_splitOn b
  rw [single] at whole
  exact whole.symm.trans (List.append_nil item)

/-! ## Keys -/

/-- All three names of the stream stand in its key unchanged. -/
def DataFrame.Unmistakable (frame : DataFrame) : Prop :=
  Rmw.Unmistakable frame.robotId ∧ Rmw.Unmistakable frame.topic ∧ Rmw.Unmistakable frame.publisherId

theorem DataFrame.Unmistakable.splitOn (clear : frame.Unmistakable) :
    (streamKey frame).splitOn 124 = [frame.robotId, frame.topic, frame.publisherId] := by
  obtain ⟨robot, topic, publisher⟩ := clear
  rw [streamKey_splitOn, List.splitOn_eq_singleton robot.plain, List.splitOn_eq_singleton topic.plain,
    List.splitOn_eq_singleton publisher.plain]
  rfl

/-- The stream's gaps are asked for under its own names, and no other stream has its key. -/
structure KeyInverts (frame : DataFrame) : Prop where
  marker : ∀ highestObservedSequence timestampNs, ∃ marker,
    repairMarkerFrameFromStreamKey (streamKey frame) highestObservedSequence timestampNs =
      some marker ∧ marker.names = frame.names
  distinct : ∀ other : DataFrame, other.names ≠ frame.names → streamKey other ≠ streamKey frame

theorem names_of_streamKey (clear : frame.Unmistakable) (same : streamKey other = streamKey frame) :
    other.names = frame.names := by
  have pieces := clear.splitOn
  rw [← same, streamKey_splitOn] at pieces
  cases robot : other.robotId.splitOn 124 with
  | nil => exact absurd robot (List.splitOn_ne_nil _ _)
  | cons robotId robot' =>
      cases topic : other.topic.splitOn 124 with
      | nil => exact absurd topic (List.splitOn_ne_nil _ _)
      | cons topicName topic' =>
          cases publisher : other.publisherId.splitOn 124 with
          | nil => exact absurd publisher (List.splitOn_ne_nil _ _)
          | cons publisherId publisher' =>
              rw [robot, topic, publisher] at pieces
              have lengths := congrArg List.length pieces
              simp only [List.length_append, List.length_cons, List.length_nil] at lengths
              obtain rfl := List.eq_nil_of_length_eq_zero (by omega : robot'.length = 0)
              obtain rfl := List.eq_nil_of_length_eq_zero (by omega : topic'.length = 0)
              obtain rfl := List.eq_nil_of_length_eq_zero (by omega : publisher'.length = 0)
              simp only [List.cons_append, List.nil_append, List.cons.injEq, and_true] at pieces
              obtain ⟨sameRobot, sameTopic, samePublisher⟩ := pieces
              rw [DataFrame.names, text_of_splitOn robot, text_of_splitOn topic,
                text_of_splitOn publisher, sameRobot, sameTopic, samePublisher]
              rfl

/-- A stream can be found again from its key exactly when each of its names is given, holds no bar
    and has no blank at either end. -/
theorem keyInverts_iff (frame : DataFrame) : KeyInverts frame ↔
    Unmistakable frame.robotId ∧ Unmistakable frame.topic ∧ Unmistakable frame.publisherId := by
  constructor
  · intro inverts
    obtain ⟨marker, read, names⟩ := inverts.marker 0 0
    unfold repairMarkerFrameFromStreamKey at read
    split at read
    case h_1 robotId topic publisherId pieces =>
      have clear : ∀ name ∈ [robotId, topic, publisherId], Unmistakable name := by
        intro name among
        rw [← pieces] at among
        exact unmistakable_of_mem among
      rw [← Option.some.inj read] at names
      obtain ⟨rfl, rest⟩ := Prod.mk.inj names
      obtain ⟨rfl, rfl⟩ := Prod.mk.inj rest
      exact ⟨clear _ (by simp), clear _ (by simp), clear _ (by simp)⟩
    case h_2 => cases read
  · rintro ⟨robot, topic, publisher⟩
    have clear : frame.Unmistakable := ⟨robot, topic, publisher⟩
    constructor
    · intro highestObservedSequence timestampNs
      have pieces : splitNonempty (streamKey frame) 124 =
          [frame.robotId, frame.topic, frame.publisherId] := by
        unfold splitNonempty
        rw [clear.splitOn]
        simp [trimCopy_eq_self robot.trimmed, trimCopy_eq_self topic.trimmed,
          trimCopy_eq_self publisher.trimmed, robot.given, topic.given, publisher.given]
      unfold repairMarkerFrameFromStreamKey
      rw [pieces]
      exact ⟨_, rfl, rfl⟩
    · exact fun other apart same => apart (names_of_streamKey clear same)

def barredFrame : DataFrame where
  robotId := octets "a|b"
  topic := octets "t"
  publisherId := octets "p"

def barredTopicFrame : DataFrame where
  robotId := octets "a"
  topic := octets "b|t"
  publisherId := octets "p"

set_option maxRecDepth 4000 in
/-- Two frames that are accepted, of two streams with one key. No names are read from it. -/
theorem barred_streams_share_key :
    (decodeDataFrame none (encodeDataFrameCompactV1 barredFrame) = .ok (some barredFrame) ∧
      decodeDataFrame none (encodeDataFrameCompactV1 barredTopicFrame) =
        .ok (some barredTopicFrame)) ∧
    (barredFrame.names ≠ barredTopicFrame.names ∧
      streamKey barredFrame = streamKey barredTopicFrame) ∧
    repairMarkerFrameFromStreamKey (streamKey barredFrame) 5 0 = none := by
  decide

end FleetRMW.Rmw
