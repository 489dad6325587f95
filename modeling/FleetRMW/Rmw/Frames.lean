import FleetRMW.Lib.Python
import Mathlib.Algebra.Group.Nat.Defs

/-! # The frames of the middleware

The structures that the middleware's transport encodes and decodes. A `std::string` and a
`std::vector<std::uint8_t>` are both octets, and a `double` is its bits.
-/

namespace FleetRMW.Rmw

open Lib

/-- The 64 bits of a `double`. -/
structure Double where
  bits : UInt64 := 0
  deriving Repr, DecidableEq

/-- `rmw_ret_t` -/
inductive RmwRet where
  | ok
  | error
  | invalidArgument
  | unsupported
  | timeout
  deriving Repr, DecidableEq

structure DataFrame where
  robotId : Bytes := []
  topic : Bytes := []
  publisherId : Bytes := []
  sourceSequenceNumber : UInt64 := 0
  sourceTimestampNs : Int64 := 0
  serializedPayload : Bytes := []
  domainId : UInt64 := 0
  typeName : Bytes := []
  flowClass : Bytes := []
  deadlineMs : Double := {}
  ageMs : Double := {}
  qoeDebt : Double := {}
  taskCriticality : Double := {}
  repairRequested : Bool := false
  priorRepairAttempts : UInt64 := 0
  partitionsCsv : Bytes := []
  ownershipStrength : Int32 := 0
  coherentSetId : Bytes := []
  coherentSetTotal : UInt32 := 0
  coherentSetIndex : UInt32 := 0
  deriving Repr, DecidableEq

/-- A first and a last sequence number. -/
abbrev SequenceRange := UInt64 × UInt64

def SequenceRange.Mem (range : SequenceRange) (sequence : UInt64) : Prop :=
  range.1 ≤ sequence ∧ sequence ≤ range.2

structure AckNackFeedback where
  missingSequenceRanges : List SequenceRange := []
  lowestObservedSequence : UInt64 := 0
  highestContiguousSequence : UInt64 := 0
  highestObservedSequence : UInt64 := 0
  duplicate : Bool := false
  outOfOrder : Bool := false
  deriving Repr, DecidableEq

structure AckNackFrame where
  robotId : Bytes := []
  topic : Bytes := []
  publisherId : Bytes := []
  subscriberId : Bytes := []
  ackSequenceNumber : UInt64 := 0
  sourceTimestampNs : Int64 := 0
  missingSequenceRanges : List SequenceRange := []
  lowestObservedSequence : UInt64 := 0
  highestContiguousSequence : UInt64 := 0
  highestObservedSequence : UInt64 := 0
  duplicate : Bool := false
  outOfOrder : Bool := false
  domainId : UInt64 := 0
  deriving Repr, DecidableEq

/-- The frame that reports a feedback on a data frame. -/
def AckNackFeedback.frame (feedback : AckNackFeedback) (frame : DataFrame)
    (subscriberId : Bytes) : AckNackFrame where
  robotId := frame.robotId
  topic := frame.topic
  publisherId := frame.publisherId
  subscriberId
  ackSequenceNumber := frame.sourceSequenceNumber
  sourceTimestampNs := frame.sourceTimestampNs
  missingSequenceRanges := feedback.missingSequenceRanges
  lowestObservedSequence := feedback.lowestObservedSequence
  highestContiguousSequence := feedback.highestContiguousSequence
  highestObservedSequence := feedback.highestObservedSequence
  duplicate := feedback.duplicate
  outOfOrder := feedback.outOfOrder
  domainId := frame.domainId

end FleetRMW.Rmw
