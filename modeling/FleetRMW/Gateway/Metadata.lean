import Mathlib.Algebra.Order.Field.Rat
import FleetRMW.Lib.Python

/-! # What the gateway keeps about a frame

Numbers that the source holds as floats are rationals here and its arithmetic on them is
exact.
-/

namespace FleetRMW.Gateway

open Lib

/-- A ROS domain and a topic. -/
abbrev StreamKey := Int × Str

/-- A publisher and its source sequence number. -/
abbrev DedupKey := Str × Int

instance : LawfulBEq DedupKey := inferInstance

structure FrameMetadata where
  domainId : Int
  topic : Str
  publisherId : Str
  sourceSequenceNumber : Int
  robotId : Str := []
  trafficClass : Str := []
  deadlineMs : Rat := 0
  ageMs : Rat := 0
  qoeDebt : Rat := 0
  criticality : Rat := 0
  repairRequested : Bool := false
  priorRepairAttempts : Int := 0
  frameBytes : Nat := 0
  deriving Repr, DecidableEq

namespace FrameMetadata

def streamKey (m : FrameMetadata) : StreamKey := (m.domainId, m.topic)

def dedupKey (m : FrameMetadata) : DedupKey := (m.publisherId, m.sourceSequenceNumber)

def remainingDeadlineMs (m : FrameMetadata) : Rat :=
  if m.deadlineMs ≤ 0 then 1000 else max 1 (m.deadlineMs - m.ageMs)

def urgency (m : FrameMetadata) : Rat :=
  if m.deadlineMs > 0 then min 1 (m.ageMs / m.deadlineMs) else 0

def admissionScore (m : FrameMetadata) : Rat :=
  0.45 * m.criticality + 0.35 * m.qoeDebt + 0.20 * m.urgency

end FrameMetadata

end FleetRMW.Gateway
