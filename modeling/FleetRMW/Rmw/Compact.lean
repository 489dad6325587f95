import FleetRMW.Rmw.DataFrame

/-! # The compact layout round trip

The decoder of the compact layout reads what the encoder writes, field by field, and every
strict beginning of an encoding is refused.
-/

namespace FleetRMW.Rmw

open Lib WireReader

/-- A field's length fits its prefix. -/
structure DataFrame.Short (frame : DataFrame) : Prop where
  robotId : frame.robotId.length < 2 ^ 32
  topic : frame.topic.length < 2 ^ 32
  publisherId : frame.publisherId.length < 2 ^ 32
  typeName : frame.typeName.length < 2 ^ 32
  flowClass : frame.flowClass.length < 2 ^ 32
  partitionsCsv : frame.partitionsCsv.length < 2 ^ 32
  coherentSetId : frame.coherentSetId.length < 2 ^ 32
  serializedPayload : frame.serializedPayload.length < 2 ^ 32

theorem reads_lengthPrefixed {value : Bytes} (short : value.length < 2 ^ 32) :
    Reads (lengthPrefixed 4) (appendLengthPrefixed value) value := by
  rw [appendLengthPrefixed, Nat.mod_eq_of_lt short]
  exact Reads.lengthPrefixed short

theorem reads_fixed64 (n : UInt64) : Reads readFixed64 (appendFixed64 n) n := by
  have octets := (Reads.fixed 8 n.toNat_lt).map UInt64.ofNat
  rwa [UInt64.ofNat_toNat] at octets

theorem reads_fixed32 (n : UInt32) : Reads readFixed32 (appendFixed32 n) n := by
  have octets := (Reads.fixed 4 n.toNat_lt).map UInt32.ofNat
  rwa [UInt32.ofNat_toNat] at octets

theorem reads_flag (b : Bool) :
    Reads (fixed 1) [if b then 1 else 0] (if b then 1 else 0) := by
  cases b with
  | false => exact (Reads.fixed 1 (by decide) : Reads (fixed 1) (leBytes 1 0) 0)
  | true => exact (Reads.fixed 1 (by decide) : Reads (fixed 1) (leBytes 1 1) 1)

/-- The encoding behind the magic. -/
def compactBytes (frame : DataFrame) : Bytes :=
  appendLengthPrefixed frame.robotId ++ (appendLengthPrefixed frame.topic ++
  (appendLengthPrefixed frame.publisherId ++ (appendFixed64 frame.sourceSequenceNumber ++
  (appendFixed64 frame.sourceTimestampNs.toUInt64 ++ (appendFixed64 frame.domainId ++
  (appendLengthPrefixed frame.typeName ++ (appendLengthPrefixed frame.flowClass ++
  (appendFixed64 frame.deadlineMs.bits ++ (appendFixed64 frame.ageMs.bits ++
  (appendFixed64 frame.qoeDebt.bits ++ (appendFixed64 frame.taskCriticality.bits ++
  ([if frame.repairRequested then 1 else 0] ++ (appendFixed64 frame.priorRepairAttempts ++
  (appendLengthPrefixed frame.partitionsCsv ++
  (appendFixed32 frame.ownershipStrength.toUInt32 ++ (appendLengthPrefixed frame.coherentSetId ++
  (appendFixed32 frame.coherentSetTotal ++ (appendFixed32 frame.coherentSetIndex ++
  appendLengthPrefixed frame.serializedPayload))))))))))))))))))

theorem encodeDataFrameCompactV1_eq (frame : DataFrame) :
    encodeDataFrameCompactV1 frame = dataFrameCompactV1Magic ++ compactBytes frame := by
  unfold encodeDataFrameCompactV1 compactBytes
  generalize dataFrameCompactV1Magic = magic
  simp only [List.append_assoc]

theorem compactFields_reads {frame : DataFrame} (short : frame.Short) :
    Reads compactFields (compactBytes frame) frame := by
  refine (reads_lengthPrefixed short.robotId).bind ?_
  refine (reads_lengthPrefixed short.topic).bind ?_
  refine (reads_lengthPrefixed short.publisherId).bind ?_
  refine (reads_fixed64 frame.sourceSequenceNumber).bind ?_
  refine (reads_fixed64 frame.sourceTimestampNs.toUInt64).bind ?_
  refine (reads_fixed64 frame.domainId).bind ?_
  refine (reads_lengthPrefixed short.typeName).bind ?_
  refine (reads_lengthPrefixed short.flowClass).bind ?_
  refine (reads_fixed64 frame.deadlineMs.bits).bind ?_
  refine (reads_fixed64 frame.ageMs.bits).bind ?_
  refine (reads_fixed64 frame.qoeDebt.bits).bind ?_
  refine (reads_fixed64 frame.taskCriticality.bits).bind ?_
  refine (reads_flag frame.repairRequested).bind ?_
  refine (reads_fixed64 frame.priorRepairAttempts).bind ?_
  refine (reads_lengthPrefixed short.partitionsCsv).bind ?_
  refine (reads_fixed32 frame.ownershipStrength.toUInt32).bind ?_
  refine (reads_lengthPrefixed short.coherentSetId).bind ?_
  refine (reads_fixed32 frame.coherentSetTotal).bind ?_
  refine (reads_fixed32 frame.coherentSetIndex).bind ?_
  have last := (reads_lengthPrefixed short.serializedPayload).bind_pure fun serializedPayload =>
    { frame with serializedPayload }
  have flag : decide ((if frame.repairRequested then 1 else 0) ≠ 0) = frame.repairRequested := by
    cases frame.repairRequested <;> rfl
  simp only [flag, Int64.toInt64_toUInt64, Int32.toInt32_toUInt32]
  exact last

/-- The magics tell the layouts apart. -/
theorem decodeDataFrame_of_compact (resolver : Option TopicResolver) (rest : Bytes) :
    decodeDataFrame resolver (dataFrameCompactV1Magic ++ rest) =
      .ok ((compactFields rest).map Prod.fst) := by
  have static : ¬dataFrameStaticMinV1Magic.isPrefixOf (dataFrameCompactV1Magic ++ rest) := by
    simp [dataFrameStaticMinV1Magic, dataFrameCompactV1Magic, octets]
  have compact : dataFrameCompactV1Magic.isPrefixOf (dataFrameCompactV1Magic ++ rest) := by
    rw [List.isPrefixOf_iff_prefix]
    exact List.prefix_append _ _
  simp only [decodeDataFrame, static, compact, decodeDataFrameCompactV1, if_true, if_false,
    Bool.not_true, Bool.false_eq_true, List.drop_left]

/-- Less than the magic is no frame in any layout. -/
theorem decodeDataFrame_of_cut_magic (resolver : Option TopicResolver) {short : Bytes}
    (pre : short <+: dataFrameCompactV1Magic) (other : short ≠ dataFrameCompactV1Magic) :
    decodeDataFrame resolver short = .ok none := by
  have unknown : ∀ n < 7,
      ¬dataFrameStaticMinV1Magic.isPrefixOf (dataFrameCompactV1Magic.take n) ∧
      ¬dataFrameCompactV1Magic.isPrefixOf (dataFrameCompactV1Magic.take n) ∧
      ¬dataFrameMagic.isPrefixOf (stripPadding (dataFrameCompactV1Magic.take n)) := by
    decide
  have fewer : short.length < 7 :=
    lt_of_le_of_ne pre.length_le fun same => other (pre.eq_of_length same)
  obtain ⟨static, compact, json⟩ := unknown short.length fewer
  rw [← List.prefix_iff_eq_take.mp pre] at static compact json
  simp only [decodeDataFrame, static, compact, json, Bool.false_eq_true, Bool.not_false, if_true,
    if_false]

/-- The compact layout gives every frame back, and no strict beginning of it is accepted. -/
theorem compact_roundTrip (resolver : Option TopicResolver) {frame : DataFrame}
    (short : frame.Short) :
    decodeDataFrame resolver (encodeDataFrameCompactV1 frame) = .ok (some frame) ∧
    ∀ cut, cut <+: encodeDataFrameCompactV1 frame → cut ≠ encodeDataFrameCompactV1 frame →
      decodeDataFrame resolver cut = .ok none := by
  have reads := compactFields_reads short
  rw [encodeDataFrameCompactV1_eq]
  generalize compactBytes frame = fields at reads
  constructor
  · have whole := reads.whole []
    rw [List.append_nil] at whole
    rw [decodeDataFrame_of_compact, whole]
    rfl
  · intro cut pre other
    obtain shorter | longer := lt_or_ge cut.length dataFrameCompactV1Magic.length
    · have inside : cut <+: dataFrameCompactV1Magic :=
        List.prefix_of_prefix_length_le pre (List.prefix_append _ _) shorter.le
      exact decodeDataFrame_of_cut_magic resolver inside
        (by rintro rfl; exact absurd shorter (lt_irrefl _))
    · obtain ⟨rest, rfl⟩ : dataFrameCompactV1Magic <+: cut :=
        List.prefix_of_prefix_length_le (List.prefix_append _ _) pre longer
      have beginning : rest <+: fields := (List.prefix_append_right_inj _).mp pre
      rw [decodeDataFrame_of_compact,
        reads.cut rest beginning (by rintro rfl; exact other rfl)]
      rfl

/-- A frame with a name, three octets of payload and a deadline. -/
def smallFrame : DataFrame where
  robotId := octets "r1"
  topic := octets "/scan"
  publisherId := octets "p1"
  sourceSequenceNumber := 7
  serializedPayload := [1, 2, 3]
  deadlineMs := ⟨0x3FF8000000000000⟩

theorem compact_roundTrip_small :
    decodeDataFrame none (encodeDataFrameCompactV1 smallFrame) = .ok (some smallFrame) :=
  (compact_roundTrip none
    { robotId := by decide, topic := by decide, publisherId := by decide, typeName := by decide
      flowClass := by decide, partitionsCsv := by decide, coherentSetId := by decide
      serializedPayload := by decide }).1

end FleetRMW.Rmw
