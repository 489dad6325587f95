import FleetRMW.Rmw.FrameRead

/-! # The round trip of a data frame's text

Decoding an encoded frame gives the frame back exactly when nothing in it hides a value that is
read behind it.
-/

namespace FleetRMW.Rmw

open Lib

/-! ## Dispatch -/

theorem magics : dataFrameMagic = [70, 82, 77, 87, 49, 10] ∧
    dataFrameCompactV1Magic = [70, 82, 77, 87, 67, 50, 10] ∧
    dataFrameStaticMinV1Magic = [70, 82, 77, 87, 77, 50, 10] := by decide

theorem stripPadding_of_last {s : Bytes} {c : UInt8} (visible : c ≠ 32) :
    stripPadding (s ++ [c]) = s ++ [c] := by
  rw [stripPadding, List.reverse_append, List.reverse_singleton, List.singleton_append,
    List.dropWhile_cons_of_neg (by simpa using visible), List.reverse_cons, List.reverse_reverse]

/-- A text in JSON reaches the decoder of JSON as it is. -/
theorem decodeDataFrame_json (resolver : Option TopicResolver) (ps : List Piece) :
    decodeDataFrame resolver (dataFrameMagic ++ render (ps ++ [.raw [125] endBrace_unquoted])) =
      decodeDataFrameBody (render (ps ++ [.raw [125] endBrace_unquoted])) := by
  have notMin : dataFrameStaticMinV1Magic.isPrefixOf
      (dataFrameMagic ++ render (ps ++ [.raw [125] endBrace_unquoted])) = false := by
    rw [magics.1, magics.2.2]
    rfl
  have notCompact : dataFrameCompactV1Magic.isPrefixOf
      (dataFrameMagic ++ render (ps ++ [.raw [125] endBrace_unquoted])) = false := by
    rw [magics.1, magics.2.1]
    rfl
  have stripped : stripPadding (dataFrameMagic ++ render (ps ++ [.raw [125] endBrace_unquoted])) =
      dataFrameMagic ++ render (ps ++ [.raw [125] endBrace_unquoted]) := by
    rw [render_append, ← List.append_assoc]
    exact stripPadding_of_last (by decide)
  have magic : dataFrameMagic.isPrefixOf (dataFrameMagic ++ render (ps ++ [.raw [125] endBrace_unquoted])) = true := by
    rw [List.isPrefixOf_iff_prefix]
    exact List.prefix_append _ _
  simp only [decodeDataFrame, notMin, notCompact, stripped, magic, List.drop_left,
    Bool.false_eq_true, Bool.not_true, if_false]

attribute [ext] DataFrame

namespace DataFrame

variable {f : DataFrame}

/-- Frames whose numbers the text can hold. -/
structure Writable (f : DataFrame) : Prop where
  timestamp : 0 ≤ f.sourceTimestampNs
  deadlineMs : f.deadlineMs = {} ∨ f.deadlineMs.PrintsExactly
  ageMs : f.ageMs = {} ∨ f.ageMs.PrintsExactly
  qoeDebt : f.qoeDebt = {} ∨ f.qoeDebt.PrintsExactly
  taskCriticality : f.taskCriticality = {} ∨ f.taskCriticality.PrintsExactly
  coherent : f.coherentSetId = [] → f.coherentSetTotal = 0 ∧ f.coherentSetIndex = 0

/-- No value of the frame is lost: none is written in a way that is not read, and no string in
    front of one looks like its key or like that of its object. -/
structure Unshadowed (f : DataFrame) : Prop where
  partitionsCsv : f.partitionsCsv ≠ [] → shadows f.typeName (octets "partitions") = false
  ownershipStrength : f.ownershipStrength ≠ 0 → 0 < f.ownershipStrength.toInt ∧
    shadowed [f.typeName, f.partitionsCsv] "ownership_strength" = false
  coherentSetId : f.coherentSetId ≠ [] →
    shadowed [f.typeName, f.partitionsCsv] "coherent_set_id" = false
  coherentSetTotal : f.coherentSetTotal ≠ 0 →
    shadowed [f.typeName, f.partitionsCsv, f.coherentSetId] "coherent_set_total" = false
  coherentSetIndex : f.coherentSetIndex ≠ 0 →
    shadowed [f.typeName, f.partitionsCsv, f.coherentSetId] "coherent_set_index" = false
  -- the decoder looks in the whole text for the values of an object that it does not find
  robotId : f.routeLost → f.envelopeLost → shadowed f.frontTexts "robot_id" = false
  topic : shadows f.robotId (octets "topic") = false ∧
    (f.routeLost → f.envelopeLost → shadowed f.frontTexts "topic" = false)
  flowClass : f.flowClass ≠ [] → shadowed [f.robotId, f.topic] "flow_class" = false ∧
    (f.routeLost → shadowed f.frontTexts "flow_class" = false)
  publisherId : shadowed [f.robotId, f.topic] "publisher_id" = false ∧
    (f.envelopeLost → shadowed (f.frontTexts ++ f.routeTexts) "publisher_id" = false)
  sourceSequenceNumber :
    shadowed [f.robotId, f.topic, f.publisherId] "source_sequence_number" = false ∧
    (f.envelopeLost → shadowed (f.frontTexts ++ f.routeTexts) "source_sequence_number" = false)
  sourceTimestampNs :
    shadowed [f.robotId, f.topic, f.publisherId] "source_timestamp_ns" = false ∧
    (f.envelopeLost → shadowed (f.frontTexts ++ f.routeTexts) "source_timestamp_ns" = false)
  serializedPayload : f.serializedPayload ≠ [] →
    shadowed f.headerTexts "serialized_payload" = false
  deadlineMs : f.deadlineMs ≠ {} →
    Float64.isPositive f.deadlineMs.bits ∧ shadowed f.payloadTexts "delivery" = false
  qox : f.qoeDebt ≠ {} ∨ f.taskCriticality ≠ {} →
    (Float64.isPositive f.qoeDebt.bits || Float64.isPositive f.taskCriticality.bits) ∧
      shadowed f.payloadTexts "qox" = false
  ageMs : f.ageMs ≠ {} →
    Float64.isPositive f.ageMs.bits ∧ shadowed f.payloadTexts "timing" = false
  repair : f.repairRequested ∨ f.priorRepairAttempts ≠ 0 →
    shadowed f.payloadTexts "repair" = false

theorem prints_of_writable {d : Double} (writable : d = {} ∨ d.PrintsExactly) : d.PrintsExactly := by
  rcases writable with rfl | exact_
  · decide
  · exact exact_

/-! ## What comes back -/

def robotLost (f : DataFrame) : Bool :=
  f.routeLost && shadowed f.frontTexts "robot_id" &&
    (f.envelopeLost && shadowed f.frontTexts "robot_id")

def topicLost (f : DataFrame) : Bool :=
  (shadows f.robotId (octets "topic") || f.routeLost && shadowed f.frontTexts "topic") &&
    (shadows f.robotId (octets "topic") || f.envelopeLost && shadowed f.frontTexts "topic")

def publisherLost (f : DataFrame) : Bool :=
  shadowed [f.robotId, f.topic] "publisher_id" ||
    f.envelopeLost && shadowed (f.frontTexts ++ f.routeTexts) "publisher_id"

def sequenceLost (f : DataFrame) : Bool :=
  shadowed [f.robotId, f.topic, f.publisherId] "source_sequence_number" ||
    f.envelopeLost && shadowed (f.frontTexts ++ f.routeTexts) "source_sequence_number"

def timestampLost (f : DataFrame) : Bool :=
  shadowed [f.robotId, f.topic, f.publisherId] "source_timestamp_ns" ||
    f.envelopeLost && shadowed (f.frontTexts ++ f.routeTexts) "source_timestamp_ns"

/-- The route and the envelope give the identities and the stamp. -/
def identitiesFound (f : DataFrame) : Bool :=
  !f.robotLost && !f.topicLost && !f.publisherLost && !f.sequenceLost && !f.timestampLost

/-- The frame without the values that are lost. -/
def reread (f : DataFrame) : DataFrame where
  robotId := f.robotId
  topic := f.topic
  publisherId := f.publisherId
  sourceSequenceNumber := f.sourceSequenceNumber
  sourceTimestampNs := f.sourceTimestampNs
  serializedPayload :=
    if shadowed f.headerTexts "serialized_payload" then [] else f.serializedPayload
  domainId := f.domainId
  typeName := f.typeName
  flowClass :=
    if shadowed [f.robotId, f.topic] "flow_class" ||
      (f.routeLost && shadowed f.frontTexts "flow_class") then [] else f.flowClass
  deadlineMs :=
    if Float64.isPositive f.deadlineMs.bits ∧ shadowed f.payloadTexts "delivery" = false
    then f.deadlineMs else {}
  ageMs :=
    if Float64.isPositive f.ageMs.bits ∧ shadowed f.payloadTexts "timing" = false
    then f.ageMs else {}
  qoeDebt :=
    if (Float64.isPositive f.qoeDebt.bits || Float64.isPositive f.taskCriticality.bits) ∧
      shadowed f.payloadTexts "qox" = false then f.qoeDebt else {}
  taskCriticality :=
    if (Float64.isPositive f.qoeDebt.bits || Float64.isPositive f.taskCriticality.bits) ∧
      shadowed f.payloadTexts "qox" = false then f.taskCriticality else {}
  repairRequested :=
    decide (f.repairRequested ∧ (f.repairRequested || f.priorRepairAttempts > 0) ∧
      shadowed f.payloadTexts "repair" = false)
  priorRepairAttempts :=
    (if (f.repairRequested || f.priorRepairAttempts > 0) ∧
      shadowed f.payloadTexts "repair" = false then some f.priorRepairAttempts else none).getD 0
  partitionsCsv := if shadows f.typeName (octets "partitions") then [] else f.partitionsCsv
  ownershipStrength :=
    ((if 0 < f.ownershipStrength.toInt ∧
        shadowed [f.typeName, f.partitionsCsv] "ownership_strength" = false
      then some (UInt64.ofNat f.ownershipStrength.toInt.toNat) else none).getD 0).toUInt32.toInt32
  coherentSetId :=
    if shadowed [f.typeName, f.partitionsCsv] "coherent_set_id" then [] else f.coherentSetId
  coherentSetTotal :=
    ((if f.coherentSetId ≠ [] ∧ shadowed [f.typeName, f.partitionsCsv, f.coherentSetId]
        "coherent_set_total" = false then some f.coherentSetTotal.toUInt64 else none).getD 0).toUInt32
  coherentSetIndex :=
    ((if f.coherentSetId ≠ [] ∧ shadowed [f.typeName, f.partitionsCsv, f.coherentSetId]
        "coherent_set_index" = false then some f.coherentSetIndex.toUInt64 else none).getD 0).toUInt32

theorem body_schemaVersion (f : DataFrame) :
    jsonHasStringValue (render f.pieces) (octets "schema_version") dataFrameSchemaVersion := by
  have value : stringAt (skipSpaces (render (.constant (.mk "fleetrmw.data_frame.v2") .comma ::
      (f.headPieces.drop 3 ++ f.afterHead)))) = some dataFrameSchemaVersion :=
    stringAt_quotedText _ _ _
  have shape : f.pieces = .raw [123] brace_unquoted :: .key (.mk "schema_version") ::
      .constant (.mk "fleetrmw.data_frame.v2") .comma :: (f.headPieces.drop 3 ++ f.afterHead) :=
    f.pieces_head
  rw [jsonHasStringValue_render (by decide), shape]
  simp only [hasString, value, decide_true, Bool.and_self, Bool.true_or]

theorem orElse_ite {α : Type} (a b : Bool) (x : α) :
    ((if a then none else some x) <|> (if b then none else some x)) =
      if a && b then none else some x := by
  cases a <;> cases b <;> rfl

theorem decodeDataFrameBody_pieces (writable : f.Writable) :
    decodeDataFrameBody (render f.pieces) =
      .ok (if f.identitiesFound then some f.reread else none) := by
  have route : (jsonObjectValue (render f.pieces) (octets "route")).getD (render f.pieces) =
    f.routeText := rfl
  have envelope : (jsonObjectValue (render f.pieces) (octets "sample_envelope")).getD
    (render f.pieces) = f.envelopeText := rfl
  have robot : (f.routeLost && shadowed f.frontTexts "robot_id" &&
    (f.envelopeLost && shadowed f.frontTexts "robot_id")) = f.robotLost := rfl
  have topic : ((shadows f.robotId (octets "topic") || f.routeLost && shadowed f.frontTexts "topic") &&
    (shadows f.robotId (octets "topic") || f.envelopeLost && shadowed f.frontTexts "topic")) =
    f.topicLost := rfl
  have publisher : (shadowed [f.robotId, f.topic] "publisher_id" ||
    f.envelopeLost && shadowed (f.frontTexts ++ f.routeTexts) "publisher_id") =
    f.publisherLost := rfl
  have sequence : (shadowed [f.robotId, f.topic, f.publisherId] "source_sequence_number" ||
    f.envelopeLost && shadowed (f.frontTexts ++ f.routeTexts) "source_sequence_number") =
    f.sequenceLost := rfl
  have timestamp : (shadowed [f.robotId, f.topic, f.publisherId] "source_timestamp_ns" ||
    f.envelopeLost && shadowed (f.frontTexts ++ f.routeTexts) "source_timestamp_ns") =
    f.timestampLost := rfl
  have noString : ∀ key, jsonStringValue [] key = none := fun _ => rfl
  have noUint : ∀ key, jsonUintValue [] key = .ok none := fun _ => rfl
  have qox := f.body_qox (prints_of_writable writable.qoeDebt)
    (prints_of_writable writable.taskCriticality)
  have repair := f.body_repair
  dsimp only at qox repair
  simp only [decodeDataFrameBody, f.body_schemaVersion, Bool.not_true, Bool.false_eq_true, if_false,
    route, envelope, f.body_sourceMetadata, Option.getD_none, noString, noUint, f.route_robotId,
    f.envelope_robotId, f.route_topic, f.envelope_topic, f.envelope_publisherId,
    f.envelope_sequence, envelope_timestamp writable.timestamp, ok_bind, orElse_ite,
    f.body_serializedPayload, f.body_domainId, f.body_ownershipStrength, f.body_coherentSetTotal,
    f.body_coherentSetIndex, f.body_typeName, f.route_flowClass, qox, repair,
    body_deadlineMs (prints_of_writable writable.deadlineMs),
    body_ageMs (prints_of_writable writable.ageMs), f.body_partitions, f.body_coherentSetId,
    Option.getD_some]
  -- any value that is missing makes the decoder give up
  simp only [identitiesFound, robot, topic, publisher, sequence, timestamp]
  by_cases foundRobot : f.robotLost = true
  · simp only [foundRobot, if_true, if_false, Bool.not_true, Bool.false_and, Bool.false_eq_true]
    rfl
  rw [Bool.not_eq_true] at foundRobot
  by_cases foundTopic : f.topicLost = true
  · simp only [foundRobot, foundTopic, if_true, if_false, Bool.not_true, Bool.not_false,
      Bool.false_and, Bool.and_false, Bool.false_eq_true]
    rfl
  rw [Bool.not_eq_true] at foundTopic
  by_cases foundPublisher : f.publisherLost = true
  · simp only [foundRobot, foundTopic, foundPublisher, if_true, if_false, Bool.not_true,
      Bool.not_false, Bool.false_and, Bool.and_false, Bool.true_and, Bool.false_eq_true]
    rfl
  rw [Bool.not_eq_true] at foundPublisher
  by_cases foundSequence : f.sequenceLost = true
  · simp only [foundRobot, foundTopic, foundPublisher, foundSequence, if_true, if_false,
      Bool.not_true, Bool.not_false, Bool.false_and, Bool.and_false, Bool.true_and,
      Bool.false_eq_true]
    rfl
  rw [Bool.not_eq_true] at foundSequence
  by_cases foundTimestamp : f.timestampLost = true
  · simp only [foundRobot, foundTopic, foundPublisher, foundSequence, foundTimestamp, if_true,
      if_false, Bool.not_true, Bool.not_false, Bool.and_false, Bool.true_and, Bool.false_eq_true]
    rfl
  rw [Bool.not_eq_true] at foundTimestamp
  simp only [foundRobot, foundTopic, foundPublisher, foundSequence, foundTimestamp,
    Bool.false_eq_true, if_false, Bool.not_false, Bool.and_self, if_true]
  rfl

/-! ## When it comes back whole -/

theorem ite_eq_value {α : Type} {c : Prop} [Decidable c] {x d : α} :
    (if c then x else d) = x ↔ (x ≠ d → c) := by
  by_cases h : c
  · simp [h]
  · rw [if_neg h]
    exact ⟨fun same other => absurd same.symm other,
      fun forced => by_contra fun other => h (forced (Ne.symm other))⟩

theorem lost_eq_value {α : Type} {lost : Bool} {x d : α} :
    (if lost then d else x) = x ↔ (x ≠ d → lost = false) := by
  cases lost with
  | true => simpa using eq_comm
  | false => simp

theorem ownership_eq_iff {O : Int32} {c : Prop} [Decidable c] :
    ((if 0 < O.toInt ∧ c then some (UInt64.ofNat O.toInt.toNat) else none).getD 0).toUInt32.toInt32 =
        O ↔ (O ≠ 0 → 0 < O.toInt ∧ c) := by
  have kept : 0 < O.toInt → (UInt64.ofNat O.toInt.toNat).toUInt32.toInt32 = O := by
    intro positive
    have nonneg : (0 : Int32) ≤ O := Int32.le_iff_toInt_le.mpr (Int.le_of_lt positive)
    rw [UInt64.toUInt32_ofNat', UInt32.toInt32_ofNat', Int32.toNat_toInt,
      Int32.ofNat_toNatClampNeg O nonneg]
  by_cases read : 0 < O.toInt ∧ c
  · rw [if_pos read, Option.getD_some, kept read.1]
    exact ⟨fun _ _ => read, fun _ => rfl⟩
  · rw [if_neg read]
    exact ⟨fun same other => absurd same.symm other,
      fun forced => by_contra fun other => read (forced (Ne.symm other))⟩

theorem coherent_eq_iff {n : UInt32} {c : Prop} [Decidable c] :
    ((if c then some n.toUInt64 else none).getD 0).toUInt32 = n ↔ (n ≠ 0 → c) := by
  by_cases read : c
  · rw [if_pos read, Option.getD_some, UInt32.toUInt32_toUInt64]
    exact ⟨fun _ _ => read, fun _ => rfl⟩
  · rw [if_neg read]
    exact ⟨fun same other => absurd same.symm other,
      fun forced => by_contra fun other => read (forced (Ne.symm other))⟩

theorem repair_eq_iff {requested lost : Bool} {attempts : UInt64} :
    (decide (requested ∧ (requested || attempts > 0) ∧ lost = false) = requested ∧
      (if (requested || attempts > 0) ∧ lost = false then some attempts else none).getD 0 =
        attempts) ↔ (requested ∨ attempts ≠ 0 → lost = false) := by
  have positive : attempts > 0 ↔ attempts ≠ 0 := by
    rw [gt_iff_lt, UInt64.lt_iff_toNat_lt, ← UInt64.toNat_inj.ne]
    exact Nat.pos_iff_ne_zero
  cases requested with
  | true => cases lost <;> simp
  | false => cases lost <;> by_cases zero : attempts = 0 <;> simp [positive, zero, eq_comm]

/-- A value in one of two places, both of which may be looked for in the whole text. -/
theorem both_lost_iff {s a b c : Bool} :
    ((s || a && c) && (s || b && c)) = false ↔ s = false ∧ (a → b → c = false) := by
  cases s <;> cases a <;> cases b <;> cases c <;> simp

theorem one_lost_iff {s a c : Bool} : (s || a && c) = false ↔ s = false ∧ (a → c = false) := by
  cases s <;> cases a <;> cases c <;> simp

theorem identitiesFound_iff (f : DataFrame) :
    f.identitiesFound ↔ f.robotLost = false ∧ f.topicLost = false ∧ f.publisherLost = false ∧
      f.sequenceLost = false ∧ f.timestampLost = false := by
  simp [identitiesFound, and_assoc]

theorem robotLost_iff (f : DataFrame) :
    f.robotLost = false ↔
      (f.routeLost → f.envelopeLost → shadowed f.frontTexts "robot_id" = false) := by
  unfold robotLost
  cases f.routeLost <;> cases f.envelopeLost <;> simp

theorem reread_eq_iff (writable : f.Writable) :
    f.reread = f ↔
      (f.serializedPayload ≠ [] → shadowed f.headerTexts "serialized_payload" = false) ∧
      (f.flowClass ≠ [] → shadowed [f.robotId, f.topic] "flow_class" = false ∧
        (f.routeLost → shadowed f.frontTexts "flow_class" = false)) ∧
      (f.deadlineMs ≠ {} → Float64.isPositive f.deadlineMs.bits ∧
        shadowed f.payloadTexts "delivery" = false) ∧
      (f.ageMs ≠ {} → Float64.isPositive f.ageMs.bits ∧
        shadowed f.payloadTexts "timing" = false) ∧
      (f.qoeDebt ≠ {} ∨ f.taskCriticality ≠ {} →
        (Float64.isPositive f.qoeDebt.bits || Float64.isPositive f.taskCriticality.bits) ∧
          shadowed f.payloadTexts "qox" = false) ∧
      (f.repairRequested ∨ f.priorRepairAttempts ≠ 0 →
        shadowed f.payloadTexts "repair" = false) ∧
      (f.partitionsCsv ≠ [] → shadows f.typeName (octets "partitions") = false) ∧
      (f.ownershipStrength ≠ 0 → 0 < f.ownershipStrength.toInt ∧
        shadowed [f.typeName, f.partitionsCsv] "ownership_strength" = false) ∧
      (f.coherentSetId ≠ [] → shadowed [f.typeName, f.partitionsCsv] "coherent_set_id" = false) ∧
      (f.coherentSetTotal ≠ 0 → shadowed [f.typeName, f.partitionsCsv, f.coherentSetId]
        "coherent_set_total" = false) ∧
      (f.coherentSetIndex ≠ 0 → shadowed [f.typeName, f.partitionsCsv, f.coherentSetId]
        "coherent_set_index" = false) := by
  have total : (f.coherentSetTotal ≠ 0 → f.coherentSetId ≠ [] ∧ shadowed [f.typeName,
      f.partitionsCsv, f.coherentSetId] "coherent_set_total" = false) ↔
      (f.coherentSetTotal ≠ 0 → shadowed [f.typeName, f.partitionsCsv, f.coherentSetId]
        "coherent_set_total" = false) := by
    apply forall_congr'
    intro other
    exact and_iff_right fun empty => other (writable.coherent empty).1
  have index : (f.coherentSetIndex ≠ 0 → f.coherentSetId ≠ [] ∧ shadowed [f.typeName,
      f.partitionsCsv, f.coherentSetId] "coherent_set_index" = false) ↔
      (f.coherentSetIndex ≠ 0 → shadowed [f.typeName, f.partitionsCsv, f.coherentSetId]
        "coherent_set_index" = false) := by
    apply forall_congr'
    intro other
    exact and_iff_right fun empty => other (writable.coherent empty).2
  have payload : f.reread.serializedPayload = f.serializedPayload ↔ _ := lost_eq_value
  have flow : f.reread.flowClass = f.flowClass ↔ _ :=
    lost_eq_value.trans (imp_congr_right fun _ => one_lost_iff)
  have deadline : f.reread.deadlineMs = f.deadlineMs ↔ _ := ite_eq_value
  have age : f.reread.ageMs = f.ageMs ↔ _ := ite_eq_value
  have debt : f.reread.qoeDebt = f.qoeDebt ↔ _ := ite_eq_value
  have criticality : f.reread.taskCriticality = f.taskCriticality ↔ _ := ite_eq_value
  have repair : f.reread.repairRequested = f.repairRequested ∧
    f.reread.priorRepairAttempts = f.priorRepairAttempts ↔ _ := repair_eq_iff
  have partitions : f.reread.partitionsCsv = f.partitionsCsv ↔ _ := lost_eq_value
  have ownership : f.reread.ownershipStrength = f.ownershipStrength ↔ _ := ownership_eq_iff
  have id : f.reread.coherentSetId = f.coherentSetId ↔ _ := lost_eq_value
  have total' : f.reread.coherentSetTotal = f.coherentSetTotal ↔ _ := coherent_eq_iff
  have index' : f.reread.coherentSetIndex = f.coherentSetIndex ↔ _ := coherent_eq_iff
  rw [← payload, ← flow, ← deadline, ← age, or_imp, ← debt, ← criticality, ← repair, ← partitions,
    ← ownership, ← id, ← total, ← total', ← index, ← index']
  constructor
  · intro same
    rw [same]
    simp
  · rintro ⟨p, c, d, a, ⟨q, t⟩, ⟨r, n⟩, s, o, i, m, x⟩
    exact DataFrame.ext rfl rfl rfl rfl rfl p rfl rfl c d a q t r n s o i m x

/-- A frame comes back without the values that are lost, where its identities are not. -/
theorem decodeDataFrame_encodeDataFrame (resolver : Option TopicResolver) (f : DataFrame)
    (writable : f.Writable) : decodeDataFrame resolver (encodeDataFrame f) =
      .ok (if f.identitiesFound then some f.reread else none) := by
  have last : f.pieces = (f.front ++ (f.middle ++ (f.payloadMember ++ (f.deliveryMember ++
      (f.qoxMember ++ (f.timingMember ++ f.repairMember)))))) ++ [.raw [125] endBrace_unquoted] := by
    simp [pieces, back, payloadMember]
  rw [encodeDataFrame_eq, last, decodeDataFrame_json, ← last, decodeDataFrameBody_pieces writable]

/-- A frame comes back as it is exactly when none of its values is lost. -/
theorem decodeDataFrame_encodeDataFrame_iff (resolver : Option TopicResolver) (f : DataFrame)
    (writable : f.Writable) :
    decodeDataFrame resolver (encodeDataFrame f) = .ok (some f) ↔ f.Unshadowed := by
  have whole : decodeDataFrame resolver (encodeDataFrame f) = .ok (some f) ↔
      f.identitiesFound ∧ f.reread = f := by
    rw [decodeDataFrame_encodeDataFrame resolver f writable]
    cases f.identitiesFound <;> simp
  rw [whole, identitiesFound_iff, reread_eq_iff writable, robotLost_iff]
  have topic : f.topicLost = false ↔ _ := both_lost_iff
  have publisher : f.publisherLost = false ↔ _ := one_lost_iff
  have sequence : f.sequenceLost = false ↔ _ := one_lost_iff
  have timestamp : f.timestampLost = false ↔ _ := one_lost_iff
  rw [topic, publisher, sequence, timestamp]
  constructor
  · rintro ⟨⟨robot, topic, publisher, sequence, timestamp⟩, payload, flow, deadline, age, qox,
      repair, partitions, ownership, id, total, index⟩
    exact {
      partitionsCsv := partitions
      ownershipStrength := ownership
      coherentSetId := id
      coherentSetTotal := total
      coherentSetIndex := index
      robotId := robot
      topic := topic
      flowClass := flow
      publisherId := publisher
      sourceSequenceNumber := sequence
      sourceTimestampNs := timestamp
      serializedPayload := payload
      deadlineMs := deadline
      qox := qox
      ageMs := age
      repair := repair }
  · intro u
    exact ⟨⟨u.robotId, u.topic, u.publisherId, u.sourceSequenceNumber, u.sourceTimestampNs⟩,
      u.serializedPayload, u.flowClass, u.deadlineMs, u.ageMs, u.qox, u.repair, u.partitionsCsv,
      u.ownershipStrength, u.coherentSetId, u.coherentSetTotal, u.coherentSetIndex⟩

end DataFrame

/-- A frame whose robot is called like a key. -/
def topicNamedFrame : DataFrame := { robotId := octets "topic", topic := octets "/t" }

/-- Its text has no topic any more. -/
theorem topicNamedFrame_lost :
    topicNamedFrame.Writable ∧ decodeDataFrame none (encodeDataFrame topicNamedFrame) = .ok none :=
  ⟨⟨by decide, .inl rfl, .inl rfl, .inl rfl, .inl rfl, by decide⟩, by decide +kernel⟩

/-- A frame with every optional value. -/
def fullFrame : DataFrame where
  robotId := octets "r\"1"
  topic := octets "/t"
  publisherId := octets "p"
  sourceSequenceNumber := 7
  sourceTimestampNs := 9
  serializedPayload := [0, 255]
  deadlineMs := ⟨0x4028000000000000⟩
  flowClass := octets "control"
  repairRequested := true
  partitionsCsv := octets "a,b"
  ownershipStrength := 3
  coherentSetId := octets "c"
  coherentSetTotal := 2

theorem decodeDataFrame_encodeDataFrame_iff_fullFrame :
    decodeDataFrame none (encodeDataFrame fullFrame) = .ok (some fullFrame) := by
  have writable : fullFrame.Writable :=
    ⟨by decide, .inr (by decide +kernel), .inl rfl, .inl rfl, .inl rfl, by decide +kernel⟩
  apply (DataFrame.decodeDataFrame_encodeDataFrame_iff none fullFrame writable).mpr
  constructor <;> decide +kernel

end FleetRMW.Rmw
