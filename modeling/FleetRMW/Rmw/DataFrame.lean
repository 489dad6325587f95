import FleetRMW.Lib.Wire
import FleetRMW.Rmw.Text

/-! # Data frames

A data frame travels as JSON text, in a compact binary layout with every field, or in a minimal
one whose topic the receiver knows. The magic in front decides which decoder reads it.
-/

namespace FleetRMW.Rmw

open Lib

def dataFrameMagic : Bytes := octets "FRMW1\n"
def dataFrameCompactV1Magic : Bytes := octets "FRMWC2\n"
def dataFrameStaticMinV1Magic : Bytes := octets "FRMWM2\n"
def dataFrameSchemaVersion : Bytes := octets "fleetrmw.data_frame.v2"

/-- `std::to_string` of a signed number. -/
def signedDecimal (n : Int) : Bytes := (if n < 0 then [45] else []) ++ decimal n.natAbs

/-! ## JSON -/

def encodeDataFrame (frame : DataFrame) : Bytes :=
  dataFrameMagic ++
  octets "\x7b\"schema_version\":\"" ++ dataFrameSchemaVersion ++ octets "\"," ++
  octets "\"kind\":\"sidecar_packet_frame\"," ++
  octets "\"domain_id\":" ++ decimal frame.domainId.toNat ++ octets "," ++
  (if frame.typeName ≠ [] then
    octets "\"type_name\":\"" ++ jsonEscape frame.typeName ++ octets "\"," else []) ++
  (if frame.partitionsCsv ≠ [] then
    octets "\"partitions\":\"" ++ jsonEscape frame.partitionsCsv ++ octets "\"," else []) ++
  (if frame.ownershipStrength ≠ 0 then
    octets "\"ownership_strength\":" ++ signedDecimal frame.ownershipStrength.toInt ++ octets ","
    else []) ++
  (if frame.coherentSetId ≠ [] then
    octets "\"coherent_set_id\":\"" ++ jsonEscape frame.coherentSetId ++ octets "\"," ++
    octets "\"coherent_set_total\":" ++ decimal frame.coherentSetTotal.toNat ++ octets "," ++
    octets "\"coherent_set_index\":" ++ decimal frame.coherentSetIndex.toNat ++ octets ","
    else []) ++
  octets "\"route\":\x7b\"robot_id\":\"" ++ jsonEscape frame.robotId ++ octets "\"," ++
  octets "\"topic\":\"" ++ jsonEscape frame.topic ++ octets "\"" ++
  (if frame.flowClass ≠ [] then
    octets ",\"flow_class\":\"" ++ jsonEscape frame.flowClass ++ octets "\"" else []) ++
  octets "\x7d," ++
  octets "\"sample_envelope\":\x7b" ++
  octets "\"robot_id\":\"" ++ jsonEscape frame.robotId ++ octets "\"," ++
  octets "\"topic\":\"" ++ jsonEscape frame.topic ++ octets "\"," ++
  octets "\"publisher_id\":\"" ++ jsonEscape frame.publisherId ++ octets "\"," ++
  octets "\"source_sequence_number\":" ++ decimal frame.sourceSequenceNumber.toNat ++
  octets "," ++
  octets "\"source_timestamp_ns\":" ++ signedDecimal frame.sourceTimestampNs.toInt ++
  octets "\x7d" ++
  (if frame.serializedPayload ≠ [] then
    octets ",\"serialized_payload\":\x7b" ++ octets "\"encoding\":\"base64\"," ++
    octets "\"size\":" ++ decimal frame.serializedPayload.length ++ octets "," ++
    octets "\"data\":\"" ++ base64Encode frame.serializedPayload ++ octets "\"\x7d" else []) ++
  (if Float64.isPositive frame.deadlineMs.bits then
    octets ",\"delivery\":\x7b\"deadline_ms\":" ++ Float64.printG6 frame.deadlineMs.bits ++
    octets "\x7d" else []) ++
  (if Float64.isPositive frame.qoeDebt.bits || Float64.isPositive frame.taskCriticality.bits then
    octets ",\"qox\":\x7b\"qoe_debt\":" ++ Float64.printG6 frame.qoeDebt.bits ++ octets "," ++
    octets "\"task_criticality\":" ++ Float64.printG6 frame.taskCriticality.bits ++ octets "\x7d"
    else []) ++
  (if Float64.isPositive frame.ageMs.bits then
    octets ",\"timing\":\x7b\"age_ms\":" ++ Float64.printG6 frame.ageMs.bits ++ octets "\x7d"
    else []) ++
  (if frame.repairRequested || frame.priorRepairAttempts > 0 then
    octets ",\"repair\":\x7b\"requested\":" ++
    (if frame.repairRequested then octets "true" else octets "false") ++ octets "," ++
    octets "\"prior_attempts\":" ++ decimal frame.priorRepairAttempts.toNat ++ octets "\x7d"
    else []) ++
  octets "\x7d"

/-! ## The compact layout -/

def appendFixed64 (n : UInt64) : Bytes := leBytes 8 n.toNat
def appendFixed32 (n : UInt32) : Bytes := leBytes 4 n.toNat

/-- The length is cut to 32 bits. -/
def appendLengthPrefixed (value : Bytes) : Bytes :=
  leBytes 4 (value.length % 2 ^ 32) ++ value

def encodeDataFrameCompactV1 (frame : DataFrame) : Bytes :=
  dataFrameCompactV1Magic ++
  appendLengthPrefixed frame.robotId ++
  appendLengthPrefixed frame.topic ++
  appendLengthPrefixed frame.publisherId ++
  appendFixed64 frame.sourceSequenceNumber ++
  appendFixed64 frame.sourceTimestampNs.toUInt64 ++
  appendFixed64 frame.domainId ++
  appendLengthPrefixed frame.typeName ++
  appendLengthPrefixed frame.flowClass ++
  appendFixed64 frame.deadlineMs.bits ++
  appendFixed64 frame.ageMs.bits ++
  appendFixed64 frame.qoeDebt.bits ++
  appendFixed64 frame.taskCriticality.bits ++
  [if frame.repairRequested then 1 else 0] ++
  appendFixed64 frame.priorRepairAttempts ++
  appendLengthPrefixed frame.partitionsCsv ++
  appendFixed32 frame.ownershipStrength.toUInt32 ++
  appendLengthPrefixed frame.coherentSetId ++
  appendFixed32 frame.coherentSetTotal ++
  appendFixed32 frame.coherentSetIndex ++
  appendLengthPrefixed frame.serializedPayload

open WireReader (lengthPrefixed)

def readFixed64 : WireReader UInt64 := UInt64.ofNat <$> WireReader.fixed 8
def readFixed32 : WireReader UInt32 := UInt32.ofNat <$> WireReader.fixed 4

/-- The fields in the order of the layout, each read behind the one before. -/
def compactFields : WireReader DataFrame := do
  let robotId ← lengthPrefixed 4
  let topic ← lengthPrefixed 4
  let publisherId ← lengthPrefixed 4
  let sourceSequenceNumber ← readFixed64
  let sourceTimestampNs ← readFixed64
  let domainId ← readFixed64
  let typeName ← lengthPrefixed 4
  let flowClass ← lengthPrefixed 4
  let deadlineMs ← readFixed64
  let ageMs ← readFixed64
  let qoeDebt ← readFixed64
  let taskCriticality ← readFixed64
  let repairRequested ← WireReader.fixed 1
  let priorRepairAttempts ← readFixed64
  let partitionsCsv ← lengthPrefixed 4
  let ownershipStrength ← readFixed32
  let coherentSetId ← lengthPrefixed 4
  let coherentSetTotal ← readFixed32
  let coherentSetIndex ← readFixed32
  let serializedPayload ← lengthPrefixed 4
  return {
    robotId, topic, publisherId, sourceSequenceNumber
    sourceTimestampNs := sourceTimestampNs.toInt64
    serializedPayload, domainId, typeName, flowClass
    deadlineMs := ⟨deadlineMs⟩
    ageMs := ⟨ageMs⟩
    qoeDebt := ⟨qoeDebt⟩
    taskCriticality := ⟨taskCriticality⟩
    repairRequested := repairRequested ≠ 0
    priorRepairAttempts, partitionsCsv
    ownershipStrength := ownershipStrength.toInt32
    coherentSetId, coherentSetTotal, coherentSetIndex }

/-- What follows the last field is not looked at. -/
def decodeDataFrameCompactV1 (payload : Bytes) : Option DataFrame :=
  if !dataFrameCompactV1Magic.isPrefixOf payload then none
  else (compactFields (payload.drop dataFrameCompactV1Magic.length)).map Prod.fst

/-! ## The minimal layout -/

/-- What a known hash stands for: the domain, the topic and its type. -/
abbrev TopicResolver := UInt32 → Option (UInt64 × Bytes × Bytes)

def hexDigit (n : Nat) : UInt8 := UInt8.ofNat (if n < 10 then 48 + n else 87 + n)

/-- Eight hexadecimal digits. -/
def hex8 (value : UInt32) : Bytes :=
  (List.range 8).map fun i => hexDigit (value.toNat / 16 ^ (7 - i) % 16)

def staticMinFields : WireReader (UInt32 × UInt32 × UInt32 × UInt64 × Bytes) := do
  let topicKeyHash ← readFixed32
  let publisherHash ← readFixed32
  let sequence32 ← readFixed32
  let sourceTimestampNs ← readFixed64
  let rawPayload ← lengthPrefixed 4
  return (topicKeyHash, publisherHash, sequence32, sourceTimestampNs, rawPayload)

def decodeDataFrameStaticMinV1 (resolver : Option TopicResolver) (payload : Bytes) :
    Option DataFrame :=
  if !dataFrameStaticMinV1Magic.isPrefixOf payload then none
  else do
    let ((topicKeyHash, publisherHash, sequence32, sourceTimestampNs, rawPayload), _) ←
      staticMinFields (payload.drop dataFrameStaticMinV1Magic.length)
    let resolver ← resolver
    let (domainId, topic, typeName) ← resolver topicKeyHash
    let robotId := octets "h" ++ hex8 publisherHash
    return {
      robotId, topic
      publisherId := robotId
      sourceSequenceNumber := sequence32.toUInt64
      sourceTimestampNs := sourceTimestampNs.toInt64
      serializedPayload := rawPayload
      domainId, typeName }

/-! ## Dispatch -/

/-- The frame of a JSON text behind the magic. -/
def decodeDataFrameBody (body : Bytes) : Cpp (Option DataFrame) := do
  if !jsonHasStringValue body (octets "schema_version") dataFrameSchemaVersion then
    return none
  let route := (jsonObjectValue body (octets "route")).getD body
  let sampleEnvelope := (jsonObjectValue body (octets "sample_envelope")).getD body
  let sourceMetadata := (jsonObjectValue body (octets "source_metadata")).getD []
  let serializedPayload := (jsonObjectValue body (octets "serialized_payload")).getD []
  let delivery := (jsonObjectValue body (octets "delivery")).getD []
  let qox := (jsonObjectValue body (octets "qox")).getD []
  let timing := (jsonObjectValue body (octets "timing")).getD []
  let repair := (jsonObjectValue body (octets "repair")).getD []
  let robotId := jsonStringValue route (octets "robot_id") <|>
    jsonStringValue sampleEnvelope (octets "robot_id")
  let topic := jsonStringValue route (octets "topic") <|>
    jsonStringValue sampleEnvelope (octets "topic")
  let publisherId := jsonStringValue sampleEnvelope (octets "publisher_id") <|>
    jsonStringValue sourceMetadata (octets "publisher_id")
  -- both places are converted before one is chosen
  let envelopeSequence ← jsonUintValue sampleEnvelope (octets "source_sequence_number")
  let metadataSequence ← jsonUintValue sourceMetadata (octets "source_sequence_number")
  let envelopeTimestamp ← jsonUintValue sampleEnvelope (octets "source_timestamp_ns")
  let metadataTimestamp ← jsonUintValue sourceMetadata (octets "source_timestamp_ns")
  match robotId, topic, publisherId, envelopeSequence <|> metadataSequence,
    envelopeTimestamp <|> metadataTimestamp with
  | some robotId, some topic, some publisherId, some sequence, some timestamp =>
      match ← decodePayload serializedPayload with
      | none => return none
      | some payloadBytes =>
          let domainId ← jsonUintValue body (octets "domain_id")
          let priorRepairAttempts ← jsonUintValue repair (octets "prior_attempts")
          let ownershipStrength ← jsonUintValue body (octets "ownership_strength")
          let coherentSetTotal ← jsonUintValue body (octets "coherent_set_total")
          let coherentSetIndex ← jsonUintValue body (octets "coherent_set_index")
          return some {
            robotId, topic, publisherId
            sourceSequenceNumber := sequence
            sourceTimestampNs := timestamp.toInt64
            serializedPayload := payloadBytes
            domainId := domainId.getD 0
            typeName := (jsonStringValue body (octets "type_name")).getD []
            flowClass := (jsonStringValue route (octets "flow_class")).getD []
            deadlineMs := (jsonDoubleValue delivery (octets "deadline_ms")).getD {}
            ageMs := (jsonDoubleValue timing (octets "age_ms")).getD {}
            qoeDebt := (jsonDoubleValue qox (octets "qoe_debt")).getD {}
            taskCriticality := (jsonDoubleValue qox (octets "task_criticality")).getD {}
            repairRequested := jsonBoolValue repair (octets "requested")
            priorRepairAttempts := priorRepairAttempts.getD 0
            partitionsCsv := (jsonStringValue body (octets "partitions")).getD []
            ownershipStrength := (ownershipStrength.getD 0).toUInt32.toInt32
            coherentSetId := (jsonStringValue body (octets "coherent_set_id")).getD []
            coherentSetTotal := (coherentSetTotal.getD 0).toUInt32
            coherentSetIndex := (coherentSetIndex.getD 0).toUInt32 }
  | _, _, _, _, _ => return none

def decodeDataFrame (resolver : Option TopicResolver) (payload : Bytes) :
    Cpp (Option DataFrame) :=
  if dataFrameStaticMinV1Magic.isPrefixOf payload then
    .ok (decodeDataFrameStaticMinV1 resolver payload)
  else if dataFrameCompactV1Magic.isPrefixOf payload then
    .ok (decodeDataFrameCompactV1 payload)
  else
    let stripped := stripPadding payload
    if !dataFrameMagic.isPrefixOf stripped then .ok none
    else decodeDataFrameBody (stripped.drop dataFrameMagic.length)

end FleetRMW.Rmw
