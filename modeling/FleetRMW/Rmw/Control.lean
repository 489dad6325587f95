import FleetRMW.Rmw.DataFrame

/-! # Control frames

Acknowledgements and loss notices are recognized by a schema version anywhere in the datagram;
advertisements, service frames and action frames only behind the magic.
-/

namespace FleetRMW.Rmw

open Lib

def ackNackSchemaVersion : Bytes := octets "fleetrmw.ack_nack.v1"
def unrecoverableLossNoticeSchemaVersion : Bytes := octets "fleetrmw.unrecoverable_loss_notice.v1"
def routeAdvertisementSchemaVersion : Bytes := octets "fleetrmw.route_advertisement.v1"
def graphAdvertisementSchemaVersion : Bytes := octets "fleetrmw.graph_advertisement.v1"
def serviceFrameSchemaVersion : Bytes := octets "fleetrmw.service_frame.v2"
def actionFrameSchemaVersion : Bytes := octets "fleetrmw.action_frame.v1"

structure UnrecoverableLossNotice where
  robotId : Bytes
  topic : Bytes
  publisherId : Bytes
  subscriberId : Bytes
  sourceTimestampNs : Int64
  lostSequenceRanges : List SequenceRange
  domainId : UInt64
  deriving Repr, DecidableEq

structure RouteAdvertisement where
  endpointId : Bytes
  role : Bytes
  topic : Bytes
  typeName : Bytes
  leaseMs : UInt64
  domainId : UInt64
  deriving Repr, DecidableEq

structure GraphQosProfile where
  history : UInt64 := 0
  depth : UInt64 := 0
  reliability : UInt64 := 0
  durability : UInt64 := 0
  deadlineSec : UInt64 := 0
  deadlineNsec : UInt64 := 0
  lifespanSec : UInt64 := 0
  lifespanNsec : UInt64 := 0
  liveliness : UInt64 := 0
  livelinessLeaseDurationSec : UInt64 := 0
  livelinessLeaseDurationNsec : UInt64 := 0
  avoidRosNamespaceConventions : UInt64 := 0
  deriving Repr, DecidableEq

structure GraphAdvertisement where
  endpointId : Bytes
  action : Bytes
  entityKind : Bytes
  nodeName : Bytes
  nodeNamespace : Bytes
  topic : Bytes
  typeName : Bytes
  endpointGid : Bytes
  qos : GraphQosProfile
  leaseMs : UInt64
  domainId : UInt64
  typeHashHex : Bytes
  partitionsCsv : Bytes
  incarnationId : UInt64
  graphVersion : UInt64
  deriving Repr, DecidableEq

structure ServiceFrame where
  role : Bytes
  serviceName : Bytes
  typeName : Bytes
  clientEndpointId : Bytes
  serviceEndpointId : Bytes
  sequenceId : Int64
  sourceTimestampNs : Int64
  lifespanNs : Int64
  serializedPayload : Bytes
  domainId : UInt64
  clientPriority : UInt64
  localEnqueueTimestampNs : Int64 := 0
  clientWeight : UInt64
  requestDeadlineNs : UInt64
  deriving Repr, DecidableEq

structure ActionFrame where
  role : Bytes
  actionName : Bytes
  typeName : Bytes
  endpointId : Bytes
  goalId : Bytes
  sequenceId : Int64
  sourceTimestampNs : Int64
  lifespanNs : Int64
  serializedPayload : Bytes
  domainId : UInt64
  deriving Repr, DecidableEq

/-- `json_string_value(body, key).value_or("")` -/
def stringOrEmpty (body : Bytes) (key : String) : Bytes :=
  (jsonStringValue body (octets key)).getD []

/-- `json_uint_value(payload, key).value_or(fallback)` -/
def uintOr (fallback : UInt64) (payload : Bytes) (key : String) : Cpp UInt64 :=
  (·.getD fallback) <$> jsonUintValue payload (octets key)

/-! ## Acknowledgements and loss notices -/

/-- The text of a sequence of ranges. -/
def rangeTexts : List SequenceRange → Bytes
  | [] => []
  | [r] => octets "[" ++ decimal r.1.toNat ++ octets "," ++ decimal r.2.toNat ++ octets "]"
  | r :: rest => octets "[" ++ decimal r.1.toNat ++ octets "," ++ decimal r.2.toNat ++
      octets "]" ++ octets "," ++ rangeTexts rest

def encodeAckNack (frame : DataFrame) (feedback : AckNackFeedback) (subscriberId : Bytes) : Bytes :=
  octets "\x7b\"schema_version\":\"" ++ ackNackSchemaVersion ++ octets "\"," ++
  octets "\"kind\":\"source_sequence_ack_nack\"," ++
  octets "\"domain_id\":" ++ decimal frame.domainId.toNat ++ octets "," ++
  octets "\"robot_id\":\"" ++ jsonEscape frame.robotId ++ octets "\"," ++
  octets "\"source_topic\":\"" ++ jsonEscape frame.topic ++ octets "\"," ++
  (if subscriberId ≠ [] then
    octets "\"subscriber_id\":\"" ++ jsonEscape subscriberId ++ octets "\"," else []) ++
  octets "\"stream_key\":[\"source_stream\",\"" ++ jsonEscape frame.robotId ++ octets "\"," ++
  octets "\"" ++ jsonEscape frame.topic ++ octets "\",\"" ++ jsonEscape frame.publisherId ++
  octets "\"]," ++
  octets "\"ack\":\x7b\"source_sequence_number\":" ++ decimal frame.sourceSequenceNumber.toNat ++
  octets "," ++
  octets "\"source_timestamp_ns\":" ++ signedDecimal frame.sourceTimestampNs.toInt ++
  octets "\x7d," ++
  octets "\"nack\":\x7b\"missing_sequence_ranges\":[" ++ rangeTexts feedback.missingSequenceRanges ++
  octets "]\x7d," ++
  octets "\"state\":\x7b\"lowest_observed_sequence\":" ++
  decimal feedback.lowestObservedSequence.toNat ++ octets "," ++
  octets "\"highest_contiguous_sequence\":" ++
  decimal feedback.highestContiguousSequence.toNat ++ octets "," ++
  octets "\"highest_observed_sequence\":" ++ decimal feedback.highestObservedSequence.toNat ++
  octets "," ++
  octets "\"duplicate\":" ++ (if feedback.duplicate then octets "true" else octets "false") ++
  octets "," ++
  octets "\"out_of_order\":" ++
  (if feedback.outOfOrder then octets "true" else octets "false") ++ octets "\x7d\x7d"

/-- The text without padding and without the magic, which need not be there. -/
def controlBody (payload : Bytes) : Bytes :=
  let stripped := stripPadding payload
  if dataFrameMagic.isPrefixOf stripped then stripped.drop dataFrameMagic.length else stripped

def decodeAckNack (payload : Bytes) : Cpp (Option AckNackFrame) := do
  let body := controlBody payload
  if !jsonHasStringValue body (octets "schema_version") ackNackSchemaVersion then return none
  let robotId := jsonStringValue body (octets "robot_id")
  let topic := jsonStringValue body (octets "source_topic")
  let ack := (jsonObjectValue body (octets "ack")).getD []
  let state := (jsonObjectValue body (octets "state")).getD []
  let sequence ← jsonUintValue ack (octets "source_sequence_number")
  let timestamp ← jsonUintValue ack (octets "source_timestamp_ns")
  match robotId, topic, sequence, timestamp,
    jsonStringArrayValue body (octets "stream_key") with
  | some robotId, some topic, some sequence, some timestamp, _ :: _ :: _ :: publisherId :: _ =>
      let missingSequenceRanges ←
        jsonUintPairArrayValue body (octets "missing_sequence_ranges")
      let lowestObservedSequence ← uintOr 0 state "lowest_observed_sequence"
      let highestContiguousSequence ← uintOr 0 state "highest_contiguous_sequence"
      let highestObservedSequence ← uintOr 0 state "highest_observed_sequence"
      let domainId ← uintOr 0 body "domain_id"
      return some {
        robotId, topic, publisherId
        subscriberId := stringOrEmpty body "subscriber_id"
        ackSequenceNumber := sequence
        sourceTimestampNs := timestamp.toInt64
        missingSequenceRanges, lowestObservedSequence, highestContiguousSequence
        highestObservedSequence
        duplicate := contains (octets "\"duplicate\":true") body
        outOfOrder := contains (octets "\"out_of_order\":true") body
        domainId }
  | _, _, _, _, _ => return none

def decodeUnrecoverableLossNotice (payload : Bytes) : Cpp (Option UnrecoverableLossNotice) := do
  let body := controlBody payload
  if !jsonHasStringValue body (octets "schema_version") unrecoverableLossNoticeSchemaVersion ||
      !jsonHasStringValue body (octets "kind") (octets "source_sequence_unrecoverable") then
    return none
  let timestamp ← jsonUintValue body (octets "source_timestamp_ns")
  let ranges ← jsonUintPairArrayValue body (octets "lost_sequence_ranges")
  match jsonStringValue body (octets "robot_id"), jsonStringValue body (octets "source_topic"),
    jsonStringValue body (octets "publisher_id"), jsonStringValue body (octets "subscriber_id"),
    timestamp with
  | some robotId, some topic, some publisherId, some subscriberId, some timestamp =>
      if subscriberId = [] ∨ ranges = [] then return none
      else if ranges.any fun r => r.1 = 0 || r.1 > r.2 then return none
      else
        let domainId ← uintOr 0 body "domain_id"
        return some {
          robotId, topic, publisherId, subscriberId
          sourceTimestampNs := timestamp.toInt64
          lostSequenceRanges := ranges
          domainId }
  | _, _, _, _, _ => return none

/-! ## Frames behind the magic -/

/-- The text behind the magic, where it names this schema version. -/
def schemaBody (payload version : Bytes) : Option Bytes :=
  let stripped := stripPadding payload
  if !dataFrameMagic.isPrefixOf stripped then none
  else
    let body := stripped.drop dataFrameMagic.length
    if jsonHasStringValue body (octets "schema_version") version then some body else none

def decodeRouteAdvertisement (payload : Bytes) : Cpp (Option RouteAdvertisement) :=
  match schemaBody payload routeAdvertisementSchemaVersion with
  | none => .ok none
  | some body =>
      match jsonStringValue body (octets "topic"), jsonStringValue body (octets "role") with
      | some topic, some role => do
          let leaseMs ← uintOr 0 body "lease_ms"
          let domainId ← uintOr 0 body "domain_id"
          return some {
            endpointId := stringOrEmpty body "endpoint_id"
            role, topic
            typeName := stringOrEmpty body "type_name"
            leaseMs, domainId }
      | _, _ => .ok none

def decodeGraphQos (payload : Bytes) : Cpp GraphQosProfile := do
  let history ← uintOr 0 payload "history"
  let depth ← uintOr 0 payload "depth"
  let reliability ← uintOr 0 payload "reliability"
  let durability ← uintOr 0 payload "durability"
  let deadlineSec ← uintOr 0 payload "deadline_sec"
  let deadlineNsec ← uintOr 0 payload "deadline_nsec"
  let lifespanSec ← uintOr 0 payload "lifespan_sec"
  let lifespanNsec ← uintOr 0 payload "lifespan_nsec"
  let liveliness ← uintOr 0 payload "liveliness"
  let livelinessLeaseDurationSec ← uintOr 0 payload "liveliness_lease_duration_sec"
  let livelinessLeaseDurationNsec ← uintOr 0 payload "liveliness_lease_duration_nsec"
  let avoidRosNamespaceConventions ← uintOr 0 payload "avoid_ros_namespace_conventions"
  return {
    history, depth, reliability, durability, deadlineSec, deadlineNsec, lifespanSec, lifespanNsec
    liveliness, livelinessLeaseDurationSec, livelinessLeaseDurationNsec
    avoidRosNamespaceConventions }

def decodeGraphAdvertisement (payload : Bytes) : Cpp (Option GraphAdvertisement) :=
  match schemaBody payload graphAdvertisementSchemaVersion with
  | none => .ok none
  | some body =>
      match jsonStringValue body (octets "action"), jsonStringValue body (octets "entity_kind") with
      | some action, some entityKind => do
          let qosText := (jsonObjectValue body (octets "qos")).getD []
          let qos ← if qosText.isEmpty then pure {} else decodeGraphQos qosText
          let leaseMs ← uintOr 0 body "lease_ms"
          let domainId ← uintOr 0 body "domain_id"
          let incarnationId ← uintOr 0 body "incarnation_id"
          let graphVersion ← uintOr 0 body "graph_version"
          return some {
            endpointId := stringOrEmpty body "endpoint_id"
            action, entityKind
            nodeName := stringOrEmpty body "node_name"
            nodeNamespace := stringOrEmpty body "node_namespace"
            topic := stringOrEmpty body "topic"
            typeName := stringOrEmpty body "type_name"
            endpointGid := stringOrEmpty body "endpoint_gid"
            qos, leaseMs, domainId
            typeHashHex := stringOrEmpty body "type_hash"
            partitionsCsv := stringOrEmpty body "partitions"
            incarnationId, graphVersion }
      | _, _ => .ok none

def decodeServiceFrame (payload : Bytes) : Cpp (Option ServiceFrame) :=
  match schemaBody payload serviceFrameSchemaVersion with
  | none => .ok none
  | some body => do
      let sequenceId ← jsonUintValue body (octets "sequence_id")
      let sourceTimestampNs ← jsonUintValue body (octets "source_timestamp_ns")
      let lifespanNs ← uintOr 0 body "lifespan_ns"
      match jsonStringValue body (octets "role"), jsonStringValue body (octets "service_name"),
        jsonStringValue body (octets "type_name"),
        jsonStringValue body (octets "client_endpoint_id"), sequenceId, sourceTimestampNs with
      | some role, some serviceName, some typeName, some clientEndpointId, some sequenceId,
        some sourceTimestampNs =>
          match ← decodePayload ((jsonObjectValue body (octets "serialized_payload")).getD []) with
          | none => return none
          | some serializedPayload =>
              let domainId ← uintOr 0 body "domain_id"
              let clientPriority ← uintOr 0 body "client_priority"
              let clientWeight ← uintOr 1 body "client_weight"
              let requestDeadlineNs ← uintOr 0 body "request_deadline_ns"
              return some {
                role, serviceName, typeName, clientEndpointId
                serviceEndpointId := stringOrEmpty body "service_endpoint_id"
                sequenceId := sequenceId.toInt64
                sourceTimestampNs := sourceTimestampNs.toInt64
                lifespanNs := lifespanNs.toInt64
                serializedPayload, domainId, clientPriority
                clientWeight := if clientWeight < 1 then 1 else clientWeight
                requestDeadlineNs }
      | _, _, _, _, _, _ => return none

def decodeActionFrame (payload : Bytes) : Cpp (Option ActionFrame) :=
  match schemaBody payload actionFrameSchemaVersion with
  | none => .ok none
  | some body => do
      let sequenceId ← jsonUintValue body (octets "sequence_id")
      let sourceTimestampNs ← jsonUintValue body (octets "source_timestamp_ns")
      let lifespanNs ← uintOr 0 body "lifespan_ns"
      match jsonStringValue body (octets "role"), jsonStringValue body (octets "action_name"),
        jsonStringValue body (octets "type_name"), jsonStringValue body (octets "endpoint_id"),
        jsonStringValue body (octets "goal_id"), sequenceId, sourceTimestampNs with
      | some role, some actionName, some typeName, some endpointId, some goalId, some sequenceId,
        some sourceTimestampNs =>
          match ← decodePayload ((jsonObjectValue body (octets "serialized_payload")).getD []) with
          | none => return none
          | some serializedPayload =>
              let domainId ← uintOr 0 body "domain_id"
              return some {
                role, actionName, typeName, endpointId, goalId
                sequenceId := sequenceId.toInt64
                sourceTimestampNs := sourceTimestampNs.toInt64
                lifespanNs := lifespanNs.toInt64
                serializedPayload, domainId }
      | _, _, _, _, _, _, _ => return none

end FleetRMW.Rmw
