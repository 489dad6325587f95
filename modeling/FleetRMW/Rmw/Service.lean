import FleetRMW.Lib.Eviction
import FleetRMW.Rmw.Ledger

/-! # Services

A service queues the requests that it has not seen before, hands them out in the order of one
of three schedulers, and keeps each response so that a copy of its request can be answered again.
-/

namespace FleetRMW.Rmw

open Lib

/-- `service_frame_expired` -/
def serviceFrameExpired (frame : ServiceFrame) (nowNs : Int64) : Bool :=
  if frame.lifespanNs ≤ 0 ∨ frame.sourceTimestampNs ≤ 0 then false
  else nowNs > frame.sourceTimestampNs && nowNs - frame.sourceTimestampNs > frame.lifespanNs

def encodeServiceFrame (frame : ServiceFrame) : Bytes :=
  dataFrameMagic ++
  octets "\x7b\"schema_version\":\"" ++ serviceFrameSchemaVersion ++ octets "\"," ++
  octets "\"kind\":\"service_frame\"," ++
  octets "\"domain_id\":" ++ decimal frame.domainId.toNat ++ octets "," ++
  octets "\"client_priority\":" ++ decimal frame.clientPriority.toNat ++ octets "," ++
  octets "\"client_weight\":" ++ decimal frame.clientWeight.toNat ++ octets "," ++
  octets "\"request_deadline_ns\":" ++ decimal frame.requestDeadlineNs.toNat ++ octets "," ++
  octets "\"role\":\"" ++ jsonEscape frame.role ++ octets "\"," ++
  octets "\"service_name\":\"" ++ jsonEscape frame.serviceName ++ octets "\"," ++
  octets "\"type_name\":\"" ++ jsonEscape frame.typeName ++ octets "\"," ++
  octets "\"client_endpoint_id\":\"" ++ jsonEscape frame.clientEndpointId ++ octets "\"," ++
  octets "\"service_endpoint_id\":\"" ++ jsonEscape frame.serviceEndpointId ++ octets "\"," ++
  octets "\"sequence_id\":" ++ signedDecimal frame.sequenceId.toInt ++ octets "," ++
  octets "\"source_timestamp_ns\":" ++ signedDecimal frame.sourceTimestampNs.toInt ++
  octets "," ++
  octets "\"lifespan_ns\":" ++ signedDecimal frame.lifespanNs.toInt ++
  (if frame.serializedPayload ≠ [] then
    octets ",\"serialized_payload\":\x7b" ++ octets "\"encoding\":\"base64\"," ++
    octets "\"size\":" ++ decimal frame.serializedPayload.length ++ octets "," ++
    octets "\"data\":\"" ++ base64Encode frame.serializedPayload ++ octets "\"\x7d" else []) ++
  octets "\x7d"

/-! ## Keys -/

def serviceFrameDedupeKey (frame : ServiceFrame) : Bytes :=
  frame.clientEndpointId ++ octets "|" ++ frame.serviceEndpointId ++ octets "|" ++ frame.role ++
    octets "|" ++ signedDecimal frame.sequenceId.toInt

def serviceResponseReplayKey (clientEndpointId : Bytes) (sequenceId : Int64) : Bytes :=
  clientEndpointId ++ octets "|" ++ signedDecimal sequenceId.toInt

/-- `fnv1a64` -/
def fnv1a64 (text : Bytes) (seed : UInt64) : UInt64 :=
  text.foldl (fun hash c => (hash ^^^ c.toUInt64) * 1099511628211) seed

/-- The first `gidSize` octets of the blocks of `endpoint_gid_from_id`. -/
def endpointGidFromId (gidSize : Nat) (endpointId : Bytes) : Bytes :=
  let block (n : Nat) : Bytes :=
    let value := fnv1a64 (endpointId ++ octets "#" ++ decimal n) (1469598103934665603 + UInt64.ofNat n)
    (List.range 8).map fun byte => (value >>> UInt64.ofNat (byte * 8)).toUInt8
  ((List.range ((gidSize + 7) / 8)).flatMap block).take gidSize

/-- `rmw_request_id_t` -/
structure RequestId where
  writerGuid : Bytes
  sequenceNumber : Int64
  deriving Repr, DecidableEq

/-- `request_key` -/
def requestKey (requestId : RequestId) : Bytes :=
  requestId.writerGuid.flatMap (fun byte =>
    [hexDigit (byte.toNat / 16), hexDigit (byte.toNat % 16)]) ++ octets ":" ++
    signedDecimal requestId.sequenceNumber.toInt

/-! ## The service object -/

/-- What the environment sets, where a text that is no number counts as not set. -/
structure ServiceEnvironment where
  requestQueueLimit : Option Int := none
  perClientRequestQueueLimit : Option Int := none
  pendingResponseLimit : Option Int := none
  dedupeHistoryLimit : Option Int := none
  responseReplayLimit : Option Int := none
  priorityAgingMs : Option Int := none
  deadlineAgingMs : Option Int := none
  weighted : Bool := false
  deadline : Bool := false

def parseNonnegativeIntEnv (raw : Option Int) (defaultValue maxValue : Int) : Int :=
  match raw with
  | none => defaultValue
  | some parsed => if parsed < 0 then defaultValue else min parsed maxValue

def serviceResourceLimit (raw : Option Int) (defaultValue : Nat) : Nat :=
  let boundedDefault := max 1 (min defaultValue 65536)
  (max 1 (parseNonnegativeIntEnv raw boundedDefault 65536)).toNat

/-- The fields of a service. The sets of seen and of stored keys are the lists of the deques that
    order them, and a `std::map` from clients lists its entries by their keys. -/
structure FleetQoxServiceData where
  serviceName : Bytes
  typeName : Bytes
  domainId : UInt64
  endpointId : Bytes
  qosLifespan : RmwTime
  requestQueueLimit : Nat
  perClientRequestQueueLimit : Nat
  pendingResponseLimit : Nat
  dedupeHistoryLimit : Nat
  responseReplayLimit : Nat
  servicePriorityAgingNs : Int
  weightedServiceScheduler : Bool
  deadlineServiceScheduler : Bool
  serviceDeadlineAgingNs : Int
  requestQueue : List ServiceFrame := []
  lastDequeuedClientEndpointId : Bytes := []
  pendingResponseClients : Dict Bytes Bytes := []
  responseReplay : Dict Bytes Bytes := []
  seenRequestKeys : List Bytes := []
  weightedServiceCurrent : Dict Bytes Int := []
  deriving Repr, DecidableEq

/-- `allocate_service_data` for a service. -/
def allocateServiceData (serviceName typeName : Bytes) (domainId : UInt64) (endpointId : Bytes)
    (depth : Nat) (lifespan : RmwTime) (env : ServiceEnvironment) : FleetQoxServiceData :=
  let qosDepth := if depth = 0 then 10 else depth
  let dedupeHistoryLimit := serviceResourceLimit env.dedupeHistoryLimit (max qosDepth 1024)
  let configuredReplayLimit := serviceResourceLimit env.responseReplayLimit (max qosDepth 1024)
  { serviceName, typeName, domainId, endpointId, dedupeHistoryLimit
    qosLifespan := lifespan
    requestQueueLimit := serviceResourceLimit env.requestQueueLimit qosDepth
    perClientRequestQueueLimit := serviceResourceLimit env.perClientRequestQueueLimit 65536
    pendingResponseLimit := serviceResourceLimit env.pendingResponseLimit (max qosDepth 1024)
    responseReplayLimit := max configuredReplayLimit dedupeHistoryLimit
    servicePriorityAgingNs := parseNonnegativeIntEnv env.priorityAgingMs 100 60000 * 1000000
    serviceDeadlineAgingNs := parseNonnegativeIntEnv env.deadlineAgingMs 1000 60000 * 1000000
    weightedServiceScheduler := env.weighted
    deadlineServiceScheduler := env.deadline }

/-- `remember_bounded_service_key` -/
def rememberBoundedServiceKey (keys : List Bytes) (key : Bytes) (limit : Nat) : List Bytes :=
  if key ∈ keys then keys else popWhileLonger limit (keys ++ [key])

/-- `store_bounded_service_response_replay` -/
def storeBoundedServiceResponseReplay (replay : Dict Bytes Bytes) (key encoded : Bytes)
    (limit : Nat) : Dict Bytes Bytes :=
  popWhileLonger limit (replay.set key encoded)

namespace FleetQoxServiceData

/-! ## Requests arrive -/

/-- What the surroundings of the service say when a frame arrives. -/
structure Arrival where
  /-- the wall clock -/
  nowNs : Int64 := 0
  /-- `rmw_fleetqox_cpp_graph_client_matches_service_in_domain` -/
  clientMatches : Bool := true
  /-- `sros2_service_operation_allowed` -/
  allowed : Bool := true
  /-- the steady clock -/
  steadyNs : Int64 := 0
  deriving Repr, DecidableEq

/-- The frame is a request that this service has to look at. -/
def addressed (data : FleetQoxServiceData) (frame : ServiceFrame) (arrival : Arrival) : Bool :=
  !serviceFrameExpired frame arrival.nowNs && frame.role = octets "request" &&
    frame.domainId = data.domainId && frame.serviceName = data.serviceName &&
    frame.typeName = data.typeName && arrival.clientMatches && arrival.allowed

/-- One of the two queue limits is reached. -/
def saturated (data : FleetQoxServiceData) (frame : ServiceFrame) : Bool :=
  data.perClientRequestQueueLimit ≤ (data.requestQueue.countP fun queued =>
    queued.clientEndpointId = frame.clientEndpointId) ||
  data.requestQueueLimit ≤ data.requestQueue.length

/-- The request branch of `rmw_fleetqox_cpp_handle_service_frame`, with the responses that are
    sent again. A frame with another role changes nothing of a service. -/
def handleServiceFrame (data : FleetQoxServiceData) (frame : ServiceFrame) (arrival : Arrival) :
    List Bytes × FleetQoxServiceData :=
  if !data.addressed frame arrival then ([], data)
  else if serviceFrameDedupeKey frame ∈ data.seenRequestKeys then
    let replayKey := serviceResponseReplayKey frame.clientEndpointId frame.sequenceId
    ((data.responseReplay.get? replayKey).toList, data)
  else if data.saturated frame then ([], data)
  else
    ([], { data with
      seenRequestKeys := rememberBoundedServiceKey data.seenRequestKeys
        (serviceFrameDedupeKey frame) data.dedupeHistoryLimit
      requestQueue := data.requestQueue ++ [{ frame with
        localEnqueueTimestampNs := arrival.steadyNs }] })

/-! ## Requests are taken -/

/-- `map[key] = value` of a `std::map`. -/
def insertSorted (k : Bytes) (v : Nat × ServiceFrame) :
    Dict Bytes (Nat × ServiceFrame) → Dict Bytes (Nat × ServiceFrame)
  | [] => [(k, v)]
  | e :: d =>
      if k = e.1 then (k, v) :: d
      else if k < e.1 then (k, v) :: e :: d
      else e :: insertSorted k v d

def considerCandidate (heads : Dict Bytes (Nat × ServiceFrame)) (candidate : ServiceFrame × Nat) :
    Dict Bytes (Nat × ServiceFrame) :=
  if (heads.get? candidate.1.clientEndpointId).all fun existing =>
      candidate.1.sequenceId < existing.2.sequenceId then
    insertSorted candidate.1.clientEndpointId candidate.swap heads
  else heads

/-- `client_heads`: for each client its request with the least sequence, with its position. -/
def clientHeads (queue : List ServiceFrame) : Dict Bytes (Nat × ServiceFrame) :=
  queue.zipIdx.foldl considerCandidate []

/-- `effective_service_priority` -/
def effectiveServicePriority (frame : ServiceFrame) (nowNs agingNs : Int) : Nat :=
  let effective := frame.clientPriority.toNat
  let enqueued := frame.localEnqueueTimestampNs.toInt
  if agingNs ≤ 0 ∨ enqueued ≤ 0 ∨ nowNs ≤ enqueued then effective
  else effective + min ((nowNs - enqueued) / agingNs).toNat (2 ^ 64 - 1 - effective)

/-- `effective_service_deadline` -/
def effectiveServiceDeadline (frame : ServiceFrame) (deadlineAgingNs : Int) : Nat :=
  let relative := if 0 < frame.requestDeadlineNs then frame.requestDeadlineNs.toNat
    else (max 0 deadlineAgingNs).toNat
  let enqueued := frame.localEnqueueTimestampNs.toInt
  if enqueued ≤ 0 ∨ relative = 0 then 2 ^ 64 - 1
  else if 2 ^ 64 - 1 - enqueued.toNat < relative then 2 ^ 64 - 1
  else enqueued.toNat + relative

/-- One turn of the search for the earliest deadline. -/
def considerDeadline (data : FleetQoxServiceData) (selected : Option (Nat × (Nat × ServiceFrame)))
    (head : Bytes × (Nat × ServiceFrame)) : Option (Nat × (Nat × ServiceFrame)) :=
  let deadline := effectiveServiceDeadline head.2.2 data.serviceDeadlineAgingNs
  match selected with
  | none => some (deadline, head.2)
  | some (earliest, _) =>
      if deadline < earliest then some (deadline, head.2)
      else if deadline = earliest ∧ data.lastDequeuedClientEndpointId ≠ [] ∧
          head.2.2.clientEndpointId ≠ data.lastDequeuedClientEndpointId then
        some (earliest, head.2)
      else selected

def selectByDeadline (data : FleetQoxServiceData) (heads : Dict Bytes (Nat × ServiceFrame)) :
    Option (Nat × ServiceFrame) :=
  (heads.foldl data.considerDeadline none).map Prod.snd

def headWeight (frame : ServiceFrame) : Int := max 1 (min frame.clientWeight.toNat 64)

/-- One turn of the search for the largest credit. -/
def considerCredit (credits : Dict Bytes Int) (selected : Option (Int × (Nat × ServiceFrame)))
    (head : Bytes × (Nat × ServiceFrame)) : Option (Int × (Nat × ServiceFrame)) :=
  let current := (credits.get? head.1).getD 0
  match selected with
  | none => some (current, head.2)
  | some (best, _) => if current > best then some (current, head.2) else selected

/-- Each client that has a head gains its weight, and the one with the most credit pays for all.
    The credit of other clients is forgotten. -/
def selectByWeight (data : FleetQoxServiceData) (heads : Dict Bytes (Nat × ServiceFrame)) :
    Option (Nat × ServiceFrame) × Dict Bytes Int :=
  let credits : Dict Bytes Int := heads.map fun head =>
    (head.1, (data.weightedServiceCurrent.get? head.1).getD 0 + headWeight head.2.2)
  match heads.foldl (considerCredit credits) none with
  | none => (none, credits)
  | some (best, selected) =>
      (some selected, credits.set selected.2.clientEndpointId
        (best - (heads.map fun head => headWeight head.2.2).sum))

/-- Of the heads with the highest priority the first that is not of the client that was served
    last, or else the first. -/
def selectByPriority (data : FleetQoxServiceData) (nowNs : Int)
    (heads : Dict Bytes (Nat × ServiceFrame)) : Option (Nat × ServiceFrame) :=
  let priority (head : Bytes × (Nat × ServiceFrame)) :=
    effectiveServicePriority head.2.2 nowNs data.servicePriorityAgingNs
  let maximum := (heads.map priority).foldl max 0
  let eligible := heads.filter fun head => priority head = maximum
  ((eligible.find? fun head => data.lastDequeuedClientEndpointId ≠ [] ∧
    head.2.2.clientEndpointId ≠ data.lastDequeuedClientEndpointId).or eligible.head?).map Prod.snd

/-- The request that the scheduler selects, with its position in the queue. -/
def selectRequest (data : FleetQoxServiceData) (nowNs : Int) :
    Option (Nat × ServiceFrame) × FleetQoxServiceData :=
  let heads := clientHeads data.requestQueue
  if data.deadlineServiceScheduler then (data.selectByDeadline heads, data)
  else if data.weightedServiceScheduler then
    let (selected, current) := data.selectByWeight heads
    (selected, { data with weightedServiceCurrent := current })
  else (data.selectByPriority nowNs heads, data)

/-- What the clocks show at each turn of the loop. -/
structure TurnClocks where
  steadyNs : Nat → Int := fun _ => 0
  wallNs : Nat → Int64 := fun _ => 0

/-- `while (!request_queue.empty())`: requests that have expired are dropped. Each turn takes one
    request out of the queue. -/
def dequeueRequest (clocks : TurnClocks) :
    Nat → FleetQoxServiceData → Option ServiceFrame × FleetQoxServiceData
  | 0, data => (none, data)
  | turns + 1, data =>
      match data.selectRequest (clocks.steadyNs turns) with
      | (none, data) => (none, data)
      | (some (position, frame), data) =>
          let data := { data with requestQueue := data.requestQueue.eraseIdx position }
          if serviceFrameExpired frame (clocks.wallNs turns) then dequeueRequest clocks turns data
          else (some frame, { data with lastDequeuedClientEndpointId := frame.clientEndpointId })

/-- `rmw_take_request`: the request that leaves the queue and, when its payload can be read, is
    handed out. -/
def rmwTakeRequest (gidSize : Nat) (data : FleetQoxServiceData) (clocks : TurnClocks)
    (deserializes : Bool) : Option ServiceFrame × FleetQoxServiceData :=
  if data.requestQueue ≠ [] ∧ data.pendingResponseLimit ≤ data.pendingResponseClients.length then
    (none, data)
  else
    match dequeueRequest clocks data.requestQueue.length data with
    | (none, data) => (none, data)
    | (some frame, data) =>
        if !deserializes then (none, data)
        else
          let requestId := ⟨endpointGidFromId gidSize frame.clientEndpointId, frame.sequenceId⟩
          (some frame, { data with pendingResponseClients :=
            data.pendingResponseClients.set (requestKey requestId) frame.clientEndpointId })

/-! ## Responses are sent -/

/-- A call of `rmw_send_response`. -/
structure SendResponse where
  requestHeader : RequestId
  allowed : Bool := true
  /-- what `serialize_service_message` makes of the response -/
  payload : Option Bytes := some []
  nowNs : Int64 := 0
  deriving Repr, DecidableEq

/-- The client that waits for the response. -/
def responseTarget (data : FleetQoxServiceData) (call : SendResponse) : Option Bytes :=
  if call.allowed ∧ call.payload.isSome then
    data.pendingResponseClients.get? (requestKey call.requestHeader)
  else none

def responseFrame (data : FleetQoxServiceData) (client : Bytes) (call : SendResponse) :
    ServiceFrame where
  role := octets "response"
  serviceName := data.serviceName
  typeName := data.typeName
  clientEndpointId := client
  serviceEndpointId := data.endpointId
  sequenceId := call.requestHeader.sequenceNumber
  sourceTimestampNs := call.nowNs
  lifespanNs := qosDurationNs data.qosLifespan
  serializedPayload := call.payload.getD []
  domainId := data.domainId
  clientPriority := 0
  clientWeight := 1
  requestDeadlineNs := 0

/-- `rmw_send_response`: the client and what is sent to it. -/
def rmwSendResponse (data : FleetQoxServiceData) (call : SendResponse) :
    Option (Bytes × Bytes) × FleetQoxServiceData :=
  match data.responseTarget call with
  | none => (none, data)
  | some client =>
      let data := { data with pendingResponseClients :=
        data.pendingResponseClients.erase (requestKey call.requestHeader) }
      if client = [] then (none, data)
      else
        let encoded := encodeServiceFrame (data.responseFrame client call)
        (some (client, encoded), { data with
          responseReplay := storeBoundedServiceResponseReplay data.responseReplay
            (serviceResponseReplayKey client call.requestHeader.sequenceNumber) encoded
            data.responseReplayLimit })

end FleetQoxServiceData

end FleetRMW.Rmw
