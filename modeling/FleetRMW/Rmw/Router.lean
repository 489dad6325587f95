import FleetRMW.Lib.Leases
import FleetRMW.Rmw.Fragments
import FleetRMW.Rmw.Ledger
import Mathlib.Data.List.Sort

/-! # The router

One loop purges what it has learned too long ago, sends what has been held back long enough, and
forwards what arrives: to the static peers and to the addresses that it has learned from
advertisements and data frames.
-/

namespace FleetRMW.Rmw

open Lib

/-! ## What the router learns -/

/-- `sockaddr_in`, whose family is always `AF_INET`; `endpoints_match` is equality. -/
structure SockaddrIn where
  address : UInt32
  port : UInt16
  deriving Repr, DecidableEq

structure TopicRoute where
  topic : Bytes
  address : SockaddrIn
  expiresAt : Int
  domainId : UInt64
  deriving Repr, DecidableEq

structure ServiceRoute where
  role : Bytes
  serviceName : Bytes
  endpointId : Bytes
  address : SockaddrIn
  expiresAt : Int
  domainId : UInt64
  deriving Repr, DecidableEq

structure ActionRoute where
  role : Bytes
  actionName : Bytes
  endpointId : Bytes
  address : SockaddrIn
  expiresAt : Int
  domainId : UInt64
  deriving Repr, DecidableEq

structure PublisherRoute where
  publisherId : Bytes
  topic : Bytes
  address : SockaddrIn
  expiresAt : Int
  domainId : UInt64
  deriving Repr, DecidableEq

structure TopicQosLease where
  endpointId : Bytes
  topic : Bytes
  qos : GraphQosProfile
  expiresAt : Int
  domainId : UInt64
  deriving Repr, DecidableEq

/-- The product wraps as the code's does. -/
def leaseDuration (leaseMs : UInt64) : Int :=
  ((if leaseMs = 0 then 5000 else leaseMs).toInt64 * 1000000).toInt

def purgeExpiredRoutes := purge TopicRoute.expiresAt
def purgeExpiredPublisherRoutes := purge PublisherRoute.expiresAt
def purgeExpiredServiceRoutes := purge ServiceRoute.expiresAt
def purgeExpiredActionRoutes := purge ActionRoute.expiresAt
def purgeExpiredTopicQos := purge TopicQosLease.expiresAt

/-! ## Configuration -/

structure RouterConfig where
  peers : List SockaddrIn := []
  graphPeers : List SockaddrIn := []
  expectedFrames : Int := 1
  schedulerWindowMs : Int := 0
  schedulerExpectedFrames : Int := 0
  schedulerUrgentDeadlineMs : Int := 0
  schedulerTopicPrefix : Bytes := []
  dropSourceSequences : List UInt64 := []
  dropTopicPrefix : Bytes := []
  deriving Repr, DecidableEq

/-- `scheduler_admits_holdback` computes with floating-point numbers: from the size and its state
    it says whether to hold back. -/
abbrev HoldbackPolicy (A : Type) := Nat → A → Bool × A

/-! ## Datagrams -/

/-- What a datagram is taken for. -/
inductive Datagram where
  | fragment
  | routeAdvertisement (advertisement : RouteAdvertisement)
  | graphAdvertisement (advertisement : GraphAdvertisement)
  | serviceFrame (frame : ServiceFrame)
  | actionFrame (frame : ActionFrame)
  | lossNotice (notice : UnrecoverableLossNotice)
  | ackNack (ackNack : AckNackFrame)
  | dataFrame (frame : DataFrame)
  | invalid
  deriving Repr, DecidableEq

def fragmentWrappers : List Bytes :=
  [fragmentText, repairFragmentText, repairFragmentNackText, repairFragmentCompletionText]

/-- `is_fragment_datagram` -/
def isFragmentDatagram (payload : Bytes) : Bool := fragmentWrappers.any (·.isPrefixOf payload)

/-- The decoders in the order in which the loop tries them. -/
def decodeDatagram (payload : Bytes) : Cpp Datagram := do
  if isFragmentDatagram payload then return .fragment
  if let some advertisement ← decodeRouteAdvertisement payload then
    return .routeAdvertisement advertisement
  if let some advertisement ← decodeGraphAdvertisement payload then
    return .graphAdvertisement advertisement
  if let some frame ← decodeServiceFrame payload then return .serviceFrame frame
  if let some frame ← decodeActionFrame payload then return .actionFrame frame
  if let some notice ← decodeUnrecoverableLossNotice payload then return .lossNotice notice
  if let some ackNack ← decodeAckNack payload then return .ackNack ackNack
  if let some frame ← decodeDataFrame none payload then return .dataFrame frame
  return .invalid

/-- The route that a fragment's identifier names. -/
structure FragmentRoute where
  domainId : UInt64
  topic : Bytes
  fragmentId : Bytes
  deriving Repr, DecidableEq

/-- The text between the wrapper and the first separator, and what is behind it. -/
def fragmentIdOf (wrappers : List Bytes) (payload : Bytes) : Option (Bytes × Bytes) :=
  (wrappers.find? (·.isPrefixOf payload)).bind fun wrapper =>
    splitField (payload.drop wrapper.length)

/-- `try_parse_fragment_route`; `strtoull` stops at the largest number. -/
def tryParseFragmentRoute (payload : Bytes) : Option FragmentRoute := do
  let (fragmentId, _) ← fragmentIdOf fragmentWrappers payload
  let behind ← afterFirst (octets "^^") fragmentId
  let topic ← afterFirst (octets "^^") behind
  let domainText := behind.take (behind.length - topic.length - 2)
  if domainText = [] ∨ !domainText.all isDecimal ∨ topic = [] then none
  else some {
    domainId := UInt64.ofNat (min (decimalValue domainText) (2 ^ 64 - 1))
    topic, fragmentId }

structure FragmentSizeInfo where
  fragmentId : Bytes
  fragmentCount : Nat
  totalSize : Nat
  deriving Repr, DecidableEq

/-- `try_parse_fragment_size_info` -/
def tryParseFragmentSizeInfo (payload : Bytes) : Option FragmentSizeInfo := do
  let (fragmentId, behind) ← fragmentIdOf [fragmentText, repairFragmentText] payload
  let (_, behind) ← splitField behind
  let (countText, behind) ← splitField behind
  let (totalSizeText, _) ← splitField behind
  if countText = [] ∨ !countText.all isDecimal ∨ totalSizeText = [] ∨
      !totalSizeText.all isDecimal then none
  else some {
    fragmentId
    fragmentCount := min (decimalValue countText) (2 ^ 64 - 1)
    totalSize := min (decimalValue totalSizeText) (2 ^ 64 - 1) }

/-! ## Queues -/

/-- A data frame as it arrived. -/
structure ReceivedFrame where
  encodedFrame : Bytes
  frame : DataFrame
  sourceAddress : SockaddrIn
  deriving Repr, DecidableEq

structure QueuedDataFrame extends ReceivedFrame where
  enqueuedAt : Int
  absoluteDeadlineNs : Int64
  order : Nat
  testRepair : Bool
  deriving Repr, DecidableEq

structure QueuedFragmentDatagram where
  encodedFrame : Bytes
  sourceAddress : SockaddrIn
  enqueuedAt : Int
  order : Nat
  countsAsForwardedMessage : Bool
  topic : Bytes
  deriving Repr, DecidableEq

/-- What the loop keeps from turn to turn, apart from its statistics. -/
structure Router (A : Type) where
  routeTable : List TopicRoute := []
  publisherRouteTable : List PublisherRoute := []
  serviceRouteTable : List ServiceRoute := []
  actionRouteTable : List ActionRoute := []
  topicQosTable : List TopicQosLease := []
  droppedSourceSequenceKeys : List Bytes := []
  queuedDataFrames : List QueuedDataFrame := []
  queuedFragmentDatagrams : List QueuedFragmentDatagram := []
  fragmentAdmissionDecisions : Dict Bytes (Bool × Nat) := []
  fragmentIdsCountedAsReceived : List Bytes := []
  fragmentIdsCountedForSchedulerTelemetry : List Bytes := []
  received : Nat := 0
  schedulerAdmissionState : A
  nextQueueOrder : Nat := 0

/-- What a turn does with a data frame, or the addresses that another datagram is sent to. -/
inductive RouterOutput where
  | testDropped (received : ReceivedFrame)
  | qosDropped (received : ReceivedFrame)
  | dataForwarded (received : ReceivedFrame) (targets : List SockaddrIn)
  | datagramForwarded (payload : Bytes) (targets : List SockaddrIn)
  deriving Repr, DecidableEq

/-! ## Targets -/

/-- `append_unique_peer` -/
def appendUniquePeer (peers : List SockaddrIn) (candidate : SockaddrIn) : List SockaddrIn :=
  if candidate ∈ peers then peers else peers ++ [candidate]

def appendUniquePeers (peers : List SockaddrIn) (candidates : List SockaddrIn) : List SockaddrIn :=
  candidates.foldl appendUniquePeer peers

/-- The loop over the targets, which leaves out the address that the datagram came from. -/
def sentTo (targets : List SockaddrIn) (sourceAddress : SockaddrIn) : List SockaddrIn :=
  targets.filter (· ≠ sourceAddress)

namespace Router

variable {A : Type}

def topicAddresses (r : Router A) (domainId : UInt64) (topic : Bytes) : List SockaddrIn :=
  (r.routeTable.filter fun route => route.domainId = domainId ∧ route.topic = topic).map
    TopicRoute.address

/-- `forward_data_frame` -/
def forwardDataFrame (config : RouterConfig) (r : Router A) (received : ReceivedFrame) :
    RouterOutput :=
  .dataForwarded received (sentTo (appendUniquePeers config.peers
    (r.topicAddresses received.frame.domainId received.frame.topic)) received.sourceAddress)

/-- `forward_passthrough_datagram` -/
def passthroughTargets (config : RouterConfig) (r : Router A) : List SockaddrIn :=
  appendUniquePeers config.peers (r.routeTable.map TopicRoute.address ++
    r.publisherRouteTable.map PublisherRoute.address ++
    r.serviceRouteTable.map ServiceRoute.address ++ r.actionRouteTable.map ActionRoute.address)

/-- `forward_fragment_datagram` -/
def forwardFragmentDatagram (config : RouterConfig) (r : Router A) (payload : Bytes)
    (sourceAddress : SockaddrIn) : RouterOutput :=
  let targets := match tryParseFragmentRoute payload with
    | some route => appendUniquePeers config.peers (r.topicAddresses route.domainId route.topic)
    | none => []
  .datagramForwarded payload
    (sentTo (if targets ≠ [] then targets else r.passthroughTargets config) sourceAddress)

end Router

/-! ## Quality of service -/

/-- `graph_duration_ns` -/
def graphDurationNs (sec nsec : UInt64) : Int64 := qosDurationNs ⟨sec, nsec⟩

/-- The least of the durations that are positive, or zero. -/
def effectiveDuration (durations : List Int64) : Int64 :=
  durations.foldl (fun effective duration =>
    if duration ≤ 0 then effective
    else if effective = 0 ∨ duration < effective then duration else effective) 0

def leasesOf (table : List TopicQosLease) (domainId : UInt64) (topic : Bytes) :
    List TopicQosLease :=
  table.filter fun lease => lease.domainId = domainId ∧ lease.topic = topic

def TopicQosLease.lifespanNs (lease : TopicQosLease) : Int64 :=
  graphDurationNs lease.qos.lifespanSec lease.qos.lifespanNsec

def TopicQosLease.deadlineNs (lease : TopicQosLease) : Int64 :=
  graphDurationNs lease.qos.deadlineSec lease.qos.deadlineNsec

/-- `frame_exceeds_learned_lifespan`, where `nowNs` is what the steady clock shows. -/
def frameExceedsLearnedLifespan (table : List TopicQosLease) (frame : DataFrame) (nowNs : Int64) :
    Bool :=
  let effectiveLifespanNs := effectiveDuration
    ((leasesOf table frame.domainId frame.topic).map TopicQosLease.lifespanNs)
  if effectiveLifespanNs ≤ 0 ∨ frame.sourceTimestampNs ≤ 0 then false
  else nowNs > frame.sourceTimestampNs && nowNs - frame.sourceTimestampNs > effectiveLifespanNs

def learnedDeadlineNs (table : List TopicQosLease) (topic : Bytes) (domainId : UInt64) : Int64 :=
  effectiveDuration ((leasesOf table domainId topic).map TopicQosLease.deadlineNs)

/-- `absolute_deadline_ns_for_frame` -/
def absoluteDeadlineNsForFrame (table : List TopicQosLease) (frame : DataFrame) : Int64 :=
  let deadlineNs := learnedDeadlineNs table frame.topic frame.domainId
  if deadlineNs ≤ 0 ∨ frame.sourceTimestampNs ≤ 0 ∨
      Int64.maxValue - frame.sourceTimestampNs < deadlineNs then Int64.maxValue
  else frame.sourceTimestampNs + deadlineNs

/-! ## Test drops -/

def sourceSequenceKey (frame : DataFrame) : Bytes :=
  frame.publisherId ++ octets "|" ++ decimal frame.sourceSequenceNumber.toNat

/-- `should_drop_source_sequence_once` -/
def shouldDropSourceSequenceOnce (config : RouterConfig) (frame : DataFrame)
    (droppedKeys : List Bytes) : Bool :=
  config.dropSourceSequences ≠ [] && config.dropTopicPrefix.isPrefixOf frame.topic &&
    frame.sourceSequenceNumber ∈ config.dropSourceSequences &&
    sourceSequenceKey frame ∉ droppedKeys

def wasTestDropped (frame : DataFrame) (droppedKeys : List Bytes) : Bool :=
  sourceSequenceKey frame ∈ droppedKeys

/-! ## A turn of the loop -/

namespace Router

variable {A : Type}

def purgeExpired (r : Router A) (now : Int) : Router A :=
  { r with
    routeTable := purgeExpiredRoutes now r.routeTable
    publisherRouteTable := purgeExpiredPublisherRoutes now r.publisherRouteTable
    serviceRouteTable := purgeExpiredServiceRoutes now r.serviceRouteTable
    actionRouteTable := purgeExpiredActionRoutes now r.actionRouteTable
    topicQosTable := purgeExpiredTopicQos now r.topicQosTable }

/-- The queue is due whose first element has waited for the window. -/
def windowOver (config : RouterConfig) (now : Int) (enqueuedAt : Option Int) : Bool :=
  enqueuedAt.any fun enqueuedAt =>
    config.schedulerWindowMs ≤ 0 || now - enqueuedAt ≥ config.schedulerWindowMs * 1000000

def flushDue (config : RouterConfig) (r : Router A) (now : Int) : Bool :=
  let batchReady := if config.schedulerExpectedFrames > 0 then
      (r.queuedDataFrames.length : Int) ≥ config.schedulerExpectedFrames
    else (r.received : Int) ≥ config.expectedFrames
  (r.queuedDataFrames ≠ [] && batchReady) ||
    windowOver config now (r.queuedDataFrames.head?.map (·.enqueuedAt)) ||
    windowOver config now (r.queuedFragmentDatagrams.head?.map (·.enqueuedAt))

/-- The order of a flush: by the absolute deadline, then by the arrival. -/
def goesBefore (left right : QueuedDataFrame) : Bool :=
  if left.absoluteDeadlineNs ≠ right.absoluteDeadlineNs then
    left.absoluteDeadlineNs < right.absoluteDeadlineNs
  else left.order ≤ right.order

/-- `flush_queued_data_frames` and `flush_queued_fragment_datagrams` -/
def flush (config : RouterConfig) (r : Router A) : List RouterOutput × Router A :=
  ((r.queuedDataFrames.mergeSort goesBefore).map (fun queued =>
      r.forwardDataFrame config queued.toReceivedFrame) ++
    (r.queuedFragmentDatagrams.mergeSort fun left right => left.order ≤ right.order).map
      (fun queued => r.forwardFragmentDatagram config queued.encodedFrame queued.sourceAddress),
    { r with queuedDataFrames := [], queuedFragmentDatagrams := [] })

/-- A datagram that `recvfrom` delivers, and what the steady clock shows at the lifespan check
    and when the frame is queued. -/
structure Receipt where
  payload : Bytes
  sourceAddress : SockaddrIn
  checkedAtNs : Int64 := 0
  enqueuedAt : Int := 0
  deriving Repr, DecidableEq

/-- The question whether a fragment is held back, with the tables after it. -/
def admitFragment (policy : HoldbackPolicy A) (r : Router A) (payload fragmentId : Bytes) :
    Bool × Router A :=
  match tryParseFragmentSizeInfo payload with
  | some info =>
      if info.fragmentId ≠ [] then
        match r.fragmentAdmissionDecisions.get? info.fragmentId with
        | none =>
            let (allowed, state) := policy info.totalSize r.schedulerAdmissionState
            let remaining := info.fragmentCount - 1
            (allowed, { r with
              schedulerAdmissionState := state
              fragmentAdmissionDecisions :=
                if remaining > 0 then
                  r.fragmentAdmissionDecisions.set info.fragmentId (allowed, remaining)
                else r.fragmentAdmissionDecisions })
        | some (allowed, remaining) =>
            (allowed, { r with fragmentAdmissionDecisions :=
              if remaining - 1 = 0 then r.fragmentAdmissionDecisions.erase info.fragmentId
              else r.fragmentAdmissionDecisions.set info.fragmentId (allowed, remaining - 1) })
      else admitUnidentified
  | none => admitUnidentified
where
  admitUnidentified : Bool × Router A :=
    if fragmentId ≠ [] ∧ fragmentId ∈ r.fragmentIdsCountedForSchedulerTelemetry then
      (false, r)
    else
      let (allowed, state) := policy payload.length r.schedulerAdmissionState
      (allowed, { r with schedulerAdmissionState := state })

/-- `set.insert(id)` -/
def insertId (ids : List Bytes) (id : Bytes) : List Bytes := if id ∈ ids then ids else ids ++ [id]

/-- The first fragment of a message counts as received. -/
def countFragment (r : Router A) : Option FragmentRoute → Router A
  | some route =>
      if route.fragmentId ∈ r.fragmentIdsCountedAsReceived then r
      else { r with
        received := r.received + 1
        fragmentIdsCountedAsReceived := r.fragmentIdsCountedAsReceived ++ [route.fragmentId] }
  | none => r

/-- A fragment of a scheduled topic may be held back; every other one is forwarded. -/
def receiveFragment (config : RouterConfig) (policy : HoldbackPolicy A) (r : Router A)
    (receipt : Receipt) : List RouterOutput × Router A :=
  let route := tryParseFragmentRoute receipt.payload
  let fragmentId := (route.map FragmentRoute.fragmentId).getD []
  let fragmentTopic := (route.map FragmentRoute.topic).getD []
  let r := r.countFragment route
  let matches_ := config.schedulerWindowMs > 0 ∧ config.schedulerTopicPrefix ≠ [] ∧
    fragmentTopic ≠ [] ∧ config.schedulerTopicPrefix.isPrefixOf fragmentTopic
  if matches_ then
    let (allowed, r) := r.admitFragment policy receipt.payload fragmentId
    let counts := fragmentId = [] ∨ fragmentId ∉ r.fragmentIdsCountedForSchedulerTelemetry
    let r := { r with
      fragmentIdsCountedForSchedulerTelemetry :=
        if fragmentId = [] then r.fragmentIdsCountedForSchedulerTelemetry
        else insertId r.fragmentIdsCountedForSchedulerTelemetry fragmentId }
    if allowed then
      ([], { r with
        queuedFragmentDatagrams := r.queuedFragmentDatagrams ++ [{
          encodedFrame := receipt.payload
          sourceAddress := receipt.sourceAddress
          enqueuedAt := receipt.enqueuedAt
          order := r.nextQueueOrder
          countsAsForwardedMessage := counts
          topic := fragmentTopic }]
        nextQueueOrder := r.nextQueueOrder + 1 })
    else ([r.forwardFragmentDatagram config receipt.payload receipt.sourceAddress], r)
  else ([r.forwardFragmentDatagram config receipt.payload receipt.sourceAddress], r)

def learnTopicRoute (r : Router A) (now : Int) (advertisement : RouteAdvertisement)
    (sourceAddress : SockaddrIn) : Router A :=
  let expiresAt := now + leaseDuration advertisement.leaseMs
  if advertisement.role ≠ octets "subscriber" then r
  else { r with
    routeTable := renew
      (fun route => route.topic = advertisement.topic && route.domainId = advertisement.domainId &&
        route.address = sourceAddress)
      (fun route => { route with expiresAt })
      ⟨advertisement.topic, sourceAddress, expiresAt, advertisement.domainId⟩ r.routeTable }

def learnTopicQos (r : Router A) (now : Int) (advertisement : GraphAdvertisement) : Router A :=
  let known (lease : TopicQosLease) : Bool :=
    lease.domainId = advertisement.domainId && lease.endpointId = advertisement.endpointId
  let expiresAt := now + leaseDuration advertisement.leaseMs
  if advertisement.entityKind ≠ octets "publisher" then r
  else if advertisement.action = octets "remove" then
    { r with topicQosTable := r.topicQosTable.filter (!known ·) }
  else { r with
    topicQosTable := renew known
      (fun lease => { lease with
        topic := advertisement.topic, qos := advertisement.qos, expiresAt })
      ⟨advertisement.endpointId, advertisement.topic, advertisement.qos, expiresAt,
        advertisement.domainId⟩ r.topicQosTable }

def learnServiceRoute (r : Router A) (now : Int) (advertisement : GraphAdvertisement)
    (sourceAddress : SockaddrIn) : Router A :=
  let named (route : ServiceRoute) : Bool :=
    route.domainId = advertisement.domainId && route.endpointId = advertisement.endpointId
  let expiresAt := now + leaseDuration advertisement.leaseMs
  if advertisement.entityKind ≠ octets "service" ∧
      advertisement.entityKind ≠ octets "client" then r
  else if advertisement.action = octets "remove" then
    { r with serviceRouteTable := r.serviceRouteTable.filter (!named ·) }
  else { r with
    serviceRouteTable := renew
      (fun route => named route && route.address = sourceAddress)
      (fun route => { route with
        role := advertisement.entityKind, serviceName := advertisement.topic, expiresAt })
      ⟨advertisement.entityKind, advertisement.topic, advertisement.endpointId, sourceAddress,
        expiresAt, advertisement.domainId⟩ r.serviceRouteTable }

def learnActionRoute (r : Router A) (now : Int) (advertisement : GraphAdvertisement)
    (sourceAddress : SockaddrIn) : Router A :=
  let named (route : ActionRoute) : Bool :=
    route.domainId = advertisement.domainId && route.endpointId = advertisement.endpointId
  let expiresAt := now + leaseDuration advertisement.leaseMs
  if advertisement.entityKind ≠ octets "action_server" ∧
      advertisement.entityKind ≠ octets "action_client" then r
  else if advertisement.action = octets "remove" then
    { r with actionRouteTable := r.actionRouteTable.filter (!named ·) }
  else { r with
    actionRouteTable := renew
      (fun route => named route && route.address = sourceAddress)
      (fun route => { route with
        role := advertisement.entityKind, actionName := advertisement.topic, expiresAt })
      ⟨advertisement.entityKind, advertisement.topic, advertisement.endpointId, sourceAddress,
        expiresAt, advertisement.domainId⟩ r.actionRouteTable }

/-- Everybody who may care for an advertisement of this name. -/
def graphTargets (config : RouterConfig) (r : Router A) (advertisement : GraphAdvertisement) :
    List SockaddrIn :=
  let concerns (domainId : UInt64) (name : Bytes) : Bool :=
    name = advertisement.topic && domainId = advertisement.domainId
  appendUniquePeers config.peers (config.graphPeers ++
    (r.serviceRouteTable.filter fun route => concerns route.domainId route.serviceName).map
      ServiceRoute.address ++
    (r.actionRouteTable.filter fun route => concerns route.domainId route.actionName).map
      ActionRoute.address ++
    (r.routeTable.filter fun route => concerns route.domainId route.topic).map
      TopicRoute.address ++
    (r.publisherRouteTable.filter fun route => concerns route.domainId route.topic).map
      PublisherRoute.address)

def serviceTargets (config : RouterConfig) (r : Router A) (frame : ServiceFrame) :
    List SockaddrIn :=
  appendUniquePeers config.peers ((r.serviceRouteTable.filter fun route =>
    route.domainId = frame.domainId ∧
      (frame.role = octets "request" ∧ route.role = octets "service" ∧
        route.serviceName = frame.serviceName ∨
      frame.role = octets "response" ∧ route.role = octets "client" ∧
        route.endpointId = frame.clientEndpointId)).map ServiceRoute.address)

def actionRoleTargetsServer (role : Bytes) : Bool :=
  role = octets "goal" || role = octets "cancel"

def actionRoleTargetsClient (role : Bytes) : Bool :=
  role = octets "feedback" || role = octets "status" || role = octets "result"

def actionTargets (config : RouterConfig) (r : Router A) (frame : ActionFrame) : List SockaddrIn :=
  appendUniquePeers config.peers ((r.actionRouteTable.filter fun route =>
    route.domainId = frame.domainId ∧
      (actionRoleTargetsServer frame.role ∧ route.role = octets "action_server" ∧
        route.actionName = frame.actionName ∨
      actionRoleTargetsClient frame.role ∧ route.role = octets "action_client" ∧
        (route.endpointId = frame.endpointId ∨ route.actionName = frame.actionName))).map
    ActionRoute.address)

def ackNackTargets (config : RouterConfig) (r : Router A) (ackNack : AckNackFrame) :
    List SockaddrIn :=
  appendUniquePeers config.peers ((r.publisherRouteTable.filter fun route =>
    route.domainId = ackNack.domainId ∧ route.publisherId = ackNack.publisherId).map
    PublisherRoute.address)

def learnPublisherRoute (r : Router A) (now : Int) (received : ReceivedFrame) : Router A :=
  let expiresAt := now + leaseDuration 5000
  { r with
    publisherRouteTable := renew
      (fun route => route.publisherId = received.frame.publisherId &&
        route.domainId = received.frame.domainId && route.address = received.sourceAddress)
      (fun route => { route with topic := received.frame.topic, expiresAt })
      ⟨received.frame.publisherId, received.frame.topic, received.sourceAddress, expiresAt,
        received.frame.domainId⟩ r.publisherRouteTable }

/-- A frame that is not dropped is forwarded at once when it is urgent, is not held back or its
    topic is not scheduled; otherwise it is queued. -/
def scheduleDataFrame (config : RouterConfig) (policy : HoldbackPolicy A) (r : Router A)
    (receipt : Receipt) (received : ReceivedFrame) : List RouterOutput × Router A :=
  let frame := received.frame
  if config.schedulerWindowMs > 0 ∧ config.schedulerTopicPrefix.isPrefixOf frame.topic then
    let deadlineNs := learnedDeadlineNs r.topicQosTable frame.topic frame.domainId
    let urgent := config.schedulerUrgentDeadlineMs > 0 ∧ deadlineNs > 0 ∧
      deadlineNs.toInt ≤ config.schedulerUrgentDeadlineMs * 1000000
    let numbered := { r with nextQueueOrder := r.nextQueueOrder + 1 }
    if urgent then ([r.forwardDataFrame config received], numbered)
    else
      let (admits, state) := policy received.encodedFrame.length r.schedulerAdmissionState
      let numbered := { numbered with schedulerAdmissionState := state }
      if !admits then ([r.forwardDataFrame config received], numbered)
      else ([], { numbered with
        queuedDataFrames := r.queuedDataFrames ++ [{
          toReceivedFrame := received
          enqueuedAt := receipt.enqueuedAt
          absoluteDeadlineNs := absoluteDeadlineNsForFrame r.topicQosTable frame
          order := r.nextQueueOrder
          testRepair := wasTestDropped frame r.droppedSourceSequenceKeys }] })
  else ([r.forwardDataFrame config received], r)

/-- The branch of a decoded data frame. -/
def receiveDataFrame (config : RouterConfig) (policy : HoldbackPolicy A) (r : Router A) (now : Int)
    (receipt : Receipt) (frame : DataFrame) : List RouterOutput × Router A :=
  let received := ⟨receipt.payload, frame, receipt.sourceAddress⟩
  let r := { r with received := r.received + 1 }.learnPublisherRoute now received
  if shouldDropSourceSequenceOnce config frame r.droppedSourceSequenceKeys then
    ([.testDropped received], { r with droppedSourceSequenceKeys :=
      r.droppedSourceSequenceKeys ++ [sourceSequenceKey frame] })
  else if frameExceedsLearnedLifespan r.topicQosTable frame receipt.checkedAtNs then
    ([.qosDropped received], r)
  else r.scheduleDataFrame config policy receipt received

/-- What the loop does with a datagram. -/
def receiveDatagram (config : RouterConfig) (policy : HoldbackPolicy A) (r : Router A) (now : Int)
    (receipt : Receipt) (datagram : Datagram) : List RouterOutput × Router A :=
  let forwarded (targets : List SockaddrIn) : List RouterOutput :=
    [.datagramForwarded receipt.payload (sentTo targets receipt.sourceAddress)]
  match datagram with
  | .fragment => r.receiveFragment config policy receipt
  | .routeAdvertisement advertisement =>
      ([], r.learnTopicRoute now advertisement receipt.sourceAddress)
  | .graphAdvertisement advertisement =>
      let r := ((r.learnTopicQos now advertisement).learnServiceRoute now advertisement
        receipt.sourceAddress).learnActionRoute now advertisement receipt.sourceAddress
      (forwarded (r.graphTargets config advertisement), r)
  | .serviceFrame frame => (forwarded (r.serviceTargets config frame), r)
  | .actionFrame frame => (forwarded (r.actionTargets config frame), r)
  | .lossNotice notice =>
      (forwarded (appendUniquePeers [] (r.topicAddresses notice.domainId notice.topic)), r)
  | .ackNack ackNack => (forwarded (r.ackNackTargets config ackNack), r)
  | .dataFrame frame => r.receiveDataFrame config policy now receipt frame
  | .invalid => ([], r)

/-- A turn of the loop: the queues are flushed, nothing arrives, or a datagram does. -/
inductive Turn where
  | flushes (now : Int)
  | idles (now : Int)
  | receives (now : Int) (receipt : Receipt)
  deriving Repr, DecidableEq

def Turn.now : Turn → Int
  | .flushes now => now
  | .idles now => now
  | .receives now _ => now

/-- Whether a turn flushes is not its choice. `none` also stands for an exception of a decoder,
    which ends the process. -/
def turn (config : RouterConfig) (policy : HoldbackPolicy A) (r : Router A) (t : Turn) :
    Option (List RouterOutput × Router A) :=
  let r := r.purgeExpired t.now
  let due := r.flushDue config t.now
  match t with
  | .flushes _ => if due then some (r.flush config) else none
  | .idles _ => if due then none else some ([], r)
  | .receives now receipt =>
      if due then none
      else match decodeDatagram receipt.payload with
        | .ok datagram => some (r.receiveDatagram config policy now receipt datagram)
        | .error _ => none

end Router

end FleetRMW.Rmw
