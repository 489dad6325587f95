import FleetRMW.Lib.Decimal
import FleetRMW.Lib.Eviction
import FleetRMW.Lib.Roll
import FleetRMW.Lib.Run
import FleetRMW.Lib.Sweep
import FleetRMW.Rmw.Coherent
import FleetRMW.Rmw.Control
import FleetRMW.Rmw.Deadline
import FleetRMW.Rmw.Qos

/-! # Liveliness

A subscription keeps the publishers that it is matched with in two sets, those that are alive and
those that are not, and counts how far the sets have grown or shrunk since the application has
last asked. The publishers are those of this process and those that other processes advertise.
-/

namespace FleetRMW.Rmw

open Lib

/-! ## Policies -/

def livelinessSystemDefault : UInt32 := 0
def livelinessAutomatic : UInt32 := 1
def livelinessBestAvailable : UInt32 := 5

def qosLivelinessPolicySupported (policy : UInt32) : Bool :=
  policy = livelinessSystemDefault || policy = livelinessAutomatic ||
    policy = livelinessManualByTopic || policy = livelinessManualByNode

namespace RmwQosProfile

/-- `qos_liveliness_enabled` -/
def livelinessEnabled (qos : RmwQosProfile) : Bool := qosLivelinessPolicySupported qos.liveliness

/-- `qos_liveliness_automatic` -/
def livelinessAutomatic (qos : RmwQosProfile) : Bool :=
  qos.liveliness = Rmw.livelinessAutomatic || qos.liveliness = livelinessSystemDefault ||
    qos.liveliness = livelinessBestAvailable

/-- `qos_liveliness_manual_by_topic` -/
def livelinessManualByTopic (qos : RmwQosProfile) : Bool :=
  qos.liveliness = Rmw.livelinessManualByTopic

/-- `qos_liveliness_manual_by_node` -/
def livelinessManualByNode (qos : RmwQosProfile) : Bool :=
  qos.liveliness = Rmw.livelinessManualByNode

end RmwQosProfile

/-- `rmw_qos_policy_kind_t`, as far as it is used. -/
inductive RmwQosPolicyKind where
  | invalid
  | durability
  | deadline
  | liveliness
  | reliability
  deriving Repr, DecidableEq

section
variable (offered requested : RmwQosProfile)

def reliabilityQosIncompatible : Bool :=
  offered.reliability = reliabilityBestEffort && requested.reliability = reliabilityReliable

def durabilityQosIncompatible : Bool :=
  offered.durability = durabilityVolatile && requested.durability = durabilityTransientLocal

/-- What is promised every so often is promised too seldom. -/
def durationIncompatible (offered requested : RmwTime) : Bool :=
  let offeredNs := (qosDurationNs offered).toInt
  let requestedNs := (qosDurationNs requested).toInt
  requestedNs > 0 && (offeredNs ≤ 0 || offeredNs > requestedNs)

def deadlineQosIncompatible : Bool := durationIncompatible offered.deadline requested.deadline

def livelinessStrictnessRank (kind : UInt32) : Nat :=
  if kind = livelinessManualByTopic then 3 else if kind = livelinessManualByNode then 2 else 1

def livelinessQosIncompatible : Bool :=
  livelinessStrictnessRank offered.liveliness < livelinessStrictnessRank requested.liveliness ||
    durationIncompatible offered.livelinessLeaseDuration requested.livelinessLeaseDuration

def incompatibleQosPolicyKind : RmwQosPolicyKind :=
  if reliabilityQosIncompatible offered requested then .reliability
  else if durabilityQosIncompatible offered requested then .durability
  else if deadlineQosIncompatible offered requested then .deadline
  else if livelinessQosIncompatible offered requested then .liveliness
  else .invalid

end

def rmwQosFromGraph (qos : GraphQosProfile) : RmwQosProfile where
  history := qos.history.toUInt32
  depth := qos.depth
  reliability := qos.reliability.toUInt32
  durability := qos.durability.toUInt32
  deadline := ⟨qos.deadlineSec, qos.deadlineNsec⟩
  lifespan := ⟨qos.lifespanSec, qos.lifespanNsec⟩
  liveliness := qos.liveliness.toUInt32
  livelinessLeaseDuration := ⟨qos.livelinessLeaseDurationSec, qos.livelinessLeaseDurationNsec⟩
  avoidRosNamespaceConventions := qos.avoidRosNamespaceConventions ≠ 0

/-! ## Endpoints -/

/-- What the endpoints of a topic are matched by. -/
structure PubSubConfig where
  domainId : UInt64 := 0
  topicName : Bytes := []
  typeName : Bytes := []
  partitions : List Bytes := []
  qos : RmwQosProfile := {}
  deriving Repr, DecidableEq

/-- What a publisher of this process and one of another process have in common. -/
structure Offer extends PubSubConfig where
  lastLivelinessAssertNs : Int := 0
  livelinessAlive : Bool := false
  deriving Repr, DecidableEq

structure FleetQoxPublisherData extends Offer where
  publisherId : Bytes
  endpointId : Bytes
  /-- The address of the node. -/
  ownerNode : Nat
  livelinessLostTotalCount : Int32 := 0
  livelinessLostTotalCountChange : Int32 := 0
  deriving DecidableEq

structure RemotePubSubEndpoint extends Offer where
  publisher : Bool
  endpointId : Bytes
  expiresAtNs : Int
  nodeName : Bytes
  nodeNamespace : Bytes
  deriving Repr, DecidableEq

structure FleetQoxSubscriptionData extends PubSubConfig where
  subscriptionId : Bytes
  endpointId : Bytes
  /-- `liveliness_alive_publishers` and `liveliness_not_alive_publishers` -/
  livelinessPublishers : Roll Bytes := {}
  livelinessAliveCountChange : Int32 := 0
  livelinessNotAliveCountChange : Int32 := 0
  /-- How large the sets were when the changes were last set to zero, which the code does not
      keep. -/
  aliveAtReset : Nat := 0
  notAliveAtReset : Nat := 0
  deriving DecidableEq

/-- What `local_pubsub_match_compatible` and `remote_publisher_match_compatible` share. -/
def matchCompatible (offered requested : PubSubConfig) : Bool :=
  offered.domainId = requested.domainId && offered.topicName = requested.topicName &&
    offered.typeName = requested.typeName &&
    partitionsIntersect offered.partitions requested.partitions &&
    incompatibleQosPolicyKind offered.qos requested.qos = .invalid

def localPubsubMatchCompatible (publisher : FleetQoxPublisherData)
    (subscription : FleetQoxSubscriptionData) : Bool :=
  matchCompatible publisher.toPubSubConfig subscription.toPubSubConfig

def remotePublisherMatchCompatible (publisher : RemotePubSubEndpoint)
    (subscription : FleetQoxSubscriptionData) : Bool :=
  publisher.publisher && matchCompatible publisher.toPubSubConfig subscription.toPubSubConfig

/-- `allocate_publisher_id`; the counter has 64 bits in the code. -/
def allocatePublisherId (boundEndpoint : Bytes) (counter : Nat) : Bytes :=
  octets "fpubcpp-" ++ boundEndpoint ++ octets "-" ++ decimal counter

def allocateSubscriptionId (boundEndpoint : Bytes) (counter : Nat) : Bytes :=
  octets "fsubcpp-" ++ boundEndpoint ++ octets "-" ++ decimal counter

def endpointIdForLocalId (boundEndpoint localId : Bytes) : Bytes :=
  boundEndpoint ++ octets "|" ++ localId

def remotePubsubEndpointKey (publisher : Bool) (endpointId : Bytes) (domainId : UInt64) : Bytes :=
  decimal domainId.toNat ++ octets "|" ++
    octets (if publisher then "publisher|" else "subscription|") ++ endpointId

def remoteLivelinessPublisherId (endpoint : RemotePubSubEndpoint) : Bytes :=
  octets "remote-endpoint:" ++ decimal endpoint.domainId.toNat ++ octets ":" ++ endpoint.endpointId

def remoteEndpointDescriptorEqual (left right : RemotePubSubEndpoint) : Bool :=
  left.publisher = right.publisher && left.domainId = right.domainId &&
    left.topicName = right.topicName && left.typeName = right.typeName &&
    left.endpointId = right.endpointId && left.qos = right.qos

/-! ## One subscription -/

def saturatingI32Add (value : Int32) (delta : Int) : Int32 :=
  Int32.ofInt (max (-2 ^ 31) (min (value.toInt + delta) int32Max))

namespace FleetQoxSubscriptionData

/-- What the two functions below end with. -/
def moveLiveliness (sub : FleetQoxSubscriptionData) (roll : Roll Bytes)
    (aliveDelta notAliveDelta : Int) : FleetQoxSubscriptionData :=
  let sub := { sub with livelinessPublishers := roll }
  if aliveDelta = 0 ∧ notAliveDelta = 0 then sub
  else { sub with
    livelinessAliveCountChange := saturatingI32Add sub.livelinessAliveCountChange aliveDelta
    livelinessNotAliveCountChange :=
      saturatingI32Add sub.livelinessNotAliveCountChange notAliveDelta }

/-- `record_subscription_liveliness_change_locked` -/
def recordLivelinessChange (publisherId : Bytes) (publisherAlive : Bool)
    (sub : FleetQoxSubscriptionData) : FleetQoxSubscriptionData :=
  let roll := sub.livelinessPublishers
  if publisherId = [] then sub
  else if publisherAlive then
    let wasNotAlive := publisherId ∈ roll.absent
    let insertedAlive := publisherId ∉ roll.present
    sub.moveLiveliness (roll.mark publisherId true)
      (if insertedAlive then 1 else 0) (if wasNotAlive then -1 else 0)
  else
    let wasAlive := publisherId ∈ roll.present
    let insertedNotAlive := publisherId ∉ roll.absent
    sub.moveLiveliness (roll.mark publisherId false)
      (if wasAlive then -1 else 0) (if insertedNotAlive then 1 else 0)

/-- `record_subscription_liveliness_remove_locked` -/
def recordLivelinessRemove (publisherId : Bytes) (sub : FleetQoxSubscriptionData) :
    FleetQoxSubscriptionData :=
  let roll := sub.livelinessPublishers
  if publisherId = [] then sub
  else sub.moveLiveliness (roll.strike publisherId)
    (if publisherId ∈ roll.present then -1 else 0) (if publisherId ∈ roll.absent then -1 else 0)

/-- The part of `rmw_take_event` for `RMW_EVENT_LIVELINESS_CHANGED`. -/
def takeLivelinessChanged (sub : FleetQoxSubscriptionData) : FleetQoxSubscriptionData :=
  { sub with
    livelinessAliveCountChange := 0
    livelinessNotAliveCountChange := 0
    aliveAtReset := sub.livelinessPublishers.present.card
    notAliveAtReset := sub.livelinessPublishers.absent.card }

end FleetQoxSubscriptionData

abbrev Subscriptions := List FleetQoxSubscriptionData

/-- A loop over the subscriptions that does something to those that are matched. -/
def Subscriptions.forMatching (subs : Subscriptions) (matched : FleetQoxSubscriptionData → Bool)
    (record : FleetQoxSubscriptionData → FleetQoxSubscriptionData) : Subscriptions :=
  subs.map fun sub => if matched sub then record sub else sub

/-! ## Publishers of this process -/

namespace FleetQoxPublisherData

variable (publisher : FleetQoxPublisherData) (subs : Subscriptions)

/-- The loop over the subscriptions that follows a change of `liveliness_alive`. -/
def notify : Subscriptions :=
  subs.forMatching (localPubsubMatchCompatible publisher)
    (·.recordLivelinessChange publisher.publisherId publisher.livelinessAlive)

/-- `record_liveliness_lost_locked` -/
def recordLivelinessLost : FleetQoxPublisherData × Subscriptions :=
  if !publisher.livelinessAlive then (publisher, subs)
  else
    let publisher := { publisher with
      livelinessAlive := false
      livelinessLostTotalCount := saturatingI32Add publisher.livelinessLostTotalCount 1
      livelinessLostTotalCountChange :=
        saturatingI32Add publisher.livelinessLostTotalCountChange 1 }
    (publisher, publisher.notify subs)

/-- What `record_liveliness_assert_locked` does to the publisher and to each of its siblings. -/
def assertAt (now : Int) : FleetQoxPublisherData × Subscriptions :=
  let wasAlive := publisher.livelinessAlive
  let publisher := { publisher with lastLivelinessAssertNs := now, livelinessAlive := true }
  (publisher, if wasAlive then subs else publisher.notify subs)

/-- `record_liveliness_for_new_publisher_locked` -/
def recordLivelinessForNewPublisher : Subscriptions :=
  if !publisher.qos.livelinessEnabled then subs else publisher.notify subs

/-- The part of a pass of `qos_deadline_monitor_loop` for one publisher that is alive. -/
def monitorLiveliness (now : Int) : FleetQoxPublisherData × Subscriptions :=
  if publisher.qos.livelinessAutomatic then
    ({ publisher with lastLivelinessAssertNs := now }, subs)
  else
    let leaseNs := (qosDurationNs publisher.qos.livelinessLeaseDuration).toInt
    if leaseNs > 0 ∧ now > publisher.lastLivelinessAssertNs ∧
        now - publisher.lastLivelinessAssertNs > leaseNs then
      publisher.recordLivelinessLost subs
    else (publisher, subs)

end FleetQoxPublisherData

/-! ## Publishers of other processes -/

def remoteGraphEndpointExpiryNs (now : Int) (leaseMs : UInt64) : Int :=
  let effectiveLeaseMs : Int := if leaseMs = 0 then 5000 else leaseMs.toNat
  let maxDeltaNs := int64Max - max now 0
  if effectiveLeaseMs > maxDeltaNs / 1000000 then int64Max
  else now + effectiveLeaseMs * 1000000

namespace RemotePubSubEndpoint

variable (endpoint : RemotePubSubEndpoint) (subs : Subscriptions)

/-- The part of `record_remote_endpoint_discovered_locked` that tells the subscriptions. -/
def recordDiscovered : Subscriptions :=
  if endpoint.publisher then
    subs.forMatching
      (fun sub => sub.domainId = endpoint.domainId && sub.topicName = endpoint.topicName &&
        partitionsIntersect sub.partitions endpoint.partitions &&
        (endpoint.qos.livelinessEnabled && remotePublisherMatchCompatible endpoint sub))
      (·.recordLivelinessChange (remoteLivelinessPublisherId endpoint) endpoint.livelinessAlive)
  else subs

/-- `record_remote_endpoint_removed_locked` -/
def recordRemoved : Subscriptions :=
  if endpoint.publisher && endpoint.qos.livelinessEnabled then
    subs.forMatching (remotePublisherMatchCompatible endpoint)
      (·.recordLivelinessRemove (remoteLivelinessPublisherId endpoint))
  else subs

/-- `record_remote_publisher_liveliness_state_locked` -/
def recordLivelinessState (alive : Bool) : RemotePubSubEndpoint × Subscriptions :=
  if !endpoint.publisher || !endpoint.qos.livelinessEnabled || endpoint.livelinessAlive = alive then
    (endpoint, subs)
  else
    let endpoint := { endpoint with livelinessAlive := alive }
    (endpoint, subs.forMatching (remotePublisherMatchCompatible endpoint)
      (·.recordLivelinessChange (remoteLivelinessPublisherId endpoint) alive))

/-- The manual lease has run out. -/
def manualLeaseExpired (now : Int) : Bool :=
  let leaseNs := (qosDurationNs endpoint.qos.livelinessLeaseDuration).toInt
  endpoint.publisher && endpoint.livelinessAlive &&
    (endpoint.qos.livelinessManualByTopic || endpoint.qos.livelinessManualByNode) &&
    endpoint.lastLivelinessAssertNs > 0 &&
    (leaseNs > 0 && now > endpoint.lastLivelinessAssertNs &&
      now - endpoint.lastLivelinessAssertNs > leaseNs)

/-- What an advertisement that describes the endpoint as it is does to it. -/
def renew (expiresAtNs : Int) (isLivelinessAssert : Bool) (now : Int) :
    RemotePubSubEndpoint × Subscriptions :=
  let endpoint := { endpoint with expiresAtNs }
  if isLivelinessAssert || endpoint.qos.livelinessAutomatic then
    recordLivelinessState { endpoint with lastLivelinessAssertNs := now } subs true
  else (endpoint, subs)

/-- It shares the assertion of another one by its node. -/
def siblingOf (found : RemotePubSubEndpoint) : Bool :=
  endpoint.publisher && endpoint.endpointId ≠ found.endpointId &&
    endpoint.domainId = found.domainId && endpoint.nodeName = found.nodeName &&
    endpoint.nodeNamespace = found.nodeNamespace && endpoint.qos.livelinessManualByNode

end RemotePubSubEndpoint

/-! ## The process -/

structure PubSubBus where
  publishers : List FleetQoxPublisherData := []
  subscriptions : Subscriptions := []
  remoteEndpoints : Dict Bytes RemotePubSubEndpoint := []
  nextPublisherId : Nat := 1
  nextSubscriptionId : Nat := 1
  deriving DecidableEq

/-- The publishers that the process knows of, each under its identity. -/
def FleetQoxPublisherData.offers (publisher : FleetQoxPublisherData) : List (Bytes × Offer) :=
  [(publisher.publisherId, publisher.toOffer)]

def RemotePubSubEndpoint.offers (endpoint : RemotePubSubEndpoint) : List (Bytes × Offer) :=
  if endpoint.publisher then [(remoteLivelinessPublisherId endpoint, endpoint.toOffer)] else []

namespace PubSubBus

def offers (bus : PubSubBus) : List (Bytes × Offer) :=
  bus.publishers.flatMap (·.offers) ++ bus.remoteEndpoints.flatMap (·.2.offers)

/-- A loop over the publishers of this process. -/
def sweepPublishers (bus : PubSubBus) (here : FleetQoxPublisherData → Bool)
    (turn : FleetQoxPublisherData → Subscriptions → Option FleetQoxPublisherData × Subscriptions) :
    PubSubBus :=
  let (publishers, subscriptions) := sweepWhere here turn bus.publishers bus.subscriptions
  { bus with publishers, subscriptions }

/-- A loop over the endpoints of other processes. -/
def sweepRemote (bus : PubSubBus) (here : Bytes → RemotePubSubEndpoint → Bool)
    (turn : RemotePubSubEndpoint → Subscriptions → Option RemotePubSubEndpoint × Subscriptions) :
    PubSubBus :=
  let (remoteEndpoints, subscriptions) := sweepWhere (fun e => here e.1 e.2)
    (fun e subs =>
      let (endpoint, subs) := turn e.2 subs
      (endpoint.map (e.1, ·), subs))
    bus.remoteEndpoints bus.subscriptions
  { bus with remoteEndpoints, subscriptions }

/-- `purge_expired_remote_pubsub_endpoints_locked` -/
def purgeExpired (bus : PubSubBus) (now : Int) : PubSubBus :=
  bus.sweepRemote (fun _ endpoint => ¬endpoint.expiresAtNs > now)
    fun endpoint subs => (none, endpoint.recordRemoved subs)

/-- `expire_remote_manual_liveliness_locked` -/
def expireRemoteManual (bus : PubSubBus) (now : Int) : PubSubBus :=
  bus.sweepRemote (fun _ endpoint => endpoint.manualLeaseExpired now) fun endpoint subs =>
    let (endpoint, subs) := endpoint.recordLivelinessState subs false
    (some endpoint, subs)

/-- `record_liveliness_assert_locked` -/
def assertLiveliness (bus : PubSubBus) (publisher : FleetQoxPublisherData) (now : Int) : PubSubBus :=
  let assertOne := fun (publisher : FleetQoxPublisherData) subs =>
    let (publisher, subs) := publisher.assertAt subs now
    (some publisher, subs)
  if !publisher.qos.livelinessEnabled then bus
  else
    let bus := bus.sweepPublishers (fun p => p.publisherId = publisher.publisherId) assertOne
    if !publisher.qos.livelinessManualByNode then bus
    else bus.sweepPublishers
      (fun sibling => sibling.publisherId ≠ publisher.publisherId &&
        sibling.ownerNode = publisher.ownerNode && sibling.qos.livelinessManualByNode)
      assertOne

/-- A pass of `qos_deadline_monitor_loop`. -/
def monitor (bus : PubSubBus) (now : Int) : PubSubBus :=
  ((bus.purgeExpired now).expireRemoteManual now).sweepPublishers
    (fun publisher => publisher.livelinessAlive && publisher.qos.livelinessEnabled &&
      publisher.lastLivelinessAssertNs > 0)
    fun publisher subs =>
      let (publisher, subs) := publisher.monitorLiveliness subs now
      (some publisher, subs)

/-- The publisher that `rmw_create_publisher` makes; the profile is the one that it has been adapted
    to. -/
def newPublisher (bus : PubSubBus) (boundEndpoint : Bytes) (config : PubSubConfig) (ownerNode : Nat)
    (createdNs : Int) : FleetQoxPublisherData :=
  let publisherId := allocatePublisherId boundEndpoint bus.nextPublisherId
  { config with
    publisherId, ownerNode
    endpointId := endpointIdForLocalId boundEndpoint publisherId
    lastLivelinessAssertNs := createdNs
    livelinessAlive := true }

/-- `rmw_create_publisher` -/
def createPublisher (bus : PubSubBus) (boundEndpoint : Bytes) (config : PubSubConfig)
    (ownerNode : Nat) (createdNs now : Int) : PubSubBus :=
  let publisher := bus.newPublisher boundEndpoint config ownerNode createdNs
  let bus := bus.purgeExpired now
  { bus with
    publishers := bus.publishers ++ [publisher]
    subscriptions := publisher.recordLivelinessForNewPublisher bus.subscriptions
    nextPublisherId := bus.nextPublisherId + 1 }

/-- `record_liveliness_for_new_subscription_locked` -/
def recordLivelinessForNewSubscription (bus : PubSubBus) (sub : FleetQoxSubscriptionData) :
    FleetQoxSubscriptionData :=
  let sub := bus.publishers.foldl (fun sub publisher =>
    if publisher.qos.livelinessEnabled && localPubsubMatchCompatible publisher sub then
      sub.recordLivelinessChange publisher.publisherId publisher.livelinessAlive
    else sub) sub
  bus.remoteEndpoints.foldl (fun sub item =>
    if item.2.qos.livelinessEnabled && remotePublisherMatchCompatible item.2 sub then
      sub.recordLivelinessChange (remoteLivelinessPublisherId item.2) item.2.livelinessAlive
    else sub) sub

/-- `rmw_create_subscription` -/
def createSubscription (bus : PubSubBus) (boundEndpoint : Bytes) (config : PubSubConfig)
    (now : Int) : PubSubBus :=
  let subscriptionId := allocateSubscriptionId boundEndpoint bus.nextSubscriptionId
  let sub : FleetQoxSubscriptionData := { config with
    subscriptionId
    endpointId := endpointIdForLocalId boundEndpoint subscriptionId }
  let bus := bus.purgeExpired now
  { bus with
    subscriptions := bus.subscriptions ++ [bus.recordLivelinessForNewSubscription sub]
    nextSubscriptionId := bus.nextSubscriptionId + 1 }

/-- `rmw_destroy_publisher` -/
def destroyPublisher (bus : PubSubBus) (publisherId : Bytes) : PubSubBus :=
  bus.sweepPublishers (fun publisher => publisher.publisherId = publisherId)
    fun publisher subs => (none, Subscriptions.forMatching subs
      (localPubsubMatchCompatible publisher) (·.recordLivelinessRemove publisherId))

/-- The endpoint under the key, if there is one, goes. -/
def removeRemote (bus : PubSubBus) (key : Bytes) : PubSubBus :=
  bus.sweepRemote (fun k _ => k = key) fun endpoint subs => (none, endpoint.recordRemoved subs)

/-- There is none under the key. -/
def discoverRemote (bus : PubSubBus) (key : Bytes) (incoming : RemotePubSubEndpoint) : PubSubBus :=
  { bus with
    remoteEndpoints := bus.remoteEndpoints.set key incoming
    subscriptions := incoming.recordDiscovered bus.subscriptions }

/-- The part of `apply_remote_pubsub_event_advertisement` for a descriptor that is as before. -/
def renewRemote (bus : PubSubBus) (key : Bytes) (found : RemotePubSubEndpoint) (expiresAtNs : Int)
    (isLivelinessAssert : Bool) (now : Int) : PubSubBus :=
  let bus := bus.sweepRemote (fun k _ => k = key) fun endpoint subs =>
    let (endpoint, subs) := endpoint.renew subs expiresAtNs isLivelinessAssert now
    (some endpoint, subs)
  if isLivelinessAssert && found.qos.livelinessManualByNode then
    bus.sweepRemote (fun _ sibling => sibling.siblingOf found) fun sibling subs =>
      let (sibling, subs) :=
        RemotePubSubEndpoint.recordLivelinessState { sibling with lastLivelinessAssertNs := now }
          subs true
      (some sibling, subs)
  else bus

/-- What is known of the endpoint from the advertisement. -/
def incomingEndpoint (advertisement : GraphAdvertisement) (qos : RmwQosProfile) (now : Int) :
    RemotePubSubEndpoint :=
  let isPublisher := decide (advertisement.entityKind = octets "publisher")
  { publisher := isPublisher
    domainId := advertisement.domainId
    topicName := advertisement.topic
    typeName := advertisement.typeName
    endpointId := advertisement.endpointId
    qos
    expiresAtNs := remoteGraphEndpointExpiryNs now advertisement.leaseMs
    lastLivelinessAssertNs := now
    livelinessAlive := isPublisher && qos.livelinessEnabled
    nodeName := advertisement.nodeName
    nodeNamespace := advertisement.nodeNamespace
    partitions := decodePartitionsCsv advertisement.partitionsCsv }

/-- `apply_remote_pubsub_event_advertisement` -/
def applyRemoteAdvertisement (bus : PubSubBus) (advertisement : GraphAdvertisement)
    (qos : RmwQosProfile) (now : Int) : PubSubBus :=
  let isPublisher := decide (advertisement.entityKind = octets "publisher")
  let isSubscription := decide (advertisement.entityKind = octets "subscription")
  let isAdd := decide (advertisement.action = octets "add")
  let isRemove := decide (advertisement.action = octets "remove")
  let isLivelinessAssert := decide (advertisement.action = octets "liveliness_assert")
  if (!isPublisher && !isSubscription) || advertisement.endpointId = [] then bus
  else if !isAdd && !isRemove && !isLivelinessAssert then bus
  else if isLivelinessAssert &&
      (!isPublisher || (!qos.livelinessManualByTopic && !qos.livelinessManualByNode)) then bus
  else
    let key := remotePubsubEndpointKey isPublisher advertisement.endpointId advertisement.domainId
    let bus := (bus.purgeExpired now).expireRemoteManual now
    if isRemove then bus.removeRemote key
    else
      let incoming := incomingEndpoint advertisement qos now
      match bus.remoteEndpoints.get? key with
      | some found =>
          if remoteEndpointDescriptorEqual found incoming then
            bus.renewRemote key found incoming.expiresAtNs isLivelinessAssert now
          else (bus.removeRemote key).discoverRemote key incoming
      | none => bus.discoverRemote key incoming

def localEndpointIdExists (bus : PubSubBus) (publisher : Bool) (endpointId : Bytes) : Bool :=
  if publisher then bus.publishers.any (·.endpointId = endpointId)
  else bus.subscriptions.any (·.endpointId = endpointId)

/-- `apply_received_graph_advertisement` -/
def receiveAdvertisement (bus : PubSubBus) (advertisement : GraphAdvertisement) (now : Int) :
    PubSubBus :=
  let topicPublisher := decide (advertisement.entityKind = octets "publisher")
  let topicSubscription := decide (advertisement.entityKind = octets "subscription")
  if (topicPublisher || topicSubscription) &&
      bus.localEndpointIdExists topicPublisher advertisement.endpointId then bus
  else bus.applyRemoteAdvertisement advertisement (rmwQosFromGraph advertisement.qos) now

end PubSubBus

/-! ## Runs -/

/-- What happens in a process, each time with what the monotonic clock shows. -/
inductive PubSubEvent where
  | createPublisher (boundEndpoint : Bytes) (config : PubSubConfig) (ownerNode : Nat)
      (createdNs now : Int)
  | createSubscription (boundEndpoint : Bytes) (config : PubSubConfig) (now : Int)
  | destroyPublisher (publisherId : Bytes)
  | destroySubscription (subscriptionId : Bytes)
  /-- `rmw_fleetqox_cpp_assert_publisher_liveliness`; to publish asserts liveliness too. -/
  | assertLiveliness (publisherId : Bytes) (now : Int)
  | receiveAdvertisement (advertisement : GraphAdvertisement) (now : Int)
  | monitor (now : Int)
  | takeLivelinessChanged (subscriptionId : Bytes)
  deriving Repr, DecidableEq

namespace PubSubBus

/-- A publisher or a subscription is used only while it exists. -/
def step (bus : PubSubBus) : PubSubEvent → Option PubSubBus
  | .createPublisher boundEndpoint config ownerNode createdNs now =>
      some (bus.createPublisher boundEndpoint config ownerNode createdNs now)
  | .createSubscription boundEndpoint config now =>
      some (bus.createSubscription boundEndpoint config now)
  | .destroyPublisher publisherId =>
      if bus.publishers.any (·.publisherId = publisherId) then
        some (bus.destroyPublisher publisherId)
      else none
  | .destroySubscription subscriptionId =>
      if bus.subscriptions.any (·.subscriptionId = subscriptionId) then
        some { bus with subscriptions :=
          bus.subscriptions.filter (·.subscriptionId ≠ subscriptionId) }
      else none
  | .assertLiveliness publisherId now =>
      (bus.publishers.find? (·.publisherId = publisherId)).map fun publisher =>
        bus.assertLiveliness publisher now
  | .receiveAdvertisement advertisement now => some (bus.receiveAdvertisement advertisement now)
  | .monitor now => some (bus.monitor now)
  | .takeLivelinessChanged subscriptionId =>
      if bus.subscriptions.any (·.subscriptionId = subscriptionId) then
        some { bus with
          subscriptions := Subscriptions.forMatching bus.subscriptions
            (·.subscriptionId = subscriptionId) (·.takeLivelinessChanged) }
      else none

end PubSubBus

end FleetRMW.Rmw
