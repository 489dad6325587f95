import FleetRMW.Rmw.DataFrame
import FleetRMW.Rmw.Ledger
import Mathlib.Data.List.Sort

/-! # Coherent sets

Between `begin_coherent_changes` and `end_coherent_changes` the publishers of a group keep their
frames back; the end sends them as one set, numbered, and a receiver holds the frames of a set
until as many have arrived as the set has. The ledger takes every frame when it is published,
as it is then, and the retransmission loop sends it from there.
-/

namespace FleetRMW.Rmw

open Lib

/-! ## The publishing process -/

/-- A publisher's part in the PRESENTATION extension. -/
structure Presentation where
  coherentAccess : Bool := false
  groupId : Bytes := []

structure CoherentProcess extends LedgerProcess where
  presentation : Bytes → Presentation

/-- A set that has been sent; the members are in the order of their indices. -/
structure CoherentSet where
  id : Bytes
  members : List DataFrame

/-- The members of a set from the frames that were kept back. -/
def tagMembers (id : Bytes) (pending : List DataFrame) : List DataFrame :=
  pending.mapIdx fun index frame => { frame with
    coherentSetId := id
    coherentSetTotal := UInt32.ofNat pending.length
    coherentSetIndex := UInt32.ofNat index }

/-- The entry would be sent by a pass, unless the pass has sent another that bars it. -/
def ReliableRetransmitEntry.due (pacing : RetransmitPacing) (now : Int)
    (entry : ReliableRetransmitEntry) : Prop :=
  entry.reliable = true ∧ entry.timeoutRetransmissions < pacing.maxRetransmissions ∧
    ¬now - entry.lastSendNs < pacing.timeoutNs ∧ entry.fragmentInitialSendBatchesPending = 0 ∧
    entry.fragmentObservedByReader = false ∧
    ¬(pacing.paceFragmentFallback = true ∧ now - entry.lastSendNs < pacing.fragmentFallbackGraceNs)

/-! ## Subscriptions -/

/-- The pieces between the commas, one more than there are commas. -/
def splitCommas : Bytes → List Bytes
  | [] => [[]]
  | c :: text =>
      if c = 44 then [] :: splitCommas text
      else match splitCommas text with
        | [] => [[c]]
        | piece :: pieces => (c :: piece) :: pieces

def decodePartitionsCsv (csv : Bytes) : List Bytes := if csv = [] then [] else splitCommas csv

def partitionsIntersect (left right : List Bytes) : Bool :=
  if left = [] ∧ right = [] then true
  else if left = [] then right.contains []
  else if right = [] then left.contains []
  else left.any right.contains

def streamKey (frame : DataFrame) : Bytes :=
  frame.robotId ++ octets "|" ++ frame.topic ++ octets "|" ++ frame.publisherId

/-- What a subscription is set to. -/
structure SubscriptionConfig where
  domainId : UInt64 := 0
  topicName : Bytes := []
  typeName : Bytes := []
  partitions : List Bytes := []
  /-- `subscribe_allowed_by_security_policy` -/
  allowedByPolicy : Bool := true
  exclusiveOwnership : Bool := false
  /-- The content filter on a payload. -/
  contentFilter : Bytes → Bool := fun _ => true
  qos : LedgerQos := {}

def SubscriptionConfig.matchesFrame (c : SubscriptionConfig) (frame : DataFrame) : Bool :=
  c.domainId = frame.domainId && c.topicName = frame.topic &&
    (frame.typeName = [] || c.typeName = frame.typeName) &&
    partitionsIntersect c.partitions (decodePartitionsCsv frame.partitionsCsv) && c.allowedByPolicy

/-- The frame is for the subscription and passes its filter. -/
def SubscriptionConfig.takes (c : SubscriptionConfig) (frame : DataFrame) : Bool :=
  c.matchesFrame frame && c.contentFilter frame.serializedPayload

structure CoherentSubscription where
  config : SubscriptionConfig
  exclusiveOwnerKey : Bytes := []
  exclusiveOwnerStrength : Int32 := 0
  exclusiveOwnerLastSeenNs : Int := 0
  sequenceStates : Dict Bytes SequenceState := []
  /-- The frames that have been put into the queue, in this order. -/
  enqueued : List DataFrame := []

/-- What a delivery goes by: when it takes place, and what the wall clock shows when a frame's
    lifespan is looked at. -/
structure DeliveryTimes where
  receiveNs : Int
  wallAtCheck : DataFrame → Int64

namespace CoherentSubscription

def exclusiveOwnershipTimeoutNs : Int := 1500000000

def ownershipAdmitsDelivery (sub : CoherentSubscription) (frame : DataFrame) (receiveNs : Int) :
    Bool × CoherentSubscription :=
  if !sub.config.exclusiveOwnership then (true, sub)
  else
    let ownerKey := frame.robotId ++ octets "|" ++ frame.publisherId
    let ownerStale := sub.exclusiveOwnerKey ≠ [] ∧
      receiveNs - sub.exclusiveOwnerLastSeenNs > exclusiveOwnershipTimeoutNs
    if sub.exclusiveOwnerKey = [] ∨ sub.exclusiveOwnerKey = ownerKey ∨
        frame.ownershipStrength > sub.exclusiveOwnerStrength ∨ ownerStale then
      (true, { sub with
        exclusiveOwnerKey := ownerKey
        exclusiveOwnerStrength := frame.ownershipStrength
        exclusiveOwnerLastSeenNs := receiveNs })
    else (false, sub)

/-- The stream's state with the frame observed, and whether it had been observed before. A
    stream's first frame is no repetition. -/
def observe (sub : CoherentSubscription) (frame : DataFrame) : Bool × CoherentSubscription :=
  let state := (sub.sequenceStates.get? (streamKey frame)).getD {}
  let (feedback, observed) := observeFrame state frame
  let (feedback, observed) :=
    if !state.receptionSequenceBaselineInitialized then establishReceptionSequenceBaseline observed
    else (feedback, observed)
  (feedback.duplicate,
    { sub with sequenceStates := sub.sequenceStates.set (streamKey frame) observed })

/-- One subscription's turn in `deliver_decoded_frame_to_subscriptions_locked`. -/
def deliver (times : DeliveryTimes) (sub : CoherentSubscription) (frame : DataFrame) :
    CoherentSubscription :=
  if !sub.config.matchesFrame frame then sub
  else
    match sub.ownershipAdmitsDelivery frame times.receiveNs with
    | (false, sub) => sub
    | (true, sub) =>
        let (duplicate, sub) := sub.observe frame
        if duplicate then sub
        else if !sub.config.contentFilter frame.serializedPayload then sub
        else if frameExceedsLifespan sub.config.qos frame.sourceTimestampNs
            (times.wallAtCheck frame) then sub
        else { sub with enqueued := sub.enqueued ++ [frame] }

end CoherentSubscription

/-! ## The receiving process -/

structure CoherentReceiver where
  subscriptions : List CoherentSubscription
  /-- `g_coherent_receive_buffers` -/
  receiveBuffers : Dict Bytes (List DataFrame) := []
  /-- The sets whose frames have been handed to the subscriptions. -/
  released : List Bytes := []

namespace CoherentReceiver

def deliverDecodedFrame (times : DeliveryTimes) (subscriptions : List CoherentSubscription)
    (frame : DataFrame) : List CoherentSubscription :=
  subscriptions.map fun sub => sub.deliver times frame

/-- What `enqueue_received_frame` does with a frame that it has decoded. -/
def enqueueFrame (times : DeliveryTimes) (r : CoherentReceiver) (frame : DataFrame) :
    CoherentReceiver :=
  if frame.coherentSetId = [] then
    { r with subscriptions := deliverDecodedFrame times r.subscriptions frame }
  else
    let pending := (r.receiveBuffers.get? frame.coherentSetId).getD [] ++ [frame]
    if pending.length < max frame.coherentSetTotal.toNat 1 then
      { r with receiveBuffers := r.receiveBuffers.set frame.coherentSetId pending }
    else
      let readySet := pending.insertionSort fun l r => l.coherentSetIndex ≤ r.coherentSetIndex
      { subscriptions := readySet.foldl (deliverDecodedFrame times) r.subscriptions
        receiveBuffers := r.receiveBuffers.erase frame.coherentSetId
        released := frame.coherentSetId :: r.released }

def enqueueReceivedFrame (times : DeliveryTimes) (r : CoherentReceiver) (encodedFrame : Bytes) :
    CoherentReceiver :=
  match decodeDataFrame none encodedFrame with
  | .ok (some frame) => r.enqueueFrame times frame
  | _ => r

end CoherentReceiver

/-! ## Runs -/

/-- Both processes and what has been put on the wire. -/
structure CoherentRun where
  sender : LedgerState
  activeGroups : List Bytes
  /-- `g_coherent_publish_pending` -/
  publishPending : Dict Bytes (List DataFrame)
  coherentSetSequence : Nat
  wire : List Bytes
  receiver : CoherentReceiver
  /-- What has been published, and the sets that have been sent. -/
  published : List DataFrame
  sets : List CoherentSet

inductive CoherentEvent where
  | beginCoherentChanges (publisherId : Bytes)
  | publish (p : Publication)
  | endCoherentChanges (publisherId : Bytes)
  | retransmit (now : Int) (wallAtCheck : Bytes → Int64)
  /-- A datagram that has been sent arrives, perhaps once more. -/
  | deliver (datagram : Bytes) (times : DeliveryTimes)

namespace CoherentRun

variable (process : CoherentProcess)

def start (subscriptions : List SubscriptionConfig) : CoherentRun where
  sender := .start
  activeGroups := []
  publishPending := []
  coherentSetSequence := 0
  wire := []
  receiver := { subscriptions := subscriptions.map fun config => { config } }
  published := []
  sets := []

def beginCoherentChanges (s : CoherentRun) (publisherId : Bytes) : CoherentRun :=
  let group := (process.presentation publisherId).groupId
  if group = [] then s
  else { s with activeGroups := s.activeGroups.insert group }

/-- `publish_payload` -/
def publish (s : CoherentRun) (p : Publication) : CoherentRun :=
  let frame := p.frame process.toLedgerProcess (s.sender.nextSourceSequence p.publisherId)
  let presentation := process.presentation p.publisherId
  let recorded := { s with
    sender := s.sender.publish process.toLedgerProcess p
    published := s.published ++ [frame] }
  if presentation.coherentAccess ∧ presentation.groupId ≠ [] ∧
      presentation.groupId ∈ s.activeGroups then
    { recorded with
      publishPending := s.publishPending.set presentation.groupId
        ((s.publishPending.get? presentation.groupId).getD [] ++ [frame]) }
  else { recorded with wire := s.wire ++ [process.encodeFrame frame] }

def coherentSetId (s : CoherentRun) (group : Bytes) : Bytes :=
  process.localRobotId ++ octets "|" ++ group ++ octets "|" ++ decimal s.coherentSetSequence

def endCoherentChanges (s : CoherentRun) (publisherId : Bytes) : CoherentRun :=
  let group := (process.presentation publisherId).groupId
  let pending := (s.publishPending.get? group).getD []
  let ended := { s with
    activeGroups := s.activeGroups.erase group
    publishPending := s.publishPending.erase group }
  if pending = [] then ended
  else
    let members := tagMembers (s.coherentSetId process group) pending
    { ended with
      coherentSetSequence := s.coherentSetSequence + 1
      wire := s.wire ++ members.map encodeDataFrame
      sets := s.sets ++ [⟨s.coherentSetId process group, members⟩] }

/-- A pass of `reliable_retransmit_loop`. -/
def retransmit (s : CoherentRun) (now : Int) (wallAtCheck : Bytes → Int64) : CoherentRun :=
  let (pass, ledger) := retransmitEntries process.pacing now wallAtCheck
    { nextFragmentFallbackNs := s.sender.nextFragmentFallbackNs } s.sender.ledger
  { s with
    sender := { s.sender with ledger, nextFragmentFallbackNs := pass.nextFragmentFallbackNs }
    wire := s.wire ++ pass.pending.map Prod.fst }

def step (s : CoherentRun) : CoherentEvent → Option CoherentRun
  | .beginCoherentChanges publisherId => some (s.beginCoherentChanges process publisherId)
  | .publish p =>
      if s.sender.nextSourceSequence p.publisherId = 0 then none else some (s.publish process p)
  | .endCoherentChanges publisherId => some (s.endCoherentChanges process publisherId)
  | .retransmit now wallAtCheck => some (s.retransmit process now wallAtCheck)
  | .deliver datagram times =>
      if datagram ∈ s.wire then
        some { s with receiver := s.receiver.enqueueReceivedFrame times datagram }
      else none

/-! ## Atomicity -/

/-- Two frames with the same sample are copies of one publication. -/
def sample (frame : DataFrame) : Bytes × UInt64 := (frame.publisherId, frame.sourceSequenceNumber)

/-- The frame is a copy of a member, with or without the set's data. -/
def ofSet (set : CoherentSet) (frame : DataFrame) : Bool := sample frame ∈ set.members.map sample

/-- The frames that are kept back until the end of their span. -/
def keptBack (s : CoherentRun) : List DataFrame := s.publishPending.flatMap Prod.snd

/-- Of the set's frames none has reached a subscription's queue, or each of those that the
    subscription takes has, once and in the order of the indices. -/
def Atomic (s : CoherentRun) (set : CoherentSet) : Prop :=
  (∀ sub ∈ s.receiver.subscriptions, sub.enqueued.filter (ofSet set) = []) ∨
    ∀ sub ∈ s.receiver.subscriptions,
      sub.enqueued.filter (ofSet set) = set.members.filter sub.config.takes

/-- No datagram on the wire is a copy of a frame that is kept back. -/
def HeldBack (s : CoherentRun) : Prop :=
  ∀ datagram ∈ s.wire, ∀ frame, decodeDataFrame none datagram = .ok (some frame) →
    ∀ kept ∈ s.keptBack, sample frame ≠ sample kept

/-! ## The condition -/

/-- The frame is kept back, or its set has not been released yet. -/
def Unreleased (s : CoherentRun) (sampleOf : Bytes × UInt64) : Prop :=
  (∃ kept ∈ s.keptBack, sample kept = sampleOf) ∨
    ∃ set ∈ s.sets, set.id ∉ s.receiver.released ∧ ∃ m ∈ set.members, sample m = sampleOf

/-- Every frame that is sent is read as it was; no member is retransmitted from the ledger before
    its set is released; and no copy of a member arrives while one is buffered before that, nor
    does a subscription turn a member away for its owner or its age. -/
def Undisturbed (s : CoherentRun) : CoherentEvent → Prop
  | .beginCoherentChanges _ => True
  | .publish p =>
      124 ∉ p.publisherId ∧
        let frame := p.frame process.toLedgerProcess (s.sender.nextSourceSequence p.publisherId)
        decodeDataFrame none (process.encodeFrame frame) = .ok (some frame)
  | .endCoherentChanges publisherId =>
      let group := (process.presentation publisherId).groupId
      let pending := (s.publishPending.get? group).getD []
      pending.length < 2 ^ 32 ∧ ∀ m ∈ tagMembers (s.coherentSetId process group) pending,
        decodeDataFrame none (encodeDataFrame m) = .ok (some m)
  | .retransmit now wallAtCheck => ∀ item ∈ s.sender.ledger,
      s.Unreleased (item.2.publisherId, item.2.sourceSequenceNumber) →
        outdated wallAtCheck item = true ∨ ¬item.2.due process.pacing now
  | .deliver datagram times => ∀ frame, decodeDataFrame none datagram = .ok (some frame) →
      frame.coherentSetId = [] ∨ frame.coherentSetId ∈ s.receiver.released ∨
        let buffered := (s.receiver.receiveBuffers.get? frame.coherentSetId).getD []
        frame ∉ buffered ∧ ∀ sub ∈ s.receiver.subscriptions, ∀ m ∈ frame :: buffered,
          sub.config.matchesFrame m = true → sub.config.exclusiveOwnership = false ∧
            frameExceedsLifespan sub.config.qos m.sourceTimestampNs (times.wallAtCheck m) = false

end CoherentRun

end FleetRMW.Rmw
