import FleetRMW.Lib.Decimal
import FleetRMW.Lib.Eviction
import FleetRMW.Lib.Run
import FleetRMW.Rmw.Control
import FleetRMW.Rmw.Sequence
import Mathlib.Data.List.Dedup

/-! # The ledger of sent frames

A publisher keeps every frame that it sends until the subscribers that were matched have
acknowledged it, so that it can be sent again. Publishing a frame first drops what is settled
or out of date of its instance and then what exceeds the history depth; feedback and waiting
settle entries, and the retransmission loop drops those that are settled.
-/

namespace FleetRMW.Rmw

open Lib

/-! ## Entries -/

/-- `rmw_time_t` -/
structure RmwTime where
  sec : UInt64 := 0
  nsec : UInt64 := 0
  deriving Repr, DecidableEq

/-- `qos_duration_ns`, which stops at the largest number. -/
def qosDurationNs (duration : RmwTime) : Int64 :=
  if duration.sec = 0 ∧ duration.nsec = 0 then 0
  else if duration.sec > UInt64.ofNat ((2 ^ 63 - 1) / 1000000000) then Int64.maxValue
  else
    let secNs := (duration.sec * 1000000000).toInt64
    let nsec := duration.nsec.toInt64
    if Int64.maxValue - secNs < nsec then Int64.maxValue else secNs + nsec

/-- What the ledger reads of a `rmw_qos_profile_t`. -/
structure LedgerQos where
  /-- `RMW_QOS_POLICY_RELIABILITY_RELIABLE` -/
  reliable : Bool := true
  /-- `RMW_QOS_POLICY_HISTORY_KEEP_LAST` -/
  keepLast : Bool := true
  depth : Nat := 0
  lifespan : RmwTime := {}
  deriving Repr, DecidableEq

def LedgerQos.historyLimit (qos : LedgerQos) : Nat := if qos.keepLast then max 1 qos.depth else 4096

/-- `now` is what the wall clock shows. -/
def frameExceedsLifespan (qos : LedgerQos) (sourceTimestampNs now : Int64) : Bool :=
  let lifespanNs := qosDurationNs qos.lifespan
  if lifespanNs ≤ 0 ∨ sourceTimestampNs ≤ 0 then false
  else now > sourceTimestampNs && now - sourceTimestampNs > lifespanNs

structure ReliableRetransmitEntry where
  encodedFrame : Bytes := []
  qos : LedgerQos := {}
  publisherId : Bytes := []
  domainId : UInt64 := 0
  sourceSequenceNumber : UInt64 := 0
  sourceTimestampNs : Int64 := 0
  lastSendNs : Int := 0
  timeoutRetransmissions : Nat := 0
  reliable : Bool := false
  acknowledged : Bool := false
  expectedAcknowledgments : Nat := 0
  acknowledgmentsObserved : Nat := 0
  /-- A `std::unordered_set`, which holds no identifier twice. -/
  pendingSubscriberIds : List Bytes := []
  pendingSubscriberMissingSinceNs : Dict Bytes Int := []
  fragmentObservedByReader : Bool := false
  fragmentTimeoutSuppressionRecorded : Bool := false
  fragmentInitialSendBatchesPending : Nat := 0
  fragmentInitialPendingSuppressionRecorded : Bool := false
  fragmentFallbackGraceDeferralRecorded : Bool := false
  instanceKey : Bytes := []
  deriving Repr, DecidableEq

abbrev RetransmitLedger := Dict Bytes ReliableRetransmitEntry

def retransmitLedgerKey (publisherId : Bytes) (sequence : UInt64) : Bytes :=
  publisherId ++ octets "|" ++ decimal sequence.toNat

/-! ## The pool of retired entries -/

def retiredRetransmitEntryPoolCap : Nat := 8

def retireRetransmitEntry (pool : List ReliableRetransmitEntry) (entry : ReliableRetransmitEntry) :
    List ReliableRetransmitEntry :=
  if pool.length < retiredRetransmitEntryPoolCap then pool ++ [entry] else pool

/-- The entry that was retired last, or a new one. -/
def takePooledRetransmitEntry (pool : List ReliableRetransmitEntry) :
    ReliableRetransmitEntry × List ReliableRetransmitEntry :=
  match pool.getLast? with
  | some entry => (entry, pool.dropLast)
  | none => ({}, pool)

/-! ## Publishing -/

structure LedgerPublisher where
  topicName : Bytes := []
  typeName : Bytes := []
  domainId : UInt64 := 0
  qos : LedgerQos := {}
  partitionsCsv : Bytes := []
  ownershipStrength : Int32 := 0

/-- The waits of the retransmission loop. -/
structure RetransmitPacing where
  timeoutNs : Int
  maxRetransmissions : Nat
  paceFragmentFallback : Bool
  fragmentFallbackIntervalNs : Int
  fragmentFallbackGraceNs : Int

/-- A process: its publishers by their identifiers, and the encoding that it is set to. -/
structure LedgerProcess where
  localRobotId : Bytes
  publishers : Bytes → LedgerPublisher
  encodeFrame : DataFrame → Bytes
  inactiveSubscriberGraceNs : Int
  pacing : RetransmitPacing

/-- What a call of `publish_payload` is given and what it finds. -/
structure Publication where
  publisherId : Bytes
  payload : Bytes
  /-- The wall clock and the steady clock. -/
  wallNowNs : Int64
  nowNs : Int
  instanceKey : Bytes
  matchedSubscriptionIds : List Bytes
  /-- What the wall clock shows when an entry's lifespan is looked at. -/
  wallAtCheck : Bytes → Int64

section
variable (process : LedgerProcess)

/-- The frame that is published under a sequence number. -/
def Publication.frame (p : Publication) (sequence : UInt64) : DataFrame where
  robotId := process.localRobotId
  topic := (process.publishers p.publisherId).topicName
  publisherId := p.publisherId
  sourceSequenceNumber := sequence
  sourceTimestampNs := p.wallNowNs
  serializedPayload := p.payload
  domainId := (process.publishers p.publisherId).domainId
  typeName := (process.publishers p.publisherId).typeName
  partitionsCsv := (process.publishers p.publisherId).partitionsCsv
  ownershipStrength := (process.publishers p.publisherId).ownershipStrength

/-- `reset_pooled_retransmit_entry` -/
def Publication.resetPooledRetransmitEntry (p : Publication) (sequence : UInt64)
    (entry : ReliableRetransmitEntry) : ReliableRetransmitEntry :=
  let publisher := process.publishers p.publisherId
  { entry with
    encodedFrame := process.encodeFrame (p.frame process sequence)
    qos := publisher.qos
    publisherId := p.publisherId
    domainId := publisher.domainId
    sourceSequenceNumber := sequence
    sourceTimestampNs := p.wallNowNs
    lastSendNs := p.nowNs
    timeoutRetransmissions := 0
    reliable := publisher.qos.reliable
    acknowledged := !publisher.qos.reliable
    expectedAcknowledgments :=
      (if publisher.qos.reliable then p.matchedSubscriptionIds else []).length
    acknowledgmentsObserved := 0
    pendingSubscriberIds := (if publisher.qos.reliable then p.matchedSubscriptionIds else []).dedup
    pendingSubscriberMissingSinceNs := []
    fragmentObservedByReader := false
    fragmentTimeoutSuppressionRecorded := false
    fragmentInitialSendBatchesPending := 0
    fragmentInitialPendingSuppressionRecorded := false
    fragmentFallbackGraceDeferralRecorded := false
    instanceKey := p.instanceKey }

/-- The entry is of the same publisher and instance. -/
def Publication.sameInstance (p : Publication) (item : Bytes × ReliableRetransmitEntry) : Bool :=
  item.2.publisherId = p.publisherId && item.2.instanceKey = p.instanceKey

/-- The entry is settled, or its lifespan has passed when it is looked at. -/
def outdated (wallAtCheck : Bytes → Int64) (item : Bytes × ReliableRetransmitEntry) : Bool :=
  item.2.acknowledged ||
    frameExceedsLifespan item.2.qos item.2.sourceTimestampNs (wallAtCheck item.1)

/-- A ledger and the pool of one publisher. -/
abbrev LedgerAndPool := RetransmitLedger × List ReliableRetransmitEntry

/-- The pass that drops the outdated entries of the instance. -/
def Publication.sweep (p : Publication) (l : LedgerAndPool) : LedgerAndPool :=
  let drops := fun item => p.sameInstance item && outdated p.wallAtCheck item
  (l.1.filter fun item => !drops item,
    ((l.1.filter drops).map Prod.snd).foldl retireRetransmitEntry l.2)

/-- `while (publisher_history_size >= history_limit)`, with the size that it starts from. -/
def Publication.evict (p : Publication) (limit : Nat) : Nat → LedgerAndPool → LedgerAndPool
  | 0, l => l
  | size + 1, l =>
      if size + 1 ≥ limit then
        match Dict.oldest (fun e => e.sourceSequenceNumber.toNat) (l.1.filter p.sameInstance) with
        | none => l
        | some (key, entry) =>
            evict p limit size (Dict.erase l.1 key, retireRetransmitEntry l.2 entry)
      else l

structure LedgerState where
  nextSourceSequence : Bytes → UInt64
  ledger : RetransmitLedger
  retired : Bytes → List ReliableRetransmitEntry
  /-- When the retransmission loop may send a whole fragmented frame next. -/
  nextFragmentFallbackNs : Int

namespace LedgerState

def start : LedgerState where
  nextSourceSequence _ := 1
  ledger := []
  retired _ := []
  nextFragmentFallbackNs := 0

/-- What `publish_payload` does to the ledger. -/
def publish (s : LedgerState) (p : Publication) : LedgerState :=
  let sequence := s.nextSourceSequence p.publisherId
  let swept := p.sweep (s.ledger, s.retired p.publisherId)
  let (ledger, pool) := p.evict (process.publishers p.publisherId).qos.historyLimit
    (swept.1.countP p.sameInstance) swept
  let (entry, pool) := takePooledRetransmitEntry pool
  { s with
    nextSourceSequence := Function.update s.nextSourceSequence p.publisherId (sequence + 1)
    ledger := ledger.set (retransmitLedgerKey p.publisherId sequence)
      (p.resetPooledRetransmitEntry process sequence entry)
    retired := Function.update s.retired p.publisherId pool }

end LedgerState

/-! ## Feedback and waiting -/

/-- What feedback does to one entry. -/
def ReliableRetransmitEntry.observeAckNack (ackNack : AckNackFrame)
    (state : ReliableRetransmitEntry) : ReliableRetransmitEntry :=
  if !state.reliable ∨ state.publisherId ≠ ackNack.publisherId ∨
      state.domainId ≠ ackNack.domainId then state
  else if ackNackAcknowledgesSequence ackNack state.sourceSequenceNumber then
    if ackNack.subscriberId ≠ [] then
      let pending := state.pendingSubscriberIds.erase ackNack.subscriberId
      { state with
        acknowledgmentsObserved := state.acknowledgmentsObserved +
          if ackNack.subscriberId ∈ state.pendingSubscriberIds then 1 else 0
        pendingSubscriberIds := pending
        acknowledged := pending.isEmpty }
    else if state.pendingSubscriberIds.length = 1 then
      { state with
        acknowledgmentsObserved := state.acknowledgmentsObserved + 1
        pendingSubscriberIds := []
        acknowledged := true }
    else { state with acknowledged := state.pendingSubscriberIds.isEmpty }
  else state

/-- Do something to every entry. -/
def RetransmitLedger.mapEntries (ledger : RetransmitLedger)
    (f : ReliableRetransmitEntry → ReliableRetransmitEntry) : RetransmitLedger :=
  ledger.map fun item => (item.1, f item.2)

/-- What `handle_ack_nack_feedback` does to the ledger. -/
def LedgerState.handleAckNackFeedback (s : LedgerState) (encodedFrame : Bytes) : LedgerState :=
  match decodeAckNack encodedFrame with
  | .ok (some ackNack) =>
      if ackNack.robotId ≠ process.localRobotId then s
      else { s with ledger := s.ledger.mapEntries (·.observeAckNack ackNack) }
  | _ => s

/-- The loop over the subscribers that have not acknowledged an entry: those left, and since
    when each has been missing. -/
def prunePending (active : List Bytes) (now grace : Int) :
    List Bytes → Dict Bytes Int → List Bytes × Dict Bytes Int
  | [], missing => ([], missing)
  | id :: ids, missing =>
      if id ∈ active then
        let (left, missing) := prunePending active now grace ids (missing.erase id)
        (id :: left, missing)
      else
        match missing.get? id with
        | none =>
            let (left, missing) := prunePending active now grace ids (missing.set id now)
            (id :: left, missing)
        | some since =>
            if now - since < grace then
              let (left, missing) := prunePending active now grace ids missing
              (id :: left, missing)
            else prunePending active now grace ids (missing.erase id)

/-- A poll of `wait_for_all_acked_impl`. -/
structure WaitPoll where
  publisherId : Bytes
  targetSequence : UInt64
  activeSubscribers : List Bytes
  nowNs : Int

/-- The entry is among those that the poll looks at. -/
def WaitPoll.covers (poll : WaitPoll) (publisherId : Bytes) (sequence : UInt64) : Prop :=
  poll.publisherId = publisherId ∧ sequence ≤ poll.targetSequence

instance (poll : WaitPoll) (publisherId : Bytes) (sequence : UInt64) :
    Decidable (poll.covers publisherId sequence) :=
  inferInstanceAs (Decidable (_ ∧ _))

/-- What a poll does to one entry. -/
def ReliableRetransmitEntry.poll (poll : WaitPoll) (entry : ReliableRetransmitEntry) :
    ReliableRetransmitEntry :=
  if entry.reliable ∧ poll.covers entry.publisherId entry.sourceSequenceNumber then
    let (pending, missing) := prunePending poll.activeSubscribers poll.nowNs
      process.inactiveSubscriberGraceNs entry.pendingSubscriberIds
      entry.pendingSubscriberMissingSinceNs
    { entry with
      pendingSubscriberIds := pending
      pendingSubscriberMissingSinceNs := missing
      acknowledged := pending.isEmpty }
  else entry

/-! ## The retransmission loop -/

/-- What a pass over the ledger has found so far. -/
structure RetransmitPass where
  fragmentFallbackScheduled : Bool := false
  nextFragmentFallbackNs : Int
  pending : List (Bytes × LedgerQos) := []

/-- One entry that is still waiting to be acknowledged. -/
def ReliableRetransmitEntry.retransmit (pacing : RetransmitPacing) (now : Int)
    (pass : RetransmitPass) (entry : ReliableRetransmitEntry) :
    RetransmitPass × ReliableRetransmitEntry :=
  if !entry.reliable ∨ entry.timeoutRetransmissions ≥ pacing.maxRetransmissions then (pass, entry)
  else if now - entry.lastSendNs < pacing.timeoutNs then (pass, entry)
  else if entry.fragmentInitialSendBatchesPending > 0 then
    (pass, { entry with fragmentInitialPendingSuppressionRecorded := true })
  else if entry.fragmentObservedByReader then
    (pass, { entry with fragmentTimeoutSuppressionRecorded := true })
  else if pacing.paceFragmentFallback ∧ now - entry.lastSendNs < pacing.fragmentFallbackGraceNs then
    (pass, { entry with fragmentFallbackGraceDeferralRecorded := true })
  else if pacing.paceFragmentFallback ∧
      (pass.fragmentFallbackScheduled ∨ now < pass.nextFragmentFallbackNs) then
    (pass, entry)
  else
    let sent := { pass with pending := pass.pending ++ [(entry.encodedFrame, entry.qos)] }
    (if pacing.paceFragmentFallback then
        { sent with
          fragmentFallbackScheduled := true
          nextFragmentFallbackNs := now + pacing.fragmentFallbackIntervalNs }
      else sent,
      { entry with
        lastSendNs := now
        timeoutRetransmissions := entry.timeoutRetransmissions + 1
        fragmentInitialPendingSuppressionRecorded := false
        fragmentFallbackGraceDeferralRecorded := false })

/-- The loop over the ledger, which drops what is outdated. -/
def retransmitEntries (pacing : RetransmitPacing) (now : Int) (wallAtCheck : Bytes → Int64) :
    RetransmitPass → RetransmitLedger → RetransmitPass × RetransmitLedger
  | pass, [] => (pass, [])
  | pass, item :: rest =>
      if outdated wallAtCheck item then retransmitEntries pacing now wallAtCheck pass rest
      else
        let (pass, entry) := item.2.retransmit pacing now pass
        let (pass, rest) := retransmitEntries pacing now wallAtCheck pass rest
        (pass, (item.1, entry) :: rest)

/-! ## Runs -/

inductive LedgerEvent where
  | publish (p : Publication)
  | feedback (encodedFrame : Bytes)
  | wait (poll : WaitPoll)
  | retransmit (now : Int) (wallAtCheck : Bytes → Int64)

/-- A publisher that has used up its sequence numbers publishes nothing more. -/
def LedgerState.step (s : LedgerState) : LedgerEvent → Option LedgerState
  | .publish p =>
      if s.nextSourceSequence p.publisherId = 0 then none else some (s.publish process p)
  | .feedback encodedFrame => some (s.handleAckNackFeedback process encodedFrame)
  | .wait poll => some { s with ledger := s.ledger.mapEntries (·.poll process poll) }
  | .retransmit now wallAtCheck =>
      let (pass, ledger) := retransmitEntries process.pacing now wallAtCheck
        { nextFragmentFallbackNs := s.nextFragmentFallbackNs } s.ledger
      some { s with ledger, nextFragmentFallbackNs := pass.nextFragmentFallbackNs }

/-- The feedback that arrives names its subscriber. -/
def LedgerEvent.NamesSubscriber : LedgerEvent → Prop
  | .feedback encodedFrame => ∀ ackNack, decodeAckNack encodedFrame = .ok (some ackNack) →
      ackNack.subscriberId ≠ []
  | _ => True

/-! ## What releases a frame

`p` is published under `sequence`, and `later` lists the events since.
-/

/-- The subscriber's feedback acknowledges the frame. -/
def LedgerEvent.Acknowledges (p : Publication) (sequence : UInt64) (id : Bytes) :
    LedgerEvent → Prop
  | .feedback encodedFrame => ∃ ackNack, decodeAckNack encodedFrame = .ok (some ackNack) ∧
      ackNack.robotId = process.localRobotId ∧ ackNack.publisherId = p.publisherId ∧
      ackNack.domainId = (process.publishers p.publisherId).domainId ∧
      ackNack.subscriberId = id ∧ ackNackAcknowledgesSequence ackNack sequence = true
  | _ => False

def LedgerEvent.Covers (p : Publication) (sequence : UInt64) : LedgerEvent → Prop
  | .wait poll => poll.covers p.publisherId sequence
  | _ => False

/-- A poll that looks at the frame does not find the subscriber. -/
def LedgerEvent.Misses (p : Publication) (sequence : UInt64) (id : Bytes) : LedgerEvent → Prop
  | .wait poll => poll.covers p.publisherId sequence → id ∉ poll.activeSubscribers
  | _ => True

/-- The frame's lifespan has passed when the event looks at its entry. -/
def LedgerEvent.FindsExpired (p : Publication) (sequence : UInt64) (e : LedgerEvent) : Prop :=
  let expired := fun wallAtCheck : Bytes → Int64 =>
    frameExceedsLifespan (process.publishers p.publisherId).qos p.wallNowNs
      (wallAtCheck (retransmitLedgerKey p.publisherId sequence)) = true
  match e with
  | .publish q =>
      q.publisherId = p.publisherId ∧ q.instanceKey = p.instanceKey ∧ expired q.wallAtCheck
  | .retransmit _ wallAtCheck => expired wallAtCheck
  | _ => False

/-- The event publishes a frame of the same publisher and instance. -/
def LedgerEvent.republishes (p : Publication) : LedgerEvent → Bool
  | .publish q => q.publisherId = p.publisherId && q.instanceKey = p.instanceKey
  | _ => false

variable (p : Publication) (sequence : UInt64)

/-- A poll found the subscriber missing at this time, and so has each one since that looked at
    the frame. -/
def MissingSince (id : Bytes) (since : Int) (later : List LedgerEvent) : Prop :=
  ∃ before rest poll, later = before ++ .wait poll :: rest ∧ poll.nowNs = since ∧
    poll.covers p.publisherId sequence ∧
    ∀ e ∈ LedgerEvent.wait poll :: rest, e.Misses p sequence id

/-- A poll found the subscriber missing, and it had been missing for the whole grace period. -/
def Pruned (id : Bytes) (later : List LedgerEvent) : Prop :=
  ∃ before rest poll since, later = before ++ .wait poll :: rest ∧
    poll.covers p.publisherId sequence ∧ id ∉ poll.activeSubscribers ∧
    MissingSince p sequence id since before ∧
    ¬poll.nowNs - since < process.inactiveSubscriberGraceNs

/-- Nothing more is expected of the subscriber. -/
def SubscriberDone (later : List LedgerEvent) (id : Bytes) : Prop :=
  (∃ e ∈ later, e.Acknowledges process p sequence id) ∨ Pruned process p sequence id later

/-- Some acknowledging feedback has arrived, or a poll has looked at the frame. -/
def Looked (later : List LedgerEvent) : Prop :=
  ∃ e ∈ later, (∃ id, e.Acknowledges process p sequence id) ∨ e.Covers p sequence

/-- What may take the frame out of the ledger. -/
inductive Released (later : List LedgerEvent) : Prop where
  | expired (passed : ∃ e ∈ later, e.FindsExpired process p sequence)
  | superseded (newer : (process.publishers p.publisherId).qos.historyLimit ≤
      later.countP (·.republishes p))
  | settled (all : ∀ id ∈ p.matchedSubscriptionIds, SubscriberDone process p sequence later id)
      (none_ : p.matchedSubscriptionIds = [] → Looked process p sequence later)

end

end FleetRMW.Rmw
