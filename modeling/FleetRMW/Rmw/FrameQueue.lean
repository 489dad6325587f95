import FleetRMW.Lib.ArrivalQueue
import FleetRMW.Rmw.Compact
import FleetRMW.Rmw.Subscriptions

/-! # A subscription's queue

What a subscription admits goes into its queue in the order of its DESTINATION_ORDER, and from
there to the application that takes it. On the way a frame can outlive its lifespan or be pushed
out by newer ones; then it is reported as lost.
-/

namespace FleetRMW.Rmw

open Lib

inductive DestinationOrderKind where
  | byReceptionTimestamp
  | bySourceTimestamp
  deriving DecidableEq

structure QueuedSubscription extends CoherentSubscription where
  destinationOrder : DestinationOrderKind := .byReceptionTimestamp
  frameQueue : List Bytes := []
  messageLostTotalCount : Nat := 0
  messageLostTotalCountChange : Nat := 0
  nextReceptionSequence : UInt64 := 1
  /-- The frames that were new and passed the filter, and those that were returned by a take. -/
  admitted : List DataFrame := []
  returned : List DataFrame := []

/-- What of `rmw_message_info_t` a take fills in from the frame, the clock and its own count. -/
structure MessageInfo where
  sourceTimestamp : Int64
  receivedTimestamp : Int64
  publicationSequenceNumber : UInt64
  receptionSequenceNumber : UInt64

inductive TakeResult where
  | taken (payload : Bytes) (info : Option MessageInfo)
  | nothing
  | failed

def TakeResult.payload? : TakeResult → Option Bytes
  | .taken payload _ => some payload
  | _ => none

/-- What a take goes by: what the wall clock shows, and whether the caller wants the info. -/
structure TakeTimes where
  wallAtCheck : DataFrame → Int64
  wallAtReturn : Int64
  withInfo : Bool

/-- The frame of an entry of the queue. -/
def decodeQueued (encodedFrame : Bytes) : Option DataFrame :=
  match decodeDataFrame none encodedFrame with
  | .ok frame => frame
  | .error _ => none

def saturatingSizeAdd (value delta : Nat) : Nat := min (value + delta) maxCount

/-- The queued frame is not later than the time. -/
def notLater (sourceTimestampNs : Int64) (candidate : Option DataFrame) : Bool :=
  candidate.any fun frame => frame.sourceTimestampNs ≤ sourceTimestampNs

namespace QueuedSubscription

def recordSubscriptionMessageLost (sub : QueuedSubscription) (count : Nat) : QueuedSubscription :=
  if count = 0 then sub
  else { sub with
    messageLostTotalCount := saturatingSizeAdd sub.messageLostTotalCount count
    messageLostTotalCountChange := saturatingSizeAdd sub.messageLostTotalCountChange count }

def enqueueFrameRespectingDestinationOrder (sub : QueuedSubscription) (encodedFrame : Bytes)
    (sourceTimestampNs : Int64) : QueuedSubscription :=
  if sub.destinationOrder ≠ .bySourceTimestamp then
    { sub with frameQueue := sub.frameQueue ++ [encodedFrame] }
  else
    let stop := fun queued => notLater sourceTimestampNs (decodeQueued queued)
    { sub with frameQueue := insertBehind stop encodedFrame sub.frameQueue }

def enforceSubscriptionDepth (sub : QueuedSubscription) : QueuedSubscription :=
  if !sub.config.qos.keepLast ∨ sub.config.qos.depth = 0 then sub
  else
    let kept := popWhileLonger sub.config.qos.depth sub.frameQueue
    { sub with frameQueue := kept }.recordSubscriptionMessageLost
      (sub.frameQueue.length - kept.length)

/-- One subscription's turn in `deliver_decoded_frame_to_subscriptions_locked`. -/
def deliverFrame (times : DeliveryTimes) (sub : QueuedSubscription) (encodedFrame : Bytes)
    (frame : DataFrame) : QueuedSubscription :=
  if !sub.config.matchesFrame frame then sub
  else
    match sub.toCoherentSubscription.ownershipAdmitsDelivery frame times.receiveNs with
    | (false, base) => { sub with toCoherentSubscription := base }
    | (true, base) =>
        let (duplicate, base) := base.observe frame
        let sub := { sub with toCoherentSubscription := base }
        if duplicate then sub
        else if !sub.config.contentFilter frame.serializedPayload then sub
        else
          let sub := { sub with admitted := sub.admitted ++ [frame] }
          if frameExceedsLifespan sub.config.qos frame.sourceTimestampNs
              (times.wallAtCheck frame) then sub.recordSubscriptionMessageLost 1
          else
            let sub := { sub with enqueued := sub.enqueued ++ [frame] }
            (sub.enqueueFrameRespectingDestinationOrder encodedFrame
              frame.sourceTimestampNs).enforceSubscriptionDepth

def deliverReceived (sub : QueuedSubscription) (received : Bytes × DeliveryTimes) :
    QueuedSubscription :=
  match decodeQueued received.1 with
  | some frame => sub.deliverFrame received.2 received.1 frame
  | none => sub

/-- The turns of the loop in `take_payload` as long as there is a frame in the queue. -/
def takeFrom (times : TakeTimes) : List Bytes → QueuedSubscription → TakeResult × QueuedSubscription
  | [], sub => (.nothing, { sub with frameQueue := [] })
  | encodedFrame :: queue, sub =>
      match decodeQueued encodedFrame with
      | none => (.failed, { sub with frameQueue := queue })
      | some frame =>
          if frameExceedsLifespan sub.config.qos frame.sourceTimestampNs
              (times.wallAtCheck frame) then
            takeFrom times queue (sub.recordSubscriptionMessageLost 1)
          else
            let info := if times.withInfo then some {
                sourceTimestamp := frame.sourceTimestampNs
                receivedTimestamp := times.wallAtReturn
                publicationSequenceNumber := frame.sourceSequenceNumber
                receptionSequenceNumber := sub.nextReceptionSequence }
              else none
            (.taken frame.serializedPayload info, { sub with
              frameQueue := queue
              nextReceptionSequence :=
                if times.withInfo then sub.nextReceptionSequence + 1 else sub.nextReceptionSequence
              returned := sub.returned ++ [frame] })

/-- `take_payload`. With an empty queue it asks the gateway once, which may answer with a frame;
that brings the subscription nothing, that frame, or those of a coherent set. -/
def takePayload (times : TakeTimes) (polled : Option (List (Bytes × DeliveryTimes)))
    (sub : QueuedSubscription) : TakeResult × QueuedSubscription :=
  match sub.takeFrom times sub.frameQueue with
  | (.nothing, sub) =>
      match polled with
      | none => (.nothing, sub)
      | some received =>
          let sub := received.foldl deliverReceived sub
          sub.takeFrom times sub.frameQueue
  | result => result

end QueuedSubscription

inductive QueueEvent where
  | deliver (received : Bytes × DeliveryTimes)
  | take (times : TakeTimes) (polled : Option (List (Bytes × DeliveryTimes)))

/-- A subscription and what its takes have answered. -/
structure QueueRun where
  sub : QueuedSubscription
  results : List TakeResult := []

namespace QueueRun

def step (r : QueueRun) : QueueEvent → QueueRun
  | .deliver received => { r with sub := r.sub.deliverReceived received }
  | .take times polled =>
      let (result, sub) := r.sub.takePayload times polled
      { sub, results := r.results ++ [result] }

def start (config : SubscriptionConfig) (destinationOrder : DestinationOrderKind) : QueueRun :=
  { sub := { config, destinationOrder } }

end QueueRun

/-! ## The account -/

/-- When the `i`-th of the admitted frames was published. -/
def stampOf (admitted : List DataFrame) (i : Nat) : Int :=
  ((admitted[i]?.map DataFrame.sourceTimestampNs).getD 0).toInt

theorem stampOf_concat_of_lt {admitted : List DataFrame} {frame : DataFrame} {i : Nat}
    (earlier : i < admitted.length) : stampOf (admitted ++ [frame]) i = stampOf admitted i := by
  unfold stampOf
  rw [List.getElem?_append_left earlier]

theorem stampOf_concat_self {admitted : List DataFrame} {frame : DataFrame} :
    stampOf (admitted ++ [frame]) admitted.length = frame.sourceTimestampNs.toInt := by
  unfold stampOf
  rw [List.getElem?_concat_length]
  rfl

namespace QueuedSubscription

variable {config : SubscriptionConfig} {order : DestinationOrderKind} {sub : QueuedSubscription}
  {frame : DataFrame} {encodedFrame : Bytes} {n count : Nat} {a : Account n}

/-- The account is that of the subscription. -/
structure Kept (config : SubscriptionConfig) (order : DestinationOrderKind)
    (sub : QueuedSubscription) (a : Account n) : Prop where
  hasConfig : sub.config = config
  hasOrder : sub.destinationOrder = order
  size : sub.admitted.length = n
  queued : sub.frameQueue.map decodeQueued = a.queued.map (sub.admitted[·]?)
  returned : sub.returned.map some = a.taken.map (sub.admitted[·]?)
  lost : sub.messageLostTotalCount = min a.lost.length maxCount
  ordered : order = .bySourceTimestamp → a.queued.Pairwise (InTurn (stampOf sub.admitted))

/-- The queue is not longer than KEEP_LAST allows. -/
def Bounded (config : SubscriptionConfig) (queue : List Bytes) : Prop :=
  config.qos.keepLast = true → 0 < config.qos.depth → queue.length ≤ config.qos.depth

/-! ## The parts of a delivery -/

@[simp] theorem frameQueue_recordSubscriptionMessageLost :
    (sub.recordSubscriptionMessageLost count).frameQueue = sub.frameQueue := by
  unfold recordSubscriptionMessageLost
  split <;> rfl

@[simp] theorem admitted_recordSubscriptionMessageLost :
    (sub.recordSubscriptionMessageLost count).admitted = sub.admitted := by
  unfold recordSubscriptionMessageLost
  split <;> rfl

@[simp] theorem returned_recordSubscriptionMessageLost :
    (sub.recordSubscriptionMessageLost count).returned = sub.returned := by
  unfold recordSubscriptionMessageLost
  split <;> rfl

@[simp] theorem config_recordSubscriptionMessageLost :
    (sub.recordSubscriptionMessageLost count).config = sub.config := by
  unfold recordSubscriptionMessageLost
  split <;> rfl

@[simp] theorem destinationOrder_recordSubscriptionMessageLost :
    (sub.recordSubscriptionMessageLost count).destinationOrder = sub.destinationOrder := by
  unfold recordSubscriptionMessageLost
  split <;> rfl

@[simp] theorem messageLostTotalCount_recordSubscriptionMessageLost :
    (sub.recordSubscriptionMessageLost count).messageLostTotalCount =
      if count = 0 then sub.messageLostTotalCount
      else saturatingSizeAdd sub.messageLostTotalCount count := by
  unfold recordSubscriptionMessageLost
  split <;> rfl

theorem saturated (already : Nat) :
    (if count = 0 then min already maxCount else saturatingSizeAdd (min already maxCount) count) =
      min (count + already) maxCount := by
  unfold saturatingSizeAdd
  split <;> omega

variable (frame) in
theorem map_getElem?_concat {admitted : List DataFrame} {positions : List Nat}
    (inside : ∀ i ∈ positions, i < admitted.length) :
    positions.map ((admitted ++ [frame])[·]?) = positions.map (admitted[·]?) := by
  apply List.map_congr_left
  intro i among
  exact List.getElem?_append_left (inside i among)

/-- What leaves the queue at its front without being returned is counted. -/
theorem Kept.lose (kept : Kept config order sub a) (k : Nat) :
    ∃ a' : Account n, Kept config order ({ sub with
      frameQueue := sub.frameQueue.drop k }.recordSubscriptionMessageLost
        (min k sub.frameQueue.length)) a' := by
  have same : sub.frameQueue.length = a.queued.length := by
    simpa using congrArg List.length kept.queued
  refine ⟨a.drop k, ?_⟩
  constructor
  · simp only [config_recordSubscriptionMessageLost]
    exact kept.hasConfig
  · simp only [destinationOrder_recordSubscriptionMessageLost]
    exact kept.hasOrder
  · simp only [admitted_recordSubscriptionMessageLost]
    exact kept.size
  · simp only [frameQueue_recordSubscriptionMessageLost, admitted_recordSubscriptionMessageLost,
      Account.drop, List.map_drop, kept.queued]
  · simp only [returned_recordSubscriptionMessageLost, admitted_recordSubscriptionMessageLost]
    exact kept.returned
  · simp only [messageLostTotalCount_recordSubscriptionMessageLost, kept.lost, saturated,
      Account.drop, List.length_append, List.length_take, same]
  · intro bySource
    simp only [admitted_recordSubscriptionMessageLost]
    exact (kept.ordered bySource).sublist (List.drop_sublist _ _)

/-- A frame more does not change the turn of the ones before it. -/
theorem inTurn_concat {admitted : List DataFrame} {positions : List Nat}
    (inside : ∀ i ∈ positions, i < admitted.length)
    (ordered : positions.Pairwise (InTurn (stampOf admitted))) :
    positions.Pairwise (InTurn (stampOf (admitted ++ [frame]))) := by
  apply ordered.imp_of_mem
  intro i j first second inTurn
  unfold InTurn at inTurn ⊢
  rw [stampOf_concat_of_lt (inside i first), stampOf_concat_of_lt (inside j second)]
  exact inTurn

theorem Kept.queued_lt (kept : Kept config order sub a) : ∀ i ∈ a.queued, i < sub.admitted.length := by
  intro i among
  rw [kept.size]
  exact a.lt_of_queued among

theorem Kept.taken_lt (kept : Kept config order sub a) : ∀ i ∈ a.taken, i < sub.admitted.length := by
  intro i among
  rw [kept.size]
  exact a.lt_of_taken among

variable (frame) in
/-- A frame that is admitted too late for its lifespan is counted. -/
theorem Kept.miss (kept : Kept config order sub a) :
    ∃ a' : Account (n + 1), Kept config order ({ sub with
      admitted := sub.admitted ++ [frame] }.recordSubscriptionMessageLost 1) a' := by
  refine ⟨a.miss, ?_⟩
  constructor
  · simp only [config_recordSubscriptionMessageLost]
    exact kept.hasConfig
  · simp only [destinationOrder_recordSubscriptionMessageLost]
    exact kept.hasOrder
  · simp [kept.size]
  · simp only [frameQueue_recordSubscriptionMessageLost, admitted_recordSubscriptionMessageLost,
      Account.miss, map_getElem?_concat frame kept.queued_lt]
    exact kept.queued
  · simp only [returned_recordSubscriptionMessageLost, admitted_recordSubscriptionMessageLost,
      Account.miss, map_getElem?_concat frame kept.taken_lt]
    exact kept.returned
  · simp only [messageLostTotalCount_recordSubscriptionMessageLost, kept.lost, saturated,
      Account.miss, List.length_cons, Nat.add_comm 1]
  · intro bySource
    simp only [admitted_recordSubscriptionMessageLost, Account.miss]
    exact inTurn_concat kept.queued_lt (kept.ordered bySource)

/-- A frame that is admitted in time is queued in its turn. -/
theorem Kept.enqueue (kept : Kept config order sub a)
    (decodes : decodeQueued encodedFrame = some frame) :
    ∃ a' : Account (n + 1), Kept config order ({ sub with
      admitted := sub.admitted ++ [frame] }.enqueueFrameRespectingDestinationOrder encodedFrame
        frame.sourceTimestampNs) a' := by
  have newest : (sub.admitted ++ [frame])[n]? = some frame := by
    rw [← kept.size]
    exact List.getElem?_concat_length
  have before := kept.queued
  rw [← map_getElem?_concat frame kept.queued_lt] at before
  have returned := kept.returned.trans (map_getElem?_concat frame kept.taken_lt).symm
  unfold enqueueFrameRespectingDestinationOrder
  split
  case isTrue byReception =>
    have last : (a.arrive fun _ => true).queued = a.queued ++ [n] :=
      insertBehind_last fun _ _ => rfl
    refine ⟨a.arrive fun _ => true, kept.hasConfig, kept.hasOrder, by simp [kept.size], ?_, returned,
      kept.lost, ?_⟩
    · rw [last, List.map_append, List.map_append, before, List.map_singleton, List.map_singleton,
        decodes, newest]
    · exact fun bySource => absurd (kept.hasOrder.trans bySource) byReception
  case isFalse =>
    refine ⟨a.arrive fun i => notLater frame.sourceTimestampNs (sub.admitted ++ [frame])[i]?,
      kept.hasConfig, kept.hasOrder, by simp [kept.size], ?_, returned, kept.lost, ?_⟩
    · change (insertBehind _ _ _).map decodeQueued = (insertBehind _ _ _).map _
      rw [map_insertBehind (notLater frame.sourceTimestampNs) fun _ _ => rfl,
        map_insertBehind (notLater frame.sourceTimestampNs) fun _ _ => rfl, before, decodes,
        newest]
    · intro bySource
      apply Account.arrive_ordered
      · exact inTurn_concat kept.queued_lt (kept.ordered bySource)
      · intro i among
        have here := kept.queued_lt i among
        rw [stampOf_concat_of_lt here, ← kept.size, stampOf_concat_self,
          List.getElem?_append_left here, List.getElem?_eq_getElem here]
        unfold stampOf
        rw [List.getElem?_eq_getElem here]
        simp [notLater, Int64.le_iff_toInt_le]

theorem Kept.enforce (kept : Kept config order sub a) :
    (∃ a' : Account n, Kept config order sub.enforceSubscriptionDepth a') ∧
      Bounded config sub.enforceSubscriptionDepth.frameQueue := by
  unfold enforceSubscriptionDepth
  rw [kept.hasConfig]
  split
  case isTrue unlimited =>
    refine ⟨⟨a, kept⟩, ?_⟩
    intro keepLast positive
    rw [keepLast] at unlimited
    simp at unlimited
    omega
  case isFalse =>
    have dropped : sub.frameQueue.length -
        (sub.frameQueue.drop (sub.frameQueue.length - config.qos.depth)).length =
          min (sub.frameQueue.length - config.qos.depth) sub.frameQueue.length := by
      rw [List.length_drop]
      omega
    simp only [popWhileLonger_eq_drop, dropped]
    refine ⟨kept.lose _, ?_⟩
    intro _ _
    simp only [frameQueue_recordSubscriptionMessageLost, List.length_drop]
    omega

/-! ## Deliveries and takes -/

/-- The state of a subscription between its calls. -/
def Sound (config : SubscriptionConfig) (order : DestinationOrderKind) (sub : QueuedSubscription) :
    Prop :=
  (∃ n, ∃ a : Account n, Kept config order sub a) ∧ Bounded config sub.frameQueue

/-- Arbitration and observation leave the queue and the account alone. -/
theorem Sound.of_base {base : CoherentSubscription} (sound : Sound config order sub)
    (same : base.config = sub.config) :
    Sound config order { sub with toCoherentSubscription := base } := by
  obtain ⟨⟨n, a, kept⟩, bounded⟩ := sound
  have config := same.trans kept.hasConfig
  exact ⟨⟨n, a, config, kept.hasOrder, kept.size, kept.queued, kept.returned, kept.lost,
    kept.ordered⟩, bounded⟩

theorem deliverFrame_sound {times : DeliveryTimes} (sound : Sound config order sub)
    (decodes : decodeQueued encodedFrame = some frame) :
    Sound config order (sub.deliverFrame times encodedFrame frame) := by
  unfold deliverFrame
  split
  case isTrue => exact sound
  case isFalse =>
    obtain ⟨ownerKey, strength, lastSeen, arbitrated⟩ :=
      sub.toCoherentSubscription.ownershipAdmitsDelivery_spec frame times.receiveNs
    cases decided : sub.toCoherentSubscription.ownershipAdmitsDelivery frame times.receiveNs with
    | mk admits base =>
        rw [decided] at arbitrated
        have owned : base.config = sub.config := by
          rw [show base = _ from arbitrated]
        cases admits with
        | false => exact sound.of_base owned
        | true =>
            have observed : (base.observe frame).2.config = sub.config := owned
            have observing := sound.of_base observed
            dsimp only
            split
            case isTrue => exact observing
            case isFalse =>
              split
              case isTrue => exact observing
              case isFalse =>
                split
                case isTrue =>
                  obtain ⟨⟨n, a, kept⟩, bounded⟩ := observing
                  obtain ⟨a', missed⟩ := kept.miss frame
                  refine ⟨⟨n + 1, a', missed⟩, ?_⟩
                  rw [frameQueue_recordSubscriptionMessageLost]
                  exact bounded
                case isFalse =>
                  let queueing : CoherentSubscription := { (base.observe frame).2 with
                    enqueued := (base.observe frame).2.enqueued ++ [frame] }
                  have same : queueing.config = sub.config := owned
                  obtain ⟨⟨n, a, kept⟩, -⟩ := sound.of_base same
                  obtain ⟨a', enqueued⟩ := kept.enqueue decodes
                  obtain ⟨⟨a'', enforced⟩, bounded⟩ := enqueued.enforce
                  exact ⟨⟨n + 1, a'', enforced⟩, bounded⟩

theorem deliverReceived_sound (received : Bytes × DeliveryTimes) (sound : Sound config order sub) :
    Sound config order (sub.deliverReceived received) := by
  unfold deliverReceived
  cases decodes : decodeQueued received.1 with
  | none => exact sound
  | some frame => exact deliverFrame_sound sound decodes

variable (sub) in
theorem takeFrom_sound (times : TakeTimes) {queue : List Bytes}
    (sound : Sound config order { sub with frameQueue := queue }) :
    Sound config order (sub.takeFrom times queue).2 := by
  induction queue generalizing sub with
  | nil => exact sound
  | cons encodedFrame queue ih =>
      obtain ⟨⟨n, a, kept⟩, bounded⟩ := sound
      have shorter : Bounded config queue := by
        intro keepLast positive
        have := bounded keepLast positive
        rw [List.length_cons] at this
        exact Nat.le_of_succ_le this
      cases positions : a.queued with
      | nil =>
          have queued := kept.queued
          rw [positions] at queued
          cases queued
      | cons i rest =>
          have queued := kept.queued
          rw [positions, List.map_cons, List.map_cons] at queued
          obtain ⟨first, later⟩ := List.cons.inj queued
          have inside := kept.queued_lt i (positions ▸ List.mem_cons_self)
          rw [List.getElem?_eq_getElem inside] at first
          unfold takeFrom
          rw [first]
          dsimp only
          split
          case isTrue =>
            obtain ⟨a', lost⟩ := kept.lose 1
            have one : min 1 (encodedFrame :: queue).length = 1 := by
              rw [List.length_cons]
              omega
            rw [one] at lost
            exact ih _ ⟨⟨n, a', lost⟩, shorter⟩
          case isFalse =>
            have returned : (sub.returned ++ [sub.admitted[i]]).map some =
                List.map (sub.admitted[·]?) (a.take positions).taken := by
              rw [Account.take, List.map_append, List.map_append, kept.returned]
              simp [List.getElem?_eq_getElem inside]
            refine ⟨⟨n, a.take positions, kept.hasConfig, kept.hasOrder, kept.size, later, returned,
              kept.lost, ?_⟩, shorter⟩
            intro bySource
            have ordered := kept.ordered bySource
            rw [positions] at ordered
            exact (List.pairwise_cons.mp ordered).2

theorem takePayload_sound (times : TakeTimes) (polled : Option (List (Bytes × DeliveryTimes)))
    (sound : Sound config order sub) : Sound config order (sub.takePayload times polled).2 := by
  have first := takeFrom_sound sub times sound
  unfold takePayload
  cases result : sub.takeFrom times sub.frameQueue with
  | mk answer after =>
      rw [result] at first
      cases answer with
      | taken payload info => exact first
      | failed => exact first
      | nothing =>
          cases polled with
          | none => exact first
          | some received =>
              have delivered : Sound config order (received.foldl deliverReceived after) :=
                List.foldlRecOn received deliverReceived first fun _ sound received _ =>
                  deliverReceived_sound received sound
              exact takeFrom_sound _ times delivered

@[simp] theorem toCoherentSubscription_recordSubscriptionMessageLost :
    (sub.recordSubscriptionMessageLost count).toCoherentSubscription =
      sub.toCoherentSubscription := by
  unfold recordSubscriptionMessageLost
  split <;> rfl

/-- Apart from its queue and its counts the subscription is as after `deliver`. -/
theorem toCoherentSubscription_deliverFrame (times : DeliveryTimes) :
    (sub.deliverFrame times encodedFrame frame).toCoherentSubscription =
      sub.toCoherentSubscription.deliver times frame := by
  have enqueued : ∀ (sub : QueuedSubscription) stamp,
      (sub.enqueueFrameRespectingDestinationOrder encodedFrame stamp).toCoherentSubscription =
        sub.toCoherentSubscription := by
    intro sub stamp
    unfold enqueueFrameRespectingDestinationOrder
    split <;> rfl
  have enforced : ∀ sub : QueuedSubscription,
      sub.enforceSubscriptionDepth.toCoherentSubscription = sub.toCoherentSubscription := by
    intro sub
    unfold enforceSubscriptionDepth
    split
    · rfl
    · exact toCoherentSubscription_recordSubscriptionMessageLost
  unfold deliverFrame CoherentSubscription.deliver
  cases sub.toCoherentSubscription.ownershipAdmitsDelivery frame times.receiveNs with
  | mk admits base =>
      cases admits with
      | false => split <;> rfl
      | true =>
          dsimp only
          split
          · rfl
          · split
            · rfl
            · split
              · rfl
              · split
                · exact toCoherentSubscription_recordSubscriptionMessageLost
                · rw [enforced, enqueued]

/-! ## What the takes answer -/

theorem returned_deliverFrame (times : DeliveryTimes) :
    (sub.deliverFrame times encodedFrame frame).returned = sub.returned := by
  have enqueued : ∀ (sub : QueuedSubscription) stamp,
      (sub.enqueueFrameRespectingDestinationOrder encodedFrame stamp).returned = sub.returned := by
    intro sub stamp
    unfold enqueueFrameRespectingDestinationOrder
    split <;> rfl
  have enforced : ∀ sub : QueuedSubscription,
      sub.enforceSubscriptionDepth.returned = sub.returned := by
    intro sub
    unfold enforceSubscriptionDepth
    split
    · rfl
    · exact returned_recordSubscriptionMessageLost
  unfold deliverFrame
  split
  · rfl
  · split
    · rfl
    · dsimp only
      split
      · rfl
      · split
        · rfl
        · split
          · exact returned_recordSubscriptionMessageLost
          · rw [enforced, enqueued]

theorem returned_deliverReceived (received : Bytes × DeliveryTimes) :
    (sub.deliverReceived received).returned = sub.returned := by
  unfold deliverReceived
  split
  · exact returned_deliverFrame received.2
  · rfl

theorem returned_deliverAll (received : List (Bytes × DeliveryTimes)) :
    (received.foldl deliverReceived sub).returned = sub.returned := by
  induction received generalizing sub with
  | nil => rfl
  | cons first received ih => exact ih.trans (returned_deliverReceived first)

variable (sub) in
theorem takeFrom_answers (times : TakeTimes) (queue : List Bytes) :
    (sub.takeFrom times queue).2.returned.map DataFrame.serializedPayload =
      sub.returned.map DataFrame.serializedPayload ++
        (sub.takeFrom times queue).1.payload?.toList := by
  induction queue generalizing sub with
  | nil => exact (List.append_nil _).symm
  | cons encodedFrame queue ih =>
      unfold takeFrom
      cases decodeQueued encodedFrame with
      | none => exact (List.append_nil _).symm
      | some frame =>
          dsimp only
          split
          case isTrue => rw [ih, returned_recordSubscriptionMessageLost]
          case isFalse => simp [TakeResult.payload?]

variable (sub) in
/-- A take returns a frame exactly when it answers with its payload. -/
theorem takePayload_answers (times : TakeTimes) (polled : Option (List (Bytes × DeliveryTimes))) :
    (sub.takePayload times polled).2.returned.map DataFrame.serializedPayload =
      sub.returned.map DataFrame.serializedPayload ++
        (sub.takePayload times polled).1.payload?.toList := by
  have first := takeFrom_answers sub times sub.frameQueue
  unfold takePayload
  cases result : sub.takeFrom times sub.frameQueue with
  | mk answer after =>
      rw [result] at first
      cases answer with
      | taken payload info => exact first
      | failed => exact first
      | nothing =>
          cases polled with
          | none => exact first
          | some received =>
              have unchanged : after.returned.map DataFrame.serializedPayload =
                  sub.returned.map DataFrame.serializedPayload :=
                first.trans (List.append_nil _)
              dsimp only
              rw [takeFrom_answers, returned_deliverAll, unchanged]

end QueuedSubscription

/-! ## Runs -/

namespace QueueRun

open QueuedSubscription

variable {config : SubscriptionConfig} {order : DestinationOrderKind} {r : QueueRun}

/-- The subscription is in order, and the takes have answered with what it has returned. -/
def Sound (config : SubscriptionConfig) (order : DestinationOrderKind) (r : QueueRun) : Prop :=
  QueuedSubscription.Sound config order r.sub ∧
    r.results.filterMap TakeResult.payload? = r.sub.returned.map DataFrame.serializedPayload

theorem sound_start : Sound config order (start config order) := by
  refine ⟨⟨⟨0, Account.none, rfl, rfl, rfl, rfl, rfl, rfl, fun _ => List.Pairwise.nil⟩, ?_⟩, rfl⟩
  intro _ _
  exact Nat.zero_le _

theorem step_take (times : TakeTimes) (polled : Option (List (Bytes × DeliveryTimes))) :
    r.step (.take times polled) = {
      sub := (r.sub.takePayload times polled).2
      results := r.results ++ [(r.sub.takePayload times polled).1] } := rfl

theorem payload?_singleton (result : TakeResult) :
    [result].filterMap TakeResult.payload? = result.payload?.toList := by
  cases result <;> rfl

theorem sound_step (event : QueueEvent) (sound : Sound config order r) :
    Sound config order (r.step event) := by
  obtain ⟨sub, answered⟩ := sound
  cases event with
  | deliver received =>
      refine ⟨deliverReceived_sound received sub, ?_⟩
      exact answered.trans (congrArg _ (returned_deliverReceived received).symm)
  | take times polled =>
      refine ⟨takePayload_sound times polled sub, ?_⟩
      have answers := takePayload_answers r.sub times polled
      rw [← answered] at answers
      rw [step_take, List.filterMap_append, payload?_singleton, answers]

theorem sound_run (events : List QueueEvent) (sound : Sound config order r) :
    Sound config order (events.foldl step r) := by
  induction events generalizing r with
  | nil => exact sound
  | cons event events ih => exact ih (sound_step event sound)

/-- The `i`-th sample of a stream, published long ago. -/
def stale (i : Nat) : DataFrame where
  sourceSequenceNumber := UInt64.ofNat i
  sourceTimestampNs := 1

def arrivesStale (i : Nat) : QueueEvent :=
  .deliver (encodeDataFrameCompactV1 (stale i), { receiveNs := 0, wallAtCheck := fun _ => 100 })

def shortLived : SubscriptionConfig where
  qos := { lifespan := { nsec := 1 } }

theorem decodeQueued_stale (i : Nat) :
    decodeQueued (encodeDataFrameCompactV1 (stale i)) = some (stale i) := by
  have short : (stale i).Short := by
    constructor <;> exact Nat.two_pow_pos 32
  have whole := (compactFields_reads short).whole []
  rw [List.append_nil] at whole
  unfold decodeQueued
  rw [encodeDataFrameCompactV1_eq, decodeDataFrame_of_compact, whole]
  rfl

/-- All of the first samples have been observed, and every one is lost. -/
structure AllLost (i : Nat) (r : QueueRun) : Prop where
  config : r.sub.config = shortLived
  baselined : r.sub.toCoherentSubscription.Baselined
  observed : ∀ n, r.sub.Observed (streamKey (stale 0)) n → n.toNat < i
  admitted : r.sub.admitted.length = i
  returned : r.sub.returned = []
  frameQueue : r.sub.frameQueue = []
  lost : r.sub.messageLostTotalCount = min i maxCount

theorem deliverFrame_stale {sub : QueuedSubscription} {times : DeliveryTimes} {i : Nat}
    (config : sub.config = shortLived) (late : times.wallAtCheck (stale i) = 100)
    (new : (sub.toCoherentSubscription.observe (stale i)).1 = false) :
    sub.deliverFrame times (encodeDataFrameCompactV1 (stale i)) (stale i) = { sub with
      toCoherentSubscription := (sub.toCoherentSubscription.observe (stale i)).2
      admitted := sub.admitted ++ [stale i] }.recordSubscriptionMessageLost 1 := by
  have isFor : sub.config.matchesFrame (stale i) = true := by
    rw [config]
    rfl
  have admits : sub.toCoherentSubscription.ownershipAdmitsDelivery (stale i) times.receiveNs =
      (true, sub.toCoherentSubscription) := by
    unfold CoherentSubscription.ownershipAdmitsDelivery
    rw [config]
    rfl
  have after : (sub.toCoherentSubscription.observe (stale i)).2.config = shortLived := config
  have expired : frameExceedsLifespan shortLived.qos (stale i).sourceTimestampNs 100 = true := by
    change frameExceedsLifespan shortLived.qos 1 100 = true
    decide
  have passes : shortLived.contentFilter (stale i).serializedPayload = true := rfl
  unfold deliverFrame
  simp only [isFor, admits, new, after, passes, late, expired, Bool.not_true, Bool.false_eq_true,
    if_false, if_true]

theorem allLost_step {i : Nat} (few : i < 2 ^ 64) (before : AllLost i r) :
    AllLost (i + 1) (r.step (arrivesStale i)) := by
  have number : (stale i).sourceSequenceNumber.toNat = i := by
    rw [stale, UInt64.toNat_ofNat', Nat.mod_eq_of_lt few]
  have unseen : ¬r.sub.Observed (streamKey (stale i)) (stale i).sourceSequenceNumber := by
    intro seen
    have := before.observed _ seen
    omega
  obtain ⟨repeated, -⟩ := r.sub.toCoherentSubscription.observe_spec (stale i) before.baselined
  obtain ⟨seen, -⟩ := CoherentSubscription.observe_delivered (stale i) before.baselined
  have new : (r.sub.toCoherentSubscription.observe (stale i)).1 = false :=
    Bool.eq_false_iff.mpr fun again => unseen (repeated.mp again)
  have delivered : (r.step (arrivesStale i)).sub = { r.sub with
      toCoherentSubscription := (r.sub.toCoherentSubscription.observe (stale i)).2
      admitted := r.sub.admitted ++ [stale i] }.recordSubscriptionMessageLost 1 := by
    rw [arrivesStale, step, deliverReceived, decodeQueued_stale]
    exact deliverFrame_stale before.config rfl new
  constructor
  · rw [delivered, config_recordSubscriptionMessageLost]
    exact before.config
  · rw [delivered, toCoherentSubscription_recordSubscriptionMessageLost]
    exact seen.baselined
  · intro n observed
    rw [delivered, toCoherentSubscription_recordSubscriptionMessageLost] at observed
    cases seen.origin observed with
    | inl earlier => exact Nat.lt_succ_of_lt (before.observed n earlier)
    | inr now =>
        obtain ⟨frame, among, -, same⟩ := now
        rw [List.mem_singleton.mp among] at same
        rw [same, number]
        exact Nat.lt_succ_self i
  · rw [delivered, admitted_recordSubscriptionMessageLost, List.length_append, before.admitted,
      List.length_singleton]
  · rw [delivered, returned_recordSubscriptionMessageLost]
    exact before.returned
  · rw [delivered, frameQueue_recordSubscriptionMessageLost]
    exact before.frameQueue
  · rw [delivered, messageLostTotalCount_recordSubscriptionMessageLost, before.lost, saturated,
      Nat.add_comm]

end QueueRun

end FleetRMW.Rmw
