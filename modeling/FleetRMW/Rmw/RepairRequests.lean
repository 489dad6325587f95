import FleetRMW.Rmw.FragmentSender
import Mathlib.Data.List.Destutter

/-! # Repair requests

A reader that misses fragments of a frame asks for them by their indexes. They are queued unless
they wait already or have just been sent. An index that one request names twice is looked up
twice before the first of its two tasks is queued.
-/

namespace FleetRMW.Rmw

open Lib

/-! ## Ranges -/

def kMaxFragmentRepairIndexesPerRequest : Nat := 64

/-- `5` or `3-7` -/
def parseFragmentIndexRange (token : Bytes) : Option (Nat × Nat) :=
  match token.span fun c => c ≠ 45 with
  | (_, []) => (parseSizeToken token).map fun index => (index, index)
  | (first, _ :: last) =>
      match parseSizeToken first, parseSizeToken last with
      | some first, some last => if first > last then none else some (first, last)
      | _, _ => none

/-- So many indexes from `index` on, without one that has just been added. -/
def pushIndexes : Nat → Nat → List Nat → List Nat
  | 0, _, indexes => indexes
  | count + 1, index, indexes =>
      if indexes.length < kMaxFragmentRepairIndexesPerRequest then
        pushIndexes count (index + 1)
          (if indexes.getLast? = some index then indexes else indexes ++ [index])
      else indexes

/-- The loop over the tokens. Nothing is read behind a comma at the end. -/
def collectFragmentIndexes (fragmentCount : Nat) : List Bytes → List Nat → Option (List Nat)
  | [], indexes => some indexes
  | [[]], indexes => some indexes
  | token :: tokens, indexes =>
      if indexes.length ≥ kMaxFragmentRepairIndexesPerRequest then some indexes
      else
        match parseFragmentIndexRange token with
        | none => none
        | some (first, last) =>
            if last ≥ fragmentCount then none
            else collectFragmentIndexes fragmentCount tokens
              (pushIndexes (last + 1 - first) first indexes)

def parseFragmentIndexRanges (text : Bytes) (fragmentCount : Nat) : Option (List Nat) :=
  if text = [] ∨ fragmentCount = 0 then none
  else
    match collectFragmentIndexes fragmentCount (text.splitOn 44) [] with
    | none | some [] => none
    | some indexes => some indexes

/-! ## The history of the frames -/

structure FragmentRepairHistory where
  payload : Bytes
  targets : List SockaddrIn
  chunkBytes : Nat
  fragmentCount : Nat
  isDataFrame : Bool
  lastUpdateNs : Int
  requestCountByTarget : Dict Bytes Nat := []

structure FragmentTransportSettings extends FragmentSenderSettings where
  fragmentNackMaxRequests : Nat := 6
  fragmentAsyncSendEnabled : Bool := true

structure FragmentTransport where
  sender : FragmentSender := {}
  fragmentHistory : Dict Bytes FragmentRepairHistory := []

def cleanupFragmentHistory (history : Dict Bytes FragmentRepairHistory) (now : Int) :
    Dict Bytes FragmentRepairHistory :=
  history.filter fun e => ¬(0 < e.2.lastUpdateNs ∧ now - e.2.lastUpdateNs > fragmentHistoryTtlNs)

/-- A frame that is sent in fragments. -/
structure FragmentedSend where
  payload : Bytes
  targets : List SockaddrIn
  fragmentId : Bytes
  chunkBytes : Nat
  isDataFrame : Bool
  now : Int
  waited : Bool

/-- A datagram, when it is looked at and answered, and what sending the repairs at once gives. -/
structure NackDatagram where
  payload : Bytes
  source : Option SockaddrIn
  now : Int
  enqueueNow : Int
  answered : Int
  sendRet : RmwRet

/-- Whose requests are counted together. -/
def NackDatagram.targetScope (datagram : NackDatagram) (history : FragmentRepairHistory) : Bytes :=
  match datagram.source with
  | some source => endpointToString source
  | none => fragmentRepairTargetScopeKey history.targets

def NackDatagram.targets (datagram : NackDatagram) (history : FragmentRepairHistory) :
    List SockaddrIn :=
  match datagram.source with
  | some source => [source]
  | none => history.targets

namespace FragmentTransport

variable (settings : FragmentTransportSettings)

/-- `remember_fragment_history` -/
def rememberFragmentHistory (t : FragmentTransport) (send : FragmentedSend)
    (fragmentCount : Nat) : FragmentTransport :=
  if settings.fragmentHistoryLimit = 0 ∨ settings.fragmentNackMaxRequests = 0 then t
  else
    let history := cleanupFragmentHistory t.fragmentHistory send.now
    let counts := ((history.get? send.fragmentId).map (·.requestCountByTarget)).getD []
    let history := history.set send.fragmentId
      { payload := send.payload
        targets := send.targets
        chunkBytes := send.chunkBytes
        fragmentCount
        isDataFrame := send.isDataFrame
        lastUpdateNs := send.now
        requestCountByTarget := counts }
    { t with
      fragmentHistory :=
        Dict.evictWhileAtLeast (·.lastUpdateNs) (settings.fragmentHistoryLimit + 1) history }

/-- The part of `send_loss_resilient_fragmented_payload_to_targets` behind the choice of the
    fragments' size. -/
def sendFragmentedPayload (t : FragmentTransport) (send : FragmentedSend) : FragmentTransport :=
  if send.payload = [] ∨ send.chunkBytes = 0 then t
  else
    let fragmentCount := (send.payload.length + send.chunkBytes - 1) / send.chunkBytes
    if fragmentCount = 0 ∨ fragmentCount > 4096 then t
    else
      let t := t.rememberFragmentHistory settings send fragmentCount
      if settings.fragmentAsyncSendEnabled then
        { t with
          sender := (t.sender.enqueueLossResilientFragmentIndexes
            settings.toFragmentSenderSettings
            { payload := some send.payload
              targets := send.targets
              isDataFrame := send.isDataFrame
              fragmentId := send.fragmentId
              chunkBytes := send.chunkBytes
              fragmentCount
              indexes := List.range fragmentCount
              selectiveRetransmission := false }
            send.waited send.now).sender }
      else t

/-! ## Requests -/

/-- The name, the number of fragments and the indexes of a request. -/
def parseRepairRequest (payload : Bytes) : Option (Bytes × Nat × List Nat) :=
  if repairFragmentNackText.isPrefixOf payload then do
    let (fragmentId, rest) ← splitField (payload.drop repairFragmentNackText.length)
    let (fragmentCount, ranges) ← splitField rest
    if fragmentId = [] then none
    let fragmentCount ← parseSizeToken fragmentCount
    let indexes ← parseFragmentIndexRanges ranges fragmentCount
    some (fragmentId, fragmentCount, indexes)
  else none

/-- A request that is served: whose it is, what is to be queued, and the frame's history. -/
structure ServedRequest where
  targetScope : Bytes
  request : FragmentRequest
  history : FragmentRepairHistory

/-- Requests are served that name a frame in the history, come from one of its targets and have
    not been served too often. -/
def servedRequest (t : FragmentTransport) (datagram : NackDatagram) : Option ServedRequest :=
  match parseRepairRequest datagram.payload with
  | none => none
  | some (fragmentId, fragmentCount, indexes) =>
      match (cleanupFragmentHistory t.fragmentHistory datagram.now).get? fragmentId with
      | none => none
      | some history =>
          if history.fragmentCount ≠ fragmentCount then none
          else if datagram.source.any fun source => !history.targets.any fun target => target = source
          then none
          else if ((history.requestCountByTarget.get? (datagram.targetScope history)).getD 0) ≥
              settings.fragmentNackMaxRequests then none
          else some
              { targetScope := datagram.targetScope history
                request :=
                  { payload := some history.payload
                    targets := datagram.targets history
                    isDataFrame := history.isDataFrame
                    fragmentId
                    chunkBytes := history.chunkBytes
                    fragmentCount := history.fragmentCount
                    indexes
                    selectiveRetransmission := true }
                history }

/-- `handle_fragment_repair_request` -/
def handleFragmentRepairRequest (t : FragmentTransport) (datagram : NackDatagram) :
    FragmentTransport :=
  match parseRepairRequest datagram.payload with
  | none => t
  | some (fragmentId, fragmentCount, _) =>
      let history := cleanupFragmentHistory t.fragmentHistory datagram.now
      match t.servedRequest settings datagram with
      | none => { t with fragmentHistory := history }
      | some served =>
          let history := history.set fragmentId { served.history with lastUpdateNs := datagram.now }
          if served.request.targets = [] then { t with fragmentHistory := history }
          else
            let enqueued := t.sender.enqueueLossResilientFragmentIndexes
              settings.toFragmentSenderSettings served.request false datagram.enqueueNow
            let sender := if settings.fragmentAsyncSendEnabled then enqueued.sender else t.sender
            let ret := if settings.fragmentAsyncSendEnabled then enqueued.ret else datagram.sendRet
            if ret ≠ .ok then { sender, fragmentHistory := history }
            else
              { sender
                fragmentHistory := match history.get? fragmentId with
                  | none => history
                  | some found =>
                      if found.fragmentCount = fragmentCount then
                        history.set fragmentId
                          { found with
                            lastUpdateNs := datagram.answered
                            requestCountByTarget := found.requestCountByTarget.set
                              served.targetScope
                              ((found.requestCountByTarget.get? served.targetScope).getD 0 + 1) }
                      else history }

end FragmentTransport

/-! ## Steps -/

inductive FragmentEvent where
  | send (send : FragmentedSend)
  | nack (datagram : NackDatagram)
  | take
  | finish (ret : RmwRet) (now : Int)
  | stop

def FragmentTransport.step (settings : FragmentTransportSettings) (t : FragmentTransport) :
    FragmentEvent → Option FragmentTransport
  | .send send => some (t.sendFragmentedPayload settings send)
  | .nack datagram => some (t.handleFragmentRepairRequest settings datagram)
  | .take => some { t with sender := (t.sender.takeTask settings.toFragmentSenderSettings).1 }
  | .finish ret now => some { t with sender := (t.sender.finishTask ret now).1 }
  | .stop => some { t with sender := { t.sender with running := false } }

/-! ## Keys -/

theorem mem_intersperse {α : Type} {separator x : α} {l : List α}
    (among : x ∈ l.intersperse separator) : x = separator ∨ x ∈ l := by
  induction l with
  | nil => cases among
  | cons y l ih =>
      cases l with
      | nil => exact .inr among
      | cons z l =>
          rcases List.mem_cons.mp among with rfl | among
          · exact .inr List.mem_cons_self
          · rcases List.mem_cons.mp among with rfl | among
            · exact .inl rfl
            · exact (ih among).imp_right (List.mem_cons_of_mem _)

theorem endpointToString_plain (endpoint : SockaddrIn) : 124 ∉ endpointToString endpoint := by
  have digits (n : Nat) : 124 ∉ decimal n := decimal_plain n
  simp [endpointToString, List.intercalate, List.intersperse, digits]

theorem fragmentRepairTargetScopeKey_plain (targets : List SockaddrIn) :
    124 ∉ fragmentRepairTargetScopeKey targets := by
  intro among
  obtain ⟨text, isText, inside⟩ := List.mem_flatten.mp among
  rcases mem_intersperse isText with rfl | member
  · cases inside with
    | tail _ later => cases later
  · have listed := (List.destutter_sublist _ _).subset member
    rw [List.mem_insertionSort] at listed
    obtain ⟨endpoint, -, rfl⟩ := List.mem_map.mp listed
    exact endpointToString_plain endpoint inside

/-- The repair that a task is for. -/
def PendingFragmentSend.repairOf (task : PendingFragmentSend) : Bytes × Nat × Bytes :=
  (task.fragmentId, task.fragmentIndex, fragmentRepairTargetScopeKey task.targets)

/-- The key of a repair. -/
def repairKeyOf (repair : Bytes × Nat × Bytes) : Bytes :=
  fragmentRepairQueueKey repair.1 repair.2.1 repair.2.2

theorem repairKeyOf_injective {fragmentId fragmentId' : Bytes} {index index' : Nat}
    {targets targets' : List SockaddrIn}
    (same : fragmentRepairQueueKey fragmentId index (fragmentRepairTargetScopeKey targets) =
      fragmentRepairQueueKey fragmentId' index' (fragmentRepairTargetScopeKey targets')) :
    fragmentId = fragmentId' ∧ index = index' ∧
      fragmentRepairTargetScopeKey targets = fragmentRepairTargetScopeKey targets' := by
  unfold fragmentRepairQueueKey at same
  have shape (id number scope : Bytes) : id ++ 124 :: (number ++ 124 :: scope) =
      (id ++ 124 :: number) ++ 124 :: scope := by
    rw [List.append_assoc, List.cons_append]
  rw [shape, shape] at same
  obtain ⟨front, scope⟩ := append_delimiter_right (fragmentRepairTargetScopeKey_plain targets)
    (fragmentRepairTargetScopeKey_plain targets') same
  obtain ⟨sameId, number⟩ := append_delimiter_right (decimal_plain index) (decimal_plain index') front
  exact ⟨sameId, decimal_injective number, scope⟩

/-! ## One task for each repair -/

namespace FragmentSender

/-- The repairs that wait or are being sent. -/
def repairTasks (s : FragmentSender) : List PendingFragmentSend :=
  s.repair.tasks ++ s.inFlight.toList.filter (·.selectiveRetransmission)

/-- There is at most one task for a repair, and its key is remembered exactly as long. -/
structure Coalesced (s : FragmentSender) : Prop where
  single : (s.repairTasks.map PendingFragmentSend.repairOf).Nodup
  pending : ∀ fragmentId index targets,
    fragmentRepairQueueKey fragmentId index (fragmentRepairTargetScopeKey targets) ∈
        s.repairPendingKeys ↔
      ∃ task ∈ s.repairTasks,
        task.repairOf = (fragmentId, index, fragmentRepairTargetScopeKey targets)
  keys : ∀ key ∈ s.repairPendingKeys, ∃ task ∈ s.repairTasks, repairKeyOf task.repairOf = key

/-- What holds of the tasks in every state. -/
structure Keyed (s : FragmentSender) : Prop where
  formed : ∀ repair, (s.queues repair).WellFormed
  repairs : ∀ task ∈ s.repair.tasks, task.selectiveRetransmission = true
  initials : ∀ task ∈ s.initial.tasks, task.selectiveRetransmission = false
  keyed : ∀ task ∈ s.repairTasks, task.repairKey = repairKeyOf task.repairOf

variable {settings : FragmentSenderSettings} {s s' : FragmentSender} {request : FragmentRequest}
  {payload : Bytes} {now : Int} {key : Bytes}

theorem repairKeyOf_eq_iff {task : PendingFragmentSend} {fragmentId : Bytes} {index : Nat}
    {targets : List SockaddrIn} : repairKeyOf task.repairOf =
      fragmentRepairQueueKey fragmentId index (fragmentRepairTargetScopeKey targets) ↔
    task.repairOf = (fragmentId, index, fragmentRepairTargetScopeKey targets) := by
  constructor
  · intro same
    obtain ⟨sameId, sameIndex, sameScope⟩ := repairKeyOf_injective same
    exact Prod.ext sameId (Prod.ext sameIndex sameScope)
  · intro same
    rw [same]
    rfl

/-- The keys of the tasks are the keys that are remembered. -/
theorem coalesced_iff : s.Coalesced ↔
    (s.repairTasks.map PendingFragmentSend.repairOf).Nodup ∧
      ∀ key, key ∈ s.repairPendingKeys ↔
        ∃ task ∈ s.repairTasks, repairKeyOf task.repairOf = key := by
  constructor
  · intro coalesced
    refine ⟨coalesced.single, fun key => ⟨coalesced.keys key, ?_⟩⟩
    rintro ⟨task, among, rfl⟩
    exact (coalesced.pending _ _ task.targets).mpr ⟨task, among, rfl⟩
  · rintro ⟨single, keys⟩
    refine ⟨single, fun fragmentId index targets => ?_, fun key => (keys key).mp⟩
    rw [keys]
    exact exists_congr fun task => and_congr_right fun _ => repairKeyOf_eq_iff

theorem Coalesced.of_perm (coalesced : s.Coalesced) (tasks : s'.repairTasks.Perm s.repairTasks)
    (pending : s'.repairPendingKeys = s.repairPendingKeys) : s'.Coalesced := by
  obtain ⟨single, keys⟩ := coalesced_iff.mp coalesced
  rw [coalesced_iff, (tasks.map _).nodup_iff, pending]
  refine ⟨single, fun key => ?_⟩
  rw [keys]
  exact exists_congr fun task => and_congr_left fun _ => tasks.mem_iff.symm

/-! ### Adding -/

theorem mem_foldl_insertPending {keys pending : List Bytes} :
    key ∈ keys.foldl insertPending pending ↔ key ∈ pending ∨ key ∈ keys := by
  induction keys generalizing pending with
  | nil => simp
  | cons k keys ih =>
      have inserted : key ∈ insertPending pending k ↔ key ∈ pending ∨ key = k := by
        unfold insertPending
        split
        case isTrue there =>
          obtain ⟨other, among, same⟩ := List.any_eq_true.mp there
          constructor
          · exact .inl
          · rintro (inside | rfl)
            · exact inside
            · rw [← of_decide_eq_true same]
              exact among
        case isFalse => rw [List.mem_append, List.mem_singleton]
      rw [List.foldl_cons, ih, inserted, List.mem_cons, or_assoc]

/-- An index that is accepted has no task. -/
theorem not_pending_of_accepted {index : Nat}
    (among : index ∈ s.acceptedRepairs settings request now) :
    fragmentRepairQueueKey request.fragmentId index
      (fragmentRepairTargetScopeKey request.targets) ∉ s.repairPendingKeys := by
  have wanted : index ∈ request.indexes.filter fun index =>
      !s.coalesces settings now (fragmentRepairQueueKey request.fragmentId index
        (fragmentRepairTargetScopeKey request.targets)) := by
    unfold acceptedRepairs at among
    dsimp only at among
    split at among
    · exact List.mem_of_mem_take among
    · exact among
  have free := (List.mem_filter.mp wanted).2
  intro pending
  have there : (s.repairPendingKeys.any fun other => other = fragmentRepairQueueKey
      request.fragmentId index (fragmentRepairTargetScopeKey request.targets)) = true :=
    List.any_eq_true.mpr ⟨_, pending, decide_eq_true rfl⟩
  rw [coalesces, there] at free
  cases free

variable (settings s request now) in
/-- The indexes that a request puts into the queue. -/
def queuedRepairs : List Nat :=
  let s := s.cleanupRecentFragmentRepairs settings now
  let accepted := s.acceptedRepairs settings request now
  if (request.targets = [] ∨ request.indexes = [] ∨
      request.indexes.any fun index => index ≥ request.fragmentCount) ∨
      s.isFull settings accepted.length then []
  else accepted

variable (settings s now) in
/-- The effect of a request for repairs. -/
theorem enqueue_repairs_eq (selective : request.selectiveRetransmission = true)
    (given : request.payload = some payload) :
    ∃ recent, (s.enqueueLossResilientFragmentIndexes settings request false now).sender =
      if s.queuedRepairs settings request now = [] then { s with repairRecentSendNs := recent }
      else
        { s with
          repairRecentSendNs := recent
          repair := s.repair.push (fragmentRepairFrameQueueKey request.fragmentId
            (fragmentRepairTargetScopeKey request.targets))
            ((s.queuedRepairs settings request now).map (request.task payload))
          repairPendingKeys := (((s.queuedRepairs settings request now).map
            (request.task payload)).map (·.repairKey)).foldl insertPending
              s.repairPendingKeys } := by
  unfold enqueueLossResilientFragmentIndexes
  rw [given]
  dsimp only
  by_cases invalid : request.targets = [] ∨ request.indexes = [] ∨
      (request.indexes.any fun index => index ≥ request.fragmentCount) = true
  case pos =>
    refine ⟨s.repairRecentSendNs, ?_⟩
    have none : s.queuedRepairs settings request now = [] := if_pos (.inl invalid)
    rw [if_pos invalid, if_pos none]
  case neg =>
    refine ⟨(s.cleanupRecentFragmentRepairs settings now).repairRecentSendNs, ?_⟩
    rw [if_neg invalid, if_pos selective]
    unfold enqueueRepairs
    dsimp only
    split
    case isTrue noneAccepted =>
      have none : s.queuedRepairs settings request now = [] := by
        unfold queuedRepairs
        dsimp only
        rw [noneAccepted, ite_self]
      rw [if_pos none]
      rfl
    case isFalse someAccepted =>
      split
      case isTrue full =>
        have none : s.queuedRepairs settings request now = [] := if_pos (.inr full)
        rw [if_pos none]
        rfl
      case isFalse room =>
        have queued : s.queuedRepairs settings request now =
            (s.cleanupRecentFragmentRepairs settings now).acceptedRepairs settings request now :=
          if_neg fun stops => stops.elim invalid room
        rw [queued, if_neg someAccepted]
        rfl

/-- The state that a request leads to which puts these indexes into the queue. -/
def queueing (s : FragmentSender) (request : FragmentRequest) (payload : Bytes)
    (recent : Dict Bytes Int) (indexes : List Nat) : FragmentSender :=
  { s with
    repairRecentSendNs := recent
    repair := s.repair.push (fragmentRepairFrameQueueKey request.fragmentId
      (fragmentRepairTargetScopeKey request.targets)) (indexes.map (request.task payload))
    repairPendingKeys := ((indexes.map (request.task payload)).map (·.repairKey)).foldl
      insertPending s.repairPendingKeys }

section
variable {recent : Dict Bytes Int} {indexes : List Nat}

variable (s request payload recent indexes) in
theorem queueing_repairTasks : (s.queueing request payload recent indexes).repairTasks.Perm
    (s.repairTasks ++ indexes.map (request.task payload)) := by
  have pushed := RoundRobin.push_tasks s.repair (fragmentRepairFrameQueueKey request.fragmentId
    (fragmentRepairTargetScopeKey request.targets)) (indexes.map (request.task payload))
  refine (pushed.append_right _).trans ?_
  rw [List.append_assoc, repairTasks, List.append_assoc]
  exact List.perm_append_comm.append_left _

theorem task_repairKey (selective : request.selectiveRetransmission = true) (index : Nat) :
    (request.task payload index).repairKey = repairKeyOf (request.task payload index).repairOf :=
  if_pos selective

variable (recent) in
theorem Keyed.queueing (keyed : s.Keyed) (selective : request.selectiveRetransmission = true)
    (some_ : indexes ≠ []) : (s.queueing request payload recent indexes).Keyed where
  formed repair := by
    cases repair with
    | true => exact (keyed.formed true).push fun none => some_ (List.map_eq_nil_iff.mp none)
    | false => exact keyed.formed false
  repairs task among := by
    rcases List.mem_append.mp ((RoundRobin.push_tasks ..).mem_iff.mp among) with old | new
    · exact keyed.repairs task old
    · obtain ⟨index, -, rfl⟩ := List.mem_map.mp new
      exact selective
  initials := keyed.initials
  keyed task among := by
    rcases List.mem_append.mp ((queueing_repairTasks ..).mem_iff.mp among) with old | new
    · exact keyed.keyed task old
    · obtain ⟨index, -, rfl⟩ := List.mem_map.mp new
      exact task_repairKey selective index

variable (recent) in
/-- Tasks for indexes that have none leave one for each repair exactly when no index is named
    twice. -/
theorem Coalesced.queueing_iff (coalesced : s.Coalesced)
    (selective : request.selectiveRetransmission = true)
    (free : ∀ index ∈ indexes, fragmentRepairQueueKey request.fragmentId index
      (fragmentRepairTargetScopeKey request.targets) ∉ s.repairPendingKeys) :
    (s.queueing request payload recent indexes).Coalesced ↔ indexes.Nodup := by
  have repairs : (indexes.map (request.task payload)).map PendingFragmentSend.repairOf =
      indexes.map fun index =>
        (request.fragmentId, index, fragmentRepairTargetScopeKey request.targets) := by
    rw [List.map_map]
    rfl
  have parts : ((s.queueing request payload recent indexes).repairTasks.map
      PendingFragmentSend.repairOf).Perm (s.repairTasks.map PendingFragmentSend.repairOf ++
        indexes.map fun index =>
          (request.fragmentId, index, fragmentRepairTargetScopeKey request.targets)) := by
    have perm := (queueing_repairTasks s request payload recent indexes).map
      PendingFragmentSend.repairOf
    rwa [List.map_append, repairs] at perm
  rw [coalesced_iff, parts.nodup_iff, List.nodup_append]
  constructor
  · rintro ⟨⟨-, once, -⟩, -⟩
    exact once.of_map _
  · intro once
    refine ⟨⟨coalesced.single, ?_, ?_⟩, fun key => ?_⟩
    · exact once.map fun _ _ same => (Prod.mk.inj (Prod.mk.inj same).2).1
    · rintro repair old _ new rfl
      obtain ⟨task, among, isRepair⟩ := List.mem_map.mp old
      obtain ⟨index, isIndex, rfl⟩ := List.mem_map.mp new
      exact free index isIndex ((coalesced.pending _ _ _).mpr ⟨task, among, isRepair⟩)
    · have tasks : ∀ task, task ∈ (s.queueing request payload recent indexes).repairTasks ↔
          task ∈ s.repairTasks ∨ task ∈ indexes.map (request.task payload) := fun task => by
        rw [(queueing_repairTasks ..).mem_iff, List.mem_append]
      have keys : key ∈ (s.queueing request payload recent indexes).repairPendingKeys ↔
          key ∈ s.repairPendingKeys ∨
            key ∈ (indexes.map (request.task payload)).map (·.repairKey) :=
        mem_foldl_insertPending
      rw [keys, (coalesced_iff.mp coalesced).2 key]
      simp only [tasks, or_and_right, exists_or]
      apply or_congr_right
      rw [List.mem_map]
      apply exists_congr
      intro task
      apply and_congr_right
      intro new
      obtain ⟨index, -, rfl⟩ := List.mem_map.mp new
      rw [task_repairKey selective]

end

/-! ### Taking and sending -/

variable (settings) in
theorem takeTask_keyed (keyed : s.Keyed) : (s.takeTask settings).1.Keyed ∧
    (s.takeTask settings).1.repairTasks.Perm s.repairTasks ∧
    (s.takeTask settings).1.repairPendingKeys = s.repairPendingKeys := by
  by_cases goes : s.running = true ∧ s.inFlight = none ∧ (0 < s.initial.size ∨ 0 < s.repair.size)
  case neg =>
    rw [takeTask_waits goes]
    exact ⟨keyed, .refl _, rfl⟩
  case pos =>
    obtain ⟨repair, frame, task, queues', pops, -, takes⟩ :=
      takeTask_takes settings keyed.formed goes.1 goes.2.1 goes.2.2
    rw [takes]
    cases repair with
    | true =>
        have perm : s.repair.tasks.Perm (task :: queues'.tasks) := pops.tasks
        have kind : task.selectiveRetransmission = true :=
          keyed.repairs task (perm.mem_iff.mpr List.mem_cons_self)
        have same : (queues'.tasks ++ [task].filter (·.selectiveRetransmission)).Perm
            s.repairTasks := by
          rw [repairTasks, goes.2.1, Option.toList_none, List.filter_nil, List.append_nil,
            List.filter_cons_of_pos kind, List.filter_nil]
          exact (List.perm_append_singleton _ _).trans perm.symm
        refine ⟨⟨?_, ?_, keyed.initials, ?_⟩, same, rfl⟩
        · intro repair
          cases repair with
          | true => exact pops.formed
          | false => exact keyed.formed false
        · intro other among
          exact keyed.repairs other (perm.mem_iff.mpr (List.mem_cons_of_mem _ among))
        · intro other among
          exact keyed.keyed other (same.mem_iff.mp among)
    | false =>
        have perm : s.initial.tasks.Perm (task :: queues'.tasks) := pops.tasks
        have kind : ¬task.selectiveRetransmission = true := by
          rw [keyed.initials task (perm.mem_iff.mpr List.mem_cons_self)]
          exact Bool.false_ne_true
        have same : (s.repair.tasks ++ [task].filter (·.selectiveRetransmission)) =
            s.repairTasks := by
          rw [repairTasks, goes.2.1, List.filter_cons_of_neg kind]
          rfl
        refine ⟨⟨?_, keyed.repairs, ?_, ?_⟩, .of_eq same, rfl⟩
        · intro repair
          cases repair with
          | true => exact keyed.formed true
          | false => exact pops.formed
        · intro other among
          exact keyed.initials other (perm.mem_iff.mpr (List.mem_cons_of_mem _ among))
        · intro other among
          exact keyed.keyed other (same ▸ among)

variable (now) in
/-- A task that has been sent takes its key with it. -/
theorem finishTask_keyed (keyed : s.Keyed) (ret : RmwRet) : (s.finishTask ret now).1.Keyed ∧
    (s.Coalesced → (s.finishTask ret now).1.Coalesced) := by
  unfold finishTask
  split
  case h_1 => exact ⟨keyed, id⟩
  case h_2 task flying =>
    split
    case isTrue kind =>
      have tasks : s.repairTasks = s.repair.tasks ++ [task] := by
        rw [repairTasks, flying, Option.toList_some, List.filter_cons_of_pos kind, List.filter_nil]
      have isKey := keyed.keyed task (by rw [tasks]; simp)
      refine ⟨⟨keyed.formed, keyed.repairs, keyed.initials, ?_⟩, fun coalesced => ?_⟩
      · intro other among
        apply keyed.keyed other
        rw [tasks]
        exact List.mem_append_left _ (List.append_nil s.repair.tasks ▸ among)
      · have left : ∀ ret : Dict Bytes Int, ({ s with
            inFlight := none
            repairPendingKeys := s.repairPendingKeys.filter fun key => key ≠ task.repairKey
            repairRecentSendNs := ret } : FragmentSender).repairTasks = s.repair.tasks :=
          fun _ => List.append_nil _
        have single := coalesced.single
        rw [tasks, List.map_append, List.nodup_append] at single
        rw [coalesced_iff, left]
        refine ⟨single.1, fun key => ?_⟩
        have before := (coalesced_iff.mp coalesced).2 key
        rw [List.mem_filter, before, decide_eq_true_eq, isKey, tasks]
        constructor
        · rintro ⟨⟨other, among, rfl⟩, differs⟩
          rcases List.mem_append.mp among with waits | isTask
          · exact ⟨other, waits, rfl⟩
          · rw [List.mem_singleton.mp isTask] at differs
            exact absurd rfl differs
        · rintro ⟨other, waits, rfl⟩
          refine ⟨⟨other, List.mem_append_left _ waits, rfl⟩, fun same => ?_⟩
          have sameRepair := repairKeyOf_eq_iff.mp same
          exact single.2.2 _ (List.mem_map_of_mem waits) _
            (List.mem_map_of_mem (List.mem_singleton.mpr rfl)) sameRepair
    case isFalse kind =>
      have tasks : ({ s with inFlight := none } : FragmentSender).repairTasks = s.repairTasks := by
        rw [repairTasks, repairTasks, flying, Option.toList_some, List.filter_cons_of_neg kind]
        rfl
      refine ⟨⟨keyed.formed, keyed.repairs, keyed.initials, ?_⟩, ?_⟩
      · intro other among
        exact keyed.keyed other (tasks ▸ among)
      · exact fun coalesced => coalesced.of_perm (.of_eq tasks) rfl

/-! ### Every step -/

theorem enqueue_initial_keyed (keyed : s.Keyed) (waited : Bool)
    (initial : request.selectiveRetransmission = false) :
    (s.enqueueLossResilientFragmentIndexes settings request waited now).sender.Keyed ∧
      (s.enqueueLossResilientFragmentIndexes settings request waited now).sender.repairTasks =
        s.repairTasks ∧
      (s.enqueueLossResilientFragmentIndexes settings request waited now).sender.repairPendingKeys =
        s.repairPendingKeys := by
  unfold enqueueLossResilientFragmentIndexes
  split
  case h_1 => exact ⟨keyed, rfl, rfl⟩
  case h_2 payload _ =>
    split
    case isTrue => exact ⟨keyed, rfl, rfl⟩
    case isFalse given =>
      have some_ : request.indexes ≠ [] := fun none => given (.inr (.inl none))
      rw [if_neg (by rw [initial]; exact Bool.false_ne_true)]
      rcases enqueueInitial_cases settings s payload waited initial some_ with
        ⟨same, -⟩ | ⟨tasks, some_, isOf, -, pushed⟩
      · rw [same]
        exact ⟨keyed, rfl, rfl⟩
      · rw [pushed]
        refine ⟨⟨?_, keyed.repairs, ?_, keyed.keyed⟩, rfl, rfl⟩
        · intro repair
          cases repair with
          | true => exact keyed.formed true
          | false => exact (keyed.formed false).push some_
        · intro task among
          rcases List.mem_append.mp ((RoundRobin.push_tasks ..).mem_iff.mp among) with old | new
          · exact keyed.initials task old
          · exact (PendingFragmentSend.isOf_iff.mp (isOf task new)).1

/-- The state behind a request: nothing is queued, or one task for each index. -/
theorem enqueue_repairs_keyed (keyed : s.Keyed)
    (selective : request.selectiveRetransmission = true) (given : request.payload = some payload) :
    (s.enqueueLossResilientFragmentIndexes settings request false now).sender.Keyed ∧
      (s.Coalesced →
        ((s.enqueueLossResilientFragmentIndexes settings request false now).sender.Coalesced ↔
          (s.queuedRepairs settings request now).Nodup)) := by
  obtain ⟨recent, left⟩ := enqueue_repairs_eq settings s now selective given
  rw [left]
  by_cases none : s.queuedRepairs settings request now = []
  case pos =>
    rw [if_pos none, none]
    refine ⟨⟨keyed.formed, keyed.repairs, keyed.initials, keyed.keyed⟩, fun coalesced => ?_⟩
    refine iff_of_true ?_ List.nodup_nil
    exact coalesced.of_perm (.refl _) rfl
  case neg =>
    rw [if_neg none]
    refine ⟨keyed.queueing recent selective none, fun coalesced => ?_⟩
    apply coalesced.queueing_iff recent selective
    intro index among
    have accepted : index ∈ (s.cleanupRecentFragmentRepairs settings now).acceptedRepairs
        settings request now := by
      unfold queuedRepairs at among
      dsimp only at among
      split at among
      · cases among
      · exact among
    have free := not_pending_of_accepted accepted
    exact free

end FragmentSender

namespace FragmentTransport

variable {settings : FragmentTransportSettings} {t t' : FragmentTransport}

/-- What a datagram does to the queues. -/
theorem handleFragmentRepairRequest_sender (t : FragmentTransport) (datagram : NackDatagram) :
    (t.handleFragmentRepairRequest settings datagram).sender =
      match t.servedRequest settings datagram with
      | some served =>
          if settings.fragmentAsyncSendEnabled then
            (t.sender.enqueueLossResilientFragmentIndexes settings.toFragmentSenderSettings
              served.request false datagram.enqueueNow).sender
          else t.sender
      | none => t.sender := by
  unfold handleFragmentRepairRequest
  split
  case h_1 noRequest =>
    have notServed : t.servedRequest settings datagram = none := by
      rw [servedRequest, noRequest]
    rw [notServed]
  case h_2 =>
    dsimp only
    split
    case h_1 notServed => rw [notServed]
    case h_2 served isServed =>
      rw [isServed]
      dsimp only
      split
      case isTrue noTarget =>
        have unchanged : (t.sender.enqueueLossResilientFragmentIndexes
            settings.toFragmentSenderSettings served.request false datagram.enqueueNow).sender =
            t.sender := by
          unfold FragmentSender.enqueueLossResilientFragmentIndexes
          split
          · rfl
          · rw [if_pos (.inl noTarget)]
        rw [unchanged, ite_self]
      case isFalse =>
        split
        · split
          · rfl
          · rfl
        · split
          · rfl
          · rfl

theorem servedRequest_request {datagram : NackDatagram} {served : ServedRequest}
    (isServed : t.servedRequest settings datagram = some served) :
    served.request.selectiveRetransmission = true ∧
      ∃ payload, served.request.payload = some payload := by
  unfold servedRequest at isServed
  split at isServed
  · cases isServed
  · split at isServed
    · cases isServed
    · split at isServed
      · cases isServed
      · split at isServed
        · cases isServed
        · split at isServed
          · cases isServed
          · obtain rfl := Option.some.inj isServed
            exact ⟨rfl, _, rfl⟩

/-- No request that is served puts an index into the queue twice. -/
def AsksOnce (settings : FragmentTransportSettings) (t : FragmentTransport) : FragmentEvent → Prop
  | .nack datagram =>
      match t.servedRequest settings datagram with
      | some served => settings.fragmentAsyncSendEnabled = true →
          (t.sender.queuedRepairs settings.toFragmentSenderSettings served.request
            datagram.enqueueNow).Nodup
      | none => True
  | .send _ | .take | .finish _ _ | .stop => True

theorem sendFragmentedPayload_sender (keyed : t.sender.Keyed) (send : FragmentedSend) :
    (t.sendFragmentedPayload settings send).sender.Keyed ∧
      (t.sendFragmentedPayload settings send).sender.repairTasks = t.sender.repairTasks ∧
      (t.sendFragmentedPayload settings send).sender.repairPendingKeys =
        t.sender.repairPendingKeys := by
  have remembered (count : Nat) :
      (t.rememberFragmentHistory settings send count).sender = t.sender := by
    unfold rememberFragmentHistory
    split
    · rfl
    · rfl
  unfold sendFragmentedPayload
  split
  · exact ⟨keyed, rfl, rfl⟩
  · dsimp only
    split
    · exact ⟨keyed, rfl, rfl⟩
    · split
      · dsimp only
        rw [remembered]
        exact FragmentSender.enqueue_initial_keyed keyed _ rfl
      · rw [remembered]
        exact ⟨keyed, rfl, rfl⟩

/-- A step keeps the tasks apart exactly when it is no request that names one twice. -/
theorem step_exact {e : FragmentEvent} (keyed : t.sender.Keyed) (h : t.step settings e = some t') :
    t'.sender.Keyed ∧ (t.sender.Coalesced → (t.AsksOnce settings e ↔ t'.sender.Coalesced)) := by
  cases e with
  | send send =>
      obtain rfl := Option.some.inj h
      obtain ⟨keyed', tasks, pending⟩ := sendFragmentedPayload_sender keyed send
      refine ⟨keyed', fun coalesced => iff_of_true True.intro ?_⟩
      exact coalesced.of_perm (.of_eq tasks) pending
  | nack datagram =>
      obtain rfl := Option.some.inj h
      simp only [AsksOnce]
      rw [handleFragmentRepairRequest_sender]
      split
      case h_1 served isServed =>
        obtain ⟨selective, payload, given⟩ := servedRequest_request isServed
        split
        case isTrue async =>
          obtain ⟨keyed', exact_⟩ := FragmentSender.enqueue_repairs_keyed keyed selective given
          refine ⟨keyed', fun coalesced => ?_⟩
          rw [exact_ coalesced]
          exact ⟨fun once => once async, fun once _ => once⟩
        case isFalse direct =>
          exact ⟨keyed, fun coalesced => iff_of_true (fun async => absurd async direct) coalesced⟩
      case h_2 => exact ⟨keyed, fun coalesced => iff_of_true True.intro coalesced⟩
  | take =>
      obtain rfl := Option.some.inj h
      obtain ⟨keyed', tasks, pending⟩ := FragmentSender.takeTask_keyed
        settings.toFragmentSenderSettings keyed
      refine ⟨keyed', fun coalesced => iff_of_true True.intro ?_⟩
      exact coalesced.of_perm tasks pending
  | finish ret now =>
      obtain rfl := Option.some.inj h
      obtain ⟨keyed', keeps⟩ := FragmentSender.finishTask_keyed now keyed ret
      exact ⟨keyed', fun coalesced => iff_of_true True.intro (keeps coalesced)⟩
  | stop =>
      obtain rfl := Option.some.inj h
      refine ⟨⟨keyed.formed, keyed.repairs, keyed.initials, keyed.keyed⟩, fun coalesced => ?_⟩
      refine iff_of_true True.intro ?_
      exact coalesced.of_perm (.refl _) rfl

theorem keyed_start : ({} : FragmentTransport).sender.Keyed where
  formed repair := by
    cases repair with
    | true => exact .empty
    | false => exact .empty
  repairs := nofun
  initials := nofun
  keyed := nofun

theorem coalesced_start : ({} : FragmentTransport).sender.Coalesced :=
  FragmentSender.coalesced_iff.mpr ⟨List.nodup_nil, fun _ => iff_of_false nofun nofun⟩

/-- Every run keeps one task for each repair in all its states exactly when none of its requests
    puts an index into the queue twice. -/
theorem repairs_coalesced_iff (settings : FragmentTransportSettings)
    (events : List FragmentEvent) :
    RunMeets (step settings) (AsksOnce settings) {} events ↔
      ∀ past, past <+: events → ∀ t, run (step settings) {} past = some t →
        t.sender.Coalesced :=
  runMeets_iff (I := fun t => t.sender.Coalesced) (J := fun t => t.sender.Keyed)
    (fun keyed h => (step_exact keyed h).1) (fun keyed coalesced h => (step_exact keyed h).2 coalesced)
    (fun _ e => by cases e <;> rfl) keyed_start coalesced_start events

/-! ### An index named twice -/

def reader : SockaddrIn := ⟨1, 1⟩

/-- A frame of six fragments is sent, and its reader asks for the fragments `5,3,5`. -/
def requestedTwice : List FragmentEvent :=
  [.send
    { payload := octets "abcdef"
      targets := [reader]
      fragmentId := octets "f"
      chunkBytes := 1
      isDataFrame := true
      now := 1000
      waited := false },
    .nack
      { payload := repairFragmentNackText ++ octets "f|6|5,3,5"
        source := some reader
        now := 2000
        enqueueNow := 2000
        answered := 2000
        sendRet := .ok }]

theorem repeated_index_queued_twice : ¬∀ (settings : FragmentTransportSettings)
    (events : List FragmentEvent) (t : FragmentTransport),
    run (step settings) {} events = some t → t.sender.Coalesced := by
  intro all
  have once := (all {} requestedTwice _ rfl).single
  exact absurd once (by decide)

end FragmentTransport

end FleetRMW.Rmw
