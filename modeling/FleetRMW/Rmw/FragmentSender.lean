import FleetRMW.Lib.RoundRobin
import FleetRMW.Rmw.Retention
import FleetRMW.Rmw.Router

/-! # The fragment sender

One loop sends the fragments of all frames. The first sending of a frame and the repairs that
its readers ask for wait in queues of their own, and in each kind the frames take turns. While
repairs wait, only a few initial fragments go before the next one.
-/

namespace FleetRMW.Rmw

open Lib

/-! ## Keys -/

/-- `endpoint_to_string` -/
def endpointToString (endpoint : SockaddrIn) : Bytes :=
  let address := endpoint.address.toNat
  [46].intercalate [decimal (address / 2 ^ 24), decimal (address / 2 ^ 16 % 256),
    decimal (address / 2 ^ 8 % 256), decimal (address % 256)] ++ 58 :: decimal endpoint.port.toNat

/-- `!(right < left)`, as the texts of endpoints are sorted. -/
def endpointLe (left right : Bytes) : Bool := !right.lex left fun a b => a < b

def fragmentRepairTargetScopeKey (targets : List SockaddrIn) : Bytes :=
  [44].intercalate (((targets.map endpointToString).insertionSort
    fun left right => endpointLe left right = true).destutter fun left right => left ≠ right)

def fragmentRepairQueueKey (fragmentId : Bytes) (fragmentIndex : Nat) (targetScope : Bytes) :
    Bytes :=
  fragmentId ++ 124 :: (decimal fragmentIndex ++ 124 :: targetScope)

def fragmentRepairFrameQueueKey (fragmentId targetScope : Bytes) : Bytes :=
  fragmentId ++ 124 :: targetScope

/-! ## Tasks -/

structure PendingFragmentSend where
  payload : Bytes
  targets : List SockaddrIn
  fragmentId : Bytes
  chunkBytes : Nat
  fragmentCount : Nat
  fragmentIndex : Nat
  isDataFrame : Bool
  selectiveRetransmission : Bool
  repairKey : Bytes
  initialSendCompletion : Bool := false
  deriving Repr, DecidableEq

/-- The key of the queue that the task belongs to. -/
def PendingFragmentSend.frame (task : PendingFragmentSend) : Bytes :=
  if task.selectiveRetransmission then
    fragmentRepairFrameQueueKey task.fragmentId (fragmentRepairTargetScopeKey task.targets)
  else task.fragmentId

structure FragmentSenderSettings where
  fragmentSendQueueLimit : Nat := 32768
  fragmentQueueAdmissionThreshold : Nat := 0
  fragmentRepairQueueLimit : Nat := 64
  fragmentRepairCooldownMs : Nat := 100
  fragmentHistoryLimit : Nat := 1024

structure FragmentSender where
  running : Bool := true
  initial : RoundRobin Bytes PendingFragmentSend := {}
  repair : RoundRobin Bytes PendingFragmentSend := {}
  /-- `fragment_repair_pending_keys_`, each key once. -/
  repairPendingKeys : List Bytes := []
  repairRecentSendNs : Dict Bytes Int := []
  consecutiveInitialFragments : Nat := 0
  /-- What the loop has taken and not yet sent. -/
  inFlight : Option PendingFragmentSend := none

/-- The arguments of `enqueue_loss_resilient_fragment_indexes`. -/
structure FragmentRequest where
  payload : Option Bytes
  targets : List SockaddrIn
  isDataFrame : Bool
  fragmentId : Bytes
  chunkBytes : Nat
  fragmentCount : Nat
  indexes : List Nat
  selectiveRetransmission : Bool

def FragmentRequest.task (request : FragmentRequest) (payload : Bytes) (index : Nat) :
    PendingFragmentSend where
  payload := payload
  targets := request.targets
  fragmentId := request.fragmentId
  chunkBytes := request.chunkBytes
  fragmentCount := request.fragmentCount
  fragmentIndex := index
  isDataFrame := request.isDataFrame
  selectiveRetransmission := request.selectiveRetransmission
  repairKey :=
    if request.selectiveRetransmission then
      fragmentRepairQueueKey request.fragmentId index
        (fragmentRepairTargetScopeKey request.targets)
    else []

/-- `found->second.back().initial_send_completion = true` -/
def completesInitialSend : List PendingFragmentSend → List PendingFragmentSend
  | [] => []
  | [task] => [{ task with initialSendCompletion := true }]
  | task :: next :: rest => task :: completesInitialSend (next :: rest)

/-- What a call leaves and answers, and the tasks that it has queued. -/
structure Enqueued where
  sender : FragmentSender
  ret : RmwRet
  tasks : List PendingFragmentSend := []

def insertPending (pending : List Bytes) (key : Bytes) : List Bytes :=
  if pending.any fun other => other = key then pending else pending ++ [key]

/-- What the loop sends for a task. -/
inductive FragmentSenderOutput where
  | fragment (task : PendingFragmentSend)
  | completionMarker (targets : List SockaddrIn) (fragmentId : Bytes) (fragmentCount : Nat)
      (totalSize : Nat) (isDataFrame : Bool)

namespace FragmentSender

variable (settings : FragmentSenderSettings)

/-! ## Adding tasks -/

/-- `cleanup_recent_fragment_repairs_locked` -/
def cleanupRecentFragmentRepairs (s : FragmentSender) (now : Int) : FragmentSender :=
  let kept := s.repairRecentSendNs.filter fun e => ¬now - e.2 > fragmentHistoryTtlNs
  { s with
    repairRecentSendNs :=
      Dict.evictWhileAtLeast id (max 64 (max settings.fragmentHistoryLimit 1 * 64) + 1) kept }

/-- A task with this key waits or has just been sent. -/
def coalesces (s : FragmentSender) (now : Int) (key : Bytes) : Bool :=
  (s.repairPendingKeys.any fun pending => pending = key) ||
    (0 < settings.fragmentRepairCooldownMs &&
      match s.repairRecentSendNs.get? key with
      | some recent => now - recent < settings.fragmentRepairCooldownMs * 1000000
      | none => false)

/-- The queues have no room for so many tasks. -/
def isFull (s : FragmentSender) (count : Nat) : Bool :=
  count > settings.fragmentSendQueueLimit - (s.initial.size + s.repair.size)

/-- The indexes that are to be queued: not those that are coalesced, and no more than fit. -/
def acceptedRepairs (s : FragmentSender) (request : FragmentRequest) (now : Int) : List Nat :=
  let wanted := request.indexes.filter fun index =>
    !s.coalesces settings now (fragmentRepairQueueKey request.fragmentId index
      (fragmentRepairTargetScopeKey request.targets))
  if 0 < settings.fragmentRepairQueueLimit then
    wanted.take (settings.fragmentRepairQueueLimit - s.repair.size)
  else wanted

/-- The part for selective retransmissions. -/
def enqueueRepairs (s : FragmentSender) (request : FragmentRequest) (payload : Bytes)
    (now : Int) : Enqueued :=
  let s := s.cleanupRecentFragmentRepairs settings now
  let accepted := s.acceptedRepairs settings request now
  if accepted = [] then
    { sender := s
      ret := if request.indexes.all fun index => s.coalesces settings now
          (fragmentRepairQueueKey request.fragmentId index
            (fragmentRepairTargetScopeKey request.targets)) then .ok else .timeout }
  else if s.isFull settings accepted.length then { sender := s, ret := .error }
  else
    let tasks := accepted.map (request.task payload)
    { sender := { s with
        repair := s.repair.push (fragmentRepairFrameQueueKey request.fragmentId
          (fragmentRepairTargetScopeKey request.targets)) tasks
        repairPendingKeys := (tasks.map (·.repairKey)).foldl insertPending s.repairPendingKeys }
      ret := .ok
      tasks }

/-- The part for the first sending of a frame. The call may have waited for room before: then it
    ends when the sender stops. -/
def enqueueInitial (s : FragmentSender) (request : FragmentRequest) (payload : Bytes)
    (waited : Bool) : Enqueued :=
  let count := request.indexes.length
  let threshold := settings.fragmentQueueAdmissionThreshold
  let admits := !s.running || count ≤ max count threshold - (s.initial.size + s.repair.size)
  if 0 < threshold ∧ (!admits ∨ waited ∧ !s.running) then { sender := s, ret := .timeout }
  else if s.isFull settings count then { sender := s, ret := .error }
  else
    let tasks := completesInitialSend (request.indexes.map (request.task payload))
    { sender := { s with initial := s.initial.push request.fragmentId tasks }
      ret := .ok
      tasks }

/-- `enqueue_loss_resilient_fragment_indexes` -/
def enqueueLossResilientFragmentIndexes (s : FragmentSender) (request : FragmentRequest)
    (waited : Bool) (now : Int) : Enqueued :=
  match request.payload with
  | none => { sender := s, ret := .invalidArgument }
  | some payload =>
      if request.targets = [] ∨ request.indexes = [] ∨
          request.indexes.any fun index => index ≥ request.fragmentCount then
        { sender := s, ret := .invalidArgument }
      else if request.selectiveRetransmission then s.enqueueRepairs settings request payload now
      else s.enqueueInitial settings request payload waited

/-! ## The loop -/

/-- The more repairs wait, the fewer initial fragments go before them. -/
def effectiveInitialBurst (s : FragmentSender) : Nat :=
  if 0 < s.repair.size ∧ 0 < settings.fragmentRepairQueueLimit then
    if s.repair.size * 4 ≥ settings.fragmentRepairQueueLimit * 3 then 1
    else if s.repair.size * 2 ≥ settings.fragmentRepairQueueLimit then 2
    else if s.repair.size * 4 ≥ settings.fragmentRepairQueueLimit then 4
    else 8
  else 8

def choosesRepair (s : FragmentSender) : Bool :=
  0 < s.repair.size &&
    (s.initial.size = 0 || s.effectiveInitialBurst settings ≤ s.consecutiveInitialFragments)

/-- A turn of `fragment_sender_loop` up to where it sends, and what it has taken. Where it stays in
    the wait, has ended, or finds a turn without a task, it has taken nothing. -/
def takeTask (s : FragmentSender) : FragmentSender × Option PendingFragmentSend :=
  if !s.running ∨ s.inFlight.isSome ∨ s.initial.size = 0 ∧ s.repair.size = 0 then (s, none)
  else if s.choosesRepair settings then
    match s.repair.pop with
    | (repair, none) => ({ s with repair }, none)
    | (repair, some (_, task)) =>
        ({ s with repair, inFlight := some task, consecutiveInitialFragments := 0 }, some task)
  else
    match s.initial.pop with
    | (initial, none) => ({ s with initial }, none)
    | (initial, some (_, task)) =>
        ({ s with
            initial
            inFlight := some task
            consecutiveInitialFragments := s.consecutiveInitialFragments + 1 },
          some task)

/-- The rest of the turn: the task is sent, with the answer `ret`. -/
def finishTask (s : FragmentSender) (ret : RmwRet) (now : Int) :
    FragmentSender × List FragmentSenderOutput :=
  match s.inFlight with
  | none => (s, [])
  | some task =>
      if task.selectiveRetransmission then
        ({ s with
            inFlight := none
            repairPendingKeys := s.repairPendingKeys.filter fun key => key ≠ task.repairKey
            repairRecentSendNs :=
              if ret = .ok then s.repairRecentSendNs.set task.repairKey now
              else s.repairRecentSendNs },
          [.fragment task])
      else
        ({ s with inFlight := none },
          .fragment task :: if task.initialSendCompletion ∧ ret = .ok then
            [.completionMarker task.targets task.fragmentId task.fragmentCount
              task.payload.length task.isDataFrame] else [])

/-- The queues of one kind. -/
def queues (s : FragmentSender) (repair : Bool) : RoundRobin Bytes PendingFragmentSend :=
  if repair then s.repair else s.initial

@[simp] theorem queues_true (s : FragmentSender) : s.queues true = s.repair := rfl

@[simp] theorem queues_false (s : FragmentSender) : s.queues false = s.initial := rfl

end FragmentSender

/-! ## Runs -/

/-- The task is for this frame, and of this kind. -/
def PendingFragmentSend.isOf (repair : Bool) (frame : Bytes) (task : PendingFragmentSend) : Bool :=
  task.selectiveRetransmission = repair && task.frame = frame

def FragmentSenderOutput.fragment? : FragmentSenderOutput → Option PendingFragmentSend
  | fragment task => some task
  | completionMarker .. => none

/-- The sender, the tasks that it has accepted and those that the loop has taken, and what the loop
    has sent. -/
structure SenderRun where
  sender : FragmentSender := {}
  accepted : List PendingFragmentSend := []
  taken : List PendingFragmentSend := []
  outputs : List FragmentSenderOutput := []

def SenderRun.sent (r : SenderRun) : List PendingFragmentSend :=
  r.outputs.filterMap FragmentSenderOutput.fragment?

inductive SenderEvent where
  | enqueue (request : FragmentRequest) (waited : Bool) (now : Int)
  | take
  | finish (ret : RmwRet) (now : Int)
  /-- `fragment_sender_running_.store(false)` -/
  | stop

section
variable (settings : FragmentSenderSettings)

def SenderRun.step (r : SenderRun) : SenderEvent → Option SenderRun
  | .enqueue request waited now =>
      let enqueued :=
        r.sender.enqueueLossResilientFragmentIndexes settings request waited now
      some { r with sender := enqueued.sender, accepted := r.accepted ++ enqueued.tasks }
  | .take =>
      let (sender, task) := r.sender.takeTask settings
      some { r with sender, taken := r.taken ++ task.toList }
  | .finish ret now =>
      let (sender, outputs) := r.sender.finishTask ret now
      some { r with sender, outputs := r.outputs ++ outputs }
  | .stop => some { r with sender := { r.sender with running := false } }

end

/-! ## What a step does -/

/-- Nothing is queued or taken; a task in flight may be sent. -/
structure Rests (r r' : SenderRun) : Prop where
  queues : ∀ repair, r'.sender.queues repair = r.sender.queues repair
  accepted : r'.accepted = r.accepted
  taken : r'.taken = r.taken
  sent : r'.sent ++ r'.sender.inFlight.toList = r.sent ++ r.sender.inFlight.toList
  consecutive : r'.sender.consecutiveInitialFragments = r.sender.consecutiveInitialFragments

/-- Tasks of one frame are queued. -/
structure Adds (repair : Bool) (frame : Bytes) (tasks : List PendingFragmentSend)
    (r r' : SenderRun) : Prop where
  some_ : tasks ≠ []
  isOf : ∀ task ∈ tasks, task.isOf repair frame = true
  queues : r'.sender.queues repair = (r.sender.queues repair).push frame tasks
  others : r'.sender.queues (!repair) = r.sender.queues (!repair)
  accepted : r'.accepted = r.accepted ++ tasks
  taken : r'.taken = r.taken
  sent : r'.sent ++ r'.sender.inFlight.toList = r.sent ++ r.sender.inFlight.toList
  consecutive : r'.sender.consecutiveInitialFragments = r.sender.consecutiveInitialFragments

/-- A task is taken. -/
structure Takes (repair : Bool) (frame : Bytes) (task : PendingFragmentSend)
    (r r' : SenderRun) : Prop where
  pops : (r.sender.queues repair).Pops frame task (r'.sender.queues repair)
  others : r'.sender.queues (!repair) = r.sender.queues (!repair)
  accepted : r'.accepted = r.accepted
  taken : r'.taken = r.taken ++ [task]
  idle : r.sender.inFlight = none
  inFlight : r'.sender.inFlight = some task
  outputs : r'.outputs = r.outputs
  consecutive : r'.sender.consecutiveInitialFragments =
    if repair then 0 else r.sender.consecutiveInitialFragments + 1
  patient : repair = false → 0 < r.sender.repair.size →
    r.sender.consecutiveInitialFragments < 8

section
variable {settings : FragmentSenderSettings} {r r' : SenderRun}

theorem mem_completesInitialSend {tasks : List PendingFragmentSend} {task : PendingFragmentSend}
    (among : task ∈ completesInitialSend tasks) :
    ∃ task' ∈ tasks, ∃ completion, task = { task' with initialSendCompletion := completion } := by
  induction tasks with
  | nil => cases among
  | cons first rest ih =>
      cases rest with
      | nil =>
          obtain rfl := List.mem_singleton.mp among
          exact ⟨first, List.mem_cons_self, true, rfl⟩
      | cons next rest =>
          rcases List.mem_cons.mp among with rfl | later
          · exact ⟨_, List.mem_cons_self, _, rfl⟩
          · obtain ⟨task', among', same⟩ := ih later
            exact ⟨task', List.mem_cons_of_mem _ among', same⟩

theorem completesInitialSend_ne_nil {tasks : List PendingFragmentSend} (some_ : tasks ≠ []) :
    completesInitialSend tasks ≠ [] := by
  cases tasks with
  | nil => exact absurd rfl some_
  | cons first rest => cases rest <;> exact List.cons_ne_nil _ _

namespace FragmentSender

variable {s : FragmentSender} {request : FragmentRequest} {payload : Bytes} {now : Int}

variable (settings s payload now) in
/-- A call for repairs leaves the queues, or puts repairs of one frame into them. -/
theorem enqueueRepairs_cases (selective : request.selectiveRetransmission = true) :
    ∃ sender, (s.enqueueRepairs settings request payload now).sender = sender ∧
      sender.initial = s.initial ∧ sender.inFlight = s.inFlight ∧
      sender.consecutiveInitialFragments = s.consecutiveInitialFragments ∧
      ((s.enqueueRepairs settings request payload now).tasks = [] ∧ sender.repair = s.repair ∨
        ∃ frame, (s.enqueueRepairs settings request payload now).tasks ≠ [] ∧
          (∀ task ∈ (s.enqueueRepairs settings request payload now).tasks,
            task.isOf true frame = true) ∧
          sender.repair =
            s.repair.push frame (s.enqueueRepairs settings request payload now).tasks) := by
  refine ⟨_, rfl, ?_⟩
  unfold enqueueRepairs
  dsimp only
  split
  case isTrue => exact ⟨rfl, rfl, rfl, .inl ⟨rfl, rfl⟩⟩
  case isFalse some_ =>
    split
    case isTrue => exact ⟨rfl, rfl, rfl, .inl ⟨rfl, rfl⟩⟩
    case isFalse =>
      refine ⟨rfl, rfl, rfl, .inr ⟨_, fun none => some_ (List.map_eq_nil_iff.mp none), ?_, rfl⟩⟩
      intro task among
      obtain ⟨index, -, rfl⟩ := List.mem_map.mp among
      simp [PendingFragmentSend.isOf, PendingFragmentSend.frame, FragmentRequest.task, selective]

variable (settings s payload) in
/-- A call for initial fragments leaves the queues, or puts fragments of one frame into them. -/
theorem enqueueInitial_cases (waited : Bool) (initial : request.selectiveRetransmission = false)
    (some_ : request.indexes ≠ []) :
    (s.enqueueInitial settings request payload waited).sender = s ∧
        (s.enqueueInitial settings request payload waited).tasks = [] ∨
      ∃ tasks, tasks ≠ [] ∧ (∀ task ∈ tasks, task.isOf false request.fragmentId = true) ∧
        (s.enqueueInitial settings request payload waited).tasks = tasks ∧
        (s.enqueueInitial settings request payload waited).sender =
          { s with initial := s.initial.push request.fragmentId tasks } := by
  unfold enqueueInitial
  dsimp only
  split
  case isTrue => exact .inl ⟨rfl, rfl⟩
  case isFalse =>
    split
    case isTrue => exact .inl ⟨rfl, rfl⟩
    case isFalse =>
      refine .inr ⟨_, completesInitialSend_ne_nil fun none => some_ (List.map_eq_nil_iff.mp none),
        ?_, rfl, rfl⟩
      intro task among
      obtain ⟨task', among', completion, rfl⟩ := mem_completesInitialSend among
      obtain ⟨index, -, rfl⟩ := List.mem_map.mp among'
      simp [PendingFragmentSend.isOf, PendingFragmentSend.frame, FragmentRequest.task, initial]

variable (settings s request now) in
/-- What a call has queued is behind the other tasks of its frame. -/
theorem enqueue_cases (waited : Bool) :
    ∃ enqueued, s.enqueueLossResilientFragmentIndexes settings request waited now = enqueued ∧
      enqueued.sender.inFlight = s.inFlight ∧
      enqueued.sender.consecutiveInitialFragments = s.consecutiveInitialFragments ∧
      ((enqueued.tasks = [] ∧ ∀ repair, enqueued.sender.queues repair = s.queues repair) ∨
        ∃ repair frame, enqueued.tasks ≠ [] ∧
          (∀ task ∈ enqueued.tasks, task.isOf repair frame = true) ∧
          enqueued.sender.queues repair = (s.queues repair).push frame enqueued.tasks ∧
          enqueued.sender.queues (!repair) = s.queues (!repair)) := by
  refine ⟨_, rfl, ?_⟩
  unfold enqueueLossResilientFragmentIndexes
  split
  case h_1 => exact ⟨rfl, rfl, .inl ⟨rfl, fun _ => rfl⟩⟩
  case h_2 payload _ =>
    split
    case isTrue => exact ⟨rfl, rfl, .inl ⟨rfl, fun _ => rfl⟩⟩
    case isFalse given =>
      split
      case isTrue selective =>
        obtain ⟨_, rfl, initial, inFlight, consecutive, queued⟩ :=
          enqueueRepairs_cases settings s payload now selective
        refine ⟨inFlight, consecutive, ?_⟩
        rcases queued with ⟨none, same⟩ | ⟨frame, some_, isOf, pushed⟩
        · refine .inl ⟨none, fun repair => ?_⟩
          cases repair with
          | true => exact same
          | false => exact initial
        · exact .inr ⟨true, frame, some_, isOf, pushed, initial⟩
      case isFalse initial =>
        have some_ : request.indexes ≠ [] := fun none => given (.inr (.inl none))
        rcases enqueueInitial_cases settings s payload waited (Bool.not_eq_true _ ▸ initial)
          some_ with
          ⟨same, none⟩ | ⟨tasks, some_, isOf, queued, pushed⟩
        · rw [same, none]
          exact ⟨rfl, rfl, .inl ⟨rfl, fun _ => rfl⟩⟩
        · rw [pushed, queued]
          exact ⟨rfl, rfl, .inr ⟨false, _, some_, isOf, rfl, rfl⟩⟩

variable (settings s) in
theorem effectiveInitialBurst_le : s.effectiveInitialBurst settings ≤ 8 := by
  unfold effectiveInitialBurst
  grind

variable (settings) in
/-- The loop takes a task whenever it does not have to wait. -/
theorem takeTask_takes (formed : ∀ repair, (s.queues repair).WellFormed)
    (running : s.running = true) (idle : s.inFlight = none)
    (waiting : 0 < s.initial.size ∨ 0 < s.repair.size) :
    ∃ repair frame task queues', (s.queues repair).Pops frame task queues' ∧
      (repair = false → 0 < s.repair.size → s.consecutiveInitialFragments < 8) ∧
      s.takeTask settings =
        ({ s with
            initial := if repair then s.initial else queues'
            repair := if repair then queues' else s.repair
            inFlight := some task
            consecutiveInitialFragments :=
              if repair then 0 else s.consecutiveInitialFragments + 1 },
          some task) := by
  unfold takeTask
  rw [if_neg (by simp [running, idle]; omega)]
  by_cases chooses : s.choosesRepair settings = true
  case pos =>
    have some_ : 0 < s.repair.size := by
      have both := (Bool.and_eq_true _ _).mp chooses
      exact of_decide_eq_true both.1
    obtain ⟨frame, task, queues', pops⟩ := (formed true).exists_pops some_
    refine ⟨true, frame, task, queues', pops, nofun, ?_⟩
    have popped : s.repair.pop = (queues', some (frame, task)) := pops.pop_eq
    rw [if_pos chooses, popped]
    rfl
  case neg =>
    have some_ : 0 < s.initial.size := by
      by_contra none
      apply chooses
      have repairs : 0 < s.repair.size := waiting.resolve_left none
      have empty : s.initial.size = 0 := by omega
      simp [choosesRepair, repairs, empty]
    obtain ⟨frame, task, queues', pops⟩ := (formed false).exists_pops some_
    refine ⟨false, frame, task, queues', pops, ?_, ?_⟩
    · intro _ repairs
      have burst := effectiveInitialBurst_le settings s
      by_contra many
      apply chooses
      have reached : s.effectiveInitialBurst settings ≤ s.consecutiveInitialFragments := by omega
      simp [choosesRepair, repairs, reached]
    · have popped : s.initial.pop = (queues', some (frame, task)) := pops.pop_eq
      rw [if_neg chooses, popped]
      rfl

/-- Where it takes none, it leaves the queues as they are. -/
theorem takeTask_waits
    (waits : ¬(s.running = true ∧ s.inFlight = none ∧ (0 < s.initial.size ∨ 0 < s.repair.size))) :
    s.takeTask settings = (s, none) := by
  unfold takeTask
  apply if_pos
  by_contra goes
  apply waits
  simp only [Bool.not_eq_true', not_or, Bool.not_eq_false, Option.isSome_eq_false_iff,
    Bool.not_eq_true, Option.isNone_iff_eq_none] at goes
  refine ⟨goes.1, goes.2.1, ?_⟩
  have some_ := goes.2.2
  omega

variable (s now) in
/-- A task in flight is sent, and nothing else. -/
theorem finishTask_sends (ret : RmwRet) : ∃ outputs,
    (s.finishTask ret now).2 = outputs ∧
      outputs.filterMap FragmentSenderOutput.fragment? = s.inFlight.toList ∧
      (s.finishTask ret now).1.inFlight = none ∧
      (∀ repair, (s.finishTask ret now).1.queues repair = s.queues repair) ∧
      (s.finishTask ret now).1.running = s.running ∧
      (s.finishTask ret now).1.consecutiveInitialFragments = s.consecutiveInitialFragments := by
  refine ⟨_, rfl, ?_⟩
  unfold finishTask
  cases flying : s.inFlight with
  | none => exact ⟨rfl, flying, fun _ => rfl, rfl, rfl⟩
  | some task =>
      dsimp only
      split
      case isTrue => exact ⟨rfl, rfl, fun _ => rfl, rfl, rfl⟩
      case isFalse =>
        refine ⟨?_, rfl, fun _ => rfl, rfl, rfl⟩
        split
        · rfl
        · rfl

end FragmentSender

/-- A step queues tasks of one frame, takes a task, or does neither. -/
theorem SenderRun.step_cases {e : SenderEvent} (formed : ∀ repair, (r.sender.queues repair).WellFormed)
    (h : r.step settings e = some r') :
    Rests r r' ∨ (∃ repair frame tasks, Adds repair frame tasks r r') ∨
      ∃ repair frame task, Takes repair frame task r r' := by
  cases e with
  | enqueue request waited now =>
      obtain ⟨enqueued, isCall, inFlight, consecutive, queued⟩ :=
        FragmentSender.enqueue_cases settings r.sender request now waited
      simp only [step, isCall] at h
      obtain rfl := Option.some.inj h
      rcases queued with ⟨none, same⟩ | ⟨repair, frame, some_, isOf, pushed, others⟩
      · refine .inl ⟨same, ?_, rfl, ?_, consecutive⟩
        · rw [none, List.append_nil]
        · rw [inFlight]
          rfl
      · refine .inr (.inl ⟨repair, frame, enqueued.tasks, some_, isOf, pushed, others, rfl, rfl,
          ?_, consecutive⟩)
        rw [inFlight]
        rfl
  | take =>
      by_cases goes : r.sender.running = true ∧ r.sender.inFlight = none ∧
          (0 < r.sender.initial.size ∨ 0 < r.sender.repair.size)
      case pos =>
        obtain ⟨repair, frame, task, queues', pops, patient, takes⟩ :=
          FragmentSender.takeTask_takes settings formed goes.1 goes.2.1 goes.2.2
        simp only [step, takes] at h
        obtain rfl := Option.some.inj h
        refine .inr (.inr ⟨repair, frame, task, ?_, ?_, rfl, rfl, goes.2.1, rfl, rfl, rfl, patient⟩)
        · cases repair with
          | true => exact pops
          | false => exact pops
        · cases repair with
          | true => rfl
          | false => rfl
      case neg =>
        simp only [step, FragmentSender.takeTask_waits goes] at h
        obtain rfl := Option.some.inj h
        exact .inl ⟨fun _ => rfl, rfl, List.append_nil _, rfl, rfl⟩
  | finish ret now =>
      obtain ⟨outputs, isOutput, sends, landed, same, -, consecutive⟩ :=
        FragmentSender.finishTask_sends r.sender now ret
      simp only [step, isOutput] at h
      obtain rfl := Option.some.inj h
      refine .inl ⟨same, rfl, rfl, ?_, consecutive⟩
      rw [landed, SenderRun.sent, SenderRun.sent, List.filterMap_append, sends]
      exact List.append_nil _
  | stop =>
      obtain rfl := Option.some.inj h
      exact .inl ⟨fun _ => rfl, rfl, rfl, rfl, rfl⟩

end

/-! ## Nothing is lost -/

/-- The queues are well formed, and what was accepted has been taken or waits, in its order. -/
structure SenderRun.Sound (r : SenderRun) : Prop where
  formed : ∀ repair, (r.sender.queues repair).WellFormed
  sent : r.taken = r.sent ++ r.sender.inFlight.toList
  accounted : ∀ repair frame, r.accepted.filter (·.isOf repair frame) =
    r.taken.filter (·.isOf repair frame) ++ (r.sender.queues repair).queue frame

section
variable {settings : FragmentSenderSettings} {r r' : SenderRun} {repair : Bool} {frame : Bytes}
  {task : PendingFragmentSend} {tasks : List PendingFragmentSend}

theorem PendingFragmentSend.isOf_iff : task.isOf repair frame = true ↔
    task.selectiveRetransmission = repair ∧ task.frame = frame := by
  rw [isOf, Bool.and_eq_true, decide_eq_true_eq, decide_eq_true_eq]

/-- Tasks of one frame are all counted with it and with no other. -/
theorem filter_isOf (isOf : ∀ task ∈ tasks, task.isOf repair frame = true) (repair' : Bool)
    (frame' : Bytes) : tasks.filter (·.isOf repair' frame') =
      if repair' = repair ∧ frame' = frame then tasks else [] := by
  split
  case isTrue same =>
    rw [same.1, same.2]
    exact List.filter_eq_self.mpr isOf
  case isFalse other =>
    apply List.filter_eq_nil_iff.mpr
    intro task among isOther
    obtain ⟨kind, here⟩ := PendingFragmentSend.isOf_iff.mp (isOf task among)
    obtain ⟨kind', here'⟩ := PendingFragmentSend.isOf_iff.mp isOther
    exact other ⟨kind'.symm.trans kind, here'.symm.trans here⟩

/-- A task that is taken is of its queue. -/
theorem Takes.isOf (takes : Takes repair frame task r r') (sound : r.Sound) :
    task.isOf repair frame = true := by
  have waits : task ∈ r.accepted.filter (·.isOf repair frame) := by
    rw [sound.accounted, takes.pops.queue_self]
    exact List.mem_append_right _ List.mem_cons_self
  exact (List.mem_filter.mp waits).2

theorem Adds.queues_eq (adds : Adds repair frame tasks r r') (repair' : Bool) :
    r'.sender.queues repair' =
      if repair' = repair then (r.sender.queues repair).push frame tasks
      else r.sender.queues repair' := by
  split
  case isTrue same => rw [same, adds.queues]
  case isFalse other =>
    obtain rfl : repair' = !repair := by cases repair' <;> cases repair <;> simp_all
    exact adds.others

theorem Takes.queues_of_ne (takes : Takes repair frame task r r') {repair' : Bool}
    (other : repair' ≠ repair) : r'.sender.queues repair' = r.sender.queues repair' := by
  obtain rfl : repair' = !repair := by cases repair' <;> cases repair <;> simp_all
  exact takes.others

theorem Rests.sound (rests : Rests r r') (sound : r.Sound) : r'.Sound where
  formed repair := by
    rw [rests.queues]
    exact sound.formed repair
  sent := by rw [rests.taken, rests.sent, sound.sent]
  accounted repair frame := by
    rw [rests.accepted, rests.taken, rests.queues]
    exact sound.accounted repair frame

theorem Adds.sound (adds : Adds repair frame tasks r r') (sound : r.Sound) : r'.Sound where
  formed repair' := by
    rw [adds.queues_eq]
    split
    case isTrue => exact (sound.formed repair).push adds.some_
    case isFalse => exact sound.formed repair'
  sent := by rw [adds.taken, adds.sent, sound.sent]
  accounted repair' frame' := by
    rw [adds.accepted, adds.taken, List.filter_append, sound.accounted, filter_isOf adds.isOf,
      adds.queues_eq, List.append_assoc]
    apply congrArg (r.taken.filter (·.isOf repair' frame') ++ ·)
    by_cases kind : repair' = repair
    · rw [if_pos kind, RoundRobin.push_queue]
      by_cases here : frame' = frame
      · rw [if_pos ⟨kind, here⟩, if_pos here, kind, here]
      · rw [if_neg fun both => here both.2, if_neg here, List.append_nil, kind]
    · rw [if_neg kind, if_neg fun both => kind both.1, List.append_nil]

theorem Takes.sound (takes : Takes repair frame task r r') (sound : r.Sound) : r'.Sound where
  formed repair' := by
    by_cases kind : repair' = repair
    · rw [kind]
      exact takes.pops.formed
    · rw [takes.queues_of_ne kind]
      exact sound.formed repair'
  sent := by
    have idle : r.taken = r.sent := by rw [sound.sent, takes.idle, Option.toList_none, List.append_nil]
    rw [takes.taken, takes.inFlight, idle, SenderRun.sent, SenderRun.sent, takes.outputs]
    rfl
  accounted repair' frame' := by
    have single : ∀ other ∈ [task], other.isOf repair frame = true := fun other isTask =>
      List.mem_singleton.mp isTask ▸ takes.isOf sound
    rw [takes.accepted, takes.taken, List.filter_append, sound.accounted, filter_isOf single,
      List.append_assoc]
    apply congrArg (r.taken.filter (·.isOf repair' frame') ++ ·)
    by_cases kind : repair' = repair
    · by_cases here : frame' = frame
      · rw [if_pos ⟨kind, here⟩, kind, here, takes.pops.queue_self]
        rfl
      · rw [if_neg fun both => here both.2, kind, takes.pops.queue_of_ne frame' here,
          List.nil_append]
    · rw [if_neg fun both => kind both.1, takes.queues_of_ne kind, List.nil_append]

namespace SenderRun

theorem Sound.start : ({} : SenderRun).Sound where
  formed repair := by
    cases repair with
    | true => exact .empty
    | false => exact .empty
  sent := rfl
  accounted repair frame := by
    cases repair with
    | true => rfl
    | false => rfl

theorem Sound.stepped {e : SenderEvent} (sound : r.Sound) (h : r.step settings e = some r') :
    r'.Sound := by
  rcases step_cases sound.formed h with rests | ⟨repair, frame, tasks, adds⟩ |
    ⟨repair, frame, task, takes⟩
  · exact rests.sound sound
  · exact adds.sound sound
  · exact takes.sound sound

theorem Sound.after {events : List SenderEvent} (sound : r.Sound)
    (h : run (step settings) r events = some r') : r'.Sound :=
  run_preserves (I := Sound) (fun held taken => held.stepped taken) sound h

theorem taken_grows {events : List SenderEvent} (h : run (step settings) r events = some r') :
    r.taken <+: r'.taken := by
  apply run_preserves (I := fun s => r.taken <+: s.taken) _ (List.prefix_refl _) h
  intro s e s' grown h
  refine grown.trans ?_
  cases e with
  | take =>
      obtain rfl := Option.some.inj h
      exact List.prefix_append _ _
  | enqueue | finish | stop =>
      obtain rfl := Option.some.inj h
      exact List.prefix_refl _

/-- What a run takes is what its first step takes and what the others take. -/
theorem taken_split {mid : SenderRun} {events : List SenderEvent}
    {more first : List PendingFragmentSend}
    (rest : run (step settings) mid events = some r') (later : r'.taken = r.taken ++ more)
    (now : mid.taken = r.taken ++ first) : ∃ more', more = first ++ more' ∧
      r'.taken = mid.taken ++ more' := by
  obtain ⟨more', grown⟩ := taken_grows rest
  refine ⟨more', ?_, grown.symm⟩
  rw [now, List.append_assoc, later] at grown
  exact (List.append_cancel_left grown).symm

/-! ## Turns -/

/-- As long as a frame is not served, those that were ahead of it are, each once. -/
theorem served_ahead {events : List SenderEvent} {more : List PendingFragmentSend}
    (sound : r.Sound) (h : run (step settings) r events = some r')
    (waiting : (r.sender.queues repair).queue frame ≠ []) (later : r'.taken = r.taken ++ more)
    (unserved : ∀ task ∈ more, task.isOf repair frame = false) :
    (more.filter (·.selectiveRetransmission = repair)).map PendingFragmentSend.frame ++
      (r'.sender.queues repair).ahead frame = (r.sender.queues repair).ahead frame := by
  induction events generalizing r more with
  | nil =>
      obtain rfl := Option.some.inj h
      have none : more = [] := List.append_cancel_left (later.symm.trans (List.append_nil _).symm)
      rw [none]
      rfl
  | cons e events ih =>
      obtain ⟨mid, taken, rest⟩ := run_cons h
      have sound' := sound.stepped taken
      rcases step_cases sound.formed taken with rests | ⟨repair', frame', tasks, adds⟩ |
        ⟨repair', frame', task, takes⟩
      · rw [← rests.queues]
        exact ih sound' rest (rests.queues repair ▸ waiting) (rests.taken ▸ later) unserved
      · have kept : (mid.sender.queues repair).queue frame ≠ [] ∧
            (mid.sender.queues repair).ahead frame = (r.sender.queues repair).ahead frame := by
          rw [adds.queues_eq]
          split
          case isTrue same =>
            rw [← same, RoundRobin.push_queue]
            refine ⟨?_, (sound.formed repair).ahead_push waiting⟩
            split
            case isTrue => exact List.append_ne_nil_of_right_ne_nil _ adds.some_
            case isFalse => exact waiting
          case isFalse => exact ⟨waiting, rfl⟩
        rw [← kept.2]
        exact ih sound' rest kept.1 (adds.taken ▸ later) unserved
      · obtain ⟨more', rfl, later'⟩ := taken_split rest later takes.taken
        obtain ⟨now, unserved⟩ := List.forall_mem_cons.mp unserved
        obtain ⟨kind, here⟩ := PendingFragmentSend.isOf_iff.mp (takes.isOf sound)
        rw [List.singleton_append, List.filter_cons]
        by_cases same : repair' = repair
        case pos =>
          -- a frame that was ahead is served
          subst same
          have other : frame' ≠ frame := by
            rintro rfl
            rw [takes.isOf sound] at now
            cases now
          have waiting' : (mid.sender.queues repair').queue frame ≠ [] := by
            rw [takes.pops.queue_of_ne frame other.symm]
            exact waiting
          rw [if_pos (decide_eq_true kind), List.map_cons, List.cons_append,
            ih sound' rest waiting' later' unserved, here]
          exact (takes.pops.ahead_eq (sound.formed repair') waiting other).symm
        case neg =>
          have queues := takes.queues_of_ne (Ne.symm same)
          rw [if_neg (by rw [decide_eq_true_eq, kind]; exact same),
            ih sound' rest (queues ▸ waiting) later' unserved, queues]

/-- While repairs wait, at most eight initial fragments go before the next one. -/
theorem burst_bounded {events : List SenderEvent} {more : List PendingFragmentSend}
    (sound : r.Sound) (h : run (step settings) r events = some r')
    (pending : RunMeets (step settings) (fun r _ => 0 < r.sender.repair.size) r events)
    (later : r'.taken = r.taken ++ more)
    (initial : ∀ task ∈ more, task.selectiveRetransmission = false) :
    more = [] ∨ r.sender.consecutiveInitialFragments + more.length ≤ 8 := by
  induction events generalizing r more with
  | nil =>
      obtain rfl := Option.some.inj h
      exact .inl (List.append_cancel_left (later.symm.trans (List.append_nil _).symm))
  | cons e events ih =>
      obtain ⟨mid, taken, rest⟩ := run_cons h
      obtain ⟨waits, pending⟩ := pending.cons taken
      have sound' := sound.stepped taken
      rcases step_cases sound.formed taken with rests | ⟨repair', frame', tasks, adds⟩ |
        ⟨repair', frame', task, takes⟩
      · rw [← rests.consecutive]
        exact ih sound' rest pending (rests.taken ▸ later) initial
      · rw [← adds.consecutive]
        exact ih sound' rest pending (adds.taken ▸ later) initial
      · obtain ⟨more', rfl, later'⟩ := taken_split rest later takes.taken
        obtain ⟨now, initial⟩ := List.forall_mem_cons.mp initial
        have kind := (PendingFragmentSend.isOf_iff.mp (takes.isOf sound)).1
        obtain rfl : false = repair' := now.symm.trans kind
        have patient := takes.patient rfl waits
        have counted : mid.sender.consecutiveInitialFragments =
            r.sender.consecutiveInitialFragments + 1 := takes.consecutive
        right
        rw [List.singleton_append, List.length_cons]
        rcases ih sound' rest pending later' initial with none | few
        · rw [none, List.length_nil]
          omega
        · omega

/-! ## Every accepted task is sent -/

/-- The number of tasks that wait. -/
def waiting (r : SenderRun) : Nat := r.sender.initial.size + r.sender.repair.size

/-- The loop takes and sends a task once for each answer. -/
def turns : List (RmwRet × Int) → List SenderEvent
  | [] => []
  | (ret, now) :: rest => .take :: .finish ret now :: turns rest

theorem take_turn (sound : r.Sound) (running : r.sender.running = true)
    (idle : r.sender.inFlight = none) (h : r.step settings .take = some r') :
    r'.sender.running = true ∧ r'.accepted = r.accepted ∧ r'.waiting = r.waiting - 1 ∧
      (0 < r.waiting → ∃ task, r'.taken = r.taken ++ [task]) := by
  by_cases some_ : 0 < r.waiting
  case pos =>
    have waits : 0 < r.sender.initial.size ∨ 0 < r.sender.repair.size := by
      unfold waiting at some_
      omega
    obtain ⟨repair, frame, task, queues', pops, -, takes⟩ :=
      FragmentSender.takeTask_takes settings sound.formed running idle waits
    simp only [step, takes] at h
    obtain rfl := Option.some.inj h
    have fewer := pops.size (sound.formed repair)
    refine ⟨running, rfl, ?_, fun _ => ⟨task, rfl⟩⟩
    cases repair with
    | true =>
        rw [FragmentSender.queues_true] at fewer
        simp only [waiting, if_true]
        omega
    | false =>
        rw [FragmentSender.queues_false] at fewer
        simp only [waiting, Bool.false_eq_true, if_false]
        omega
  case neg =>
    have waits : ¬(r.sender.running = true ∧ r.sender.inFlight = none ∧
        (0 < r.sender.initial.size ∨ 0 < r.sender.repair.size)) := by
      unfold waiting at some_
      omega
    simp only [step, FragmentSender.takeTask_waits waits] at h
    obtain rfl := Option.some.inj h
    refine ⟨running, rfl, ?_, fun some' => absurd some' some_⟩
    simp only [waiting] at some_ ⊢
    omega

theorem finish_turn {ret : RmwRet} {now : Int}
    (h : r.step settings (.finish ret now) = some r') :
    r'.sender.running = r.sender.running ∧ r'.sender.inFlight = none ∧
      r'.accepted = r.accepted ∧ r'.waiting = r.waiting := by
  obtain ⟨outputs, isOutput, -, landed, same, running, -⟩ :=
    FragmentSender.finishTask_sends r.sender now ret
  obtain rfl := Option.some.inj h
  have repair := congrArg RoundRobin.size (same true)
  have initial := congrArg RoundRobin.size (same false)
  exact ⟨running, landed, rfl, congrArg₂ (· + ·) initial repair⟩

/-- With enough turns no task is left. -/
theorem turns_drain {answers : List (RmwRet × Int)} (sound : r.Sound)
    (running : r.sender.running = true) (idle : r.sender.inFlight = none)
    (enough : r.waiting ≤ answers.length) (h : run (step settings) r (turns answers) = some r') :
    r'.waiting = 0 ∧ r'.sender.inFlight = none ∧ r'.accepted = r.accepted := by
  induction answers generalizing r with
  | nil =>
      obtain rfl := Option.some.inj h
      exact ⟨Nat.le_zero.mp enough, idle, rfl⟩
  | cons answer answers ih =>
      obtain ⟨ret, now⟩ := answer
      obtain ⟨mid, takes, h⟩ := run_cons h
      obtain ⟨mid', sends, h⟩ := run_cons h
      obtain ⟨running', accepted, fewer, -⟩ := take_turn sound running idle takes
      obtain ⟨running'', idle', accepted', same⟩ := finish_turn sends
      rw [List.length_cons] at enough
      obtain ⟨none, landed, kept⟩ := ih ((sound.stepped takes).stepped sends)
        (running''.trans running') idle' (by omega) h
      exact ⟨none, landed, by rw [kept, accepted', accepted]⟩

variable (settings) in
theorem run_total (r : SenderRun) (events : List SenderEvent) :
    ∃ r', run (step settings) r events = some r' := by
  induction events generalizing r with
  | nil => exact ⟨r, rfl⟩
  | cons e events ih =>
      obtain ⟨mid, taken⟩ : ∃ mid, r.step settings e = some mid := by cases e <;> exact ⟨_, rfl⟩
      obtain ⟨r', rest⟩ := ih mid
      exact ⟨r', by rw [run, taken, Option.bind_some, rest]⟩

variable (settings) in
/-- The sender serves the frames of each kind in turn, and sends what it has accepted. -/
structure FairAndLossless (r : SenderRun) : Prop where
  /-- The frames with tasks are those that have a turn, each one, and the sizes are right. -/
  formed : ∀ repair, (r.sender.queues repair).WellFormed
  /-- What is taken is sent, one task after the other. -/
  sent : r.taken = r.sent ++ r.sender.inFlight.toList
  /-- The tasks of a frame are taken in the order in which they were accepted. -/
  accounted : ∀ repair frame, r.accepted.filter (·.isOf repair frame) =
    r.taken.filter (·.isOf repair frame) ++ (r.sender.queues repair).queue frame
  /-- While a frame waits for its turn, the others of its kind are served at most once each. -/
  fair : ∀ events r' more repair frame, run (step settings) r events = some r' →
    (r.sender.queues repair).queue frame ≠ [] → r'.taken = r.taken ++ more →
    (∀ task ∈ more, task.isOf repair frame = false) →
    ((more.filter (·.selectiveRetransmission = repair)).map PendingFragmentSend.frame).Nodup
  /-- While repairs wait, at most eight initial fragments are taken before the next repair. -/
  burst : ∀ events r' more, run (step settings) r events = some r' →
    RunMeets (step settings) (fun r _ => 0 < r.sender.repair.size) r events →
    r'.taken = r.taken ++ more →
    (∀ task ∈ more, task.selectiveRetransmission = false) → more.length ≤ 8
  /-- The loop does not spin. -/
  progress : r.sender.running = true → r.sender.inFlight = none → 0 < r.waiting →
    ∀ r', r.step settings .take = some r' → ∃ task, r'.taken = r.taken ++ [task]
  /-- After as many turns as tasks wait, every accepted task has been sent, each once. -/
  drains : r.sender.running = true → ∀ ret now answers r', r.waiting ≤ answers.length →
    run (step settings) r (.finish ret now :: turns answers) = some r' →
    r'.accepted = r.accepted ∧ ∀ repair frame,
      r.accepted.filter (·.isOf repair frame) = r'.sent.filter (·.isOf repair frame)

/-- In every run of calls and of the loop the sender is fair and loses nothing. -/
theorem fragment_sender_fair (settings : FragmentSenderSettings) (events : List SenderEvent) :
    ∃ r, run (step settings) {} events = some r ∧ r.FairAndLossless settings := by
  obtain ⟨r, ran⟩ := run_total settings {} events
  have sound := Sound.start.after ran
  refine ⟨r, ran, sound.formed, sound.sent, sound.accounted, ?_, ?_, ?_, ?_⟩
  · intro events r' more repair frame h waits later unserved
    have ahead := served_ahead sound h waits later unserved
    exact ((sound.formed repair).ahead_nodup frame).sublist (ahead ▸ List.sublist_append_left _ _)
  · intro events r' more h pending later initial
    rcases burst_bounded sound h pending later initial with none | few
    · rw [none]
      exact Nat.zero_le 8
    · omega
  · intro running idle waits r' h
    exact (take_turn sound running idle h).2.2.2 waits
  · intro running ret now answers r' enough h
    obtain ⟨mid, sends, h⟩ := run_cons h
    obtain ⟨running', idle, accepted, same⟩ := finish_turn sends
    have sound' := sound.stepped sends
    obtain ⟨none, landed, kept⟩ :=
      turns_drain sound' (running'.trans running) idle (same ▸ enough) h
    have sound'' := sound'.after h
    have allSent : r'.taken = r'.sent := by
      rw [sound''.sent, landed, Option.toList_none, List.append_nil]
    refine ⟨kept.trans accepted, fun repair frame => ?_⟩
    have noTask : (r'.sender.queues repair).queue frame = [] := by
      by_contra some_
      have turn := ((sound''.formed repair).listed frame).mpr some_
      have positive := (sound''.formed repair).size_pos_iff.mpr (List.ne_nil_of_mem turn)
      cases repair with
      | true =>
          rw [FragmentSender.queues_true] at positive
          unfold waiting at none
          omega
      | false =>
          rw [FragmentSender.queues_false] at positive
          unfold waiting at none
          omega
    have all := sound''.accounted repair frame
    rw [noTask, List.append_nil, allSent, kept, accepted] at all
    exact all

end SenderRun

end

end FleetRMW.Rmw
