import FleetRMW.Rmw.ServiceOnce
import Mathlib.Data.Finset.Dedup
import Mathlib.Data.List.Lex
import Mathlib.Data.List.Perm.Basic

/-! # Turns of the clients of a service

Of each client one request is looked at, and always in the order of the clients' names. So long as
the same clients wait and no request expires, a take hands out what the scheduler selects.
-/

namespace FleetRMW.Rmw

open Lib

namespace FleetQoxServiceData

variable {data data' : FleetQoxServiceData} {queue : List ServiceFrame}
  {heads : Dict Bytes (Nat × ServiceFrame)} {k c : Bytes} {v : Nat × ServiceFrame}
  {clients : Finset Bytes}

/-! ## Heads -/

def headClients (heads : Dict Bytes (Nat × ServiceFrame)) : List Bytes := heads.map Prod.fst

theorem mem_headClients_insertSorted :
    c ∈ headClients (insertSorted k v heads) ↔ c = k ∨ c ∈ headClients heads := by
  induction heads with
  | nil => simp [insertSorted, headClients]
  | cons e heads ih =>
      unfold headClients at ih ⊢
      unfold insertSorted
      split
      case isTrue same => simp [same]
      case isFalse =>
        split
        case isTrue => simp
        case isFalse =>
          simp only [List.map_cons, List.mem_cons, ih]
          exact or_left_comm

theorem headClients_insertSorted (ascending : (headClients heads).Pairwise (· < ·)) :
    (headClients (insertSorted k v heads)).Pairwise (· < ·) := by
  induction heads with
  | nil => exact List.pairwise_singleton _ _
  | cons e heads ih =>
      obtain ⟨first, rest⟩ := List.pairwise_cons.mp ascending
      unfold insertSorted
      split
      case isTrue same =>
        rw [headClients, List.map_cons, same]
        exact ascending
      case isFalse other =>
        split
        case isTrue below =>
          apply List.pairwise_cons.mpr
          refine ⟨fun c among => ?_, ascending⟩
          rcases List.mem_cons.mp among with rfl | later
          · exact below
          · exact List.lt_trans below (first c later)
        case isFalse notBelow =>
          apply List.pairwise_cons.mpr
          refine ⟨fun c among => ?_, ih rest⟩
          rcases mem_headClients_insertSorted.mp among with rfl | later
          · exact (List.le_iff_lt_or_eq.mp (List.not_lt.mp notBelow)).resolve_right (Ne.symm other)
          · exact first c later

theorem mem_headClients_considerCandidate {candidate : ServiceFrame × Nat} :
    c ∈ headClients (considerCandidate heads candidate) ↔
      c = candidate.1.clientEndpointId ∨ c ∈ headClients heads := by
  unfold considerCandidate
  split
  case isTrue => exact mem_headClients_insertSorted
  case isFalse smaller =>
    have known : candidate.1.clientEndpointId ∈ headClients heads := by
      cases found : heads.get? candidate.1.clientEndpointId with
      | none =>
          rw [found] at smaller
          exact absurd rfl smaller
      | some existing => exact List.mem_map.mpr ⟨_, Dict.mem_of_get? found, rfl⟩
    constructor
    · exact .inr
    · rintro (rfl | among)
      · exact known
      · exact among

/-- The heads of a queue: one of each client, in the order of the clients' names. -/
structure HeadsOf (queue : List ServiceFrame) (heads : Dict Bytes (Nat × ServiceFrame)) : Prop where
  ascending : (headClients heads).Pairwise (· < ·)
  present : ∀ c, c ∈ headClients heads ↔ ∃ f ∈ queue, f.clientEndpointId = c
  queued : ∀ head ∈ heads, head.2.2 ∈ queue
  keyed : ∀ head ∈ heads, head.2.2.clientEndpointId = head.1

theorem mem_headClients_foldl (candidates : List (ServiceFrame × Nat)) :
    c ∈ headClients (candidates.foldl considerCandidate heads) ↔
      c ∈ headClients heads ∨ ∃ candidate ∈ candidates, candidate.1.clientEndpointId = c := by
  induction candidates generalizing heads with
  | nil => simp
  | cons candidate candidates ih =>
      rw [List.foldl_cons, ih, mem_headClients_considerCandidate]
      simp only [List.mem_cons, exists_eq_or_imp]
      rw [eq_comm, or_comm (a := candidate.1.clientEndpointId = c), or_assoc]

theorem headsOf_clientHeads (queue : List ServiceFrame) : HeadsOf queue (clientHeads queue) where
  ascending := by
    unfold clientHeads
    apply List.foldlRecOn (motive := fun (heads : Dict Bytes (Nat × ServiceFrame)) =>
      (headClients heads).Pairwise (· < ·))
    · exact List.Pairwise.nil
    · intro heads held candidate _
      unfold considerCandidate
      split
      · exact headClients_insertSorted held
      · exact held
  present c := by
    rw [clientHeads, mem_headClients_foldl]
    constructor
    · rintro (none | ⟨candidate, among, same⟩)
      · cases none
      · exact ⟨candidate.1, List.fst_mem_of_mem_zipIdx among, same⟩
    · rintro ⟨f, among, same⟩
      obtain ⟨position, here⟩ := List.mem_iff_getElem?.mp among
      exact .inr ⟨(f, position), List.mem_zipIdx_iff_getElem?.mpr here, same⟩
  queued := clientHeads_queued
  keyed := by
    unfold clientHeads
    apply List.foldlRecOn (motive := fun (heads : Dict Bytes (Nat × ServiceFrame)) =>
      ∀ head ∈ heads, head.2.2.clientEndpointId = head.1)
    · exact fun _ among => absurd among List.not_mem_nil
    · intro heads held candidate _ head among
      unfold considerCandidate at among
      split at among
      · cases mem_insertSorted among with
        | inl new =>
            rw [new]
            rfl
        | inr old => exact held head old
      · exact held head among

/-- These clients have requests that wait, and no others. -/
def Wait (clients : Finset Bytes) (queue : List ServiceFrame) : Prop :=
  ∀ c, c ∈ clients ↔ ∃ f ∈ queue, f.clientEndpointId = c

theorem wait_iff : Wait clients queue ↔ clients = (queue.map (·.clientEndpointId)).toFinset := by
  rw [Finset.ext_iff]
  simp only [Wait, List.mem_toFinset, List.mem_map]

theorem nodup_of_ascending {order : List Bytes} (ascending : order.Pairwise (· < ·)) :
    order.Nodup := by
  apply ascending.imp
  intro a b less same
  exact List.lt_irrefl a (by rwa [← same] at less)

theorem eq_of_ascending {order order' : List Bytes} (ascending : order.Pairwise (· < ·))
    (ascending' : order'.Pairwise (· < ·)) (same : ∀ c, c ∈ order ↔ c ∈ order') :
    order = order' := by
  have perm : order.Perm order' :=
    (List.perm_ext_iff_of_nodup (nodup_of_ascending ascending)
      (nodup_of_ascending ascending')).mpr same
  exact perm.eq_of_pairwise (fun a b _ _ less greater => absurd greater (List.lt_asymm less))
    ascending ascending'

def requestFrom (client : Bytes) (sequence : Int64) : ServiceFrame :=
  { ServiceRun.addRequest sequence with clientEndpointId := client }

/-- Whatever waits of them, the heads of these clients have one order. -/
theorem exists_order (clients : Finset Bytes) : ∃ order : List Bytes,
    order.Pairwise (· < ·) ∧ order.toFinset = clients ∧
      ∀ queue, Wait clients queue → headClients (clientHeads queue) = order := by
  let some_ : List ServiceFrame := clients.toList.map fun client => requestFrom client 1
  have waits : Wait clients some_ := by
    intro c
    simp [some_, requestFrom]
  have listed := headsOf_clientHeads some_
  refine ⟨headClients (clientHeads some_), listed.ascending, ?_, ?_⟩
  · ext c
    rw [List.mem_toFinset, listed.present]
    exact (waits c).symm
  · intro queue wait
    have other := headsOf_clientHeads queue
    apply eq_of_ascending other.ascending listed.ascending
    intro c
    rw [other.present, listed.present, ← wait c, ← waits c]

/-! ## Takes -/

/-- What the schedulers look at besides the queue. -/
structure Scheduling where
  deadline : Bool
  weighted : Bool
  credits : Dict Bytes Int
  last : Bytes

def scheduling (data : FleetQoxServiceData) : Scheduling :=
  ⟨data.deadlineServiceScheduler, data.weightedServiceScheduler, data.weightedServiceCurrent,
    data.lastDequeuedClientEndpointId⟩

/-- A take leaves the queue alone while too many responses are missing. -/
def pressed (data : FleetQoxServiceData) : Bool :=
  data.requestQueue ≠ [] ∧ data.pendingResponseLimit ≤ data.pendingResponseClients.length

/-- The request that a take gets out of the queue. -/
def dequeuedBy (data : FleetQoxServiceData) (clocks : TurnClocks) : Option ServiceFrame :=
  if data.pressed then none else (dequeueRequest clocks data.requestQueue.length data).1

theorem scheduling_handleServiceFrame (frame : ServiceFrame) (arrival : Arrival) :
    (data.handleServiceFrame frame arrival).2.scheduling = data.scheduling := by
  unfold handleServiceFrame
  split
  · rfl
  · split
    · rfl
    · split <;> rfl

theorem scheduling_rmwSendResponse (call : SendResponse) :
    (data.rmwSendResponse call).2.scheduling = data.scheduling := by
  unfold rmwSendResponse
  split
  · rfl
  · dsimp only
    split <;> rfl

theorem scheduling_rmwTakeRequest (gidSize : Nat) (clocks : TurnClocks) (deserializes : Bool) :
    (data.rmwTakeRequest gidSize clocks deserializes).2.scheduling =
      if data.pressed then data.scheduling
      else (dequeueRequest clocks data.requestQueue.length data).2.scheduling := by
  unfold rmwTakeRequest pressed
  by_cases waits : data.requestQueue ≠ [] ∧
      data.pendingResponseLimit ≤ data.pendingResponseClients.length
  · rw [if_pos waits, if_pos (decide_eq_true waits)]
  · rw [if_neg waits, if_neg (fun p => waits (of_decide_eq_true p))]
    cases dequeueRequest clocks data.requestQueue.length data with
    | mk found mid =>
        cases found with
        | none => rfl
        | some frame => cases deserializes <;> rfl

/-- At a take these clients wait, and none of their requests has expired. -/
structure Served (clients : Finset Bytes) (data : FleetQoxServiceData) (clocks : TurnClocks) :
    Prop where
  wait : Wait clients data.requestQueue
  fresh : ∀ f ∈ data.requestQueue, ∀ turn, serviceFrameExpired f (clocks.wallNs turn) = false

theorem fresh_of_endless {f : ServiceFrame} {nowNs : Int64} (endless : f.lifespanNs ≤ 0) :
    serviceFrameExpired f nowNs = false := if_pos (.inl endless)

/-- What the scheduler selects first is taken. -/
theorem dequeueRequest_fresh {clocks : TurnClocks} {position : Nat} {frame : ServiceFrame}
    (some_ : data.requestQueue ≠ [])
    (fresh : ∀ f ∈ data.requestQueue, ∀ turn, serviceFrameExpired f (clocks.wallNs turn) = false)
    (selects : data.selectRequest (clocks.steadyNs (data.requestQueue.length - 1)) =
      (some (position, frame), data')) :
    dequeueRequest clocks data.requestQueue.length data = (some frame, { data' with
      requestQueue := data'.requestQueue.eraseIdx position
      lastDequeuedClientEndpointId := frame.clientEndpointId }) := by
  have queued : frame ∈ data.requestQueue := (selectRequest_selects selects).2 _ rfl
  have turns : data.requestQueue.length = data.requestQueue.length - 1 + 1 := by
    have := List.length_pos_iff.mpr some_
    omega
  rw [turns, dequeueRequest, selects]
  dsimp only
  rw [fresh frame queued]
  rfl

/-- A take of waiting clients gets nothing, or what the scheduler selects. -/
theorem take_cases {clocks : TurnClocks} (served : Served clients data clocks) (gidSize : Nat)
    (deserializes : Bool) :
    (data.dequeuedBy clocks = none ∧
      (data.rmwTakeRequest gidSize clocks deserializes).2.scheduling = data.scheduling) ∨
    data.requestQueue ≠ [] ∧ ∀ position frame data',
      data.selectRequest (clocks.steadyNs (data.requestQueue.length - 1)) =
        (some (position, frame), data') →
      data.dequeuedBy clocks = some frame ∧
        (data.rmwTakeRequest gidSize clocks deserializes).2.scheduling =
          { data'.scheduling with last := frame.clientEndpointId } := by
  rw [scheduling_rmwTakeRequest, dequeuedBy]
  by_cases pressed : data.pressed
  · rw [if_pos pressed, if_pos pressed]
    exact .inl ⟨rfl, rfl⟩
  · rw [if_neg pressed, if_neg pressed]
    by_cases some_ : data.requestQueue = []
    · rw [some_]
      exact .inl ⟨rfl, rfl⟩
    · refine .inr ⟨some_, fun position frame data' selects => ?_⟩
      rw [dequeueRequest_fresh some_ served.fresh selects]
      exact ⟨rfl, rfl⟩

end FleetQoxServiceData

/-! ## Runs -/

/-- A service, and the requests that takes got out of its queue. -/
structure TurnRun where
  data : FleetQoxServiceData
  dequeued : List ServiceFrame := []

namespace TurnRun

def after (gidSize : Nat) (s : TurnRun) : ServiceEvent → TurnRun
  | .arrives frame arrival => { s with data := (s.data.handleServiceFrame frame arrival).2 }
  | .takes clocks deserializes =>
      { data := (s.data.rmwTakeRequest gidSize clocks deserializes).2
        dequeued := s.dequeued ++ (s.data.dequeuedBy clocks).toList }
  | .responds call => { s with data := (s.data.rmwSendResponse call).2 }

def step (gidSize : Nat) (s : TurnRun) (e : ServiceEvent) : Option TurnRun :=
  some (s.after gidSize e)

/-- The clients whose requests were dequeued, one after the other. -/
def clients (s : TurnRun) : List Bytes := s.dequeued.map (·.clientEndpointId)

end TurnRun

end FleetRMW.Rmw
