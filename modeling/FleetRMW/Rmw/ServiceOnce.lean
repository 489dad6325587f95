import FleetRMW.Lib.Run
import FleetRMW.Rmw.FrameText
import FleetRMW.Rmw.Retention
import FleetRMW.Rmw.Service

/-! # Requests run once

The history of requests, the calls that wait for their response and the stored responses are
bounded each by itself. As long as none of them gives up a request that another one still counts
on, a request is queued once until it is answered and its copies get the answer again.
-/

namespace FleetRMW.Rmw

open Lib

/-- A request is named by its client and the client's number for it. -/
structure ServiceRequest where
  client : Bytes
  sequence : Int64
  deriving Repr, DecidableEq

namespace ServiceRequest

/-- `service_frame_dedupe_key` of a request that names no service endpoint. -/
def dedupeKey (request : ServiceRequest) : Bytes :=
  request.client ++ octets "||request|" ++ signedDecimal request.sequence.toInt

def replayKey (request : ServiceRequest) : Bytes :=
  serviceResponseReplayKey request.client request.sequence

end ServiceRequest

def ServiceFrame.request (frame : ServiceFrame) : ServiceRequest :=
  ⟨frame.clientEndpointId, frame.sequenceId⟩

/-! ## Runs -/

inductive ServiceEvent where
  | arrives (frame : ServiceFrame) (arrival : FleetQoxServiceData.Arrival)
  | takes (clocks : FleetQoxServiceData.TurnClocks) (deserializes : Bool)
  | responds (call : FleetQoxServiceData.SendResponse)

/-- A service, the requests that are taken and wait for their response, and for each request the
    response that was sent to it last. -/
structure ServiceRun where
  data : FleetQoxServiceData
  unanswered : List ServiceRequest := []
  answered : Dict ServiceRequest Bytes := []
  deriving Repr, DecidableEq

namespace ServiceRun

def after (gidSize : Nat) (s : ServiceRun) : ServiceEvent → ServiceRun
  | .arrives frame arrival => { s with data := (s.data.handleServiceFrame frame arrival).2 }
  | .takes clocks deserializes =>
      let (taken, data) := s.data.rmwTakeRequest gidSize clocks deserializes
      { s with data, unanswered := (taken.map ServiceFrame.request).toList ++ s.unanswered }
  | .responds call =>
      match s.data.rmwSendResponse call with
      | (none, data) => { s with data }
      | (some (client, encoded), data) =>
          let request := ⟨client, call.requestHeader.sequenceNumber⟩
          ⟨data, s.unanswered.erase request, s.answered.set request encoded⟩

def step (gidSize : Nat) (s : ServiceRun) (e : ServiceEvent) : Option ServiceRun :=
  some (s.after gidSize e)

/-- The requests that are queued, or taken and not answered. -/
def outstanding (s : ServiceRun) : List ServiceRequest :=
  s.data.requestQueue.map ServiceFrame.request ++ s.unanswered

/-- What arrives is not queued again while it is outstanding. -/
def RunsOnce (s : ServiceRun) (frame : ServiceFrame) (arrival : FleetQoxServiceData.Arrival) :
    Prop :=
  (s.data.handleServiceFrame frame arrival).2.requestQueue ≠ s.data.requestQueue →
    frame.request ∉ s.outstanding

/-- What arrives again, is remembered and was answered gets the answer once more. -/
def Answers (s : ServiceRun) (frame : ServiceFrame) (arrival : FleetQoxServiceData.Arrival) :
    Prop :=
  s.data.addressed frame arrival → serviceFrameDedupeKey frame ∈ s.data.seenRequestKeys →
    ∀ response, s.answered.get? frame.request = some response →
      (s.data.handleServiceFrame frame arrival).1 = [response]

/-- The key that a new one drives out of the history. -/
def forgets (s : ServiceRun) : Option Bytes :=
  if s.data.seenRequestKeys.length < s.data.dedupeHistoryLimit then none
  else s.data.seenRequestKeys.head?

/-- The key of the response that a new one drives out. -/
def discards (s : ServiceRun) : Option Bytes :=
  if s.data.responseReplay.length < s.data.responseReplayLimit then none
  else s.data.responseReplay.head?.map Prod.fst

/-- A request that is queued names no service endpoint, does not drive an outstanding request out
    of the history, and is not one whose response is sent but stored no more. A response does not
    drive out the one of a request that is remembered. -/
def KeepsTrack (s : ServiceRun) : ServiceEvent → Prop
  | .arrives frame arrival =>
      s.data.addressed frame arrival → frame.serviceEndpointId = [] ∧
        (serviceFrameDedupeKey frame ∉ s.data.seenRequestKeys → s.data.saturated frame = false →
          (∀ request ∈ s.outstanding, s.forgets ≠ some request.dedupeKey) ∧
          ((s.answered.get? frame.request).isSome →
            (s.data.responseReplay.get? frame.request.replayKey).isSome))
  | .takes _ _ => True
  | .responds call =>
      ∀ client ∈ s.data.responseTarget call, client ≠ [] →
        s.data.responseReplay.get? (serviceResponseReplayKey client
          call.requestHeader.sequenceNumber) = none →
        ∀ request ∈ s.answered.map Prod.fst, s.discards = some request.replayKey →
          request.dedupeKey ∉ s.data.seenRequestKeys

end ServiceRun

/-! ## Keys -/

theorem signedDecimal_plain (n : Int) : 124 ∉ signedDecimal n := by
  intro among
  exact absurd (signedDecimal_numeric n 124 among) (by decide)

theorem signedDecimal_injective {m n : Int} (same : signedDecimal m = signedDecimal n) : m = n := by
  have unsigned : ∀ k : Nat, (45 : UInt8) ∉ decimal k := by
    intro k among
    exact absurd (decimal_isDecimal k 45 among) (by decide)
  unfold signedDecimal at same
  split at same
  case isTrue negative =>
    split at same
    case isTrue negative' =>
      have := decimal_injective (List.append_cancel_left same)
      omega
    case isFalse =>
      have among : (45 : UInt8) ∈ decimal n.natAbs := by
        rw [List.nil_append] at same
        exact same ▸ List.mem_cons_self
      exact absurd among (unsigned _)
  case isFalse nonneg =>
    split at same
    case isTrue =>
      have among : (45 : UInt8) ∈ decimal m.natAbs := by
        rw [List.nil_append] at same
        exact same ▸ List.mem_cons_self
      exact absurd among (unsigned _)
    case isFalse nonneg' =>
      have := decimal_injective (List.append_cancel_left same)
      omega

namespace ServiceRequest

variable {request request' : ServiceRequest}

theorem replayKey_injective (same : request.replayKey = request'.replayKey) :
    request = request' := by
  have shape : ∀ r : ServiceRequest,
      r.replayKey = r.client ++ 124 :: signedDecimal r.sequence.toInt := fun r =>
    List.append_assoc _ _ _
  rw [shape, shape] at same
  obtain ⟨sameClient, sameNumber⟩ :=
    append_delimiter_right (signedDecimal_plain _) (signedDecimal_plain _) same
  cases request
  cases request'
  congr
  exact Int64.toInt_inj.mp (signedDecimal_injective sameNumber)

theorem dedupeKey_injective (same : request.dedupeKey = request'.dedupeKey) :
    request = request' := by
  have shape : ∀ r : ServiceRequest, r.dedupeKey =
      (r.client ++ octets "||request") ++ 124 :: signedDecimal r.sequence.toInt := by
    intro r
    simp only [dedupeKey, List.append_assoc]
    rfl
  rw [shape, shape] at same
  obtain ⟨sameClient, sameNumber⟩ :=
    append_delimiter_right (signedDecimal_plain _) (signedDecimal_plain _) same
  cases request
  cases request'
  congr
  · exact List.append_cancel_right sameClient
  · exact Int64.toInt_inj.mp (signedDecimal_injective sameNumber)

end ServiceRequest

theorem ServiceFrame.dedupeKey_request {frame : ServiceFrame}
    (role : frame.role = octets "request") (plain : frame.serviceEndpointId = []) :
    serviceFrameDedupeKey frame = frame.request.dedupeKey := by
  simp only [serviceFrameDedupeKey, ServiceRequest.dedupeKey, ServiceFrame.request, role, plain,
    List.append_assoc, List.nil_append]
  rfl

/-! ## What the calls do -/

namespace FleetQoxServiceData

variable {data data' : FleetQoxServiceData} {queue : List ServiceFrame}
  {heads : Dict Bytes (Nat × ServiceFrame)}

theorem mem_insertSorted {k : Bytes} {v : Nat × ServiceFrame} {head : Bytes × (Nat × ServiceFrame)}
    (among : head ∈ insertSorted k v heads) : head = (k, v) ∨ head ∈ heads := by
  induction heads with
  | nil => exact .inl (List.mem_singleton.mp among)
  | cons e heads ih =>
      unfold insertSorted at among
      split at among
      · cases List.mem_cons.mp among with
        | inl new => exact .inl new
        | inr old => exact .inr (List.mem_cons_of_mem _ old)
      · split at among
        · exact List.mem_cons.mp among
        · cases List.mem_cons.mp among with
          | inl first => exact .inr (first ▸ List.mem_cons_self)
          | inr later => exact (ih later).imp_right (List.mem_cons_of_mem _)

theorem clientHeads_queued : ∀ head ∈ clientHeads queue, head.2.2 ∈ queue := by
  unfold clientHeads
  apply List.foldlRecOn (motive := fun (heads : Dict Bytes (Nat × ServiceFrame)) =>
    ∀ head ∈ heads, head.2.2 ∈ queue)
  · exact fun _ among => absurd among List.not_mem_nil
  · intro heads held candidate waiting head among
    unfold considerCandidate at among
    split at among
    · cases mem_insertSorted among with
      | inl new =>
          rw [new]
          exact List.fst_mem_of_mem_zipIdx waiting
      | inr old => exact held head old
    · exact held head among

/-- A search that keeps what it has or takes the head that it looks at finds a head. -/
theorem foldl_considers {α : Type} {consider : Option (α × (Nat × ServiceFrame)) →
      Bytes × (Nat × ServiceFrame) → Option (α × (Nat × ServiceFrame))}
    (looks : ∀ selected head a found, consider selected head = some (a, found) →
      found = head.2 ∨ ∃ a, selected = some (a, found))
    {a : α} {found : Nat × ServiceFrame} (finds : heads.foldl consider none = some (a, found)) :
    ∃ head ∈ heads, head.2 = found := by
  have all : ∀ a found, heads.foldl consider none = some (a, found) →
      ∃ head ∈ heads, head.2 = found := by
    apply List.foldlRecOn (motive := fun selected =>
      ∀ a found, selected = some (a, found) → ∃ head ∈ heads, head.2 = found)
    · intro _ _ nothing
      cases nothing
    · intro selected held head among a found finds
      cases looks selected head a found finds with
      | inl here => exact ⟨head, among, here.symm⟩
      | inr before => exact held before.choose found before.choose_spec
  exact all a found finds

theorem considerDeadline_looks (selected : Option (Nat × (Nat × ServiceFrame)))
    (head : Bytes × (Nat × ServiceFrame)) (a : Nat) (found : Nat × ServiceFrame)
    (finds : data.considerDeadline selected head = some (a, found)) :
    found = head.2 ∨ ∃ a, selected = some (a, found) := by
  unfold considerDeadline at finds
  cases selected with
  | none => exact .inl (Prod.mk.inj (Option.some.inj finds)).2.symm
  | some before =>
      dsimp only at finds
      split at finds
      · exact .inl (Prod.mk.inj (Option.some.inj finds)).2.symm
      · split at finds
        · exact .inl (Prod.mk.inj (Option.some.inj finds)).2.symm
        · exact .inr ⟨a, finds⟩

theorem considerCredit_looks {credits : Dict Bytes Int}
    (selected : Option (Int × (Nat × ServiceFrame))) (head : Bytes × (Nat × ServiceFrame)) (a : Int)
    (found : Nat × ServiceFrame) (finds : considerCredit credits selected head = some (a, found)) :
    found = head.2 ∨ ∃ a, selected = some (a, found) := by
  unfold considerCredit at finds
  cases selected with
  | none => exact .inl (Prod.mk.inj (Option.some.inj finds)).2.symm
  | some before =>
      dsimp only at finds
      split at finds
      · exact .inl (Prod.mk.inj (Option.some.inj finds)).2.symm
      · exact .inr ⟨a, finds⟩

/-- Whatever the scheduler, it selects a request of the queue and changes credits only. -/
theorem selectRequest_selects {nowNs : Int} {found : Option (Nat × ServiceFrame)}
    (h : data.selectRequest nowNs = (found, data')) :
    (∃ weights, data' = { data with weightedServiceCurrent := weights }) ∧
      ∀ selected ∈ found, selected.2 ∈ data.requestQueue := by
  have ofHead : ∀ {selected}, (∃ head ∈ clientHeads data.requestQueue, head.2 = selected) →
      selected.2 ∈ data.requestQueue := by
    rintro _ ⟨head, among, rfl⟩
    exact clientHeads_queued head among
  unfold selectRequest at h
  dsimp only at h
  split at h
  · obtain ⟨rfl, rfl⟩ := Prod.mk.inj h
    refine ⟨⟨_, rfl⟩, fun selected finds => ?_⟩
    obtain ⟨⟨a, found⟩, search, rfl⟩ := Option.map_eq_some_iff.mp finds
    exact ofHead (foldl_considers considerDeadline_looks search)
  · split at h
    · obtain ⟨rfl, rfl⟩ := Prod.mk.inj h
      refine ⟨⟨_, rfl⟩, fun selected finds => ?_⟩
      unfold selectByWeight at finds
      dsimp only at finds
      split at finds
      · cases finds
      · next a found search =>
          obtain rfl : found = selected := Option.some.inj finds
          exact ofHead (foldl_considers considerCredit_looks search)
    · obtain ⟨rfl, rfl⟩ := Prod.mk.inj h
      refine ⟨⟨_, rfl⟩, fun selected finds => ?_⟩
      obtain ⟨head, search, rfl⟩ := Option.map_eq_some_iff.mp finds
      apply ofHead
      refine ⟨head, ?_, rfl⟩
      cases Option.or_eq_some_iff.mp search with
      | inl other => exact List.mem_of_mem_filter (List.mem_of_find?_eq_some other)
      | inr first => exact List.mem_of_mem_filter (List.mem_of_mem_head? first.2)

/-- The loop takes requests out of the queue and changes what the scheduler remembers only. -/
theorem dequeueRequest_takes {clocks : TurnClocks} {turns : Nat} {taken : Option ServiceFrame}
    (h : dequeueRequest clocks turns data = (taken, data')) :
    (∃ queue last weights, data' = { data with
        requestQueue := queue
        lastDequeuedClientEndpointId := last
        weightedServiceCurrent := weights } ∧ queue ⊆ data.requestQueue) ∧
      ∀ frame ∈ taken, frame ∈ data.requestQueue := by
  induction turns generalizing data with
  | zero =>
      obtain ⟨rfl, rfl⟩ := Prod.mk.inj h
      exact ⟨⟨_, _, _, rfl, List.Subset.refl _⟩, fun _ none => by cases none⟩
  | succ turns ih =>
      unfold dequeueRequest at h
      cases selects : data.selectRequest (clocks.steadyNs turns) with
      | mk found mid =>
          obtain ⟨⟨weights, rfl⟩, queued⟩ := selectRequest_selects selects
          rw [selects] at h
          cases found with
          | none =>
              obtain ⟨rfl, rfl⟩ := Prod.mk.inj h
              exact ⟨⟨_, _, _, rfl, List.Subset.refl _⟩, fun _ none => by cases none⟩
          | some selected =>
              have fewer : data.requestQueue.eraseIdx selected.1 ⊆ data.requestQueue :=
                (List.eraseIdx_sublist _ _).subset
              dsimp only at h
              split at h
              · obtain ⟨⟨queue, last, weights', rfl, within⟩, among⟩ := ih h
                exact ⟨⟨queue, last, weights', rfl, fun _ inside => fewer (within inside)⟩,
                  fun frame takes => fewer (among frame takes)⟩
              · obtain ⟨rfl, rfl⟩ := Prod.mk.inj h
                refine ⟨⟨_, _, _, rfl, fewer⟩, fun frame takes => ?_⟩
                obtain rfl : selected.2 = frame := Option.some.inj takes
                exact queued selected rfl

/-- A request that is handed out was queued; the history and the stored responses stay. -/
theorem rmwTakeRequest_takes {gidSize : Nat} {clocks : TurnClocks} {deserializes : Bool}
    {taken : Option ServiceFrame}
    (h : data.rmwTakeRequest gidSize clocks deserializes = (taken, data')) :
    (∃ queue last weights pending, data' = { data with
        requestQueue := queue
        lastDequeuedClientEndpointId := last
        weightedServiceCurrent := weights
        pendingResponseClients := pending } ∧ queue ⊆ data.requestQueue) ∧
      ∀ frame ∈ taken, frame ∈ data.requestQueue := by
  unfold rmwTakeRequest at h
  split at h
  · obtain ⟨rfl, rfl⟩ := Prod.mk.inj h
    exact ⟨⟨_, _, _, _, rfl, List.Subset.refl _⟩, fun _ none => by cases none⟩
  · cases dequeues : dequeueRequest clocks data.requestQueue.length data with
    | mk found mid =>
        obtain ⟨⟨queue, last, weights, rfl, within⟩, among⟩ := dequeueRequest_takes dequeues
        rw [dequeues] at h
        cases found with
        | none =>
            obtain ⟨rfl, rfl⟩ := Prod.mk.inj h
            exact ⟨⟨_, _, _, _, rfl, within⟩, fun _ none => by cases none⟩
        | some frame =>
            dsimp only at h
            split at h
            · obtain ⟨rfl, rfl⟩ := Prod.mk.inj h
              exact ⟨⟨_, _, _, _, rfl, within⟩, fun _ none => by cases none⟩
            · obtain ⟨rfl, rfl⟩ := Prod.mk.inj h
              exact ⟨⟨_, _, _, _, rfl, within⟩, among⟩

/-- A frame that is not queued changes nothing. -/
theorem handleServiceFrame_cases (data : FleetQoxServiceData) (frame : ServiceFrame)
    (arrival : Arrival) :
    (data.handleServiceFrame frame arrival).2 = data ∨
      data.addressed frame arrival ∧ serviceFrameDedupeKey frame ∉ data.seenRequestKeys ∧
        data.saturated frame = false ∧
        (data.handleServiceFrame frame arrival).2 = { data with
          seenRequestKeys := popWhileLonger data.dedupeHistoryLimit
            (data.seenRequestKeys ++ [serviceFrameDedupeKey frame])
          requestQueue := data.requestQueue ++ [{ frame with
            localEnqueueTimestampNs := arrival.steadyNs }] } := by
  unfold handleServiceFrame
  split
  case isTrue => exact .inl rfl
  case isFalse known =>
    split
    case isTrue => exact .inl rfl
    case isFalse new =>
      split
      case isTrue => exact .inl rfl
      case isFalse room =>
        refine .inr ⟨by simpa using known, new, by simpa using room, ?_⟩
        simp only [rememberBoundedServiceKey, if_neg new]

theorem addressed_role {frame : ServiceFrame} {arrival : Arrival}
    (addressed : data.addressed frame arrival) : frame.role = octets "request" := by
  simp only [FleetQoxServiceData.addressed, Bool.and_eq_true, decide_eq_true_eq] at addressed
  exact addressed.1.1.1.1.1.2

/-- A response is sent to the client that waits for it, and stored. -/
theorem rmwSendResponse_cases (data : FleetQoxServiceData) (call : SendResponse) :
    (∃ pending, data.rmwSendResponse call =
      (none, { data with pendingResponseClients := pending })) ∨
    ∃ client pending, client ∈ data.responseTarget call ∧ client ≠ [] ∧
      data.rmwSendResponse call =
        (some (client, encodeServiceFrame (data.responseFrame client call)), { data with
          pendingResponseClients := pending
          responseReplay := popWhileLonger data.responseReplayLimit (data.responseReplay.set
            (serviceResponseReplayKey client call.requestHeader.sequenceNumber)
            (encodeServiceFrame (data.responseFrame client call))) }) := by
  unfold rmwSendResponse
  cases target : data.responseTarget call with
  | none => exact .inl ⟨data.pendingResponseClients, rfl⟩
  | some client =>
      dsimp only
      split
      case isTrue => exact .inl ⟨_, rfl⟩
      case isFalse nonempty => exact .inr ⟨client, _, rfl, nonempty, rfl⟩

end FleetQoxServiceData

/-! ## What the runs keep -/

namespace ServiceRun

open FleetQoxServiceData

/-- Every outstanding request is remembered, and the last response to every request that is
    answered and remembered is stored. -/
structure OnTrack (s : ServiceRun) : Prop where
  roomy : 0 < s.data.dedupeHistoryLimit
  few : s.data.seenRequestKeys.length ≤ s.data.dedupeHistoryLimit
  roomyReplay : 0 < s.data.responseReplayLimit
  fewReplay : s.data.responseReplay.length ≤ s.data.responseReplayLimit
  distinct : (s.data.responseReplay.map Prod.fst).Nodup
  remembered : ∀ request ∈ s.outstanding, request.dedupeKey ∈ s.data.seenRequestKeys
  stored : ∀ request response, s.answered.get? request = some response →
    request.dedupeKey ∈ s.data.seenRequestKeys →
    s.data.responseReplay.get? request.replayKey = some response
  latest : ∀ request response, s.data.responseReplay.get? request.replayKey = some response →
    s.answered.get? request = some response

variable {gidSize : Nat} {s s' : ServiceRun} {events : List ServiceEvent}

theorem serviceResourceLimit_pos (raw : Option Int) (defaultValue : Nat) :
    0 < serviceResourceLimit raw defaultValue := by
  unfold serviceResourceLimit
  dsimp only
  omega

theorem onTrack_allocate (serviceName typeName : Bytes) (domainId : UInt64) (endpointId : Bytes)
    (depth : Nat) (lifespan : RmwTime) (env : ServiceEnvironment) :
    OnTrack ⟨allocateServiceData serviceName typeName domainId endpointId depth lifespan env,
      [], []⟩ where
  roomy := serviceResourceLimit_pos _ _
  few := Nat.zero_le _
  roomyReplay := Nat.lt_of_lt_of_le (serviceResourceLimit_pos _ _) (Nat.le_max_left _ _)
  fewReplay := Nat.zero_le _
  distinct := List.nodup_nil
  remembered _ among := by cases among
  stored _ _ answered := by cases answered
  latest _ _ held := by cases held

/-- Unless it is the one that is forgotten, a key that is remembered is so after a new one. -/
theorem OnTrack.mem_remembered (track : s.OnTrack) {key new : Bytes}
    (inside : key ∈ s.data.seenRequestKeys) (kept : s.forgets ≠ some key) :
    key ∈ popWhileLonger s.data.dedupeHistoryLimit (s.data.seenRequestKeys ++ [new]) := by
  rw [popWhileLonger_concat track.few track.roomy]
  apply List.mem_append_left
  unfold forgets at kept
  split
  · exact inside
  · next full =>
      rw [if_neg full] at kept
      cases keys : s.data.seenRequestKeys with
      | nil => exact absurd inside (keys ▸ List.not_mem_nil)
      | cons first rest =>
          rw [keys] at inside kept
          cases List.mem_cons.mp inside with
          | inl same => exact absurd (congrArg some same.symm) kept
          | inr later => exact later

theorem OnTrack.arrives (track : s.OnTrack) {frame : ServiceFrame} {arrival : Arrival}
    (keeps : s.KeepsTrack (.arrives frame arrival)) :
    (s.after gidSize (.arrives frame arrival)).OnTrack := by
  unfold after
  dsimp only
  cases handleServiceFrame_cases s.data frame arrival with
  | inl same =>
      rw [same]
      exact track
  | inr queues =>
      obtain ⟨addressed, new, room, queued⟩ := queues
      obtain ⟨plain, keeps⟩ := keeps addressed
      obtain ⟨outstandingKept, responseKept⟩ := keeps new room
      have key := ServiceFrame.dedupeKey_request (addressed_role addressed) plain
      rw [queued]
      refine ⟨track.roomy, ?_, track.roomyReplay, track.fewReplay, track.distinct, ?_, ?_,
        track.latest⟩
      · rw [length_popWhileLonger]
        exact Nat.min_le_right _ _
      · intro request among
        dsimp only [outstanding] at among
        rw [List.map_append, List.append_assoc] at among
        have cases_ : request ∈ s.outstanding ∨ request = frame.request := by
          cases List.mem_append.mp among with
          | inl before => exact .inl (List.mem_append_left _ before)
          | inr rest =>
              cases List.mem_cons.mp rest with
              | inl here => exact .inr here
              | inr waits => exact .inl (List.mem_append_right _ waits)
        cases cases_ with
        | inl before =>
            exact track.mem_remembered (track.remembered _ before) (outstandingKept _ before)
        | inr here =>
            rw [here, ← key, popWhileLonger_concat track.few track.roomy]
            exact List.mem_append_right _ (List.mem_singleton.mpr rfl)
      · intro request response answered inside
        have old := (popWhileLonger_sublist _ _).subset inside
        cases List.mem_append.mp old with
        | inl before => exact track.stored request response answered before
        | inr here =>
            have same : request = frame.request :=
              ServiceRequest.dedupeKey_injective ((List.mem_singleton.mp here).trans key)
            subst same
            obtain ⟨kept, held⟩ := Option.isSome_iff_exists.mp
              (responseKept (Option.isSome_iff_exists.mpr ⟨response, answered⟩))
            have last := track.latest _ _ held
            rw [answered] at last
            exact held.trans last.symm

theorem OnTrack.takes (track : s.OnTrack) (clocks : TurnClocks) (deserializes : Bool) :
    (s.after gidSize (.takes clocks deserializes)).OnTrack := by
  unfold after
  cases call : s.data.rmwTakeRequest gidSize clocks deserializes with
  | mk taken data =>
      obtain ⟨⟨queue, last, weights, pending, rfl, within⟩, among⟩ := rmwTakeRequest_takes call
      simp only [call]
      refine ⟨track.roomy, track.few, track.roomyReplay, track.fewReplay, track.distinct, ?_,
        track.stored, track.latest⟩
      have queued : ∀ frame ∈ s.data.requestQueue, frame.request.dedupeKey ∈
          s.data.seenRequestKeys := fun frame inside =>
        track.remembered _ (List.mem_append_left _ (List.mem_map_of_mem inside))
      intro request outstanding
      cases List.mem_append.mp outstanding with
      | inl inQueue =>
          obtain ⟨frame, inside, rfl⟩ := List.mem_map.mp inQueue
          exact queued frame (within inside)
      | inr rest =>
          cases List.mem_append.mp rest with
          | inl now =>
              obtain ⟨frame, takes, rfl⟩ := Option.map_eq_some_iff.mp (Option.mem_toList.mp now)
              exact queued frame (among frame takes)
          | inr before => exact track.remembered _ (List.mem_append_right _ before)

theorem OnTrack.responds (track : s.OnTrack) {call : SendResponse}
    (keeps : s.KeepsTrack (.responds call)) : (s.after gidSize (.responds call)).OnTrack := by
  unfold after
  cases rmwSendResponse_cases s.data call with
  | inl nothing =>
      obtain ⟨pending, sends⟩ := nothing
      simp only [sends]
      exact ⟨track.roomy, track.few, track.roomyReplay, track.fewReplay, track.distinct,
        track.remembered, track.stored, track.latest⟩
  | inr sends =>
      obtain ⟨client, pending, target, nonempty, sends⟩ := sends
      generalize encodeServiceFrame (s.data.responseFrame client call) = encoded at sends
      simp only [sends]
      have keeps := keeps client target nonempty
      have distinct := Dict.nodup_keys_set (k := serviceResponseReplayKey client
        call.requestHeader.sequenceNumber) (v := encoded) track.distinct
      have pushed : ∀ request : ServiceRequest,
          request ≠ ⟨client, call.requestHeader.sequenceNumber⟩ →
          request.replayKey ≠ serviceResponseReplayKey client call.requestHeader.sequenceNumber :=
        fun request other same => other (ServiceRequest.replayKey_injective same)
      refine ⟨track.roomy, track.few, track.roomyReplay, ?_, ?_, ?_, ?_, ?_⟩
      · rw [length_popWhileLonger]
        exact Nat.min_le_right _ _
      · exact distinct.sublist ((popWhileLonger_sublist _ _).map _)
      · intro request outstanding
        apply track.remembered
        cases List.mem_append.mp outstanding with
        | inl queued => exact List.mem_append_left _ queued
        | inr waits => exact List.mem_append_right _ (List.mem_of_mem_erase waits)
      · intro request response answered inside
        by_cases here : request = ⟨client, call.requestHeader.sequenceNumber⟩
        · subst here
          rw [Dict.get?_set_self] at answered
          rw [← answered]
          exact Dict.get?_popWhileLonger_set_self track.fewReplay track.roomyReplay
        · rw [Dict.get?_set_of_ne here] at answered
          rw [← track.stored request response answered inside]
          apply Dict.get?_popWhileLonger_set_of_ne track.fewReplay track.roomyReplay
            (pushed request here)
          intro absent full first
          refine keeps absent request ?_ ?_ inside
          · exact List.mem_map.mpr ⟨_, Dict.mem_of_get? answered, rfl⟩
          · rw [discards, if_neg full, first]
      · intro request response held
        have inside := (popWhileLonger_sublist _ _).subset (Dict.mem_of_get? held)
        have held := Dict.get?_of_mem distinct inside
        by_cases here : request = ⟨client, call.requestHeader.sequenceNumber⟩
        · subst here
          rw [Dict.get?_set_self]
          exact Dict.get?_set_self.symm.trans held
        · rw [Dict.get?_set_of_ne (pushed request here)] at held
          rw [Dict.get?_set_of_ne here]
          exact track.latest request response held

theorem onTrack_of_run (track : s.OnTrack) (keeps : RunMeets (step gidSize) KeepsTrack s events)
    (h : run (step gidSize) s events = some s') : s'.OnTrack := by
  apply run_invariant _ track keeps h
  intro s e s' track keeps taken
  rw [← Option.some.inj taken]
  cases e with
  | arrives => exact track.arrives keeps
  | takes => exact track.takes _ _
  | responds => exact track.responds keeps

theorem OnTrack.runsOnce (track : s.OnTrack) {frame : ServiceFrame} {arrival : Arrival}
    (plain : s.data.addressed frame arrival → frame.serviceEndpointId = []) :
    s.RunsOnce frame arrival := by
  intro changes
  cases handleServiceFrame_cases s.data frame arrival with
  | inl same => exact absurd (congrArg _ same) changes
  | inr queues =>
      obtain ⟨addressed, new, -⟩ := queues
      rw [ServiceFrame.dedupeKey_request (addressed_role addressed) (plain addressed)] at new
      exact fun waits => new (track.remembered _ waits)

theorem OnTrack.answers (track : s.OnTrack) {frame : ServiceFrame} {arrival : Arrival}
    (plain : s.data.addressed frame arrival → frame.serviceEndpointId = []) :
    s.Answers frame arrival := by
  intro addressed seen response answered
  have key := ServiceFrame.dedupeKey_request (addressed_role addressed) (plain addressed)
  have held := track.stored _ response answered (key ▸ seen)
  unfold handleServiceFrame
  rw [if_neg (by simp [addressed]), if_pos seen]
  exact congrArg Option.toList held

/-- In a run that keeps track, a request is never queued while it is outstanding, and the copies
    of a request that is answered and remembered get the last answer. -/
theorem requests_run_once (gidSize : Nat) (serviceName typeName : Bytes) (domainId : UInt64)
    (endpointId : Bytes) (depth : Nat) (lifespan : RmwTime) (env : ServiceEnvironment)
    {events : List ServiceEvent} {s : ServiceRun} {frame : ServiceFrame} {arrival : Arrival}
    (keeps : RunMeets (step gidSize) KeepsTrack ⟨allocateServiceData serviceName typeName domainId
      endpointId depth lifespan env, [], []⟩ events)
    (h : run (step gidSize) ⟨allocateServiceData serviceName typeName domainId endpointId depth
      lifespan env, [], []⟩ events = some s)
    (plain : s.data.addressed frame arrival → frame.serviceEndpointId = []) :
    s.RunsOnce frame arrival ∧ s.Answers frame arrival := by
  have track := onTrack_of_run (onTrack_allocate serviceName typeName domainId endpointId depth
    lifespan env) keeps h
  exact ⟨track.runsOnce plain, track.answers plain⟩

/-! ## A service with one client -/

def adder (env : ServiceEnvironment) : ServiceRun :=
  ⟨allocateServiceData (octets "add") (octets "AddTwoInts") 0 (octets "s") 10 {} env, [], []⟩

def addRequest (sequence : Int64) : ServiceFrame where
  role := octets "request"
  serviceName := octets "add"
  typeName := octets "AddTwoInts"
  clientEndpointId := octets "c"
  serviceEndpointId := []
  sequenceId := sequence
  sourceTimestampNs := 1
  lifespanNs := 0
  serializedPayload := []
  domainId := 0
  clientPriority := 0
  clientWeight := 1
  requestDeadlineNs := 0

def addResponse (sequence : Int64) : SendResponse where
  requestHeader := ⟨endpointGidFromId 16 (octets "c"), sequence⟩

theorem requests_run_once_addRequest :
    ∃ s, run (step 16) (adder {}) [.arrives (addRequest 1) {}, .takes {} true,
      .responds (addResponse 1)] = some s ∧ s.RunsOnce (addRequest 1) {} ∧
      s.Answers (addRequest 1) {} := by
  have keeps : RunMeets (step 16) KeepsTrack (adder {}) [.arrives (addRequest 1) {},
      .takes {} true, .responds (addResponse 1)] := by
    apply RunMeets.of_step (fun _ => ⟨rfl, fun _ _ => ⟨by decide, by decide⟩⟩) rfl
    apply RunMeets.of_step True.intro rfl
    refine ⟨?_, True.intro⟩
    intro client target nonempty absent request among
    cases among
  exact ⟨_, rfl, requests_run_once 16 (octets "add") (octets "AddTwoInts") 0 (octets "s") 10 {} {}
    keeps rfl fun _ => rfl⟩

/-- A history of one key forgets the request that is still queued. With two keys and two responses,
    answers in another order drive out the response of a request that is remembered. -/
theorem outstanding_forgotten :
    (∃ s, run (step 16) (adder { dedupeHistoryLimit := some 1 })
      [.arrives (addRequest 1) {}, .arrives (addRequest 2) {}] = some s ∧
      ¬s.RunsOnce (addRequest 1) {}) ∧
    ∃ s, run (step 16) (adder { dedupeHistoryLimit := some 2, responseReplayLimit := some 2 })
      [.arrives (addRequest 1) {}, .arrives (addRequest 2) {}, .takes {} true, .takes {} true,
        .responds (addResponse 2), .responds (addResponse 1), .arrives (addRequest 3) {},
        .takes {} true, .responds (addResponse 3)] = some s ∧ ¬s.Answers (addRequest 2) {} := by
  refine ⟨⟨_, rfl, ?_⟩, ⟨_, rfl, ?_⟩⟩
  · unfold RunsOnce
    decide
  · intro answers
    have again := answers (by decide) (by decide) _ rfl
    revert again
    decide

end ServiceRun

end FleetRMW.Rmw
