import FleetRMW.Gateway.AdmissionState
import FleetRMW.Gateway.Store

/-! # The gateway's state engine

`FleetQoxGatewayState` keeps a bounded history for each stream and a cursor for each
consumer, in memory and, where it has one, in a durable store. What a call finds outside
is given as sequences: the readings of the wall clock, and whether SQLite carries each
transaction through. The metrics are left out.
-/

namespace FleetRMW.Gateway

open Lib

/-- The arguments of the constructor that it keeps. `levels` is how deep `json.loads` may
    recurse. -/
structure GatewayConfig where
  maxFramesPerTopic : Nat
  maxFrameBytes : Nat
  dedupCapacityPerTopic : Nat
  maxBatchFrames : Nat
  admissionPolicy : Option GatewayAdmissionPolicy
  env : Environment
  wallClock : Nat → Rat
  commits : Nat → Bool
  levels : Nat
  maxFrames_pos : 0 < maxFramesPerTopic
  maxFrames_le_capacity : maxFramesPerTopic ≤ dedupCapacityPerTopic

structure StoredFrame where
  offset : Nat
  payload : Bytes
  metadata : FrameMetadata
  deriving Repr, DecidableEq

structure TopicHistory where
  records : List StoredFrame := []
  recentKeys : List DedupKey := []
  applicationOutcomeKeys : List DedupKey := []
  nextOffset : Nat := 0
  deriving Repr, DecidableEq

def TopicHistory.baseOffset (h : TopicHistory) : Nat :=
  match h.records with
  | r :: _ => r.offset
  | [] => h.nextOffset

/-- The store's database, and what its connection remembers. -/
structure DurableStore where
  db : Database PyJson
  lease : Option HeldLease

/-- `wallReads` and `storeCalls` count the readings of the wall clock and the transactions. -/
structure FleetQoxGatewayState where
  topics : StreamKey → Option TopicHistory
  consumerOffsets : StreamKey → Str → Option Nat
  admission : PolicyState
  durableStore : Option DurableStore
  wallReads : Nat := 0
  storeCalls : Nat := 0

inductive GatewayError where
  | parse (e : ParseError)
  | policy (e : PolicyError)
  | store (e : StoreError)
  /-- Raised while an exception of the store was handled. -/
  | policyDuring (e : PolicyError) (context : StoreError)
  deriving Repr, DecidableEq

structure PublishResult where
  accepted : Bool
  duplicate : Bool
  offset : Nat
  metadata : FrameMetadata
  admissionAction : AdmissionAction := .normal
  deriving Repr, DecidableEq

namespace PublishResult

def duplicateOf (h : TopicHistory) (m : FrameMetadata) : PublishResult where
  accepted := false
  duplicate := true
  offset := h.nextOffset
  metadata := m
  admissionAction := .duplicate

def acceptedAs (h : TopicHistory) (m : FrameMetadata) (action : AdmissionAction) :
    PublishResult where
  accepted := true
  duplicate := false
  offset := h.nextOffset
  metadata := m
  admissionAction := action

end PublishResult

/-- An `except FramePersistenceError` clause takes it. -/
def StoreError.isPersistence : StoreError → Bool
  | persistence _ => true
  | leaseHeldBy _ => true
  | _ => false

namespace TopicHistory

/-- The end of `publish`, for a frame that is accepted. -/
def append (cfg : GatewayConfig) (h : TopicHistory) (payload : Bytes) (m : FrameMetadata) :
    TopicHistory :=
  { h with
    nextOffset := h.nextOffset + 1
    records := popWhileLonger cfg.maxFramesPerTopic
      (h.records ++ [⟨h.nextOffset, payload, m⟩])
    recentKeys := popWhileLonger cfg.dedupCapacityPerTopic (h.recentKeys ++ [m.dedupKey]) }

/-- The offset that the next frame evicts. -/
def evictOffset (cfg : GatewayConfig) (h : TopicHistory) : Option Nat :=
  if h.records.length ≥ cfg.maxFramesPerTopic then h.records.head?.map StoredFrame.offset
  else none

end TopicHistory

namespace FleetQoxGatewayState

variable (cfg : GatewayConfig)

/-- `_now_unix_ms`. -/
def nowUnixMs (s : FleetQoxGatewayState) : Int := max 0 (cfg.wallClock s.wallReads * 1000).floor

/-- One transaction of the store at the present time. A state without a store skips it. -/
def transact {α : Type} (s : FleetQoxGatewayState) (skipped : α)
    (f : Database PyJson → Option HeldLease → Option Int →
      Except StoreError (Database PyJson × α)) :
    Except StoreError α × FleetQoxGatewayState :=
  match s.durableStore with
  | none => (.ok skipped, s)
  | some store =>
      let now := s.nowUnixMs cfg
      let s' := { s with wallReads := s.wallReads + 1, storeCalls := s.storeCalls + 1 }
      match transaction (cfg.commits s.storeCalls) (f store.db store.lease (some now)) with
      | .ok (db, a) => (.ok a, { s' with durableStore := some { store with db } })
      | .error e => (.error e, s')

/-- `export_durable_state`, where there is a policy and a store. -/
def exportAdmission (s : FleetQoxGatewayState) : Option PyJson × FleetQoxGatewayState :=
  match cfg.admissionPolicy, s.durableStore with
  | some policy, some _ =>
      let (document, admission) := policy.exportDurableState cfg.env s.admission
      (some document, { s with admission })
  | _, _ => (none, s)

/-- The reaction to a store that raised: an exported state is restored before a
    `FramePersistenceError` goes on. -/
def rollBack {α : Type} (s : FleetQoxGatewayState) (before : Option PyJson) (e : StoreError) :
    Except GatewayError α × FleetQoxGatewayState :=
  match e.isPersistence, cfg.admissionPolicy, before with
  | true, some policy, some document =>
      match policy.restoreDurableState cfg.env document s.admission with
      | (.ok (), admission) => (.error (.store e), { s with admission })
      | (.error e', admission) => (.error (.policyDuring e' e), { s with admission })
  | _, _, _ => (.error (.store e), s)

/-- `self.admission_policy.admit`, where there is a policy. -/
def admitFrame (s : FleetQoxGatewayState) (m : FrameMetadata) :
    Except PolicyError AdmissionAction × FleetQoxGatewayState :=
  match cfg.admissionPolicy with
  | none => (.ok .normal, s)
  | some policy =>
      let (answer, admission) := policy.admitFrame cfg.env s.admission m
      (answer, { s with admission })

def admissionRow (document : Option PyJson) : Option (AdmissionRow PyJson) :=
  match cfg.admissionPolicy, document with
  | some policy, some state => some ⟨policy.fingerprint, state⟩
  | _, _ => none

def putTopic (s : FleetQoxGatewayState) (stream : StreamKey) (h : TopicHistory) :
    FleetQoxGatewayState :=
  { s with topics := Function.update s.topics stream (some h) }

/-- `publish` for a frame that is new and was admitted. -/
def publishAdmitted (s : FleetQoxGatewayState) (payload : Bytes) (m : FrameMetadata)
    (before : Option PyJson) (action : AdmissionAction) :
    Except GatewayError PublishResult × FleetQoxGatewayState :=
  let (after, s) := s.exportAdmission cfg
  let h := (s.topics m.streamKey).getD {}
  let s := s.putTopic m.streamKey h
  match s.transact cfg () fun db lease now =>
      (db.appendFrame lease m h.nextOffset payload ((h.evictOffset cfg).map Int.ofNat)
        cfg.dedupCapacityPerTopic (admissionRow cfg after) now).map (·, ()) with
  | (.error e, s) => s.rollBack cfg before e
  | (.ok (), s) =>
      (.ok (.acceptedAs h m action), s.putTopic m.streamKey (h.append cfg payload m))

/-- `publish` for a frame that was parsed. -/
def publishFrame (s : FleetQoxGatewayState) (payload : Bytes) (m : FrameMetadata) :
    Except GatewayError PublishResult × FleetQoxGatewayState :=
  let h := (s.topics m.streamKey).getD {}
  if m.dedupKey ∈ h.recentKeys then
    (.ok (.duplicateOf h m),
      s.putTopic m.streamKey { h with recentKeys := moveToEnd m.dedupKey h.recentKeys })
  else
    let (before, s) := s.exportAdmission cfg
    match s.admitFrame cfg m with
    | (.error e, s) => (.error (.policy e), s)
    | (.ok action, s) => s.publishAdmitted cfg payload m before action

def parse (payload : Bytes) : Except ParseError FrameMetadata :=
  parseDataFrame cfg.levels payload cfg.maxFrameBytes

def publish (s : FleetQoxGatewayState) (payload : Bytes) (expectedDomainId : Option Int)
    (expectedTopic : Option Str) : Except GatewayError PublishResult × FleetQoxGatewayState :=
  match parse cfg payload with
  | .error e => (.error (.parse e), s)
  | .ok m =>
      if expectedDomainId.any fun domainId => m.domainId ≠ domainId then
        (.error (.parse (.validation "frame domain_id does not match request path")), s)
      else if expectedTopic.any fun topic => m.topic ≠ topic then
        (.error (.parse (.validation "frame topic does not match request path")), s)
      else s.publishFrame cfg payload m

def putCursor (s : FleetQoxGatewayState) (stream : StreamKey) (consumerId : Str)
    (nextOffset : Nat) : FleetQoxGatewayState :=
  { s with
    consumerOffsets := Function.update s.consumerOffsets stream
      (Function.update (s.consumerOffsets stream) consumerId (some nextOffset)) }

/-- `_commit_cursor`, and the assignment behind it. -/
def commitCursor (s : FleetQoxGatewayState) (stream : StreamKey) (consumerId : Str)
    (nextOffset : Nat) (answer : Option Bytes) :
    Except GatewayError (Option Bytes) × FleetQoxGatewayState :=
  match s.transact cfg () fun db lease now =>
      (db.setCursor lease stream consumerId nextOffset now).map (·, ()) with
  | (.error e, s) => (.error (.store e), s)
  | (.ok (), s) => (.ok answer, s.putCursor stream consumerId nextOffset)

/-- Where the consumer reads on: its cursor, but no earlier than the oldest record. -/
def cursor (s : FleetQoxGatewayState) (h : TopicHistory) (stream : StreamKey)
    (consumerId : Str) : Nat :=
  max ((s.consumerOffsets stream consumerId).getD h.baseOffset) h.baseOffset

def take (s : FleetQoxGatewayState) (stream : StreamKey) (consumerId : Str) :
    Except GatewayError (Option Bytes) × FleetQoxGatewayState :=
  match s.topics stream with
  | none => (.ok none, s)
  | some h =>
      let cursor := s.cursor h stream consumerId
      match h.records.find? fun r => r.offset ≥ cursor with
      | some r => s.commitCursor cfg stream consumerId (r.offset + 1) (some r.payload)
      | none => s.commitCursor cfg stream consumerId (max cursor h.nextOffset) none

end FleetQoxGatewayState

/-! ## What the policy leaves alone -/

namespace FleetQoxGatewayState

/-- The policy touches nothing but its own state. -/
theorem admitFrame_eq (cfg : GatewayConfig) (s : FleetQoxGatewayState) (m : FrameMetadata) :
    ∃ answer admission, s.admitFrame cfg m = (answer, { s with admission }) := by
  unfold admitFrame
  split
  · exact ⟨_, _, rfl⟩
  · exact ⟨_, _, rfl⟩

theorem exportAdmission_eq (cfg : GatewayConfig) (s : FleetQoxGatewayState) :
    ∃ document admission, s.exportAdmission cfg = (document, { s with admission }) := by
  unfold exportAdmission
  split
  · exact ⟨_, _, rfl⟩
  · exact ⟨_, _, rfl⟩

end FleetQoxGatewayState

/-! ## Application outcomes -/

def applicationOutcomeSchema : Str := lit "fleetrmw.quic_gateway_application_outcome.v1"

def taskKinds : List Str := [lit "generic", lit "nav2", lit "rmf"]

def terminalStatuses : List Str :=
  [lit "succeeded", lit "aborted", lit "canceled", lit "rejected", lit "failed", lit "timed_out"]

/-- An outcome document that passed the checks. The latencies are still numbers of JSON. -/
structure OutcomeRequest where
  domainId : Int
  topic : Str
  publisherId : Str
  sequence : Int
  delivered : Bool
  deadlineMet : Bool
  observedLatencyMs : PyJson
  deadlineMs : PyJson
  taskSucceeded : Option Bool

namespace OutcomeRequest

def streamKey (r : OutcomeRequest) : StreamKey := (r.domainId, r.topic)

def dedupKey (r : OutcomeRequest) : DedupKey := (r.publisherId, r.sequence)

def update (r : OutcomeRequest) (latencyMs deadlineMs : PyFloat) : OutcomeUpdate where
  domainId := r.domainId
  topic := r.topic
  publisherId := r.publisherId
  delivered := r.delivered
  deadlineMet := r.deadlineMet
  observedLatencyMs := latencyMs
  deadlineMs := deadlineMs
  taskSucceeded := r.taskSucceeded

/-- The checks of the task fields, of which all are there or none. -/
def checkTask (get : String → Option PyJson) (delivered : Bool) :
    Except ParseError (Option Bool) :=
  if (get "task_kind").isNone ∧ (get "terminal_status").isNone ∧ (get "task_succeeded").isNone then
    .ok none
  else do
    let invalid : ParseError :=
      .validation "application task outcome fields are invalid or incomplete"
    let _ ← require ((asStr (get "task_kind")).filter (· ∈ taskKinds)) invalid
    let status ← require ((asStr (get "terminal_status")).filter (· ∈ terminalStatuses)) invalid
    let succeeded ← require (asBool (get "task_succeeded")) invalid
    raiseIf (succeeded ≠ decide (status = lit "succeeded"))
      (.validation "application task success contradicts terminal status")
    raiseIf (succeeded ∧ !delivered)
      (.validation "an undelivered application task cannot succeed")
    pure (some succeeded)

/-- An `int` or a `float`. -/
def asNumber : Option PyJson → Option PyJson
  | some (.int i) => some (.int i)
  | some (.float f) => some (.float f)
  | _ => none

/-- The checks of `record_application_outcome` on the document. -/
def ofDocument (document : List (Str × PyJson)) : Except ParseError OutcomeRequest := do
  let get (key : String) := PyJson.lookup document (lit key)
  raiseIf (asStr (get "schema_version") ≠ some applicationOutcomeSchema)
    (.validation "unsupported application outcome schema")
  let identity : ParseError := .validation "application outcome identity is invalid"
  let domainId ← require ((asInt (get "domain_id")).filter (0 ≤ ·)) identity
  let topic ← require ((asStr (get "topic")).filter (lit "/").isPrefixOf) identity
  let publisherId ← require ((asStr (get "publisher_id")).filter (· ≠ [])) identity
  let sequence ← require ((asInt (get "source_sequence_number")).filter (0 < ·)) identity
  let flags : ParseError := .validation "application outcome delivery flags must be boolean"
  let delivered ← require (asBool (get "delivered")) flags
  let deadlineMet ← require (asBool (get "deadline_met")) flags
  raiseIf (!delivered ∧ deadlineMet)
    (.validation "undelivered application outcome cannot meet its deadline")
  let taskSucceeded ← checkTask get delivered
  let numeric : ParseError := .validation "application outcome latency/deadline must be numeric"
  let observedLatencyMs ← require (asNumber (get "observed_latency_ms")) numeric
  let deadlineMs ← require (asNumber (get "deadline_ms")) numeric
  pure { domainId, topic, publisherId, sequence, delivered, deadlineMet, observedLatencyMs,
         deadlineMs, taskSucceeded }

/-- The two calls of `float`. -/
def latencies (r : OutcomeRequest) : Except ParseError (PyFloat × PyFloat) := do
  let latency ← toFloat r.observedLatencyMs
  let deadline ← toFloat r.deadlineMs
  pure (latency.getD .nan, deadline.getD .nan)

end OutcomeRequest

/-- The answer to an outcome for a known frame. -/
inductive OutcomeAnswer where
  | duplicate
  | updated (qoeDebt : Rat)
  deriving Repr, DecidableEq

/-- A frame's outcome is remembered, and the oldest ones forgotten. -/
def TopicHistory.recordOutcome (cfg : GatewayConfig) (h : TopicHistory) (key : DedupKey) :
    TopicHistory :=
  { h with
    applicationOutcomeKeys :=
      popWhileLonger cfg.dedupCapacityPerTopic (h.applicationOutcomeKeys ++ [key]) }

namespace FleetQoxGatewayState

variable (cfg : GatewayConfig)

/-- The observation has been updated: store the outcome and the admission state. -/
def commitOutcome (policy : GatewayAdmissionPolicy) (s : FleetQoxGatewayState)
    (r : OutcomeRequest) (h : TopicHistory) (before : Option PyJson) (debt : Rat) :
    Except GatewayError (Option OutcomeAnswer) × FleetQoxGatewayState :=
  let (after, s) := s.exportAdmission cfg
  match s.transact cfg true fun db lease now =>
      db.commitApplicationOutcome lease ⟨r.streamKey, r.dedupKey⟩ cfg.dedupCapacityPerTopic
        ⟨policy.fingerprint, after.getD .null⟩ now with
  | (.error e, s) => s.rollBack cfg before e
  | (.ok true, s) =>
      (.ok (some (.updated debt)), s.putTopic r.streamKey (h.recordOutcome cfg r.dedupKey))
  | (.ok false, s) =>
      match policy.restoreDurableState cfg.env (before.getD .null) s.admission with
      | (.error e, admission) => (.error (.policy e), { s with admission })
      | (.ok (), admission) =>
          (.ok (some .duplicate), { s with admission }.putTopic r.streamKey
            { h with applicationOutcomeKeys := h.applicationOutcomeKeys ++ [r.dedupKey] })

/-- `record_application_outcome` for a document that passed the checks. A `ValueError` of
    the update leaves as a `FrameValidationError`. -/
def recordOutcome (policy : GatewayAdmissionPolicy) (s : FleetQoxGatewayState)
    (r : OutcomeRequest) :
    Except GatewayError (Option OutcomeAnswer) × FleetQoxGatewayState :=
  match (s.topics r.streamKey).filter fun h => r.dedupKey ∈ h.recentKeys with
  | none => (.ok none, s)
  | some h =>
      if r.dedupKey ∈ h.applicationOutcomeKeys then
        (.ok (some .duplicate), s.putTopic r.streamKey
          { h with applicationOutcomeKeys := moveToEnd r.dedupKey h.applicationOutcomeKeys })
      else
        let (before, s) := s.exportAdmission cfg
        match r.latencies with
        | .error e => (.error (.parse e), s)
        | .ok (latencyMs, deadlineMs) =>
            match policy.updateApplicationOutcome cfg.env s.admission
                (r.update latencyMs deadlineMs) with
            | (.error (.valueError message), admission) =>
                (.error (.parse (.validation message)), { s with admission })
            | (.error e, admission) => (.error (.policy e), { s with admission })
            | (.ok debt, admission) =>
                { s with admission }.commitOutcome cfg policy r h before debt

def recordApplicationOutcome (s : FleetQoxGatewayState) (document : List (Str × PyJson)) :
    Except GatewayError (Option OutcomeAnswer) × FleetQoxGatewayState :=
  match cfg.admissionPolicy with
  | none => (.error (.parse (.validation "admission policy is disabled")), s)
  | some policy =>
      if !policy.applicationOutcomeQoeDebtEnabled then
        (.error (.parse (.validation "application outcome QoE debt is disabled")), s)
      else match OutcomeRequest.ofDocument document with
        | .error e => (.error (.parse e), s)
        | .ok r => s.recordOutcome cfg policy r

end FleetQoxGatewayState

end FleetRMW.Gateway
