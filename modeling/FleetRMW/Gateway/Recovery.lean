import FleetRMW.Gateway.State

/-! # Recovering a state from its store

`GatewayDurableStore.recover` rebuilds the histories and the cursors from the tables,
parsing every payload again, and deletes what exceeds the limits. The constructor of
`FleetQoxGatewayState` takes the writer lease, recovers, and restores the admission state.
-/

namespace FleetRMW.Gateway

open Lib

/-- What `recover` returns, and the database after it. -/
structure Recovered where
  topics : StreamKey → Option TopicHistory
  cursors : StreamKey → Str → Option Nat
  db : Database PyJson

namespace Database

variable (cfg : GatewayConfig)

/-- `ORDER BY domain_id, topic, frame_offset`. -/
def orderedFrames (db : Database PyJson) : List FrameRow :=
  db.frames.insertionSort fun x y =>
    toLex (x.stream.1, toLex (x.stream.2, x.frameOffset)) ≤
      toLex (y.stream.1, toLex (y.stream.2, y.frameOffset))

/-- The `except` clauses of `recover`: a `FrameValidationError` or another `ValueError`
    becomes a `FramePersistenceError`. -/
def recoveryError : ParseError → GatewayError
  | .recursion => .parse .recursion
  | .overflow => .parse .overflow
  | _ => .store (.persistence "could not recover durable gateway state")

/-- A row of `frames` is parsed again, and has to be the row of what it parses to. -/
def recoverFrame (row : FrameRow) : Except GatewayError (StreamKey × StoredFrame) := do
  let m ← (parseDataFrame cfg.levels row.payload cfg.maxFrameBytes).mapError recoveryError
  raiseIf (m.streamKey ≠ row.stream ∨ m.dedupKey ≠ row.key ∨ row.frameOffset < 0)
    (.store (.persistence "durable frame index does not match its FleetRMW payload"))
  pure (row.stream, ⟨row.frameOffset.toNat, row.payload, m⟩)

def keysOf (db : Database PyJson) (stream : StreamKey) : List DedupKey :=
  (db.dedupKeys.filter (·.stream = stream)).map KeyRow.key

def recordsOf (stored : List (StreamKey × StoredFrame)) (stream : StreamKey) :
    List StoredFrame :=
  (stored.filter (·.1 = stream)).map Prod.snd

/-- The rows that are within the limits. -/
def trimmed (db : Database PyJson) (stored : List (StreamKey × StoredFrame)) :
    Database PyJson :=
  { db with
    frames := db.frames.filter fun row =>
      (popWhileLonger cfg.maxFramesPerTopic (recordsOf stored row.stream)).any fun r =>
        (r.offset : Int) = row.frameOffset
    dedupKeys := db.dedupKeys.filter fun row =>
      row.key ∈ popWhileLonger cfg.dedupCapacityPerTopic (db.keysOf row.stream) : Database PyJson
  }.cascade

def recoveredTopic (db : Database PyJson) (stored : List (StreamKey × StoredFrame))
    (stream : StreamKey) : Option TopicHistory :=
  let records := recordsOf stored stream
  if records = [] ∧ db.keysOf stream = [] then none
  else some {
    records := popWhileLonger cfg.maxFramesPerTopic records
    recentKeys := popWhileLonger cfg.dedupCapacityPerTopic (db.keysOf stream)
    applicationOutcomeKeys :=
      ((trimmed cfg db stored).applicationOutcomes.filter (·.stream = stream)).map KeyRow.key
    nextOffset := records.foldl (fun next r => max next (r.offset + 1)) 0 }

/-- The cursors that are not negative. -/
def cursorsOf (db : Database PyJson) (stream : StreamKey) (consumer : Str) : Option Nat :=
  ((db.consumerCursors stream consumer).filter (0 ≤ ·)).map Int.toNat

def recover (db : Database PyJson) : Except GatewayError Recovered := do
  let stored ← db.orderedFrames.mapM (recoverFrame cfg)
  let after := trimmed cfg db stored
  raiseIf (∃ row ∈ after.applicationOutcomes,
      row.key ∉ popWhileLonger cfg.dedupCapacityPerTopic (db.keysOf row.stream))
    (.store (.persistence "durable application outcome lacks its accepted frame key"))
  pure {
    topics := db.recoveredTopic cfg stored
    cursors := db.cursorsOf
    db := after }

end Database

namespace FleetQoxGatewayState

variable (cfg : GatewayConfig)

/-- The admission state of a new gateway: restored from the row, where there is one. -/
def openAdmission (db : Database PyJson) (reads : Nat) : Except GatewayError PolicyState :=
  match cfg.admissionPolicy with
  | none => do
      raiseIf db.admissionState.isSome (.policy (.valueError
        "durable admission state exists but no admission policy was configured"))
      pure { reads, epochStarted := 0 }
  | some policy => do
      let fresh := GatewayAdmissionPolicy.init cfg.env reads
      match ← (db.loadAdmissionState policy.fingerprint).mapError GatewayError.store with
      | none => do
          raiseIf (db.frames ≠ []) (.policy (.valueError
            "retained frames lack durable admission state; refusing to reset fleet state"))
          pure fresh
      | some document =>
          match policy.restoreDurableState cfg.env document fresh with
          | (.ok (), admission) => pure admission
          | (.error e, _) => throw (.policy e)

/-- The lease that a configured writer takes. -/
def openLease (writer : Option (Str × Int)) (db : Database PyJson) (now : Int) :
    Except StoreError (Database PyJson × Option HeldLease) :=
  match writer with
  | none => .ok (db, none)
  | some (holderId, leaseMs) =>
      (db.acquireWriterLease holderId leaseMs now).map fun (db, held) => (db, some held)

/-- The constructor, on the database of a durable path. The counters say what has been
    read and done before. -/
def construct (writer : Option (Str × Int)) (db : Database PyJson)
    (reads wallReads storeCalls : Nat) : Except GatewayError FleetQoxGatewayState := do
  let now := max 0 (cfg.wallClock wallReads * 1000).floor
  let (db, lease) ← (openLease writer db now).mapError GatewayError.store
  let recovered ← db.recover cfg
  let admission ← openAdmission cfg recovered.db reads
  pure {
    topics := recovered.topics
    consumerOffsets := recovered.cursors
    admission
    durableStore := some ⟨recovered.db, lease⟩
    wallReads := if writer.isSome then wallReads + 1 else wallReads
    storeCalls }

end FleetQoxGatewayState

end FleetRMW.Gateway
