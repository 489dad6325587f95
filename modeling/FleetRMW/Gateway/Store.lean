import FleetRMW.Lib.Except
import FleetRMW.Lib.Window
import FleetRMW.Gateway.Metadata

/-! # The durable store

`GatewayDurableStore` keeps the gateway's frames, dedup keys, application outcomes and
cursors in one SQLite database. Each method is one transaction, so it is a function on
the database that either returns the next one or raises and changes nothing. Several
connections may be open on one database. The row of `writer_lease` says which of them may
write: each acquire by a new holder, or after expiry, raises its fence token, and a
connection that holds a lease compares the row with what it remembers before it writes.

The admission state is a document of a type `Doc` that the store does not look into.
-/

namespace FleetRMW.Gateway

open Lib

/-- What a method of the store raises. -/
inductive StoreError where
  | valueError (message : String)
  /-- `FramePersistenceError`. -/
  | persistence (message : String)
  /-- `FramePersistenceError` with the text "durable writer lease is held by" the holder. -/
  | leaseHeldBy (holder : Str)
  /-- `UnicodeEncodeError`, from a text with a lone surrogate. -/
  | unicodeEncode
  /-- `OverflowError`, from an integer that SQLite cannot hold. -/
  | overflow
  deriving Repr, DecidableEq

/-- The `except` clause for `sqlite3.Error`, `TypeError` and `ValueError`, of which
    `UnicodeEncodeError` is one and `OverflowError` is not. -/
def wrapValueErrors {α : Type} (message : String) : Except StoreError α → Except StoreError α
  | .error .unicodeEncode => .error (.persistence message)
  | .error (.valueError _) => .error (.persistence message)
  | answer => answer

/-- A statement that fails raises, and its transaction is rolled back. -/
def transaction {α : Type} (commits : Bool) (x : Except StoreError α) : Except StoreError α :=
  if commits then x else .error (.persistence "sqlite3.Error")

theorem transaction_eq_ok {α : Type} {commits : Bool} {x : Except StoreError α} {a : α}
    (h : transaction commits x = .ok a) : x = .ok a := by
  unfold transaction at h
  split at h
  · exact h
  · cases h

structure FrameRow where
  stream : StreamKey
  frameOffset : Int
  payload : Bytes
  key : DedupKey
  deriving Repr, DecidableEq

/-- A row of `dedup_keys` or of `application_outcomes`. -/
structure KeyRow where
  stream : StreamKey
  key : DedupKey
  deriving Repr, DecidableEq

structure AdmissionRow (Doc : Type) where
  policyFingerprint : Str
  state : Doc
  deriving Repr, DecidableEq

structure LeaseRow where
  holderId : Str
  fenceToken : Int
  expiresUnixMs : Int
  deriving Repr, DecidableEq

/-- The tables. Rows with an `ordinal` are listed in its order. -/
structure Database (Doc : Type) where
  frames : List FrameRow := []
  dedupKeys : List KeyRow := []
  applicationOutcomes : List KeyRow := []
  consumerCursors : StreamKey → Str → Option Int := fun _ _ => none
  admissionState : Option (AdmissionRow Doc) := none
  writerLease : Option LeaseRow := none

/-- `_writer_lease_id`, `_writer_fence_token` and `_writer_lease_ms`, which the source sets
    and clears together. -/
structure HeldLease where
  id : Str
  fenceToken : Int
  leaseMs : Int
  deriving Repr, DecidableEq

/-- A parameter of an SQL statement. -/
inductive Param where
  | int (i : Int)
  | text (s : Str)

def fitsInt64 (i : Int) : Bool := -2 ^ 63 ≤ i && i < 2 ^ 63

def Param.fits : Param → Bool
  | int i => fitsInt64 i
  | text s => s.encodable

def Param.check : Param → Except StoreError Unit
  | int i => if fitsInt64 i then .ok () else .error .overflow
  | text s => if s.encodable then .ok () else .error .unicodeEncode

/-- Bind the parameters of a statement. -/
def bindParams : List Param → Except StoreError Unit
  | [] => .ok ()
  | p :: ps => do p.check; bindParams ps

theorem bindParams_eq_ok {ps : List Param} {u : Unit} :
    bindParams ps = .ok u ↔ ∀ p ∈ ps, p.fits := by
  induction ps with
  | nil => simp only [bindParams, List.not_mem_nil, false_implies, implies_true]
  | cons p ps ih =>
      have check : (∃ u, p.check = .ok u) ↔ p.fits := by
        cases p <;> simp [Param.check, Param.fits]
      simp only [bindParams, bind_eq_ok_iff, ih, exists_and_right, check, List.mem_cons,
        forall_eq_or_imp]

theorem bindParams_of {ps : List Param} (fit : ∀ p ∈ ps, p.fits) : bindParams ps = .ok () :=
  bindParams_eq_ok.mpr fit

def KeyRow.params (r : KeyRow) : List Param :=
  [.int r.stream.1, .text r.stream.2, .text r.key.1, .int r.key.2]

namespace Database

variable {Doc : Type}

/-- The token that an acquire stores. -/
def nextFenceToken (db : Database Doc) (holderId : Str) (nowUnixMs : Int) :
    Except StoreError Int :=
  match db.writerLease with
  | none => .ok 1
  | some row =>
      if row.holderId ≠ holderId ∧ row.expiresUnixMs > nowUnixMs then
        .error (.leaseHeldBy row.holderId)
      else if row.holderId = holderId ∧ row.expiresUnixMs > nowUnixMs then
        .ok row.fenceToken
      else
        .ok (row.fenceToken + 1)

def acquireWriterLease (db : Database Doc) (holderId : Str) (leaseMs nowUnixMs : Int) :
    Except StoreError (Database Doc × HeldLease) := do
  raiseIf (holderId = [] ∨ leaseMs ≤ 0 ∨ nowUnixMs < 0)
    (.valueError "durable writer lease configuration is invalid")
  let fenceToken ← db.nextFenceToken holderId nowUnixMs
  bindParams [.text holderId, .int fenceToken, .int (nowUnixMs + leaseMs)]
  pure ({ db with writerLease := some ⟨holderId, fenceToken, nowUnixMs + leaseMs⟩ },
    ⟨holderId, fenceToken, leaseMs⟩)

/-- The row is that of the held lease. -/
def leaseRowOf (db : Database Doc) (held : HeldLease) : Option LeaseRow :=
  db.writerLease.filter fun row =>
    row.holderId = held.id ∧ row.fenceToken = held.fenceToken

/-- The row is that of the held lease and has not expired. -/
def holdsLease (db : Database Doc) (held : HeldLease) (nowUnixMs : Int) : Bool :=
  (db.leaseRowOf held).any fun row => row.expiresUnixMs > nowUnixMs

def renewWriterLease (db : Database Doc) (lease : Option HeldLease) (nowUnixMs : Int) :
    Except StoreError (Database Doc × Int) := do
  match lease with
  | none => throw (.persistence "durable writer lease is not configured")
  | some held =>
      raiseIf (!db.holdsLease held nowUnixMs)
        (.persistence "durable writer lease was lost or expired")
      let expires := nowUnixMs + held.leaseMs
      bindParams [.int expires]
      pure ({ db with
        writerLease := db.writerLease.map fun row => { row with expiresUnixMs := expires } },
        expires)

/-- The `UPDATE` of `release_writer_lease`. -/
def releaseWriterLease (db : Database Doc) (lease : Option HeldLease) (nowUnixMs : Int) :
    Except StoreError (Database Doc) := do
  match lease with
  | none => pure db
  | some held =>
      bindParams [.int nowUnixMs, .text held.id, .int held.fenceToken]
      pure { db with
        writerLease := db.writerLease.map fun row =>
          if row.holderId = held.id ∧ row.fenceToken = held.fenceToken then
            { row with expiresUnixMs := nowUnixMs }
          else row }

/-- What every write does first: `_verify_writer_lease`, unless no lease is held. -/
def verifyWriterLease (db : Database Doc) (lease : Option HeldLease) (nowUnixMs : Option Int) :
    Except StoreError Unit :=
  match lease, nowUnixMs with
  | none, _ => .ok ()
  | some _, none =>
      .error (.persistence "durable writer fence requires a wall-clock timestamp")
  | some held, some now =>
      if db.holdsLease held now then .ok ()
      else .error (.persistence "durable writer fence rejected a stale or expired writer")

/-- `ON DELETE CASCADE`. -/
def cascade (db : Database Doc) : Database Doc :=
  { db with applicationOutcomes := db.applicationOutcomes.filter (· ∈ db.dedupKeys) }

def putAdmissionState (db : Database Doc) (row : AdmissionRow Doc) :
    Except StoreError (Database Doc) := do
  raiseIf (row.policyFingerprint = [])
    (.persistence "durable admission state lacks a policy fingerprint")
  bindParams [.text row.policyFingerprint]
  pure { db with admissionState := some row }

def insertFrame (db : Database Doc) (row : FrameRow) : Except StoreError (Database Doc) := do
  bindParams [.int row.stream.1, .text row.stream.2, .int row.frameOffset, .text row.key.1,
    .int row.key.2]
  raiseIf (∃ r ∈ db.frames, r.stream = row.stream ∧ r.frameOffset = row.frameOffset)
    (.persistence "could not commit durable gateway frame: UNIQUE constraint failed")
  pure { db with frames := db.frames ++ [row] }

def insertDedupKey (db : Database Doc) (row : KeyRow) : Except StoreError (Database Doc) := do
  bindParams row.params
  raiseIf (row ∈ db.dedupKeys)
    (.persistence "could not commit durable gateway frame: UNIQUE constraint failed")
  pure { db with dedupKeys := db.dedupKeys ++ [row] }

/-- Delete the frame with the evicted offset, where there is one. -/
def deleteFrame (db : Database Doc) (stream : StreamKey) :
    Option Int → Except StoreError (Database Doc)
  | none => pure db
  | some offset => do
      bindParams [.int stream.1, .text stream.2, .int offset]
      pure { db with
        frames := db.frames.filter fun r => !(r.stream = stream && r.frameOffset = offset) }

/-- Delete the stream's keys behind the newest `capacity`, and with them their outcomes. -/
def deleteStaleKeys (db : Database Doc) (stream : StreamKey) (capacity : Int) :
    Except StoreError (Database Doc) := do
  bindParams [.int stream.1, .text stream.2, .int capacity]
  pure { db with
    dedupKeys := keepNewest (·.stream = stream) capacity.toNat db.dedupKeys : Database Doc }.cascade

def appendFrame (db : Database Doc) (lease : Option HeldLease) (metadata : FrameMetadata)
    (offset : Int) (payload : Bytes) (evictOffset : Option Int) (dedupCapacityPerTopic : Int)
    (admissionState : Option (AdmissionRow Doc)) (nowUnixMs : Option Int) :
    Except StoreError (Database Doc) :=
  wrapValueErrors "could not commit durable gateway frame" do
    db.verifyWriterLease lease nowUnixMs
    let stream := metadata.streamKey
    let db ← db.insertFrame ⟨stream, offset, payload, metadata.dedupKey⟩
    let db ← db.insertDedupKey ⟨stream, metadata.dedupKey⟩
    let db ← db.deleteFrame stream evictOffset
    let db ← db.deleteStaleKeys stream dedupCapacityPerTopic
    match admissionState with
    | some row => db.putAdmissionState row
    | none => pure db

/-- Only `sqlite3.Error` is caught here, so a binding error leaves as it is. -/
def setCursor (db : Database Doc) (lease : Option HeldLease) (stream : StreamKey)
    (consumerId : Str) (nextOffset : Int) (nowUnixMs : Option Int) :
    Except StoreError (Database Doc) := do
  db.verifyWriterLease lease nowUnixMs
  bindParams [.int stream.1, .text stream.2, .text consumerId, .int nextOffset]
  pure { db with
    consumerCursors := Function.update db.consumerCursors stream
      (Function.update (db.consumerCursors stream) consumerId (some nextOffset)) }

/-- The answer tells whether the outcome is new. -/
def commitApplicationOutcome (db : Database Doc) (lease : Option HeldLease)
    (outcome : KeyRow) (capacityPerTopic : Int) (admissionState : AdmissionRow Doc)
    (nowUnixMs : Option Int) : Except StoreError (Database Doc × Bool) :=
  wrapValueErrors "could not commit durable application outcome" do
    db.verifyWriterLease lease nowUnixMs
    bindParams outcome.params
    raiseIf (outcome ∉ db.dedupKeys)
      (.persistence "durable application outcome references an unknown frame")
    if outcome ∈ db.applicationOutcomes then
      pure (db, false)
    else
      bindParams [.int outcome.stream.1, .text outcome.stream.2, .int capacityPerTopic]
      let db := { db with
        applicationOutcomes := keepNewest (·.stream = outcome.stream) capacityPerTopic.toNat
          (db.applicationOutcomes ++ [outcome]) }
      let db ← db.putAdmissionState admissionState
      pure (db, true)

def loadAdmissionState (db : Database Doc) (policyFingerprint : Str) :
    Except StoreError (Option Doc) :=
  match db.admissionState with
  | none => .ok none
  | some row =>
      if row.policyFingerprint = policyFingerprint then .ok (some row.state)
      else .error (.persistence
        "durable admission policy fingerprint does not match configuration")

/-! ## What a method that returned has done -/

@[simp] theorem wrapValueErrors_eq_ok {α : Type} {message : String} {x : Except StoreError α}
    {a : α} : wrapValueErrors message x = .ok a ↔ x = .ok a := by
  cases x with
  | ok => exact Iff.rfl
  | error e => cases e <;> simp only [wrapValueErrors, reduceCtorEq]

section
variable {db db' : Database Doc} {lease : Option HeldLease}

/-- The token stays with a holder that comes back in time and rises for any other. -/
theorem acquireWriterLease_eq_ok {holderId : Str} {leaseMs now : Int} {held : HeldLease}
    (h : db.acquireWriterLease holderId leaseMs now = .ok (db', held)) :
    held.id = holderId ∧
      db' = { db with writerLease := some ⟨holderId, held.fenceToken, now + leaseMs⟩ } ∧
      ∀ row, db.writerLease = some row →
        row.holderId = holderId ∧ held.fenceToken = row.fenceToken ∨
          held.fenceToken = row.fenceToken + 1 := by
  simp only [acquireWriterLease, bind_eq_ok_iff, pure_eq_ok, Prod.mk.injEq] at h
  obtain ⟨_, _, token, decided, _, _, rfl, rfl⟩ := h
  refine ⟨rfl, rfl, ?_⟩
  intro row stored
  simp only [nextFenceToken, stored] at decided
  split at decided
  case isTrue => cases decided
  case isFalse =>
    split at decided
    case isTrue mine => exact .inl ⟨mine.1, (Except.ok.inj decided).symm⟩
    case isFalse => exact .inr (Except.ok.inj decided).symm

theorem renewWriterLease_eq_ok {now expires : Int}
    (h : db.renewWriterLease lease now = .ok (db', expires)) :
    db' = { db with
      writerLease := db.writerLease.map fun row => { row with expiresUnixMs := expires } } := by
  cases lease with
  | none => exact absurd h throw_ne_ok
  | some held =>
      simp only [renewWriterLease, bind_eq_ok_iff, pure_eq_ok, Prod.mk.injEq] at h
      obtain ⟨_, _, _, _, rfl, rfl⟩ := h
      rfl

/-- A release touches the expiry at most. -/
theorem releaseWriterLease_eq_ok {now : Int}
    (h : db.releaseWriterLease lease now = .ok db') :
    ∃ expires : LeaseRow → Int, db' = { db with
      writerLease := db.writerLease.map fun row =>
        { row with expiresUnixMs := expires row } } := by
  cases lease with
  | none =>
      refine ⟨LeaseRow.expiresUnixMs, ?_⟩
      obtain rfl := pure_eq_ok.mp h
      simp only [Option.map_id']
  | some held =>
      simp only [releaseWriterLease, bind_eq_ok_iff, pure_eq_ok] at h
      obtain ⟨_, _, rfl⟩ := h
      refine ⟨fun row => if row.holderId = held.id ∧ row.fenceToken = held.fenceToken then now
        else row.expiresUnixMs, ?_⟩
      congr 2
      funext row
      dsimp only
      split <;> rfl

theorem holdsLease_iff {held : HeldLease} {now : Int} :
    db.holdsLease held now ↔ ∃ row, db.writerLease = some row ∧ row.holderId = held.id ∧
      row.fenceToken = held.fenceToken ∧ now < row.expiresUnixMs := by
  cases stored : db.writerLease with
  | none => simp [holdsLease, leaseRowOf, stored]
  | some row =>
      simp only [holdsLease, leaseRowOf, stored, Option.filter_some]
      split <;> simp_all

theorem putAdmissionState_eq_ok {row : AdmissionRow Doc}
    (h : db.putAdmissionState row = .ok db') : db' = { db with admissionState := some row } := by
  simp only [putAdmissionState, bind_eq_ok_iff, pure_eq_ok] at h
  obtain ⟨_, _, _, _, rfl⟩ := h
  rfl

/-- A frame that was appended, row by row. -/
theorem appendFrame_eq_ok {metadata : FrameMetadata} {offset : Int} {payload : Bytes}
    {evictOffset : Option Int} {capacity : Int} {state : Option (AdmissionRow Doc)}
    {now : Option Int}
    (h : db.appendFrame lease metadata offset payload evictOffset capacity state now = .ok db') :
    db.verifyWriterLease lease now = .ok () ∧ db'.writerLease = db.writerLease := by
  simp only [appendFrame, wrapValueErrors_eq_ok, bind_eq_ok_iff] at h
  obtain ⟨_, verified, db₁, inserted, db₂, keyed, db₃, evicted, db₄, trimmed, stored⟩ := h
  refine ⟨verified, ?_⟩
  simp only [insertFrame, insertDedupKey, deleteStaleKeys, cascade, bind_eq_ok_iff,
    pure_eq_ok] at inserted keyed trimmed
  obtain ⟨_, _, _, _, rfl⟩ := inserted
  obtain ⟨_, _, _, _, rfl⟩ := keyed
  obtain ⟨_, _, rfl⟩ := trimmed
  have evicted : db₃.writerLease = db.writerLease := by
    cases evictOffset with
    | none => rw [← pure_eq_ok.mp evicted]
    | some evict =>
        simp only [deleteFrame, bind_eq_ok_iff, pure_eq_ok] at evicted
        obtain ⟨_, _, rfl⟩ := evicted
        rfl
  cases state with
  | none => rw [← pure_eq_ok.mp stored, evicted]
  | some row => rw [putAdmissionState_eq_ok stored, evicted]

theorem insertFrame_of {row : FrameRow}
    (bound : ∀ p ∈ (KeyRow.mk row.stream row.key).params, p.fits) (fits : fitsInt64 row.frameOffset)
    (new : ∀ r ∈ db.frames, r.stream = row.stream → r.frameOffset ≠ row.frameOffset) :
    db.insertFrame row = .ok { db with frames := db.frames ++ [row] } := by
  simp only [KeyRow.params, List.forall_mem_cons] at bound
  obtain ⟨domain, topic, publisher, sequence, rest⟩ := bound
  have params : bindParams [.int row.stream.1, .text row.stream.2, .int row.frameOffset,
      .text row.key.1, .int row.key.2] = .ok () :=
    bindParams_of (by simpa only [List.forall_mem_cons] using
      ⟨domain, topic, fits, publisher, sequence, rest⟩)
  rw [insertFrame, params, ok_bind, raiseIf_of_not, ok_bind]
  · rfl
  · rintro ⟨r, isRow, same, equal⟩
    exact new r isRow same equal

theorem insertDedupKey_of {row : KeyRow} (bound : ∀ p ∈ row.params, p.fits)
    (new : row ∉ db.dedupKeys) :
    db.insertDedupKey row = .ok { db with dedupKeys := db.dedupKeys ++ [row] } := by
  rw [insertDedupKey, bindParams_of bound, ok_bind, raiseIf_of_not new, ok_bind]
  rfl

theorem deleteFrame_of {stream : StreamKey} {evictOffset : Option Int}
    (domain : fitsInt64 stream.1) (topic : stream.2.encodable)
    (fits : ∀ evict ∈ evictOffset, fitsInt64 evict) :
    db.deleteFrame stream evictOffset = .ok { db with
      frames := db.frames.filter fun r =>
        !(r.stream = stream && evictOffset = some r.frameOffset) } := by
  cases evictOffset with
  | none =>
      simp only [deleteFrame, reduceCtorEq, decide_false, Bool.and_false, Bool.not_false,
        List.filter_true]
      rfl
  | some evict =>
      rw [deleteFrame, bindParams_of (by simpa only [List.forall_mem_cons] using
        ⟨domain, topic, fits evict rfl, nofun⟩), ok_bind]
      simp only [Option.some.injEq, eq_comm (a := evict)]
      rfl

theorem deleteStaleKeys_of {stream : StreamKey} {capacity : Int}
    (domain : fitsInt64 stream.1) (topic : stream.2.encodable) (fits : fitsInt64 capacity) :
    db.deleteStaleKeys stream capacity = .ok ({ db with
      dedupKeys := keepNewest (·.stream = stream) capacity.toNat db.dedupKeys :
        Database Doc }.cascade) := by
  rw [deleteStaleKeys, bindParams_of (by simpa only [List.forall_mem_cons] using
    ⟨domain, topic, fits, nofun⟩), ok_bind]
  rfl

theorem putAdmissionState_of {row : AdmissionRow Doc} (named : row.policyFingerprint ≠ [])
    (fits : row.policyFingerprint.encodable) :
    db.putAdmissionState row = .ok { db with admissionState := some row } := by
  rw [putAdmissionState, raiseIf_of_not named, ok_bind, bindParams_of (by
    simpa only [List.forall_mem_cons] using ⟨fits, nofun⟩), ok_bind]
  rfl

/-- What an append has done to the tables, where nothing stands in its way. -/
theorem appendFrame_of {metadata : FrameMetadata} {offset : Int} {evictOffset : Option Int}
    {capacity : Int} {state : Option (AdmissionRow Doc)} {now : Option Int} (payload : Bytes)
    (verified : db.verifyWriterLease lease now = .ok ())
    (bound : ∀ p ∈ (KeyRow.mk metadata.streamKey metadata.dedupKey).params, p.fits)
    (offsetFits : fitsInt64 offset) (evictFits : ∀ evict ∈ evictOffset, fitsInt64 evict)
    (capacityFits : fitsInt64 capacity)
    (stateFits : ∀ row ∈ state, row.policyFingerprint ≠ [] ∧ row.policyFingerprint.encodable)
    (newOffset : ∀ r ∈ db.frames, r.stream = metadata.streamKey → r.frameOffset ≠ offset)
    (newKey : KeyRow.mk metadata.streamKey metadata.dedupKey ∉ db.dedupKeys) :
    ∃ db', db.appendFrame lease metadata offset payload evictOffset capacity state now = .ok db' ∧
      db'.frames = (db.frames ++
          [FrameRow.mk metadata.streamKey offset payload metadata.dedupKey]).filter
        (fun r => !(r.stream = metadata.streamKey && evictOffset = some r.frameOffset)) ∧
      db'.dedupKeys = keepNewest (·.stream = metadata.streamKey) capacity.toNat
        (db.dedupKeys ++ [KeyRow.mk metadata.streamKey metadata.dedupKey]) ∧
      db'.applicationOutcomes = db.applicationOutcomes.filter (· ∈ db'.dedupKeys) ∧
      db'.consumerCursors = db.consumerCursors := by
  have stream := bound
  simp only [KeyRow.params, List.forall_mem_cons] at stream
  obtain ⟨domain, topic, _⟩ := stream
  rw [appendFrame, verified, ok_bind]
  dsimp only
  rw [insertFrame_of bound offsetFits newOffset, ok_bind, insertDedupKey_of bound, ok_bind,
    deleteFrame_of domain topic evictFits, ok_bind,
    deleteStaleKeys_of domain topic capacityFits, ok_bind]
  · cases state with
    | none => exact ⟨_, rfl, rfl, rfl, rfl, rfl⟩
    | some row =>
        obtain ⟨named, fits⟩ := stateFits row rfl
        dsimp only
        rw [putAdmissionState_of named fits]
        exact ⟨_, rfl, rfl, rfl, rfl, rfl⟩
  · exact newKey

/-- Likewise for a cursor. -/
theorem setCursor_of {stream : StreamKey} {consumerId : Str} {nextOffset : Int}
    {now : Option Int} (verified : db.verifyWriterLease lease now = .ok ())
    (domain : fitsInt64 stream.1) (topic : stream.2.encodable) (consumer : consumerId.encodable)
    (fits : fitsInt64 nextOffset) :
    db.setCursor lease stream consumerId nextOffset now = .ok { db with
      consumerCursors := Function.update db.consumerCursors stream
        (Function.update (db.consumerCursors stream) consumerId (some nextOffset)) } := by
  rw [setCursor, verified, ok_bind, bindParams_of (by
    simpa only [List.forall_mem_cons] using ⟨domain, topic, consumer, fits, nofun⟩), ok_bind]
  rfl

/-- Likewise for an outcome of a known frame: of the tables that are recovered only that of
    the outcomes changes. -/
theorem commitApplicationOutcome_of {outcome : KeyRow} {capacity : Int} {now : Option Int}
    (state : AdmissionRow Doc) (verified : db.verifyWriterLease lease now = .ok ())
    (bound : ∀ p ∈ outcome.params, p.fits)
    (capacityFits : outcome ∉ db.applicationOutcomes → fitsInt64 capacity)
    (named : state.policyFingerprint ≠ []) (fits : state.policyFingerprint.encodable)
    (known : outcome ∈ db.dedupKeys) :
    ∃ db' fresh,
      db.commitApplicationOutcome lease outcome capacity state now = .ok (db', fresh) ∧
      db'.frames = db.frames ∧ db'.dedupKeys = db.dedupKeys ∧
      db'.consumerCursors = db.consumerCursors ∧
      ∀ row ∈ db'.applicationOutcomes, row ∈ db.applicationOutcomes ∨ row = outcome := by
  have stream := bound
  simp only [KeyRow.params, List.forall_mem_cons] at stream
  obtain ⟨domain, topic, _⟩ := stream
  rw [commitApplicationOutcome, verified, ok_bind, bindParams_of bound, ok_bind,
    raiseIf_of_not (not_not.mpr known), ok_bind]
  split
  case isTrue => exact ⟨db, false, rfl, rfl, rfl, rfl, fun _ isRow => .inl isRow⟩
  case isFalse new =>
    rw [bindParams_of (by simpa only [List.forall_mem_cons] using
      ⟨domain, topic, capacityFits new, nofun⟩), ok_bind]
    dsimp only
    rw [putAdmissionState_of named fits, ok_bind]
    refine ⟨_, true, rfl, rfl, rfl, rfl, fun row isRow => ?_⟩
    have := (keepNewest_sublist _ _ _).subset isRow
    simpa only [List.mem_append, List.mem_singleton] using this

theorem setCursor_eq_ok {stream : StreamKey} {consumerId : Str} {nextOffset : Int}
    {now : Option Int} (h : db.setCursor lease stream consumerId nextOffset now = .ok db') :
    db.verifyWriterLease lease now = .ok () ∧
      db' = { db with
        consumerCursors := Function.update db.consumerCursors stream
          (Function.update (db.consumerCursors stream) consumerId (some nextOffset)) } := by
  simp only [setCursor, bind_eq_ok_iff, pure_eq_ok] at h
  obtain ⟨_, verified, _, _, rfl⟩ := h
  exact ⟨verified, rfl⟩

theorem commitApplicationOutcome_eq_ok {outcome : KeyRow} {capacity : Int}
    {state : AdmissionRow Doc} {now : Option Int} {fresh : Bool}
    (h : db.commitApplicationOutcome lease outcome capacity state now = .ok (db', fresh)) :
    db.verifyWriterLease lease now = .ok () ∧ db'.writerLease = db.writerLease := by
  simp only [commitApplicationOutcome, wrapValueErrors_eq_ok, bind_eq_ok_iff] at h
  obtain ⟨_, verified, _, _, _, _, h⟩ := h
  refine ⟨verified, ?_⟩
  split at h
  case isTrue known => rw [← (Prod.mk.inj (pure_eq_ok.mp h)).1]
  case isFalse new =>
    simp only [bind_eq_ok_iff, pure_eq_ok, Prod.mk.injEq] at h
    obtain ⟨_, _, _, stored, rfl, rfl⟩ := h
    rw [putAdmissionState_eq_ok stored]

end

end Database

end FleetRMW.Gateway
