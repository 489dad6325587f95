import FleetRMW.Lib.Run
import FleetRMW.Gateway.Durable

/-! # A recovered state agrees with the memory

A state that was constructed on a database serves calls, each of which may write to the
store. After each of them a recovery with the same limits would find what memory holds, and
no call is refused by the store, as long as the integers and texts are such that SQLite can
hold them, the writer lease has not been lost, and a full stream is about to forget the
same key in memory and in the table.
-/

namespace FleetRMW.Gateway

open Lib

/-! ## The tables after a write -/

namespace Mirrors

variable {cfg : GatewayConfig} {db db' : Database PyJson}
  {topics : StreamKey → Option TopicHistory} {offsets : StreamKey → Str → Option Nat}

/-- A history that holds the same records, and the same keys in some order. -/
theorem replace (I : Mirrors cfg db topics offsets) {stream : StreamKey} {h : TopicHistory}
    (same : StreamMirrored cfg stream (db.framesOf stream) (db.keysOf stream) h) :
    Mirrors cfg db (Function.update topics stream (some h)) offsets where
  streams stream' := by
    by_cases own : stream' = stream
    · rw [own, Function.update_self]
      exact same
    · rw [Function.update_of_ne own]
      exact I.streams stream'
  unique := I.unique
  bound := I.bound
  outcomes := I.outcomes
  cursors := I.cursors

/-- A key is in the table when it is in memory. -/
theorem mem_dedupKeys (I : Mirrors cfg db topics offsets) (stream : StreamKey) (key : DedupKey) :
    KeyRow.mk stream key ∈ db.dedupKeys ↔ key ∈ ((topics stream).getD {}).recentKeys := by
  rw [← (I.streams stream).keys.mem_iff, Database.keysOf, List.mem_map]
  constructor
  · intro isRow
    exact ⟨_, List.mem_filter.mpr ⟨isRow, decide_eq_true rfl⟩, rfl⟩
  · rintro ⟨⟨stream', key'⟩, isMine, rfl⟩
    obtain ⟨isRow, own⟩ := List.mem_filter.mp isMine
    have own : stream' = stream := of_decide_eq_true own
    exact own ▸ isRow

/-- A frame that was appended to the tables and in memory. -/
theorem append (I : Mirrors cfg db topics offsets) {payload : Bytes} {m : FrameMetadata}
    {h : TopicHistory} (here : (topics m.streamKey).getD {} = h)
    (parses : FleetQoxGatewayState.parse cfg payload = .ok m)
    (bound : ∀ p ∈ (KeyRow.mk m.streamKey m.dedupKey).params, p.fits)
    (new : m.dedupKey ∉ h.recentKeys)
    (sameOldest : h.recentKeys.length = cfg.dedupCapacityPerTopic →
      h.recentKeys.head? = (db.keysOf m.streamKey).head?)
    (frames : db'.frames = (db.frames ++
        [FrameRow.mk m.streamKey h.nextOffset payload m.dedupKey]).filter
      fun r => !(r.stream = m.streamKey &&
        (h.evictOffset cfg).map Int.ofNat = some r.frameOffset))
    (dedupKeys : db'.dedupKeys = keepNewest (·.stream = m.streamKey) cfg.dedupCapacityPerTopic
      (db.dedupKeys ++ [KeyRow.mk m.streamKey m.dedupKey]))
    (outcomes : db'.applicationOutcomes =
      db.applicationOutcomes.filter (· ∈ db'.dedupKeys))
    (cursors : db'.consumerCursors = db.consumerCursors) :
    Mirrors cfg db' (Function.update topics m.streamKey (some (h.append cfg payload m)))
      offsets where
  streams stream := by
    by_cases own : stream = m.streamKey
    · have mine := I.streams m.streamKey
      rw [here] at mine
      have appended := mine.append parses rfl sameOldest
      have framesOf : db'.framesOf m.streamKey = (db.framesOf m.streamKey ++
          [StoredFrame.row m.streamKey ⟨h.nextOffset, payload, m⟩]).filter
            fun row => !decide ((h.evictOffset cfg).map Int.ofNat = some row.frameOffset) := by
        rw [Database.framesOf, frames, List.filter_filter, Database.framesOf]
        have last : [StoredFrame.row m.streamKey ⟨h.nextOffset, payload, m⟩] =
            [FrameRow.mk m.streamKey h.nextOffset payload m.dedupKey].filter
              (·.stream = m.streamKey) := by
          simp only [StoredFrame.row, decide_true, List.filter_cons_of_pos, List.filter_nil]
        rw [last, ← List.filter_append, List.filter_filter]
        refine List.filter_congr fun row _ => ?_
        by_cases mine : row.stream = m.streamKey
        · simp only [mine, decide_true, Bool.true_and, Bool.and_true]
        · simp only [mine, decide_false, Bool.false_and, Bool.and_false]
      have keysOf : db'.keysOf m.streamKey = popWhileLonger cfg.dedupCapacityPerTopic
          (db.keysOf m.streamKey ++ [m.dedupKey]) := by
        rw [Database.keysOf, dedupKeys, filter_keepNewest, window, List.map_drop,
          List.filter_append, List.map_append, popWhileLonger_eq_drop, Database.keysOf]
        simp
      rw [own, Function.update_self, framesOf, keysOf]
      exact appended
    · rw [Function.update_of_ne own]
      have other := I.streams stream
      have framesOf : db'.framesOf stream = db.framesOf stream := by
        rw [Database.framesOf, frames, List.filter_filter, List.filter_append]
        have last : [FrameRow.mk m.streamKey h.nextOffset payload m.dedupKey].filter
            (fun r => decide (r.stream = stream) && !(r.stream = m.streamKey &&
              (h.evictOffset cfg).map Int.ofNat = some r.frameOffset)) = [] := by
          simp only [Ne.symm own, decide_false, Bool.false_and, Bool.false_eq_true,
            not_false_eq_true, List.filter_cons_of_neg, List.filter_nil]
        rw [last, List.append_nil, Database.framesOf]
        refine List.filter_congr fun row _ => ?_
        by_cases mine : row.stream = stream
        · simp only [mine, own, decide_true, decide_false, Bool.false_and, Bool.not_false,
            Bool.and_true]
        · simp only [mine, decide_false, Bool.false_and]
      have keysOf : db'.keysOf stream = db.keysOf stream := by
        rw [Database.keysOf, dedupKeys, filter_keepNewest_of_disjoint, List.filter_append]
        · simp only [Ne.symm own, decide_false, Bool.false_eq_true, not_false_eq_true,
            List.filter_cons_of_neg, List.filter_nil, List.append_nil, Database.keysOf]
        · intro row mine other
          exact own ((of_decide_eq_true mine).symm.trans (of_decide_eq_true other))
      rw [framesOf, keysOf]
      exact other
  unique := by
    rw [dedupKeys]
    refine List.Nodup.sublist (keepNewest_sublist _ _ _) ?_
    refine List.nodup_append.mpr ⟨I.unique, List.nodup_singleton _, ?_⟩
    rintro row isRow _ isNew rfl
    rw [List.mem_singleton.mp isNew, I.mem_dedupKeys, here] at isRow
    exact new isRow
  bound row isRow := by
    rw [dedupKeys] at isRow
    rcases List.mem_append.mp ((keepNewest_sublist _ _ _).subset isRow) with old | isNew
    · exact I.bound row old
    · rw [List.mem_singleton.mp isNew]
      exact bound
  outcomes row isOutcome := by
    rw [outcomes] at isOutcome
    exact of_decide_eq_true (List.mem_filter.mp isOutcome).2
  cursors := by
    rw [← I.cursors]
    unfold Database.cursorsOf
    rw [cursors]

/-- A cursor that was set in both. -/
theorem putCursor (I : Mirrors cfg db topics offsets) (stream : StreamKey) (consumerId : Str)
    (nextOffset : Nat) :
    Mirrors cfg
      { db with
        consumerCursors := Function.update db.consumerCursors stream
          (Function.update (db.consumerCursors stream) consumerId (some (nextOffset : Int))) }
      topics
      (Function.update offsets stream
        (Function.update (offsets stream) consumerId (some nextOffset))) where
  streams := I.streams
  unique := I.unique
  bound := I.bound
  outcomes := I.outcomes
  cursors := by
    funext stream' consumer'
    have before := congrFun (congrFun I.cursors stream') consumer'
    unfold Database.cursorsOf at before ⊢
    dsimp only
    by_cases own : stream' = stream
    · subst own
      rw [Function.update_self, Function.update_self]
      by_cases mine : consumer' = consumerId
      · rw [mine, Function.update_self, Function.update_self]
        simp
      · rw [Function.update_of_ne mine, Function.update_of_ne mine]
        exact before
    · rw [Function.update_of_ne own, Function.update_of_ne own]
      exact before

/-- An outcome of a known frame that was stored. -/
theorem commitOutcome (I : Mirrors cfg db topics offsets) {outcome : KeyRow}
    (known : outcome ∈ db.dedupKeys) (frames : db'.frames = db.frames)
    (dedupKeys : db'.dedupKeys = db.dedupKeys)
    (cursors : db'.consumerCursors = db.consumerCursors)
    (outcomes : ∀ row ∈ db'.applicationOutcomes, row ∈ db.applicationOutcomes ∨ row = outcome) :
    Mirrors cfg db' topics offsets where
  streams stream := by
    unfold Database.framesOf Database.keysOf
    rw [frames, dedupKeys]
    exact I.streams stream
  unique := dedupKeys ▸ I.unique
  bound := dedupKeys ▸ I.bound
  outcomes row isOutcome := by
    rw [dedupKeys]
    rcases outcomes row isOutcome with old | rfl
    · exact I.outcomes row old
    · exact known
  cursors := by
    rw [← I.cursors]
    unfold Database.cursorsOf
    rw [cursors]

end Mirrors

/-! ## Calls -/

inductive DurableCall where
  | publish (payload : Bytes) (expectedDomainId : Option Int) (expectedTopic : Option Str)
  | take (stream : StreamKey) (consumerId : Str)
  | recordApplicationOutcome (document : List (Str × PyJson))

/-- The store refused, whether or not its exception is the one that leaves. -/
def GatewayError.fromStore : GatewayError → Bool
  | store _ => true
  | policyDuring _ _ => true
  | _ => false

namespace FleetQoxGatewayState

variable (cfg : GatewayConfig)

/-- A call, and whether it raised. -/
def call (s : FleetQoxGatewayState) :
    DurableCall → Except GatewayError Unit × FleetQoxGatewayState
  | .publish payload domainId topic =>
      let (answer, s) := s.publish cfg payload domainId topic
      (answer.map fun _ => (), s)
  | .take stream consumerId =>
      let (answer, s) := s.take cfg stream consumerId
      (answer.map fun _ => (), s)
  | .recordApplicationOutcome document =>
      let (answer, s) := s.recordApplicationOutcome cfg document
      (answer.map fun _ => (), s)

def durableStep (s : FleetQoxGatewayState) (c : DurableCall) : Option FleetQoxGatewayState :=
  some (s.call cfg c).2

/-- A recovery from the store would find what memory holds. -/
def Agrees (s : FleetQoxGatewayState) : Prop :=
  ∃ store recovered, s.durableStore = some store ∧ store.db.recover cfg = .ok recovered ∧
    recovered.cursors = s.consumerOffsets ∧
    ∀ stream,
      let inStore := (recovered.topics stream).getD {}
      let inMemory := (s.topics stream).getD {}
      inStore.records = inMemory.records ∧ inStore.nextOffset = inMemory.nextOffset ∧
        ∀ key, key ∈ inStore.recentKeys ↔ key ∈ inMemory.recentKeys

/-! ### When the store follows -/

/-- A write at the present time would pass the fence. -/
def fenceOpen (s : FleetQoxGatewayState) : Bool :=
  s.durableStore.any fun store =>
    (store.db.verifyWriterLease store.lease (some (s.nowUnixMs cfg))).isOk

/-- The stream has room for a key, or its first key is the same in memory and in the table. -/
def sameOldest (s : FleetQoxGatewayState) (stream : StreamKey) : Bool :=
  let recentKeys := ((s.topics stream).getD {}).recentKeys
  recentKeys.length < cfg.dedupCapacityPerTopic ||
    recentKeys.head? = s.durableStore.bind fun store => (store.db.keysOf stream).head?

/-- The frame that the memory accepts. -/
def newFrame? (s : FleetQoxGatewayState) (payload : Bytes) (expectedDomainId : Option Int)
    (expectedTopic : Option Str) : Option FrameMetadata :=
  match parse cfg payload with
  | .error _ => none
  | .ok m =>
      if expectedDomainId.any fun domainId => m.domainId ≠ domainId then none
      else if expectedTopic.any fun topic => m.topic ≠ topic then none
      else if m.dedupKey ∈ ((s.topics m.streamKey).getD {}).recentKeys then none
      else match ((s.exportAdmission cfg).2.admitFrame cfg m).1 with
        | .error _ => none
        | .ok _ => some m

/-- The cursor that a take sets. -/
def nextCursor (s : FleetQoxGatewayState) (h : TopicHistory) (stream : StreamKey)
    (consumerId : Str) : Nat :=
  let cursor := s.cursor h stream consumerId
  match h.records.find? fun r => r.offset ≥ cursor with
  | some r => r.offset + 1
  | none => max cursor h.nextOffset

/-- The outcome that the memory accepts as a new one. -/
def newOutcome? (s : FleetQoxGatewayState) (document : List (Str × PyJson)) :
    Option OutcomeRequest :=
  match cfg.admissionPolicy, OutcomeRequest.ofDocument document with
  | some policy, .ok r =>
      let h := (s.topics r.streamKey).getD {}
      if policy.applicationOutcomeQoeDebtEnabled ∧ r.dedupKey ∈ h.recentKeys ∧
          r.dedupKey ∉ h.applicationOutcomeKeys then
        match r.latencies with
        | .error _ => none
        | .ok (latencyMs, deadlineMs) =>
            match (policy.updateApplicationOutcome cfg.env (s.exportAdmission cfg).2.admission
                (r.update latencyMs deadlineMs)).1 with
            | .error _ => none
            | .ok _ => some r
      else none
  | _, _ => none

/-- SQLite can hold what a call writes, no other writer has taken over, and the same key
    goes where one has to. -/
def storeFollows (s : FleetQoxGatewayState) : DurableCall → Bool
  | .publish payload domainId topic =>
      (s.newFrame? cfg payload domainId topic).all fun m =>
        (KeyRow.mk m.streamKey m.dedupKey).params.all Param.fits &&
          fitsInt64 ((s.topics m.streamKey).getD {}).nextOffset &&
          fitsInt64 cfg.dedupCapacityPerTopic && s.fenceOpen cfg && s.sameOldest cfg m.streamKey
  | .take stream consumerId =>
      (s.topics stream).all fun h =>
        fitsInt64 stream.1 && stream.2.encodable && consumerId.encodable &&
          fitsInt64 (s.nextCursor h stream consumerId) && s.fenceOpen cfg
  | .recordApplicationOutcome document =>
      (s.newOutcome? cfg document).all fun r =>
        s.fenceOpen cfg && (fitsInt64 cfg.dedupCapacityPerTopic ||
          s.durableStore.any fun store =>
            ⟨r.streamKey, r.dedupKey⟩ ∈ store.db.applicationOutcomes)

/-! ### One call -/

/-- The state has a store, which mirrors it. -/
def Mirrored (s : FleetQoxGatewayState) : Prop :=
  ∃ store, s.durableStore = some store ∧ Mirrors cfg store.db s.topics s.consumerOffsets

/-- The store did not refuse, and mirrors the state behind the call. -/
def Followed {α : Type} : Except GatewayError α × FleetQoxGatewayState → Prop
  | (answer, s) => s.Mirrored cfg ∧ ∀ e, answer = .error e → e.fromStore = false

section
variable {cfg} {s : FleetQoxGatewayState} {store : DurableStore}

theorem Mirrored.agrees (M : s.Mirrored cfg) : s.Agrees cfg := by
  obtain ⟨store, stored, I⟩ := M
  obtain ⟨recovered, answer, -, cursors, found⟩ := I.recover
  refine ⟨store, recovered, stored, answer, cursors, fun stream => ?_⟩
  obtain ⟨records, next, keys⟩ := found stream
  refine ⟨records, next, fun key => ?_⟩
  rw [keys]
  exact (I.streams stream).keys.mem_iff

theorem fenceOpen_iff (stored : s.durableStore = some store) :
    s.fenceOpen cfg ↔
      store.db.verifyWriterLease store.lease (some (s.nowUnixMs cfg)) = .ok () := by
  rw [fenceOpen, stored, Option.any_some]
  cases store.db.verifyWriterLease store.lease (some (s.nowUnixMs cfg)) with
  | error e => simp [Except.isOk, Except.toBool]
  | ok u => simp [Except.isOk, Except.toBool]

/-- A transaction that goes through. -/
theorem transact_of {α : Type} {skipped : α}
    {f : Database PyJson → Option HeldLease → Option Int →
      Except StoreError (Database PyJson × α)}
    (stored : s.durableStore = some store) (commits : ∀ n, cfg.commits n) (db : Database PyJson)
    (a : α) (answer : f store.db store.lease (some (s.nowUnixMs cfg)) = .ok (db, a)) :
    s.transact cfg skipped f = (.ok a, { s with
      wallReads := s.wallReads + 1
      storeCalls := s.storeCalls + 1
      durableStore := some { store with db } }) := by
  rw [transact, stored]
  dsimp only
  rw [answer, commits, transaction, if_pos rfl]

theorem admissionRow_fits (document : Option PyJson) :
    ∀ row ∈ admissionRow cfg document,
      row.policyFingerprint ≠ [] ∧ row.policyFingerprint.encodable := by
  intro row isRow
  unfold admissionRow at isRow
  split at isRow
  case h_1 policy _ _ =>
    obtain rfl := Option.some.inj isRow
    exact ⟨policy.fingerprint_ne, policy.fingerprint_encodable⟩
  case h_2 => cases isRow

/-- A frame that the memory accepted is stored by both. -/
theorem publishAdmitted_followed (commits : ∀ n, cfg.commits n)
    (stored : s.durableStore = some store)
    (I : Mirrors cfg store.db s.topics s.consumerOffsets) {payload : Bytes} {m : FrameMetadata}
    (parses : parse cfg payload = .ok m)
    (new : m.dedupKey ∉ ((s.topics m.streamKey).getD {}).recentKeys)
    (bound : ∀ p ∈ (KeyRow.mk m.streamKey m.dedupKey).params, p.fits)
    (offsetFits : fitsInt64 ((s.topics m.streamKey).getD {}).nextOffset)
    (capacityFits : fitsInt64 cfg.dedupCapacityPerTopic) (open_ : s.fenceOpen cfg)
    (same : s.sameOldest cfg m.streamKey) (before : Option PyJson) (action : AdmissionAction) :
    Followed cfg (s.publishAdmitted cfg payload m before action) := by
  obtain ⟨after, admission, exported⟩ := s.exportAdmission_eq cfg
  have mine := I.streams m.streamKey
  unfold publishAdmitted
  rw [exported]
  dsimp only
  generalize here : (s.topics m.streamKey).getD {} = h at *
  have evictFits : ∀ evict ∈ (h.evictOffset cfg).map Int.ofNat, fitsInt64 evict := by
    intro evict isEvict
    obtain ⟨offset, isOffset, rfl⟩ := Option.mem_map.mp isEvict
    unfold TopicHistory.evictOffset at isOffset
    split at isOffset
    · obtain ⟨r, isFirst, rfl⟩ := Option.mem_map.mp isOffset
      have := mine.offset_lt (List.mem_of_mem_head? isFirst)
      simp only [fitsInt64, Bool.and_eq_true, decide_eq_true_eq, Int.ofNat_eq_natCast]
        at offsetFits ⊢
      omega
    · cases isOffset
  have newOffset : ∀ row ∈ store.db.frames, row.stream = m.streamKey →
      row.frameOffset ≠ h.nextOffset := by
    intro row isRow own
    obtain ⟨r, isRecord, isRow⟩ := I.row_of_record isRow
    rw [own, here] at isRecord
    have := mine.offset_lt isRecord
    rw [← isRow]
    simp only [StoredFrame.row, ne_eq, Int.natCast_inj]
    omega
  have newKey : KeyRow.mk m.streamKey m.dedupKey ∉ store.db.dedupKeys := by
    rw [I.mem_dedupKeys, here]
    exact new
  obtain ⟨db, appended, frames, dedupKeys, outcomes, cursors⟩ :=
    Database.appendFrame_of payload ((fenceOpen_iff stored).mp open_) bound offsetFits evictFits
      capacityFits (admissionRow_fits after) newOffset newKey
  have stored' : (({ s with admission } : FleetQoxGatewayState).putTopic m.streamKey
      h).durableStore = some store := stored
  rw [transact_of stored' commits db ()]
  · dsimp only
    refine ⟨⟨{ store with db }, rfl, ?_⟩, fun e raised => by cases raised⟩
    have sameOldest : h.recentKeys.length = cfg.dedupCapacityPerTopic →
        h.recentKeys.head? = (store.db.keysOf m.streamKey).head? := by
      intro full
      simpa [sameOldest, here, stored, full] using same
    have after := I.append here parses bound new sameOldest frames dedupKeys outcomes cursors
    simp only [putTopic, Function.update_idem]
    exact after
  · exact congrArg (Except.map (·, ())) appended

/-- A call that raised before it came to the store. -/
theorem Mirrored.raises {α : Type} (M : s.Mirrored cfg) {e : GatewayError}
    (own : e.fromStore = false) : Followed (α := α) cfg (.error e, s) :=
  ⟨M, fun _ raised => Except.error.inj raised ▸ own⟩

theorem Mirrored.returns {α : Type} (M : s.Mirrored cfg) (a : α) :
    Followed cfg (.ok a, s) :=
  ⟨M, nofun⟩

theorem Mirrored.withAdmission (M : s.Mirrored cfg) (admission : PolicyState) :
    ({ s with admission } : FleetQoxGatewayState).Mirrored cfg := M

theorem publish_followed (commits : ∀ n, cfg.commits n) (M : s.Mirrored cfg) {payload : Bytes}
    {domainId : Option Int} {topic : Option Str}
    (follows : s.storeFollows cfg (.publish payload domainId topic)) :
    Followed cfg (s.publish cfg payload domainId topic) := by
  unfold publish
  simp only [storeFollows, newFrame?] at follows
  cases parses : parse cfg payload with
  | error e => exact M.raises rfl
  | ok m =>
      simp only [parses] at follows ⊢
      split
      · exact M.raises rfl
      case isFalse sameDomain =>
      split
      · exact M.raises rfl
      case isFalse sameTopic =>
      rw [if_neg sameDomain, if_neg sameTopic] at follows
      unfold publishFrame
      dsimp only
      split
      case isTrue duplicate =>
        obtain ⟨store, stored, I⟩ := M
        refine ⟨⟨store, stored, I.replace ?_⟩, nofun⟩
        exact (I.streams m.streamKey).refresh duplicate
      case isFalse new =>
        obtain ⟨before, admission, exported⟩ := s.exportAdmission_eq cfg
        obtain ⟨answer, admission', admitted⟩ :=
          ({ s with admission } : FleetQoxGatewayState).admitFrame_eq cfg m
        rw [if_neg new] at follows
        simp only [exported, admitted] at follows ⊢
        cases answer with
        | error e => exact (M.withAdmission admission').raises rfl
        | ok action =>
            obtain ⟨store, stored, I⟩ := M
            simp only [Option.all_some, Bool.and_eq_true, List.all_eq_true] at follows
            obtain ⟨⟨⟨⟨bound, offsetFits⟩, capacityFits⟩, open_⟩, same⟩ := follows
            exact publishAdmitted_followed (s := { s with admission := admission' }) commits stored
              I parses new bound offsetFits capacityFits open_ same before action

theorem commitCursor_followed (commits : ∀ n, cfg.commits n) (M : s.Mirrored cfg)
    {stream : StreamKey} {consumerId : Str} {nextOffset : Nat} (domain : fitsInt64 stream.1)
    (topic : stream.2.encodable) (consumer : consumerId.encodable)
    (fits : fitsInt64 nextOffset) (open_ : s.fenceOpen cfg) (answer : Option Bytes) :
    Followed cfg (s.commitCursor cfg stream consumerId nextOffset answer) := by
  obtain ⟨store, stored, I⟩ := M
  have written := Database.setCursor_of ((fenceOpen_iff stored).mp open_) domain topic consumer fits
  unfold commitCursor
  rw [transact_of stored commits _ () (congrArg (Except.map (·, ())) written)]
  exact ⟨⟨_, rfl, I.putCursor stream consumerId nextOffset⟩, nofun⟩

theorem take_followed (commits : ∀ n, cfg.commits n) (M : s.Mirrored cfg) {stream : StreamKey}
    {consumerId : Str} (follows : s.storeFollows cfg (.take stream consumerId)) :
    Followed cfg (s.take cfg stream consumerId) := by
  unfold take
  cases here : s.topics stream with
  | none => exact M.returns _
  | some h =>
      simp only [storeFollows, here, Option.all_some, Bool.and_eq_true] at follows
      obtain ⟨⟨⟨⟨domain, topic⟩, consumer⟩, fits⟩, open_⟩ := follows
      unfold nextCursor at fits
      dsimp only at fits ⊢
      split
      case h_1 r found =>
        rw [found] at fits
        exact commitCursor_followed commits M domain topic consumer fits open_ _
      case h_2 none =>
        rw [none] at fits
        exact commitCursor_followed commits M domain topic consumer fits open_ _

/-- An outcome of a frame that the memory knows is stored by both. -/
theorem commitOutcome_followed (commits : ∀ n, cfg.commits n) (M : s.Mirrored cfg)
    {r : OutcomeRequest} {h : TopicHistory} (here : s.topics r.streamKey = some h)
    (known : r.dedupKey ∈ h.recentKeys) (open_ : s.fenceOpen cfg)
    (capacityFits : ∀ store, s.durableStore = some store →
      KeyRow.mk r.streamKey r.dedupKey ∉ store.db.applicationOutcomes →
        fitsInt64 cfg.dedupCapacityPerTopic)
    (policy : GatewayAdmissionPolicy) (before : Option PyJson) (debt : Rat) :
    Followed cfg (s.commitOutcome cfg policy r h before debt) := by
  obtain ⟨store, stored, I⟩ := M
  obtain ⟨after, admission, exported⟩ := s.exportAdmission_eq cfg
  have mine := I.streams r.streamKey
  rw [here, Option.getD_some] at mine
  have isKey : KeyRow.mk r.streamKey r.dedupKey ∈ store.db.dedupKeys := by
    rw [I.mem_dedupKeys, here]
    exact known
  obtain ⟨db, fresh, written, frames, dedupKeys, cursors, outcomes⟩ :=
    Database.commitApplicationOutcome_of ⟨policy.fingerprint, after.getD .null⟩
      ((fenceOpen_iff stored).mp open_) (I.bound _ isKey) (capacityFits store stored)
      policy.fingerprint_ne policy.fingerprint_encodable isKey
  have I' := I.commitOutcome isKey frames dedupKeys cursors outcomes
  have mine' : StreamMirrored cfg r.streamKey (db.framesOf r.streamKey)
      (db.keysOf r.streamKey) h := by
    have := I'.streams r.streamKey
    rwa [here, Option.getD_some] at this
  have stored' : ({ s with admission } : FleetQoxGatewayState).durableStore = some store := stored
  unfold commitOutcome
  rw [exported]
  dsimp only
  rw [transact_of stored' commits db fresh]
  · cases fresh with
    | true =>
        refine ⟨⟨{ store with db }, rfl, I'.replace ?_⟩, nofun⟩
        exact mine'.withOutcomes _
    | false =>
        dsimp only
        split
        · refine ⟨⟨{ store with db }, rfl, I'⟩, fun e raised => ?_⟩
          obtain rfl := Except.error.inj raised
          rfl
        · refine ⟨⟨{ store with db }, rfl, I'.replace ?_⟩, nofun⟩
          exact mine'.withOutcomes _
  · exact written

theorem recordApplicationOutcome_followed (commits : ∀ n, cfg.commits n) (M : s.Mirrored cfg)
    {document : List (Str × PyJson)}
    (follows : s.storeFollows cfg (.recordApplicationOutcome document)) :
    Followed cfg (s.recordApplicationOutcome cfg document) := by
  unfold recordApplicationOutcome
  simp only [storeFollows, newOutcome?] at follows
  cases configured : cfg.admissionPolicy with
  | none => exact M.raises rfl
  | some policy =>
      dsimp only
      split
      · exact M.raises rfl
      case isFalse enabled =>
      cases valid : OutcomeRequest.ofDocument document with
      | error e => exact M.raises rfl
      | ok r =>
          dsimp only
          unfold recordOutcome
          split
          · exact M.returns _
          case h_2 h found =>
          obtain ⟨here, known⟩ := Option.filter_eq_some_iff.mp found
          have known : r.dedupKey ∈ h.recentKeys := of_decide_eq_true known
          split
          case isTrue duplicate =>
            obtain ⟨store, stored, I⟩ := M
            have mine := I.streams r.streamKey
            rw [here, Option.getD_some] at mine
            exact ⟨⟨store, stored, I.replace (mine.withOutcomes _)⟩, nofun⟩
          case isFalse new =>
          obtain ⟨before, admission, exported⟩ := s.exportAdmission_eq cfg
          have enabled : policy.applicationOutcomeQoeDebtEnabled = true := by
            simpa only [Bool.not_eq_true', Bool.not_eq_false] using enabled
          simp only [configured, valid, here, Option.getD_some, known, new, enabled, exported,
            not_false_eq_true, and_self, if_true] at follows ⊢
          cases numbers : r.latencies with
          | error e => exact (M.withAdmission admission).raises rfl
          | ok latencies =>
              obtain ⟨latencyMs, deadlineMs⟩ := latencies
              simp only [numbers] at follows ⊢
              cases updated : policy.updateApplicationOutcome cfg.env admission
                  (r.update latencyMs deadlineMs) with
              | mk answer admission' =>
                  rw [updated] at follows
                  have M' := M.withAdmission admission'
                  cases answer with
                  | error e => cases e <;> exact M'.raises rfl
                  | ok debt =>
                      simp only [Option.all_some, Bool.and_eq_true] at follows
                      obtain ⟨open_, fits⟩ := follows
                      refine commitOutcome_followed commits M' here known open_ ?_ policy before debt
                      intro store stored missing
                      have stored : s.durableStore = some store := stored
                      simpa only [stored, Option.any_some, decide_eq_false missing,
                        Bool.or_false] using fits

theorem call_followed (commits : ∀ n, cfg.commits n) (M : s.Mirrored cfg) {c : DurableCall}
    (follows : s.storeFollows cfg c) : Followed cfg (s.call cfg c) := by
  have raised {α : Type} {answer : Except GatewayError α} {e : GatewayError}
      (isError : answer.map (fun _ => ()) = .error e) : answer = .error e := by
    cases answer with
    | error e' => exact congrArg _ (Except.error.inj isError)
    | ok a => cases isError
  cases c with
  | publish payload domainId topic =>
      obtain ⟨M', own⟩ := publish_followed commits M follows
      exact ⟨M', fun e isError => own e (raised isError)⟩
  | take stream consumerId =>
      obtain ⟨M', own⟩ := take_followed commits M follows
      exact ⟨M', fun e isError => own e (raised isError)⟩
  | recordApplicationOutcome document =>
      obtain ⟨M', own⟩ := recordApplicationOutcome_followed commits M follows
      exact ⟨M', fun e isError => own e (raised isError)⟩

/-- Taking the lease touches its own table only. -/
theorem openLease_wellFormed {writer : Option (Str × Int)} {db db' : Database PyJson}
    {lease : Option HeldLease} {now : Int} (W : db.WellFormed)
    (opened : openLease writer db now = .ok (db', lease)) : db'.WellFormed := by
  cases writer with
  | none =>
      obtain ⟨rfl, _⟩ := Prod.mk.inj (Except.ok.inj opened)
      exact W
  | some writer =>
      unfold openLease at opened
      cases acquired : db.acquireWriterLease writer.1 writer.2 now with
      | error e =>
          simp only [acquired] at opened
          cases opened
      | ok answer =>
          simp only [acquired] at opened
          obtain ⟨rfl, _⟩ := Prod.mk.inj (Except.ok.inj opened)
          obtain ⟨_, written, _⟩ := Database.acquireWriterLease_eq_ok acquired
          rw [written]
          exact ⟨W.increasing, W.unique, W.bound, W.outcomes⟩

theorem construct_mirrored {writer : Option (Str × Int)} {db : Database PyJson}
    {reads wallReads storeCalls : Nat} (W : db.WellFormed)
    (constructed : construct cfg writer db reads wallReads storeCalls = .ok s) :
    s.Mirrored cfg := by
  simp only [construct, bind_eq_ok_iff, pure_eq_ok] at constructed
  obtain ⟨⟨db', lease⟩, opened, recovered, found, admission, _, rfl⟩ := constructed
  have opened : openLease writer db (max 0 (cfg.wallClock wallReads * 1000).floor) =
      .ok (db', lease) := by
    cases answer : openLease writer db (max 0 (cfg.wallClock wallReads * 1000).floor) with
    | error e =>
        rw [answer] at opened
        cases opened
    | ok a =>
        rw [answer] at opened
        exact congrArg _ (Except.ok.inj opened)
  exact ⟨_, rfl, (openLease_wellFormed W opened).recover found⟩

end

/-- In a run of calls that the store can follow, a recovery would find at any time what is in
    memory, and no call is refused by the store. -/
theorem recovered_agrees {writer : Option (Str × Int)} {db : Database PyJson}
    {reads wallReads storeCalls : Nat} {s₀ s : FleetQoxGatewayState} {calls : List DurableCall}
    (commits : ∀ n, cfg.commits n) (W : db.WellFormed)
    (constructed : construct cfg writer db reads wallReads storeCalls = .ok s₀)
    (follows : RunMeets (durableStep cfg) (fun s c => s.storeFollows cfg c) s₀ calls)
    (h : run (durableStep cfg) s₀ calls = some s) :
    s.Agrees cfg ∧ ∀ c, s.storeFollows cfg c →
      ∀ e, (s.call cfg c).1 = .error e → e.fromStore = false := by
  have M : s.Mirrored cfg := by
    refine run_invariant (I := Mirrored cfg) ?_ (construct_mirrored W constructed) follows h
    intro s c s' M follows stepped
    rw [← Option.some.inj stepped]
    exact (call_followed commits M follows).1
  refine ⟨M.agrees, fun c follows => ?_⟩
  exact (call_followed commits M follows).2

/-! ### Two keys at the capacity -/

/-- A gateway without a policy, which keeps one frame of a stream and two keys. -/
def twoKeys : GatewayConfig where
  maxFramesPerTopic := 1
  maxFrameBytes := 1000
  dedupCapacityPerTopic := 2
  maxBatchFrames := 1
  admissionPolicy := none
  env := ⟨fun _ => 0, id⟩
  wallClock _ := 0
  commits _ := true
  levels := 10
  maxFrames_pos := Nat.one_pos
  maxFrames_le_capacity := by decide

/-- A frame of one publisher on one topic. -/
def numberedFrame (sequence : String) : DurableCall :=
  .publish (octets ("FRMW1\n\x7b\"schema_version\":\"fleetrmw.data_frame.v1\"," ++
    "\"route\":\x7b\"topic\":\"/t\"\x7d,\"sample_envelope\":\x7b\"topic\":\"/t\"," ++
    "\"publisher_id\":\"p\",\"source_sequence_number\":" ++ sequence ++ "\x7d\x7d")) none none

/-- Two frames fill the table of keys, and a consumer takes the one that is left. -/
theorem recovered_agrees_twoFrames :
    let calls := [numberedFrame "1", numberedFrame "2", .take (0, lit "/t") (lit "c")]
    ∃ s₀ s, construct twoKeys none {} 0 0 0 = .ok s₀ ∧
      run (durableStep twoKeys) s₀ calls = some s ∧ s.Agrees twoKeys ∧
        ∀ c, s.storeFollows twoKeys c →
          ∀ e, (s.call twoKeys c).1 = .error e → e.fromStore = false := by
  intro calls
  have taken : (construct twoKeys none {} 0 0 0).toOption.any fun s₀ =>
      decide (RunMeets (durableStep twoKeys) (fun s c => s.storeFollows twoKeys c) s₀ calls) &&
        (run (durableStep twoKeys) s₀ calls).isSome := by decide +kernel
  cases constructed : construct twoKeys none {} 0 0 0 with
  | error e =>
      rw [constructed] at taken
      cases taken
  | ok s₀ =>
      rw [constructed, Except.toOption, Option.any_some, Bool.and_eq_true] at taken
      obtain ⟨follows, ends⟩ := taken
      obtain ⟨s, h⟩ := Option.isSome_iff_exists.mp ends
      have empty : Database.WellFormed {} := ⟨fun _ => .nil, .nil, nofun, nofun⟩
      exact ⟨s₀, s, rfl, h, recovered_agrees twoKeys (fun _ => rfl) empty constructed
        (of_decide_eq_true follows) h⟩

/-- The memory knows a key that a recovery would not find. -/
def forgotten (s : FleetQoxGatewayState) (stream : StreamKey) (key : DedupKey) : Bool :=
  ((s.topics stream).getD {}).recentKeys.contains key &&
    (s.durableStore.bind fun store => (store.db.recover cfg).toOption).any fun recovered =>
      !((recovered.topics stream).getD {}).recentKeys.contains key

theorem Agrees.not_forgotten {s : FleetQoxGatewayState} (A : s.Agrees cfg) (stream : StreamKey)
    (key : DedupKey) : s.forgotten cfg stream key = false := by
  obtain ⟨store, recovered, stored, answer, -, same⟩ := A
  obtain ⟨-, -, keys⟩ := same stream
  simp only [forgotten, stored, Option.bind_some, answer, Except.toOption, Option.any_some,
    List.contains_eq_mem, Bool.and_eq_false_iff, Bool.not_eq_false', decide_eq_false_iff_not,
    decide_eq_true_eq, keys]
  exact (em _).symm

/-- A duplicate of the first frame saves its key in memory only: the third frame drives out
    the second key there, and the first one from the table. -/
theorem recent_keys_diverge :
    ∃ s₀ s, construct twoKeys none {} 0 0 0 = .ok s₀ ∧
      run (durableStep twoKeys) s₀ [numberedFrame "1", numberedFrame "2", numberedFrame "1",
        numberedFrame "3"] = some s ∧ ¬s.Agrees twoKeys := by
  have differ : (construct twoKeys none {} 0 0 0).toOption.any fun s₀ =>
      (run (durableStep twoKeys) s₀ [numberedFrame "1", numberedFrame "2", numberedFrame "1",
        numberedFrame "3"]).any fun s =>
          s.forgotten twoKeys (0, lit "/t") (lit "p", 1) := by decide +kernel
  cases constructed : construct twoKeys none {} 0 0 0 with
  | error e =>
      rw [constructed] at differ
      cases differ
  | ok s₀ =>
      rw [constructed, Except.toOption, Option.any_some] at differ
      obtain ⟨s, h, forgotten⟩ := (Option.any_eq_true _ _).mp differ
      refine ⟨s₀, s, rfl, h, fun A => ?_⟩
      rw [A.not_forgotten] at forgotten
      cases forgotten

end FleetQoxGatewayState

end FleetRMW.Gateway
