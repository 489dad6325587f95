import FleetRMW.Lib.Run
import FleetRMW.Gateway.Recovery

/-! # The store mirrors the memory

A gateway state with a store keeps the same frames, keys and cursors twice. The memory
orders a stream's recent keys by use, since a duplicate moves its key to the end; the table
of dedup keys keeps them in the order of their insertion. Both drop their first key when a
stream is full, so they stay equal as sets as long as the two first keys are the same one.
-/

namespace FleetRMW.Gateway

open Lib

def StoredFrame.row (stream : StreamKey) (r : StoredFrame) : FrameRow where
  stream := stream
  frameOffset := r.offset
  payload := r.payload
  key := r.metadata.dedupKey

/-- The offset behind all records, as `recover` computes it. -/
def nextAfter (records : List StoredFrame) : Nat :=
  records.foldl (fun next r => max next (r.offset + 1)) 0

def Database.framesOf (db : Database PyJson) (stream : StreamKey) : List FrameRow :=
  db.frames.filter (·.stream = stream)

/-- One stream's rows and its history. -/
structure StreamMirrored (cfg : GatewayConfig) (stream : StreamKey) (frames : List FrameRow)
    (keys : List DedupKey) (h : TopicHistory) : Prop where
  frames : frames = h.records.map (StoredFrame.row stream)
  parsed : ∀ r ∈ h.records, FleetQoxGatewayState.parse cfg r.payload = .ok r.metadata ∧
    r.metadata.streamKey = stream
  increasing : h.records.Pairwise fun x y => x.offset < y.offset
  next : h.nextOffset = nextAfter h.records
  few : h.records.length ≤ cfg.maxFramesPerTopic
  keys : keys.Perm h.recentKeys
  fewKeys : h.recentKeys.length ≤ cfg.dedupCapacityPerTopic

/-- The tables, and the histories and cursors in memory. -/
structure Mirrors (cfg : GatewayConfig) (db : Database PyJson)
    (topics : StreamKey → Option TopicHistory) (offsets : StreamKey → Str → Option Nat) :
    Prop where
  streams : ∀ stream, StreamMirrored cfg stream (db.framesOf stream) (db.keysOf stream)
    ((topics stream).getD {})
  unique : db.dedupKeys.Nodup
  bound : ∀ row ∈ db.dedupKeys, ∀ p ∈ row.params, p.fits
  outcomes : ∀ row ∈ db.applicationOutcomes, row ∈ db.dedupKeys
  cursors : db.cursorsOf = offsets

/-! ## One stream -/

theorem nextAfter_concat (records : List StoredFrame) (r : StoredFrame) :
    nextAfter (records ++ [r]) = max (nextAfter records) (r.offset + 1) := by
  simp only [nextAfter, List.foldl_append, List.foldl_cons, List.foldl_nil]

theorem nextAfter_le_iff {records : List StoredFrame} {n : Nat} :
    nextAfter records ≤ n ↔ ∀ r ∈ records, r.offset < n := by
  induction records using List.reverseRecOn with
  | nil => simp [nextAfter]
  | append_singleton records r ih =>
      rw [nextAfter_concat, max_le_iff, ih, Nat.succ_le_iff]
      simp only [List.mem_append, List.mem_singleton, or_imp, forall_and, forall_eq]

namespace StreamMirrored

variable {cfg : GatewayConfig} {stream : StreamKey} {frames : List FrameRow}
  {keys : List DedupKey} {h : TopicHistory}

theorem offset_lt (I : StreamMirrored cfg stream frames keys h) {r : StoredFrame}
    (isRecord : r ∈ h.records) : r.offset < h.nextOffset :=
  nextAfter_le_iff.mp I.next.ge r isRecord

theorem empty (cfg : GatewayConfig) (stream : StreamKey) : StreamMirrored cfg stream [] [] {} where
  frames := rfl
  parsed := nofun
  increasing := .nil
  next := rfl
  few := Nat.zero_le _
  keys := .nil
  fewKeys := Nat.zero_le _

/-- A duplicate moves its key only. -/
theorem refresh (I : StreamMirrored cfg stream frames keys h) {k : DedupKey}
    (known : k ∈ h.recentKeys) :
    StreamMirrored cfg stream frames keys { h with recentKeys := moveToEnd k h.recentKeys } where
  frames := I.frames
  parsed := I.parsed
  increasing := I.increasing
  next := I.next
  few := I.few
  keys := I.keys.trans (moveToEnd_perm known).symm
  fewKeys := by
    rw [(moveToEnd_perm known).length_eq]
    exact I.fewKeys

/-- The rows of the outcomes are no part of this. -/
theorem withOutcomes (I : StreamMirrored cfg stream frames keys h) (outcomes : List DedupKey) :
    StreamMirrored cfg stream frames keys { h with applicationOutcomeKeys := outcomes } :=
  ⟨I.frames, I.parsed, I.increasing, I.next, I.few, I.keys, I.fewKeys⟩

/-- The frames of a stream after an append. -/
theorem append_frames (I : StreamMirrored cfg stream frames keys h) (r : StoredFrame)
    (isNext : r.offset = h.nextOffset) :
    (frames ++ [r.row stream]).filter
        (fun row => !decide ((h.evictOffset cfg).map Int.ofNat = some row.frameOffset)) =
      (popWhileLonger cfg.maxFramesPerTopic (h.records ++ [r])).map (StoredFrame.row stream) := by
  have room := cfg.maxFrames_pos
  rw [popWhileLonger_concat I.few room, I.frames, TopicHistory.evictOffset]
  by_cases full : h.records.length < cfg.maxFramesPerTopic
  · rw [if_neg (Nat.not_le.mpr full), if_pos full]
    simp only [Option.map_none, reduceCtorEq, decide_false, Bool.not_false, List.filter_true,
      List.map_append, List.map_singleton]
  · rw [if_pos (Nat.not_lt.mp full), if_neg full]
    cases records : h.records with
    | nil => simp [records] at full; omega
    | cons oldest rest =>
        have increasing := I.increasing
        rw [records, List.pairwise_cons] at increasing
        have later : ∀ row ∈ rest.map (StoredFrame.row stream) ++ [r.row stream],
            (!decide ((some (oldest.offset : Int)) = some row.frameOffset)) = true := by
          have := I.offset_lt (records ▸ List.mem_cons_self (a := oldest))
          simp only [List.mem_append, List.mem_map, List.mem_singleton, Bool.not_eq_true',
            decide_eq_false_iff_not, Option.some.injEq]
          rintro row (⟨r', isRest, rfl⟩ | rfl)
          · have := increasing.1 r' isRest
            simp only [StoredFrame.row]
            omega
          · simp only [StoredFrame.row]
            omega
        simp only [List.head?_cons, Option.map_some, List.map_cons, List.cons_append,
          List.tail_cons, List.map_append, List.map_nil]
        rw [List.filter_cons_of_neg (by simp [StoredFrame.row])]
        exact List.filter_eq_self.mpr later

/-- An accepted frame, where a full stream forgets the same key on both sides. -/
theorem append (I : StreamMirrored cfg stream frames keys h) {payload : Bytes}
    {m : FrameMetadata} (parses : FleetQoxGatewayState.parse cfg payload = .ok m)
    (own : m.streamKey = stream)
    (sameOldest : h.recentKeys.length = cfg.dedupCapacityPerTopic →
      h.recentKeys.head? = keys.head?) :
    StreamMirrored cfg stream
      ((frames ++ [StoredFrame.row stream ⟨h.nextOffset, payload, m⟩]).filter
        fun row => !decide ((h.evictOffset cfg).map Int.ofNat = some row.frameOffset))
      (popWhileLonger cfg.dedupCapacityPerTopic (keys ++ [m.dedupKey]))
      (h.append cfg payload m) where
  frames := I.append_frames ⟨h.nextOffset, payload, m⟩ rfl
  parsed r isRecord := by
    have := (popWhileLonger_sublist _ _).subset isRecord
    rcases List.mem_append.mp this with old | new
    · exact I.parsed r old
    · rw [List.mem_singleton.mp new]
      exact ⟨parses, own⟩
  increasing := by
    refine List.Pairwise.sublist (popWhileLonger_sublist _ _) ?_
    refine List.pairwise_append.mpr ⟨I.increasing, List.pairwise_singleton _ _, ?_⟩
    intro r isRecord new isNew
    rw [List.mem_singleton.mp isNew]
    exact I.offset_lt isRecord
  next := by
    have room := cfg.maxFrames_pos
    simp only [TopicHistory.append]
    rw [popWhileLonger_concat I.few room, nextAfter_concat]
    refine (max_eq_right ?_).symm
    refine nextAfter_le_iff.mpr fun r isRecord => Nat.lt_succ_of_lt (I.offset_lt ?_)
    split at isRecord
    · exact isRecord
    · exact List.mem_of_mem_tail isRecord
  few := by simp only [TopicHistory.append, length_popWhileLonger, min_le_right]
  keys := by
    have room := cfg.maxFrames_pos.trans_le cfg.maxFrames_le_capacity
    have length := I.keys.length_eq
    simp only [TopicHistory.append]
    rw [popWhileLonger_concat I.fewKeys room, popWhileLonger_concat (length ▸ I.fewKeys) room]
    refine List.Perm.append_right _ ?_
    by_cases full : h.recentKeys.length < cfg.dedupCapacityPerTopic
    · rw [if_pos full, if_pos (length ▸ full)]
      exact I.keys
    · rw [if_neg full, if_neg (length ▸ full)]
      have same := sameOldest (le_antisymm I.fewKeys (Nat.not_lt.mp full))
      cases recent : h.recentKeys with
      | nil => simp [recent] at full; omega
      | cons k rest =>
          rw [recent, List.head?_cons] at same
          obtain ⟨older, rfl⟩ := List.head?_eq_some_iff.mp same.symm
          exact (List.perm_cons k).mp (recent ▸ I.keys)
  fewKeys := by simp only [TopicHistory.append, length_popWhileLonger, min_le_right]

end StreamMirrored

/-! ## Recovery -/

/-- A row and the metadata of its payload determine the record. -/
theorem StoredFrame.row_inj {cfg : GatewayConfig} {stream : StreamKey} {x y : StoredFrame}
    (same : x.row stream = y.row stream)
    (hx : FleetQoxGatewayState.parse cfg x.payload = .ok x.metadata)
    (hy : FleetQoxGatewayState.parse cfg y.payload = .ok y.metadata) : x = y := by
  obtain ⟨offset, payload, m⟩ := x
  obtain ⟨offset', payload', m'⟩ := y
  simp only [StoredFrame.row, FrameRow.mk.injEq, Int.natCast_inj, true_and] at same
  obtain ⟨rfl, rfl, _⟩ := same
  have same : m = m' := Except.ok.inj (hx.symm.trans hy)
  rw [same]

namespace Database

variable {cfg : GatewayConfig} {db : Database PyJson}

theorem recoverFrame_row {stream : StreamKey} {r : StoredFrame}
    (parses : FleetQoxGatewayState.parse cfg r.payload = .ok r.metadata)
    (own : r.metadata.streamKey = stream) :
    recoverFrame cfg (r.row stream) = .ok (stream, r) := by
  have parsed : (parseDataFrame cfg.levels (r.row stream).payload cfg.maxFrameBytes).mapError
      recoveryError = .ok r.metadata := by
    rw [show parseDataFrame cfg.levels (r.row stream).payload cfg.maxFrameBytes =
      .ok r.metadata from parses]
    rfl
  rw [recoverFrame, parsed, ok_bind, raiseIf_of_not, ok_bind]
  · rfl
  · simp [own, StoredFrame.row]

/-- Rows that were made of records are parsed back to them. -/
theorem mapM_recoverFrame {rows : List FrameRow}
    (made : ∀ row ∈ rows, ∃ r : StoredFrame, r.row row.stream = row ∧
      FleetQoxGatewayState.parse cfg r.payload = .ok r.metadata ∧
      r.metadata.streamKey = row.stream) :
    ∃ stored, rows.mapM (recoverFrame cfg) = .ok stored ∧
      stored.map (fun x => x.2.row x.1) = rows ∧
      ∀ x ∈ stored, FleetQoxGatewayState.parse cfg x.2.payload = .ok x.2.metadata := by
  induction rows with
  | nil => exact ⟨[], rfl, rfl, nofun⟩
  | cons row rows ih =>
      obtain ⟨r, isRow, parses, own⟩ := made row List.mem_cons_self
      obtain ⟨stored, recovered, back, parsed⟩ :=
        ih fun row isRow => made row (List.mem_cons_of_mem _ isRow)
      refine ⟨(row.stream, r) :: stored, ?_, ?_, ?_⟩
      · rw [List.mapM_cons, ← isRow, recoverFrame_row parses own, ok_bind, recovered, ok_bind]
        rfl
      · rw [List.map_cons, isRow, back]
      · rintro x (_ | ⟨_, isStored⟩)
        · exact parses
        · exact parsed x isStored

/-- Sorting does not change the order of one stream's frames, which is that of their offsets. -/
theorem filter_orderedFrames {stream : StreamKey}
    (increasing : (db.framesOf stream).Pairwise fun x y => x.frameOffset < y.frameOffset) :
    db.orderedFrames.filter (·.stream = stream) = db.framesOf stream := by
  have perm : (db.orderedFrames.filter (·.stream = stream)).Perm (db.framesOf stream) :=
    (List.perm_insertionSort _ _).filter _
  have ordered : (db.framesOf stream).Pairwise fun x y =>
      toLex (x.stream.1, toLex (x.stream.2, x.frameOffset)) ≤
        toLex (y.stream.1, toLex (y.stream.2, y.frameOffset)) := by
    refine increasing.imp_of_mem fun {x y} isX isY less => ?_
    have sameX : x.stream = stream := of_decide_eq_true (List.mem_filter.mp isX).2
    have sameY : y.stream = stream := of_decide_eq_true (List.mem_filter.mp isY).2
    rw [sameX, sameY, Prod.Lex.toLex_le_toLex]
    refine .inr ⟨rfl, ?_⟩
    rw [Prod.Lex.toLex_le_toLex]
    exact .inr ⟨rfl, less.le⟩
  have sublist := List.sublist_insertionSort ordered List.filter_sublist
  have kept := sublist.filter (·.stream = stream)
  have same : (db.framesOf stream).filter (·.stream = stream) = db.framesOf stream :=
    List.filter_eq_self.mpr fun row isRow => (List.mem_filter.mp isRow).2
  rw [same] at kept
  exact (kept.eq_of_length perm.length_eq.symm).symm

/-- Records read back from the rows of one stream. -/
theorem recordsOf_eq {stream : StreamKey} {stored : List (StreamKey × StoredFrame)}
    {records : List StoredFrame}
    (back : (stored.map fun x => x.2.row x.1).filter (·.stream = stream) =
      records.map (StoredFrame.row stream))
    (hx : ∀ x ∈ stored, FleetQoxGatewayState.parse cfg x.2.payload = .ok x.2.metadata)
    (hy : ∀ r ∈ records, FleetQoxGatewayState.parse cfg r.payload = .ok r.metadata) :
    recordsOf stored stream = records := by
  have rows : (recordsOf stored stream).map (StoredFrame.row stream) =
      records.map (StoredFrame.row stream) := by
    rw [← back, List.filter_map, recordsOf, List.map_map]
    refine List.map_congr_left fun x isStored => ?_
    have own : x.1 = stream := of_decide_eq_true (List.mem_filter.mp isStored).2
    rw [Function.comp_apply, own]
  refine List.ext_getElem (by simpa only [List.length_map] using congrArg List.length rows) ?_
  intro i inside inside'
  have same := congrArg (·[i]?) rows
  simp only [List.getElem?_map, List.getElem?_eq_getElem inside,
    List.getElem?_eq_getElem inside', Option.map_some, Option.some.injEq] at same
  refine StoredFrame.row_inj same ?_ (hy _ (List.getElem_mem inside'))
  obtain ⟨x, isStored, isRecord⟩ := List.mem_map.mp (List.getElem_mem inside)
  rw [← isRecord]
  exact hx x (List.mem_filter.mp isStored).1

/-- A stream that nothing was found of is as good as an empty one. -/
theorem recoveredTopic_getD (cfg : GatewayConfig) (db : Database PyJson) (stored : List (StreamKey × StoredFrame))
    (stream : StreamKey) :
    let h := (db.recoveredTopic cfg stored stream).getD {}
    h.records = popWhileLonger cfg.maxFramesPerTopic (recordsOf stored stream) ∧
      h.nextOffset = nextAfter (recordsOf stored stream) ∧
      h.recentKeys = popWhileLonger cfg.dedupCapacityPerTopic (db.keysOf stream) := by
  unfold recoveredTopic
  dsimp only
  split
  case isTrue nothing =>
    rw [nothing.1, nothing.2]
    exact ⟨rfl, rfl, rfl⟩
  case isFalse => exact ⟨rfl, rfl, rfl⟩

end Database

namespace Mirrors

variable {cfg : GatewayConfig} {db : Database PyJson}
  {topics : StreamKey → Option TopicHistory} {offsets : StreamKey → Str → Option Nat}

/-- Every row was made of a record. -/
theorem row_of_record (I : Mirrors cfg db topics offsets) {row : FrameRow}
    (isRow : row ∈ db.frames) :
    ∃ r ∈ ((topics row.stream).getD {}).records, r.row row.stream = row := by
  have own : row ∈ db.framesOf row.stream :=
    List.mem_filter.mpr ⟨isRow, decide_eq_true rfl⟩
  rw [(I.streams row.stream).frames] at own
  exact List.mem_map.mp own

theorem framesOf_increasing (I : Mirrors cfg db topics offsets) (stream : StreamKey) :
    (db.framesOf stream).Pairwise fun x y => x.frameOffset < y.frameOffset := by
  rw [(I.streams stream).frames, List.pairwise_map]
  exact (I.streams stream).increasing.imp fun less => Int.ofNat_lt.mpr less

/-- Nothing exceeds the limits. -/
theorem trimmed_eq (I : Mirrors cfg db topics offsets)
    {stored : List (StreamKey × StoredFrame)}
    (records : ∀ stream, Database.recordsOf stored stream = ((topics stream).getD {}).records) :
    db.trimmed cfg stored = db := by
  have frames : db.frames.filter (fun row =>
      (popWhileLonger cfg.maxFramesPerTopic (Database.recordsOf stored row.stream)).any
        fun r => (r.offset : Int) = row.frameOffset) = db.frames := by
    refine List.filter_eq_self.mpr fun row isRow => ?_
    obtain ⟨r, isRecord, same⟩ := I.row_of_record isRow
    rw [records, popWhileLonger_of_le (I.streams _).few]
    exact List.any_eq_true.mpr ⟨r, isRecord, decide_eq_true (congrArg FrameRow.frameOffset same)⟩
  have keys : db.dedupKeys.filter (fun row =>
      row.key ∈ popWhileLonger cfg.dedupCapacityPerTopic (db.keysOf row.stream)) =
        db.dedupKeys := by
    refine List.filter_eq_self.mpr fun row isRow => decide_eq_true ?_
    have few := (I.streams row.stream).fewKeys
    rw [popWhileLonger_of_le ((I.streams row.stream).keys.length_eq ▸ few)]
    exact List.mem_map.mpr ⟨row, List.mem_filter.mpr ⟨isRow, decide_eq_true rfl⟩, rfl⟩
  have outcomes : db.applicationOutcomes.filter (· ∈ db.dedupKeys) = db.applicationOutcomes :=
    List.filter_eq_self.mpr fun row isRow => decide_eq_true (I.outcomes row isRow)
  simp only [Database.trimmed, Database.cascade, frames, keys, outcomes]

/-- Recovery finds what memory holds, with the keys in the order of the table. -/
theorem recover (I : Mirrors cfg db topics offsets) :
    ∃ recovered, db.recover cfg = .ok recovered ∧ recovered.db = db ∧
      recovered.cursors = offsets ∧
      ∀ stream, let h := (recovered.topics stream).getD {}
        h.records = ((topics stream).getD {}).records ∧
          h.nextOffset = ((topics stream).getD {}).nextOffset ∧
          h.recentKeys = db.keysOf stream := by
  have made : ∀ row ∈ db.orderedFrames, ∃ r : StoredFrame, r.row row.stream = row ∧
      FleetQoxGatewayState.parse cfg r.payload = .ok r.metadata ∧
      r.metadata.streamKey = row.stream := by
    intro row isRow
    obtain ⟨r, isRecord, same⟩ :=
      I.row_of_record ((List.perm_insertionSort _ _).mem_iff.mp isRow)
    exact ⟨r, same, (I.streams _).parsed r isRecord⟩
  obtain ⟨stored, answer, back, parsed⟩ := Database.mapM_recoverFrame made
  have records : ∀ stream, Database.recordsOf stored stream =
      ((topics stream).getD {}).records := fun stream =>
    Database.recordsOf_eq
      (by rw [back, Database.filter_orderedFrames (I.framesOf_increasing stream),
        (I.streams stream).frames])
      parsed fun r isRecord => ((I.streams stream).parsed r isRecord).1
  have kept : ∀ stream, popWhileLonger cfg.dedupCapacityPerTopic (db.keysOf stream) =
      db.keysOf stream := fun stream =>
    popWhileLonger_of_le ((I.streams stream).keys.length_eq ▸ (I.streams stream).fewKeys)
  have trimmed := I.trimmed_eq records
  refine ⟨⟨db.recoveredTopic cfg stored, db.cursorsOf, db⟩, ?_, rfl, I.cursors, fun stream => ?_⟩
  · rw [Database.recover, answer, ok_bind]
    dsimp only
    rw [raiseIf_of_not, ok_bind, trimmed]
    · rfl
    · rw [trimmed]
      rintro ⟨row, isOutcome, missing⟩
      rw [kept] at missing
      exact missing (List.mem_map.mpr ⟨row, List.mem_filter.mpr
        ⟨I.outcomes row isOutcome, decide_eq_true rfl⟩, rfl⟩)
  · have mine := I.streams stream
    obtain ⟨records', next, keys⟩ := Database.recoveredTopic_getD cfg db stored stream
    refine ⟨?_, ?_, ?_⟩
    · rw [records', records, popWhileLonger_of_le mine.few]
    · rw [next, records, mine.next]
    · rw [keys, kept]

end Mirrors

/-- What the schema keeps: its primary and foreign keys, and that SQLite stored the rows. The
    rows of a stream's frames are listed in the order of their key. -/
structure Database.WellFormed (db : Database PyJson) : Prop where
  increasing : ∀ stream,
    (db.framesOf stream).Pairwise fun x y => x.frameOffset < y.frameOffset
  unique : db.dedupKeys.Nodup
  bound : ∀ row ∈ db.dedupKeys, ∀ p ∈ row.params, p.fits
  outcomes : ∀ row ∈ db.applicationOutcomes, row ∈ db.dedupKeys

namespace Database.WellFormed

variable {cfg : GatewayConfig} {db : Database PyJson}

/-- Records whose rows were recovered. -/
theorem stored_of_mapM {rows : List FrameRow} {stored : List (StreamKey × StoredFrame)}
    (answer : rows.mapM (Database.recoverFrame cfg) = .ok stored) :
    stored.map (fun x => x.2.row x.1) = rows ∧
      ∀ x ∈ stored, FleetQoxGatewayState.parse cfg x.2.payload = .ok x.2.metadata ∧
        x.2.metadata.streamKey = x.1 := by
  induction rows generalizing stored with
  | nil =>
      obtain rfl := pure_eq_ok.mp answer
      exact ⟨rfl, nofun⟩
  | cons row rows ih =>
      simp only [List.mapM_cons, bind_eq_ok_iff, pure_eq_ok] at answer
      obtain ⟨x, first, rest, others, rfl⟩ := answer
      obtain ⟨back, parsed⟩ := ih others
      simp only [Database.recoverFrame, bind_eq_ok_iff, raiseIf_eq_ok, pure_eq_ok] at first
      obtain ⟨m, parses, _, matching, rfl⟩ := first
      simp only [not_or, not_not, not_lt] at matching
      obtain ⟨own, key, nonneg⟩ := matching
      have parses : FleetQoxGatewayState.parse cfg row.payload = .ok m := by
        unfold FleetQoxGatewayState.parse
        cases same : parseDataFrame cfg.levels row.payload cfg.maxFrameBytes with
        | error e =>
            rw [same] at parses
            cases parses
        | ok m' =>
            rw [same] at parses
            exact congrArg _ (Except.ok.inj parses)
      constructor
      · rw [List.map_cons, back]
        simp only [StoredFrame.row, Int.toNat_of_nonneg nonneg, key]
      · rintro y (_ | ⟨_, isStored⟩)
        · exact ⟨parses, own⟩
        · exact parsed y isStored

/-- The records of one stream are those of its rows. -/
theorem recordsOf_rows (W : db.WellFormed) {stored : List (StreamKey × StoredFrame)}
    (back : stored.map (fun x => x.2.row x.1) = db.orderedFrames) (stream : StreamKey) :
    db.framesOf stream = (Database.recordsOf stored stream).map (StoredFrame.row stream) := by
  rw [← Database.filter_orderedFrames (W.increasing stream), ← back, List.filter_map,
    Database.recordsOf, List.map_map]
  refine List.map_congr_left fun x isStored => ?_
  have own : x.1 = stream := of_decide_eq_true (List.mem_filter.mp isStored).2
  rw [Function.comp_apply, own]

/-- The rows within the limits are those of the newest records. -/
theorem framesOf_trimmed (W : db.WellFormed) {stored : List (StreamKey × StoredFrame)}
    (back : stored.map (fun x => x.2.row x.1) = db.orderedFrames) (stream : StreamKey) :
    (db.trimmed cfg stored).framesOf stream =
      (popWhileLonger cfg.maxFramesPerTopic (Database.recordsOf stored stream)).map
        (StoredFrame.row stream) := by
  have rows := W.recordsOf_rows back stream
  have increasing := W.increasing stream
  rw [rows, List.pairwise_map] at increasing
  have distinct : ((Database.recordsOf stored stream).map StoredFrame.offset).Nodup :=
    List.pairwise_map.mpr (increasing.imp fun less => (Int.ofNat_lt.mp less).ne)
  rw [Database.framesOf, Database.trimmed, Database.cascade, List.filter_filter]
  have commute : (db.frames.filter fun row => decide (row.stream = stream) &&
      (popWhileLonger cfg.maxFramesPerTopic (Database.recordsOf stored row.stream)).any
        fun r => (r.offset : Int) = row.frameOffset) =
      (db.framesOf stream).filter fun row =>
        (popWhileLonger cfg.maxFramesPerTopic (Database.recordsOf stored stream)).any
          fun r => (r.offset : Int) = row.frameOffset := by
    rw [Database.framesOf, List.filter_filter]
    refine List.filter_congr fun row _ => ?_
    by_cases own : row.stream = stream
    · simp only [own, decide_true, Bool.true_and, Bool.and_true]
    · simp only [own, decide_false, Bool.false_and, Bool.and_false]
  rw [commute, rows, List.filter_map, popWhileLonger_eq_drop]
  refine congrArg (List.map (StoredFrame.row stream)) (filter_eq_drop distinct fun r => ?_)
  simp only [Function.comp_apply, List.any_eq_true, decide_eq_true_eq, List.mem_map,
    StoredFrame.row, Int.natCast_inj]

/-- The keys within the limits are the newest ones. -/
theorem keysOf_trimmed (W : db.WellFormed) (stored : List (StreamKey × StoredFrame))
    (stream : StreamKey) :
    (db.trimmed cfg stored).keysOf stream =
      popWhileLonger cfg.dedupCapacityPerTopic (db.keysOf stream) := by
  have distinct : ((db.dedupKeys.filter (·.stream = stream)).map KeyRow.key).Nodup := by
    refine List.Nodup.map_on ?_ (W.unique.filter _)
    rintro ⟨s, k⟩ isX ⟨s', k'⟩ isY rfl
    have sameX : s = stream := of_decide_eq_true (List.mem_filter.mp isX).2
    have sameY : s' = stream := of_decide_eq_true (List.mem_filter.mp isY).2
    rw [sameX, sameY]
  rw [Database.keysOf, Database.trimmed, Database.cascade, List.filter_filter]
  have commute : (db.dedupKeys.filter fun row => decide (row.stream = stream) &&
      decide (row.key ∈ popWhileLonger cfg.dedupCapacityPerTopic (db.keysOf row.stream))) =
      (db.dedupKeys.filter (·.stream = stream)).filter fun row =>
        row.key ∈ popWhileLonger cfg.dedupCapacityPerTopic (db.keysOf stream) := by
    rw [List.filter_filter]
    refine List.filter_congr fun row _ => ?_
    by_cases own : row.stream = stream
    · simp only [own, decide_true, Bool.true_and, Bool.and_true]
    · simp only [own, decide_false, Bool.false_and, Bool.and_false]
  rw [commute, popWhileLonger_eq_drop, Database.keysOf, ← List.map_drop]
  refine congrArg (List.map KeyRow.key) (filter_eq_drop distinct fun row => ?_)
  rw [decide_eq_true_eq]

/-- The newest records end with the same one. -/
theorem nextAfter_drop {records : List StoredFrame} {k : Nat}
    (increasing : records.Pairwise fun x y => x.offset < y.offset) (some : k < records.length) :
    nextAfter (records.drop k) = nextAfter records := by
  apply le_antisymm
  · exact nextAfter_le_iff.mpr fun r isLast =>
      nextAfter_le_iff.mp le_rfl r (List.mem_of_mem_drop isLast)
  · refine nextAfter_le_iff.mpr fun r isRecord => ?_
    have bound := nextAfter_le_iff.mp (le_refl (nextAfter (records.drop k)))
    rw [← List.take_append_drop k records] at isRecord increasing
    rcases List.mem_append.mp isRecord with early | late
    · obtain ⟨last, isLast⟩ := List.exists_mem_of_length_pos
        (show 0 < (records.drop k).length by rw [List.length_drop]; omega)
      exact ((List.pairwise_append.mp increasing).2.2 r early last isLast).trans (bound last isLast)
    · exact bound r late

/-- A state that was recovered mirrors the database it was recovered from, trimmed. -/
theorem recover (W : db.WellFormed) {recovered : Recovered}
    (answer : db.recover cfg = .ok recovered) :
    Mirrors cfg recovered.db recovered.topics recovered.cursors := by
  simp only [Database.recover, bind_eq_ok_iff, pure_eq_ok] at answer
  obtain ⟨stored, each, _, _, rfl⟩ := answer
  obtain ⟨back, parsed⟩ := stored_of_mapM each
  have room := cfg.maxFrames_pos
  refine ⟨fun stream => ?_, ?_, ?_, ?_, rfl⟩
  · obtain ⟨records, next, keys⟩ := Database.recoveredTopic_getD cfg db stored stream
    have increasing := W.increasing stream
    rw [W.recordsOf_rows back, List.pairwise_map] at increasing
    have increasing : (Database.recordsOf stored stream).Pairwise fun x y =>
        x.offset < y.offset := increasing.imp Int.ofNat_lt.mp
    constructor
    · rw [records, W.framesOf_trimmed back]
    · rw [records]
      intro r isRecord
      have isRecord := (popWhileLonger_sublist _ _).subset isRecord
      obtain ⟨x, isStored, rfl⟩ := List.mem_map.mp isRecord
      obtain ⟨isStored, own⟩ := List.mem_filter.mp isStored
      exact ⟨(parsed x isStored).1, (parsed x isStored).2.trans (of_decide_eq_true own)⟩
    · rw [records]
      exact increasing.sublist (popWhileLonger_sublist _ _)
    · rw [next, records, popWhileLonger_eq_drop]
      by_cases none : Database.recordsOf stored stream = []
      · rw [none, List.drop_nil]
      · have := List.length_pos_iff.mpr none
        exact (nextAfter_drop increasing (by omega)).symm
    · rw [records, length_popWhileLonger]
      exact min_le_right _ _
    · rw [keys, W.keysOf_trimmed]
    · rw [keys, length_popWhileLonger]
      exact min_le_right _ _
  · exact W.unique.filter _
  · intro row isRow
    exact W.bound row (List.mem_filter.mp isRow).1
  · intro row isOutcome
    exact of_decide_eq_true (List.mem_filter.mp isOutcome).2

end Database.WellFormed

end FleetRMW.Gateway
