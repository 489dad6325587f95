import FleetRMW.Lib.Window
import FleetRMW.Gateway.State

/-! # Delivery from memory

Publishers and consumers call a state without a store in any order. What the calls answer
is recorded beside the state: the frames that were accepted on each stream, in that order;
for each consumer the base offset it started from and the frames it was given, with the
offsets that its cursor passed. A stream's records are then the window on what was
accepted, and a consumer is a reader of it.
-/

namespace FleetRMW.Gateway

open Lib

inductive GatewayCall where
  | publish (payload : Bytes) (expectedDomainId : Option Int) (expectedTopic : Option Str)
  | take (stream : StreamKey) (consumerId : Str)

structure Delivery where
  state : FleetQoxGatewayState
  accepted : StreamKey → List StoredFrame
  start : StreamKey → Str → Option Nat
  returned : StreamKey → Str → List (Nat × Bytes)

namespace Delivery

variable (cfg : GatewayConfig)

def init (admission : PolicyState) : Delivery where
  state := { topics := fun _ => none, consumerOffsets := fun _ _ => none, admission,
             durableStore := none }
  accepted _ := []
  start _ _ := none
  returned _ _ := []

/-- Record what a publish answered. -/
def published (d : Delivery) (payload : Bytes) :
    Except GatewayError PublishResult × FleetQoxGatewayState → Delivery
  | (.ok r, state) =>
      if r.accepted then
        let stream := r.metadata.streamKey
        { d with
          state
          accepted := Function.update d.accepted stream
            (d.accepted stream ++ [⟨r.offset, payload, r.metadata⟩]) }
      else { d with state }
  | (.error _, state) => { d with state }

/-- Record what a take answered. The frame's offset is the one before the new cursor; a
    consumer starts at its first take from a topic that is there. -/
def taken (d : Delivery) (stream : StreamKey) (consumerId : Str) :
    Except GatewayError (Option Bytes) × FleetQoxGatewayState → Delivery
  | (answer, state) =>
      let start := (d.start stream consumerId).or
        ((d.state.topics stream).map TopicHistory.baseOffset)
      let frames := match answer, state.consumerOffsets stream consumerId with
        | .ok (some payload), some cursor => [(cursor - 1, payload)]
        | _, _ => []
      { d with
        state
        start := Function.update d.start stream
          (Function.update (d.start stream) consumerId start)
        returned := Function.update d.returned stream
          (Function.update (d.returned stream) consumerId
            (d.returned stream consumerId ++ frames)) }

def step (d : Delivery) : GatewayCall → Delivery
  | .publish payload domainId topic =>
      d.published payload (d.state.publish cfg payload domainId topic)
  | .take stream consumerId => d.taken stream consumerId (d.state.take cfg stream consumerId)

def runs (admission : PolicyState) (calls : List GatewayCall) : Delivery :=
  calls.foldl (step cfg) (init admission)

theorem published_duplicateOf (d : Delivery) (payload : Bytes) (h : TopicHistory)
    (m : FrameMetadata) (state : FleetQoxGatewayState) :
    d.published payload (.ok (.duplicateOf h m), state) = { d with state } := rfl

theorem published_acceptedAs (d : Delivery) (payload : Bytes) (h : TopicHistory)
    (m : FrameMetadata) (action : AdmissionAction) (state : FleetQoxGatewayState) :
    d.published payload (.ok (.acceptedAs h m action), state) =
      { d with
        state
        accepted := Function.update d.accepted m.streamKey
          (d.accepted m.streamKey ++ [⟨h.nextOffset, payload, m⟩]) } := rfl

/-- The records of a stream. -/
def retained (d : Delivery) (stream : StreamKey) : List StoredFrame :=
  (d.state.topics stream).elim [] TopicHistory.records

end Delivery

/-! ## What a call does in memory -/

namespace FleetQoxGatewayState

variable {cfg : GatewayConfig} {s s' : FleetQoxGatewayState}

theorem transact_inMemory {α : Type} (inMemory : s.durableStore = none) (skipped : α)
    (f : Database PyJson → Option HeldLease → Option Int →
      Except StoreError (Database PyJson × α)) :
    s.transact cfg skipped f = (.ok skipped, s) := by
  simp only [transact, inMemory]

theorem exportAdmission_inMemory (inMemory : s.durableStore = none) :
    s.exportAdmission cfg = (none, s) := by
  unfold exportAdmission
  rw [inMemory]
  cases cfg.admissionPolicy <;> rfl

/-- A publish raises and leaves the histories alone, or finds a duplicate, or appends. -/
theorem publish_cases (cfg : GatewayConfig) (inMemory : s.durableStore = none) (payload : Bytes)
    (domainId : Option Int) (topic : Option Str) :
    (∃ e admission, s.publish cfg payload domainId topic = (.error e, { s with admission })) ∨
    (∃ m h recentKeys, s.topics m.streamKey = some h ∧
      s.publish cfg payload domainId topic =
        (.ok (.duplicateOf h m), s.putTopic m.streamKey { h with recentKeys })) ∨
    ∃ m action admission, let h := (s.topics m.streamKey).getD {}
      (s.publish cfg payload domainId topic).1 = .ok (.acceptedAs h m action) ∧
        (s.publish cfg payload domainId topic).2 =
          { s with
            admission
            topics := Function.update s.topics m.streamKey (some (h.append cfg payload m)) } := by
  unfold publish
  split
  case h_1 e _ => exact .inl ⟨_, s.admission, rfl⟩
  case h_2 m _ =>
  split
  · exact .inl ⟨_, s.admission, rfl⟩
  split
  · exact .inl ⟨_, s.admission, rfl⟩
  unfold publishFrame
  dsimp only
  split
  case isTrue duplicate =>
    cases known : s.topics m.streamKey with
    | none => simp [known] at duplicate
    | some h =>
        exact .inr (.inl ⟨m, h, moveToEnd m.dedupKey h.recentKeys, known,
          by simp only [Option.getD_some]⟩)
  case isFalse new =>
    rw [exportAdmission_inMemory inMemory]
    dsimp only
    obtain ⟨answer, admission, admitted⟩ := admitFrame_eq cfg s m
    rw [admitted]
    cases answer with
    | error e => exact .inl ⟨_, admission, rfl⟩
    | ok action =>
        refine .inr (.inr ⟨m, action, admission, ?_⟩)
        simp only [publishAdmitted, exportAdmission_inMemory, transact_inMemory, putTopic, inMemory,
          Function.update_idem, and_self]

theorem commitCursor_inMemory (inMemory : s.durableStore = none) (stream : StreamKey)
    (consumerId : Str) (nextOffset : Nat) (answer : Option Bytes) :
    s.commitCursor cfg stream consumerId nextOffset answer =
      (.ok answer, s.putCursor stream consumerId nextOffset) := by
  rw [commitCursor, transact_inMemory inMemory]

end FleetQoxGatewayState

/-! ## The invariant -/

/-- One consumer of a stream on which `accepted` was accepted: it has not started, or it is
    a reader of the payloads. -/
def Consumes (accepted : List StoredFrame) (oldest : Nat) (start cursor : Option Nat)
    (returned : List (Nat × Bytes)) : Prop :=
  match cursor with
  | none => start = none ∧ returned = []
  | some cursor => ∃ first, start = some first ∧
      Reader (accepted.map StoredFrame.payload) oldest first cursor returned

/-- One stream: its history is the window on what was accepted, and every consumer reads it. -/
structure StreamDelivered (cfg : GatewayConfig) (topic : Option TopicHistory)
    (accepted : List StoredFrame) (start cursor : Str → Option Nat)
    (returned : Str → List (Nat × Bytes)) : Prop where
  numbered : ∀ i (f : StoredFrame), accepted[i]? = some f → f.offset = i
  absent : topic = none → accepted = []
  present : ∀ h, topic = some h →
    h.nextOffset = accepted.length ∧ h.records = window cfg.maxFramesPerTopic accepted
  consumers : ∀ c, Consumes accepted (accepted.length - cfg.maxFramesPerTopic) (start c)
    (cursor c) (returned c)

structure Delivered (cfg : GatewayConfig) (d : Delivery) : Prop where
  inMemory : d.state.durableStore = none
  streams : ∀ stream, StreamDelivered cfg (d.state.topics stream) (d.accepted stream)
    (d.start stream) (d.state.consumerOffsets stream) (d.returned stream)

namespace StreamDelivered

variable {cfg : GatewayConfig} {topic : Option TopicHistory} {h : TopicHistory}
  {accepted : List StoredFrame} {start cursor : Str → Option Nat}
  {returned : Str → List (Nat × Bytes)}

/-- The oldest record of a topic is the first in the window. -/
theorem baseOffset_eq (I : StreamDelivered cfg (some h) accepted start cursor returned) :
    h.baseOffset = accepted.length - cfg.maxFramesPerTopic := by
  obtain ⟨next, records⟩ := I.present h rfl
  unfold TopicHistory.baseOffset
  split
  case h_1 r rest isFirst =>
    have first : (window cfg.maxFramesPerTopic accepted)[0]? = some r := by
      rw [← records, isFirst, List.getElem?_cons_zero]
    exact I.numbered _ r (by rwa [window, List.getElem?_drop] at first)
  case h_2 isEmpty =>
    have := cfg.maxFrames_pos
    have := congrArg List.length records
    rw [isEmpty, length_window] at this
    simp only [List.length_nil] at this
    omega

/-- A topic that is not there yet is like an empty one. -/
theorem getD (I : StreamDelivered cfg topic accepted start cursor returned) :
    StreamDelivered cfg (some (topic.getD {})) accepted start cursor returned where
  numbered := I.numbered
  absent := nofun
  present := by
    rintro _ ⟨⟩
    cases topic with
    | none =>
        rw [I.absent rfl, window_nil]
        exact ⟨rfl, rfl⟩
    | some h => exact I.present h rfl
  consumers := I.consumers

/-- An accepted frame is the next one of the stream. -/
theorem append (I : StreamDelivered cfg (some h) accepted start cursor returned)
    (payload : Bytes) (m : FrameMetadata) :
    StreamDelivered cfg (some (h.append cfg payload m))
      (accepted ++ [⟨h.nextOffset, payload, m⟩]) start cursor returned where
  numbered i f at_ := by
    obtain ⟨next, _⟩ := I.present h rfl
    rcases lt_or_ge i accepted.length with inside | last
    · exact I.numbered i f (by rwa [List.getElem?_append_left inside] at at_)
    · rw [List.getElem?_append_right last, List.getElem?_singleton] at at_
      split at at_
      · rw [← Option.some.inj at_]
        dsimp only
        omega
      · cases at_
  absent := nofun
  present := by
    rintro _ ⟨⟩
    obtain ⟨next, records⟩ := I.present h rfl
    simp only [TopicHistory.append, records, window_concat, next, List.length_append,
      List.length_singleton, and_self]
  consumers c := by
    have before := I.consumers c
    unfold Consumes at before ⊢
    cases at_ : cursor c with
    | none => simpa only [at_] using before
    | some cursor =>
        simp only [at_] at before ⊢
        obtain ⟨first, started, R⟩ := before
        refine ⟨first, started, ?_⟩
        rw [List.map_append]
        exact R.append payload (by rw [List.length_append]; omega)

/-- A duplicate refreshes its key only. -/
theorem refresh (I : StreamDelivered cfg (some h) accepted start cursor returned)
    (recentKeys : List DedupKey) :
    StreamDelivered cfg (some { h with recentKeys }) accepted start cursor returned where
  numbered := I.numbered
  absent := nofun
  present := by
    rintro _ ⟨⟩
    exact I.present h rfl
  consumers := I.consumers

/-- Before it looks for a record, a take moves the cursor past what is gone. -/
theorem reader (I : StreamDelivered cfg (some h) accepted start cursor returned) (c : Str) :
    Reader (accepted.map StoredFrame.payload) (accepted.length - cfg.maxFramesPerTopic)
      ((start c).getD h.baseOffset) (max ((cursor c).getD h.baseOffset) h.baseOffset)
      (returned c) := by
  have base := I.baseOffset_eq
  have before := I.consumers c
  unfold Consumes at before
  cases at_ : cursor c with
  | none =>
      simp only [at_] at before
      rw [before.1, before.2, Option.getD_none, max_self]
      exact .begin (by rw [List.length_map]; omega)
  | some cursor =>
      simp only [at_] at before
      obtain ⟨first, started, R⟩ := before
      have := R.cursor_le
      rw [started, Option.getD_some, Option.getD_some]
      refine R.skip (le_max_left _ _) ?_ fun i _ _ => ?_
      · rw [List.length_map] at this ⊢
        omega
      · omega

/-- The record that a take looks for is the frame at the cursor. -/
theorem find?_records (I : StreamDelivered cfg (some h) accepted start cursor returned)
    {c : Nat} (retained : h.baseOffset ≤ c) :
    (h.records.find? fun r => r.offset ≥ c) = accepted[c]? := by
  rw [(I.present h rfl).2]
  exact find?_window_ge I.numbered (I.baseOffset_eq ▸ retained)

theorem offsets_eq_range (I : StreamDelivered cfg topic accepted start cursor returned) :
    accepted.map StoredFrame.offset = List.range accepted.length := by
  apply List.ext_getElem
  · rw [List.length_map, List.length_range]
  · intro i inside _
    rw [List.getElem_map, List.getElem_range]
    exact I.numbered i _ (List.getElem?_eq_getElem _)

theorem records_eq (I : StreamDelivered cfg topic accepted start cursor returned) :
    topic.elim [] TopicHistory.records = window cfg.maxFramesPerTopic accepted := by
  cases topic with
  | none => rw [I.absent rfl, Option.elim_none, window_nil]
  | some h => exact (I.present h rfl).2

/-- A frame is retained unless it stands before the window. -/
theorem mem_records (I : StreamDelivered cfg topic accepted start cursor returned)
    {f : StoredFrame} (isAccepted : f ∈ accepted)
    (recent : accepted.length - cfg.maxFramesPerTopic ≤ f.offset) :
    f ∈ window cfg.maxFramesPerTopic accepted := by
  obtain ⟨i, inside, rfl⟩ := List.getElem_of_mem isAccepted
  rw [I.numbered i _ (List.getElem?_eq_getElem inside)] at recent
  apply List.mem_of_getElem? (i := i - (accepted.length - cfg.maxFramesPerTopic))
  rw [window, List.getElem?_drop, Nat.add_sub_cancel' recent, List.getElem?_eq_getElem inside]

/-- What a started consumer was not given is gone or still ahead of it. -/
theorem given_or_gone_or_ahead
    (I : StreamDelivered cfg topic accepted start cursor returned) {first next : Nat}
    {read : List (Nat × Bytes)}
    (R : Reader (accepted.map StoredFrame.payload) (accepted.length - cfg.maxFramesPerTopic)
      first next read)
    {f : StoredFrame} (isAccepted : f ∈ accepted) (since : first ≤ f.offset) :
    (f.offset, f.payload) ∈ read ∨ f ∉ window cfg.maxFramesPerTopic accepted ∨
      (f ∈ window cfg.maxFramesPerTopic accepted ∧ next ≤ f.offset) := by
  by_cases isRetained : f ∈ window cfg.maxFramesPerTopic accepted
  case neg => exact .inr (.inl isRetained)
  rcases le_or_gt next f.offset with ahead | passed
  · exact .inr (.inr ⟨isRetained, ahead⟩)
  · obtain ⟨i, inside, at_⟩ := List.getElem_of_mem isAccepted
    have number : f.offset = i :=
      I.numbered i f (by rw [List.getElem?_eq_getElem inside, at_])
    have recent : accepted.length - cfg.maxFramesPerTopic ≤ f.offset := by
      obtain ⟨j, retainedAt⟩ := List.getElem?_of_mem isRetained
      rw [window, List.getElem?_drop] at retainedAt
      exact I.numbered _ f retainedAt ▸ Nat.le_add_right _ _
    obtain ⟨r, isRead, same⟩ := List.mem_map.mp (R.complete f.offset since passed recent)
    have there := R.faithful r isRead
    rw [same, number, List.getElem?_map, List.getElem?_eq_getElem inside, at_] at there
    have payload : r.2 = f.payload := (Option.some.inj there).symm
    exact .inl (by rw [← same, ← payload]; exact isRead)

/-- A consumer goes on to a new cursor. -/
theorem move (I : StreamDelivered cfg topic accepted start cursor returned) {c : Str}
    {first next : Nat} {read : List (Nat × Bytes)}
    (R : Reader (accepted.map StoredFrame.payload) (accepted.length - cfg.maxFramesPerTopic)
      first next read) :
    StreamDelivered cfg topic accepted (Function.update start c (some first))
      (Function.update cursor c (some next)) (Function.update returned c read) where
  numbered := I.numbered
  absent := I.absent
  present := I.present
  consumers c' := by
    rcases eq_or_ne c' c with rfl | other
    · simp only [Function.update_self, Consumes]
      exact ⟨first, rfl, R⟩
    · simp only [Function.update_of_ne other]
      exact I.consumers c'

end StreamDelivered

namespace Delivered

variable {cfg : GatewayConfig} {d : Delivery}

theorem init (admission : PolicyState) : Delivered cfg (Delivery.init admission) where
  inMemory := rfl
  streams _ := ⟨nofun, fun _ => rfl, nofun, fun _ => ⟨rfl, rfl⟩⟩

/-- A call leaves every stream but its own as it was. -/
theorem publish (I : Delivered cfg d) (payload : Bytes) (domainId : Option Int)
    (topic : Option Str) : Delivered cfg (d.step cfg (.publish payload domainId topic)) := by
  simp only [Delivery.step]
  rcases FleetQoxGatewayState.publish_cases cfg I.inMemory payload domainId topic with
    ⟨e, admission, raised⟩ | ⟨m, h, recentKeys, known, answered⟩ |
      ⟨m, action, admission, answer, after⟩
  · rw [raised]
    exact ⟨I.inMemory, I.streams⟩
  · rw [answered, Delivery.published_duplicateOf]
    refine ⟨I.inMemory, fun stream => ?_⟩
    have mine := I.streams m.streamKey
    rw [known] at mine
    rcases eq_or_ne stream m.streamKey with rfl | other
    · simp only [FleetQoxGatewayState.putTopic, Function.update_self]
      exact mine.refresh recentKeys
    · simp only [FleetQoxGatewayState.putTopic, Function.update_of_ne other]
      exact I.streams stream
  · rw [← Prod.mk.eta (p := d.state.publish cfg payload domainId topic), answer, after,
      Delivery.published_acceptedAs]
    refine ⟨I.inMemory, fun stream => ?_⟩
    rcases eq_or_ne stream m.streamKey with rfl | other
    · simp only [Function.update_self]
      exact (I.streams m.streamKey).getD.append payload m
    · simp only [Function.update_of_ne other]
      exact I.streams stream

/-- A take from a topic that is not there changes nothing. -/
theorem taken_absent {stream : StreamKey} (absent : d.state.topics stream = none)
    (consumer : Str) : d.taken stream consumer (.ok none, d.state) = d := by
  simp only [Delivery.taken, absent, Option.map_none, Option.or_none, List.append_nil,
    Function.update_eq_self]

/-- A take that moved the cursor. -/
theorem taken_present {stream : StreamKey} {h : TopicHistory}
    (known : d.state.topics stream = some h) (consumer : Str) (answer : Option Bytes)
    (next : Nat) :
    d.taken stream consumer (.ok answer, d.state.putCursor stream consumer next) =
      { state := d.state.putCursor stream consumer next
        accepted := d.accepted
        start := Function.update d.start stream (Function.update (d.start stream) consumer
          (some ((d.start stream consumer).getD h.baseOffset)))
        returned := Function.update d.returned stream
          (Function.update (d.returned stream) consumer (d.returned stream consumer ++
            (answer.map fun payload => (next - 1, payload)).toList)) } := by
  have started : (d.start stream consumer).or (some h.baseOffset) =
      some ((d.start stream consumer).getD h.baseOffset) := by
    cases d.start stream consumer <;> rfl
  cases answer with
  | none => simp only [Delivery.taken, known, Option.map_some, started, Option.map_none,
      Option.toList_none]
  | some payload => simp only [Delivery.taken, known, Option.map_some, started,
      FleetQoxGatewayState.putCursor, Function.update_self, Option.toList_some]

theorem take (I : Delivered cfg d) (stream : StreamKey) (consumer : Str) :
    Delivered cfg (d.step cfg (.take stream consumer)) := by
  simp only [Delivery.step, FleetQoxGatewayState.take]
  cases known : d.state.topics stream with
  | none =>
      dsimp only
      rw [taken_absent known]
      exact I
  | some h =>
      have mine := I.streams stream
      rw [known] at mine
      have R := mine.reader consumer
      have found := mine.find?_records (c := d.state.cursor h stream consumer) (le_max_right _ _)
      -- whatever the take finds, the consumer is a reader up to its new cursor
      have moved : ∀ answer next,
          Reader ((d.accepted stream).map StoredFrame.payload)
            ((d.accepted stream).length - cfg.maxFramesPerTopic)
            ((d.start stream consumer).getD h.baseOffset) next
            (d.returned stream consumer ++ (answer.map fun payload => (next - 1, payload)).toList) →
          Delivered cfg (d.taken stream consumer
            (d.state.commitCursor cfg stream consumer next answer)) := by
        intro answer next R'
        rw [FleetQoxGatewayState.commitCursor_inMemory I.inMemory, taken_present known]
        refine ⟨I.inMemory, fun stream' => ?_⟩
        rcases eq_or_ne stream' stream with rfl | other
        · simp only [FleetQoxGatewayState.putCursor, Function.update_self, known]
          exact mine.move R'
        · simp only [FleetQoxGatewayState.putCursor, Function.update_of_ne other]
          exact I.streams stream'
      dsimp only
      rw [found]
      cases here : (d.accepted stream)[d.state.cursor h stream consumer]? with
      | some r =>
          apply moved
          rw [mine.numbered _ r here]
          exact R.next (by rw [List.getElem?_map]; exact congrArg _ here)
      | none =>
          apply moved
          have past := List.getElem?_eq_none_iff.mp here
          rw [(mine.present h rfl).1, max_eq_left past, Option.map_none, Option.toList_none,
            List.append_nil]
          exact R

theorem runs (cfg : GatewayConfig) (admission : PolicyState) (calls : List GatewayCall) :
    Delivered cfg (Delivery.runs cfg admission calls) := by
  suffices ∀ d, Delivered cfg d → Delivered cfg (calls.foldl (Delivery.step cfg) d) from
    this _ (.init admission)
  induction calls with
  | nil => exact fun d I => I
  | cons call calls ih =>
      intro d I
      apply ih
      cases call with
      | publish payload domainId topic => exact I.publish payload domainId topic
      | take stream consumer => exact I.take stream consumer

end Delivered

/-- Delivery is ordered and lossless up to eviction, after any calls. -/
theorem delivery_lossless (cfg : GatewayConfig) (admission : PolicyState)
    (calls : List GatewayCall) (stream : StreamKey) :
    let d := Delivery.runs cfg admission calls
    let accepted := d.accepted stream
    accepted.map StoredFrame.offset = List.range accepted.length ∧
    d.retained stream = accepted.drop (accepted.length - cfg.maxFramesPerTopic) ∧
    ∀ consumer,
      let returned := d.returned stream consumer
      (returned.map Prod.fst).Pairwise (· < ·) ∧
      (∀ r ∈ returned, ∃ f, accepted[r.1]? = some f ∧ f.payload = r.2) ∧
      ∀ start, d.start stream consumer = some start →
        ∃ cursor, d.state.consumerOffsets stream consumer = some cursor ∧
          (∀ r ∈ returned, start ≤ r.1 ∧ r.1 < cursor) ∧
          ∀ f ∈ accepted, start ≤ f.offset →
            (f.offset, f.payload) ∈ returned ∨ f ∉ d.retained stream ∨
              (f ∈ d.retained stream ∧ cursor ≤ f.offset) := by
  intro d accepted
  have mine := (Delivered.runs cfg admission calls).streams stream
  have records : d.retained stream = window cfg.maxFramesPerTopic accepted := mine.records_eq
  refine ⟨mine.offsets_eq_range, records, fun consumer => ?_⟩
  have consumes := mine.consumers consumer
  unfold Consumes at consumes
  cases at_ : d.state.consumerOffsets stream consumer with
  | none =>
      simp only [d, at_] at consumes
      obtain ⟨notStarted, nothing⟩ := consumes
      simp only [d, notStarted, nothing, List.map_nil, List.Pairwise.nil, List.not_mem_nil,
        IsEmpty.forall_iff, implies_true, reduceCtorEq, and_self]
  | some cursor =>
      simp only [d, at_] at consumes
      obtain ⟨first, started, R⟩ := consumes
      refine ⟨R.increasing, ?_, ?_⟩
      · intro r isRead
        have there := R.faithful r isRead
        rw [List.getElem?_map, Option.map_eq_some_iff] at there
        exact there
      · intro start isStart
        obtain rfl : first = start := Option.some.inj (started.symm.trans isStart)
        refine ⟨cursor, rfl, R.inside, fun f isAccepted since => ?_⟩
        rw [records]
        exact mine.given_or_gone_or_ahead R isAccepted since

end FleetRMW.Gateway
