import FleetRMW.Lib.Except
import FleetRMW.Rmw.Control

/-! # When the decoders throw

No decoder reads behind the end of a text. The only exception is that of `std::stoull`, which
the decoders let through: a decoder returns exactly when every run of digits that it converts
fits 64 bits.
-/

namespace FleetRMW.Rmw

open Lib

variable {α β : Type}

/-- The call returns and raises nothing. -/
def Returns (x : Cpp α) : Prop := ∃ a, x = .ok a

@[simp] theorem returns_ok (a : α) : Returns (.ok a : Cpp α) := ⟨a, rfl⟩

@[simp] theorem returns_pure (a : α) : Returns (pure a : Cpp α) := ⟨a, rfl⟩

@[simp] theorem not_returns_error (e : CppError) : ¬Returns (.error e : Cpp α) := by
  rintro ⟨a, h⟩
  cases h

theorem returns_bind {x : Cpp α} {f : α → Cpp β} :
    Returns (x >>= f) ↔ ∃ a, x = .ok a ∧ Returns (f a) := by
  cases x with
  | error e => simp [bind, Except.bind]
  | ok a => simp [bind, Except.bind]

/-- Where the rest returns whatever the first part gave. -/
theorem returns_bind_of_forall {x : Cpp α} {f : α → Cpp β} {C : Prop}
    (rest : ∀ a, Returns (f a) ↔ C) : Returns (x >>= f) ↔ Returns x ∧ C := by
  rw [returns_bind]
  constructor
  · rintro ⟨a, done, returns⟩
    exact ⟨⟨a, done⟩, (rest a).mp returns⟩
  · rintro ⟨⟨a, done⟩, holds⟩
    exact ⟨a, done, (rest a).mpr holds⟩

@[simp] theorem returns_map {x : Cpp α} {f : α → β} : Returns (f <$> x) ↔ Returns x := by
  cases x with
  | error e => simp [Functor.map, Except.map]
  | ok a => simp [Functor.map, Except.map]

/-! ## Conversions -/

def runFits (digits : Bytes) : Prop := decimalValue digits < 2 ^ 64

/-- The digits behind the key, where there are any, fit. -/
def Fits (payload : Bytes) (key : String) : Prop :=
  ∀ digits ∈ digitRun payload (octets key), runFits digits

/-- The value of the digits behind the key. -/
def uintAt (payload : Bytes) (key : String) : Option UInt64 :=
  (digitRun payload (octets key)).map fun digits => UInt64.ofNat (decimalValue digits)

/-- All runs of digits behind the key fit. -/
def RunsFit (payload : Bytes) (key : String) : Prop :=
  ∀ digits ∈ digitRunsAfter payload (octets key), runFits digits

def uintsAt (payload : Bytes) (key : String) : List UInt64 :=
  (digitRunsAfter payload (octets key)).map fun digits => UInt64.ofNat (decimalValue digits)

theorem stoull_of_fits {digits : Bytes} (fits : runFits digits) :
    stoull digits = .ok (UInt64.ofNat (decimalValue digits)) := if_pos fits

theorem stoull_of_not_fits {digits : Bytes} (long : ¬runFits digits) :
    stoull digits = .error .outOfRange := if_neg long

theorem returns_jsonUintValue_bind {payload : Bytes} {key : String}
    {f : Option UInt64 → Cpp β} :
    Returns (jsonUintValue payload (octets key) >>= f) ↔
      Fits payload key ∧ Returns (f (uintAt payload key)) := by
  unfold jsonUintValue Fits uintAt
  cases digitRun payload (octets key) with
  | none => simp [bind, Except.bind]
  | some digits =>
      by_cases fits : runFits digits
      · simp [stoull_of_fits fits, fits, bind, Except.bind, Functor.map, Except.map]
      · simp [stoull_of_not_fits fits, fits, bind, Except.bind, Functor.map, Except.map]

theorem returns_uintOr_bind {fallback : UInt64} {payload : Bytes} {key : String}
    {f : UInt64 → Cpp β} :
    Returns (uintOr fallback payload key >>= f) ↔
      Fits payload key ∧ Returns (f ((uintAt payload key).getD fallback)) := by
  unfold uintOr
  rw [map_eq_pure_bind, bind_assoc, returns_jsonUintValue_bind, pure_bind]

theorem returns_jsonUintValue {payload : Bytes} {key : String} :
    Returns (jsonUintValue payload (octets key)) ↔ Fits payload key := by
  unfold jsonUintValue Fits
  cases digitRun payload (octets key) with
  | none => simp
  | some digits =>
      by_cases fits : runFits digits
      · simp [stoull_of_fits fits, fits]
      · simp [stoull_of_not_fits fits, fits]

theorem returns_uintOr {fallback : UInt64} {payload : Bytes} {key : String} :
    Returns (uintOr fallback payload key) ↔ Fits payload key := by
  rw [uintOr, returns_map, returns_jsonUintValue]

theorem mapM_stoull_of_fits {runs : List Bytes} (fit : ∀ digits ∈ runs, runFits digits) :
    runs.mapM stoull = .ok (runs.map fun digits => UInt64.ofNat (decimalValue digits)) := by
  induction runs with
  | nil => rfl
  | cons digits runs ih =>
      have first := stoull_of_fits (fit digits List.mem_cons_self)
      have rest := ih fun d among => fit d (List.mem_cons_of_mem _ among)
      simp only [List.mapM_cons, first, rest, ok_bind, List.map_cons]
      rfl

theorem returns_mapM_stoull {runs : List Bytes} :
    Returns (runs.mapM stoull) ↔ ∀ digits ∈ runs, runFits digits := by
  constructor
  · intro returns
    induction runs with
    | nil => intro digits among; cases among
    | cons first runs ih =>
        rw [List.mapM_cons, returns_bind] at returns
        obtain ⟨value, converted, rest⟩ := returns
        have fits : runFits first := by
          by_contra long
          rw [stoull_of_not_fits long] at converted
          cases converted
        have others := ih (by
          obtain ⟨values, done, -⟩ := returns_bind.mp rest
          exact ⟨values, done⟩)
        intro digits among
        rcases List.mem_cons.mp among with rfl | later
        · exact fits
        · exact others digits later
  · intro fit
    exact ⟨_, mapM_stoull_of_fits fit⟩

theorem returns_jsonUintPairArrayValue_bind {payload : Bytes} {key : String}
    {f : List SequenceRange → Cpp β} :
    Returns (jsonUintPairArrayValue payload (octets key) >>= f) ↔
      RunsFit payload key ∧ Returns (f (pairUp (uintsAt payload key))) := by
  unfold jsonUintPairArrayValue uintValuesAfter
  rw [map_eq_pure_bind, bind_assoc]
  by_cases fit : RunsFit payload key
  · rw [mapM_stoull_of_fits fit, ok_bind, pure_bind]
    exact ⟨fun returns => ⟨fit, returns⟩, And.right⟩
  · constructor
    · intro returns
      obtain ⟨values, done, -⟩ := returns_bind.mp returns
      exact absurd (returns_mapM_stoull.mp ⟨values, done⟩) fit
    · intro both
      exact absurd both.1 fit

/-! ## Payloads -/

theorem hexPairs_returns {encoded : Bytes} (even : encoded.length % 2 = 0) :
    Returns (hexPairs encoded) := by
  induction encoded using hexPairs.induct with
  | case1 => exact returns_ok _
  | case2 c => simp at even
  | case3 a b rest high low highNibble lowNibble ih =>
      obtain ⟨decoded, done⟩ := ih (by simp only [List.length_cons] at even; omega)
      simp only [hexPairs, highNibble, lowNibble, done, ok_bind, returns_pure]
  | case4 a b rest bad =>
      unfold hexPairs
      split
      · rename_i high low highNibble lowNibble
        exact absurd lowNibble (bad high low highNibble)
      · exact returns_ok _

theorem base64Groups_returns {encoded : Bytes} (fours : encoded.length % 4 = 0) :
    Returns (base64Groups encoded) := by
  induction encoded using base64Groups.induct with
  | case1 => exact returns_ok _
  | case2 c₀ c₁ c₂ c₃ rest group decodes ih =>
      obtain ⟨decoded, done⟩ := ih (by simp only [List.length_cons] at fours; omega)
      simp only [base64Groups, decodes, done, ok_bind, returns_pure]
  | case3 c₀ c₁ c₂ c₃ rest bad =>
      simp only [base64Groups, bad, returns_ok]
  | case4 encoded some_ short =>
      match encoded with
      | [] => exact absurd rfl some_
      | [_] => simp at fours
      | [_, _] => simp at fours
      | [_, _, _] => simp at fours
      | c₀ :: c₁ :: c₂ :: c₃ :: rest => exact absurd rfl (short c₀ c₁ c₂ c₃ rest)

theorem decodePayload_returns (serializedPayload : Bytes) :
    Returns (decodePayload serializedPayload) := by
  unfold decodePayload
  split
  · exact returns_ok _
  · split
    · split
      · unfold base64Decode
        split
        case isTrue => exact returns_ok _
        case isFalse fours => exact base64Groups_returns (not_not.mp fours)
      · split
        · unfold hexDecode
          split
          case isTrue => exact returns_ok _
          case isFalse even => exact hexPairs_returns (not_not.mp even)
        · exact returns_ok _
    · exact returns_ok _

/-- The payload's octets, where the object can be decoded. -/
def payloadAt (body : Bytes) : Option Bytes :=
  match decodePayload ((jsonObjectValue body (octets "serialized_payload")).getD []) with
  | .ok octets => octets
  | .error _ => none

theorem decodePayload_eq (body : Bytes) :
    decodePayload ((jsonObjectValue body (octets "serialized_payload")).getD []) =
      .ok (payloadAt body) := by
  obtain ⟨octets, done⟩ := decodePayload_returns
    ((jsonObjectValue body (Lib.octets "serialized_payload")).getD [])
  simp only [payloadAt, done]

/-! ## The conditions -/

theorem exists_four {l : List Bytes} (long : 4 ≤ l.length) :
    ∃ a b c d rest, l = a :: b :: c :: d :: rest := by
  match l, long with
  | a :: b :: c :: d :: rest, _ => exact ⟨a, b, c, d, rest, rfl⟩

def AckNackFits (payload : Bytes) : Prop :=
  let body := controlBody payload
  let ack := (jsonObjectValue body (octets "ack")).getD []
  let state := (jsonObjectValue body (octets "state")).getD []
  jsonHasStringValue body (octets "schema_version") ackNackSchemaVersion →
    (Fits ack "source_sequence_number" ∧ Fits ack "source_timestamp_ns") ∧
    ((jsonStringValue body (octets "robot_id")).isSome ∧
      (jsonStringValue body (octets "source_topic")).isSome ∧
      (uintAt ack "source_sequence_number").isSome ∧ (uintAt ack "source_timestamp_ns").isSome ∧
      4 ≤ (jsonStringArrayValue body (octets "stream_key")).length →
    RunsFit body "missing_sequence_ranges" ∧ Fits state "lowest_observed_sequence" ∧
    Fits state "highest_contiguous_sequence" ∧ Fits state "highest_observed_sequence" ∧
    Fits body "domain_id")

theorem decodeAckNack_returns (payload : Bytes) :
    Returns (decodeAckNack payload) ↔ AckNackFits payload := by
  unfold decodeAckNack AckNackFits
  dsimp only
  split
  case isTrue other =>
    have unversioned : ¬jsonHasStringValue (controlBody payload) (octets "schema_version")
      ackNackSchemaVersion := by simpa using other
    simp only [returns_pure, unversioned, Bool.false_eq_true, IsEmpty.forall_iff]
  case isFalse same =>
    have versioned : jsonHasStringValue (controlBody payload) (octets "schema_version")
      ackNackSchemaVersion := by simpa using same
    simp only [returns_jsonUintValue_bind, versioned, forall_const, and_assoc]
    refine and_congr_right fun _ => and_congr_right fun _ => ?_
    split
    · rename_i robotId topic sequence timestamp a b c publisherId rest
      simp [*, returns_jsonUintPairArrayValue_bind, returns_uintOr_bind, returns_uintOr]
    · rename_i incomplete
      simp only [returns_pure, true_iff]
      rintro ⟨robotId, topic, sequence, timestamp, keys⟩
      obtain ⟨robotId, hasRobotId⟩ := Option.isSome_iff_exists.mp robotId
      obtain ⟨topic, hasTopic⟩ := Option.isSome_iff_exists.mp topic
      obtain ⟨sequence, hasSequence⟩ := Option.isSome_iff_exists.mp sequence
      obtain ⟨timestamp, hasTimestamp⟩ := Option.isSome_iff_exists.mp timestamp
      obtain ⟨a, b, c, d, rest, four⟩ := exists_four keys
      exact (incomplete _ _ _ _ _ _ _ _ _ hasRobotId hasTopic hasSequence hasTimestamp four).elim

/-- Its names and its timestamp are there, and so are ranges that all are proper. -/
def CompleteNotice (body : Bytes) : Prop :=
  (jsonStringValue body (octets "robot_id")).isSome ∧
  (jsonStringValue body (octets "source_topic")).isSome ∧
  (jsonStringValue body (octets "publisher_id")).isSome ∧
  (∃ subscriberId, jsonStringValue body (octets "subscriber_id") = some subscriberId ∧
    subscriberId ≠ []) ∧
  (uintAt body "source_timestamp_ns").isSome ∧
  pairUp (uintsAt body "lost_sequence_ranges") ≠ [] ∧
  ∀ r ∈ pairUp (uintsAt body "lost_sequence_ranges"), ¬(r.1 = 0 ∨ r.1 > r.2)

def LossNoticeFits (payload : Bytes) : Prop :=
  let body := controlBody payload
  jsonHasStringValue body (octets "schema_version") unrecoverableLossNoticeSchemaVersion →
  jsonHasStringValue body (octets "kind") (octets "source_sequence_unrecoverable") →
    (Fits body "source_timestamp_ns" ∧ RunsFit body "lost_sequence_ranges") ∧
    (CompleteNotice body → Fits body "domain_id")

theorem decodeUnrecoverableLossNotice_returns (payload : Bytes) :
    Returns (decodeUnrecoverableLossNotice payload) ↔ LossNoticeFits payload := by
  unfold decodeUnrecoverableLossNotice LossNoticeFits
  dsimp only
  split
  case isTrue other =>
    have unversioned : ¬(jsonHasStringValue (controlBody payload) (octets "schema_version")
        unrecoverableLossNoticeSchemaVersion ∧
        jsonHasStringValue (controlBody payload) (octets "kind")
          (octets "source_sequence_unrecoverable")) := by
      simpa [Classical.or_iff_not_imp_left] using other
    simp only [returns_pure, true_iff]
    intro version kind
    exact absurd ⟨version, kind⟩ unversioned
  case isFalse same =>
    obtain ⟨version, kind⟩ : jsonHasStringValue (controlBody payload) (octets "schema_version")
        unrecoverableLossNoticeSchemaVersion ∧
        jsonHasStringValue (controlBody payload) (octets "kind")
          (octets "source_sequence_unrecoverable") := by simpa using same
    simp only [returns_jsonUintValue_bind, returns_jsonUintPairArrayValue_bind, version, kind,
      forall_const, and_assoc]
    refine and_congr_right fun _ => and_congr_right fun _ => ?_
    split
    · rename_i robotId topic publisherId subscriberId timestamp hasRobotId hasTopic hasPublisherId
        hasSubscriberId hasTimestamp
      split
      case isTrue missing =>
        simp only [returns_pure, true_iff]
        rintro ⟨-, -, -, ⟨_, same, named⟩, -, some_, -⟩
        obtain rfl := Option.some.inj (hasSubscriberId.symm.trans same)
        exact absurd missing (not_or.mpr ⟨named, some_⟩)
      case isFalse present =>
        obtain ⟨named, some_⟩ := not_or.mp present
        split
        case isTrue improper =>
          simp only [returns_pure, true_iff]
          rintro ⟨-, -, -, -, -, -, proper⟩
          obtain ⟨r, among, bad⟩ := List.any_eq_true.mp improper
          exact absurd (by simpa using bad) (proper r among)
        case isFalse proper =>
          have complete : CompleteNotice (controlBody payload) := by
            refine ⟨by simp [hasRobotId], by simp [hasTopic], by simp [hasPublisherId],
              ⟨subscriberId, hasSubscriberId, named⟩, by simp [hasTimestamp], some_, ?_⟩
            intro r among bad
            exact proper (List.any_eq_true.mpr ⟨r, among, by simpa using bad⟩)
          simp only [complete, forall_const, bind_pure_comp, returns_map, returns_uintOr]
    · rename_i incomplete
      simp only [returns_pure, true_iff]
      rintro ⟨robotId, topic, publisherId, ⟨subscriberId, hasSubscriberId, -⟩, timestamp, -⟩
      obtain ⟨robotId, hasRobotId⟩ := Option.isSome_iff_exists.mp robotId
      obtain ⟨topic, hasTopic⟩ := Option.isSome_iff_exists.mp topic
      obtain ⟨publisherId, hasPublisherId⟩ := Option.isSome_iff_exists.mp publisherId
      obtain ⟨timestamp, hasTimestamp⟩ := Option.isSome_iff_exists.mp timestamp
      exact (incomplete _ _ _ _ _ hasRobotId hasTopic hasPublisherId hasSubscriberId
        hasTimestamp).elim

def RouteAdvertisementFits (payload : Bytes) : Prop :=
  ∀ body ∈ schemaBody payload routeAdvertisementSchemaVersion,
    (jsonStringValue body (octets "topic")).isSome → (jsonStringValue body (octets "role")).isSome →
    Fits body "lease_ms" ∧ Fits body "domain_id"

theorem decodeRouteAdvertisement_returns (payload : Bytes) :
    Returns (decodeRouteAdvertisement payload) ↔ RouteAdvertisementFits payload := by
  unfold decodeRouteAdvertisement RouteAdvertisementFits
  cases schemaBody payload routeAdvertisementSchemaVersion with
  | none => simp
  | some body =>
      simp only [Option.mem_def, Option.some.injEq, forall_eq']
      cases jsonStringValue body (octets "topic") with
      | none => simp
      | some topic =>
          cases jsonStringValue body (octets "role") with
          | none => simp
          | some role => simp [returns_uintOr_bind, returns_uintOr]

def GraphQosFits (payload : Bytes) : Prop :=
  ∀ key ∈ ["history", "depth", "reliability", "durability", "deadline_sec", "deadline_nsec",
    "lifespan_sec", "lifespan_nsec", "liveliness", "liveliness_lease_duration_sec",
    "liveliness_lease_duration_nsec", "avoid_ros_namespace_conventions"], Fits payload key

theorem decodeGraphQos_returns (payload : Bytes) :
    Returns (decodeGraphQos payload) ↔ GraphQosFits payload := by
  unfold decodeGraphQos GraphQosFits
  simp [returns_uintOr_bind, returns_uintOr]

def GraphAdvertisementFits (payload : Bytes) : Prop :=
  ∀ body ∈ schemaBody payload graphAdvertisementSchemaVersion,
    (jsonStringValue body (octets "action")).isSome →
    (jsonStringValue body (octets "entity_kind")).isSome →
    (∀ qos ∈ jsonObjectValue body (octets "qos"), qos ≠ [] → GraphQosFits qos) ∧
    Fits body "lease_ms" ∧ Fits body "domain_id" ∧ Fits body "incarnation_id" ∧
    Fits body "graph_version"

theorem decodeGraphAdvertisement_returns (payload : Bytes) :
    Returns (decodeGraphAdvertisement payload) ↔ GraphAdvertisementFits payload := by
  unfold decodeGraphAdvertisement GraphAdvertisementFits
  cases schemaBody payload graphAdvertisementSchemaVersion with
  | none => simp
  | some body =>
      simp only [Option.mem_def, Option.some.injEq, forall_eq']
      cases jsonStringValue body (octets "action") with
      | none => simp
      | some action =>
          cases jsonStringValue body (octets "entity_kind") with
          | none => simp
          | some entityKind =>
              simp only [Option.isSome_some, forall_const]
              cases jsonObjectValue body (octets "qos") with
              | none => simp [returns_uintOr_bind, returns_uintOr]
              | some qos =>
                  cases qos with
                  | nil => simp [returns_uintOr_bind, returns_uintOr]
                  | cons c qos =>
                      simp only [Option.getD_some, List.isEmpty_cons, Bool.false_eq_true, if_false,
                        Option.some.injEq, forall_eq', ne_eq, reduceCtorEq, not_false_eq_true,
                        forall_const, ← decodeGraphQos_returns]
                      refine returns_bind_of_forall fun profile => ?_
                      simp only [returns_uintOr_bind, bind_pure_comp, returns_map, returns_uintOr]

/-! ## Frames with a payload -/

def ServiceFrameFits (payload : Bytes) : Prop :=
  ∀ body ∈ schemaBody payload serviceFrameSchemaVersion,
    (Fits body "sequence_id" ∧ Fits body "source_timestamp_ns" ∧ Fits body "lifespan_ns") ∧
    ((jsonStringValue body (octets "role")).isSome ∧
      (jsonStringValue body (octets "service_name")).isSome ∧
      (jsonStringValue body (octets "type_name")).isSome ∧
      (jsonStringValue body (octets "client_endpoint_id")).isSome ∧
      (uintAt body "sequence_id").isSome ∧ (uintAt body "source_timestamp_ns").isSome ∧
      (payloadAt body).isSome →
    Fits body "domain_id" ∧ Fits body "client_priority" ∧ Fits body "client_weight" ∧
    Fits body "request_deadline_ns")

theorem decodeServiceFrame_returns (payload : Bytes) :
    Returns (decodeServiceFrame payload) ↔ ServiceFrameFits payload := by
  unfold decodeServiceFrame ServiceFrameFits
  cases schemaBody payload serviceFrameSchemaVersion with
  | none => simp
  | some body =>
      simp only [Option.mem_def, Option.some.injEq, forall_eq', returns_jsonUintValue_bind,
        returns_uintOr_bind, and_assoc]
      refine and_congr_right fun _ => and_congr_right fun _ => and_congr_right fun _ => ?_
      split
      · rename_i hasRole hasName hasType hasClient hasSequence hasTimestamp
        rw [decodePayload_eq, ok_bind]
        cases payloadAt body with
        | none => simp
        | some serializedPayload =>
            simp [*, returns_uintOr_bind, returns_uintOr]
      · rename_i incomplete
        simp only [returns_pure, true_iff]
        rintro ⟨role, name, type, client, sequence, timestamp, -⟩
        obtain ⟨role, hasRole⟩ := Option.isSome_iff_exists.mp role
        obtain ⟨name, hasName⟩ := Option.isSome_iff_exists.mp name
        obtain ⟨type, hasType⟩ := Option.isSome_iff_exists.mp type
        obtain ⟨client, hasClient⟩ := Option.isSome_iff_exists.mp client
        obtain ⟨sequence, hasSequence⟩ := Option.isSome_iff_exists.mp sequence
        obtain ⟨timestamp, hasTimestamp⟩ := Option.isSome_iff_exists.mp timestamp
        exact (incomplete _ _ _ _ _ _ hasRole hasName hasType hasClient hasSequence
          hasTimestamp).elim

def ActionFrameFits (payload : Bytes) : Prop :=
  ∀ body ∈ schemaBody payload actionFrameSchemaVersion,
    (Fits body "sequence_id" ∧ Fits body "source_timestamp_ns" ∧ Fits body "lifespan_ns") ∧
    ((jsonStringValue body (octets "role")).isSome ∧
      (jsonStringValue body (octets "action_name")).isSome ∧
      (jsonStringValue body (octets "type_name")).isSome ∧
      (jsonStringValue body (octets "endpoint_id")).isSome ∧
      (jsonStringValue body (octets "goal_id")).isSome ∧
      (uintAt body "sequence_id").isSome ∧ (uintAt body "source_timestamp_ns").isSome ∧
      (payloadAt body).isSome →
    Fits body "domain_id")

theorem decodeActionFrame_returns (payload : Bytes) :
    Returns (decodeActionFrame payload) ↔ ActionFrameFits payload := by
  unfold decodeActionFrame ActionFrameFits
  cases schemaBody payload actionFrameSchemaVersion with
  | none => simp
  | some body =>
      simp only [Option.mem_def, Option.some.injEq, forall_eq', returns_jsonUintValue_bind,
        returns_uintOr_bind, and_assoc]
      refine and_congr_right fun _ => and_congr_right fun _ => and_congr_right fun _ => ?_
      split
      · rename_i hasRole hasName hasType hasEndpoint hasGoal hasSequence hasTimestamp
        rw [decodePayload_eq, ok_bind]
        cases payloadAt body with
        | none => simp
        | some serializedPayload =>
            simp [*, returns_uintOr]
      · rename_i incomplete
        simp only [returns_pure, true_iff]
        rintro ⟨role, name, type, endpoint, goal, sequence, timestamp, -⟩
        obtain ⟨role, hasRole⟩ := Option.isSome_iff_exists.mp role
        obtain ⟨name, hasName⟩ := Option.isSome_iff_exists.mp name
        obtain ⟨type, hasType⟩ := Option.isSome_iff_exists.mp type
        obtain ⟨endpoint, hasEndpoint⟩ := Option.isSome_iff_exists.mp endpoint
        obtain ⟨goal, hasGoal⟩ := Option.isSome_iff_exists.mp goal
        obtain ⟨sequence, hasSequence⟩ := Option.isSome_iff_exists.mp sequence
        obtain ⟨timestamp, hasTimestamp⟩ := Option.isSome_iff_exists.mp timestamp
        exact (incomplete _ _ _ _ _ _ _ hasRole hasName hasType hasEndpoint hasGoal hasSequence
          hasTimestamp).elim

/-- What a data frame cannot do without: its names, its number, its time, a payload that can be
    decoded. -/
def CompleteDataFrame (body : Bytes) : Prop :=
  let route := (jsonObjectValue body (octets "route")).getD body
  let sampleEnvelope := (jsonObjectValue body (octets "sample_envelope")).getD body
  let sourceMetadata := (jsonObjectValue body (octets "source_metadata")).getD []
  (jsonStringValue route (octets "robot_id") <|>
    jsonStringValue sampleEnvelope (octets "robot_id")).isSome ∧
  (jsonStringValue route (octets "topic") <|>
    jsonStringValue sampleEnvelope (octets "topic")).isSome ∧
  (jsonStringValue sampleEnvelope (octets "publisher_id") <|>
    jsonStringValue sourceMetadata (octets "publisher_id")).isSome ∧
  (uintAt sampleEnvelope "source_sequence_number" <|>
    uintAt sourceMetadata "source_sequence_number").isSome ∧
  (uintAt sampleEnvelope "source_timestamp_ns" <|>
    uintAt sourceMetadata "source_timestamp_ns").isSome ∧
  (payloadAt body).isSome

def DataFrameBodyFits (body : Bytes) : Prop :=
  let sampleEnvelope := (jsonObjectValue body (octets "sample_envelope")).getD body
  let sourceMetadata := (jsonObjectValue body (octets "source_metadata")).getD []
  let repair := (jsonObjectValue body (octets "repair")).getD []
  (Fits sampleEnvelope "source_sequence_number" ∧ Fits sourceMetadata "source_sequence_number" ∧
    Fits sampleEnvelope "source_timestamp_ns" ∧ Fits sourceMetadata "source_timestamp_ns") ∧
  (CompleteDataFrame body →
    Fits body "domain_id" ∧ Fits repair "prior_attempts" ∧ Fits body "ownership_strength" ∧
    Fits body "coherent_set_total" ∧ Fits body "coherent_set_index")

/-- The binary layouts convert no digits. -/
def DataFrameFits (payload : Bytes) : Prop :=
  ¬dataFrameStaticMinV1Magic.isPrefixOf payload → ¬dataFrameCompactV1Magic.isPrefixOf payload →
    ∀ body ∈ schemaBody payload dataFrameSchemaVersion, DataFrameBodyFits body

theorem decodeDataFrameBody_returns {body : Bytes}
    (version : jsonHasStringValue body (octets "schema_version") dataFrameSchemaVersion) :
    Returns (decodeDataFrameBody body) ↔ DataFrameBodyFits body := by
  unfold decodeDataFrameBody DataFrameBodyFits CompleteDataFrame
  simp only [version, Bool.not_true, Bool.false_eq_true, if_false, returns_jsonUintValue_bind,
    and_assoc]
  refine and_congr_right fun _ => and_congr_right fun _ => and_congr_right fun _ =>
    and_congr_right fun _ => ?_
  split
  · rename_i hasRobotId hasTopic hasPublisherId hasSequence hasTimestamp
    rw [decodePayload_eq, ok_bind]
    cases payloadAt body with
    | none => simp
    | some payloadBytes =>
        simp [*, returns_jsonUintValue_bind, returns_jsonUintValue]
  · rename_i incomplete
    simp only [returns_pure, true_iff]
    rintro ⟨robotId, topic, publisherId, sequence, timestamp, -⟩
    obtain ⟨robotId, hasRobotId⟩ := Option.isSome_iff_exists.mp robotId
    obtain ⟨topic, hasTopic⟩ := Option.isSome_iff_exists.mp topic
    obtain ⟨publisherId, hasPublisherId⟩ := Option.isSome_iff_exists.mp publisherId
    obtain ⟨sequence, hasSequence⟩ := Option.isSome_iff_exists.mp sequence
    obtain ⟨timestamp, hasTimestamp⟩ := Option.isSome_iff_exists.mp timestamp
    exact (incomplete _ _ _ _ _ hasRobotId hasTopic hasPublisherId hasSequence hasTimestamp).elim

theorem decodeDataFrame_returns (resolver : Option TopicResolver) (payload : Bytes) :
    Returns (decodeDataFrame resolver payload) ↔ DataFrameFits payload := by
  unfold decodeDataFrame DataFrameFits
  split
  case isTrue static => simp only [returns_ok, static, not_true_eq_false, IsEmpty.forall_iff]
  case isFalse notStatic =>
    split
    case isTrue compact =>
      simp only [returns_ok, compact, not_true_eq_false, IsEmpty.forall_iff, implies_true]
    case isFalse notCompact =>
      simp only [notStatic, notCompact, Bool.false_eq_true, not_false_eq_true, forall_const,
        schemaBody]
      split
      case isTrue => simp
      case isFalse =>
        by_cases version : jsonHasStringValue ((stripPadding payload).drop dataFrameMagic.length)
          (octets "schema_version") dataFrameSchemaVersion
        · simp only [version, if_true, Option.mem_def, Option.some.injEq, forall_eq']
          exact decodeDataFrameBody_returns version
        · have refused : decodeDataFrameBody ((stripPadding payload).drop dataFrameMagic.length) =
              .ok none := by
            simp [decodeDataFrameBody, version]
          simp [refused, version]

/-- Every decoder returns exactly when each run of digits that it converts fits 64 bits. -/
theorem decoders_return_iff (resolver : Option TopicResolver) (payload : Bytes) :
    (Returns (decodeDataFrame resolver payload) ∧ Returns (decodeAckNack payload) ∧
      Returns (decodeUnrecoverableLossNotice payload) ∧
      Returns (decodeRouteAdvertisement payload) ∧ Returns (decodeGraphAdvertisement payload) ∧
      Returns (decodeServiceFrame payload) ∧ Returns (decodeActionFrame payload)) ↔
    (DataFrameFits payload ∧ AckNackFits payload ∧ LossNoticeFits payload ∧
      RouteAdvertisementFits payload ∧ GraphAdvertisementFits payload ∧
      ServiceFrameFits payload ∧ ActionFrameFits payload) := by
  rw [decodeDataFrame_returns, decodeAckNack_returns, decodeUnrecoverableLossNotice_returns,
    decodeRouteAdvertisement_returns, decodeGraphAdvertisement_returns,
    decodeServiceFrame_returns, decodeActionFrame_returns]

/-- An acknowledgement of a number of twenty digits. -/
def longAckNack : Bytes :=
  octets "\x7b\"schema_version\":\"fleetrmw.ack_nack.v1\"," ++
  octets "\"ack\":\x7b\"source_sequence_number\":18446744073709551616\x7d\x7d"

theorem decodeAckNack_throws : ¬Returns (decodeAckNack longAckNack) := by
  have thrown : decodeAckNack longAckNack = .error .outOfRange := by decide
  rw [thrown]
  exact not_returns_error _

end FleetRMW.Rmw
