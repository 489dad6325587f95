import FleetRMW.Rmw.FrameRoundTrip
import FleetRMW.Rmw.Service

/-! # The round trip of a service frame's text

A service frame comes back as it was sent exactly when no name in it hides a value that is read
behind it.
-/

namespace FleetRMW.Rmw

open Lib

/-! ## Keys and constants -/

instance nameText_fleetrmw_service_frame_v2 : NameText "fleetrmw.service_frame.v2" := ⟨by decide⟩
instance nameText_service_frame : NameText "service_frame" := ⟨by decide⟩
instance nameText_client_priority : NameText "client_priority" := ⟨by decide⟩
instance nameText_client_weight : NameText "client_weight" := ⟨by decide⟩
instance nameText_request_deadline_ns : NameText "request_deadline_ns" := ⟨by decide⟩
instance nameText_role : NameText "role" := ⟨by decide⟩
instance nameText_service_name : NameText "service_name" := ⟨by decide⟩
instance nameText_client_endpoint_id : NameText "client_endpoint_id" := ⟨by decide⟩
instance nameText_service_endpoint_id : NameText "service_endpoint_id" := ⟨by decide⟩
instance nameText_sequence_id : NameText "sequence_id" := ⟨by decide⟩
instance nameText_lifespan_ns : NameText "lifespan_ns" := ⟨by decide⟩

attribute [ext] ServiceFrame

namespace ServiceFrame

variable (f : ServiceFrame)

/-! ## The pieces of a service frame -/

def headPieces : List Piece :=
  [.raw [123] brace_unquoted, .key (.mk "schema_version"),
    .constant (.mk "fleetrmw.service_frame.v2") .comma, .key (.mk "kind"),
    .constant (.mk "service_frame") .comma, .key (.mk "domain_id"), number f.domainId.toNat,
    .raw [44] comma_unquoted, .key (.mk "client_priority"), number f.clientPriority.toNat,
    .raw [44] comma_unquoted, .key (.mk "client_weight"), number f.clientWeight.toNat,
    .raw [44] comma_unquoted, .key (.mk "request_deadline_ns"), number f.requestDeadlineNs.toNat,
    .raw [44] comma_unquoted]

def namePieces : List Piece :=
  [.key (.mk "role"), .value f.role .comma, .key (.mk "service_name"), .value f.serviceName .comma,
    .key (.mk "type_name"), .value f.typeName .comma, .key (.mk "client_endpoint_id"),
    .value f.clientEndpointId .comma, .key (.mk "service_endpoint_id"),
    .value f.serviceEndpointId .comma]

def numberPieces : List Piece :=
  [.key (.mk "sequence_id"), signedNumber f.sequenceId.toInt, .raw [44] comma_unquoted,
    .key (.mk "source_timestamp_ns"), signedNumber f.sourceTimestampNs.toInt,
    .raw [44] comma_unquoted, .key (.mk "lifespan_ns"), signedNumber f.lifespanNs.toInt]

/-- What is written behind the lifespan. -/
def lastPieces : List Piece :=
  (if f.serializedPayload ≠ [] then payloadOf f.serializedPayload else []) ++
    [.raw [125] endBrace_unquoted]

def pieces : List Piece := f.headPieces ++ (f.namePieces ++ (f.numberPieces ++ f.lastPieces))

theorem render_headPieces :
    render f.headPieces = octets "\x7b\"schema_version\":\"" ++ (serviceFrameSchemaVersion ++
      (octets "\"," ++ (octets "\"kind\":\"service_frame\"," ++ (octets "\"domain_id\":" ++
      (decimal f.domainId.toNat ++ (octets "," ++ (octets "\"client_priority\":" ++
      (decimal f.clientPriority.toNat ++ (octets "," ++ (octets "\"client_weight\":" ++
      (decimal f.clientWeight.toNat ++ (octets "," ++ (octets "\"request_deadline_ns\":" ++
      (decimal f.requestDeadlineNs.toNat ++ octets ",")))))))))))))) := by
  have opening : render [.raw [123] brace_unquoted, .key (.mk "schema_version"),
      .constant (.mk "fleetrmw.service_frame.v2") .comma, .key (.mk "kind"),
      .constant (.mk "service_frame") .comma, .key (.mk "domain_id")] =
      octets "\x7b\"schema_version\":\"" ++ (serviceFrameSchemaVersion ++ (octets "\"," ++
      (octets "\"kind\":\"service_frame\"," ++ octets "\"domain_id\":"))) := by
    decide
  have keys : octets "\"client_priority\":" = (Piece.key (.mk "client_priority")).text ∧
      octets "\"client_weight\":" = (Piece.key (.mk "client_weight")).text ∧
      octets "\"request_deadline_ns\":" = (Piece.key (.mk "request_deadline_ns")).text ∧
      octets "," = [44] := by decide
  obtain ⟨priority, weight, deadline, comma⟩ := keys
  have split : f.headPieces = [.raw [123] brace_unquoted, .key (.mk "schema_version"),
      .constant (.mk "fleetrmw.service_frame.v2") .comma, .key (.mk "kind"),
      .constant (.mk "service_frame") .comma, .key (.mk "domain_id")] ++
      f.headPieces.drop 6 := rfl
  rw [split, render_append, opening, priority, weight, deadline, comma]
  simp only [headPieces, List.drop_succ_cons, List.drop_zero, List.append_assoc, render_cons,
    render_nil, List.append_nil]
  simp only [number, Piece.text]

theorem render_namePieces :
    render f.namePieces = octets "\"role\":\"" ++ (jsonEscape f.role ++ (octets "\"," ++
      (octets "\"service_name\":\"" ++ (jsonEscape f.serviceName ++ (octets "\"," ++
      (octets "\"type_name\":\"" ++ (jsonEscape f.typeName ++ (octets "\"," ++
      (octets "\"client_endpoint_id\":\"" ++ (jsonEscape f.clientEndpointId ++ (octets "\"," ++
      (octets "\"service_endpoint_id\":\"" ++ (jsonEscape f.serviceEndpointId ++
      octets "\","))))))))))))) := by
  have keys : octets "\"role\":\"" = (Piece.key (.mk "role")).text ++ [34] ∧
      octets "\"service_name\":\"" = (Piece.key (.mk "service_name")).text ++ [34] ∧
      octets "\"type_name\":\"" = (Piece.key (.mk "type_name")).text ++ [34] ∧
      octets "\"client_endpoint_id\":\"" = (Piece.key (.mk "client_endpoint_id")).text ++ [34] ∧
      octets "\"service_endpoint_id\":\"" = (Piece.key (.mk "service_endpoint_id")).text ++ [34] ∧
      octets "\"," = [34, 44] := by decide
  obtain ⟨role, service, type, client, endpoint, ending⟩ := keys
  rw [role, service, type, client, endpoint, ending]
  simp only [namePieces, render_cons, render_nil, List.append_assoc, List.append_nil]
  simp only [Piece.text, quotedText, Ending.octet, List.cons_append, List.append_assoc,
    List.nil_append]

theorem render_numberPieces :
    render f.numberPieces = octets "\"sequence_id\":" ++ (signedDecimal f.sequenceId.toInt ++
      (octets "," ++ (octets "\"source_timestamp_ns\":" ++
      (signedDecimal f.sourceTimestampNs.toInt ++ (octets "," ++ (octets "\"lifespan_ns\":" ++
      signedDecimal f.lifespanNs.toInt)))))) := by
  have keys : octets "\"sequence_id\":" = (Piece.key (.mk "sequence_id")).text ∧
      octets "\"source_timestamp_ns\":" = (Piece.key (.mk "source_timestamp_ns")).text ∧
      octets "\"lifespan_ns\":" = (Piece.key (.mk "lifespan_ns")).text ∧
      octets "," = [44] := by decide
  obtain ⟨sequence, timestamp, lifespan, comma⟩ := keys
  rw [sequence, timestamp, lifespan, comma]
  simp only [numberPieces, render_cons, render_nil, List.append_nil]
  simp only [Piece.text, signedNumber]

/-- The text of a service frame is that of its pieces. -/
theorem encodeServiceFrame_eq : encodeServiceFrame f = dataFrameMagic ++ render f.pieces := by
  have brace : octets "\x7d" = (Piece.raw [125] endBrace_unquoted).text := by decide
  unfold encodeServiceFrame pieces lastPieces
  rw [render_append, render_append, render_append, render_append, f.render_headPieces,
    f.render_namePieces, f.render_numberPieces, render_ite, render_payloadOf, brace]
  simp only [List.append_assoc, render_cons, render_nil, List.append_nil]

/-! ## What is read of it -/

variable {f} {k : Name}

theorem hides_headPieces (schema : k.text ≠ "fleetrmw.service_frame.v2")
    (kind : k.text ≠ "service_frame") : hides k.text f.headPieces = false := by
  simp [headPieces, number, schema.symm, kind.symm]

theorem keyless_headPieces {key : String}
    (absent : key ∉ ["schema_version", "kind", "domain_id", "client_priority", "client_weight",
      "request_deadline_ns"]) : keyless key f.headPieces := by
  simp only [List.mem_cons, List.not_mem_nil, or_false, not_or] at absent
  obtain ⟨schema, kind, domain, priority, weight, deadline⟩ := absent
  simp [headPieces, number, Ne.symm schema, Ne.symm kind, Ne.symm domain, Ne.symm priority,
    Ne.symm weight, Ne.symm deadline]

/-- The names of the frame, all of which stand in front of its numbers. -/
def names (f : ServiceFrame) : List Bytes :=
  [f.role, f.serviceName, f.typeName, f.clientEndpointId, f.serviceEndpointId]

theorem hides_namePieces : hides k.text f.namePieces = shadowed f.names k.text := by
  simp [namePieces, names]

theorem keyless_namePieces {key : String}
    (absent : key ∉ ["role", "service_name", "type_name", "client_endpoint_id",
      "service_endpoint_id"]) : keyless key f.namePieces := by
  simp only [List.mem_cons, List.not_mem_nil, or_false, not_or] at absent
  obtain ⟨role, service, type, client, endpoint⟩ := absent
  simp [namePieces, Ne.symm role, Ne.symm service, Ne.symm type, Ne.symm client, Ne.symm endpoint]

theorem keyless_numberPieces {key : String}
    (absent : key ∉ ["sequence_id", "source_timestamp_ns", "lifespan_ns"]) :
    keyless key f.numberPieces := by
  simp only [List.mem_cons, List.not_mem_nil, or_false, not_or] at absent
  simp [numberPieces, signedNumber, Ne.symm absent.1, Ne.symm absent.2.1, Ne.symm absent.2.2]

/-- A name is read where no name in front of it hides its key. -/
theorem read_name (before : List Piece) {v : Bytes} {behind : List Piece}
    (shape : f.namePieces = before ++ .key k :: .value v .comma :: behind)
    (head : keyless k.text f.headPieces) (absent : keyless k.text before)
    (schema : k.text ≠ "fleetrmw.service_frame.v2") (kind : k.text ≠ "service_frame") :
    jsonStringValue (render f.pieces) (octets k.text) =
      if hides k.text before then none else some v := by
  have whole : f.pieces = (f.headPieces ++ before) ++ .key k ::
      (.value v .comma :: (behind ++ (f.numberPieces ++ f.lastPieces))) := by
    rw [pieces, shape]
    simp only [List.append_assoc, List.cons_append]
  have here := lookup_key k (f.headPieces ++ before)
    (.value v .comma :: (behind ++ (f.numberPieces ++ f.lastPieces)))
    (by rw [keyless_append, head, absent]; rfl)
  rw [hides_append, hides_headPieces schema kind, Bool.false_or] at here
  rw [whole]
  exact jsonStringValue_key here

theorem read_role : jsonStringValue (render f.pieces) (octets "role") = some f.role :=
  read_name (k := .mk "role") [] rfl (keyless_headPieces (by simp)) rfl (by simp) (by simp)

theorem read_serviceName :
    jsonStringValue (render f.pieces) (octets "service_name") =
      if shadowed [f.role] "service_name" then none else some f.serviceName := by
  have read := read_name (f := f) (k := .mk "service_name") (f.namePieces.take 2) rfl
    (keyless_headPieces (by simp)) (by simp [namePieces]) (by simp) (by simp)
  simpa [namePieces] using read

theorem read_typeName :
    jsonStringValue (render f.pieces) (octets "type_name") =
      if shadowed [f.role, f.serviceName] "type_name" then none else some f.typeName := by
  have read := read_name (f := f) (k := .mk "type_name") (f.namePieces.take 4) rfl
    (keyless_headPieces (by simp)) (by simp [namePieces]) (by simp) (by simp)
  simpa [namePieces] using read

theorem read_clientEndpointId :
    jsonStringValue (render f.pieces) (octets "client_endpoint_id") =
      if shadowed [f.role, f.serviceName, f.typeName] "client_endpoint_id" then none
      else some f.clientEndpointId := by
  have read := read_name (f := f) (k := .mk "client_endpoint_id") (f.namePieces.take 6) rfl
    (keyless_headPieces (by simp)) (by simp [namePieces]) (by simp) (by simp)
  simpa [namePieces] using read

theorem read_serviceEndpointId :
    jsonStringValue (render f.pieces) (octets "service_endpoint_id") =
      if shadowed [f.role, f.serviceName, f.typeName, f.clientEndpointId] "service_endpoint_id"
      then none else some f.serviceEndpointId := by
  have read := read_name (f := f) (k := .mk "service_endpoint_id") (f.namePieces.take 8) rfl
    (keyless_headPieces (by simp)) (by simp [namePieces]) (by simp) (by simp)
  simpa [namePieces] using read

/-- What the decoder takes from the text of a number with a sign. -/
def unsigned (n : Int64) : Option UInt64 := if 0 ≤ n then some n.toUInt64 else none

/-- A number behind the names is read where none of them hides its key. -/
theorem read_number (before : List Piece) {n : Int64} {behind : List Piece} {c : UInt8} {t : Bytes}
    {unquoted : 34 ∉ c :: t}
    (shape : f.numberPieces ++ f.lastPieces =
      before ++ .key k :: signedNumber n.toInt :: .raw (c :: t) unquoted :: behind)
    (stops : isDecimal c = false) (head : keyless k.text f.headPieces)
    (names : keyless k.text f.namePieces) (absent : keyless k.text before)
    (passed : hides k.text before = false) (schema : k.text ≠ "fleetrmw.service_frame.v2")
    (kind : k.text ≠ "service_frame") :
    jsonUintValue (render f.pieces) (octets k.text) =
      .ok (if shadowed f.names k.text then none else unsigned n) := by
  have whole : f.pieces = (f.headPieces ++ (f.namePieces ++ before)) ++ .key k ::
      (signedNumber n.toInt :: .raw (c :: t) unquoted :: behind) := by
    rw [pieces, shape]
    simp only [List.append_assoc]
  have here := lookup_key k (f.headPieces ++ (f.namePieces ++ before))
    (signedNumber n.toInt :: .raw (c :: t) unquoted :: behind)
    (by rw [keyless_append, keyless_append, head, names, absent]; rfl)
  rw [hides_append, hides_append, hides_headPieces schema kind, hides_namePieces, passed,
    Bool.false_or, Bool.or_false] at here
  rw [whole, unsigned]
  by_cases nonneg : 0 ≤ n
  · have written : signedNumber n.toInt = number n.toUInt64.toNat := by
      rw [signedNumber_of_nonneg (Int64.le_iff_toInt_le.mp nonneg), Int64.toNat_toInt,
        Int64.toNat_toUInt64_of_le nonneg]
    rw [written] at here ⊢
    rw [jsonUintValue_key here stops, if_pos nonneg]
  · have negative : n.toInt < 0 := Int.lt_of_not_ge fun least =>
      nonneg (Int64.le_iff_toInt_le.mpr least)
    rw [DataFrame.jsonUintValue_negative negative here, if_neg nonneg]
    split <;> rfl

theorem read_sequenceId :
    jsonUintValue (render f.pieces) (octets "sequence_id") =
      .ok (if shadowed f.names "sequence_id" then none else unsigned f.sequenceId) :=
  read_number (k := .mk "sequence_id") [] rfl rfl (keyless_headPieces (by simp))
    (keyless_namePieces (by simp)) rfl rfl (by simp) (by simp)

theorem read_sourceTimestampNs :
    jsonUintValue (render f.pieces) (octets "source_timestamp_ns") =
      .ok (if shadowed f.names "source_timestamp_ns" then none
        else unsigned f.sourceTimestampNs) :=
  read_number (k := .mk "source_timestamp_ns") (f.numberPieces.take 3) rfl rfl
    (keyless_headPieces (by simp)) (keyless_namePieces (by simp))
    (by simp [numberPieces, signedNumber]) rfl (by simp) (by simp)

/-- What follows the lifespan. -/
theorem lastPieces_cons (f : ServiceFrame) : ∃ c t unquoted behind,
    f.lastPieces = .raw (c :: t) unquoted :: behind ∧ isDecimal c = false := by
  unfold lastPieces payloadOf member
  by_cases empty : f.serializedPayload = []
  · exact ⟨125, [], endBrace_unquoted, [], by rw [if_neg (by simp [empty])]; rfl, rfl⟩
  · rw [if_pos empty]
    exact ⟨44, [], comma_unquoted, _, rfl, rfl⟩

theorem read_lifespanNs :
    jsonUintValue (render f.pieces) (octets "lifespan_ns") =
      .ok (if shadowed f.names "lifespan_ns" then none else unsigned f.lifespanNs) := by
  obtain ⟨c, t, unquoted, behind, shape, stops⟩ := f.lastPieces_cons
  have whole : f.numberPieces ++ f.lastPieces = f.numberPieces.take 6 ++
      .key (.mk "lifespan_ns") :: signedNumber f.lifespanNs.toInt ::
        .raw (c :: t) unquoted :: behind := by
    rw [shape]
    rfl
  exact read_number (k := .mk "lifespan_ns") (f.numberPieces.take 6) whole stops
    (keyless_headPieces (by simp)) (keyless_namePieces (by simp))
    (by simp [numberPieces, signedNumber]) rfl (by simp) (by simp)

theorem read_serializedPayload :
    decodePayload ((jsonObjectValue (render f.pieces) (octets "serialized_payload")).getD []) =
      .ok (some (if shadowed f.names "serialized_payload" then [] else f.serializedPayload)) := by
  have before : keyless "serialized_payload" (f.headPieces ++ (f.namePieces ++ f.numberPieces)) := by
    rw [keyless_append, keyless_append, keyless_headPieces (by simp), keyless_namePieces (by simp),
      keyless_numberPieces (by simp)]
    rfl
  have hidden : hides "serialized_payload" (f.headPieces ++ (f.namePieces ++ f.numberPieces)) =
      shadowed f.names "serialized_payload" := by
    have head := hides_headPieces (f := f) (k := .mk "serialized_payload") (by simp) (by simp)
    have names := hides_namePieces (f := f) (k := .mk "serialized_payload")
    rw [hides_append, hides_append, head, names, Bool.false_or]
    exact Bool.or_false _
  have whole : f.pieces = (f.headPieces ++ (f.namePieces ++ f.numberPieces)) ++
      ((if f.serializedPayload ≠ [] then payloadOf f.serializedPayload else []) ++
        [.raw [125] endBrace_unquoted]) := by
    simp only [pieces, lastPieces, List.append_assoc]
  rw [whole, decodePayload_payloadOf before rfl, hidden]

/-- A number in front of the names. -/
theorem read_headNumber (before : List Piece) {n : UInt64} {behind : List Piece}
    (fallback : UInt64)
    (shape : f.headPieces = before ++ .key k :: number n.toNat :: .raw [44] comma_unquoted :: behind)
    (absent : keyless k.text before) (schema : k.text ≠ "fleetrmw.service_frame.v2")
    (kind : k.text ≠ "service_frame") : uintOr fallback (render f.pieces) k.text = .ok n := by
  have whole : f.pieces = before ++ .key k :: (number n.toNat :: .raw [44] comma_unquoted ::
      (behind ++ (f.namePieces ++ (f.numberPieces ++ f.lastPieces)))) := by
    rw [pieces, shape]
    simp only [List.append_assoc, List.cons_append]
  have open_ : hides k.text before = false := by
    have head := hides_headPieces (f := f) schema kind
    rw [shape, hides_append, Bool.or_eq_false_iff] at head
    exact head.1
  have here := lookup_key k before (number n.toNat :: .raw [44] comma_unquoted ::
    (behind ++ (f.namePieces ++ (f.numberPieces ++ f.lastPieces)))) absent
  rw [open_] at here
  rw [whole, uintOr, jsonUintValue_key here rfl]
  rfl

theorem read_headNumbers :
    uintOr 0 (render f.pieces) "domain_id" = .ok f.domainId ∧
      uintOr 0 (render f.pieces) "client_priority" = .ok f.clientPriority ∧
      uintOr 1 (render f.pieces) "client_weight" = .ok f.clientWeight ∧
      uintOr 0 (render f.pieces) "request_deadline_ns" = .ok f.requestDeadlineNs := by
  refine ⟨?_, ?_, ?_, ?_⟩
  · exact read_headNumber (k := .mk "domain_id") (f.headPieces.take 5) 0 rfl
      (by simp [headPieces]) (by simp) (by simp)
  · exact read_headNumber (k := .mk "client_priority") (f.headPieces.take 8) 0 rfl
      (by simp [headPieces, number]) (by simp) (by simp)
  · exact read_headNumber (k := .mk "client_weight") (f.headPieces.take 11) 1 rfl
      (by simp [headPieces, number]) (by simp) (by simp)
  · exact read_headNumber (k := .mk "request_deadline_ns") (f.headPieces.take 14) 0 rfl
      (by simp [headPieces, number]) (by simp) (by simp)

theorem schemaBody_encodeServiceFrame (f : ServiceFrame) :
    schemaBody (encodeServiceFrame f) serviceFrameSchemaVersion = some (render f.pieces) := by
  have last : dataFrameMagic ++ render f.pieces = (dataFrameMagic ++ render (f.headPieces ++
      (f.namePieces ++ (f.numberPieces ++ if f.serializedPayload ≠ [] then
        payloadOf f.serializedPayload else [])))) ++ [125] := by
    simp only [pieces, lastPieces, render_append, render_cons, render_nil, List.append_assoc]
    rfl
  have stripped : stripPadding (dataFrameMagic ++ render f.pieces) =
      dataFrameMagic ++ render f.pieces := by
    rw [last]
    exact stripPadding_of_last (by decide)
  have magic : dataFrameMagic.isPrefixOf (dataFrameMagic ++ render f.pieces) = true := by
    rw [List.isPrefixOf_iff_prefix]
    exact List.prefix_append _ _
  have version : jsonHasStringValue (render f.pieces) (octets "schema_version")
      serviceFrameSchemaVersion := by
    have value : stringAt (skipSpaces (render (.constant (.mk "fleetrmw.service_frame.v2") .comma ::
        (f.headPieces.drop 3 ++ (f.namePieces ++ (f.numberPieces ++ f.lastPieces)))))) =
        some serviceFrameSchemaVersion :=
      stringAt_quotedText _ _ _
    have shape : f.pieces = .raw [123] brace_unquoted :: .key (.mk "schema_version") ::
        .constant (.mk "fleetrmw.service_frame.v2") .comma :: (f.headPieces.drop 3 ++
          (f.namePieces ++ (f.numberPieces ++ f.lastPieces))) := rfl
    rw [jsonHasStringValue_render (by decide), shape]
    simp only [hasString, value, decide_true, Bool.and_self, Bool.true_or]
  rw [encodeServiceFrame_eq]
  simp only [schemaBody, stripped, magic, List.drop_left, version, Bool.not_true,
    Bool.false_eq_true, if_false, if_true]

/-! ## The round trip -/

/-- What the decoder cannot do without is found. -/
def identitiesFound (f : ServiceFrame) : Bool :=
  !shadowed [f.role] "service_name" && !shadowed [f.role, f.serviceName] "type_name" &&
    !shadowed [f.role, f.serviceName, f.typeName] "client_endpoint_id" &&
    !shadowed f.names "sequence_id" && decide (0 ≤ f.sequenceId) &&
    !shadowed f.names "source_timestamp_ns" && decide (0 ≤ f.sourceTimestampNs)

/-- The frame without the values that are lost. -/
def reread (f : ServiceFrame) : ServiceFrame :=
  { f with
    serviceEndpointId :=
      if shadowed [f.role, f.serviceName, f.typeName, f.clientEndpointId] "service_endpoint_id"
      then [] else f.serviceEndpointId
    lifespanNs := if shadowed f.names "lifespan_ns" ∨ f.lifespanNs < 0 then 0 else f.lifespanNs
    serializedPayload :=
      if shadowed f.names "serialized_payload" then [] else f.serializedPayload
    localEnqueueTimestampNs := 0
    clientWeight := if f.clientWeight < 1 then 1 else f.clientWeight }

theorem identitiesFound_iff (f : ServiceFrame) :
    f.identitiesFound ↔ shadowed [f.role] "service_name" = false ∧
      shadowed [f.role, f.serviceName] "type_name" = false ∧
      shadowed [f.role, f.serviceName, f.typeName] "client_endpoint_id" = false ∧
      shadowed f.names "sequence_id" = false ∧ 0 ≤ f.sequenceId ∧
      shadowed f.names "source_timestamp_ns" = false ∧ 0 ≤ f.sourceTimestampNs := by
  simp only [identitiesFound, Bool.and_eq_true, Bool.not_eq_true', decide_eq_true_eq, and_assoc]

theorem unread_iff {n : Int64} {lost : Bool} :
    (if lost then none else unsigned n) = none ↔ ¬(lost = false ∧ 0 ≤ n) := by
  unfold unsigned
  cases lost <;> simp

theorem ofUnsigned (n : Int64) (lost : Bool) :
    ((if lost then none else unsigned n).getD 0).toInt64 = if lost ∨ n < 0 then 0 else n := by
  unfold unsigned
  cases lost with
  | true => simp
  | false =>
      by_cases nonneg : 0 ≤ n
      · have small : ¬n < 0 := Int64.not_lt.mpr nonneg
        simp [nonneg, small]
      · have negative : n < 0 := Int64.not_le.mp nonneg
        simp [nonneg, negative]

/-- A frame comes back without the values that are lost, where its identities are not. -/
theorem decodeServiceFrame_encodeServiceFrame (f : ServiceFrame) :
    decodeServiceFrame (encodeServiceFrame f) =
      .ok (if f.identitiesFound then some f.reread else none) := by
  obtain ⟨domain, priority, weight, deadline⟩ := read_headNumbers (f := f)
  have lifespan : uintOr 0 (render f.pieces) "lifespan_ns" =
      .ok ((if shadowed f.names "lifespan_ns" then none else unsigned f.lifespanNs).getD 0) := by
    rw [uintOr, read_lifespanNs]
    rfl
  unfold decodeServiceFrame
  rw [schemaBody_encodeServiceFrame]
  simp only [read_sequenceId, read_sourceTimestampNs, lifespan, read_role, read_serviceName,
    read_typeName, read_clientEndpointId, read_serializedPayload, domain, priority, weight,
    deadline, ok_bind]
  by_cases found : f.identitiesFound
  · obtain ⟨service, type, client, sequence, counted, timestamp, stamped⟩ :=
      f.identitiesFound_iff.mp found
    rw [if_pos found]
    have endpoint : stringOrEmpty (render f.pieces) "service_endpoint_id" =
        f.reread.serviceEndpointId := by
      rw [stringOrEmpty, read_serviceEndpointId]
      unfold reread
      split <;> rfl
    have sequenceId : f.sequenceId.toUInt64.toInt64 = f.sequenceId := by simp
    have sourceTimestampNs : f.sourceTimestampNs.toUInt64.toInt64 = f.sourceTimestampNs := by simp
    simp only [service, type, client, sequence, timestamp, Bool.false_eq_true, if_false]
    rw [unsigned, if_pos counted, unsigned, if_pos stamped]
    simp only [ofUnsigned, endpoint, sequenceId, sourceTimestampNs]
    rfl
  · rw [if_neg found]
    rw [f.identitiesFound_iff] at found
    by_cases service : shadowed [f.role] "service_name"
    · simp only [service, if_true]
      rfl
    by_cases type : shadowed [f.role, f.serviceName] "type_name"
    · simp only [service, type, if_true]
      rfl
    by_cases client : shadowed [f.role, f.serviceName, f.typeName] "client_endpoint_id"
    · simp only [service, type, client, if_true]
      rfl
    have missing : (if shadowed f.names "sequence_id" then none else unsigned f.sequenceId) = none ∨
        (if shadowed f.names "source_timestamp_ns" then none else unsigned f.sourceTimestampNs) =
          none := by
      rw [unread_iff, unread_iff]
      rw [Bool.not_eq_true] at service type client
      rw [← not_and_or]
      exact fun both => found ⟨service, type, client, both.1.1, both.1.2, both.2.1, both.2.2⟩
    simp only [service, type, client]
    rcases missing with missing | missing
    · rw [missing]
      rfl
    · rw [missing]
      cases (if shadowed f.names "sequence_id" then none else unsigned f.sequenceId) <;> rfl

/-- No name hides a value that is read behind it. -/
structure Kept (f : ServiceFrame) : Prop where
  serviceName : shadowed [f.role] "service_name" = false
  typeName : shadowed [f.role, f.serviceName] "type_name" = false
  clientEndpointId : shadowed [f.role, f.serviceName, f.typeName] "client_endpoint_id" = false
  serviceEndpointId : f.serviceEndpointId ≠ [] →
    shadowed [f.role, f.serviceName, f.typeName, f.clientEndpointId] "service_endpoint_id" = false
  sequenceId : shadowed f.names "sequence_id" = false
  sourceTimestampNs : shadowed f.names "source_timestamp_ns" = false
  lifespanNs : f.lifespanNs ≠ 0 → shadowed f.names "lifespan_ns" = false
  serializedPayload : f.serializedPayload ≠ [] → shadowed f.names "serialized_payload" = false

theorem reread_eq_iff {f : ServiceFrame} (lifespan : 0 ≤ f.lifespanNs) (weight : 1 ≤ f.clientWeight)
    (enqueued : f.localEnqueueTimestampNs = 0) :
    f.reread = f ↔
      (f.serviceEndpointId ≠ [] → shadowed [f.role, f.serviceName, f.typeName, f.clientEndpointId]
        "service_endpoint_id" = false) ∧
      (f.lifespanNs ≠ 0 → shadowed f.names "lifespan_ns" = false) ∧
      (f.serializedPayload ≠ [] → shadowed f.names "serialized_payload" = false) := by
  have endpoint : f.reread.serviceEndpointId = f.serviceEndpointId ↔ _ := DataFrame.lost_eq_value
  have payload : f.reread.serializedPayload = f.serializedPayload ↔ _ := DataFrame.lost_eq_value
  have span : f.reread.lifespanNs = f.lifespanNs ↔
      (f.lifespanNs ≠ 0 → shadowed f.names "lifespan_ns" = false) := by
    have whole : f.reread.lifespanNs = if shadowed f.names "lifespan_ns" then 0 else f.lifespanNs :=
      if_congr (or_iff_left (Int64.not_lt.mpr lifespan)) rfl rfl
    rw [whole]
    exact DataFrame.lost_eq_value
  have weighed : f.reread.clientWeight = f.clientWeight := if_neg (UInt64.not_lt.mpr weight)
  rw [← endpoint, ← span, ← payload]
  constructor
  · intro same
    rw [same]
    exact ⟨rfl, rfl, rfl⟩
  · rintro ⟨e, l, p⟩
    exact ServiceFrame.ext rfl rfl rfl rfl e rfl rfl l p rfl rfl enqueued.symm weighed rfl

/-- A service frame comes back as it was sent exactly when no name in it hides a value that is
    read behind it. -/
theorem decodeServiceFrame_encodeServiceFrame_iff (f : ServiceFrame) (sequence : 0 ≤ f.sequenceId)
    (timestamp : 0 ≤ f.sourceTimestampNs) (lifespan : 0 ≤ f.lifespanNs)
    (weight : 1 ≤ f.clientWeight) (enqueued : f.localEnqueueTimestampNs = 0) :
    decodeServiceFrame (encodeServiceFrame f) = .ok (some f) ↔ f.Kept := by
  have whole : decodeServiceFrame (encodeServiceFrame f) = .ok (some f) ↔
      f.identitiesFound ∧ f.reread = f := by
    rw [decodeServiceFrame_encodeServiceFrame]
    cases f.identitiesFound <;> simp
  rw [whole, identitiesFound_iff, reread_eq_iff lifespan weight enqueued]
  constructor
  · rintro ⟨⟨service, type, client, counted, -, stamped, -⟩, endpoint, span, payload⟩
    exact ⟨service, type, client, endpoint, counted, stamped, span, payload⟩
  · intro kept
    exact ⟨⟨kept.serviceName, kept.typeName, kept.clientEndpointId, kept.sequenceId, sequence,
      kept.sourceTimestampNs, timestamp⟩, kept.serviceEndpointId, kept.lifespanNs,
      kept.serializedPayload⟩

end ServiceFrame

/-- The response to a client. -/
def responseTo (client : Bytes) : ServiceFrame where
  role := octets "response"
  serviceName := octets "/add"
  typeName := octets "Add"
  clientEndpointId := client
  serviceEndpointId := octets "s"
  sequenceId := 7
  sourceTimestampNs := 9
  lifespanNs := 5
  serializedPayload := [0, 255]
  domainId := 3
  clientPriority := 2
  clientWeight := 1
  requestDeadlineNs := 0

/-- A client with the name of a key gets no response. -/
theorem responseTo_lost :
    ∃ f : ServiceFrame, 0 ≤ f.sequenceId ∧ 0 ≤ f.sourceTimestampNs ∧ 0 ≤ f.lifespanNs ∧
      1 ≤ f.clientWeight ∧ f.localEnqueueTimestampNs = 0 ∧
      decodeServiceFrame (encodeServiceFrame f) = .ok none := by
  refine ⟨responseTo (octets "sequence_id"), ?_, ?_, ?_, ?_, ?_, ?_⟩ <;> decide +kernel

theorem decodeServiceFrame_encodeServiceFrame_iff_responseTo :
    decodeServiceFrame (encodeServiceFrame (responseTo (octets "c"))) =
      .ok (some (responseTo (octets "c"))) := by
  apply (ServiceFrame.decodeServiceFrame_encodeServiceFrame_iff _ (by decide) (by decide)
    (by decide) (by decide) rfl).mpr
  constructor <;> decide +kernel

end FleetRMW.Rmw
