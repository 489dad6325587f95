import FleetRMW.Rmw.FrameText

/-! # What is read of a data frame

Each value of a frame's text is read as it was written unless a string in front of it looks like
its key, or like the key of its object.
-/

namespace FleetRMW.Rmw

open Lib

/-! ## Keys and constants -/

instance nameText_source_metadata : NameText "source_metadata" := ⟨by decide⟩

/-! ## What a text hides -/

/-- One of the strings looks like the key. -/
def shadowed (vs : List Bytes) (key : String) : Bool := vs.any fun v => shadows v (octets key)

@[simp] theorem shadowed_nil {key : String} : shadowed [] key = false := rfl

@[simp] theorem shadowed_cons {v : Bytes} {vs : List Bytes} {key : String} :
    shadowed (v :: vs) key = (shadows v (octets key) || shadowed vs key) := rfl

@[simp] theorem shadowed_append {vs ws : List Bytes} {key : String} :
    shadowed (vs ++ ws) key = (shadowed vs key || shadowed ws key) := List.any_append

/-- The payload is decoded unless its object is hidden. -/
theorem decodePayload_payloadOf {payload : Bytes} {ps qs : List Piece}
    (before : keyless "serialized_payload" ps) (behind : keyless "serialized_payload" qs) :
    decodePayload ((jsonObjectValue (render (ps ++ ((if payload ≠ [] then payloadOf payload else []) ++
        qs))) (octets "serialized_payload")).getD []) =
      .ok (some (if hides "serialized_payload" ps then [] else payload)) := by
  have flat : ∀ o ∈ payloadValues payload, o.Flat := by
    simp [payloadValues, flat_number]
  have closes : (Piece.value (base64Encode payload) .brace).Closes := rfl
  have read := jsonObjectValue_member (k := .mk "serialized_payload") (c := payload ≠ []) flat
    closes before behind
  rw [payloadOf, read]
  by_cases present : payload ≠ [] ∧ hides "serialized_payload" ps = false
  · have encoding : jsonStringValue (render (.raw [123] brace_unquoted ::
        (payloadValues payload ++ [.value (base64Encode payload) .brace]))) (octets "encoding") =
          some (octets "base64") :=
      jsonStringValue_constant (k := .mk "encoding") (s := .mk "base64") rfl
    have data : jsonStringValue (render (.raw [123] brace_unquoted ::
        (payloadValues payload ++ [.value (base64Encode payload) .brace]))) (octets "data") =
          some (base64Encode payload) := by
      have here : lookup "data" (.raw [123] brace_unquoted ::
          (payloadValues payload ++ [.value (base64Encode payload) .brace])) =
          some [.value (base64Encode payload) .brace] := by
        simp [payloadValues, number, lookup]
      exact jsonStringValue_key (k := .mk "data") (h := false) here
    have written : (render (.raw [123] brace_unquoted ::
        (payloadValues payload ++ [.value (base64Encode payload) .brace]))).isEmpty = false := rfl
    rw [if_pos present, Option.getD_some, decodePayload, written, if_neg (by simp), encoding, data]
    simp only [if_true, base64Decode_encode, present.2, Bool.false_eq_true, if_false]
  · rw [if_neg present]
    by_cases empty : payload = []
    · simp [decodePayload, empty]
    · have lost : hides "serialized_payload" ps = true := by
        simpa [empty] using present
      simp [decodePayload, lost]

namespace DataFrame

variable {f : DataFrame} {k : Name}

/-- The strings in front of the route. -/
def frontTexts (f : DataFrame) : List Bytes := [f.typeName, f.partitionsCsv, f.coherentSetId]

def routeTexts (f : DataFrame) : List Bytes := [f.robotId, f.topic, f.flowClass]

/-- The strings in front of the payload. -/
def headerTexts (f : DataFrame) : List Bytes := f.frontTexts ++ f.routeTexts ++ [f.publisherId]

def payloadTexts (f : DataFrame) : List Bytes :=
  f.headerTexts ++ [base64Encode f.serializedPayload]

theorem hides_ownershipPieces : hides k.text f.ownershipPieces = false := by
  unfold ownershipPieces
  split <;> rfl

theorem hides_coherentPieces :
    hides k.text f.coherentPieces = shadows f.coherentSetId (octets k.text) := by
  unfold coherentPieces
  split
  · rename_i empty
    rw [empty, not_shadows_empty, hides_nil]
  · simp [number]

theorem hides_front (schema : k.text ≠ "fleetrmw.data_frame.v2")
    (kind : k.text ≠ "sidecar_packet_frame") :
    hides k.text f.front = shadowed f.frontTexts k.text := by
  simp [front, headPieces, number, hides_optionalText, hides_ownershipPieces,
    hides_coherentPieces, frontTexts, schema.symm, kind.symm]

theorem hides_route :
    hides k.text (f.routePieces ++ [f.routeEnd]) = shadowed f.routeTexts k.text := by
  unfold routePieces routeEnd routeTexts
  by_cases empty : f.flowClass = []
  · simp [empty, not_shadows_empty]
  · simp [empty]

theorem keyless_front {key : String}
    (absent : key ∉ ["schema_version", "kind", "domain_id", "type_name", "partitions",
      "ownership_strength", "coherent_set_id", "coherent_set_total", "coherent_set_index"]) :
    keyless key f.front := by
  simp only [List.mem_cons, List.not_mem_nil, or_false, not_or] at absent
  obtain ⟨schema, kind, domain, type, partitions, ownership, id, total, index⟩ := absent
  have ownershipKeys : keyless key f.ownershipPieces := by
    unfold ownershipPieces
    split <;> simp [signedNumber, Ne.symm ownership]
  have coherentKeys : keyless key f.coherentPieces := by
    unfold coherentPieces
    split <;> simp [number, Ne.symm id, Ne.symm total, Ne.symm index]
  simp [front, headPieces, number, keyless_optionalText, ownershipKeys, coherentKeys,
    Ne.symm schema, Ne.symm kind, Ne.symm domain, Ne.symm type, Ne.symm partitions]

theorem keyless_route {key : String}
    (absent : key ∉ ["robot_id", "topic", "flow_class"]) :
    keyless key (f.routePieces ++ [f.routeEnd]) := by
  simp only [List.mem_cons, List.not_mem_nil, or_false, not_or] at absent
  unfold routePieces routeEnd
  split <;> simp [Ne.symm absent.1, Ne.symm absent.2.1, Ne.symm absent.2.2]

theorem keyless_deliveryMember {key : String} (absent : key ∉ ["delivery", "deadline_ms"]) :
    keyless key f.deliveryMember := by
  simp only [List.mem_cons, List.not_mem_nil, or_false, not_or] at absent
  unfold deliveryMember
  split <;> simp [member, deliveryPieces, floatNumber, Ne.symm absent.1, Ne.symm absent.2]

theorem keyless_qoxMember {key : String} (absent : key ∉ ["qox", "qoe_debt", "task_criticality"]) :
    keyless key f.qoxMember := by
  simp only [List.mem_cons, List.not_mem_nil, or_false, not_or] at absent
  unfold qoxMember
  split <;> simp [member, qoxPieces, floatNumber, Ne.symm absent.1, Ne.symm absent.2.1,
    Ne.symm absent.2.2]

theorem keyless_timingMember {key : String} (absent : key ∉ ["timing", "age_ms"]) :
    keyless key f.timingMember := by
  simp only [List.mem_cons, List.not_mem_nil, or_false, not_or] at absent
  unfold timingMember
  split <;> simp [member, timingPieces, floatNumber, Ne.symm absent.1, Ne.symm absent.2]

theorem keyless_repairMember {key : String}
    (absent : key ∉ ["repair", "requested", "prior_attempts"]) : keyless key f.repairMember := by
  simp only [List.mem_cons, List.not_mem_nil, or_false, not_or] at absent
  have repairKeys : keyless key f.repairPieces := by
    simp [repairPieces, flag, number, Ne.symm absent.2.1, Ne.symm absent.2.2]
  unfold repairMember
  split <;> simp [member, repairKeys, Ne.symm absent.1]

theorem keyless_back {key : String}
    (absent : key ∉ ["delivery", "deadline_ms", "qox", "qoe_debt", "task_criticality", "timing",
      "age_ms", "repair", "requested", "prior_attempts"]) :
    keyless key f.back := by
  simp only [List.mem_cons, List.not_mem_nil, or_false, not_or] at absent
  simp [back, keyless_deliveryMember, keyless_qoxMember, keyless_timingMember,
    keyless_repairMember, absent]

/-! ## What is read in the route -/

/-- What is written behind the envelope. -/
def tail (f : DataFrame) : List Piece :=
  (if f.serializedPayload ≠ [] then
    member (.mk "serialized_payload") f.payloadPieces f.payloadEnd else []) ++ f.back

/-- What is written behind the route. -/
def afterRoute (f : DataFrame) : List Piece :=
  .raw [44] comma_unquoted :: .key (.mk "sample_envelope") :: .raw [123] brace_unquoted ::
    (f.envelopePieces ++ .raw [125] endBrace_unquoted :: f.tail)

theorem pieces_route (f : DataFrame) :
    f.pieces = f.front ++ .key (.mk "route") :: (.raw [123] brace_unquoted ::
      (f.routePieces ++ f.routeEnd :: f.afterRoute)) := by
  simp [pieces, middle, afterRoute, tail]

/-- The route is not found. -/
def routeLost (f : DataFrame) : Bool := shadowed f.frontTexts "route"

/-- The text in which the decoder looks for the route's strings. -/
def routeText (f : DataFrame) : Bytes :=
  (jsonObjectValue (render f.pieces) (octets "route")).getD (render f.pieces)

theorem routeText_eq (f : DataFrame) :
    f.routeText = if f.routeLost then render f.pieces
      else render (.raw [123] brace_unquoted :: (f.routePieces ++ [f.routeEnd])) := by
  have flat : ∀ o ∈ f.routePieces, o.Flat := by
    unfold routePieces
    split <;> simp
  have closes : f.routeEnd.Closes := rfl
  have at_ : lookup "route" f.pieces = if f.routeLost then none
      else some (.raw [123] brace_unquoted :: (f.routePieces ++ f.routeEnd :: f.afterRoute)) := by
    have here := lookup_key (.mk "route") f.front
      (.raw [123] brace_unquoted :: (f.routePieces ++ f.routeEnd :: f.afterRoute)) (keyless_front (by simp))
    rwa [← pieces_route, hides_front (by simp) (by simp)] at here
  have read := jsonObjectValue_key (k := .mk "route") flat closes at_
  rw [routeText, read]
  cases f.routeLost <;> rfl

/-- A key of the route, in the whole text. -/
theorem lookup_in_route (k : Name) (before behind : List Piece) (absent : keyless k.text before)
    (front_absent : keyless k.text f.front) (schema : k.text ≠ "fleetrmw.data_frame.v2")
    (kind : k.text ≠ "sidecar_packet_frame") (notRoute : k.text ≠ "route")
    (shape : f.routePieces ++ f.routeEnd :: f.afterRoute = before ++ .key k :: behind) :
    lookup k.text f.pieces =
      if shadowed f.frontTexts k.text || hides k.text before then none else some behind := by
  have whole : f.pieces =
      (f.front ++ ([.key (.mk "route"), .raw [123] brace_unquoted] ++ before)) ++ .key k :: behind := by
    rw [pieces_route, shape]
    simp
  rw [whole, lookup_key _ _ _ (by simp [front_absent, absent, notRoute.symm]), hides_append,
    hides_front schema kind]
  simp

theorem route_robotId (f : DataFrame) :
    jsonStringValue f.routeText (octets "robot_id") =
      if f.routeLost && shadowed f.frontTexts "robot_id" then none else some f.robotId := by
  rw [routeText_eq]
  cases f.routeLost with
  | false => exact jsonStringValue_key (k := .mk "robot_id") (h := false) rfl
  | true =>
      have here := lookup_in_route (f := f) (.mk "robot_id") [] _ rfl
        (keyless_front (by simp)) (by simp) (by simp) (by simp) rfl
      exact jsonStringValue_key (k := .mk "robot_id") (by simpa using here)

/-- What stands at the topic of the route. -/
theorem route_at_topic (f : DataFrame) (more : List Piece) : ∃ ending rest,
    f.routePieces ++ f.routeEnd :: more =
      [.key (.mk "robot_id"), .value f.robotId .comma] ++
        .key (.mk "topic") :: (.value f.topic ending :: rest) := by
  unfold routePieces routeEnd
  by_cases empty : f.flowClass = []
  · simp only [empty, if_true]
    exact ⟨.brace, more, rfl⟩
  · simp only [empty, if_false]
    exact ⟨.comma, _, rfl⟩

theorem route_topic (f : DataFrame) :
    jsonStringValue f.routeText (octets "topic") =
      if shadows f.robotId (octets "topic") || (f.routeLost && shadowed f.frontTexts "topic")
      then none else some f.topic := by
  rw [routeText_eq]
  cases f.routeLost with
  | false =>
      obtain ⟨ending, rest, shape⟩ := f.route_at_topic []
      have here := lookup_key (.mk "topic")
        [.raw [123] brace_unquoted, .key (.mk "robot_id"), .value f.robotId .comma]
        (.value f.topic ending :: rest) (by simp)
      rw [shape]
      exact jsonStringValue_key (k := .mk "topic") (by simpa using here)
  | true =>
      obtain ⟨ending, rest, shape⟩ := f.route_at_topic f.afterRoute
      have here := lookup_in_route (f := f) (.mk "topic") _ _ (by simp)
        (keyless_front (by simp)) (by simp) (by simp) (by simp) shape
      exact jsonStringValue_key (k := .mk "topic") (by simpa [Bool.or_comm] using here)

theorem keyless_envelope {key : String}
    (absent : key ∉ ["robot_id", "topic", "publisher_id", "source_sequence_number",
      "source_timestamp_ns"]) : keyless key f.envelopePieces := by
  simp only [List.mem_cons, List.not_mem_nil, or_false, not_or] at absent
  obtain ⟨robot, topic, publisher, sequence, timestamp⟩ := absent
  simp [envelopePieces, number, signedNumber, Ne.symm robot, Ne.symm topic, Ne.symm publisher,
    Ne.symm sequence, Ne.symm timestamp]

theorem keyless_tail {key : String} (behind : keyless key f.back)
    (absent : key ∉ ["serialized_payload", "encoding", "size", "data"]) : keyless key f.tail := by
  simp only [List.mem_cons, List.not_mem_nil, or_false, not_or] at absent
  obtain ⟨payload, encoding, size, data⟩ := absent
  unfold tail
  rw [keyless_append, behind, Bool.and_true]
  split <;> simp [member, payloadPieces, payloadEnd, number, Ne.symm payload, Ne.symm encoding,
    Ne.symm size, Ne.symm data]

theorem keyless_afterRoute {key : String} (notEnvelope : key ≠ "sample_envelope")
    (envelope : keyless key f.envelopePieces) (behind : keyless key f.tail) :
    keyless key f.afterRoute := by
  simp [afterRoute, envelope, behind, notEnvelope.symm]

theorem route_flowClass (f : DataFrame) :
    (jsonStringValue f.routeText (octets "flow_class")).getD [] =
      if shadowed [f.robotId, f.topic] "flow_class" ||
          (f.routeLost && shadowed f.frontTexts "flow_class")
      then [] else f.flowClass := by
  rw [routeText_eq]
  by_cases empty : f.flowClass = []
  · have noKey : keyless "flow_class" (f.routePieces ++ [f.routeEnd]) := by
      simp [routePieces, routeEnd, empty]
    have nowhere : keyless "flow_class" f.pieces := by
      have behind : keyless "flow_class" f.afterRoute :=
        keyless_afterRoute (by simp) (keyless_envelope (by simp))
          (keyless_tail (keyless_back (by simp)) (by simp))
      rw [pieces_route, keyless_append, keyless_front (by simp)]
      rw [keyless_append] at noKey
      simpa [behind, routeEnd] using noKey
    have absent : jsonStringValue (if f.routeLost then render f.pieces
        else render (.raw [123] brace_unquoted :: (f.routePieces ++ [f.routeEnd]))) (octets "flow_class") = none := by
      cases f.routeLost with
      | false =>
          exact jsonStringValue_eq_none (k := .mk "flow_class") (lookup_eq_none noKey)
      | true => exact jsonStringValue_eq_none (k := .mk "flow_class") (lookup_eq_none nowhere)
    rw [absent, empty]
    simp
  · have shape : ∀ more, f.routePieces ++ f.routeEnd :: more =
        [.key (.mk "robot_id"), .value f.robotId .comma, .key (.mk "topic"),
          .value f.topic .comma] ++ .key (.mk "flow_class") ::
            (.value f.flowClass .brace :: more) := by
      intro more
      simp [routePieces, routeEnd, empty]
    have read : jsonStringValue (if f.routeLost then render f.pieces
        else render (.raw [123] brace_unquoted :: (f.routePieces ++ [f.routeEnd]))) (octets "flow_class") =
        if shadowed [f.robotId, f.topic] "flow_class" ||
          (f.routeLost && shadowed f.frontTexts "flow_class") then none else some f.flowClass := by
      cases f.routeLost with
      | false =>
          have here := lookup_key (.mk "flow_class")
            [.raw [123] brace_unquoted, .key (.mk "robot_id"), .value f.robotId .comma,
              .key (.mk "topic"), .value f.topic .comma]
            (.value f.flowClass .brace :: []) (by simp)
          rw [shape]
          exact jsonStringValue_key (k := .mk "flow_class") (by simpa using here)
      | true =>
          have here := lookup_in_route (f := f) (.mk "flow_class") _ _ (by simp)
            (keyless_front (by simp)) (by simp) (by simp) (by simp) (shape f.afterRoute)
          exact jsonStringValue_key (k := .mk "flow_class") (by simpa [Bool.or_comm] using here)
    rw [read]
    split <;> rfl

/-! ## What is read in the envelope -/

def beforeEnvelope (f : DataFrame) : List Piece :=
  f.front ++ (.key (.mk "route") :: .raw [123] brace_unquoted :: (f.routePieces ++ [f.routeEnd])) ++ [.raw [44] comma_unquoted]

theorem pieces_envelope (f : DataFrame) :
    f.pieces = f.beforeEnvelope ++ .key (.mk "sample_envelope") :: (.raw [123] brace_unquoted ::
      (f.envelopePieces ++ .raw [125] endBrace_unquoted :: f.tail)) := by
  rw [pieces_route, beforeEnvelope]
  simp [afterRoute]

theorem hides_beforeEnvelope (schema : k.text ≠ "fleetrmw.data_frame.v2")
    (kind : k.text ≠ "sidecar_packet_frame") :
    hides k.text f.beforeEnvelope = shadowed (f.frontTexts ++ f.routeTexts) k.text := by
  rw [beforeEnvelope, hides_append, hides_append, hides_front schema kind, hides_key, hides_raw,
    hides_route, shadowed_append]
  simp

theorem keyless_beforeEnvelope {key : String}
    (absent : key ∉ ["schema_version", "kind", "domain_id", "type_name", "partitions",
      "ownership_strength", "coherent_set_id", "coherent_set_total", "coherent_set_index"])
    (notRoute : key ∉ ["route", "robot_id", "topic", "flow_class"]) :
    keyless key f.beforeEnvelope := by
  have route : keyless key (f.routePieces ++ [f.routeEnd]) :=
    keyless_route fun among => notRoute (List.mem_cons_of_mem _ among)
  have other : "route" ≠ key := fun same => notRoute (same ▸ List.mem_cons_self)
  simp [beforeEnvelope, keyless_front absent] at route ⊢
  exact ⟨other, route⟩

/-- The envelope is not found. -/
def envelopeLost (f : DataFrame) : Bool := shadowed (f.frontTexts ++ f.routeTexts) "sample_envelope"

/-- The text in which the decoder looks for the envelope's values. -/
def envelopeText (f : DataFrame) : Bytes :=
  (jsonObjectValue (render f.pieces) (octets "sample_envelope")).getD (render f.pieces)

theorem envelopeText_eq (f : DataFrame) :
    f.envelopeText = if f.envelopeLost then render f.pieces
      else render (.raw [123] brace_unquoted :: (f.envelopePieces ++ [.raw [125] endBrace_unquoted])) := by
  have flat : ∀ o ∈ f.envelopePieces, o.Flat := by
    simp [envelopePieces, flat_number, flat_signedNumber]
  have at_ : lookup "sample_envelope" f.pieces = if f.envelopeLost then none
      else some (.raw [123] brace_unquoted :: (f.envelopePieces ++ .raw [125] endBrace_unquoted :: f.tail)) := by
    have here := lookup_key (.mk "sample_envelope") f.beforeEnvelope
      (.raw [123] brace_unquoted :: (f.envelopePieces ++ .raw [125] endBrace_unquoted :: f.tail))
      (keyless_beforeEnvelope (by simp) (by simp))
    rwa [← pieces_envelope, hides_beforeEnvelope (by simp) (by simp)] at here
  have closes : (Piece.raw [125] endBrace_unquoted).Closes := rfl
  have read := jsonObjectValue_key (k := .mk "sample_envelope") flat closes at_
  rw [envelopeText, read]
  cases f.envelopeLost <;> rfl

/-- A key of the envelope, in the whole text. -/
theorem lookup_in_envelope (k : Name) (before behind : List Piece) (absent : keyless k.text before)
    (before_absent : keyless k.text f.beforeEnvelope)
    (schema : k.text ≠ "fleetrmw.data_frame.v2") (kind : k.text ≠ "sidecar_packet_frame")
    (notEnvelope : k.text ≠ "sample_envelope")
    (shape : f.envelopePieces ++ .raw [125] endBrace_unquoted :: f.tail = before ++ .key k :: behind) :
    lookup k.text f.pieces =
      if shadowed (f.frontTexts ++ f.routeTexts) k.text || hides k.text before then none
      else some behind := by
  have whole : f.pieces =
      (f.beforeEnvelope ++ ([.key (.mk "sample_envelope"), .raw [123] brace_unquoted] ++ before)) ++
        .key k :: behind := by
    rw [pieces_envelope, shape]
    simp
  rw [whole, lookup_key _ _ _ (by simp [before_absent, absent, notEnvelope.symm]), hides_append,
    hides_beforeEnvelope schema kind]
  simp

theorem envelope_robotId (f : DataFrame) :
    jsonStringValue f.envelopeText (octets "robot_id") =
      if f.envelopeLost && shadowed f.frontTexts "robot_id" then none else some f.robotId := by
  rw [envelopeText_eq]
  cases f.envelopeLost with
  | false => exact jsonStringValue_key (k := .mk "robot_id") (h := false) rfl
  | true =>
      have here := lookup_in_route (f := f) (.mk "robot_id") [] _ rfl
        (keyless_front (by simp)) (by simp) (by simp) (by simp) rfl
      exact jsonStringValue_key (k := .mk "robot_id") (by simpa using here)

/-- A key of the envelope, in the object alone. -/
theorem lookup_in_envelopeObject (k : Name) (before behind : List Piece) (absent : keyless k.text before)
    (shape : f.envelopePieces ++ [.raw [125] endBrace_unquoted] = before ++ .key k :: behind) :
    lookup k.text (.raw [123] brace_unquoted :: (f.envelopePieces ++ [.raw [125] endBrace_unquoted])) =
      if hides k.text before then none else some behind := by
  rw [shape]
  exact lookup_key k (.raw [123] brace_unquoted :: before) behind absent

theorem envelope_topic (f : DataFrame) :
    jsonStringValue f.envelopeText (octets "topic") =
      if shadows f.robotId (octets "topic") || (f.envelopeLost && shadowed f.frontTexts "topic")
      then none else some f.topic := by
  rw [envelopeText_eq]
  cases f.envelopeLost with
  | false =>
      have here := lookup_in_envelopeObject (f := f) (.mk "topic") [.key (.mk "robot_id"), .value f.robotId .comma] _ (by simp) rfl
      exact jsonStringValue_key (k := .mk "topic") (by simpa using here)
  | true =>
      obtain ⟨ending, rest, shape⟩ := f.route_at_topic f.afterRoute
      have here := lookup_in_route (f := f) (.mk "topic") _ _ (by simp)
        (keyless_front (by simp)) (by simp) (by simp) (by simp) shape
      exact jsonStringValue_key (k := .mk "topic") (by simpa [Bool.or_comm] using here)

theorem envelope_publisherId (f : DataFrame) :
    jsonStringValue f.envelopeText (octets "publisher_id") =
      if shadowed [f.robotId, f.topic] "publisher_id" ||
          (f.envelopeLost && shadowed (f.frontTexts ++ f.routeTexts) "publisher_id")
      then none else some f.publisherId := by
  have absent : keyless "publisher_id" [.key (.mk "robot_id"), .value f.robotId .comma,
      .key (.mk "topic"), .value f.topic .comma] := by simp
  rw [envelopeText_eq]
  cases f.envelopeLost with
  | false =>
      have here := lookup_in_envelopeObject (f := f) (.mk "publisher_id") _ _ absent rfl
      exact jsonStringValue_key (k := .mk "publisher_id") (by simpa using here)
  | true =>
      have here := lookup_in_envelope (f := f) (.mk "publisher_id") _ _ absent
        (keyless_beforeEnvelope (by simp) (by simp)) (by simp) (by simp) (by simp) rfl
      rw [Bool.or_comm] at here
      exact jsonStringValue_key (k := .mk "publisher_id") (by simpa using here)

theorem envelope_sequence (f : DataFrame) :
    jsonUintValue f.envelopeText (octets "source_sequence_number") =
      .ok (if shadowed [f.robotId, f.topic, f.publisherId] "source_sequence_number" ||
          (f.envelopeLost && shadowed (f.frontTexts ++ f.routeTexts) "source_sequence_number")
        then none else some f.sourceSequenceNumber) := by
  have absent : keyless "source_sequence_number" [.key (.mk "robot_id"), .value f.robotId .comma,
      .key (.mk "topic"), .value f.topic .comma, .key (.mk "publisher_id"),
      .value f.publisherId .comma] := by simp
  rw [envelopeText_eq]
  cases f.envelopeLost with
  | false =>
      have here := lookup_in_envelopeObject (f := f) (.mk "source_sequence_number") _ _ absent rfl
      exact jsonUintValue_key (k := .mk "source_sequence_number") (by simpa using here) rfl
  | true =>
      have here := lookup_in_envelope (f := f) (.mk "source_sequence_number") _ _ absent
        (keyless_beforeEnvelope (by simp) (by simp)) (by simp) (by simp) (by simp) rfl
      rw [Bool.or_comm] at here
      exact jsonUintValue_key (k := .mk "source_sequence_number") (by simpa using here) rfl

theorem envelope_timestamp (nonneg : 0 ≤ f.sourceTimestampNs) :
    jsonUintValue f.envelopeText (octets "source_timestamp_ns") =
      .ok (if shadowed [f.robotId, f.topic, f.publisherId] "source_timestamp_ns" ||
          (f.envelopeLost && shadowed (f.frontTexts ++ f.routeTexts) "source_timestamp_ns")
        then none else some f.sourceTimestampNs.toUInt64) := by
  have absent : keyless "source_timestamp_ns" [.key (.mk "robot_id"), .value f.robotId .comma,
      .key (.mk "topic"), .value f.topic .comma, .key (.mk "publisher_id"),
      .value f.publisherId .comma, .key (.mk "source_sequence_number"),
      number f.sourceSequenceNumber.toNat, .raw [44] comma_unquoted] := by simp [number]
  have written : signedNumber f.sourceTimestampNs.toInt =
      number f.sourceTimestampNs.toUInt64.toNat := by
    rw [signedNumber_of_nonneg (Int64.le_iff_toInt_le.mp nonneg), Int64.toNat_toInt,
      Int64.toNat_toUInt64_of_le nonneg]
  rw [envelopeText_eq]
  cases f.envelopeLost with
  | false =>
      have here := lookup_in_envelopeObject (f := f) (.mk "source_timestamp_ns") _
        [signedNumber f.sourceTimestampNs.toInt, .raw [125] endBrace_unquoted] absent rfl
      rw [written] at here
      exact jsonUintValue_key (k := .mk "source_timestamp_ns") (by simpa [number] using here) rfl
  | true =>
      have here := lookup_in_envelope (f := f) (.mk "source_timestamp_ns") _
        (signedNumber f.sourceTimestampNs.toInt :: .raw [125] endBrace_unquoted :: f.tail) absent
        (keyless_beforeEnvelope (by simp) (by simp)) (by simp) (by simp) (by simp) rfl
      rw [Bool.or_comm, written] at here
      exact jsonUintValue_key (k := .mk "source_timestamp_ns") (by simpa [number] using here) rfl

/-! ## What is read in front of the route -/

theorem keyless_middle {key : String}
    (absent : key ∉ ["route", "sample_envelope", "robot_id", "topic", "flow_class", "publisher_id",
      "source_sequence_number", "source_timestamp_ns"]) : keyless key f.middle := by
  simp only [List.mem_cons, List.not_mem_nil, or_false, not_or] at absent
  obtain ⟨route, envelope, robot, topic, flow, publisher, sequence, timestamp⟩ := absent
  have routeKeys : keyless key (f.routePieces ++ [f.routeEnd]) :=
    keyless_route (by simp [robot, topic, flow])
  have envelopeKeys : keyless key f.envelopePieces :=
    keyless_envelope (by simp [robot, topic, publisher, sequence, timestamp])
  simp only [keyless_append, Bool.and_eq_true] at routeKeys
  simp [middle, envelopeKeys, Ne.symm route, Ne.symm envelope, routeKeys.1, routeEnd]

/-- What is written behind the constants and the domain. -/
def afterHead (f : DataFrame) : List Piece :=
  optionalText (.mk "type_name") f.typeName ++ (optionalText (.mk "partitions") f.partitionsCsv ++
    (f.ownershipPieces ++ (f.coherentPieces ++ (f.middle ++ f.tail))))

theorem pieces_head (f : DataFrame) : f.pieces = f.headPieces ++ f.afterHead := by
  simp [pieces, front, afterHead, tail]

theorem body_domainId (f : DataFrame) :
    jsonUintValue (render f.pieces) (octets "domain_id") = .ok (some f.domainId) := by
  have here : lookup "domain_id" (f.headPieces ++ f.afterHead) =
      some (number f.domainId.toNat :: .raw [44] comma_unquoted :: f.afterHead) :=
    lookup_key (.mk "domain_id") [.raw [123] brace_unquoted, .key (.mk "schema_version"),
      .constant (.mk "fleetrmw.data_frame.v2") .comma, .key (.mk "kind"),
      .constant (.mk "sidecar_packet_frame") .comma] _ (by simp)
  rw [pieces_head]
  exact jsonUintValue_key (k := .mk "domain_id") (h := false) here rfl

theorem keyless_headPieces {key : String}
    (absent : key ∉ ["schema_version", "kind", "domain_id"]) : keyless key f.headPieces := by
  simp only [List.mem_cons, List.not_mem_nil, or_false, not_or] at absent
  simp [headPieces, number, Ne.symm absent.1, Ne.symm absent.2.1, Ne.symm absent.2.2]

theorem hides_headPieces (schema : k.text ≠ "fleetrmw.data_frame.v2")
    (kind : k.text ≠ "sidecar_packet_frame") : hides k.text f.headPieces = false := by
  simp [headPieces, number, schema.symm, kind.symm]

theorem keyless_ownershipPieces {key : String} (absent : key ≠ "ownership_strength") :
    keyless key f.ownershipPieces := by
  unfold ownershipPieces
  split <;> simp [signedNumber, absent.symm]

theorem keyless_coherentPieces {key : String}
    (absent : key ∉ ["coherent_set_id", "coherent_set_total", "coherent_set_index"]) :
    keyless key f.coherentPieces := by
  simp only [List.mem_cons, List.not_mem_nil, or_false, not_or] at absent
  unfold coherentPieces
  split <;> simp [number, Ne.symm absent.1, Ne.symm absent.2.1, Ne.symm absent.2.2]

theorem body_typeName (f : DataFrame) :
    (jsonStringValue (render f.pieces) (octets "type_name")).getD [] = f.typeName := by
  have behind : keyless "type_name" (optionalText (.mk "partitions") f.partitionsCsv ++
      (f.ownershipPieces ++ (f.coherentPieces ++ (f.middle ++ f.tail)))) := by
    simp [keyless_optionalText, keyless_ownershipPieces, keyless_coherentPieces, keyless_middle,
      keyless_tail, keyless_back]
  have read := jsonStringValue_optionalText (k := .mk "type_name") (v := f.typeName)
    (keyless_headPieces (f := f) (by simp)) behind
  rw [hides_headPieces (by simp) (by simp)] at read
  rw [pieces_head]
  exact read

theorem body_partitions (f : DataFrame) :
    (jsonStringValue (render f.pieces) (octets "partitions")).getD [] =
      if shadows f.typeName (octets "partitions") then [] else f.partitionsCsv := by
  have before : keyless "partitions" (f.headPieces ++ optionalText (.mk "type_name") f.typeName) := by
    simp [keyless_headPieces, keyless_optionalText]
  have behind : keyless "partitions"
      (f.ownershipPieces ++ (f.coherentPieces ++ (f.middle ++ f.tail))) := by
    simp [keyless_ownershipPieces, keyless_coherentPieces, keyless_middle, keyless_tail,
      keyless_back]
  have read := jsonStringValue_optionalText (k := .mk "partitions") (v := f.partitionsCsv)
    before behind
  rw [hides_append, hides_headPieces (by simp) (by simp), hides_optionalText, Bool.false_or,
    List.append_assoc] at read
  rw [pieces_head]
  exact read

/-- What is written in front of the ownership strength. -/
def beforeOwnership (f : DataFrame) : List Piece :=
  f.headPieces ++ (optionalText (.mk "type_name") f.typeName ++
    optionalText (.mk "partitions") f.partitionsCsv)

theorem pieces_ownership (f : DataFrame) :
    f.pieces = f.beforeOwnership ++
      (f.ownershipPieces ++ (f.coherentPieces ++ (f.middle ++ f.tail))) := by
  simp [pieces_head, afterHead, beforeOwnership]

theorem hides_beforeOwnership (schema : k.text ≠ "fleetrmw.data_frame.v2")
    (kind : k.text ≠ "sidecar_packet_frame") :
    hides k.text f.beforeOwnership = shadowed [f.typeName, f.partitionsCsv] k.text := by
  simp [beforeOwnership, hides_headPieces schema kind, hides_optionalText]

theorem keyless_beforeOwnership {key : String}
    (absent : key ∉ ["schema_version", "kind", "domain_id", "type_name", "partitions"]) :
    keyless key f.beforeOwnership := by
  simp only [List.mem_cons, List.not_mem_nil, or_false, not_or] at absent
  obtain ⟨schema, kind, domain, type, partitions⟩ := absent
  simp [beforeOwnership, keyless_headPieces, keyless_optionalText, schema, kind, domain,
    Ne.symm type, Ne.symm partitions]

/-- No digit stands at the front of a negative number. -/
theorem jsonUintValue_negative {ps rest : List Piece} {n : Int} {h : Bool} (negative : n < 0)
    (at_ : lookup k.text ps = if h then none else some (signedNumber n :: rest)) :
    jsonUintValue (render ps) (octets k.text) = .ok none := by
  cases h with
  | true => exact jsonUintValue_eq_none at_
  | false =>
      have nothing : digitRun (render ps) (octets k.text) = none := by
        rw [digitRun, jsonValueStart_render k.plain, at_]
        simp only [Bool.false_eq_true, if_false, Option.map_some, Option.bind_some, render_cons,
          signedNumber, Piece.text, signedDecimal, if_pos negative, List.cons_append,
           skipSpaces_cons (c := 45) rfl]
        rfl
      rw [jsonUintValue, nothing]

/-- Only a positive strength is read. -/
theorem body_ownershipStrength (f : DataFrame) :
    jsonUintValue (render f.pieces) (octets "ownership_strength") =
      .ok (if 0 < f.ownershipStrength.toInt ∧
          shadowed [f.typeName, f.partitionsCsv] "ownership_strength" = false
        then some (UInt64.ofNat f.ownershipStrength.toInt.toNat) else none) := by
  have before : keyless "ownership_strength" f.beforeOwnership := keyless_beforeOwnership (by simp)
  have behind : keyless "ownership_strength" (f.coherentPieces ++ (f.middle ++ f.tail)) := by
    simp [keyless_coherentPieces, keyless_middle, keyless_tail, keyless_back]
  rw [pieces_ownership]
  by_cases zero : f.ownershipStrength = 0
  · have nowhere : lookup "ownership_strength" (f.beforeOwnership ++
        (f.ownershipPieces ++ (f.coherentPieces ++ (f.middle ++ f.tail)))) = none := by
      apply lookup_eq_none
      rw [ownershipPieces, if_pos zero, keyless_append, before]
      exact behind
    rw [jsonUintValue_eq_none (k := .mk "ownership_strength") nowhere, zero]
    rfl
  · have here : lookup "ownership_strength" (f.beforeOwnership ++
        (f.ownershipPieces ++ (f.coherentPieces ++ (f.middle ++ f.tail)))) =
        if shadowed [f.typeName, f.partitionsCsv] "ownership_strength" then none
        else some (signedNumber f.ownershipStrength.toInt :: .raw [44] comma_unquoted ::
          (f.coherentPieces ++ (f.middle ++ f.tail))) := by
      rw [ownershipPieces, if_neg zero]
      rw [← hides_beforeOwnership (k := .mk "ownership_strength") (by simp) (by simp)]
      exact lookup_key (.mk "ownership_strength") _ _ before
    by_cases positive : 0 < f.ownershipStrength.toInt
    · have small : f.ownershipStrength.toInt.toNat < 2 ^ 64 := by
        have bound := f.ownershipStrength.toInt_lt
        omega
      have written : signedNumber f.ownershipStrength.toInt =
          number (UInt64.ofNat f.ownershipStrength.toInt.toNat).toNat := by
        rw [signedNumber_of_nonneg (by omega), UInt64.toNat_ofNat', Nat.mod_eq_of_lt small]
      rw [written] at here
      rw [jsonUintValue_key (k := .mk "ownership_strength") here rfl]
      cases shadowed [f.typeName, f.partitionsCsv] "ownership_strength" <;> simp [positive]
    · have negative : f.ownershipStrength.toInt < 0 := by
        have notZero : f.ownershipStrength.toInt ≠ 0 := fun same =>
          zero (Int32.toInt_inj.mp same)
        omega
      rw [jsonUintValue_negative (k := .mk "ownership_strength") negative here,
        if_neg fun both => positive both.1]

/-- What is written in front of the coherent set. -/
def beforeCoherent (f : DataFrame) : List Piece := f.beforeOwnership ++ f.ownershipPieces

theorem pieces_coherent (f : DataFrame) :
    f.pieces = f.beforeCoherent ++ (f.coherentPieces ++ (f.middle ++ f.tail)) := by
  rw [pieces_ownership, beforeCoherent, List.append_assoc]

theorem hides_beforeCoherent (schema : k.text ≠ "fleetrmw.data_frame.v2")
    (kind : k.text ≠ "sidecar_packet_frame") :
    hides k.text f.beforeCoherent = shadowed [f.typeName, f.partitionsCsv] k.text := by
  rw [beforeCoherent, hides_append, hides_beforeOwnership schema kind, hides_ownershipPieces,
    Bool.or_false]

theorem keyless_beforeCoherent {key : String}
    (absent : key ∉ ["schema_version", "kind", "domain_id", "type_name", "partitions"])
    (notOwnership : key ≠ "ownership_strength") : keyless key f.beforeCoherent := by
  rw [beforeCoherent, keyless_append, keyless_beforeOwnership absent,
    keyless_ownershipPieces notOwnership]
  rfl

theorem body_coherentSetId (f : DataFrame) :
    (jsonStringValue (render f.pieces) (octets "coherent_set_id")).getD [] =
      if shadowed [f.typeName, f.partitionsCsv] "coherent_set_id" then [] else f.coherentSetId := by
  have before : keyless "coherent_set_id" f.beforeCoherent :=
    keyless_beforeCoherent (by simp) (by simp)
  have behind : keyless "coherent_set_id" (f.middle ++ f.tail) := by
    simp [keyless_middle, keyless_tail, keyless_back]
  rw [pieces_coherent]
  by_cases empty : f.coherentSetId = []
  · have nowhere : lookup "coherent_set_id"
        (f.beforeCoherent ++ (f.coherentPieces ++ (f.middle ++ f.tail))) = none := by
      apply lookup_eq_none
      rw [coherentPieces, if_pos empty, keyless_append, before]
      exact behind
    rw [jsonStringValue_eq_none (k := .mk "coherent_set_id") nowhere, empty]
    simp
  · have hidden := hides_beforeCoherent (f := f) (k := .mk "coherent_set_id") (by simp) (by simp)
    have read := jsonStringValue_key (lookup_key (.mk "coherent_set_id") f.beforeCoherent
      (.value f.coherentSetId .comma :: (f.coherentPieces.drop 2 ++ (f.middle ++ f.tail))) before)
    rw [hidden] at read
    have shape : f.coherentPieces = .key (.mk "coherent_set_id") ::
        .value f.coherentSetId .comma :: f.coherentPieces.drop 2 := by
      rw [coherentPieces, if_neg empty]
      rfl
    rw [shape]
    exact (congrArg (Option.getD · []) read).trans (by split <;> rfl)

/-- A number of the coherent set. -/
theorem body_coherent_number (k : Name) (n : UInt32) (before behind : List Piece)
    (front_absent : keyless k.text f.beforeCoherent) (back_absent : keyless k.text (f.middle ++ f.tail))
    (absent : keyless k.text before) (schema : k.text ≠ "fleetrmw.data_frame.v2")
    (kind : k.text ≠ "sidecar_packet_frame")
    (hidden : hides k.text before = shadows f.coherentSetId (octets k.text))
    (shape : f.coherentSetId ≠ [] →
      f.coherentPieces = before ++ .key k :: (number n.toNat :: .raw [44] comma_unquoted :: behind)) :
    jsonUintValue (render f.pieces) (octets k.text) =
      .ok (if f.coherentSetId ≠ [] ∧
          shadowed [f.typeName, f.partitionsCsv, f.coherentSetId] k.text = false
        then some n.toUInt64 else none) := by
  rw [pieces_coherent]
  by_cases empty : f.coherentSetId = []
  · have nowhere : lookup k.text
        (f.beforeCoherent ++ (f.coherentPieces ++ (f.middle ++ f.tail))) = none := by
      apply lookup_eq_none
      rw [coherentPieces, if_pos empty, keyless_append, front_absent]
      exact back_absent
    rw [jsonUintValue_eq_none nowhere, if_neg fun both => both.1 empty]
  · have here := lookup_key k (f.beforeCoherent ++ before)
      (number n.toUInt64.toNat :: .raw [44] comma_unquoted :: (behind ++ (f.middle ++ f.tail)))
      (by rw [keyless_append, front_absent, absent]; rfl)
    rw [hides_append, hides_beforeCoherent schema kind, hidden] at here
    have whole : f.beforeCoherent ++ (f.coherentPieces ++ (f.middle ++ f.tail)) =
        f.beforeCoherent ++ before ++ .key k ::
          (number n.toUInt64.toNat :: .raw [44] comma_unquoted :: (behind ++ (f.middle ++ f.tail))) := by
      rw [shape empty, UInt32.toNat_toUInt64]
      simp
    rw [whole, jsonUintValue_key here rfl]
    simp only [shadowed_cons, shadowed_nil, Bool.or_false, empty, ne_eq, not_false_eq_true, true_and,
      ← Bool.or_assoc]
    generalize (_ || _ : Bool) = lost
    cases lost <;> rfl

theorem body_coherentSetTotal (f : DataFrame) :
    jsonUintValue (render f.pieces) (octets "coherent_set_total") =
      .ok (if f.coherentSetId ≠ [] ∧ shadowed [f.typeName, f.partitionsCsv, f.coherentSetId]
          "coherent_set_total" = false then some f.coherentSetTotal.toUInt64 else none) := by
  apply body_coherent_number (.mk "coherent_set_total") f.coherentSetTotal
    [.key (.mk "coherent_set_id"), .value f.coherentSetId .comma]
    [.key (.mk "coherent_set_index"), number f.coherentSetIndex.toNat, .raw [44] comma_unquoted]
    (keyless_beforeCoherent (by simp) (by simp))
    (by simp [keyless_middle, keyless_tail, keyless_back]) (by simp) (by simp) (by simp) (by simp)
  intro written
  rw [coherentPieces, if_neg written]
  rfl

theorem body_coherentSetIndex (f : DataFrame) :
    jsonUintValue (render f.pieces) (octets "coherent_set_index") =
      .ok (if f.coherentSetId ≠ [] ∧ shadowed [f.typeName, f.partitionsCsv, f.coherentSetId]
          "coherent_set_index" = false then some f.coherentSetIndex.toUInt64 else none) := by
  apply body_coherent_number (.mk "coherent_set_index") f.coherentSetIndex
    [.key (.mk "coherent_set_id"), .value f.coherentSetId .comma, .key (.mk "coherent_set_total"),
      number f.coherentSetTotal.toNat, .raw [44] comma_unquoted] []
    (keyless_beforeCoherent (by simp) (by simp))
    (by simp [keyless_middle, keyless_tail, keyless_back]) (by simp [number]) (by simp) (by simp)
    (by simp [number])
  intro written
  rw [coherentPieces, if_neg written]
  rfl

/-! ## What is read behind the envelope -/

theorem hides_middle (k : Name) :
    hides k.text f.middle = shadowed (f.routeTexts ++ [f.publisherId]) k.text := by
  have route := hides_route (f := f) (k := k)
  rw [hides_append] at route
  have envelope : hides k.text f.envelopePieces =
      shadowed [f.robotId, f.topic, f.publisherId] k.text := by
    simp [envelopePieces, number, signedNumber]
  have whole : hides k.text f.middle =
      (hides k.text f.routePieces || hides k.text [f.routeEnd] || hides k.text f.envelopePieces) := by
    simp [middle, routeEnd, Bool.or_assoc]
  rw [whole, route, envelope]
  simp only [routeTexts, shadowed_append, shadowed_cons, shadowed_nil, Bool.or_false]
  cases shadows f.robotId (octets k.text) <;> cases shadows f.topic (octets k.text) <;> simp

theorem hides_header (schema : k.text ≠ "fleetrmw.data_frame.v2")
    (kind : k.text ≠ "sidecar_packet_frame") :
    hides k.text (f.front ++ f.middle) = shadowed f.headerTexts k.text := by
  rw [hides_append, hides_front schema kind, hides_middle, headerTexts, List.append_assoc,
    ← shadowed_append]

/-- The payload's object, where one is written. -/
def payloadMember (f : DataFrame) : List Piece :=
  if f.serializedPayload ≠ [] then
    member (.mk "serialized_payload") f.payloadPieces f.payloadEnd else []

/-- What is written up to the payload. -/
def beforeBack (f : DataFrame) : List Piece := f.front ++ f.middle ++ f.payloadMember

theorem pieces_back (f : DataFrame) : f.pieces = f.beforeBack ++ f.back := by
  simp [pieces, beforeBack, payloadMember]

theorem hides_beforeBack (schema : k.text ≠ "fleetrmw.data_frame.v2")
    (kind : k.text ≠ "sidecar_packet_frame") (encoding : k.text ≠ "base64") :
    hides k.text f.beforeBack = shadowed f.payloadTexts k.text := by
  have payload : hides k.text f.payloadMember =
      shadows (base64Encode f.serializedPayload) (octets k.text) := by
    unfold payloadMember
    by_cases empty : f.serializedPayload = []
    · rw [empty]
      exact (not_shadows_empty k).symm
    · simp [empty, member, payloadPieces, payloadEnd, number, encoding.symm]
  rw [beforeBack, hides_append, hides_header schema kind, payload, payloadTexts, shadowed_append,
    shadowed_cons, shadowed_nil, Bool.or_false]

theorem keyless_header {key : String}
    (absent : key ∉ ["schema_version", "kind", "domain_id", "type_name", "partitions",
      "ownership_strength", "coherent_set_id", "coherent_set_total", "coherent_set_index"])
    (notMiddle : key ∉ ["route", "sample_envelope", "robot_id", "topic", "flow_class",
      "publisher_id", "source_sequence_number", "source_timestamp_ns"]) :
    keyless key (f.front ++ f.middle) := by
  rw [keyless_append, keyless_front absent, keyless_middle notMiddle]
  rfl

theorem keyless_payloadMember {key : String}
    (absent : key ∉ ["serialized_payload", "encoding", "size", "data"]) :
    keyless key f.payloadMember := by
  simp only [List.mem_cons, List.not_mem_nil, or_false, not_or] at absent
  obtain ⟨payload, encoding, size, data⟩ := absent
  unfold payloadMember
  split <;> simp [member, payloadPieces, payloadEnd, number, Ne.symm payload, Ne.symm encoding,
    Ne.symm size, Ne.symm data]

theorem body_sourceMetadata (f : DataFrame) :
    jsonObjectValue (render f.pieces) (octets "source_metadata") = none := by
  apply jsonObjectValue_eq_none (k := .mk "source_metadata")
  apply lookup_eq_none
  rw [pieces_back, beforeBack, keyless_append, keyless_append, keyless_header (by simp) (by simp),
    keyless_payloadMember (by simp), keyless_back (by simp)]
  rfl

theorem body_serializedPayload (f : DataFrame) :
    decodePayload ((jsonObjectValue (render f.pieces) (octets "serialized_payload")).getD []) =
      .ok (some (if shadowed f.headerTexts "serialized_payload" then []
        else f.serializedPayload)) := by
  have shape : f.pieces = f.front ++ f.middle ++ ((if f.serializedPayload ≠ [] then
      payloadOf f.serializedPayload else []) ++ f.back) := by
    rw [pieces, List.append_assoc]
    rfl
  have hidden : hides "serialized_payload" (f.front ++ f.middle) =
      shadowed f.headerTexts "serialized_payload" :=
    hides_header (k := .mk "serialized_payload") (by simp) (by simp)
  rw [shape, decodePayload_payloadOf (keyless_header (by simp) (by simp)) (keyless_back (by simp)),
    hidden]

/-! ## What is read in the last objects -/

theorem jsonDoubleValue_eq_none {ps : List Piece} (at_ : lookup k.text ps = none) :
    jsonDoubleValue (render ps) (octets k.text) = none := by
  rw [jsonDoubleValue, jsonValueStart_render k.plain, at_]
  rfl

theorem isSpace_of_isNumeric {c : UInt8} (numeric : isNumeric c) : isSpace c = false := by
  simp only [isNumeric, Bool.or_eq_true, beq_iff_eq] at numeric
  rcases numeric with ((((digit | rfl) | rfl) | rfl) | rfl) | rfl
  · exact isSpace_of_isDecimal digit
  all_goals rfl

theorem jsonDoubleValue_key {ps rest : List Piece} {d : Double} {c : UInt8} {t : Bytes}
    {unquoted : 34 ∉ c :: t} (exact_ : d.PrintsExactly)
    (at_ : lookup k.text ps = some (floatNumber d :: .raw (c :: t) unquoted :: rest))
    (stops : isNumeric c = false) :
    jsonDoubleValue (render ps) (octets k.text) = some d := by
  have text : (Float64.printG6 d.bits ++ c :: (t ++ render rest)).takeWhile isNumeric =
      Float64.printG6 d.bits := by
    rw [List.takeWhile_append_of_pos exact_.numeric, List.takeWhile_cons_of_neg (by simp [stops]),
      List.append_nil]
  have start : skipSpaces (Float64.printG6 d.bits ++ c :: (t ++ render rest)) =
      Float64.printG6 d.bits ++ c :: (t ++ render rest) := by
    cases digits : Float64.printG6 d.bits with
    | nil => exact absurd digits exact_.ne_nil
    | cons x xs =>
        have numeric : isNumeric x := exact_.numeric x (digits ▸ List.mem_cons_self)
        exact skipSpaces_cons (isSpace_of_isNumeric numeric) _
  rw [jsonDoubleValue, jsonValueStart_render k.plain, at_]
  simp only [Option.map_some, Option.bind_some, render_cons, floatNumber, Piece.text,
    List.cons_append, start, text, if_neg exact_.ne_nil]
  rw [show Float64.stod (Float64.printG6 d.bits) = some d.bits from exact_]
  rfl

/-- There is no string in the last objects. -/
theorem hides_back_members {key : String} :
    hides key f.deliveryMember = false ∧ hides key f.qoxMember = false ∧
      hides key f.timingMember = false := by
  refine ⟨?_, ?_, ?_⟩
  · unfold deliveryMember
    split <;> simp [member, deliveryPieces, floatNumber]
  · unfold qoxMember
    split <;> simp [member, qoxPieces, floatNumber]
  · unfold timingMember
    split <;> simp [member, timingPieces, floatNumber]

/-- One of the last objects is found unless it is hidden. -/
theorem body_object (k : Name) (earlier : List Piece) {os later : List Piece} {c : Prop} [Decidable c]
    (flat : ∀ o ∈ os, o.Flat)
    (shape : f.back = earlier ++ ((if c then member k os (.raw [125] endBrace_unquoted) else []) ++ later))
    (visible : hides k.text earlier = false) (before : keyless k.text f.beforeBack)
    (earlier_absent : keyless k.text earlier) (later_absent : keyless k.text later)
    (schema : k.text ≠ "fleetrmw.data_frame.v2")
    (kind : k.text ≠ "sidecar_packet_frame") (encoding : k.text ≠ "base64") :
    jsonObjectValue (render f.pieces) (octets k.text) =
      if c ∧ shadowed f.payloadTexts k.text = false
      then some (render (.raw [123] brace_unquoted :: (os ++ [.raw [125] endBrace_unquoted]))) else none := by
  have closes : (Piece.raw [125] endBrace_unquoted).Closes := rfl
  have front_absent : keyless k.text (f.beforeBack ++ earlier) := by
    rw [keyless_append, before, earlier_absent]
    rfl
  have read := jsonObjectValue_member (c := c) flat closes front_absent later_absent
  rw [hides_append, hides_beforeBack schema kind encoding, visible, Bool.or_false,
    List.append_assoc, ← shape, ← pieces_back] at read
  exact read

theorem keyless_beforeBack {key : String}
    (absent : key ∉ ["schema_version", "kind", "domain_id", "type_name", "partitions",
      "ownership_strength", "coherent_set_id", "coherent_set_total", "coherent_set_index"])
    (notMiddle : key ∉ ["route", "sample_envelope", "robot_id", "topic", "flow_class",
      "publisher_id", "source_sequence_number", "source_timestamp_ns"])
    (notPayload : key ∉ ["serialized_payload", "encoding", "size", "data"]) :
    keyless key f.beforeBack := by
  rw [beforeBack, keyless_append, keyless_header absent notMiddle,
    keyless_payloadMember notPayload]
  rfl

theorem body_deadlineMs (exact_ : f.deadlineMs.PrintsExactly) :
    (jsonDoubleValue ((jsonObjectValue (render f.pieces) (octets "delivery")).getD [])
        (octets "deadline_ms")).getD {} =
      if Float64.isPositive f.deadlineMs.bits ∧ shadowed f.payloadTexts "delivery" = false
      then f.deadlineMs else {} := by
  have later : keyless "delivery" (f.qoxMember ++ (f.timingMember ++
      (f.repairMember ++ [.raw [125] endBrace_unquoted]))) := by
    simp [keyless_qoxMember, keyless_timingMember, keyless_repairMember]
  have read := body_object (f := f) (.mk "delivery") [] (c := Float64.isPositive f.deadlineMs.bits)
    (by simp [deliveryPieces, flat_floatNumber]) rfl rfl
    (keyless_beforeBack (by simp) (by simp) (by simp)) rfl later (by simp) (by simp) (by simp)
  rw [read]
  split
  · have here : lookup "deadline_ms" (.raw [123] brace_unquoted :: (f.deliveryPieces ++ [.raw [125] endBrace_unquoted])) =
        some [floatNumber f.deadlineMs, .raw [125] endBrace_unquoted] := by
      simp [deliveryPieces, lookup]
    rw [Option.getD_some, jsonDoubleValue_key (k := .mk "deadline_ms") exact_ here rfl]
    rfl
  · rfl

theorem body_ageMs (exact_ : f.ageMs.PrintsExactly) :
    (jsonDoubleValue ((jsonObjectValue (render f.pieces) (octets "timing")).getD [])
        (octets "age_ms")).getD {} =
      if Float64.isPositive f.ageMs.bits ∧ shadowed f.payloadTexts "timing" = false
      then f.ageMs else {} := by
  have earlier : keyless "timing" (f.deliveryMember ++ f.qoxMember) := by
    simp [keyless_deliveryMember, keyless_qoxMember]
  have later : keyless "timing" (f.repairMember ++ [.raw [125] endBrace_unquoted]) := by
    simp [keyless_repairMember]
  have visible : hides "timing" (f.deliveryMember ++ f.qoxMember) = false := by
    rw [hides_append, hides_back_members.1, hides_back_members.2.1]
    rfl
  have flat : ∀ o ∈ f.timingPieces, o.Flat := by
    simp [timingPieces, flat_floatNumber]
  have read := body_object (f := f) (.mk "timing") (f.deliveryMember ++ f.qoxMember)
    (c := Float64.isPositive f.ageMs.bits) flat
    (by rw [back, List.append_assoc]; rfl) visible
    (keyless_beforeBack (by simp) (by simp) (by simp)) earlier later (by simp) (by simp) (by simp)
  rw [read]
  split
  · have here : lookup "age_ms" (.raw [123] brace_unquoted :: (f.timingPieces ++ [.raw [125] endBrace_unquoted])) =
        some [floatNumber f.ageMs, .raw [125] endBrace_unquoted] := by
      simp [timingPieces, lookup]
    rw [Option.getD_some, jsonDoubleValue_key (k := .mk "age_ms") exact_ here rfl]
    rfl
  · rfl

theorem body_qox (exact_ : f.qoeDebt.PrintsExactly) (exact' : f.taskCriticality.PrintsExactly) :
    let qox := (jsonObjectValue (render f.pieces) (octets "qox")).getD []
    let found : Prop := (Float64.isPositive f.qoeDebt.bits ||
      Float64.isPositive f.taskCriticality.bits) ∧ shadowed f.payloadTexts "qox" = false
    (jsonDoubleValue qox (octets "qoe_debt")).getD {} = (if found then f.qoeDebt else {}) ∧
      (jsonDoubleValue qox (octets "task_criticality")).getD {} =
        if found then f.taskCriticality else {} := by
  dsimp only
  have later : keyless "qox" (f.timingMember ++ (f.repairMember ++ [.raw [125] endBrace_unquoted])) := by
    simp [keyless_timingMember, keyless_repairMember]
  have read := body_object (f := f) (.mk "qox") f.deliveryMember
    (c := Float64.isPositive f.qoeDebt.bits || Float64.isPositive f.taskCriticality.bits)
    (by simp [qoxPieces, flat_floatNumber]) rfl hides_back_members.1
    (keyless_beforeBack (by simp) (by simp) (by simp)) (keyless_deliveryMember (by simp)) later
    (by simp) (by simp) (by simp)
  rw [read]
  split
  · have debt : lookup "qoe_debt" (.raw [123] brace_unquoted :: (f.qoxPieces ++ [.raw [125] endBrace_unquoted])) =
        some (floatNumber f.qoeDebt :: .raw [44] comma_unquoted :: f.qoxPieces.drop 3 ++ [.raw [125] endBrace_unquoted]) := by
      simp [qoxPieces, lookup]
    have criticality : lookup "task_criticality" (.raw [123] brace_unquoted :: (f.qoxPieces ++ [.raw [125] endBrace_unquoted])) =
        some [floatNumber f.taskCriticality, .raw [125] endBrace_unquoted] := by
      simp [qoxPieces, floatNumber, lookup]
    rw [Option.getD_some, jsonDoubleValue_key (k := .mk "qoe_debt") exact_ debt rfl,
      jsonDoubleValue_key (k := .mk "task_criticality") exact' criticality rfl]
    exact ⟨rfl, rfl⟩
  · exact ⟨rfl, rfl⟩

theorem jsonBoolValue_key {ps rest : List Piece} {b : Bool}
    (at_ : lookup k.text ps = some (flag b :: rest)) :
    jsonBoolValue (render ps) (octets k.text) = b := by
  rw [jsonBoolValue, jsonValueStart_render k.plain, at_]
  have letters : octets "true" = [116, 114, 117, 101] ∧
      octets "false" = [102, 97, 108, 115, 101] := by decide
  cases b with
  | true =>
      simp [flag, Piece.text, letters, skipSpaces_cons (c := 116) rfl]
  | false =>
      simp [flag, Piece.text, letters, skipSpaces_cons (c := 102) rfl]

theorem body_repair (f : DataFrame) :
    let repair := (jsonObjectValue (render f.pieces) (octets "repair")).getD []
    let found : Prop := (f.repairRequested || f.priorRepairAttempts > 0) ∧
      shadowed f.payloadTexts "repair" = false
    jsonBoolValue repair (octets "requested") = decide (f.repairRequested ∧ found) ∧
      jsonUintValue repair (octets "prior_attempts") =
        .ok (if found then some f.priorRepairAttempts else none) := by
  dsimp only
  have flat : ∀ o ∈ f.repairPieces, o.Flat := by
    simp [repairPieces, flat_flag, flat_number]
  have earlier : keyless "repair" (f.deliveryMember ++ (f.qoxMember ++ f.timingMember)) := by
    simp [keyless_deliveryMember, keyless_qoxMember, keyless_timingMember]
  have read := body_object (f := f) (.mk "repair") (f.deliveryMember ++ (f.qoxMember ++ f.timingMember))
    (c := f.repairRequested || f.priorRepairAttempts > 0) flat
    (by rw [back, List.append_assoc, List.append_assoc]; rfl) (by simp [hides_back_members])
    (keyless_beforeBack (by simp) (by simp) (by simp)) earlier rfl (by simp) (by simp) (by simp)
  rw [read]
  split
  case isTrue found =>
    have requested : lookup "requested" (.raw [123] brace_unquoted :: (f.repairPieces ++ [.raw [125] endBrace_unquoted])) =
        some (f.repairPieces.drop 1 ++ [.raw [125] endBrace_unquoted]) := by
      simp [repairPieces, lookup]
    have attempts : lookup "prior_attempts" (.raw [123] brace_unquoted :: (f.repairPieces ++ [.raw [125] endBrace_unquoted])) =
        some [number f.priorRepairAttempts.toNat, .raw [125] endBrace_unquoted] := by
      simp [repairPieces, flag, lookup]
    rw [Option.getD_some, jsonBoolValue_key (k := .mk "requested") requested,
      jsonUintValue_key (k := .mk "prior_attempts") (h := false) attempts rfl]
    simp [found]
  case isFalse hidden =>
    rw [decide_eq_false fun both => hidden both.2]
    exact ⟨rfl, rfl⟩

end DataFrame

end FleetRMW.Rmw
