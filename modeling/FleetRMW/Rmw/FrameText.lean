import FleetRMW.Rmw.Payload
import FleetRMW.Rmw.Throws

/-! # The text of a data frame

A frame that was written as JSON is read back as it is when no string in it looks like a key that
is looked for behind it. Where one does, the value behind that key is lost.
-/

namespace FleetRMW.Rmw

open Lib

/-! ## Keys and constants -/

instance nameText_schema_version : NameText "schema_version" := ⟨by decide⟩
instance nameText_fleetrmw_data_frame_v2 : NameText "fleetrmw.data_frame.v2" := ⟨by decide⟩
instance nameText_kind : NameText "kind" := ⟨by decide⟩
instance nameText_sidecar_packet_frame : NameText "sidecar_packet_frame" := ⟨by decide⟩
instance nameText_domain_id : NameText "domain_id" := ⟨by decide⟩
instance nameText_ownership_strength : NameText "ownership_strength" := ⟨by decide⟩
instance nameText_coherent_set_id : NameText "coherent_set_id" := ⟨by decide⟩
instance nameText_coherent_set_total : NameText "coherent_set_total" := ⟨by decide⟩
instance nameText_coherent_set_index : NameText "coherent_set_index" := ⟨by decide⟩
instance nameText_robot_id : NameText "robot_id" := ⟨by decide⟩
instance nameText_topic : NameText "topic" := ⟨by decide⟩
instance nameText_flow_class : NameText "flow_class" := ⟨by decide⟩
instance nameText_publisher_id : NameText "publisher_id" := ⟨by decide⟩
instance nameText_source_sequence_number : NameText "source_sequence_number" := ⟨by decide⟩
instance nameText_source_timestamp_ns : NameText "source_timestamp_ns" := ⟨by decide⟩
instance nameText_encoding : NameText "encoding" := ⟨by decide⟩
instance nameText_base64 : NameText "base64" := ⟨by decide⟩
instance nameText_size : NameText "size" := ⟨by decide⟩
instance nameText_data : NameText "data" := ⟨by decide⟩
instance nameText_deadline_ms : NameText "deadline_ms" := ⟨by decide⟩
instance nameText_qoe_debt : NameText "qoe_debt" := ⟨by decide⟩
instance nameText_task_criticality : NameText "task_criticality" := ⟨by decide⟩
instance nameText_age_ms : NameText "age_ms" := ⟨by decide⟩
instance nameText_requested : NameText "requested" := ⟨by decide⟩
instance nameText_prior_attempts : NameText "prior_attempts" := ⟨by decide⟩
instance nameText_type_name : NameText "type_name" := ⟨by decide⟩
instance nameText_partitions : NameText "partitions" := ⟨by decide⟩
instance nameText_route : NameText "route" := ⟨by decide⟩
instance nameText_sample_envelope : NameText "sample_envelope" := ⟨by decide⟩
instance nameText_delivery : NameText "delivery" := ⟨by decide⟩
instance nameText_qox : NameText "qox" := ⟨by decide⟩
instance nameText_timing : NameText "timing" := ⟨by decide⟩
instance nameText_repair : NameText "repair" := ⟨by decide⟩
instance nameText_serialized_payload : NameText "serialized_payload" := ⟨by decide⟩

/-! ## Texts of numbers -/

theorem signedDecimal_unquoted (n : Int) : 34 ∉ signedDecimal n := by
  intro among
  rcases List.mem_append.mp among with sign | digit
  · split at sign
    · cases sign with
      | tail _ later => cases later
    · cases sign
  · exact quote_not_mem_decimal _ digit

theorem signedDecimal_of_nonneg {n : Int} (nonneg : 0 ≤ n) : signedDecimal n = decimal n.toNat := by
  rw [signedDecimal, if_neg (by omega), List.nil_append]
  congr 1
  omega

theorem signedDecimal_numeric (n : Int) : ∀ c ∈ signedDecimal n, isNumeric c := by
  intro c among
  rcases List.mem_append.mp among with sign | digit
  · split at sign
    · obtain rfl := List.mem_singleton.mp sign
      rfl
    · cases sign
  · simp [isNumeric, decimal_isDecimal _ c digit]

theorem isNumeric_of_isDecimal {d : UInt8} (digit : isDecimal d) : isNumeric d := by
  simp [isNumeric, digit]

theorem mem_of_mem_dropZeros {c : UInt8} {digits : Bytes} (among : c ∈ Float64.dropZeros digits) :
    c ∈ digits := by
  have kept := List.mem_reverse.mp among
  exact List.mem_reverse.mp ((List.dropWhile_sublist _).subset kept)

theorem pointed_numeric {digits : Bytes} (all : ∀ c ∈ digits, isDecimal c) :
    ∀ c ∈ Float64.pointed digits, isNumeric c := by
  intro c among
  unfold Float64.pointed at among
  split at among
  · cases among
  · rcases List.mem_cons.mp among with rfl | digit
    · rfl
    · exact isNumeric_of_isDecimal (all c digit)

theorem exponentText_numeric (x : Int) : ∀ c ∈ Float64.exponentText x, isNumeric c := by
  intro c among
  rcases List.mem_append.mp among with front | digit
  · rcases List.mem_append.mp front with mark | zero
    · split at mark <;> simp at mark <;> rcases mark with rfl | rfl <;> rfl
    · split at zero
      · obtain rfl := List.mem_singleton.mp zero
        rfl
      · cases zero
  · exact isNumeric_of_isDecimal (decimal_isDecimal _ c digit)

theorem magnitudeText_numeric (num den : Nat) : ∀ c ∈ Float64.magnitudeText num den, isNumeric c := by
  intro c among
  have digits : ∀ (n k : Nat), ∀ c ∈ (decimal n).take k, isNumeric c := fun n k c among =>
    isNumeric_of_isDecimal (decimal_isDecimal n c (List.mem_of_mem_take among))
  have behind : ∀ (n k : Nat), ∀ c ∈ Float64.pointed (Float64.dropZeros ((decimal n).drop k)),
      isNumeric c := fun n k => pointed_numeric fun c among =>
    decimal_isDecimal n c (List.mem_of_mem_drop (mem_of_mem_dropZeros among))
  unfold Float64.magnitudeText at among
  dsimp only at among
  split_ifs at among with scientific large
  · rcases List.mem_append.mp among with front | exponent
    · rcases List.mem_append.mp front with first | rest
      · exact digits _ _ c first
      · exact behind _ _ c rest
    · exact exponentText_numeric _ c exponent
  · rcases List.mem_append.mp among with first | rest
    · exact digits _ _ c first
    · exact behind _ _ c rest
  · rcases List.mem_append.mp among with zero | rest
    · obtain rfl := List.mem_singleton.mp zero
      rfl
    · refine pointed_numeric (fun d among => ?_) c rest
      rcases List.mem_append.mp (mem_of_mem_dropZeros among) with zero | digit
      · obtain rfl := List.eq_of_mem_replicate zero
        rfl
      · exact decimal_isDecimal _ d digit

theorem printG6_numeric {bits : UInt64} (finite : Float64.exponentField bits ≠ 2047) :
    ∀ c ∈ Float64.printG6 bits, isNumeric c := by
  intro c among
  unfold Float64.printG6 at among
  rw [if_neg finite] at among
  rcases List.mem_append.mp among with sign | magnitude
  · split at sign
    · obtain rfl := List.mem_singleton.mp sign
      rfl
    · cases sign
  · split at magnitude
    · obtain rfl := List.mem_singleton.mp magnitude
      rfl
    · exact magnitudeText_numeric _ _ c magnitude

/-- No text of a number opens a string or an object. -/
theorem plain_of_isNumeric {c : UInt8} (numeric : isNumeric c) :
    c ≠ 92 ∧ c ≠ 34 ∧ c ≠ 123 ∧ c ≠ 125 := by
  refine ⟨?_, ?_, ?_, ?_⟩ <;> rintro rfl <;> exact absurd numeric (by decide)

theorem printG6_plain (bits : UInt64) :
    ∀ c ∈ Float64.printG6 bits, c ≠ 92 ∧ c ≠ 34 ∧ c ≠ 123 ∧ c ≠ 125 := by
  intro c among
  by_cases finite : Float64.exponentField bits = 2047
  · unfold Float64.printG6 at among
    rw [if_pos finite] at among
    revert c
    split <;> split <;> decide +kernel
  · exact plain_of_isNumeric (printG6_numeric finite c among)

theorem printG6_unquoted (bits : UInt64) : 34 ∉ Float64.printG6 bits := fun among =>
  (printG6_plain bits 34 among).2.1 rfl

/-- What is printed with six digits is read back as the same float. -/
def Double.PrintsExactly (d : Double) : Prop :=
  Float64.stod (Float64.printG6 d.bits) = some d.bits

instance (d : Double) : Decidable d.PrintsExactly := inferInstanceAs (Decidable (_ = _))

theorem Double.PrintsExactly.numeric {d : Double} (exact_ : d.PrintsExactly) :
    ∀ c ∈ Float64.printG6 d.bits, isNumeric c := by
  apply printG6_numeric
  intro infinite
  unfold Double.PrintsExactly Float64.printG6 at exact_
  rw [if_pos infinite] at exact_
  revert exact_
  have texts : Float64.stod ([] ++ octets "inf") = none ∧ Float64.stod ([] ++ octets "nan") = none ∧
      Float64.stod ([45] ++ octets "inf") = none ∧ Float64.stod ([45] ++ octets "nan") = none := by
    decide
  split <;> split <;> simp only [texts, reduceCtorEq, false_implies]

theorem Double.PrintsExactly.ne_nil {d : Double} (exact_ : d.PrintsExactly) :
    Float64.printG6 d.bits ≠ [] := by
  intro empty
  unfold Double.PrintsExactly at exact_
  rw [empty, show Float64.stod [] = none from by decide] at exact_
  cases exact_

/-! ## The pieces of a frame -/

def signedNumber (n : Int) : Piece := .raw (signedDecimal n) (signedDecimal_unquoted n)

def floatNumber (d : Double) : Piece := .raw (Float64.printG6 d.bits) (printG6_unquoted d.bits)

def flag (b : Bool) : Piece :=
  .raw (if b then octets "true" else octets "false") (by cases b <;> decide)

theorem flat_flag (b : Bool) : (flag b).Flat := by
  cases b with
  | true =>
      have plain : ∀ c ∈ octets "true", c ≠ 92 ∧ c ≠ 34 ∧ c ≠ 123 ∧ c ≠ 125 := by decide +kernel
      exact plain
  | false =>
      have plain : ∀ c ∈ octets "false", c ≠ 92 ∧ c ≠ 34 ∧ c ≠ 123 ∧ c ≠ 125 := by decide +kernel
      exact plain

theorem flat_number (n : Nat) : (number n).Flat := fun c among =>
  plain_of_isNumeric (isNumeric_of_isDecimal (decimal_isDecimal n c among))

theorem flat_signedNumber (n : Int) : (signedNumber n).Flat := fun c among =>
  plain_of_isNumeric (signedDecimal_numeric n c among)

theorem flat_floatNumber (d : Double) : (floatNumber d).Flat := printG6_plain d.bits

theorem signedNumber_of_nonneg {n : Int} (nonneg : 0 ≤ n) : signedNumber n = number n.toNat := by
  simp only [signedNumber, number, signedDecimal_of_nonneg nonneg]

namespace DataFrame

variable (f : DataFrame)

def headPieces : List Piece :=
  [.raw [123] brace_unquoted, .key (.mk "schema_version"), .constant (.mk "fleetrmw.data_frame.v2") .comma,
    .key (.mk "kind"), .constant (.mk "sidecar_packet_frame") .comma, .key (.mk "domain_id"),
    number f.domainId.toNat, .raw [44] comma_unquoted]

def ownershipPieces : List Piece :=
  if f.ownershipStrength = 0 then []
  else [.key (.mk "ownership_strength"), signedNumber f.ownershipStrength.toInt, .raw [44] comma_unquoted]

def coherentPieces : List Piece :=
  if f.coherentSetId = [] then []
  else [.key (.mk "coherent_set_id"), .value f.coherentSetId .comma, .key (.mk "coherent_set_total"),
    number f.coherentSetTotal.toNat, .raw [44] comma_unquoted, .key (.mk "coherent_set_index"),
    number f.coherentSetIndex.toNat, .raw [44] comma_unquoted]

def routePieces : List Piece :=
  [.key (.mk "robot_id"), .value f.robotId .comma, .key (.mk "topic")] ++
    if f.flowClass = [] then [] else [.value f.topic .comma, .key (.mk "flow_class")]

/-- The last string of the route. -/
def routeEnd : Piece := .value (if f.flowClass = [] then f.topic else f.flowClass) .brace

def envelopePieces : List Piece :=
  [.key (.mk "robot_id"), .value f.robotId .comma, .key (.mk "topic"), .value f.topic .comma,
    .key (.mk "publisher_id"), .value f.publisherId .comma, .key (.mk "source_sequence_number"),
    number f.sourceSequenceNumber.toNat, .raw [44] comma_unquoted, .key (.mk "source_timestamp_ns"),
    signedNumber f.sourceTimestampNs.toInt]

def payloadPieces : List Piece :=
  [.key (.mk "encoding"), .constant (.mk "base64") .comma, .key (.mk "size"),
    number f.serializedPayload.length, .raw [44] comma_unquoted, .key (.mk "data")]

def payloadEnd : Piece := .value (base64Encode f.serializedPayload) .brace

def deliveryPieces : List Piece := [.key (.mk "deadline_ms"), floatNumber f.deadlineMs]

def qoxPieces : List Piece :=
  [.key (.mk "qoe_debt"), floatNumber f.qoeDebt, .raw [44] comma_unquoted, .key (.mk "task_criticality"),
    floatNumber f.taskCriticality]

def timingPieces : List Piece := [.key (.mk "age_ms"), floatNumber f.ageMs]

def repairPieces : List Piece :=
  [.key (.mk "requested"), flag f.repairRequested, .raw [44] comma_unquoted, .key (.mk "prior_attempts"),
    number f.priorRepairAttempts.toNat]

/-- What is written in front of the route. -/
def front : List Piece :=
  f.headPieces ++ (optionalText (.mk "type_name") f.typeName ++
    (optionalText (.mk "partitions") f.partitionsCsv ++ (f.ownershipPieces ++ f.coherentPieces)))

/-- The route and the envelope. -/
def middle : List Piece :=
  .key (.mk "route") :: .raw [123] brace_unquoted :: (f.routePieces ++ f.routeEnd :: .raw [44] comma_unquoted ::
    .key (.mk "sample_envelope") :: .raw [123] brace_unquoted :: (f.envelopePieces ++ [.raw [125] endBrace_unquoted]))

def deliveryMember : List Piece :=
  if Float64.isPositive f.deadlineMs.bits then
    member (.mk "delivery") f.deliveryPieces (.raw [125] endBrace_unquoted) else []

def qoxMember : List Piece :=
  if Float64.isPositive f.qoeDebt.bits || Float64.isPositive f.taskCriticality.bits then
    member (.mk "qox") f.qoxPieces (.raw [125] endBrace_unquoted) else []

def timingMember : List Piece :=
  if Float64.isPositive f.ageMs.bits then
    member (.mk "timing") f.timingPieces (.raw [125] endBrace_unquoted) else []

def repairMember : List Piece :=
  if f.repairRequested || f.priorRepairAttempts > 0 then
    member (.mk "repair") f.repairPieces (.raw [125] endBrace_unquoted) else []

/-- What is written behind the payload. -/
def back : List Piece :=
  f.deliveryMember ++ (f.qoxMember ++ (f.timingMember ++ (f.repairMember ++ [.raw [125] endBrace_unquoted])))

def pieces : List Piece :=
  f.front ++ (f.middle ++
    ((if f.serializedPayload ≠ [] then
      member (.mk "serialized_payload") f.payloadPieces f.payloadEnd else []) ++ f.back))

end DataFrame

/-! ## The text of the payload -/

def payloadValues (payload : Bytes) : List Piece :=
  [.key (.mk "encoding"), .constant (.mk "base64") .comma, .key (.mk "size"),
    number payload.length, .raw [44] comma_unquoted, .key (.mk "data")]

/-- What is written of a payload. -/
def payloadOf (payload : Bytes) : List Piece :=
  member (.mk "serialized_payload") (payloadValues payload) (.value (base64Encode payload) .brace)

theorem render_payloadOf (payload : Bytes) :
    render (payloadOf payload) =
      octets ",\"serialized_payload\":\x7b" ++ octets "\"encoding\":\"base64\"," ++
      octets "\"size\":" ++ decimal payload.length ++ octets "," ++
      octets "\"data\":\"" ++ base64Encode payload ++ octets "\"\x7d" := by
  have keys : octets ",\"serialized_payload\":\x7b" =
        44 :: ((Piece.key (.mk "serialized_payload")).text ++ [123]) ∧
      octets "\"encoding\":\"base64\"," =
        (Piece.key (.mk "encoding")).text ++ (Piece.constant (.mk "base64") .comma).text ∧
      octets "\"size\":" = (Piece.key (.mk "size")).text ∧
      octets "\"data\":\"" = (Piece.key (.mk "data")).text ++ [34] ∧
      octets "," = [44] ∧ octets "\"\x7d" = [34, 125] := by decide
  obtain ⟨payload, encoding, size, data, comma, close⟩ := keys
  rw [payload, encoding, size, data, comma, close]
  simp only [payloadOf, payloadValues, member, render_cons, render_nil, List.append_assoc, List.append_nil,
    List.cons_append, List.nil_append]
  simp only [Piece.text, quotedText, Ending.octet, number, jsonEscape_base64Encode,
    List.cons_append, List.append_assoc, List.nil_append]

/-! ## The text of the pieces -/

section
variable (f : DataFrame)

theorem render_optionalText {k : Name} (v opening : Bytes)
    (closed : (Piece.key k).text ++ [34] = opening) :
    render (optionalText k v) =
      if v ≠ [] then opening ++ jsonEscape v ++ octets "\"," else [] := by
  have ending : octets "\"," = [34, 44] := by decide
  rw [ending, ← closed]
  unfold optionalText
  by_cases empty : v = []
  · simp [empty]
  · simp [empty, Piece.text, quotedText, Ending.octet]

theorem render_headPieces :
    render f.headPieces =
      octets "\x7b\"schema_version\":\"" ++ (dataFrameSchemaVersion ++ (octets "\"," ++
      (octets "\"kind\":\"sidecar_packet_frame\"," ++ (octets "\"domain_id\":" ++
      (decimal f.domainId.toNat ++ octets ","))))) := by
  have opening : render [.raw [123] brace_unquoted, .key (.mk "schema_version"),
      .constant (.mk "fleetrmw.data_frame.v2") .comma, .key (.mk "kind"),
      .constant (.mk "sidecar_packet_frame") .comma, .key (.mk "domain_id")] =
      octets "\x7b\"schema_version\":\"" ++ (dataFrameSchemaVersion ++ (octets "\"," ++
      (octets "\"kind\":\"sidecar_packet_frame\"," ++ octets "\"domain_id\":"))) := by
    decide
  have comma : octets "," = [44] := by decide
  have split : f.headPieces = [.raw [123] brace_unquoted, .key (.mk "schema_version"),
      .constant (.mk "fleetrmw.data_frame.v2") .comma, .key (.mk "kind"),
      .constant (.mk "sidecar_packet_frame") .comma, .key (.mk "domain_id")] ++
      [number f.domainId.toNat, .raw [44] comma_unquoted] := rfl
  rw [split, render_append, opening, comma]
  simp only [List.append_assoc, render_cons, render_nil, number, Piece.text, List.append_nil]

theorem render_ownershipPieces :
    render f.ownershipPieces =
      if f.ownershipStrength ≠ 0 then
        octets "\"ownership_strength\":" ++ signedDecimal f.ownershipStrength.toInt ++ octets ","
      else [] := by
  have opening : (Piece.key (.mk "ownership_strength")).text = octets "\"ownership_strength\":" := by
    decide
  have comma : octets "," = [44] := by decide
  unfold DataFrame.ownershipPieces
  by_cases zero : f.ownershipStrength = 0
  · simp [zero]
  · rw [if_neg zero, if_pos zero, render_cons, opening, comma]
    simp only [List.append_assoc, render_cons, render_nil, signedNumber, Piece.text, List.append_nil]

theorem render_coherentPieces :
    render f.coherentPieces =
      if f.coherentSetId ≠ [] then
        octets "\"coherent_set_id\":\"" ++ jsonEscape f.coherentSetId ++ octets "\"," ++
        octets "\"coherent_set_total\":" ++ decimal f.coherentSetTotal.toNat ++ octets "," ++
        octets "\"coherent_set_index\":" ++ decimal f.coherentSetIndex.toNat ++ octets ","
      else [] := by
  have texts : octets "\"coherent_set_id\":\"" = (Piece.key (.mk "coherent_set_id")).text ++ [34] ∧
      octets "\"," = [34, 44] ∧
      octets "\"coherent_set_total\":" = (Piece.key (.mk "coherent_set_total")).text ∧
      octets "\"coherent_set_index\":" = (Piece.key (.mk "coherent_set_index")).text ∧
      octets "," = [44] := by decide
  obtain ⟨id, ending, total, index, comma⟩ := texts
  unfold DataFrame.coherentPieces
  by_cases empty : f.coherentSetId = []
  · simp [empty]
  · rw [if_neg empty, if_pos empty, id, ending, total, index, comma]
    simp only [render_cons, render_nil, List.append_assoc, List.append_nil, List.cons_append,
      List.nil_append, number]
    simp only [Piece.text, quotedText, Ending.octet, List.cons_append, List.append_assoc,
      List.nil_append]

theorem render_middle :
    render f.middle =
      octets "\"route\":\x7b\"robot_id\":\"" ++ jsonEscape f.robotId ++ octets "\"," ++
      octets "\"topic\":\"" ++ jsonEscape f.topic ++ octets "\"" ++
      (if f.flowClass ≠ [] then
        octets ",\"flow_class\":\"" ++ jsonEscape f.flowClass ++ octets "\"" else []) ++
      octets "\x7d," ++
      octets "\"sample_envelope\":\x7b" ++
      octets "\"robot_id\":\"" ++ jsonEscape f.robotId ++ octets "\"," ++
      octets "\"topic\":\"" ++ jsonEscape f.topic ++ octets "\"," ++
      octets "\"publisher_id\":\"" ++ jsonEscape f.publisherId ++ octets "\"," ++
      octets "\"source_sequence_number\":" ++ decimal f.sourceSequenceNumber.toNat ++
      octets "," ++
      octets "\"source_timestamp_ns\":" ++ signedDecimal f.sourceTimestampNs.toInt ++
      octets "\x7d" := by
  have keys : octets "\"route\":\x7b\"robot_id\":\"" = (Piece.key (.mk "route")).text ++
        (123 :: ((Piece.key (.mk "robot_id")).text ++ [34])) ∧
      octets "\"topic\":\"" = (Piece.key (.mk "topic")).text ++ [34] ∧
      octets ",\"flow_class\":\"" = 44 :: ((Piece.key (.mk "flow_class")).text ++ [34]) ∧
      octets "\"sample_envelope\":\x7b" = (Piece.key (.mk "sample_envelope")).text ++ [123] ∧
      octets "\"robot_id\":\"" = (Piece.key (.mk "robot_id")).text ++ [34] ∧
      octets "\"publisher_id\":\"" = (Piece.key (.mk "publisher_id")).text ++ [34] ∧
      octets "\"source_sequence_number\":" = (Piece.key (.mk "source_sequence_number")).text ∧
      octets "\"source_timestamp_ns\":" = (Piece.key (.mk "source_timestamp_ns")).text := by
    decide
  have marks : octets "\"," = [34, 44] ∧ octets "\"" = [34] ∧ octets "\x7d," = [125, 44] ∧
      octets "," = [44] ∧ octets "\x7d" = [125] := by decide
  obtain ⟨route, topic, flow, envelope, robot, publisher, sequence, timestamp⟩ := keys
  obtain ⟨ending, quote, close, comma, brace⟩ := marks
  rw [route, topic, flow, envelope, robot, publisher, sequence, timestamp, ending, quote, close,
    comma, brace]
  unfold DataFrame.middle DataFrame.routePieces DataFrame.routeEnd DataFrame.envelopePieces
  by_cases empty : f.flowClass = []
  · simp only [empty, ne_eq, not_true_eq_false, if_true, if_false, render_cons, render_nil,
      List.append_assoc, List.append_nil, List.cons_append, List.nil_append]
    simp only [Piece.text, quotedText, Ending.octet, number, signedNumber, List.cons_append,
      List.append_assoc, List.nil_append]
  · simp only [empty, ne_eq, not_false_eq_true, if_true, if_false, render_cons, render_nil,
      List.append_assoc, List.append_nil, List.cons_append, List.nil_append]
    simp only [Piece.text, quotedText, Ending.octet, number, signedNumber, List.cons_append,
      List.append_assoc, List.nil_append]

theorem render_payload :
    render (member (.mk "serialized_payload") f.payloadPieces f.payloadEnd) =
      octets ",\"serialized_payload\":\x7b" ++ octets "\"encoding\":\"base64\"," ++
      octets "\"size\":" ++ decimal f.serializedPayload.length ++ octets "," ++
      octets "\"data\":\"" ++ base64Encode f.serializedPayload ++ octets "\"\x7d" :=
  render_payloadOf f.serializedPayload

theorem render_delivery :
    render (member (.mk "delivery") f.deliveryPieces (.raw [125] endBrace_unquoted)) =
      octets ",\"delivery\":\x7b\"deadline_ms\":" ++ Float64.printG6 f.deadlineMs.bits ++
      octets "\x7d" := by
  have keys : octets ",\"delivery\":\x7b\"deadline_ms\":" =
        44 :: ((Piece.key (.mk "delivery")).text ++
          123 :: (Piece.key (.mk "deadline_ms")).text) ∧
      octets "\x7d" = [125] := by decide
  rw [keys.1, keys.2]
  simp only [member, DataFrame.deliveryPieces, render_cons, render_nil, List.append_assoc,
    List.append_nil, List.cons_append, List.nil_append]
  simp only [Piece.text, floatNumber, List.cons_append, List.nil_append]

theorem render_qox :
    render (member (.mk "qox") f.qoxPieces (.raw [125] endBrace_unquoted)) =
      octets ",\"qox\":\x7b\"qoe_debt\":" ++ Float64.printG6 f.qoeDebt.bits ++ octets "," ++
      octets "\"task_criticality\":" ++ Float64.printG6 f.taskCriticality.bits ++
      octets "\x7d" := by
  have keys : octets ",\"qox\":\x7b\"qoe_debt\":" =
        44 :: ((Piece.key (.mk "qox")).text ++ 123 :: (Piece.key (.mk "qoe_debt")).text) ∧
      octets "\"task_criticality\":" = (Piece.key (.mk "task_criticality")).text ∧
      octets "," = [44] ∧ octets "\x7d" = [125] := by decide
  obtain ⟨qox, criticality, comma, close⟩ := keys
  rw [qox, criticality, comma, close]
  simp only [member, DataFrame.qoxPieces, render_cons, render_nil, List.append_assoc,
    List.append_nil, List.cons_append, List.nil_append]
  simp only [Piece.text, floatNumber, List.cons_append, List.nil_append]

theorem render_timing :
    render (member (.mk "timing") f.timingPieces (.raw [125] endBrace_unquoted)) =
      octets ",\"timing\":\x7b\"age_ms\":" ++ Float64.printG6 f.ageMs.bits ++ octets "\x7d" := by
  have keys : octets ",\"timing\":\x7b\"age_ms\":" =
        44 :: ((Piece.key (.mk "timing")).text ++ 123 :: (Piece.key (.mk "age_ms")).text) ∧
      octets "\x7d" = [125] := by decide
  rw [keys.1, keys.2]
  simp only [member, DataFrame.timingPieces, render_cons, render_nil, List.append_assoc,
    List.append_nil, List.cons_append, List.nil_append]
  simp only [Piece.text, floatNumber, List.cons_append, List.nil_append]

theorem render_repair :
    render (member (.mk "repair") f.repairPieces (.raw [125] endBrace_unquoted)) =
      octets ",\"repair\":\x7b\"requested\":" ++
      (if f.repairRequested then octets "true" else octets "false") ++ octets "," ++
      octets "\"prior_attempts\":" ++ decimal f.priorRepairAttempts.toNat ++ octets "\x7d" := by
  have keys : octets ",\"repair\":\x7b\"requested\":" =
        44 :: ((Piece.key (.mk "repair")).text ++ 123 :: (Piece.key (.mk "requested")).text) ∧
      octets "\"prior_attempts\":" = (Piece.key (.mk "prior_attempts")).text ∧
      octets "," = [44] ∧ octets "\x7d" = [125] := by decide
  obtain ⟨repair, attempts, comma, close⟩ := keys
  rw [repair, attempts, comma, close]
  simp only [member, DataFrame.repairPieces, render_cons, render_nil, List.append_assoc,
    List.append_nil, List.cons_append, List.nil_append]
  simp only [flag, Piece.text, number, List.cons_append, List.nil_append]

theorem render_ite {c : Prop} [Decidable c] (ps : List Piece) :
    render (if c then ps else []) = if c then render ps else [] := by
  split <;> rfl

end

/-- The text of a frame is that of its pieces. -/
theorem encodeDataFrame_eq (f : DataFrame) :
    encodeDataFrame f = dataFrameMagic ++ render f.pieces := by
  have type := render_optionalText (k := .mk "type_name") f.typeName
    (octets "\"type_name\":\"") (by decide)
  have partitions := render_optionalText (k := .mk "partitions") f.partitionsCsv
    (octets "\"partitions\":\"") (by decide)
  have brace : octets "\x7d" = (Piece.raw [125] endBrace_unquoted).text := by decide
  unfold encodeDataFrame DataFrame.pieces DataFrame.front DataFrame.back DataFrame.deliveryMember
    DataFrame.qoxMember DataFrame.timingMember DataFrame.repairMember
  simp only [render_append, render_ite, render_headPieces, type, partitions,
    render_ownershipPieces, render_coherentPieces, render_middle, render_payload, render_delivery,
    render_qox, render_timing, render_repair]
  rw [brace]
  simp only [List.append_assoc, render_cons, render_nil, List.append_nil]

end FleetRMW.Rmw
