import FleetRMW.Rmw.AckText
import FleetRMW.Rmw.FrameRoundTrip
import FleetRMW.Rmw.Throws

/-! # The round trip of an acknowledgement

Decoding an encoded acknowledgement gives back what it says exactly when no identity hides a value
behind it and none holds the text in front of the missing ranges.
-/

namespace FleetRMW.Rmw

open Lib

section
variable {frame : DataFrame} {feedback : AckNackFeedback} {subscriberId : Bytes} {k : Name}

/-! ## Keys and strings of the pieces -/

theorem hides_ackHead (schema : k.text ≠ "fleetrmw.ack_nack.v1")
    (kind : k.text ≠ "source_sequence_ack_nack") : hides k.text (ackHead frame) = false := by
  simp [ackHead, number, schema.symm, kind.symm]

theorem keyless_ackHead {key : String} (absent : key ∉ ["schema_version", "kind", "domain_id"]) :
    keyless key (ackHead frame) := by
  simp only [List.mem_cons, List.not_mem_nil, or_false, not_or] at absent
  simp [ackHead, number, Ne.symm absent.1, Ne.symm absent.2.1, Ne.symm absent.2.2]

theorem hides_ackNames (stream : k.text ≠ "source_stream") :
    hides k.text (ackNames frame subscriberId) =
      shadowed [frame.robotId, frame.topic, subscriberId, frame.publisherId] k.text := by
  simp only [ackNames, hides_append, hides_key, hides_value, hides_nil, hides_optionalText,
    hides_raw, hides_constant, shadowed_cons, shadowed_nil, decide_eq_false stream.symm,
    Bool.or_false, Bool.false_or]
  cases shadows frame.robotId (octets k.text) <;> cases shadows frame.topic (octets k.text) <;> simp

theorem keyless_ackNames {key : String}
    (absent : key ∉ ["robot_id", "source_topic", "subscriber_id", "stream_key"]) :
    keyless key (ackNames frame subscriberId) := by
  simp only [List.mem_cons, List.not_mem_nil, or_false, not_or] at absent
  simp [ackNames, keyless_optionalText, Ne.symm absent.1, Ne.symm absent.2.1,
    Ne.symm absent.2.2.1, Ne.symm absent.2.2.2]

theorem keyless_ackPieces {key : String}
    (absent : key ∉ ["source_sequence_number", "source_timestamp_ns"]) :
    keyless key (ackPieces frame) := by
  simp only [List.mem_cons, List.not_mem_nil, or_false, not_or] at absent
  simp [ackPieces, number, signedNumber, Ne.symm absent.1, Ne.symm absent.2]

theorem keyless_nackPieces {key : String} (absent : key ∉ ["nack", "missing_sequence_ranges"]) :
    keyless key (nackPieces feedback) := by
  simp only [List.mem_cons, List.not_mem_nil, or_false, not_or] at absent
  simp [nackPieces, rangesPiece, Ne.symm absent.1, Ne.symm absent.2]

theorem keyless_statePieces {key : String}
    (absent : key ∉ ["lowest_observed_sequence", "highest_contiguous_sequence",
      "highest_observed_sequence", "duplicate", "out_of_order"]) :
    keyless key (statePieces feedback) := by
  simp only [List.mem_cons, List.not_mem_nil, or_false, not_or] at absent
  obtain ⟨lowest, contiguous, highest, duplicate, order⟩ := absent
  simp [statePieces, number, flag, Ne.symm lowest, Ne.symm contiguous, Ne.symm highest,
    Ne.symm duplicate, Ne.symm order]

theorem keyless_ackTail {key : String}
    (absent : key ∉ ["ack", "source_sequence_number", "source_timestamp_ns", "nack",
      "missing_sequence_ranges", "state", "lowest_observed_sequence", "highest_contiguous_sequence",
      "highest_observed_sequence", "duplicate", "out_of_order"]) :
    keyless key (ackTail frame feedback) := by
  simp only [List.mem_cons, List.not_mem_nil, or_false, not_or] at absent
  simp [ackTail, keyless_ackPieces, keyless_nackPieces, keyless_statePieces, absent,
    Ne.symm absent.1, Ne.symm absent.2.2.2.2.2.1]

/-! ## What is read -/

/-- A key among the identities. -/
theorem lookup_in_ackNames (frame : DataFrame) (feedback : AckNackFeedback) (subscriberId : Bytes)
    (k : Name) (before behind : List Piece) (absent : keyless k.text before)
    (head_absent : keyless k.text (ackHead frame)) (schema : k.text ≠ "fleetrmw.ack_nack.v1")
    (kind : k.text ≠ "source_sequence_ack_nack")
    (shape : ackNames frame subscriberId = before ++ .key k :: behind) :
    lookup k.text (ackNackPieces frame feedback subscriberId) =
      if hides k.text before then none else some (behind ++ ackTail frame feedback) := by
  have whole : ackNackPieces frame feedback subscriberId =
      (ackHead frame ++ before) ++ .key k :: (behind ++ ackTail frame feedback) := by
    rw [ackNackPieces, shape]
    simp
  rw [whole, lookup_key _ _ _ (by simp [head_absent, absent]), hides_append,
    hides_ackHead schema kind, Bool.false_or]

theorem ack_robotId :
    jsonStringValue (render (ackNackPieces frame feedback subscriberId)) (octets "robot_id") =
      some frame.robotId := by
  have here := lookup_in_ackNames frame feedback subscriberId (.mk "robot_id") [] _ rfl (keyless_ackHead (by simp)) (by simp)
    (by simp) rfl
  exact jsonStringValue_key (k := .mk "robot_id") here

theorem ack_topic :
    jsonStringValue (render (ackNackPieces frame feedback subscriberId)) (octets "source_topic") =
      if shadows frame.robotId (octets "source_topic") then none else some frame.topic := by
  have here := lookup_in_ackNames frame feedback subscriberId (.mk "source_topic")
    [.key (.mk "robot_id"), .value frame.robotId .comma] _ (by simp) (keyless_ackHead (by simp))
    (by simp) (by simp) rfl
  exact jsonStringValue_key (k := .mk "source_topic") (by simpa using here)

theorem ack_subscriberId :
    stringOrEmpty (render (ackNackPieces frame feedback subscriberId)) "subscriber_id" =
      if shadowed [frame.robotId, frame.topic] "subscriber_id" then [] else subscriberId := by
  unfold stringOrEmpty
  by_cases empty : subscriberId = []
  · have nowhere : lookup "subscriber_id" (ackNackPieces frame feedback subscriberId) = none := by
      apply lookup_eq_none
      simp [ackNackPieces, keyless_ackHead, keyless_ackTail, ackNames, optionalText, empty]
    rw [jsonStringValue_eq_none (k := .mk "subscriber_id") nowhere, empty]
    simp
  · have shape : ackNames frame subscriberId = [.key (.mk "robot_id"),
        .value frame.robotId .comma, .key (.mk "source_topic"), .value frame.topic .comma] ++
        .key (.mk "subscriber_id") :: (.value subscriberId .comma ::
          (ackNames frame subscriberId).drop 6) := by
      simp [ackNames, optionalText, empty]
    have here := lookup_in_ackNames frame feedback subscriberId (.mk "subscriber_id") _ _ (by simp)
      (keyless_ackHead (by simp)) (by simp) (by simp) shape
    have hidden : hides "subscriber_id" [.key (.mk "robot_id"), .value frame.robotId .comma,
        .key (.mk "source_topic"), .value frame.topic .comma] =
        shadowed [frame.robotId, frame.topic] "subscriber_id" := rfl
    rw [List.cons_append, hidden] at here
    exact (congrArg (Option.getD · [])
      (jsonStringValue_key (k := .mk "subscriber_id") here)).trans (by split <;> rfl)

theorem ack_domainId :
    jsonUintValue (render (ackNackPieces frame feedback subscriberId)) (octets "domain_id") =
      .ok (some frame.domainId) := by
  have here : lookup "domain_id" (ackNackPieces frame feedback subscriberId) =
      some (number frame.domainId.toNat :: .raw [44] comma_unquoted ::
        (ackNames frame subscriberId ++ ackTail frame feedback)) :=
    lookup_key (.mk "domain_id") [.raw [123] brace_unquoted, .key (.mk "schema_version"),
      .constant (.mk "fleetrmw.ack_nack.v1") .comma, .key (.mk "kind"),
      .constant (.mk "source_sequence_ack_nack") .comma] _ (by simp)
  exact jsonUintValue_key (k := .mk "domain_id") (h := false) here rfl

/-! ## The key of the stream -/

theorem scanStringArray_escape (values : List Bytes) (current v rest : Bytes) :
    scanStringArray values (some current) false (jsonEscape v ++ 34 :: rest) =
      scanStringArray (values ++ [current ++ v]) none false rest := by
  induction v generalizing current with
  | nil => simp [jsonEscape, scanStringArray]
  | cons c v ih =>
      rw [jsonEscape_cons]
      split_ifs with special newline
      · have kept : unescape c = c := by
          rcases special with rfl | rfl <;> rfl
        simp [scanStringArray, kept, ih]
      · subst newline
        simp [scanStringArray, unescape, ih]
      · obtain ⟨notSlash, notQuote⟩ := not_or.mp special
        simp [scanStringArray, notSlash, notQuote, ih]

theorem scanStringArray_quotedText (values : List Bytes) (v rest : Bytes) (c : UInt8) :
    scanStringArray values none false (quotedText v c ++ rest) =
      scanStringArray (values ++ [v]) none false (c :: rest) := by
  have opening : ∀ s, scanStringArray values none false (34 :: s) =
      scanStringArray values (some []) false s := fun s => by simp [scanStringArray]
  simp only [quotedText, List.cons_append, List.append_assoc, List.nil_append]
  rw [opening, scanStringArray_escape, List.nil_append]

theorem ack_streamKey :
    jsonStringArrayValue (render (ackNackPieces frame feedback subscriberId))
        (octets "stream_key") =
      if shadowed [frame.robotId, frame.topic, subscriberId] "stream_key" then []
      else [octets "source_stream", frame.robotId, frame.topic, frame.publisherId] := by
  have absent : keyless "stream_key" ([.key (.mk "robot_id"), .value frame.robotId .comma,
      .key (.mk "source_topic"), .value frame.topic .comma] ++
      optionalText (.mk "subscriber_id") subscriberId) := by
    simp [keyless_optionalText]
  have shape : ackNames frame subscriberId = ([.key (.mk "robot_id"), .value frame.robotId .comma,
      .key (.mk "source_topic"), .value frame.topic .comma] ++
      optionalText (.mk "subscriber_id") subscriberId) ++ .key (.mk "stream_key") ::
        [.raw [91] bracket_unquoted, .constant (.mk "source_stream") .comma, .value frame.robotId .comma,
          .value frame.topic .comma, .value frame.publisherId .bracket, .raw [44] comma_unquoted] := by
    simp [ackNames]
  have here := lookup_in_ackNames frame feedback subscriberId (.mk "stream_key") _ _ absent
    (keyless_ackHead (by simp)) (by simp) (by simp) shape
  have hidden : hides "stream_key" ([.key (.mk "robot_id"), .value frame.robotId .comma,
      .key (.mk "source_topic"), .value frame.topic .comma] ++
      optionalText (.mk "subscriber_id") subscriberId) =
      shadowed [frame.robotId, frame.topic, subscriberId] "stream_key" := by
    rw [hides_append, hides_optionalText (n := .mk "stream_key")]
    simp [Bool.or_assoc]
  rw [hidden] at here
  have start := jsonValueStart_render (Name.plain (.mk "stream_key"))
    (ackNackPieces frame feedback subscriberId)
  rw [here] at start
  unfold jsonStringArrayValue
  rw [start]
  cases shadowed [frame.robotId, frame.topic, subscriberId] "stream_key" with
  | true => rfl
  | false =>
      have comma : ∀ values rest, scanStringArray values none false (44 :: rest) =
          scanStringArray values none false rest := fun values rest => by simp [scanStringArray]
      have bracket : ∀ values rest, scanStringArray values none false (93 :: rest) = values :=
        fun values rest => by simp [scanStringArray]
      simp only [Bool.false_eq_true, if_false, Option.map_some, List.cons_append, List.nil_append,
        render_cons, Piece.text, skipSpaces_cons (c := 91) rfl, scanStringArray_quotedText,
        Ending.octet, comma, bracket]

/-! ## The objects -/

theorem hides_beforeAck (frame : DataFrame) (subscriberId : Bytes)
    (schema : k.text ≠ "fleetrmw.ack_nack.v1")
    (kind : k.text ≠ "source_sequence_ack_nack") (stream : k.text ≠ "source_stream") :
    hides k.text (ackHead frame ++ ackNames frame subscriberId) =
      shadowed [frame.robotId, frame.topic, subscriberId, frame.publisherId] k.text := by
  rw [hides_append, hides_ackHead schema kind, hides_ackNames stream, Bool.false_or]

theorem lookup_ack :
    lookup "ack" (ackNackPieces frame feedback subscriberId) =
      if shadowed [frame.robotId, frame.topic, subscriberId, frame.publisherId] "ack" then none
      else some (.raw [123] brace_unquoted :: (ackPieces frame ++ .raw [125] endBrace_unquoted :: (nackPieces feedback ++
        .key (.mk "state") :: .raw [123] brace_unquoted :: (statePieces feedback ++ [.raw [125] endBrace_unquoted, .raw [125] endBrace_unquoted])))) := by
  have absent : keyless "ack" (ackHead frame ++ ackNames frame subscriberId) := by
    simp [keyless_ackHead, keyless_ackNames]
  have hidden := hides_beforeAck frame subscriberId (k := .mk "ack")
    (by simp) (by simp) (by simp)
  rw [ackNackPieces, ackTail, ← List.append_assoc, ← hidden]
  exact lookup_key (.mk "ack") _ _ absent

theorem ack_object :
    jsonObjectValue (render (ackNackPieces frame feedback subscriberId)) (octets "ack") =
      if shadowed [frame.robotId, frame.topic, subscriberId, frame.publisherId] "ack" then none
      else some (render (.raw [123] brace_unquoted :: (ackPieces frame ++ [.raw [125] endBrace_unquoted]))) := by
  have flat : ∀ o ∈ ackPieces frame, o.Flat := by
    simp [ackPieces, flat_number, flat_signedNumber]
  have closes : (Piece.raw [125] endBrace_unquoted).Closes := rfl
  exact jsonObjectValue_key (k := .mk "ack") flat closes lookup_ack

/-- What is written in front of the state. -/
def beforeState (frame : DataFrame) (feedback : AckNackFeedback) (subscriberId : Bytes) :
    List Piece :=
  (ackHead frame ++ ackNames frame subscriberId) ++
    (.key (.mk "ack") :: .raw [123] brace_unquoted :: (ackPieces frame ++ .raw [125] endBrace_unquoted :: nackPieces feedback))

theorem lookup_state :
    lookup "state" (ackNackPieces frame feedback subscriberId) =
      if shadowed [frame.robotId, frame.topic, subscriberId, frame.publisherId] "state" then none
      else some (.raw [123] brace_unquoted :: (statePieces feedback ++ .raw [125] endBrace_unquoted :: [.raw [125] endBrace_unquoted])) := by
  have absent : keyless "state" (beforeState frame feedback subscriberId) := by
    simp [beforeState, keyless_ackHead, keyless_ackNames, keyless_ackPieces, keyless_nackPieces]
  have visible : hides "state" (.key (.mk "ack") :: .raw [123] brace_unquoted :: (ackPieces frame ++
      .raw [125] endBrace_unquoted :: nackPieces feedback)) = false := by
    simp [ackPieces, nackPieces, number, signedNumber, rangesPiece]
  have hidden : hides "state" (beforeState frame feedback subscriberId) =
      shadowed [frame.robotId, frame.topic, subscriberId, frame.publisherId] "state" := by
    rw [beforeState, hides_append, visible, Bool.or_false,
      hides_beforeAck frame subscriberId (k := .mk "state") (by simp) (by simp) (by simp)]
  have whole : ackNackPieces frame feedback subscriberId =
      beforeState frame feedback subscriberId ++ .key (.mk "state") :: (.raw [123] brace_unquoted ::
        (statePieces feedback ++ .raw [125] endBrace_unquoted :: [.raw [125] endBrace_unquoted])) := by
    simp [ackNackPieces, ackTail, beforeState]
  rw [whole, ← hidden]
  exact lookup_key (.mk "state") _ _ absent

theorem state_object :
    jsonObjectValue (render (ackNackPieces frame feedback subscriberId)) (octets "state") =
      if shadowed [frame.robotId, frame.topic, subscriberId, frame.publisherId] "state" then none
      else some (render (.raw [123] brace_unquoted :: (statePieces feedback ++ [.raw [125] endBrace_unquoted]))) := by
  have flat : ∀ o ∈ statePieces feedback, o.Flat := by
    simp [statePieces, flat_number, flat_flag]
  have closes : (Piece.raw [125] endBrace_unquoted).Closes := rfl
  exact jsonObjectValue_key (k := .mk "state") flat closes lookup_state

theorem ack_numbers (nonneg : 0 ≤ frame.sourceTimestampNs) :
    let ack := render (.raw [123] brace_unquoted :: (ackPieces frame ++ [.raw [125] endBrace_unquoted]))
    jsonUintValue ack (octets "source_sequence_number") = .ok (some frame.sourceSequenceNumber) ∧
      jsonUintValue ack (octets "source_timestamp_ns") =
        .ok (some frame.sourceTimestampNs.toUInt64) := by
  have written : signedNumber frame.sourceTimestampNs.toInt =
      number frame.sourceTimestampNs.toUInt64.toNat := by
    rw [signedNumber_of_nonneg (Int64.le_iff_toInt_le.mp nonneg), Int64.toNat_toInt,
      Int64.toNat_toUInt64_of_le nonneg]
  have sequence : lookup "source_sequence_number" (.raw [123] brace_unquoted :: (ackPieces frame ++ [.raw [125] endBrace_unquoted])) =
      some (number frame.sourceSequenceNumber.toNat :: .raw [44] comma_unquoted ::
        [.key (.mk "source_timestamp_ns"), number frame.sourceTimestampNs.toUInt64.toNat,
          .raw [125] endBrace_unquoted]) := by
    simp [ackPieces, written, lookup]
  have timestamp : lookup "source_timestamp_ns" (.raw [123] brace_unquoted :: (ackPieces frame ++ [.raw [125] endBrace_unquoted])) =
      some [number frame.sourceTimestampNs.toUInt64.toNat, .raw [125] endBrace_unquoted] := by
    rw [ackPieces, written]
    simp [number, lookup]
  exact ⟨jsonUintValue_key (k := .mk "source_sequence_number") (h := false) sequence rfl,
    jsonUintValue_key (k := .mk "source_timestamp_ns") (h := false) timestamp rfl⟩

theorem state_numbers (feedback : AckNackFeedback) :
    let state := render (.raw [123] brace_unquoted :: (statePieces feedback ++ [.raw [125] endBrace_unquoted]))
    jsonUintValue state (octets "lowest_observed_sequence") =
        .ok (some feedback.lowestObservedSequence) ∧
      jsonUintValue state (octets "highest_contiguous_sequence") =
        .ok (some feedback.highestContiguousSequence) ∧
      jsonUintValue state (octets "highest_observed_sequence") =
        .ok (some feedback.highestObservedSequence) := by
  have lowest : lookup "lowest_observed_sequence"
      (.raw [123] brace_unquoted :: (statePieces feedback ++ [.raw [125] endBrace_unquoted])) =
      some (number feedback.lowestObservedSequence.toNat :: .raw [44] comma_unquoted ::
        ((statePieces feedback).drop 3 ++ [.raw [125] endBrace_unquoted])) := by
    simp [statePieces, lookup]
  have contiguous : lookup "highest_contiguous_sequence"
      (.raw [123] brace_unquoted :: (statePieces feedback ++ [.raw [125] endBrace_unquoted])) =
      some (number feedback.highestContiguousSequence.toNat :: .raw [44] comma_unquoted ::
        ((statePieces feedback).drop 6 ++ [.raw [125] endBrace_unquoted])) := by
    simp [statePieces, number, lookup]
  have highest : lookup "highest_observed_sequence"
      (.raw [123] brace_unquoted :: (statePieces feedback ++ [.raw [125] endBrace_unquoted])) =
      some (number feedback.highestObservedSequence.toNat :: .raw [44] comma_unquoted ::
        ((statePieces feedback).drop 9 ++ [.raw [125] endBrace_unquoted])) := by
    simp [statePieces, number, lookup]
  exact ⟨jsonUintValue_key (k := .mk "lowest_observed_sequence") (h := false) lowest rfl,
    jsonUintValue_key (k := .mk "highest_contiguous_sequence") (h := false) contiguous rfl,
    jsonUintValue_key (k := .mk "highest_observed_sequence") (h := false) highest rfl⟩

/-! ## The flags -/

theorem hasText_append {key : String} {w : Bytes} {ps qs : List Piece} (absent : keyless key ps) :
    hasText key w (ps ++ qs) = hasText key w qs := by
  induction ps with
  | nil => rfl
  | cons p ps ih =>
      cases p with
      | key k =>
          simp only [keyless_key, Bool.and_eq_true, decide_eq_true_eq] at absent
          rw [List.cons_append, hasText, decide_eq_false absent.1, Bool.false_and, Bool.false_or,
            ih absent.2]
      | raw t unquoted => exact ih absent
      | constant s ending => exact ih absent
      | value v ending => exact ih absent

theorem hasText_flag (k : Name) (ps qs : List Piece) (b : Bool) (before : keyless k.text ps)
    (behind : keyless k.text qs) :
    hasText k.text (octets "true") (ps ++ .key k :: flag b :: qs) = b := by
  have letters : octets "true" = [116, 114, 117, 101] ∧
      octets "false" = [102, 97, 108, 115, 101] := by decide
  have nowhere : hasText k.text (octets "true") (qs ++ []) = false := hasText_append behind
  have skipped : hasText k.text (octets "true") (flag b :: qs) =
      hasText k.text (octets "true") qs := rfl
  rw [List.append_nil] at nowhere
  rw [hasText_append before, hasText, skipped, nowhere, render_cons, flag, Piece.text]
  cases b with
  | true => simp [letters]
  | false => simp [letters, List.isPrefixOf]

theorem contains_duplicate :
    contains (octets "\"duplicate\":true") (render (ackNackPieces frame feedback subscriberId)) =
      feedback.duplicate := by
  have needle : octets "\"duplicate\":true" = flagText "duplicate" (octets "true") := by
    decide
  have shape : ackNackPieces frame feedback subscriberId =
      (beforeState frame feedback subscriberId ++ (.key (.mk "state") :: .raw [123] brace_unquoted ::
        (statePieces feedback).take 9)) ++ .key (.mk "duplicate") :: flag feedback.duplicate ::
          [.raw [44] comma_unquoted, .key (.mk "out_of_order"), flag feedback.outOfOrder, .raw [125] endBrace_unquoted,
            .raw [125] endBrace_unquoted] := by
    simp [ackNackPieces, ackTail, beforeState, statePieces]
  have before : keyless "duplicate" (beforeState frame feedback subscriberId ++
      (.key (.mk "state") :: .raw [123] brace_unquoted :: (statePieces feedback).take 9)) := by
    simp [beforeState, keyless_ackHead, keyless_ackNames, keyless_ackPieces, keyless_nackPieces,
      statePieces, number]
  rw [needle, contains_flagText (by decide), shape]
  exact hasText_flag (.mk "duplicate") _ _ _ before (by simp [flag])

theorem contains_outOfOrder :
    contains (octets "\"out_of_order\":true")
        (render (ackNackPieces frame feedback subscriberId)) = feedback.outOfOrder := by
  have needle : octets "\"out_of_order\":true" = flagText "out_of_order" (octets "true") := by
    decide
  have shape : ackNackPieces frame feedback subscriberId =
      (beforeState frame feedback subscriberId ++ (.key (.mk "state") :: .raw [123] brace_unquoted ::
        (statePieces feedback).take 12)) ++ .key (.mk "out_of_order") ::
          flag feedback.outOfOrder :: [.raw [125] endBrace_unquoted, .raw [125] endBrace_unquoted] := by
    simp [ackNackPieces, ackTail, beforeState, statePieces]
  have before : keyless "out_of_order" (beforeState frame feedback subscriberId ++
      (.key (.mk "state") :: .raw [123] brace_unquoted :: (statePieces feedback).take 12)) := by
    simp [beforeState, keyless_ackHead, keyless_ackNames, keyless_ackPieces, keyless_nackPieces,
      statePieces, number, flag]
  rw [needle, contains_flagText (by decide), shape]
  exact hasText_flag (.mk "out_of_order") _ _ _ before (by simp)

/-! ## The missing ranges -/

def missingKey : Bytes := octets "missing_sequence_ranges"

theorem missingKey_eq : missingKey = 109 :: octets "issing_sequence_ranges" := by decide

theorem missingKey_isName : IsName (109 :: octets "issing_sequence_ranges") := by decide

/-- A search passes what does not hold the key. -/
def Piece.Without : Piece → Prop
  | .raw t _ => 109 ∉ t
  | .key k => afterFirst missingKey (octets k.text) = none
  | .constant s _ => afterFirst missingKey (octets s.text) = none
  | .value v _ => afterFirst missingKey v = none

theorem afterFirst_without {ps : List Piece} (without : ∀ p ∈ ps, p.Without) (y : Bytes) :
    afterFirst missingKey (render ps ++ y) = afterFirst missingKey y := by
  have quoted : ∀ (v rest : Bytes) (c : UInt8), isNameOctet c = false →
      afterFirst missingKey v = none →
      afterFirst missingKey (quotedText v c ++ rest) = afterFirst missingKey rest := by
    intro v rest c other absent
    rw [missingKey_eq] at absent ⊢
    rw [missingKey_isName.afterFirst_quotedText (by decide) other, absent]
  induction ps with
  | nil => rfl
  | cons p ps ih =>
      have rest := ih fun q among => without q (List.mem_cons_of_mem _ among)
      have here := without p List.mem_cons_self
      rw [render_cons, List.append_assoc]
      cases p with
      | raw t unquoted =>
          rw [missingKey_eq] at rest ⊢
          exact (afterFirst_append_of_not_mem here _).trans rest
      | key k => exact (quoted _ _ _ rfl here).trans rest
      | constant s ending => exact (quoted _ _ _ ending.not_name here).trans rest
      | value v ending => exact (quoted _ _ _ ending.not_name here).trans rest

theorem contains_key {k : Name} {ps : List Piece} (among : .key k ∈ ps) :
    contains (quotedKey (octets k.text)) (render ps) := by
  have stops : (found k.text ps).isSome := by
    induction ps with
    | nil => cases among
    | cons p ps ih =>
        rcases List.mem_cons.mp among with rfl | later
        · rw [found, if_pos rfl]
          rfl
        · cases p with
          | raw t unquoted => exact ih later
          | key k' =>
              rw [found]
              split
              · rfl
              · exact ih later
          | constant s ending =>
              rw [found]
              split
              · rfl
              · exact ih later
          | value v ending =>
              rw [found]
              split
              · rfl
              · exact ih later
  rw [contains, afterFirst_render k.plain, Option.isSome_map]
  exact stops

/-- The numbers of the ranges, in order. -/
def rangeRuns (ranges : List SequenceRange) : List Bytes :=
  ranges.flatMap fun r => [decimal r.1.toNat, decimal r.2.toNat]

theorem digitRunsBefore_rangeTexts (ranges : List SequenceRange) {y : Bytes}
    (state : contains (quotedKey (octets "state")) y) :
    digitRunsBefore [] (rangeTexts ranges ++ 93 :: 125 :: y) = rangeRuns ranges := by
  have marks : octets "[" = [91] ∧ octets "," = [44] ∧ octets "]" = [93] := by decide
  have later : contains (quotedKey (octets "state")) (125 :: y) := contains_append_left state [125]
  have closing : digitRunsBefore [] (93 :: 125 :: y) = [] := by
    rw [digitRunsBefore_cons rfl (by decide), digitRunsBefore_brace later]
    rfl
  have single : ∀ (r : SequenceRange) (s : Bytes), digitRunsBefore [] (91 :: (decimal r.1.toNat ++
      44 :: (decimal r.2.toNat ++ 93 :: s))) =
      decimal r.1.toNat :: decimal r.2.toNat :: digitRunsBefore [] s := fun r s => by
    rw [digitRunsBefore_cons rfl (by decide), digitRunsBefore_decimal _ rfl (by decide),
      digitRunsBefore_decimal _ rfl (by decide)]
  induction ranges using rangeTexts.induct with
  | case1 => exact closing
  | case2 r =>
      rw [rangeTexts, marks.1, marks.2.1, marks.2.2]
      simp only [List.append_assoc, List.cons_append, List.nil_append]
      rw [single, closing]
      rfl
  | case3 r rest last ih =>
      rw [rangeTexts, marks.1, marks.2.1, marks.2.2]
      · simp only [List.append_assoc, List.cons_append, List.nil_append]
        rw [single, digitRunsBefore_cons rfl (by decide), ih]
        rfl
      · exact last

/-- What is written behind the missing ranges' brace. -/
def afterRanges (feedback : AckNackFeedback) : List Piece :=
  .raw [44] comma_unquoted :: .key (.mk "state") :: .raw [123] brace_unquoted :: (statePieces feedback ++ [.raw [125] endBrace_unquoted, .raw [125] endBrace_unquoted])

theorem contains_afterRanges : contains (quotedKey (octets "state")) (render (afterRanges feedback)) :=
  contains_key (k := .mk "state") (by simp [afterRanges])

/-- The number in front of the first brace is the last one that is read. -/
theorem digitRunsBefore_last (n : Nat) {y : Bytes}
    (state : contains (quotedKey (octets "state")) (125 :: y)) :
    digitRunsBefore [] (decimal n ++ 125 :: y) = [decimal n] := by
  have noBrace : 125 ∉ decimal n := fun among =>
    absurd (decimal_isDecimal n 125 among) (by decide)
  have stops : ∀ cur, digitRunsBefore cur (125 :: y) = digitRunsBefore cur [] ++ [] := fun cur => by
    rw [digitRunsBefore_brace state, List.append_nil]
  rw [digitRunsBefore_append noBrace stops,
    digitRunsBefore_digits (decimal_isDecimal n) (by simp [decimal_ne_nil])]
  rfl

/-- The sequence and the stamp are the numbers in front of the first brace. -/
theorem digitRunsBefore_ackTail (nonneg : 0 ≤ frame.sourceTimestampNs) :
    digitRunsBefore [] (render (ackTail frame feedback)) =
      [decimal frame.sourceSequenceNumber.toNat, decimal frame.sourceTimestampNs.toInt.toNat] := by
  have keys : (Piece.key (.mk "ack")).Silent missingKey ∧
      (Piece.key (.mk "source_sequence_number")).Silent missingKey ∧
      (Piece.key (.mk "source_timestamp_ns")).Silent missingKey := by
    refine ⟨?_, ?_, ?_⟩ <;> constructor <;> decide +kernel
  have marks : (Piece.raw [123] brace_unquoted).Silent missingKey ∧ (Piece.raw [44] comma_unquoted).Silent missingKey := by
    constructor
    all_goals
      intro c among
      obtain rfl := List.mem_singleton.mp among
      decide
  have written := signedNumber_of_nonneg (Int64.le_iff_toInt_le.mp nonneg)
  have named : contains (quotedKey (octets "state")) (render (nackPieces feedback ++
      .key (.mk "state") :: .raw [123] brace_unquoted :: (statePieces feedback ++ [.raw [125] endBrace_unquoted, .raw [125] endBrace_unquoted]))) :=
    contains_key (k := .mk "state") (by simp)
  have state := contains_append_left named [125]
  rw [List.singleton_append] at state
  have opening : ∀ p ∈ ([.key (.mk "ack"), .raw [123] brace_unquoted, .key (.mk "source_sequence_number")] :
      List Piece), p.Silent missingKey := by
    simp [keys, marks]
  have between : ∀ p ∈ ([.key (.mk "source_timestamp_ns")] : List Piece),
      p.Silent missingKey := by
    simp [keys]
  have shape : render (ackTail frame feedback) =
      render [.key (.mk "ack"), .raw [123] brace_unquoted, .key (.mk "source_sequence_number")] ++
      (decimal frame.sourceSequenceNumber.toNat ++ 44 ::
        (render [.key (.mk "source_timestamp_ns")] ++
          (decimal frame.sourceTimestampNs.toInt.toNat ++ 125 :: render (nackPieces feedback ++
            .key (.mk "state") :: .raw [123] brace_unquoted ::
              (statePieces feedback ++ [.raw [125] endBrace_unquoted, .raw [125] endBrace_unquoted]))))) := by
    rw [ackTail, ackPieces, written]
    simp only [render_cons, render_append, render_nil, number, Piece.text, List.append_assoc,
      List.cons_append, List.nil_append, List.append_nil]
  have stateLast := contains_append_left state (decimal frame.sourceTimestampNs.toInt.toNat)
  have stateNext := contains_append_left stateLast (render [.key (.mk "source_timestamp_ns")])
  have stateComma := contains_append_left stateNext
    (decimal frame.sourceSequenceNumber.toNat ++ [44])
  rw [List.append_assoc, List.singleton_append] at stateComma
  rw [shape, digitRunsBefore_silent opening stateComma, digitRunsBefore_decimal _ rfl (by decide),
    digitRunsBefore_silent between stateLast, digitRunsBefore_last _ state]
  rfl

/-- Behind the real key stand the ranges. -/
theorem afterFirst_ackTail :
    (afterFirst missingKey (render (ackTail frame feedback))).map (digitRunsBefore []) =
      some (rangeRuns feedback.missingSequenceRanges) := by
  have shape : ackTail frame feedback = (.key (.mk "ack") :: .raw [123] brace_unquoted ::
      (ackPieces frame ++ [.raw [125] endBrace_unquoted, .raw [44] comma_unquoted, .key (.mk "nack"), .raw [123] brace_unquoted])) ++
      .key (.mk "missing_sequence_ranges") :: rangesPiece feedback.missingSequenceRanges ::
        .raw [125] endBrace_unquoted :: afterRanges feedback := by
    simp [ackTail, nackPieces, afterRanges]
  have keys : (Piece.key (.mk "ack")).Without ∧ (Piece.key (.mk "nack")).Without ∧
      (Piece.key (.mk "source_sequence_number")).Without ∧
      (Piece.key (.mk "source_timestamp_ns")).Without := by
    refine ⟨?_, ?_, ?_, ?_⟩ <;> change afterFirst _ _ = none <;> decide
  have numbers : (number frame.sourceSequenceNumber.toNat).Without ∧
      (signedNumber frame.sourceTimestampNs.toInt).Without := by
    constructor
    · intro among
      exact absurd (decimal_isDecimal _ 109 among) (by decide)
    · intro among
      exact absurd (signedDecimal_numeric _ 109 among) (by decide)
  have marks : (Piece.raw [123] brace_unquoted).Without ∧ (Piece.raw [44] comma_unquoted).Without ∧ (Piece.raw [125] endBrace_unquoted).Without := by
    refine ⟨?_, ?_, ?_⟩ <;> change 109 ∉ _ <;> decide
  have without : ∀ p ∈ (.key (.mk "ack") :: .raw [123] brace_unquoted ::
      (ackPieces frame ++ [.raw [125] endBrace_unquoted, .raw [44] comma_unquoted, .key (.mk "nack"), .raw [123] brace_unquoted]) : List Piece),
      p.Without := by
    simp [ackPieces, keys, numbers, marks]
  have search : afterFirst missingKey (render (.key (.mk "missing_sequence_ranges") ::
      rangesPiece feedback.missingSequenceRanges :: .raw [125] endBrace_unquoted :: afterRanges feedback)) =
      some (34 :: 58 :: 91 :: (rangeTexts feedback.missingSequenceRanges ++ 93 :: 125 ::
        render (afterRanges feedback))) := by
    have here : afterFirst missingKey missingKey = some [] := by decide
    rw [render_cons, Piece.text]
    change afterFirst missingKey (quotedText missingKey 58 ++ _) = _
    rw [missingKey_eq] at here ⊢
    rw [missingKey_isName.afterFirst_quotedText (by decide) rfl, here]
    simp only [render_cons, rangesPiece, Piece.text, jsonEscape, List.nil_append, List.cons_append,
      List.append_assoc]
  rw [shape, render_append, afterFirst_without without, search, Option.map_some,
    digitRunsBefore_cons rfl (by decide), digitRunsBefore_cons rfl (by decide),
    digitRunsBefore_cons rfl (by decide), digitRunsBefore_rangeTexts _ contains_afterRanges]

/-- The digits behind the first identity that holds the key of the missing ranges, where one
    does: those of the identities, then the acknowledged sequence and its stamp. -/
def strayRanges (frame : DataFrame) (subscriberId : Bytes) : Option (List Bytes) :=
  strayRuns missingKey [decimal frame.sourceSequenceNumber.toNat,
      decimal frame.sourceTimestampNs.toInt.toNat]
    [frame.robotId, frame.topic, subscriberId, frame.robotId, frame.topic, frame.publisherId]

theorem strayRuns_ackNames (behind : List Bytes) :
    strayRuns missingKey behind (strings (ackNames frame subscriberId)) =
      strayRuns missingKey behind [frame.robotId, frame.topic, subscriberId, frame.robotId,
        frame.topic, frame.publisherId] := by
  by_cases empty : subscriberId = []
  · have nothing : digitRunsBefore [] [] = [] := rfl
    have nowhere : afterFirst missingKey [] = none := rfl
    have listed : strings (ackNames frame subscriberId) =
        [frame.robotId, frame.topic, frame.robotId, frame.topic, frame.publisherId] := by
      simp [ackNames, optionalText, strings, empty]
    rw [listed, empty]
    simp only [strayRuns, stringRuns, nowhere, nothing, List.not_mem_nil, if_false,
      List.nil_append]
  · have listed : strings (ackNames frame subscriberId) = [frame.robotId, frame.topic,
        subscriberId, frame.robotId, frame.topic, frame.publisherId] := by
      simp [ackNames, optionalText, strings, empty]
    rw [listed]

theorem ackNames_silent (frame : DataFrame) (subscriberId : Bytes) :
    ∀ p ∈ ackNames frame subscriberId, p.Silent missingKey := by
  have keys : (Piece.key (.mk "robot_id")).Silent missingKey ∧
      (Piece.key (.mk "source_topic")).Silent missingKey ∧
      (Piece.key (.mk "subscriber_id")).Silent missingKey ∧
      (Piece.key (.mk "stream_key")).Silent missingKey := by
    refine ⟨?_, ?_, ?_, ?_⟩ <;> constructor <;> decide +kernel
  have stream : (Piece.constant (.mk "source_stream") .comma).Silent missingKey := by
    refine ⟨?_, ?_, ?_⟩ <;> decide +kernel
  have marks : (Piece.raw [91] bracket_unquoted).Silent missingKey ∧ (Piece.raw [44] comma_unquoted).Silent missingKey := by
    constructor
    all_goals
      intro c among
      obtain rfl := List.mem_singleton.mp among
      decide
  have values : ∀ v, (Piece.value v .comma).Silent missingKey ∧
      (Piece.value v .bracket).Silent missingKey := by
    intro v
    constructor <;> intro brace <;> cases brace
  by_cases empty : subscriberId = []
  · simp [ackNames, optionalText, empty, keys, stream, marks, values]
  · simp [ackNames, optionalText, empty, keys, stream, marks, values]

/-- The digits behind the key are the ranges', unless an identity holds the key. -/
theorem digitRunsAfter_ackNack (nonneg : 0 ≤ frame.sourceTimestampNs) :
    digitRunsAfter (render (ackNackPieces frame feedback subscriberId)) missingKey =
      (strayRanges frame subscriberId).getD (rangeRuns feedback.missingSequenceRanges) := by
  have search : digitRunsAfter (render (ackNackPieces frame feedback subscriberId)) missingKey =
      ((afterFirst missingKey (render (ackNackPieces frame feedback subscriberId))).map
        (digitRunsBefore [])).getD [] := by
    unfold digitRunsAfter
    cases afterFirst missingKey (render (ackNackPieces frame feedback subscriberId)) <;> rfl
  have keys : (Piece.key (.mk "schema_version")).Without ∧ (Piece.key (.mk "kind")).Without ∧
      (Piece.key (.mk "domain_id")).Without ∧
      (Piece.constant (.mk "fleetrmw.ack_nack.v1") .comma).Without ∧
      (Piece.constant (.mk "source_sequence_ack_nack") .comma).Without := by
    refine ⟨?_, ?_, ?_, ?_, ?_⟩ <;> change afterFirst _ _ = none <;> decide
  have marks : (Piece.raw [123] brace_unquoted).Without ∧ (Piece.raw [44] comma_unquoted).Without := by
    constructor <;> change 109 ∉ _ <;> decide
  have domain : (number frame.domainId.toNat).Without := fun among =>
    absurd (decimal_isDecimal _ 109 among) (by decide)
  have head : ∀ p ∈ ackHead frame, p.Without := by
    simp [ackHead, keys, marks, domain]
  have state : contains (quotedKey (octets "state")) (render (ackTail frame feedback)) :=
    contains_key (k := .mk "state") (by simp [ackTail])
  have names := afterFirst_silent missingKey_isName (by decide)
    (missingKey_eq ▸ ackNames_silent frame subscriberId) state
  rw [← missingKey_eq, digitRunsBefore_ackTail nonneg, afterFirst_ackTail, strayRuns_ackNames,
    ← strayRanges] at names
  rw [search, ackNackPieces, render_append, render_append, afterFirst_without head, names]
  cases strayRanges frame subscriberId <;> rfl

/-- Ranges as the decoder takes them from runs of digits. -/
def rangesOf (runs : List Bytes) : List SequenceRange :=
  pairUp (runs.map fun digits => UInt64.ofNat (decimalValue digits))

theorem rangeRuns_fit (ranges : List SequenceRange) : ∀ run ∈ rangeRuns ranges, runFits run := by
  intro run among
  obtain ⟨r, -, here⟩ := List.mem_flatMap.mp among
  rcases List.mem_cons.mp here with rfl | second
  · rw [runFits, decimalValue_decimal]
    exact r.1.toNat_lt
  · obtain rfl := List.mem_singleton.mp second
    rw [runFits, decimalValue_decimal]
    exact r.2.toNat_lt

theorem rangesOf_rangeRuns (ranges : List SequenceRange) : rangesOf (rangeRuns ranges) = ranges := by
  induction ranges with
  | nil => rfl
  | cons r ranges ih =>
      have shape : rangesOf (rangeRuns (r :: ranges)) =
          (UInt64.ofNat (decimalValue (decimal r.1.toNat)),
            UInt64.ofNat (decimalValue (decimal r.2.toNat))) :: rangesOf (rangeRuns ranges) := rfl
      rw [shape, ih, decimalValue_decimal, decimalValue_decimal, UInt64.ofNat_toNat,
        UInt64.ofNat_toNat]

theorem jsonUintPairArrayValue_eq_iff {payload key : Bytes} {ranges : List SequenceRange} :
    jsonUintPairArrayValue payload key = .ok ranges ↔
      (∀ run ∈ digitRunsAfter payload key, runFits run) ∧
        rangesOf (digitRunsAfter payload key) = ranges := by
  unfold jsonUintPairArrayValue uintValuesAfter
  constructor
  · intro read
    have fit : ∀ run ∈ digitRunsAfter payload key, runFits run :=
      returns_mapM_stoull.mp (returns_map.mp ⟨ranges, read⟩)
    rw [mapM_stoull_of_fits fit] at read
    exact ⟨fit, Except.ok.inj read⟩
  · rintro ⟨fit, rfl⟩
    rw [mapM_stoull_of_fits fit]
    rfl

/-! ## The round trip -/

theorem ack_schemaVersion :
    jsonHasStringValue (render (ackNackPieces frame feedback subscriberId))
      (octets "schema_version") ackNackSchemaVersion := by
  have value : ∀ rest, stringAt (skipSpaces (render
      (.constant (.mk "fleetrmw.ack_nack.v1") .comma :: rest))) = some ackNackSchemaVersion :=
    fun rest => stringAt_quotedText _ _ _
  have shape : ackNackPieces frame feedback subscriberId = .raw [123] brace_unquoted ::
      .key (.mk "schema_version") :: .constant (.mk "fleetrmw.ack_nack.v1") .comma ::
        ((ackHead frame).drop 3 ++ (ackNames frame subscriberId ++ ackTail frame feedback)) := rfl
  rw [jsonHasStringValue_render (by decide), shape]
  simp only [hasString, value, decide_true, Bool.and_self, Bool.true_or]

theorem controlBody_ackNack :
    controlBody (render (ackNackPieces frame feedback subscriberId)) =
      render (ackNackPieces frame feedback subscriberId) := by
  have last : ackNackPieces frame feedback subscriberId =
      (beforeState frame feedback subscriberId ++ .key (.mk "state") :: .raw [123] brace_unquoted ::
        (statePieces feedback ++ [.raw [125] endBrace_unquoted])) ++ [.raw [125] endBrace_unquoted] := by
    simp [ackNackPieces, ackTail, beforeState]
  have stripped : stripPadding (render (ackNackPieces frame feedback subscriberId)) =
      render (ackNackPieces frame feedback subscriberId) := by
    rw [last, render_append]
    exact stripPadding_of_last (by decide)
  have noMagic : dataFrameMagic.isPrefixOf
      (render (ackNackPieces frame feedback subscriberId)) = false := by
    rw [magics.1]
    rfl
  unfold controlBody
  simp only [stripped, noMagic, Bool.false_eq_true, if_false]

/-- An identity in front of a value without which nothing is decoded hides it. -/
def identitiesLost (frame : DataFrame) (subscriberId : Bytes) : Bool :=
  shadows frame.robotId (octets "source_topic") ||
    shadowed [frame.robotId, frame.topic, subscriberId] "stream_key" ||
    shadowed [frame.robotId, frame.topic, subscriberId, frame.publisherId] "ack"

def stateLost (frame : DataFrame) (subscriberId : Bytes) : Bool :=
  shadowed [frame.robotId, frame.topic, subscriberId, frame.publisherId] "state"

/-- The frame that is decoded, with the missing ranges that were read. -/
def rereadAck (frame : DataFrame) (feedback : AckNackFeedback) (subscriberId : Bytes)
    (ranges : List SequenceRange) : AckNackFrame :=
  { feedback.frame frame subscriberId with
    subscriberId := if shadowed [frame.robotId, frame.topic] "subscriber_id" then []
      else subscriberId
    missingSequenceRanges := ranges
    lowestObservedSequence := if stateLost frame subscriberId then 0
      else feedback.lowestObservedSequence
    highestContiguousSequence := if stateLost frame subscriberId then 0
      else feedback.highestContiguousSequence
    highestObservedSequence := if stateLost frame subscriberId then 0
      else feedback.highestObservedSequence }

theorem uintOr_state {key : String} {n : UInt64} (written : jsonUintValue
    (render (.raw [123] brace_unquoted :: (statePieces feedback ++ [.raw [125] endBrace_unquoted]))) (octets key) = .ok (some n)) :
    uintOr 0 ((jsonObjectValue (render (ackNackPieces frame feedback subscriberId))
      (octets "state")).getD []) key =
      .ok (if stateLost frame subscriberId then 0 else n) := by
  rw [state_object, ← stateLost, uintOr]
  cases stateLost frame subscriberId with
  | true =>
      rw [if_pos rfl, if_pos rfl]
      rfl
  | false =>
      rw [if_neg Bool.false_ne_true, if_neg Bool.false_ne_true, Option.getD_some, written]
      rfl

theorem decodeAckNack_encodeAckNack (nonneg : 0 ≤ frame.sourceTimestampNs) :
    decodeAckNack (encodeAckNack frame feedback subscriberId) =
      if identitiesLost frame subscriberId then .ok none
      else (fun ranges => some (rereadAck frame feedback subscriberId ranges)) <$>
        jsonUintPairArrayValue (render (ackNackPieces frame feedback subscriberId)) missingKey := by
  obtain ⟨sequence, timestamp⟩ := ack_numbers nonneg
  obtain ⟨lowest, contiguous, highest⟩ := state_numbers feedback
  have stamp : frame.sourceTimestampNs.toUInt64.toInt64 = frame.sourceTimestampNs := by simp
  have domain : uintOr 0 (render (ackNackPieces frame feedback subscriberId)) "domain_id" =
      .ok frame.domainId := by
    rw [uintOr, ack_domainId]
    rfl
  have none_ : ∀ key, jsonUintValue [] (octets key) = .ok none := fun key => rfl
  unfold decodeAckNack identitiesLost
  rw [encodeAckNack_eq]
  simp only [controlBody_ackNack, ack_schemaVersion, Bool.not_true, Bool.false_eq_true, if_false,
    ack_robotId, ack_topic, ack_streamKey, ack_object, uintOr_state lowest,
    uintOr_state contiguous, uintOr_state highest, domain, ack_subscriberId,
    contains_duplicate, contains_outOfOrder]
  by_cases ackLost : shadowed [frame.robotId, frame.topic, subscriberId, frame.publisherId] "ack"
  · simp only [ackLost, if_true, Option.getD_none, none_, ok_bind, Bool.or_true]
    split
    · contradiction
    · rfl
  · simp only [ackLost, Bool.false_eq_true, if_false, Option.getD_some, sequence, timestamp, ok_bind]
    by_cases topicLost : shadows frame.robotId (octets "source_topic")
    · simp only [topicLost, if_true, Bool.true_or]
      rfl
    · by_cases streamLost : shadowed [frame.robotId, frame.topic, subscriberId] "stream_key"
      · simp only [topicLost, streamLost, if_true, Bool.true_or, Bool.or_true]
        rfl
      · simp only [topicLost, streamLost, Bool.false_eq_true, if_false, Bool.false_or, missingKey]
        cases jsonUintPairArrayValue (render (ackNackPieces frame feedback subscriberId))
          (octets "missing_sequence_ranges") with
        | error e => rfl
        | ok ranges =>
            simp only [ok_bind, stamp]
            rfl

/-- No identity hides a value that is read behind it, and where one holds the key of the missing
    ranges, the digits behind it happen to spell the same ranges. -/
structure AckNackFeedback.Kept (feedback : AckNackFeedback) (frame : DataFrame)
    (subscriberId : Bytes) : Prop where
  topic : shadows frame.robotId (octets "source_topic") = false
  streamKey : shadowed [frame.robotId, frame.topic, subscriberId] "stream_key" = false
  ack : shadowed [frame.robotId, frame.topic, subscriberId, frame.publisherId] "ack" = false
  subscriber : subscriberId ≠ [] → shadowed [frame.robotId, frame.topic] "subscriber_id" = false
  state : feedback.lowestObservedSequence ≠ 0 ∨ feedback.highestContiguousSequence ≠ 0 ∨
      feedback.highestObservedSequence ≠ 0 →
    shadowed [frame.robotId, frame.topic, subscriberId, frame.publisherId] "state" = false
  missingRanges : ∀ runs, strayRanges frame subscriberId = some runs →
    (∀ run ∈ runs, runFits run) ∧ rangesOf runs = feedback.missingSequenceRanges

theorem identitiesLost_iff :
    identitiesLost frame subscriberId = false ↔
      shadows frame.robotId (octets "source_topic") = false ∧
      shadowed [frame.robotId, frame.topic, subscriberId] "stream_key" = false ∧
      shadowed [frame.robotId, frame.topic, subscriberId, frame.publisherId] "ack" = false := by
  rw [identitiesLost, Bool.or_eq_false_iff, Bool.or_eq_false_iff, and_assoc]

theorem missingRanges_iff (nonneg : 0 ≤ frame.sourceTimestampNs) :
    jsonUintPairArrayValue (render (ackNackPieces frame feedback subscriberId)) missingKey =
        .ok feedback.missingSequenceRanges ↔
      ∀ runs, strayRanges frame subscriberId = some runs →
        (∀ run ∈ runs, runFits run) ∧ rangesOf runs = feedback.missingSequenceRanges := by
  rw [jsonUintPairArrayValue_eq_iff, digitRunsAfter_ackNack nonneg]
  cases strayRanges frame subscriberId with
  | none =>
      have own := rangeRuns_fit feedback.missingSequenceRanges
      simpa [rangesOf_rangeRuns] using own
  | some runs => simp

theorem rereadAck_eq_iff {ranges : List SequenceRange} :
    rereadAck frame feedback subscriberId ranges = feedback.frame frame subscriberId ↔
      ranges = feedback.missingSequenceRanges ∧
      (subscriberId ≠ [] → shadowed [frame.robotId, frame.topic] "subscriber_id" = false) ∧
      (feedback.lowestObservedSequence ≠ 0 ∨ feedback.highestContiguousSequence ≠ 0 ∨
        feedback.highestObservedSequence ≠ 0 → stateLost frame subscriberId = false) := by
  have value : ∀ (lost : Bool) (n : UInt64), (if lost then 0 else n) = n ↔
      (n ≠ 0 → lost = false) := by
    intro lost n
    cases lost <;> simp [eq_comm]
  have text : ∀ lost : Bool, (if lost then [] else subscriberId) = subscriberId ↔
      (subscriberId ≠ [] → lost = false) := by
    intro lost
    cases lost <;> simp [eq_comm]
  constructor
  · intro same
    have subscriber := congrArg AckNackFrame.subscriberId same
    have lowest := congrArg AckNackFrame.lowestObservedSequence same
    have contiguous := congrArg AckNackFrame.highestContiguousSequence same
    have highest := congrArg AckNackFrame.highestObservedSequence same
    refine ⟨congrArg AckNackFrame.missingSequenceRanges same, (text _).mp subscriber, ?_⟩
    rintro (nonzero | nonzero | nonzero)
    · exact (value _ _).mp lowest nonzero
    · exact (value _ _).mp contiguous nonzero
    · exact (value _ _).mp highest nonzero
  · rintro ⟨rfl, subscriber, state⟩
    have lowest := (value _ feedback.lowestObservedSequence).mpr fun nonzero =>
      state (.inl nonzero)
    have contiguous := (value _ feedback.highestContiguousSequence).mpr fun nonzero =>
      state (.inr (.inl nonzero))
    have highest := (value _ feedback.highestObservedSequence).mpr fun nonzero =>
      state (.inr (.inr nonzero))
    simp only [rereadAck, (text _).mpr subscriber, lowest, contiguous, highest]
    rfl

end

/-- An acknowledgement comes back as it was sent exactly when no identity hides a value behind it
    or is taken for the missing ranges. -/
theorem decodeAckNack_encodeAckNack_iff (frame : DataFrame) (feedback : AckNackFeedback)
    (subscriberId : Bytes) (nonneg : 0 ≤ frame.sourceTimestampNs) :
    decodeAckNack (encodeAckNack frame feedback subscriberId) =
        .ok (some (feedback.frame frame subscriberId)) ↔
      feedback.Kept frame subscriberId := by
  rw [decodeAckNack_encodeAckNack nonneg]
  cases lost : identitiesLost frame subscriberId with
  | true =>
      have different : (Except.ok none : Cpp (Option AckNackFrame)) ≠
          .ok (some (feedback.frame frame subscriberId)) := fun same => by cases same
      rw [if_pos rfl]
      constructor
      · intro same
        exact absurd same different
      · intro kept
        rw [identitiesLost_iff.mpr ⟨kept.topic, kept.streamKey, kept.ack⟩] at lost
        cases lost
  | false =>
      obtain ⟨topic, streamKey, ack⟩ := identitiesLost_iff.mp lost
      rw [if_neg Bool.false_ne_true]
      constructor
      · intro same
        cases read : jsonUintPairArrayValue (render (ackNackPieces frame feedback subscriberId))
            missingKey with
        | error e =>
            rw [read] at same
            cases same
        | ok ranges =>
            rw [read] at same
            obtain ⟨rfl, subscriber, state⟩ :=
              rereadAck_eq_iff.mp (Option.some.inj (Except.ok.inj same))
            exact ⟨topic, streamKey, ack, subscriber, state, (missingRanges_iff nonneg).mp read⟩
      · intro kept
        rw [(missingRanges_iff nonneg).mpr kept.missingRanges]
        exact congrArg (Except.ok ∘ some)
          (rereadAck_eq_iff.mpr ⟨rfl, kept.subscriber, kept.state⟩)

/-- The frame of a robot that has the name of a key. -/
def topicNamedRobot : DataFrame := { robotId := octets "source_topic", topic := octets "/t" }

theorem topicNamedRobot_lost :
    0 ≤ topicNamedRobot.sourceTimestampNs ∧
      decodeAckNack (encodeAckNack topicNamedRobot {} []) = .ok none := by
  constructor <;> decide +kernel

/-- A report of two gaps. -/
def gapsFeedback : AckNackFeedback where
  missingSequenceRanges := [(2, 3), (5, 5)]
  lowestObservedSequence := 1
  highestContiguousSequence := 1
  highestObservedSequence := 6
  outOfOrder := true

theorem decodeAckNack_encodeAckNack_iff_gaps :
    decodeAckNack (encodeAckNack fullFrame gapsFeedback (octets "s")) =
      .ok (some (gapsFeedback.frame fullFrame (octets "s"))) := by
  apply (decodeAckNack_encodeAckNack_iff fullFrame gapsFeedback (octets "s") (by decide)).mpr
  have named : strayRanges fullFrame (octets "s") = none := by decide
  constructor
  case missingRanges =>
    intro runs stray
    rw [named] at stray
    cases stray
  all_goals decide

end FleetRMW.Rmw
