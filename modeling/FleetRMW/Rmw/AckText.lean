import FleetRMW.Rmw.FrameRead
import FleetRMW.Rmw.Runs

/-! # The text of an acknowledgement

What an acknowledgement says about a stream, as it is written and as it is read back.
-/

namespace FleetRMW.Rmw

open Lib

/-! ## Keys and constants -/

instance nameText_fleetrmw_ack_nack_v1 : NameText "fleetrmw.ack_nack.v1" := ⟨by decide⟩
instance nameText_source_sequence_ack_nack : NameText "source_sequence_ack_nack" := ⟨by decide⟩
instance nameText_source_topic : NameText "source_topic" := ⟨by decide⟩
instance nameText_subscriber_id : NameText "subscriber_id" := ⟨by decide⟩
instance nameText_stream_key : NameText "stream_key" := ⟨by decide⟩
instance nameText_source_stream : NameText "source_stream" := ⟨by decide⟩
instance nameText_nack : NameText "nack" := ⟨by decide⟩
instance nameText_missing_sequence_ranges : NameText "missing_sequence_ranges" := ⟨by decide⟩
instance nameText_lowest_observed_sequence : NameText "lowest_observed_sequence" := ⟨by decide⟩
instance nameText_highest_contiguous_sequence : NameText "highest_contiguous_sequence" := ⟨by decide⟩
instance nameText_highest_observed_sequence : NameText "highest_observed_sequence" := ⟨by decide⟩
instance nameText_duplicate : NameText "duplicate" := ⟨by decide⟩
instance nameText_out_of_order : NameText "out_of_order" := ⟨by decide⟩
instance nameText_ack : NameText "ack" := ⟨by decide⟩
instance nameText_state : NameText "state" := ⟨by decide⟩

/-! ## Flags -/

/-- The key stands in these pieces in front of this text. -/
def hasText (key : String) (w : Bytes) : List Piece → Bool
  | [] => false
  | .key k :: ps => (k.text = key && w.isPrefixOf (render ps)) || hasText key w ps
  | _ :: ps => hasText key w ps

/-- A quoted key, a colon and a text. -/
def flagText (key : String) (w : Bytes) : Bytes := 34 :: (octets key ++ 34 :: 58 :: w)

section
variable {key : String} {w v rest : Bytes} {c : UInt8}

theorem flagText_prefix_iff (keyName : IsNameText key) :
    octets key ++ 34 :: 58 :: w <+: jsonEscape v ++ 34 :: c :: rest ↔
      v = octets key ∧ c = 58 ∧ w <+: rest := by
  constructor
  · intro pre
    have quote : octets key ++ [34] <+: octets key ++ 34 :: 58 :: w :=
      ⟨58 :: w, by simp⟩
    obtain rfl := keyName.2.prefix_escape_iff.mp (quote.trans pre)
    rw [keyName.2.jsonEscape_eq, List.prefix_append_right_inj, List.cons_prefix_cons,
      List.cons_prefix_cons] at pre
    exact ⟨rfl, pre.2.1.symm, pre.2.2⟩
  · rintro ⟨rfl, rfl, pre⟩
    rw [keyName.2.jsonEscape_eq, List.prefix_append_right_inj, List.cons_prefix_cons,
      List.cons_prefix_cons]
    exact ⟨rfl, rfl, pre⟩

/-- No string that is not a key looks like a flag. -/
theorem afterFirst_flagText_escape (keyName : IsNameText key) (other : isNameOctet c = false)
    (notColon : c ≠ 58) (v : Bytes) :
    afterFirst (flagText key w) (jsonEscape v ++ 34 :: c :: rest) =
      afterFirst (flagText key w) (c :: rest) := by
  have skip : ∀ (x : UInt8) (s : Bytes), x ≠ 34 →
      afterFirst (flagText key w) (x :: s) = afterFirst (flagText key w) s := fun x s differs =>
    afterFirst_cons_of_not_starts fun pre => differs (List.cons_prefix_cons.mp pre).1.symm
  have quoted : ∀ v, afterFirst (flagText key w) (34 :: (jsonEscape v ++ 34 :: c :: rest)) =
      afterFirst (flagText key w) (jsonEscape v ++ 34 :: c :: rest) := fun v =>
    afterFirst_cons_of_not_starts fun pre =>
      notColon ((flagText_prefix_iff keyName).mp (List.cons_prefix_cons.mp pre).2).2.1
  induction v with
  | nil =>
      refine afterFirst_cons_of_not_starts fun pre => ?_
      have quote : octets key ++ [34] <+: octets key ++ 34 :: 58 :: w := ⟨58 :: w, by simp⟩
      exact keyName.2.not_prefix_cons other (quote.trans (List.cons_prefix_cons.mp pre).2)
  | cons d v ih =>
      rw [jsonEscape_cons]
      split_ifs with special newline
      · rcases special with rfl | rfl
        · exact (skip _ _ (by decide)).trans ((skip _ _ (by decide)).trans ih)
        · exact (skip _ _ (by decide)).trans ((quoted v).trans ih)
      · exact (skip _ _ (by decide)).trans ((skip _ _ (by decide)).trans ih)
      · exact (skip _ _ fun same => special (.inr same)).trans ih

theorem afterFirst_flagText_value (keyName : IsNameText key) (ending : Ending) (v : Bytes) :
    afterFirst (flagText key w) (quotedText v ending.octet ++ rest) =
      afterFirst (flagText key w) rest := by
  have opening : afterFirst (flagText key w) (34 :: (jsonEscape v ++ 34 :: ending.octet :: rest)) =
      afterFirst (flagText key w) (jsonEscape v ++ 34 :: ending.octet :: rest) :=
    afterFirst_cons_of_not_starts fun pre =>
      ending.not_colon ((flagText_prefix_iff keyName).mp (List.cons_prefix_cons.mp pre).2).2.1
  have passed : afterFirst (flagText key w) (ending.octet :: rest) =
      afterFirst (flagText key w) rest :=
    afterFirst_cons_of_not_starts fun pre =>
      ending.ne_quote (List.cons_prefix_cons.mp pre).1.symm
  simp only [quotedText, List.cons_append, List.append_assoc, List.nil_append]
  rw [opening, afterFirst_flagText_escape keyName ending.not_name ending.not_colon, passed]

theorem afterFirst_flagText_key (keyName : IsNameText key) (k : Name) :
    (afterFirst (flagText key w) (quotedText (octets k.text) 58 ++ rest)).isSome =
      ((k.text = key && w.isPrefixOf rest) || (afterFirst (flagText key w) rest).isSome) := by
  have passed : afterFirst (flagText key w) (58 :: rest) = afterFirst (flagText key w) rest :=
    afterFirst_cons_of_not_starts fun pre =>
      absurd (List.cons_prefix_cons.mp pre).1 (by decide)
  have closing : afterFirst (flagText key w) (34 :: 58 :: rest) =
      afterFirst (flagText key w) (58 :: rest) := by
    refine afterFirst_cons_of_not_starts fun pre => ?_
    have quote : octets key ++ [34] <+: octets key ++ 34 :: 58 :: w := ⟨58 :: w, by simp⟩
    exact keyName.2.not_prefix_cons rfl (quote.trans (List.cons_prefix_cons.mp pre).2)
  have unquoted : 34 ∉ jsonEscape (octets k.text) := by
    rw [k.plain.2.jsonEscape_eq]
    exact fun among => absurd (k.plain.2.2 34 among) (by decide)
  have inside : afterFirst (flagText key w) (jsonEscape (octets k.text) ++ 34 :: 58 :: rest) =
      afterFirst (flagText key w) rest :=
    (afterFirst_append_of_not_mem unquoted _).trans (closing.trans passed)
  simp only [quotedText, List.cons_append, List.append_assoc, List.nil_append]
  by_cases here : k.text = key ∧ w <+: rest
  · have pre : flagText key w <+: 34 :: (jsonEscape (octets k.text) ++ 34 :: 58 :: rest) :=
      List.cons_prefix_cons.mpr ⟨rfl, (flagText_prefix_iff keyName).mpr
        ⟨congrArg octets here.1, rfl, here.2⟩⟩
    have prefixed : w.isPrefixOf rest = true := List.isPrefixOf_iff_prefix.mpr here.2
    rw [afterFirst, if_pos (List.isPrefixOf_iff_prefix.mpr pre), prefixed, here.1]
    simp
  · have elsewhere : ¬flagText key w <+: 34 :: (jsonEscape (octets k.text) ++ 34 :: 58 :: rest) := by
      intro pre
      obtain ⟨same, -, prefixed⟩ :=
        (flagText_prefix_iff keyName).mp (List.cons_prefix_cons.mp pre).2
      exact here ⟨octets_injective k.plain.1 keyName.1 same, prefixed⟩
    have differs : (decide (k.text = key) && w.isPrefixOf rest) = false := by
      rw [Bool.and_eq_false_iff, ← Bool.not_eq_true (w.isPrefixOf rest),
        List.isPrefixOf_iff_prefix, decide_eq_false_iff_not]
      exact not_and_or.mp here
    rw [afterFirst_cons_of_not_starts elsewhere, inside, differs, Bool.false_or]

/-- A flag is found where it was written. -/
theorem contains_flagText (keyName : IsNameText key) (ps : List Piece) :
    contains (flagText key w) (render ps) = hasText key w ps := by
  unfold contains
  induction ps with
  | nil => rfl
  | cons p ps ih =>
      cases p with
      | raw t unquoted =>
          have skipped : afterFirst (flagText key w) (t ++ render ps) =
              afterFirst (flagText key w) (render ps) :=
            afterFirst_append_of_not_mem unquoted (render ps)
          exact (congrArg _ skipped).trans ih
      | key k =>
          rw [render_cons, Piece.text, afterFirst_flagText_key keyName, ih]
          rfl
      | constant s ending =>
          rw [render_cons, Piece.text, afterFirst_flagText_value keyName]
          exact ih
      | value v ending =>
          rw [render_cons, Piece.text, afterFirst_flagText_value keyName]
          exact ih

end

/-! ## The pieces of an acknowledgement -/

theorem rangeTexts_plain (ranges : List SequenceRange) :
    ∀ c ∈ rangeTexts ranges, isDecimal c ∨ c = 91 ∨ c = 44 ∨ c = 93 := by
  have marks : octets "[" = [91] ∧ octets "," = [44] ∧ octets "]" = [93] := by decide
  have single : ∀ r : SequenceRange, ∀ c ∈ octets "[" ++ decimal r.1.toNat ++ octets "," ++
      decimal r.2.toNat ++ octets "]", isDecimal c ∨ c = 91 ∨ c = 44 ∨ c = 93 := by
    intro r c among
    rw [marks.1, marks.2.1, marks.2.2] at among
    simp only [List.mem_append, List.mem_singleton] at among
    rcases among with (((rfl | digit) | rfl) | digit) | rfl
    · exact .inr (.inl rfl)
    · exact .inl (decimal_isDecimal _ c digit)
    · exact .inr (.inr (.inl rfl))
    · exact .inl (decimal_isDecimal _ c digit)
    · exact .inr (.inr (.inr rfl))
  induction ranges using rangeTexts.induct with
  | case1 => intro c among; cases among
  | case2 r => exact single r
  | case3 r rest last ih =>
      intro c among
      rw [rangeTexts] at among
      · rcases List.mem_append.mp among with front | later
        · rcases List.mem_append.mp front with first | comma
          · exact single r c first
          · rw [marks.2.1, List.mem_singleton] at comma
            exact .inr (.inr (.inl comma))
        · exact ih c later
      · exact last

def rangesPiece (ranges : List SequenceRange) : Piece :=
  .raw (91 :: (rangeTexts ranges ++ [93])) (by
    intro among
    rcases List.mem_cons.mp among with first | among
    · exact absurd first (by decide)
    · rcases List.mem_append.mp among with inside | last
      · exact absurd (rangeTexts_plain ranges 34 inside) (by decide)
      · exact absurd (List.mem_singleton.mp last) (by decide))

section
variable (frame : DataFrame) (feedback : AckNackFeedback) (subscriberId : Bytes)

def ackHead : List Piece :=
  [.raw [123] brace_unquoted, .key (.mk "schema_version"), .constant (.mk "fleetrmw.ack_nack.v1") .comma,
    .key (.mk "kind"), .constant (.mk "source_sequence_ack_nack") .comma, .key (.mk "domain_id"),
    number frame.domainId.toNat, .raw [44] comma_unquoted]

/-- The identities, twice: on their own and in the key of the stream. -/
def ackNames : List Piece :=
  [.key (.mk "robot_id"), .value frame.robotId .comma, .key (.mk "source_topic"),
    .value frame.topic .comma] ++
  (optionalText (.mk "subscriber_id") subscriberId ++
    [.key (.mk "stream_key"), .raw [91] bracket_unquoted, .constant (.mk "source_stream") .comma,
      .value frame.robotId .comma, .value frame.topic .comma, .value frame.publisherId .bracket,
      .raw [44] comma_unquoted])

def ackPieces : List Piece :=
  [.key (.mk "source_sequence_number"), number frame.sourceSequenceNumber.toNat, .raw [44] comma_unquoted,
    .key (.mk "source_timestamp_ns"), signedNumber frame.sourceTimestampNs.toInt]

def nackPieces : List Piece :=
  [.raw [44] comma_unquoted, .key (.mk "nack"), .raw [123] brace_unquoted, .key (.mk "missing_sequence_ranges"),
    rangesPiece feedback.missingSequenceRanges, .raw [125] endBrace_unquoted, .raw [44] comma_unquoted]

def statePieces : List Piece :=
  [.key (.mk "lowest_observed_sequence"), number feedback.lowestObservedSequence.toNat, .raw [44] comma_unquoted,
    .key (.mk "highest_contiguous_sequence"), number feedback.highestContiguousSequence.toNat,
    .raw [44] comma_unquoted, .key (.mk "highest_observed_sequence"),
    number feedback.highestObservedSequence.toNat, .raw [44] comma_unquoted, .key (.mk "duplicate"),
    flag feedback.duplicate, .raw [44] comma_unquoted, .key (.mk "out_of_order"), flag feedback.outOfOrder]

/-- What is written from the acknowledged sequence on. -/
def ackTail : List Piece :=
  .key (.mk "ack") :: .raw [123] brace_unquoted :: (ackPieces frame ++ .raw [125] endBrace_unquoted :: (nackPieces feedback ++
    .key (.mk "state") :: .raw [123] brace_unquoted :: (statePieces feedback ++ [.raw [125] endBrace_unquoted, .raw [125] endBrace_unquoted])))

def ackNackPieces : List Piece :=
  ackHead frame ++ (ackNames frame subscriberId ++ ackTail frame feedback)

theorem render_ackHead :
    render (ackHead frame) = octets "\x7b\"schema_version\":\"" ++ (ackNackSchemaVersion ++
      (octets "\"," ++ (octets "\"kind\":\"source_sequence_ack_nack\"," ++
      (octets "\"domain_id\":" ++ (decimal frame.domainId.toNat ++ octets ","))))) := by
  have opening : render [.raw [123] brace_unquoted, .key (.mk "schema_version"),
      .constant (.mk "fleetrmw.ack_nack.v1") .comma, .key (.mk "kind"),
      .constant (.mk "source_sequence_ack_nack") .comma, .key (.mk "domain_id")] =
      octets "\x7b\"schema_version\":\"" ++ (ackNackSchemaVersion ++ (octets "\"," ++
      (octets "\"kind\":\"source_sequence_ack_nack\"," ++ octets "\"domain_id\":"))) := by
    decide
  have comma : octets "," = [44] := by decide
  have split : ackHead frame = [.raw [123] brace_unquoted, .key (.mk "schema_version"),
      .constant (.mk "fleetrmw.ack_nack.v1") .comma, .key (.mk "kind"),
      .constant (.mk "source_sequence_ack_nack") .comma, .key (.mk "domain_id")] ++
      [number frame.domainId.toNat, .raw [44] comma_unquoted] := rfl
  rw [split, render_append, opening, comma]
  simp only [List.append_assoc, render_cons, render_nil, number, Piece.text, List.append_nil]

theorem render_ackNames :
    render (ackNames frame subscriberId) =
      octets "\"robot_id\":\"" ++ (jsonEscape frame.robotId ++ (octets "\"," ++
      (octets "\"source_topic\":\"" ++ (jsonEscape frame.topic ++ (octets "\"," ++
      ((if subscriberId ≠ [] then
        octets "\"subscriber_id\":\"" ++ jsonEscape subscriberId ++ octets "\"," else []) ++
      (octets "\"stream_key\":[\"source_stream\",\"" ++ (jsonEscape frame.robotId ++
      (octets "\"," ++ (octets "\"" ++ (jsonEscape frame.topic ++ (octets "\",\"" ++
      (jsonEscape frame.publisherId ++ octets "\"],"))))))))))))) := by
  have subscriber := render_optionalText (k := .mk "subscriber_id") subscriberId
    (octets "\"subscriber_id\":\"") (by decide)
  have keys : octets "\"robot_id\":\"" = (Piece.key (.mk "robot_id")).text ++ [34] ∧
      octets "\"source_topic\":\"" = (Piece.key (.mk "source_topic")).text ++ [34] ∧
      octets "\"stream_key\":[\"source_stream\",\"" = (Piece.key (.mk "stream_key")).text ++
        (91 :: ((Piece.constant (.mk "source_stream") .comma).text ++ [34])) ∧
      octets "\",\"" = [34, 44, 34] ∧ octets "\"]," = [34, 93, 44] := by decide
  have marks : octets "\"," = [34, 44] ∧ octets "\"" = [34] := by decide
  obtain ⟨robot, topic, stream, between, close⟩ := keys
  obtain ⟨ending, quote⟩ := marks
  unfold ackNames
  simp only [render_append, subscriber, render_cons, render_nil, List.append_assoc,
    List.append_nil]
  rw [robot, topic, stream, between, close, ending, quote]
  simp only [Piece.text, quotedText, Ending.octet, List.cons_append, List.append_assoc,
    List.nil_append]

theorem render_ackTail :
    render (ackTail frame feedback) =
      octets "\"ack\":\x7b\"source_sequence_number\":" ++
      (decimal frame.sourceSequenceNumber.toNat ++ (octets "," ++
      (octets "\"source_timestamp_ns\":" ++ (signedDecimal frame.sourceTimestampNs.toInt ++
      (octets "\x7d," ++ (octets "\"nack\":\x7b\"missing_sequence_ranges\":[" ++
      (rangeTexts feedback.missingSequenceRanges ++ (octets "]\x7d," ++
      (octets "\"state\":\x7b\"lowest_observed_sequence\":" ++
      (decimal feedback.lowestObservedSequence.toNat ++ (octets "," ++
      (octets "\"highest_contiguous_sequence\":" ++
      (decimal feedback.highestContiguousSequence.toNat ++ (octets "," ++
      (octets "\"highest_observed_sequence\":" ++
      (decimal feedback.highestObservedSequence.toNat ++ (octets "," ++ (octets "\"duplicate\":" ++
      ((if feedback.duplicate then octets "true" else octets "false") ++ (octets "," ++
      (octets "\"out_of_order\":" ++
      ((if feedback.outOfOrder then octets "true" else octets "false") ++
      octets "\x7d\x7d")))))))))))))))))))))) := by
  have keys : octets "\"ack\":\x7b\"source_sequence_number\":" = (Piece.key (.mk "ack")).text ++
        (123 :: (Piece.key (.mk "source_sequence_number")).text) ∧
      octets "\"source_timestamp_ns\":" = (Piece.key (.mk "source_timestamp_ns")).text ∧
      octets "\"nack\":\x7b\"missing_sequence_ranges\":[" = (Piece.key (.mk "nack")).text ++
        (123 :: ((Piece.key (.mk "missing_sequence_ranges")).text ++ [91])) ∧
      octets "\"state\":\x7b\"lowest_observed_sequence\":" = (Piece.key (.mk "state")).text ++
        (123 :: (Piece.key (.mk "lowest_observed_sequence")).text) ∧
      octets "\"highest_contiguous_sequence\":" =
        (Piece.key (.mk "highest_contiguous_sequence")).text ∧
      octets "\"highest_observed_sequence\":" =
        (Piece.key (.mk "highest_observed_sequence")).text ∧
      octets "\"duplicate\":" = (Piece.key (.mk "duplicate")).text ∧
      octets "\"out_of_order\":" = (Piece.key (.mk "out_of_order")).text := by decide
  have marks : octets "," = [44] ∧ octets "\x7d," = [125, 44] ∧ octets "]\x7d," = [93, 125, 44] ∧
      octets "\x7d\x7d" = [125, 125] := by decide
  obtain ⟨ack, timestamp, nack, state, contiguous, highest, duplicate, order⟩ := keys
  obtain ⟨comma, close, closeRanges, closeAll⟩ := marks
  rw [ack, timestamp, nack, state, contiguous, highest, duplicate, order, comma, close, closeRanges,
    closeAll]
  simp only [ackTail, ackPieces, nackPieces, statePieces, render_cons, render_nil,
    List.append_assoc, List.append_nil, List.cons_append, List.nil_append]
  simp only [Piece.text, number, signedNumber, rangesPiece, flag, List.cons_append,
    List.append_assoc, List.nil_append]

theorem encodeAckNack_eq :
    encodeAckNack frame feedback subscriberId =
      render (ackNackPieces frame feedback subscriberId) := by
  unfold encodeAckNack ackNackPieces
  rw [render_append, render_append, render_ackHead, render_ackNames, render_ackTail]
  simp only [List.append_assoc]

end

end FleetRMW.Rmw
