import FleetRMW.Lib.Run
import FleetRMW.Planner.Telemetry

/-! # Tailing a telemetry file

A writer appends its lines in pieces, cut anywhere, while the tailer polls. The tailer takes the
piece of a line at the end of the file for a line and does not read it again, so that a record is
lost when a poll comes in the middle of it. Cuts around the records do no harm.
-/

namespace FleetRMW.Planner

open Lib

variable {F : Type} [FloatOps F] {conversions : Conversions F} {levels : Nat} {kind : Str}
  {text line : Str}

/-! ## Lines and blanks -/

omit [FloatOps F] in
theorem parseTelemetryLine_strip {schemaVersion : Str}
    {fromMapping : List (Str × PyJson) → Option (TelemetryRecord F)} {line line' : Str}
    (same : strip line = strip line') :
    parseTelemetryLine conversions levels schemaVersion fromMapping line =
      parseTelemetryLine conversions levels schemaVersion fromMapping line' := by
  rw [parseTelemetryLine, same, parseTelemetryLine]

theorem parseLine_strip {line line' : Str} (same : strip line = strip line') :
    JsonlTelemetryTailer.parseLine conversions levels kind line =
      JsonlTelemetryTailer.parseLine conversions levels kind line' := by
  unfold JsonlTelemetryTailer.parseLine
  split
  · exact parseTelemetryLine_strip same
  · exact parseTelemetryLine_strip same

theorem parseLine_blanks {blanks : Str} (blank : blanks.all isBlank) :
    JsonlTelemetryTailer.parseLine conversions levels kind blanks = some none := by
  unfold JsonlTelemetryTailer.parseLine
  split
  · exact if_pos (strip_blanks blank)
  · exact if_pos (strip_blanks blank)

theorem trims_parseLine :
    Trims 10 (JsonlTelemetryTailer.parseLine conversions levels kind) isBlank where
  delimiter := rfl
  blanks _ blank := parseLine_blanks blank
  before _ rest blank := parseLine_strip (strip_before blank rest)
  behind text _ blank := parseLine_strip (strip_behind blank text)

/-- Without carriage returns the text is as it is. -/
theorem universalNewlines_of_plain (plain : 13 ∉ text) : universalNewlines text = text := by
  induction text with
  | nil => rfl
  | cons c text ih =>
      have other : c ≠ 13 := fun same => plain (same ▸ List.mem_cons_self)
      rw [universalNewlines.eq_4 c text (fun _ same _ => other same) (fun same => other same),
        ih fun among => plain (List.mem_cons_of_mem c among)]

/-! ## Runs -/

/-- A file while it is written and tailed. -/
structure Tailing (P F : Type) where
  tailer : JsonlTelemetryTailer P
  file : Option Bytes
  /-- what will still be appended -/
  missing : Bytes
  /-- the records of all polls so far -/
  polled : List (TelemetryRecord F)

inductive TailEvent where
  /-- The writer appends the next octets. -/
  | appends (count : Nat)
  | polls

namespace Tailing

variable {P : Type} [DecidableEq P] (conversions levels) (path : P)

def after (s : Tailing P F) : TailEvent → Tailing P F
  | .appends count =>
      { s with
        file := some (s.file.getD [] ++ s.missing.take count)
        missing := s.missing.drop count }
  | .polls =>
      let (records, tailer) := s.tailer.poll conversions levels fun p =>
        if p = path then s.file else none
      { s with tailer := tailer, polled := s.polled ++ records.getD [] }

def step (s : Tailing P F) (e : TailEvent) : Option (Tailing P F) :=
  some (s.after conversions levels path e)

/-- Nothing of the document is written yet. -/
def start (kind : Str) (document : Bytes) : Tailing P F :=
  ⟨.create [path] kind, none, document, []⟩

/-- A poll does not come in the middle of a record: of the unfinished line only blanks are there, or
    only blanks are missing. Where the octets end inside a character the poll reads nothing. -/
def BetweenRecords (s : Tailing P F) : TailEvent → Prop
  | .appends _ => True
  | .polls => ∀ appended missing, utf8Decode (s.file.getD []) = some appended →
      utf8Decode s.missing = some missing →
      (lastLine 10 appended).all isBlank ∨ (firstLine 10 missing).all isBlank

variable {conversions levels path} {s s' : Tailing P F} {e : TailEvent} {document : Bytes}

def offset (s : Tailing P F) (path : P) : Nat := (s.tailer.offsets.get? path).getD 0

/-- What was polled are the records of what was read, and what was read ends between records. -/
structure Reading (conversions : Conversions F) (levels : Nat) (path : P) (kind : Str)
    (document : Bytes) (read unread : Str) (s : Tailing P F) : Prop where
  paths : s.tailer.paths = [path]
  ofKind : s.tailer.kind = kind
  written : s.file.getD [] ++ s.missing = document
  within : s.offset path ≤ (s.file.getD []).length
  decodes : utf8Decode ((s.file.getD []).take (s.offset path)) = some read
  remains : utf8Decode (document.drop (s.offset path)) = some unread
  polled : recordsOf 10 (JsonlTelemetryTailer.parseLine conversions levels kind) read =
    some s.polled
  clean : (lastLine 10 read).all isBlank ∨ (firstLine 10 unread).all isBlank

variable {read unread : Str}

theorem poll_absent (paths : s.tailer.paths = [path]) (absent : s.file = none) :
    s.after conversions levels path .polls = s := by
  unfold after JsonlTelemetryTailer.poll
  rw [paths]
  simp only [JsonlTelemetryTailer.pollPaths, if_true, absent, Option.getD_some, List.append_nil]
  rw [← paths, ← absent]

theorem poll_raises {file : Bytes} (paths : s.tailer.paths = [path]) (there : s.file = some file)
    (raises : JsonlTelemetryTailer.readOn conversions levels s.tailer.kind (s.offset path) file =
      none) : s.after conversions levels path .polls = s := by
  unfold offset at raises
  unfold after JsonlTelemetryTailer.poll
  rw [paths]
  simp only [JsonlTelemetryTailer.pollPaths, if_true, there, raises, Option.getD_none,
    List.append_nil]
  rw [← paths, ← there]

theorem poll_reads {file : Bytes} {records : List (TelemetryRecord F)}
    (paths : s.tailer.paths = [path]) (there : s.file = some file)
    (reads : JsonlTelemetryTailer.readOn conversions levels s.tailer.kind (s.offset path) file =
      some records) :
    s.after conversions levels path .polls = { s with
      tailer := { s.tailer with offsets := s.tailer.offsets.set path file.length }
      polled := s.polled ++ records } := by
  unfold offset at reads
  unfold after JsonlTelemetryTailer.poll
  rw [paths]
  simp only [JsonlTelemetryTailer.pollPaths, if_true, there, reads, Option.map_some,
    List.append_nil, Option.getD_some]
  rw [paths]

theorem Reading.appends (reading : Reading conversions levels path kind document read unread s)
    (count : Nat) : Reading conversions levels path kind document read unread
      (s.after conversions levels path (.appends count)) where
  paths := reading.paths
  ofKind := reading.ofKind
  written := by
    change (s.file.getD [] ++ s.missing.take count) ++ s.missing.drop count = document
    rw [List.append_assoc, List.take_append_drop]
    exact reading.written
  within := by
    change s.offset path ≤ (s.file.getD [] ++ s.missing.take count).length
    rw [List.length_append]
    exact Nat.le_add_right_of_le reading.within
  decodes := by
    change utf8Decode ((s.file.getD [] ++ s.missing.take count).take (s.offset path)) = _
    rw [List.take_append_of_le_length reading.within]
    exact reading.decodes
  remains := reading.remains
  polled := reading.polled
  clean := reading.clean

/-- What lies behind the offset: what the file has more, and what is missing. -/
theorem Reading.drop_document
    (reading : Reading conversions levels path kind document read unread s) {file : Bytes}
    (there : s.file = some file) :
    document.drop (s.offset path) = file.drop (s.offset path) ++ s.missing := by
  have within := reading.within
  rw [there, Option.getD_some] at within
  rw [← reading.written, there, Option.getD_some, List.drop_append_of_le_length within]

/-- A poll reads nothing, or goes on to where the file ends. -/
theorem Reading.polls (plain : 13 ∉ unread)
    (reading : Reading conversions levels path kind document read unread s)
    (between : s.BetweenRecords .polls) : s.after conversions levels path .polls = s ∨
      ∃ more unread', unread = more ++ unread' ∧
        Reading conversions levels path kind document (read ++ more) unread'
          (s.after conversions levels path .polls) := by
  cases there : s.file with
  | none => exact .inl (poll_absent reading.paths there)
  | some file =>
      cases reads : JsonlTelemetryTailer.readOn conversions levels s.tailer.kind (s.offset path)
        file with
      | none => exact .inl (poll_raises reading.paths there reads)
      | some records =>
          right
          obtain ⟨more, decoded, found⟩ := Option.bind_eq_some_iff.mp reads
          have remains := reading.remains
          rw [reading.drop_document there, utf8Decode_append decoded] at remains
          obtain ⟨unread', missing, rfl⟩ := Option.map_eq_some_iff.mp remains
          refine ⟨more, unread', rfl, ?_⟩
          have within := reading.within
          have decodes := reading.decodes
          have written := reading.written
          rw [there, Option.getD_some] at within decodes written
          have whole : utf8Decode file = some (read ++ more) := by
            rw [← List.take_append_drop (s.offset path) file, utf8Decode_append decodes, decoded]
            rfl
          have cleanMore : (lastLine 10 read).all isBlank ∨ (firstLine 10 more).all isBlank := by
            apply reading.clean.imp_right
            intro blank
            have begins := (firstLine_begins (d := 10) more unread').subset
            exact List.all_eq_true.mpr fun c among => List.all_eq_true.mp blank c (begins among)
          rw [universalNewlines_of_plain fun among => plain (List.mem_append_left _ among),
            reading.ofKind] at found
          rw [poll_reads reading.paths there reads]
          have moved : ({ s with
              tailer := { s.tailer with offsets := s.tailer.offsets.set path file.length }
              polled := s.polled ++ records } : Tailing P F).offset path = file.length := by
            unfold offset
            rw [Dict.get?_set_self]
            rfl
          constructor
          · exact reading.paths
          · exact reading.ofKind
          · exact reading.written
          · rw [moved]
            change file.length ≤ (s.file.getD []).length
            rw [there]
            exact Nat.le_refl _
          · rw [moved]
            change utf8Decode ((s.file.getD []).take file.length) = _
            rw [there, Option.getD_some, List.take_length]
            exact whole
          · rw [moved, ← written, List.drop_left]
            exact missing
          · rw [recordsOf_pieces trims_parseLine cleanMore, reading.polled, found]
            rfl
          · exact between _ _ (by rw [there]; exact whole) missing

theorem Reading.start (decoded : utf8Decode document = some text) :
    Reading conversions levels path kind document [] text (start path kind document : Tailing P F) where
  paths := rfl
  ofKind := rfl
  written := List.nil_append document
  within := by
    change (Dict.get? [(path, 0)] path).getD 0 ≤ 0
    rw [Dict.get?_cons, if_pos rfl]
    exact Nat.le_refl 0
  decodes := by
    change utf8Decode (List.take _ []) = _
    rw [List.take_nil]
    rfl
  remains := by
    change utf8Decode (document.drop ((Dict.get? [(path, 0)] path).getD 0)) = _
    rw [Dict.get?_cons, if_pos rfl]
    exact decoded
  polled := rfl
  clean := .inl rfl

/-- So far all that was read is polled, and the rest of the text is still there. -/
def Keeps (conversions : Conversions F) (levels : Nat) (path : P) (kind : Str) (document : Bytes)
    (text : Str) (s : Tailing P F) : Prop :=
  ∃ read unread, text = read ++ unread ∧
    Reading conversions levels path kind document read unread s

theorem Keeps.step (plain : 13 ∉ text) (keeps : Keeps conversions levels path kind document text s)
    (between : s.BetweenRecords e) (h : step conversions levels path s e = some s') :
    Keeps conversions levels path kind document text s' := by
  obtain ⟨read, unread, rfl, reading⟩ := keeps
  obtain rfl := Option.some.inj h
  cases e with
  | appends count => exact ⟨read, unread, rfl, reading.appends count⟩
  | polls =>
      have plainUnread : 13 ∉ unread := fun among => plain (List.mem_append_right read among)
      rcases reading.polls plainUnread between with same | ⟨more, unread', rfl, further⟩
      · rw [same]
        exact ⟨read, unread, rfl, reading⟩
      · exact ⟨read ++ more, unread', (List.append_assoc read more unread').symm, further⟩

/-- A poll behind the last append reads all that is left. -/
theorem Reading.last {records : List (TelemetryRecord F)} (plain : 13 ∉ unread)
    (reading : Reading conversions levels path kind document read unread s)
    (finished : s.missing = [])
    (whole : recordsOf 10 (JsonlTelemetryTailer.parseLine conversions levels kind)
      (read ++ unread) = some records) :
    (s.after conversions levels path .polls).polled = records := by
  rw [recordsOf_pieces trims_parseLine reading.clean, reading.polled] at whole
  obtain ⟨more, rest, rfl⟩ := Option.map_eq_some_iff.mp whole
  have written := reading.written
  have remains := reading.remains
  rw [finished, List.append_nil] at written
  cases there : s.file with
  | none =>
      rw [there] at written
      subst written
      obtain rfl : [] = unread := by
        rw [Option.getD_none, List.drop_nil] at remains
        exact Option.some.inj remains
      obtain rfl : [] = more := Option.some.inj rest
      rw [poll_absent reading.paths there, List.append_nil]
  | some file =>
      rw [there, Option.getD_some] at written
      rw [← written] at remains
      have reads : JsonlTelemetryTailer.readOn conversions levels s.tailer.kind (s.offset path)
          file = some more := by
        rw [JsonlTelemetryTailer.readOn, remains, Option.bind_some,
          universalNewlines_of_plain plain, reading.ofKind, rest]
      rw [poll_reads reading.paths there reads]

/-- Where no poll comes in the middle of a record, the polls together have every record of the file
    once and in order. -/
theorem polled_eq (path : P) (document : Bytes) (texts : List Str)
    {records : List (TelemetryRecord F)} (events : List TailEvent)
    (written : utf8Decode document = some (unlines 10 texts))
    (lines : ∀ text ∈ texts, 10 ∉ text ∧ 13 ∉ text)
    (accepted : List.Forall₂ (fun text record =>
      JsonlTelemetryTailer.parseLine conversions levels kind (text ++ [10]) = some (some record))
      texts records)
    (between : RunMeets (step conversions levels path) BetweenRecords (start path kind document)
      events)
    (h : run (step conversions levels path) (start path kind document) (events ++ [.polls]) =
      some s)
    (finished : s.missing = []) : s.polled = records := by
  have plain : 13 ∉ unlines 10 texts := by
    intro among
    obtain ⟨text, isLine, inLine⟩ := List.mem_flatMap.mp among
    rcases List.mem_append.mp inLine with inText | isEnd
    · exact (lines text isLine).2 inText
    · exact absurd (List.mem_singleton.mp isEnd) (by decide)
  obtain ⟨mid, reached, last⟩ := run_append h
  obtain ⟨read, unread, whole, reading⟩ : Keeps conversions levels path kind document
      (unlines 10 texts) mid :=
    run_invariant (fun keeps between h => keeps.step plain between h)
      ⟨[], _, rfl, Reading.start written⟩ between reached
  rw [whole] at plain
  have found := recordsOf_unlines (fun text isLine => (lines text isLine).1) accepted
  rw [whole] at found
  obtain rfl : mid.after conversions levels path .polls = s := Option.some.inj last
  exact reading.last (fun among => plain (List.mem_append_right read among)) finished found

/-! ## One record -/

/-- Conversions of small values, which is all that the record has. -/
def smallConversions : Conversions Fixed where
  written
    | .null => some (lit "None")
    | .bool b => some (if b then lit "True" else lit "False")
    | .int i => some (lit (toString i))
    | _ => none
  intOfText _ := none
  floatOfText _ := none
  double
    | .finite q => ⟨(q * 1000000).floor⟩
    | .inf _ | .nan => ⟨0⟩
  floatOfInt i := some (FloatOps.ofInt i)
  lower s := s

def topicLine : Str := lit "\x7b\"topic\":\"t\"\x7d"
def topicDocument : Bytes := octets "\x7b\"topic\":\"t\"\x7d" ++ [10]
def topicStart : Tailing Unit Fixed := start () (lit "router") topicDocument

theorem topicDocument_decodes : utf8Decode topicDocument = some (unlines 10 [topicLine]) := by
  decide +kernel

theorem topicLine_parses : ∃ record, JsonlTelemetryTailer.parseLine smallConversions 100
    (lit "router") (topicLine ++ [10]) = some (some record) := by
  have found : (JsonlTelemetryTailer.parseLine smallConversions 100 (lit "router")
      (topicLine ++ [10])).join.isSome := by
    decide +kernel
  obtain ⟨record, joined⟩ := Option.isSome_iff_exists.mp found
  exact ⟨record, Option.join_eq_some_iff.mp joined⟩

/-- A poll in front of the end of the line. -/
theorem polled_eq_topicDocument : ∃ record s,
    JsonlTelemetryTailer.parseLine smallConversions 100 (lit "router") (topicLine ++ [10]) =
      some (some record) ∧
    run (step smallConversions 100 ()) topicStart [.appends 13, .polls, .appends 1, .polls] =
      some s ∧ s.polled = [record] := by
  obtain ⟨record, parses⟩ := topicLine_parses
  refine ⟨record, _, parses, rfl, ?_⟩
  apply polled_eq () topicDocument [topicLine] [.appends 13, .polls, .appends 1]
    topicDocument_decodes (by decide) (.cons parses .nil) ?_ rfl rfl
  refine ⟨True.intro, ?_, True.intro, True.intro⟩
  intro appended missing _ rest
  obtain rfl : [10] = missing := Option.some.inj rest
  exact .inr rfl

/-- A poll in the middle of the record: neither it nor the next one has the record. -/
theorem split_record_is_lost : ∃ record s,
    JsonlTelemetryTailer.parseLine smallConversions 100 (lit "router") (topicLine ++ [10]) =
      some (some record) ∧
    utf8Decode topicDocument = some (unlines 10 [topicLine]) ∧
    run (step smallConversions 100 ()) topicStart [.appends 5, .polls, .appends 9, .polls] =
      some s ∧ s.missing = [] ∧ s.polled ≠ [record] := by
  obtain ⟨record, parses⟩ := topicLine_parses
  have lost : ((run (step smallConversions 100 ()) topicStart
      [.appends 5, .polls, .appends 9, .polls]).map fun s => (s.missing, s.polled.length)) =
      some ([], 0) := by
    decide +kernel
  obtain ⟨s, reached, nothing⟩ := Option.map_eq_some_iff.mp lost
  obtain ⟨finished, nothing⟩ := Prod.mk.inj nothing
  refine ⟨record, s, parses, topicDocument_decodes, reached, finished, ?_⟩
  intro same
  rw [same] at nothing
  cases nothing

end Tailing

end FleetRMW.Planner
