import FleetRMW.Lib.Lines
import Mathlib.Data.List.DropRight

/-! # Records on lines

A file is iterated line by line, each with its delimiter, and every line holds a record or none. A
text read in two pieces gives the records of the whole when the line that the cut is in is blank
on one side of it.
-/

namespace FleetRMW.Lib

variable {α β : Type*} [DecidableEq α] {d : α} {text rest x y : List α}

/-- The lines of a text, each with its delimiter. The last one may be without. -/
def fileLines (d : α) : List α → List (List α)
  | [] => []
  | c :: rest =>
      if c = d then [d] :: fileLines d rest
      else match fileLines d rest with
        | [] => [[c]]
        | line :: more => (c :: line) :: more

/-- The line that the text ends in. -/
def lastLine (d : α) (text : List α) : List α := text.rtakeWhile (· ≠ d)

/-- The line that the text begins with. -/
def firstLine (d : α) (text : List α) : List α := text.takeWhile (· ≠ d)

theorem fileLines_append (plain : d ∉ text) :
    fileLines d (text ++ d :: rest) = (text ++ [d]) :: fileLines d rest := by
  induction text with
  | nil => rw [List.nil_append, fileLines, if_pos rfl, List.nil_append]
  | cons c text ih =>
      have other : c ≠ d := fun same => plain (same ▸ List.mem_cons_self)
      have behind := ih fun among => plain (List.mem_cons_of_mem _ among)
      rw [List.cons_append, fileLines, if_neg other, behind, List.cons_append]

/-- A line without its delimiter. -/
theorem fileLines_unfinished (plain : d ∉ text) (some_ : text ≠ []) : fileLines d text = [text] := by
  induction text with
  | nil => exact absurd rfl some_
  | cons c text ih =>
      have other : c ≠ d := fun same => plain (same ▸ List.mem_cons_self)
      have behind : d ∉ text := fun among => plain (List.mem_cons_of_mem _ among)
      rw [fileLines, if_neg other]
      cases text with
      | nil => rfl
      | cons c' text => rw [ih behind (List.cons_ne_nil c' text)]

/-- A text is one line, or there is a first one with its delimiter. -/
theorem line_cases (d : α) (x : List α) : d ∉ x ∨ ∃ text rest, d ∉ text ∧ x = text ++ d :: rest := by
  by_cases among : d ∈ x
  · obtain ⟨text, rest, whole, plain⟩ := List.eq_append_cons_of_mem among
    exact .inr ⟨text, rest, plain, whole⟩
  · exact .inl among

theorem ne_of_plain (plain : d ∉ text) : ∀ c ∈ text, decide (c ≠ d) = true :=
  fun _ among => decide_eq_true fun same => plain (same ▸ among)

theorem lastLine_of_plain (plain : d ∉ text) : lastLine d text = text :=
  List.rtakeWhile_eq_self_iff.mpr (ne_of_plain plain)

theorem lastLine_append : lastLine d (text ++ d :: rest) = lastLine d rest := by
  rw [lastLine, List.rtakeWhile, List.reverse_append, List.reverse_cons, List.append_assoc,
    List.takeWhile_append]
  split
  case isTrue whole =>
    rw [List.singleton_append, List.takeWhile_cons_of_neg (by simp), List.append_nil, lastLine,
      List.rtakeWhile, List.takeWhile_eq_self_iff.mpr]
    exact List.takeWhile_eq_self_iff.mp ((List.takeWhile_prefix _).eq_of_length whole)
  case isFalse => rfl

theorem firstLine_of_plain (plain : d ∉ text) : firstLine d text = text :=
  List.takeWhile_eq_self_iff.mpr (ne_of_plain plain)

theorem firstLine_append (plain : d ∉ text) : firstLine d (text ++ d :: rest) = text := by
  rw [firstLine, List.takeWhile_append_of_pos (ne_of_plain plain),
    List.takeWhile_cons_of_neg (by simp), List.append_nil]

theorem firstLine_begins (x y : List α) : firstLine d x <+: firstLine d (x ++ y) := by
  rw [firstLine, firstLine, List.takeWhile_append]
  split
  case isTrue whole =>
    rw [(List.takeWhile_prefix _).eq_of_length whole]
    exact List.prefix_append x _
  case isFalse => exact List.prefix_rfl

/-! ## Records -/

section Records

variable (d) (parse : List α → Option (Option β))

/-- The records of the lines; `none` is raised by a line that cannot be looked at. -/
def recordsOf (text : List α) : Option (List β) :=
  ((fileLines d text).mapM parse).map List.reduceOption

/-- The parser does not look at the blanks around a record, and finds nothing in blanks. -/
structure Trims (blank : α → Bool) : Prop where
  delimiter : blank d
  blanks : ∀ text, text.all blank → parse text = some none
  before : ∀ text rest, text.all blank → parse (text ++ rest) = parse rest
  behind : ∀ text rest, rest.all blank → parse (text ++ rest) = parse text

variable {d parse} {blank : α → Bool} (trims : Trims d parse blank)

theorem recordsOf_append (plain : d ∉ text) : recordsOf d parse (text ++ d :: rest) =
    (parse (text ++ [d])).bind fun record =>
      (recordsOf d parse rest).map (record.toList ++ ·) := by
  rw [recordsOf, recordsOf, fileLines_append plain, List.mapM_cons]
  cases parse (text ++ [d]) with
  | none => rfl
  | some record =>
      cases (fileLines d rest).mapM parse with
      | none => rfl
      | some records => cases record <;> rfl

/-- Where every line holds a record, these are the records. -/
theorem recordsOf_unlines {texts : List (List α)} {records : List β}
    (plain : ∀ text ∈ texts, d ∉ text)
    (accepted : List.Forall₂ (fun text record => parse (text ++ [d]) = some (some record)) texts
      records) : recordsOf d parse (unlines d texts) = some records := by
  induction accepted with
  | nil => rfl
  | @cons text record texts records accepts _ ih =>
      have shape : unlines d (text :: texts) = text ++ d :: unlines d texts := by
        rw [unlines, List.flatMap_cons, List.append_assoc]
        rfl
      rw [shape, recordsOf_append (plain text List.mem_cons_self), accepts,
        ih fun other among => plain other (List.mem_cons_of_mem _ among)]
      rfl

include trims

theorem recordsOf_unfinished (plain : d ∉ text) :
    recordsOf d parse text = (parse text).map Option.toList := by
  cases text with
  | nil =>
      rw [trims.blanks [] rfl]
      rfl
  | cons c text =>
      rw [recordsOf, fileLines_unfinished plain (List.cons_ne_nil c text), List.mapM_cons,
        List.mapM_nil]
      cases parse (c :: text) with
      | none => rfl
      | some record => cases record <;> rfl

/-- In a piece of a line there is nothing, or all that there is in the line. -/
theorem recordsOf_line (plain : d ∉ text)
    (clean : text.all blank ∨ (firstLine d y).all blank) :
    recordsOf d parse (text ++ y) = (recordsOf d parse text).bind fun first =>
      (recordsOf d parse y).map (first ++ ·) := by
  rw [recordsOf_unfinished trims plain]
  rcases line_cases d y with alone | ⟨line, rest, alone, rfl⟩
  · rw [firstLine_of_plain alone] at clean
    have together : d ∉ text ++ y := fun among => (List.mem_append.mp among).elim plain alone
    rw [recordsOf_unfinished trims together, recordsOf_unfinished trims alone]
    rcases clean with blanks | blanks
    · rw [trims.before text y blanks, trims.blanks text blanks]
      cases parse y <;> rfl
    · rw [trims.behind text y blanks, trims.blanks y blanks]
      cases parse text with
      | none => rfl
      | some record => exact congrArg some (List.append_nil _).symm
  · rw [firstLine_append alone] at clean
    have together : d ∉ text ++ line := fun among => (List.mem_append.mp among).elim plain alone
    rw [← List.append_assoc, recordsOf_append together, recordsOf_append alone]
    rcases clean with blanks | blanks
    · rw [List.append_assoc, trims.before text _ blanks, trims.blanks text blanks]
      cases parse (line ++ [d]) with
      | none => rfl
      | some record => cases recordsOf d parse rest <;> rfl
    · have ended : (line ++ [d]).all blank := by
        rw [List.all_append, blanks, List.all_cons, trims.delimiter]
        rfl
      rw [List.append_assoc, trims.behind text _ ended, trims.blanks _ ended]
      cases parse text with
      | none => rfl
      | some record => cases recordsOf d parse rest <;> rfl

/-- Two pieces have the records of the whole, one after the other. -/
theorem recordsOf_pieces (clean : (lastLine d x).all blank ∨ (firstLine d y).all blank) :
    recordsOf d parse (x ++ y) = (recordsOf d parse x).bind fun first =>
      (recordsOf d parse y).map (first ++ ·) := by
  induction h : x.length using Nat.strong_induction_on generalizing x with
  | h n ih =>
      rcases line_cases d x with plain | ⟨text, rest, plain, rfl⟩
      · rw [lastLine_of_plain plain] at clean
        exact recordsOf_line trims plain clean
      · rw [lastLine_append] at clean
        have shorter : rest.length < n := by
          rw [← h, List.length_append, List.length_cons]
          omega
        rw [List.append_assoc, List.cons_append, recordsOf_append plain, recordsOf_append plain,
          ih rest.length shorter clean rfl]
        cases parse (text ++ [d]) with
        | none => rfl
        | some record =>
            cases recordsOf d parse rest with
            | none => rfl
            | some first =>
                cases recordsOf d parse y with
                | none => rfl
                | some second =>
                    exact congrArg some (List.append_assoc _ _ _).symm

end Records

end FleetRMW.Lib
