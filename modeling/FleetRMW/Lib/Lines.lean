import Mathlib.Data.List.Basic

/-! # Texts of lines

A text that is written line by line, each in front of a delimiter, is read back line by line. A
line of two fields comes apart at the first mark between them.
-/

namespace FleetRMW.Lib

variable {α : Type*} [DecidableEq α] {d : α} {text rest : List α}

/-- What is read up to each delimiter. The last line may end with the text. -/
def lines (d : α) : List α → List (List α)
  | [] => []
  | c :: rest =>
      if c = d then [] :: lines d rest
      else match lines d rest with
        | [] => [[c]]
        | line :: more => (c :: line) :: more

/-- What stands in front of the first mark and behind it. -/
def cut (d : α) : List α → Option (List α × List α)
  | [] => none
  | c :: rest => if c = d then some ([], rest) else (cut d rest).map fun s => (c :: s.1, s.2)

omit [DecidableEq α] in
/-- The lines, each in front of a delimiter. -/
def unlines (d : α) (texts : List (List α)) : List α := texts.flatMap (· ++ [d])

theorem lines_append (plain : d ∉ text) : lines d (text ++ d :: rest) = text :: lines d rest := by
  induction text with
  | nil => rw [List.nil_append, lines, if_pos rfl]
  | cons c text ih =>
      have other : c ≠ d := fun same => plain (same ▸ List.mem_cons_self)
      have behind := ih fun among => plain (List.mem_cons_of_mem _ among)
      rw [List.cons_append, lines, if_neg other, behind]

/-- What was written line by line is read so. -/
theorem lines_unlines {texts : List (List α)} (plain : ∀ text ∈ texts, d ∉ text) :
    lines d (unlines d texts) = texts := by
  induction texts with
  | nil => rfl
  | cons text texts ih =>
      have shape : unlines d (text :: texts) = text ++ d :: unlines d texts := by
        rw [unlines, List.flatMap_cons, List.append_assoc]
        rfl
      rw [shape, lines_append (plain text List.mem_cons_self),
        ih fun other among => plain other (List.mem_cons_of_mem _ among)]

theorem cut_append (plain : d ∉ text) : cut d (text ++ d :: rest) = some (text, rest) := by
  induction text with
  | nil => rw [List.nil_append, cut, if_pos rfl]
  | cons c text ih =>
      have other : c ≠ d := fun same => plain (same ▸ List.mem_cons_self)
      have behind := ih fun among => plain (List.mem_cons_of_mem _ among)
      rw [List.cons_append, cut, if_neg other, behind, Option.map_some]

/-- What stands in front of the first mark, and what behind it. -/
theorem parts_of_separated {left left' right right' : List α} (plain : d ∉ left)
    (plain' : d ∉ left') (same : left ++ d :: right = left' ++ d :: right') :
    left = left' ∧ right = right' := by
  have cuts := congrArg (cut d) same
  rw [cut_append plain, cut_append plain'] at cuts
  exact Prod.mk.inj (Option.some.inj cuts)

end FleetRMW.Lib
