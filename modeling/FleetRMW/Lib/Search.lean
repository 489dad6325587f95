import FleetRMW.Lib.Python

/-! # Substring search

The first occurrence of a needle, and what stands behind it.
-/

namespace FleetRMW.Lib

variable {needle text rest : Bytes} {c : UInt8}

/-- What stands behind the first occurrence of a needle that is not empty. -/
def afterFirst (needle : Bytes) : Bytes → Option Bytes
  | [] => none
  | c :: text =>
      if needle.isPrefixOf (c :: text) then some ((c :: text).drop needle.length)
      else afterFirst needle text

def contains (needle text : Bytes) : Bool := (afterFirst needle text).isSome

theorem afterFirst_of_prefix (rest : Bytes) (c : UInt8) (needle : Bytes) :
    afterFirst (c :: needle) (c :: needle ++ rest) = some rest := by
  have here : (c :: needle).isPrefixOf (c :: (needle ++ rest)) := by simp
  rw [List.cons_append, afterFirst, if_pos here, ← List.cons_append, List.drop_left]

theorem afterFirst_cons_of_not_starts (elsewhere : ¬needle <+: c :: text) :
    afterFirst needle (c :: text) = afterFirst needle text := by
  have not_here : ¬needle.isPrefixOf (c :: text) := by
    rwa [List.isPrefixOf_iff_prefix]
  rw [afterFirst, if_neg not_here]

/-- Text without the needle's first octet is passed over. -/
theorem afterFirst_append_of_not_mem (absent : c ∉ text) (rest : Bytes) :
    afterFirst (c :: needle) (text ++ rest) = afterFirst (c :: needle) rest := by
  induction text with
  | nil => rfl
  | cons d text ih =>
      have other : c ≠ d := fun same => absent (same ▸ List.mem_cons_self)
      have elsewhere : ¬(c :: needle) <+: d :: (text ++ rest) :=
        fun pre => other (List.cons_prefix_cons.mp pre).1
      rw [List.cons_append, afterFirst_cons_of_not_starts elsewhere,
        ih fun among => absent (List.mem_cons_of_mem _ among)]

theorem contains_append_left (inside : contains needle rest) (text : Bytes) :
    contains needle (text ++ rest) := by
  induction text with
  | nil => exact inside
  | cons c text ih =>
      by_cases here : needle <+: c :: (text ++ rest)
      · rw [contains, List.cons_append, afterFirst,
          if_pos (List.isPrefixOf_iff_prefix.mpr here)]
        rfl
      · rw [contains, List.cons_append, afterFirst_cons_of_not_starts here]
        exact ih

/-- What begins in front of a delimiter that it does not hold ends there. -/
theorem prefix_append_delimiter {d : UInt8} (absent : d ∉ needle) (text : Bytes) :
    needle <+: text ++ d :: rest ↔ needle <+: text := by
  induction needle generalizing text with
  | nil => simp
  | cons e needle ih =>
      have other : e ≠ d := fun same => absent (same ▸ List.mem_cons_self)
      cases text with
      | nil => simp [List.cons_prefix_cons, other]
      | cons c text =>
          rw [List.cons_append, List.cons_prefix_cons, List.cons_prefix_cons,
            ih fun among => absent (List.mem_cons_of_mem _ among)]

/-- A needle without the delimiter is found on one side of it. -/
theorem afterFirst_append_delimiter {d : UInt8} (absent : d ∉ needle) (some_ : needle ≠ [])
    (text rest : Bytes) :
    afterFirst needle (text ++ d :: rest) =
      match afterFirst needle text with
      | some behind => some (behind ++ d :: rest)
      | none => afterFirst needle rest := by
  induction text with
  | nil =>
      have elsewhere : ¬needle <+: d :: rest := fun pre =>
        some_ (List.prefix_nil.mp ((prefix_append_delimiter absent []).mp pre))
      exact afterFirst_cons_of_not_starts elsewhere
  | cons c text ih =>
      have same : needle <+: c :: (text ++ d :: rest) ↔ needle <+: c :: text :=
        prefix_append_delimiter absent (c :: text)
      by_cases here : needle <+: c :: text
      · rw [List.cons_append, afterFirst, afterFirst,
          if_pos (List.isPrefixOf_iff_prefix.mpr (same.mpr here)),
          if_pos (List.isPrefixOf_iff_prefix.mpr here)]
        exact congrArg some (List.drop_append_of_le_length here.length_le)
      · rw [List.cons_append, afterFirst_cons_of_not_starts (mt same.mp here), ih,
          afterFirst_cons_of_not_starts here]

end FleetRMW.Lib
