import FleetRMW.Lib.Decimal
import FleetRMW.Lib.Unicode

/-! # Octets of composed texts

What a text is encoded to is told from the encodings of its parts.
-/

namespace FleetRMW.Lib

/-- The octets of a text that has an encoding. -/
def utf8Bytes (s : Str) : Bytes := s.flatMap utf8Octets

/-- A code point of ASCII is its own octet, and no other has an octet of ASCII. -/
theorem utf8Octets_cases {c : UInt8} {n : Nat} (scalar : isScalar n) (among : c ∈ utf8Octets n) :
    n < 128 ∧ c = UInt8.ofNat n ∨ 128 ≤ c.toNat := by
  have bounded : n ≤ 0x10FFFF := by
    have parts : n ≤ 0x10FFFF ∧ isSurrogate n = false := by simpa [isScalar] using scalar
    exact parts.1
  have octet {m : Nat} (fits : m < 256) : (UInt8.ofNat m).toNat = m := UInt8.toNat_ofNat_of_lt' fits
  unfold utf8Octets at among
  split at among
  case isTrue one => exact .inl ⟨one, List.mem_singleton.mp among⟩
  case isFalse =>
    right
    split at among
    · simp only [List.mem_cons, List.not_mem_nil, or_false] at among
      rcases among with rfl | rfl <;> rw [octet (by omega)] <;> omega
    · split at among
      all_goals
        simp only [List.mem_cons, List.not_mem_nil, or_false] at among
        rcases among with rfl | rfl | rfl | rfl <;> rw [octet (by omega)] <;> omega

theorem utf8Bytes_inj {s t : Str} (scalar : s.all isScalar) (scalar' : t.all isScalar)
    (same : utf8Bytes s = utf8Bytes t) : s = t := by
  have encode {u : Str} (all : u.all isScalar) : utf8Encode u = some (utf8Bytes u) := by
    rw [utf8Encode, if_pos all]
    rfl
  have decoded := utf8Decode_of_encode (encode scalar)
  rw [same, utf8Decode_of_encode (encode scalar')] at decoded
  exact (Option.some.inj decoded).symm

theorem utf8Bytes_append (s t : Str) : utf8Bytes (s ++ t) = utf8Bytes s ++ utf8Bytes t :=
  List.flatMap_append

theorem utf8Bytes_intercalate (separator : Str) (items : List Str) :
    utf8Bytes (separator.intercalate items) =
      (utf8Bytes separator).intercalate (items.map utf8Bytes) := by
  induction items with
  | nil => rfl
  | cons item items ih =>
      cases items with
      | nil => simp [List.intercalate, utf8Bytes]
      | cons next items =>
          rw [List.intercalate_cons_cons, utf8Bytes_append, utf8Bytes_append, ih, List.map_cons,
            List.map_cons, List.map_cons, List.intercalate_cons_cons]

theorem utf8Bytes_decimal (n : Nat) : utf8Bytes ((decimal n).map UInt8.toNat) = decimal n := by
  have same : ∀ digits : Bytes, (∀ d ∈ digits, isDecimal d) →
      utf8Bytes (digits.map UInt8.toNat) = digits := by
    intro digits
    induction digits with
    | nil => exact fun _ => rfl
    | cons d digits ih =>
        intro all
        have digit := (Bool.and_eq_true _ _).mp (all d List.mem_cons_self)
        have high : d.toNat ≤ 57 := UInt8.le_iff_toNat_le.mp (of_decide_eq_true digit.2)
        have octet : utf8Octets d.toNat = [d] := by
          rw [utf8Octets, if_pos (by omega), UInt8.ofNat_toNat]
        have rest := ih fun d' among => all d' (List.mem_cons_of_mem _ among)
        rw [utf8Bytes] at rest ⊢
        rw [List.map_cons, List.flatMap_cons, octet, rest]
        rfl
  exact same _ (decimal_isDecimal n)

/-- What stands in a text of items is the delimiter or stands in an item. -/
theorem mem_of_mem_intercalate {α : Type} {d a : α} {items : List (List α)}
    (among : a ∈ [d].intercalate items) : a = d ∨ ∃ item ∈ items, a ∈ item := by
  induction items with
  | nil => exact absurd among List.not_mem_nil
  | cons item items ih =>
      cases items with
      | nil => exact .inr ⟨item, List.mem_cons_self, by simpa [List.intercalate] using among⟩
      | cons next items =>
          rw [List.intercalate_cons_cons, List.append_assoc, List.singleton_append] at among
          rcases List.mem_append.mp among with first | behind
          · exact .inr ⟨item, List.mem_cons_self, first⟩
          · rcases List.mem_cons.mp behind with rfl | later
            · exact .inl rfl
            · rcases ih later with rfl | ⟨other, isOther, inside⟩
              · exact .inl rfl
              · exact .inr ⟨other, List.mem_cons_of_mem _ isOther, inside⟩

end FleetRMW.Lib
