import FleetRMW.Lib.Json
import Mathlib.Data.List.DropRight

/-! # Text written as octets

`str.encode` of Python for ASCII and for UTF-8, which the decoders take back.
-/

namespace FleetRMW.Lib

/-! ## ASCII -/

/-- `s.encode("ascii")`; `none` is `UnicodeEncodeError`. -/
def asciiEncode (s : Str) : Option Bytes :=
  if s.all (· < 128) then some (s.map UInt8.ofNat) else none

/-- `bytes.decode("ascii")`; `none` is `UnicodeDecodeError`. -/
def asciiDecode (bytes : Bytes) : Option Str :=
  if bytes.all (· < 128) then some (bytes.map UInt8.toNat) else none

theorem asciiDecode_of_encode {s : Str} {bytes : Bytes} (encoded : asciiEncode s = some bytes) :
    asciiDecode bytes = some s := by
  unfold asciiEncode at encoded
  split at encoded
  case isFalse => cases encoded
  case isTrue ascii =>
    cases encoded
    have small : ∀ c ∈ s, c < 128 := by simpa using ascii
    have octet : ∀ c ∈ s, (UInt8.ofNat c).toNat = c := by
      intro c member
      exact UInt8.toNat_ofNat_of_lt' ((small c member).trans (by decide))
    have all : (s.map UInt8.ofNat).all (· < 128) = true := by
      rw [List.all_map, List.all_eq_true]
      intro c member
      have := small c member
      simp [UInt8.lt_iff_toNat_lt, octet c member, this]
    rw [asciiDecode, if_pos all, List.map_map]
    congr 1
    exact (List.map_congr_left octet).trans (List.map_id' s)

/-! ## UTF-8 -/

/-- The octets of a code point. -/
def utf8Octets (c : Nat) : Bytes :=
  if c < 0x80 then [UInt8.ofNat c]
  else if c < 0x800 then [UInt8.ofNat (0xC0 + c / 64), UInt8.ofNat (0x80 + c % 64)]
  else if c < 0x10000 then
    [UInt8.ofNat (0xE0 + c / 4096), UInt8.ofNat (0x80 + c / 64 % 64), UInt8.ofNat (0x80 + c % 64)]
  else
    [UInt8.ofNat (0xF0 + c / 262144), UInt8.ofNat (0x80 + c / 4096 % 64),
      UInt8.ofNat (0x80 + c / 64 % 64), UInt8.ofNat (0x80 + c % 64)]

/-- A code point that has an encoding. -/
def isScalar (c : Nat) : Bool := c ≤ 0x10FFFF && !isSurrogate c

/-- `s.encode("utf-8")`; `none` is `UnicodeEncodeError`. -/
def utf8Encode (s : Str) : Option Bytes :=
  if s.all isScalar then some (s.flatMap utf8Octets) else none

theorem continuation_ofNat {n : Nat} (low : n < 64) :
    continuation (UInt8.ofNat (0x80 + n)) = some n := by
  have octet : (UInt8.ofNat (0x80 + n)).toNat = 0x80 + n :=
    UInt8.toNat_ofNat_of_lt' (by change _ < 256; omega)
  rw [continuation, octet, if_pos (by omega), Nat.add_sub_cancel_left]

theorem wideChar_self {least c : Nat} (wide : least ≤ c) (scalar : isScalar c) :
    wideChar least c = some c := by
  have parts : c ≤ 0x10FFFF ∧ isSurrogate c = false := by simpa [isScalar] using scalar
  rw [wideChar, if_pos ⟨wide, parts.1, by rw [parts.2]; rfl⟩]

theorem utf8Decode_octets {c : Nat} (scalar : isScalar c) (rest : Bytes) :
    utf8Decode (utf8Octets c ++ rest) = (do return c :: (← utf8Decode rest)) := by
  have octet {n : Nat} (fits : n < 256) : (UInt8.ofNat n).toNat = n := UInt8.toNat_ofNat_of_lt' fits
  have bounded : c ≤ 0x10FFFF := by
    have parts : c ≤ 0x10FFFF ∧ isSurrogate c = false := by simpa [isScalar] using scalar
    exact parts.1
  have low {n : Nat} : n % 64 < 64 := Nat.mod_lt n (by decide)
  unfold utf8Octets
  split
  case isTrue one =>
    rw [List.singleton_append, utf8Decode.eq_def]
    dsimp only
    rw [octet (by omega), if_pos one]
  case isFalse wide =>
    split
    case isTrue two =>
      have lead : (UInt8.ofNat (0xC0 + c / 64)).toNat = 0xC0 + c / 64 := octet (by omega)
      have code : (0xC0 + c / 64 - 0xC0) * 64 + c % 64 = c := by omega
      rw [List.cons_append, List.singleton_append, utf8Decode.eq_def]
      dsimp only
      rw [lead, if_neg (by omega), if_pos (by omega), continuation_ofNat low]
      change (wideChar 0x80 ((0xC0 + c / 64 - 0xC0) * 64 + c % 64)).bind _ = _
      rw [code, wideChar_self (by omega) scalar]
      rfl
    case isFalse wider =>
      split
      case isTrue three =>
        have lead : (UInt8.ofNat (0xE0 + c / 4096)).toNat = 0xE0 + c / 4096 := octet (by omega)
        have code : ((0xE0 + c / 4096 - 0xE0) * 64 + c / 64 % 64) * 64 + c % 64 = c := by omega
        rw [List.cons_append, List.cons_append, List.singleton_append, utf8Decode.eq_def]
        dsimp only
        rw [lead, if_neg (by omega), if_neg (by omega), if_pos (by omega), continuation_ofNat low,
          continuation_ofNat low]
        change (wideChar 0x800 (((0xE0 + c / 4096 - 0xE0) * 64 + c / 64 % 64) * 64 + c % 64)).bind _ = _
        rw [code, wideChar_self (by omega) scalar]
        rfl
      case isFalse widest =>
        have lead : (UInt8.ofNat (0xF0 + c / 262144)).toNat = 0xF0 + c / 262144 := octet (by omega)
        have code : (((0xF0 + c / 262144 - 0xF0) * 64 + c / 4096 % 64) * 64 + c / 64 % 64) * 64 +
            c % 64 = c := by omega
        rw [List.cons_append, List.cons_append, List.cons_append, List.singleton_append,
          utf8Decode.eq_def]
        dsimp only
        rw [lead, if_neg (by omega), if_neg (by omega), if_neg (by omega), if_pos (by omega),
          continuation_ofNat low, continuation_ofNat low, continuation_ofNat low]
        change (wideChar 0x10000 ((((0xF0 + c / 262144 - 0xF0) * 64 + c / 4096 % 64) * 64 +
          c / 64 % 64) * 64 + c % 64)).bind _ = _
        rw [code, wideChar_self (by omega) scalar]
        rfl

theorem utf8Decode_of_encode {s : Str} {bytes : Bytes} (encoded : utf8Encode s = some bytes) :
    utf8Decode bytes = some s := by
  unfold utf8Encode at encoded
  split at encoded
  case isFalse => cases encoded
  case isTrue scalars =>
    cases encoded
    induction s with
    | nil => rfl
    | cons c s ih =>
        rw [List.all_cons, Bool.and_eq_true] at scalars
        rw [List.flatMap_cons, utf8Decode_octets scalars.1, ih scalars.2]
        rfl

/-- Decoding goes on behind octets that end with a whole character. -/
theorem utf8Decode_append {bytes : Bytes} {s : Str} (decoded : utf8Decode bytes = some s)
    (rest : Bytes) : utf8Decode (bytes ++ rest) = (utf8Decode rest).map (s ++ ·) := by
  have behind {bs : Bytes} {t : Str} (c : Nat)
      (ih : utf8Decode (bs ++ rest) = (utf8Decode rest).map (t ++ ·)) :
      (utf8Decode (bs ++ rest)).bind (fun t => some (c :: t)) =
        (utf8Decode rest).map (c :: t ++ ·) := by
    rw [ih]
    cases utf8Decode rest <;> rfl
  induction long : bytes.length using Nat.strong_induction_on generalizing bytes s with
  | h n ih =>
      subst long
      rcases bytes with _ | ⟨b, bs⟩
      · obtain rfl : [] = s := Option.some.inj decoded
        rw [List.nil_append]
        cases utf8Decode rest <;> rfl
      rw [utf8Decode.eq_def] at decoded
      rw [List.cons_append, utf8Decode.eq_def]
      by_cases one : b.toNat < 0x80
      · simp only [one, if_true, Option.bind_eq_bind, Option.bind_eq_some_iff,
          Option.pure_def] at decoded ⊢
        obtain ⟨t, within, same⟩ := decoded
        rw [behind _ (ih _ (by simp only [List.length_cons]; omega) within rfl), Option.some.inj same]
      rcases bs with _ | ⟨b₁, bs⟩
      · simp only [one, if_false] at decoded
        cases decoded
      by_cases two : 0xC0 ≤ b.toNat ∧ b.toNat < 0xE0
      · simp only [one, two, and_self, if_true, if_false, Option.bind_eq_bind,
          Option.bind_eq_some_iff, Option.pure_def, List.cons_append] at decoded ⊢
        obtain ⟨low₁, first, c, code, t, within, same⟩ := decoded
        simp only [first, Option.bind_some, code]
        rw [behind _ (ih _ (by simp only [List.length_cons]; omega) within rfl), Option.some.inj same]
      rcases bs with _ | ⟨b₂, bs⟩
      · simp only [one, two, if_false] at decoded
        cases decoded
      by_cases three : 0xE0 ≤ b.toNat ∧ b.toNat < 0xF0
      · simp only [one, two, three, and_self, if_true, if_false, Option.bind_eq_bind,
          Option.bind_eq_some_iff, Option.pure_def, List.cons_append] at decoded ⊢
        obtain ⟨low₁, first, low₂, second, c, code, t, within, same⟩ := decoded
        simp only [first, second, Option.bind_some, code]
        rw [behind _ (ih _ (by simp only [List.length_cons]; omega) within rfl), Option.some.inj same]
      rcases bs with _ | ⟨b₃, bs⟩
      · simp only [one, two, three, if_false] at decoded
        cases decoded
      by_cases four : 0xF0 ≤ b.toNat ∧ b.toNat < 0xF8
      · simp only [one, two, three, four, and_self, if_true, if_false, Option.bind_eq_bind,
          Option.bind_eq_some_iff, Option.pure_def, List.cons_append] at decoded ⊢
        obtain ⟨low₁, first, low₂, second, low₃, third, c, code, t, within, same⟩ := decoded
        simp only [first, second, third, Option.bind_some, code]
        rw [behind _ (ih _ (by simp only [List.length_cons]; omega) within rfl), Option.some.inj same]
      · simp only [one, two, three, four, if_false] at decoded
        cases decoded

/-! ## Blanks -/

/-- What `str.strip` takes away. -/
def isBlank (c : Nat) : Bool :=
  9 ≤ c && c ≤ 13 || 28 ≤ c && c ≤ 32 || c = 0x85 || c = 0xA0 || c = 0x1680 ||
    0x2000 ≤ c && c ≤ 0x200A || c = 0x2028 || c = 0x2029 || c = 0x202F || c = 0x205F || c = 0x3000

/-- `s.strip()` -/
def strip (s : Str) : Str := (s.dropWhile isBlank).rdropWhile isBlank

theorem strip_before {blanks : Str} (blank : blanks.all isBlank) (s : Str) :
    strip (blanks ++ s) = strip s := by
  rw [strip, List.dropWhile_append_of_pos (List.all_eq_true.mp blank), strip]

theorem strip_blanks {blanks : Str} (blank : blanks.all isBlank) : strip blanks = [] := by
  have none_ := strip_before blank []
  rwa [List.append_nil] at none_

theorem strip_behind {blanks : Str} (blank : blanks.all isBlank) (s : Str) :
    strip (s ++ blanks) = strip s := by
  have reversed : ∀ c ∈ blanks.reverse, isBlank c = true := fun c among =>
    List.all_eq_true.mp blank c (List.mem_reverse.mp among)
  rw [strip, List.dropWhile_append, strip]
  cases start : s.dropWhile isBlank with
  | nil =>
      rw [List.isEmpty_nil, if_pos rfl, List.dropWhile_eq_nil_iff.mpr (List.all_eq_true.mp blank)]
  | cons c rest =>
      rw [List.isEmpty_cons, if_neg Bool.false_ne_true, List.rdropWhile, List.reverse_append,
        List.dropWhile_append_of_pos reversed, List.rdropWhile]

end FleetRMW.Lib
