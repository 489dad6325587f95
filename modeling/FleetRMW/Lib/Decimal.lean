import FleetRMW.Lib.Python
import Mathlib.Algebra.Group.Nat.Defs
import Mathlib.Data.Nat.Log

/-! # Decimal texts

A number is written without leading zeros and read from a run of digits.
-/

namespace FleetRMW.Lib

/-- `isdigit` and `isspace` of the C locale. -/
def isDecimal (b : UInt8) : Bool := 48 ≤ b && b ≤ 57

def isSpace (b : UInt8) : Bool := b == 32 || (9 ≤ b && b ≤ 13)

def decimalValue (digits : Bytes) : Nat := digits.foldl (fun n d => 10 * n + (d.toNat - 48)) 0

/-- The fuel bounds the number of digits, as `n` itself does. -/
def decimalDigits : Nat → Nat → Bytes
  | 0, _ => []
  | fuel + 1, n =>
      if n < 10 then [UInt8.ofNat (48 + n)]
      else decimalDigits fuel (n / 10) ++ [UInt8.ofNat (48 + n % 10)]

/-- `std::to_string` of an unsigned number. -/
def decimal (n : Nat) : Bytes := decimalDigits (n + 1) n

theorem decimalValue_concat (digits : Bytes) (d : UInt8) :
    decimalValue (digits ++ [d]) = 10 * decimalValue digits + (d.toNat - 48) := by
  simp only [decimalValue, List.foldl_append, List.foldl_cons, List.foldl_nil]

theorem digit_toNat {d : Nat} (small : d < 10) : (UInt8.ofNat (48 + d)).toNat = 48 + d := by
  rw [UInt8.toNat_ofNat']
  omega

theorem isDecimal_digit {d : Nat} (small : d < 10) : isDecimal (UInt8.ofNat (48 + d)) := by
  have low : (48 : UInt8) ≤ UInt8.ofNat (48 + d) := by
    rw [UInt8.le_iff_toNat_le, digit_toNat small]
    exact Nat.le_add_right _ _
  have high : UInt8.ofNat (48 + d) ≤ (57 : UInt8) := by
    rw [UInt8.le_iff_toNat_le, digit_toNat small]
    change 48 + d ≤ 57
    omega
  simp only [isDecimal, low, high, decide_true, Bool.and_self]

theorem decimalValue_decimalDigits {fuel n : Nat} (enough : n < fuel) :
    decimalValue (decimalDigits fuel n) = n := by
  induction fuel generalizing n with
  | zero => omega
  | succ fuel ih =>
      unfold decimalDigits
      split
      case isTrue small =>
        rw [← List.nil_append [UInt8.ofNat (48 + n)], decimalValue_concat, digit_toNat small]
        simp [decimalValue]
      case isFalse large =>
        rw [decimalValue_concat, ih (by omega), digit_toNat (by omega)]
        omega

/-- Reading a written number gives the number. -/
@[simp] theorem decimalValue_decimal (n : Nat) : decimalValue (decimal n) = n :=
  decimalValue_decimalDigits (by omega)

theorem decimalDigits_isDecimal {fuel n : Nat} : ∀ d ∈ decimalDigits fuel n, isDecimal d := by
  induction fuel generalizing n with
  | zero => intro d among; cases among
  | succ fuel ih =>
      intro d among
      unfold decimalDigits at among
      split at among
      case isTrue small =>
        obtain rfl := List.mem_singleton.mp among
        exact isDecimal_digit small
      case isFalse =>
        rcases List.mem_append.mp among with earlier | last
        · exact ih d earlier
        · obtain rfl := List.mem_singleton.mp last
          exact isDecimal_digit (by omega)

theorem decimal_isDecimal (n : Nat) : ∀ d ∈ decimal n, isDecimal d := decimalDigits_isDecimal

theorem decimal_notMem {b : UInt8} (notDigit : isDecimal b = false) (n : Nat) : b ∉ decimal n := by
  intro among
  rw [decimal_isDecimal n b among] at notDigit
  cases notDigit

theorem decimal_injective {m n : Nat} (same : decimal m = decimal n) : m = n := by
  rw [← decimalValue_decimal m, same, decimalValue_decimal]

theorem decimal_ne_nil (n : Nat) : decimal n ≠ [] := by
  unfold decimal decimalDigits
  split
  · exact List.cons_ne_nil _ _
  · exact List.append_ne_nil_of_right_ne_nil _ (List.cons_ne_nil _ _)

theorem decimalDigits_length {fuel n : Nat} (enough : n < fuel) :
    (decimalDigits fuel n).length = Nat.log 10 n + 1 := by
  induction fuel generalizing n with
  | zero => omega
  | succ fuel ih =>
      unfold decimalDigits
      split
      case isTrue small => rw [Nat.log_of_lt small, List.length_singleton]
      case isFalse large =>
        have log : Nat.log 10 n = Nat.log 10 (n / 10) + 1 :=
          Nat.log_of_one_lt_of_le (by decide) (by omega)
        rw [List.length_append, ih (by omega), List.length_singleton, log]

theorem decimal_length (n : Nat) : (decimal n).length = Nat.log 10 n + 1 :=
  decimalDigits_length (by omega)

/-- A larger number has no shorter text. -/
theorem decimal_length_mono {m n : Nat} (le : m ≤ n) :
    (decimal m).length ≤ (decimal n).length := by
  rw [decimal_length, decimal_length]
  exact Nat.succ_le_succ (Nat.log_mono_right le)

theorem decimal_length_pos (n : Nat) : 1 ≤ (decimal n).length := by
  rw [decimal_length]
  exact Nat.le_add_left _ _

/-- A number below a power of 10 has no more digits than the exponent says. -/
theorem decimal_length_le {n k : Nat} (positive : k ≠ 0) (less : n < 10 ^ k) :
    (decimal n).length ≤ k := by
  rw [decimal_length]
  exact Nat.log_lt_of_lt_pow' positive less

/-! ## Fixed widths -/

/-- The last digits of a number, as many as are asked for. -/
def fixedDecimal : Nat → Nat → Bytes
  | 0, _ => []
  | width + 1, n => fixedDecimal width (n / 10) ++ [UInt8.ofNat (48 + n % 10)]

theorem digit_of_isDecimal {c : UInt8} (digit : isDecimal c) :
    c.toNat - 48 < 10 ∧ UInt8.ofNat (48 + (c.toNat - 48)) = c := by
  obtain ⟨low, high⟩ := (Bool.and_eq_true _ _).mp digit
  have low : 48 ≤ c.toNat := UInt8.le_iff_toNat_le.mp (of_decide_eq_true low)
  have high : c.toNat ≤ 57 := UInt8.le_iff_toNat_le.mp (of_decide_eq_true high)
  have back : 48 + (c.toNat - 48) = c.toNat := by omega
  rw [back, UInt8.ofNat_toNat]
  exact ⟨by omega, rfl⟩

/-- Digits are the fixed width text of their value. -/
theorem fixedDecimal_decimalValue {digits : Bytes} (all : ∀ c ∈ digits, isDecimal c) :
    decimalValue digits < 10 ^ digits.length ∧
      fixedDecimal digits.length (decimalValue digits) = digits := by
  induction digits using List.reverseRecOn with
  | nil => exact ⟨Nat.one_pos, rfl⟩
  | append_singleton digits c ih =>
      obtain ⟨bound, same⟩ := ih fun d among => all d (List.mem_append_left _ among)
      obtain ⟨small, digit⟩ := digit_of_isDecimal (all c (List.mem_append_right _ List.mem_cons_self))
      rw [decimalValue_concat, List.length_append, List.length_singleton, fixedDecimal]
      have front : (10 * decimalValue digits + (c.toNat - 48)) / 10 = decimalValue digits := by omega
      have last : (10 * decimalValue digits + (c.toNat - 48)) % 10 = c.toNat - 48 := by omega
      rw [front, last, same, digit, Nat.pow_succ]
      exact ⟨by omega, rfl⟩

/-- `strtoull(s, &end, 10)` without its overflow: blanks, a sign, digits; the value is taken
    modulo the width where the sign is a minus, and `none` stands for no digit at all. -/
def strtoull (s : Bytes) : Option (Bool × Nat × Bytes) :=
  let signed := s.dropWhile isSpace
  let (negative, digits) := match signed with
    | 45 :: rest => (true, rest)
    | 43 :: rest => (false, rest)
    | _ => (false, signed)
  if digits.takeWhile isDecimal = [] then none
  else some (negative, decimalValue (digits.takeWhile isDecimal), digits.dropWhile isDecimal)

end FleetRMW.Lib
