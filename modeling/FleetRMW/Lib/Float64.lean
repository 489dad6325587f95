import FleetRMW.Lib.Decimal
import Mathlib.Data.Nat.Log
import Mathlib.Data.Rat.Defs
import Mathlib.Algebra.Order.Ring.Rat

/-! # Texts of 64-bit floats

A float is its bits. `printf("%.6g")` writes six significant digits, the nearest to the exact
value and the even one of two, without trailing zeros. `stod` reads the nearest float and
raises where the text is no number or the value is out of range.
-/

namespace FleetRMW.Lib.Float64

def isNegative (bits : UInt64) : Bool := bits ≥ 0x8000000000000000
def exponentField (bits : UInt64) : Nat := (bits >>> 52).toNat % 2048
def fraction (bits : UInt64) : Nat := bits.toNat % 2 ^ 52
def isFinite (bits : UInt64) : Bool := exponentField bits ≠ 2047

/-- `value > 0.0` -/
def isPositive (bits : UInt64) : Bool := 0 < bits && bits ≤ 0x7FF0000000000000

/-- The magnitude of a finite float as a multiple of `2 ^ -1074`. -/
def units (bits : UInt64) : Nat :=
  if exponentField bits = 0 then fraction bits
  else (2 ^ 52 + fraction bits) * 2 ^ (exponentField bits - 1)

/-- `num / den`, rounded to the nearest and to the even one of two. -/
def roundHalfEven (num den : Nat) : Nat :=
  let q := num / den
  if 2 * (num % den) > den ∨ (2 * (num % den) = den ∧ q % 2 = 1) then q + 1 else q

/-- The largest `x` with `10 ^ x ≤ num / den`. -/
def decimalExponent (num den : Nat) : Int :=
  if den ≤ num then Nat.log 10 (num / den) else -(Nat.clog 10 ((den + num - 1) / num) : Int)

/-- Six digits and the exponent of the first one. -/
def sixDigits (num den : Nat) : Nat × Int :=
  let x := decimalExponent num den
  let n := if x ≤ 5 then roundHalfEven (num * 10 ^ (5 - x).toNat) den
    else roundHalfEven num (den * 10 ^ (x - 5).toNat)
  if n = 10 ^ 6 then (10 ^ 5, x + 1) else (n, x)

def dropZeros (digits : Bytes) : Bytes := (digits.reverse.dropWhile (· = 48)).reverse

/-- A point and the digits, or nothing where no digit is left. -/
def pointed (digits : Bytes) : Bytes := if digits = [] then [] else 46 :: digits

def exponentText (x : Int) : Bytes :=
  [101, if x < 0 then 45 else 43] ++ (if x.natAbs < 10 then [48] else []) ++ decimal x.natAbs

def magnitudeText (num den : Nat) : Bytes :=
  let (n, x) := sixDigits num den
  let digits := decimal n
  if x < -4 ∨ 6 ≤ x then
    digits.take 1 ++ pointed (dropZeros (digits.drop 1)) ++ exponentText x
  else if 0 ≤ x then
    digits.take (x.toNat + 1) ++ pointed (dropZeros (digits.drop (x.toNat + 1)))
  else [48] ++ pointed (dropZeros (List.replicate (-x - 1).toNat 48 ++ digits))

/-- `printf("%.6g", value)` -/
def printG6 (bits : UInt64) : Bytes :=
  (if isNegative bits then [45] else []) ++
    if exponentField bits = 2047 then (if fraction bits = 0 then octets "inf" else octets "nan")
    else if units bits = 0 then [48]
    else magnitudeText (units bits) (2 ^ 1074)

/-- The digits of a number's text: those before and behind the point, and the exponent. -/
def scanNumber (s : Bytes) : Option (Bytes × Bytes × Int) :=
  let whole := s.takeWhile isDecimal
  let s := s.dropWhile isDecimal
  let (parts, s) := match s with
    | 46 :: rest => (rest.takeWhile isDecimal, rest.dropWhile isDecimal)
    | _ => ([], s)
  let x : Int := match s with
    | e :: rest =>
        if e = 101 ∨ e = 69 then
          match rest with
          | 45 :: ds => -(decimalValue (ds.takeWhile isDecimal) : Int)
          | 43 :: ds => decimalValue (ds.takeWhile isDecimal)
          | ds => decimalValue (ds.takeWhile isDecimal)
        else 0
    | [] => 0
  if whole = [] ∧ parts = [] then none else some (whole, parts, x)

/-- The nearest float of `num / den` without its sign, `none` where it is too large, or too small
    to be exact. -/
def nearest (num den : Nat) : Option UInt64 :=
  -- the exponent field for which the fraction has its 53 bits
  let e := (Nat.log 2 (num * 2 ^ 1074 / den) : Int) - 52
  let shift := e.toNat
  let n := roundHalfEven (num * 2 ^ 1074) (den * 2 ^ shift)
  if n < 2 ^ 52 ∧ num * 2 ^ 1074 % den ≠ 0 then none
  else
    let bits := if n < 2 ^ 52 then n else n - 2 ^ 52 + (shift + 1) * 2 ^ 52
    if bits ≥ 0x7FF0000000000000 then none else some (UInt64.ofNat bits)

/-- `std::stod` of a text of digits, points, signs and exponent marks. -/
def stod (s : Bytes) : Option UInt64 := do
  let (negative, s) := match s with
    | 45 :: rest => (true, rest)
    | 43 :: rest => (false, rest)
    | _ => (false, s)
  let (whole, parts, x) ← scanNumber s
  let n := decimalValue (whole ++ parts)
  let x := x - parts.length
  let magnitude ← if n = 0 then some 0
    else if 0 ≤ x then nearest (n * 10 ^ x.toNat) 1 else nearest n (10 ^ (-x).toNat)
  return if negative then magnitude ||| 0x8000000000000000 else magnitude

end FleetRMW.Lib.Float64
