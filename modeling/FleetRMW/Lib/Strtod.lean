import FleetRMW.Lib.Decimal
import Mathlib.Algebra.Order.Ring.Rat
import Mathlib.Order.WithBot

/-! # Numbers of the C library

`strtod` reads a decimal or a hexadecimal number, an infinity or a NaN, and gives what follows it.
What it reads is taken exactly here.
-/

namespace FleetRMW.Lib

/-- A rational number or an infinity. -/
abbrev ExtendedRat := WithBot (WithTop ℚ)

inductive Number where
  | nan
  | number (value : ExtendedRat)
  deriving DecidableEq

namespace Number

/-- Nothing compares with a NaN. -/
def lt : Number → Number → Bool
  | .number left, .number right => left < right
  | _, _ => false

def le : Number → Number → Bool
  | .number left, .number right => left ≤ right
  | _, _ => false

def infinity (negative : Bool) : Number := if negative then .number ⊥ else .number (⊤ : WithTop ℚ)

def finite (negative : Bool) (value : ℚ) : Number :=
  .number ((if negative then -value else value : ℚ) : WithTop ℚ)

end Number

def toLower (c : UInt8) : UInt8 := if 65 ≤ c && c ≤ 90 then c + 32 else c

/-- The text starts with the word, in letters of either case; what follows it. -/
def afterWord (word : String) (s : Bytes) : Option Bytes :=
  if (octets word).isPrefixOf (s.map toLower) then some (s.drop (octets word).length) else none

def isHexadecimal (c : UInt8) : Bool := isDecimal c || (97 ≤ toLower c && toLower c ≤ 102)

def hexadecimalValue (digits : Bytes) : Nat :=
  digits.foldl (fun n d => 16 * n + if isDecimal d then d.toNat - 48 else (toLower d).toNat - 87) 0

/-- The digits in front of the point and behind it, at least one of them, and what follows. -/
def mantissa (isDigit : UInt8 → Bool) (s : Bytes) : Option (Bytes × Bytes × Bytes) :=
  let whole := s.takeWhile isDigit
  let rest := s.dropWhile isDigit
  let (part, rest) := if rest.head? = some 46 then
      (rest.tail.takeWhile isDigit, rest.tail.dropWhile isDigit)
    else ([], rest)
  if whole = [] ∧ part = [] then none else some (whole, part, rest)

/-- The exponent behind a letter, or 0 where there is none, and what follows. -/
def exponent (letter : UInt8) (s : Bytes) : Int × Bytes :=
  if s.head?.map toLower = some letter then
    let (negative, digits) := match s.tail with
      | 45 :: rest => (true, rest)
      | 43 :: rest => (false, rest)
      | rest => (false, rest)
    if digits.takeWhile isDecimal = [] then (0, s)
    else
      let size : Int := decimalValue (digits.takeWhile isDecimal)
      (if negative then -size else size, digits.dropWhile isDecimal)
  else (0, s)

/-- `m * base ^ e` -/
def scaled (base m : Nat) (e : Int) : ℚ :=
  if 0 ≤ e then (m : ℚ) * (base : ℚ) ^ e.toNat else (m : ℚ) / (base : ℚ) ^ (-e).toNat

def strtodDecimal (s : Bytes) : Option (ℚ × Bytes) := do
  let (whole, part, rest) ← mantissa isDecimal s
  let (e, rest) := exponent 101 rest
  return (scaled 10 (decimalValue (whole ++ part)) (e - part.length), rest)

/-- The digits of the mantissa stand for four bits each. -/
def strtodHexadecimal (s : Bytes) : Option (ℚ × Bytes) := do
  let digits ← afterWord "0x" s
  let (whole, part, rest) ← mantissa isHexadecimal digits
  let (e, rest) := exponent 112 rest
  return (scaled 2 (hexadecimalValue (whole ++ part)) (e - 4 * part.length), rest)

/-- What may stand behind a NaN. -/
def afterNan (s : Bytes) : Bytes :=
  match s with
  | 40 :: rest =>
      match rest.dropWhile fun c => isDecimal c || (97 ≤ toLower c && toLower c ≤ 122) || c == 95 with
      | 41 :: rest => rest
      | _ => s
  | _ => s

/-- `none` where nothing is converted. -/
def strtod (s : Bytes) : Option (Number × Bytes) :=
  let signed := s.dropWhile isSpace
  let (negative, s) := match signed with
    | 45 :: rest => (true, rest)
    | 43 :: rest => (false, rest)
    | _ => (false, signed)
  match afterWord "infinity" s <|> afterWord "inf" s with
  | some rest => some (.infinity negative, rest)
  | none =>
      match afterWord "nan" s with
      | some rest => some (.nan, afterNan rest)
      | none => (strtodHexadecimal s <|> strtodDecimal s).map fun read =>
          (.finite negative read.1, read.2)

end FleetRMW.Lib
