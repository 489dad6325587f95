import FleetRMW.Lib.Json

/-! # Octets written as text

`bytes.fromhex` and `base64.b64decode(..., validate=True)` of Python's standard library;
`none` is `ValueError`.
-/

namespace FleetRMW.Lib

/-- `bytes.fromhex`, which skips ASCII white space between octets. -/
def fromHex : Str → Option Bytes
  | [] => some []
  | [c] => if c = 32 ∨ 9 ≤ c ∧ c ≤ 13 then some [] else none
  | c :: d :: s =>
      if c = 32 ∨ 9 ≤ c ∧ c ≤ 13 then fromHex (d :: s)
      else do
        let high ← Json.hexValue c
        let low ← Json.hexValue d
        return UInt8.ofNat (high * 16 + low) :: (← fromHex s)

/-- The six bits that a base64 character stands for. -/
def base64Value (c : Nat) : Option Nat :=
  if 65 ≤ c ∧ c ≤ 90 then some (c - 65)
  else if 97 ≤ c ∧ c ≤ 122 then some (c - 71)
  else if 48 ≤ c ∧ c ≤ 57 then some (c + 4)
  else if c = 43 then some 62
  else if c = 47 then some 63
  else none

def pad : Nat := 61

/-- `binascii.a2b_base64` in strict mode, from the start of a group of four. Padding behind
    a complete group is passed over. -/
def base64Groups : Str → Option Bytes
  | [] => some []
  | a :: b :: c :: d :: s => do
      if (a :: b :: c :: d :: s).all (· = pad) then
        return []
      let x ← base64Value a
      let y ← base64Value b
      let first := UInt8.ofNat (x * 4 + y / 16)
      if c = pad then
        if d = pad ∧ s = [] then return [first] else none
      let z ← base64Value c
      let second := UInt8.ofNat (y % 16 * 16 + z / 4)
      if d = pad then
        if s = [] then return [first, second] else none
      let w ← base64Value d
      return first :: second :: UInt8.ofNat (z % 4 * 64 + w) :: (← base64Groups s)
  | s => if s.all (· = pad) then some [] else none

/-- Padding may not come first. -/
def b64decode (s : Str) : Option Bytes :=
  if s.head? = some pad then none else base64Groups s

end FleetRMW.Lib
