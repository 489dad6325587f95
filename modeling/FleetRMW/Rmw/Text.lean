import FleetRMW.Lib.Search
import FleetRMW.Lib.Float64
import FleetRMW.Rmw.Frames

/-! # Texts of frames

The decoders do not parse a frame's text. They look for the first occurrence of a quoted key
and read what stands behind it, wherever that is. A conversion of digits that do not fit raises
`std::out_of_range`, and a read behind the end of a text is an error of its own here.
-/

namespace FleetRMW.Rmw

open Lib

inductive CppError where
  | outOfRange
  | pastEnd
  deriving Repr, DecidableEq

abbrev Cpp := Except CppError

def quotedKey (key : Bytes) : Bytes := 34 :: key ++ [34]

def skipSpaces (s : Bytes) : Bytes := s.dropWhile isSpace

/-- `json_escape` -/
def jsonEscape : Bytes → Bytes
  | [] => []
  | c :: value =>
      (if c = 92 ∨ c = 34 then [92, c] else if c = 10 then [92, 110] else [c]) ++ jsonEscape value

/-! ## Values behind a key -/

/-- The text behind a colon, from the value on. -/
def afterColon (s : Bytes) : Option Bytes :=
  match skipSpaces s with
  | 58 :: rest => some (skipSpaces rest)
  | _ => none

def jsonValueStart (payload key : Bytes) : Option Bytes :=
  (afterFirst (quotedKey key) payload).bind afterColon

/-- What an escaped octet stands for. -/
def unescape (c : UInt8) : UInt8 := if c = 110 then 10 else c

/-- The value of a string whose opening quote is behind, and the text behind its closing one. -/
def scanString (escaped : Bool) : Bytes → Option (Bytes × Bytes)
  | [] => none
  | c :: rest =>
      if escaped then (scanString false rest).map fun r => (unescape c :: r.1, r.2)
      else if c = 92 then scanString true rest
      else if c = 34 then some ([], rest)
      else (scanString false rest).map fun r => (c :: r.1, r.2)

/-- The string at the front of a text. -/
def stringAt : Bytes → Option Bytes
  | 34 :: rest => (scanString false rest).map Prod.fst
  | _ => none

def jsonStringValue (payload key : Bytes) : Option Bytes :=
  (jsonValueStart payload key).bind stringAt

/-- `std::stoull` of a run of digits. -/
def stoull (digits : Bytes) : Cpp UInt64 :=
  if decimalValue digits < 2 ^ 64 then .ok (UInt64.ofNat (decimalValue digits))
  else .error .outOfRange

/-- The digits behind a key, where there are any. -/
def digitRun (payload key : Bytes) : Option Bytes :=
  (jsonValueStart payload key).bind fun s =>
    let digits := (skipSpaces s).takeWhile isDecimal
    if digits = [] then none else some digits

def jsonUintValue (payload key : Bytes) : Cpp (Option UInt64) :=
  match digitRun payload key with
  | none => .ok none
  | some digits => some <$> stoull digits

def isNumeric (c : UInt8) : Bool :=
  isDecimal c || c == 45 || c == 43 || c == 46 || c == 101 || c == 69

/-- The conversion's exceptions are caught. -/
def jsonDoubleValue (payload key : Bytes) : Option Double :=
  (jsonValueStart payload key).bind fun s =>
    let text := s.takeWhile isNumeric
    if text = [] then none else (Float64.stod text).map Double.mk

def jsonBoolValue (payload key : Bytes) : Bool :=
  match jsonValueStart payload key with
  | none => false
  | some s => s.take 4 = octets "true"

/-- Some occurrence of the quoted key has this string as its value; an occurrence is not looked
    for inside the one before. -/
def hasStringValueFrom (needle expected : Bytes) : Nat → Bytes → Bool
  | _, [] => false
  | skip + 1, _ :: rest => hasStringValueFrom needle expected skip rest
  | 0, c :: rest =>
      if needle.isPrefixOf (c :: rest) then
        ((afterColon ((c :: rest).drop needle.length)).bind stringAt = some expected) ||
          hasStringValueFrom needle expected (needle.length - 1) rest
      else hasStringValueFrom needle expected 0 rest

def jsonHasStringValue (payload key expected : Bytes) : Bool :=
  hasStringValueFrom (quotedKey key) expected 0 payload

/-- The text up to the brace that closes the one at its front; braces in strings do not count. -/
def scanObject (inString escaped : Bool) (depth : Int) : Bytes → Option Bytes
  | [] => none
  | c :: rest =>
      if escaped then (scanObject inString false depth rest).map (c :: ·)
      else if c = 92 then (scanObject inString inString depth rest).map (c :: ·)
      else if c = 34 then (scanObject (!inString) false depth rest).map (c :: ·)
      else if inString then (scanObject inString false depth rest).map (c :: ·)
      else if c = 123 then (scanObject inString false (depth + 1) rest).map (c :: ·)
      else if c = 125 then
        if depth - 1 = 0 then some [c]
        else (scanObject inString false (depth - 1) rest).map (c :: ·)
      else (scanObject inString false depth rest).map (c :: ·)

def objectAt : Bytes → Option Bytes
  | 123 :: rest => scanObject false false 0 (123 :: rest)
  | _ => none

def jsonObjectValue (payload key : Bytes) : Option Bytes :=
  (jsonValueStart payload key).bind objectAt

/-- The strings up to the closing bracket; `current` is the string that is open. -/
def scanStringArray (values : List Bytes) : Option Bytes → Bool → Bytes → List Bytes
  | _, _, [] => []
  | none, escaped, c :: rest =>
      if c = 93 then values
      else if c = 34 then scanStringArray values (some []) escaped rest
      else scanStringArray values none escaped rest
  | some current, true, c :: rest =>
      scanStringArray values (some (current ++ [unescape c])) false rest
  | some current, false, c :: rest =>
      if c = 92 then scanStringArray values (some current) true rest
      else if c = 34 then scanStringArray (values ++ [current]) none false rest
      else scanStringArray values (some (current ++ [c])) false rest

def jsonStringArrayValue (payload key : Bytes) : List Bytes :=
  match jsonValueStart payload key with
  | some (91 :: rest) => scanStringArray [] none false rest
  | _ => []

/-- The runs of digits, `current` being the one that is open, up to a brace that stands before a
    quoted `state`. -/
def digitRunsBefore (current : Bytes) : Bytes → List Bytes
  | [] => if current = [] then [] else [current]
  | c :: rest =>
      if isDecimal c then digitRunsBefore (current ++ [c]) rest
      else
        (if current = [] then [] else [current]) ++
          if c = 125 ∧ contains (quotedKey (octets "state")) (c :: rest) then []
          else digitRunsBefore [] rest

/-- The key is looked for without quotes. -/
def digitRunsAfter (payload key : Bytes) : List Bytes :=
  match afterFirst key payload with
  | none => []
  | some rest => digitRunsBefore [] rest

def uintValuesAfter (payload key : Bytes) : Cpp (List UInt64) :=
  (digitRunsAfter payload key).mapM stoull

/-- The values in pairs; a last one without a partner is left out. -/
def pairUp : List UInt64 → List (UInt64 × UInt64)
  | a :: b :: rest => (a, b) :: pairUp rest
  | _ => []

def jsonUintPairArrayValue (payload key : Bytes) : Cpp (List (UInt64 × UInt64)) :=
  pairUp <$> uintValuesAfter payload key

/-! ## Padding and payloads -/

def stripPadding (payload : Bytes) : Bytes := (payload.reverse.dropWhile (· = 32)).reverse

def hexNibble (c : UInt8) : Option UInt8 :=
  if 48 ≤ c ∧ c ≤ 57 then some (c - 48)
  else if 97 ≤ c ∧ c ≤ 102 then some (c - 97 + 10)
  else if 65 ≤ c ∧ c ≤ 70 then some (c - 65 + 10)
  else none

/-- The loop reads two octets at a time. -/
def hexPairs : Bytes → Cpp (Option Bytes)
  | [] => .ok (some [])
  | [_] => .error .pastEnd
  | a :: b :: rest =>
      match hexNibble a, hexNibble b with
      | some high, some low => do
          let decoded ← hexPairs rest
          return decoded.map (((high <<< 4) ||| low) :: ·)
      | _, _ => .ok none

def hexDecode (encoded : Bytes) : Cpp (Option Bytes) :=
  if encoded.length % 2 ≠ 0 then .ok none else hexPairs encoded

/-- The octet of a sextet in the alphabet of base64. -/
def base64Letter (n : UInt32) : UInt8 :=
  let n := (n &&& 0x3F).toUInt8
  if n < 26 then 65 + n else if n < 52 then 71 + n else if n < 62 then n - 4
  else if n = 62 then 43 else 47

def base64Encode : Bytes → Bytes
  | a :: b :: c :: rest =>
      let chunk := (a.toUInt32 <<< 16) ||| (b.toUInt32 <<< 8) ||| c.toUInt32
      [base64Letter (chunk >>> 18), base64Letter (chunk >>> 12), base64Letter (chunk >>> 6),
        base64Letter chunk] ++ base64Encode rest
  | [a, b] =>
      let chunk := (a.toUInt32 <<< 16) ||| (b.toUInt32 <<< 8)
      [base64Letter (chunk >>> 18), base64Letter (chunk >>> 12), base64Letter (chunk >>> 6), 61]
  | [a] =>
      let chunk := a.toUInt32 <<< 16
      [base64Letter (chunk >>> 18), base64Letter (chunk >>> 12), 61, 61]
  | [] => []

def sextet (c : UInt8) : Option UInt32 :=
  if 65 ≤ c ∧ c ≤ 90 then some (c - 65).toUInt32
  else if 97 ≤ c ∧ c ≤ 122 then some (c - 97 + 26).toUInt32
  else if 48 ≤ c ∧ c ≤ 57 then some (c - 48 + 52).toUInt32
  else if c = 43 then some 62
  else if c = 47 then some 63
  else none

/-- The octets of one group of four letters. -/
def base64Group (c₀ c₁ c₂ c₃ : UInt8) : Option Bytes := do
  let s₀ ← sextet c₀
  let s₁ ← sextet c₁
  let s₂ ← if c₂ = 61 then some 0 else sextet c₂
  let s₃ ← if c₃ = 61 then some 0 else sextet c₃
  if c₂ = 61 ∧ c₃ ≠ 61 then none
  let chunk := (s₀ <<< 18) ||| (s₁ <<< 12) ||| (s₂ <<< 6) ||| s₃
  return [(chunk >>> 16).toUInt8] ++ (if c₂ = 61 then [] else [(chunk >>> 8).toUInt8]) ++
    (if c₃ = 61 then [] else [chunk.toUInt8])

/-- The loop reads four octets at a time. -/
def base64Groups : Bytes → Cpp (Option Bytes)
  | [] => .ok (some [])
  | c₀ :: c₁ :: c₂ :: c₃ :: rest =>
      match base64Group c₀ c₁ c₂ c₃ with
      | some octets => do
          let decoded ← base64Groups rest
          return decoded.map (octets ++ ·)
      | none => .ok none
  | _ => .error .pastEnd

def base64Decode (encoded : Bytes) : Cpp (Option Bytes) :=
  if encoded.length % 4 ≠ 0 then .ok none else base64Groups encoded

/-- The octets of a `serialized_payload` object; the inner `none` is an undecodable one. -/
def decodePayload (serializedPayload : Bytes) : Cpp (Option Bytes) :=
  if serializedPayload.isEmpty then .ok (some [])
  else
    match jsonStringValue serializedPayload (octets "encoding"),
      jsonStringValue serializedPayload (octets "data") with
    | some encoding, some encoded =>
        if encoding = octets "base64" then base64Decode encoded
        else if encoding = octets "hex" then hexDecode encoded
        else .ok none
    | _, _ => .ok none

end FleetRMW.Rmw
