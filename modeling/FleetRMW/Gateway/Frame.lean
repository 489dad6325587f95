import FleetRMW.Lib.Codec
import FleetRMW.Gateway.Metadata

/-! # Parsing a data frame

`parse_data_frame` takes the octets of a request to the metadata of a frame. Of the
exceptions that `json.loads` raises it turns only `JSONDecodeError` into a
`FrameValidationError`. `levels` is how deep `json.loads` may recurse at this point.
-/

namespace FleetRMW.Gateway

open Lib

def dataFrameMagic : Bytes := octets "FRMW1\n"

def dataFrameSchemaVersion : Str := lit "fleetrmw.data_frame.v1"

/-- What reading a document raises. -/
inductive ParseError where
  /-- `FrameValidationError`. -/
  | validation (message : String)
  /-- A plain `ValueError`. -/
  | valueError (message : String)
  /-- `RecursionError`. -/
  | recursion
  /-- `OverflowError`. -/
  | overflow
  deriving Repr, DecidableEq

/-- The exceptions of `json.loads(text.decode("utf-8"))`. -/
inductive ReadError where
  | unicodeDecode
  | json (e : JsonError)
  deriving Repr, DecidableEq

/-- `json.loads(body.decode("utf-8"))`. -/
def readJson (levels : Nat) (body : Bytes) : Except ReadError PyJson :=
  match utf8Decode body with
  | none => .error .unicodeDecode
  | some text => (Json.loads levels text).mapError .json

/-- `except (UnicodeDecodeError, JSONDecodeError)` and the exceptions that pass it by. -/
def ReadError.toParseError (message : String) : ReadError → ParseError
  | json .digitLimit => .valueError "Exceeds the limit (4300 digits) for integer string conversion"
  | json .recursion => .recursion
  | _ => .validation message

/-- The pairs of a dictionary. -/
def asDict : Option PyJson → Option (List (Str × PyJson))
  | some (.dict entries) => some entries
  | _ => none

def asStr : Option PyJson → Option Str
  | some (.str s) => some s
  | _ => none

/-- An `int` that is not a `bool`. -/
def asInt : Option PyJson → Option Int
  | some (.int i) => some i
  | _ => none

def asBool : Option PyJson → Option Bool
  | some (.bool b) => some b
  | _ => none

/-- `isinstance` checks that raise. -/
def require {ε α : Type} (found : Option α) (e : ε) : Except ε α :=
  match found with
  | some a => .ok a
  | none => .error e

@[simp] theorem require_eq_ok {ε α : Type} {found : Option α} {e : ε} {a : α} :
    require found e = .ok a ↔ found = some a := by
  cases found with
  | none => simp only [require, reduceCtorEq]
  | some b => simp only [require, Except.ok.injEq, Option.some.injEq]

/-- `float(value)` of a number, where an `int` may be too large. -/
def toFloat : PyJson → Except ParseError (Option PyFloat)
  | .int i =>
      match toDoubleInt i with
      | some q => .ok (some (.finite q))
      | none => .error .overflow
  | .float f => .ok (some f)
  | _ => .ok none
where
  toDoubleInt (i : Int) : Option Rat :=
    if -Json.doubleLimit < (i : Rat) ∧ (i : Rat) < Json.doubleLimit then some i else none

/-- The local function `number`, whose minimum is always 0. -/
def number (source : List (Str × PyJson)) (key : String) (maximum : Option Rat) :
    Except ParseError Rat := do
  let value ← toFloat ((PyJson.lookup source (lit key)).getD (.float (.finite 0)))
  match value with
  | none => throw (.validation (key ++ " must be numeric"))
  | some (.finite q) => do
      raiseIf (q < 0 ∨ maximum.any fun m => q > m)
        (.validation (key ++ " is outside its valid range"))
      pure q
  | some _ => throw (.validation (key ++ " is outside its valid range"))

/-- The check of `serialized_payload`: its size is that of the decoded data. -/
def checkSerialized : Option PyJson → Except ParseError Unit
  | none => .ok ()
  | some .null => .ok ()
  | some (.dict serialized) => do
      let encoding := asStr (PyJson.lookup serialized (lit "encoding"))
      raiseIf (encoding ≠ some (lit "hex") ∧ encoding ≠ some (lit "base64"))
        (.validation "serialized payload must use hex or base64 encoding")
      let encoded ← require (asStr (PyJson.lookup serialized (lit "data")))
        (.validation "serialized payload must use hex or base64 encoding")
      let decoded ← require
        (if encoding = some (lit "base64") then b64decode encoded else fromHex encoded)
        (.validation "serialized payload contains invalid encoded data")
      raiseIf (asInt (PyJson.lookup serialized (lit "size")) ≠ some (decoded.length : Int))
        (.validation "serialized payload size does not match data")
  | some _ => .error (.validation "serialized_payload must be an object")

/-- `parse_data_frame` from the decoded document on. -/
def frameOfDocument (document : PyJson) (frameBytes : Nat) : Except ParseError FrameMetadata := do
  let document ← require (asDict (some document))
    (.validation "frame document must be an object")
  let get (key : String) := PyJson.lookup document (lit key)
  raiseIf (asStr (get "schema_version") ≠ some dataFrameSchemaVersion)
    (.validation "unsupported FleetRMW data-frame schema")
  let route ← require (asDict (get "route"))
    (.validation "route and sample_envelope objects are required")
  let envelope ← require (asDict (get "sample_envelope"))
    (.validation "route and sample_envelope objects are required")
  let topic ← require ((asStr (PyJson.lookup route (lit "topic"))).filter (lit "/").isPrefixOf)
    (.validation "route.topic must be an absolute ROS topic")
  raiseIf (asStr (PyJson.lookup envelope (lit "topic")) ≠ some topic)
    (.validation "route and sample_envelope topics differ")
  let publisherId ← require
    ((asStr (PyJson.lookup envelope (lit "publisher_id"))).filter (· ≠ []))
    (.validation "sample_envelope.publisher_id is required")
  let sequence ← require
    ((asInt (PyJson.lookup envelope (lit "source_sequence_number"))).filter (0 < ·))
    (.validation "source_sequence_number must be positive")
  let domainId ← require ((asInt (some ((get "domain_id").getD (.int 0)))).filter (0 ≤ ·))
    (.validation "domain_id must be non-negative")
  checkSerialized (get "serialized_payload")
  let flowClass ← require (asStr (some ((PyJson.lookup route (lit "flow_class")).getD (.str []))))
    (.validation "route flow_class and robot_id must be strings")
  let robotId ← require
    (asStr (some ((PyJson.lookup route (lit "robot_id")).getD
      ((PyJson.lookup envelope (lit "robot_id")).getD (.str [])))))
    (.validation "route flow_class and robot_id must be strings")
  let section_ (key : String) := require (asDict (some ((get key).getD (.dict []))))
    (ParseError.validation "delivery, timing, qox, and repair must be objects")
  let delivery ← section_ "delivery"
  let timing ← section_ "timing"
  let qox ← section_ "qox"
  let repair ← section_ "repair"
  let deadlineMs ← number delivery "deadline_ms" none
  let ageMs ← number timing "age_ms" none
  let qoeDebt ← number qox "qoe_debt" (some 1)
  let criticality ← number qox "task_criticality" (some 1)
  let repairRequested ← require
    (asBool (some ((PyJson.lookup repair (lit "requested")).getD (.bool false))))
    (.validation "repair.requested must be boolean")
  let priorAttempts ← require
    ((asInt (some ((PyJson.lookup repair (lit "prior_attempts")).getD (.int 0)))).filter (0 ≤ ·))
    (.validation "repair.prior_attempts must be non-negative")
  pure {
    domainId, topic, publisherId, sourceSequenceNumber := sequence, robotId,
    trafficClass := flowClass, deadlineMs, ageMs, qoeDebt, criticality, repairRequested,
    priorRepairAttempts := priorAttempts, frameBytes }

def parseDataFrame (levels : Nat) (payload : Bytes) (maxFrameBytes : Int) :
    Except ParseError FrameMetadata := do
  raiseIf (payload = [] ∨ (payload.length : Int) > maxFrameBytes)
    (.validation "frame body is empty or exceeds max_frame_bytes")
  raiseIf (¬dataFrameMagic.isPrefixOf payload)
    (.validation "frame body is missing FRMW1 magic")
  let document ← (readJson levels (payload.drop dataFrameMagic.length)).mapError
    (ReadError.toParseError "frame body is not valid UTF-8 JSON")
  frameOfDocument document payload.length

end FleetRMW.Gateway
