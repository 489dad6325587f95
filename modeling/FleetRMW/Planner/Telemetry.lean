import FleetRMW.Lib.FileLines
import FleetRMW.Lib.FloatOps
import FleetRMW.Lib.Unicode

/-! # Telemetry files

Routers and subscribers append a JSON object to a file for every frame. The path controller tails
the files: it reads on from where it stopped, line by line, and keeps the records that it can
parse.
-/

namespace FleetRMW.Planner

open Lib FloatOps

def routerTelemetrySchemaVersion : Str := lit "fleetrmw.router_path_telemetry.v1"
def subscriberTelemetrySchemaVersion : Str := lit "fleetrmw.subscriber_delivery_telemetry.v1"

/-! ## Values -/

/-- What Python's constructors make of texts and numbers. -/
structure Conversions (F : Type) where
  /-- `str(value)` of what is no text -/
  written : PyJson → Option Str
  /-- `int(text)`; `none` is `ValueError` -/
  intOfText : Str → Option Int
  /-- `float(text)`; `none` is `ValueError` -/
  floatOfText : Str → Option F
  double : PyFloat → F
  /-- `float(n)`; `none` is `OverflowError` -/
  floatOfInt : Int → Option F
  lower : Str → Str

variable {F : Type} [FloatOps F] (conversions : Conversions F)

/-- `data.get(key, default)` -/
def getOr (data : List (Str × PyJson)) (key : String) (default : PyJson) : PyJson :=
  (PyJson.lookup data (lit key)).getD default

/-- `str(value)` -/
def strValue : PyJson → Option Str
  | .str s => some s
  | value => conversions.written value

/-- A `TypeError` or `ValueError` gives 0, an `OverflowError` is raised. -/
def intValue : PyJson → Option Int
  | .int i => some i
  | .bool b => some (if b then 1 else 0)
  | .float (.finite q) => some (q.num.tdiv q.den)
  | .float (.inf _) => none
  | .str s => some ((conversions.intOfText s).getD 0)
  | .float .nan | .null | .list _ | .dict _ => some 0

def floatValue : PyJson → Option F
  | .float f => some (conversions.double f)
  | .int i => conversions.floatOfInt i
  | .bool b => conversions.floatOfInt (if b then 1 else 0)
  | .str s => some ((conversions.floatOfText s).getD 0.0)
  | .null | .list _ | .dict _ => some 0.0

def optionalFraction : PyJson → Option (Option F)
  | .null => some none
  | value => do
      let parsed ← floatValue conversions value
      let parsed := if parsed > 1.0 then parsed / 100.0 else parsed
      return some (pyMin 1.0 (pyMax 0.0 parsed))

def boolValue : PyJson → Bool
  | .bool b => b
  | .str s => [lit "1", lit "true", lit "yes", lit "y", lit "on"].contains (conversions.lower s)
  | .null => false
  | .int i => i ≠ 0
  | .float (.finite q) => q ≠ 0
  | .float _ => true
  | .list items => !items.isEmpty
  | .dict entries => !entries.isEmpty

/-! ## Records -/

structure RouterTelemetryRecord (F : Type) where
  pathId : Str
  topic : Str
  sequenceNumber : Int
  event : Str
  latencyMs : F
  jitterMs : F
  sentFrames : Int
  deliveredFrames : Int
  nackFrames : Int
  bytesSent : Int
  capacityBytes : Int
  loss : Option F
  nackRate : Option F
  deadlineMissRatio : Option F
  bandwidthUtilization : Option F
  failureDomain : Str

def zero : PyJson := .int 0
def zeroFloat : PyJson := .float (.finite 0)
def emptyText : PyJson := .str []

def RouterTelemetryRecord.fromMapping (data : List (Str × PyJson)) :
    Option (RouterTelemetryRecord F) := do
  let str := strValue conversions
  let int := intValue conversions
  let float := floatValue conversions
  let fraction := optionalFraction conversions
  return {
    pathId := ← str (getOr data "path_id" (getOr data "path" emptyText))
    topic := ← str (getOr data "topic" emptyText)
    sequenceNumber := ← int (getOr data "source_sequence_number" (getOr data "sequence_number" zero))
    event := ← str (getOr data "event" (.str (lit "data_frame")))
    latencyMs := ← float (getOr data "latency_ms" zeroFloat)
    jitterMs := ← float (getOr data "jitter_ms" zeroFloat)
    sentFrames := max 0 (← int (getOr data "sent_frames" (.int 1)))
    deliveredFrames := max 0 (← int (getOr data "delivered_frames" (.int 1)))
    nackFrames := max 0 (← int (getOr data "nack_frames" zero))
    bytesSent := max 0 (← int (getOr data "bytes_sent" (getOr data "payload_bytes" zero)))
    capacityBytes := max 0 (← int (getOr data "capacity_bytes" zero))
    loss := ← fraction (getOr data "loss" .null)
    nackRate := ← fraction (getOr data "nack_rate" .null)
    deadlineMissRatio := ← fraction (getOr data "deadline_miss_ratio" .null)
    bandwidthUtilization := ← fraction (getOr data "bandwidth_utilization" .null)
    failureDomain := ← str (getOr data "failure_domain" emptyText) }

structure SubscriberDeliveryTelemetryRecord (F : Type) where
  robotId : Str
  topic : Str
  sequenceNumber : Int
  event : Str
  latencyMs : F
  deadlineMs : F
  deadlineMissed : Bool
  delivered : Bool
  duplicate : Bool

def SubscriberDeliveryTelemetryRecord.fromMapping (data : List (Str × PyJson)) :
    Option (SubscriberDeliveryTelemetryRecord F) := do
  let str := strValue conversions
  return {
    robotId := ← str (getOr data "robot_id" emptyText)
    topic := ← str (getOr data "topic" emptyText)
    sequenceNumber := ← intValue conversions
      (getOr data "source_sequence_number" (getOr data "sequence_number" zero))
    event := ← str (getOr data "event" (.str (lit "take")))
    latencyMs := pyMax 0.0 (← floatValue conversions (getOr data "latency_ms" zeroFloat))
    deadlineMs := pyMax 0.0 (← floatValue conversions (getOr data "deadline_ms" zeroFloat))
    deadlineMissed := boolValue conversions (getOr data "deadline_missed" (.bool false))
    delivered := boolValue conversions (getOr data "delivered" (.bool true))
    duplicate := boolValue conversions (getOr data "duplicate" (.bool false)) }

inductive TelemetryRecord (F : Type) where
  | router (record : RouterTelemetryRecord F)
  | subscriber (record : SubscriberDeliveryTelemetryRecord F)

/-! ## Lines -/

/-- A line of telemetry, where `levels` are left of the interpreter's recursion. Outside is `none`
    when the parser raises, inside when it finds no record. -/
def parseTelemetryLine (levels : Nat) (schemaVersion : Str)
    (fromMapping : List (Str × PyJson) → Option (TelemetryRecord F)) (line : Str) :
    Option (Option (TelemetryRecord F)) :=
  let stripped := strip line
  if stripped = [] then some none
  else match Json.loads levels stripped with
    | .error .decode => some none
    | .error _ => none
    | .ok (.dict data) =>
        (strValue conversions (getOr data "schema_version" emptyText)).bind fun schema =>
          if schema ≠ [] ∧ schema ≠ schemaVersion then some none
          else (fromMapping data).map some
    | .ok _ => some none

def parseRouterTelemetryLine (levels : Nat) (line : Str) : Option (Option (TelemetryRecord F)) :=
  parseTelemetryLine conversions levels routerTelemetrySchemaVersion
    (fun data => (RouterTelemetryRecord.fromMapping conversions data).map .router) line

def parseSubscriberTelemetryLine (levels : Nat) (line : Str) :
    Option (Option (TelemetryRecord F)) :=
  parseTelemetryLine conversions levels subscriberTelemetrySchemaVersion
    (fun data => (SubscriberDeliveryTelemetryRecord.fromMapping conversions data).map .subscriber)
    line

/-! ## The tailer -/

/-- Universal newlines: a carriage return ends a line too, alone or with a line feed. -/
def universalNewlines : Str → Str
  | [] => []
  | 13 :: 10 :: text => 10 :: universalNewlines text
  | 13 :: text => 10 :: universalNewlines text
  | c :: text => c :: universalNewlines text

structure JsonlTelemetryTailer (P : Type) where
  paths : List P
  kind : Str
  offsets : Dict P Nat

/-- `__init__` -/
def JsonlTelemetryTailer.create {P : Type} [DecidableEq P] (paths : List P)
    (kind : Str) : JsonlTelemetryTailer P where
  paths := paths
  kind := kind
  offsets := paths.foldl (fun offsets path => offsets.set path 0) []

namespace JsonlTelemetryTailer

variable {P : Type} [DecidableEq P] (levels : Nat)

def parseLine (kind line : Str) : Option (Option (TelemetryRecord F)) :=
  if kind = lit "subscriber" then parseSubscriberTelemetryLine conversions levels line
  else parseRouterTelemetryLine conversions levels line

/-- What a file has behind an offset. Octets that end inside a character cannot be decoded. -/
def readOn (kind : Str) (offset : Nat) (file : Bytes) : Option (List (TelemetryRecord F)) :=
  (utf8Decode (file.drop offset)).bind fun text =>
    recordsOf 10 (parseLine conversions levels kind) (universalNewlines text)

/-- The loop of `poll`: a file that cannot be read ends it, and the offsets that were moved before
    stay so. -/
def pollPaths (kind : Str) (files : P → Option Bytes) :
    List P → Dict P Nat → Option (List (TelemetryRecord F)) × Dict P Nat
  | [], offsets => (some [], offsets)
  | path :: paths, offsets =>
      match files path with
      | none => pollPaths kind files paths offsets
      | some file =>
          match readOn conversions levels kind ((offsets.get? path).getD 0) file with
          | none => (none, offsets)
          | some records =>
              let (more, offsets) := pollPaths kind files paths (offsets.set path file.length)
              (more.map (records ++ ·), offsets)

/-- `poll`: `none` when it raises. -/
def poll (tailer : JsonlTelemetryTailer P) (files : P → Option Bytes) :
    Option (List (TelemetryRecord F)) × JsonlTelemetryTailer P :=
  let (records, offsets) :=
    pollPaths conversions levels tailer.kind files tailer.paths tailer.offsets
  (records, { tailer with offsets := offsets })

end JsonlTelemetryTailer

end FleetRMW.Planner
