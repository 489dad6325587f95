import Mathlib.Tactic.Linarith
import Mathlib.Tactic.NormNum
import FleetRMW.Lib.Json

/-! # The robot's control lease

`LocalControlLeaseState` lets commands through to the robot while a lease is active. A
command is clipped to the bounds of the policy and then limited in acceleration and jerk; a
lease that has expired is answered with a fallback. Numbers that the source holds as floats
are rationals here, and arithmetic on them is exact. `float` stands for the built-in of that
name, with `none` where it raises. The texts of the decisions are left out.
-/

namespace FleetRMW.Robot

open Lib

instance instLawfulBEqEventId : LawfulBEq (Option Int) := inferInstance

structure TwistCommand where
  linearX : Rat := 0
  linearY : Rat := 0
  linearZ : Rat := 0
  angularX : Rat := 0
  angularY : Rat := 0
  angularZ : Rat := 0
  deriving Repr, DecidableEq

def TwistCommand.zero : TwistCommand := {}

structure TwistAcceleration where
  linearX : Rat := 0
  angularZ : Rat := 0
  deriving Repr, DecidableEq

def TwistAcceleration.zero : TwistAcceleration := {}

/-! ## The policy -/

inductive ExpiryAction where
  | stop
  | holdLast
  | drop
  deriving Repr, DecidableEq

structure LeasePolicy where
  maxLinearX : Rat := 1/4
  maxAbsLinearY : Rat := 0
  maxAbsLinearZ : Rat := 0
  maxAbsAngularX : Rat := 0
  maxAbsAngularY : Rat := 0
  maxAbsAngularZ : Rat := 7/20
  maxLinearAccelX : Rat := 1
  maxAbsAngularAccelZ : Rat := 2
  maxLinearJerkX : Rat := 20
  maxAbsAngularJerkZ : Rat := 40
  maxLocalLifespanMs : Rat := 500
  pendingCommandWindowMs : Rat := 120
  publishStopOnExpiry : Bool := true
  expiryAction : ExpiryAction := .stop
  deriving Repr, DecidableEq

section
variable (float : PyJson → Option Rat)

/-- `_optional_float`, of what `get` returned. -/
def optionalFloat (value : Option PyJson) : Option Rat := value.bind float

def positiveFloat (value : Option PyJson) (default : Rat) : Rat :=
  match optionalFloat float value with
  | some parsed => if parsed ≤ 0 then default else parsed
  | none => default

def nonnegativeFloat (value : Option PyJson) (default : Rat) : Rat :=
  match optionalFloat float value with
  | some parsed => if parsed < 0 then default else parsed
  | none => default

/-- `int(float(value))`, which rounds towards zero. -/
def optionalInt (value : Option PyJson) : Option Int :=
  (optionalFloat float value).map fun parsed => parsed.num.tdiv parsed.den

end

def lowered (s : Str) : Str := s.map fun c => if 65 ≤ c ∧ c ≤ 90 then c + 32 else c

/-- `_bool`, whose last case is about the text of the value. -/
def boolOf (value : Option PyJson) (default : Bool) : Bool :=
  match value with
  | none | some .null => default
  | some (.bool b) => b
  | some (.int i) => i = 1
  | some (.str s) => lowered s ∈ [lit "1", lit "true", lit "yes", lit "on"]
  | some _ => false

/-- The check of `expiry_action`, which raises for any other text. -/
def expiryActionOf : Option PyJson → Option ExpiryAction
  | none => some .stop
  | some (.str s) =>
      if s = lit "stop" then some .stop
      else if s = lit "hold_last" then some .holdLast
      else if s = lit "drop" then some .drop
      else none
  | some _ => none

namespace LeasePolicy

/-- The policy of a profile, where its `expiry_action` is a valid one. -/
def fromMapping (float : PyJson → Option Rat) (payload : List (Str × PyJson)) :
    Option LeasePolicy :=
  let get (key : String) := PyJson.lookup payload (lit key)
  let cls : LeasePolicy := {}
  (expiryActionOf (get "expiry_action")).map fun expiryAction => {
    maxLinearX := positiveFloat float (get "max_linear_x") cls.maxLinearX
    maxAbsLinearY := nonnegativeFloat float (get "max_abs_linear_y") cls.maxAbsLinearY
    maxAbsLinearZ := nonnegativeFloat float (get "max_abs_linear_z") cls.maxAbsLinearZ
    maxAbsAngularX := nonnegativeFloat float (get "max_abs_angular_x") cls.maxAbsAngularX
    maxAbsAngularY := nonnegativeFloat float (get "max_abs_angular_y") cls.maxAbsAngularY
    maxAbsAngularZ := nonnegativeFloat float (get "max_abs_angular_z") cls.maxAbsAngularZ
    maxLinearAccelX := nonnegativeFloat float (get "max_linear_accel_x") cls.maxLinearAccelX
    maxAbsAngularAccelZ :=
      nonnegativeFloat float (get "max_abs_angular_accel_z") cls.maxAbsAngularAccelZ
    maxLinearJerkX := nonnegativeFloat float (get "max_linear_jerk_x") cls.maxLinearJerkX
    maxAbsAngularJerkZ :=
      nonnegativeFloat float (get "max_abs_angular_jerk_z") cls.maxAbsAngularJerkZ
    maxLocalLifespanMs :=
      positiveFloat float (get "max_local_lifespan_ms") cls.maxLocalLifespanMs
    pendingCommandWindowMs :=
      nonnegativeFloat float (get "pending_command_window_ms") cls.pendingCommandWindowMs
    publishStopOnExpiry := boolOf (get "publish_stop_on_expiry") cls.publishStopOnExpiry
    expiryAction }

/-- The bounds that `from_mapping` lets through. -/
structure Valid (policy : LeasePolicy) : Prop where
  maxLinearX : 0 < policy.maxLinearX
  maxAbsLinearY : 0 ≤ policy.maxAbsLinearY
  maxAbsLinearZ : 0 ≤ policy.maxAbsLinearZ
  maxAbsAngularX : 0 ≤ policy.maxAbsAngularX
  maxAbsAngularY : 0 ≤ policy.maxAbsAngularY
  maxAbsAngularZ : 0 ≤ policy.maxAbsAngularZ
  maxLinearAccelX : 0 ≤ policy.maxLinearAccelX
  maxAbsAngularAccelZ : 0 ≤ policy.maxAbsAngularAccelZ
  maxLinearJerkX : 0 ≤ policy.maxLinearJerkX
  maxAbsAngularJerkZ : 0 ≤ policy.maxAbsAngularJerkZ
  maxLocalLifespanMs : 0 < policy.maxLocalLifespanMs
  pendingCommandWindowMs : 0 ≤ policy.pendingCommandWindowMs

end LeasePolicy

theorem positiveFloat_pos (float : PyJson → Option Rat) (value : Option PyJson) {default : Rat}
    (h : 0 < default) : 0 < positiveFloat float value default := by
  unfold positiveFloat
  split
  · split
    case isTrue => exact h
    case isFalse positive => exact not_le.mp positive
  · exact h

theorem nonnegativeFloat_nonneg (float : PyJson → Option Rat) (value : Option PyJson)
    {default : Rat} (h : 0 ≤ default) : 0 ≤ nonnegativeFloat float value default := by
  unfold nonnegativeFloat
  split
  · split
    case isTrue => exact h
    case isFalse nonnegative => exact not_lt.mp nonnegative
  · exact h

theorem LeasePolicy.fromMapping_valid {float : PyJson → Option Rat}
    {payload : List (Str × PyJson)} {policy : LeasePolicy}
    (accepted : fromMapping float payload = some policy) : policy.Valid := by
  obtain ⟨expiryAction, _, rfl⟩ := Option.map_eq_some_iff.mp accepted
  constructor
  · exact positiveFloat_pos _ _ (by norm_num)
  all_goals first
    | exact nonnegativeFloat_nonneg _ _ (by norm_num)
    | exact positiveFloat_pos _ _ (by norm_num)

/-! ## Leases -/

structure ControlLease where
  eventId : Option Int
  lifespanMs : Rat
  receivedMonotonicMs : Rat
  localExpiresAtMs : Rat
  deriving Repr, DecidableEq

namespace ControlLease

def fromEnvelope (float : PyJson → Option Rat) (payload : List (Str × PyJson))
    (receivedMonotonicMs : Rat) (policy : LeasePolicy) : ControlLease :=
  let lifespanMs :=
    positiveFloat float (PyJson.lookup payload (lit "lifespan_ms")) policy.maxLocalLifespanMs
  let localLifespanMs := min lifespanMs policy.maxLocalLifespanMs
  { eventId := optionalInt float (PyJson.lookup payload (lit "event_id"))
    lifespanMs := localLifespanMs
    receivedMonotonicMs
    localExpiresAtMs := receivedMonotonicMs + localLifespanMs }

def expired (lease : ControlLease) (nowMs : Rat) : Bool := nowMs > lease.localExpiresAtMs

end ControlLease

/-! ## Limits -/

def clamp (value lower upper : Rat) : Rat := min upper (max lower value)

def stepToward (previous target maxStep : Rat) : Rat :=
  if maxStep ≤ 0 then previous
  else
    let delta := target - previous
    if |delta| ≤ maxStep then target
    else if delta > 0 then previous + maxStep
    else previous - maxStep

/-- `math.isclose` with `rel_tol=0.0, abs_tol=1e-12`. -/
def isClose (a b : Rat) : Bool := |a - b| ≤ 1 / 1000000000000

/-- The safe command, and whether it differs from the requested one. -/
def clipCommand (command : TwistCommand) (policy : LeasePolicy) : TwistCommand × Bool :=
  let safe : TwistCommand := {
    linearX := clamp command.linearX (-policy.maxLinearX) policy.maxLinearX
    linearY := clamp command.linearY (-policy.maxAbsLinearY) policy.maxAbsLinearY
    linearZ := clamp command.linearZ (-policy.maxAbsLinearZ) policy.maxAbsLinearZ
    angularX := clamp command.angularX (-policy.maxAbsAngularX) policy.maxAbsAngularX
    angularY := clamp command.angularY (-policy.maxAbsAngularY) policy.maxAbsAngularY
    angularZ := clamp command.angularZ (-policy.maxAbsAngularZ) policy.maxAbsAngularZ }
  (safe, safe ≠ command)

structure DynamicLimitResult where
  command : TwistCommand
  acceleration : TwistAcceleration
  accelerationClipped : Bool := false
  jerkClipped : Bool := false
  deriving Repr, DecidableEq

/-- The clamp of a desired acceleration. -/
def limitAccel (desired bound : Rat) : Rat := clamp desired (-bound) bound

def applyDynamicLimits (command previous : TwistCommand) (previousMs : Option Rat)
    (previousAccel : TwistAcceleration) (nowMs : Rat) (policy : LeasePolicy) :
    DynamicLimitResult :=
  match previousMs.filter (· < nowMs) with
  | none => { command, acceleration := .zero }
  | some previousMs =>
      let dtS := (nowMs - previousMs) / 1000
      let desiredLinearAccel := (command.linearX - previous.linearX) / dtS
      let desiredAngularAccel := (command.angularZ - previous.angularZ) / dtS
      let accelLimited : TwistAcceleration := {
        linearX := limitAccel desiredLinearAccel policy.maxLinearAccelX
        angularZ := limitAccel desiredAngularAccel policy.maxAbsAngularAccelZ }
      let jerkLimited : TwistAcceleration := {
        linearX := stepToward previousAccel.linearX accelLimited.linearX
          (max 0 policy.maxLinearJerkX * dtS)
        angularZ := stepToward previousAccel.angularZ accelLimited.angularZ
          (max 0 policy.maxAbsAngularJerkZ * dtS) }
      { command := { command with
          linearX := previous.linearX + jerkLimited.linearX * dtS
          angularZ := previous.angularZ + jerkLimited.angularZ * dtS }
        acceleration := jerkLimited
        accelerationClipped :=
          !isClose accelLimited.linearX desiredLinearAccel ||
            !isClose accelLimited.angularZ desiredAngularAccel
        jerkClipped := jerkLimited ≠ accelLimited }

/-! ## The state machine -/

inductive DecisionStatus where
  | leaseUpdate
  | duplicateLease
  | staleLease
  | dropNoLease
  | accept
  | clip
  | fallbackStop
  | fallbackHoldLast
  | fallbackDrop
  deriving Repr, DecidableEq

structure LeaseDecision where
  status : DecisionStatus
  publish : Bool
  safeCommand : TwistCommand
  requestedCommand : Option TwistCommand
  lease : Option ControlLease
  nowMs : Rat
  clipped : Bool := false
  clipStages : List String := []
  deriving Repr, DecidableEq

structure LocalControlLeaseState where
  policy : LeasePolicy
  activeLease : Option ControlLease := none
  lastOutput : TwistCommand := .zero
  lastOutputMs : Option Rat := none
  lastAccel : TwistAcceleration := .zero
  fallbackEventIds : List (Option Int) := []
  pendingCommand : Option (TwistCommand × Rat) := none
  deriving Repr, DecidableEq

namespace LocalControlLeaseState

def fallbackStop (s : LocalControlLeaseState) (lease : ControlLease) (nowMs : Rat) :
    LeaseDecision × LocalControlLeaseState :=
  ({ status := .fallbackStop
     publish := true
     safeCommand := .zero
     requestedCommand := none
     lease := some lease
     nowMs },
   { s with
     fallbackEventIds := s.fallbackEventIds.insert lease.eventId
     lastOutput := .zero
     lastOutputMs := some nowMs
     lastAccel := .zero })

def expiryDecision (s : LocalControlLeaseState) (lease : ControlLease) (nowMs : Rat) :
    LeaseDecision × LocalControlLeaseState :=
  match s.policy.expiryAction with
  | .holdLast =>
      ({ status := .fallbackHoldLast
         publish := true
         safeCommand := s.lastOutput
         requestedCommand := none
         lease := some lease
         nowMs },
       { s with fallbackEventIds := s.fallbackEventIds.insert lease.eventId })
  | .drop =>
      ({ status := .fallbackDrop
         publish := false
         safeCommand := s.lastOutput
         requestedCommand := none
         lease := some lease
         nowMs },
       { s with fallbackEventIds := s.fallbackEventIds.insert lease.eventId })
  | .stop => s.fallbackStop lease nowMs

def evaluateCommand (s : LocalControlLeaseState) (command : TwistCommand) (nowMs : Rat) :
    LeaseDecision × LocalControlLeaseState :=
  match s.activeLease with
  | none =>
      ({ status := .dropNoLease
         publish := false
         safeCommand := .zero
         requestedCommand := some command
         lease := none
         nowMs },
       { s with pendingCommand := some (command, nowMs) })
  | some lease =>
      if lease.expired nowMs then s.expiryDecision lease nowMs
      else
        let (bounded, boundClipped) := clipCommand command s.policy
        let result := applyDynamicLimits bounded s.lastOutput s.lastOutputMs s.lastAccel nowMs
          s.policy
        let clipped := boundClipped || result.accelerationClipped || result.jerkClipped
        ({ status := if clipped then .clip else .accept
           publish := true
           safeCommand := result.command
           requestedCommand := some command
           lease := some lease
           nowMs
           clipped
           clipStages :=
             (if boundClipped then ["safety_bound"] else []) ++
               (if result.accelerationClipped then ["acceleration"] else []) ++
               (if result.jerkClipped then ["jerk"] else []) },
         { s with
           lastOutput := result.command
           lastOutputMs := some nowMs
           lastAccel := result.acceleration })

/-- `_stale_or_duplicate_lease_decision`. -/
def staleOrDuplicateLeaseDecision (s : LocalControlLeaseState) (lease : ControlLease) :
    Option LeaseDecision :=
  match s.activeLease with
  | none => none
  | some active =>
      match active.eventId, lease.eventId with
      | some activeId, some leaseId =>
          if leaseId > activeId then none
          else some {
            status := if leaseId = activeId then .duplicateLease else .staleLease
            publish := false
            safeCommand := s.lastOutput
            requestedCommand := none
            lease := some active
            nowMs := lease.receivedMonotonicMs }
      | _, _ => none

/-- `ingest_lease` for a lease that is neither stale nor a duplicate. -/
def acceptLease (s : LocalControlLeaseState) (lease : ControlLease) :
    LeaseDecision × LocalControlLeaseState :=
  let s := { s with
    activeLease := some lease
    fallbackEventIds :=
      if lease.eventId ∉ s.fallbackEventIds then s.fallbackEventIds.erase lease.eventId
      else s.fallbackEventIds }
  let decision : LeaseDecision := {
    status := .leaseUpdate
    publish := false
    safeCommand := s.lastOutput
    requestedCommand := none
    lease := some lease
    nowMs := lease.receivedMonotonicMs }
  match s.pendingCommand with
  | none => (decision, s)
  | some (command, receivedMs) =>
      if lease.receivedMonotonicMs - receivedMs ≤ s.policy.pendingCommandWindowMs then
        { s with pendingCommand := none }.evaluateCommand command lease.receivedMonotonicMs
      else (decision, s)

def ingestLease (s : LocalControlLeaseState) (lease : ControlLease) :
    LeaseDecision × LocalControlLeaseState :=
  match s.staleOrDuplicateLeaseDecision lease with
  | some decision => (decision, s)
  | none => s.acceptLease lease

def tick (s : LocalControlLeaseState) (nowMs : Rat) :
    Option LeaseDecision × LocalControlLeaseState :=
  match s.activeLease with
  | none => (none, s)
  | some lease =>
      if !s.policy.publishStopOnExpiry then (none, s)
      else if !lease.expired nowMs then (none, s)
      else if lease.eventId ∈ s.fallbackEventIds then (none, s)
      else
        let (decision, s) := s.expiryDecision lease nowMs
        (some decision, s)

/-- A tick does nothing, or finds a lease that has expired and was not handled before. -/
theorem tick_cases (s : LocalControlLeaseState) (nowMs : Rat) :
    s.tick nowMs = (none, s) ∨
      ∃ lease, s.tick nowMs =
        (some (s.expiryDecision lease nowMs).1, (s.expiryDecision lease nowMs).2) := by
  unfold tick
  split
  · exact .inl rfl
  case h_2 lease _ =>
    split
    · exact .inl rfl
    split
    · exact .inl rfl
    split
    · exact .inl rfl
    exact .inr ⟨lease, rfl⟩

end LocalControlLeaseState

/-- A call of the robot's adapter. -/
inductive ControlEvent where
  | ingestLease (lease : ControlLease)
  | evaluateCommand (command : TwistCommand) (nowMs : Rat)
  | tick (nowMs : Rat)
  deriving Repr, DecidableEq

namespace LocalControlLeaseState

/-- What a call decides, and the state behind it. -/
def handle (s : LocalControlLeaseState) : ControlEvent → Option LeaseDecision × LocalControlLeaseState
  | .ingestLease lease =>
      let (decision, s) := s.ingestLease lease
      (some decision, s)
  | .evaluateCommand command nowMs =>
      let (decision, s) := s.evaluateCommand command nowMs
      (some decision, s)
  | .tick nowMs => s.tick nowMs

def step (s : LocalControlLeaseState) (e : ControlEvent) : Option LocalControlLeaseState :=
  some (s.handle e).2

end LocalControlLeaseState

end FleetRMW.Robot
