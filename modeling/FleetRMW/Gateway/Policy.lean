import FleetRMW.Gateway.Frame
import FleetRMW.Repair.Scheduler

/-! # Fleet admission

`GatewayAdmissionPolicy`: quotas per stream and for the fleet, repair capacity, and the
observations that raise a frame's score. The readings of the clock are given as a
sequence, since one call may read it more than once.
-/

namespace FleetRMW.Gateway

open Lib Repair

structure GatewayAdmissionRule where
  domainId : Int
  topic : Str
  trafficClass : Str
  maxAcceptedFrames : Int
  allowedPublishers : List Str
  minAdmissionScore : Rat := 0
  deriving Repr, DecidableEq

/-- The domain, topic and publisher that an observation is about. -/
abbrev ObservationKey := StreamKey × Str

structure GatewayObservation where
  domainId : Int
  topic : Str
  publisherId : Str
  qoeDebt : Rat
  measuredLoss : Rat
  measuredRttMs : Rat
  measuredJitterMs : Rat
  source : Str
  qoeDebtSource : Str
  updatedAt : Rat
  deriving Repr, DecidableEq

/-- The configuration, with `fingerprint` for the digest of its canonical document. -/
structure GatewayAdmissionPolicy where
  rules : List GatewayAdmissionRule
  allowByDefault : Bool
  maxAcceptedFrames : Option Int
  epochMs : Option Int := none
  repairCapacityBytes : Int := 0
  repairMaxAdmitted : Option Int := none
  repairPaths : List RepairPath := []
  observationTtlMs : Int := 5000
  nativeQoeDebtEnabled : Bool := false
  nativeQoeDebtEwmaAlpha : Rat := 0.5
  nativeQoeLossSaturation : Rat := 0.05
  nativeQoeRttDeadlineRatioSaturation : Rat := 1
  nativeQoeJitterDeadlineRatioSaturation : Rat := 0.25
  applicationOutcomeQoeDebtEnabled : Bool := false
  applicationOutcomeQoeDebtEwmaAlpha : Rat := 0.5
  fingerprint : Str
  fingerprint_ne : fingerprint ≠ []
  fingerprint_encodable : fingerprint.encodable

/-- What the policy remembers. `reads` counts the readings taken from the clock. -/
structure PolicyState where
  reads : Nat
  epochStarted : Rat
  epochResetCount : Int := 0
  acceptedTotal : Int := 0
  acceptedCumulative : Int := 0
  acceptedByStream : Dict StreamKey Int := []
  acceptedByClass : Dict Str Int := []
  rejectedByReason : Dict Str Int := []
  repairAllocatedBytes : Int := 0
  repairAdmittedCount : Int := 0
  repairDeferredCount : Int := 0
  repairDecisions : List PyJson := []
  observations : Dict ObservationKey GatewayObservation := []
  observationUpdates : Int := 0
  observationUpdatesBySource : Dict Str Int := []
  observationExpirations : Int := 0
  observationScoreUses : Int := 0
  nativeQoeDebtUpdates : Int := 0
  applicationOutcomeQoeDebtUpdates : Int := 0
  applicationTaskOutcomeUpdates : Int := 0
  applicationTaskOutcomeFailures : Int := 0

inductive PolicyError where
  /-- `FrameAdmissionError`. -/
  | admission (status : Nat) (reasonCode reason : String) (trafficClass : Str)
  | valueError (message : String)
  | typeError
  deriving Repr, DecidableEq

inductive AdmissionAction where
  | normal
  | repair
  | duplicate
  deriving Repr, DecidableEq

namespace GatewayAdmissionPolicy

/-- The checks of the rules, after those of the streams `seen`. -/
def checkRules (seen : List StreamKey) : List GatewayAdmissionRule → Except PolicyError Unit
  | [] => pure ()
  | rule :: rules => do
      raiseIf (rule.domainId < 0 ∨ ¬(lit "/").isPrefixOf rule.topic)
        (.valueError "admission rule requires valid domain_id and topic")
      raiseIf (rule.trafficClass = [] ∨ rule.maxAcceptedFrames ≤ 0)
        (.valueError "admission rule requires class and positive quota")
      raiseIf (¬(0 ≤ rule.minAdmissionScore ∧ rule.minAdmissionScore ≤ 1))
        (.valueError "admission score threshold must be in [0, 1]")
      raiseIf (seen.any fun stream => stream = (rule.domainId, rule.topic))
        (.valueError "duplicate admission rule for domain/topic")
      checkRules ((rule.domainId, rule.topic) :: seen) rules

/-- The checks of the constructor, but for `default_action`, which is a truth value here. -/
def check (policy : GatewayAdmissionPolicy) : Except PolicyError Unit := do
  raiseIf (policy.maxAcceptedFrames.any (· ≤ 0))
    (.valueError "admission max_accepted_frames must be positive")
  raiseIf (policy.epochMs.any (· ≤ 0)) (.valueError "admission epoch_ms must be positive")
  raiseIf (policy.repairCapacityBytes < 0) (.valueError "repair capacity must be non-negative")
  raiseIf (policy.repairMaxAdmitted.any (· ≤ 0))
    (.valueError "repair max_admitted must be positive")
  raiseIf (policy.repairCapacityBytes > 0 ∧ policy.repairPaths = [])
    (.valueError "repair paths are required with repair capacity")
  raiseIf (policy.observationTtlMs ≤ 0) (.valueError "observation_ttl_ms must be positive")
  raiseIf (¬(0 < policy.nativeQoeDebtEwmaAlpha ∧ policy.nativeQoeDebtEwmaAlpha ≤ 1))
    (.valueError "native QoE debt EWMA alpha must be in (0, 1]")
  raiseIf (¬(0 < policy.nativeQoeLossSaturation ∧ policy.nativeQoeLossSaturation ≤ 1))
    (.valueError "native QoE loss saturation must be in (0, 1]")
  raiseIf (policy.nativeQoeRttDeadlineRatioSaturation ≤ 0 ∨
      policy.nativeQoeJitterDeadlineRatioSaturation ≤ 0)
    (.valueError "native QoE deadline-ratio saturations must be positive")
  raiseIf (¬(0 < policy.applicationOutcomeQoeDebtEwmaAlpha ∧
      policy.applicationOutcomeQoeDebtEwmaAlpha ≤ 1))
    (.valueError "application outcome QoE debt EWMA alpha must be in (0, 1]")
  checkRules [] policy.rules

end GatewayAdmissionPolicy

/-- The surroundings that a policy is run in. -/
structure Environment where
  clock : Nat → Rat
  log1p : Rat → Rat

namespace GatewayAdmissionPolicy

variable (env : Environment) (policy : GatewayAdmissionPolicy)

/-- `_clock()`. -/
def now (s : PolicyState) : Rat × PolicyState :=
  (env.clock s.reads, { s with reads := s.reads + 1 })

/-- A new policy, after so many readings of the clock. -/
def init (reads : Nat) : PolicyState := { reads := reads + 1, epochStarted := env.clock reads }

def rule? (stream : StreamKey) : Option GatewayAdmissionRule :=
  policy.rules.find? fun rule => (rule.domainId, rule.topic) = stream

def reject (s : PolicyState) (reason : String) : PolicyState :=
  { s with rejectedByReason := s.rejectedByReason.count (lit reason) }

/-- `_refresh_epoch`. -/
def refreshEpoch (s : PolicyState) : PolicyState :=
  match policy.epochMs with
  | none => s
  | some epochMs =>
      let (now, s) := now env s
      let elapsedMs := (now - s.epochStarted) * 1000
      if elapsedMs < epochMs then s
      else
        let elapsedEpochs := max 1 (elapsedMs / epochMs).floor
        { s with
          epochStarted := s.epochStarted + elapsedEpochs * epochMs / 1000
          epochResetCount := s.epochResetCount + elapsedEpochs
          acceptedTotal := 0
          acceptedByStream := []
          repairAllocatedBytes := 0
          repairAdmittedCount := 0 }

/-- `_expire_observations`. -/
def expireObservations (s : PolicyState) : PolicyState :=
  let (now, s) := now env s
  let threshold := now - policy.observationTtlMs / 1000
  let live := s.observations.filter fun e => !decide (e.2.updatedAt < threshold)
  { s with
    observations := live
    observationExpirations :=
      s.observationExpirations + (s.observations.length - live.length : Nat) }

/-- The score of a frame under the observation of its publisher. -/
def observedScore (m : FrameMetadata) (o : GatewayObservation) : Rat :=
  let effectiveDebt := max m.qoeDebt o.qoeDebt
  let deadlineRttPressure :=
    if m.deadlineMs > 0 then min 1 (o.measuredRttMs / m.deadlineMs)
    else min 1 (o.measuredRttMs / 1000)
  let jitterPressure := min 1 (o.measuredJitterMs / 100)
  let pathPressure :=
    min 1 (0.5 * o.measuredLoss + 0.35 * deadlineRttPressure + 0.15 * jitterPressure)
  min 1 (0.40 * m.criticality + 0.25 * effectiveDebt + 0.20 * m.urgency + 0.15 * pathPressure)

def effectiveAdmissionScore (s : PolicyState) (m : FrameMetadata) : Rat × PolicyState :=
  let s := policy.expireObservations env s
  match s.observations.get? (m.streamKey, m.publisherId) with
  | none => (m.admissionScore, s)
  | some o => (observedScore m o, { s with observationScoreUses := s.observationScoreUses + 1 })

def repairDemand (m : FrameMetadata) : RepairDemand where
  topic := m.topic
  robotId := if m.robotId = [] then m.publisherId else m.robotId
  publisherId := m.publisherId
  sourceSequenceNumber := m.sourceSequenceNumber
  payloadBytes := max 1 m.frameBytes
  remainingDeadlineMs := m.remainingDeadlineMs
  qoeDebt := m.qoeDebt
  criticality := m.criticality
  ageMs := m.ageMs
  priorAttempts := m.priorRepairAttempts

/-- `RepairDecision.as_dict`. -/
def decisionDict (d : RepairDecision) : PyJson :=
  .dict [
    (lit "demand_id", .str d.demandId), (lit "topic", .str d.topic),
    (lit "robot_id", .str d.robotId), (lit "publisher_id", .str d.publisherId),
    (lit "source_sequence_number", .int d.sourceSequenceNumber),
    (lit "action", .str (match d.action with
      | .repair => lit "repair"
      | .defer => lit "defer")),
    (lit "selected_paths", .list (d.selectedPaths.map .str)),
    (lit "allocated_bytes", .int d.allocatedBytes),
    (lit "expected_success", .float (.finite d.expectedSuccess)),
    (lit "expected_latency_ms", d.expectedLatencyMs.elim .null fun q => .float (.finite q)),
    (lit "remaining_deadline_ms", .float (.finite d.remainingDeadlineMs)),
    (lit "utility", .float (.finite d.utility)), (lit "reason", .str (lit d.reason))]

/-- `_try_repair`. -/
def tryRepair (s : PolicyState) (m : FrameMetadata) (trafficClass : Str) :
    Except PolicyError Bool × PolicyState :=
  let deferred (s : PolicyState) :=
    (Except.ok false, { s with repairDeferredCount := s.repairDeferredCount + 1 })
  if !m.repairRequested ∨ policy.repairCapacityBytes ≤ 0 then (.ok false, s)
  else if policy.repairMaxAdmitted.any fun limit => s.repairAdmittedCount ≥ limit then deferred s
  else
    let remaining := policy.repairCapacityBytes - s.repairAllocatedBytes
    if remaining ≤ 0 then deferred s
    else
      let config : FleetRepairSchedulerConfig :=
        { capacityBytes := remaining, maxAdmittedRepairs := some 1, maxPathsPerRepair := 1 }
      match config.schedule env.log1p [repairDemand m] policy.repairPaths with
      | .error message => (.error (.valueError message), s)
      | .ok [] => (.error .typeError, s)
      | .ok (decision :: _) =>
          let s := { s with repairDecisions := s.repairDecisions ++ [decisionDict decision] }
          if decision.action ≠ .repair then deferred s
          else (.ok true, { s with
            repairAllocatedBytes := s.repairAllocatedBytes + decision.allocatedBytes
            repairAdmittedCount := s.repairAdmittedCount + 1
            acceptedCumulative := s.acceptedCumulative + 1
            acceptedByClass := s.acceptedByClass.count trafficClass })

/-- Admit as a repair, or reject for lack of score or quota. -/
def repairOrReject (s : PolicyState) (m : FrameMetadata) (trafficClass : Str)
    (reasonCode reason : String) : Except PolicyError AdmissionAction × PolicyState :=
  match policy.tryRepair env s m trafficClass with
  | (.ok true, s) => (.ok .repair, s)
  | (.ok false, s) => (.error (.admission 429 reasonCode reason trafficClass), reject s reasonCode)
  | (.error e, s) => (.error e, s)

/-- The fleet quota, and the counters of a frame that is admitted. -/
def admitFleet (s : PolicyState) (m : FrameMetadata) (trafficClass : Str) :
    Except PolicyError AdmissionAction × PolicyState :=
  if policy.maxAcceptedFrames.any fun limit => s.acceptedTotal ≥ limit then
    policy.repairOrReject env s m trafficClass "fleet_quota_exhausted"
      "fleet admission quota is exhausted"
  else
    (.ok .normal, { s with
      acceptedTotal := s.acceptedTotal + 1
      acceptedCumulative := s.acceptedCumulative + 1
      acceptedByStream := s.acceptedByStream.count m.streamKey
      acceptedByClass := s.acceptedByClass.count trafficClass })

/-- The checks of a stream's own rule. -/
def admitRule (s : PolicyState) (m : FrameMetadata) (rule : GatewayAdmissionRule) :
    Except PolicyError AdmissionAction × PolicyState :=
  let trafficClass := rule.trafficClass
  if m.trafficClass ≠ [] ∧ m.trafficClass ≠ trafficClass then
    (.error (.admission 403 "traffic_class_mismatch"
      "frame traffic class does not match admission policy" trafficClass),
      reject s "traffic_class_mismatch")
  else if rule.allowedPublishers ≠ [] ∧ m.publisherId ∉ rule.allowedPublishers then
    (.error (.admission 403 "publisher_not_allowed"
      "publisher is not allowed by fleet admission policy" trafficClass),
      reject s "publisher_not_allowed")
  else
    let (score, s) := policy.effectiveAdmissionScore env s m
    if score < rule.minAdmissionScore then
      policy.repairOrReject env s m trafficClass "qox_score_below_threshold"
        "QoS/QoE admission score is below the stream threshold"
    else if (s.acceptedByStream.get? m.streamKey).getD 0 ≥ rule.maxAcceptedFrames then
      policy.repairOrReject env s m trafficClass "stream_quota_exhausted"
        "stream admission quota is exhausted"
    else policy.admitFleet env s m trafficClass

/-- `admit`. -/
def admitFrame (s : PolicyState) (m : FrameMetadata) :
    Except PolicyError AdmissionAction × PolicyState :=
  let s := policy.refreshEpoch env s
  match policy.rule? m.streamKey with
  | some rule => policy.admitRule env s m rule
  | none =>
      if policy.allowByDefault then policy.admitFleet env s m (lit "default")
      else
        (.error (.admission 403 "no_matching_rule"
          "frame is not covered by fleet admission policy" (lit "unclassified")),
          reject s "no_matching_rule")

end GatewayAdmissionPolicy

/-! ## Observations -/

/-- The arguments of `update_observation`. -/
structure ObservationUpdate where
  domainId : Int
  topic : Str
  publisherId : Str
  qoeDebt : PyFloat
  measuredLoss : PyFloat
  measuredRttMs : PyFloat
  measuredJitterMs : PyFloat
  source : Str := lit "external_api"
  qoeDebtSource : Option Str := none
  deriving Repr, DecidableEq

def PyFloat.rat? : PyFloat → Option Rat
  | .finite q => some q
  | _ => none

namespace ObservationUpdate

def key (u : ObservationUpdate) : ObservationKey := ((u.domainId, u.topic), u.publisherId)

def sources : List Str :=
  [lit "external_api", lit "quic_session_native", lit "ngtcp2_public_api",
    lit "application_outcome"]

def debtSources : List Str :=
  [lit "external_api", lit "publisher_metadata", lit "gateway_derived_path",
    lit "gateway_derived_outcome"]

/-- The checks of `update_observation`, and the observation but for its time. -/
def check (u : ObservationUpdate) : Except PolicyError (Rat → GatewayObservation) := do
  raiseIf (u.domainId < 0 ∨ ¬(lit "/").isPrefixOf u.topic ∨ u.publisherId = [])
    (.valueError "observation identity is invalid")
  let notFinite : PolicyError := .valueError "observation values must be finite"
  let qoeDebt ← require (PyFloat.rat? u.qoeDebt) notFinite
  let loss ← require (PyFloat.rat? u.measuredLoss) notFinite
  let rtt ← require (PyFloat.rat? u.measuredRttMs) notFinite
  let jitter ← require (PyFloat.rat? u.measuredJitterMs) notFinite
  raiseIf (¬(0 ≤ qoeDebt ∧ qoeDebt ≤ 1) ∨ ¬(0 ≤ loss ∧ loss ≤ 1))
    (.valueError "observation debt/loss must be in [0, 1]")
  raiseIf (rtt < 0 ∨ jitter < 0) (.valueError "observation RTT/jitter must be non-negative")
  raiseIf (u.source ∉ sources) (.valueError "observation source is unsupported")
  let debtSource := u.qoeDebtSource.getD
    (if u.source = lit "external_api" then lit "external_api" else lit "publisher_metadata")
  raiseIf (debtSource ∉ debtSources)
    (.valueError "observation QoE debt source is unsupported")
  pure fun updatedAt => {
    domainId := u.domainId, topic := u.topic, publisherId := u.publisherId, qoeDebt,
    measuredLoss := loss, measuredRttMs := rtt, measuredJitterMs := jitter, source := u.source,
    qoeDebtSource := debtSource, updatedAt }

end ObservationUpdate

/-- The arguments of `update_native_path_observation`. -/
structure NativePathUpdate where
  metadata : FrameMetadata
  measuredLoss : PyFloat
  measuredRttMs : PyFloat
  measuredJitterMs : PyFloat

/-- The arguments of `update_application_outcome`. -/
structure OutcomeUpdate where
  domainId : Int
  topic : Str
  publisherId : Str
  delivered : Bool
  deadlineMet : Bool
  observedLatencyMs : PyFloat
  deadlineMs : PyFloat
  taskSucceeded : Option Bool

def OutcomeUpdate.key (u : OutcomeUpdate) : ObservationKey :=
  ((u.domainId, u.topic), u.publisherId)

def pressure (met : Bool) : Rat := if met then 0 else 1

/-- The debt that one outcome stands for. -/
def OutcomeUpdate.instantaneousDebt (u : OutcomeUpdate) (latencyMs deadlineMs : Rat) : Rat :=
  let latencyPressure := min 1 (latencyMs / deadlineMs)
  match u.taskSucceeded with
  | none => min 1 (0.50 * pressure u.delivered + 0.30 * pressure u.deadlineMet +
      0.20 * latencyPressure)
  | some succeeded => min 1 (0.35 * pressure u.delivered + 0.25 * pressure u.deadlineMet +
      0.15 * latencyPressure + 0.25 * pressure succeeded)

namespace GatewayAdmissionPolicy

variable (env : Environment) (policy : GatewayAdmissionPolicy)

def updateObservation (s : PolicyState) (u : ObservationUpdate) :
    Except PolicyError Unit × PolicyState :=
  match u.check with
  | .error e => (.error e, s)
  | .ok observation =>
      let (now, s) := now env s
      (.ok (), { s with
        observations := s.observations.set u.key (observation now)
        observationUpdates := s.observationUpdates + 1
        observationUpdatesBySource := s.observationUpdatesBySource.count u.source })

/-- The debt that the measurements of a path stand for. -/
def nativeInstantaneousDebt (m : FrameMetadata) (loss rttMs jitterMs : Rat) : Rat :=
  let lossPressure := min 1 (loss / policy.nativeQoeLossSaturation)
  let rttPressure :=
    if m.deadlineMs > 0 then
      min 1 (rttMs / m.deadlineMs / policy.nativeQoeRttDeadlineRatioSaturation)
    else min 1 (rttMs / 1000)
  let jitterPressure :=
    if m.deadlineMs > 0 then
      min 1 (jitterMs / m.deadlineMs / policy.nativeQoeJitterDeadlineRatioSaturation)
    else min 1 (jitterMs / 100)
  min 1 (0.50 * lossPressure + 0.35 * rttPressure + 0.15 * jitterPressure)

/-- The debt that is recorded with a path, smoothed where one was derived before. Measurements
    that are not finite are refused by `update_observation`, whatever the debt is. -/
def nativeDebt (s : PolicyState) (u : NativePathUpdate) : Rat :=
  let m := u.metadata
  match PyFloat.rat? u.measuredLoss, PyFloat.rat? u.measuredRttMs,
      PyFloat.rat? u.measuredJitterMs with
  | some loss, some rttMs, some jitterMs =>
      let instantaneous := policy.nativeInstantaneousDebt m loss rttMs jitterMs
      let previous := (s.observations.get? (m.streamKey, m.publisherId)).filter fun o =>
        o.qoeDebtSource = lit "gateway_derived_path"
      let alpha := policy.nativeQoeDebtEwmaAlpha
      match previous with
      | some o => min 1 (alpha * instantaneous + (1 - alpha) * o.qoeDebt)
      | none => instantaneous
  | _, _, _ => m.qoeDebt

/-- `update_native_path_observation`, which answers with the debt it recorded. -/
def updateNativePathObservation (s : PolicyState) (u : NativePathUpdate) :
    Except PolicyError Rat × PolicyState :=
  let m := u.metadata
  let debt := if policy.nativeQoeDebtEnabled then policy.nativeDebt s u else m.qoeDebt
  let s := if policy.nativeQoeDebtEnabled then
    { s with nativeQoeDebtUpdates := s.nativeQoeDebtUpdates + 1 } else s
  let observed := updateObservation env s {
    domainId := m.domainId, topic := m.topic, publisherId := m.publisherId,
    qoeDebt := .finite debt, measuredLoss := u.measuredLoss, measuredRttMs := u.measuredRttMs,
    measuredJitterMs := u.measuredJitterMs, source := lit "quic_session_native",
    qoeDebtSource := some <|
      if policy.nativeQoeDebtEnabled then lit "gateway_derived_path"
      else lit "publisher_metadata" }
  (observed.1.map fun _ => debt, observed.2)

/-- `update_application_outcome`, which answers with the debt it derived. -/
def updateApplicationOutcome (s : PolicyState) (u : OutcomeUpdate) :
    Except PolicyError Rat × PolicyState :=
  if !policy.applicationOutcomeQoeDebtEnabled then
    (.error (.valueError "application outcome QoE debt is disabled"), s)
  else match PyFloat.rat? u.observedLatencyMs, PyFloat.rat? u.deadlineMs with
  | some latencyMs, some deadlineMs =>
      if latencyMs < 0 ∨ deadlineMs ≤ 0 then
        (.error (.valueError "application outcome latency/deadline is invalid"), s)
      else
        let instantaneous := u.instantaneousDebt latencyMs deadlineMs
        let previous := (s.observations.get? u.key).filter fun o =>
          o.qoeDebtSource = lit "gateway_derived_outcome"
        let alpha := policy.applicationOutcomeQoeDebtEwmaAlpha
        let debt := match previous with
          | some o => min 1 (alpha * instantaneous + (1 - alpha) * o.qoeDebt)
          | none => instantaneous
        match updateObservation env s {
          domainId := u.domainId, topic := u.topic, publisherId := u.publisherId,
          qoeDebt := .finite debt, measuredLoss := .finite (pressure u.delivered),
          measuredRttMs := .finite latencyMs, measuredJitterMs := .finite 0,
          source := lit "application_outcome",
          qoeDebtSource := some (lit "gateway_derived_outcome") } with
        | (.error e, s) => (.error e, s)
        | (.ok (), s) => (.ok debt, { s with
            applicationOutcomeQoeDebtUpdates := s.applicationOutcomeQoeDebtUpdates + 1
            applicationTaskOutcomeUpdates :=
              s.applicationTaskOutcomeUpdates + (if u.taskSucceeded.isSome then 1 else 0)
            applicationTaskOutcomeFailures :=
              s.applicationTaskOutcomeFailures + (if u.taskSucceeded = some false then 1 else 0) })
  | _, _ => (.error (.valueError "application outcome latency values must be finite"), s)

end GatewayAdmissionPolicy

end FleetRMW.Gateway
