import FleetRMW.Admission.Predictive
import FleetRMW.Admission.Contract

/-! # Admission by Lagrangian penalties

`LagrangianRiskPredictiveAdmissionController` weighs the value of each way to send a flow against
its risk, at prices that it learns.
-/

namespace FleetRMW.Admission

open Lib FloatOps

structure LagrangianAdmissionConfig (F : Type) extends PredictiveAdmissionConfig F where
  deadlineRiskBudget : F
  qoeRiskBudget : F
  lambdaLearningRate : F
  initialDeadlineLambda : F
  initialQoeLambda : F
  maxDeadlineLambda : F
  maxQoeLambda : F
  riskTemperatureMs : F
  semanticCompactionValueRatio : F
  degradedValueRatio : F
  deadlineDropRisk : F
  riskBarrierStart : F
  riskBarrierScale : F

structure LagrangianRiskPredictiveAdmissionController (F : Type) where
  lagrangianConfig : LagrangianAdmissionConfig F
  weights : SchedulerWeights F
  estimate : LinkEstimate F
  deadlineLambda : F
  qoeLambda : F

/-- `_ActionCandidate` -/
structure ActionCandidate (F : Type) where
  entry : Entry F
  action : Str
  allocatedBytes : Int
  netScore : F
  density : F
  risk : F
  qoeRisk : F
  value : F
  degraded : Bool
  wireMode : Str
  reason : Str

section
variable {F : Type} [FloatOps F]

def LagrangianAdmissionConfig.standard : LagrangianAdmissionConfig F :=
  { PredictiveAdmissionConfig.standard with
    deadlineRiskBudget := 0.08
    qoeRiskBudget := 0.10
    lambdaLearningRate := 0.16
    initialDeadlineLambda := 1.8
    initialQoeLambda := 1.0
    maxDeadlineLambda := 12.0
    maxQoeLambda := 8.0
    riskTemperatureMs := 12.0
    semanticCompactionValueRatio := 0.88
    degradedValueRatio := 0.72
    deadlineDropRisk := 0.45
    riskBarrierStart := 0.70
    riskBarrierScale := 12.0 }

/-- `_risk_class_weight` -/
def riskClassWeight : FlowClass → F
  | .safety => 5.0
  | .control => 3.0
  | .coordination => 1.3
  | .state => 0.65
  | .humanQoe => 0.8
  | _ => 0.0

/-- `_semantic_value` -/
def semanticValue (flow : FlowSpec F) (obs : FlowObservation F) : F :=
  let task := obs.task.clipped
  let freshness := pyMax 0.0 (1.0 - obs.ageMs / flow.qos.lifespanMs)
  let qoe := task.operatorAttention *
    (flow.qoe.smoothnessWeight + flow.qoe.freezePenalty + flow.qoe.visualConfidenceWeight)
  4.0 * flow.causalTaskGain + 2.5 * task.collisionRisk + 1.5 * task.coordinationPressure +
    2.0 * freshness + 1.8 * qoe - 1.4 * flow.redundancy

namespace LagrangianRiskPredictiveAdmissionController

/-- A controller as the constructor makes it. -/
def init (config : LagrangianAdmissionConfig F) (weights : SchedulerWeights F) :
    LagrangianRiskPredictiveAdmissionController F where
  lagrangianConfig := config
  weights
  estimate := .start
  deadlineLambda := config.initialDeadlineLambda
  qoeLambda := config.initialQoeLambda

variable (c : LagrangianRiskPredictiveAdmissionController F)

/-- The controller that this one extends. -/
def predictive : PredictiveAdmissionController F where
  config := c.lagrangianConfig.toPredictiveAdmissionConfig
  weights := c.weights
  estimate := c.estimate

/-! ## Risks -/

/-- `_tail_wire_time_ms` -/
def tailWireTimeMs (link : NetworkLink F) (allocatedBytes : Int) : F :=
  let rttMs := pyMax link.rttMs c.estimate.rttEwma
  let jitterMs := pyMax link.jitterMs c.estimate.jitterEwma
  let loss := pyMax link.loss c.estimate.lossEwma
  let serializationMs := 20.0 * ofInt allocatedBytes / pyMax 1.0 (ofInt link.capacityBytesPerTick)
  0.5 * rttMs + 1.35 * jitterMs + 0.22 * loss * rttMs + serializationMs

/-- `_logistic_risk` -/
def logisticRisk (marginMs : F) : F := logistic marginMs (pyMax 1.0 c.lagrangianConfig.riskTemperatureMs)

/-- `_deadline_risk` -/
def deadlineRisk (spec : FlowSpec F) (obs : FlowObservation F) (link : NetworkLink F)
    (allocatedBytes : Int) : F :=
  if !spec.flowClass.isCore ∧ spec.flowClass ≠ .humanQoe then 0.0
  else
    let slackMs := spec.qos.deadlineMs - obs.ageMs
    c.logisticRisk (c.tailWireTimeMs link allocatedBytes - slackMs)

/-- `_qoe_risk` -/
def qoeRisk (spec : FlowSpec F) (obs : FlowObservation F) (link : NetworkLink F)
    (allocatedBytes : Int) : F :=
  if spec.flowClass ≠ .humanQoe ∨ obs.task.operatorAttention ≤ ofInt 0 then 0.0
  else
    let slackMs := spec.qos.deadlineMs - obs.ageMs
    let tailMs := c.tailWireTimeMs link allocatedBytes
    let freezePressure := pyMax 0.0 (obs.ageMs / pyMax 1.0 spec.qos.lifespanMs)
    pyMin 1.0 (0.5 * c.logisticRisk (tailMs - slackMs) + 0.5 * freezePressure)

/-! ## Ways to send an entry -/

/-- `_score_action` -/
def scoreAction (entry : Entry F) (link : NetworkLink F) (action : Str) (allocatedBytes : Int)
    (value : F) (degraded : Bool) (wireMode reason : Str) : ActionCandidate F :=
  let risk := c.deadlineRisk entry.spec entry.obs link allocatedBytes
  let qoeRisk := c.qoeRisk entry.spec entry.obs link allocatedBytes
  let classWeight := riskClassWeight entry.spec.flowClass
  let highRiskExcess := pyMax 0.0 (risk - c.lagrangianConfig.riskBarrierStart)
  let barrierPenalty := c.deadlineLambda * classWeight * c.lagrangianConfig.riskBarrierScale *
    highRiskExcess * highRiskExcess
  let netScore := value + 0.45 * entry.priority - c.deadlineLambda * classWeight * risk -
    barrierPenalty - c.qoeLambda * qoeRisk
  { entry
    action
    allocatedBytes
    netScore
    density := netScore / ofInt (max 1 allocatedBytes)
    risk
    qoeRisk
    value
    degraded
    wireMode
    reason }

/-- `_action_candidates` -/
def actionCandidates (link : NetworkLink F) (pressure : F) (entry : Entry F) :
    List (ActionCandidate F) :=
  let config := c.lagrangianConfig
  let baseValue := semanticValue entry.spec entry.obs
  let compacted := max 1 (toInt (ofInt entry.baseSize * config.semanticCompactionRatio))
  let degraded := max 1 (toInt (ofInt entry.baseSize * config.opportunisticDegradationRatio))
  [c.scoreAction entry link (lit "send") entry.baseSize baseValue false (lit "native")
      (lit "lagrangian admission")] ++
    (if entry.spec.flowClass.isCore ∧ pressure ≥ config.pressureCompactionThreshold then
      [c.scoreAction entry link (lit "send_compacted") compacted
        (baseValue * config.semanticCompactionValueRatio) false (lit "semantic_delta")
        (lit "lagrangian admission: semantic compaction")]
    else []) ++
    (if entry.spec.flowClass.isDegradable then
      [c.scoreAction entry link (lit "send_degraded") degraded
        (baseValue * config.degradedValueRatio) true (lit "degraded")
        (lit "lagrangian admission: QoE degradation")]
    else [])

/-- `_best_candidate` -/
def bestCandidate (link : NetworkLink F) (pressure : F) (entry : Entry F) :
    Option (ActionCandidate F) :=
  maxBy (F := F) (fun candidate => [.float candidate.density, .float candidate.netScore])
    ((c.actionCandidates link pressure entry).filter fun candidate => candidate.netScore > 0.0)

/-! ## Admission -/

/-- `_lagrangian_partitions` -/
def lagrangianPartitions (entries : List (Entry F)) : List (List (Entry F)) :=
  open PredictiveAdmissionController in
  [bySlack (safetyControl entries), byPriority (operatorQoe entries),
    bySlack (coordinationState entries), byDensity (remainingEntries entries)]

/-- One turn of `_admit_lagrangian_partition`. -/
def admitTurn (s : List (ActionCandidate F) × Int) (candidate : ActionCandidate F) :
    List (ActionCandidate F) × Int :=
  let (admitted, remaining) := s
  if candidate.allocatedBytes ≤ remaining then
    (admitted ++ [candidate], remaining - candidate.allocatedBytes)
  else s

/-- `_admit_lagrangian_partition` -/
def admitLagrangianPartition (candidates : List (Option (ActionCandidate F))) (capacity : Int) :
    List (ActionCandidate F) × Int :=
  let ordered := sortedByDesc (F := F)
    (fun candidate => [.float candidate.density, .float candidate.netScore])
    (candidates.filterMap id)
  ordered.foldl admitTurn ([], capacity)

/-- The loop over the partitions. -/
def admitPartitions (link : NetworkLink F) (pressure : F) :
    List (List (Entry F)) → Int → List (ActionCandidate F)
  | [], _ => []
  | entries :: rest, remaining =>
      let (admitted, remaining) :=
        admitLagrangianPartition (entries.map (c.bestCandidate link pressure)) remaining
      admitted ++ admitPartitions link pressure rest remaining

/-- `_decision_from_candidate` -/
def decisionFromCandidate (candidate : ActionCandidate F) : FlowDecision F where
  flowId := candidate.entry.flowId
  action := candidate.action
  priority := candidate.netScore
  allocatedBytes := candidate.allocatedBytes
  reason := candidate.reason ++ lit ": risk=" ++ fixed 3 candidate.risk ++ lit " lambda=" ++
    fixed 2 c.deadlineLambda
  degraded := candidate.degraded
  reliability := candidate.entry.reliability
  wireMode := candidate.wireMode
  predictedSlackMs := candidate.entry.slackMs

/-- What is decided of an entry that was not admitted. -/
def unadmitted (link : NetworkLink F) (pressure : F) (entry : Entry F) : FlowDecision F :=
  let risk := c.deadlineRisk entry.spec entry.obs link entry.baseSize
  if risk ≥ c.lagrangianConfig.deadlineDropRisk then
    c.predictive.drop entry.spec (lit "lagrangian risk reset: risk=" ++ fixed 3 risk) entry.obs
  else if c.predictive.dropWhenUnadmitted entry pressure then
    c.predictive.drop entry.spec (lit "lagrangian queue shedding") entry.obs
  else
    { flowId := entry.flowId
      action := lit "defer"
      priority := entry.priority
      allocatedBytes := 0
      reason := lit "lagrangian admission: no positive budget"
      reliability := entry.reliability
      predictedSlackMs := entry.slackMs }

/-- `_update_multipliers` -/
def updateMultipliers (selected : List (ActionCandidate F)) :
    LagrangianRiskPredictiveAdmissionController F :=
  let mean (items : List F) : F := pySum items / ofInt (max 1 items.length)
  let learned (lambda_ highest risk budget : F) : F :=
    pyMin highest (pyMax 0.0 (lambda_ + c.lagrangianConfig.lambdaLearningRate * (risk - budget)))
  let deadlineRisk := mean ((selected.map ActionCandidate.risk).filter (· > 0.0))
  let qoeRisk := mean ((selected.map ActionCandidate.qoeRisk).filter (· > 0.0))
  { c with
    deadlineLambda := learned c.deadlineLambda c.lagrangianConfig.maxDeadlineLambda deadlineRisk
      c.lagrangianConfig.deadlineRiskBudget
    qoeLambda := learned c.qoeLambda c.lagrangianConfig.maxQoeLambda qoeRisk
      c.lagrangianConfig.qoeRiskBudget }

def schedule (candidates : List (Candidate F)) (link : NetworkLink F) :
    Except Str (List (FlowDecision F) × LagrangianRiskPredictiveAdmissionController F) := do
  link.validates
  let c := { c with estimate := c.estimate.update c.lagrangianConfig.ewmaAlpha link }
  let (entries, dropped) ← c.predictive.enterAll (lit "lagrangian stale drop") candidates link
  let pressure := c.predictive.pressure entries link
  let selected :=
    c.admitPartitions link pressure (lagrangianPartitions entries) link.capacityBytesPerTick
  let selectedIds := selected.map fun candidate => candidate.entry.flowId
  let rest := entries.filter fun entry => entry.flowId ∉ selectedIds
  return (sortedBy (F := F) (fun decision => [.text decision.flowId])
    (dropped ++ selected.map c.decisionFromCandidate ++ rest.map (c.unadmitted link pressure)),
    c.updateMultipliers selected)

end LagrangianRiskPredictiveAdmissionController

end

end FleetRMW.Admission
