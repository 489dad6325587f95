import FleetRMW.Admission.Model
import Mathlib.Data.List.Lex
import Mathlib.Data.Prod.Lex

/-! # The fleet path optimizer

`FleetQoEPathOptimizer` gives every flow a transport mode and paths, within the bytes of a tick
and the bytes that redundancy may take. Its numbers are rationals, and arithmetic on them is exact.
-/

namespace FleetRMW.Planner

open Lib Admission

inductive TransportMode where
  | unicast
  | redundant
  | degraded
  | drop
  deriving Repr, DecidableEq

/-- `mode.value` -/
def TransportMode.value : TransportMode → Str
  | .unicast => lit "unicast"
  | .redundant => lit "redundant"
  | .degraded => lit "degraded"
  | .drop => lit "drop"

structure PathTelemetry where
  pathId : Str
  latencyMs : Rat
  jitterMs : Rat
  loss : Rat
  nackRate : Rat := 0
  deadlineMissRatio : Rat := 0
  bandwidthUtilization : Rat := 0
  failureDomain : Str := []
  deriving Repr, DecidableEq

structure RobotQoEState where
  robotId : Str
  controlDeliveryRatio : Rat := 1
  deadlineMissRatio : Rat := 0
  qoeScore : Rat := 1
  deriving Repr, DecidableEq

structure FleetFlowDemand where
  flowId : Str
  robotId : Str
  flowClass : FlowClass
  deadlineMs : Rat
  payloadBytes : Int
  rateHz : Rat
  criticality : Rat
  qoeWeight : Rat := 0
  ageMs : Rat := 0
  lifespanMs : Rat := 250
  deriving Repr, DecidableEq

structure OptimizerWeights where
  loss : Rat := 3.2
  latency : Rat := 1.8
  jitter : Rat := 1.2
  nack : Rat := 2.2
  deadlineMiss : Rat := 2.8
  utilization : Rat := 0.9
  classValue : Rat := 3
  criticality : Rat := 2.4
  qoe : Rat := 1.5
  fairnessDebt : Rat := 2
  agePressure : Rat := 1
  deriving Repr, DecidableEq

structure FleetOptimizerConfig where
  capacityBytesPerTick : Int := 96000
  redundantDeadlineMs : Rat := 40
  redundancyRiskThreshold : Rat := 1.65
  degradeFloor : Rat := 0.35
  minCriticalAdmissionScore : Rat := 7.5
  minBestEffortAdmissionScore : Rat := 2
  maxRedundantPaths : Int := 2
  redundancyBudgetBytesPerTick : Option Int := none
  requireFailureDomainDiversity : Bool := true
  weights : OptimizerWeights := {}
  deriving Repr, DecidableEq

inductive PathAction where
  | send
  | sendDegraded
  | defer
  | drop
  deriving Repr, DecidableEq

/-- No best path score is `math.inf`. -/
structure FleetPathDecision where
  flowId : Str
  robotId : Str
  action : PathAction
  mode : TransportMode
  selectedPaths : List Str
  allocatedBytes : Int
  utilityScore : Rat
  bestPathScore : Option Rat
  fleetFairnessDebt : Rat
  reason : String
  deriving Repr, DecidableEq

def clip01 (value : Rat) : Rat := min 1 (max 0 value)

/-- `_class_value` -/
def classValue : FlowClass → Rat
  | .safety => 4.2
  | .control => 3.8
  | .coordination => 3.2
  | .state => 2.4
  | .humanQoe => 2.1
  | .perception => 1.5
  | .debug => 0.4
  | .bulk => 0.2

/-- The classes that are critical here, which leave out the state. -/
def isCritical : FlowClass → Bool
  | .safety | .control | .coordination => true
  | _ => false

/-- `_failure_domain` -/
def PathTelemetry.domain (path : PathTelemetry) : Str :=
  if path.failureDomain = [] then path.pathId else path.failureDomain

/-- `int(x)`, which rounds towards zero. -/
def truncate (x : Rat) : Int := x.num.tdiv x.den

/-- `items[:stop]`, where a stop below zero counts from the end. -/
def slice {α : Type} (items : List α) (stop : Int) : List α :=
  if 0 ≤ stop then items.take stop.toNat else items.take (items.length - (-stop).toNat)

/-- `_validate_flow` -/
def FleetFlowDemand.validate (flow : FleetFlowDemand) : Except String Unit := do
  raiseIf (flow.payloadBytes ≤ 0) "payload_bytes must be positive"
  raiseIf (flow.rateHz ≤ 0) "rate_hz must be positive"
  raiseIf (flow.deadlineMs ≤ 0 ∨ flow.lifespanMs ≤ 0) "deadline_ms and lifespan_ms must be positive"

/-- `_fairness_debt` -/
def fairnessDebt : Option RobotQoEState → Rat
  | none => 0
  | some state =>
      let controlDebt := max 0 (0.98 - state.controlDeliveryRatio)
      let deadlineDebt := clip01 state.deadlineMissRatio
      let qoeDebt := max 0 (0.92 - state.qoeScore)
      clip01 (controlDebt + deadlineDebt + qoeDebt)

/-- A flow that is not stale, with its paths from the best one on. -/
structure ScoredFlow where
  flow : FleetFlowDemand
  best : PathTelemetry
  others : List PathTelemetry
  bestScore : Rat
  fairnessDebt : Rat

/-- What is left in the tick, for all flows and for redundancy. -/
structure Remaining where
  bytes : Int
  redundancy : Option Int

/-- The mode, the paths and the reason that a flow is sent with. -/
abbrev ModeChoice := TransportMode × List Str × String

namespace FleetOptimizerConfig

variable (config : FleetOptimizerConfig)

def pathScore (path : PathTelemetry) (flow : FleetFlowDemand) : Rat :=
  let deadline := max 1 flow.deadlineMs
  config.weights.loss * clip01 path.loss
    + config.weights.latency * max 0 (path.latencyMs / deadline)
    + config.weights.jitter * max 0 (path.jitterMs / deadline)
    + config.weights.nack * clip01 path.nackRate
    + config.weights.deadlineMiss * clip01 path.deadlineMissRatio
    + config.weights.utilization * clip01 path.bandwidthUtilization

def utilityScore (flow : FleetFlowDemand) (fairnessDebt : Rat) : Rat :=
  let agePressure := min 2 (flow.ageMs / max 1 flow.deadlineMs)
  config.weights.classValue * classValue flow.flowClass
    + config.weights.criticality * clip01 flow.criticality
    + config.weights.qoe * clip01 flow.qoeWeight
    + config.weights.fairnessDebt * fairnessDebt
    + config.weights.agePressure * agePressure

/-- The paths whose domains no earlier one has. -/
def diverseFrom (domains : List Str) : List PathTelemetry → List PathTelemetry
  | [] => []
  | path :: rest =>
      if path.domain ∈ domains then diverseFrom domains rest
      else path :: diverseFrom (path.domain :: domains) rest

/-- `_failure_domain_diverse_paths` -/
def failureDomainDiversePaths (best : PathTelemetry) (others : List PathTelemetry) :
    List PathTelemetry :=
  if config.requireFailureDomainDiversity then best :: diverseFrom [best.domain] others
  else best :: others

/-- `_choose_mode` -/
def chooseMode (entry : ScoredFlow) : ModeChoice :=
  let redundantPaths := config.failureDomainDiversePaths entry.best entry.others
  let second := redundantPaths[1]?
  let urgent := entry.flow.deadlineMs ≤ config.redundantDeadlineMs
  let qoeSensitive := entry.flow.qoeWeight ≥ 0.65
  if second.isSome ∧ (urgent ∨ qoeSensitive ∨ isCritical entry.flow.flowClass) ∧
      entry.bestScore ≥ config.redundancyRiskThreshold then
    (.redundant, (slice redundantPaths config.maxRedundantPaths).map PathTelemetry.pathId,
      "high-risk urgent/QoE flow: failure-domain-diverse paths")
  else if entry.others ≠ [] ∧ second.isNone then
    (.unicast, [entry.best.pathId], "correlated paths: best scored path")
  else (.unicast, [entry.best.pathId], "best scored path")

/-- `_admission_floor` -/
def admissionFloor (flow : FleetFlowDemand) : Rat :=
  if isCritical flow.flowClass then config.minCriticalAdmissionScore
  else config.minBestEffortAdmissionScore

/-- The bytes that redundancy takes beyond one copy. -/
def extraBytes (flow : FleetFlowDemand) (selectedPaths : List Str) : Int :=
  flow.payloadBytes * max 0 ((selectedPaths.length : Int) - 1)

/-- The mode, unless the budget for redundancy does not take it. -/
def affordedMode (remaining : Remaining) (entry : ScoredFlow) : ModeChoice :=
  let (mode, selectedPaths, reason) := config.chooseMode entry
  if mode = .redundant ∧
      remaining.redundancy.any fun left => extraBytes entry.flow selectedPaths > left then
    (.unicast, [entry.best.pathId], "redundancy budget exhausted: best scored path")
  else (mode, selectedPaths, reason)

def degradedBytes (flow : FleetFlowDemand) : Int :=
  max 1 (truncate (flow.payloadBytes * config.degradeFloor))

/-- One turn of the loop over the scored flows. -/
def decideFlow (remaining : Remaining) (entry : ScoredFlow) : Remaining × FleetPathDecision :=
  let flow := entry.flow
  let utility := config.utilityScore flow entry.fairnessDebt
  let (mode, selectedPaths, reason) := config.affordedMode remaining entry
  let bytesNeeded := flow.payloadBytes * max 1 (selectedPaths.length : Int)
  let decision (action : PathAction) (mode : TransportMode) (selectedPaths : List Str)
      (allocatedBytes : Int) (reason : String) : FleetPathDecision :=
    { flowId := flow.flowId
      robotId := flow.robotId
      action, mode, selectedPaths, allocatedBytes
      utilityScore := utility
      bestPathScore := some entry.bestScore
      fleetFairnessDebt := entry.fairnessDebt
      reason }
  if utility < config.admissionFloor flow then
    (remaining, decision .drop .drop [] 0 "below admission floor")
  else if bytesNeeded ≤ remaining.bytes then
    ({ bytes := remaining.bytes - bytesNeeded
       redundancy :=
        if mode = .redundant then
          remaining.redundancy.map fun left => left - extraBytes flow selectedPaths
        else remaining.redundancy },
     decision .send mode selectedPaths bytesNeeded reason)
  else if mode = .redundant ∧ flow.payloadBytes ≤ remaining.bytes then
    ({ remaining with bytes := remaining.bytes - flow.payloadBytes },
     decision .send .unicast [entry.best.pathId] flow.payloadBytes
      "capacity pressure: redundancy downgraded to unicast")
  else if flow.flowClass.isDegradable ∧ flow.payloadBytes * config.degradeFloor ≤ remaining.bytes then
    ({ remaining with bytes := remaining.bytes - config.degradedBytes flow },
     decision .sendDegraded .degraded [entry.best.pathId] (config.degradedBytes flow)
      "capacity pressure: semantic degradation")
  else (remaining, decision .defer .drop [] 0 "insufficient fleet capacity")

/-- The state of the robot, of which the last one counts. -/
def robotState? (robotStates : List RobotQoEState) (robotId : Str) : Option RobotQoEState :=
  robotStates.reverse.find? fun state => state.robotId = robotId

def staleDecision (flow : FleetFlowDemand) (fairnessDebt : Rat) : FleetPathDecision where
  flowId := flow.flowId
  robotId := flow.robotId
  action := .drop
  mode := .drop
  selectedPaths := []
  allocatedBytes := 0
  utilityScore := 0
  bestPathScore := none
  fleetFairnessDebt := fairnessDebt
  reason := "stale beyond lifespan"

/-- The flow with its paths in the order of their scores. -/
def scoreFlow (path : PathTelemetry) (paths : List PathTelemetry) (flow : FleetFlowDemand)
    (fairnessDebt : Rat) : ScoredFlow :=
  let ranked := (path :: paths).insertionSort fun x y =>
    config.pathScore x flow ≤ config.pathScore y flow
  let best := ranked.headD path
  { flow
    best
    others := ranked.tail
    bestScore := config.pathScore best flow
    fairnessDebt }

/-- `(item[0], self.utility_score(item[1], item[4]))` -/
def rank (entry : ScoredFlow) : Rat ×ₗ Rat :=
  let utility := config.utilityScore entry.flow entry.fairnessDebt
  toLex (utility / (max 1 entry.flow.payloadBytes : Int), utility)

/-- The loop over the flows: the scored ones, and the decisions about the stale ones. -/
def scoreFlows (path : PathTelemetry) (paths : List PathTelemetry)
    (robotStates : List RobotQoEState) (flows : List FleetFlowDemand) :
    Except String (List ScoredFlow × List FleetPathDecision) :=
  flows.foldlM (fun (scored, decisions) flow => do
    flow.validate
    let debt := Planner.fairnessDebt (robotState? robotStates flow.robotId)
    if flow.ageMs > flow.lifespanMs then pure (scored, decisions ++ [staleDecision flow debt])
    else pure (scored ++ [config.scoreFlow path paths flow debt], decisions)) ([], [])

/-- The loop over the scored flows. -/
def decideAll (scored : List ScoredFlow) (remaining : Remaining) :
    Remaining × List FleetPathDecision :=
  scored.foldl (fun (remaining, decisions) entry =>
    let (remaining, decision) := config.decideFlow remaining entry
    (remaining, decisions ++ [decision])) (remaining, [])

variable {config} in
theorem decideAll_from (scored : List ScoredFlow) (remaining : Remaining)
    (before : List FleetPathDecision) :
    scored.foldl (fun (remaining, decisions) entry =>
      let (remaining, decision) := config.decideFlow remaining entry
      (remaining, decisions ++ [decision])) (remaining, before) =
    ((config.decideAll scored remaining).1, before ++ (config.decideAll scored remaining).2) := by
  induction scored generalizing remaining before with
  | nil => exact congrArg (Prod.mk remaining) (List.append_nil before).symm
  | cons entry scored ih =>
      unfold decideAll
      simp only [List.foldl_cons, List.nil_append]
      rw [ih, ih, List.append_assoc]

variable {config} in
/-- The loop decides about one flow and goes on with what remains. -/
theorem decideAll_cons (entry : ScoredFlow) (scored : List ScoredFlow) (remaining : Remaining) :
    config.decideAll (entry :: scored) remaining =
      ((config.decideAll scored (config.decideFlow remaining entry).1).1,
       (config.decideFlow remaining entry).2 ::
        (config.decideAll scored (config.decideFlow remaining entry).1).2) :=
  decideAll_from scored _ [(config.decideFlow remaining entry).2]

def decide (flows : List FleetFlowDemand) (paths : List PathTelemetry)
    (robotStates : List RobotQoEState) : Except String (List FleetPathDecision) :=
  match paths with
  | [] => .error "at least one path is required"
  | path :: paths => do
      raiseIf (config.capacityBytesPerTick < 0) "capacity_bytes_per_tick must be non-negative"
      raiseIf (config.redundancyBudgetBytesPerTick.any (· < 0))
        "redundancy_budget_bytes_per_tick must be non-negative"
      let (scored, stale) ← config.scoreFlows path paths robotStates flows
      let ordered := scored.insertionSort fun x y => config.rank y ≤ config.rank x
      let (_, decided) := config.decideAll ordered
        ⟨config.capacityBytesPerTick, config.redundancyBudgetBytesPerTick⟩
      pure ((stale ++ decided).insertionSort fun x y => x.flowId ≤ y.flowId)

end FleetOptimizerConfig

end FleetRMW.Planner
