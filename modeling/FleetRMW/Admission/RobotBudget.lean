import FleetRMW.Admission.Contract

/-! # Budgets of robots

`RobotBudgetAwareAdmissionController` runs a policy and rewrites its decisions: control flows
that it left out are sent as compact intents, and traffic that is not control gives way to them
and to robots under pressure. Virtual queues for each robot, which it learns from outcomes and
from feedback, say how far.
-/

namespace FleetRMW.Admission

open Lib FloatOps

/-! ## Configuration and state -/

structure RobotBudgetConfig (F : Type) where
  minControlDeliveryRatio : F
  maxDeadlineRisk : F
  ewmaAlpha : F
  deficitDecay : F
  controlLearningRate : F
  deadlineLearningRate : F
  criticalGainScale : F
  taskPressureScale : F
  maxPressure : F
  riskTemperatureMs : F
  networkTailRiskGain : F
  feedbackLearningScale : F
  feedbackReferenceSamples : Int
  feedbackDeadlineRiskCap : F
  feedbackLatencyRiskCap : F
  latencyLearningRate : F
  latencyPressureGain : F
  controlFirstQoeMargin : F
  deadlineShapingGain : F
  actionDeadlineLearningRate : F
  deadlineDebtShedGain : F
  deadlineDebtShedMaxFraction : F
  deadlineHorizonLiftEnabled : Bool
  actionDeadlineHorizonLiftMinDeficit : F
  actionDeadlineHorizonLiftMinRttMs : F
  deadlineFirewallEnabled : Bool
  deadlineFirewallRttFactor : F
  deadlineFirewallJitterSigma : F
  deadlineFirewallLossRttFraction : F
  minControlFloorPressure : F
  nAwareControlFloorEnabled : Bool
  nAwareControlFloorMinRobots : Int
  nAwareControlFloorPressure : F
  pressureShedStart : F
  pressureShedMaxFraction : F
  floorIntentRatio : F
  floorMinIntentBytes : Int
  floorSemanticCompactionRatio : F
  floorDegradedRatio : F

/-- `_RobotBudgetState` -/
structure RobotBudgetState (F : Type) where
  pulls : Int := 0
  controlDeliveryEwma : F
  deadlineRiskEwma : F
  latencyRiskEwma : F
  controlDeficit : F
  deadlineDeficit : F
  latencyDeficit : F
  actionDeadlineDeficits : Dict Str F := []

/-- `_RobotFeedbackSignal` -/
structure RobotFeedbackSignal (F : Type) where
  source : Str
  controlDelivery : Option F := none
  deadlineRisk : Option F := none
  latencyRisk : Option F := none
  /-- For each action the risk and the number of samples. -/
  actionDeadlineRisks : Dict Str (F × F) := []
  controlWeight : F
  deadlineWeight : F
  latencyWeight : F

/-- What is read from a feedback record: `signal` is `_feedback_signal` of it. -/
structure FeedbackRecord (F : Type) where
  robotId : Str
  signal : Option (RobotFeedbackSignal F)
  sampleCount : F

structure RobotBudgetController (F : Type) where
  states : Dict Str (RobotBudgetState F) := []
  scheduleTick : Int := 0
  controlFloorLastServedTick : Dict Str Int := []

/-- The decisions by their flows. -/
abbrev Decisions (F : Type) := Dict Str (FlowDecision F)

section
variable {F : Type} [FloatOps F]

def RobotBudgetConfig.standard : RobotBudgetConfig F :=
  { minControlDeliveryRatio := 0.90
    maxDeadlineRisk := 0.35
    ewmaAlpha := 0.30
    deficitDecay := 0.86
    controlLearningRate := 0.90
    deadlineLearningRate := 0.65
    criticalGainScale := 0.45
    taskPressureScale := 0.10
    maxPressure := 4.0
    riskTemperatureMs := 18.0
    networkTailRiskGain := 1.0
    feedbackLearningScale := 0.08
    feedbackReferenceSamples := 12
    feedbackDeadlineRiskCap := 0.55
    feedbackLatencyRiskCap := 0.65
    latencyLearningRate := 0.40
    latencyPressureGain := 0.65
    controlFirstQoeMargin := 0.04
    deadlineShapingGain := 0.0
    actionDeadlineLearningRate := 0.65
    deadlineDebtShedGain := 0.0
    deadlineDebtShedMaxFraction := 0.55
    deadlineHorizonLiftEnabled := false
    actionDeadlineHorizonLiftMinDeficit := 0.12
    actionDeadlineHorizonLiftMinRttMs := 90.0
    deadlineFirewallEnabled := true
    deadlineFirewallRttFactor := 1.0
    deadlineFirewallJitterSigma := 1.35
    deadlineFirewallLossRttFraction := 0.22
    minControlFloorPressure := 0.05
    nAwareControlFloorEnabled := false
    nAwareControlFloorMinRobots := 4
    nAwareControlFloorPressure := 0.12
    pressureShedStart := 0.08
    pressureShedMaxFraction := 0.35
    floorIntentRatio := 0.50
    floorMinIntentBytes := 48
    floorSemanticCompactionRatio := 0.55
    floorDegradedRatio := 0.14 }

def RobotBudgetConfig.floorOptions (config : RobotBudgetConfig F) : TransformOptions F :=
  { minIntentBytes := config.floorMinIntentBytes
    semanticCompactionRatio := config.floorSemanticCompactionRatio
    degradedRatio := config.floorDegradedRatio
    intentRatio := config.floorIntentRatio }

namespace RobotBudgetState

/-- `_RobotBudgetState()` -/
def start : RobotBudgetState F :=
  { controlDeliveryEwma := 1.0
    deadlineRiskEwma := 0.0
    latencyRiskEwma := 0.0
    controlDeficit := 0.0
    deadlineDeficit := 0.0
    latencyDeficit := 0.0 }

def servicePressure (state : RobotBudgetState F) (config : RobotBudgetConfig F) : F :=
  pyMin config.maxPressure (state.controlDeficit + state.deadlineDeficit)

def deadlineShapingPressure (state : RobotBudgetState F) (config : RobotBudgetConfig F) : F :=
  config.deadlineShapingGain * state.deadlineDeficit

def latencyPressure (state : RobotBudgetState F) (config : RobotBudgetConfig F) : F :=
  let margin := pyMax 0.001 config.controlFirstQoeMargin
  let controlHeadroom := state.controlDeliveryEwma - config.minControlDeliveryRatio
  let controlGate := pyMax 0.0 (pyMin 1.0 (controlHeadroom / margin))
  config.latencyPressureGain * state.latencyDeficit * controlGate

def pressure (state : RobotBudgetState F) (config : RobotBudgetConfig F) : F :=
  pyMin config.maxPressure
    (state.servicePressure config + state.deadlineShapingPressure config +
      state.latencyPressure config)

/-- What is owed to deadlines of control intents. -/
def controlIntentDeficit (state : RobotBudgetState F) : F :=
  (state.actionDeadlineDeficits.get? (lit "control:control_intent")).getD 0.0

end RobotBudgetState

/-! ## Feedback -/

def RobotFeedbackSignal.hasUpdates (signal : RobotFeedbackSignal F) : Bool :=
  (signal.controlDelivery.isSome && signal.controlWeight > 0.0) ||
  (signal.deadlineRisk.isSome && signal.deadlineWeight > 0.0) ||
  (signal.latencyRisk.isSome && signal.latencyWeight > 0.0) ||
  !signal.actionDeadlineRisks.isEmpty

def feedbackLearningWeight (config : RobotBudgetConfig F) (sampleCount : F) : F :=
  let reference := pyMax 1.0 (ofInt config.feedbackReferenceSamples)
  let sampleFactor := pyMin 1.0 (pyMax 0.0 sampleCount / reference)
  pyMax 0.0 config.feedbackLearningScale * sampleFactor

/-- `_update_feedback_dimension`: the average and the deficit after it, where `excess` is that of
    the value. -/
def updateFeedbackDimension (config : RobotBudgetConfig F) (pulls : Int)
    (ewma deficit value learningRate decayWeight ewmaAlpha excess : F) : F × F :=
  let lr := pyMax 0.0 learningRate
  let alpha := pyMax 0.0 (pyMin 1.0 ewmaAlpha)
  let decayResponsibility := pyMax 0.0 (pyMin 1.0 decayWeight)
  let effectiveDecay := 1.0 - (1.0 - config.deficitDecay) * decayResponsibility
  (if pulls = 0 then value else alpha * value + (1.0 - alpha) * ewma,
    pyMin config.maxPressure (effectiveDecay * deficit + lr * excess))

def updateActionDeadlineFeedback (config : RobotBudgetConfig F) (state : RobotBudgetState F)
    (key : Str) (deadlineRisk sampleCount sourceWeight : F) : RobotBudgetState F :=
  if key = [] then state
  else
    let weight := feedbackLearningWeight config sampleCount * pyMax 0.0 sourceWeight
    if weight ≤ 0.0 then state
    else
      let cappedRisk := pyMin config.feedbackDeadlineRiskCap
        (pyMax 0.0 (pyMin 1.0 deadlineRisk))
      let excess := pyMax 0.0 (cappedRisk - config.maxDeadlineRisk)
      let current := (state.actionDeadlineDeficits.get? key).getD 0.0
      { state with
        actionDeadlineDeficits := state.actionDeadlineDeficits.set key
          (pyMin config.maxPressure
            (config.deficitDecay * current + config.actionDeadlineLearningRate * weight * excess)) }

/-- What `_apply_robot_feedback_signal` makes of a robot's state. -/
def applyFeedbackSignal (config : RobotBudgetConfig F) (state : RobotBudgetState F)
    (signal : RobotFeedbackSignal F) (sampleCount : F) : RobotBudgetState F :=
  let weight := feedbackLearningWeight config sampleCount
  if weight ≤ 0.0 then state
  else
    let (state, control) :=
      match signal.controlDelivery with
      | some delivery =>
          if signal.controlWeight > 0.0 then
            let value := pyMax 0.0 (pyMin 1.0 delivery)
            let (ewma, deficit) := updateFeedbackDimension config state.pulls
              state.controlDeliveryEwma state.controlDeficit value
              (config.controlLearningRate * weight * signal.controlWeight) signal.controlWeight
              (config.ewmaAlpha * pyMin 1.0 (weight * signal.controlWeight))
              (pyMax 0.0 (config.minControlDeliveryRatio - value))
            ({ state with controlDeliveryEwma := ewma, controlDeficit := deficit }, true)
          else (state, false)
      | none => (state, false)
    let (state, deadline) :=
      match signal.deadlineRisk with
      | some risk =>
          if signal.deadlineWeight > 0.0 then
            let value := pyMin config.feedbackDeadlineRiskCap (pyMax 0.0 (pyMin 1.0 risk))
            let (ewma, deficit) := updateFeedbackDimension config state.pulls
              state.deadlineRiskEwma state.deadlineDeficit value
              (config.deadlineLearningRate * weight * signal.deadlineWeight) signal.deadlineWeight
              (config.ewmaAlpha * pyMin 1.0 (weight * signal.deadlineWeight))
              (pyMax 0.0 (value - config.maxDeadlineRisk))
            ({ state with deadlineRiskEwma := ewma, deadlineDeficit := deficit }, true)
          else (state, false)
      | none => (state, false)
    let (state, latency) :=
      match signal.latencyRisk with
      | some risk =>
          if signal.latencyWeight > 0.0 then
            let value := pyMin config.feedbackLatencyRiskCap (pyMax 0.0 (pyMin 1.0 risk))
            let (ewma, deficit) := updateFeedbackDimension config state.pulls
              state.latencyRiskEwma state.latencyDeficit value
              (config.latencyLearningRate * weight * signal.latencyWeight) signal.latencyWeight
              (config.ewmaAlpha * pyMin 1.0 (weight * signal.latencyWeight))
              (pyMax 0.0 value)
            ({ state with latencyRiskEwma := ewma, latencyDeficit := deficit }, true)
          else (state, false)
      | none => (state, false)
    let state := signal.actionDeadlineRisks.foldl (fun state (key, risk, samples) =>
      updateActionDeadlineFeedback config state key risk samples signal.deadlineWeight) state
    if control || deadline || latency || !signal.actionDeadlineRisks.isEmpty then
      { state with pulls := state.pulls + 1 }
    else state

def applyFeedbackRecords (config : RobotBudgetConfig F) (c : RobotBudgetController F)
    (records : List (FeedbackRecord F)) : RobotBudgetController F :=
  records.foldl (fun c record =>
    match record.signal with
    | none => c
    | some signal =>
        if record.robotId = [] ∨ !signal.hasUpdates then c
        else
          let state := applyFeedbackSignal config
            ((c.states.get? record.robotId).getD .start) signal record.sampleCount
          { c with states := c.states.set record.robotId state }) c

/-! ## What a robot's state says -/

/-- `_pressure_for` -/
def RobotBudgetController.pressureFor (c : RobotBudgetController F) (config : RobotBudgetConfig F)
    (robotId : Str) : F :=
  match c.states.get? robotId with
  | none => 0.0
  | some state => state.pressure config

/-- `_service_pressure_for` -/
def RobotBudgetController.servicePressureFor (c : RobotBudgetController F)
    (config : RobotBudgetConfig F) (robotId : Str) : F :=
  match c.states.get? robotId with
  | none => 0.0
  | some state => state.servicePressure config

/-- `_budget_augmented_candidate` -/
def budgetAugmentedCandidate (config : RobotBudgetConfig F) (c : RobotBudgetController F)
    (candidate : Candidate F) : Candidate F :=
  let (spec, obs) := candidate
  let pressure := c.servicePressureFor config spec.robotId
  if pressure ≤ 0.0 ∨ !spec.flowClass.isCore then (spec, obs)
  else
    let gain := 1.0 + config.criticalGainScale * pressure
    let taskPressure := config.taskPressureScale * pressure
    let task := obs.task.clipped
    let boostedTask := { task with
      taskCriticality := pyMin 1.0 (task.taskCriticality + taskPressure)
      collisionRisk := pyMin 1.0 (task.collisionRisk + taskPressure)
      coordinationPressure := pyMin 1.0 (task.coordinationPressure + taskPressure) }
    ({ spec with
        causalTaskGain := spec.causalTaskGain * gain
        redundancy := pyMax 0.0 (spec.redundancy - 0.04 * pressure)
        tags := spec.tags.set (lit "robot_budget_pressure") (fixed 3 pressure) },
      { obs with task := boostedTask })

/-! ## Decisions by flow -/

def byId (decisions : List (FlowDecision F)) : Decisions F :=
  decisions.foldl (fun d decision => d.set decision.flowId decision) []

def specById (candidates : List (Candidate F)) : Dict Str (FlowSpec F) :=
  candidates.foldl (fun d candidate => d.set candidate.1.flowId candidate.1) []

def obsById (candidates : List (Candidate F)) : Dict Str (FlowObservation F) :=
  candidates.foldl (fun d candidate => d.set candidate.1.flowId candidate.2) []

/-- `_is_sent` of what a dictionary has for a flow. -/
def sentIn (decisions : Decisions F) (flowId : Str) : Bool :=
  (decisions.get? flowId).any FlowDecision.isSent

/-- `sorted(..., key=lambda item: item.flow_id)` -/
def sortedByFlow (decisions : List (FlowDecision F)) : List (FlowDecision F) :=
  sortedBy (F := F) (fun decision => [.text decision.flowId]) decisions

/-- The wire mode, or where there is none the action. -/
def FlowDecision.mode (decision : FlowDecision F) : Str :=
  if decision.wireMode ≠ [] then decision.wireMode else decision.action

/-- The decision taken back, with the reason in front of its own. -/
def FlowDecision.deferred (decision : FlowDecision F) (reason : Str) (slackMs : F) :
    FlowDecision F :=
  { decision with
    action := lit "defer"
    allocatedBytes := 0
    reason := reason ++ decision.reason
    degraded := false
    wireMode := []
    predictedSlackMs := slackMs }

/-! ## The service floor of control flows -/

/-- `_floor_transform_preference` -/
def floorTransformPreference : TransformKind → Int
  | .controlIntent => 0
  | .supervisoryIntent => 1
  | .semanticDelta => 2
  | .degraded => 3
  | .raw => 4

/-- `_pressure_transform_preference` -/
def pressureTransformPreference : TransformKind → Int
  | .degraded => 0
  | .semanticDelta => 1
  | .supervisoryIntent => 2
  | .controlIntent => 3
  | .raw => 4

/-- The representations that arrive in time. -/
def feasibleOptions (config : RobotBudgetConfig F) (spec : FlowSpec F) (obs : FlowObservation F)
    (link : NetworkLink F) : Except Str (List (TransformCandidate F)) := do
  let candidates ← transformCandidates spec obs link config.floorOptions
  return candidates.filter fun option =>
    option.certificate.feasible && option.transform.action ∈ sentActions

/-- A decision that sends a flow in the selected representation. -/
def decisionFor (spec : FlowSpec F) (selected : TransformCandidate F) (priority slackMs : F)
    (reason : Str) : FlowDecision F :=
  { flowId := spec.flowId
    action := selected.transform.action
    priority
    allocatedBytes := selected.allocatedBytes
    reason
    degraded := selected.transform.kind = .degraded
    reliability := selected.transform.reliability
    wireMode := selected.transform.wireMode
    predictedSlackMs := slackMs }

/-- `_control_floor_decision` -/
def controlFloorDecision (config : RobotBudgetConfig F) (spec : FlowSpec F)
    (obs : FlowObservation F) (link : NetworkLink F) (pressure : F) :
    Except Str (Option (FlowDecision F)) := do
  let options ← feasibleOptions config spec obs link
  return (minBy (F := F) (fun option => [.int option.allocatedBytes,
      .float option.certificate.deadlineRisk,
      .int (floorTransformPreference option.transform.kind)]) options).map fun selected =>
    decisionFor spec selected (1000.0 + 100.0 * pressure) selected.certificate.slackAfterWireMs
      (lit "robot budget control floor: transform=" ++ selected.transform.kind.value ++
        lit "; pressure=" ++ fixed 3 pressure ++
        lit "; risk=" ++ fixed 3 selected.certificate.deadlineRisk ++
        lit "; slack=" ++ fixed 1 selected.certificate.slackAfterWireMs)

/-- What is sent and is not control, the least first. -/
def reclaimable (decisions : Decisions F) (specs : Dict Str (FlowSpec F)) :
    List (FlowDecision F) :=
  sortedBy (fun decision => [.float decision.priority, .int decision.allocatedBytes])
    ((decisions.map Prod.snd).filter fun decision =>
      decision.isSent && (specs.get? decision.flowId).any fun spec => !spec.flowClass.isControl)

/-- `_reclaim_noncritical_capacity`: what is left, and the bytes reclaimed. -/
def reclaimNoncriticalCapacity (decisions : Decisions F) (specs : Dict Str (FlowSpec F))
    (neededBytes : Int) : Decisions F × Int :=
  (reclaimable decisions specs).foldl (fun (decisions, reclaimed) decision =>
      if reclaimed ≥ neededBytes then (decisions, reclaimed)
      else
        (decisions.set decision.flowId
          (decision.deferred (lit "robot budget control floor: reclaimed capacity; ") 0.0),
          reclaimed + decision.allocatedBytes)) (decisions, 0)

/-- Reclaim what sending `more` bytes lacks. -/
def reclaimFor (decisions : Decisions F) (specs : Dict Str (FlowSpec F)) (link : NetworkLink F)
    (sent more : Int) : Decisions F × Int :=
  let needed := max 0 (sent + more - link.capacityBytesPerTick)
  if needed > 0 then
    let (decisions, reclaimed) := reclaimNoncriticalCapacity decisions specs needed
    (decisions, sent - reclaimed)
  else (decisions, sent)

/-- `_n_aware_control_floor_decision` -/
def nAwareControlFloorDecision (config : RobotBudgetConfig F) (tick : Int)
    (controls : List (Candidate F)) (link : NetworkLink F) (pressure : F) :
    Except Str (Option (FlowDecision F)) := do
  let decisions ← controls.mapM fun (spec, obs) => controlFloorDecision config spec obs link pressure
  let options := decisions.filterMap id
  return (minBy (F := F) (fun decision => [.int decision.allocatedBytes,
      .int (if decision.predictedSlackMs < 0.0 then 1 else 0),
      .float (-decision.predictedSlackMs), .text decision.flowId]) options).map fun selected =>
    { selected with
      priority := pyMax selected.priority (1200.0 + 100.0 * pressure)
      reason := lit "robot_budget=n_aware_control_floor; tick=" ++ lit (toString tick) ++
        lit "; " ++ selected.reason }

/-- The control flows of each robot. -/
def controlByRobot (candidates : List (Candidate F)) : Dict Str (List (Candidate F)) :=
  candidates.foldl (fun d candidate =>
    if candidate.1.flowClass.isControl then
      d.set candidate.1.robotId ((d.get? candidate.1.robotId).getD [] ++ [candidate])
    else d) []

/-- What the passes of the service floor hand on. -/
structure FloorState (F : Type) where
  decisions : Decisions F
  sent : Int
  lastServed : Dict Str Int

/-- Reclaim what sending `more` bytes lacks, and then send the decision for the flow if they fit.
    The flag says whether they do. -/
def FloorState.serve (s : FloorState F) (specs : Dict Str (FlowSpec F)) (link : NetworkLink F)
    (flowId : Str) (decision : FlowDecision F) (more : Int) : FloorState F × Bool :=
  let (decisions, sent) := reclaimFor s.decisions specs link s.sent more
  if sent + more ≤ link.capacityBytesPerTick then
    ({ s with
        decisions := decisions.set flowId decision
        sent := sent + more }, true)
  else ({ s with decisions, sent }, false)

/-- One turn of `_apply_n_aware_control_service_floor`, for a robot none of whose control flows is
    sent. -/
def nAwareControlFloorTurn (config : RobotBudgetConfig F) (c : RobotBudgetController F)
    (specs : Dict Str (FlowSpec F)) (link : NetworkLink F) (s : FloorState F)
    (robot : Str × List (Candidate F)) : Except Str (FloorState F) := do
  let pressure := pyMax config.nAwareControlFloorPressure (c.servicePressureFor config robot.1)
  match ← nAwareControlFloorDecision config c.scheduleTick robot.2 link pressure with
  | none => return s
  | some floorDecision =>
      let (s, served) :=
        s.serve specs link floorDecision.flowId floorDecision floorDecision.allocatedBytes
      if served then return { s with lastServed := s.lastServed.set robot.1 c.scheduleTick }
      else return s

/-- `_apply_n_aware_control_service_floor` -/
def applyNAwareControlServiceFloor (config : RobotBudgetConfig F) (c : RobotBudgetController F)
    (candidates : List (Candidate F)) (specs : Dict Str (FlowSpec F)) (link : NetworkLink F)
    (s : FloorState F) : Except Str (FloorState F) :=
  let robots := controlByRobot candidates
  let servedNow := robots.filter fun robot => robot.2.any fun x => sentIn s.decisions x.1.flowId
  let missing := robots.filter fun robot => !robot.2.any fun x => sentIn s.decisions x.1.flowId
  if !config.nAwareControlFloorEnabled then .ok s
  else if (robots.length : Int) < max 1 config.nAwareControlFloorMinRobots then .ok s
  else
    let s := { s with
      lastServed := servedNow.foldl (fun d robot => d.set robot.1 c.scheduleTick) s.lastServed }
    let rank (robot : Str × List (Candidate F)) : List (KeyPart F) :=
      [.int ((s.lastServed.get? robot.1).getD (-1000000)),
        .float (-c.servicePressureFor config robot.1), .text robot.1]
    (sortedBy rank missing).foldlM (nAwareControlFloorTurn config c specs link) s

/-- One turn of `_apply_control_service_floor`, for a flow. -/
def controlFloorTurn (config : RobotBudgetConfig F) (c : RobotBudgetController F)
    (specs : Dict Str (FlowSpec F)) (link : NetworkLink F) (s : FloorState F)
    (candidate : Candidate F) : Except Str (FloorState F) := do
  let (spec, obs) := candidate
  let servicePressure := c.servicePressureFor config spec.robotId
  if !spec.flowClass.isControl then return s
  else if servicePressure < config.minControlFloorPressure then return s
  else if sentIn s.decisions spec.flowId then return s
  else
    match ← controlFloorDecision config spec obs link servicePressure with
    | none => return s
    | some floorDecision =>
        return (s.serve specs link spec.flowId floorDecision floorDecision.allocatedBytes).1

/-! ## The deadline horizon of control intents -/

/-- `_control_deadline_horizon_decision` -/
def controlDeadlineHorizonDecision (config : RobotBudgetConfig F) (spec : FlowSpec F)
    (obs : FlowObservation F) (link : NetworkLink F) (deadlineDeficit : F)
    (decision : FlowDecision F) (actionDeadlineDeficit : F) :
    Except Str (Option (FlowDecision F)) := do
  let options ← feasibleOptions config spec obs link
  let options := options.filter fun option => option.transform.kind = .supervisoryIntent
  return (minBy (F := F) (fun option => [.float option.certificate.deadlineRisk,
      .int option.allocatedBytes]) options).map fun selected =>
    { decisionFor spec selected (pyMax decision.priority (100.0 + 100.0 * deadlineDeficit))
        selected.certificate.slackAfterWireMs
        (lit "robot_budget=deadline_horizon_lift; deadline_q=" ++ fixed 3 deadlineDeficit ++
          lit "; action_deadline_q=" ++ fixed 3 actionDeadlineDeficit ++
          lit "; from=" ++ decision.mode ++
          lit "; horizon_ms=" ++ fixed 1 selected.transform.effectiveDeadlineMs ++
          lit "; risk=" ++ fixed 3 selected.certificate.deadlineRisk ++
          lit "; slack=" ++ fixed 1 selected.certificate.slackAfterWireMs ++
          lit "; " ++ decision.reason) with degraded := false }

/-- One turn of `_apply_control_deadline_horizon_lift`. -/
def horizonLiftTurn (config : RobotBudgetConfig F) (c : RobotBudgetController F)
    (specs : Dict Str (FlowSpec F)) (link : NetworkLink F) (s : FloorState F)
    (candidate : Candidate F) : Except Str (FloorState F) := do
  let (spec, obs) := candidate
  match c.states.get? spec.robotId, s.decisions.get? spec.flowId with
  | some state, some decision =>
      let actionDeadlineDeficit := state.controlIntentDeficit
      if !spec.flowClass.isControl then return s
      else if actionDeadlineDeficit < config.actionDeadlineHorizonLiftMinDeficit then return s
      else if link.rttMs < config.actionDeadlineHorizonLiftMinRttMs then return s
      else if !decision.isSent ∨ decision.action ≠ lit "send_intent" then return s
      else
        match ← controlDeadlineHorizonDecision config spec obs link
            (pyMax state.deadlineDeficit actionDeadlineDeficit) decision
            actionDeadlineDeficit with
        | none => return s
        | some lifted =>
            return (s.serve specs link spec.flowId lifted
              (lifted.allocatedBytes - decision.allocatedBytes)).1
  | _, _ => return s

/-- `_apply_control_deadline_horizon_lift` -/
def applyControlDeadlineHorizonLift (config : RobotBudgetConfig F) (c : RobotBudgetController F)
    (candidates : List (Candidate F)) (specs : Dict Str (FlowSpec F)) (link : NetworkLink F)
    (s : FloorState F) : Except Str (FloorState F) :=
  if !config.deadlineHorizonLiftEnabled then .ok s
  else candidates.foldlM (horizonLiftTurn config c specs link) s

/-! ## Shaping for robots under pressure -/

/-- `_PRESSURE_SHED_CLASSES`, which `_DEADLINE_FIREWALL_CLASSES` repeats. -/
def FlowClass.isShed : FlowClass → Bool
  | .state | .perception | .humanQoe | .debug | .bulk => true
  | _ => false

/-- `_pressure_shed_class_rank` -/
def pressureShedClassRank : FlowClass → Int
  | .bulk => 0
  | .debug => 1
  | .perception => 2
  | .humanQoe => 3
  | .state => 4
  | _ => 99

/-- `_pressure_shaped_decision`; the classes that it defers are those that can be degraded. -/
def pressureShapedDecision (config : RobotBudgetConfig F) (spec : FlowSpec F)
    (obs : FlowObservation F) (link : NetworkLink F) (decision : FlowDecision F) (pressure : F) :
    Except Str (Option (FlowDecision F)) := do
  let options ← feasibleOptions config spec obs link
  let options := options.filter fun option => option.allocatedBytes < decision.allocatedBytes
  match minBy (F := F) (fun option => [.int option.allocatedBytes,
      .float option.certificate.deadlineRisk,
      .int (pressureTransformPreference option.transform.kind)]) options with
  | some selected =>
      return some (decisionFor spec selected (pyMax decision.priority (100.0 + pressure))
        selected.certificate.slackAfterWireMs
        (lit "robot_budget=pressure_shaping; robot_pressure=" ++ fixed 3 pressure ++
          lit "; transform=" ++ selected.transform.kind.value ++
          lit "; from=" ++ decision.mode ++
          lit "; risk=" ++ fixed 3 selected.certificate.deadlineRisk ++
          lit "; slack=" ++ fixed 1 selected.certificate.slackAfterWireMs ++
          lit "; " ++ decision.reason))
  | none =>
      if spec.flowClass.isDegradable then
        return some (decision.deferred (lit "robot_budget=pressure_shaping; robot_pressure=" ++
          fixed 3 pressure ++ lit "; defer noncritical; ") 0.0)
      else return none

/-- The part of the bytes that a robot under pressure is to give up. -/
def shedFraction (config : RobotBudgetConfig F) (state : Option (RobotBudgetState F))
    (pressure : F) : F :=
  let fraction := pyMin config.pressureShedMaxFraction
    (config.pressureShedMaxFraction * pyMax 0.0 (pressure - config.pressureShedStart) /
      pyMax 0.001 (config.maxPressure - config.pressureShedStart))
  match state with
  | some state =>
      if state.deadlineDeficit > 0.0 then
        pyMin config.deadlineDebtShedMaxFraction
          (fraction + config.deadlineDebtShedGain * state.deadlineDeficit)
      else fraction
  | none => fraction

/-- What a robot sends that may be shaped, the first to give way first. -/
def shapeable (specs : Dict Str (FlowSpec F)) (observations : Dict Str (FlowObservation F))
    (decisions : Decisions F) (robotId : Str) :
    List (FlowDecision F × FlowSpec F × FlowObservation F) :=
  sortedBy (fun x => [.int (pressureShedClassRank x.2.1.flowClass), .float x.1.priority,
      .int (-x.1.allocatedBytes)])
    ((decisions.map Prod.snd).filterMap fun decision =>
      match specs.get? decision.flowId, observations.get? decision.flowId with
      | some spec, some obs =>
          if decision.isSent ∧ spec.robotId = robotId ∧ spec.flowClass.isShed then
            some (decision, spec, obs)
          else none
      | _, _ => none)

/-- One turn of `_shape_noncritical_for_robot_pressure`, with what has been reclaimed. -/
def shapeTurn (config : RobotBudgetConfig F) (link : NetworkLink F) (pressure : F) (target : Int)
    (s : Decisions F × Int) (item : FlowDecision F × FlowSpec F × FlowObservation F) :
    Except Str (Decisions F × Int) := do
  let (decisions, reclaimed) := s
  let (decision, spec, obs) := item
  if reclaimed ≥ target then return s
  else
    match ← pressureShapedDecision config spec obs link decision pressure with
    | none => return s
    | some replacement =>
        return (decisions.set decision.flowId replacement,
          reclaimed + max 0 (decision.allocatedBytes - replacement.allocatedBytes))

/-- `_shape_noncritical_for_robot_pressure`. The number that it returns is not read. -/
def shapeNoncriticalForRobotPressure (config : RobotBudgetConfig F) (c : RobotBudgetController F)
    (specs : Dict Str (FlowSpec F)) (observations : Dict Str (FlowObservation F))
    (link : NetworkLink F) (decisions : Decisions F) (robot : Str × F) :
    Except Str (Decisions F) :=
  let (robotId, pressure) := robot
  if pressure < config.pressureShedStart then .ok decisions
  else
    let items := shapeable specs observations decisions robotId
    let total := (items.map fun x => x.1.allocatedBytes).sum
    let target := toInt (ofInt total * shedFraction config (c.states.get? robotId) pressure)
    Prod.fst <$> items.foldlM (shapeTurn config link pressure target) (decisions, 0)

/-- The robots whose traffic is shaped, with their pressures. -/
def pressureByRobot (config : RobotBudgetConfig F) (c : RobotBudgetController F)
    (candidates : List (Candidate F)) : Dict Str F :=
  let raise (d : Dict Str F) (robotId : Str) : Dict Str F :=
    d.set robotId (pyMax ((d.get? robotId).getD 0.0) (c.pressureFor config robotId))
  let floors := candidates.foldl (fun d (spec, _) =>
    if spec.flowClass.isControl ∧
        ¬c.servicePressureFor config spec.robotId < config.minControlFloorPressure then
      raise d spec.robotId
    else d) []
  candidates.foldl (fun d (spec, _) =>
    if c.pressureFor config spec.robotId ≥ config.pressureShedStart then raise d spec.robotId
    else d) floors

/-- `_apply_control_service_floor` -/
def applyControlServiceFloor (config : RobotBudgetConfig F) (c : RobotBudgetController F)
    (candidates : List (Candidate F)) (decisions : List (FlowDecision F)) (link : NetworkLink F) :
    Except Str (List (FlowDecision F) × Dict Str Int) := do
  let specs := specById candidates
  let start : FloorState F := {
    decisions := byId decisions
    sent := sentTotal ((byId decisions).map Prod.snd)
    lastServed := c.controlFloorLastServedTick }
  let s ← applyNAwareControlServiceFloor config c candidates specs link start
  let s ← candidates.foldlM (controlFloorTurn config c specs link) s
  let s ← applyControlDeadlineHorizonLift config c candidates specs link s
  let robots := sortedBy (F := F) (fun robot : Str × F => [.text robot.1])
    (pressureByRobot config c candidates)
  let decisions ← robots.foldlM
    (shapeNoncriticalForRobotPressure config c specs (obsById candidates) link) s.decisions
  return (sortedByFlow (decisions.map Prod.snd), s.lastServed)

/-! ## The deadline firewall -/

/-- `_deadline_firewall_tail_ms` -/
def deadlineFirewallTailMs (config : RobotBudgetConfig F) (link : NetworkLink F)
    (allocatedBytes : Int) : F :=
  let serializationMs := 20.0 * ofInt allocatedBytes / pyMax 1.0 (ofInt link.capacityBytesPerTick)
  let conservativeTail := config.deadlineFirewallRttFactor * link.rttMs +
    config.deadlineFirewallJitterSigma * link.jitterMs +
    config.deadlineFirewallLossRttFraction * link.loss * link.rttMs + serializationMs
  pyMax (pathTailWireMs link allocatedBytes) conservativeTail

/-- `_deadline_firewall_replacement` -/
def deadlineFirewallReplacement (config : RobotBudgetConfig F) (spec : FlowSpec F)
    (obs : FlowObservation F) (link : NetworkLink F) (decision : FlowDecision F) :
    Except Str (Option (FlowDecision F)) := do
  let candidates ← transformCandidates spec obs link config.floorOptions
  let slackMs := spec.qos.deadlineMs - obs.ageMs
  let tailMs (option : TransformCandidate F) : F :=
    deadlineFirewallTailMs config link option.allocatedBytes
  let options := candidates.filter fun option =>
    option.transform.action ∈ sentActions &&
      !(option.allocatedBytes ≥ max 1 decision.allocatedBytes) && !(tailMs option > slackMs)
  return (minBy (F := F) (fun option => [.int option.allocatedBytes,
      .float option.certificate.deadlineRisk,
      .int (pressureTransformPreference option.transform.kind)]) options).map fun selected =>
    decisionFor spec selected (pyMax decision.priority 100.0) (slackMs - tailMs selected)
      (lit "deadline_firewall=reshape; transform=" ++ selected.transform.kind.value ++
        lit "; tail_ms=" ++ fixed 1 (tailMs selected) ++ lit "; slack_ms=" ++ fixed 1 slackMs ++
        lit "; from=" ++ decision.mode ++ lit "; " ++ decision.reason)

/-- One turn of `_apply_deadline_feasibility_firewall`. -/
def firewallTurn (config : RobotBudgetConfig F) (link : NetworkLink F) (decisions : Decisions F)
    (candidate : Candidate F) : Except Str (Decisions F) := do
  let (spec, obs) := candidate
  match decisions.get? spec.flowId with
  | none => return decisions
  | some decision =>
      let slackMs := spec.qos.deadlineMs - obs.ageMs
      let tailMs := deadlineFirewallTailMs config link (max 1 decision.allocatedBytes)
      if !(decision.isSent && spec.flowClass.isShed) then return decisions
      else if tailMs ≤ slackMs then return decisions
      else
        let replacement ← deadlineFirewallReplacement config spec obs link decision
        return decisions.set spec.flowId (replacement.getD (decision.deferred
          (lit "deadline_firewall=defer; tail_ms=" ++ fixed 1 tailMs ++
            lit "; slack_ms=" ++ fixed 1 slackMs ++ lit "; from=" ++ decision.mode ++ lit "; ")
          (slackMs - tailMs)))

/-- `_apply_deadline_feasibility_firewall` -/
def applyDeadlineFeasibilityFirewall (config : RobotBudgetConfig F)
    (candidates : List (Candidate F)) (decisions : List (FlowDecision F)) (link : NetworkLink F) :
    Except Str (List (FlowDecision F)) :=
  if !config.deadlineFirewallEnabled then .ok decisions
  else do
    let decisions ← candidates.foldlM (firewallTurn config link) (byId decisions)
    return sortedByFlow (decisions.map Prod.snd)

/-! ## Outcomes -/

/-- `_annotate_decision` -/
def annotateDecision (config : RobotBudgetConfig F) (c : RobotBudgetController F)
    (specs : Dict Str (FlowSpec F)) (decision : FlowDecision F) : FlowDecision F :=
  match (specs.get? decision.flowId).bind fun spec => c.states.get? spec.robotId with
  | none => decision
  | some state =>
      let pressure := state.pressure config
      if pressure ≤ 0.0 then decision
      else { decision with
        reason := lit "robot_budget=active; robot_pressure=" ++ fixed 3 pressure ++
          lit "; control_q=" ++ fixed 3 state.controlDeficit ++
          lit "; deadline_q=" ++ fixed 3 state.deadlineDeficit ++
          lit "; latency_q=" ++ fixed 3 state.latencyDeficit ++
          lit "; control_intent_deadline_q=" ++ fixed 3 state.controlIntentDeficit ++
          lit "; " ++ decision.reason }

/-- `_network_tail_deadline_risk` -/
def networkTailDeadlineRisk (config : RobotBudgetConfig F) (spec : FlowSpec F)
    (obs : FlowObservation F) (decision : FlowDecision F) (link : NetworkLink F) : F :=
  if !spec.flowClass.isCore then 0.0
  else
    let allocatedBytes := max 1 (if decision.allocatedBytes ≠ 0 then decision.allocatedBytes
      else spec.nominalSizeBytes)
    let slackMs := spec.qos.deadlineMs - obs.ageMs
    logistic (pathTailWireMs link allocatedBytes - slackMs) (pyMax 1.0 config.riskTemperatureMs)

/-- `_decision_deadline_risk` -/
def decisionDeadlineRisk (config : RobotBudgetConfig F) (spec : FlowSpec F)
    (obs : FlowObservation F) (decision : Option (FlowDecision F)) (link : NetworkLink F) : F :=
  match decision.filter FlowDecision.isSent with
  | none => if spec.flowClass.isControl then 1.0 else 0.5
  | some decision =>
      let slackMs := if decision.predictedSlackMs == 0.0 then spec.qos.deadlineMs - obs.ageMs
        else decision.predictedSlackMs
      pyMax (logistic (-slackMs) (pyMax 1.0 config.riskTemperatureMs))
        (config.networkTailRiskGain * networkTailDeadlineRisk config spec obs decision link)

/-- `_update_state` -/
def updateState (config : RobotBudgetConfig F) (state : RobotBudgetState F)
    (controlDelivery deadlineRisk latencyRisk : F) : RobotBudgetState F :=
  let alpha := config.ewmaAlpha
  let mix (value ewma : F) : F :=
    if state.pulls = 0 then value else alpha * value + (1.0 - alpha) * ewma
  let deficit (old learningRate excess : F) : F :=
    pyMin config.maxPressure (config.deficitDecay * old + learningRate * excess)
  { state with
    controlDeliveryEwma := mix controlDelivery state.controlDeliveryEwma
    deadlineRiskEwma := mix deadlineRisk state.deadlineRiskEwma
    latencyRiskEwma := mix latencyRisk state.latencyRiskEwma
    controlDeficit := deficit state.controlDeficit config.controlLearningRate
      (pyMax 0.0 (config.minControlDeliveryRatio - controlDelivery))
    deadlineDeficit := deficit state.deadlineDeficit config.deadlineLearningRate
      (pyMax 0.0 (deadlineRisk - config.maxDeadlineRisk))
    latencyDeficit := deficit state.latencyDeficit config.latencyLearningRate
      (pyMax 0.0 latencyRisk)
    pulls := state.pulls + 1 }

/-- `_update_states` -/
def updateStates (config : RobotBudgetConfig F) (states : Dict Str (RobotBudgetState F))
    (candidates : List (Candidate F)) (decisions : Decisions F) (link : NetworkLink F) :
    Dict Str (RobotBudgetState F) :=
  let byRobot : Dict Str (List (Candidate F)) := candidates.foldl (fun d candidate =>
    d.set candidate.1.robotId ((d.get? candidate.1.robotId).getD [] ++ [candidate])) []
  byRobot.foldl (fun states (robotId, robotCandidates) =>
    let state := (states.get? robotId).getD .start
    let controls := robotCandidates.filter fun x => x.1.flowClass.isControl
    let delivered := controls.countP fun x => sentIn decisions x.1.flowId
    let controlDelivery : F :=
      if controls ≠ [] then ofInt delivered / ofInt controls.length else 1.0
    let deadlineItems := (robotCandidates.filter fun x => x.1.flowClass.isCore).map
      fun (spec, obs) => decisionDeadlineRisk config spec obs (decisions.get? spec.flowId) link
    let deadlineRisk := pySum deadlineItems / ofInt (max 1 deadlineItems.length)
    states.set robotId (updateState config state controlDelivery deadlineRisk 0.0)) states

/-- A policy: it returns decisions, or raises. -/
abbrev CallablePolicy (F : Type) :=
  List (Candidate F) → NetworkLink F → Except Str (List (FlowDecision F))

namespace RobotBudgetController

def schedule (config : RobotBudgetConfig F) (basePolicy : CallablePolicy F)
    (c : RobotBudgetController F) (candidates : List (Candidate F)) (link : NetworkLink F) :
    Except Str (List (FlowDecision F) × RobotBudgetController F) := do
  link.validates
  if candidates.isEmpty then return ([], c)
  let c := { c with scheduleTick := c.scheduleTick + 1 }
  let decisions ← basePolicy (candidates.map (budgetAugmentedCandidate config c)) link
  let (decisions, lastServed) ← applyControlServiceFloor config c candidates decisions link
  let decisions ← applyDeadlineFeasibilityFirewall config candidates decisions link
  let annotated := decisions.map (annotateDecision config c (specById candidates))
  let states := updateStates config c.states candidates (byId decisions) link
  return (sortedByFlow annotated,
    { c with states, controlFloorLastServedTick := lastServed })

end RobotBudgetController

end

end FleetRMW.Admission
