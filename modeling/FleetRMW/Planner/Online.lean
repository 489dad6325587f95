import FleetRMW.Lib.Eviction
import FleetRMW.Planner.Optimizer

/-! # The online path planner

`OnlineFleetPathPlanner` smooths what is observed about the paths, asks the optimizer for
decisions, and holds the paths of a topic for some ticks when the new ones are little better.
-/

namespace FleetRMW.Planner

open Lib

structure PathObservation where
  pathId : Str
  latencyMs : Rat
  jitterMs : Rat
  sentFrames : Int := 0
  deliveredFrames : Int := 0
  nackFrames : Int := 0
  deadlineMissFrames : Int := 0
  bytesSent : Int := 0
  capacityBytes : Int := 0
  loss : Option Rat := none
  nackRate : Option Rat := none
  deadlineMissRatio : Option Rat := none
  bandwidthUtilization : Option Rat := none
  failureDomain : Str := []
  deriving Repr, DecidableEq

/-- A ratio that was measured, or that of two counts. -/
def measuredOr (measured : Option Rat) (counted : Rat) : Rat := clip01 (measured.getD counted)

def PathObservation.toTelemetry (o : PathObservation) : PathTelemetry :=
  let sent := max 0 o.sentFrames
  let delivered := max 0 o.deliveredFrames
  let denominator : Rat := (max 1 sent : Int)
  { pathId := o.pathId
    latencyMs := max 0 o.latencyMs
    jitterMs := max 0 o.jitterMs
    loss := measuredOr o.loss (1 - delivered / denominator)
    nackRate := measuredOr o.nackRate ((max 0 o.nackFrames : Int) / denominator)
    deadlineMissRatio :=
      measuredOr o.deadlineMissRatio ((max 0 o.deadlineMissFrames : Int) / denominator)
    bandwidthUtilization :=
      measuredOr o.bandwidthUtilization
        ((max 0 o.bytesSent : Int) / (max 1 o.capacityBytes : Int))
    failureDomain := o.failureDomain }

structure FleetTopicDemand where
  topic : Str
  demand : FleetFlowDemand
  deriving Repr, DecidableEq

structure OnlineFleetPlannerConfig where
  optimizer : FleetOptimizerConfig := {}
  telemetryAlpha : Rat := 0.45
  minDwellTicks : Int := 2
  switchScoreMargin : Rat := 0.25
  emergencyScoreMargin : Rat := 0.75
  deriving Repr, DecidableEq

structure TopicPlanDecision where
  topic : Str
  flowId : Str
  robotId : Str
  action : PathAction
  mode : Str
  selectedPaths : List Str
  optimizerSelectedPaths : List Str
  changed : Bool
  heldByDwell : Bool
  dwellTicks : Int
  previousPaths : List Str
  reason : String
  deriving Repr, DecidableEq

structure OnlineFleetPathPlan where
  tick : Int
  pathPlanEnv : Str
  changedTopics : List Str
  topicDecisions : List TopicPlanDecision
  optimizerDecisions : List FleetPathDecision
  pathTelemetry : List PathTelemetry
  deriving Repr, DecidableEq

/-- What the planner remembers. -/
structure PlannerState where
  smoothedPaths : Dict Str PathTelemetry := []
  topicPaths : Dict Str (List Str) := []
  topicLastChange : Dict Str Int := []
  lastTick : Int := -1

/-- The arguments of `update`. -/
structure PlannerUpdate where
  tick : Int
  observations : List PathObservation
  demands : List FleetTopicDemand
  robotStates : List RobotQoEState := []

/-- `_ewma` -/
def ewma (previous current alpha : Rat) : Rat := previous * (1 - alpha) + current * alpha

/-- `_smooth_path` -/
def smoothPath (previous current : PathTelemetry) (alpha : Rat) : PathTelemetry where
  pathId := current.pathId
  latencyMs := ewma previous.latencyMs current.latencyMs alpha
  jitterMs := ewma previous.jitterMs current.jitterMs alpha
  loss := ewma previous.loss current.loss alpha
  nackRate := ewma previous.nackRate current.nackRate alpha
  deadlineMissRatio := ewma previous.deadlineMissRatio current.deadlineMissRatio alpha
  bandwidthUtilization := ewma previous.bandwidthUtilization current.bandwidthUtilization alpha
  failureDomain :=
    if current.failureDomain = [] then previous.failureDomain else current.failureDomain

/-- `"+".join(...)` and the like. -/
def joined (separator : Str) (parts : List Str) : Str := (parts.intersperse separator).flatten

/-- `path_plan_env_from_topic_decisions` -/
def pathPlanEnv (decisions : List TopicPlanDecision) : Str :=
  let rules := (decisions.insertionSort fun x y => x.topic ≤ y.topic).filter fun decision =>
    decision.selectedPaths ≠ []
  joined (lit ";") <| rules.map fun decision =>
    decision.topic ++ lit "=" ++ joined (lit "+") decision.selectedPaths

namespace OnlineFleetPlannerConfig

variable (config : OnlineFleetPlannerConfig)

/-- `_selected_path_score`, with none for `inf`. -/
def selectedPathScore (pathIds : List Str) (demand : FleetFlowDemand)
    (pathById : List PathTelemetry) : Option Rat :=
  let scores := pathIds.filterMap fun pathId =>
    (pathById.find? fun path => path.pathId = pathId).map fun path =>
      config.optimizer.pathScore path demand
  match scores with
  | [] => none
  | score :: scores => some (scores.foldl min score)

/-- `previous - candidate >= margin`, which no difference of two infinities is. -/
def gains (previous candidate : Option Rat) (margin : Rat) : Bool :=
  match previous, candidate with
  | some previous, some candidate => previous - candidate ≥ margin
  | none, some _ => true
  | _, none => false

/-- `_guard_path_switch`: the paths, and whether they are held. -/
def guardPathSwitch (s : PlannerState) (tick : Int) (topic : Str)
    (previousPaths candidatePaths : List Str) (demand : FleetFlowDemand)
    (pathById : List PathTelemetry) : List Str × Bool :=
  if previousPaths = [] ∨ previousPaths = candidatePaths then (candidatePaths, false)
  else
    let dwell := tick - (s.topicLastChange.get? topic).getD tick
    let previousScore := config.selectedPathScore previousPaths demand pathById
    let candidateScore := config.selectedPathScore candidatePaths demand pathById
    if dwell ≥ config.minDwellTicks ∨
        gains previousScore candidateScore config.switchScoreMargin ∨
        gains previousScore candidateScore config.emergencyScoreMargin then
      (candidatePaths, false)
    else (previousPaths, true)

/-- The paths of a topic, and whether they are held. -/
def topicPaths (s : PlannerState) (tick : Int) (topic : Str) (decision : FleetPathDecision)
    (demand : FleetFlowDemand) (pathById : List PathTelemetry) : List Str × Bool :=
  if decision.action ∉ [.send, .sendDegraded] ∨ decision.mode = .drop then ([], false)
  else
    config.guardPathSwitch s tick topic ((s.topicPaths.get? topic).getD [])
      decision.selectedPaths demand pathById

/-- `_topic_plan_decision` -/
def topicPlanDecision (s : PlannerState) (tick : Int) (topic : Str)
    (decision : FleetPathDecision) (demand : FleetFlowDemand) (pathById : List PathTelemetry) :
    TopicPlanDecision × PlannerState :=
  let previousPaths := (s.topicPaths.get? topic).getD []
  let (selectedPaths, held) := config.topicPaths s tick topic decision demand pathById
  let changed := decide (selectedPaths ≠ previousPaths)
  let s := if changed then
    { s with
      topicPaths := s.topicPaths.set topic selectedPaths
      topicLastChange := s.topicLastChange.set topic tick }
    else s
  let dwellTicks := tick - (s.topicLastChange.get? topic).getD tick
  ({ topic
     flowId := decision.flowId
     robotId := decision.robotId
     action := decision.action
     mode := decision.mode.value
     selectedPaths
     optimizerSelectedPaths := decision.selectedPaths
     changed
     heldByDwell := held
     dwellTicks := max 0 dwellTicks
     previousPaths
     reason := decision.reason }, s)

/-- `_update_path_telemetry`, before it is checked that a path is there. -/
def updatePathTelemetry (smoothed : Dict Str PathTelemetry)
    (observations : List PathObservation) : Dict Str PathTelemetry :=
  let alpha := clip01 config.telemetryAlpha
  observations.foldl (fun smoothed observation =>
    let current := observation.toTelemetry
    smoothed.set current.pathId <|
      match smoothed.get? current.pathId with
      | none => current
      | some previous => smoothPath previous current alpha) smoothed

/-- The demand of a flow, of which the last one counts. -/
def demandByFlow (demands : List FleetTopicDemand) (flowId : Str) : Option FleetTopicDemand :=
  demands.reverse.find? fun item => item.demand.flowId = flowId

/-- The loop over the optimizer's decisions. -/
def planTopics (tick : Int) (demands : List FleetTopicDemand) (pathById : List PathTelemetry)
    (decisions : List FleetPathDecision) (s : PlannerState) :
    List TopicPlanDecision × PlannerState :=
  decisions.foldl (fun (plans, s) decision =>
    match demandByFlow demands decision.flowId with
    | none => (plans, s)
    | some item =>
        let (plan, s) := config.topicPlanDecision s tick item.topic decision item.demand pathById
        (plans ++ [plan], s)) ([], s)

section
variable {config} (tick : Int) (demands : List FleetTopicDemand) (pathById : List PathTelemetry)

theorem planTopics_from (decisions : List FleetPathDecision) (before : List TopicPlanDecision)
    (s : PlannerState) :
    decisions.foldl (fun (plans, s) decision =>
      match demandByFlow demands decision.flowId with
      | none => (plans, s)
      | some item =>
          let (plan, s) :=
            config.topicPlanDecision s tick item.topic decision item.demand pathById
          (plans ++ [plan], s)) (before, s) =
    (before ++ (config.planTopics tick demands pathById decisions s).1,
      (config.planTopics tick demands pathById decisions s).2) := by
  induction decisions generalizing before s with
  | nil => exact congrArg (fun plans => (plans, s)) (List.append_nil before).symm
  | cons decision decisions ih =>
      unfold planTopics
      rw [List.foldl_cons, List.foldl_cons]
      cases demandByFlow demands decision.flowId with
      | none => exact ih before s
      | some item =>
          dsimp only
          rw [ih, ih, List.append_assoc, List.nil_append]

/-- A decision of an unknown flow is passed by. -/
theorem planTopics_cons_none {decision : FleetPathDecision}
    (unknown : demandByFlow demands decision.flowId = none) (decisions : List FleetPathDecision)
    (s : PlannerState) :
    config.planTopics tick demands pathById (decision :: decisions) s =
      config.planTopics tick demands pathById decisions s := by
  unfold planTopics
  rw [List.foldl_cons, unknown]

theorem planTopics_cons {decision : FleetPathDecision} {item : FleetTopicDemand}
    (found : demandByFlow demands decision.flowId = some item)
    (decisions : List FleetPathDecision) (s : PlannerState) :
    let turn := config.topicPlanDecision s tick item.topic decision item.demand pathById
    config.planTopics tick demands pathById (decision :: decisions) s =
      (turn.1 :: (config.planTopics tick demands pathById decisions turn.2).1,
        (config.planTopics tick demands pathById decisions turn.2).2) := by
  have first : config.planTopics tick demands pathById (decision :: decisions) s =
      decisions.foldl _ _ := List.foldl_cons ..
  rw [first, found]
  exact planTopics_from tick demands pathById decisions [_] _

end

/-- `update`, which may raise after it has changed the state. -/
def update (s : PlannerState) (u : PlannerUpdate) :
    Except String OnlineFleetPathPlan × PlannerState :=
  if u.tick < s.lastTick then (.error "tick must be monotonic", s)
  else
    let s := { s with
      lastTick := u.tick
      smoothedPaths := config.updatePathTelemetry s.smoothedPaths u.observations }
    if s.smoothedPaths = [] then (.error "at least one path observation is required", s)
    else
      let telemetry := (s.smoothedPaths.map Prod.snd).insertionSort fun x y => x.pathId ≤ y.pathId
      match config.optimizer.decide (u.demands.map FleetTopicDemand.demand) telemetry
          u.robotStates with
      | .error e => (.error e, s)
      | .ok decisions =>
          let (plans, s) := config.planTopics u.tick u.demands telemetry decisions s
          (.ok {
            tick := u.tick
            pathPlanEnv := Planner.pathPlanEnv plans
            changedTopics := (plans.filter TopicPlanDecision.changed).map TopicPlanDecision.topic
            topicDecisions := plans.insertionSort fun x y => x.topic ≤ y.topic
            optimizerDecisions := decisions
            pathTelemetry := telemetry }, s)

end OnlineFleetPlannerConfig

end FleetRMW.Planner
