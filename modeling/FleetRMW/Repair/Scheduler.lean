import Mathlib.Data.List.Lex
import Mathlib.Data.List.Sort
import Mathlib.Data.Prod.Lex
import Mathlib.Algebra.Order.Field.Rat
import FleetRMW.Lib.Except
import FleetRMW.Lib.Python

/-! # Repair admission under one fleet capacity

`FleetRepairScheduler` chooses which repairs to admit by a dynamic program over the bytes
used and the number admitted. `log1p` is `math.log1p`; all other arithmetic is exact.
-/

namespace FleetRMW.Repair

open Lib

structure RepairPath where
  pathId : Str
  latencyMs : Rat
  loss : Rat
  failureDomain : Str := []
  bandwidthUtilization : Rat := 0
  deriving Repr, DecidableEq

structure RepairDemand where
  topic : Str
  robotId : Str
  publisherId : Str
  sourceSequenceNumber : Int
  payloadBytes : Int
  remainingDeadlineMs : Rat
  qoeDebt : Rat
  criticality : Rat
  ageMs : Rat := 0
  priorAttempts : Int := 0
  deriving Repr, DecidableEq

def RepairDemand.demandId (d : RepairDemand) : Str :=
  d.publisherId ++ lit ":" ++ lit (toString d.sourceSequenceNumber) ++ lit ":" ++ d.robotId ++
    lit ":" ++ d.topic

structure FleetRepairSchedulerConfig where
  capacityBytes : Int
  maxAdmittedRepairs : Option Int := none
  maxPathsPerRepair : Int := 2
  requireFailureDomainDiversity : Bool := true
  minExpectedSuccess : Rat := 0.25
  criticalityWeight : Rat := 4
  qoeDebtWeight : Rat := 3
  urgencyWeight : Rat := 3.5
  successWeight : Rat := 4
  latencyPenalty : Rat := 0.75
  latenessPenalty : Rat := 6
  priorAttemptPenalty : Rat := 0.75
  byteCostWeight : Rat := 0.05

inductive RepairAction where
  | repair
  | defer
  deriving Repr, DecidableEq

/-- No expected latency is `math.inf`. -/
structure RepairDecision where
  demandId : Str
  topic : Str
  robotId : Str
  publisherId : Str
  sourceSequenceNumber : Int
  action : RepairAction
  selectedPaths : List Str
  allocatedBytes : Int
  expectedSuccess : Rat
  expectedLatencyMs : Option Rat
  remainingDeadlineMs : Rat
  utility : Rat
  reason : String
  deriving Repr, DecidableEq

structure RepairOption where
  paths : List RepairPath
  cost : Int
  success : Rat
  latencyMs : Rat
  utility : Rat
  deriving Repr, DecidableEq

def clip01 (value : Rat) : Rat := min 1 (max 0 value)

/-- The bytes used and the repairs admitted so far. -/
abbrev StateKey := Int × Int

/-- The utility reached and the option chosen for each demand, -1 for none. -/
abbrev StateValue := Rat × List Int

def pathRisk (path : RepairPath) (demand : RepairDemand) : Rat :=
  let deadline := max 1 demand.remainingDeadlineMs
  4 * clip01 path.loss + 2 * max 0 (path.latencyMs / deadline) + clip01 path.bandwidthUtilization

/-- Tuples are compared from the left. -/
def StateValue.lt (x y : StateValue) : Bool := decide (toLex x < toLex y)

/-- Set a key of a dictionary unless it holds a value that is at least as good. -/
def keepState (states : List (StateKey × StateValue)) (key : StateKey) (value : StateValue) :
    List (StateKey × StateValue) :=
  match states with
  | [] => [(key, value)]
  | (k, current) :: rest =>
      if k = key then (if current.lt value then (key, value) else (k, current)) :: rest
      else (k, current) :: keepState rest key value

/-- `max(states.items(), key=...)` prefers more utility, more repairs, fewer bytes and
    earlier options, in this order, and the first of equals. -/
def rank (state : StateKey × StateValue) : Rat ×ₗ Int ×ₗ Int ×ₗ List Int :=
  toLex (state.2.1, toLex (state.1.2, toLex (-state.1.1, state.2.2.map fun i => -i)))

def bestState : List (StateKey × StateValue) → Option (StateKey × StateValue)
  | [] => none
  | state :: rest =>
      some (rest.foldl (fun best s => if rank best < rank s then s else best) state)

/-- One pass over the states by admitted count and bytes; `best` holds the utility seen for
    each count. -/
def pruneFrom (best : Int → Option Rat) :
    List (StateKey × StateValue) → List (StateKey × StateValue)
  | [] => []
  | (key, value) :: rest =>
      if (best key.2).any fun b => value.1 + 1 / 10 ^ 12 < b then pruneFrom best rest
      else
        let seen := max value.1 ((best key.2).getD value.1)
        (key, value) :: pruneFrom (Function.update best key.2 (some seen)) rest

def paretoPrune (states : List (StateKey × StateValue)) : List (StateKey × StateValue) :=
  pruneFrom (fun _ => none) <|
    states.insertionSort fun x y => toLex (x.1.2, x.1.1) ≤ toLex (y.1.2, y.1.1)

namespace FleetRepairSchedulerConfig

variable (log1p : Rat → Rat) (config : FleetRepairSchedulerConfig)

/-- The checks of `FleetRepairScheduler`. -/
def init : Except String Unit := do
  raiseIf (config.capacityBytes < 0) "capacity_bytes must be non-negative"
  raiseIf (config.maxPathsPerRepair ≤ 0) "max_paths_per_repair must be positive"

def utility (demand : RepairDemand) (success latencyMs : Rat) (pathCount : Nat) : Rat :=
  let deadline := max 1 demand.remainingDeadlineMs
  let slackRatio := (demand.remainingDeadlineMs - latencyMs) / deadline
  let deadlinePressure := 100 / deadline
  let latencyRatio := max 0 (latencyMs / deadline)
  let lateness := max 0 (-slackRatio)
  let normalizedCost : Rat := demand.payloadBytes * pathCount / (max 1 config.capacityBytes : Int)
  config.criticalityWeight * clip01 demand.criticality
    + config.qoeDebtWeight * clip01 demand.qoeDebt
    + config.urgencyWeight * log1p deadlinePressure
    + config.successWeight * success
    - config.latencyPenalty * latencyRatio
    - config.latenessPenalty * lateness
    - config.priorAttemptPenalty * (max 0 demand.priorAttempts : Int)
    - config.byteCostWeight * normalizedCost

/-- The best path alone, and with the next one of another failure domain. -/
def candidates (first : RepairPath) (others : List RepairPath) : List (List RepairPath) :=
  let second := others.find? fun path =>
    !(config.requireFailureDomainDiversity && first.failureDomain ≠ [] &&
      path.failureDomain = first.failureDomain)
  [first] :: if config.maxPathsPerRepair > 1 then
    (second.map fun path => [first, path]).toList else []

def option (demand : RepairDemand) (selected : List RepairPath) : Option RepairOption :=
  let success := 1 - (selected.map fun path => clip01 path.loss).prod
  if success < config.minExpectedSuccess then none
  else
    let latencies := selected.map fun path => max 0 path.latencyMs
    let latencyMs := latencies.tail.foldl min (latencies.headD 0)
    some {
      paths := selected
      cost := demand.payloadBytes * selected.length
      success
      latencyMs
      utility := config.utility log1p demand success latencyMs selected.length }

def options (demand : RepairDemand) (paths : List RepairPath) :
    Except String (List RepairOption) := do
  raiseIf (demand.payloadBytes ≤ 0) "repair payload_bytes must be positive"
  match paths.insertionSort (fun x y => pathRisk x demand ≤ pathRisk y demand) with
  | [] => pure []
  | first :: others => pure ((config.candidates first others).filterMap (config.option log1p demand))

/-- What one demand adds to a state: nothing, or one of its options. -/
def extendState (demandOptions : List RepairOption) (next : List (StateKey × StateValue))
    (state : StateKey × StateValue) : List (StateKey × StateValue) :=
  let ((used, admitted), utility, selected) := state
  let next := keepState next (used, admitted) (utility, selected ++ [-1])
  demandOptions.zipIdx.foldl (fun next (o, index) =>
    if used + o.cost > config.capacityBytes then next
    else if config.maxAdmittedRepairs.any fun limit => admitted + 1 > limit then next
    else keepState next (used + o.cost, admitted + 1)
      (utility + o.utility, selected ++ [(index : Int)])) next

def finalStates (options : List (List RepairOption)) : List (StateKey × StateValue) :=
  options.foldl (fun states demandOptions =>
    paretoPrune (states.foldl (config.extendState demandOptions) [])) [((0, 0), (0, []))]

end FleetRepairSchedulerConfig

def repairDecision (demand : RepairDemand) (o : RepairOption) : RepairDecision where
  demandId := demand.demandId
  topic := demand.topic
  robotId := demand.robotId
  publisherId := demand.publisherId
  sourceSequenceNumber := demand.sourceSequenceNumber
  action := .repair
  selectedPaths := o.paths.map RepairPath.pathId
  allocatedBytes := o.cost
  expectedSuccess := o.success
  expectedLatencyMs := some o.latencyMs
  remainingDeadlineMs := demand.remainingDeadlineMs
  utility := o.utility
  reason := "fleet-wide deadline/QoE repair admission"

def deferredDecision (demand : RepairDemand) : RepairDecision where
  demandId := demand.demandId
  topic := demand.topic
  robotId := demand.robotId
  publisherId := demand.publisherId
  sourceSequenceNumber := demand.sourceSequenceNumber
  action := .defer
  selectedPaths := []
  allocatedBytes := 0
  expectedSuccess := 0
  expectedLatencyMs := none
  remainingDeadlineMs := demand.remainingDeadlineMs
  utility := 0
  reason := "not admitted by shared fleet repair capacity"

/-- The decision for one demand, given the index that was selected for it. -/
def decisionAt (demand : RepairDemand) (options : List RepairOption) (index : Int) :
    RepairDecision :=
  if index < 0 then deferredDecision demand
  else (options[index.toNat]?).elim (deferredDecision demand) (repairDecision demand)

/-- `schedule`, which answers with the decisions. -/
def FleetRepairSchedulerConfig.schedule (log1p : Rat → Rat) (config : FleetRepairSchedulerConfig)
    (demands : List RepairDemand) (paths : List RepairPath) :
    Except String (List RepairDecision) := do
  let demandList := demands.insertionSort fun x y => x.demandId ≤ y.demandId
  raiseIf (demandList ≠ [] ∧ paths = []) "at least one repair path is required"
  let options ← demandList.mapM fun demand => config.options log1p demand paths
  let selected := ((bestState (config.finalStates options)).map (·.2.2)).getD []
  pure <| (demandList.zip options).zipWith (fun (demand, options) index =>
    decisionAt demand options index) selected

end FleetRMW.Repair
