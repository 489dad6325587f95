import FleetRMW.Admission.Model

/-! # The causal semantic deadline scheduler

`CausalSemanticDeadlineScheduler` admits critical flows into a reservation, then flows that an
operator looks at, then all others, each by its own order.
-/

namespace FleetRMW.Admission

open Lib FloatOps

structure SchedulerWeights (F : Type) where
  causalGain : F
  riskReduction : F
  freshness : F
  deadline : F
  operatorQoe : F
  coordination : F
  reliabilityPenalty : F
  bandwidthCost : F
  redundancyPenalty : F
  stalePenalty : F

structure CausalSemanticDeadlineScheduler (F : Type) where
  weights : SchedulerWeights F
  criticalBudgetFraction : F
  qoeBudgetFraction : F
  degradationFloor : F

/-- A flow with its priority and its priority for each byte. -/
structure Scored (F : Type) where
  priority : F
  density : F
  spec : FlowSpec F
  obs : FlowObservation F

def Scored.flowId {F : Type} (entry : Scored F) : Str := entry.spec.flowId

section
variable {F : Type} [FloatOps F]

def SchedulerWeights.standard : SchedulerWeights F where
  causalGain := 3.0
  riskReduction := 2.2
  freshness := 2.0
  deadline := 2.4
  operatorQoe := 1.7
  coordination := 1.2
  reliabilityPenalty := 0.8
  bandwidthCost := 1.1
  redundancyPenalty := 1.5
  stalePenalty := 6.0

/-- `_class_floor` -/
def classFloor : FlowClass → F
  | .safety => 12.0
  | .control => 10.0
  | .coordination => 8.0
  | .state => 6.0
  | .perception => 3.0
  | .humanQoe => 4.0
  | .debug => 0.5
  | .bulk => 0.1

/-- `_bandwidth_cost` -/
def bandwidthCost (spec : FlowSpec F) : F :=
  ofInt spec.nominalSizeBytes * spec.nominalRateHz / 1000000.0

/-- `_effective_size` -/
def effectiveSize (spec : FlowSpec F) (obs : FlowObservation F) : Int :=
  let queuedFactor := min 3 (max 1 obs.queueDepth)
  max 1 (toInt (ofInt spec.nominalSizeBytes * spec.semanticDeltaRatio * ofInt queuedFactor))

/-- `_partition`, by `_CRITICAL_CLASSES` -/
def partition (scored : List (Scored F)) : List (Scored F) × List (Scored F) :=
  scored.partition fun entry => entry.spec.flowClass.isCore

/-- `_rejected_critical_as_opportunistic` -/
def rejectedCriticalAsOpportunistic (critical : List (Scored F))
    (selected : List (FlowDecision F)) : List (Scored F) :=
  critical.filter fun entry => entry.flowId ∉ selected.map FlowDecision.flowId

namespace CausalSemanticDeadlineScheduler

variable (s : CausalSemanticDeadlineScheduler F)

/-- The checks of the constructor. -/
def init : Except Str Unit := do
  raiseIf (¬(0.0 ≤ s.criticalBudgetFraction ∧ s.criticalBudgetFraction ≤ 1.0))
    (lit "critical_budget_fraction must be in [0, 1]")
  raiseIf (¬(0.0 ≤ s.qoeBudgetFraction ∧ s.qoeBudgetFraction ≤ 1.0))
    (lit "qoe_budget_fraction must be in [0, 1]")
  raiseIf (¬(0.0 < s.degradationFloor ∧ s.degradationFloor ≤ 1.0))
    (lit "degradation_floor must be in (0, 1]")

/-- `_priority` -/
def priority (spec : FlowSpec F) (obs : FlowObservation F) (link : NetworkLink F) : F :=
  let task := obs.task.clipped
  let ageRatio := pyMin 2.0 (obs.ageMs / spec.qos.lifespanMs)
  let deadlineRatio := pyMin 2.0 (obs.ageMs / spec.qos.deadlineMs)
  let qoe :=
    (spec.qoe.smoothnessWeight + spec.qoe.freezePenalty + spec.qoe.visualConfidenceWeight) *
      task.operatorAttention
  let reliabilityPressure :=
    link.loss + obs.measuredLoss +
      pyMax 0.0 (obs.measuredRttMs - spec.qos.deadlineMs) / spec.qos.deadlineMs
  classFloor spec.flowClass
    + s.weights.causalGain * spec.causalTaskGain
    + s.weights.riskReduction * task.collisionRisk * task.taskCriticality
    + s.weights.freshness * ageRatio
    + s.weights.deadline * deadlineRatio
    + s.weights.operatorQoe * qoe
    + s.weights.coordination * task.coordinationPressure
    - s.weights.reliabilityPenalty * reliabilityPressure
    - s.weights.bandwidthCost * bandwidthCost spec
    - s.weights.redundancyPenalty * spec.redundancy

/-- `_degraded_size` -/
def degradedSize (bytesNeeded : Int) : Int :=
  max 1 (toInt (ofInt bytesNeeded * s.degradationFloor))

/-! ## Admission -/

def sendDecision (reason : Str) (entry : Scored F) : FlowDecision F where
  flowId := entry.flowId
  action := lit "send"
  priority := entry.priority
  allocatedBytes := effectiveSize entry.spec entry.obs
  reason
  predictedSlackMs := 0.0

def degradedDecision (reason : Str) (entry : Scored F) : FlowDecision F where
  flowId := entry.flowId
  action := lit "send_degraded"
  priority := entry.priority
  allocatedBytes := s.degradedSize (effectiveSize entry.spec entry.obs)
  reason := reason ++ lit ": degraded"
  degraded := true
  predictedSlackMs := 0.0

/-- One turn of an admission loop, with the decisions so far and the bytes that remain. -/
def admitEntry (allowDegradation : Bool) (reason : Str)
    (state : List (FlowDecision F) × Int) (entry : Scored F) : List (FlowDecision F) × Int :=
  let (decisions, remaining) := state
  let bytesNeeded := effectiveSize entry.spec entry.obs
  if bytesNeeded ≤ remaining then
    (decisions ++ [sendDecision reason entry], remaining - bytesNeeded)
  else if allowDegradation && entry.spec.flowClass.isDegradable then
    let degradedBytes := s.degradedSize bytesNeeded
    if degradedBytes ≤ remaining then
      (decisions ++ [s.degradedDecision reason entry], remaining - degradedBytes)
    else (decisions, remaining)
  else (decisions, remaining)

/-- `_admit_by_priority` -/
def admitByPriority (scored : List (Scored F)) (capacity : Int) (allowDegradation : Bool)
    (className : Str) : List (FlowDecision F) × Int :=
  (sortedByDesc (fun entry => [.float entry.priority]) scored).foldl
    (s.admitEntry allowDegradation className) ([], capacity)

/-- `_admit_by_density` -/
def admitByDensity (scored : List (Scored F)) (capacity : Int) : List (FlowDecision F) × Int :=
  (sortedByDesc (fun entry => [.float entry.density, .float entry.priority]) scored).foldl
    (s.admitEntry true (lit "semantic utility per byte")) ([], capacity)

/-! ## The schedule -/

/-- A flow whose sample has outlived its lifespan. -/
def isStale (candidate : Candidate F) : Bool := candidate.2.ageMs > candidate.1.qos.lifespanMs

def dropDecision (candidate : Candidate F) : FlowDecision F where
  flowId := candidate.1.flowId
  action := lit "drop"
  priority := -s.weights.stalePenalty
  allocatedBytes := 0
  reason := lit "stale beyond lifespan"
  predictedSlackMs := 0.0

def score (link : NetworkLink F) (candidate : Candidate F) : Scored F :=
  let priority := s.priority candidate.1 candidate.2 link
  let bytesNeeded := effectiveSize candidate.1 candidate.2
  { priority
    density := priority / pyMax 1.0 (ofInt bytesNeeded)
    spec := candidate.1
    obs := candidate.2 }

def deferDecision (entry : Scored F) : FlowDecision F where
  flowId := entry.flowId
  action := lit "defer"
  priority := classFloor entry.spec.flowClass
  allocatedBytes := 0
  reason := lit "insufficient capacity"
  predictedSlackMs := 0.0

/-- The loop over the candidates: the scored entries and the decisions that drop. -/
def scoreAll (candidates : List (Candidate F)) (link : NetworkLink F) :
    Except Str (List (Scored F) × List (FlowDecision F)) :=
  candidates.foldlM (fun (scored, decisions) candidate => do
    candidate.1.validates
    if isStale candidate then pure (scored, decisions ++ [s.dropDecision candidate])
    else pure (scored ++ [s.score link candidate], decisions)) ([], [])

/-- The pass over the critical flows: its decisions, and what it leaves of the reservation. -/
def criticalPass (link : NetworkLink F) (critical : List (Scored F)) :
    List (FlowDecision F) × Int :=
  let criticalBudget := toInt (ofInt link.capacityBytesPerTick * s.criticalBudgetFraction)
  s.admitByPriority critical (min criticalBudget link.capacityBytesPerTick) true
    (lit "critical reservation")

/-- The two passes over the other flows, and over the critical ones that were rejected. -/
def sharedPasses (link : NetworkLink F) (critical : List (Scored F))
    (selectedCritical : List (FlowDecision F)) (opportunistic : List (Scored F))
    (sharedBudget : Int) : List (FlowDecision F) :=
  let focusedQoe := opportunistic.filter fun entry =>
    entry.spec.flowClass = .humanQoe ∧ entry.obs.task.operatorAttention > ofInt 0
  let qoeBudget :=
    min sharedBudget (toInt (ofInt link.capacityBytesPerTick * s.qoeBudgetFraction))
  let (selectedQoe, remainingQoeBudget) := s.admitByDensity focusedQoe qoeBudget
  let sharedBudget := sharedBudget - (qoeBudget - remainingQoeBudget)
  let remainingOpportunistic := opportunistic.filter fun entry =>
    entry.flowId ∉ selectedQoe.map FlowDecision.flowId
  let (selectedRest, _) := s.admitByDensity
    (remainingOpportunistic ++ rejectedCriticalAsOpportunistic critical selectedCritical)
    sharedBudget
  selectedQoe ++ selectedRest

/-- What is decided about the entries, before those are deferred that nothing was decided
    about. -/
def admitAll (link : NetworkLink F) (scored : List (Scored F)) : List (FlowDecision F) :=
  let (critical, opportunistic) := partition scored
  let (selectedCritical, remainingCriticalBudget) := s.criticalPass link critical
  let remaining := link.capacityBytesPerTick - (selectedCritical.map (·.allocatedBytes)).sum
  let leftoverReserved := max 0 remainingCriticalBudget
  let sharedBudget := remaining + leftoverReserved
  selectedCritical ++ s.sharedPasses link critical selectedCritical opportunistic sharedBudget

def schedule (candidates : List (Candidate F)) (link : NetworkLink F) :
    Except Str (List (FlowDecision F)) := do
  link.validates
  let (scored, dropped) ← s.scoreAll candidates link
  let decisions := dropped ++ s.admitAll link scored
  let decidedIds := decisions.map FlowDecision.flowId
  let deferred := (scored.filter fun entry => entry.flowId ∉ decidedIds).map deferDecision
  pure (sortedBy (fun decision => [(.text decision.flowId : KeyPart F)]) (decisions ++ deferred))

end CausalSemanticDeadlineScheduler

end

end FleetRMW.Admission
