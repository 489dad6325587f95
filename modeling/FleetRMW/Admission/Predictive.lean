import FleetRMW.Admission.Scheduler

/-! # Predictive admission

`PredictiveAdmissionController` admits flows class by class into the bytes, the packets and the
airtime of a tick, where each class takes from what the classes before it have left.
-/

namespace FleetRMW.Admission

open Lib FloatOps

structure PredictiveAdmissionConfig (F : Type) where
  ewmaAlpha : F
  safetyMargin : F
  pressureCompactionThreshold : F
  pressureDropThreshold : F
  qoeFloorFraction : F
  semanticCompactionRatio : F
  opportunisticDegradationRatio : F
  staleDropRatio : F
  remainingTierCapacityFraction : F

/-- What a controller has learned of its link: `_capacity_ewma`, `_loss_ewma`, `_rtt_ewma` and
    `_jitter_ewma`. -/
structure LinkEstimate (F : Type) where
  capacityEwma : Option F := none
  lossEwma : F
  rttEwma : F
  jitterEwma : F

structure PredictiveAdmissionController (F : Type) where
  config : PredictiveAdmissionConfig F
  weights : SchedulerWeights F
  estimate : LinkEstimate F

/-- `_Entry` -/
structure Entry (F : Type) where
  priority : F
  density : F
  baseSize : Int
  slackMs : F
  reliability : Str
  spec : FlowSpec F
  obs : FlowObservation F

def Entry.flowId {F : Type} (entry : Entry F) : Str := entry.spec.flowId

/-- What is left of a tick. -/
structure TickBudget where
  bytes : Int
  packets : Option Int
  airtimeNs : Option Int

/-- `_estimate_airtime_ns` -/
def estimateAirtimeNs (sizeBytes : Int) : Int :=
  160000 + max 0 sizeBytes * 8 * 1000000000 / 54000000

section
variable {F : Type} [FloatOps F]

def PredictiveAdmissionConfig.standard : PredictiveAdmissionConfig F where
  ewmaAlpha := 0.32
  safetyMargin := 0.88
  pressureCompactionThreshold := 0.82
  pressureDropThreshold := 1.12
  qoeFloorFraction := 0.08
  semanticCompactionRatio := 0.55
  opportunisticDegradationRatio := 0.14
  staleDropRatio := 0.82
  remainingTierCapacityFraction := 0.15

namespace LinkEstimate

def start : LinkEstimate F where
  lossEwma := 0.0
  rttEwma := 20.0
  jitterEwma := 0.0

/-- `_update_link_estimate` -/
def update (estimate : LinkEstimate F) (alpha : F) (link : NetworkLink F) : LinkEstimate F where
  capacityEwma :=
    match estimate.capacityEwma with
    | none => some (ofInt link.capacityBytesPerTick)
    | some ewma => some (alpha * ofInt link.capacityBytesPerTick + (1.0 - alpha) * ewma)
  lossEwma := alpha * link.loss + (1.0 - alpha) * estimate.lossEwma
  rttEwma := alpha * link.rttMs + (1.0 - alpha) * estimate.rttEwma
  jitterEwma := alpha * link.jitterMs + (1.0 - alpha) * estimate.jitterEwma

end LinkEstimate

def NetworkLink.budget (link : NetworkLink F) : TickBudget where
  bytes := link.capacityBytesPerTick
  packets := link.capacityPacketsPerTick
  airtimeNs := link.capacityAirtimeNsPerTick

/-- A human looks at what the flow shows. -/
def isFocused (spec : FlowSpec F) (obs : FlowObservation F) : Bool :=
  spec.flowClass = .humanQoe ∧ obs.task.operatorAttention > ofInt 0

def FlowClass.isCoordinationState : FlowClass → Bool
  | .coordination | .state => true
  | _ => false

namespace PredictiveAdmissionController

variable (c : PredictiveAdmissionController F)

/-- The scheduler that the constructor initializes. -/
def scheduler : CausalSemanticDeadlineScheduler F where
  weights := c.weights
  criticalBudgetFraction := 0.72
  qoeBudgetFraction := c.config.qoeFloorFraction
  degradationFloor := c.config.opportunisticDegradationRatio

/-! ## Entries -/

/-- `_adaptive_reliability` -/
def adaptiveReliability (spec : FlowSpec F) (obs : FlowObservation F) (link : NetworkLink F) :
    Str :=
  let slack := spec.qos.deadlineMs - obs.ageMs
  let freshEnoughForRetry := slack > pyMax link.rttMs c.estimate.rttEwma * 1.35
  match spec.flowClass with
  | .safety | .control | .coordination =>
      if freshEnoughForRetry ∧ link.loss ≥ 0.03 then lit "reliable" else lit "best_effort_fresh"
  | .state =>
      if freshEnoughForRetry ∧ link.loss < 0.08 then lit "reliable" else lit "best_effort_fresh"
  | _ => lit "best_effort_fresh"

/-- `_predictive_priority` -/
def predictivePriority (spec : FlowSpec F) (obs : FlowObservation F) (link : NetworkLink F) : F :=
  let base := c.scheduler.priority spec obs link
  let slack := spec.qos.deadlineMs - obs.ageMs
  let deadlineUrgency := pyMax 0.0 (1.0 - slack / spec.qos.deadlineMs)
  let forecastPenalty :=
    c.estimate.lossEwma + c.estimate.jitterEwma / pyMax 1.0 spec.qos.deadlineMs
  let coreBoost : F := if spec.flowClass.isCore then 2.5 else 0.0
  base + 5.0 * deadlineUrgency + coreBoost - forecastPenalty

/-- `_should_preemptively_drop` -/
def shouldPreemptivelyDrop (spec : FlowSpec F) (obs : FlowObservation F) : Bool :=
  !spec.flowClass.isCore && obs.ageMs ≥ spec.qos.lifespanMs * c.config.staleDropRatio

/-- `_drop_when_unadmitted` -/
def dropWhenUnadmitted (entry : Entry F) (pressure : F) : Bool :=
  if entry.spec.flowClass.isCore then false
  else if pressure ≥ c.config.pressureDropThreshold then true
  else entry.obs.ageMs ≥ entry.spec.qos.lifespanMs * 0.65

/-- `_drop` -/
def drop (spec : FlowSpec F) (reason : Str) (obs : FlowObservation F) : FlowDecision F where
  flowId := spec.flowId
  action := lit "drop"
  priority := -c.weights.stalePenalty
  allocatedBytes := 0
  reason
  predictedSlackMs := spec.qos.deadlineMs - obs.ageMs

def entry (link : NetworkLink F) (candidate : Candidate F) : Entry F :=
  let (spec, obs) := candidate
  let baseSize := effectiveSize spec obs
  let priority := c.predictivePriority spec obs link
  { priority
    density := priority / ofInt (max 1 baseSize)
    baseSize
    slackMs := spec.qos.deadlineMs - obs.ageMs
    reliability := c.adaptiveReliability spec obs link
    spec
    obs }

/-- The reason for which a candidate is dropped before anything is admitted. -/
def dropReason (preemptive : Str) (candidate : Candidate F) : Option Str :=
  let (spec, obs) := candidate
  if obs.ageMs > spec.qos.lifespanMs then some (lit "stale beyond lifespan")
  else if c.shouldPreemptivelyDrop spec obs then some preemptive
  else none

/-- The loop over the candidates: the entries, and the decisions that drop. -/
def enterAll (preemptive : Str) (candidates : List (Candidate F)) (link : NetworkLink F) :
    Except Str (List (Entry F) × List (FlowDecision F)) :=
  candidates.foldlM (fun (entries, decisions) candidate => do
    candidate.1.validates
    match c.dropReason preemptive candidate with
    | some reason => pure (entries, decisions ++ [c.drop candidate.1 reason candidate.2])
    | none => pure (entries ++ [c.entry link candidate], decisions)) ([], [])

/-- `_pressure` -/
def pressure (entries : List (Entry F)) (link : NetworkLink F) : F :=
  let offered := (entries.map Entry.baseSize).sum
  let capacity : F := ofInt link.capacityBytesPerTick
  let estimated := match c.estimate.capacityEwma with
    | some ewma => if ewma == 0.0 then capacity else ewma
    | none => capacity
  let predictedCapacity := pyMin capacity
    (estimated * c.config.safetyMargin * (1.0 - pyMin 0.35 c.estimate.lossEwma))
  ofInt offered / pyMax 1.0 predictedCapacity

/-! ## Partitions -/

/-- By slack, then the highest priority first. -/
def bySlack (entries : List (Entry F)) : List (Entry F) :=
  sortedBy (fun entry => [.float entry.slackMs, .float (-entry.priority)]) entries

/-- The highest priority first, then by slack. -/
def byPriority (entries : List (Entry F)) : List (Entry F) :=
  sortedBy (fun entry => [.float (-entry.priority), .float entry.slackMs]) entries

/-- The highest density first, then the highest priority. -/
def byDensity (entries : List (Entry F)) : List (Entry F) :=
  sortedByDesc (fun entry => [.float entry.density, .float entry.priority]) entries

def safetyControl (entries : List (Entry F)) : List (Entry F) :=
  entries.filter fun entry => entry.spec.flowClass.isControl

def coordinationState (entries : List (Entry F)) : List (Entry F) :=
  entries.filter fun entry => entry.spec.flowClass.isCoordinationState

def operatorQoe (entries : List (Entry F)) : List (Entry F) :=
  entries.filter fun entry => isFocused entry.spec entry.obs

/-- The entries of none of the other partitions. -/
def remainingEntries (entries : List (Entry F)) : List (Entry F) :=
  entries.filter fun entry => !entry.spec.flowClass.isControl &&
    !entry.spec.flowClass.isCoordinationState && !isFocused entry.spec entry.obs

/-- `_ordered_partitions` -/
def orderedPartitions (entries : List (Entry F)) : List (List (Entry F)) :=
  [bySlack (safetyControl entries), bySlack (coordinationState entries),
    byPriority (operatorQoe entries), byDensity (remainingEntries entries)]

/-! ## Admission -/

/-- `_should_compact` -/
def shouldCompact (entry : Entry F) (pressure : F) (remaining : Int) : Bool :=
  entry.spec.flowClass.isCore &&
    (pressure ≥ c.config.pressureCompactionThreshold ||
      (entry.baseSize > remaining && entry.slackMs ≤ entry.spec.qos.deadlineMs))

/-- `_decision_for_entry` -/
def decisionForEntry (entry : Entry F) (pressure : F) (remaining : Int) :
    Option (FlowDecision F) :=
  let decision (action : Str) (allocatedBytes : Int) (reason wireMode : Str) : FlowDecision F :=
    { flowId := entry.flowId
      action
      priority := entry.priority
      allocatedBytes
      reason
      reliability := entry.reliability
      wireMode
      predictedSlackMs := entry.slackMs }
  let compacted := max 1 (toInt (ofInt entry.baseSize * c.config.semanticCompactionRatio))
  let degraded := max 1 (toInt (ofInt entry.baseSize * c.config.opportunisticDegradationRatio))
  if c.shouldCompact entry pressure remaining then
    some (decision (lit "send_compacted") compacted
      (lit "predictive admission: semantic compaction") (lit "semantic_delta"))
  else if entry.baseSize ≤ remaining then
    some (decision (lit "send") entry.baseSize (lit "predictive admission") (lit "native"))
  else if entry.spec.flowClass.isDegradable then
    if degraded ≤ remaining then
      some { decision (lit "send_degraded") degraded
          (lit "predictive admission: QoE degradation") (lit "degraded") with degraded := true }
    else none
  else none

/-- One turn of `_admit_partition`. Where the packets or the airtime are used up the loop breaks:
    no later turn changes anything either. -/
def admitTurn (pressure : F) (s : List (FlowDecision F) × TickBudget) (entry : Entry F) :
    List (FlowDecision F) × TickBudget :=
  let (decisions, budget) := s
  if budget.packets.any (· ≤ 0) ∨ budget.airtimeNs.any (· ≤ 0) then s
  else
    match c.decisionForEntry entry pressure budget.bytes with
    | none => s
    | some decision =>
        let costNs := estimateAirtimeNs decision.allocatedBytes
        if decision.allocatedBytes > budget.bytes then s
        else if budget.airtimeNs.any (costNs > ·) then s
        else
          (decisions ++ [decision],
            { bytes := budget.bytes - decision.allocatedBytes
              packets := budget.packets.map (· - 1)
              airtimeNs := budget.airtimeNs.map (· - costNs) })

/-- `_admit_partition` -/
def admitPartition (pressure : F) (entries : List (Entry F)) (budget : TickBudget) :
    List (FlowDecision F) × TickBudget :=
  entries.foldl (c.admitTurn pressure) ([], budget)

/-- The loop over the partitions, of which the last has only a fraction of the bytes. -/
def admitPartitions (pressure : F) :
    List (List (Entry F)) → TickBudget → List (FlowDecision F)
  | [], _ => []
  | [last], budget =>
      let discounted := toInt (ofInt budget.bytes * c.config.remainingTierCapacityFraction)
      (c.admitPartition pressure last { budget with bytes := discounted }).1
  | entries :: rest, budget =>
      let (admitted, budget) := c.admitPartition pressure entries budget
      admitted ++ admitPartitions pressure rest budget

/-- What is decided of an entry that was not admitted. -/
def unadmitted (pressure : F) (entry : Entry F) : FlowDecision F :=
  if c.dropWhenUnadmitted entry pressure then
    c.drop entry.spec (lit "predictive queue shedding") entry.obs
  else
    { flowId := entry.flowId
      action := lit "defer"
      priority := entry.priority
      allocatedBytes := 0
      reason := lit "predictive admission: no budget"
      reliability := entry.reliability
      predictedSlackMs := entry.slackMs }

def schedule (candidates : List (Candidate F)) (link : NetworkLink F) :
    Except Str (List (FlowDecision F) × PredictiveAdmissionController F) := do
  link.validates
  let c := { c with estimate := c.estimate.update c.config.ewmaAlpha link }
  let (entries, dropped) ← c.enterAll (lit "predictive stale drop") candidates link
  let pressure := c.pressure entries link
  let selected := c.admitPartitions pressure (orderedPartitions entries) link.budget
  let selectedIds := selected.map FlowDecision.flowId
  let rest := entries.filter fun entry => entry.flowId ∉ selectedIds
  return (sortedBy (F := F) (fun decision => [.text decision.flowId])
    (dropped ++ selected ++ rest.map (c.unadmitted pressure)), c)

end PredictiveAdmissionController

end

end FleetRMW.Admission
