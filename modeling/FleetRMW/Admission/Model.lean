import FleetRMW.Lib.Except
import FleetRMW.Lib.FloatOps

/-! # Flows, links and decisions

What a controller schedules, over numbers of any kind.
-/

namespace FleetRMW.Admission

open Lib FloatOps

inductive FlowClass where
  | safety
  | control
  | coordination
  | state
  | perception
  | humanQoe
  | debug
  | bulk
  deriving Repr, DecidableEq

/-- A pair of sets of classes that come up in every controller. -/
def FlowClass.isControl : FlowClass → Bool
  | .safety | .control => true
  | _ => false

/-- `_CORE_CLASSES`, which `_DEADLINE_CLASSES` repeats. -/
def FlowClass.isCore : FlowClass → Bool
  | .safety | .control | .coordination | .state => true
  | _ => false

/-- `_degradable` -/
def FlowClass.isDegradable : FlowClass → Bool
  | .perception | .humanQoe | .debug | .bulk => true
  | _ => false

structure QoSProfile (F : Type) where
  reliability : Str := lit "best_effort"
  durability : Str := lit "volatile"
  depth : Int := 1
  deadlineMs : F
  lifespanMs : F

structure QoEProfile (F : Type) where
  operatorVisible : Bool := false
  smoothnessWeight : F
  freezePenalty : F
  visualConfidenceWeight : F

structure TaskContext (F : Type) where
  taskId : Str
  robotId : Str
  taskCriticality : F
  collisionRisk : F
  operatorAttention : F
  coordinationPressure : F

structure FlowSpec (F : Type) where
  flowId : Str
  robotId : Str
  topic : Str
  flowClass : FlowClass
  qos : QoSProfile F
  qoe : QoEProfile F
  nominalSizeBytes : Int
  nominalRateHz : F
  causalTaskGain : F
  redundancy : F
  semanticDeltaRatio : F
  tags : Dict Str Str := []

structure FlowObservation (F : Type) where
  ageMs : F
  queueDepth : Int
  measuredLoss : F
  measuredRttMs : F
  task : TaskContext F

structure NetworkLink (F : Type) where
  capacityBytesPerTick : Int
  capacityPacketsPerTick : Option Int := none
  capacityAirtimeNsPerTick : Option Int := none
  loss : F
  jitterMs : F
  rttMs : F

structure FlowDecision (F : Type) where
  flowId : Str
  action : Str
  priority : F
  allocatedBytes : Int
  reason : Str
  degraded : Bool := false
  reliability : Str := []
  wireMode : Str := []
  predictedSlackMs : F

abbrev Candidate (F : Type) := FlowSpec F × FlowObservation F

section
variable {F : Type} [FloatOps F]

def clip01 (value : F) : F := pyMin 1.0 (pyMax 0.0 value)

def TaskContext.clipped (t : TaskContext F) : TaskContext F :=
  { t with
    taskCriticality := clip01 t.taskCriticality
    collisionRisk := clip01 t.collisionRisk
    operatorAttention := clip01 t.operatorAttention
    coordinationPressure := clip01 t.coordinationPressure }

def QoSProfile.validates (q : QoSProfile F) : Except Str Unit := do
  raiseIf (q.reliability ∉ [lit "best_effort", lit "reliable"])
    (lit "unknown reliability: " ++ q.reliability)
  raiseIf (q.durability ∉ [lit "volatile", lit "transient_local"])
    (lit "unknown durability: " ++ q.durability)
  raiseIf (q.depth < 1) (lit "depth must be positive")
  raiseIf (q.deadlineMs ≤ ofInt 0 ∨ q.lifespanMs ≤ ofInt 0)
    (lit "deadline and lifespan must be positive")

def FlowSpec.validates (spec : FlowSpec F) : Except Str Unit := do
  spec.qos.validates
  raiseIf (spec.nominalSizeBytes ≤ 0) (lit "nominal_size_bytes must be positive")
  raiseIf (spec.nominalRateHz ≤ ofInt 0) (lit "nominal_rate_hz must be positive")
  raiseIf (spec.semanticDeltaRatio ≤ ofInt 0) (lit "semantic_delta_ratio must be positive")

def NetworkLink.validates (link : NetworkLink F) : Except Str Unit := do
  raiseIf (link.capacityBytesPerTick < 0) (lit "capacity must be non-negative")
  raiseIf (link.capacityPacketsPerTick.any (· < 0))
    (lit "capacity_packets_per_tick must be non-negative")
  raiseIf (link.capacityAirtimeNsPerTick.any (· < 0))
    (lit "capacity_airtime_ns_per_tick must be non-negative")
  raiseIf (¬(ofInt 0 ≤ link.loss ∧ link.loss ≤ ofInt 1)) (lit "loss must be in [0, 1]")
  raiseIf (link.jitterMs < ofInt 0 ∨ link.rttMs < ofInt 0)
    (lit "jitter and rtt must be non-negative")

/-- Flows that pass their checks, each of its own name, on a link that passes its own. -/
structure Valid (candidates : List (Candidate F)) (link : NetworkLink F) : Prop where
  link : link.validates = .ok ()
  flows : ∀ candidate ∈ candidates, candidate.1.validates = .ok ()
  distinct : (candidates.map fun candidate => candidate.1.flowId).Nodup

theorem Valid.capacity {candidates : List (Candidate F)} {link : NetworkLink F}
    (valid : Valid candidates link) : 0 ≤ link.capacityBytesPerTick := by
  obtain ⟨⟨⟩, first, -⟩ := bind_eq_ok_iff.mp valid.link
  exact Int.not_lt.mp (raiseIf_eq_ok.mp first)

/-- `_SENT_ACTIONS` -/
def sentActions : List Str :=
  [lit "send", lit "send_compacted", lit "send_degraded", lit "send_intent",
    lit "send_supervisory_intent"]

/-- `_is_sent` -/
def FlowDecision.isSent (d : FlowDecision F) : Bool := d.action ∈ sentActions

/-- The bytes that the decision sends. -/
def FlowDecision.sentBytes (d : FlowDecision F) : Int := if d.isSent then d.allocatedBytes else 0

/-- The bytes that a list of decisions sends. -/
def sentTotal (decisions : List (FlowDecision F)) : Int :=
  (decisions.map FlowDecision.sentBytes).sum

theorem sentTotal_perm {decisions decisions' : List (FlowDecision F)}
    (same : decisions.Perm decisions') : sentTotal decisions = sentTotal decisions' :=
  (same.map _).sum_eq

end

end FleetRMW.Admission
