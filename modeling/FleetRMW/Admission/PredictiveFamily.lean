import FleetRMW.Admission.LagrangianBudget
import FleetRMW.Admission.SemanticBudget
import FleetRMW.Lib.Double

/-! # The budgets of the predictive controllers

Whatever the controllers have learned, a call decides about each flow once and stays within what the
link carries in a tick.
-/

namespace FleetRMW.Admission

open Lib FloatOps

section
variable {F : Type} [FloatOps F]

/-- Each flow is decided about once, and what is allocated fits in the bytes of the tick. -/
structure Budgeted (candidates : List (Candidate F)) (link : NetworkLink F)
    (decisions : List (FlowDecision F)) : Prop where
  ids : (decisions.map FlowDecision.flowId).Perm (candidates.map fun x => x.1.flowId)
  bytes : (decisions.map FlowDecision.allocatedBytes).sum ≤ link.capacityBytesPerTick

/-- What is sent fits in the packets and in the airtime of the tick. -/
structure Aired (link : NetworkLink F) (decisions : List (FlowDecision F)) : Prop where
  packets : ∀ n ∈ link.capacityPacketsPerTick,
    ((decisions.filter FlowDecision.isSent).length : Int) ≤ n
  airtime : ∀ n ∈ link.capacityAirtimeNsPerTick,
    ((decisions.filter FlowDecision.isSent).map fun decision =>
      estimateAirtimeNs decision.allocatedBytes).sum ≤ n

variable {candidates : List (Candidate F)} {link : NetworkLink F}

end

/-! ## Two flows on one link -/

/-- The controllers as they are made without arguments. -/
def defaultPredictive {F : Type} [FloatOps F] : PredictiveAdmissionController F where
  config := .standard
  weights := .standard
  estimate := .start

def defaultLagrangian {F : Type} [FloatOps F] : LagrangianRiskPredictiveAdmissionController F :=
  .init .standard .standard

def defaultSemantic {F : Type} [FloatOps F] : SemanticContractAdmissionController F :=
  { defaultLagrangian with
    intentRatio := 0.50
    minIntentBytes := 48
    enableLossShadow := false }

theorem default_discounts (link : NetworkLink Fixed) :
    (defaultPredictive (F := Fixed)).Discounts link := by
  intro n nonneg _
  change (n * 1000000 * 150000 / 1000000).tdiv 1000000 ≤ n
  have product : n * 1000000 * 150000 / 1000000 = n * 150000 := by omega
  rw [product, Int.tdiv_eq_ediv_of_nonneg (by omega)]
  omega

/-- A bulk flow whose numbers are doubles. -/
def wideFlow (nominalSizeBytes : Int) : Candidate Float :=
  let spec : FlowSpec Float := {
    flowId := lit "a"
    robotId := lit "r"
    topic := lit "t"
    flowClass := .bulk
    qos := {
      deadlineMs := 50.0
      lifespanMs := 500.0 }
    qoe := ⟨false, 0.0, 0.0, 0.0⟩
    nominalSizeBytes
    nominalRateHz := 10.0
    causalTaskGain := 1.0
    redundancy := 0.0
    semanticDeltaRatio := 1.0 }
  let obs : FlowObservation Float := {
    ageMs := 0.0
    queueDepth := 1
    measuredLoss := 0.0
    measuredRttMs := 10.0
    task := ⟨lit "task", lit "r", 0.5, 0.5, 0.5, 0.5⟩ }
  (spec, obs)

def wideLink : NetworkLink Float :=
  { capacityBytesPerTick := 9007199254740995
    loss := 0.0
    jitterMs := 1.0
    rttMs := 10.0 }

/-- A controller that leaves all bytes to the last partition. -/
def undiscounted : PredictiveAdmissionController Float :=
  { defaultPredictive with
    config := { PredictiveAdmissionConfig.standard with remainingTierCapacityFraction := 1.0 } }

theorem wideFlow_valid : Valid [wideFlow 9007199254740996] wideLink where
  link := by decide +kernel
  flows := by
    intro x among
    rw [List.mem_singleton.mp among]
    decide +kernel
  distinct := List.nodup_singleton _

end FleetRMW.Admission
