import FleetRMW.Admission.Lagrangian

/-! # Admission by link profile, with control intents

`ContextualProfiledLagrangianAdmissionController` has several Lagrangian controllers for each kind
of link and lets the one decide whose preview is most useful. On wide links
`IntentAwareContextualAdmissionController` turns control flows that it leaves out into intents.
-/

namespace FleetRMW.Admission

open Lib FloatOps

/-- The labels of `classify_link_profile`. -/
inductive ProfileLabel where
  | lan
  | wifi
  | wan
  | roaming
  deriving Repr, DecidableEq

def ProfileLabel.value : ProfileLabel → Str
  | .lan => lit "lan"
  | .wifi => lit "wifi"
  | .wan => lit "wan"
  | .roaming => lit "roaming"

structure ProfileEnvelope (F : Type) where
  label : Str
  config : LagrangianAdmissionConfig F
  criticalNonDeliveryBudget : F

/-- `_EnvelopeState` -/
structure EnvelopeState (F : Type) where
  pulls : Int := 0
  utilityEwma : F
  deadlineRiskEwma : F
  criticalNonDeliveryEwma : F

/-- `_EnvelopeEvaluation` -/
structure EnvelopeEvaluation (F : Type) where
  envelope : ProfileEnvelope F
  utilityPerFlow : F
  deadlineRisk : F
  criticalNonDelivery : F
  score : F
  feasible : Bool

structure ContextualProfiledLagrangianAdmissionController (F : Type) where
  envelopes : Dict ProfileLabel (List (ProfileEnvelope F))
  controllers : Dict ProfileLabel (Dict Str (LagrangianRiskPredictiveAdmissionController F))
  states : Dict ProfileLabel (Dict Str (EnvelopeState F))
  profilePulls : Dict ProfileLabel Int
  rewardAlpha : F
  explorationScale : F
  deadlineHistoryPenalty : F
  nonDeliveryHistoryPenalty : F

structure IntentAwareContextualAdmissionController (F : Type) where
  base : ContextualProfiledLagrangianAdmissionController F
  intentRatio : F
  minIntentBytes : Int

/-- `d[key]` -/
def lookup {K V : Type} [DecidableEq K] (d : Dict K V) (key : K) : Except Str V :=
  match d.get? key with
  | some v => .ok v
  | none => .error (lit "KeyError")

section
variable {F : Type} [FloatOps F]

def classifyLinkProfile (link : NetworkLink F) : Except Str ProfileLabel := do
  link.validates
  let oneWayTailMs := 0.5 * link.rttMs + 1.35 * link.jitterMs
  if oneWayTailMs ≥ 95.0 ∨ link.rttMs ≥ 150.0 ∨ link.jitterMs ≥ 24.0 ∨ link.loss ≥ 0.025 ∨
      link.capacityBytesPerTick < 1600 then
    return .roaming
  else if oneWayTailMs ≥ 55.0 ∨ link.rttMs ≥ 80.0 ∨ link.jitterMs ≥ 12.0 ∨ link.loss ≥ 0.012 ∨
      link.capacityBytesPerTick < 2200 then
    return .wan
  else if oneWayTailMs ≤ 12.0 ∧ link.rttMs ≤ 18.0 ∧ link.jitterMs ≤ 3.0 ∧ link.loss ≤ 0.005 ∧
      link.capacityBytesPerTick ≥ 3000 then
    return .lan
  else return .wifi

/-! ## Envelopes -/

/-- `default_lagrangian_profiles` -/
def defaultLagrangianProfile : ProfileLabel → LagrangianAdmissionConfig F
  | .lan => { LagrangianAdmissionConfig.standard with
      deadlineRiskBudget := 0.12
      initialDeadlineLambda := 0.8
      riskBarrierStart := 0.85
      riskBarrierScale := 8.0
      deadlineDropRisk := 0.90
      safetyMargin := 0.96
      pressureCompactionThreshold := 0.95 }
  | .wifi => { LagrangianAdmissionConfig.standard with
      deadlineRiskBudget := 0.08108907959603916
      initialDeadlineLambda := 2.5791431516549297
      riskBarrierStart := 0.5873597131456887
      riskBarrierScale := 12.578351757284267
      deadlineDropRisk := 0.42910490748345237 }
  | .wan => { LagrangianAdmissionConfig.standard with
      deadlineRiskBudget := 0.035
      initialDeadlineLambda := 6.0
      riskBarrierStart := 0.50
      riskBarrierScale := 18.0
      deadlineDropRisk := 0.34
      safetyMargin := 0.68
      pressureCompactionThreshold := 0.58
      semanticCompactionRatio := 0.45
      opportunisticDegradationRatio := 0.10 }
  | .roaming => { LagrangianAdmissionConfig.standard with
      deadlineRiskBudget := 0.02
      initialDeadlineLambda := 8.0
      riskBarrierStart := 0.45
      riskBarrierScale := 20.0
      deadlineDropRisk := 0.30
      safetyMargin := 0.55
      pressureCompactionThreshold := 0.45
      semanticCompactionRatio := 0.40
      opportunisticDegradationRatio := 0.08 }

/-- `_relax_lagrangian_config` at level 1. -/
def LagrangianAdmissionConfig.relaxed (config : LagrangianAdmissionConfig F) :
    LagrangianAdmissionConfig F :=
  { config with
    deadlineRiskBudget := pyMin 0.14 (config.deadlineRiskBudget * 1.35 + 0.006)
    initialDeadlineLambda := pyMax 0.5 (config.initialDeadlineLambda * 0.74)
    riskBarrierStart := pyMin 0.88 (config.riskBarrierStart + 0.07)
    riskBarrierScale := pyMax 7.0 (config.riskBarrierScale * 0.82)
    deadlineDropRisk := pyMin 0.92 (config.deadlineDropRisk + 0.10)
    safetyMargin := pyMin 0.97 (config.safetyMargin + 0.10)
    pressureCompactionThreshold := pyMin 0.96 (config.pressureCompactionThreshold + 0.08)
    semanticCompactionRatio := pyMin 0.62 (config.semanticCompactionRatio + 0.05)
    opportunisticDegradationRatio := pyMin 0.20 (config.opportunisticDegradationRatio + 0.025) }

/-- `_relax_lagrangian_config` at level 2. -/
def LagrangianAdmissionConfig.mostRelaxed (config : LagrangianAdmissionConfig F) :
    LagrangianAdmissionConfig F :=
  { config with
    deadlineRiskBudget := pyMin 0.16 (config.deadlineRiskBudget * 1.75 + 0.012)
    initialDeadlineLambda := pyMax 0.5 (config.initialDeadlineLambda * 0.55)
    riskBarrierStart := pyMin 0.90 (config.riskBarrierStart + 0.13)
    riskBarrierScale := pyMax 6.0 (config.riskBarrierScale * 0.65)
    deadlineDropRisk := pyMin 0.94 (config.deadlineDropRisk + 0.18)
    safetyMargin := pyMin 0.99 (config.safetyMargin + 0.16)
    pressureCompactionThreshold := pyMin 0.98 (config.pressureCompactionThreshold + 0.14)
    semanticCompactionRatio := pyMin 0.68 (config.semanticCompactionRatio + 0.10)
    opportunisticDegradationRatio := pyMin 0.24 (config.opportunisticDegradationRatio + 0.05) }

/-- What the safe, the balanced and the utility envelope may leave undelivered. -/
def criticalBudgets : ProfileLabel → F × F × F
  | .lan => (0.06, 0.04, 0.03)
  | .wifi => (0.28, 0.22, 0.16)
  | .wan => (0.72, 0.58, 0.44)
  | .roaming => (0.88, 0.76, 0.62)

/-- `default_contextual_lagrangian_envelopes` -/
def defaultContextualLagrangianEnvelopes : Dict ProfileLabel (List (ProfileEnvelope F)) :=
  [ProfileLabel.lan, .wifi, .wan, .roaming].map fun profile =>
    let config : LagrangianAdmissionConfig F := defaultLagrangianProfile profile
    let (safe, balanced, utility) : F × F × F := criticalBudgets profile
    (profile, [⟨lit "safe", config, safe⟩, ⟨lit "balanced", config.relaxed, balanced⟩,
      ⟨lit "utility", config.mostRelaxed, utility⟩])

def EnvelopeState.start : EnvelopeState F where
  utilityEwma := 0.0
  deadlineRiskEwma := 0.0
  criticalNonDeliveryEwma := 0.0

namespace ContextualProfiledLagrangianAdmissionController

/-- `{envelope.label: ... for envelope in profile_envelopes}` -/
def byLabel {V : Type} (value : ProfileEnvelope F → V) (envelopes : List (ProfileEnvelope F)) :
    Dict Str V :=
  envelopes.foldl (fun d envelope => d.set envelope.label (value envelope)) []

def init (envelopes : Dict ProfileLabel (List (ProfileEnvelope F))) :
    ContextualProfiledLagrangianAdmissionController F where
  envelopes
  controllers := envelopes.map fun e =>
    (e.1, byLabel (fun envelope => .init envelope.config .standard) e.2)
  states := envelopes.map fun e => (e.1, byLabel (fun _ => .start) e.2)
  profilePulls := envelopes.map fun e => (e.1, 0)
  rewardAlpha := 0.28
  explorationScale := 0.10
  deadlineHistoryPenalty := 16.0
  nonDeliveryHistoryPenalty := 3.5

variable (c : ContextualProfiledLagrangianAdmissionController F)

/-! ## Evaluation -/

/-- The value of a flow in the representation that was decided. -/
def deliveredValue (controller : LagrangianRiskPredictiveAdmissionController F)
    (candidate : Candidate F) (decision : FlowDecision F) : F :=
  let value := semanticValue candidate.1 candidate.2
  if decision.action = lit "send_compacted" then
    value * controller.lagrangianConfig.semanticCompactionValueRatio
  else if decision.action = lit "send_degraded" then
    value * controller.lagrangianConfig.degradedValueRatio
  else value

/-- `_evaluate_decisions` -/
def evaluateDecisions (envelope : ProfileEnvelope F)
    (controller : LagrangianRiskPredictiveAdmissionController F) (candidates : List (Candidate F))
    (link : NetworkLink F) (decisions : List (FlowDecision F)) : EnvelopeEvaluation F :=
  let byId : Dict Str (FlowDecision F) :=
    decisions.foldl (fun d decision => d.set decision.flowId decision) []
  let decided := candidates.filterMap fun candidate =>
    (byId.get? candidate.1.flowId).map fun decision => (candidate, decision)
  let sent := decided.filter fun x => x.2.isSent
  let critical := decided.filter fun x => x.1.1.flowClass.isControl
  let undelivered := critical.filter fun x => !x.2.isSent
  let utility := sent.foldl (fun u x => u + deliveredValue controller x.1 x.2) 0.0
  let risks := (sent.map fun x => controller.deadlineRisk x.1.1 x.1.2 link
    (max 1 x.2.allocatedBytes)).filter (· > 0.0)
  let deadlineRisk := pySum risks / ofInt (max 1 risks.length)
  let criticalNonDelivery := ofInt undelivered.length / ofInt (max 1 critical.length)
  let utilityPerFlow := utility / ofInt (max 1 candidates.length)
  let budget := envelope.config.deadlineRiskBudget
  let riskExcess := pyMax 0.0 (deadlineRisk - budget)
  let nonDeliveryExcess := pyMax 0.0 (criticalNonDelivery - envelope.criticalNonDeliveryBudget)
  { envelope
    utilityPerFlow
    deadlineRisk
    criticalNonDelivery
    score := utilityPerFlow - 18.0 * riskExcess - 4.0 * nonDeliveryExcess
    feasible := deadlineRisk ≤ pyMax (budget * 1.35) (budget + 0.02) ∧
      criticalNonDelivery ≤ envelope.criticalNonDeliveryBudget }

/-- `_preview_envelope` -/
def previewEnvelope (candidates : List (Candidate F)) (link : NetworkLink F)
    (envelope : ProfileEnvelope F) : Except Str (EnvelopeEvaluation F) := do
  let preview := LagrangianRiskPredictiveAdmissionController.init envelope.config .standard
  let (decisions, preview) ← preview.schedule candidates link
  return evaluateDecisions envelope preview candidates link decisions

/-- The rank of a feasible evaluation in `_select_envelope`. -/
def rank (totalPulls : Int) (states : Dict Str (EnvelopeState F)) (item : EnvelopeEvaluation F) :
    Except Str (List (KeyPart F)) := do
  let state ← lookup states item.envelope.label
  let exploration := if state.pulls = 0 then c.explorationScale
    else c.explorationScale * sqrt (log (ofInt totalPulls + 1.0) / (ofInt state.pulls + 1.0))
  let historyPenalty := c.deadlineHistoryPenalty *
      pyMax 0.0 (state.deadlineRiskEwma - item.envelope.config.deadlineRiskBudget) +
    c.nonDeliveryHistoryPenalty *
      pyMax 0.0 (state.criticalNonDeliveryEwma - item.envelope.criticalNonDeliveryBudget)
  let historyReward := 0.18 * state.utilityEwma
  return [.float (item.score + exploration + historyReward - historyPenalty),
    .float item.utilityPerFlow, .float (-item.deadlineRisk), .text item.envelope.label]

/-- `_select_envelope` -/
def selectEnvelope (profile : ProfileLabel) (evaluations : List (EnvelopeEvaluation F)) :
    Except Str (EnvelopeEvaluation F) := do
  let feasible := evaluations.filter EnvelopeEvaluation.feasible
  if feasible.isEmpty then
    match minBy (F := F) (fun item => [.float item.deadlineRisk, .float item.criticalNonDelivery,
        .float (-item.utilityPerFlow)]) evaluations with
    | some item => return item
    | none => throw (lit "min() arg is an empty sequence")
  else
    let pulls ← lookup c.profilePulls profile
    let states ← lookup c.states profile
    let ranked ← feasible.mapM fun item => do return (item, ← c.rank (pulls + 1) states item)
    match maxBy (F := F) Prod.snd ranked with
    | some (item, _) => return item
    | none => throw (lit "max() arg is an empty sequence")

/-! ## The schedule -/

/-- `_update_state` -/
def updateState (profile : ProfileLabel) (evaluation : EnvelopeEvaluation F) :
    Except Str (ContextualProfiledLagrangianAdmissionController F) := do
  let states ← lookup c.states profile
  let state ← lookup states evaluation.envelope.label
  let pulls ← lookup c.profilePulls profile
  let mix (value ewma : F) : F :=
    if state.pulls = 0 then value else c.rewardAlpha * value + (1.0 - c.rewardAlpha) * ewma
  let learned : EnvelopeState F := {
    pulls := state.pulls + 1
    utilityEwma := mix evaluation.utilityPerFlow state.utilityEwma
    deadlineRiskEwma := mix evaluation.deadlineRisk state.deadlineRiskEwma
    criticalNonDeliveryEwma := mix evaluation.criticalNonDelivery state.criticalNonDeliveryEwma }
  return { c with
    states := c.states.set profile (states.set evaluation.envelope.label learned)
    profilePulls := c.profilePulls.set profile (pulls + 1) }

def schedule (candidates : List (Candidate F)) (link : NetworkLink F) :
    Except Str (List (FlowDecision F) × ContextualProfiledLagrangianAdmissionController F) := do
  link.validates
  if candidates.isEmpty then return ([], c)
  let profile ← classifyLinkProfile link
  let envelopes ← lookup c.envelopes profile
  let evaluations ← envelopes.mapM (previewEnvelope candidates link)
  let selected ← c.selectEnvelope profile evaluations
  let controllers ← lookup c.controllers profile
  let controller ← lookup controllers selected.envelope.label
  let (decisions, controller) ← controller.schedule candidates link
  let c := { c with
    controllers := c.controllers.set profile (controllers.set selected.envelope.label controller) }
  let actual := evaluateDecisions selected.envelope controller candidates link decisions
  let c ← c.updateState profile actual
  let reason := lit "profile=" ++ profile.value ++ lit "; envelope=" ++ selected.envelope.label ++
    lit "; risk=" ++ fixed 3 actual.deadlineRisk ++ lit "; critical_non_delivery=" ++
    fixed 3 actual.criticalNonDelivery ++ lit "; "
  return (decisions.map fun decision => { decision with reason := reason ++ decision.reason }, c)

end ContextualProfiledLagrangianAdmissionController

/-! ## Control intents -/

namespace IntentAwareContextualAdmissionController

variable (c : IntentAwareContextualAdmissionController F)

/-- The default arguments of `transform_candidates`, and the intents of the controller. -/
def transformOptions : TransformOptions F :=
  { TransformOptions.standard with
    minIntentBytes := c.minIntentBytes
    intentRatio := c.intentRatio }

/-- `_control_intent_candidate` -/
def controlIntentCandidate (candidate : Candidate F) (link : NetworkLink F)
    (decision : FlowDecision F) : Except Str (Option (TransformCandidate F)) := do
  let (spec, obs) := candidate
  if spec.flowClass ≠ .control then return none
  else if decision.isSent then return none
  else
    let options ← transformCandidates spec obs link c.transformOptions
    match options.find? fun item => item.transform.kind = .raw,
        options.find? fun item => item.transform.kind = .controlIntent with
    | some raw, some intent =>
        if raw.certificate.feasible then return none
        else if intent.certificate.predictedArrivalAgeMs > spec.qos.lifespanMs then return none
        else if intent.certificate.slackAfterWireMs ≤ raw.certificate.slackAfterWireMs then
          return none
        else return some intent
    | _, _ => return none

/-- `_intent_decision` -/
def intentDecision (spec : FlowSpec F) (decision : FlowDecision F) (intent : TransformCandidate F)
    (profile : ProfileLabel) : FlowDecision F :=
  let certificate := intent.certificate
  { decision with
    action := lit "send_intent"
    priority := pyMax decision.priority 0.0 + 1.0
    allocatedBytes := intent.allocatedBytes
    reason := lit "profile=" ++ profile.value ++ lit "; control intent horizon: source_deadline_ms=" ++
      fixed 1 spec.qos.deadlineMs ++ lit "; effective_deadline_ms=" ++
      fixed 1 intent.transform.effectiveDeadlineMs ++ lit "; certificate=" ++ certificate.reason ++
      lit "; risk=" ++ fixed 3 certificate.deadlineRisk ++ lit "; " ++ decision.reason
    degraded := false
    reliability := intent.transform.reliability
    wireMode := intent.transform.wireMode
    predictedSlackMs := certificate.slackAfterWireMs }

/-- One turn of the rewriting loop. -/
def rewriteTurn (byId : Dict Str (FlowDecision F)) (link : NetworkLink F) (profile : ProfileLabel)
    (rewritten : List (FlowDecision F)) (candidate : Candidate F) :
    Except Str (List (FlowDecision F)) := do
  match byId.get? candidate.1.flowId with
  | none => return rewritten
  | some decision =>
      match ← c.controlIntentCandidate candidate link decision with
      | some intent => return rewritten ++ [intentDecision candidate.1 decision intent profile]
      | none => return rewritten ++ [decision]

def schedule (candidates : List (Candidate F)) (link : NetworkLink F) :
    Except Str (List (FlowDecision F) × IntentAwareContextualAdmissionController F) := do
  if candidates.isEmpty then return ([], c)
  let profile ← classifyLinkProfile link
  let (decisions, base) ← c.base.schedule candidates link
  let c := { c with base }
  if profile ≠ .wan ∧ profile ≠ .roaming then return (decisions, c)
  let byId : Dict Str (FlowDecision F) :=
    decisions.foldl (fun d decision => d.set decision.flowId decision) []
  let rewritten ← candidates.foldlM (c.rewriteTurn byId link profile) []
  return (sortedBy (F := F) (fun decision => [.text decision.flowId]) rewritten, c)

end IntentAwareContextualAdmissionController

end

end FleetRMW.Admission
