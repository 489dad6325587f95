import FleetRMW.Admission.Lagrangian

/-! # Admission of certified representations

`SemanticContractAdmissionController` lets all representations of all flows whose certificates say
that they arrive in time compete for the bytes of a tick, and sends at most one for each flow.
-/

namespace FleetRMW.Admission

open Lib FloatOps

/-- `_CertifiedAction` -/
structure CertifiedAction (F : Type) where
  spec : FlowSpec F
  obs : FlowObservation F
  candidate : TransformCandidate F
  score : F
  density : F
  lossPenalty : F

def CertifiedAction.flowId {F : Type} (action : CertifiedAction F) : Str := action.spec.flowId

structure SemanticContractAdmissionController (F : Type) extends
    LagrangianRiskPredictiveAdmissionController F where
  intentRatio : F
  minIntentBytes : Int
  enableLossShadow : Bool

/-- A flow with the representations that were generated for it. -/
abbrev Generated (F : Type) := Candidate F × List (TransformCandidate F)

/-- What the admission loop hands on: what was selected, the bytes that remain, and the packets
    that remain for flows that are not of control. -/
structure SelectionState (F : Type) where
  selected : List (CertifiedAction F) := []
  remaining : Int
  noncriticalPacketBudget : Option Int

section
variable {F : Type} [FloatOps F]

/-- `math.ceil(x)` -/
def ceil (x : F) : Int := if ofInt (toInt x) < x then toInt x + 1 else toInt x

/-- `math.floor(x)` -/
def floor (x : F) : Int := if x < ofInt (toInt x) then toInt x - 1 else toInt x

def TransformCandidate.isFeasibleOf (kind : TransformKind) (item : TransformCandidate F) : Bool :=
  item.transform.kind = kind && item.certificate.feasible

/-- `_semantic_contract_class_bonus` -/
def semanticContractClassBonus : FlowClass → F
  | .safety => 7.0
  | .control => 5.0
  | .coordination => 2.2
  | .state => 1.2
  | .humanQoe => 1.0
  | _ => 0.0

/-- `_counts_against_loss_packet_budget` -/
def countsAgainstLossPacketBudget (flowClass : FlowClass) : Bool := !flowClass.isControl

namespace SemanticContractAdmissionController

variable (c : SemanticContractAdmissionController F)

/-! ## Representations -/

def transformOptions : TransformOptions F where
  minIntentBytes := c.minIntentBytes
  semanticCompactionRatio := c.lagrangianConfig.semanticCompactionRatio
  degradedRatio := c.lagrangianConfig.opportunisticDegradationRatio
  intentRatio := c.intentRatio

/-- Intents are left out where a feasible representation is closer to the sample. -/
def withoutNeedlessIntents (options : List (TransformCandidate F)) : List (TransformCandidate F) :=
  if options.any (·.isFeasibleOf .raw) then options.filter fun item => !item.transform.kind.isIntent
  else if options.any (·.isFeasibleOf .controlIntent) then
    options.filter fun item => item.transform.kind ≠ .supervisoryIntent
  else options

/-- The loop over the candidates: the decisions that drop stale samples, and what is generated. -/
def generateAll (candidates : List (Candidate F)) (link : NetworkLink F) :
    Except Str (List (FlowDecision F) × Dict Str (Generated F)) :=
  candidates.foldlM (fun (decisions, generated) candidate => do
    let (spec, obs) := candidate
    spec.validates
    if obs.ageMs > spec.qos.lifespanMs then
      pure (decisions ++ [c.predictive.drop spec (lit "stale beyond lifespan") obs], generated)
    else
      let options ← transformCandidates spec obs link c.transformOptions
      pure (decisions, generated.set spec.flowId (candidate, withoutNeedlessIntents options)))
    ([], [])

/-- `_semantic_scarcity` -/
def semanticScarcity (generated : List (Generated F)) (link : NetworkLink F) : F :=
  let demand (g : Generated F) : Int :=
    let feasible := g.2.filter fun item => item.certificate.feasible
    match feasible.find? fun item => item.transform.kind = .raw with
    | some raw => raw.allocatedBytes
    | none => (feasible.map TransformCandidate.allocatedBytes).min?.getD 0
  ofInt (generated.map demand).sum / ofInt (max 1 link.capacityBytesPerTick)

/-- `_pruned_by_semantic_scarcity` -/
def prunedBySemanticScarcity (spec : FlowSpec F) (candidate : TransformCandidate F)
    (candidates : List (TransformCandidate F)) (scarcity : F) : Bool :=
  if scarcity ≤ 1.0 then false
  else if candidate.transform.kind ≠ .raw then false
  else if spec.flowClass.isControl then false
  else
    let alternatives := candidates.filter fun item => item.transform.kind ≠ .raw &&
      item.certificate.feasible && item.allocatedBytes < candidate.allocatedBytes
    (maxBy (F := F) (fun item => [.float item.transform.valueRatio,
      .float (-item.certificate.deadlineRisk), .int (-item.allocatedBytes)]) alternatives).any
      fun best => best.transform.valueRatio ≥ 0.65

/-! ## Prices for loss -/

/-- `_loss_shadow_pressure` -/
def lossShadowPressure (link : NetworkLink F) (scarcity : F) : F :=
  if !c.enableLossShadow then 0.0
  else
    let loss := pyMax link.loss c.estimate.lossEwma
    let lossExcess := pyMax 0.0 (loss - 0.012) / 0.018
    let scarcityExcess := pyMax 0.0 (scarcity - 1.0) * 0.35
    let jitterExcess := pyMax 0.0 (link.jitterMs - 12.0) / 120.0
    pyMin 2.5 (lossExcess + scarcityExcess + jitterExcess)

def lossClassWeight (spec : FlowSpec F) : F :=
  match spec.flowClass with
  | .safety => 0.10
  | .control => 0.14
  | .coordination => 0.65
  | .state => 0.85
  | .humanQoe => if spec.qoe.operatorVisible then 1.00 else 1.25
  | .perception => 1.35
  | .debug => 2.20
  | .bulk => 2.80

def lossTransformWeight : TransformKind → F
  | .controlIntent => 0.22
  | .supervisoryIntent => 0.18
  | .semanticDelta => 0.72
  | .degraded => 0.90
  | .raw => 1.15

/-- `_semantic_loss_penalty` -/
def semanticLossPenalty (spec : FlowSpec F) (candidate : TransformCandidate F)
    (link : NetworkLink F) (scarcity : F) : F :=
  let pressure := c.lossShadowPressure link scarcity
  if !c.enableLossShadow then 0.0
  else if pressure ≤ 0.0 then 0.0
  else
    let packetCost := 1.0 + pyMin 2.0
      (ofInt candidate.allocatedBytes / pyMax 1.0 (ofInt link.capacityBytesPerTick))
    2.8 * pressure * packetCost * lossClassWeight spec * lossTransformWeight candidate.transform.kind

/-- `_noncritical_packet_budget` -/
def noncriticalPacketBudget (link : NetworkLink F) (scarcity : F)
    (actions : List (CertifiedAction F)) : Option Int :=
  let pressure := c.lossShadowPressure link scarcity
  let noncritical := actions.filter fun item => countsAgainstLossPacketBudget item.spec.flowClass
  if !c.enableLossShadow then none
  else if pressure ≤ 0.05 then none
  else if noncritical.isEmpty then none
  else
    let baseline := max 1 (ceil (ofInt noncritical.length * (0.78 : F)))
    let budget := baseline - floor pressure
    some (max 1 (min noncritical.length budget))

/-! ## Certified actions -/

/-- `_certified_action` -/
def certifiedAction (spec : FlowSpec F) (obs : FlowObservation F) (candidate : TransformCandidate F)
    (link : NetworkLink F) (scarcity : F) : CertifiedAction F :=
  let certificate := candidate.certificate
  let transform := candidate.transform
  let value := semanticValue spec obs * transform.valueRatio
  let urgency := pyMax 0.0 (1.0 - obs.ageMs / pyMax 1.0 transform.effectiveDeadlineMs)
  let classBonus := semanticContractClassBonus spec.flowClass
  let intentBonus : F := match transform.kind with
    | .controlIntent => 1.5
    | .supervisoryIntent => 0.8
    | _ => 0.0
  let riskPenalty := 9.0 * riskClassWeight spec.flowClass * certificate.deadlineRisk
  let lossPenalty := c.semanticLossPenalty spec candidate link scarcity
  let score := value + 2.5 * urgency + classBonus + intentBonus - riskPenalty - lossPenalty
  { spec
    obs
    candidate
    score
    density := score / ofInt (max 1 candidate.allocatedBytes)
    lossPenalty }

/-- The certified actions of one flow. -/
def certifiedActions (link : NetworkLink F) (scarcity : F) (g : Generated F) :
    List (CertifiedAction F) :=
  let ((spec, obs), options) := g
  let certified := options.filter fun candidate => candidate.certificate.feasible &&
    !prunedBySemanticScarcity spec candidate options scarcity
  (certified.map fun candidate => c.certifiedAction spec obs candidate link scarcity).filter
    fun action => action.score > 0.0

/-- `_certified_partitions` -/
def certifiedPartitions (actions : List (CertifiedAction F)) : List (List (CertifiedAction F)) :=
  [actions.filter fun item => item.spec.flowClass.isControl,
    actions.filter fun item => item.spec.flowClass.isCoordinationState,
    actions.filter fun item => isFocused item.spec item.obs,
    actions.filter fun item => !item.spec.flowClass.isControl &&
      !item.spec.flowClass.isCoordinationState && !isFocused item.spec item.obs]

/-! ## Selection -/

/-- One turn of the admission loop. -/
def selectTurn (s : SelectionState F) (action : CertifiedAction F) : SelectionState F :=
  let counts := countsAgainstLossPacketBudget action.spec.flowClass
  if action.flowId ∈ s.selected.map CertifiedAction.flowId then s
  else if action.candidate.allocatedBytes > s.remaining then s
  else if counts ∧ s.noncriticalPacketBudget.any (· ≤ 0) then s
  else
    { selected := s.selected ++ [action]
      remaining := s.remaining - action.candidate.allocatedBytes
      noncriticalPacketBudget :=
        if counts then s.noncriticalPacketBudget.map (· - 1) else s.noncriticalPacketBudget }

/-- The admission loop over the partitions. -/
def select (certified : List (CertifiedAction F)) (s : SelectionState F) : SelectionState F :=
  (certifiedPartitions certified).foldl (fun s partition =>
    (sortedByDesc (F := F) (fun item => [.float item.score, .float item.density]) partition).foldl
      selectTurn s) s

/-- `_decision_from_certified` -/
def decisionFromCertified (action : CertifiedAction F) : FlowDecision F :=
  let candidate := action.candidate
  let certificate := candidate.certificate
  let transform := candidate.transform
  { flowId := action.flowId
    action := transform.action
    priority := action.score
    allocatedBytes := candidate.allocatedBytes
    reason := lit "semantic contract: transform=" ++ transform.kind.value ++ lit "; certificate=" ++
      certificate.reason ++ lit "; risk=" ++ fixed 3 certificate.deadlineRisk ++ lit "; slack=" ++
      fixed 1 certificate.slackAfterWireMs ++
      (if action.lossPenalty > 0.0 then lit "; loss_price=" ++ fixed 2 action.lossPenalty else [])
    degraded := transform.kind = .degraded
    reliability := transform.reliability
    wireMode := transform.wireMode
    predictedSlackMs := certificate.slackAfterWireMs }

/-- What is decided of a flow that was not selected. -/
def unselected (options : List (TransformCandidate F)) (candidate : Candidate F) :
    FlowDecision F :=
  let (spec, obs) := candidate
  let best := minBy (F := F) (fun item => [.float item.certificate.deadlineRisk]) options
  let risk := best.elim 1.0 fun item => item.certificate.deadlineRisk
  if options.any fun item => item.certificate.feasible then
    { flowId := spec.flowId
      action := lit "defer"
      priority := 0.0
      allocatedBytes := 0
      reason := lit "semantic contract: feasible transform not admitted; no budget; best_risk=" ++
        fixed 3 risk
      reliability := spec.qos.reliability
      predictedSlackMs := spec.qos.deadlineMs - obs.ageMs }
  else
    let detail := best.elim (lit "no transform") fun item => item.certificate.reason
    c.predictive.drop spec (lit "semantic contract: no feasible transform; " ++ detail ++
      lit "; risk=" ++ fixed 3 risk) obs

def schedule (candidates : List (Candidate F)) (link : NetworkLink F) :
    Except Str (List (FlowDecision F) × SemanticContractAdmissionController F) := do
  link.validates
  let c := { c with estimate := c.estimate.update c.lagrangianConfig.ewmaAlpha link }
  let (dropped, generated) ← c.generateAll candidates link
  let scarcity := semanticScarcity (generated.map Prod.snd) link
  let certified := (generated.map Prod.snd).flatMap (c.certifiedActions link scarcity)
  let selected := (select certified
    { remaining := link.capacityBytesPerTick
      noncriticalPacketBudget := c.noncriticalPacketBudget link scarcity certified }).selected
  let decided := selected.map CertifiedAction.flowId ++ dropped.map FlowDecision.flowId
  let rest := candidates.filter fun candidate => candidate.1.flowId ∉ decided
  let unselected (candidate : Candidate F) : FlowDecision F :=
    c.unselected ((generated.get? candidate.1.flowId).elim [] Prod.snd) candidate
  return (sortedBy (F := F) (fun decision => [.text decision.flowId])
    (dropped ++ selected.map decisionFromCertified ++ rest.map unselected), c)

end SemanticContractAdmissionController

end

end FleetRMW.Admission
