import FleetRMW.Admission.Model

/-! # Semantic contracts

The representations in which a flow can be sent, each with the bytes it takes on a link and a
certificate that says whether it arrives in time.
-/

namespace FleetRMW.Admission

open Lib FloatOps

inductive TransformKind where
  | raw
  | semanticDelta
  | degraded
  | controlIntent
  | supervisoryIntent
  deriving Repr, DecidableEq

/-- `kind.value` -/
def TransformKind.value : TransformKind → Str
  | .raw => lit "raw"
  | .semanticDelta => lit "semantic_delta"
  | .degraded => lit "degraded"
  | .controlIntent => lit "control_intent"
  | .supervisoryIntent => lit "supervisory_intent"

def TransformKind.isIntent : TransformKind → Bool
  | .controlIntent | .supervisoryIntent => true
  | _ => false

structure SemanticTransform (F : Type) where
  kind : TransformKind
  action : Str
  wireMode : Str
  sizeRatio : F
  valueRatio : F
  effectiveDeadlineMs : F
  effectiveLifespanMs : Option F
  reliability : Str

structure FeasibilityCertificate (F : Type) where
  feasible : Bool
  estimatedWireMs : F
  predictedArrivalAgeMs : F
  slackAfterWireMs : F
  deadlineRisk : F
  reason : Str

structure TransformCandidate (F : Type) where
  transform : SemanticTransform F
  allocatedBytes : Int
  certificate : FeasibilityCertificate F

/-- The keyword arguments of `transform_candidates`. -/
structure TransformOptions (F : Type) where
  minIntentBytes : Int
  semanticCompactionRatio : F
  degradedRatio : F
  intentRatio : F

section
variable {F : Type} [FloatOps F]

def TransformOptions.standard : TransformOptions F :=
  { minIntentBytes := 48
    semanticCompactionRatio := 0.55
    degradedRatio := 0.14
    intentRatio := 0.50 }

def basePayloadSize (spec : FlowSpec F) (obs : FlowObservation F) : Int :=
  max 1 (toInt (ofInt spec.nominalSizeBytes * spec.semanticDeltaRatio * ofInt obs.queueDepth))

/-- Behind the check of the link. -/
def pathTailWireMs (link : NetworkLink F) (allocatedBytes : Int) : F :=
  let serializationMs := 20.0 * ofInt allocatedBytes / pyMax 1.0 (ofInt link.capacityBytesPerTick)
  0.5 * link.rttMs + 1.35 * link.jitterMs + 0.22 * link.loss * link.rttMs + serializationMs

def controlIntentDeadlineMs (spec : FlowSpec F) (link : NetworkLink F) : F :=
  let oneWayTailMs := 0.5 * link.rttMs + 1.35 * link.jitterMs
  let horizonMs := oneWayTailMs + 1.5 * spec.qos.deadlineMs
  pyMin spec.qos.lifespanMs (pyMax spec.qos.deadlineMs horizonMs)

def supervisoryIntentDeadlineMs (spec : FlowSpec F) (link : NetworkLink F) : F :=
  let oneWayTailMs := 0.5 * link.rttMs + 1.35 * link.jitterMs
  pyMax spec.qos.lifespanMs (oneWayTailMs + 4.0 * spec.qos.deadlineMs)

/-- `1.0 / (1.0 + math.exp(-x))` of a margin in units of a temperature, which is clipped. -/
def logistic (marginMs temperature : F) : F :=
  let x := pyMax (-60.0) (pyMin 60.0 (marginMs / temperature))
  1.0 / (1.0 + exp (-x))

def logisticDeadlineRisk (marginMs : F) : F := logistic marginMs (pyMax 1.0 12.0)

def defaultReliability (spec : FlowSpec F) (obs : FlowObservation F) (link : NetworkLink F) : Str :=
  let slack := spec.qos.deadlineMs - obs.ageMs
  let retryFeasible := slack > link.rttMs * 1.35
  match spec.flowClass with
  | .safety | .control | .coordination =>
      if retryFeasible ∧ link.loss ≥ 0.03 then lit "reliable" else lit "best_effort_fresh"
  | .state => if retryFeasible ∧ link.loss < 0.08 then lit "reliable" else lit "best_effort_fresh"
  | _ => lit "best_effort_fresh"

/-- `_max_deadline_risk` -/
def maxDeadlineRisk : FlowClass → F
  | .safety => 0.02
  | .control => 0.08
  | .coordination => 0.12
  | .state => 0.22
  | .humanQoe => 0.28
  | _ => 0.50

/-- The transforms of `build_flow_contract`. -/
def buildFlowContract (spec : FlowSpec F) (obs : FlowObservation F) (link : NetworkLink F)
    (options : TransformOptions F) : Except Str (List (SemanticTransform F)) := do
  spec.validates
  link.validates
  let raw : SemanticTransform F := {
    kind := .raw
    action := lit "send"
    wireMode := lit "native"
    sizeRatio := 1.0
    valueRatio := 1.0
    effectiveDeadlineMs := spec.qos.deadlineMs
    effectiveLifespanMs := none
    reliability := defaultReliability spec obs link }
  let semanticDelta : SemanticTransform F := {
    kind := .semanticDelta
    action := lit "send_compacted"
    wireMode := lit "semantic_delta"
    sizeRatio := options.semanticCompactionRatio
    valueRatio := 0.88
    effectiveDeadlineMs := spec.qos.deadlineMs
    effectiveLifespanMs := none
    reliability := defaultReliability spec obs link }
  let controlIntent : SemanticTransform F := {
    kind := .controlIntent
    action := lit "send_intent"
    wireMode := lit "control_intent"
    sizeRatio := options.intentRatio
    valueRatio := 0.92
    effectiveDeadlineMs := controlIntentDeadlineMs spec link
    effectiveLifespanMs := none
    reliability := lit "best_effort_fresh" }
  let supervisoryIntent : SemanticTransform F := {
    kind := .supervisoryIntent
    action := lit "send_supervisory_intent"
    wireMode := lit "supervisory_intent"
    sizeRatio := pyMin options.intentRatio 0.42
    valueRatio := 0.74
    effectiveDeadlineMs := supervisoryIntentDeadlineMs spec link
    effectiveLifespanMs := some (supervisoryIntentDeadlineMs spec link)
    reliability := lit "best_effort_fresh" }
  let degraded : SemanticTransform F := {
    kind := .degraded
    action := lit "send_degraded"
    wireMode := lit "degraded"
    sizeRatio := options.degradedRatio
    valueRatio := 0.72
    effectiveDeadlineMs := spec.qos.deadlineMs
    effectiveLifespanMs := none
    reliability := lit "best_effort_fresh" }
  return [raw] ++ (if spec.flowClass.isCore then [semanticDelta] else []) ++
    (if spec.flowClass = .control then [controlIntent, supervisoryIntent] else []) ++
    (if spec.flowClass.isDegradable then [degraded] else [])

/-- `_source_age_for_transform` -/
def sourceAgeForTransform (obs : FlowObservation F) (transform : SemanticTransform F) : F :=
  if transform.kind = .raw then obs.ageMs else 0.0

def certifyTransform (spec : FlowSpec F) (obs : FlowObservation F) (link : NetworkLink F)
    (transform : SemanticTransform F) (allocatedBytes : Int) : FeasibilityCertificate F :=
  let wireMs := pathTailWireMs link allocatedBytes
  let sourceAgeMs := sourceAgeForTransform obs transform
  let arrivalAgeMs := sourceAgeMs + wireMs
  let lifespanMs :=
    match transform.effectiveLifespanMs with
    | some lifespanMs => if lifespanMs == 0.0 then spec.qos.lifespanMs else lifespanMs
    | none => spec.qos.lifespanMs
  let slackAfterWireMs := transform.effectiveDeadlineMs - arrivalAgeMs
  let risk := logisticDeadlineRisk (-slackAfterWireMs)
  let riskLimit := if transform.kind.isIntent then 0.50 else maxDeadlineRisk spec.flowClass
  let feasible := decide (slackAfterWireMs ≥ 0.0 ∧ risk ≤ riskLimit ∧ arrivalAgeMs ≤ lifespanMs)
  { feasible
    estimatedWireMs := wireMs
    predictedArrivalAgeMs := arrivalAgeMs
    slackAfterWireMs
    deadlineRisk := risk
    reason :=
      if feasible then lit "feasible"
      else if arrivalAgeMs > lifespanMs then lit "violates lifespan"
      else if slackAfterWireMs < 0.0 then lit "violates effective deadline"
      else lit "deadline risk too high" }

def transformCandidates (spec : FlowSpec F) (obs : FlowObservation F) (link : NetworkLink F)
    (options : TransformOptions F) : Except Str (List (TransformCandidate F)) := do
  let transforms ← buildFlowContract spec obs link options
  let baseSize := basePayloadSize spec obs
  return transforms.map fun transform =>
    let allocated := max 1 (toInt (ofInt baseSize * transform.sizeRatio))
    let allocated :=
      if transform.kind.isIntent then max options.minIntentBytes (min baseSize allocated)
      else allocated
    { transform
      allocatedBytes := allocated
      certificate := certifyTransform spec obs link transform allocated }

theorem transformCandidates_of_valid {spec : FlowSpec F} {link : NetworkLink F}
    (obs : FlowObservation F) (options : TransformOptions F) (validSpec : spec.validates = .ok ())
    (validLink : link.validates = .ok ()) :
    ∃ candidates, transformCandidates spec obs link options = .ok candidates := by
  unfold transformCandidates buildFlowContract
  rw [validSpec, validLink]
  exact ⟨_, rfl⟩

/-- No representation takes no bytes. -/
theorem one_le_allocatedBytes {spec : FlowSpec F} {obs : FlowObservation F} {link : NetworkLink F}
    {options : TransformOptions F} {candidates : List (TransformCandidate F)}
    (h : transformCandidates spec obs link options = .ok candidates) :
    ∀ c ∈ candidates, 1 ≤ c.allocatedBytes := by
  unfold transformCandidates at h
  simp only [bind_eq_ok_iff] at h
  obtain ⟨transforms, -, h⟩ := h
  cases Except.ok.inj h
  intro c among
  obtain ⟨transform, -, rfl⟩ := List.mem_map.mp among
  dsimp only
  split
  · exact le_max_of_le_right (le_min (le_max_left _ _) (le_max_left _ _))
  · exact le_max_left _ _

end

end FleetRMW.Admission
