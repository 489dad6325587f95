import FleetRMW.Admission.ControlIntents
import FleetRMW.Admission.PredictiveFamily
import FleetRMW.Admission.StaleFlows
import FleetRMW.Lib.Run

/-! # Stale samples

What each controller does with a flow whose sample is past its lifespan. The age of a representation
starts when it is made: where a control flow cannot be sent, its intent may be, and the service floor
may serve it.
-/

namespace FleetRMW.Admission

open Lib FloatOps

section
variable {F : Type} [FloatOps F]

variable {candidates : List (Candidate F)} {link : NetworkLink F}
  {decisions : List (FlowDecision F)}

/-! ## Runs with intents -/

namespace IntentAwareContextualAdmissionController

/-- A controller as the constructor makes it. -/
def init (envelopes : Dict ProfileLabel (List (ProfileEnvelope F))) (intentRatio : F)
    (minIntentBytes : Int) : IntentAwareContextualAdmissionController F where
  base := .init envelopes
  intentRatio
  minIntentBytes

/-- A call of `schedule`. -/
def step (c : IntentAwareContextualAdmissionController F)
    (call : List (Candidate F) × NetworkLink F) :
    Option (IntentAwareContextualAdmissionController F) :=
  (c.schedule call.1 call.2).toOption.map Prod.snd

/-- The calls of a run are for valid flows and links. -/
def ValidCall (_ : IntentAwareContextualAdmissionController F)
    (call : List (Candidate F) × NetworkLink F) : Prop :=
  Valid call.1 call.2

theorem complete_of_run {c start : IntentAwareContextualAdmissionController F}
    {calls : List (List (Candidate F) × NetworkLink F)} (complete : start.base.Complete)
    (meets : RunMeets step ValidCall start calls) (reached : run step start calls = some c) :
    c.base.Complete := by
  refine run_invariant (I := fun c => c.base.Complete) ?_ complete meets reached
  intro c call c' complete valid taken
  obtain ⟨decisions, next, returned, complete', -⟩ := schedule_ok complete valid
  unfold step at taken
  rw [returned] at taken
  obtain rfl := Option.some.inj taken
  exact complete'

end IntentAwareContextualAdmissionController

/-! ## What is decided of a stale flow -/

/-- Nothing is sent of a stale flow. -/
def LeavesStale (candidates : List (Candidate F)) (decisions : List (FlowDecision F)) : Prop :=
  ∀ x ∈ candidates, x.2.ageMs > x.1.qos.lifespanMs →
    (∃ decision ∈ decisions, decision.flowId = x.1.flowId) ∧
    ∀ decision ∈ decisions, decision.flowId = x.1.flowId →
      decision.isSent = false ∧ decision.allocatedBytes = 0

theorem mem_of_ids (ids : (decisions.map FlowDecision.flowId).Perm
      (candidates.map fun x => x.1.flowId)) {x : Candidate F} (among : x ∈ candidates) :
    ∃ decision ∈ decisions, decision.flowId = x.1.flowId := by
  have listed : x.1.flowId ∈ decisions.map FlowDecision.flowId :=
    ids.symm.subset (List.mem_map_of_mem (f := fun x : Candidate F => x.1.flowId) among)
  exact List.mem_map.mp listed

theorem Settles.leavesStale (settles : Settles candidates decisions) :
    LeavesStale candidates decisions := by
  intro x among old
  refine ⟨mem_of_ids settles.ids among, ?_⟩
  intro decision decided names
  obtain ⟨unsent, nothing⟩ := settles.stale x among old decision decided names
  exact ⟨unsent, nothing⟩

theorem PredictiveAdmissionController.schedule_settles (c : PredictiveAdmissionController F)
    (valid : Valid candidates link) :
    ∃ decisions c', c.schedule candidates link = .ok (decisions, c') ∧
      Settles candidates decisions := by
  obtain ⟨decisions, returned, same⟩ := c.schedule_eq valid
  exact ⟨decisions, _, returned, settles valid same⟩

/-- A stale flow is not sent, or it is a control flow on a wide link whose intent is sent. -/
def SendsIntentsOnly (c : IntentAwareContextualAdmissionController F)
    (candidates : List (Candidate F)) (link : NetworkLink F) (decisions : List (FlowDecision F)) :
    Prop :=
  ∀ x ∈ candidates, x.2.ageMs > x.1.qos.lifespanMs →
    (∃ decision ∈ decisions, decision.flowId = x.1.flowId) ∧
    ∀ decision ∈ decisions, decision.flowId = x.1.flowId →
      (decision.isSent = false ∧ decision.allocatedBytes = 0) ∨
      ∃ profile before raw intent, (profile = .wan ∨ profile = .roaming) ∧
        classifyLinkProfile link = .ok profile ∧
        IntentAwareContextualAdmissionController.Intends c.transformOptions link x before raw
          intent ∧
        decision = IntentAwareContextualAdmissionController.intentDecision x.1 before intent profile

theorem IntentAwareContextualAdmissionController.Outcome.sendsIntentsOnly
    {c : IntentAwareContextualAdmissionController F}
    (outcome : Outcome c.transformOptions candidates link decisions) :
    SendsIntentsOnly c candidates link decisions := by
  intro x among old
  refine ⟨mem_of_ids outcome.ids among, ?_⟩
  intro decision decided names
  cases outcome.each x among decision decided names with
  | sample _ fresh => exact absurd old fresh
  | nothing holds => exact .inl ⟨holds.unsent, holds.nothing⟩
  | intent wide classified intends same =>
      exact .inr ⟨_, _, _, _, wide, classified, intends, same⟩

/-- A stale flow is not sent, or it is one of control and is served in a representation that arrives
    in time. -/
def ServesControlOnly (config : RobotBudgetConfig F) (candidates : List (Candidate F))
    (link : NetworkLink F) (decisions : List (FlowDecision F)) : Prop :=
  ∀ x ∈ candidates, x.2.ageMs > x.1.qos.lifespanMs →
    (∃ decision ∈ decisions, decision.flowId = x.1.flowId) ∧
    ∀ decision ∈ decisions, decision.flowId = x.1.flowId →
      (decision.isSent = false ∧ decision.allocatedBytes = 0) ∨
      x.1.flowClass.isControl ∧ ServedBy config link x decision

end

/-! ## A control flow whose sample is stale -/

def staleFlow (flowId : Str) (flowClass : FlowClass) (nominalSizeBytes : Int) : Candidate Fixed :=
  let (spec, obs) := oldFlow flowId flowClass nominalSizeBytes
  (spec, { obs with ageMs := 600.0 })

/-- A wide link. -/
def wanLink : NetworkLink Fixed :=
  { capacityBytesPerTick := 5000
    loss := 0.0
    jitterMs := 2.0
    rttMs := 120.0 }

/-- A policy that sends nothing. -/
def deferring : CallablePolicy Fixed := fun flows _ =>
  .ok (flows.map fun x => { sending x.1.flowId 0 with action := lit "defer" })

def defaultIntents : IntentAwareContextualAdmissionController Fixed :=
  .init defaultContextualLagrangianEnvelopes 0.50 48

theorem deferring_settles (flows : List (Candidate Fixed)) (link : NetworkLink Fixed) :
    ∃ base, deferring flows link = .ok base ∧ Settles flows base := by
  refine ⟨_, rfl, ?_, ?_⟩
  · rw [List.map_map]
    exact .refl _
  · intro x _ _ decision decided _
    obtain ⟨y, -, rfl⟩ := List.mem_map.mp decided
    exact ⟨decide_eq_false (by decide : lit "defer" ∉ sentActions), rfl⟩

theorem staleFlow_valid : Valid [staleFlow (lit "stop") .control 60] wanLink where
  link := rfl
  flows := by
    intro x among
    rw [List.mem_singleton.mp among]
    rfl
  distinct := List.nodup_singleton _

theorem defaultEnvelopes_some : ∀ profile : ProfileLabel, ∃ listed,
    (defaultContextualLagrangianEnvelopes (F := Fixed)).get? profile = some listed ∧
      listed ≠ [] := by
  intro profile
  cases profile with
  | lan => exact ⟨_, rfl, List.cons_ne_nil _ _⟩
  | wifi => exact ⟨_, rfl, List.cons_ne_nil _ _⟩
  | wan => exact ⟨_, rfl, List.cons_ne_nil _ _⟩
  | roaming => exact ⟨_, rfl, List.cons_ne_nil _ _⟩

end FleetRMW.Admission
