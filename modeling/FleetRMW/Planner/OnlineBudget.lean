import FleetRMW.Lib.Run
import FleetRMW.Planner.Online
import FleetRMW.Planner.OptimizerBudget

/-! # Plans and the budget of the tick

The optimizer pays for its own choice of paths. The paths that a topic had before may be more,
and when they are held nobody pays for them.
-/

namespace FleetRMW.Planner

open Lib

/-! ## Inversion -/

theorem decide_inversion {config : FleetOptimizerConfig} {flows : List FleetFlowDemand}
    {paths : List PathTelemetry} {robotStates : List RobotQoEState}
    {decisions : List FleetPathDecision} (h : config.decide flows paths robotStates = .ok decisions) :
    paths ≠ [] ∧ (∀ flow ∈ flows, flow.validate = .ok ()) ∧ 0 ≤ config.capacityBytesPerTick ∧
      ∀ budget ∈ config.redundancyBudgetBytesPerTick, 0 ≤ budget := by
  unfold FleetOptimizerConfig.decide at h
  cases paths with
  | nil => cases h
  | cons path paths =>
      dsimp only at h
      obtain ⟨⟨⟩, capacity, h⟩ := bind_eq_ok_iff.mp h
      obtain ⟨⟨⟩, redundancy, h⟩ := bind_eq_ok_iff.mp h
      obtain ⟨⟨scored, stale⟩, looped, -⟩ := bind_eq_ok_iff.mp h
      refine ⟨List.cons_ne_nil _ _, checked_of_foldlM_partition looped, ?_, ?_⟩
      · exact Int.not_lt.mp (raiseIf_eq_ok.mp capacity)
      · intro budget isBudget
        have some_ := raiseIf_eq_ok.mp redundancy
        rw [isBudget] at some_
        simpa using some_

/-- What the optimizer allocates to a flow. -/
structure Paid (config : FleetOptimizerConfig) (flow : FleetFlowDemand)
    (decision : FleetPathDecision) : Prop where
  flowId : decision.flowId = flow.flowId
  payload : 0 < flow.payloadBytes
  full : decision.action = .send →
    decision.allocatedBytes = flow.payloadBytes * max 1 (decision.selectedPaths.length : Int)
  degraded : decision.action = .sendDegraded →
    decision.allocatedBytes = config.degradedBytes flow ∧ decision.selectedPaths.length = 1
  nothing : decision.action = .drop ∨ decision.action = .defer → decision.allocatedBytes = 0

theorem decide_paid {config : FleetOptimizerConfig} {flows : List FleetFlowDemand}
    {paths : List PathTelemetry} {robotStates : List RobotQoEState}
    {decisions : List FleetPathDecision} (floor : 0 < config.degradeFloor)
    (h : config.decide flows paths robotStates = .ok decisions) :
    (decisions.map FleetPathDecision.flowId).Perm (flows.map FleetFlowDemand.flowId) ∧
      (decisions.map FleetPathDecision.allocatedBytes).sum ≤ config.capacityBytesPerTick ∧
      ∀ decision ∈ decisions, ∃ flow ∈ flows, Paid config flow decision := by
  obtain ⟨some_path, valid, capacity, redundancy⟩ := decide_inversion h
  obtain ⟨path, paths, rfl⟩ := List.exists_cons_of_ne_nil some_path
  obtain ⟨decided, decisions', returned, answers⟩ :=
    decide_answers path paths robotStates valid capacity redundancy floor
  rw [h] at returned
  obtain rfl := Except.ok.inj returned
  refine ⟨answers.flowIds, ?_, ?_⟩
  · rw [answers.allocatedBytes]
    exact answers.keeps.bytes
  · intro decision among
    cases List.mem_append.mp (answers.perm.subset among) with
    | inl stale =>
        obtain ⟨flow, inside, rfl⟩ := List.mem_map.mp stale
        have listed := (List.mem_filter.mp inside).1
        exact ⟨flow, listed, rfl, payload_pos (valid flow listed), nofun, nofun, fun _ => rfl⟩
    | inr loop =>
        obtain ⟨entry, inside, decides⟩ := exists_of_forall₂ answers.keeps.decided loop
        have listed := (mem_orderedFlows inside).1
        exact ⟨entry.flow, listed, decides.flowId, payload_pos (valid _ listed), decides.full,
          decides.degraded, decides.nothing⟩

theorem Paid.nonneg {config : FleetOptimizerConfig} {flow : FleetFlowDemand}
    {decision : FleetPathDecision} (h : Paid config flow decision) :
    0 ≤ decision.allocatedBytes := by
  cases action : decision.action with
  | send =>
      rw [h.full action]
      exact Int.mul_nonneg (Int.le_of_lt h.payload) (by omega)
  | sendDegraded =>
      rw [(h.degraded action).1]
      exact Int.le_of_lt (one_le_degradedBytes config flow)
  | drop => rw [h.nothing (.inl action)]
  | defer => rw [h.nothing (.inr action)]

namespace OnlineFleetPlannerConfig

variable {config : OnlineFleetPlannerConfig} {s s' : PlannerState} {u : PlannerUpdate}
  {topic : Str} {decision : FleetPathDecision} {demand : FleetFlowDemand}
  {pathById : List PathTelemetry}

/-! ## One topic -/

/-- What is remembered about a topic. -/
structure SameTopic (topic : Str) (s s' : PlannerState) : Prop where
  paths : s'.topicPaths.get? topic = s.topicPaths.get? topic
  lastChange : s'.topicLastChange.get? topic = s.topicLastChange.get? topic

theorem topicPaths_congr (same : SameTopic topic s s') (tick : Int) :
    config.topicPaths s' tick topic decision demand pathById =
      config.topicPaths s tick topic decision demand pathById := by
  unfold topicPaths guardPathSwitch
  rw [same.paths, same.lastChange]

variable (config s topic decision demand pathById) in
/-- A turn of the loop leaves the other topics alone. -/
theorem topicPlanDecision_other {other : Str} (ne : other ≠ topic) (tick : Int) :
    SameTopic other s (config.topicPlanDecision s tick topic decision demand pathById).2 := by
  unfold topicPlanDecision
  dsimp only
  split
  · exact ⟨Dict.get?_set_of_ne ne, Dict.get?_set_of_ne ne⟩
  · exact ⟨rfl, rfl⟩

/-- The action sends something. -/
def sends (decision : FleetPathDecision) : Prop := decision.action ∈ [PathAction.send, .sendDegraded]

/-- Where the optimizer sends a topic over fewer paths than it had, the guard lets the switch
    through. -/
def switchesDown (config : OnlineFleetPlannerConfig) (s : PlannerState) (tick : Int) (topic : Str)
    (decision : FleetPathDecision) (demand : FleetFlowDemand) (pathById : List PathTelemetry) :
    Prop :=
  let previousPaths := (s.topicPaths.get? topic).getD []
  sends decision → decision.selectedPaths.length < previousPaths.length →
    (config.guardPathSwitch s tick topic previousPaths decision.selectedPaths demand pathById).2 =
      false

variable (config s topic demand pathById) in
theorem guardPathSwitch_cases (tick : Int) (previousPaths candidatePaths : List Str) :
    config.guardPathSwitch s tick topic previousPaths candidatePaths demand pathById =
        (candidatePaths, false) ∨
      config.guardPathSwitch s tick topic previousPaths candidatePaths demand pathById =
        (previousPaths, true) := by
  unfold guardPathSwitch
  dsimp only
  split
  · exact .inl rfl
  split
  · exact .inl rfl
  · exact .inr rfl

theorem length_topicPaths_le {tick : Int}
    (down : config.switchesDown s tick topic decision demand pathById) :
    (config.topicPaths s tick topic decision demand pathById).1.length ≤
      decision.selectedPaths.length := by
  unfold topicPaths
  split
  case isTrue => exact Nat.zero_le _
  case isFalse sent =>
    have sends : sends decision := by
      by_contra not_
      exact sent (.inl not_)
    rcases guardPathSwitch_cases config s topic demand pathById tick
      ((s.topicPaths.get? topic).getD []) decision.selectedPaths with
      switched | held
    · rw [switched]
    · rw [held]
      by_contra more
      have through := down sends (Nat.lt_of_not_le more)
      rw [held] at through
      cases through

/-! ## The plan of a tick -/

/-- The bytes that a topic takes in the tick: its payload for each path, or its degraded bytes. -/
def bytesOf (config : OnlineFleetPlannerConfig) (flow : FleetFlowDemand)
    (plan : TopicPlanDecision) : Int :=
  match plan.action with
  | .send => flow.payloadBytes * plan.selectedPaths.length
  | .sendDegraded => config.optimizer.degradedBytes flow
  | _ => 0

def topicBytes (config : OnlineFleetPlannerConfig) (demands : List FleetTopicDemand)
    (plan : TopicPlanDecision) : Int :=
  ((demandByFlow demands plan.flowId).map fun item => bytesOf config item.demand plan).getD 0

/-- The topics of a plan take no more than the tick has, and one that is degraded has one path. -/
structure FitsBudget (config : OnlineFleetPlannerConfig) (demands : List FleetTopicDemand)
    (plans : List TopicPlanDecision) : Prop where
  bytes : (plans.map (topicBytes config demands)).sum ≤ config.optimizer.capacityBytesPerTick
  degraded : ∀ plan ∈ plans, plan.action = .sendDegraded → plan.selectedPaths.length ≤ 1

/-- A topic whose paths are no more than the optimizer chose takes what was allocated. -/
theorem bytesOf_le {plan : TopicPlanDecision} (paid : Paid config.optimizer demand decision)
    (action : plan.action = decision.action)
    (paths : plan.selectedPaths.length ≤ decision.selectedPaths.length) :
    bytesOf config demand plan ≤ decision.allocatedBytes := by
  unfold bytesOf
  rw [action]
  cases acted : decision.action with
  | send =>
      rw [paid.full acted]
      exact Int.mul_le_mul_of_nonneg_left (by omega) (Int.le_of_lt paid.payload)
  | sendDegraded => exact (paid.degraded acted).1.symm.le
  | drop => exact paid.nonneg
  | defer => exact paid.nonneg

theorem of_demandByFlow {demands : List FleetTopicDemand} {flowId : Str} {item : FleetTopicDemand}
    (h : demandByFlow demands flowId = some item) :
    item ∈ demands ∧ item.demand.flowId = flowId :=
  ⟨List.mem_reverse.mp (List.mem_of_find?_eq_some h), by simpa using List.find?_some h⟩

/-- The decisions of a tick are paid for, and no topic keeps more paths than it is given. -/
structure Turns (config : OnlineFleetPlannerConfig) (s : PlannerState) (tick : Int)
    (demands : List FleetTopicDemand) (pathById : List PathTelemetry)
    (decision : FleetPathDecision) : Prop where
  nonneg : 0 ≤ decision.allocatedBytes
  paid : ∀ item ∈ demandByFlow demands decision.flowId, Paid config.optimizer item.demand decision
  down : ∀ item ∈ demandByFlow demands decision.flowId,
    config.switchesDown s tick item.topic decision item.demand pathById

section
variable {demands : List FleetTopicDemand} {tick : Int}

/-- One turn, from a state that remembers the same about the topic. -/
theorem topicPlanDecision_fits {item : FleetTopicDemand}
    (turns : Turns config s tick demands pathById decision)
    (found : demandByFlow demands decision.flowId = some item)
    (same : SameTopic item.topic s s') :
    let plan := (config.topicPlanDecision s' tick item.topic decision item.demand pathById).1
    topicBytes config demands plan ≤ decision.allocatedBytes ∧
      (plan.action = .sendDegraded → plan.selectedPaths.length ≤ 1) := by
  have paid := turns.paid item found
  have few := length_topicPaths_le (turns.down item found)
  rw [← topicPaths_congr same] at few
  constructor
  · have bytes : topicBytes config demands
        (config.topicPlanDecision s' tick item.topic decision item.demand pathById).1 =
        bytesOf config item.demand
          (config.topicPlanDecision s' tick item.topic decision item.demand pathById).1 := by
      have named : demandByFlow demands
          (config.topicPlanDecision s' tick item.topic decision item.demand pathById).1.flowId =
          some item := found
      rw [topicBytes, named]
      rfl
    rw [bytes]
    exact bytesOf_le paid rfl few
  · intro degraded
    exact few.trans (paid.degraded degraded).2.le

theorem other_topic (topics : (demands.map FleetTopicDemand.topic).Nodup)
    {flowId flowId' : Str} {item item' : FleetTopicDemand} (ne : flowId' ≠ flowId)
    (found : demandByFlow demands flowId = some item)
    (found' : demandByFlow demands flowId' = some item') : item'.topic ≠ item.topic := by
  obtain ⟨among, named⟩ := of_demandByFlow found
  obtain ⟨among', named'⟩ := of_demandByFlow found'
  intro same
  have := List.inj_on_of_nodup_map topics among' among same
  exact ne (named'.symm.trans ((congrArg (fun i => i.demand.flowId) this).trans named))

variable (config s pathById tick) in
theorem planTopics_fits (topics : (demands.map FleetTopicDemand.topic).Nodup)
    {decisions : List FleetPathDecision}
    (distinct : (decisions.map FleetPathDecision.flowId).Nodup)
    (turns : ∀ decision ∈ decisions, Turns config s tick demands pathById decision) :
    ((config.planTopics tick demands pathById decisions s).1.map (topicBytes config demands)).sum ≤
      (decisions.map FleetPathDecision.allocatedBytes).sum ∧
    ∀ plan ∈ (config.planTopics tick demands pathById decisions s).1,
      plan.action = .sendDegraded → plan.selectedPaths.length ≤ 1 := by
  -- The turns are about the first state, and the loop has changed other topics only.
  have general : ∀ (rest : List FleetPathDecision) (s' : PlannerState),
      (rest.map FleetPathDecision.flowId).Nodup →
      (∀ decision ∈ rest, Turns config s tick demands pathById decision) →
      (∀ decision ∈ rest, ∀ item ∈ demandByFlow demands decision.flowId,
        SameTopic item.topic s s') →
      ((config.planTopics tick demands pathById rest s').1.map (topicBytes config demands)).sum ≤
        (rest.map FleetPathDecision.allocatedBytes).sum ∧
      ∀ plan ∈ (config.planTopics tick demands pathById rest s').1,
        plan.action = .sendDegraded → plan.selectedPaths.length ≤ 1 := by
    intro rest
    induction rest with
    | nil => exact fun s' _ _ _ => ⟨le_refl _, fun _ among => absurd among List.not_mem_nil⟩
    | cons decision rest ih =>
        intro s' distinct turns same
        obtain ⟨first, distinct⟩ := List.nodup_cons.mp distinct
        have turn := turns decision List.mem_cons_self
        have later : ∀ d ∈ rest, Turns config s tick demands pathById d :=
          fun d among => turns d (List.mem_cons_of_mem _ among)
        have others := fun d among => same d (List.mem_cons_of_mem _ among)
        rw [List.map_cons, List.sum_cons]
        cases found : demandByFlow demands decision.flowId with
        | none =>
            rw [planTopics_cons_none tick demands pathById found]
            obtain ⟨bytes, degraded⟩ := ih s' distinct later others
            have free := turn.nonneg
            exact ⟨by omega, degraded⟩
        | some item =>
            obtain ⟨takes, single⟩ :=
              topicPlanDecision_fits turn found (same decision List.mem_cons_self item found)
            rw [planTopics_cons tick demands pathById found]
            have after : ∀ d ∈ rest, ∀ item' ∈ demandByFlow demands d.flowId,
                SameTopic item'.topic s (config.topicPlanDecision s' tick item.topic decision
                  item.demand pathById).2 := by
              intro d among item' found'
              have named : d.flowId ≠ decision.flowId := by
                intro same
                exact first (same ▸ List.mem_map_of_mem among)
              have before := others d among item' found'
              have turned := topicPlanDecision_other config s' item.topic decision item.demand
                pathById (other_topic topics named found found') tick
              exact ⟨turned.paths.trans before.paths, turned.lastChange.trans before.lastChange⟩
            obtain ⟨bytes, degraded⟩ := ih _ distinct later after
            constructor
            · rw [List.map_cons, List.sum_cons]
              omega
            · intro plan among
              cases List.mem_cons.mp among with
              | inl same => exact same ▸ single
              | inr later => exact degraded plan later
  exact general decisions s distinct turns fun _ _ _ _ => ⟨rfl, rfl⟩

end

/-! ## Runs -/

/-- The paths that an update hands to the optimizer. -/
def telemetry (config : OnlineFleetPlannerConfig) (s : PlannerState) (u : PlannerUpdate) :
    List PathTelemetry :=
  ((config.updatePathTelemetry s.smoothedPaths u.observations).map Prod.snd).insertionSort
    fun x y => x.pathId ≤ y.pathId

/-- One flow for each topic, and no topic for which more paths are held than the optimizer
    chose. -/
structure Meets (config : OnlineFleetPlannerConfig) (s : PlannerState) (u : PlannerUpdate) :
    Prop where
  topics : (u.demands.map FleetTopicDemand.topic).Nodup
  flows : (u.demands.map fun item => item.demand.flowId).Nodup
  down : ∀ decisions, config.optimizer.decide (u.demands.map FleetTopicDemand.demand)
      (config.telemetry s u) u.robotStates = .ok decisions →
    ∀ decision ∈ decisions, ∀ item ∈ demandByFlow u.demands decision.flowId,
      config.switchesDown s u.tick item.topic decision item.demand (config.telemetry s u)

theorem update_fits (floor : 0 < config.optimizer.degradeFloor) (meets : config.Meets s u)
    {plan : OnlineFleetPathPlan} (planned : (config.update s u).1 = .ok plan) :
    FitsBudget config u.demands plan.topicDecisions := by
  unfold update at planned
  split at planned
  · cases planned
  dsimp only at planned
  split at planned
  · cases planned
  split at planned
  · cases planned
  case h_2 decisions decided =>
    obtain rfl := Except.ok.inj planned
    obtain ⟨perm, capacity, paid⟩ := decide_paid floor decided
    rw [List.map_map] at perm
    have fits := planTopics_fits config
      { s with
        lastTick := u.tick
        smoothedPaths := config.updatePathTelemetry s.smoothedPaths u.observations }
      (config.telemetry s u) u.tick meets.topics
      (perm.nodup_iff.mpr meets.flows) <| by
        intro decision among
        obtain ⟨flow, listed, pays⟩ := paid decision among
        refine ⟨pays.nonneg, ?_, ?_⟩
        · intro item found
          obtain ⟨inside, named⟩ := of_demandByFlow found
          obtain ⟨item', inside', rfl⟩ := List.mem_map.mp listed
          have same := List.inj_on_of_nodup_map meets.flows inside inside'
            (named.trans pays.flowId)
          exact same ▸ pays
        · exact meets.down decisions decided decision among
    have sorted := List.perm_insertionSort (fun x y : TopicPlanDecision => x.topic ≤ y.topic)
      (config.planTopics u.tick u.demands (config.telemetry s u) decisions { s with
        lastTick := u.tick
        smoothedPaths := config.updatePathTelemetry s.smoothedPaths u.observations }).1
    constructor
    · exact ((sorted.map _).sum_eq.trans_le fits.1).trans capacity
    · intro plan among
      exact fits.2 plan (sorted.subset among)

def step (config : OnlineFleetPlannerConfig) (s : PlannerState) (u : PlannerUpdate) :
    Option PlannerState :=
  some (config.update s u).2

/-- Two paths that lose what is sent at a rate. -/
def observed (loss : Rat) : List PathObservation :=
  [{ pathId := lit "a", latencyMs := 5, jitterMs := 0, loss := some loss },
   { pathId := lit "b", latencyMs := 5, jitterMs := 0, loss := some loss }]

def firstDemand : FleetTopicDemand := ⟨lit "/x", urgentFlow (lit "f") 100⟩

def secondDemand : FleetTopicDemand := ⟨lit "/y", urgentFlow (lit "g") 100⟩

/-- 200 bytes a tick, and paths that are not smoothed. -/
def twoHundred : OnlineFleetPlannerConfig :=
  { optimizer := { capacityBytesPerTick := 200 }, telemetryAlpha := 1 }

end OnlineFleetPlannerConfig

end FleetRMW.Planner
