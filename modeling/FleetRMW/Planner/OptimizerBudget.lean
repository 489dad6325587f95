import FleetRMW.Lib.Totals
import FleetRMW.Planner.Optimizer
import Mathlib.Tactic.Linarith
import Mathlib.Tactic.NormNum

/-! # The budgets of the optimizer

Each turn of the loop takes what it allocates from the bytes of the tick, and what a redundant
decision takes beyond one copy from the budget for redundancy.
-/

namespace FleetRMW.Planner

open Lib Admission

section
variable {config : FleetOptimizerConfig} {remaining : Remaining} {entry : ScoredFlow}
  {flow : FleetFlowDemand}

/-! ## Redundant paths -/

theorem diverseFrom_sublist (domains : List Str) (paths : List PathTelemetry) :
    (FleetOptimizerConfig.diverseFrom domains paths).Sublist paths := by
  induction paths generalizing domains with
  | nil => exact .slnil
  | cons path rest ih =>
      unfold FleetOptimizerConfig.diverseFrom
      split
      · exact (ih domains).cons path
      · exact (ih _).cons_cons path

/-- No domain comes up twice, nor any that was there before. -/
theorem diverseFrom_domains (domains : List Str) (paths : List PathTelemetry) :
    ((FleetOptimizerConfig.diverseFrom domains paths).map PathTelemetry.domain).Nodup ∧
      ∀ path ∈ FleetOptimizerConfig.diverseFrom domains paths, path.domain ∉ domains := by
  induction paths generalizing domains with
  | nil => exact ⟨List.nodup_nil, fun _ among => absurd among List.not_mem_nil⟩
  | cons path rest ih =>
      unfold FleetOptimizerConfig.diverseFrom
      split
      case isTrue => exact ih domains
      case isFalse fresh =>
        obtain ⟨distinct, apart⟩ := ih (path.domain :: domains)
        refine ⟨?_, ?_⟩
        · rw [List.map_cons, List.nodup_cons]
          refine ⟨?_, distinct⟩
          intro again
          obtain ⟨other, among, same⟩ := List.mem_map.mp again
          exact apart other among (same ▸ List.mem_cons_self)
        · intro other among
          cases List.mem_cons.mp among with
          | inl same => exact same ▸ fresh
          | inr later => exact fun before => apart other later (List.mem_cons_of_mem _ before)

theorem failureDomainDiversePaths_sublist (best : PathTelemetry) (others : List PathTelemetry) :
    (config.failureDomainDiversePaths best others).Sublist (best :: others) := by
  unfold FleetOptimizerConfig.failureDomainDiversePaths
  split
  · exact (diverseFrom_sublist _ _).cons_cons best
  · exact .refl _

theorem failureDomainDiversePaths_domains (diverse : config.requireFailureDomainDiversity)
    (best : PathTelemetry) (others : List PathTelemetry) :
    ((config.failureDomainDiversePaths best others).map PathTelemetry.domain).Nodup := by
  unfold FleetOptimizerConfig.failureDomainDiversePaths
  rw [if_pos diverse, List.map_cons, List.nodup_cons]
  obtain ⟨distinct, apart⟩ := diverseFrom_domains [best.domain] others
  refine ⟨?_, distinct⟩
  intro again
  obtain ⟨other, among, same⟩ := List.mem_map.mp again
  exact apart other among (same ▸ List.mem_cons_self)

theorem slice_sublist {α : Type} (items : List α) (stop : Int) : (slice items stop).Sublist items := by
  unfold slice
  split
  · exact List.take_sublist _ _
  · exact List.take_sublist _ _

variable (config entry) in
/-- The paths that a redundant decision uses. -/
def redundantPaths : List PathTelemetry :=
  slice (config.failureDomainDiversePaths entry.best entry.others) config.maxRedundantPaths

variable (config entry) in
/-- A mode that sends redundantly does so over these paths, and there was a second one. -/
theorem chooseMode_cases :
    ((config.chooseMode entry).1 = .redundant ∧
      (config.chooseMode entry).2.1 = (redundantPaths config entry).map PathTelemetry.pathId ∧
      2 ≤ (config.failureDomainDiversePaths entry.best entry.others).length) ∨
    ((config.chooseMode entry).1 = .unicast ∧
      (config.chooseMode entry).2.1 = [entry.best.pathId]) := by
  unfold FleetOptimizerConfig.chooseMode
  dsimp only
  split
  case isTrue risky =>
    refine .inl ⟨rfl, rfl, ?_⟩
    have second : 1 < (config.failureDomainDiversePaths entry.best entry.others).length := by
      simpa using risky.1
    exact second
  case isFalse =>
    split
    · exact .inr ⟨rfl, rfl⟩
    · exact .inr ⟨rfl, rfl⟩

variable (config remaining entry) in
/-- What redundancy takes beyond one copy is there. -/
theorem affordedMode_cases :
    ((config.affordedMode remaining entry).1 = .redundant ∧
      (config.affordedMode remaining entry).2.1 =
        (redundantPaths config entry).map PathTelemetry.pathId ∧
      2 ≤ (config.failureDomainDiversePaths entry.best entry.others).length ∧
      ∀ left ∈ remaining.redundancy, FleetOptimizerConfig.extraBytes entry.flow
        (config.affordedMode remaining entry).2.1 ≤ left) ∨
    ((config.affordedMode remaining entry).1 = .unicast ∧
      (config.affordedMode remaining entry).2.1 = [entry.best.pathId]) := by
  unfold FleetOptimizerConfig.affordedMode
  dsimp only
  rcases chooseMode_cases config entry with ⟨mode, paths, second⟩ | ⟨mode, paths⟩
  · split
    case isTrue => exact .inr ⟨rfl, rfl⟩
    case isFalse afforded =>
      refine .inl ⟨mode, paths, second, ?_⟩
      intro left isLeft
      by_contra dear
      apply afforded
      refine ⟨mode, ?_⟩
      rw [isLeft]
      simpa using dear
  · right
    rw [if_neg]
    · exact ⟨mode, paths⟩
    · rintro ⟨redundant, -⟩
      rw [mode] at redundant
      cases redundant

/-! ## One turn -/

theorem truncate_le {x : Rat} {n : Int} (nonneg : 0 ≤ x) (le : x ≤ n) : truncate x ≤ n := by
  unfold truncate
  rw [Int.tdiv_eq_ediv_of_nonneg (Rat.num_nonneg.mpr nonneg)]
  have floor : x.num / (x.den : Int) = ⌊x⌋ := (Rat.floor_def' (q := x)).symm
  rw [floor]
  exact Int.floor_le_iff.mpr (lt_of_le_of_lt le (by norm_num))

theorem one_le_degradedBytes (config : FleetOptimizerConfig) (flow : FleetFlowDemand) :
    1 ≤ config.degradedBytes flow :=
  le_max_left _ _

/-- A degraded payload that fits before it is truncated does so after. -/
theorem degradedBytes_le {bytes : Int} (floor : 0 < config.degradeFloor)
    (positive : 0 < flow.payloadBytes)
    (fits : (flow.payloadBytes : Rat) * config.degradeFloor ≤ bytes) :
    config.degradedBytes flow ≤ bytes := by
  have size : (0 : Rat) < flow.payloadBytes * config.degradeFloor :=
    mul_pos (by exact_mod_cast positive) floor
  have some_ : (0 : Rat) < bytes := lt_of_lt_of_le size fits
  refine max_le ?_ (truncate_le size.le fits)
  exact Int.cast_pos.mp some_

/-- What a decision says about a scored flow, whatever the budgets. -/
structure Decided (config : FleetOptimizerConfig) (entry : ScoredFlow)
    (decision : FleetPathDecision) : Prop where
  flowId : decision.flowId = entry.flow.flowId
  redundant : decision.mode = .redundant →
    decision.selectedPaths = (redundantPaths config entry).map PathTelemetry.pathId ∧
      2 ≤ (config.failureDomainDiversePaths entry.best entry.others).length
  full : decision.action = .send →
    decision.allocatedBytes =
      entry.flow.payloadBytes * max 1 (decision.selectedPaths.length : Int)
  degraded : decision.action = .sendDegraded →
    decision.allocatedBytes = config.degradedBytes entry.flow ∧ decision.selectedPaths.length = 1
  nothing : decision.action = .drop ∨ decision.action = .defer → decision.allocatedBytes = 0

/-- What a decision takes from the budgets. -/
structure Takes (remaining : Remaining) (entry : ScoredFlow) (next : Remaining)
    (decision : FleetPathDecision) : Prop where
  bytes : next.bytes = remaining.bytes - decision.allocatedBytes
  nonneg : 0 ≤ next.bytes
  redundancy : next.redundancy =
    if decision.mode = .redundant then remaining.redundancy.map fun left =>
      left - FleetOptimizerConfig.extraBytes entry.flow decision.selectedPaths
    else remaining.redundancy
  afforded : decision.mode = .redundant → ∀ left ∈ remaining.redundancy,
    FleetOptimizerConfig.extraBytes entry.flow decision.selectedPaths ≤ left

variable (config remaining) in
theorem decideFlow_decided (entry : ScoredFlow) :
    Decided config entry (config.decideFlow remaining entry).2 := by
  have mode := affordedMode_cases config remaining entry
  unfold FleetOptimizerConfig.decideFlow
  dsimp only
  split
  · exact ⟨rfl, nofun, nofun, nofun, fun _ => rfl⟩
  split
  · refine ⟨rfl, ?_, fun _ => rfl, nofun, nofun⟩
    intro redundant
    rcases mode with ⟨-, paths, second, -⟩ | ⟨unicast, -⟩
    · exact ⟨paths, second⟩
    · exact absurd (unicast.symm.trans redundant) (by decide)
  split
  · refine ⟨rfl, nofun, fun _ => ?_, nofun, nofun⟩
    rw [List.length_singleton]
    norm_num
  split
  · exact ⟨rfl, nofun, nofun, fun _ => ⟨rfl, rfl⟩, nofun⟩
  · exact ⟨rfl, nofun, nofun, nofun, fun _ => rfl⟩

theorem decideFlow_takes (floor : 0 < config.degradeFloor) (positive : 0 < entry.flow.payloadBytes)
    (nonneg : 0 ≤ remaining.bytes) :
    Takes remaining entry (config.decideFlow remaining entry).1
      (config.decideFlow remaining entry).2 := by
  have mode := affordedMode_cases config remaining entry
  unfold FleetOptimizerConfig.decideFlow
  dsimp only
  split
  · exact ⟨(Int.sub_zero _).symm, nonneg, rfl, nofun⟩
  split
  case isTrue fits =>
    refine ⟨rfl, Int.sub_nonneg_of_le fits, rfl, ?_⟩
    intro redundant
    rcases mode with ⟨-, -, -, afforded⟩ | ⟨unicast, -⟩
    · exact afforded
    · exact absurd (unicast.symm.trans redundant) (by decide)
  split
  case isTrue fits => exact ⟨rfl, Int.sub_nonneg_of_le fits.2, rfl, nofun⟩
  split
  case isTrue fits =>
    exact ⟨rfl, Int.sub_nonneg_of_le (degradedBytes_le floor positive fits.2), rfl, nofun⟩
  · exact ⟨(Int.sub_zero _).symm, nonneg, rfl, nofun⟩

/-! ## The loop -/

/-- The bytes that a decision about a flow takes from the budget for redundancy. -/
def redundancyBytes (flow : FleetFlowDemand) (decision : FleetPathDecision) : Int :=
  if decision.mode = .redundant then
    FleetOptimizerConfig.extraBytes flow decision.selectedPaths
  else 0

/-- The decisions about some entries keep within what remained before them. -/
structure Keeps (config : FleetOptimizerConfig) (scored : List ScoredFlow) (remaining : Remaining)
    (decisions : List FleetPathDecision) : Prop where
  decided : List.Forall₂ (Decided config) scored decisions
  bytes : (decisions.map FleetPathDecision.allocatedBytes).sum ≤ remaining.bytes
  redundancy : ∀ left ∈ remaining.redundancy, 0 ≤ left →
    (List.zipWith (fun entry decision => redundancyBytes entry.flow decision) scored
      decisions).sum ≤ left

theorem Keeps.cons {scored : List ScoredFlow} {decisions : List FleetPathDecision}
    {next : Remaining} {decision : FleetPathDecision} (decided : Decided config entry decision)
    (takes : Takes remaining entry next decision) (h : Keeps config scored next decisions) :
    Keeps config (entry :: scored) remaining (decision :: decisions) where
  decided := .cons decided h.decided
  bytes := by
    have later := h.bytes
    rw [takes.bytes] at later
    rw [List.map_cons, List.sum_cons]
    omega
  redundancy := by
    intro left isLeft nonneg
    rw [List.zipWith_cons_cons, List.sum_cons, redundancyBytes]
    have given := takes.redundancy
    split
    case isTrue redundant =>
      rw [if_pos redundant, isLeft, Option.map_some] at given
      have afforded := takes.afforded redundant left isLeft
      have later := h.redundancy _ given (by omega)
      omega
    case isFalse single =>
      rw [if_neg single, isLeft] at given
      have later := h.redundancy left given nonneg
      omega

theorem decideAll_keeps (floor : 0 < config.degradeFloor) {scored : List ScoredFlow}
    (positive : ∀ entry ∈ scored, 0 < entry.flow.payloadBytes) (nonneg : 0 ≤ remaining.bytes) :
    Keeps config scored remaining (config.decideAll scored remaining).2 := by
  induction scored generalizing remaining with
  | nil => exact ⟨.nil, nonneg, fun left _ nonneg => nonneg⟩
  | cons entry scored ih =>
      have takes := decideFlow_takes floor (positive entry List.mem_cons_self) nonneg
      have later := ih (fun e among => positive e (List.mem_cons_of_mem _ among)) takes.nonneg
      rw [FleetOptimizerConfig.decideAll_cons]
      exact later.cons (decideFlow_decided config remaining entry) takes

/-! ## All flows -/

/-- Flows that pass their checks, each of its own name. -/
structure ValidFlows (flows : List FleetFlowDemand) : Prop where
  valid : ∀ flow ∈ flows, flow.validate = .ok ()
  distinct : (flows.map FleetFlowDemand.flowId).Nodup

theorem payload_pos (valid : flow.validate = .ok ()) : 0 < flow.payloadBytes := by
  obtain ⟨⟨⟩, payload, -⟩ := bind_eq_ok_iff.mp valid
  exact Int.not_le.mp (raiseIf_eq_ok.mp payload)

variable {flows : List FleetFlowDemand} {decision : FleetPathDecision} {path : PathTelemetry}
  {paths : List PathTelemetry} {robotStates : List RobotQoEState}

variable (config path paths robotStates flows) in
/-- The flows that are not stale, in the order in which they are decided about. -/
def orderedFlows : List ScoredFlow :=
  ((flows.filter fun flow => ¬flow.ageMs > flow.lifespanMs).map fun flow =>
    config.scoreFlow path paths flow
      (fairnessDebt (FleetOptimizerConfig.robotState? robotStates flow.robotId))).insertionSort
    fun x y => config.rank y ≤ config.rank x

variable (robotStates flows) in
def staleDecisions : List FleetPathDecision :=
  (flows.filter fun flow => flow.ageMs > flow.lifespanMs).map fun flow =>
    FleetOptimizerConfig.staleDecision flow
      (fairnessDebt (FleetOptimizerConfig.robotState? robotStates flow.robotId))

variable (config path paths robotStates) in
theorem scoreFlows_eq (valid : ∀ flow ∈ flows, flow.validate = .ok ()) :
    ∃ scored, config.scoreFlows path paths robotStates flows =
        .ok (scored, staleDecisions flows robotStates) ∧
      (scored.insertionSort fun x y => config.rank y ≤ config.rank x) =
        orderedFlows config flows path paths robotStates :=
  ⟨_, foldlM_partition valid, rfl⟩

/-- The decisions are those about stale flows and those of the loop. -/
structure Answers (config : FleetOptimizerConfig) (flows : List FleetFlowDemand)
    (path : PathTelemetry) (paths : List PathTelemetry) (robotStates : List RobotQoEState)
    (decided decisions : List FleetPathDecision) : Prop where
  perm : decisions.Perm (staleDecisions flows robotStates ++ decided)
  keeps : Keeps config (orderedFlows config flows path paths robotStates)
    ⟨config.capacityBytesPerTick, config.redundancyBudgetBytesPerTick⟩ decided

theorem scoreFlow_paths (flow : FleetFlowDemand) (debt : Rat) :
    ((config.scoreFlow path paths flow debt).best ::
      (config.scoreFlow path paths flow debt).others).Perm (path :: paths) := by
  have perm := List.perm_insertionSort (fun x y : PathTelemetry =>
    config.pathScore x flow ≤ config.pathScore y flow) (path :: paths)
  unfold FleetOptimizerConfig.scoreFlow
  dsimp only
  cases ranked : (path :: paths).insertionSort fun x y =>
    config.pathScore x flow ≤ config.pathScore y flow with
  | nil =>
      rw [ranked] at perm
      exact absurd perm.length_eq (by simp)
  | cons best others =>
      rw [ranked] at perm
      exact perm

theorem mem_orderedFlows {entry : ScoredFlow}
    (h : entry ∈ orderedFlows config flows path paths robotStates) :
    entry.flow ∈ flows ∧ (entry.best :: entry.others).Perm (path :: paths) := by
  obtain ⟨flow, among, rfl⟩ :=
    List.mem_map.mp ((List.perm_insertionSort _ _).subset h)
  exact ⟨(List.mem_filter.mp among).1, scoreFlow_paths flow _⟩

variable (path paths robotStates) in
theorem decide_answers (valid : ∀ flow ∈ flows, flow.validate = .ok ())
    (capacity : 0 ≤ config.capacityBytesPerTick)
    (redundancy : ∀ budget ∈ config.redundancyBudgetBytesPerTick, 0 ≤ budget)
    (floor : 0 < config.degradeFloor) :
    ∃ decided decisions, config.decide flows (path :: paths) robotStates = .ok decisions ∧
      Answers config flows path paths robotStates decided decisions := by
  obtain ⟨scored, returned, ordered⟩ := scoreFlows_eq config path paths robotStates valid
  refine ⟨_, _, ?_, List.perm_insertionSort (fun x y => x.flowId ≤ y.flowId) _,
    decideAll_keeps floor ?_ capacity⟩
  · unfold FleetOptimizerConfig.decide
    have small : ¬config.redundancyBudgetBytesPerTick.any (· < 0) := by
      intro negative
      obtain ⟨budget, isBudget, less⟩ := (Option.any_eq_true _ _).mp negative
      exact absurd (redundancy budget isBudget) (by simpa using less)
    dsimp only
    rw [raiseIf_of_not (Int.not_lt.mpr capacity), ok_bind, raiseIf_of_not small, ok_bind, returned,
      ok_bind]
    dsimp only
    rw [ordered]
    rfl
  · intro entry among
    exact payload_pos (valid _ (mem_orderedFlows among).1)

theorem forall₂_flowIds {scored : List ScoredFlow} {decisions : List FleetPathDecision}
    (h : List.Forall₂ (Decided config) scored decisions) :
    decisions.map FleetPathDecision.flowId = scored.map fun entry => entry.flow.flowId := by
  induction h with
  | nil => rfl
  | cons decided rest ih => rw [List.map_cons, List.map_cons, ih, decided.flowId]

theorem Answers.flowIds {decided decisions : List FleetPathDecision}
    (h : Answers config flows path paths robotStates decided decisions) :
    (decisions.map FleetPathDecision.flowId).Perm (flows.map FleetFlowDemand.flowId) := by
  refine (h.perm.map _).trans ?_
  have stale : (staleDecisions flows robotStates).map FleetPathDecision.flowId =
      (flows.filter fun flow => flow.ageMs > flow.lifespanMs).map FleetFlowDemand.flowId := by
    unfold staleDecisions
    rw [List.map_map]
    rfl
  have fresh : (decided.map FleetPathDecision.flowId).Perm
      ((flows.filter fun flow => ¬flow.ageMs > flow.lifespanMs).map FleetFlowDemand.flowId) := by
    rw [forall₂_flowIds h.keeps.decided]
    refine ((List.perm_insertionSort _ _).map _).trans ?_
    rw [List.map_map]
    exact .refl _
  rw [List.map_append, stale]
  refine (fresh.append_left _).trans ?_
  rw [← List.map_append]
  have split := List.filter_append_perm (fun flow : FleetFlowDemand =>
    decide (flow.ageMs > flow.lifespanMs)) flows
  simp only [← decide_not] at split
  exact split.map _

theorem Answers.allocatedBytes {decided decisions : List FleetPathDecision}
    (h : Answers config flows path paths robotStates decided decisions) :
    (decisions.map FleetPathDecision.allocatedBytes).sum =
      (decided.map FleetPathDecision.allocatedBytes).sum := by
  have stale : ((staleDecisions flows robotStates).map FleetPathDecision.allocatedBytes).sum = 0 := by
    apply List.sum_eq_zero
    intro bytes among
    obtain ⟨decision, inside, rfl⟩ := List.mem_map.mp among
    obtain ⟨flow, -, rfl⟩ := List.mem_map.mp inside
    rfl
  rw [(h.perm.map _).sum_eq, List.map_append, List.sum_append, stale, Int.zero_add]

theorem exists_of_forall₂ {scored : List ScoredFlow} {decisions : List FleetPathDecision}
    (h : List.Forall₂ (Decided config) scored decisions) (among : decision ∈ decisions) :
    ∃ entry ∈ scored, Decided config entry decision := by
  obtain ⟨index, inside, rfl⟩ := List.mem_iff_getElem.mp among
  have inside' : index < scored.length := h.length_eq ▸ inside
  exact ⟨scored[index], List.getElem_mem inside', h.get inside' inside⟩

/-- The bytes that a decision takes from the budget for redundancy, given all flows. -/
def extraOf (flows : List FleetFlowDemand) (decision : FleetPathDecision) : Int :=
  ((flows.find? fun flow => flow.flowId = decision.flowId).map fun flow =>
    redundancyBytes flow decision).getD 0

theorem find?_flow (distinct : (flows.map FleetFlowDemand.flowId).Nodup) (among : flow ∈ flows) :
    (flows.find? fun other => other.flowId = flow.flowId) = some flow := by
  cases found : flows.find? fun other => other.flowId = flow.flowId with
  | none => exact absurd (decide_eq_true rfl) (List.find?_eq_none.mp found flow among)
  | some other =>
      have same : other.flowId = flow.flowId := by simpa using List.find?_some found
      rw [List.inj_on_of_nodup_map distinct (List.mem_of_find?_eq_some found) among same]

theorem sum_extraOf (distinct : (flows.map FleetFlowDemand.flowId).Nodup)
    {scored : List ScoredFlow} {decisions : List FleetPathDecision}
    (listed : ∀ entry ∈ scored, entry.flow ∈ flows)
    (h : List.Forall₂ (Decided config) scored decisions) :
    (decisions.map (extraOf flows)).sum =
      (List.zipWith (fun entry decision => redundancyBytes entry.flow decision) scored
        decisions).sum := by
  induction h with
  | nil => rfl
  | @cons entry decision scored decisions decided rest ih =>
      have later := ih fun e among => listed e (List.mem_cons_of_mem _ among)
      have found := find?_flow distinct (listed entry List.mem_cons_self)
      rw [List.map_cons, List.sum_cons, later, List.zipWith_cons_cons, List.sum_cons]
      unfold extraOf
      rw [decided.flowId, found]
      rfl

theorem extraOf_stale (h : decision ∈ staleDecisions flows robotStates) :
    extraOf flows decision = 0 := by
  obtain ⟨flow, -, rfl⟩ := List.mem_map.mp h
  unfold extraOf
  cases flows.find? _ with
  | none => rfl
  | some other => rfl

/-- The decision uses two paths at least, and where that is required, no two of one domain. -/
def UsesDiversePaths (config : FleetOptimizerConfig) (paths : List PathTelemetry)
    (decision : FleetPathDecision) : Prop :=
  ∃ selected : List PathTelemetry, decision.selectedPaths = selected.map PathTelemetry.pathId ∧
    (∀ path ∈ selected, path ∈ paths) ∧ decision.selectedPaths.Nodup ∧ 2 ≤ selected.length ∧
    (config.requireFailureDomainDiversity → (selected.map PathTelemetry.domain).Nodup)

theorem Decided.usesDiversePaths {decision : FleetPathDecision} (h : Decided config entry decision)
    (ranked : (entry.best :: entry.others).Perm paths)
    (distinct : (paths.map PathTelemetry.pathId).Nodup) (most : 2 ≤ config.maxRedundantPaths)
    (redundant : decision.mode = .redundant) : UsesDiversePaths config paths decision := by
  obtain ⟨selected, second⟩ := h.redundant redundant
  have sublist : (redundantPaths config entry).Sublist (entry.best :: entry.others) :=
    (slice_sublist _ _).trans (failureDomainDiversePaths_sublist _ _)
  refine ⟨redundantPaths config entry, selected, ?_, ?_, ?_, ?_⟩
  · intro path among
    exact ranked.subset (sublist.subset among)
  · rw [selected]
    exact ((ranked.map _).nodup_iff.mpr distinct).sublist (sublist.map _)
  · unfold redundantPaths slice
    rw [if_pos (by omega), List.length_take]
    omega
  · intro diverse
    exact (failureDomainDiversePaths_domains diverse _ _).sublist ((slice_sublist _ _).map _)

end

/-- A control flow that is urgent. -/
def urgentFlow (flowId : Str) (payloadBytes : Int) : FleetFlowDemand where
  flowId
  robotId := lit "r1"
  flowClass := .control
  deadlineMs := 20
  payloadBytes
  rateHz := 10
  criticality := 1

/-- A path that loses what is sent at a rate. -/
def lossyPath (pathId : Str) (loss : Rat) : PathTelemetry where
  pathId
  latencyMs := 5
  jitterMs := 0
  loss

end FleetRMW.Planner
