import FleetRMW.Admission.ServiceAttempts
import FleetRMW.Admission.PredictiveBudget

/-! # Flows that are stale

The passes of the robot budget leave alone what its policy does not send, unless it is a flow of
control: that may be served in a representation that arrives in time, whose age starts when it is
made.
-/

namespace FleetRMW.Admission

open Lib FloatOps

section
variable {F : Type} [FloatOps F]

/-- The decision sends a representation of the flow that arrives in time. -/
def ServedBy (config : RobotBudgetConfig F) (link : NetworkLink F) (x : Candidate F)
    (decision : FlowDecision F) : Prop :=
  ∃ options, transformCandidates x.1 x.2 link config.floorOptions = .ok options ∧
    ∃ option ∈ options, option.certificate.feasible = true ∧
      decision.action = option.transform.action ∧
      decision.allocatedBytes = option.allocatedBytes ∧
      decision.wireMode = option.transform.wireMode

/-- Nothing is sent of the flow, or it is one of control and is served. -/
inductive Spares (config : RobotBudgetConfig F) (link : NetworkLink F) (x : Candidate F)
    (decision : FlowDecision F) : Prop where
  | holds (holds : decision.Holds)
  | served (control : x.1.flowClass.isControl) (served : ServedBy config link x decision)

/-- What a table says of a flow that is to be spared. -/
structure Cautious (config : RobotBudgetConfig F) (link : NetworkLink F) (x : Candidate F)
    (d : Decisions F) : Prop where
  keyed : Keyed d
  spares : ∃ decision, d.get? x.1.flowId = some decision ∧ Spares config link x decision

/-- An attempt for the flow serves it. -/
structure Rightful (config : RobotBudgetConfig F) (link : NetworkLink F) (x : Candidate F)
    (a : Attempt F) : Prop where
  names : a.decision.flowId = a.flowId
  serves : a.flowId = x.1.flowId → x.1.flowClass.isControl ∧ ServedBy config link x a.decision

variable {config : RobotBudgetConfig F} {c : RobotBudgetController F} {link : NetworkLink F}
  {candidates : List (Candidate F)} {base : List (FlowDecision F)} {s s' : FloorState F}
  {d d' : Decisions F} {k : Str} {a : Attempt F} {x y : Candidate F}
  {new decision : FlowDecision F}

/-! ## The table -/

namespace Cautious

theorem set_other (h : Cautious config link x d) (names : new.flowId = k)
    (other : k ≠ x.1.flowId) : Cautious config link x (d.set k new) where
  keyed := h.keyed.set names
  spares := by
    rw [Dict.get?_set_of_ne (Ne.symm other)]
    exact h.spares

theorem set_served (h : Cautious config link x d) (names : new.flowId = x.1.flowId)
    (control : x.1.flowClass.isControl) (served : ServedBy config link x new) :
    Cautious config link x (d.set x.1.flowId new) where
  keyed := h.keyed.set names
  spares := ⟨new, Dict.get?_set_self, .served control served⟩

/-- A flow of the table that is sent is not the one to be spared, unless that is one of control. -/
theorem flowId_ne (h : Cautious config link x d) (among : decision ∈ d.map Prod.snd)
    (sent : decision.isSent) (free : ¬x.1.flowClass.isControl) :
    decision.flowId ≠ x.1.flowId := by
  intro same
  obtain ⟨other, there, spares⟩ := h.spares
  have found := h.keyed.get?_flowId among
  rw [same, there] at found
  obtain rfl := Option.some.inj found
  cases spares with
  | holds holds =>
      rw [holds.unsent] at sent
      cases sent
  | served control => exact free control

end Cautious

theorem specById_get? (distinct : (candidates.map fun x => x.1.flowId).Nodup)
    (among : x ∈ candidates) : (specById candidates).get? x.1.flowId = some x.1 :=
  foldl_set_get? Prod.fst distinct among

/-! ## Reclaiming and serving -/

theorem reclaimable_flowId_ne (distinct : (candidates.map fun x => x.1.flowId).Nodup)
    (among : x ∈ candidates) (h : Cautious config link x d) :
    ∀ decision ∈ reclaimable d (specById candidates), decision.flowId ≠ x.1.flowId := by
  intro decision listed same
  obtain ⟨sent, free⟩ := not_controls_of_mem_reclaimable listed
  have inside := List.mem_of_mem_filter ((sortedBy_perm _ _).subset listed)
  refine h.flowId_ne inside sent (fun control => free ?_) same
  unfold controls
  rw [same, specById_get? distinct among]
  exact control

theorem Cautious.reclaim {decisions : List (FlowDecision F)} {neededBytes : Int}
    (others : ∀ decision ∈ decisions, decision.flowId ≠ x.1.flowId) {s : Decisions F × Int}
    (h : Cautious config link x s.1) :
    Cautious config link x (decisions.foldl (reclaimTurn neededBytes) s).1 := by
  let I (rest : List (FlowDecision F)) (s : Decisions F × Int) : Prop :=
    (∀ decision ∈ rest, decision.flowId ≠ x.1.flowId) ∧ Cautious config link x s.1
  refine (foldl_holds (I := I) ?_ ⟨others, h⟩).2
  intro decision rest s ⟨others, h⟩
  refine ⟨fun y later => others y (List.mem_cons_of_mem _ later), ?_⟩
  unfold reclaimTurn
  dsimp only
  split
  · exact h
  · exact h.set_other rfl (others decision List.mem_cons_self)

theorem Cautious.attempt (distinct : (candidates.map fun x => x.1.flowId).Nodup)
    (among : x ∈ candidates) (h : Cautious config link x s.decisions)
    (rightful : Rightful config link x a) :
    Cautious config link x (s.attempt (specById candidates) link a).1.decisions := by
  have reclaimed : Cautious config link x
      (reclaimFor s.decisions (specById candidates) link s.sent a.more).1 := by
    unfold reclaimFor
    dsimp only
    split
    · exact Cautious.reclaim (s := (s.decisions, 0)) (reclaimable_flowId_ne distinct among h) h
    · exact h
  unfold FloorState.attempt FloorState.serve
  dsimp only
  split
  case isFalse => exact reclaimed
  case isTrue =>
    by_cases same : a.flowId = x.1.flowId
    case pos =>
      obtain ⟨control, served⟩ := rightful.serves same
      dsimp only
      rw [same]
      exact reclaimed.set_served (rightful.names.trans same) control served
    case neg => exact reclaimed.set_other rightful.names same

/-! ## What is attempted -/

/-- What may be sent arrives in time. -/
theorem of_mem_feasibleOptions {spec : FlowSpec F} {obs : FlowObservation F}
    {options : List (TransformCandidate F)} {selected : TransformCandidate F}
    (built : feasibleOptions config spec obs link = .ok options) (among : selected ∈ options)
    (priority slackMs : F) (reason : Str) :
    ServedBy config link (spec, obs) (decisionFor spec selected priority slackMs reason) := by
  unfold feasibleOptions at built
  obtain ⟨all, transformed, built⟩ := bind_eq_ok_iff.mp built
  obtain rfl := pure_eq_ok.mp built
  obtain ⟨inside, chosen⟩ := List.mem_filter.mp among
  exact ⟨all, transformed, selected, inside, (Bool.and_eq_true_iff.mp chosen).1, rfl, rfl, rfl⟩

theorem served_of_controlFloorDecision {spec : FlowSpec F} {obs : FlowObservation F} {pressure : F}
    (chosen : controlFloorDecision config spec obs link pressure = .ok (some decision)) :
    ServedBy config link (spec, obs) decision := by
  unfold controlFloorDecision at chosen
  obtain ⟨options, built, chosen⟩ := bind_eq_ok_iff.mp chosen
  obtain ⟨selected, least, rfl⟩ := Option.map_eq_some_iff.mp (pure_eq_ok.mp chosen)
  exact of_mem_feasibleOptions built (mem_of_minBy least) _ _ _

theorem served_of_controlDeadlineHorizonDecision {spec : FlowSpec F} {obs : FlowObservation F}
    {deadlineDeficit actionDeadlineDeficit : F} {lifted : FlowDecision F}
    (chosen : controlDeadlineHorizonDecision config spec obs link deadlineDeficit decision
      actionDeadlineDeficit = .ok (some lifted)) :
    ServedBy config link (spec, obs) lifted := by
  unfold controlDeadlineHorizonDecision at chosen
  obtain ⟨options, built, chosen⟩ := bind_eq_ok_iff.mp chosen
  obtain ⟨selected, least, rfl⟩ := Option.map_eq_some_iff.mp (pure_eq_ok.mp chosen)
  exact of_mem_feasibleOptions built (List.mem_of_mem_filter (mem_of_minBy least))
    decision.priority decision.priority []

theorem eq_of_flowId (distinct : (candidates.map fun x => x.1.flowId).Nodup)
    (first : x ∈ candidates) (second : y ∈ candidates) (same : x.1.flowId = y.1.flowId) : x = y :=
  List.inj_on_of_nodup_map distinct first second same

theorem rightful_of_controlFloorAttempt (distinct : (candidates.map fun x => x.1.flowId).Nodup)
    (among : x ∈ candidates) (listed : y ∈ candidates)
    (attempts : controlFloorAttempt config c link s y = .ok (some a)) :
    Rightful config link x a := by
  refine ⟨names_of_controlFloorAttempt attempts, ?_⟩
  unfold controlFloorAttempt at attempts
  dsimp only at attempts
  split at attempts
  · cases attempts
  rename_i control
  split at attempts
  · cases attempts
  split at attempts
  · cases attempts
  obtain ⟨chosen, found, returned⟩ := bind_eq_ok_iff.mp attempts
  obtain ⟨floorDecision, rfl, rfl⟩ := Option.map_eq_some_iff.mp (pure_eq_ok.mp returned)
  intro same
  obtain rfl := eq_of_flowId distinct listed among same
  exact ⟨by simpa using control, served_of_controlFloorDecision found⟩

theorem rightful_of_horizonLiftAttempt (distinct : (candidates.map fun x => x.1.flowId).Nodup)
    (among : x ∈ candidates) (listed : y ∈ candidates)
    (attempts : horizonLiftAttempt config c link s y = .ok (some a)) :
    Rightful config link x a := by
  refine ⟨names_of_horizonLiftAttempt attempts, ?_⟩
  unfold horizonLiftAttempt at attempts
  dsimp only at attempts
  split at attempts
  case h_2 => cases attempts
  case h_1 =>
    split at attempts
    · cases attempts
    rename_i control
    split at attempts
    · cases attempts
    split at attempts
    · cases attempts
    split at attempts
    · cases attempts
    obtain ⟨chosen, found, returned⟩ := bind_eq_ok_iff.mp attempts
    obtain ⟨lifted, rfl, rfl⟩ := Option.map_eq_some_iff.mp (pure_eq_ok.mp returned)
    intro same
    obtain rfl := eq_of_flowId distinct listed among same
    exact ⟨by simpa using control, served_of_controlDeadlineHorizonDecision found⟩

theorem rightful_of_nAwareAttempt (distinct : (candidates.map fun x => x.1.flowId).Nodup)
    (among : x ∈ candidates) {robot : Str × List (Candidate F)}
    (known : ∀ y ∈ robot.2, y ∈ candidates ∧ y.1.flowClass.isControl)
    (attempts : nAwareAttempt config c link robot = .ok (some a)) : Rightful config link x a := by
  refine ⟨names_of_nAwareAttempt attempts, ?_⟩
  obtain ⟨chosen, found, returned⟩ := bind_eq_ok_iff.mp attempts
  obtain ⟨floorDecision, rfl, rfl⟩ := Option.map_eq_some_iff.mp (pure_eq_ok.mp returned)
  unfold nAwareControlFloorDecision at found
  obtain ⟨decisions, each, found⟩ := bind_eq_ok_iff.mp found
  obtain ⟨selected, least, rfl⟩ := Option.map_eq_some_iff.mp (pure_eq_ok.mp found)
  obtain ⟨option, inside, same⟩ := List.mem_filterMap.mp (mem_of_minBy least)
  obtain ⟨y, control, decided⟩ := mem_of_mapM_ok each inside
  obtain ⟨listed, isControl⟩ := known y control
  obtain rfl : option = some selected := same
  have floor : controlFloorDecision config y.1 y.2 link
      (pyMax config.nAwareControlFloorPressure (c.servicePressureFor config robot.1)) =
        .ok (some selected) := decided
  intro names
  have sameFlow : y.1.flowId = x.1.flowId :=
    (flowId_of_controlFloorDecision floor).symm.trans names
  obtain rfl := eq_of_flowId distinct listed among sameFlow
  obtain ⟨options, built, chosen⟩ := served_of_controlFloorDecision floor
  exact ⟨isControl, options, built, chosen⟩

/-! ## The passes of the service floor -/

theorem Cautious.attempted (distinct : (candidates.map fun x => x.1.flowId).Nodup)
    (among : x ∈ candidates) {tried : Option (Attempt F)}
    (h : Cautious config link x s.decisions)
    (rightful : ∀ a, tried = some a → Rightful config link x a) :
    Cautious config link x (s.attempted (specById candidates) link tried).decisions := by
  cases tried with
  | none => exact h
  | some a => exact h.attempt distinct among (rightful a rfl)

theorem Cautious.nAwareControlServiceFloor
    (distinct : (candidates.map fun x => x.1.flowId).Nodup) (among : x ∈ candidates)
    (h : Cautious config link x s.decisions)
    (returned : applyNAwareControlServiceFloor config c candidates (specById candidates) link s =
      .ok s') : Cautious config link x s'.decisions := by
  rw [applyNAwareControlServiceFloor_eq] at returned
  have start : Cautious config link x (nAwareStart config c candidates s).decisions := by
    unfold nAwareStart
    dsimp only
    split
    · exact h
    split
    · exact h
    · exact h
  refine foldlM_ok_of_mem (P := fun s : FloorState F => Cautious config link x s.decisions) ?_ start
    returned
  intro robot listed s s' h taken
  have known : robot ∈ controlByRobot candidates := by
    unfold nAwareRobots at listed
    dsimp only at listed
    split at listed
    · cases listed
    split at listed
    · cases listed
    · exact List.mem_of_mem_filter ((sortedBy_perm _ _).subset listed)
  rw [nAwareControlFloorTurn_attempt] at taken
  obtain ⟨tried, attempts, taken⟩ := bind_eq_ok_iff.mp taken
  cases tried with
  | none =>
      obtain rfl := pure_eq_ok.mp taken
      exact h
  | some a =>
      have attempted := h.attempt distinct among
        (rightful_of_nAwareAttempt distinct among (mem_of_mem_controlByRobot known) attempts)
      dsimp only at taken
      split at taken
      · obtain rfl := pure_eq_ok.mp taken
        exact attempted
      · obtain rfl := pure_eq_ok.mp taken
        exact attempted

theorem Cautious.controlFloor (distinct : (candidates.map fun x => x.1.flowId).Nodup)
    (among : x ∈ candidates) (h : Cautious config link x s.decisions)
    (returned : candidates.foldlM (controlFloorTurn config c (specById candidates) link) s = .ok s') :
    Cautious config link x s'.decisions := by
  refine foldlM_ok_of_mem (P := fun s : FloorState F => Cautious config link x s.decisions) ?_ h
    returned
  intro y listed s s' h taken
  rw [controlFloorTurn_attempt] at taken
  obtain ⟨tried, attempts, rfl⟩ := map_eq_ok_iff.mp taken
  exact h.attempted distinct among fun a same =>
    rightful_of_controlFloorAttempt distinct among listed (same ▸ attempts)

theorem Cautious.horizonLift (distinct : (candidates.map fun x => x.1.flowId).Nodup)
    (among : x ∈ candidates) (h : Cautious config link x s.decisions)
    (returned : applyControlDeadlineHorizonLift config c candidates (specById candidates) link s =
      .ok s') : Cautious config link x s'.decisions := by
  unfold applyControlDeadlineHorizonLift at returned
  split at returned
  · exact Except.ok.inj returned ▸ h
  refine foldlM_ok_of_mem (P := fun s : FloorState F => Cautious config link x s.decisions) ?_ h
    returned
  intro y listed s s' h taken
  rw [horizonLiftTurn_attempt] at taken
  obtain ⟨tried, attempts, rfl⟩ := map_eq_ok_iff.mp taken
  exact h.attempted distinct among fun a same =>
    rightful_of_horizonLiftAttempt distinct among listed (same ▸ attempts)

/-! ## Shaping and the firewall -/

theorem flowId_of_pressureShapedDecision {spec : FlowSpec F} {obs : FlowObservation F} {pressure : F}
    (names : spec.flowId = decision.flowId)
    (chosen : pressureShapedDecision config spec obs link decision pressure = .ok (some new)) :
    new.flowId = decision.flowId := by
  unfold pressureShapedDecision at chosen
  obtain ⟨options, -, chosen⟩ := bind_eq_ok_iff.mp chosen
  dsimp only at chosen
  split at chosen
  · obtain rfl := Option.some.inj (pure_eq_ok.mp chosen)
    exact names
  split at chosen
  · obtain rfl := Option.some.inj (pure_eq_ok.mp chosen)
    rfl
  · cases pure_eq_ok.mp chosen

theorem of_mem_shapeable_cautious (distinct : (candidates.map fun x => x.1.flowId).Nodup)
    (among : x ∈ candidates) (h : Cautious config link x d)
    {observations : Dict Str (FlowObservation F)} {robotId : Str}
    {item : FlowDecision F × FlowSpec F × FlowObservation F}
    (listed : item ∈ shapeable (specById candidates) observations d robotId) :
    item.1.flowId ≠ x.1.flowId ∧ item.2.1.flowId = item.1.flowId := by
  obtain ⟨decision, inside, found⟩ := List.mem_filterMap.mp ((sortedBy_perm _ _).subset listed)
  split at found
  case h_2 => cases found
  case h_1 spec obs there _ =>
    split at found
    case isFalse => cases found
    case isTrue holds =>
      obtain rfl := Option.some.inj found
      obtain ⟨y, _, rfl, names⟩ := mem_of_specById distinct there
      refine ⟨?_, names⟩
      intro same
      have shed := holds.2.2
      dsimp only at same
      rw [same, specById_get? distinct among] at there
      have sameSpec : x.1 = y.1 := Option.some.inj there
      rw [← sameSpec] at shed
      exact h.flowId_ne inside holds.1 (FlowClass.not_isControl_of_isShed shed) same

theorem Cautious.shape (distinct : (candidates.map fun x => x.1.flowId).Nodup)
    (among : x ∈ candidates) (h : Cautious config link x d)
    {observations : Dict Str (FlowObservation F)} {robot : Str × F}
    (returned : shapeNoncriticalForRobotPressure config c (specById candidates) observations link d
      robot = .ok d') : Cautious config link x d' := by
  unfold shapeNoncriticalForRobotPressure at returned
  dsimp only at returned
  split at returned
  · exact Except.ok.inj returned ▸ h
  obtain ⟨shaped, looped, rfl⟩ := map_eq_ok_iff.mp returned
  refine foldlM_ok_of_mem (P := fun s : Decisions F × Int => Cautious config link x s.1) ?_ h looped
  intro item listed s s' h taken
  obtain ⟨other, names⟩ := of_mem_shapeable_cautious distinct among ‹Cautious config link x d› listed
  unfold shapeTurn at taken
  dsimp only at taken
  split at taken
  · obtain rfl := pure_eq_ok.mp taken
    exact h
  obtain ⟨chosen, found, taken⟩ := bind_eq_ok_iff.mp taken
  cases chosen with
  | none =>
      obtain rfl := pure_eq_ok.mp taken
      exact h
  | some replacement =>
      obtain rfl := pure_eq_ok.mp taken
      exact h.set_other (flowId_of_pressureShapedDecision names found) other

theorem flowId_of_deadlineFirewallReplacement {spec : FlowSpec F} {obs : FlowObservation F}
    {chosen : Option (FlowDecision F)}
    (found : deadlineFirewallReplacement config spec obs link decision = .ok chosen) :
    ∀ new ∈ chosen, new.flowId = spec.flowId := by
  unfold deadlineFirewallReplacement at found
  obtain ⟨options, -, found⟩ := bind_eq_ok_iff.mp found
  obtain rfl := pure_eq_ok.mp found
  intro new among
  obtain ⟨selected, -, rfl⟩ := Option.mem_map.mp among
  rfl

theorem Cautious.firewall (distinct : (candidates.map fun x => x.1.flowId).Nodup)
    (among : x ∈ candidates) (h : Cautious config link x d) (listed : y ∈ candidates)
    (taken : firewallTurn config link d y = .ok d') : Cautious config link x d' := by
  unfold firewallTurn at taken
  dsimp only at taken
  split at taken
  · obtain rfl := pure_eq_ok.mp taken
    exact h
  rename_i decision there
  split at taken
  · obtain rfl := pure_eq_ok.mp taken
    exact h
  rename_i applies
  split at taken
  · obtain rfl := pure_eq_ok.mp taken
    exact h
  obtain ⟨chosen, found, taken⟩ := bind_eq_ok_iff.mp taken
  obtain rfl := pure_eq_ok.mp taken
  simp only [Bool.not_eq_true', Bool.not_eq_false, Bool.and_eq_true] at applies
  have named : decision.flowId = y.1.flowId := h.keyed.named _ (Dict.mem_of_get? there)
  have inside : decision ∈ d.map Prod.snd :=
    List.mem_map_of_mem (f := Prod.snd) (Dict.mem_of_get? there)
  apply h.set_other
  · cases chosen with
    | none => exact named
    | some new => exact flowId_of_deadlineFirewallReplacement found new rfl
  · intro same
    obtain rfl := eq_of_flowId distinct listed among same
    exact h.flowId_ne inside applies.1 (FlowClass.not_isControl_of_isShed applies.2) named

/-! ## Lists of decisions -/

/-- What a list says of a flow that is to be spared. -/
structure SparedIn (config : RobotBudgetConfig F) (link : NetworkLink F) (x : Candidate F)
    (decisions : List (FlowDecision F)) : Prop where
  distinct : (decisions.map FlowDecision.flowId).Nodup
  listed : ∃ decision ∈ decisions, decision.flowId = x.1.flowId
  spares : ∀ decision ∈ decisions, decision.flowId = x.1.flowId → Spares config link x decision

variable {decisions : List (FlowDecision F)}

theorem SparedIn.perm {decisions' : List (FlowDecision F)} (h : SparedIn config link x decisions)
    (same : decisions'.Perm decisions) : SparedIn config link x decisions' where
  distinct := (same.map _).nodup_iff.mpr h.distinct
  listed := by
    obtain ⟨decision, among, names⟩ := h.listed
    exact ⟨decision, same.symm.subset among, names⟩
  spares := fun decision among => h.spares decision (same.subset among)

theorem Cautious.sparedIn (h : Cautious config link x d) :
    SparedIn config link x (sortedByFlow (d.map Prod.snd)) := by
  apply SparedIn.perm _ (sortedBy_perm _ _)
  obtain ⟨decision, there, spares⟩ := h.spares
  have inside := Dict.mem_of_get? there
  constructor
  · have names : (d.map Prod.snd).map FlowDecision.flowId = d.map Prod.fst := by
      rw [List.map_map]
      exact List.map_congr_left h.keyed.named
    rw [names]
    exact h.keyed.distinct
  · exact ⟨decision, List.mem_map_of_mem (f := Prod.snd) inside, h.keyed.named _ inside⟩
  · intro other among names
    have found := h.keyed.get?_flowId among
    rw [names, there] at found
    exact Option.some.inj found ▸ spares

theorem SparedIn.cautious (h : SparedIn config link x decisions) :
    Cautious config link x (byId decisions) where
  keyed := Keyed.byId decisions
  spares := by
    obtain ⟨decision, among, names⟩ := h.listed
    refine ⟨decision, ?_, h.spares decision among names⟩
    rw [← names]
    exact foldl_set_get? (fun decision => decision) h.distinct among

theorem SparedIn.annotated (h : SparedIn config link x decisions)
    (specs : Dict Str (FlowSpec F)) :
    SparedIn config link x (decisions.map (annotateDecision config c specs)) := by
  have each (decision : FlowDecision F) :
      (annotateDecision config c specs decision).flowId = decision.flowId := by
    obtain ⟨reason, same⟩ := annotateDecision_eq config c specs decision
    rw [same]
  constructor
  · rw [List.map_map, show FlowDecision.flowId ∘ annotateDecision config c specs =
      FlowDecision.flowId from funext each]
    exact h.distinct
  · obtain ⟨decision, among, names⟩ := h.listed
    exact ⟨_, List.mem_map_of_mem among, (each decision).trans names⟩
  · intro annotated among names
    obtain ⟨decision, inside, rfl⟩ := List.mem_map.mp among
    obtain ⟨reason, same⟩ := annotateDecision_eq config c specs decision
    rw [same] at names ⊢
    cases h.spares decision inside names with
    | holds holds => exact .holds ⟨holds.unsent, holds.nothing⟩
    | served control served =>
        obtain ⟨options, built, option, listed, feasible, sends⟩ := served
        exact .served control ⟨options, built, option, listed, feasible, sends⟩

/-! ## The round -/

theorem SparedIn.controlServiceFloor (distinct : (candidates.map fun x => x.1.flowId).Nodup)
    (among : x ∈ candidates) (h : SparedIn config link x base) {lastServed : Dict Str Int}
    (returned : applyControlServiceFloor config c candidates base link =
      .ok (decisions, lastServed)) : SparedIn config link x decisions := by
  unfold applyControlServiceFloor at returned
  dsimp only at returned
  obtain ⟨s₁, first, returned⟩ := bind_eq_ok_iff.mp returned
  obtain ⟨s₂, second, returned⟩ := bind_eq_ok_iff.mp returned
  obtain ⟨s₃, third, returned⟩ := bind_eq_ok_iff.mp returned
  obtain ⟨d, shaped, returned⟩ := bind_eq_ok_iff.mp returned
  obtain ⟨rfl, rfl⟩ := Prod.mk.inj (pure_eq_ok.mp returned)
  have floored := (h.cautious.nAwareControlServiceFloor distinct among first).controlFloor
    distinct among second
  exact (foldlM_ok (P := Cautious config link x)
    (fun _ _ _ h taken => h.shape distinct among taken)
    (floored.horizonLift distinct among third) shaped).sparedIn

theorem SparedIn.deadlineFirewall (distinct : (candidates.map fun x => x.1.flowId).Nodup)
    (among : x ∈ candidates) (h : SparedIn config link x base)
    (returned : applyDeadlineFeasibilityFirewall config candidates base link = .ok decisions) :
    SparedIn config link x decisions := by
  unfold applyDeadlineFeasibilityFirewall at returned
  split at returned
  · exact Except.ok.inj returned ▸ h
  obtain ⟨d, walled, returned⟩ := bind_eq_ok_iff.mp returned
  obtain rfl := pure_eq_ok.mp returned
  exact (foldlM_ok_of_mem (P := Cautious config link x)
    (fun y listed _ _ h taken => h.firewall distinct among listed taken)
    h.cautious walled).sparedIn

theorem SparedIn.of_settles (settles : Settles candidates base)
    (distinct : (candidates.map fun x => x.1.flowId).Nodup) (among : x ∈ candidates)
    (old : x.2.ageMs > x.1.qos.lifespanMs) : SparedIn config link x base where
  distinct := settles.ids.nodup_iff.mpr distinct
  listed := by
    have listed : x.1.flowId ∈ base.map FlowDecision.flowId :=
      settles.ids.symm.subset (List.mem_map_of_mem (f := fun x : Candidate F => x.1.flowId) among)
    exact List.mem_map.mp listed
  spares := fun decision inside names => .holds (settles.stale x among old decision inside names)

/-- The policy sees the flows that there are, as old as they are. -/
theorem Settles.of_augmented (settles : Settles (candidates.map (budgetAugmentedCandidate config c))
    base) : Settles candidates base := by
  have each (x : Candidate F) :
      (budgetAugmentedCandidate config c x).1.flowId = x.1.flowId ∧
      (budgetAugmentedCandidate config c x).1.qos = x.1.qos ∧
      (budgetAugmentedCandidate config c x).2.ageMs = x.2.ageMs := by
    unfold budgetAugmentedCandidate
    dsimp only
    split
    · exact ⟨rfl, rfl, rfl⟩
    · exact ⟨rfl, rfl, rfl⟩
  constructor
  · have ids := settles.ids
    rw [List.map_map, show (fun x : Candidate F => x.1.flowId) ∘ budgetAugmentedCandidate config c =
      fun x => x.1.flowId from funext fun x => (each x).1] at ids
    exact ids
  · intro x among old decision inside names
    apply settles.stale _ (List.mem_map_of_mem among) _ decision inside
    · rw [names, (each x).1]
    · rw [(each x).2.1, (each x).2.2]
      exact old

/-! ## No pass raises -/

theorem foldlM_returns {α σ : Type} {f : σ → α → Except Str σ} {items : List α}
    (step : ∀ x ∈ items, ∀ s, ∃ s', f s x = .ok s') (s : σ) : ∃ s', items.foldlM f s = .ok s' := by
  obtain ⟨s', returned, -⟩ := foldlM_keeps (P := fun _ => True)
    (fun x among s _ => (step x among s).imp fun _ taken => ⟨taken, trivial⟩) (s := s) trivial
  exact ⟨s', returned⟩

variable (config c) in
theorem nAwareControlFloor_returns (valid : Valid candidates link) (s : FloorState F) :
    ∃ s', applyNAwareControlServiceFloor config c candidates (specById candidates) link s =
      .ok s' := by
  rw [applyNAwareControlServiceFloor_eq]
  apply foldlM_returns
  intro robot listed s
  have known : robot ∈ controlByRobot candidates := by
    unfold nAwareRobots at listed
    dsimp only at listed
    split at listed
    · cases listed
    split at listed
    · cases listed
    · exact List.mem_of_mem_filter ((sortedBy_perm _ _).subset listed)
  obtain ⟨chosen, built, -⟩ := nAwareControlFloorDecision_ok config valid c.scheduleTick
    (mem_of_mem_controlByRobot known)
    (pyMax config.nAwareControlFloorPressure (c.servicePressureFor config robot.1))
  unfold nAwareControlFloorTurn
  dsimp only
  rw [built, ok_bind]
  cases chosen with
  | none => exact ⟨s, rfl⟩
  | some floorDecision =>
      dsimp only
      split
      · exact ⟨_, rfl⟩
      · exact ⟨_, rfl⟩

variable (config c) in
theorem controlFloor_returns (valid : Valid candidates link) (s : FloorState F) :
    ∃ s', candidates.foldlM (controlFloorTurn config c (specById candidates) link) s = .ok s' := by
  apply foldlM_returns
  intro x among s
  obtain ⟨chosen, built, -⟩ := controlFloorDecision_ok config x.2 (valid.flows x among) valid.link
    (c.servicePressureFor config x.1.robotId)
  unfold controlFloorTurn
  dsimp only
  split
  · exact ⟨s, rfl⟩
  split
  · exact ⟨s, rfl⟩
  split
  · exact ⟨s, rfl⟩
  rw [built, ok_bind]
  cases chosen with
  | none => exact ⟨s, rfl⟩
  | some floorDecision => exact ⟨_, rfl⟩

variable (config c) in
theorem horizonLift_returns (valid : Valid candidates link) (s : FloorState F) :
    ∃ s', applyControlDeadlineHorizonLift config c candidates (specById candidates) link s =
      .ok s' := by
  unfold applyControlDeadlineHorizonLift
  split
  · exact ⟨s, rfl⟩
  apply foldlM_returns
  intro x among s
  unfold horizonLiftTurn
  dsimp only
  cases c.states.get? x.1.robotId with
  | none => exact ⟨s, rfl⟩
  | some state =>
      cases s.decisions.get? x.1.flowId with
      | none => exact ⟨s, rfl⟩
      | some decision =>
          dsimp only
          split
          · exact ⟨s, rfl⟩
          split
          · exact ⟨s, rfl⟩
          split
          · exact ⟨s, rfl⟩
          split
          · exact ⟨s, rfl⟩
          obtain ⟨chosen, built, -⟩ := controlDeadlineHorizonDecision_ok config x.2
            (valid.flows x among) valid.link
            (pyMax state.deadlineDeficit state.controlIntentDeficit) decision
            state.controlIntentDeficit
          rw [built, ok_bind]
          cases chosen with
          | none => exact ⟨s, rfl⟩
          | some lifted => exact ⟨_, rfl⟩

variable (config c) in
theorem shape_returns (valid : Valid candidates link)
    (observations : Dict Str (FlowObservation F)) (d : Decisions F) (robot : Str × F) :
    ∃ d', shapeNoncriticalForRobotPressure config c (specById candidates) observations link d robot =
      .ok d' := by
  unfold shapeNoncriticalForRobotPressure
  dsimp only
  split
  · exact ⟨d, rfl⟩
  have looped : ∃ s', (shapeable (specById candidates) observations d robot.1).foldlM
      (shapeTurn config link robot.2 (toInt (ofInt ((shapeable (specById candidates) observations d
        robot.1).map fun x => x.1.allocatedBytes).sum *
          shedFraction config (c.states.get? robot.1) robot.2))) (d, 0) = .ok s' := by
    apply foldlM_returns
    intro item listed s
    obtain ⟨decision, -, found⟩ := List.mem_filterMap.mp ((sortedBy_perm _ _).subset listed)
    split at found
    case h_2 => cases found
    case h_1 spec obs there _ =>
      split at found
      case isFalse => cases found
      case isTrue =>
        obtain rfl := Option.some.inj found
        obtain ⟨y, among, rfl, -⟩ := mem_of_specById valid.distinct there
        obtain ⟨options, built, -⟩ := feasibleOptions_ok config obs (valid.flows y among) valid.link
        unfold shapeTurn pressureShapedDecision
        dsimp only
        split
        · exact ⟨s, rfl⟩
        rw [built, ok_bind]
        split
        · exact ⟨_, rfl⟩
        split
        · exact ⟨_, rfl⟩
        · exact ⟨s, rfl⟩
  obtain ⟨s', looped⟩ := looped
  rw [looped]
  exact ⟨_, rfl⟩

variable (config) in
theorem deadlineFirewall_returns (valid : Valid candidates link) (base : List (FlowDecision F)) :
    ∃ decisions, applyDeadlineFeasibilityFirewall config candidates base link = .ok decisions := by
  unfold applyDeadlineFeasibilityFirewall
  split
  · exact ⟨base, rfl⟩
  have walled : ∃ d, candidates.foldlM (firewallTurn config link) (byId base) = .ok d := by
    apply foldlM_returns
    intro x among d
    obtain ⟨options, built⟩ := transformCandidates_of_valid x.2 config.floorOptions
      (valid.flows x among) valid.link
    unfold firewallTurn deadlineFirewallReplacement
    dsimp only
    split
    · exact ⟨d, rfl⟩
    split
    · exact ⟨d, rfl⟩
    split
    · exact ⟨d, rfl⟩
    rw [built, ok_bind]
    exact ⟨_, rfl⟩
  obtain ⟨d, walled⟩ := walled
  rw [walled]
  exact ⟨_, rfl⟩

variable (config c) in
/-- A call returns whenever its policy does. -/
theorem RobotBudgetController.schedule_returns {basePolicy : CallablePolicy F}
    (valid : Valid candidates link)
    (asked : basePolicy (candidates.map (budgetAugmentedCandidate config c)) link = .ok base) :
    ∃ decisions c', schedule config basePolicy c candidates link = .ok (decisions, c') := by
  unfold schedule
  rw [valid.link, ok_bind]
  split
  · exact ⟨_, _, rfl⟩
  dsimp only
  let ticked : RobotBudgetController F := { c with scheduleTick := c.scheduleTick + 1 }
  obtain ⟨s₁, first⟩ := nAwareControlFloor_returns config ticked valid (floorStart ticked base)
  obtain ⟨s₂, second⟩ := controlFloor_returns config ticked valid s₁
  obtain ⟨s₃, third⟩ := horizonLift_returns config ticked valid s₂
  have shapes : ∃ d, (sortedBy (F := F) (fun robot : Str × F => [.text robot.1])
      (pressureByRobot config ticked candidates)).foldlM (shapeNoncriticalForRobotPressure config
        ticked (specById candidates) (obsById candidates) link) s₃.decisions = .ok d :=
    foldlM_returns (fun robot _ d => shape_returns config ticked valid _ d robot) _
  obtain ⟨d, shaped⟩ := shapes
  obtain ⟨walled, walls⟩ := deadlineFirewall_returns config valid (sortedByFlow (d.map Prod.snd))
  have floors : applyControlServiceFloor config ticked candidates base link =
      .ok (sortedByFlow (d.map Prod.snd), s₃.lastServed) := by
    unfold applyControlServiceFloor
    dsimp only
    unfold floorStart at first
    rw [first, ok_bind, second, ok_bind, third, ok_bind, shaped]
    rfl
  have asks : basePolicy (candidates.map (budgetAugmentedCandidate config ticked)) link =
      .ok base := asked
  rw [asks, ok_bind, floors, ok_bind, walls]
  exact ⟨_, _, rfl⟩

/-- Over a policy that decides about each flow once and sends nothing stale, a stale flow is sent
    only if it is one of control, in a representation that arrives in time. -/
theorem RobotBudgetController.schedule_spares {basePolicy : CallablePolicy F}
    {c' : RobotBudgetController F} (distinct : (candidates.map fun x => x.1.flowId).Nodup)
    (asked : basePolicy (candidates.map (budgetAugmentedCandidate config c)) link = .ok base)
    (settles : Settles (candidates.map (budgetAugmentedCandidate config c)) base)
    (returned : schedule config basePolicy c candidates link = .ok (decisions, c'))
    (among : x ∈ candidates) (old : x.2.ageMs > x.1.qos.lifespanMs) :
    SparedIn config link x decisions := by
  unfold schedule at returned
  obtain ⟨_, -, returned⟩ := bind_eq_ok_iff.mp returned
  split at returned
  case isTrue nothing =>
    rw [List.isEmpty_iff.mp nothing] at among
    cases among
  case isFalse =>
    dsimp only at returned
    obtain ⟨decided, asked', returned⟩ := bind_eq_ok_iff.mp returned
    obtain rfl : base = decided := Except.ok.inj (asked.symm.trans asked')
    obtain ⟨⟨floored, lastServed⟩, floors, returned⟩ := bind_eq_ok_iff.mp returned
    obtain ⟨walled, walls, returned⟩ := bind_eq_ok_iff.mp returned
    obtain ⟨rfl, -⟩ := Prod.mk.inj (pure_eq_ok.mp returned)
    have start : SparedIn config link x base :=
      .of_settles settles.of_augmented distinct among old
    have spared := (start.controlServiceFloor distinct among floors).deadlineFirewall distinct among
      walls
    exact (spared.annotated _).perm (sortedBy_perm _ _)

end

end FleetRMW.Admission
