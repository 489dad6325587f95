import FleetRMW.Admission.RobotBudgetKeeps

/-! # What the service floor takes for flows that it does not serve

The passes of the service floor take capacity from flows that are not of control before they know
whether that is enough for the flow they want to serve. Where it is not, the flow stays as it is, and
the others have given up their traffic for nothing.
-/

namespace FleetRMW.Admission

open Lib FloatOps

/-- A decision for a control flow, and the bytes that it sends on top of what is sent. -/
structure Attempt (F : Type) where
  flowId : Str
  decision : FlowDecision F
  more : Int

section
variable {F : Type} [FloatOps F]

/-- Serve what is attempted. -/
def FloorState.attempt (s : FloorState F) (specs : Dict Str (FlowSpec F)) (link : NetworkLink F)
    (a : Attempt F) : FloorState F × Bool :=
  s.serve specs link a.flowId a.decision a.more

/-- The attempt of a turn of `_apply_n_aware_control_service_floor`. -/
def nAwareAttempt (config : RobotBudgetConfig F) (c : RobotBudgetController F)
    (link : NetworkLink F) (robot : Str × List (Candidate F)) :
    Except Str (Option (Attempt F)) := do
  let pressure := pyMax config.nAwareControlFloorPressure (c.servicePressureFor config robot.1)
  let chosen ← nAwareControlFloorDecision config c.scheduleTick robot.2 link pressure
  return chosen.map fun floorDecision =>
    ⟨floorDecision.flowId, floorDecision, floorDecision.allocatedBytes⟩

/-- The attempt of a turn of `_apply_control_service_floor`. -/
def controlFloorAttempt (config : RobotBudgetConfig F) (c : RobotBudgetController F)
    (link : NetworkLink F) (s : FloorState F) (candidate : Candidate F) :
    Except Str (Option (Attempt F)) := do
  let (spec, obs) := candidate
  let servicePressure := c.servicePressureFor config spec.robotId
  if !spec.flowClass.isControl then return none
  else if servicePressure < config.minControlFloorPressure then return none
  else if sentIn s.decisions spec.flowId then return none
  else
    let chosen ← controlFloorDecision config spec obs link servicePressure
    return chosen.map fun floorDecision =>
      ⟨spec.flowId, floorDecision, floorDecision.allocatedBytes⟩

/-- The attempt of a turn of `_apply_control_deadline_horizon_lift`. -/
def horizonLiftAttempt (config : RobotBudgetConfig F) (c : RobotBudgetController F)
    (link : NetworkLink F) (s : FloorState F) (candidate : Candidate F) :
    Except Str (Option (Attempt F)) := do
  let (spec, obs) := candidate
  match c.states.get? spec.robotId, s.decisions.get? spec.flowId with
  | some state, some decision =>
      let actionDeadlineDeficit := state.controlIntentDeficit
      if !spec.flowClass.isControl then return none
      else if actionDeadlineDeficit < config.actionDeadlineHorizonLiftMinDeficit then return none
      else if link.rttMs < config.actionDeadlineHorizonLiftMinRttMs then return none
      else if !decision.isSent ∨ decision.action ≠ lit "send_intent" then return none
      else
        let chosen ← controlDeadlineHorizonDecision config spec obs link
          (pyMax state.deadlineDeficit actionDeadlineDeficit) decision actionDeadlineDeficit
        return chosen.map fun lifted =>
          ⟨spec.flowId, lifted, lifted.allocatedBytes - decision.allocatedBytes⟩
  | _, _ => return none

/-- What `_apply_n_aware_control_service_floor` starts with. -/
def nAwareStart (config : RobotBudgetConfig F) (c : RobotBudgetController F)
    (candidates : List (Candidate F)) (s : FloorState F) : FloorState F :=
  let robots := controlByRobot candidates
  let servedNow := robots.filter fun robot => robot.2.any fun x => sentIn s.decisions x.1.flowId
  if !config.nAwareControlFloorEnabled then s
  else if (robots.length : Int) < max 1 config.nAwareControlFloorMinRobots then s
  else { s with
    lastServed := servedNow.foldl (fun d robot => d.set robot.1 c.scheduleTick) s.lastServed }

/-- The robots that `_apply_n_aware_control_service_floor` serves, in its order. -/
def nAwareRobots (config : RobotBudgetConfig F) (c : RobotBudgetController F)
    (candidates : List (Candidate F)) (s : FloorState F) : List (Str × List (Candidate F)) :=
  let robots := controlByRobot candidates
  let missing := robots.filter fun robot => !robot.2.any fun x => sentIn s.decisions x.1.flowId
  let rank (robot : Str × List (Candidate F)) : List (KeyPart F) :=
    [.int (((nAwareStart config c candidates s).lastServed.get? robot.1).getD (-1000000)),
      .float (-c.servicePressureFor config robot.1), .text robot.1]
  if !config.nAwareControlFloorEnabled then []
  else if (robots.length : Int) < max 1 config.nAwareControlFloorMinRobots then []
  else sortedBy rank missing

/-- The decisions of the base policy, before the passes. -/
def floorStart (c : RobotBudgetController F) (base : List (FlowDecision F)) : FloorState F :=
  { decisions := byId base
    sent := sentTotal ((byId base).map Prod.snd)
    lastServed := c.controlFloorLastServedTick }

variable {config : RobotBudgetConfig F} {c : RobotBudgetController F} {specs : Dict Str (FlowSpec F)}
  {link : NetworkLink F} {candidates : List (Candidate F)} {base : List (FlowDecision F)}
  {s s' : FloorState F} {d : Decisions F} {k : Str} {a : Attempt F} {x : Candidate F}
  {new decision : FlowDecision F}

/-! ## The passes are loops of attempts -/

theorem nAwareControlFloorTurn_attempt (robot : Str × List (Candidate F)) :
    nAwareControlFloorTurn config c specs link s robot = (do
      match ← nAwareAttempt config c link robot with
      | none => return s
      | some a =>
          let (s, served) := s.attempt specs link a
          if served then return { s with lastServed := s.lastServed.set robot.1 c.scheduleTick }
          else return s) := by
  unfold nAwareControlFloorTurn nAwareAttempt
  dsimp only
  cases nAwareControlFloorDecision config c.scheduleTick robot.2 link
    (pyMax config.nAwareControlFloorPressure (c.servicePressureFor config robot.1)) with
  | error e => rfl
  | ok chosen =>
      cases chosen with
      | none => rfl
      | some floorDecision => rfl

/-- What a turn makes of its attempt. -/
def FloorState.attempted (s : FloorState F) (specs : Dict Str (FlowSpec F)) (link : NetworkLink F) :
    Option (Attempt F) → FloorState F
  | none => s
  | some a => (s.attempt specs link a).1

theorem controlFloorTurn_attempt (x : Candidate F) :
    controlFloorTurn config c specs link s x =
      s.attempted specs link <$> controlFloorAttempt config c link s x := by
  unfold controlFloorTurn controlFloorAttempt
  dsimp only
  split
  · rfl
  split
  · rfl
  split
  · rfl
  cases controlFloorDecision config x.1 x.2 link (c.servicePressureFor config x.1.robotId) with
  | error e => rfl
  | ok chosen =>
      cases chosen with
      | none => rfl
      | some floorDecision => rfl

theorem horizonLiftTurn_attempt (x : Candidate F) :
    horizonLiftTurn config c specs link s x =
      s.attempted specs link <$> horizonLiftAttempt config c link s x := by
  unfold horizonLiftTurn horizonLiftAttempt
  dsimp only
  cases c.states.get? x.1.robotId with
  | none => rfl
  | some state =>
      cases s.decisions.get? x.1.flowId with
      | none => rfl
      | some decision =>
          dsimp only
          split
          · rfl
          split
          · rfl
          split
          · rfl
          split
          · rfl
          cases controlDeadlineHorizonDecision config x.1 x.2 link
              (pyMax state.deadlineDeficit state.controlIntentDeficit) decision
              state.controlIntentDeficit with
          | error e => rfl
          | ok chosen =>
              cases chosen with
              | none => rfl
              | some lifted => rfl

theorem applyNAwareControlServiceFloor_eq :
    applyNAwareControlServiceFloor config c candidates specs link s =
      (nAwareRobots config c candidates s).foldlM (nAwareControlFloorTurn config c specs link)
        (nAwareStart config c candidates s) := by
  unfold applyNAwareControlServiceFloor nAwareRobots nAwareStart
  dsimp only
  split
  · rfl
  split
  · rfl
  · rfl

/-- An attempt in the passes of the service floor, with the state before it. -/
inductive FloorAttempts (config : RobotBudgetConfig F) (c : RobotBudgetController F)
    (candidates : List (Candidate F)) (base : List (FlowDecision F)) (link : NetworkLink F) :
    FloorState F → Attempt F → Prop where
  | nAware {before after : List (Str × List (Candidate F))} {robot : Str × List (Candidate F)}
      {s : FloorState F} {a : Attempt F}
      (order : nAwareRobots config c candidates (floorStart c base) = before ++ robot :: after)
      (reached : before.foldlM (nAwareControlFloorTurn config c (specById candidates) link)
        (nAwareStart config c candidates (floorStart c base)) = .ok s)
      (attempts : nAwareAttempt config c link robot = .ok (some a)) :
      FloorAttempts config c candidates base link s a
  | controlFloor {before after : List (Candidate F)} {x : Candidate F} {s₁ s : FloorState F}
      {a : Attempt F}
      (first : applyNAwareControlServiceFloor config c candidates (specById candidates) link
        (floorStart c base) = .ok s₁)
      (order : candidates = before ++ x :: after)
      (reached : before.foldlM (controlFloorTurn config c (specById candidates) link) s₁ = .ok s)
      (attempts : controlFloorAttempt config c link s x = .ok (some a)) :
      FloorAttempts config c candidates base link s a
  | horizonLift {before after : List (Candidate F)} {x : Candidate F} {s₁ s₂ s : FloorState F}
      {a : Attempt F}
      (first : applyNAwareControlServiceFloor config c candidates (specById candidates) link
        (floorStart c base) = .ok s₁)
      (second : candidates.foldlM (controlFloorTurn config c (specById candidates) link) s₁ = .ok s₂)
      (enabled : config.deadlineHorizonLiftEnabled)
      (order : candidates = before ++ x :: after)
      (reached : before.foldlM (horizonLiftTurn config c (specById candidates) link) s₂ = .ok s)
      (attempts : horizonLiftAttempt config c link s x = .ok (some a)) :
      FloorAttempts config c candidates base link s a

/-- An attempt in a call of `schedule`. -/
def RobotBudgetController.Attempts (config : RobotBudgetConfig F) (basePolicy : CallablePolicy F)
    (c : RobotBudgetController F) (candidates : List (Candidate F)) (link : NetworkLink F)
    (s : FloorState F) (a : Attempt F) : Prop :=
  let c := { c with scheduleTick := c.scheduleTick + 1 }
  ∃ base, basePolicy (candidates.map (budgetAugmentedCandidate config c)) link = .ok base ∧
    FloorAttempts config c candidates base link s a

/-! ## Decisions are kept under their flows -/

/-- Each flow has one decision, which names it. -/
structure Keyed (d : Decisions F) : Prop where
  distinct : (d.map Prod.fst).Nodup
  named : ∀ e ∈ d, e.2.flowId = e.1

namespace Keyed

theorem set (keyed : Keyed d) (names : new.flowId = k) : Keyed (d.set k new) where
  distinct := Dict.nodup_keys_set keyed.distinct
  named := by
    intro e among
    cases Dict.mem_set among with
    | inl same => rw [same, names]
    | inr before => exact keyed.named e before

theorem byId (base : List (FlowDecision F)) : Keyed (byId base) := by
  refine foldl_holds (I := fun _ => Keyed) ?_ ⟨List.nodup_nil, fun _ among => by cases among⟩
  intro decision _ d keyed
  exact keyed.set rfl

theorem get?_flowId (keyed : Keyed d) (among : decision ∈ d.map Prod.snd) :
    d.get? decision.flowId = some decision := by
  obtain ⟨e, inside, rfl⟩ := List.mem_map.mp among
  rw [keyed.named e inside]
  exact Dict.get?_of_mem keyed.distinct inside

end Keyed

/-! ## Reclaiming -/

/-- A turn of `_reclaim_noncritical_capacity`. -/
def reclaimTurn (neededBytes : Int) (s : Decisions F × Int) (decision : FlowDecision F) :
    Decisions F × Int :=
  let (decisions, reclaimed) := s
  if reclaimed ≥ neededBytes then (decisions, reclaimed)
  else
    (decisions.set decision.flowId
      (decision.deferred (lit "robot budget control floor: reclaimed capacity; ") 0.0),
      reclaimed + decision.allocatedBytes)

theorem reclaimNoncriticalCapacity_eq (neededBytes : Int) :
    reclaimNoncriticalCapacity d specs neededBytes =
      (reclaimable d specs).foldl (reclaimTurn neededBytes) (d, 0) := rfl

/-- The bytes of the first decisions. -/
def firstBytes (decisions : List (FlowDecision F)) (n : Nat) : Int :=
  ((decisions.take n).map FlowDecision.allocatedBytes).sum

theorem firstBytes_zero (decisions : List (FlowDecision F)) : firstBytes decisions 0 = 0 := rfl

theorem firstBytes_cons (decision : FlowDecision F) (rest : List (FlowDecision F)) (n : Nat) :
    firstBytes (decision :: rest) (n + 1) = decision.allocatedBytes + firstBytes rest n :=
  List.sum_cons

/-- What is needed has been reclaimed once the first decisions hold it. -/
theorem reclaimed_iff (neededBytes : Int) (decisions : List (FlowDecision F))
    (s : Decisions F × Int) :
    neededBytes ≤ (decisions.foldl (reclaimTurn neededBytes) s).2 ↔
      ∃ n, neededBytes ≤ s.2 + firstBytes decisions n := by
  induction decisions generalizing s with
  | nil =>
      constructor
      · intro enough
        refine ⟨0, ?_⟩
        rw [firstBytes_zero, Int.add_zero]
        exact enough
      · rintro ⟨n, enough⟩
        simpa [firstBytes] using enough
  | cons decision rest ih =>
      rw [List.foldl_cons]
      by_cases enough : s.2 ≥ neededBytes
      case pos =>
        have stays : reclaimTurn neededBytes s decision = s := if_pos enough
        rw [stays, ih]
        have atOnce (decisions : List (FlowDecision F)) :
            ∃ n, neededBytes ≤ s.2 + firstBytes decisions n := by
          refine ⟨0, ?_⟩
          rw [firstBytes_zero, Int.add_zero]
          exact enough
        exact iff_of_true (atOnce rest) (atOnce _)
      case neg =>
        have taken : (reclaimTurn neededBytes s decision).2 = s.2 + decision.allocatedBytes := by
          unfold reclaimTurn
          dsimp only
          rw [if_neg enough]
        rw [ih, taken]
        constructor
        · rintro ⟨n, holds⟩
          refine ⟨n + 1, ?_⟩
          rw [firstBytes_cons]
          omega
        · rintro ⟨n, holds⟩
          cases n with
          | zero =>
              rw [firstBytes_zero] at holds
              omega
          | succ n =>
              rw [firstBytes_cons] at holds
              exact ⟨n, by omega⟩

theorem sentIn_set_deferred (reason : Str) (unsent : sentIn d k = false) :
    sentIn (d.set decision.flowId (decision.deferred reason 0.0)) k = false := by
  unfold sentIn
  by_cases same : k = decision.flowId
  · rw [same, Dict.get?_set_self]
    rfl
  · rw [Dict.get?_set_of_ne same]
    exact unsent

/-- Reclaiming sends nothing. -/
theorem reclaim_unsent {neededBytes : Int} {decisions : List (FlowDecision F)}
    {s : Decisions F × Int} (unsent : sentIn s.1 k = false) :
    sentIn (decisions.foldl (reclaimTurn neededBytes) s).1 k = false := by
  refine foldl_holds (I := fun (_ : List (FlowDecision F)) (s : Decisions F × Int) => sentIn s.1 k = false) ?_ unsent
  intro decision _ s unsent
  unfold reclaimTurn
  dsimp only
  split
  · exact unsent
  · exact sentIn_set_deferred _ unsent

theorem Keyed.reclaim {neededBytes : Int} {decisions : List (FlowDecision F)}
    {s : Decisions F × Int} (keyed : Keyed s.1) :
    Keyed (decisions.foldl (reclaimTurn neededBytes) s).1 := by
  refine foldl_holds (I := fun (_ : List (FlowDecision F)) (s : Decisions F × Int) => Keyed s.1) ?_ keyed
  intro decision _ s keyed
  unfold reclaimTurn
  dsimp only
  split
  · exact keyed
  · exact keyed.set rfl

/-- As soon as something is taken, what is sent has changed. -/
theorem reclaimNoncriticalCapacity_ne {neededBytes : Int} (keyed : Keyed d) (lacks : 0 < neededBytes)
    (some_ : reclaimable d specs ≠ []) : (reclaimNoncriticalCapacity d specs neededBytes).1 ≠ d := by
  intro same
  rw [reclaimNoncriticalCapacity_eq] at same
  cases listed : reclaimable d specs with
  | nil => exact some_ listed
  | cons decision rest =>
      have among : decision ∈ reclaimable d specs := listed ▸ List.mem_cons_self
      have isSent := (not_controls_of_mem_reclaimable among).1
      have inside := List.mem_of_mem_filter ((sortedBy_perm _ _).subset among)
      have sends : sentIn d decision.flowId = true := by
        unfold sentIn
        rw [keyed.get?_flowId inside, Option.any_some]
        exact isSent
      have gone : sentIn (reclaimTurn neededBytes (d, 0) decision).1 decision.flowId = false := by
        unfold reclaimTurn sentIn
        dsimp only
        rw [if_neg (Int.not_le.mpr lacks), Dict.get?_set_self]
        rfl
      rw [listed, List.foldl_cons] at same
      have unsent : sentIn (rest.foldl (reclaimTurn neededBytes)
          (reclaimTurn neededBytes (d, 0) decision)).1 decision.flowId = false :=
        reclaim_unsent gone
      rw [same, sends] at unsent
      cases unsent

/-! ## Serving -/

/-- Nothing can be taken, or the first flows to give way hold the bytes that are lacking. -/
def Affordable (specs : Dict Str (FlowSpec F)) (link : NetworkLink F) (s : FloorState F)
    (more : Int) : Prop :=
  reclaimable s.decisions specs = [] ∨
    ∃ n, s.sent + more - link.capacityBytesPerTick ≤ firstBytes (reclaimable s.decisions specs) n

theorem reclaimFor_of_lacks {sent more : Int} (lacks : 0 < sent + more - link.capacityBytesPerTick) :
    reclaimFor d specs link sent more =
      ((reclaimNoncriticalCapacity d specs (sent + more - link.capacityBytesPerTick)).1,
        sent - (reclaimNoncriticalCapacity d specs (sent + more - link.capacityBytesPerTick)).2) := by
  unfold reclaimFor
  dsimp only
  rw [max_eq_right (Int.le_of_lt lacks), if_pos lacks]

theorem reclaimFor_of_fits {sent more : Int} (fits : ¬0 < sent + more - link.capacityBytesPerTick) :
    reclaimFor d specs link sent more = (d, sent) := by
  unfold reclaimFor
  dsimp only
  rw [max_eq_left (Int.not_lt.mp fits)]
  rfl

variable (specs link) in
theorem FloorState.serve_flag (s : FloorState F) (a : Attempt F) :
    (s.attempt specs link a).2 = true ↔
      (reclaimFor s.decisions specs link s.sent a.more).2 + a.more ≤ link.capacityBytesPerTick := by
  unfold FloorState.attempt FloorState.serve
  dsimp only
  split
  case isTrue fits => exact iff_of_true rfl fits
  case isFalse exceeds => exact iff_of_false Bool.false_ne_true exceeds

/-- A flow is served when the first flows to give way hold the bytes that are lacking. -/
theorem FloorState.served_iff :
    (s.attempt specs link a).2 = true ↔
      ∃ n, s.sent + a.more - link.capacityBytesPerTick ≤
        firstBytes (reclaimable s.decisions specs) n := by
  rw [s.serve_flag specs link a]
  by_cases lacks : 0 < s.sent + a.more - link.capacityBytesPerTick
  case pos =>
    have reclaimed := reclaimed_iff (s.sent + a.more - link.capacityBytesPerTick)
      (reclaimable s.decisions specs) (s.decisions, 0)
    simp only [Int.zero_add] at reclaimed
    rw [reclaimFor_of_lacks lacks, ← reclaimed, ← reclaimNoncriticalCapacity_eq]
    dsimp only
    omega
  case neg =>
    rw [reclaimFor_of_fits lacks]
    refine iff_of_true (by dsimp only; omega) ⟨0, ?_⟩
    rw [firstBytes_zero]
    omega

theorem FloorState.attempt_unserved (unserved : ¬(s.attempt specs link a).2 = true) :
    0 < s.sent + a.more - link.capacityBytesPerTick ∧
      (s.attempt specs link a).1 = { s with
        decisions := (reclaimFor s.decisions specs link s.sent a.more).1
        sent := (reclaimFor s.decisions specs link s.sent a.more).2 } := by
  constructor
  · by_contra fits
    apply unserved
    rw [s.serve_flag specs link a, reclaimFor_of_fits fits]
    dsimp only
    omega
  · rw [s.serve_flag specs link a] at unserved
    unfold FloorState.attempt FloorState.serve
    dsimp only
    rw [if_neg unserved]

/-- The flow is served or everything stays as it is, exactly if what it takes can be afforded. -/
theorem FloorState.served_or_same_iff (keyed : Keyed s.decisions) :
    ((s.attempt specs link a).2 = true ∨ (s.attempt specs link a).1 = s) ↔
      Affordable specs link s a.more := by
  by_cases served : (s.attempt specs link a).2 = true
  case pos => exact iff_of_true (.inl served) (.inr (served_iff.mp served))
  case neg =>
    obtain ⟨lacks, left⟩ := attempt_unserved served
    rw [reclaimFor_of_lacks lacks] at left
    constructor
    · rintro (served' | same)
      · exact absurd served' served
      · refine .inl (not_ne_iff.mp fun some_ => ?_)
        apply reclaimNoncriticalCapacity_ne keyed lacks some_
        exact congrArg FloorState.decisions (left.symm.trans same)
    · rintro (nothing | enough)
      · refine .inr (left.trans ?_)
        rw [reclaimNoncriticalCapacity_eq, nothing, List.foldl_nil, Int.sub_zero]
      · exact absurd (served_iff.mpr enough) served

variable (specs link) in
theorem Keyed.attempt (keyed : Keyed s.decisions) (names : a.decision.flowId = a.flowId) :
    Keyed (s.attempt specs link a).1.decisions := by
  have reclaimed : Keyed (reclaimFor s.decisions specs link s.sent a.more).1 := by
    unfold reclaimFor
    dsimp only
    split
    · exact Keyed.reclaim (s := (s.decisions, 0)) keyed
    · exact keyed
  unfold FloorState.attempt FloorState.serve
  dsimp only
  split
  · exact reclaimed.set names
  · exact reclaimed

/-! ## The states of the passes -/

theorem flowId_of_controlFloorDecision {spec : FlowSpec F} {obs : FlowObservation F} {pressure : F}
    (chosen : controlFloorDecision config spec obs link pressure = .ok (some decision)) :
    decision.flowId = spec.flowId := by
  unfold controlFloorDecision at chosen
  obtain ⟨options, -, chosen⟩ := bind_eq_ok_iff.mp chosen
  obtain ⟨selected, -, rfl⟩ := Option.map_eq_some_iff.mp (pure_eq_ok.mp chosen)
  rfl

theorem flowId_of_controlDeadlineHorizonDecision {spec : FlowSpec F} {obs : FlowObservation F}
    {deadlineDeficit actionDeadlineDeficit : F} {lifted : FlowDecision F}
    (chosen : controlDeadlineHorizonDecision config spec obs link deadlineDeficit decision
      actionDeadlineDeficit = .ok (some lifted)) :
    lifted.flowId = spec.flowId := by
  unfold controlDeadlineHorizonDecision at chosen
  obtain ⟨options, -, chosen⟩ := bind_eq_ok_iff.mp chosen
  obtain ⟨selected, -, rfl⟩ := Option.map_eq_some_iff.mp (pure_eq_ok.mp chosen)
  rfl

theorem names_of_nAwareAttempt {robot : Str × List (Candidate F)}
    (attempts : nAwareAttempt config c link robot = .ok (some a)) : a.decision.flowId = a.flowId := by
  obtain ⟨chosen, -, returned⟩ := bind_eq_ok_iff.mp attempts
  obtain ⟨floorDecision, -, rfl⟩ := Option.map_eq_some_iff.mp (pure_eq_ok.mp returned)
  rfl

theorem names_of_controlFloorAttempt
    (attempts : controlFloorAttempt config c link s x = .ok (some a)) :
    a.decision.flowId = a.flowId := by
  unfold controlFloorAttempt at attempts
  dsimp only at attempts
  split at attempts
  · cases attempts
  split at attempts
  · cases attempts
  split at attempts
  · cases attempts
  obtain ⟨chosen, found, returned⟩ := bind_eq_ok_iff.mp attempts
  obtain ⟨floorDecision, rfl, rfl⟩ := Option.map_eq_some_iff.mp (pure_eq_ok.mp returned)
  exact flowId_of_controlFloorDecision found

theorem names_of_horizonLiftAttempt
    (attempts : horizonLiftAttempt config c link s x = .ok (some a)) :
    a.decision.flowId = a.flowId := by
  unfold horizonLiftAttempt at attempts
  dsimp only at attempts
  split at attempts
  case h_2 => cases attempts
  case h_1 =>
    split at attempts
    · cases attempts
    split at attempts
    · cases attempts
    split at attempts
    · cases attempts
    split at attempts
    · cases attempts
    obtain ⟨chosen, found, returned⟩ := bind_eq_ok_iff.mp attempts
    obtain ⟨lifted, rfl, rfl⟩ := Option.map_eq_some_iff.mp (pure_eq_ok.mp returned)
    exact flowId_of_controlDeadlineHorizonDecision found

theorem Keyed.attempted {tried : Option (Attempt F)} (keyed : Keyed s.decisions)
    (names : ∀ a, tried = some a → a.decision.flowId = a.flowId) :
    Keyed (s.attempted specs link tried).decisions := by
  cases tried with
  | none => exact keyed
  | some a => exact keyed.attempt specs link (names a rfl)

theorem Keyed.nAwareControlFloorTurn {robot : Str × List (Candidate F)} (keyed : Keyed s.decisions)
    (taken : nAwareControlFloorTurn config c specs link s robot = .ok s') : Keyed s'.decisions := by
  rw [nAwareControlFloorTurn_attempt] at taken
  obtain ⟨tried, attempts, taken⟩ := bind_eq_ok_iff.mp taken
  cases tried with
  | none =>
      obtain rfl := pure_eq_ok.mp taken
      exact keyed
  | some a =>
      have attempted := keyed.attempt specs link (names_of_nAwareAttempt attempts)
      dsimp only at taken
      split at taken
      · obtain rfl := pure_eq_ok.mp taken
        exact attempted
      · obtain rfl := pure_eq_ok.mp taken
        exact attempted

theorem Keyed.controlFloorTurn (keyed : Keyed s.decisions)
    (taken : controlFloorTurn config c specs link s x = .ok s') : Keyed s'.decisions := by
  rw [controlFloorTurn_attempt] at taken
  obtain ⟨tried, attempts, rfl⟩ := map_eq_ok_iff.mp taken
  exact keyed.attempted fun a same => names_of_controlFloorAttempt (same ▸ attempts)

theorem Keyed.horizonLiftTurn (keyed : Keyed s.decisions)
    (taken : horizonLiftTurn config c specs link s x = .ok s') : Keyed s'.decisions := by
  rw [horizonLiftTurn_attempt] at taken
  obtain ⟨tried, attempts, rfl⟩ := map_eq_ok_iff.mp taken
  exact keyed.attempted fun a same => names_of_horizonLiftAttempt (same ▸ attempts)

theorem Keyed.nAwareStart (keyed : Keyed s.decisions) :
    Keyed (nAwareStart config c candidates s).decisions := by
  unfold FleetRMW.Admission.nAwareStart
  dsimp only
  split
  · exact keyed
  split
  · exact keyed
  · exact keyed

theorem FloorAttempts.keyed (attempts : FloorAttempts config c candidates base link s a) :
    Keyed s.decisions := by
  have start : Keyed (floorStart c base).decisions := Keyed.byId base
  have afterNAware {before : List (Str × List (Candidate F))} {s : FloorState F}
      (reached : before.foldlM (Admission.nAwareControlFloorTurn config c (specById candidates) link)
        (Admission.nAwareStart config c candidates (floorStart c base)) = .ok s) :
      Keyed s.decisions :=
    foldlM_ok (P := fun s : FloorState F => Keyed s.decisions)
      (fun _ _ _ keyed taken => keyed.nAwareControlFloorTurn taken) start.nAwareStart reached
  have afterFloor {before : List (Candidate F)} {s₁ s : FloorState F} (keyed : Keyed s₁.decisions)
      (reached : before.foldlM (Admission.controlFloorTurn config c (specById candidates) link) s₁ =
        .ok s) : Keyed s.decisions :=
    foldlM_ok (P := fun s : FloorState F => Keyed s.decisions)
      (fun _ _ _ keyed taken => keyed.controlFloorTurn taken) keyed reached
  cases attempts with
  | nAware order reached attempts => exact afterNAware reached
  | controlFloor first order reached attempts =>
      rw [applyNAwareControlServiceFloor_eq] at first
      exact afterFloor (afterNAware first) reached
  | horizonLift first second enabled order reached attempts =>
      rw [applyNAwareControlServiceFloor_eq] at first
      exact foldlM_ok (P := fun s : FloorState F => Keyed s.decisions)
        (fun _ _ _ keyed taken => keyed.horizonLiftTurn taken)
        (afterFloor (afterNAware first) second) reached

/-- In every call, for every policy, configuration and learned state: an attempt serves its flow or
    leaves everything as it is, exactly if what it takes can be afforded. -/
theorem RobotBudgetController.attempts_serve_or_leave_iff (config : RobotBudgetConfig F)
    (basePolicy : CallablePolicy F) (c : RobotBudgetController F) (candidates : List (Candidate F))
    (link : NetworkLink F) {s : FloorState F} {a : Attempt F}
    (attempts : c.Attempts config basePolicy candidates link s a) :
    ((s.attempt (specById candidates) link a).2 = true ∨
        (s.attempt (specById candidates) link a).1 = s) ↔
      Affordable (specById candidates) link s a.more := by
  obtain ⟨base, -, attempts⟩ := attempts
  exact FloorState.served_or_same_iff attempts.keyed

theorem attempts_of_controlFloor {basePolicy : CallablePolicy F} (before after : List (Candidate F))
    (returned : basePolicy (candidates.map (budgetAugmentedCandidate config
      { c with scheduleTick := c.scheduleTick + 1 })) link = .ok base)
    (first : applyNAwareControlServiceFloor config { c with scheduleTick := c.scheduleTick + 1 }
      candidates (specById candidates) link (floorStart c base) = .ok (floorStart c base))
    (order : candidates = before ++ x :: after)
    (reached : before.foldlM (controlFloorTurn config
      { c with scheduleTick := c.scheduleTick + 1 } (specById candidates) link) (floorStart c base) =
        .ok s)
    {p : Attempt F → Bool}
    (tried : ((controlFloorAttempt config { c with scheduleTick := c.scheduleTick + 1 } link s
      x).toOption.bind id).any p = true) :
    ∃ a, c.Attempts config basePolicy candidates link s a ∧ p a = true := by
  obtain ⟨a, found, holds⟩ := (Option.any_eq_true _ _).mp tried
  obtain ⟨chosen, there, same⟩ := Option.bind_eq_some_iff.mp found
  refine ⟨a, ⟨base, returned, .controlFloor first order reached ?_⟩, holds⟩
  exact eq_ok_of_toOption (there.trans (congrArg some same))

end

/-! ## A control flow that is too large -/

def freshFlow (flowId : Str) (flowClass : FlowClass) (nominalSizeBytes : Int) : Candidate Fixed :=
  let (spec, obs) := oldFlow flowId flowClass nominalSizeBytes
  (spec, { obs with ageMs := 0.0 })

/-- A robot whose control flows have not been delivered. -/
def owing : RobotBudgetController Fixed :=
  { states := [(lit "r", { RobotBudgetState.start with controlDeficit := 1.0 })] }

/-- The base policy sends the bulk flow, and not the control flow. -/
def bulkFirst : List (FlowDecision Fixed) :=
  [sending (lit "bulk") 40, { sending (lit "stop") 0 with action := lit "defer" }]

/-- A control flow of 160 bytes takes 67 as a supervisory intent, for which the bulk flow gives
    way. -/
theorem RobotBudgetController.attempts_serve_or_leave_iff_smallFlow :
    ∃ s a, owing.Attempts .standard (fun _ _ => .ok bulkFirst)
        [freshFlow (lit "bulk") .bulk 40, freshFlow (lit "stop") .control 160] shortLink s a ∧
      ((s.attempt (specById [freshFlow (lit "bulk") .bulk 40, freshFlow (lit "stop") .control 160])
          shortLink a).2 = true ∨
        (s.attempt (specById [freshFlow (lit "bulk") .bulk 40,
          freshFlow (lit "stop") .control 160]) shortLink a).1 = s) := by
  let specs := specById [freshFlow (lit "bulk") .bulk 40, freshFlow (lit "stop") .control 160]
  let s := floorStart owing bulkFirst
  let holds (a : Attempt Fixed) : Bool :=
    s.sent + a.more - shortLink.capacityBytesPerTick ≤
      firstBytes (reclaimable s.decisions specs) 1
  have tried : ∃ a, owing.Attempts .standard (fun _ _ => .ok bulkFirst)
      [freshFlow (lit "bulk") .bulk 40, freshFlow (lit "stop") .control 160] shortLink s a ∧
        holds a = true :=
    attempts_of_controlFloor [freshFlow (lit "bulk") .bulk 40] [] rfl rfl rfl rfl
      (by decide +kernel)
  obtain ⟨a, attempts, enough⟩ := tried
  exact ⟨s, a, attempts, (attempts_serve_or_leave_iff _ _ _ _ _ attempts).mpr
    (.inr ⟨1, of_decide_eq_true enough⟩)⟩

/-- A control flow of 1000 bytes takes 420, which the link does not have: the bulk flow is deferred
    and the control flow is not sent. -/
theorem bulk_given_up_for_nothing :
    sentTotal bulkFirst ≤ shortLink.capacityBytesPerTick ∧
      ∃ s a, owing.Attempts .standard (fun _ _ => .ok bulkFirst)
          [freshFlow (lit "bulk") .bulk 40, freshFlow (lit "stop") .control 1000] shortLink s a ∧
        a.flowId = lit "stop" ∧ sentIn s.decisions (lit "bulk") = true ∧
        (s.attempt (specById [freshFlow (lit "bulk") .bulk 40,
          freshFlow (lit "stop") .control 1000]) shortLink a).2 = false ∧
        sentIn (s.attempt (specById [freshFlow (lit "bulk") .bulk 40,
          freshFlow (lit "stop") .control 1000]) shortLink a).1.decisions (lit "bulk") = false := by
  let specs := specById [freshFlow (lit "bulk") .bulk 40, freshFlow (lit "stop") .control 1000]
  let s := floorStart owing bulkFirst
  let holds (a : Attempt Fixed) : Bool :=
    a.flowId = lit "stop" && !(s.attempt specs shortLink a).2 &&
      !sentIn (s.attempt specs shortLink a).1.decisions (lit "bulk")
  have tried : ∃ a, owing.Attempts .standard (fun _ _ => .ok bulkFirst)
      [freshFlow (lit "bulk") .bulk 40, freshFlow (lit "stop") .control 1000] shortLink s a ∧
        holds a = true :=
    attempts_of_controlFloor [freshFlow (lit "bulk") .bulk 40] [] rfl rfl rfl rfl
      (by decide +kernel)
  obtain ⟨a, attempts, holds⟩ := tried
  obtain ⟨first, spared⟩ := Bool.and_eq_true_iff.mp holds
  obtain ⟨names, unserved⟩ := Bool.and_eq_true_iff.mp first
  exact ⟨by decide, s, a, attempts, of_decide_eq_true names, by decide,
    (Bool.not_eq_true' _).mp unserved, (Bool.not_eq_true' _).mp spared⟩

end FleetRMW.Admission
