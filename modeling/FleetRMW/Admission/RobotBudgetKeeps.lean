import FleetRMW.Admission.RobotBudget
import FleetRMW.Lib.Totals

/-! # The robot budget keeps what its policy promises

Every pass replaces decisions in one table and counts the bytes that are sent along with it. What
they all keep is that the count covers the bytes of the table and stays within the capacity, and
that the control flows which the policy sent are sent.
-/

namespace FleetRMW.Admission

open Lib FloatOps

section
variable {F : Type} [FloatOps F]

/-! ## Decisions -/

namespace FlowDecision

variable {decision : FlowDecision F}

theorem sentBytes_of_sent (sent : decision.isSent) : decision.sentBytes = decision.allocatedBytes :=
  if_pos sent

theorem isSent_of_action (action : decision.action ∈ sentActions) : decision.isSent :=
  decide_eq_true action

/-- A decision to send some bytes of a flow. -/
structure Sends (flowId : Str) (decision : FlowDecision F) : Prop where
  names : decision.flowId = flowId
  sent : decision.isSent
  some_bytes : 1 ≤ decision.allocatedBytes

/-- A decision for the same flow that sends no more bytes. -/
structure Lowers (old new : FlowDecision F) : Prop where
  names : new.flowId = old.flowId
  nonneg : 0 ≤ new.sentBytes
  no_more : new.sentBytes ≤ old.sentBytes

theorem deferred_lowers (nonneg : 0 ≤ decision.sentBytes) (reason : Str) (slackMs : F) :
    decision.Lowers (decision.deferred reason slackMs) where
  names := rfl
  nonneg := Int.le_refl 0
  no_more := nonneg

theorem Sends.lowers {old new : FlowDecision F} (h : Sends old.flowId new) (sent : old.isSent)
    (fewer : new.allocatedBytes < old.allocatedBytes) : old.Lowers new where
  names := h.names
  nonneg := by
    rw [sentBytes_of_sent h.sent]
    exact Int.le_trans Int.one_nonneg h.some_bytes
  no_more := by
    rw [sentBytes_of_sent h.sent, sentBytes_of_sent sent]
    exact Int.le_of_lt fewer

end FlowDecision

/-! ## The table -/

variable {flows : List Str} {must : Str → Prop} {capacity sent sent' : Int} {d : Decisions F}
  {k : Str} {old new : FlowDecision F}

/-- `sent` covers the bytes that the table sends and is within the capacity, and the flows that
    must be sent are. -/
structure Fits (flows : List Str) (must : Str → Prop) (capacity sent : Int) (d : Decisions F) :
    Prop where
  keys : (d.map Prod.fst).Perm flows
  named : ∀ e ∈ d, e.2.flowId = e.1
  nonneg : ∀ e ∈ d, 0 ≤ e.2.sentBytes
  counted : d.total FlowDecision.sentBytes ≤ sent
  within : sent ≤ capacity
  keeps : ∀ k, must k → sentIn d k

namespace Fits

theorem found (h : Fits flows must capacity sent d) (among : k ∈ flows) :
    ∃ decision, d.get? k = some decision :=
  Dict.get?_of_mem_keys (h.keys.symm.subset among)

theorem flowId_of_get? (h : Fits flows must capacity sent d) (there : d.get? k = some old) :
    old.flowId = k := h.named _ (Dict.mem_of_get? there)

theorem nonneg_of_get? (h : Fits flows must capacity sent d) (there : d.get? k = some old) :
    0 ≤ old.sentBytes := h.nonneg _ (Dict.mem_of_get? there)

theorem set (h : Fits flows must capacity sent d) (there : d.get? k = some old)
    (names : new.flowId = k) (nonneg : 0 ≤ new.sentBytes) (keeps : must k → new.isSent)
    (counted : sent + (new.sentBytes - old.sentBytes) ≤ sent') (within : sent' ≤ capacity) :
    Fits flows must capacity sent' (d.set k new) where
  keys := by
    rw [Dict.keys_set_of_get? there]
    exact h.keys
  named := by
    intro e among
    cases Dict.mem_set among with
    | inl new => rw [new, names]
    | inr before => exact h.named e before
  nonneg := by
    intro e among
    cases Dict.mem_set among with
    | inl new =>
        rw [new]
        exact nonneg
    | inr before => exact h.nonneg e before
  counted := by
    have := h.counted
    rw [Dict.total_set_of_get? _ there]
    omega
  within := within
  keeps := by
    intro k' wanted
    unfold sentIn
    by_cases here : k' = k
    · subst here
      rw [Dict.get?_set_self, Option.any_some]
      exact keeps wanted
    · rw [Dict.get?_set_of_ne here]
      exact h.keeps k' wanted

/-- Sending a flow whose bytes have been counted. -/
theorem send (h : Fits flows must capacity sent d) (among : k ∈ flows) (sends : new.Sends k)
    (within : sent + new.allocatedBytes ≤ capacity) :
    Fits flows must capacity (sent + new.allocatedBytes) (d.set k new) := by
  obtain ⟨old, there⟩ := h.found among
  have := h.nonneg_of_get? there
  have bytes := FlowDecision.sentBytes_of_sent sends.sent
  have := sends.some_bytes
  exact h.set there sends.names (by omega) (fun _ => sends.sent) (by omega) within

/-- Lowering what is sent for a flow that need not be sent. -/
theorem lower (h : Fits flows must capacity sent d) (there : d.get? k = some old)
    (lowers : old.Lowers new) (free : ¬must k) : Fits flows must capacity sent (d.set k new) := by
  have := lowers.no_more
  exact h.set there (lowers.names.trans (h.flowId_of_get? there)) lowers.nonneg
    (fun wanted => absurd wanted free) (by omega) h.within

end Fits

/-! ## Loops over decisions of the table -/

/-- Decisions of different flows that the table still has. -/
structure Standing (d : Decisions F) (decisions : List (FlowDecision F)) : Prop where
  there : ∀ decision ∈ decisions, d.get? decision.flowId = some decision
  distinct : (decisions.map FlowDecision.flowId).Nodup

namespace Standing

variable {decision : FlowDecision F} {decisions decisions' : List (FlowDecision F)}

theorem tail (h : Standing d (decision :: decisions)) : Standing d decisions where
  there := fun x among => h.there x (List.mem_cons_of_mem _ among)
  distinct := (List.nodup_cons.mp h.distinct).2

/-- The first may be replaced. -/
theorem tail_set (h : Standing d (decision :: decisions)) :
    Standing (d.set decision.flowId new) decisions where
  there := by
    intro x among
    have other : x.flowId ≠ decision.flowId := by
      intro same
      exact (List.nodup_cons.mp h.distinct).1 (same ▸ List.mem_map_of_mem among)
    rw [Dict.get?_set_of_ne other]
    exact h.there x (List.mem_cons_of_mem _ among)
  distinct := (List.nodup_cons.mp h.distinct).2

theorem sublist (h : Standing d decisions) (some_of : decisions'.Sublist decisions) :
    Standing d decisions' where
  there := fun x among => h.there x (some_of.subset among)
  distinct := h.distinct.sublist (some_of.map _)

theorem perm (h : Standing d decisions) (same : decisions'.Perm decisions) :
    Standing d decisions' where
  there := fun x among => h.there x (same.subset among)
  distinct := (same.map _).nodup_iff.mpr h.distinct

end Standing

theorem Fits.standing (h : Fits flows must capacity sent d) (distinct : flows.Nodup) :
    Standing d (d.map Prod.snd) where
  there := by
    intro decision among
    obtain ⟨e, inside, rfl⟩ := List.mem_map.mp among
    rw [h.named e inside]
    exact Dict.get?_of_mem (h.keys.nodup_iff.mpr distinct) inside
  distinct := by
    have names : (d.map Prod.snd).map FlowDecision.flowId = d.map Prod.fst := by
      rw [List.map_map]
      exact List.map_congr_left h.named
    rw [names]
    exact h.keys.nodup_iff.mpr distinct

/-! ## Reclaiming capacity -/

/-- The flow is one of control. -/
def controls (specs : Dict Str (FlowSpec F)) (flowId : Str) : Bool :=
  (specs.get? flowId).any fun spec => spec.flowClass.isControl

variable {specs : Dict Str (FlowSpec F)} {link : NetworkLink F}

/-- What reclaiming does to a table: the control flows stay as they are. -/
structure Reclaims (specs : Dict Str (FlowSpec F)) (flows : List Str) (must : Str → Prop)
    (capacity : Int) (d : Decisions F) (sent' : Int) (d' : Decisions F) : Prop where
  fits : Fits flows must capacity sent' d'
  same : ∀ k, controls specs k → d'.get? k = d.get? k

theorem not_controls_of_mem_reclaimable {decision : FlowDecision F}
    (among : decision ∈ reclaimable d specs) :
    decision.isSent ∧ ¬controls specs decision.flowId := by
  have chosen := (List.mem_filter.mp ((sortedBy_perm _ _).subset among)).2
  obtain ⟨isSent, other⟩ := Bool.and_eq_true_iff.mp chosen
  refine ⟨isSent, ?_⟩
  unfold controls
  cases there : specs.get? decision.flowId with
  | none =>
      rw [there] at other
      cases other
  | some spec =>
      rw [there, Option.any_some, Bool.not_eq_true'] at other
      rw [Option.any_some, other]
      exact Bool.false_ne_true

/-- What holds while capacity is reclaimed from the decisions that are left. -/
structure Reclaiming (specs : Dict Str (FlowSpec F)) (flows : List Str) (must : Str → Prop)
    (capacity : Int) (d : Decisions F) (sent : Int) (rest : List (FlowDecision F))
    (s : Decisions F × Int) : Prop where
  nonneg : 0 ≤ s.2
  standing : Standing s.1 rest
  noncritical : ∀ decision ∈ rest, decision.isSent ∧ ¬controls specs decision.flowId
  reclaims : Reclaims specs flows must capacity d (sent - s.2) s.1

theorem Reclaiming.next {decision : FlowDecision F} {rest : List (FlowDecision F)}
    {s : Decisions F × Int}
    (h : Reclaiming specs flows must capacity d sent (decision :: rest) s)
    (critical : ∀ k, must k → controls specs k) (reason : Str) :
    Reclaiming specs flows must capacity d sent rest
      (s.1.set decision.flowId (decision.deferred reason 0.0), s.2 + decision.allocatedBytes) := by
  obtain ⟨isSent, free⟩ := h.noncritical decision List.mem_cons_self
  have there := h.standing.there decision List.mem_cons_self
  have bytes := FlowDecision.sentBytes_of_sent isSent
  have some_bytes := h.reclaims.fits.nonneg_of_get? there
  have before := h.nonneg
  have within := h.reclaims.fits.within
  have nothing : (decision.deferred reason 0.0).sentBytes = 0 := rfl
  constructor
  · dsimp only
    omega
  · exact h.standing.tail_set
  · intro x among
    exact h.noncritical x (List.mem_cons_of_mem _ among)
  · constructor
    · have names : (decision.deferred reason 0.0).flowId = decision.flowId := rfl
      apply h.reclaims.fits.set there names (Int.le_refl 0)
      · intro wanted
        exact absurd (critical _ wanted) free
      · dsimp only
        omega
      · dsimp only
        omega
    · intro k control
      have other : k ≠ decision.flowId := by
        rintro rfl
        exact free control
      rw [Dict.get?_set_of_ne other]
      exact h.reclaims.same k control

theorem reclaimNoncriticalCapacity_reclaims (h : Fits flows must capacity sent d)
    (distinct : flows.Nodup) (critical : ∀ k, must k → controls specs k) (neededBytes : Int) :
    Reclaims specs flows must capacity d
      (sent - (reclaimNoncriticalCapacity d specs neededBytes).2)
      (reclaimNoncriticalCapacity d specs neededBytes).1 := by
  have start : Reclaiming specs flows must capacity d sent (reclaimable d specs) (d, 0) := by
    constructor
    · exact Int.le_refl 0
    · exact ((h.standing distinct).sublist List.filter_sublist).perm (sortedBy_perm _ _)
    · exact fun decision among => not_controls_of_mem_reclaimable among
    · exact ⟨(Int.sub_zero sent).symm ▸ h, fun k _ => rfl⟩
  refine (foldl_holds (I := Reclaiming specs flows must capacity d sent) ?_ start).reclaims
  intro decision rest s h
  dsimp only
  split
  · exact ⟨h.nonneg, h.standing.tail, fun x among => h.noncritical x (List.mem_cons_of_mem _ among),
      h.reclaims⟩
  · exact h.next critical _

variable (link) in
theorem reclaimFor_reclaims (h : Fits flows must capacity sent d) (distinct : flows.Nodup)
    (critical : ∀ k, must k → controls specs k) (more : Int) :
    Reclaims specs flows must capacity d (reclaimFor d specs link sent more).2
      (reclaimFor d specs link sent more).1 := by
  unfold reclaimFor
  dsimp only
  split
  · exact reclaimNoncriticalCapacity_reclaims h distinct critical _
  · exact ⟨h, fun k _ => rfl⟩

/-! ## What may be chosen -/

variable {config : RobotBudgetConfig F} {c : RobotBudgetController F}
  {candidates : List (Candidate F)} {spec : FlowSpec F} {obs : FlowObservation F}

variable (spec) in
theorem decisionFor_sends {selected : TransformCandidate F} (bytes : 1 ≤ selected.allocatedBytes)
    (action : selected.transform.action ∈ sentActions) (priority slackMs : F) (reason : Str) :
    (decisionFor spec selected priority slackMs reason).Sends spec.flowId where
  names := rfl
  sent := FlowDecision.isSent_of_action action
  some_bytes := bytes

variable (config obs) in
theorem feasibleOptions_ok (validSpec : spec.validates = .ok ())
    (validLink : link.validates = .ok ()) :
    ∃ options, feasibleOptions config spec obs link = .ok options ∧
      ∀ option ∈ options, 1 ≤ option.allocatedBytes ∧ option.transform.action ∈ sentActions := by
  obtain ⟨all, built⟩ := transformCandidates_of_valid obs config.floorOptions validSpec
    validLink
  unfold feasibleOptions
  rw [built]
  refine ⟨_, rfl, ?_⟩
  intro option among
  obtain ⟨among, chosen⟩ := List.mem_filter.mp among
  exact ⟨one_le_allocatedBytes built option among,
    of_decide_eq_true (Bool.and_eq_true_iff.mp chosen).2⟩

variable (config obs) in
theorem controlFloorDecision_ok (validSpec : spec.validates = .ok ())
    (validLink : link.validates = .ok ()) (pressure : F) :
    ∃ chosen, controlFloorDecision config spec obs link pressure = .ok chosen ∧
      ∀ decision ∈ chosen, decision.Sends spec.flowId := by
  obtain ⟨options, built, holds⟩ := feasibleOptions_ok config obs validSpec validLink
  unfold controlFloorDecision
  rw [built]
  refine ⟨_, rfl, ?_⟩
  intro decision among
  obtain ⟨selected, least, rfl⟩ := Option.mem_map.mp among
  obtain ⟨bytes, action⟩ := holds selected (mem_of_minBy least)
  exact decisionFor_sends spec bytes action _ _ _

variable (config obs) in
theorem controlDeadlineHorizonDecision_ok (validSpec : spec.validates = .ok ())
    (validLink : link.validates = .ok ()) (deadlineDeficit : F) (decision : FlowDecision F)
    (actionDeadlineDeficit : F) :
    ∃ chosen, controlDeadlineHorizonDecision config spec obs link deadlineDeficit decision
        actionDeadlineDeficit = .ok chosen ∧
      ∀ lifted ∈ chosen, lifted.Sends spec.flowId := by
  obtain ⟨options, built, holds⟩ := feasibleOptions_ok config obs validSpec validLink
  unfold controlDeadlineHorizonDecision
  rw [built]
  refine ⟨_, rfl, ?_⟩
  intro lifted among
  obtain ⟨selected, least, rfl⟩ := Option.mem_map.mp among
  obtain ⟨bytes, action⟩ := holds selected (List.mem_of_mem_filter (mem_of_minBy least))
  obtain ⟨names, sent, some_bytes⟩ := decisionFor_sends spec bytes action 0.0 0.0 []
  exact ⟨names, sent, some_bytes⟩

variable (config) in
theorem nAwareControlFloorDecision_ok (valid : Valid candidates link) (tick : Int)
    {robotControls : List (Candidate F)}
    (known : ∀ x ∈ robotControls, x ∈ candidates ∧ x.1.flowClass.isControl)
    (pressure : F) :
    ∃ chosen, nAwareControlFloorDecision config tick robotControls link pressure = .ok chosen ∧
      ∀ decision ∈ chosen, ∃ x ∈ candidates, x.1.flowClass.isControl ∧ decision.Sends x.1.flowId := by
  have each : ∀ x ∈ robotControls, ∃ chosen,
      controlFloorDecision config x.1 x.2 link pressure = .ok chosen ∧
        ∀ decision ∈ chosen, decision.Sends x.1.flowId := by
    intro x among
    exact controlFloorDecision_ok config x.2 (valid.flows x (known x among).1) valid.link pressure
  obtain ⟨decisions, built, holds⟩ := mapM_holds each
  unfold nAwareControlFloorDecision
  rw [built]
  refine ⟨_, rfl, ?_⟩
  intro decision among
  obtain ⟨selected, least, rfl⟩ := Option.mem_map.mp among
  obtain ⟨option, inside, same⟩ := List.mem_filterMap.mp (mem_of_minBy least)
  obtain ⟨x, control, sends⟩ := holds option inside
  obtain ⟨names, sent, some_bytes⟩ := sends selected same
  obtain ⟨among, isControl⟩ := known x control
  exact ⟨x, among, isControl, names, sent, some_bytes⟩

theorem mem_of_mem_controlByRobot {robot : Str × List (Candidate F)}
    (h : robot ∈ controlByRobot candidates) :
    ∀ x ∈ robot.2, x ∈ candidates ∧ x.1.flowClass.isControl := by
  let I (rest : List (Candidate F)) (d : Dict Str (List (Candidate F))) : Prop :=
    (∀ x ∈ rest, x ∈ candidates) ∧
      ∀ robot ∈ d, ∀ x ∈ robot.2, x ∈ candidates ∧ x.1.flowClass.isControl
  have start : I candidates [] := ⟨fun _ among => among, fun _ among => absurd among List.not_mem_nil⟩
  refine (foldl_holds (I := I) ?_ start).2 robot h
  intro candidate rest d ⟨later, holds⟩
  refine ⟨fun x among => later x (List.mem_cons_of_mem _ among), ?_⟩
  split
  case isFalse => exact holds
  case isTrue control =>
    intro robot among
    cases Dict.mem_set among with
    | inr before => exact holds robot before
    | inl new =>
        rw [new]
        intro x inside
        cases List.mem_append.mp inside with
        | inr last =>
            rw [List.mem_singleton.mp last]
            exact ⟨later candidate List.mem_cons_self, control⟩
        | inl before =>
            cases there : d.get? candidate.1.robotId with
            | none =>
                rw [there] at before
                exact absurd before List.not_mem_nil
            | some controls =>
                rw [there] at before
                exact holds _ (Dict.mem_of_get? there) x before

/-! ## The passes of the service floor -/

theorem foldl_set_get? {α V : Type} {key : α → Str} (value : α → V) {items : List α}
    (distinct : (items.map key).Nodup) {x : α} (among : x ∈ items) :
    Dict.get? (items.foldl (fun d x => d.set (key x) (value x)) []) (key x) = some (value x) := by
  rw [Dict.foldl_set_eq_map key value distinct]
  apply Dict.get?_of_mem
  · rw [List.map_map]
    exact distinct
  · exact List.mem_map_of_mem (f := fun x => (key x, value x)) among

/-- What a pass needs to know of the round. -/
structure Round (candidates : List (Candidate F)) (link : NetworkLink F) (flows : List Str)
    (must : Str → Prop) : Prop where
  valid : Valid candidates link
  flows : flows.Perm (candidates.map fun candidate => candidate.1.flowId)
  critical : ∀ k, must k → controls (specById candidates) k

namespace Round

theorem distinct (r : Round candidates link flows must) : flows.Nodup :=
  r.flows.nodup_iff.mpr r.valid.distinct

theorem listed (r : Round candidates link flows must) {x : Candidate F} (among : x ∈ candidates) :
    x.1.flowId ∈ flows :=
  r.flows.symm.subset (List.mem_map_of_mem (f := fun candidate => candidate.1.flowId) among)

theorem controls_iff (r : Round candidates link flows must) {x : Candidate F}
    (among : x ∈ candidates) :
    controls (specById candidates) x.1.flowId = x.1.flowClass.isControl := by
  unfold controls
  rw [show (specById candidates).get? x.1.flowId = some x.1 from
    foldl_set_get? Prod.fst r.valid.distinct among]
  rfl

end Round

variable {s : FloorState F} {x : Candidate F} (r : Round candidates link flows must)
include r

/-- Serving a flow for more bytes than the decision before it sends. -/
theorem serve_fits (h : Fits flows must link.capacityBytesPerTick s.sent s.decisions)
    (among : x ∈ candidates) (control : x.1.flowClass.isControl) (sends : new.Sends x.1.flowId)
    {more : Int} (there : s.decisions.get? x.1.flowId = some old)
    (counted : new.allocatedBytes ≤ more + old.sentBytes) :
    Fits flows must link.capacityBytesPerTick
      (s.serve (specById candidates) link x.1.flowId new more).1.sent
      (s.serve (specById candidates) link x.1.flowId new more).1.decisions := by
  have reclaims := reclaimFor_reclaims link h r.distinct r.critical more
  unfold FloorState.serve
  dsimp only
  split
  case isFalse => exact reclaims.fits
  case isTrue within =>
    have bytes := FlowDecision.sentBytes_of_sent sends.sent
    have some_bytes := sends.some_bytes
    have before := reclaims.same _ ((r.controls_iff among).trans control)
    apply reclaims.fits.set (before.trans there) sends.names
    · omega
    · exact fun _ => sends.sent
    · dsimp only
      omega
    · exact within

/-- A control flow is served with what may be chosen for it. -/
theorem serve_chosen (h : Fits flows must link.capacityBytesPerTick s.sent s.decisions)
    (among : x ∈ candidates) (control : x.1.flowClass.isControl) (sends : new.Sends x.1.flowId) :
    Fits flows must link.capacityBytesPerTick
      (s.serve (specById candidates) link x.1.flowId new new.allocatedBytes).1.sent
      (s.serve (specById candidates) link x.1.flowId new new.allocatedBytes).1.decisions := by
  obtain ⟨old, there⟩ := h.found (r.listed among)
  have some_bytes := h.nonneg_of_get? there
  exact serve_fits r h among control sends there (by omega)

variable (config c) in
theorem nAwareControlFloorTurn_ok
    (h : Fits flows must link.capacityBytesPerTick s.sent s.decisions)
    {robot : Str × List (Candidate F)}
    (known : ∀ x ∈ robot.2, x ∈ candidates ∧ x.1.flowClass.isControl) :
    ∃ s', nAwareControlFloorTurn config c (specById candidates) link s robot = .ok s' ∧
      Fits flows must link.capacityBytesPerTick s'.sent s'.decisions := by
  obtain ⟨chosen, built, sends⟩ := nAwareControlFloorDecision_ok config r.valid c.scheduleTick
    known (pyMax config.nAwareControlFloorPressure (c.servicePressureFor config robot.1))
  unfold nAwareControlFloorTurn
  dsimp only
  rw [built, ok_bind]
  cases chosen with
  | none => exact ⟨s, rfl, h⟩
  | some floorDecision =>
      obtain ⟨x, among, control, sends⟩ := sends floorDecision rfl
      have served := serve_chosen r h among control sends
      dsimp only
      rw [sends.names]
      split
      · exact ⟨_, rfl, served⟩
      · exact ⟨_, rfl, served⟩

variable (config c) in
theorem controlFloorTurn_ok (h : Fits flows must link.capacityBytesPerTick s.sent s.decisions)
    (among : x ∈ candidates) :
    ∃ s', controlFloorTurn config c (specById candidates) link s x = .ok s' ∧
      Fits flows must link.capacityBytesPerTick s'.sent s'.decisions := by
  unfold controlFloorTurn
  dsimp only
  split
  · exact ⟨s, rfl, h⟩
  split
  · exact ⟨s, rfl, h⟩
  split
  · exact ⟨s, rfl, h⟩
  obtain ⟨chosen, built, sends⟩ := controlFloorDecision_ok config x.2
    (r.valid.flows x among) r.valid.link (c.servicePressureFor config x.1.robotId)
  rw [built, ok_bind]
  cases chosen with
  | none => exact ⟨s, rfl, h⟩
  | some floorDecision =>
      exact ⟨_, rfl, serve_chosen r h among (by simpa using ‹¬(!_) = true›) (sends _ rfl)⟩

variable (config c) in
theorem horizonLiftTurn_ok (h : Fits flows must link.capacityBytesPerTick s.sent s.decisions)
    (among : x ∈ candidates) :
    ∃ s', horizonLiftTurn config c (specById candidates) link s x = .ok s' ∧
      Fits flows must link.capacityBytesPerTick s'.sent s'.decisions := by
  obtain ⟨decision, there⟩ := h.found (r.listed among)
  unfold horizonLiftTurn
  dsimp only
  rw [there]
  cases c.states.get? x.1.robotId with
  | none => exact ⟨s, rfl, h⟩
  | some state =>
      dsimp only
      split
      · exact ⟨s, rfl, h⟩
      split
      · exact ⟨s, rfl, h⟩
      split
      · exact ⟨s, rfl, h⟩
      split
      · exact ⟨s, rfl, h⟩
      next other =>
        obtain ⟨chosen, built, sends⟩ := controlDeadlineHorizonDecision_ok config x.2
          (r.valid.flows x among) r.valid.link
          (pyMax state.deadlineDeficit state.controlIntentDeficit) decision
          state.controlIntentDeficit
        rw [built, ok_bind]
        cases chosen with
        | none => exact ⟨s, rfl, h⟩
        | some lifted =>
            have isSent : decision.isSent := by
              rw [not_or] at other
              simpa using other.1
            have bytes := FlowDecision.sentBytes_of_sent isSent
            refine ⟨_, rfl, serve_fits r h among (by simpa using ‹¬(!_) = true›) (sends _ rfl) there ?_⟩
            omega

omit r in
theorem mem_of_specById (distinct : (candidates.map fun candidate => candidate.1.flowId).Nodup)
    (there : (specById candidates).get? k = some spec) :
    ∃ x ∈ candidates, x.1 = spec ∧ spec.flowId = k := by
  have all : specById candidates = candidates.map fun x => (x.1.flowId, x.1) :=
    Dict.foldl_set_eq_map (fun x : Candidate F => x.1.flowId) (fun x => x.1) distinct
  have among := Dict.mem_of_get? there
  rw [all] at among
  obtain ⟨x, inside, same⟩ := List.mem_map.mp among
  obtain ⟨names, found⟩ := Prod.mk.inj same
  exact ⟨x, inside, found, found ▸ names⟩

/-! ## Shaping and the firewall -/

omit r in
theorem FlowClass.not_isControl_of_isShed {flowClass : FlowClass} (shed : flowClass.isShed) :
    ¬flowClass.isControl := by
  cases flowClass with
  | safety | control | coordination => cases shed
  | state | perception | humanQoe | debug | bulk => exact Bool.false_ne_true

omit r in
variable (config obs) in
theorem pressureShapedDecision_ok (validSpec : spec.validates = .ok ())
    (validLink : link.validates = .ok ()) {decision : FlowDecision F}
    (names : spec.flowId = decision.flowId) (isSent : decision.isSent)
    (nonneg : 0 ≤ decision.sentBytes) (pressure : F) :
    ∃ chosen, pressureShapedDecision config spec obs link decision pressure = .ok chosen ∧
      ∀ shaped ∈ chosen, decision.Lowers shaped := by
  obtain ⟨options, built, holds⟩ := feasibleOptions_ok config obs validSpec validLink
  unfold pressureShapedDecision
  rw [built, ok_bind]
  dsimp only
  split
  case h_1 selected least =>
    refine ⟨_, rfl, ?_⟩
    rintro shaped ⟨⟩
    obtain ⟨among, fewer⟩ := List.mem_filter.mp (mem_of_minBy least)
    obtain ⟨bytes, action⟩ := holds selected among
    have sends := decisionFor_sends spec bytes action
    exact (names ▸ sends _ _ _).lowers isSent (of_decide_eq_true fewer)
  case h_2 =>
    split
    · refine ⟨_, rfl, ?_⟩
      rintro shaped ⟨⟩
      exact FlowDecision.deferred_lowers nonneg _ _
    · exact ⟨none, rfl, fun _ among => nomatch among⟩

omit r in
variable (config obs) in
theorem deadlineFirewallReplacement_ok (validSpec : spec.validates = .ok ())
    (validLink : link.validates = .ok ()) {decision : FlowDecision F}
    (names : spec.flowId = decision.flowId) (isSent : decision.isSent) :
    ∃ chosen, deadlineFirewallReplacement config spec obs link decision = .ok chosen ∧
      ∀ shaped ∈ chosen, decision.Lowers shaped := by
  obtain ⟨all, built⟩ := transformCandidates_of_valid obs config.floorOptions validSpec validLink
  unfold deadlineFirewallReplacement
  rw [built, ok_bind]
  refine ⟨_, rfl, ?_⟩
  intro shaped among
  obtain ⟨selected, least, rfl⟩ := Option.mem_map.mp among
  obtain ⟨among, chosen⟩ := List.mem_filter.mp (mem_of_minBy least)
  have bytes := one_le_allocatedBytes built selected among
  simp only [Bool.and_eq_true, decide_eq_true_eq, Bool.not_eq_true', decide_eq_false_iff_not] at chosen
  obtain ⟨⟨action, fewer⟩, -⟩ := chosen
  have sends := decisionFor_sends spec bytes action
  apply (names ▸ sends _ _ _).lowers isSent
  by_contra more
  exact fewer (max_le bytes (Int.not_lt.mp more))

/-- An item of `shapeable` is a decision of the table for a flow that is not one of control. -/
theorem of_mem_shapeable {observations : Dict Str (FlowObservation F)} {robotId : Str}
    {item : FlowDecision F × FlowSpec F × FlowObservation F}
    (among : item ∈ shapeable (specById candidates) observations d robotId) :
    item.1.isSent ∧ item.2.1.flowId = item.1.flowId ∧ item.2.1.validates = .ok () ∧
      ¬must item.1.flowId := by
  have chosen := (sortedBy_perm _ _).subset among
  obtain ⟨decision, -, found⟩ := List.mem_filterMap.mp chosen
  split at found
  case h_2 => cases found
  case h_1 spec obs there _ =>
    split at found
    case isFalse => cases found
    case isTrue holds =>
      obtain rfl := Option.some.inj found
      obtain ⟨x, inside, rfl, names⟩ := mem_of_specById r.valid.distinct there
      refine ⟨holds.1, names, r.valid.flows x inside, ?_⟩
      intro wanted
      have control := r.critical _ wanted
      rw [← names, r.controls_iff inside] at control
      exact FlowClass.not_isControl_of_isShed holds.2.2 control

theorem shapeable_standing (h : Fits flows must capacity sent d)
    (observations : Dict Str (FlowObservation F)) (robotId : Str) :
    Standing d ((shapeable (specById candidates) observations d robotId).map Prod.fst) := by
  apply Standing.perm _ ((sortedBy_perm _ _).map _)
  apply (h.standing r.distinct).sublist
  rw [List.map_filterMap]
  generalize d.map Prod.snd = decisions
  induction decisions with
  | nil => exact List.Sublist.refl _
  | cons decision rest ih =>
      rw [List.filterMap_cons]
      split
      case h_1 => exact ih.cons _
      case h_2 chosen found =>
        obtain ⟨item, found, rfl⟩ := Option.map_eq_some_iff.mp found
        have same : item.1 = decision := by
          split at found
          case h_2 => cases found
          case h_1 =>
            split at found
            case isFalse => cases found
            case isTrue => exact (Option.some.inj found) ▸ rfl
        rw [same]
        exact ih.cons_cons decision

/-- What holds while decisions are shaped. -/
structure Shaping (flows : List Str) (must : Str → Prop) (capacity sent : Int)
    (rest : List (FlowDecision F × FlowSpec F × FlowObservation F)) (s : Decisions F × Int) :
    Prop where
  standing : Standing s.1 (rest.map Prod.fst)
  known : ∀ item ∈ rest, item.1.isSent ∧ item.2.1.flowId = item.1.flowId ∧
    item.2.1.validates = .ok () ∧ ¬must item.1.flowId
  fits : Fits flows must capacity sent s.1

omit r in
variable (config) in
theorem shapeTurn_ok (validLink : link.validates = .ok ())
    {item : FlowDecision F × FlowSpec F × FlowObservation F}
    {rest : List (FlowDecision F × FlowSpec F × FlowObservation F)} {s : Decisions F × Int}
    (h : Shaping flows must capacity sent (item :: rest) s) (pressure : F) (target : Int) :
    ∃ s', shapeTurn config link pressure target s item = .ok s' ∧
      Shaping flows must capacity sent rest s' := by
  obtain ⟨isSent, names, validSpec, free⟩ := h.known item List.mem_cons_self
  have there := h.standing.there item.1 List.mem_cons_self
  have later := fun item among => h.known item (List.mem_cons_of_mem _ among)
  have same : Shaping flows must capacity sent rest s := ⟨h.standing.tail, later, h.fits⟩
  obtain ⟨chosen, built, lowers⟩ := pressureShapedDecision_ok config item.2.2 validSpec validLink
    names isSent (h.fits.nonneg_of_get? there) pressure
  unfold shapeTurn
  dsimp only
  split
  · exact ⟨s, rfl, same⟩
  rw [built, ok_bind]
  cases chosen with
  | none => exact ⟨s, rfl, same⟩
  | some replacement =>
      exact ⟨_, rfl, h.standing.tail_set, later, h.fits.lower there (lowers _ rfl) free⟩

variable (config c) in
theorem shapeNoncriticalForRobotPressure_ok
    (h : Fits flows must link.capacityBytesPerTick sent d)
    (observations : Dict Str (FlowObservation F)) (robot : Str × F) :
    ∃ d', shapeNoncriticalForRobotPressure config c (specById candidates) observations link d robot
        = .ok d' ∧
      Fits flows must link.capacityBytesPerTick sent d' := by
  unfold shapeNoncriticalForRobotPressure
  dsimp only
  split
  · exact ⟨d, rfl, h⟩
  · have start : Shaping flows must link.capacityBytesPerTick sent
        (shapeable (specById candidates) observations d robot.1) (d, 0) :=
      ⟨shapeable_standing r h observations robot.1, fun item among => of_mem_shapeable r among, h⟩
    obtain ⟨s', built, shaped⟩ := foldlM_holds
      (fun item rest s holds => shapeTurn_ok config r.valid.link holds robot.2 _) start
    rw [built]
    exact ⟨s'.1, rfl, shaped.fits⟩

variable (config) in
theorem firewallTurn_ok (h : Fits flows must link.capacityBytesPerTick sent d)
    (among : x ∈ candidates) :
    ∃ d', firewallTurn config link d x = .ok d' ∧
      Fits flows must link.capacityBytesPerTick sent d' := by
  obtain ⟨decision, there⟩ := h.found (r.listed among)
  unfold firewallTurn
  dsimp only
  rw [there]
  dsimp only
  split
  case isTrue => exact ⟨d, rfl, h⟩
  case isFalse applies =>
    simp only [Bool.not_eq_true', Bool.not_eq_false, Bool.and_eq_true] at applies
    split
    · exact ⟨d, rfl, h⟩
    have names := h.flowId_of_get? there
    have free : ¬must x.1.flowId := by
      intro wanted
      have control := (r.controls_iff among).symm.trans (r.critical _ wanted)
      exact FlowClass.not_isControl_of_isShed applies.2 control
    obtain ⟨chosen, built, lowers⟩ := deadlineFirewallReplacement_ok config x.2
      (r.valid.flows x among) r.valid.link names.symm applies.1
    rw [built, ok_bind]
    refine ⟨_, rfl, h.lower there ?_ free⟩
    cases chosen with
    | none => exact FlowDecision.deferred_lowers (h.nonneg_of_get? there) _ _
    | some replacement => exact lowers replacement rfl

end

/-! ## Lists of decisions -/

section
variable {F : Type} [FloatOps F] {flows : List Str} {must : Str → Prop} {capacity sent : Int}
  {d : Decisions F} {decisions decisions' : List (FlowDecision F)} {link : NetworkLink F}
  {config : RobotBudgetConfig F} {c : RobotBudgetController F} {candidates : List (Candidate F)}

/-- One decision for each flow, which send no more than the capacity, and every flow that has to
    be sent. -/
structure Admits (flows : List Str) (must : Str → Prop) (capacity : Int)
    (decisions : List (FlowDecision F)) : Prop where
  ids : (decisions.map FlowDecision.flowId).Perm flows
  nonneg : ∀ decision ∈ decisions, 0 ≤ decision.sentBytes
  within : sentTotal decisions ≤ capacity
  keeps : ∀ k, must k → ∃ decision ∈ decisions, decision.flowId = k ∧ decision.isSent

theorem byId_eq_map (distinct : (decisions.map FlowDecision.flowId).Nodup) :
    byId decisions = decisions.map fun decision => (decision.flowId, decision) :=
  Dict.foldl_set_eq_map FlowDecision.flowId (fun decision => decision) distinct

theorem sentTotal_values (d : Decisions F) :
    sentTotal (d.map Prod.snd) = d.total FlowDecision.sentBytes := by
  unfold sentTotal Dict.total
  rw [List.map_map]
  rfl

namespace Admits

theorem fits (h : Admits flows must capacity decisions) (distinct : flows.Nodup) :
    Fits flows must capacity (sentTotal ((byId decisions).map Prod.snd)) (byId decisions) := by
  have ids := h.ids.nodup_iff.mpr distinct
  have values : (byId decisions).map Prod.snd = decisions := by
    rw [byId_eq_map ids, List.map_map]
    exact List.map_id decisions
  have entries : ∀ e ∈ byId decisions, e.2 ∈ decisions ∧ e.2.flowId = e.1 := by
    intro e among
    rw [byId_eq_map ids] at among
    obtain ⟨decision, inside, rfl⟩ := List.mem_map.mp among
    exact ⟨inside, rfl⟩
  constructor
  · rw [byId_eq_map ids, List.map_map]
    exact h.ids
  · exact fun e among => (entries e among).2
  · exact fun e among => h.nonneg e.2 (entries e among).1
  · exact (sentTotal_values _).ge
  · rw [values]
    exact h.within
  · intro k wanted
    obtain ⟨decision, among, rfl, isSent⟩ := h.keeps k wanted
    unfold sentIn
    rw [byId, foldl_set_get? (fun decision => decision) ids among]
    exact isSent

theorem of_fits (h : Fits flows must capacity sent d) :
    Admits flows must capacity (sortedByFlow (d.map Prod.snd)) := by
  have same : (sortedByFlow (d.map Prod.snd)).Perm (d.map Prod.snd) := sortedBy_perm _ _
  constructor
  · have names : (d.map Prod.snd).map FlowDecision.flowId = d.map Prod.fst := by
      rw [List.map_map]
      exact List.map_congr_left h.named
    exact (same.map _).trans (names ▸ h.keys)
  · intro decision among
    obtain ⟨e, inside, rfl⟩ := List.mem_map.mp (same.subset among)
    exact h.nonneg e inside
  · rw [sentTotal_perm same, sentTotal_values]
    exact Int.le_trans h.counted h.within
  · intro k wanted
    obtain ⟨decision, there, isSent⟩ := (Option.any_eq_true _ _).mp (h.keeps k wanted)
    have among := Dict.mem_of_get? there
    exact ⟨decision, same.symm.subset (List.mem_map_of_mem (f := Prod.snd) among),
      h.named _ among, isSent⟩

end Admits

variable (config c) in
/-- Annotating changes nothing but the reason. -/
theorem annotateDecision_eq (specs : Dict Str (FlowSpec F)) (decision : FlowDecision F) :
    ∃ reason, annotateDecision config c specs decision = { decision with reason } := by
  unfold annotateDecision
  split
  · exact ⟨_, rfl⟩
  · dsimp only
    split
    · exact ⟨_, rfl⟩
    · exact ⟨_, rfl⟩

variable (config c) in
theorem Admits.annotated (h : Admits flows must capacity decisions)
    (specs : Dict Str (FlowSpec F)) :
    Admits flows must capacity (sortedByFlow (decisions.map (annotateDecision config c specs))) := by
  have same : (sortedByFlow (decisions.map (annotateDecision config c specs))).Perm
      (decisions.map (annotateDecision config c specs)) := sortedBy_perm _ _
  have each : ∀ decision, (annotateDecision config c specs decision).flowId = decision.flowId ∧
      (annotateDecision config c specs decision).isSent = decision.isSent ∧
      (annotateDecision config c specs decision).sentBytes = decision.sentBytes := by
    intro decision
    obtain ⟨reason, annotated⟩ := annotateDecision_eq config c specs decision
    rw [annotated]
    exact ⟨rfl, rfl, rfl⟩
  constructor
  · refine (same.map _).trans ?_
    rw [List.map_map, show FlowDecision.flowId ∘ annotateDecision config c specs =
      FlowDecision.flowId from funext fun decision => (each decision).1]
    exact h.ids
  · intro annotated among
    obtain ⟨decision, inside, rfl⟩ := List.mem_map.mp (same.subset among)
    rw [(each decision).2.2]
    exact h.nonneg decision inside
  · rw [sentTotal_perm same]
    unfold sentTotal
    rw [List.map_map, show FlowDecision.sentBytes ∘ annotateDecision config c specs =
      FlowDecision.sentBytes from funext fun decision => (each decision).2.2]
    exact h.within
  · intro k wanted
    obtain ⟨decision, inside, rfl, isSent⟩ := h.keeps k wanted
    exact ⟨_, same.symm.subset (List.mem_map_of_mem inside), (each decision).1,
      (each decision).2.1.trans isSent⟩

/-! ## The round -/

variable (config c) in
theorem applyNAwareControlServiceFloor_ok {s : FloorState F} (r : Round candidates link flows must)
    (h : Fits flows must link.capacityBytesPerTick s.sent s.decisions) :
    ∃ s', applyNAwareControlServiceFloor config c candidates (specById candidates) link s = .ok s' ∧
      Fits flows must link.capacityBytesPerTick s'.sent s'.decisions := by
  unfold applyNAwareControlServiceFloor
  dsimp only
  split
  · exact ⟨s, rfl, h⟩
  split
  · exact ⟨s, rfl, h⟩
  refine foldlM_keeps (P := fun s : FloorState F => Fits flows must link.capacityBytesPerTick s.sent s.decisions)
    ?_ h
  intro robot among s fits
  have known := List.mem_of_mem_filter ((sortedBy_perm _ _).subset among)
  exact nAwareControlFloorTurn_ok config c r fits (mem_of_mem_controlByRobot known)

variable (config c) in
theorem applyControlDeadlineHorizonLift_ok {s : FloorState F}
    (r : Round candidates link flows must)
    (h : Fits flows must link.capacityBytesPerTick s.sent s.decisions) :
    ∃ s', applyControlDeadlineHorizonLift config c candidates (specById candidates) link s =
        .ok s' ∧
      Fits flows must link.capacityBytesPerTick s'.sent s'.decisions := by
  unfold applyControlDeadlineHorizonLift
  split
  · exact ⟨s, rfl, h⟩
  · exact foldlM_keeps
      (P := fun s : FloorState F => Fits flows must link.capacityBytesPerTick s.sent s.decisions)
      (fun x among s fits => horizonLiftTurn_ok config c r fits among) h

variable (config c) in
theorem applyControlServiceFloor_ok (r : Round candidates link flows must)
    (h : Admits flows must link.capacityBytesPerTick decisions) :
    ∃ decisions' lastServed,
      applyControlServiceFloor config c candidates decisions link = .ok (decisions', lastServed) ∧
      Admits flows must link.capacityBytesPerTick decisions' := by
  let start : FloorState F := {
    decisions := byId decisions
    sent := sentTotal ((byId decisions).map Prod.snd)
    lastServed := c.controlFloorLastServedTick }
  obtain ⟨s₁, first, fits⟩ :=
    applyNAwareControlServiceFloor_ok config c r (s := start) (h.fits r.distinct)
  obtain ⟨s₂, second, fits⟩ := foldlM_keeps
    (P := fun s : FloorState F => Fits flows must link.capacityBytesPerTick s.sent s.decisions)
    (fun x among s fits => controlFloorTurn_ok config c r fits among) fits
  obtain ⟨s₃, third, fits⟩ := applyControlDeadlineHorizonLift_ok config c r fits
  obtain ⟨d, shaped, fits⟩ := foldlM_keeps (P := Fits flows must link.capacityBytesPerTick s₃.sent)
    (fun robot _ d fits => shapeNoncriticalForRobotPressure_ok config c r fits
      (obsById candidates) robot) fits
  refine ⟨_, s₃.lastServed, ?_, Admits.of_fits fits⟩
  unfold applyControlServiceFloor
  dsimp only
  rw [first, ok_bind, second, ok_bind, third, ok_bind, shaped, ok_bind]
  rfl

variable (config) in
theorem applyDeadlineFeasibilityFirewall_ok (r : Round candidates link flows must)
    (h : Admits flows must link.capacityBytesPerTick decisions) :
    ∃ decisions', applyDeadlineFeasibilityFirewall config candidates decisions link =
        .ok decisions' ∧
      Admits flows must link.capacityBytesPerTick decisions' := by
  unfold applyDeadlineFeasibilityFirewall
  split
  · exact ⟨decisions, rfl, h⟩
  · obtain ⟨d, walled, fits⟩ := foldlM_keeps
      (fun x among d fits => firewallTurn_ok config r fits among) (h.fits r.distinct)
    rw [walled]
    exact ⟨_, rfl, Admits.of_fits fits⟩

end

/-! ## A flow that is too old for its link -/

/-- A bulk flow, and a control flow of the same robot. -/
def oldFlow (flowId : Str) (flowClass : FlowClass) (nominalSizeBytes : Int) : Candidate Fixed :=
  let spec : FlowSpec Fixed := {
    flowId
    robotId := lit "r"
    topic := lit "t"
    flowClass
    qos := {
      deadlineMs := 50.0
      lifespanMs := 500.0 }
    qoe := ⟨false, 0.0, 0.0, 0.0⟩
    nominalSizeBytes
    nominalRateHz := 10.0
    causalTaskGain := 1.0
    redundancy := 0.0
    semanticDeltaRatio := 1.0 }
  let obs : FlowObservation Fixed := {
    ageMs := 100.0
    queueDepth := 1
    measuredLoss := 0.0
    measuredRttMs := 10.0
    task := ⟨lit "task", lit "r", 0.5, 0.5, 0.5, 0.5⟩ }
  (spec, obs)

def shortLink : NetworkLink Fixed :=
  { capacityBytesPerTick := 100
    loss := 0.0
    jitterMs := 1.0
    rttMs := 10.0 }

def sending (flowId : Str) (allocatedBytes : Int) : FlowDecision Fixed :=
  { flowId
    action := lit "send"
    priority := 1.0
    allocatedBytes
    reason := []
    predictedSlackMs := 0.0 }

end FleetRMW.Admission
