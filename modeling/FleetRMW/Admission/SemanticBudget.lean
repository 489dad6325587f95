import FleetRMW.Admission.SemanticAdmission
import FleetRMW.Admission.PredictiveBudget
import FleetRMW.Lib.Totals

/-! # What the semantic contract sends

Each flow is decided about once. What is sent of it is one representation whose certificate is
feasible, and all that is sent fits in the bytes of the tick.
-/

namespace FleetRMW.Admission

open Lib FloatOps

namespace SemanticContractAdmissionController

section
variable {F : Type} [FloatOps F]

variable {c : SemanticContractAdmissionController F} {candidates : List (Candidate F)}
  {link : NetworkLink F} {action : CertifiedAction F} {s s' : SelectionState F}

/-! ## What is generated -/

def isStale (x : Candidate F) : Bool := x.2.ageMs > x.1.qos.lifespanMs

/-- The representations of a flow. -/
def optionsOf (c : SemanticContractAdmissionController F) (link : NetworkLink F)
    (x : Candidate F) : List (TransformCandidate F) :=
  (transformCandidates x.1 x.2 link c.transformOptions).toOption.getD []

/-- The decisions that drop stale samples. -/
def staleDrops (c : SemanticContractAdmissionController F) (candidates : List (Candidate F)) :
    List (FlowDecision F) :=
  (candidates.filter isStale).map fun x =>
    c.predictive.drop x.1 (lit "stale beyond lifespan") x.2

def generatedOf (c : SemanticContractAdmissionController F) (link : NetworkLink F)
    (x : Candidate F) : Generated F :=
  (x, withoutNeedlessIntents (c.optionsOf link x))

theorem transformCandidates_eq (valid : Valid candidates link) {x : Candidate F}
    (among : x ∈ candidates) :
    transformCandidates x.1 x.2 link c.transformOptions = .ok (c.optionsOf link x) := by
  obtain ⟨options, built⟩ := transformCandidates_of_valid x.2 c.transformOptions
    (valid.flows x among) valid.link
  unfold optionsOf
  rw [built]
  rfl

theorem generateAll_eq (valid : Valid candidates link) :
    c.generateAll candidates link = .ok (c.staleDrops candidates,
      (candidates.filter fun x => !isStale x).map fun x =>
        (x.1.flowId, c.generatedOf link x)) := by
  have general : ∀ (rest : List (Candidate F)) (decisions : List (FlowDecision F))
      (generated : Dict Str (Generated F)), (∀ x ∈ rest, x ∈ candidates) →
      rest.foldlM (fun acc x => do
        x.1.validates
        if x.2.ageMs > x.1.qos.lifespanMs then
          pure (acc.1 ++ [c.predictive.drop x.1 (lit "stale beyond lifespan") x.2], acc.2)
        else
          let options ← transformCandidates x.1 x.2 link c.transformOptions
          pure (acc.1, acc.2.set x.1.flowId (x, withoutNeedlessIntents options)))
        (decisions, generated) =
      (.ok (decisions ++ c.staleDrops rest,
        (rest.filter fun x => !isStale x).foldl
          (fun d x => d.set x.1.flowId (c.generatedOf link x)) generated) :
        Except Str (List (FlowDecision F) × Dict Str (Generated F))) := by
    intro rest
    induction rest with
    | nil =>
        intro decisions generated _
        rw [List.foldlM_nil, staleDrops, List.filter_nil, List.map_nil, List.append_nil]
        rfl
    | cons x rest ih =>
        intro decisions generated known
        have among := known x List.mem_cons_self
        have others := fun y inside => known y (List.mem_cons_of_mem x inside)
        rw [List.foldlM_cons]
        dsimp only
        rw [valid.flows x among, ok_bind]
        unfold staleDrops
        by_cases old : x.2.ageMs > x.1.qos.lifespanMs
        case pos =>
          have stale : isStale x = true := decide_eq_true old
          rw [if_pos old]
          refine (ih _ generated others).trans ?_
          rw [List.filter_cons, List.filter_cons, if_pos stale, if_neg (by rw [stale]; decide),
            List.map_cons, List.append_assoc]
          rfl
        case neg =>
          have fresh : isStale x = false := decide_eq_false old
          rw [if_neg old, transformCandidates_eq valid among]
          refine (ih decisions _ others).trans ?_
          rw [List.filter_cons, List.filter_cons, if_neg (by rw [fresh]; decide),
            if_pos (by rw [fresh]; rfl), List.foldl_cons]
          rfl
  have distinct : ((candidates.filter fun x => !isStale x).map fun x => x.1.flowId).Nodup :=
    valid.distinct.sublist (List.filter_sublist.map _)
  refine (general candidates [] [] fun _ among => among).trans ?_
  rw [Dict.foldl_set_eq_map (fun x : Candidate F => x.1.flowId) (c.generatedOf link) distinct,
    List.nil_append]

/-- Leaving intents out adds nothing. -/
theorem withoutNeedlessIntents_subset (options : List (TransformCandidate F)) :
    withoutNeedlessIntents options ⊆ options := by
  unfold withoutNeedlessIntents
  split
  · exact List.filter_sublist.subset
  split
  · exact List.filter_sublist.subset
  · exact List.Subset.refl _

/-- A certified action sends a feasible representation of its flow. -/
structure Certifies (c : SemanticContractAdmissionController F) (link : NetworkLink F)
    (x : Candidate F) (action : CertifiedAction F) : Prop where
  names : action.flowId = x.1.flowId
  listed : action.candidate ∈ c.optionsOf link x
  feasible : action.candidate.certificate.feasible = true

theorem certifies_of_mem {scarcity : F} {x : Candidate F}
    (among : action ∈ c.certifiedActions link scarcity (c.generatedOf link x)) :
    Certifies c link x action := by
  unfold certifiedActions generatedOf at among
  obtain ⟨candidate, chosen, rfl⟩ := List.mem_map.mp (List.mem_of_mem_filter among)
  obtain ⟨listed, certified⟩ := List.mem_filter.mp chosen
  exact ⟨rfl, withoutNeedlessIntents_subset _ listed, (Bool.and_eq_true_iff.mp certified).1⟩

/-! ## Selection -/

/-- What an action takes of the tick. -/
def offer (s : SelectionState F) (action : CertifiedAction F) :
    Option (CertifiedAction F × SelectionState F) :=
  let counts := countsAgainstLossPacketBudget action.spec.flowClass
  if action.flowId ∈ s.selected.map CertifiedAction.flowId then none
  else if action.candidate.allocatedBytes > s.remaining then none
  else if counts ∧ s.noncriticalPacketBudget.any (· ≤ 0) then none
  else some (action,
    { selected := s.selected ++ [action]
      remaining := s.remaining - action.candidate.allocatedBytes
      noncriticalPacketBudget :=
        if counts then s.noncriticalPacketBudget.map (· - 1) else s.noncriticalPacketBudget })

theorem selectTurn_eq : selectTurn s action = ((offer s action).map Prod.snd).getD s := by
  unfold selectTurn offer
  dsimp only
  split
  · rfl
  split
  · rfl
  split
  · rfl
  · rfl

/-- What taking an action says of it and of the state behind it. -/
structure Takes (s : SelectionState F) (action taken : CertifiedAction F)
    (s' : SelectionState F) : Prop where
  same : taken = action
  fresh : action.flowId ∉ s.selected.map CertifiedAction.flowId
  fits : action.candidate.allocatedBytes ≤ s.remaining
  selected : s'.selected = s.selected ++ [action]
  remaining : s'.remaining = s.remaining - action.candidate.allocatedBytes

theorem takes_of_offer {taken : CertifiedAction F} (made : offer s action = some (taken, s')) :
    Takes s action taken s' := by
  unfold offer at made
  dsimp only at made
  split at made
  · cases made
  rename_i fresh
  split at made
  · cases made
  rename_i fits
  split at made
  · cases made
  obtain ⟨rfl, rfl⟩ := Prod.mk.inj (Option.some.inj made)
  exact ⟨rfl, fresh, Int.not_lt.mp fits, rfl, rfl⟩

theorem foldl_selectTurn (actions : List (CertifiedAction F)) (s : SelectionState F) :
    actions.foldl selectTurn s = Spending.left offer actions s ∧
      (Spending.left offer actions s).selected = s.selected ++ Spending.taken offer actions s := by
  induction actions generalizing s with
  | nil => exact ⟨rfl, (List.append_nil _).symm⟩
  | cons action rest ih =>
      unfold Spending.taken Spending.left
      rw [List.foldl_cons, selectTurn_eq]
      cases made : offer s action with
      | none => exact ih s
      | some taking =>
          obtain ⟨taken, s'⟩ := taking
          have takes := takes_of_offer made
          obtain ⟨same, selected⟩ := ih s'
          refine ⟨same, ?_⟩
          dsimp only
          rw [selected, takes.selected, takes.same, List.append_assoc, List.singleton_append]

/-- All partitions in the order of admission. -/
def orderedActions (certified : List (CertifiedAction F)) : List (CertifiedAction F) :=
  (certifiedPartitions certified).flatMap
    (sortedByDesc (F := F) fun item => [.float item.score, .float item.density])

theorem select_eq (certified : List (CertifiedAction F)) (s : SelectionState F) :
    select certified s = (orderedActions certified).foldl selectTurn s := by
  unfold select orderedActions
  rw [List.foldl_flatMap]

theorem orderedActions_subset (certified : List (CertifiedAction F)) :
    orderedActions certified ⊆ certified := by
  intro action among
  obtain ⟨partition, inside, listed⟩ := List.mem_flatMap.mp among
  have chosen := (sortedByDesc_perm _ _).subset listed
  simp only [certifiedPartitions, List.mem_cons, List.not_mem_nil, or_false] at inside
  rcases inside with rfl | rfl | rfl | rfl
  · exact List.mem_of_mem_filter chosen
  · exact List.mem_of_mem_filter chosen
  · exact List.mem_of_mem_filter chosen
  · exact List.mem_of_mem_filter chosen

theorem bytesMeter : Spending.Meter (offer (F := F)) (fun _ => True) (fun _ => True)
    SelectionState.remaining (fun action => action.candidate.allocatedBytes) where
  keeps _ _ _ _ _ _ _ := trivial
  spends := by
    intro s action taken s' _ _ made
    have takes := takes_of_offer made
    rw [takes.remaining, takes.same]
  within := by
    intro s action taken s' _ _ made
    have takes := takes_of_offer made
    have fits := takes.fits
    rw [takes.remaining]
    omega

def takenIds (s : SelectionState F) : List Str := s.selected.map CertifiedAction.flowId

/-- No flow is taken twice. -/
theorem once_taken (actions : List (CertifiedAction F)) (s : SelectionState F) :
    ((Spending.taken offer actions s).map CertifiedAction.flowId).Nodup ∧
      ∀ action ∈ Spending.taken offer actions s, action.flowId ∉ takenIds s := by
  apply Spending.nodup_keys_taken
  · intro s action taken s' made
    have takes := takes_of_offer made
    rw [takes.same]
    exact takes.fresh
  · intro s action taken s' made id
    have takes := takes_of_offer made
    unfold takenIds
    rw [takes.same, takes.selected, List.map_append, List.mem_append, List.map_singleton,
      List.mem_singleton]

/-- What a selection from nothing has. -/
structure Selects (certified : List (CertifiedAction F)) (remaining : Int)
    (selected : List (CertifiedAction F)) : Prop where
  certified : selected ⊆ certified
  once : (selected.map CertifiedAction.flowId).Nodup
  within : Greedy.total (fun action => action.candidate.allocatedBytes) selected ≤ max 0 remaining

theorem select_selects (certified : List (CertifiedAction F)) (remaining : Int)
    (packets : Option Int) :
    Selects certified remaining
      (select certified { remaining, noncriticalPacketBudget := packets }).selected := by
  obtain ⟨same, selected⟩ := foldl_selectTurn (orderedActions certified)
    { remaining, noncriticalPacketBudget := packets }
  rw [select_eq, same, selected, List.nil_append]
  constructor
  · intro action among
    obtain ⟨x, inside, rfl⟩ := Spending.of_mem_taken (I := fun _ => True)
      (P := fun x action => action = x)
      (fun _ _ _ _ _ made => ⟨(takes_of_offer made).same, trivial⟩) trivial among
    exact orderedActions_subset certified inside
  · exact (once_taken _ _).1
  · exact bytesMeter.total_taken_le (fun _ _ => trivial) trivial

/-! ## The schedule -/

/-- The controller with the link estimated. -/
def estimating (c : SemanticContractAdmissionController F) (link : NetworkLink F) :
    SemanticContractAdmissionController F :=
  { c with estimate := c.estimate.update c.lagrangianConfig.ewmaAlpha link }

/-- The flows whose representations are generated. -/
def freshOf (candidates : List (Candidate F)) : List (Candidate F) :=
  candidates.filter fun x => !isStale x

theorem unselected_holds (options : List (TransformCandidate F)) (x : Candidate F) :
    (c.unselected options x).Holds := by
  unfold unselected
  dsimp only
  split
  · exact ⟨decide_eq_false (by decide : lit "defer" ∉ sentActions), rfl⟩
  · exact PredictiveAdmissionController.drop_holds _ _ _

theorem unselected_id (options : List (TransformCandidate F)) (x : Candidate F) :
    (c.unselected options x).flowId = x.1.flowId := by
  unfold unselected
  dsimp only
  split
  · rfl
  · rfl

theorem staleDrops_holds : ∀ decision ∈ c.staleDrops candidates, decision.Holds := by
  intro decision among
  obtain ⟨x, -, rfl⟩ := List.mem_map.mp among
  exact PredictiveAdmissionController.drop_holds _ _ _

theorem staleDrops_ids : (c.staleDrops candidates).map FlowDecision.flowId =
    (candidates.filter isStale).map fun x => x.1.flowId := by
  unfold staleDrops
  rw [List.map_map]
  rfl

variable (c candidates link) in
/-- What the flows of a call demand of the tick. -/
def scarcityOf : F :=
  semanticScarcity ((freshOf candidates).map ((c.estimating link).generatedOf link)) link

variable (c candidates link) in
/-- The certified actions of a call. -/
def certifiedOf : List (CertifiedAction F) :=
  ((freshOf candidates).map ((c.estimating link).generatedOf link)).flatMap
    ((c.estimating link).certifiedActions link (c.scarcityOf candidates link))

variable (c candidates link) in
/-- What is selected in a call. -/
def selectedOf : List (CertifiedAction F) :=
  (select (c.certifiedOf candidates link)
    { remaining := link.capacityBytesPerTick
      noncriticalPacketBudget := (c.estimating link).noncriticalPacketBudget link
        (c.scarcityOf candidates link) (c.certifiedOf candidates link) }).selected

/-- What is decided of the others. -/
structure Leaves (candidates : List (Candidate F)) (selected : List (CertifiedAction F))
    (rest : List (FlowDecision F)) : Prop where
  ids : rest.map FlowDecision.flowId =
    ((freshOf candidates).filter fun x =>
      x.1.flowId ∉ selected.map CertifiedAction.flowId).map fun x => x.1.flowId
  holds : ∀ decision ∈ rest, decision.Holds

theorem undecided_eq (distinct : (candidates.map fun x => x.1.flowId).Nodup)
    (selectedIds : List Str) :
    (candidates.filter fun x => x.1.flowId ∉ selectedIds ++
        (c.staleDrops candidates).map FlowDecision.flowId) =
      (freshOf candidates).filter fun x => x.1.flowId ∉ selectedIds := by
  unfold freshOf
  rw [List.filter_filter, staleDrops_ids]
  apply List.filter_congr
  intro x among
  have drops : x.1.flowId ∈ (candidates.filter isStale).map (fun x => x.1.flowId) ↔
      isStale x = true := by
    constructor
    · intro listed
      obtain ⟨y, inside, same⟩ := List.mem_map.mp listed
      obtain ⟨inside, stale⟩ := List.mem_filter.mp inside
      obtain rfl := List.inj_on_of_nodup_map distinct inside among same
      exact stale
    · exact fun stale => List.mem_map_of_mem (List.mem_filter.mpr ⟨among, stale⟩)
  rw [Bool.eq_iff_iff, Bool.and_eq_true_iff, decide_eq_true_iff, decide_eq_true_iff,
    List.mem_append, not_or, drops, Bool.not_eq_true, Bool.not_eq_true']

theorem schedule_eq (valid : Valid candidates link) :
    ∃ decisions rest, c.schedule candidates link = .ok (decisions, c.estimating link) ∧
      decisions.Perm ((c.estimating link).staleDrops candidates ++
        (c.selectedOf candidates link).map decisionFromCertified ++ rest) ∧
      Leaves candidates (c.selectedOf candidates link) rest := by
  unfold schedule
  rw [valid.link, ok_bind]
  dsimp only
  rw [generateAll_eq valid, ok_bind]
  dsimp only
  rw [List.map_map]
  refine ⟨_, _, rfl, sortedBy_perm _ _, ?_⟩
  constructor
  · rw [List.map_map]
    exact (congrArg _ (undecided_eq valid.distinct _)).trans
      (List.map_congr_left fun x _ => unselected_id _ x)
  · intro decision among
    obtain ⟨x, -, rfl⟩ := List.mem_map.mp among
    exact unselected_holds _ x

variable (c candidates link) in
theorem selects : Selects (c.certifiedOf candidates link) link.capacityBytesPerTick
    (c.selectedOf candidates link) :=
  select_selects _ _ _

theorem certifies_of_certifiedOf (among : action ∈ c.certifiedOf candidates link) :
    ∃ x ∈ freshOf candidates, Certifies (c.estimating link) link x action := by
  obtain ⟨generated, listed, chosen⟩ := List.mem_flatMap.mp among
  obtain ⟨x, fresh, rfl⟩ := List.mem_map.mp listed
  exact ⟨x, fresh, certifies_of_mem chosen⟩

theorem settles {decisions rest : List (FlowDecision F)} (valid : Valid candidates link)
    (same : decisions.Perm ((c.estimating link).staleDrops candidates ++
      (c.selectedOf candidates link).map decisionFromCertified ++ rest))
    (leaves : Leaves candidates (c.selectedOf candidates link) rest) :
    Settles candidates decisions := by
  refine Settles.of_screened valid.distinct staleDrops_ids ?_ staleDrops_holds
    (fun x _ old => decide_eq_true old) same
  rw [leaves.ids, List.map_map]
  refine perm_append_filter (valid.distinct.sublist (List.filter_sublist.map _)) (c.selects candidates link).once ?_
    fun _ => decide_eq_true_iff
  intro id listed
  obtain ⟨action, selected, rfl⟩ := List.mem_map.mp listed
  obtain ⟨x, fresh, certifies⟩ := certifies_of_certifiedOf ((c.selects candidates link).certified selected)
  have named : action.flowId = x.1.flowId := certifies.names
  exact (congrArg (· ∈ (freshOf candidates).map fun x => x.1.flowId) named).mpr
    (List.mem_map_of_mem fresh)

/-- A decision sends a feasible representation of one of the flows. -/
def SendsFeasible (c : SemanticContractAdmissionController F) (candidates : List (Candidate F))
    (link : NetworkLink F) (decision : FlowDecision F) : Prop :=
  ∃ x ∈ candidates, ∃ options,
    transformCandidates x.1 x.2 link c.transformOptions = .ok options ∧
    ∃ option ∈ options, option.certificate.feasible = true ∧
      decision.flowId = x.1.flowId ∧
      decision.action = option.transform.action ∧
      decision.allocatedBytes = option.allocatedBytes ∧
      decision.wireMode = option.transform.wireMode

theorem sendsFeasible_of_selected (valid : Valid candidates link)
    (selected : action ∈ c.selectedOf candidates link) :
    c.SendsFeasible candidates link (decisionFromCertified action) := by
  obtain ⟨x, fresh, certifies⟩ := certifies_of_certifiedOf ((c.selects candidates link).certified selected)
  have among := List.mem_of_mem_filter fresh
  exact ⟨x, among, _, transformCandidates_eq valid among, action.candidate, certifies.listed,
    certifies.feasible, certifies.names, rfl, rfl, rfl⟩

/-- What a call decides: each flow once, within the bytes, in a feasible representation. -/
theorem schedule_within (c : SemanticContractAdmissionController F)
    (valid : Valid candidates link) :
    ∃ decisions c', c.schedule candidates link = .ok (decisions, c') ∧
      Settles candidates decisions ∧ allocatedTotal decisions ≤ link.capacityBytesPerTick ∧
      ∀ decision ∈ decisions, decision.isSent → c.SendsFeasible candidates link decision := by
  obtain ⟨decisions, rest, returned, same, leaves⟩ := c.schedule_eq valid
  refine ⟨decisions, _, returned, settles valid same leaves, ?_, ?_⟩
  · rw [allocatedTotal_eq same staleDrops_holds leaves.holds]
    have within := (c.selects candidates link).within
    rw [max_eq_right valid.capacity] at within
    unfold Greedy.total at within
    unfold allocatedTotal Greedy.total
    rw [List.map_map]
    exact within
  · intro decision decided sent
    rcases List.mem_append.mp (same.subset decided) with chosen | left
    · rcases List.mem_append.mp chosen with gone | chosen
      · rw [(staleDrops_holds decision gone).unsent] at sent
        cases sent
      · obtain ⟨action, selected, rfl⟩ := List.mem_map.mp chosen
        exact sendsFeasible_of_selected valid selected
    · rw [(leaves.holds decision left).unsent] at sent
      cases sent

end

end SemanticContractAdmissionController

end FleetRMW.Admission
