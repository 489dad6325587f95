import FleetRMW.Admission.Lagrangian
import FleetRMW.Admission.PredictiveBudget

/-! # What Lagrangian admission sends

Each flow is decided about once, in at most one of its representations, and what is sent fits in the
bytes of the tick.
-/

namespace FleetRMW.Admission

open Lib FloatOps

section
variable {F : Type} [FloatOps F]

theorem mem_of_maxBy {α : Type} {key : α → List (KeyPart F)} {items : List α} {x : α}
    (h : maxBy key items = some x) : x ∈ items := by
  cases items with
  | nil => cases h
  | cons y ys =>
      cases Option.some.inj h
      apply foldl_choose_mem
      intro best z
      split
      · exact .inr rfl
      · exact .inl rfl

/-- The actions that send the sample itself or what is made of it. -/
def sampleActions : List Str := [lit "send", lit "send_compacted", lit "send_degraded"]

namespace LagrangianRiskPredictiveAdmissionController

variable {c : LagrangianRiskPredictiveAdmissionController F} {candidates : List (Candidate F)}
  {link : NetworkLink F} {pressure : F} {entry : Entry F} {entries : List (Entry F)}
  {candidate : ActionCandidate F}

def ActionCandidate.flowId (candidate : ActionCandidate F) : Str := candidate.entry.flowId

/-! ## One entry -/

/-- Every way to send an entry sends its sample. -/
theorem of_mem_actionCandidates (among : candidate ∈ c.actionCandidates link pressure entry) :
    candidate.entry = entry ∧ candidate.action ∈ sampleActions := by
  unfold actionCandidates at among
  dsimp only at among
  rcases List.mem_append.mp among with among | degraded
  · rcases List.mem_append.mp among with native | compacted
    · rw [List.mem_singleton.mp native]
      exact ⟨rfl, (by decide : lit "send" ∈ sampleActions)⟩
    · split at compacted
      · rw [List.mem_singleton.mp compacted]
        exact ⟨rfl, (by decide : lit "send_compacted" ∈ sampleActions)⟩
      · cases compacted
  · split at degraded
    · rw [List.mem_singleton.mp degraded]
      exact ⟨rfl, (by decide : lit "send_degraded" ∈ sampleActions)⟩
    · cases degraded

theorem of_bestCandidate (best : c.bestCandidate link pressure entry = some candidate) :
    candidate.entry = entry ∧ candidate.action ∈ sampleActions :=
  of_mem_actionCandidates (List.mem_of_mem_filter (mem_of_maxBy best))

/-! ## One partition -/

/-- What a candidate takes of the bytes that remain. -/
def offer (remaining : Int) (candidate : ActionCandidate F) : Option (ActionCandidate F × Int) :=
  if candidate.allocatedBytes ≤ remaining then
    some (candidate, remaining - candidate.allocatedBytes)
  else none

theorem of_offer {remaining remaining' : Int} {taken : ActionCandidate F}
    (made : offer remaining candidate = some (taken, remaining')) :
    taken = candidate ∧ candidate.allocatedBytes ≤ remaining ∧
      remaining' = remaining - candidate.allocatedBytes := by
  unfold offer at made
  split at made
  case isTrue fits =>
    obtain ⟨rfl, rfl⟩ := Prod.mk.inj (Option.some.inj made)
    exact ⟨rfl, fits, rfl⟩
  case isFalse => cases made

theorem bytesMeter : Spending.Meter (offer (F := F)) (fun _ => True) (fun _ => True) id
    ActionCandidate.allocatedBytes where
  keeps _ _ _ _ _ _ _ := trivial
  spends := by
    intro remaining candidate taken remaining' _ _ made
    obtain ⟨rfl, -, rfl⟩ := of_offer made
    rfl
  within := by
    intro remaining candidate taken remaining' _ _ made
    obtain ⟨rfl, fits, rfl⟩ := of_offer made
    dsimp only [id]
    omega

/-- The candidates of a partition in the order of admission. -/
def orderedCandidates (candidates : List (Option (ActionCandidate F))) : List (ActionCandidate F) :=
  sortedByDesc (F := F) (fun candidate => [.float candidate.density, .float candidate.netScore])
    (candidates.filterMap id)

theorem admitLagrangianPartition_eq (candidates : List (Option (ActionCandidate F)))
    (remaining : Int) :
    admitLagrangianPartition candidates remaining =
      (Spending.taken offer (orderedCandidates candidates) remaining,
        Spending.left offer (orderedCandidates candidates) remaining) := by
  rw [← Spending.pass_eq]
  unfold admitLagrangianPartition Spending.pass orderedCandidates
  dsimp only
  congr 1
  funext s candidate
  unfold admitTurn offer
  dsimp only
  split
  · rfl
  · rfl

variable (c link pressure) in
theorem bestCandidates_ids (entries : List (Entry F)) :
    (((entries.map (c.bestCandidate link pressure)).filterMap id).map
      ActionCandidate.flowId).Sublist (entries.map Entry.flowId) := by
  induction entries with
  | nil => exact .slnil
  | cons entry rest ih =>
      rw [List.map_cons, List.map_cons, List.filterMap_cons]
      cases best : c.bestCandidate link pressure entry with
      | none => exact ih.cons _
      | some candidate =>
          have same : ActionCandidate.flowId candidate = entry.flowId :=
            congrArg Entry.flowId (of_bestCandidate best).1
          dsimp only [id]
          rw [List.map_cons, same]
          exact ih.cons_cons _

variable (c link pressure) in
theorem admitted_ids (entries : List (Entry F)) (remaining : Int) :
    ((admitLagrangianPartition (entries.map (c.bestCandidate link pressure)) remaining).1.map
      ActionCandidate.flowId).Subperm (entries.map Entry.flowId) := by
  rw [admitLagrangianPartition_eq]
  have taken : ((Spending.taken offer (orderedCandidates (entries.map
      (c.bestCandidate link pressure))) remaining).map ActionCandidate.flowId).Sublist
        ((orderedCandidates (entries.map (c.bestCandidate link pressure))).map
          ActionCandidate.flowId) :=
    Spending.keys_taken_sublist (fun _ _ _ _ made => congrArg _ (of_offer made).1) _ _
  exact (taken.subperm.trans ((sortedByDesc_perm _ _).map _).subperm).trans
    (bestCandidates_ids c link pressure entries).subperm

theorem admitted_sent {remaining : Int}
    (among : candidate ∈ (admitLagrangianPartition (entries.map (c.bestCandidate link pressure))
      remaining).1) : candidate.action ∈ sampleActions := by
  rw [admitLagrangianPartition_eq] at among
  obtain ⟨chosen, inside, rfl⟩ := Spending.of_mem_taken (I := fun _ => True)
    (P := fun chosen taken => taken = chosen)
    (fun _ _ _ _ _ made => ⟨(of_offer made).1, trivial⟩) trivial among
  obtain ⟨best, listed, same⟩ := List.mem_filterMap.mp ((sortedByDesc_perm _ _).subset inside)
  obtain ⟨entry, -, rfl⟩ := List.mem_map.mp listed
  exact (of_bestCandidate same).2

/-! ## All partitions -/

variable (c link pressure) in
theorem total_admitPartitions_le (partitions : List (List (Entry F))) {remaining : Int}
    (nonneg : 0 ≤ remaining) :
    Greedy.total ActionCandidate.allocatedBytes
      (c.admitPartitions link pressure partitions remaining) ≤ remaining := by
  induction partitions generalizing remaining with
  | nil => exact nonneg
  | cons entries rest ih =>
      rw [admitPartitions, admitLagrangianPartition_eq]
      obtain ⟨-, same, within⟩ := bytesMeter.left_eq (s := remaining)
        (fun x (_ : x ∈ orderedCandidates (entries.map (c.bestCandidate link pressure))) => trivial)
        trivial
      dsimp only [id] at same within ⊢
      have later := @ih (Spending.left offer
        (orderedCandidates (entries.map (c.bestCandidate link pressure))) remaining) (by omega)
      unfold Greedy.total at same later ⊢
      rw [List.map_append, List.sum_append]
      omega

variable (c link pressure) in
theorem admitPartitions_ids (partitions : List (List (Entry F))) (remaining : Int) :
    ((c.admitPartitions link pressure partitions remaining).map ActionCandidate.flowId).Subperm
      (partitions.flatten.map Entry.flowId) := by
  induction partitions generalizing remaining with
  | nil => exact List.Subperm.refl _
  | cons entries rest ih =>
      rw [admitPartitions, List.flatten_cons, List.map_append, List.map_append]
      obtain ⟨first, firstPerm, firstOf⟩ := admitted_ids c link pressure entries remaining
      obtain ⟨later, laterPerm, laterOf⟩ := ih
        (admitLagrangianPartition (entries.map (c.bestCandidate link pressure)) remaining).2
      exact ⟨first ++ later, firstPerm.append laterPerm, firstOf.append laterOf⟩

theorem admitPartitions_sent (partitions : List (List (Entry F))) (remaining : Int) :
    ∀ candidate ∈ c.admitPartitions link pressure partitions remaining,
      candidate.action ∈ sampleActions := by
  induction partitions generalizing remaining with
  | nil => exact fun _ among => absurd among List.not_mem_nil
  | cons entries rest ih =>
      intro candidate among
      rw [admitPartitions] at among
      rcases List.mem_append.mp among with first | later
      · exact admitted_sent first
      · exact ih _ candidate later

theorem lagrangianPartitions_perm (entries : List (Entry F)) :
    (lagrangianPartitions entries).flatten.Perm entries := by
  refine List.Perm.trans ?_ (PredictiveAdmissionController.partitions_perm entries)
  simp only [lagrangianPartitions, List.flatten_cons, List.flatten_nil, List.append_nil]
  refine (sortedBy_perm _ _).append ?_
  refine (((sortedBy_perm _ _).append ((sortedBy_perm _ _).append
    (sortedByDesc_perm _ _)))).trans ?_
  rw [← List.append_assoc, ← List.append_assoc]
  exact List.perm_append_comm.append_right _

/-! ## The schedule -/

variable (c) in
/-- The controller with the link estimated. -/
def estimating (link : NetworkLink F) : LagrangianRiskPredictiveAdmissionController F :=
  { c with estimate := c.estimate.update c.lagrangianConfig.ewmaAlpha link }

variable (c candidates link) in
def enteredOf : List (Entry F) :=
  (c.estimating link).predictive.entriesOf (lit "lagrangian stale drop") candidates link

variable (c candidates link) in
/-- What is selected in a call. -/
def selectedOf : List (ActionCandidate F) :=
  (c.estimating link).admitPartitions link
    ((c.estimating link).predictive.pressure (c.enteredOf candidates link) link)
    (lagrangianPartitions (c.enteredOf candidates link)) link.capacityBytesPerTick

variable (c candidates link) in
/-- What is decided of the entries that are not selected. -/
def unselectedOf : List (FlowDecision F) :=
  let entries := c.enteredOf candidates link
  let selectedIds := (c.selectedOf candidates link).map fun candidate => candidate.entry.flowId
  (entries.filter fun entry => entry.flowId ∉ selectedIds).map
    ((c.estimating link).unadmitted link ((c.estimating link).predictive.pressure entries link))

theorem schedule_eq (valid : Valid candidates link) :
    ∃ decisions c', c.schedule candidates link = .ok (decisions, c') ∧
      decisions.Perm ((c.estimating link).predictive.droppedOf (lit "lagrangian stale drop")
          candidates ++
        (c.selectedOf candidates link).map (c.estimating link).decisionFromCandidate ++
        c.unselectedOf candidates link) := by
  unfold schedule
  rw [valid.link, ok_bind]
  dsimp only
  rw [PredictiveAdmissionController.enterAll_eq valid.flows, ok_bind]
  exact ⟨_, _, rfl, sortedBy_perm _ _⟩

theorem unadmitted_holds (entry : Entry F) : (c.unadmitted link pressure entry).Holds := by
  unfold unadmitted
  dsimp only
  split
  · exact PredictiveAdmissionController.drop_holds _ _ _
  split
  · exact PredictiveAdmissionController.drop_holds _ _ _
  · exact ⟨decide_eq_false (by decide : lit "defer" ∉ sentActions), rfl⟩

theorem unadmitted_id (entry : Entry F) :
    (c.unadmitted link pressure entry).flowId = entry.flowId := by
  unfold unadmitted
  dsimp only
  split
  · rfl
  split
  · rfl
  · rfl

theorem unselectedOf_holds : ∀ decision ∈ c.unselectedOf candidates link, decision.Holds := by
  intro decision among
  obtain ⟨entry, -, rfl⟩ := List.mem_map.mp among
  exact unadmitted_holds entry

theorem decisions_ids (selected : List (ActionCandidate F)) :
    (selected.map c.decisionFromCandidate).map FlowDecision.flowId =
      selected.map ActionCandidate.flowId := by
  rw [List.map_map]
  rfl

theorem settles (valid : Valid candidates link) {decisions : List (FlowDecision F)}
    (same : decisions.Perm
      ((c.estimating link).predictive.droppedOf (lit "lagrangian stale drop") candidates ++
        (c.selectedOf candidates link).map (c.estimating link).decisionFromCandidate ++
        c.unselectedOf candidates link)) :
    Settles candidates decisions := by
  have distinct : ((c.enteredOf candidates link).map Entry.flowId).Nodup :=
    PredictiveAdmissionController.entriesOf_distinct valid.distinct
  have within : ((c.selectedOf candidates link).map ActionCandidate.flowId).Subperm
      ((c.enteredOf candidates link).map Entry.flowId) :=
    (admitPartitions_ids _ _ _ _ _).trans ((lagrangianPartitions_perm _).map _).subperm
  obtain ⟨ids, listed, some_of⟩ := within
  have once := listed.nodup_iff.mp (distinct.sublist some_of)
  have restIds : (c.unselectedOf candidates link).map FlowDecision.flowId =
      ((c.enteredOf candidates link).filter fun entry => entry.flowId ∉
        (c.selectedOf candidates link).map ActionCandidate.flowId).map Entry.flowId := by
    unfold unselectedOf
    rw [List.map_map]
    exact List.map_congr_left fun entry _ => unadmitted_id entry
  refine Settles.of_screened valid.distinct PredictiveAdmissionController.droppedOf_ids ?_
    PredictiveAdmissionController.droppedOf_holds
    (fun x _ old => PredictiveAdmissionController.isDropped_of_stale old) same
  rw [← PredictiveAdmissionController.entriesOf_ids candidates link, decisions_ids, restIds]
  exact perm_append_filter distinct once (fun id among => some_of.subset (listed.symm.subset among))
    fun _ => decide_eq_true_iff

theorem selectedOf_sent :
    ∀ decision ∈ (c.selectedOf candidates link).map (c.estimating link).decisionFromCandidate,
      decision.action ∈ sampleActions := by
  intro decision among
  obtain ⟨candidate, selected, rfl⟩ := List.mem_map.mp among
  exact admitPartitions_sent _ _ candidate selected

/-- What a call decides: each flow once, within the bytes. A flow that is not sent takes none. -/
theorem schedule_within (c : LagrangianRiskPredictiveAdmissionController F)
    (valid : Valid candidates link) :
    ∃ decisions c', c.schedule candidates link = .ok (decisions, c') ∧
      Settles candidates decisions ∧ allocatedTotal decisions ≤ link.capacityBytesPerTick ∧
      ∀ decision ∈ decisions, decision.action ∈ sampleActions ∨ decision.Holds := by
  obtain ⟨decisions, c', returned, same⟩ := c.schedule_eq valid
  refine ⟨decisions, c', returned, settles valid same, ?_, ?_⟩
  · rw [allocatedTotal_eq same PredictiveAdmissionController.droppedOf_holds unselectedOf_holds]
    unfold allocatedTotal Greedy.total
    rw [List.map_map]
    exact total_admitPartitions_le _ _ _ _ valid.capacity
  · intro decision decided
    rcases List.mem_append.mp (same.subset decided) with chosen | left
    · rcases List.mem_append.mp chosen with gone | chosen
      · exact .inr (PredictiveAdmissionController.droppedOf_holds decision gone)
      · exact .inl (selectedOf_sent decision chosen)
    · exact .inr (unselectedOf_holds decision left)

end LagrangianRiskPredictiveAdmissionController

end

end FleetRMW.Admission
