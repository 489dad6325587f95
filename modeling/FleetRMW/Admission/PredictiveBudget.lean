import FleetRMW.Admission.Predictive
import FleetRMW.Admission.SchedulerBudget
import FleetRMW.Lib.Spending

/-! # What predictive admission sends

Each flow is decided about once, a stale sample is not sent, and what is sent fits in the bytes, in
the packets and in the airtime of the tick.
-/

namespace FleetRMW.Admission

open Lib FloatOps

section
variable {F : Type} [FloatOps F]

/-- Nothing of the flow is sent. -/
structure FlowDecision.Holds (decision : FlowDecision F) : Prop where
  unsent : decision.isSent = false
  nothing : decision.allocatedBytes = 0

/-- Each flow is decided about once, and nothing is sent of one whose sample is stale. -/
structure Settles (candidates : List (Candidate F)) (decisions : List (FlowDecision F)) : Prop where
  ids : (decisions.map FlowDecision.flowId).Perm (candidates.map fun x => x.1.flowId)
  stale : ∀ x ∈ candidates, x.2.ageMs > x.1.qos.lifespanMs →
    ∀ decision ∈ decisions, decision.flowId = x.1.flowId → decision.Holds

variable {candidates : List (Candidate F)} {link : NetworkLink F}
  {decisions dropped selected rest : List (FlowDecision F)}

theorem Valid.packets (valid : Valid candidates link) :
    ∀ n ∈ link.capacityPacketsPerTick, 0 ≤ n := by
  intro n listed
  obtain ⟨_, -, later⟩ := bind_eq_ok_iff.mp valid.link
  obtain ⟨_, checked, -⟩ := bind_eq_ok_iff.mp later
  have holds := raiseIf_eq_ok.mp checked
  rw [listed] at holds
  simpa using holds

theorem Valid.airtime (valid : Valid candidates link) :
    ∀ n ∈ link.capacityAirtimeNsPerTick, 0 ≤ n := by
  intro n listed
  obtain ⟨_, -, later⟩ := bind_eq_ok_iff.mp valid.link
  obtain ⟨_, -, later⟩ := bind_eq_ok_iff.mp later
  obtain ⟨_, checked, -⟩ := bind_eq_ok_iff.mp later
  have holds := raiseIf_eq_ok.mp checked
  rw [listed] at holds
  simpa using holds

/-- Some flows are dropped at first, the stale ones among them; the others are selected or not. -/
theorem Settles.of_screened {p : Candidate F → Bool}
    (distinct : (candidates.map fun x => x.1.flowId).Nodup)
    (droppedIds : dropped.map FlowDecision.flowId = (candidates.filter p).map fun x => x.1.flowId)
    (otherIds : (selected.map FlowDecision.flowId ++ rest.map FlowDecision.flowId).Perm
      ((candidates.filter fun x => !p x).map fun x => x.1.flowId))
    (holds : ∀ decision ∈ dropped, decision.Holds)
    (stale : ∀ x ∈ candidates, x.2.ageMs > x.1.qos.lifespanMs → p x = true)
    (same : decisions.Perm (dropped ++ selected ++ rest)) : Settles candidates decisions where
  ids := by
    have parts := (List.filter_append_perm p candidates).map fun x => x.1.flowId
    rw [List.map_append] at parts
    refine ((same.map _).trans ?_).trans parts
    rw [List.append_assoc, List.map_append, List.map_append, droppedIds]
    exact otherIds.append_left _
  stale := by
    intro x among old decision decided names
    rw [List.append_assoc] at same
    rcases List.mem_append.mp (same.subset decided) with gone | kept
    · exact holds decision gone
    · have listed : decision.flowId ∈ (candidates.filter fun x => !p x).map fun x => x.1.flowId := by
        apply otherIds.subset
        rw [← List.map_append]
        exact List.mem_map_of_mem kept
      obtain ⟨y, inside, found⟩ := List.mem_map.mp listed
      obtain ⟨inside, other⟩ := List.mem_filter.mp inside
      obtain rfl : y = x := List.inj_on_of_nodup_map distinct inside among (found.trans names)
      rw [stale y among old] at other
      cases other

/-- What is sent is what was selected. -/
theorem sent_perm (same : decisions.Perm (dropped ++ selected ++ rest))
    (gone : ∀ decision ∈ dropped, decision.Holds) (sent : ∀ decision ∈ selected, decision.isSent)
    (left_ : ∀ decision ∈ rest, decision.Holds) :
    (decisions.filter FlowDecision.isSent).Perm selected := by
  refine (same.filter _).trans ?_
  rw [List.filter_append, List.filter_append, List.filter_eq_self.mpr sent,
    List.filter_eq_nil_iff.mpr fun decision among => ne_true_of_eq_false (gone decision among).unsent,
    List.filter_eq_nil_iff.mpr fun decision among => ne_true_of_eq_false (left_ decision among).unsent,
    List.nil_append, List.append_nil]

theorem allocatedTotal_of_holds (holds : ∀ decision ∈ decisions, decision.Holds) :
    allocatedTotal decisions = 0 := by
  unfold allocatedTotal Greedy.total
  apply List.sum_eq_zero
  intro bytes among
  obtain ⟨decision, inside, rfl⟩ := List.mem_map.mp among
  exact (holds decision inside).nothing

/-- What is allocated is allocated to what was selected. -/
theorem allocatedTotal_eq (same : decisions.Perm (dropped ++ selected ++ rest))
    (gone : ∀ decision ∈ dropped, decision.Holds) (left_ : ∀ decision ∈ rest, decision.Holds) :
    allocatedTotal decisions = allocatedTotal selected := by
  have total : allocatedTotal decisions = allocatedTotal (dropped ++ selected ++ rest) :=
    (same.map _).sum_eq
  have parts (first second : List (FlowDecision F)) :
      allocatedTotal (first ++ second) = allocatedTotal first + allocatedTotal second := by
    unfold allocatedTotal Greedy.total
    rw [List.map_append, List.sum_append]
  rw [total, parts, parts, allocatedTotal_of_holds gone, allocatedTotal_of_holds left_]
  omega

namespace PredictiveAdmissionController

/-! ## Entries -/

variable {c : PredictiveAdmissionController F} {preemptive : Str} {entries : List (Entry F)}

def isDropped (c : PredictiveAdmissionController F) (preemptive : Str) (candidate : Candidate F) :
    Bool :=
  (c.dropReason preemptive candidate).isSome

/-- The decisions that drop. -/
def droppedOf (c : PredictiveAdmissionController F) (preemptive : Str)
    (candidates : List (Candidate F)) : List (FlowDecision F) :=
  (candidates.filter (c.isDropped preemptive)).map fun x =>
    c.drop x.1 ((c.dropReason preemptive x).getD []) x.2

def entriesOf (c : PredictiveAdmissionController F) (preemptive : Str)
    (candidates : List (Candidate F)) (link : NetworkLink F) : List (Entry F) :=
  (candidates.filter fun x => !c.isDropped preemptive x).map (c.entry link)

theorem enterAll_eq (flows : ∀ x ∈ candidates, x.1.validates = .ok ()) :
    c.enterAll preemptive candidates link =
      .ok (c.entriesOf preemptive candidates link, c.droppedOf preemptive candidates) := by
  have loop := foldlM_partition (p := fun x => c.isDropped preemptive x) (f := c.entry link)
    (g := fun x => c.drop x.1 ((c.dropReason preemptive x).getD []) x.2) flows
  unfold entriesOf droppedOf
  simp only [Bool.not_eq_true, Bool.decide_eq_false, Bool.decide_eq_true] at loop
  rw [← loop]
  unfold enterAll isDropped
  congr 1
  funext s x
  dsimp only
  congr 1
  funext _
  cases c.dropReason preemptive x with
  | none => rfl
  | some reason => rfl

theorem drop_holds (spec : FlowSpec F) (reason : Str) (obs : FlowObservation F) :
    (c.drop spec reason obs).Holds :=
  ⟨decide_eq_false (by decide : lit "drop" ∉ sentActions), rfl⟩

theorem droppedOf_holds : ∀ decision ∈ c.droppedOf preemptive candidates, decision.Holds := by
  intro decision among
  obtain ⟨x, -, rfl⟩ := List.mem_map.mp among
  exact drop_holds _ _ _

theorem droppedOf_ids : (c.droppedOf preemptive candidates).map FlowDecision.flowId =
    (candidates.filter (c.isDropped preemptive)).map fun x => x.1.flowId := by
  unfold droppedOf
  rw [List.map_map]
  rfl

variable (c preemptive candidates link) in
theorem entriesOf_ids : (c.entriesOf preemptive candidates link).map Entry.flowId =
    (candidates.filter fun x => !c.isDropped preemptive x).map fun x => x.1.flowId := by
  unfold entriesOf
  rw [List.map_map]
  rfl

theorem isDropped_of_stale {x : Candidate F} (old : x.2.ageMs > x.1.qos.lifespanMs) :
    c.isDropped preemptive x = true := by
  unfold isDropped dropReason
  dsimp only
  rw [if_pos old]
  rfl

theorem entriesOf_distinct (distinct : (candidates.map fun x => x.1.flowId).Nodup) :
    ((c.entriesOf preemptive candidates link).map Entry.flowId).Nodup := by
  rw [entriesOf_ids]
  exact distinct.sublist (List.filter_sublist.map _)

theorem one_le_baseSize :
    ∀ entry ∈ c.entriesOf preemptive candidates link, 1 ≤ entry.baseSize := by
  intro entry among
  obtain ⟨x, -, rfl⟩ := List.mem_map.mp among
  exact one_le_effectiveSize _ _

/-! ## Partitions -/

theorem filter_split_perm {α : Type} (p : α → Bool) {q : α → Bool} (items : List α)
    (other : ∀ x, q x = true → p x = false) :
    (items.filter q ++ (items.filter fun x => !p x && !q x)).Perm
      (items.filter fun x => !p x) := by
  have first : items.filter q = (items.filter fun x => !p x).filter q := by
    rw [List.filter_filter]
    apply List.filter_congr
    intro x _
    cases chosen : q x with
    | false => rfl
    | true =>
        rw [other x chosen]
        rfl
  have second : (items.filter fun x => !p x && !q x) =
      (items.filter fun x => !p x).filter fun x => !q x := by
    rw [List.filter_filter]
    apply List.filter_congr
    intro x _
    exact Bool.and_comm _ _
  rw [first, second]
  exact List.filter_append_perm q _

/-- Every entry is in one partition. -/
theorem partitions_perm (entries : List (Entry F)) :
    (safetyControl entries ++ (coordinationState entries ++
      (operatorQoe entries ++ remainingEntries entries))).Perm entries := by
  have focused : ∀ entry : Entry F, isFocused entry.spec entry.obs = true →
      (entry.spec.flowClass.isControl || entry.spec.flowClass.isCoordinationState) = false := by
    intro entry looks
    have human := (of_decide_eq_true looks).1
    rw [human]
    rfl
  have apart : ∀ entry : Entry F, entry.spec.flowClass.isCoordinationState = true →
      entry.spec.flowClass.isControl = false := by
    intro entry coordinates
    cases flowClass : entry.spec.flowClass with
    | coordination | state => rfl
    | _ =>
        rw [flowClass] at coordinates
        cases coordinates
  have inner := filter_split_perm
    (fun entry : Entry F => entry.spec.flowClass.isControl ||
      entry.spec.flowClass.isCoordinationState) entries focused
  have middle := filter_split_perm (fun entry : Entry F => entry.spec.flowClass.isControl) entries
    apart
  have outer := List.filter_append_perm (fun entry : Entry F => entry.spec.flowClass.isControl)
    entries
  simp only [Bool.not_or] at inner
  exact (((inner.append_left _).trans middle).append_left _).trans outer

theorem orderedPartitions_perm (entries : List (Entry F)) :
    (orderedPartitions entries).flatten.Perm entries := by
  refine List.Perm.trans ?_ (partitions_perm entries)
  simp only [orderedPartitions, List.flatten_cons, List.flatten_nil, List.append_nil]
  exact ((sortedBy_perm _ _).append ((sortedBy_perm _ _).append
    ((sortedBy_perm _ _).append (sortedByDesc_perm _ _))))

/-! ## One partition -/

variable {pressure : F} {budget budget' : TickBudget} {entry : Entry F} {decision : FlowDecision F}

variable (c pressure) in
/-- What an entry takes of a budget. -/
def offer (budget : TickBudget) (entry : Entry F) : Option (FlowDecision F × TickBudget) :=
  if budget.packets.any (· ≤ 0) ∨ budget.airtimeNs.any (· ≤ 0) then none
  else
    (c.decisionForEntry entry pressure budget.bytes).bind fun decision =>
      let costNs := estimateAirtimeNs decision.allocatedBytes
      if decision.allocatedBytes > budget.bytes then none
      else if budget.airtimeNs.any (costNs > ·) then none
      else some (decision,
        { bytes := budget.bytes - decision.allocatedBytes
          packets := budget.packets.map (· - 1)
          airtimeNs := budget.airtimeNs.map (· - costNs) })

theorem admitPartition_eq (entries : List (Entry F)) (budget : TickBudget) :
    c.admitPartition pressure entries budget =
      (Spending.taken (c.offer pressure) entries budget,
        Spending.left (c.offer pressure) entries budget) := by
  rw [← Spending.pass_eq]
  unfold admitPartition Spending.pass
  congr 1
  funext s entry
  unfold admitTurn offer
  dsimp only
  split
  · rfl
  · cases c.decisionForEntry entry pressure s.2.bytes with
    | none => rfl
    | some decision =>
        dsimp only [Option.bind_some]
        split
        · rfl
        · split
          · rfl
          · rfl

/-- What is taken is sent, of the entry's own flow, and of some bytes. -/
structure Takes (budget : TickBudget) (entry : Entry F) (decision : FlowDecision F)
    (budget' : TickBudget) : Prop where
  names : decision.flowId = entry.flowId
  sent : decision.isSent
  some_bytes : 1 ≤ entry.baseSize → 1 ≤ decision.allocatedBytes
  packet : ∀ n, budget.packets = some n → 0 < n
  fits : decision.allocatedBytes ≤ budget.bytes
  brief : ∀ n, budget.airtimeNs = some n → estimateAirtimeNs decision.allocatedBytes ≤ n
  spent : budget' = {
    bytes := budget.bytes - decision.allocatedBytes
    packets := budget.packets.map (· - 1)
    airtimeNs := budget.airtimeNs.map (· - estimateAirtimeNs decision.allocatedBytes) }

theorem decisionForEntry_sends {remaining : Int}
    (chosen : c.decisionForEntry entry pressure remaining = some decision) :
    decision.flowId = entry.flowId ∧ decision.isSent ∧
      (1 ≤ entry.baseSize → 1 ≤ decision.allocatedBytes) := by
  unfold decisionForEntry at chosen
  dsimp only at chosen
  split at chosen
  · obtain rfl := Option.some.inj chosen
    exact ⟨rfl, decide_eq_true (by decide : lit "send_compacted" ∈ sentActions),
      fun _ => le_max_left _ _⟩
  split at chosen
  · obtain rfl := Option.some.inj chosen
    exact ⟨rfl, decide_eq_true (by decide : lit "send" ∈ sentActions), id⟩
  split at chosen
  · split at chosen
    · obtain rfl := Option.some.inj chosen
      exact ⟨rfl, decide_eq_true (by decide : lit "send_degraded" ∈ sentActions),
        fun _ => le_max_left _ _⟩
    · cases chosen
  · cases chosen

theorem takes_of_offer (made : c.offer pressure budget entry = some (decision, budget')) :
    Takes budget entry decision budget' := by
  unfold offer at made
  split at made
  · cases made
  rename_i runs
  obtain ⟨chosen, found, made⟩ := Option.bind_eq_some_iff.mp made
  obtain ⟨names, sent, some_bytes⟩ := decisionForEntry_sends found
  dsimp only at made
  split at made
  · cases made
  rename_i fits
  split at made
  · cases made
  rename_i brief
  obtain ⟨rfl, rfl⟩ := Prod.mk.inj (Option.some.inj made)
  rw [not_or] at runs
  refine ⟨names, sent, some_bytes, ?_, Int.not_lt.mp fits, ?_, rfl⟩
  · intro n listed
    rw [listed] at runs
    simpa using runs.1
  · intro n listed
    rw [listed] at brief
    simpa using brief

/-! ## Meters -/

variable (c pressure) in
theorem bytesMeter (capacity : Int) :
    Spending.Meter (c.offer pressure) (fun entry => 1 ≤ entry.baseSize)
      (fun budget => budget.bytes ≤ capacity) TickBudget.bytes FlowDecision.allocatedBytes where
  keeps := by
    intro budget entry decision budget' sized within made
    have takes := takes_of_offer made
    have some_bytes := takes.some_bytes sized
    rw [takes.spent]
    dsimp only
    omega
  spends := by
    intro budget entry decision budget' _ _ made
    rw [(takes_of_offer made).spent]
  within := by
    intro budget entry decision budget' _ _ made
    have takes := takes_of_offer made
    have fits := takes.fits
    rw [takes.spent]
    dsimp only
    omega

variable (c pressure) in
theorem packetsMeter :
    Spending.Meter (c.offer pressure) (fun _ => True) (fun budget => budget.packets.isSome)
      (fun budget => budget.packets.getD 0) (fun _ => 1) where
  keeps := by
    intro budget entry decision budget' _ limited made
    rw [(takes_of_offer made).spent, Option.isSome_map]
    exact limited
  spends := by
    intro budget entry decision budget' _ limited made
    obtain ⟨n, listed⟩ := Option.isSome_iff_exists.mp limited
    rw [(takes_of_offer made).spent, listed]
    rfl
  within := by
    intro budget entry decision budget' _ limited made
    obtain ⟨n, listed⟩ := Option.isSome_iff_exists.mp limited
    have packet := (takes_of_offer made).packet n listed
    rw [(takes_of_offer made).spent, listed]
    dsimp only [Option.map_some, Option.getD_some]
    omega

variable (c pressure) in
theorem airtimeMeter :
    Spending.Meter (c.offer pressure) (fun _ => True) (fun budget => budget.airtimeNs.isSome)
      (fun budget => budget.airtimeNs.getD 0)
      (fun decision => estimateAirtimeNs decision.allocatedBytes) where
  keeps := by
    intro budget entry decision budget' _ limited made
    rw [(takes_of_offer made).spent, Option.isSome_map]
    exact limited
  spends := by
    intro budget entry decision budget' _ limited made
    obtain ⟨n, listed⟩ := Option.isSome_iff_exists.mp limited
    rw [(takes_of_offer made).spent, listed]
    rfl
  within := by
    intro budget entry decision budget' _ limited made
    obtain ⟨n, listed⟩ := Option.isSome_iff_exists.mp limited
    have brief := (takes_of_offer made).brief n listed
    rw [(takes_of_offer made).spent, listed]
    dsimp only [Option.map_some, Option.getD_some]
    omega

/-! ## All partitions -/

variable (c) in
/-- The budget of the last partition. -/
def discounted (budget : TickBudget) : TickBudget :=
  { budget with bytes := toInt (ofInt budget.bytes * c.config.remainingTierCapacityFraction) }

/-- Where the discount raises no meter, all partitions cost no more than the meter shows. -/
theorem total_admitPartitions_le {A : Entry F → Prop} {I : TickBudget → Prop}
    {meter : TickBudget → Int} {cost : FlowDecision F → Int}
    (m : Spending.Meter (c.offer pressure) A I meter cost)
    (discount : ∀ budget, I budget → 0 ≤ meter budget →
      I (c.discounted budget) ∧ meter (c.discounted budget) ≤ meter budget)
    {partitions : List (List (Entry F))} (entries_ok : ∀ entry ∈ partitions.flatten, A entry)
    (start : I budget) (nonneg : 0 ≤ meter budget) :
    Greedy.total cost (c.admitPartitions pressure partitions budget) ≤ meter budget := by
  induction partitions generalizing budget with
  | nil => exact nonneg
  | cons entries rest ih =>
      rw [List.flatten_cons] at entries_ok
      have first := fun entry among => entries_ok entry (List.mem_append_left rest.flatten among)
      have others := fun entry among => entries_ok entry (List.mem_append_right entries among)
      cases rest with
      | nil =>
          obtain ⟨kept, less⟩ := discount budget start nonneg
          rw [admitPartitions, admitPartition_eq]
          have spent := m.total_taken_le first kept
          exact spent.trans (max_le nonneg less)
      | cons next rest =>
          obtain ⟨kept, same, within⟩ := m.left_eq first start
          have later := ih others kept (by omega)
          rw [admitPartitions, admitPartition_eq]
          · dsimp only
            unfold Greedy.total at same later ⊢
            rw [List.map_append, List.sum_append]
            omega
          · exact List.cons_ne_nil next rest

theorem admitPartitions_ids (partitions : List (List (Entry F))) (budget : TickBudget) :
    ((c.admitPartitions pressure partitions budget).map FlowDecision.flowId).Sublist
      (partitions.flatten.map Entry.flowId) := by
  have named : ∀ budget (entry : Entry F) decision budget',
      c.offer pressure budget entry = some (decision, budget') →
        decision.flowId = entry.flowId :=
    fun _ _ _ _ made => (takes_of_offer made).names
  induction partitions generalizing budget with
  | nil => exact .slnil
  | cons entries rest ih =>
      cases rest with
      | nil =>
          rw [admitPartitions, admitPartition_eq, List.flatten_cons, List.flatten_nil,
            List.append_nil]
          exact Spending.keys_taken_sublist named entries _
      | cons next rest =>
          rw [admitPartitions, admitPartition_eq, List.flatten_cons, List.map_append]
          · rw [List.map_append]
            exact (Spending.keys_taken_sublist named entries budget).append (ih _)
          · exact List.cons_ne_nil next rest

theorem admitPartitions_sent (partitions : List (List (Entry F))) (budget : TickBudget) :
    ∀ decision ∈ c.admitPartitions pressure partitions budget, decision.isSent := by
  have each {entries : List (Entry F)} {budget : TickBudget} {decision : FlowDecision F}
      (among : decision ∈ (c.admitPartition pressure entries budget).1) : decision.isSent := by
    rw [admitPartition_eq] at among
    obtain ⟨_, -, sent⟩ := Spending.of_mem_taken (I := fun _ => True)
      (P := fun _ decision => decision.isSent = true)
      (fun _ _ _ _ _ made => ⟨(takes_of_offer made).sent, trivial⟩) trivial among
    exact sent
  induction partitions generalizing budget with
  | nil => exact fun _ among => absurd among List.not_mem_nil
  | cons entries rest ih =>
      intro decision among
      cases rest with
      | nil =>
          rw [admitPartitions] at among
          exact each among
      | cons next rest =>
          rw [admitPartitions] at among
          · rcases List.mem_append.mp among with first | later
            · exact each first
            · exact ih _ decision later
          · exact List.cons_ne_nil next rest

/-! ## The schedule -/

variable (c) in
/-- The controller with the link estimated. -/
def estimating (link : NetworkLink F) : PredictiveAdmissionController F :=
  { c with estimate := c.estimate.update c.config.ewmaAlpha link }

variable (c link candidates) in
/-- What is selected in a call. -/
def selectedOf : List (FlowDecision F) :=
  let c := c.estimating link
  let entries := c.entriesOf (lit "predictive stale drop") candidates link
  c.admitPartitions (c.pressure entries link) (orderedPartitions entries) link.budget

variable (c link candidates) in
/-- What is decided of the entries that are not selected. -/
def unselectedOf : List (FlowDecision F) :=
  let selectedIds := (c.selectedOf candidates link).map FlowDecision.flowId
  let c := c.estimating link
  let entries := c.entriesOf (lit "predictive stale drop") candidates link
  (entries.filter fun entry => entry.flowId ∉ selectedIds).map
    (c.unadmitted (c.pressure entries link))

theorem schedule_eq (valid : Valid candidates link) :
    ∃ decisions, c.schedule candidates link = .ok (decisions, c.estimating link) ∧
      decisions.Perm ((c.estimating link).droppedOf (lit "predictive stale drop") candidates ++
        c.selectedOf candidates link ++ c.unselectedOf candidates link) := by
  unfold schedule
  rw [valid.link, ok_bind]
  dsimp only
  rw [enterAll_eq valid.flows, ok_bind]
  exact ⟨_, rfl, sortedBy_perm _ _⟩

theorem unadmitted_holds (entry : Entry F) : (c.unadmitted pressure entry).Holds := by
  unfold unadmitted
  split
  · exact drop_holds _ _ _
  · exact ⟨decide_eq_false (by decide : lit "defer" ∉ sentActions), rfl⟩

theorem unadmitted_id (entry : Entry F) : (c.unadmitted pressure entry).flowId = entry.flowId := by
  unfold unadmitted
  split
  · rfl
  · rfl

theorem unselectedOf_holds :
    ∀ decision ∈ c.unselectedOf candidates link, decision.Holds := by
  intro decision among
  obtain ⟨entry, -, rfl⟩ := List.mem_map.mp among
  exact unadmitted_holds entry

variable (c candidates link) in
theorem selectedOf_ids : ((c.selectedOf candidates link).map FlowDecision.flowId).Subperm
    (((c.estimating link).entriesOf (lit "predictive stale drop") candidates link).map
      Entry.flowId) :=
  (admitPartitions_ids _ _).subperm.trans ((orderedPartitions_perm _).map _).subperm

theorem settles (valid : Valid candidates link) {decisions : List (FlowDecision F)}
    (same : decisions.Perm
      ((c.estimating link).droppedOf (lit "predictive stale drop") candidates ++
        c.selectedOf candidates link ++ c.unselectedOf candidates link)) :
    Settles candidates decisions := by
  have distinct : (((c.estimating link).entriesOf (lit "predictive stale drop") candidates
      link).map Entry.flowId).Nodup := entriesOf_distinct valid.distinct
  obtain ⟨ids, listed, some_of⟩ := c.selectedOf_ids candidates link
  have once := listed.nodup_iff.mp (distinct.sublist some_of)
  refine Settles.of_screened valid.distinct droppedOf_ids ?_ droppedOf_holds
    (fun x _ old => isDropped_of_stale old) same
  rw [← (c.estimating link).entriesOf_ids candidates link (lit "predictive stale drop")]
  refine List.Perm.trans ?_ (perm_append_filter distinct once
    (fun id among => some_of.subset (listed.symm.subset among)) fun _ => decide_eq_true_iff)
  have restIds : (c.unselectedOf candidates link).map FlowDecision.flowId =
      (((c.estimating link).entriesOf (lit "predictive stale drop") candidates link).filter
        fun entry => entry.flowId ∉
          (c.selectedOf candidates link).map FlowDecision.flowId).map Entry.flowId := by
    unfold unselectedOf
    rw [List.map_map]
    exact List.map_congr_left fun entry _ => unadmitted_id entry
  exact .of_eq (congrArg _ restIds)

/-- The last partition has no more bytes than the partitions before it have left. -/
def Discounts (c : PredictiveAdmissionController F) (link : NetworkLink F) : Prop :=
  ∀ n : Int, 0 ≤ n → n ≤ link.capacityBytesPerTick →
    toInt (ofInt n * c.config.remainingTierCapacityFraction) ≤ n

theorem selectedOf_bytes (capacity : 0 ≤ link.capacityBytesPerTick)
    (discounts : c.Discounts link) :
    allocatedTotal (c.selectedOf candidates link) ≤ link.capacityBytesPerTick := by
  refine total_admitPartitions_le (bytesMeter _ _ link.capacityBytesPerTick) ?_ ?_ (Int.le_refl _)
    capacity
  · intro budget within nonneg
    have less := discounts budget.bytes nonneg within
    exact ⟨less.trans within, less⟩
  · intro entry among
    exact one_le_baseSize entry ((orderedPartitions_perm _).subset among)

variable (candidates link c) in
/-- A meter that the discount does not touch is not overdrawn. -/
theorem selectedOf_meter {I : TickBudget → Prop} {meter : TickBudget → Int}
    {cost : FlowDecision F → Int}
    (m : Spending.Meter ((c.estimating link).offer ((c.estimating link).pressure
      ((c.estimating link).entriesOf (lit "predictive stale drop") candidates link) link))
      (fun _ => True) I meter cost)
    (untouched : ∀ budget, (I budget → I ((c.estimating link).discounted budget)) ∧
      meter ((c.estimating link).discounted budget) = meter budget)
    (start : I link.budget) (nonneg : 0 ≤ meter link.budget) :
    Greedy.total cost (c.selectedOf candidates link) ≤ meter link.budget := by
  refine total_admitPartitions_le m ?_ (fun _ _ => trivial) start nonneg
  intro budget holds _
  exact ⟨(untouched budget).1 holds, (untouched budget).2.le⟩

/-- What a call decides: each flow once, within the bytes, the packets and the airtime. -/
theorem schedule_within (c : PredictiveAdmissionController F) (valid : Valid candidates link)
    (discounts : c.Discounts link) :
    ∃ decisions c', c.schedule candidates link = .ok (decisions, c') ∧
      Settles candidates decisions ∧
      allocatedTotal decisions ≤ link.capacityBytesPerTick ∧
      (∀ n ∈ link.capacityPacketsPerTick, ((decisions.filter FlowDecision.isSent).length : Int) ≤ n) ∧
      ∀ n ∈ link.capacityAirtimeNsPerTick, ((decisions.filter FlowDecision.isSent).map fun decision =>
        estimateAirtimeNs decision.allocatedBytes).sum ≤ n := by
  obtain ⟨decisions, returned, same⟩ := c.schedule_eq valid
  have sent := sent_perm same droppedOf_holds
    (admitPartitions_sent _ _) unselectedOf_holds
  refine ⟨decisions, _, returned, settles valid same, ?_, ?_, ?_⟩
  · rw [allocatedTotal_eq same droppedOf_holds unselectedOf_holds]
    exact selectedOf_bytes valid.capacity discounts
  · intro n listed
    have limit : link.budget.packets = some n := listed
    have packets := selectedOf_meter candidates link c (packetsMeter (c.estimating link) _)
      (fun budget => ⟨id, rfl⟩) (by rw [limit]; rfl) (by
        rw [limit]
        exact valid.packets n listed)
    rw [limit] at packets
    rw [sent.length_eq]
    simpa [Greedy.total] using packets
  · intro n listed
    have limit : link.budget.airtimeNs = some n := listed
    have airtime := selectedOf_meter candidates link c (airtimeMeter (c.estimating link) _)
      (fun budget => ⟨id, rfl⟩) (by rw [limit]; rfl) (by
        rw [limit]
        exact valid.airtime n listed)
    rw [limit] at airtime
    rw [(sent.map _).sum_eq]
    exact airtime

end PredictiveAdmissionController

end

end FleetRMW.Admission
