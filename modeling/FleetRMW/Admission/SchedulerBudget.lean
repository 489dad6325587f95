import FleetRMW.Admission.Scheduler
import FleetRMW.Lib.Greedy

/-! # What the scheduler decides, and what it allocates

Each flow is decided about once. What is left of the critical reservation is handed back to a
budget that it was never taken from, so the passes behind may allocate it twice.
-/

namespace FleetRMW.Admission

open Lib FloatOps

section
variable {F : Type} [FloatOps F]

/-- The bytes that a list of decisions allocates. -/
def allocatedTotal (decisions : List (FlowDecision F)) : Int :=
  Greedy.total FlowDecision.allocatedBytes decisions

theorem one_le_effectiveSize (spec : FlowSpec F) (obs : FlowObservation F) :
    1 ≤ effectiveSize spec obs :=
  le_max_left _ _

namespace CausalSemanticDeadlineScheduler

variable {s : CausalSemanticDeadlineScheduler F} {allowDegradation : Bool} {reason : Str}
  {link : NetworkLink F} {candidates : List (Candidate F)} {entry : Scored F}
  {decision : FlowDecision F}

/-! ## One pass -/

variable (s allowDegradation reason) in
/-- What a pass offers to a flow. -/
def offers (entry : Scored F) : List (FlowDecision F) :=
  sendDecision reason entry ::
    if allowDegradation && entry.spec.flowClass.isDegradable then [s.degradedDecision reason entry]
    else []

/-- The flow is sent, in full or degraded. -/
structure Sends (entry : Scored F) (decision : FlowDecision F) : Prop where
  flowId : decision.flowId = entry.flowId
  bytes : 1 ≤ decision.allocatedBytes
  action : decision.action = lit "send" ∨ decision.action = lit "send_degraded"

theorem sends_of_offered (h : decision ∈ s.offers allowDegradation reason entry) :
    Sends entry decision := by
  cases List.mem_cons.mp h with
  | inl full =>
      subst full
      exact ⟨rfl, one_le_effectiveSize _ _, .inl rfl⟩
  | inr less =>
      split at less
      · rw [List.mem_singleton.mp less]
        exact ⟨rfl, le_max_left _ _, .inr rfl⟩
      · cases less

theorem offered_nonneg (entry : Scored F) :
    ∀ decision ∈ s.offers allowDegradation reason entry, 0 ≤ decision.allocatedBytes :=
  fun _ offered => Int.le_of_lt (sends_of_offered offered).bytes

theorem admitEntry_eq (decisions : List (FlowDecision F)) (remaining : Int) (entry : Scored F) :
    s.admitEntry allowDegradation reason (decisions, remaining) entry =
      match Greedy.serve (s.offers allowDegradation reason) FlowDecision.allocatedBytes remaining
        entry with
      | some decision => (decisions ++ [decision], remaining - decision.allocatedBytes)
      | none => (decisions, remaining) := by
  unfold admitEntry Greedy.serve offers
  dsimp only
  rw [List.find?_cons]
  split
  case isTrue fits =>
    have : decide ((sendDecision reason entry).allocatedBytes ≤ remaining) = true :=
      decide_eq_true fits
    rw [this]
    rfl
  case isFalse dear =>
    have : decide ((sendDecision reason entry).allocatedBytes ≤ remaining) = false :=
      decide_eq_false dear
    rw [this]
    dsimp only
    split
    · rw [List.find?_cons]
      split
      case isTrue fits =>
        have : decide ((s.degradedDecision reason entry).allocatedBytes ≤ remaining) = true :=
          decide_eq_true fits
        rw [this]
        rfl
      case isFalse dear =>
        have : decide ((s.degradedDecision reason entry).allocatedBytes ≤ remaining) = false :=
          decide_eq_false dear
        rw [this]
        rfl
    · rfl

/-- What an admission loop decides. -/
theorem foldl_admitEntry (scored : List (Scored F)) (capacity : Int) :
    scored.foldl (s.admitEntry allowDegradation reason) ([], capacity) =
      Greedy.pass (s.offers allowDegradation reason) FlowDecision.allocatedBytes scored capacity := by
  unfold Greedy.pass
  congr 1
  funext ⟨decisions, remaining⟩ entry
  rw [admitEntry_eq]
  dsimp only
  cases Greedy.serve (s.offers allowDegradation reason) FlowDecision.allocatedBytes remaining entry with
  | none => rfl
  | some decision => rfl

/-- The decisions of a pass under a budget: they send, each flow at most once, within the budget,
    and would be the same under a smaller budget that they fit in. -/
structure Passes (scored : List (Scored F)) (pass : Int → List (FlowDecision F) × Int) : Prop where
  sends : ∀ budget, ∀ decision ∈ (pass budget).1, ∃ entry ∈ scored, Sends entry decision
  named : ∀ budget, ∃ ordered : List (Scored F), ordered.Perm scored ∧
    ((pass budget).1.map FlowDecision.flowId).Sublist (ordered.map Scored.flowId)
  left : ∀ budget, (pass budget).2 = budget - allocatedTotal (pass budget).1
  within : ∀ budget, allocatedTotal (pass budget).1 ≤ max 0 budget
  steady : ∀ {budget less}, less ≤ budget → allocatedTotal (pass budget).1 ≤ less →
    (pass less).1 = (pass budget).1

theorem passes_of_ordered {scored ordered : List (Scored F)} (perm : ordered.Perm scored) :
    Passes scored fun budget =>
      ordered.foldl (s.admitEntry allowDegradation reason) ([], budget) where
  sends := by
    intro budget decision among
    rw [foldl_admitEntry, Greedy.pass_eq] at among
    obtain ⟨entry, inside, offered⟩ := Greedy.mem_taken among
    exact ⟨entry, perm.subset inside, sends_of_offered offered⟩
  named := by
    intro budget
    refine ⟨ordered, perm, ?_⟩
    rw [foldl_admitEntry, Greedy.pass_eq]
    exact Greedy.keys_taken_sublist (fun _ _ offered => (sends_of_offered offered).flowId) budget
  left := by
    intro budget
    rw [foldl_admitEntry, Greedy.pass_eq]
    rfl
  within := by
    intro budget
    rw [foldl_admitEntry, Greedy.pass_eq]
    exact Greedy.total_taken_le offered_nonneg ordered budget
  steady := by
    intro budget less le fits
    rw [foldl_admitEntry, Greedy.pass_eq] at fits ⊢
    rw [foldl_admitEntry, Greedy.pass_eq]
    exact Greedy.taken_of_total_le offered_nonneg _ _ le fits

variable (s) in
theorem admitByPriority_passes (scored : List (Scored F)) (allowDegradation : Bool)
    (className : Str) :
    Passes scored fun capacity => s.admitByPriority scored capacity allowDegradation className :=
  passes_of_ordered (sortedByDesc_perm _ scored)

variable (s) in
theorem admitByDensity_passes (scored : List (Scored F)) :
    Passes scored (s.admitByDensity scored) :=
  passes_of_ordered (sortedByDesc_perm _ scored)

/-! ## The passes behind the critical one -/

section
variable {critical opportunistic scored : List (Scored F)} {selected : List (FlowDecision F)}
  {budget less : Int}

variable (s link budget) in
/-- The budget of the pass over the flows that an operator looks at. -/
def qoeBudget : Int := min budget (toInt (ofInt link.capacityBytesPerTick * s.qoeBudgetFraction))

variable (s link opportunistic budget) in
def selectedQoe : List (FlowDecision F) :=
  (s.admitByDensity (opportunistic.filter fun entry =>
    entry.spec.flowClass = .humanQoe ∧ entry.obs.task.operatorAttention > ofInt 0)
    (s.qoeBudget link budget)).1

variable (critical opportunistic selected) in
/-- What the last pass goes through. -/
def restOf (qoe : List (FlowDecision F)) : List (Scored F) :=
  (opportunistic.filter fun entry => entry.flowId ∉ qoe.map FlowDecision.flowId) ++
    rejectedCriticalAsOpportunistic critical selected

theorem sharedPasses_eq :
    s.sharedPasses link critical selected opportunistic budget =
      s.selectedQoe link opportunistic budget ++
        (s.admitByDensity (restOf critical opportunistic selected
            (s.selectedQoe link opportunistic budget))
          (budget - allocatedTotal (s.selectedQoe link opportunistic budget))).1 := by
  have left := (s.admitByDensity_passes (opportunistic.filter fun entry =>
    entry.spec.flowClass = .humanQoe ∧ entry.obs.task.operatorAttention > ofInt 0)).left
      (s.qoeBudget link budget)
  have spent : budget - (s.qoeBudget link budget - (s.admitByDensity (opportunistic.filter
      fun entry => entry.spec.flowClass = .humanQoe ∧ entry.obs.task.operatorAttention > ofInt 0)
      (s.qoeBudget link budget)).2) =
      budget - allocatedTotal (s.selectedQoe link opportunistic budget) := by
    rw [left]
    unfold selectedQoe
    omega
  exact congrArg (fun left => s.selectedQoe link opportunistic budget ++
    (s.admitByDensity (restOf critical opportunistic selected
      (s.selectedQoe link opportunistic budget)) left).1) spent

theorem allocatedTotal_append (decisions decisions' : List (FlowDecision F)) :
    allocatedTotal (decisions ++ decisions') =
      allocatedTotal decisions + allocatedTotal decisions' := by
  simp only [allocatedTotal, Greedy.total, List.map_append, List.sum_append]

variable (s link opportunistic budget) in
theorem allocatedTotal_selectedQoe_le :
    allocatedTotal (s.selectedQoe link opportunistic budget) ≤ max 0 budget := by
  have within := (s.admitByDensity_passes (opportunistic.filter fun entry =>
    entry.spec.flowClass = .humanQoe ∧ entry.obs.task.operatorAttention > ofInt 0)).within
      (s.qoeBudget link budget)
  exact within.trans (max_le_max_left 0 (min_le_left _ _))

variable (s link critical opportunistic selected) in
theorem sharedPasses_within (nonneg : 0 ≤ budget) :
    allocatedTotal (s.sharedPasses link critical selected opportunistic budget) ≤ budget := by
  rw [sharedPasses_eq, allocatedTotal_append]
  have qoe := s.allocatedTotal_selectedQoe_le link opportunistic budget
  have rest := (s.admitByDensity_passes (restOf critical opportunistic selected
    (s.selectedQoe link opportunistic budget))).within
      (budget - allocatedTotal (s.selectedQoe link opportunistic budget))
  rw [max_eq_right nonneg] at qoe
  rw [max_eq_right (by omega)] at rest
  omega

/-- A budget that the passes do not exceed makes no difference to them. -/
theorem sharedPasses_steady (le : less ≤ budget)
    (fits : allocatedTotal (s.sharedPasses link critical selected opportunistic budget) ≤ less) :
    s.sharedPasses link critical selected opportunistic less =
      s.sharedPasses link critical selected opportunistic budget := by
  rw [sharedPasses_eq, allocatedTotal_append] at fits
  have sparing : 0 ≤ allocatedTotal (s.admitByDensity (restOf critical opportunistic selected
      (s.selectedQoe link opportunistic budget))
      (budget - allocatedTotal (s.selectedQoe link opportunistic budget))).1 := by
    apply Greedy.total_nonneg
    intro decision among
    obtain ⟨entry, -, sends⟩ := (s.admitByDensity_passes _).sends _ decision among
    exact Int.le_of_lt sends.bytes
  have same : s.selectedQoe link opportunistic less = s.selectedQoe link opportunistic budget := by
    by_cases small : toInt (ofInt link.capacityBytesPerTick * s.qoeBudgetFraction) ≤ less
    case pos =>
      have sameBudget : s.qoeBudget link less = s.qoeBudget link budget := by
        unfold qoeBudget
        rw [min_eq_right small, min_eq_right (small.trans le)]
      unfold selectedQoe
      rw [sameBudget]
    case neg =>
      apply (s.admitByDensity_passes _).steady
      · exact min_le_min_right _ le
      · have kept : allocatedTotal (s.selectedQoe link opportunistic budget) ≤ less := by omega
        exact le_min kept (kept.trans (by omega))
  rw [sharedPasses_eq, sharedPasses_eq, same]
  congr 1
  apply (s.admitByDensity_passes _).steady
  · omega
  · omega

/-! ## The whole schedule -/

theorem Passes.nodup {pass : Int → List (FlowDecision F) × Int} (h : Passes scored pass)
    (distinct : (scored.map Scored.flowId).Nodup) (budget : Int) :
    ((pass budget).1.map FlowDecision.flowId).Nodup := by
  obtain ⟨ordered, perm, sublist⟩ := h.named budget
  exact ((perm.map Scored.flowId).nodup_iff.mpr distinct).sublist sublist

theorem Passes.subset {pass : Int → List (FlowDecision F) × Int} (h : Passes scored pass)
    (budget : Int) : (pass budget).1.map FlowDecision.flowId ⊆ scored.map Scored.flowId := by
  obtain ⟨ordered, perm, sublist⟩ := h.named budget
  exact List.Subset.trans sublist.subset (perm.map Scored.flowId).subset

/-- What is decided about the entries: each decision sends one of them, and no two the same. -/
structure Decides (scored : List (Scored F)) (decisions : List (FlowDecision F)) : Prop where
  sends : ∀ decision ∈ decisions, ∃ entry ∈ scored, Sends entry decision
  distinct : (decisions.map FlowDecision.flowId).Nodup

/-- Names of three passes: the first over some names, the second over others, and the last over
    what these left. -/
theorem nodup_three {C O first second last : List Str} (apart : ∀ x ∈ C, x ∉ O)
    (first_of : first ⊆ C) (second_of : second ⊆ O)
    (last_of : ∀ x ∈ last, x ∈ O ∧ x ∉ second ∨ x ∈ C ∧ x ∉ first) (first_nodup : first.Nodup)
    (second_nodup : second.Nodup) (last_nodup : last.Nodup) :
    (first ++ (second ++ last)).Nodup := by
  rw [List.nodup_append, List.nodup_append]
  refine ⟨first_nodup, ⟨second_nodup, last_nodup, ?_⟩, ?_⟩
  · rintro x inSecond _ inLast rfl
    rcases last_of x inLast with ⟨-, unused⟩ | ⟨inC, -⟩
    · exact unused inSecond
    · exact apart x inC (second_of inSecond)
  · rintro x inFirst _ later rfl
    cases List.mem_append.mp later with
    | inl inSecond => exact apart x (first_of inFirst) (second_of inSecond)
    | inr inLast =>
        rcases last_of x inLast with ⟨inO, -⟩ | ⟨-, unused⟩
        · exact apart x (first_of inFirst) inO
        · exact unused inFirst

/-- The entries by their classes: each is in one part, and no name in both. -/
structure Parts (scored critical opportunistic : List (Scored F)) : Prop where
  first : critical.Sublist scored
  others : opportunistic.Sublist scored
  apart : ∀ x ∈ critical.map Scored.flowId, x ∉ opportunistic.map Scored.flowId

theorem partition_parts (distinct : (scored.map Scored.flowId).Nodup) :
    Parts scored (partition scored).1 (partition scored).2 := by
  unfold partition
  rw [List.partition_eq_filter_filter]
  refine ⟨List.filter_sublist, List.filter_sublist, ?_⟩
  intro x inCritical inOther
  obtain ⟨entry, among, rfl⟩ := List.mem_map.mp inCritical
  obtain ⟨entry', among', same⟩ := List.mem_map.mp inOther
  rw [List.mem_filter] at among among'
  obtain rfl := List.inj_on_of_nodup_map distinct among'.1 among.1 same
  have other := among'.2
  simp only [Function.comp_apply, among.2] at other
  cases other

/-- What the last pass goes through has names that the passes before it did not decide about. -/
theorem mem_restOf {x : Str} {qoe : List (FlowDecision F)}
    (h : x ∈ (restOf critical opportunistic selected qoe).map Scored.flowId) :
    x ∈ opportunistic.map Scored.flowId ∧ x ∉ qoe.map FlowDecision.flowId ∨
      x ∈ critical.map Scored.flowId ∧ x ∉ selected.map FlowDecision.flowId := by
  obtain ⟨entry, among, rfl⟩ := List.mem_map.mp h
  cases List.mem_append.mp among with
  | inl other =>
      obtain ⟨inside, unused⟩ := List.mem_filter.mp other
      exact .inl ⟨List.mem_map_of_mem inside, by simpa using unused⟩
  | inr rejected =>
      obtain ⟨inside, unused⟩ := List.mem_filter.mp rejected
      exact .inr ⟨List.mem_map_of_mem inside, by simpa using unused⟩

theorem nodup_restOf (parts : Parts scored critical opportunistic)
    (distinct : (scored.map Scored.flowId).Nodup) (qoe : List (FlowDecision F)) :
    ((restOf critical opportunistic selected qoe).map Scored.flowId).Nodup := by
  unfold restOf rejectedCriticalAsOpportunistic
  rw [List.map_append, List.nodup_append]
  refine ⟨?_, ?_, ?_⟩
  · exact distinct.sublist ((List.filter_sublist.trans parts.others).map _)
  · exact distinct.sublist ((List.filter_sublist.trans parts.first).map _)
  · rintro x inOther _ inCritical rfl
    exact parts.apart x ((List.filter_sublist.map _).subset inCritical)
      ((List.filter_sublist.map _).subset inOther)

variable (s link) in
theorem admitAll_decides (distinct : (scored.map Scored.flowId).Nodup) :
    Decides scored (s.admitAll link scored) := by
  have parts := partition_parts distinct
  have first := s.admitByPriority_passes (partition scored).1 true (lit "critical reservation")
  unfold admitAll
  dsimp only
  rw [sharedPasses_eq]
  generalize link.capacityBytesPerTick - _ + _ = budget
  have second := s.admitByDensity_passes ((partition scored).2.filter fun entry =>
    entry.spec.flowClass = .humanQoe ∧ entry.obs.task.operatorAttention > ofInt 0)
  have last := s.admitByDensity_passes (restOf (partition scored).1 (partition scored).2
    (s.criticalPass link (partition scored).1).1
    (s.selectedQoe link (partition scored).2 budget))
  constructor
  · intro decision among
    rcases List.mem_append.mp among with critical | shared
    · obtain ⟨entry, inside, sends⟩ := first.sends _ decision critical
      exact ⟨entry, parts.first.subset inside, sends⟩
    rcases List.mem_append.mp shared with qoe | rest
    · obtain ⟨entry, inside, sends⟩ := second.sends _ decision qoe
      exact ⟨entry, parts.others.subset (List.mem_filter.mp inside).1, sends⟩
    · obtain ⟨entry, inside, sends⟩ := last.sends _ decision rest
      refine ⟨entry, ?_, sends⟩
      cases List.mem_append.mp inside with
      | inl other => exact parts.others.subset (List.mem_filter.mp other).1
      | inr rejected => exact parts.first.subset (List.mem_filter.mp rejected).1
  · rw [List.map_append, List.map_append]
    refine nodup_three parts.apart (first.subset _) ?_ ?_ ?_ ?_ ?_
    · exact List.Subset.trans (second.subset _) (List.filter_sublist.map _).subset
    · intro x inLast
      exact mem_restOf (last.subset _ inLast)
    · exact first.nodup (distinct.sublist (parts.first.map _)) _
    · exact second.nodup
        (distinct.sublist ((List.filter_sublist.trans parts.others).map _)) _
    · exact last.nodup (nodup_restOf parts distinct _) _

/-- The entries of the flows that are not stale. -/
def scoredOf (s : CausalSemanticDeadlineScheduler F) (candidates : List (Candidate F))
    (link : NetworkLink F) : List (Scored F) :=
  (candidates.filter fun candidate => !isStale candidate).map (s.score link)

/-- What `schedule` sorts. -/
def decisionsOf (s : CausalSemanticDeadlineScheduler F) (candidates : List (Candidate F))
    (link : NetworkLink F) : List (FlowDecision F) :=
  let decisions := (candidates.filter isStale).map s.dropDecision ++
    s.admitAll link (s.scoredOf candidates link)
  decisions ++ ((s.scoredOf candidates link).filter fun entry =>
    entry.flowId ∉ decisions.map FlowDecision.flowId).map deferDecision

theorem scoreAll_eq (flows : ∀ candidate ∈ candidates, candidate.1.validates = .ok ()) :
    s.scoreAll candidates link =
      .ok (s.scoredOf candidates link, (candidates.filter isStale).map s.dropDecision) := by
  have split := foldlM_partition (p := fun candidate => isStale candidate = true)
    (f := s.score link) (g := s.dropDecision) flows
  simp only [Bool.not_eq_true, Bool.decide_eq_true, Bool.decide_eq_false] at split
  exact split

theorem schedule_eq (valid : Valid candidates link) :
    ∃ decisions, s.schedule candidates link = .ok decisions ∧
      decisions.Perm (s.decisionsOf candidates link) := by
  refine ⟨_, ?_, sortedBy_perm (fun decision => [(.text decision.flowId : KeyPart F)]) _⟩
  unfold schedule
  rw [valid.link, ok_bind, scoreAll_eq valid.flows, ok_bind]
  rfl

theorem scoredOf_flowIds :
    (s.scoredOf candidates link).map Scored.flowId =
      (candidates.filter fun candidate => !isStale candidate).map fun c => c.1.flowId := by
  unfold scoredOf
  rw [List.map_map]
  rfl

theorem dropped_flowIds :
    ((candidates.filter isStale).map s.dropDecision).map FlowDecision.flowId =
      (candidates.filter isStale).map fun c => c.1.flowId := by
  rw [List.map_map]
  rfl

theorem deferred_flowIds (entries : List (Scored F)) :
    (entries.map deferDecision).map FlowDecision.flowId = entries.map Scored.flowId := by
  rw [List.map_map]
  rfl

variable (s) in
theorem scoredOf_distinct (valid : Valid candidates link) :
    ((s.scoredOf candidates link).map Scored.flowId).Nodup := by
  rw [scoredOf_flowIds]
  exact valid.distinct.sublist (List.filter_sublist.map _)

theorem not_dropped_of_scored (valid : Valid candidates link) {x : Str}
    (h : x ∈ (s.scoredOf candidates link).map Scored.flowId) :
    x ∉ ((candidates.filter isStale).map s.dropDecision).map FlowDecision.flowId := by
  rw [scoredOf_flowIds] at h
  rw [dropped_flowIds]
  intro dropped
  obtain ⟨c, among, rfl⟩ := List.mem_map.mp h
  obtain ⟨c', among', same⟩ := List.mem_map.mp dropped
  rw [List.mem_filter] at among among'
  obtain rfl := List.inj_on_of_nodup_map valid.distinct among'.1 among.1 same
  rw [among'.2] at among
  exact absurd among.2 (by decide)

theorem Decides.subset {decisions : List (FlowDecision F)} (h : Decides scored decisions) :
    decisions.map FlowDecision.flowId ⊆ scored.map Scored.flowId := by
  intro x among
  obtain ⟨decision, inside, rfl⟩ := List.mem_map.mp among
  obtain ⟨entry, listed, sends⟩ := h.sends decision inside
  rw [sends.flowId]
  exact List.mem_map_of_mem listed

/-- What is sent and what is deferred are all that was scored. -/
theorem Decides.perm_deferred {decisions : List (FlowDecision F)} (h : Decides scored decisions)
    (distinct : (scored.map Scored.flowId).Nodup) (decided : List Str)
    (isDecided : ∀ x ∈ scored.map Scored.flowId,
      x ∈ decided ↔ x ∈ decisions.map FlowDecision.flowId) :
    (decisions.map FlowDecision.flowId ++
      (scored.filter fun entry => entry.flowId ∉ decided).map Scored.flowId).Perm
      (scored.map Scored.flowId) := by
  refine (List.perm_ext_iff_of_nodup ?_ distinct).mpr ?_
  · rw [List.nodup_append]
    refine ⟨h.distinct, distinct.sublist (List.filter_sublist.map _), ?_⟩
    rintro x sent _ deferred rfl
    obtain ⟨entry, among, rfl⟩ := List.mem_map.mp deferred
    obtain ⟨inside, undecided⟩ := List.mem_filter.mp among
    exact (by simpa using undecided : entry.flowId ∉ decided)
      ((isDecided _ (List.mem_map_of_mem inside)).mpr sent)
  · intro x
    rw [List.mem_append]
    constructor
    · rintro (sent | deferred)
      · exact h.subset sent
      · exact (List.filter_sublist.map _).subset deferred
    · intro among
      by_cases sent : x ∈ decisions.map FlowDecision.flowId
      case pos => exact .inl sent
      case neg =>
        obtain ⟨entry, inside, rfl⟩ := List.mem_map.mp among
        have undecided : entry.flowId ∉ decided := fun h => sent ((isDecided _ among).mp h)
        exact .inr (List.mem_map_of_mem (List.mem_filter.mpr ⟨inside, by simpa using undecided⟩))

theorem decisionsOf_flowIds (valid : Valid candidates link) :
    ((s.decisionsOf candidates link).map FlowDecision.flowId).Perm
      (candidates.map fun c => c.1.flowId) := by
  have decides := s.admitAll_decides link (s.scoredOf_distinct valid)
  have scored := decides.perm_deferred (s.scoredOf_distinct valid)
    (((candidates.filter isStale).map s.dropDecision).map FlowDecision.flowId ++
      (s.admitAll link (s.scoredOf candidates link)).map FlowDecision.flowId) <| by
      intro x among
      rw [List.mem_append]
      exact or_iff_right (not_dropped_of_scored valid among)
  unfold decisionsOf
  dsimp only
  rw [List.map_append, deferred_flowIds, List.map_append, List.append_assoc]
  refine (scored.append_left _).trans ?_
  rw [dropped_flowIds, scoredOf_flowIds, ← List.map_append]
  exact (List.filter_append_perm isStale candidates).map _

theorem allocates_iff_sent_of_unsent (nothing : decision.allocatedBytes = 0)
    (unsent : decision.action = lit "drop" ∨ decision.action = lit "defer") :
    0 < decision.allocatedBytes ↔
      decision.action = lit "send" ∨ decision.action = lit "send_degraded" := by
  rw [nothing]
  constructor
  · exact fun positive => absurd positive (by decide)
  · intro sent
    rcases unsent with drop | defer
    · rw [drop] at sent
      exact absurd sent (by decide)
    · rw [defer] at sent
      exact absurd sent (by decide)

/-- What is left of the critical reservation is part of the bytes that remain, and it is added to
    them again. The passes behind do the same without it. -/
def HandsBackOnce (s : CausalSemanticDeadlineScheduler F) (candidates : List (Candidate F))
    (link : NetworkLink F) : Prop :=
  let (critical, opportunistic) := partition (s.scoredOf candidates link)
  let (selectedCritical, leftover) := s.criticalPass link critical
  let remaining := link.capacityBytesPerTick - (selectedCritical.map (·.allocatedBytes)).sum
  s.sharedPasses link critical selectedCritical opportunistic (remaining + max 0 leftover) =
    s.sharedPasses link critical selectedCritical opportunistic remaining

theorem admitAll_within_iff (capacity : 0 ≤ link.capacityBytesPerTick) :
    allocatedTotal (s.admitAll link (s.scoredOf candidates link)) ≤ link.capacityBytesPerTick ↔
      s.HandsBackOnce candidates link := by
  have first := (s.admitByPriority_passes (partition (s.scoredOf candidates link)).1 true
    (lit "critical reservation")).within
    (min (toInt (ofInt link.capacityBytesPerTick * s.criticalBudgetFraction))
      link.capacityBytesPerTick)
  have reserved : allocatedTotal (s.criticalPass link (partition (s.scoredOf candidates link)).1).1 ≤
      link.capacityBytesPerTick :=
    first.trans (max_le capacity (min_le_right _ _))
  unfold admitAll HandsBackOnce
  dsimp only
  rw [allocatedTotal_append]
  constructor
  · intro fits
    apply (sharedPasses_steady (by omega) ?_).symm
    exact Int.le_sub_left_of_add_le fits
  · intro same
    rw [same]
    have within := s.sharedPasses_within link (partition (s.scoredOf candidates link)).1
      (partition (s.scoredOf candidates link)).2
      (s.criticalPass link (partition (s.scoredOf candidates link)).1).1
      (Int.sub_nonneg_of_le reserved)
    exact Int.add_le_of_le_sub_left within

theorem allocatedTotal_map_zero {α : Type} {f : α → FlowDecision F}
    (nothing : ∀ x, (f x).allocatedBytes = 0) (items : List α) :
    allocatedTotal (items.map f) = 0 := by
  unfold allocatedTotal Greedy.total
  rw [List.map_map]
  exact List.sum_eq_zero (by simpa using fun _ _ => nothing _)

/-- The bytes of the decisions are those of what is admitted. -/
theorem allocatedTotal_decisionsOf :
    allocatedTotal (s.decisionsOf candidates link) =
      allocatedTotal (s.admitAll link (s.scoredOf candidates link)) := by
  unfold decisionsOf
  dsimp only
  rw [allocatedTotal_append, allocatedTotal_append, allocatedTotal_map_zero fun _ => rfl,
    allocatedTotal_map_zero fun _ => rfl]
  omega

end

end CausalSemanticDeadlineScheduler

end

/-! ## Two flows on one link -/

/-- A bulk flow that is sampled fresh. -/
def bulkFlow (flowId : Str) (nominalSizeBytes : Int) : Candidate Fixed :=
  let spec : FlowSpec Fixed := {
    flowId
    robotId := lit "r"
    topic := lit "t"
    flowClass := .bulk
    qos := {
      deadlineMs := 50.0
      lifespanMs := 500.0 }
    qoe := ⟨false, 0.0, 0.0, 0.0⟩
    nominalSizeBytes
    nominalRateHz := 10.0
    causalTaskGain := 1.0
    redundancy := 0.0
    semanticDeltaRatio := 1.0 }
  let obs : FlowObservation Fixed := {
    ageMs := 0.0
    queueDepth := 1
    measuredLoss := 0.0
    measuredRttMs := 10.0
    task := ⟨lit "task", lit "r", 0.5, 0.5, 0.5, 0.5⟩ }
  (spec, obs)

def bulkLink : NetworkLink Fixed :=
  { capacityBytesPerTick := 100
    loss := 0.0
    jitterMs := 1.0
    rttMs := 10.0 }

def defaultScheduler : CausalSemanticDeadlineScheduler Fixed :=
  { weights := .standard
    criticalBudgetFraction := 0.55
    qoeBudgetFraction := 0.12
    degradationFloor := 0.18 }

theorem twoBulkFlows_valid :
    Valid [bulkFlow (lit "a") 70, bulkFlow (lit "b") 70] bulkLink where
  link := rfl
  flows := by
    intro x among
    rcases List.mem_cons.mp among with rfl | among
    · rfl
    · rw [List.mem_singleton.mp among]
      rfl
  distinct := by decide

namespace CausalSemanticDeadlineScheduler

end CausalSemanticDeadlineScheduler

end FleetRMW.Admission
