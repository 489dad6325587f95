import FleetRMW.Admission.ContextualKeeps
import FleetRMW.Admission.RobotBudgetKeeps

/-! # Control intents

On wide links a control flow that the wrapped controller leaves out may be sent as an intent. All
else stays as the wrapped controller decides: each flow is decided about once, and what is not an
intent fits in the bytes of the tick. The intents come on top.
-/

namespace FleetRMW.Admission

open Lib FloatOps

section
variable {F : Type} [FloatOps F]

/-- The decision sends an intent in place of the sample. -/
def FlowDecision.isIntent (decision : FlowDecision F) : Bool := decision.action = lit "send_intent"

namespace IntentAwareContextualAdmissionController

variable {c : IntentAwareContextualAdmissionController F} {candidates : List (Candidate F)}
  {link : NetworkLink F} {profile : ProfileLabel} {x : Candidate F} {options : TransformOptions F}
  {before after decision : FlowDecision F} {base rewritten decisions : List (FlowDecision F)}

/-! ## One flow -/

/-- An intent for a flow in place of the decision that leaves it out. -/
structure Intends (options : TransformOptions F) (link : NetworkLink F)
    (x : Candidate F) (before : FlowDecision F) (raw intent : TransformCandidate F) : Prop where
  control : x.1.flowClass = .control
  unsent : before.isSent = false
  built : ∃ built, transformCandidates x.1 x.2 link options = .ok built ∧ raw ∈ built ∧
    intent ∈ built
  raw_kind : raw.transform.kind = .raw
  intent_kind : intent.transform.kind = .controlIntent
  raw_late : raw.certificate.feasible = false
  arrives : ¬intent.certificate.predictedArrivalAgeMs > x.1.qos.lifespanMs
  better : ¬intent.certificate.slackAfterWireMs ≤ raw.certificate.slackAfterWireMs

/-- What becomes of a decision. -/
inductive Rewrites (options : TransformOptions F) (link : NetworkLink F)
    (x : Candidate F) (before : FlowDecision F) : FlowDecision F → Prop where
  | kept : Rewrites options link x before before
  | intended {profile : ProfileLabel} {raw intent : TransformCandidate F}
      (wide : profile = .wan ∨ profile = .roaming)
      (classified : classifyLinkProfile link = .ok profile)
      (intends : Intends options link x before raw intent) :
      Rewrites options link x before (intentDecision x.1 before intent profile)

theorem Rewrites.flowId (h : Rewrites options link x before after) : after.flowId = before.flowId := by
  cases h with
  | kept => rfl
  | intended => rfl

theorem controlIntentCandidate_ok (valid : x.1.validates = .ok ())
    (validLink : link.validates = .ok ()) (before : FlowDecision F) :
    ∃ chosen, c.controlIntentCandidate x link before = .ok chosen ∧
      ∀ intent ∈ chosen, ∃ raw, Intends c.transformOptions link x before raw intent := by
  have nothing : ∀ intent ∈ (none : Option (TransformCandidate F)), ∃ raw,
      Intends c.transformOptions link x before raw intent := fun _ among => by cases among
  unfold controlIntentCandidate
  dsimp only
  split
  · exact ⟨none, rfl, nothing⟩
  rename_i control
  split
  · exact ⟨none, rfl, nothing⟩
  rename_i unsent
  obtain ⟨options, built⟩ := transformCandidates_of_valid x.2 c.transformOptions valid validLink
  rw [built, ok_bind]
  split
  case h_2 => exact ⟨none, rfl, nothing⟩
  case h_1 raw intent foundRaw foundIntent =>
    split
    · exact ⟨none, rfl, nothing⟩
    rename_i late
    split
    · exact ⟨none, rfl, nothing⟩
    rename_i arrives
    split
    · exact ⟨none, rfl, nothing⟩
    rename_i better
    have rawKind := List.find?_some foundRaw
    have intentKind := List.find?_some foundIntent
    refine ⟨some intent, rfl, ?_⟩
    rintro _ ⟨⟩
    exact ⟨raw, not_not.mp control, Bool.not_eq_true _ ▸ unsent,
      ⟨options, built, List.mem_of_find?_eq_some foundRaw,
        List.mem_of_find?_eq_some foundIntent⟩,
      of_decide_eq_true rawKind, of_decide_eq_true intentKind, Bool.not_eq_true _ ▸ late, arrives, better⟩

/-! ## The loop -/

/-- What the loop makes of a flow. -/
def Answers (options : TransformOptions F) (link : NetworkLink F)
    (base : List (FlowDecision F)) (x : Candidate F) (after : FlowDecision F) : Prop :=
  ∃ before ∈ base, before.flowId = x.1.flowId ∧ Rewrites options link x before after

theorem rewriteTurn_ok (valid : x.1.validates = .ok ()) (validLink : link.validates = .ok ())
    (wide : profile = .wan ∨ profile = .roaming)
    (classified : classifyLinkProfile link = .ok profile) (among : before ∈ base)
    (names : before.flowId = x.1.flowId)
    (there : (byId base).get? x.1.flowId = some before) (rewritten : List (FlowDecision F)) :
    ∃ after, c.rewriteTurn (byId base) link profile rewritten x = .ok (rewritten ++ [after]) ∧
      Answers c.transformOptions link base x after := by
  obtain ⟨chosen, built, holds⟩ := controlIntentCandidate_ok (c := c) valid validLink before
  unfold rewriteTurn
  rw [there]
  dsimp only
  rw [built, ok_bind]
  cases chosen with
  | none => exact ⟨before, rfl, before, among, names, .kept⟩
  | some intent =>
      obtain ⟨raw, intends⟩ := holds intent rfl
      exact ⟨_, rfl, before, among, names, .intended wide classified intends⟩

theorem rewriteAll_ok (valid : Valid candidates link)
    (wide : profile = .wan ∨ profile = .roaming)
    (classified : classifyLinkProfile link = .ok profile)
    (ids : (base.map FlowDecision.flowId).Perm (candidates.map fun x => x.1.flowId)) :
    ∃ rewritten, candidates.foldlM (c.rewriteTurn (byId base) link profile) [] = .ok rewritten ∧
      List.Forall₂ (Answers c.transformOptions link base) candidates rewritten := by
  have distinct : (base.map FlowDecision.flowId).Nodup := ids.nodup_iff.mpr valid.distinct
  have general : ∀ (rest : List (Candidate F)) (sofar : List (FlowDecision F)),
      (∀ x ∈ rest, x ∈ candidates) → ∃ rewritten,
        rest.foldlM (c.rewriteTurn (byId base) link profile) sofar = .ok (sofar ++ rewritten) ∧
        List.Forall₂ (Answers c.transformOptions link base) rest rewritten := by
    intro rest
    induction rest with
    | nil =>
        intro sofar _
        refine ⟨[], ?_, .nil⟩
        rw [List.append_nil]
        rfl
    | cons x rest ih =>
        intro sofar known
        have among := known x List.mem_cons_self
        have listed : x.1.flowId ∈ base.map FlowDecision.flowId :=
          ids.symm.subset (List.mem_map_of_mem (f := fun x : Candidate F => x.1.flowId) among)
        obtain ⟨before, inside, names⟩ := List.mem_map.mp listed
        have there : (byId base).get? before.flowId = some before :=
          foldl_set_get? (fun decision => decision) distinct inside
        rw [names] at there
        obtain ⟨after, turned, answers⟩ := rewriteTurn_ok (c := c) (valid.flows x among) valid.link
          wide classified inside names there sofar
        obtain ⟨rewritten, looped, related⟩ :=
          ih (sofar ++ [after]) fun y later => known y (List.mem_cons_of_mem x later)
        refine ⟨after :: rewritten, ?_, .cons answers related⟩
        rw [List.foldlM_cons, turned, ok_bind, looped, List.append_assoc, List.singleton_append]
  obtain ⟨rewritten, looped, related⟩ := general candidates [] fun _ among => among
  exact ⟨rewritten, looped, related⟩

/-! ## Flows and bytes -/

theorem ids_of_answers (related : List.Forall₂ (Answers options link base) candidates rewritten) :
    rewritten.map FlowDecision.flowId = candidates.map fun x => x.1.flowId := by
  induction related with
  | nil => rfl
  | cons answers _ ih =>
      obtain ⟨before, -, names, rewrites⟩ := answers
      rw [List.map_cons, List.map_cons, ih, rewrites.flowId, names]

/-- The bytes of a decision that is not an intent. -/
def sampleBytes (decision : FlowDecision F) : Int :=
  if decision.isIntent then 0 else decision.allocatedBytes

/-- The wrapped controller sends no intents. -/
theorem not_isIntent (decided : before.action ∈ sampleActions ∨ before.Holds) :
    before.isIntent = false := by
  unfold FlowDecision.isIntent
  apply decide_eq_false
  intro intent
  cases decided with
  | inl sample =>
      rw [intent] at sample
      exact absurd sample (by decide)
  | inr holds =>
      have sent : before.isSent = true := by
        unfold FlowDecision.isSent
        rw [intent]
        decide
      rw [holds.unsent] at sent
      cases sent

theorem isSent_of_sampleActions (sample : before.action ∈ sampleActions) : before.isSent := by
  unfold sampleActions at sample
  simp only [List.mem_cons, List.not_mem_nil, or_false] at sample
  unfold FlowDecision.isSent
  rcases sample with action | action | action
  · rw [action]
    decide
  · rw [action]
    decide
  · rw [action]
    decide

theorem Rewrites.sampleBytes_eq (h : Rewrites options link x before after)
    (decided : before.action ∈ sampleActions ∨ before.Holds) :
    sampleBytes after = before.allocatedBytes := by
  cases h with
  | kept =>
      unfold sampleBytes
      rw [not_isIntent decided]
      rfl
  | intended wide classified intends =>
      have holds : before.Holds := by
        apply decided.resolve_left
        intro sample
        have sent := isSent_of_sampleActions sample
        rw [intends.unsent] at sent
        cases sent
      rw [holds.nothing]
      rfl

/-- The decisions that were rewritten are all that there were. -/
theorem exists_befores (related : List.Forall₂ (Answers options link base) candidates rewritten) :
    ∃ befores : List (FlowDecision F),
      befores.map FlowDecision.flowId = candidates.map (fun x => x.1.flowId) ∧ befores ⊆ base ∧
      List.Forall₂ (fun before after => ∃ x, Rewrites options link x before after) befores rewritten := by
  induction related with
  | nil => exact ⟨[], rfl, List.nil_subset _, .nil⟩
  | cons answers _ ih =>
      obtain ⟨before, among, names, rewrites⟩ := answers
      obtain ⟨befores, ids, some_of, all⟩ := ih
      refine ⟨before :: befores, ?_, List.cons_subset.mpr ⟨among, some_of⟩, .cons ⟨_, rewrites⟩ all⟩
      rw [List.map_cons, List.map_cons, ids, names]

theorem total_sampleBytes (distinct : (candidates.map fun x => x.1.flowId).Nodup)
    (ids : (base.map FlowDecision.flowId).Perm (candidates.map fun x => x.1.flowId))
    (decided : ∀ decision ∈ base, decision.action ∈ sampleActions ∨ decision.Holds)
    (related : List.Forall₂ (Answers options link base) candidates rewritten) :
    Greedy.total sampleBytes rewritten = allocatedTotal base := by
  obtain ⟨befores, named, some_of, all⟩ := exists_befores related
  have single : (base.map FlowDecision.flowId).Nodup := ids.nodup_iff.mpr distinct
  have once : (befores.map FlowDecision.flowId).Nodup := named ▸ distinct
  have same : befores.Perm base := by
    refine (List.perm_ext_iff_of_nodup (.of_map _ once) (.of_map _ single)).mpr ?_
    intro decision
    refine ⟨fun among => some_of among, ?_⟩
    intro among
    have listed : decision.flowId ∈ befores.map FlowDecision.flowId := by
      rw [named]
      exact ids.subset (List.mem_map_of_mem among)
    obtain ⟨other, inside, found⟩ := List.mem_map.mp listed
    obtain rfl := List.inj_on_of_nodup_map single (some_of inside) among found
    exact inside
  have bytes : rewritten.map sampleBytes = befores.map FlowDecision.allocatedBytes := by
    clear named once same related
    induction all with
    | nil => rfl
    | cons rewrites _ ih =>
        obtain ⟨x, rewrites⟩ := rewrites
        obtain ⟨first, others⟩ := List.cons_subset.mp some_of
        rw [List.map_cons, List.map_cons, ih others, rewrites.sampleBytes_eq (decided _ first)]
  unfold allocatedTotal Greedy.total
  rw [bytes]
  exact (same.map _).sum_eq

/-! ## The schedule -/

/-- What is decided of a flow: its sample is sent, which is not stale, or nothing, or an intent. -/
inductive Decides (options : TransformOptions F) (link : NetworkLink F)
    (x : Candidate F) (decision : FlowDecision F) : Prop where
  | sample (action : decision.action ∈ sampleActions) (fresh : ¬x.2.ageMs > x.1.qos.lifespanMs)
  | nothing (holds : decision.Holds)
  | intent {before : FlowDecision F} {raw intent : TransformCandidate F} {profile : ProfileLabel}
      (wide : profile = .wan ∨ profile = .roaming)
      (classified : classifyLinkProfile link = .ok profile)
      (intends : Intends options link x before raw intent)
      (same : decision = intentDecision x.1 before intent profile)

/-- What a call decides. -/
structure Outcome (options : TransformOptions F) (candidates : List (Candidate F))
    (link : NetworkLink F) (decisions : List (FlowDecision F)) : Prop where
  ids : (decisions.map FlowDecision.flowId).Perm (candidates.map fun x => x.1.flowId)
  bytes : Greedy.total sampleBytes decisions ≤ link.capacityBytesPerTick
  each : ∀ x ∈ candidates, ∀ decision ∈ decisions, decision.flowId = x.1.flowId →
    Decides options link x decision

theorem decides_of_settles (settles : Settles candidates base)
    (decided : ∀ decision ∈ base, decision.action ∈ sampleActions ∨ decision.Holds)
    (listed : x ∈ candidates) (among : before ∈ base) (names : before.flowId = x.1.flowId) :
    Decides options link x before := by
  by_cases old : x.2.ageMs > x.1.qos.lifespanMs
  case pos => exact .nothing (settles.stale x listed old before among names)
  case neg =>
    cases decided before among with
    | inl action => exact .sample action old
    | inr holds => exact .nothing holds

theorem decides_of_answers (settles : Settles candidates base)
    (decided : ∀ decision ∈ base, decision.action ∈ sampleActions ∨ decision.Holds)
    (listed : x ∈ candidates) (answers : Answers options link base x after) : Decides options link x after := by
  obtain ⟨before, among, names, rewrites⟩ := answers
  cases rewrites with
  | kept => exact decides_of_settles settles decided listed among names
  | intended wide classified intends => exact .intent wide classified intends rfl

theorem outcome_of_base (settles : Settles candidates base)
    (within : allocatedTotal base ≤ link.capacityBytesPerTick)
    (decided : ∀ decision ∈ base, decision.action ∈ sampleActions ∨ decision.Holds) :
    Outcome options candidates link base where
  ids := settles.ids
  bytes := by
    have same : base.map sampleBytes = base.map FlowDecision.allocatedBytes := by
      apply List.map_congr_left
      intro decision among
      unfold sampleBytes
      rw [not_isIntent (decided decision among)]
      rfl
    unfold Greedy.total
    rw [same]
    exact within
  each := fun _ listed _ among names => decides_of_settles settles decided listed among names

theorem outcome_of_answers (valid : Valid candidates link) (settles : Settles candidates base)
    (within : allocatedTotal base ≤ link.capacityBytesPerTick)
    (decided : ∀ decision ∈ base, decision.action ∈ sampleActions ∨ decision.Holds)
    (related : List.Forall₂ (Answers options link base) candidates rewritten)
    (same : decisions.Perm rewritten) : Outcome options candidates link decisions where
  ids := by
    refine (same.map _).trans ?_
    rw [ids_of_answers related]
  bytes := by
    have total : Greedy.total sampleBytes decisions = Greedy.total sampleBytes rewritten :=
      (same.map _).sum_eq
    rw [total, total_sampleBytes valid.distinct settles.ids decided related]
    exact within
  each := by
    intro x listed decision decidedOn names
    obtain ⟨y, among, answers⟩ := mem_of_related related (same.subset decidedOn)
    obtain ⟨before, inside, found, rewrites⟩ := answers
    obtain rfl : y = x := by
      apply List.inj_on_of_nodup_map valid.distinct among listed
      rw [← found, ← rewrites.flowId, names]
    exact decides_of_answers settles decided among ⟨before, inside, found, rewrites⟩

/-- A call returns, keeps something to choose for every link, and decides about each flow. -/
theorem schedule_ok (complete : c.base.Complete) (valid : Valid candidates link) :
    ∃ decisions c', c.schedule candidates link = .ok (decisions, c') ∧ c'.base.Complete ∧
      c'.transformOptions = c.transformOptions ∧ Outcome c.transformOptions candidates link decisions := by
  unfold schedule
  cases candidates with
  | nil =>
      refine ⟨[], c, rfl, complete, rfl, .refl _, valid.capacity, ?_⟩
      exact fun _ among => absurd among List.not_mem_nil
  | cons x rest =>
      obtain ⟨profile, classified⟩ := classifyLinkProfile_ok valid.link
      obtain ⟨base, base', returned, complete', settles, within, decided⟩ :=
        ContextualProfiledLagrangianAdmissionController.schedule_keeps_complete complete valid
      rw [if_neg (show ¬(x :: rest).isEmpty from Bool.false_ne_true), classified, ok_bind, returned,
        ok_bind]
      dsimp only
      split
      case isTrue =>
        exact ⟨base, _, rfl, complete', rfl, outcome_of_base settles within decided⟩
      case isFalse other =>
        have wide : profile = .wan ∨ profile = .roaming := by
          rw [not_and_or, not_not, not_not] at other
          exact other
        obtain ⟨rewritten, looped, related⟩ := rewriteAll_ok (c := { c with base := base' }) valid
          wide classified settles.ids
        have rewrites : (x :: rest).foldlM (rewriteTurn { c with base := base' }
            (base.foldl (fun d decision => d.set decision.flowId decision) []) link profile) [] =
            .ok rewritten := looped
        rw [rewrites, ok_bind]
        exact ⟨_, _, rfl, complete', rfl,
          outcome_of_answers valid settles within decided related (sortedBy_perm _ _)⟩

end IntentAwareContextualAdmissionController

end

end FleetRMW.Admission
