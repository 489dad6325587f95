import FleetRMW.Lib.Recency
import FleetRMW.Gateway.Agreement
import FleetRMW.Gateway.Delivery

/-! # Which keys an engine in memory remembers

A history is a window on the frames that were accepted, while the keys that tell a duplicate are
kept by their last use. A duplicate moves its key behind those of newer frames, so that the key
of a frame that is still retained can be the next one to go. The keys of the outcomes are kept in
the same way, apart from those of the frames.
-/

namespace FleetRMW.Gateway

open Lib

namespace FleetQoxGatewayState

/-- An engine that was just constructed without a store. -/
def inMemory (admission : PolicyState) : FleetQoxGatewayState where
  topics _ := none
  consumerOffsets _ _ := none
  admission
  durableStore := none

variable (cfg : GatewayConfig)

/-- The frame that a call adds to a history. -/
def acceptedFrame? (s : FleetQoxGatewayState) : DurableCall → Option (Bytes × FrameMetadata)
  | .publish payload domainId topic =>
      (s.newFrame? cfg payload domainId topic).map fun m => (payload, m)
  | _ => none

/-- The outcome that a call counts. -/
def countedOutcome? (s : FleetQoxGatewayState) : DurableCall → Option OutcomeRequest
  | .recordApplicationOutcome document => s.newOutcome? cfg document
  | _ => none

/-- What a call does to the histories. -/
inductive Histories (s : FleetQoxGatewayState) (c : DurableCall)
    (topics' : StreamKey → Option TopicHistory) : Prop where
  | unchanged (noFrame : s.acceptedFrame? cfg c = none) (same : topics' = s.topics)
  | duplicate {stream : StreamKey} {h : TopicHistory} {key : DedupKey}
      (noFrame : s.acceptedFrame? cfg c = none) (known : s.topics stream = some h)
      (present : key ∈ h.recentKeys)
      (same : topics' = Function.update s.topics stream
        (some { h with recentKeys := moveToEnd key h.recentKeys }))
  | accepted {payload : Bytes} {m : FrameMetadata}
      (accepts : s.acceptedFrame? cfg c = some (payload, m))
      (new : m.dedupKey ∉ ((s.topics m.streamKey).getD {}).recentKeys)
      (same : topics' = Function.update s.topics m.streamKey
        (some (((s.topics m.streamKey).getD {}).append cfg payload m)))
  | duplicateOutcome {stream : StreamKey} {h : TopicHistory} {key : DedupKey}
      (noFrame : s.acceptedFrame? cfg c = none) (known : s.topics stream = some h)
      (present : key ∈ h.applicationOutcomeKeys)
      (same : topics' = Function.update s.topics stream
        (some { h with applicationOutcomeKeys := moveToEnd key h.applicationOutcomeKeys }))
  | outcome {r : OutcomeRequest} {h : TopicHistory} (noFrame : s.acceptedFrame? cfg c = none)
      (counts : s.countedOutcome? cfg c = some r) (known : s.topics r.streamKey = some h)
      (new : r.dedupKey ∉ h.applicationOutcomeKeys)
      (same : topics' = Function.update s.topics r.streamKey
        (some (h.recordOutcome cfg r.dedupKey)))

variable {cfg} {s : FleetQoxGatewayState}

theorem publish_histories (noStore : s.durableStore = none) (payload : Bytes)
    (domainId : Option Int) (topic : Option Str) :
    (s.publish cfg payload domainId topic).2.durableStore = none ∧
      Histories cfg s (.publish payload domainId topic)
        (s.publish cfg payload domainId topic).2.topics := by
  have frame : s.acceptedFrame? cfg (.publish payload domainId topic) =
    (s.newFrame? cfg payload domainId topic).map fun m => (payload, m) := rfl
  unfold newFrame? at frame
  unfold publish
  cases parsed : parse cfg payload with
  | error e =>
      simp only [parsed, Option.map_none] at frame
      exact ⟨noStore, .unchanged frame rfl⟩
  | ok m =>
      simp only [parsed] at frame
      dsimp only
      split
      case isTrue other =>
        rw [if_pos other] at frame
        exact ⟨noStore, .unchanged frame rfl⟩
      case isFalse =>
      rw [if_neg ‹_›] at frame
      split
      case isTrue other =>
        rw [if_pos other] at frame
        exact ⟨noStore, .unchanged frame rfl⟩
      case isFalse =>
      rw [if_neg ‹_›] at frame
      unfold publishFrame
      dsimp only
      split
      case isTrue duplicate =>
        rw [if_pos duplicate] at frame
        cases known : s.topics m.streamKey with
        | none =>
            rw [known] at duplicate
            exact absurd duplicate List.not_mem_nil
        | some h =>
            rw [known] at duplicate
            exact ⟨noStore, .duplicate frame known duplicate rfl⟩
      case isFalse new =>
        rw [if_neg new, exportAdmission_inMemory noStore] at frame
        rw [exportAdmission_inMemory noStore]
        dsimp only at frame ⊢
        obtain ⟨answer, admission, admitted⟩ := admitFrame_eq cfg s m
        rw [admitted] at frame ⊢
        cases answer with
        | error e => exact ⟨noStore, .unchanged frame rfl⟩
        | ok action =>
            simp only [publishAdmitted, exportAdmission_inMemory, transact_inMemory, putTopic,
              noStore, Function.update_idem]
            exact ⟨trivial, .accepted frame new rfl⟩

theorem take_histories (noStore : s.durableStore = none) (stream : StreamKey) (consumerId : Str) :
    (s.take cfg stream consumerId).2.durableStore = none ∧
      Histories cfg s (.take stream consumerId) (s.take cfg stream consumerId).2.topics := by
  unfold take
  split
  · exact ⟨noStore, .unchanged rfl rfl⟩
  · dsimp only
    split
    · rw [commitCursor_inMemory noStore]
      exact ⟨noStore, .unchanged rfl rfl⟩
    · rw [commitCursor_inMemory noStore]
      exact ⟨noStore, .unchanged rfl rfl⟩

end FleetQoxGatewayState

/-- An outcome that is refused leaves the observations as they were. -/
theorem GatewayAdmissionPolicy.observations_of_outcome_error (env : Environment)
    (policy : GatewayAdmissionPolicy) (state : PolicyState) (u : OutcomeUpdate) (e : PolicyError)
    (refused : (policy.updateApplicationOutcome env state u).1 = .error e) :
    (policy.updateApplicationOutcome env state u).2.observations = state.observations := by
  unfold updateApplicationOutcome at refused ⊢
  split at refused
  · rename_i disabled
    rw [if_pos disabled]
  rename_i enabled
  rw [if_neg enabled]
  split at refused
  case h_2 => rfl
  case h_1 latencyMs deadlineMs _ _ =>
    dsimp only at refused ⊢
    split at refused
    · rename_i invalid
      rw [if_pos invalid]
    rename_i valid
    rw [if_neg valid]
    unfold updateObservation at refused ⊢
    split
    case h_1 raised =>
      split at raised
      · cases raised
        rfl
      · cases raised
    case h_2 returned =>
      rw [returned] at refused
      cases refused

namespace FleetQoxGatewayState

variable {cfg : GatewayConfig} {s : FleetQoxGatewayState}

variable (cfg) in
/-- An outcome is counted, or changes no observation. -/
theorem recordApplicationOutcome_cases (noStore : s.durableStore = none)
    (document : List (Str × PyJson)) :
    (∃ r h debt, s.newOutcome? cfg document = some r ∧
      OutcomeRequest.ofDocument document = .ok r ∧ s.topics r.streamKey = some h ∧
      r.dedupKey ∈ h.recentKeys ∧ r.dedupKey ∉ h.applicationOutcomeKeys ∧
      (s.recordApplicationOutcome cfg document).1 = .ok (some (.updated debt)) ∧
      (s.recordApplicationOutcome cfg document).2.durableStore = none ∧
      (s.recordApplicationOutcome cfg document).2.topics =
        Function.update s.topics r.streamKey (some (h.recordOutcome cfg r.dedupKey))) ∨
    (∀ debt, (s.recordApplicationOutcome cfg document).1 ≠ .ok (some (.updated debt))) ∧
      (s.recordApplicationOutcome cfg document).2.admission.observations =
        s.admission.observations ∧
      (s.recordApplicationOutcome cfg document).2.durableStore = none ∧
      ((s.recordApplicationOutcome cfg document).2.topics = s.topics ∨
        ∃ r h, OutcomeRequest.ofDocument document = .ok r ∧ s.topics r.streamKey = some h ∧
          r.dedupKey ∈ h.recentKeys ∧ r.dedupKey ∈ h.applicationOutcomeKeys ∧
          (s.recordApplicationOutcome cfg document).1 = .ok (some .duplicate) ∧
          (s.recordApplicationOutcome cfg document).2.topics =
            Function.update s.topics r.streamKey (some { h with
              applicationOutcomeKeys := moveToEnd r.dedupKey h.applicationOutcomeKeys })) := by
  unfold recordApplicationOutcome newOutcome?
  cases policy? : cfg.admissionPolicy with
  | none => exact .inr ⟨nofun, rfl, noStore, .inl rfl⟩
  | some policy =>
      dsimp only
      cases enabled : policy.applicationOutcomeQoeDebtEnabled with
      | false => exact .inr ⟨nofun, rfl, noStore, .inl rfl⟩
      | true =>
          cases read : OutcomeRequest.ofDocument document with
          | error e => exact .inr ⟨nofun, rfl, noStore, .inl rfl⟩
          | ok r =>
              simp only [Bool.not_true, Bool.false_eq_true, if_false]
              unfold recordOutcome
              cases known : s.topics r.streamKey with
              | none => exact .inr ⟨nofun, rfl, noStore, .inl rfl⟩
              | some h =>
                  by_cases recent : r.dedupKey ∈ h.recentKeys
                  case neg =>
                    rw [Option.filter_some_neg (by simpa using recent)]
                    exact .inr ⟨nofun, rfl, noStore, .inl rfl⟩
                  rw [Option.filter_some_pos (by simpa using recent)]
                  dsimp only
                  by_cases counted : r.dedupKey ∈ h.applicationOutcomeKeys
                  case pos =>
                    rw [if_pos counted]
                    exact .inr ⟨nofun, rfl, noStore,
                      .inr ⟨r, h, rfl, known, recent, counted, rfl, rfl⟩⟩
                  rw [if_neg counted, exportAdmission_inMemory noStore]
                  dsimp only
                  rw [if_pos ⟨enabled, recent, counted⟩]
                  cases floats : r.latencies with
                  | error e => exact .inr ⟨nofun, rfl, noStore, .inl rfl⟩
                  | ok latencies =>
                      obtain ⟨latencyMs, deadlineMs⟩ := latencies
                      have refused := policy.observations_of_outcome_error cfg.env s.admission
                        (r.update latencyMs deadlineMs)
                      dsimp only
                      cases updated : policy.updateApplicationOutcome cfg.env s.admission
                          (r.update latencyMs deadlineMs) with
                      | mk answer admission =>
                          rw [updated] at refused
                          cases answer with
                          | error e =>
                              have same := refused e rfl
                              cases e with
                              | valueError message => exact .inr ⟨nofun, same, noStore, .inl rfl⟩
                              | admission status code reason trafficClass =>
                                  exact .inr ⟨nofun, same, noStore, .inl rfl⟩
                              | typeError => exact .inr ⟨nofun, same, noStore, .inl rfl⟩
                          | ok debt =>
                              have stays : ({ s with admission } : FleetQoxGatewayState).durableStore = none :=
                                noStore
                              refine .inl ⟨r, h, debt, rfl, rfl, known, recent, counted, ?_⟩
                              simp only [commitOutcome, exportAdmission_inMemory stays,
                                transact_inMemory stays, putTopic, true_and]
                              exact ⟨noStore, trivial⟩

variable (cfg) in
theorem call_histories (noStore : s.durableStore = none) (c : DurableCall) :
    (s.call cfg c).2.durableStore = none ∧ Histories cfg s c (s.call cfg c).2.topics := by
  cases c with
  | publish payload domainId topic => exact publish_histories noStore payload domainId topic
  | take stream consumerId => exact take_histories noStore stream consumerId
  | recordApplicationOutcome document =>
      rcases recordApplicationOutcome_cases cfg noStore document with
        ⟨r, h, debt, counts, -, known, -, new, -, still, topics⟩ | ⟨-, -, still, topics⟩
      · exact ⟨still, .outcome rfl counts known new topics⟩
      · rcases topics with same | ⟨r, h, -, known, -, counted, -, topics⟩
        · exact ⟨still, .unchanged rfl same⟩
        · exact ⟨still, .duplicateOutcome rfl known counted topics⟩

end FleetQoxGatewayState

/-! ## The keys of retained frames -/

namespace TopicHistory

variable {cfg : GatewayConfig} {h : TopicHistory}

/-- The key of every record is remembered, and none is that of two records. -/
structure Covers (h : TopicHistory) : Prop where
  recent : ∀ r ∈ h.records, r.metadata.dedupKey ∈ h.recentKeys
  once : (h.records.map fun r => r.metadata.dedupKey).Nodup

/-- The limits of a history, and that a key is in it once. -/
structure Tidy (cfg : GatewayConfig) (h : TopicHistory) : Prop where
  records : h.records.length ≤ cfg.maxFramesPerTopic
  keys : h.recentKeys.length ≤ cfg.dedupCapacityPerTopic
  distinct : h.recentKeys.Nodup
  outcomes : h.applicationOutcomeKeys.length ≤ cfg.dedupCapacityPerTopic
  outcomes_distinct : h.applicationOutcomeKeys.Nodup

/-- The records that stay when one is appended. -/
def staying (cfg : GatewayConfig) (h : TopicHistory) : List StoredFrame :=
  if h.records.length < cfg.maxFramesPerTopic then h.records else h.records.tail

/-- The next key to be forgotten, where there is no room for one more. -/
def nextForgotten (cfg : GatewayConfig) (h : TopicHistory) : Option DedupKey :=
  if h.recentKeys.length < cfg.dedupCapacityPerTopic then none else h.recentKeys.head?

theorem capacity_pos (cfg : GatewayConfig) : 0 < cfg.dedupCapacityPerTopic :=
  Nat.lt_of_lt_of_le cfg.maxFrames_pos cfg.maxFrames_le_capacity

theorem staying_sublist : (h.staying cfg).Sublist h.records := by
  unfold staying
  split
  · exact List.Sublist.refl _
  · exact List.tail_sublist _

theorem nextForgotten_eq_some_iff (tidy : h.Tidy cfg) {key : DedupKey} :
    h.nextForgotten cfg = some key ↔
      h.recentKeys.length = cfg.dedupCapacityPerTopic ∧ h.recentKeys.head? = some key := by
  unfold nextForgotten
  have few := tidy.keys
  split
  case isTrue room =>
    constructor
    · nofun
    · rintro ⟨full, -⟩
      omega
  case isFalse full =>
    have full : h.recentKeys.length = cfg.dedupCapacityPerTopic := by omega
    simp only [full, true_and]

theorem append_records (tidy : h.Tidy cfg) (payload : Bytes) (m : FrameMetadata) :
    (h.append cfg payload m).records = h.staying cfg ++ [⟨h.nextOffset, payload, m⟩] :=
  popWhileLonger_concat tidy.records cfg.maxFrames_pos _

theorem mem_append_recentKeys (tidy : h.Tidy cfg) (payload : Bytes) (m : FrameMetadata)
    (key : DedupKey) :
    key ∈ (h.append cfg payload m).recentKeys ↔
      key = m.dedupKey ∨ (key ∈ h.recentKeys ∧ h.nextForgotten cfg ≠ some key) := by
  rw [ne_eq, nextForgotten_eq_some_iff tidy]
  exact mem_popWhileLonger_concat tidy.keys (capacity_pos cfg) tidy.distinct

/-- Appending keeps the keys covered exactly when the key that goes is not one of a record that
    stays. -/
theorem append_covers_iff (tidy : h.Tidy cfg) (covers : h.Covers) (payload : Bytes)
    {m : FrameMetadata} (new : m.dedupKey ∉ h.recentKeys) :
    (h.append cfg payload m).Covers ↔
      ∀ r ∈ h.staying cfg, h.nextForgotten cfg ≠ some r.metadata.dedupKey := by
  have recent : ∀ r ∈ h.staying cfg, r.metadata.dedupKey ∈ h.recentKeys :=
    fun r stays => covers.recent r (staying_sublist.subset stays)
  constructor
  · intro after r stays
    have kept : r ∈ (h.append cfg payload m).records := by
      rw [append_records tidy]
      exact List.mem_append_left _ stays
    cases (mem_append_recentKeys tidy payload m _).mp (after.recent r kept) with
    | inl same => exact absurd (recent r stays) (same ▸ new)
    | inr old => exact old.2
  · intro spared
    constructor
    · intro r among
      rw [append_records tidy] at among
      rw [mem_append_recentKeys tidy]
      cases List.mem_append.mp among with
      | inl stays => exact .inr ⟨recent r stays, spared r stays⟩
      | inr last => exact .inl (congrArg (fun r => r.metadata.dedupKey) (List.mem_singleton.mp last))
    · rw [append_records tidy, List.map_append, List.map_singleton, ← List.concat_eq_append]
      refine (covers.once.sublist (staying_sublist.map _)).concat ?_
      intro among
      obtain ⟨r, stays, same⟩ := List.mem_map.mp among
      exact new (same ▸ recent r stays)

theorem Covers.touch (covers : h.Covers) {key : DedupKey} (present : key ∈ h.recentKeys) :
    Covers { h with recentKeys := moveToEnd key h.recentKeys } where
  recent := fun r among => (moveToEnd_perm present).symm.subset (covers.recent r among)
  once := covers.once

theorem Tidy.append (tidy : h.Tidy cfg) (payload : Bytes) {m : FrameMetadata}
    (new : m.dedupKey ∉ h.recentKeys) : (h.append cfg payload m).Tidy cfg where
  records := length_popWhileLonger_le _ _
  keys := length_popWhileLonger_le _ _
  distinct := nodup_popWhileLonger_concat tidy.distinct new
  outcomes := tidy.outcomes
  outcomes_distinct := tidy.outcomes_distinct

theorem Tidy.touch (tidy : h.Tidy cfg) {key : DedupKey} (present : key ∈ h.recentKeys) :
    Tidy cfg { h with recentKeys := moveToEnd key h.recentKeys } where
  records := tidy.records
  keys := (moveToEnd_perm present).length_eq.trans_le tidy.keys
  distinct := nodup_moveToEnd tidy.distinct present
  outcomes := tidy.outcomes
  outcomes_distinct := tidy.outcomes_distinct

theorem Tidy.touchOutcome (tidy : h.Tidy cfg) {key : DedupKey}
    (present : key ∈ h.applicationOutcomeKeys) :
    Tidy cfg { h with applicationOutcomeKeys := moveToEnd key h.applicationOutcomeKeys } where
  records := tidy.records
  keys := tidy.keys
  distinct := tidy.distinct
  outcomes := (moveToEnd_perm present).length_eq.trans_le tidy.outcomes
  outcomes_distinct := nodup_moveToEnd tidy.outcomes_distinct present

theorem Tidy.recordOutcome (tidy : h.Tidy cfg) {key : DedupKey}
    (new : key ∉ h.applicationOutcomeKeys) : (h.recordOutcome cfg key).Tidy cfg where
  records := tidy.records
  keys := tidy.keys
  distinct := tidy.distinct
  outcomes := length_popWhileLonger_le _ _
  outcomes_distinct := nodup_popWhileLonger_concat tidy.outcomes_distinct new

end TopicHistory

namespace FleetQoxGatewayState

variable {cfg : GatewayConfig} {s : FleetQoxGatewayState}

/-- What holds of every history of an engine in memory. -/
structure Tidy (cfg : GatewayConfig) (s : FleetQoxGatewayState) : Prop where
  noStore : s.durableStore = none
  histories : ∀ stream, ((s.topics stream).getD {}).Tidy cfg

/-- The keys of all that is retained are remembered, and are different. -/
def RetainedCovered (s : FleetQoxGatewayState) : Prop :=
  ∀ stream, ((s.topics stream).getD {}).Covers

/-- Where a frame is accepted, the key that has to go is not that of a record that stays. -/
def sparesRetained (cfg : GatewayConfig) (s : FleetQoxGatewayState) (c : DurableCall) : Prop :=
  ∀ accepted ∈ s.acceptedFrame? cfg c,
    let h := (s.topics accepted.2.streamKey).getD {}
    ∀ r ∈ h.staying cfg, h.nextForgotten cfg ≠ some r.metadata.dedupKey

/-- A fact about all histories after one was replaced. -/
theorem forall_update {P : TopicHistory → Prop} {topics : StreamKey → Option TopicHistory}
    {stream : StreamKey} {h : TopicHistory} (all : ∀ stream, P ((topics stream).getD {})) :
    (∀ stream', P ((Function.update topics stream (some h) stream').getD {})) ↔ P h := by
  constructor
  · intro after
    have here := after stream
    rwa [Function.update_self] at here
  · intro new stream'
    by_cases here : stream' = stream
    · rw [here, Function.update_self]
      exact new
    · rw [Function.update_of_ne here]
      exact all stream'

theorem Tidy.known (tidy : s.Tidy cfg) {stream : StreamKey} {h : TopicHistory}
    (known : s.topics stream = some h) : h.Tidy cfg := by
  have here := tidy.histories stream
  rwa [known] at here

theorem RetainedCovered.known (covered : s.RetainedCovered) {stream : StreamKey} {h : TopicHistory}
    (known : s.topics stream = some h) : h.Covers := by
  have here := covered stream
  rwa [known] at here

theorem Tidy.step {s' : FleetQoxGatewayState} {c : DurableCall} (tidy : s.Tidy cfg)
    (taken : durableStep cfg s c = some s') : s'.Tidy cfg := by
  obtain rfl := Option.some.inj taken
  obtain ⟨noStore, histories⟩ := call_histories cfg tidy.noStore c
  refine ⟨noStore, ?_⟩
  cases histories with
  | unchanged _ same =>
      rw [same]
      exact tidy.histories
  | duplicate _ known present same =>
      rw [same]
      exact (forall_update tidy.histories).mpr ((tidy.known known).touch present)
  | accepted _ new same =>
      rw [same]
      exact (forall_update tidy.histories).mpr ((tidy.histories _).append _ new)
  | duplicateOutcome _ known present same =>
      rw [same]
      exact (forall_update tidy.histories).mpr ((tidy.known known).touchOutcome present)
  | outcome _ _ known new same =>
      rw [same]
      exact (forall_update tidy.histories).mpr ((tidy.known known).recordOutcome new)

theorem retainedCovered_step_iff {s' : FleetQoxGatewayState} {c : DurableCall} (tidy : s.Tidy cfg)
    (covered : s.RetainedCovered) (taken : durableStep cfg s c = some s') :
    sparesRetained cfg s c ↔ s'.RetainedCovered := by
  obtain rfl := Option.some.inj taken
  obtain ⟨-, histories⟩ := call_histories cfg tidy.noStore c
  unfold RetainedCovered sparesRetained
  cases histories with
  | unchanged noFrame same =>
      rw [same, noFrame]
      exact iff_of_true nofun covered
  | duplicate noFrame known present same =>
      rw [same, noFrame, forall_update covered]
      exact iff_of_true nofun ((covered.known known).touch present)
  | accepted accepts new same =>
      rw [same, accepts, forall_update covered,
        TopicHistory.append_covers_iff (tidy.histories _) (covered _) _ new]
      simp only [Option.mem_def, Option.some.injEq, forall_eq']
  | duplicateOutcome noFrame known _ same =>
      have covers := covered.known known
      rw [same, noFrame, forall_update covered]
      exact iff_of_true nofun ⟨covers.recent, covers.once⟩
  | outcome noFrame _ known _ same =>
      have covers := covered.known known
      rw [same, noFrame, forall_update covered]
      exact iff_of_true nofun ⟨covers.recent, covers.once⟩

theorem inMemory_tidy (admission : PolicyState) : (inMemory admission).Tidy cfg where
  noStore := rfl
  histories := fun _ => ⟨Nat.zero_le _, Nat.zero_le _, .nil, Nat.zero_le _, .nil⟩

theorem inMemory_covered (admission : PolicyState) : (inMemory admission).RetainedCovered :=
  fun _ => ⟨fun _ among => absurd among List.not_mem_nil, .nil⟩

/-- In the runs of an engine in memory that spare the keys of what they retain, and in no others,
    every state remembers the keys of all that is retained. -/
theorem retained_covered_iff (cfg : GatewayConfig) (admission : PolicyState)
    (calls : List DurableCall) :
    RunMeets (durableStep cfg) (sparesRetained cfg) (inMemory admission) calls ↔
      ∀ past, past <+: calls → ∀ s, run (durableStep cfg) (inMemory admission) past = some s →
        ∀ stream h, s.topics stream = some h →
          (∀ r ∈ h.records, r.metadata.dedupKey ∈ h.recentKeys) ∧
            (h.records.map fun r => r.metadata.dedupKey).Nodup := by
  have covered_iff : ∀ s : FleetQoxGatewayState, s.RetainedCovered ↔
      ∀ stream h, s.topics stream = some h →
        (∀ r ∈ h.records, r.metadata.dedupKey ∈ h.recentKeys) ∧
          (h.records.map fun r => r.metadata.dedupKey).Nodup := by
    intro s
    constructor
    · intro covered stream h known
      have covers := covered.known known
      exact ⟨covers.recent, covers.once⟩
    · intro covered stream
      cases known : s.topics stream with
      | none => exact inMemory_covered s.admission stream
      | some h =>
          obtain ⟨recent, once⟩ := covered stream h known
          exact ⟨recent, once⟩
  simp only [← covered_iff]
  exact runMeets_iff (J := Tidy cfg) (fun tidy taken => tidy.step taken)
    (fun tidy covered taken => retainedCovered_step_iff tidy covered taken) (fun _ _ => rfl)
    (inMemory_tidy admission) (inMemory_covered admission) calls

/-- A gateway that keeps two frames of a stream and no more keys. -/
def twoFrames : GatewayConfig := { twoKeys with
  maxFramesPerTopic := 2
  maxFrames_pos := by decide
  maxFrames_le_capacity := by decide }

/-- A duplicate of the first frame lets the third one drive out the key of the second, which is
    still retained. -/
theorem retained_key_forgotten :
    (run (durableStep twoFrames) (inMemory (GatewayAdmissionPolicy.init twoFrames.env 0))
      [numberedFrame "1", numberedFrame "2", numberedFrame "1", numberedFrame "3"]).any fun s =>
        (s.topics (0, lit "/t")).any fun h =>
          h.records.any fun r => r.metadata.dedupKey ∉ h.recentKeys := by
  decide +kernel

end FleetQoxGatewayState

end FleetRMW.Gateway
