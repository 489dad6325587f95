import FleetRMW.Gateway.Dedup

/-! # An outcome counts once

The keys of counted outcomes are bounded apart from the keys of frames. While the outcome that
has to go is that of a frame which is forgotten already, a frame whose key is remembered cannot
be counted again.
-/

namespace FleetRMW.Gateway

open Lib

namespace TopicHistory

variable {cfg : GatewayConfig} {h : TopicHistory} {key : DedupKey}

/-- The next outcome to be forgotten, where there is no room for one more. -/
def nextForgottenOutcome (cfg : GatewayConfig) (h : TopicHistory) : Option DedupKey :=
  if h.applicationOutcomeKeys.length < cfg.dedupCapacityPerTopic then none
  else h.applicationOutcomeKeys.head?

theorem mem_recordOutcome (tidy : h.Tidy cfg) (key' : DedupKey)
    (counted : key ∈ h.applicationOutcomeKeys) (spared : h.nextForgottenOutcome cfg ≠ some key) :
    key ∈ (h.recordOutcome cfg key').applicationOutcomeKeys := by
  apply (mem_popWhileLonger_concat tidy.outcomes (capacity_pos cfg) tidy.outcomes_distinct).mpr
  refine .inr ⟨counted, ?_⟩
  rintro ⟨full, first⟩
  apply spared
  rw [nextForgottenOutcome, if_neg (by omega), first]

theorem mem_recordOutcome_self (tidy : h.Tidy cfg) :
    key ∈ (h.recordOutcome cfg key).applicationOutcomeKeys :=
  (mem_popWhileLonger_concat tidy.outcomes (capacity_pos cfg) tidy.outcomes_distinct).mpr (.inl rfl)

end TopicHistory

namespace FleetQoxGatewayState

variable {cfg : GatewayConfig} {s : FleetQoxGatewayState} {stream : StreamKey} {key : DedupKey}

/-- The key of a frame is in `recent_keys`. -/
def remembers (s : FleetQoxGatewayState) (stream : StreamKey) (key : DedupKey) : Prop :=
  key ∈ ((s.topics stream).getD {}).recentKeys

/-- The outcome of a frame has been counted, and this is remembered. -/
def hasCounted (s : FleetQoxGatewayState) (stream : StreamKey) (key : DedupKey) : Prop :=
  key ∈ ((s.topics stream).getD {}).applicationOutcomeKeys

/-- Where an outcome is counted, the one that has to go is that of a forgotten frame. -/
def sparesOutcomes (cfg : GatewayConfig) (s : FleetQoxGatewayState) (c : DurableCall) : Prop :=
  ∀ r ∈ s.countedOutcome? cfg c,
    ∀ key ∈ ((s.topics r.streamKey).getD {}).nextForgottenOutcome cfg,
      ¬s.remembers r.streamKey key

instance : Decidable (s.remembers stream key) := inferInstanceAs (Decidable (_ ∈ _))

theorem getD_update {topics : StreamKey → Option TopicHistory} {stream' : StreamKey}
    {h : TopicHistory} : ((Function.update topics stream' (some h)) stream).getD {} =
      if stream = stream' then h else (topics stream).getD {} := by
  by_cases here : stream = stream'
  · rw [if_pos here, here, Function.update_self, Option.getD_some]
  · rw [if_neg here, Function.update_of_ne here]

theorem hasCounted_of_update {topics : StreamKey → Option TopicHistory} {stream' : StreamKey}
    {h h' : TopicHistory} (known : topics stream' = some h)
    (counted : key ∈ ((topics stream).getD {}).applicationOutcomeKeys)
    (keeps : stream = stream' → key ∈ h.applicationOutcomeKeys → key ∈ h'.applicationOutcomeKeys) :
    key ∈ (((Function.update topics stream' (some h')) stream).getD {}).applicationOutcomeKeys := by
  rw [getD_update]
  split
  case isTrue here =>
    rw [here, known] at counted
    exact keeps here counted
  case isFalse => exact counted

/-- A counted outcome is remembered as long as its frame is. -/
theorem hasCounted_step {s' : FleetQoxGatewayState} {c : DurableCall} (tidy : s.Tidy cfg)
    (counted : s.hasCounted stream key) (stays : s.remembers stream key)
    (spares : sparesOutcomes cfg s c) (taken : durableStep cfg s c = some s') :
    s'.hasCounted stream key := by
  obtain rfl := Option.some.inj taken
  obtain ⟨-, histories⟩ := call_histories cfg tidy.noStore c
  unfold hasCounted at counted ⊢
  cases histories with
  | unchanged _ same =>
      rw [same]
      exact counted
  | duplicate _ known _ same =>
      rw [same]
      exact hasCounted_of_update known counted fun _ before => before
  | accepted _ _ same =>
      rw [same, getD_update]
      split
      case isTrue here =>
        rw [here] at counted
        exact counted
      case isFalse => exact counted
  | duplicateOutcome _ known present same =>
      rw [same]
      exact hasCounted_of_update known counted fun _ before =>
        (moveToEnd_perm present).symm.subset before
  | @outcome r h _ counts known new same =>
      rw [same]
      apply hasCounted_of_update known counted
      intro here before
      apply TopicHistory.mem_recordOutcome (tidy.known known) _ before
      intro next
      rw [here] at stays
      refine spares r counts key ?_ stays
      rw [known]
      exact next

theorem Tidy.call (tidy : s.Tidy cfg) (c : DurableCall) : (s.call cfg c).2.Tidy cfg :=
  tidy.step rfl

/-- The policy counts outcomes. -/
def countsOutcomes (cfg : GatewayConfig) : Prop :=
  ∃ policy, cfg.admissionPolicy = some policy ∧ policy.applicationOutcomeQoeDebtEnabled

theorem countsOutcomes_of_newOutcome? {document : List (Str × PyJson)} {r : OutcomeRequest}
    (h : s.newOutcome? cfg document = some r) : countsOutcomes cfg := by
  unfold newOutcome? at h
  split at h
  case h_1 policy _ policy? _ =>
    dsimp only at h
    split at h
    case isTrue holds => exact ⟨policy, policy?, holds.1⟩
    case isFalse => cases h
  case h_2 => cases h

theorem recordApplicationOutcome_of_counted {document : List (Str × PyJson)} {r : OutcomeRequest}
    (counting : countsOutcomes cfg) (asks : OutcomeRequest.ofDocument document = .ok r)
    (remembered : s.remembers r.streamKey r.dedupKey)
    (counted : s.hasCounted r.streamKey r.dedupKey) :
    (s.recordApplicationOutcome cfg document).1 = .ok (some .duplicate) := by
  obtain ⟨policy, policy?, enabled⟩ := counting
  unfold remembers at remembered
  unfold hasCounted at counted
  unfold recordApplicationOutcome
  rw [policy?]
  dsimp only
  rw [enabled, asks]
  unfold recordOutcome
  cases known : s.topics r.streamKey with
  | none =>
      rw [known] at remembered
      exact absurd remembered List.not_mem_nil
  | some h =>
      rw [known, Option.getD_some] at remembered counted
      simp only [Bool.not_true, Bool.false_eq_true, if_false]
      rw [known, Option.filter_some_pos (by simpa using remembered)]
      dsimp only
      rw [if_pos counted]

/-- While the key of a frame is remembered, and outcomes go only with their frames, one outcome
    of it counts: after that every other one is a duplicate and changes no observation. -/
theorem outcome_counted_once (cfg : GatewayConfig) (admission : PolicyState)
    {before between : List DurableCall} {first second : List (Str × PyJson)}
    {r r' : OutcomeRequest} {s₁ s₂ : FleetQoxGatewayState}
    (asks : OutcomeRequest.ofDocument first = .ok r)
    (again : OutcomeRequest.ofDocument second = .ok r')
    (same : r'.streamKey = r.streamKey ∧ r'.dedupKey = r.dedupKey)
    (h₁ : run (durableStep cfg) (inMemory admission) before = some s₁)
    (h₂ : run (durableStep cfg) s₁ (.recordApplicationOutcome first :: between) = some s₂)
    (stays : RunMeets (durableStep cfg) (fun s _ => s.remembers r.streamKey r.dedupKey) s₁
      (.recordApplicationOutcome first :: between ++ [.recordApplicationOutcome second]))
    (spares : RunMeets (durableStep cfg) (sparesOutcomes cfg) s₁
      (.recordApplicationOutcome first :: between)) :
    let afterFirst := s₁.recordApplicationOutcome cfg first
    let afterSecond := s₂.recordApplicationOutcome cfg second
    (∃ debt, afterFirst.1 = .ok (some (.updated debt))) ∨
        afterFirst.2.admission.observations ≠ s₁.admission.observations →
      afterSecond.1 = .ok (some .duplicate) ∧
        afterSecond.2.admission.observations = s₂.admission.observations := by
  intro afterFirst afterSecond counts
  have tidy₁ : s₁.Tidy cfg :=
    run_preserves (fun tidy taken => tidy.step taken) (inMemory_tidy admission) h₁
  have counted : afterFirst.2.hasCounted r.streamKey r.dedupKey ∧ countsOutcomes cfg := by
    rcases recordApplicationOutcome_cases cfg tidy₁.noStore first with
      ⟨r₁, h, debt, new, asks₁, known, -, -, -, -, topics⟩ | ⟨notCounted, unchanged, -⟩
    · obtain rfl := Except.ok.inj (asks.symm.trans asks₁)
      refine ⟨?_, countsOutcomes_of_newOutcome? new⟩
      unfold hasCounted
      rw [show afterFirst.2.topics = _ from topics, Function.update_self]
      exact TopicHistory.mem_recordOutcome_self (tidy₁.known known)
    · rcases counts with ⟨debt, updated⟩ | changed
      · exact absurd updated (notCounted debt)
      · exact absurd unchanged changed
  obtain ⟨mid, taken, h₂⟩ := run_cons h₂
  obtain rfl : afterFirst.2 = mid := Option.some.inj taken
  obtain ⟨meets, last⟩ := RunMeets.of_append (stays.cons rfl).2 h₂
  have remembered : s₂.remembers r.streamKey r.dedupKey := last.1
  obtain ⟨tidy₂, counted₂⟩ := run_invariant
    (I := fun s => s.Tidy cfg ∧ s.hasCounted r.streamKey r.dedupKey)
    (fun I meets taken => ⟨I.1.step taken, hasCounted_step I.1 I.2 meets.1 meets.2 taken⟩)
    ⟨tidy₁.call _, counted.1⟩ (meets.and (spares.cons rfl).2) h₂
  rw [← same.1, ← same.2] at remembered counted₂
  refine ⟨recordApplicationOutcome_of_counted counted.2 again remembered counted₂, ?_⟩
  rcases recordApplicationOutcome_cases cfg tidy₂.noStore second with
    ⟨r₂, h, debt, -, asks₂, known, -, new, -⟩ | ⟨-, unchanged, -⟩
  · obtain rfl := Except.ok.inj (again.symm.trans asks₂)
    unfold hasCounted at counted₂
    rw [known] at counted₂
    exact absurd counted₂ new
  · exact unchanged

/-! ### Two outcomes at the capacity -/

/-- The gateway that remembers two keys, with a policy that lets every frame in and counts
    outcomes. -/
def outcomeGateway : GatewayConfig := { twoKeys with
  env := ⟨fun n => n, id⟩
  admissionPolicy := some {
    rules := []
    allowByDefault := true
    maxAcceptedFrames := none
    applicationOutcomeQoeDebtEnabled := true
    fingerprint := lit "f"
    fingerprint_ne := by decide
    fingerprint_encodable := by decide } }

/-- The outcome of a frame that arrived in time. -/
def outcomeOf (sequence : Int) : List (Str × PyJson) :=
  [(lit "schema_version", .str applicationOutcomeSchema), (lit "domain_id", .int 0),
    (lit "topic", .str (lit "/t")), (lit "publisher_id", .str (lit "p")),
    (lit "source_sequence_number", .int sequence), (lit "delivered", .bool true),
    (lit "deadline_met", .bool true), (lit "observed_latency_ms", .int 10),
    (lit "deadline_ms", .int 20)]

/-- An outcome document changes the observations of the policy. -/
def changesObservations (cfg : GatewayConfig) (s : FleetQoxGatewayState)
    (document : List (Str × PyJson)) : Bool :=
  (s.recordApplicationOutcome cfg document).2.admission.observations ≠ s.admission.observations

instance (c : DurableCall) : Decidable (sparesOutcomes cfg s c) :=
  inferInstanceAs (Decidable (∀ r ∈ s.countedOutcome? cfg c,
    ∀ key ∈ ((s.topics r.streamKey).getD {}).nextForgottenOutcome cfg,
      ¬s.remembers r.streamKey key))

/-- Two outcomes of one frame, and a frame between them. -/
theorem outcome_counted_once_outcomeGateway :
    let start := inMemory (GatewayAdmissionPolicy.init outcomeGateway.env 0)
    ∃ s₁ s₂, run (durableStep outcomeGateway) start [numberedFrame "1"] = some s₁ ∧
      run (durableStep outcomeGateway) s₁
        [.recordApplicationOutcome (outcomeOf 1), numberedFrame "2"] = some s₂ ∧
      ((∃ debt, (s₁.recordApplicationOutcome outcomeGateway (outcomeOf 1)).1 =
          .ok (some (.updated debt))) ∨
        (s₁.recordApplicationOutcome outcomeGateway (outcomeOf 1)).2.admission.observations ≠
          s₁.admission.observations →
      (s₂.recordApplicationOutcome outcomeGateway (outcomeOf 1)).1 = .ok (some .duplicate) ∧
        (s₂.recordApplicationOutcome outcomeGateway (outcomeOf 1)).2.admission.observations =
          s₂.admission.observations) := by
  intro start
  let s₁ := (start.call outcomeGateway (numberedFrame "1")).2
  have h₁ : run (durableStep outcomeGateway) start [numberedFrame "1"] = some s₁ := rfl
  let s₂ := ((s₁.call outcomeGateway (.recordApplicationOutcome (outcomeOf 1))).2.call
    outcomeGateway (numberedFrame "2")).2
  have h₂ : run (durableStep outcomeGateway) s₁
      [.recordApplicationOutcome (outcomeOf 1), numberedFrame "2"] = some s₂ := rfl
  have stays : RunMeets (durableStep outcomeGateway)
      (fun s _ => s.remembers (0, lit "/t") (lit "p", 1)) s₁
      [.recordApplicationOutcome (outcomeOf 1), numberedFrame "2",
        .recordApplicationOutcome (outcomeOf 1)] := by
    decide +kernel
  have spares : RunMeets (durableStep outcomeGateway) (sparesOutcomes outcomeGateway) s₁
      [.recordApplicationOutcome (outcomeOf 1), numberedFrame "2"] := by
    decide +kernel
  exact ⟨s₁, s₂, h₁, h₂, outcome_counted_once outcomeGateway _ rfl rfl ⟨rfl, rfl⟩ h₁ h₂ stays
    spares⟩

/-- A duplicate keeps the key of the first frame, and the outcome of the third drives out the
    first one's: it counts again. -/
theorem outcome_counted_twice :
    let first : DurableCall := .recordApplicationOutcome (outcomeOf 1)
    let between := [.recordApplicationOutcome (outcomeOf 2), numberedFrame "1", numberedFrame "3",
      .recordApplicationOutcome (outcomeOf 3)]
    (run (durableStep outcomeGateway) (inMemory (GatewayAdmissionPolicy.init outcomeGateway.env 0))
      [numberedFrame "1", numberedFrame "2"]).any fun s₁ =>
        s₁.changesObservations outcomeGateway (outcomeOf 1) &&
        decide (RunMeets (durableStep outcomeGateway)
          (fun s _ => s.remembers (0, lit "/t") (lit "p", 1)) s₁ (first :: between ++ [first])) &&
        (run (durableStep outcomeGateway) s₁ (first :: between)).any fun s₂ =>
          s₂.changesObservations outcomeGateway (outcomeOf 1) := by
  decide +kernel

end FleetQoxGatewayState

end FleetRMW.Gateway
