import FleetRMW.Gateway.Policy
import FleetRMW.Lib.Epochs
import FleetRMW.Lib.Run
import FleetRMW.Repair.Optimal
import Mathlib.Data.Int.ConditionallyCompleteOrder
import Mathlib.Data.Rat.Floor

/-! # Quotas of the admission policy

A frame is counted against the quota of its stream and of the fleet, or as a repair against the
capacity and the number of repairs, and every epoch starts with counters at 0. A log is kept of
the calls of `admit`, and no epoch of the original grid goes beyond a quota.
-/

namespace FleetRMW.Gateway

open Lib Repair

namespace GatewayAdmissionPolicy

variable (env : Environment) (policy : GatewayAdmissionPolicy)

/-! ## Calls and their log -/

inductive PolicyCall where
  /-- `admit` -/
  | frame (m : FrameMetadata)
  | observation (u : ObservationUpdate)
  | nativePath (u : NativePathUpdate)
  | applicationOutcome (u : OutcomeUpdate)

/-- A call of `admit`: the reading of the clock that it begins with, the start of the epoch it
    leaves, its answer if it returns one, and the bytes of the last repair decision. -/
structure AdmitRecord where
  time : Rat
  started : Rat
  stream : StreamKey
  action : Option AdmissionAction
  bytes : Int

namespace AdmitRecord

def normal (r : AdmitRecord) : Int := if r.action = some .normal then 1 else 0

def normalOf (stream : StreamKey) (r : AdmitRecord) : Int :=
  if r.action = some .normal ∧ r.stream = stream then 1 else 0

def repaired (r : AdmitRecord) : Int := if r.action = some .repair then 1 else 0

def repairBytes (r : AdmitRecord) : Int := if r.action = some .repair then r.bytes else 0

end AdmitRecord

/-- `repair_decisions[-1]["allocated_bytes"]` -/
def lastAllocatedBytes (decisions : List PyJson) : Int :=
  (asInt <| (asDict decisions.getLast?).bind fun entries =>
    PyJson.lookup entries (lit "allocated_bytes")).getD 0

/-- The epochs of a policy that was made at a reading of the clock. -/
def epochs (start : Rat) : Epochs Rat where
  start
  length := policy.epochMs.map fun epochMs : Int => (epochMs : Rat) / 1000

abbrev Logged := PolicyState × List AdmitRecord

def call (s : PolicyState) : PolicyCall → PolicyState
  | .frame m => (policy.admitFrame env s m).2
  | .observation u => (updateObservation env s u).2
  | .nativePath u => (policy.updateNativePathObservation env s u).2
  | .applicationOutcome u => (policy.updateApplicationOutcome env s u).2

def record (s : PolicyState) (m : FrameMetadata) : AdmitRecord :=
  let (answer, after) := policy.admitFrame env s m
  { time := env.clock s.reads
    started := after.epochStarted
    stream := m.streamKey
    action := answer.toOption
    bytes := lastAllocatedBytes after.repairDecisions }

def logStep (s : Logged) (c : PolicyCall) : Option Logged :=
  some (policy.call env s.1 c, match c with
    | .frame m => s.2 ++ [policy.record env s.1 m]
    | _ => s.2)

/-! ## What the constructor accepts -/

/-- What a policy that passes its checks is like. -/
structure Accepted (policy : GatewayAdmissionPolicy) : Prop where
  fleet : ∀ limit ∈ policy.maxAcceptedFrames, 0 < limit
  epoch : ∀ epochMs ∈ policy.epochMs, 0 < epochMs
  repairCapacity : 0 ≤ policy.repairCapacityBytes
  repairs : ∀ limit ∈ policy.repairMaxAdmitted, 0 < limit
  paths : 0 < policy.repairCapacityBytes → policy.repairPaths ≠ []
  quota : ∀ rule ∈ policy.rules, 0 < rule.maxAcceptedFrames
  streams : (policy.rules.map fun rule => (rule.domainId, rule.topic)).Nodup

variable {policy}

theorem checkRules_ok {seen : List StreamKey} {rules : List GatewayAdmissionRule}
    (h : checkRules seen rules = .ok ()) :
    (∀ rule ∈ rules, 0 < rule.maxAcceptedFrames ∧ (rule.domainId, rule.topic) ∉ seen) ∧
      (rules.map fun rule => (rule.domainId, rule.topic)).Nodup := by
  induction rules generalizing seen with
  | nil => exact ⟨fun _ among => absurd among List.not_mem_nil, List.nodup_nil⟩
  | cons rule rules ih =>
      unfold checkRules at h
      obtain ⟨⟨⟩, -, h⟩ := bind_eq_ok_iff.mp h
      obtain ⟨⟨⟩, quota, h⟩ := bind_eq_ok_iff.mp h
      obtain ⟨⟨⟩, -, h⟩ := bind_eq_ok_iff.mp h
      obtain ⟨⟨⟩, fresh, h⟩ := bind_eq_ok_iff.mp h
      obtain ⟨each, distinct⟩ := ih h
      have fresh : (rule.domainId, rule.topic) ∉ seen := by
        intro among
        apply raiseIf_eq_ok.mp fresh
        exact List.any_eq_true.mpr ⟨_, among, decide_eq_true rfl⟩
      constructor
      · intro rule' among
        cases List.mem_cons.mp among with
        | inl same =>
            rw [same]
            exact ⟨Int.not_le.mp fun few => raiseIf_eq_ok.mp quota (.inr few), fresh⟩
        | inr later =>
            obtain ⟨some_, apart⟩ := each rule' later
            exact ⟨some_, fun earlier => apart (List.mem_cons_of_mem _ earlier)⟩
      · rw [List.map_cons, List.nodup_cons]
        refine ⟨?_, distinct⟩
        intro again
        obtain ⟨rule', among, same⟩ := List.mem_map.mp again
        exact (each rule' among).2 (same ▸ List.mem_cons_self)

theorem accepted_of_check (h : policy.check = .ok ()) : Accepted policy := by
  unfold check at h
  obtain ⟨⟨⟩, fleet, h⟩ := bind_eq_ok_iff.mp h
  obtain ⟨⟨⟩, epoch, h⟩ := bind_eq_ok_iff.mp h
  obtain ⟨⟨⟩, capacity, h⟩ := bind_eq_ok_iff.mp h
  obtain ⟨⟨⟩, repairs, h⟩ := bind_eq_ok_iff.mp h
  obtain ⟨⟨⟩, paths, h⟩ := bind_eq_ok_iff.mp h
  obtain ⟨⟨⟩, -, h⟩ := bind_eq_ok_iff.mp h
  obtain ⟨⟨⟩, -, h⟩ := bind_eq_ok_iff.mp h
  obtain ⟨⟨⟩, -, h⟩ := bind_eq_ok_iff.mp h
  obtain ⟨⟨⟩, -, h⟩ := bind_eq_ok_iff.mp h
  obtain ⟨⟨⟩, -, h⟩ := bind_eq_ok_iff.mp h
  obtain ⟨each, distinct⟩ := checkRules_ok h
  have limited : ∀ {limit : Option Int} {e : PolicyError}, raiseIf (limit.any (· ≤ 0)) e = .ok () →
      ∀ l ∈ limit, 0 < l := by
    intro limit e checked l isLimit
    apply Int.not_le.mp
    intro few
    exact raiseIf_eq_ok.mp checked ((Option.any_eq_true _ _).mpr ⟨l, isLimit, decide_eq_true few⟩)
  exact {
    fleet := limited fleet
    epoch := limited epoch
    repairCapacity := Int.not_lt.mp (raiseIf_eq_ok.mp capacity)
    repairs := limited repairs
    paths := fun some_ none_ => raiseIf_eq_ok.mp paths ⟨some_, none_⟩
    quota := fun rule among => (each rule among).1
    streams := distinct }

theorem rule?_of_mem (accepted : Accepted policy) {rule : GatewayAdmissionRule}
    (among : rule ∈ policy.rules) : policy.rule? (rule.domainId, rule.topic) = some rule := by
  unfold rule?
  cases found : policy.rules.find? fun other =>
      (other.domainId, other.topic) = (rule.domainId, rule.topic) with
  | none => exact absurd (decide_eq_true rfl) (List.find?_eq_none.mp found rule among)
  | some other =>
      have same : (other.domainId, other.topic) = (rule.domainId, rule.topic) := by
        simpa using List.find?_some found
      rw [List.inj_on_of_nodup_map accepted.streams (List.mem_of_find?_eq_some found) among same]

theorem epochs_positive (accepted : Accepted policy) (start : Rat) :
    ∀ length ∈ (policy.epochs start).length, 0 < length := by
  intro length isLength
  obtain ⟨epochMs, isEpoch, rfl⟩ := Option.mem_map.mp isLength
  have positive : (0 : Rat) < epochMs := by exact_mod_cast accepted.epoch epochMs isEpoch
  linarith

/-! ## What one call does to the counters -/

/-- The counters of the quotas are left alone. -/
structure SameQuotas (s s' : PolicyState) : Prop where
  reads : s.reads ≤ s'.reads
  started : s'.epochStarted = s.epochStarted
  total : s'.acceptedTotal = s.acceptedTotal
  byStream : s'.acceptedByStream = s.acceptedByStream
  repairBytes : s'.repairAllocatedBytes = s.repairAllocatedBytes
  repairs : s'.repairAdmittedCount = s.repairAdmittedCount

theorem SameQuotas.refl (s : PolicyState) : SameQuotas s s := ⟨Nat.le_refl _, rfl, rfl, rfl, rfl, rfl⟩

theorem SameQuotas.trans {s s' s'' : PolicyState} (h : SameQuotas s s') (h' : SameQuotas s' s'') :
    SameQuotas s s'' where
  reads := Nat.le_trans h.reads h'.reads
  started := h'.started.trans h.started
  total := h'.total.trans h.total
  byStream := h'.byStream.trans h.byStream
  repairBytes := h'.repairBytes.trans h.repairBytes
  repairs := h'.repairs.trans h.repairs

variable {env} {s : PolicyState} {m : FrameMetadata}

variable (env policy s) in
theorem expireObservations_same : SameQuotas s (policy.expireObservations env s) :=
  ⟨Nat.le_succ _, rfl, rfl, rfl, rfl, rfl⟩

theorem effectiveAdmissionScore_same :
    SameQuotas s (policy.effectiveAdmissionScore env s m).2 := by
  have expired := expireObservations_same env policy s
  unfold effectiveAdmissionScore
  dsimp only
  cases (policy.expireObservations env s).observations.get? (m.streamKey, m.publisherId) with
  | none => exact expired
  | some o => exact expired.trans ⟨Nat.le_refl _, rfl, rfl, rfl, rfl, rfl⟩

theorem updateObservation_same {u : ObservationUpdate} {answer : Except PolicyError Unit × PolicyState}
    (h : updateObservation env s u = answer) : SameQuotas s answer.2 := by
  subst h
  unfold updateObservation
  cases u.check with
  | error e => exact .refl s
  | ok observation => exact ⟨Nat.le_succ _, rfl, rfl, rfl, rfl, rfl⟩

theorem updateNativePathObservation_same (u : NativePathUpdate) :
    SameQuotas s (policy.updateNativePathObservation env s u).2 := by
  unfold updateNativePathObservation
  dsimp only
  refine .trans ?_ (updateObservation_same rfl)
  split
  · exact ⟨Nat.le_refl _, rfl, rfl, rfl, rfl, rfl⟩
  · exact .refl s

theorem updateApplicationOutcome_same (u : OutcomeUpdate) :
    SameQuotas s (policy.updateApplicationOutcome env s u).2 := by
  unfold updateApplicationOutcome
  split
  · exact .refl s
  split
  case h_2 => exact .refl s
  case h_1 latencyMs deadlineMs _ _ =>
    split
    · exact .refl s
    dsimp only
    split
    case h_1 e after updated => exact updateObservation_same updated
    case h_2 after updated =>
      exact (updateObservation_same updated).trans ⟨Nat.le_refl _, rfl, rfl, rfl, rfl, rfl⟩

/-- A later epoch begins, with counters at 0. -/
structure Restarts (length t : Rat) (s s' : PolicyState) : Prop where
  reads : s.reads ≤ s'.reads
  started : ∃ n : Nat, 0 < n ∧ s'.epochStarted = s.epochStarted + n * length
  begun : s'.epochStarted ≤ t
  lasts : t < s'.epochStarted + length
  total : s'.acceptedTotal = 0
  byStream : s'.acceptedByStream = []
  repairBytes : s'.repairAllocatedBytes = 0
  repairs : s'.repairAdmittedCount = 0

variable (env s) in
/-- The epoch goes on, or the one of the reading begins, however many have passed between. -/
theorem refreshEpoch_cases (accepted : Accepted policy) (start : Rat) :
    (SameQuotas s (policy.refreshEpoch env s) ∧
      ∀ length ∈ (policy.epochs start).length, env.clock s.reads < s.epochStarted + length) ∨
    ∃ length ∈ (policy.epochs start).length,
      Restarts length (env.clock s.reads) s (policy.refreshEpoch env s) := by
  unfold refreshEpoch
  cases isEpoch : policy.epochMs with
  | none =>
      refine .inl ⟨.refl s, ?_⟩
      intro length isLength
      obtain ⟨epochMs, isMs, -⟩ := Option.mem_map.mp isLength
      rw [isEpoch] at isMs
      cases isMs
  | some epochMs =>
      have isLength : (epochMs : Rat) / 1000 ∈ (policy.epochs start).length :=
        Option.mem_map.mpr ⟨epochMs, isEpoch, rfl⟩
      have long : (0 : Rat) < epochMs := by exact_mod_cast accepted.epoch epochMs isEpoch
      dsimp only [now]
      split
      case isTrue less =>
        refine .inl ⟨⟨Nat.le_succ _, rfl, rfl, rfl, rfl, rfl⟩, ?_⟩
        intro length isLength'
        obtain rfl := Option.some.inj (isLength.symm.trans isLength')
        linarith
      case isFalse over_ =>
        obtain ⟨some_, begun, lasts⟩ := Epochs.catch_up long (not_lt.mp over_)
        refine .inr ⟨_, isLength, Nat.le_succ _, ?_, ?_, ?_, rfl, rfl, rfl, rfl⟩
        · refine ⟨(max 1 ⌊(env.clock s.reads - s.epochStarted) * 1000 / epochMs⌋).toNat, by omega, ?_⟩
          have cast : (((max 1 ⌊(env.clock s.reads - s.epochStarted) * 1000 / (epochMs : Rat)⌋).toNat :
              Nat) : Rat) = ((max 1 ⌊(env.clock s.reads - s.epochStarted) * 1000 / (epochMs : Rat)⌋ :
              Int) : Rat) := by
            exact_mod_cast Int.toNat_of_nonneg (by omega)
          rw [cast, mul_div_assoc]
          rfl
        · dsimp only
          have : ((max 1 ((env.clock s.reads - s.epochStarted) * 1000 / (epochMs : Rat)).floor : Int) : Rat)
            * epochMs ≤ (env.clock s.reads - s.epochStarted) * 1000 := begun
          linarith
        · dsimp only
          have : (env.clock s.reads - s.epochStarted) * 1000 <
            ((max 1 ((env.clock s.reads - s.epochStarted) * 1000 / (epochMs : Rat)).floor : Int) : Rat)
            * epochMs + epochMs := lasts
          linarith

/-- A frame was admitted as a repair. -/
structure RepairTaken (policy : GatewayAdmissionPolicy) (s s' : PolicyState) : Prop where
  reads : s.reads ≤ s'.reads
  started : s'.epochStarted = s.epochStarted
  total : s'.acceptedTotal = s.acceptedTotal
  byStream : s'.acceptedByStream = s.acceptedByStream
  repairBytes : s'.repairAllocatedBytes =
    s.repairAllocatedBytes + lastAllocatedBytes s'.repairDecisions
  within : s'.repairAllocatedBytes ≤ policy.repairCapacityBytes
  repairs : s'.repairAdmittedCount = s.repairAdmittedCount + 1
  limit : ∀ limit ∈ policy.repairMaxAdmitted, s.repairAdmittedCount < limit

/-- A frame was admitted within the quotas of its stream and of the fleet. -/
structure NormalTaken (policy : GatewayAdmissionPolicy) (m : FrameMetadata) (s s' : PolicyState) :
    Prop where
  reads : s.reads ≤ s'.reads
  started : s'.epochStarted = s.epochStarted
  total : s'.acceptedTotal = s.acceptedTotal + 1
  byStream : s'.acceptedByStream = s.acceptedByStream.count m.streamKey
  repairBytes : s'.repairAllocatedBytes = s.repairAllocatedBytes
  repairs : s'.repairAdmittedCount = s.repairAdmittedCount
  fleet : ∀ limit ∈ policy.maxAcceptedFrames, s.acceptedTotal < limit
  stream : ∀ rule ∈ policy.rule? m.streamKey,
    (s.acceptedByStream.get? m.streamKey).getD 0 < rule.maxAcceptedFrames

theorem RepairTaken.after {s s' s'' : PolicyState} (h : SameQuotas s s')
    (h' : RepairTaken policy s' s'') : RepairTaken policy s s'' where
  reads := Nat.le_trans h.reads h'.reads
  started := h'.started.trans h.started
  total := h'.total.trans h.total
  byStream := h'.byStream.trans h.byStream
  repairBytes := h.repairBytes ▸ h'.repairBytes
  within := h'.within
  repairs := h.repairs ▸ h'.repairs
  limit := h.repairs ▸ h'.limit

theorem NormalTaken.after {s s' s'' : PolicyState} (h : SameQuotas s s')
    (h' : NormalTaken policy m s' s'') : NormalTaken policy m s s'' where
  reads := Nat.le_trans h.reads h'.reads
  started := h'.started.trans h.started
  total := h.total ▸ h'.total
  byStream := h.byStream ▸ h'.byStream
  repairBytes := h'.repairBytes.trans h.repairBytes
  repairs := h'.repairs.trans h.repairs
  fleet := h.total ▸ h'.fleet
  stream := h.byStream ▸ h'.stream

/-- What a call of `admit` does to the counters, by what it returns. -/
inductive Answered (policy : GatewayAdmissionPolicy) (m : FrameMetadata) (s : PolicyState) :
    Option AdmissionAction → PolicyState → Prop where
  | refused {s'} (same : SameQuotas s s') : Answered policy m s none s'
  | normal {s'} (taken : NormalTaken policy m s s') : Answered policy m s (some .normal) s'
  | repair {s'} (taken : RepairTaken policy s s') : Answered policy m s (some .repair) s'

theorem Answered.after {s s' s'' : PolicyState} {action : Option AdmissionAction}
    (h : SameQuotas s s') (h' : Answered policy m s' action s'') :
    Answered policy m s action s'' := by
  cases h' with
  | refused same => exact .refused (h.trans same)
  | normal taken => exact .normal (taken.after h)
  | repair taken => exact .repair (taken.after h)

theorem lastAllocatedBytes_concat (decisions : List PyJson) (d : RepairDecision) :
    lastAllocatedBytes (decisions ++ [decisionDict d]) = d.allocatedBytes := by
  unfold lastAllocatedBytes
  rw [List.getLast?_concat]
  rfl

variable (env s m) in
/-- A repair that is granted is within the capacity and the number of repairs. -/
theorem tryRepair_cases (accepted : Accepted policy) (trafficClass : Str) :
    ((policy.tryRepair env s m trafficClass).1 = .ok true ∧
      RepairTaken policy s (policy.tryRepair env s m trafficClass).2) ∨
    ((policy.tryRepair env s m trafficClass).1 ≠ .ok true ∧
      SameQuotas s (policy.tryRepair env s m trafficClass).2) := by
  unfold tryRepair
  dsimp only
  split
  · exact .inr ⟨nofun, .refl s⟩
  case isFalse wanted =>
  split
  · exact .inr ⟨nofun, Nat.le_refl _, rfl, rfl, rfl, rfl, rfl⟩
  case isFalse few =>
  split
  · exact .inr ⟨nofun, Nat.le_refl _, rfl, rfl, rfl, rfl, rfl⟩
  case isFalse room =>
  split
  · exact .inr ⟨nofun, .refl s⟩
  · exact .inr ⟨nofun, .refl s⟩
  case h_3 decision rest scheduled =>
  split
  · exact .inr ⟨nofun, Nat.le_refl _, rfl, rfl, rfl, rfl, rfl⟩
  case isFalse repairs =>
    have fits := schedule_one (Int.le_of_lt (Int.not_le.mp room))
      (lt_of_lt_of_le Int.zero_lt_one (le_max_left _ _))
      (accepted.paths (Int.not_le.mp fun none_ => wanted (.inr none_))) scheduled
      (not_not.mp repairs)
    refine .inl ⟨rfl, Nat.le_refl _, rfl, rfl, rfl, ?_, ?_, rfl, ?_⟩
    · rw [lastAllocatedBytes_concat]
    · dsimp only at fits ⊢
      omega
    · intro limit isLimit
      apply Int.not_le.mp
      intro full
      exact few ((Option.any_eq_true _ _).mpr ⟨limit, isLimit, decide_eq_true full⟩)

theorem repairOrReject_answered (accepted : Accepted policy) (trafficClass : Str)
    (reasonCode reason : String) :
    Answered policy m s (policy.repairOrReject env s m trafficClass reasonCode reason).1.toOption
      (policy.repairOrReject env s m trafficClass reasonCode reason).2 := by
  have tried := tryRepair_cases env s m accepted trafficClass
  unfold repairOrReject
  generalize policy.tryRepair env s m trafficClass = answer at tried
  match answer, tried with
  | (.ok true, s'), .inl ⟨_, taken⟩ => exact .repair taken
  | (.ok true, s'), .inr ⟨not_, _⟩ => exact absurd rfl not_
  | (.ok false, s'), .inr ⟨_, same⟩ =>
      exact .refused (same.trans ⟨Nat.le_refl _, rfl, rfl, rfl, rfl, rfl⟩)
  | (.error e, s'), .inr ⟨_, same⟩ => exact .refused same

theorem admitFleet_answered (accepted : Accepted policy) (trafficClass : Str)
    (stream : ∀ rule ∈ policy.rule? m.streamKey,
      (s.acceptedByStream.get? m.streamKey).getD 0 < rule.maxAcceptedFrames) :
    Answered policy m s (policy.admitFleet env s m trafficClass).1.toOption
      (policy.admitFleet env s m trafficClass).2 := by
  unfold admitFleet
  split
  · exact repairOrReject_answered accepted _ _ _
  case isFalse room =>
    refine .normal ⟨Nat.le_refl _, rfl, rfl, rfl, rfl, rfl, ?_, stream⟩
    intro limit isLimit
    apply Int.not_le.mp
    intro full
    exact room ((Option.any_eq_true _ _).mpr ⟨limit, isLimit, decide_eq_true full⟩)

theorem admitRule_answered (accepted : Accepted policy) {rule : GatewayAdmissionRule}
    (found : policy.rule? m.streamKey = some rule) :
    Answered policy m s (policy.admitRule env s m rule).1.toOption
      (policy.admitRule env s m rule).2 := by
  unfold admitRule
  dsimp only
  split
  · exact .refused ⟨Nat.le_refl _, rfl, rfl, rfl, rfl, rfl⟩
  split
  · exact .refused ⟨Nat.le_refl _, rfl, rfl, rfl, rfl, rfl⟩
  apply Answered.after effectiveAdmissionScore_same
  split
  · exact repairOrReject_answered accepted _ _ _
  split
  · exact repairOrReject_answered accepted _ _ _
  case isFalse room =>
    apply admitFleet_answered accepted
    intro rule' found'
    obtain rfl := Option.some.inj (found.symm.trans found')
    exact Int.not_le.mp room

variable (env s m) in
/-- `admit` first lets the epoch go on or restart. -/
theorem admitFrame_answered (accepted : Accepted policy) :
    Answered policy m (policy.refreshEpoch env s) (policy.admitFrame env s m).1.toOption
      (policy.admitFrame env s m).2 := by
  unfold admitFrame
  dsimp only
  cases found : policy.rule? m.streamKey with
  | some rule => exact admitRule_answered accepted found
  | none =>
      dsimp only
      split
      · apply admitFleet_answered accepted
        intro rule found'
        cases found.symm.trans found'
      · exact .refused ⟨Nat.le_refl _, rfl, rfl, rfl, rfl, rfl⟩

/-! ## Runs -/

open AdmitRecord

/-- No epoch of the grid goes beyond a quota, and every call is in the epoch that it leaves. -/
structure QuotasKept (policy : GatewayAdmissionPolicy) (start : Rat) (log : List AdmitRecord) :
    Prop where
  grid : ∀ r ∈ log, (∃ k, r.started = (policy.epochs start).startOf k) ∧
    (policy.epochs start).During r.started r.time
  stream : ∀ rule ∈ policy.rules, ∀ k, (policy.epochs start).tally time
    (normalOf (rule.domainId, rule.topic)) ((policy.epochs start).startOf k) log ≤
      rule.maxAcceptedFrames
  fleet : ∀ limit ∈ policy.maxAcceptedFrames, ∀ k,
    (policy.epochs start).tally time normal ((policy.epochs start).startOf k) log ≤ limit
  repairBytes : ∀ k, (policy.epochs start).tally time AdmitRecord.repairBytes
    ((policy.epochs start).startOf k) log ≤ policy.repairCapacityBytes
  repairs : ∀ limit ∈ policy.repairMaxAdmitted, ∀ k,
    (policy.epochs start).tally time repaired ((policy.epochs start).startOf k) log ≤ limit

/-- The counters are those of the current epoch, which began no later than now, and after which
    nothing is logged. -/
structure Metering (env : Environment) (policy : GatewayAdmissionPolicy) (start : Rat)
    (s : PolicyState) (log : List AdmitRecord) : Prop where
  grid : ∃ k, s.epochStarted = (policy.epochs start).startOf k
  begun : ∀ i, s.reads ≤ i → s.epochStarted ≤ env.clock i
  past : ∀ r ∈ log, ∀ length ∈ (policy.epochs start).length, r.time < s.epochStarted + length
  logged : ∀ r ∈ log, (∃ k, r.started = (policy.epochs start).startOf k) ∧
    (policy.epochs start).During r.started r.time
  stream : ∀ rule ∈ policy.rules, (policy.epochs start).Metered time
    (normalOf (rule.domainId, rule.topic)) log s.epochStarted
    ((s.acceptedByStream.get? (rule.domainId, rule.topic)).getD 0) rule.maxAcceptedFrames
  fleet : ∀ limit ∈ policy.maxAcceptedFrames,
    (policy.epochs start).Metered time normal log s.epochStarted s.acceptedTotal limit
  repairBytes : (policy.epochs start).Metered time AdmitRecord.repairBytes log s.epochStarted
    s.repairAllocatedBytes policy.repairCapacityBytes
  repairs : ∀ limit ∈ policy.repairMaxAdmitted,
    (policy.epochs start).Metered time repaired log s.epochStarted s.repairAdmittedCount limit

namespace Metering

variable {start : Rat} {s' : PolicyState} {log : List AdmitRecord}

theorem quotasKept (h : Metering env policy start s log) : QuotasKept policy start log where
  grid := h.logged
  stream := fun rule among => (h.stream rule among).all
  fleet := fun limit isLimit => (h.fleet limit isLimit).all
  repairBytes := h.repairBytes.all
  repairs := fun limit isLimit => (h.repairs limit isLimit).all

theorem init (accepted : Accepted policy) (monotone : Monotone env.clock) (reads : Nat) :
    Metering env policy (env.clock reads) (GatewayAdmissionPolicy.init env reads) [] where
  grid := ⟨0, by simp [GatewayAdmissionPolicy.init, epochs, Epochs.startOf]⟩
  begun := fun i later => monotone (Nat.le_of_succ_le later)
  past := fun _ among => absurd among List.not_mem_nil
  logged := fun _ among => absurd among List.not_mem_nil
  stream := fun rule among => .nil (Int.le_of_lt (accepted.quota rule among))
  fleet := fun limit isLimit => .nil (Int.le_of_lt (accepted.fleet limit isLimit))
  repairBytes := .nil accepted.repairCapacity
  repairs := fun limit isLimit => .nil (Int.le_of_lt (accepted.repairs limit isLimit))

theorem of_same (h : Metering env policy start s log) (same : SameQuotas s s') :
    Metering env policy start s' log where
  grid := same.started ▸ h.grid
  begun := fun i later => same.started ▸ h.begun i (Nat.le_trans same.reads later)
  past := same.started ▸ h.past
  logged := h.logged
  stream := by
    rw [same.started, same.byStream]
    exact h.stream
  fleet := by
    rw [same.started, same.total]
    exact h.fleet
  repairBytes := by
    rw [same.started, same.repairBytes]
    exact h.repairBytes
  repairs := by
    rw [same.started, same.repairs]
    exact h.repairs

/-- An epoch that restarts is later than all that is logged. -/
theorem of_restarts (h : Metering env policy start s log) (monotone : Monotone env.clock)
    {length : Rat} (isLength : length ∈ (policy.epochs start).length) (long : 0 < length)
    (restarts : Restarts length (env.clock s.reads) s s') :
    Metering env policy start s' log := by
  obtain ⟨k, grid⟩ := h.grid
  obtain ⟨n, later, started⟩ := restarts.started
  have whole : s.epochStarted + length ≤ s'.epochStarted := by
    have one : (1 : Rat) ≤ n := by exact_mod_cast later
    have := mul_le_mul_of_nonneg_right one long.le
    rw [one_mul] at this
    linarith
  have past : ∀ r ∈ log, r.time < s'.epochStarted := fun r among =>
    lt_of_lt_of_le (h.past r among length isLength) whole
  have gone : ∀ r ∈ log, ¬(policy.epochs start).During s'.epochStarted r.time := fun r among during =>
    absurd (during length isLength).1 (not_le.mpr (past r among))
  exact {
    grid := by
      refine ⟨k + n, ?_⟩
      have isSome : (policy.epochs start).length = some length := isLength
      rw [started, grid, Epochs.startOf, Epochs.startOf, isSome, Option.getD_some]
      push_cast
      ring
    begun := fun i after =>
      le_trans restarts.begun (monotone (Nat.le_trans restarts.reads after))
    past := by
      intro r among length' isLength'
      obtain rfl := Option.some.inj (isLength.symm.trans isLength')
      exact lt_trans (past r among) (by linarith)
    logged := h.logged
    stream := fun rule among => by
      rw [restarts.byStream]
      exact (h.stream rule among).restart gone
    fleet := fun limit isLimit => by
      rw [restarts.total]
      exact (h.fleet limit isLimit).restart gone
    repairBytes := by
      rw [restarts.repairBytes]
      exact h.repairBytes.restart gone
    repairs := fun limit isLimit => by
      rw [restarts.repairs]
      exact (h.repairs limit isLimit).restart gone }

/-- After the epoch is refreshed, the reading is in it. -/
theorem refresh (h : Metering env policy start s log) (accepted : Accepted policy)
    (monotone : Monotone env.clock) :
    Metering env policy start (policy.refreshEpoch env s) log ∧
      (policy.epochs start).During (policy.refreshEpoch env s).epochStarted (env.clock s.reads) := by
  rcases refreshEpoch_cases env s accepted start with ⟨same, lasts⟩ | ⟨length, isLength, restarts⟩
  · refine ⟨h.of_same same, ?_⟩
    intro length isLength
    rw [same.started]
    exact ⟨h.begun _ (Nat.le_refl _), lasts length isLength⟩
  · refine ⟨h.of_restarts monotone isLength (epochs_positive accepted start length isLength)
      restarts, ?_⟩
    intro length' isLength'
    obtain rfl := Option.some.inj (isLength.symm.trans isLength')
    exact ⟨restarts.begun, restarts.lasts⟩

/-- What is admitted is logged and counted. -/
theorem record (h : Metering env policy start s log) (accepted : Accepted policy)
    {r : AdmitRecord} (during : (policy.epochs start).During s.epochStarted r.time)
    (started : r.started = s'.epochStarted) (stream : r.stream = m.streamKey)
    (bytes : r.bytes = lastAllocatedBytes s'.repairDecisions) {action : Option AdmissionAction}
    (acts : r.action = action) (answered : Answered policy m s action s') :
    Metering env policy start s' (log ++ [r]) := by
  have positive := epochs_positive accepted start
  obtain ⟨later, same⟩ : s.reads ≤ s'.reads ∧ s'.epochStarted = s.epochStarted := by
    cases answered with
    | refused same => exact ⟨same.reads, same.started⟩
    | normal taken => exact ⟨taken.reads, taken.started⟩
    | repair taken => exact ⟨taken.reads, taken.started⟩
  have each : ∀ {p : AdmitRecord → Prop}, (∀ x ∈ log, p x) → p r → ∀ x ∈ log ++ [r], p x := by
    intro p before last x among
    cases List.mem_append.mp among with
    | inl old => exact before x old
    | inr new => exact List.mem_singleton.mp new ▸ last
  exact {
    grid := same ▸ h.grid
    begun := fun i after => same ▸ h.begun i (Nat.le_trans later after)
    past := each (same ▸ h.past) fun length isLength => same ▸ (during length isLength).2
    logged := by
      refine each h.logged ⟨?_, ?_⟩
      · rw [started, same]
        exact h.grid
      · rw [started, same]
        exact during
    stream := by
      intro rule among
      rw [same]
      cases answered with
      | refused quotas =>
          rw [quotas.byStream]
          exact (h.stream rule among).skip (by simp [normalOf, acts])
      | repair taken =>
          rw [taken.byStream]
          exact (h.stream rule among).skip (by simp [normalOf, acts])
      | normal taken =>
          rw [taken.byStream, Dict.count]
          by_cases mine : (rule.domainId, rule.topic) = m.streamKey
          case pos =>
            have room := taken.stream rule (mine ▸ rule?_of_mem accepted among)
            have one : normalOf m.streamKey r = 1 := by simp [normalOf, acts, stream]
            have counted := h.stream rule among
            rw [mine] at counted ⊢
            rw [Dict.get?_set_self, Option.getD_some, ← one]
            exact counted.record positive h.grid during (by rw [one]; omega)
          case neg =>
            rw [Dict.get?_set_of_ne mine]
            exact (h.stream rule among).skip (by simp [normalOf, acts, stream, Ne.symm mine])
    fleet := by
      intro limit isLimit
      rw [same]
      cases answered with
      | refused quotas =>
          rw [quotas.total]
          exact (h.fleet limit isLimit).skip (by simp [normal, acts])
      | repair taken =>
          rw [taken.total]
          exact (h.fleet limit isLimit).skip (by simp [normal, acts])
      | normal taken =>
          have room := taken.fleet limit isLimit
          have one : normal r = 1 := by simp [normal, acts]
          rw [taken.total, ← one]
          exact (h.fleet limit isLimit).record positive h.grid during (by rw [one]; omega)
    repairBytes := by
      rw [same]
      cases answered with
      | refused quotas =>
          rw [quotas.repairBytes]
          exact h.repairBytes.skip (by simp [AdmitRecord.repairBytes, acts])
      | normal taken =>
          rw [taken.repairBytes]
          exact h.repairBytes.skip (by simp [AdmitRecord.repairBytes, acts])
      | repair taken =>
          have allocated : AdmitRecord.repairBytes r = lastAllocatedBytes s'.repairDecisions := by
            simp [AdmitRecord.repairBytes, acts, bytes]
          have fits := taken.within
          rw [taken.repairBytes, ← allocated] at fits
          rw [taken.repairBytes, ← allocated]
          exact h.repairBytes.record positive h.grid during fits
    repairs := by
      intro limit isLimit
      rw [same]
      cases answered with
      | refused quotas =>
          rw [quotas.repairs]
          exact (h.repairs limit isLimit).skip (by simp [repaired, acts])
      | normal taken =>
          rw [taken.repairs]
          exact (h.repairs limit isLimit).skip (by simp [repaired, acts])
      | repair taken =>
          have room := taken.limit limit isLimit
          have one : repaired r = 1 := by simp [repaired, acts]
          rw [taken.repairs, ← one]
          exact (h.repairs limit isLimit).record positive h.grid during (by rw [one]; omega) }

theorem step {log' : List AdmitRecord} (h : Metering env policy start s log)
    (accepted : Accepted policy) (monotone : Monotone env.clock) {c : PolicyCall}
    (called : policy.logStep env (s, log) c = some (s', log')) :
    Metering env policy start s' log' := by
  cases called
  cases c with
  | frame m =>
      obtain ⟨refreshed, during⟩ := h.refresh accepted monotone
      exact refreshed.record accepted during rfl rfl rfl rfl (admitFrame_answered env s m accepted)
  | observation u => exact h.of_same (updateObservation_same rfl)
  | nativePath u => exact h.of_same (updateNativePathObservation_same u)
  | applicationOutcome u => exact h.of_same (updateApplicationOutcome_same u)

end Metering

/-- Whatever is called, and however long the gaps between the calls, every epoch of the grid that
    begins when the policy is made keeps all quotas. -/
theorem quotas_kept (env : Environment) (policy : GatewayAdmissionPolicy)
    (accepted : policy.check = .ok ()) (monotone : Monotone env.clock) (reads : Nat)
    (calls : List PolicyCall) {s : PolicyState} {log : List AdmitRecord}
    (h : run (policy.logStep env) (init env reads, []) calls = some (s, log)) :
    QuotasKept policy (env.clock reads) log := by
  have accepted := accepted_of_check accepted
  have metering : Metering env policy (env.clock reads) (s, log).1 (s, log).2 :=
    run_preserves (I := fun s : Logged => Metering env policy (env.clock reads) s.1 s.2)
      (fun held called => held.step accepted monotone called) (.init accepted monotone reads) h
  exact metering.quotasKept

/-- One frame of `/t` a second, and 100 bytes of repairs. -/
def onePerSecond : GatewayAdmissionPolicy where
  rules := [{ domainId := 0, topic := lit "/t", trafficClass := lit "c", maxAcceptedFrames := 1,
              allowedPublishers := [] }]
  allowByDefault := false
  maxAcceptedFrames := none
  epochMs := some 1000
  repairCapacityBytes := 100
  repairPaths := [{ pathId := lit "wifi", latencyMs := 5, loss := 0 }]
  fingerprint := lit "q"
  fingerprint_ne := by decide
  fingerprint_encodable := by decide

/-- A clock that is read twice a second. -/
def halfSeconds : Environment := ⟨fun i => i / 2, id⟩

theorem quotas_kept_onePerSecond :
    let frame : PolicyCall := .frame
      { domainId := 0, topic := lit "/t", publisherId := lit "p", sourceSequenceNumber := 1,
        repairRequested := true, frameBytes := 80 }
    ∃ s log, run (onePerSecond.logStep halfSeconds) (init halfSeconds 0, []) [frame, frame, frame] =
      some (s, log) ∧ QuotasKept onePerSecond 0 log := by
  have monotone : Monotone halfSeconds.clock := by
    intro i j le
    have cast : (i : Rat) ≤ j := by exact_mod_cast le
    exact div_le_div_of_nonneg_right cast (by norm_num)
  intro frame
  refine ⟨_, _, rfl, ?_⟩
  have kept := quotas_kept halfSeconds onePerSecond (by decide +kernel) monotone 0
    [frame, frame, frame] rfl
  have zero : halfSeconds.clock 0 = 0 := by norm_num [halfSeconds]
  rwa [zero] at kept

end GatewayAdmissionPolicy

end FleetRMW.Gateway
