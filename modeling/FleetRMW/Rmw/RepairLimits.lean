import FleetRMW.Lib.Log
import FleetRMW.Rmw.Retention

/-! # Limits on retransmissions

A frame that is requested again is sent if the repair plan admits it, its last request was long
enough ago, it has not been sent as often as its limit allows, and the budget of all
retransmissions is not used up. Only what was sent successfully counts, while a request is
remembered whether or not it is answered.
-/

namespace FleetRMW.Rmw

open Lib

structure FleetRepairPlanRule where
  topic : Bytes
  pathIds : List Bytes
  sourceSequences : List UInt64
  maxAttempts : Int := 0
  deriving Repr, DecidableEq

/-- The plan and the limits, and the peers with the paths that lead to them. -/
structure RepairSettings (A : Type) where
  repairPathPlan : List FleetRepairPlanRule := []
  repairAdmissionStrict : Bool := false
  repairRetransmissionBudget : Int := -1
  repairMinIntervalMs : Int := 0
  repairMaxAttemptsPerSequence : Int := 0
  peers : List (A × Bytes) := []

structure RepairAttemptState where
  lastRequestNs : Int := 0
  attempts : Nat := 0
  deriving Repr, DecidableEq

structure RepairState where
  repairAttempts : Dict Bytes RepairAttemptState := []
  nackRetransmissions : Nat := 0
  deriving Repr, DecidableEq

/-- What becomes of a request. -/
inductive RepairReply (A : Type) where
  | notAdmitted
  | coalesced
  | attemptLimitExhausted
  | budgetExhausted
  /-- The frame is given to the targets of its paths, or where there are none is sent as any
      frame. -/
  | sent (targets : List A) (accepted : Bool)
  deriving Repr, DecidableEq

variable {A : Type}

def RepairReply.ret : RepairReply A → RmwRet
  | .notAdmitted | .attemptLimitExhausted | .budgetExhausted => .unsupported
  | .coalesced => .ok
  | .sent _ accepted => if accepted then .ok else .error

def FleetRepairPlanRule.admitsSequence (rule : FleetRepairPlanRule) (sequence : UInt64) : Bool :=
  rule.sourceSequences.isEmpty || rule.sourceSequences.any (· = sequence)

section
variable [DecidableEq A]

namespace RepairSettings

variable (settings : RepairSettings A)

def repairPlanRuleForFrame (frame : DataFrame) : Option FleetRepairPlanRule :=
  (settings.repairPathPlan.find? fun rule =>
      rule.topic = frame.topic && rule.admitsSequence frame.sourceSequenceNumber) <|>
    settings.repairPathPlan.find? fun rule =>
      rule.topic = octets "*" && rule.admitsSequence frame.sourceSequenceNumber

def repairPlanConfigured : Bool :=
  settings.repairAdmissionStrict || !settings.repairPathPlan.isEmpty

def repairTargetsForPathIds (pathIds : List Bytes) : List A :=
  pathIds.foldl (fun targets pathId =>
    settings.peers.foldl (fun targets peer =>
      if peer.2 ≠ pathId || targets.any (· = peer.1) then targets else targets ++ [peer.1])
      targets) []

/-- The number that `max_attempts` is. -/
def maxAttempts (frame : DataFrame) : Int :=
  match settings.repairPlanRuleForFrame frame with
  | some rule =>
      if rule.maxAttempts > 0 then rule.maxAttempts else settings.repairMaxAttemptsPerSequence
  | none => settings.repairMaxAttemptsPerSequence

def minIntervalNs : Int := settings.repairMinIntervalMs * 1000000

end RepairSettings

def DataFrame.repairKey (frame : DataFrame) : Bytes :=
  retransmitLedgerKey frame.publisherId frame.sourceSequenceNumber

namespace RepairState

def attemptState (s : RepairState) (key : Bytes) : RepairAttemptState :=
  (s.repairAttempts.get? key).getD {}

def setAttemptState (s : RepairState) (key : Bytes) (state : RepairAttemptState) : RepairState :=
  { s with repairAttempts := s.repairAttempts.set key state }

/-- Count a retransmission that was accepted. -/
def count (s : RepairState) (frame : Option DataFrame) : RepairState :=
  let s := { s with nackRetransmissions := s.nackRetransmissions + 1 }
  match frame with
  | some frame =>
      let state := s.attemptState frame.repairKey
      s.setAttemptState frame.repairKey { state with attempts := state.attempts + 1 }
  | none => s

/-- Where the budget allows it the frame is sent. -/
def transmit (settings : RepairSettings A) (s : RepairState) (frame : Option DataFrame)
    (accepted : Bool) : RepairState × RepairReply A :=
  if settings.repairRetransmissionBudget ≥ 0 ∧
      s.nackRetransmissions ≥ settings.repairRetransmissionBudget then (s, .budgetExhausted)
  else
    let targets := match frame.bind settings.repairPlanRuleForFrame with
      | some rule => settings.repairTargetsForPathIds rule.pathIds
      | none => []
    (if accepted then s.count frame else s, .sent targets accepted)

/-- `send_retransmission_frame` for what the encoded frame is decoded to. -/
def retransmit (settings : RepairSettings A) (s : RepairState) (frame : Option DataFrame)
    (now : Int) (accepted : Bool) : RepairState × RepairReply A :=
  match frame with
  | none => s.transmit settings none accepted
  | some frame =>
      if settings.repairPlanConfigured ∧ settings.repairPlanRuleForFrame frame = none then
        (s, .notAdmitted)
      else
        let state := s.attemptState frame.repairKey
        if settings.minIntervalNs > 0 ∧ state.lastRequestNs > 0 ∧
            now - state.lastRequestNs < settings.minIntervalNs then
          (s.setAttemptState frame.repairKey state, .coalesced)
        else
          let s := s.setAttemptState frame.repairKey { state with lastRequestNs := now }
          if settings.maxAttempts frame > 0 ∧ state.attempts ≥ settings.maxAttempts frame then
            (s, .attemptLimitExhausted)
          else s.transmit settings (some frame) accepted

def sendRetransmissionFrame (settings : RepairSettings A) (s : RepairState)
    (encodedFrame : Bytes) (now : Int) (accepted : Bool) : Cpp (RepairState × RepairReply A) := do
  let dataFrame ← decodeDataFrame none encodedFrame
  return s.retransmit settings dataFrame now accepted

end RepairState

/-! ## Calls and their log -/

/-- A call, the time at which it is made, and whether what it sends is accepted. -/
structure RepairCall where
  encodedFrame : Bytes
  now : Int
  accepted : Bool

/-- A call that returned. -/
structure RepairRecord (A : Type) where
  frame : Option DataFrame
  time : Int
  reply : RepairReply A

/-- A call that ends with an exception of the decoder has changed nothing. -/
def RepairState.call (settings : RepairSettings A) (s : RepairState × List (RepairRecord A))
    (call : RepairCall) : RepairState × List (RepairRecord A) :=
  match decodeDataFrame none call.encodedFrame with
  | .error _ => s
  | .ok frame =>
      let (state, reply) := s.1.retransmit settings frame call.now call.accepted
      (state, s.2 ++ [⟨frame, call.now, reply⟩])

/-- The state and the log after the calls. -/
def RepairState.calls (settings : RepairSettings A) (calls : List RepairCall) :
    RepairState × List (RepairRecord A) :=
  calls.foldl (RepairState.call settings) ({}, [])

end

namespace RepairRecord

/-- The frame was given to the transport. -/
def isSent (r : RepairRecord A) : Bool :=
  match r.reply with
  | .sent _ _ => true
  | _ => false

/-- The frame was given to the transport, which accepted it. -/
def succeeded (r : RepairRecord A) : Bool :=
  match r.reply with
  | .sent _ accepted => accepted
  | _ => false

def isFor (publisherId : Bytes) (sequence : UInt64) (r : RepairRecord A) : Bool :=
  match r.frame with
  | some frame => frame.publisherId = publisherId && frame.sourceSequenceNumber = sequence
  | none => false

end RepairRecord

/-- How often a frame was retransmitted. -/
def retransmissions (publisherId : Bytes) (sequence : UInt64) (log : List (RepairRecord A)) : Nat :=
  log.countP fun r => r.isFor publisherId sequence && r.succeeded

section
variable [DecidableEq A]

/-- A reason to give a frame up: the plan does not admit it, or its limit or the budget is used
    up. -/
inductive GivenUp (settings : RepairSettings A) (earlier : List (RepairRecord A)) :
    Option DataFrame → Prop where
  | notAdmitted {frame : DataFrame} (configured : settings.repairPlanConfigured)
      (noRule : settings.repairPlanRuleForFrame frame = none) : GivenUp settings earlier (some frame)
  | attempts {frame : DataFrame} (limited : 0 < settings.maxAttempts frame)
      (used : settings.maxAttempts frame ≤
        retransmissions frame.publisherId frame.sourceSequenceNumber earlier) :
      GivenUp settings earlier (some frame)
  | budget {frame : Option DataFrame} (limited : 0 ≤ settings.repairRetransmissionBudget)
      (used : settings.repairRetransmissionBudget ≤ earlier.countP (·.succeeded)) :
      GivenUp settings earlier frame

/-- What the limits allow behind the earlier calls. -/
structure Allowed (settings : RepairSettings A) (earlier : List (RepairRecord A))
    (r : RepairRecord A) : Prop where
  attempts : r.succeeded → ∀ frame, r.frame = some frame → 0 < settings.maxAttempts frame →
    retransmissions frame.publisherId frame.sourceSequenceNumber earlier <
      settings.maxAttempts frame
  budget : r.succeeded → 0 ≤ settings.repairRetransmissionBudget →
    earlier.countP (·.succeeded) < settings.repairRetransmissionBudget
  apart : r.isSent → ∀ publisherId sequence, r.isFor publisherId sequence →
    ∀ r' ∈ earlier, r'.isSent → r'.isFor publisherId sequence →
      r'.time + settings.minIntervalNs ≤ r.time
  givenUp : r.reply.ret = .unsupported → GivenUp settings earlier r.frame

end

/-- What the state remembers of the log. -/
structure Remembers (s : RepairState) (log : List (RepairRecord A)) : Prop where
  total : s.nackRetransmissions = log.countP (·.succeeded)
  attempts : ∀ publisherId sequence,
    (s.attemptState (retransmitLedgerKey publisherId sequence)).attempts =
      retransmissions publisherId sequence log
  requested : ∀ r ∈ log, r.isSent → ∀ publisherId sequence, r.isFor publisherId sequence →
    r.time ≤ (s.attemptState (retransmitLedgerKey publisherId sequence)).lastRequestNs

/-! ## What a call does -/

section
variable {settings : RepairSettings A} {s s' : RepairState} {log : List (RepairRecord A)}
  {frame : Option DataFrame} {now : Int} {accepted : Bool} {reply : RepairReply A}

@[simp] theorem RepairState.attemptState_setAttemptState {key other : Bytes}
    {state : RepairAttemptState} : (s.setAttemptState key state).attemptState other =
      if other = key then state else s.attemptState other := by
  unfold setAttemptState attemptState
  by_cases same : other = key
  · rw [if_pos same, same, Dict.get?_set_self, Option.getD_some]
  · rw [if_neg same, Dict.get?_set_of_ne same]

theorem RepairState.count_nackRetransmissions :
    (s.count frame).nackRetransmissions = s.nackRetransmissions + 1 := by
  cases frame <;> rfl

theorem RepairState.count_attemptState {key : Bytes} :
    (s.count frame).attemptState key =
      { s.attemptState key with
        attempts := (s.attemptState key).attempts +
          if ∃ f, frame = some f ∧ f.repairKey = key then 1 else 0 } := by
  cases frame with
  | none => simp [count, attemptState]
  | some f =>
      simp only [count, attemptState_setAttemptState, Option.some.injEq, exists_eq_left']
      by_cases same : key = f.repairKey
      case pos =>
        rw [if_pos same, if_pos same.symm, same]
        rfl
      case neg =>
        rw [if_neg same, if_neg (Ne.symm same)]
        rfl

theorem retransmissions_concat {publisherId : Bytes} {sequence : UInt64} {r : RepairRecord A} :
    retransmissions publisherId sequence (log ++ [r]) = retransmissions publisherId sequence log +
      if r.isFor publisherId sequence && r.succeeded then 1 else 0 := by
  rw [retransmissions, List.countP_append, List.countP_singleton, retransmissions]

theorem isFor_iff {publisherId : Bytes} {sequence : UInt64} :
    (⟨frame, now, reply⟩ : RepairRecord A).isFor publisherId sequence ↔
      ∃ f, frame = some f ∧ f.repairKey = retransmitLedgerKey publisherId sequence := by
  cases frame with
  | none => simp [RepairRecord.isFor]
  | some f =>
      simp only [RepairRecord.isFor, Bool.and_eq_true, decide_eq_true_eq, Option.some.injEq,
        exists_eq_left', DataFrame.repairKey]
      constructor
      · intro same
        rw [same.1, same.2]
      · exact retransmitLedgerKey_injective

theorem Remembers.nil : Remembers {} ([] : List (RepairRecord A)) where
  total := rfl
  attempts _ _ := rfl
  requested := nofun

/-- A call that sends nothing counts nothing, and remembers at most the request. -/
theorem Remembers.unsent (h : Remembers s log) (past : ∀ r ∈ log, r.time ≤ now)
    (total : s'.nackRetransmissions = s.nackRetransmissions)
    (attempts : ∀ key, (s'.attemptState key).attempts = (s.attemptState key).attempts)
    (last : ∀ key, (s'.attemptState key).lastRequestNs = (s.attemptState key).lastRequestNs ∨
      (s'.attemptState key).lastRequestNs = now)
    (unsent : (⟨frame, now, reply⟩ : RepairRecord A).isSent = false) :
    Remembers s' (log ++ [⟨frame, now, reply⟩]) := by
  have failed : (⟨frame, now, reply⟩ : RepairRecord A).succeeded = false := by
    cases reply <;> first | rfl | cases unsent
  constructor
  · rw [total, h.total, List.countP_append, List.countP_singleton, failed]
    rfl
  · intro publisherId sequence
    rw [attempts, h.attempts, retransmissions_concat, failed, Bool.and_false]
    rfl
  · intro r among isSent publisherId sequence isFor
    rcases List.mem_append.mp among with earlier | new
    · rcases last (retransmitLedgerKey publisherId sequence) with same | now_
      · rw [same]
        exact h.requested r earlier isSent publisherId sequence isFor
      · rw [now_]
        exact past r earlier
    · obtain rfl := List.mem_singleton.mp new
      rw [unsent] at isSent
      cases isSent

/-- The request of a frame that is sent is remembered, and the frame counted if it was
    accepted. -/
theorem Remembers.sent {targets : List A} (h : Remembers s log)
    (requested : ∀ f, frame = some f → (s.attemptState f.repairKey).lastRequestNs = now)
    (total : s'.nackRetransmissions = s.nackRetransmissions + if accepted then 1 else 0)
    (attempts : ∀ key, (s'.attemptState key).attempts = (s.attemptState key).attempts +
      if (∃ f, frame = some f ∧ f.repairKey = key) ∧ accepted then 1 else 0)
    (last : ∀ key, (s'.attemptState key).lastRequestNs = (s.attemptState key).lastRequestNs) :
    Remembers s' (log ++ [⟨frame, now, .sent targets accepted⟩]) := by
  constructor
  · rw [total, h.total, List.countP_append, List.countP_singleton]
    rfl
  · intro publisherId sequence
    rw [attempts, h.attempts, retransmissions_concat]
    simp only [Bool.and_eq_true, isFor_iff]
    rfl
  · intro r among isSent publisherId sequence isFor
    rw [last]
    rcases List.mem_append.mp among with earlier | new
    · exact h.requested r earlier isSent publisherId sequence isFor
    · obtain rfl := List.mem_singleton.mp new
      obtain ⟨f, rfl, same⟩ := isFor_iff.mp isFor
      rw [← same, requested f rfl]

theorem Remembers.request (h : Remembers s log) (key : Bytes) (past : ∀ r ∈ log, r.time ≤ now) :
    Remembers (s.setAttemptState key { s.attemptState key with lastRequestNs := now }) log where
  total := h.total
  attempts publisherId sequence := by
    rw [← h.attempts, RepairState.attemptState_setAttemptState]
    split
    · next same => rw [same]
    · rfl
  requested r among isSent publisherId sequence isFor := by
    rw [RepairState.attemptState_setAttemptState]
    split
    · exact past r among
    · exact h.requested r among isSent publisherId sequence isFor

variable [DecidableEq A] {settings : RepairSettings A}

theorem Remembers.transmit (h : Remembers s log) (past : ∀ r ∈ log, r.time ≤ now)
    (requested : ∀ f, frame = some f → (s.attemptState f.repairKey).lastRequestNs = now) :
    Remembers (s.transmit settings frame accepted).1
      (log ++ [⟨frame, now, (s.transmit settings frame accepted).2⟩]) := by
  unfold RepairState.transmit
  split
  case isTrue => exact h.unsent past rfl (fun _ => rfl) (fun _ => .inl rfl) rfl
  case isFalse =>
    cases accepted with
    | false =>
        apply h.sent requested rfl _ (fun _ => rfl)
        intro key
        simp
    | true =>
        apply h.sent requested RepairState.count_nackRetransmissions
        · intro key
          simp [RepairState.count_attemptState]
        · intro key
          rw [if_pos rfl, RepairState.count_attemptState]

/-- A frame is sent as the limits allow it when its attempts are not used up and its last request
    is long ago. -/
theorem Allowed.transmit (h : Remembers s log)
    (attempts : ∀ f, frame = some f → 0 < settings.maxAttempts f →
      (s.attemptState f.repairKey).attempts < settings.maxAttempts f)
    (apart : ∀ f, frame = some f → ∀ r ∈ log, r.isSent →
      r.isFor f.publisherId f.sourceSequenceNumber → r.time + settings.minIntervalNs ≤ now) :
    Allowed settings log ⟨frame, now, (s.transmit settings frame accepted).2⟩ := by
  unfold RepairState.transmit
  split
  case isTrue used =>
    rw [h.total] at used
    exact ⟨nofun, nofun, nofun, fun _ => .budget used.1 used.2⟩
  case isFalse left =>
    rw [h.total] at left
    constructor
    · intro _ f isFrame limited
      rw [← h.attempts]
      exact attempts f isFrame limited
    · intro _ limited
      exact Int.not_le.mp fun used => left ⟨limited, used⟩
    · intro _ publisherId sequence isFor r among isSent isFor'
      obtain ⟨f, isFrame, same⟩ := isFor_iff.mp isFor
      obtain ⟨rfl, rfl⟩ := retransmitLedgerKey_injective same
      exact apart f isFrame r among isSent isFor'
    · intro unsupported
      cases accepted <;> cases unsupported

variable (settings frame accepted) in
/-- What a call does to the state, and that the limits allow it. -/
theorem Remembers.retransmit (h : Remembers s log)
    (past : ∀ r ∈ log, 0 < r.time ∧ r.time ≤ now) :
    Remembers (s.retransmit settings frame now accepted).1
        (log ++ [⟨frame, now, (s.retransmit settings frame now accepted).2⟩]) ∧
      Allowed settings log ⟨frame, now, (s.retransmit settings frame now accepted).2⟩ := by
  have notLater : ∀ r ∈ log, r.time ≤ now := fun r among => (past r among).2
  cases frame with
  | none =>
      have nothing : ∀ f : DataFrame, none = some f → (s.attemptState f.repairKey).lastRequestNs = now :=
        nofun
      exact ⟨h.transmit notLater nothing, Allowed.transmit h nofun nofun⟩
  | some f =>
      unfold RepairState.retransmit
      dsimp only
      split
      case isTrue refused =>
        exact ⟨h.unsent notLater rfl (fun _ => rfl) (fun _ => .inl rfl) rfl,
          nofun, nofun, nofun, fun _ => .notAdmitted refused.1 refused.2⟩
      case isFalse admitted =>
        split
        case isTrue recent =>
          refine ⟨h.unsent notLater rfl ?_ ?_ rfl, nofun, nofun, nofun, nofun⟩
          · intro key
            rw [RepairState.attemptState_setAttemptState]
            split
            · next same => rw [same]
            · rfl
          · intro key
            rw [RepairState.attemptState_setAttemptState]
            split
            · next same => exact .inl (by rw [same])
            · exact .inl rfl
        case isFalse longAgo =>
          -- The request is remembered before the limits are looked at.
          have requested := h.request f.repairKey notLater
          split
          case isTrue used =>
            refine ⟨requested.unsent notLater rfl (fun _ => rfl) (fun _ => .inl rfl) rfl,
              nofun, nofun, nofun, fun _ => ?_⟩
            have attempts := h.attempts f.publisherId f.sourceSequenceNumber
            rw [DataFrame.repairKey, attempts] at used
            exact .attempts used.1 used.2
          case isFalse left =>
            have last : ∀ f', some f = some f' → ((s.setAttemptState f.repairKey
                { s.attemptState f.repairKey with lastRequestNs := now }).attemptState
                  f'.repairKey).lastRequestNs = now := by
              intro f' same
              obtain rfl := Option.some.inj same
              rw [RepairState.attemptState_setAttemptState, if_pos rfl]
            refine ⟨requested.transmit notLater last, Allowed.transmit requested ?_ ?_⟩
            · intro f' same limited
              obtain rfl := Option.some.inj same
              rw [RepairState.attemptState_setAttemptState, if_pos rfl]
              exact Int.not_le.mp fun used => left ⟨limited, used⟩
            · intro f' same r among isSent isFor
              obtain rfl := Option.some.inj same
              have before := h.requested r among isSent _ _ isFor
              rw [← DataFrame.repairKey] at before
              have positive := (past r among).1
              have le := (past r among).2
              omega

end

/-! ## Every run keeps the limits -/

section
variable {settings : RepairSettings A} {log : List (RepairRecord A)}

/-- The limits as they hold for a log as a whole. -/
structure RepairLimits (settings : RepairSettings A) (log : List (RepairRecord A)) : Prop where
  each : EachAfter (Allowed settings) log
  attempts : ∀ publisherId sequence (limit : Int), 0 ≤ limit →
    (∀ r ∈ log, r.isFor publisherId sequence → ∀ frame, r.frame = some frame →
      0 < settings.maxAttempts frame ∧ settings.maxAttempts frame ≤ limit) →
    retransmissions publisherId sequence log ≤ limit
  budget : 0 ≤ settings.repairRetransmissionBudget →
    log.countP (·.succeeded) ≤ settings.repairRetransmissionBudget

theorem RepairLimits.of_each (each : EachAfter (Allowed settings) log) :
    RepairLimits settings log := by
  refine ⟨each, ?_, ?_⟩
  · intro publisherId sequence limit nonneg limited
    induction log using List.reverseRecOn with
    | nil => exact nonneg
    | append_singleton log r ih =>
        have before := ih each.of_concat fun r' among =>
          limited r' (List.mem_append_left _ among)
        rw [retransmissions_concat]
        split
        case isFalse => exact before
        case isTrue counted =>
          obtain ⟨isFor, succeeded⟩ := (Bool.and_eq_true _ _).mp counted
          obtain ⟨f, isFrame, same⟩ := isFor_iff.mp isFor
          obtain ⟨rfl, rfl⟩ := retransmitLedgerKey_injective same
          obtain ⟨positive, le⟩ := limited r (List.mem_append_right _ (List.mem_singleton_self _))
            isFor f isFrame
          have less := each.last.attempts succeeded f isFrame positive
          omega
  · intro limited
    induction log using List.reverseRecOn with
    | nil => exact limited
    | append_singleton log r ih =>
        have before := ih each.of_concat
        rw [List.countP_append, List.countP_singleton]
        split
        case isFalse => exact before
        case isTrue succeeded =>
          have less := each.last.budget succeeded limited
          omega

end

section
variable [DecidableEq A]

theorem calls_remember (settings : RepairSettings A) (calls : List RepairCall)
    (positive : ∀ call ∈ calls, 0 < call.now)
    (ordered : calls.Pairwise fun call later => call.now ≤ later.now) :
    Remembers (RepairState.calls settings calls).1 (RepairState.calls settings calls).2 ∧
      EachAfter (Allowed settings) (RepairState.calls settings calls).2 ∧
      ∀ r ∈ (RepairState.calls settings calls).2, ∃ call ∈ calls, r.time = call.now := by
  unfold RepairState.calls
  induction calls using List.reverseRecOn with
  | nil => exact ⟨.nil, .nil, nofun⟩
  | append_singleton calls call ih =>
      obtain ⟨before, _, last⟩ := List.pairwise_append.mp ordered
      obtain ⟨remembers, each, times⟩ := ih
        (fun other among => positive other (List.mem_append_left _ among)) before
      rw [List.foldl_append, List.foldl_cons, List.foldl_nil, RepairState.call]
      have earlier : ∀ r ∈ (calls.foldl (RepairState.call settings) ({}, [])).2,
          ∃ other ∈ calls ++ [call], r.time = other.now := by
        intro r among
        obtain ⟨other, isOther, same⟩ := times r among
        exact ⟨other, List.mem_append_left _ isOther, same⟩
      split
      case h_1 => exact ⟨remembers, each, earlier⟩
      case h_2 frame _ =>
        have past : ∀ r ∈ (calls.foldl (RepairState.call settings) ({}, [])).2,
            0 < r.time ∧ r.time ≤ call.now := by
          intro r among
          obtain ⟨other, isOther, same⟩ := times r among
          rw [same]
          exact ⟨positive other (List.mem_append_left _ isOther),
            last other isOther call (List.mem_singleton_self _)⟩
        obtain ⟨remembers, allowed⟩ := remembers.retransmit frame call.accepted settings past
        refine ⟨remembers, each.concat allowed, ?_⟩
        intro r among
        rcases List.mem_append.mp among with isEarlier | isNew
        · exact earlier r isEarlier
        · obtain rfl := List.mem_singleton.mp isNew
          exact ⟨call, List.mem_append_right _ (List.mem_singleton_self _), rfl⟩

/-- One retransmission of a frame, and a hundred milliseconds between its requests. -/
def onceSettings : RepairSettings Nat where
  repairMaxAttemptsPerSequence := 1
  repairMinIntervalMs := 100
  repairRetransmissionBudget := 5

end

end FleetRMW.Rmw
