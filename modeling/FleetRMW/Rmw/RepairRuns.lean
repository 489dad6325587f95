import FleetRMW.Rmw.RepairPlan

/-! # Schedules in force

A scheduler writes its schedules to a file while the middleware is asked for frames. Before a frame
is retransmitted the middleware looks at the file.
-/

namespace FleetRMW.Rmw

open Lib
open Repair (RepairDecision admitted)

/-! ## Runs -/

/-- A schedule is written to the file, or a frame is asked for again. -/
inductive PlanEvent where
  | schedule (decisions : List RepairDecision)
  | request (call : RepairCall)

/-- The frame that is asked for, where the decoder gives one. -/
def RepairCall.frame (call : RepairCall) : Option DataFrame :=
  match decodeDataFrame none call.encodedFrame with
  | .ok frame => frame
  | .error _ => none

/-- The plan file and what was read of it, and what was sent. -/
structure PlanState (A : Type) where
  host : PlanHost FleetRepairPlanRule := {}
  repairs : RepairState := {}
  log : List (RepairRecord A) := []

def RepairSettings.withPlan {A : Type} (settings : RepairSettings A)
    (reader : PlanReader FleetRepairPlanRule) : RepairSettings A :=
  { settings with repairPathPlan := reader.plan }

/-- The file does not change while a call lasts. -/
def PlanState.step {A : Type} [DecidableEq A] (settings : RepairSettings A) (s : PlanState A) :
    PlanEvent → PlanState A
  | .schedule decisions => { s with host := repairFormat.write s.host decisions }
  | .request call =>
      let host := if call.frame.isSome then repairFormat.look s.host else s.host
      let after := RepairState.call (settings.withPlan host.reader) (s.repairs, s.log) call
      { host, repairs := after.1, log := after.2 }

def PlanState.run {A : Type} [DecidableEq A] (settings : RepairSettings A)
    (initial : Option (List RepairDecision)) (events : List PlanEvent) : PlanState A :=
  events.foldl (PlanState.step settings) { host := repairFormat.start initial }

def PlanEvent.force (force : InForce (List RepairDecision)) :
    PlanEvent → InForce (List RepairDecision)
  | .schedule decisions => { force with written := decisions }
  | .request call => if call.frame.isSome then repairFormat.found force else force

/-- The schedules after the events. -/
def inForce (initial : Option (List RepairDecision)) (events : List PlanEvent) :
    InForce (List RepairDecision) :=
  events.foldl PlanEvent.force (repairFormat.begun initial)

def PlanEvent.calls (events : List PlanEvent) : List RepairCall :=
  events.filterMap fun
    | .schedule _ => none
    | .request call => some call

/-- Every decision that a schedule of the run admits can be told from the plan. -/
def AllWritable (initial : Option (List RepairDecision)) (events : List PlanEvent) : Prop :=
  ∀ decisions, initial = some decisions ∨ .schedule decisions ∈ events →
    repairFormat.Clean decisions

theorem AllWritable.of_subset {initial : Option (List RepairDecision)}
    {events later : List PlanEvent} (writable : AllWritable initial later)
    (subset : events ⊆ later) : AllWritable initial events :=
  fun decisions given => writable decisions (given.imp_right fun among => subset among)

section
variable {A : Type} [DecidableEq A] {settings : RepairSettings A} {s : PlanState A}

theorem PlanState.run_concat {initial : Option (List RepairDecision)} {events : List PlanEvent}
    {event : PlanEvent} : PlanState.run settings initial (events ++ [event]) =
      (PlanState.run settings initial events).step settings event :=
  List.foldl_concat ..

theorem inForce_concat {initial : Option (List RepairDecision)} {events : List PlanEvent}
    {event : PlanEvent} :
    inForce initial (events ++ [event]) = event.force (inForce initial events) :=
  List.foldl_concat ..

/-- The middleware has the plan in force in every run. -/
theorem PlanState.run_enforces (settings : RepairSettings A)
    {initial : Option (List RepairDecision)} {events : List PlanEvent}
    (writable : AllWritable initial events) :
    repairFormat.Enforces (PlanState.run settings initial events).host
      (inForce initial events) := by
  induction events using List.reverseRecOn with
  | nil => exact .start fun decisions given => writable decisions (.inl given)
  | append_singleton events event ih =>
      have before := ih (writable.of_subset (List.subset_append_left _ _))
      rw [PlanState.run_concat, inForce_concat]
      cases event with
      | schedule decisions =>
          have last : .schedule decisions ∈ events ++ [.schedule decisions] :=
            List.mem_append_right _ List.mem_cons_self
          exact before.write (writable decisions (.inr last))
      | request call =>
          rw [PlanState.step, PlanEvent.force]
          dsimp only
          split
          · exact before.look
          · exact before

omit [DecidableEq A] in
theorem PlanFormat.Enforces.plannedFor {host : PlanHost FleetRepairPlanRule}
    {force : InForce (List RepairDecision)} (h : repairFormat.Enforces host force)
    (settings : RepairSettings A) (frame : DataFrame) : PlannedFor force.enforced frame
      ((settings.withPlan host.reader).repairPlanRuleForFrame frame) :=
  Rmw.plannedFor h.enforced h.plan

omit [DecidableEq A] in
theorem configured_of_strict {reader : PlanReader FleetRepairPlanRule}
    (strict : settings.repairAdmissionStrict) :
    (settings.withPlan reader).repairPlanConfigured := by
  rw [RepairSettings.repairPlanConfigured, Bool.or_eq_true]
  exact .inl strict

theorem RepairState.retransmit_unplanned {s : RepairState} {frame : DataFrame} {now : Int}
    {accepted : Bool} (configured : settings.repairPlanConfigured)
    (missing : settings.repairPlanRuleForFrame frame = none) :
    (s.retransmit settings (some frame) now accepted).2 = .notAdmitted := by
  rw [retransmit]
  dsimp only
  rw [if_pos ⟨configured, missing⟩]

/-- A frame with a rule is given to the targets of the paths of the rule, or not at all. -/
theorem RepairState.retransmit_planned {s : RepairState} {frame : DataFrame} {now : Int}
    {accepted : Bool} {rule : FleetRepairPlanRule}
    (found : settings.repairPlanRuleForFrame frame = some rule) :
    (s.retransmit settings (some frame) now accepted).2 ≠ .notAdmitted ∧
      ∀ targets accepted', (s.retransmit settings (some frame) now accepted).2 =
        .sent targets accepted' → targets = settings.repairTargetsForPathIds rule.pathIds := by
  unfold retransmit transmit
  dsimp only
  rw [if_neg fun both : _ ∧ _ => by rw [found] at both; cases both.2]
  split
  · exact ⟨nofun, nofun⟩
  · split
    · exact ⟨nofun, nofun⟩
    · split
      · exact ⟨nofun, nofun⟩
      · rw [Option.bind_some, found]
        exact ⟨nofun, fun targets accepted' sent => (RepairReply.sent.inj sent).1.symm⟩

/-- A frame is refused where no admitted decision is about it, and otherwise sent to the targets of
    the paths that were selected for it, if it is sent. -/
structure Answered (settings : RepairSettings A) (decisions : List RepairDecision)
    (frame : DataFrame) (reply : RepairReply A) : Prop where
  refused : reply = .notAdmitted ↔ ∀ decision ∈ admitted decisions, ¬Serves decision frame
  sent : ∀ targets accepted, reply = .sent targets accepted →
    ∃ decision ∈ admitted decisions, Serves decision frame ∧
      targets = settings.repairTargetsForPathIds (decision.selectedPaths.map utf8Bytes)

theorem PlannedFor.answered {s : RepairState} {frame : DataFrame} {now : Int} {accepted : Bool}
    {decisions : List RepairDecision} (configured : settings.repairPlanConfigured)
    (h : PlannedFor decisions frame (settings.repairPlanRuleForFrame frame)) :
    Answered settings decisions frame (s.retransmit settings (some frame) now accepted).2 := by
  cases found : settings.repairPlanRuleForFrame frame with
  | none =>
      rw [RepairState.retransmit_unplanned configured found]
      exact ⟨iff_of_true rfl (h.none_ found), nofun⟩
  | some rule =>
      obtain ⟨decision, isDecision, serves, rfl, _⟩ := h.some_ rule found
      obtain ⟨admitted_, targets⟩ :
          (s.retransmit settings (some frame) now accepted).2 ≠ .notAdmitted ∧ _ :=
        RepairState.retransmit_planned found
      exact ⟨iff_of_false admitted_ fun nowhere => nowhere decision isDecision serves,
        fun _ _ sent => ⟨decision, isDecision, serves, targets _ _ sent⟩⟩

/-- The targets do not depend on the plan. -/
theorem Answered.of_withPlan {reader : PlanReader FleetRepairPlanRule}
    {decisions : List RepairDecision} {frame : DataFrame} {reply : RepairReply A}
    (h : Answered (settings.withPlan reader) decisions frame reply) :
    Answered settings decisions frame reply :=
  ⟨h.refused, h.sent⟩

/-- The log of calls of which each frame is accepted at most once. -/
structure OnceEach (repairs : RepairState) (log : List (RepairRecord A)) (calls : List RepairCall) :
    Prop where
  remembers : Remembers repairs log
  once : ∀ publisherId sequence, retransmissions publisherId sequence log ≤ 1
  times : ∀ r ∈ log, ∃ call ∈ calls, r.time = call.now

/-- A frame without a rule is not sent, and where every rule allows one attempt that is the limit of
    a frame that was. -/
theorem maxAttempts_of_succeeded {s : RepairState} {frame : DataFrame} {now : Int} {accepted : Bool}
    (configured : settings.repairPlanConfigured)
    (single : ∀ frame rule, settings.repairPlanRuleForFrame frame = some rule →
      rule.maxAttempts = 1)
    (succeeded : (⟨some frame, now, (s.retransmit settings (some frame) now accepted).2⟩ :
      RepairRecord A).succeeded) : settings.maxAttempts frame = 1 := by
  cases found : settings.repairPlanRuleForFrame frame with
  | none =>
      rw [RepairState.retransmit_unplanned configured found] at succeeded
      cases succeeded
  | some rule =>
      rw [RepairSettings.maxAttempts, found]
      dsimp only
      rw [single frame rule found, if_pos (by decide)]

theorem OnceEach.call {repairs : RepairState} {log : List (RepairRecord A)}
    {calls : List RepairCall} {call : RepairCall} (h : OnceEach repairs log calls)
    (past : ∀ other ∈ calls, 0 < other.now ∧ other.now ≤ call.now)
    (configured : settings.repairPlanConfigured)
    (single : ∀ frame rule, settings.repairPlanRuleForFrame frame = some rule →
      rule.maxAttempts = 1) :
    OnceEach (RepairState.call settings (repairs, log) call).1
      (RepairState.call settings (repairs, log) call).2 (calls ++ [call]) := by
  have earlier : ∀ r ∈ log, ∃ other ∈ calls ++ [call], r.time = other.now := by
    intro r among
    obtain ⟨other, isOther, same⟩ := h.times r among
    exact ⟨other, List.mem_append_left _ isOther, same⟩
  have notLater : ∀ r ∈ log, 0 < r.time ∧ r.time ≤ call.now := by
    intro r among
    obtain ⟨other, isOther, same⟩ := h.times r among
    rw [same]
    exact past other isOther
  rw [RepairState.call]
  split
  case h_1 => exact ⟨h.remembers, h.once, earlier⟩
  case h_2 frame _ =>
    obtain ⟨remembers, allowed⟩ := h.remembers.retransmit frame call.accepted settings notLater
    refine ⟨remembers, fun publisherId sequence => ?_, fun r among => ?_⟩
    · rw [retransmissions_concat]
      split
      case isFalse => exact h.once publisherId sequence
      case isTrue counted =>
        obtain ⟨isFor, succeeded⟩ := (Bool.and_eq_true _ _).mp counted
        obtain ⟨f, rfl, same⟩ := isFor_iff.mp isFor
        obtain ⟨rfl, rfl⟩ := retransmitLedgerKey_injective same
        have limit := maxAttempts_of_succeeded configured single succeeded
        have less := allowed.attempts succeeded f rfl (by rw [limit]; decide)
        rw [limit] at less
        change (retransmissions f.publisherId f.sourceSequenceNumber log : Int) < 1 at less
        change retransmissions f.publisherId f.sourceSequenceNumber log + 1 ≤ 1
        omega
    · rcases List.mem_append.mp among with isEarlier | isNew
      · exact earlier r isEarlier
      · obtain rfl := List.mem_singleton.mp isNew
        exact ⟨call, List.mem_append_right _ (List.mem_singleton_self _), rfl⟩

theorem OnceEach.run (settings : RepairSettings A) (strict : settings.repairAdmissionStrict)
    {initial : Option (List RepairDecision)} {events : List PlanEvent}
    (writable : AllWritable initial events)
    (positive : ∀ call ∈ PlanEvent.calls events, 0 < call.now)
    (ordered : (PlanEvent.calls events).Pairwise fun call later => call.now ≤ later.now) :
    OnceEach (PlanState.run settings initial events).repairs
      (PlanState.run settings initial events).log (PlanEvent.calls events) := by
  induction events using List.reverseRecOn with
  | nil => exact ⟨.nil, fun _ _ => Nat.zero_le 1, nofun⟩
  | append_singleton events event ih =>
      have before : AllWritable initial events :=
        writable.of_subset (List.subset_append_left _ _)
      have enforces := PlanState.run_enforces settings writable
      have calls : PlanEvent.calls (events ++ [event]) =
          PlanEvent.calls events ++ PlanEvent.calls [event] := List.filterMap_append
      rw [calls] at positive ordered ⊢
      obtain ⟨ordered, _, last⟩ := List.pairwise_append.mp ordered
      have h := ih before (fun call among => positive call (List.mem_append_left _ among)) ordered
      rw [PlanState.run_concat] at enforces ⊢
      cases event with
      | schedule decisions =>
          have none_ : PlanEvent.calls [.schedule decisions] = [] := rfl
          rw [none_, List.append_nil]
          exact h
      | request call =>
          refine h.call ?_ ?_ ?_
          · exact fun other among => ⟨positive other (List.mem_append_left _ among),
              last other among call (List.mem_singleton_self _)⟩
          · exact configured_of_strict strict
          · intro frame rule found
            obtain ⟨decision, _, _, rfl, _⟩ := (enforces.plannedFor settings frame).some_ rule found
            rfl

/-- Each frame is accepted at most once, and every request of a frame is answered by the schedule
    that is in force when it is made. -/
structure FollowsSchedules (settings : RepairSettings A) (initial : Option (List RepairDecision))
    (events : List PlanEvent) : Prop where
  once : ∀ publisherId sequence,
    retransmissions publisherId sequence (PlanState.run settings initial events).log ≤ 1
  answered : ∀ before call frame, before ++ [.request call] <+: events → call.frame = some frame →
    ∃ reply, (PlanState.run settings initial (before ++ [.request call])).log =
        (PlanState.run settings initial before).log ++ [⟨some frame, call.now, reply⟩] ∧
      Answered settings (inForce initial (before ++ [.request call])).enforced frame reply

theorem RepairState.call_of_frame {s : RepairState} {log : List (RepairRecord A)}
    {call : RepairCall} {frame : DataFrame} (isFrame : call.frame = some frame) :
    (RepairState.call settings (s, log) call).2 = log ++ [⟨some frame, call.now,
      (s.retransmit settings (some frame) call.now call.accepted).2⟩] := by
  unfold RepairCall.frame at isFrame
  unfold RepairState.call
  split at isFrame
  case h_1 frame' decoded =>
    rw [decoded, isFrame]
  case h_2 => cases isFrame

theorem PlanState.step_log {s : PlanState A} {call : RepairCall} {frame : DataFrame}
    (isFrame : call.frame = some frame) : (s.step settings (.request call)).log =
      s.log ++ [⟨some frame, call.now, (s.repairs.retransmit
        (settings.withPlan (s.step settings (.request call)).host.reader) (some frame) call.now
        call.accepted).2⟩] :=
  RepairState.call_of_frame isFrame

end

/-! ## One repair -/

def repairDecision : RepairDecision where
  demandId := lit "p:2:r:/r/control"
  topic := lit "/r/control"
  robotId := lit "r"
  publisherId := lit "p"
  sourceSequenceNumber := 2
  action := .repair
  selectedPaths := [lit "backup_5g"]
  allocatedBytes := 100
  expectedSuccess := 1
  expectedLatencyMs := some 10
  remainingDeadlineMs := 50
  utility := 1
  reason := "admitted"

def strictSettings : RepairSettings Nat where
  repairAdmissionStrict := true
  peers := [(1, octets "primary_wifi"), (2, octets "backup_5g")]

def repairFrame : DataFrame where
  topic := octets "/r/control"
  robotId := octets "r"
  publisherId := octets "p"
  sourceSequenceNumber := 2

/-- The frame is asked for before its repair is admitted, and twice behind it. -/
def repairEvents : List PlanEvent :=
  [.request ⟨encodeDataFrame repairFrame, 1, true⟩, .schedule [repairDecision],
    .request ⟨encodeDataFrame repairFrame, 2, true⟩,
    .request ⟨encodeDataFrame repairFrame, 3, true⟩]

theorem repairEvents_writable : AllWritable (some []) repairEvents := by
  intro decisions given decision isDecision
  have cases_ : decisions = [] ∨ decisions = [repairDecision] := by
    simpa [repairEvents, eq_comm] using given
  rcases cases_ with rfl | rfl
  · cases isDecision
  · obtain rfl : decision = repairDecision := List.mem_singleton.mp isDecision
    decide

set_option maxRecDepth 8000 in
example : (PlanState.run strictSettings (some []) repairEvents).log.map RepairRecord.reply =
    [.notAdmitted, .sent [2] true, .attemptLimitExhausted] := by
  decide

end FleetRMW.Rmw
