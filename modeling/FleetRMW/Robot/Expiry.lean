import FleetRMW.Lib.Run
import FleetRMW.Robot.ControlLease

/-! # The stop when a lease runs out

A tick stays silent for an event id that was handled before. The ids are remembered across
leases, so an expired lease is sure to be answered only if its id was not among them when it
was accepted. Leases without an id all have the same one, `none`.
-/

namespace FleetRMW.Robot

open Lib

namespace LocalControlLeaseState

/-- The lease that a call makes the active one. -/
def accepted? (s : LocalControlLeaseState) : ControlEvent → Option ControlLease
  | .ingestLease lease =>
      if (s.staleOrDuplicateLeaseDecision lease).isNone then some lease else none
  | _ => none

/-- A lease that is accepted has an id that was not handled. -/
def acceptsUnhandled (s : LocalControlLeaseState) (e : ControlEvent) : Bool :=
  (s.accepted? e).all fun lease => lease.eventId ∉ s.fallbackEventIds

end LocalControlLeaseState

/-- A state, and whether a fallback stop has been published since its lease was accepted. -/
structure Watch where
  state : LocalControlLeaseState
  stopped : Bool := false
  deriving Repr, DecidableEq

namespace Watch

def step (w : Watch) (e : ControlEvent) : Option Watch :=
  let stopped := if (w.state.accepted? e).isSome then false else w.stopped
  some {
    state := (w.state.handle e).2
    stopped := stopped || (w.state.handle e).1.any (·.status = .fallbackStop) }

/-- An active lease whose id has been handled was stopped. -/
structure Watched (policy : LeasePolicy) (w : Watch) : Prop where
  samePolicy : w.state.policy = policy
  handled : ∀ lease, w.state.activeLease = some lease →
    lease.eventId ∈ w.state.fallbackEventIds → w.stopped = true

end Watch

namespace LocalControlLeaseState

variable {s : LocalControlLeaseState}

/-- A decision that stops the robot, or one that handles no id and is published, if at all,
    before the active lease runs out. -/
def InTime (s : LocalControlLeaseState) (answer : LeaseDecision × LocalControlLeaseState) : Prop :=
  answer.1.status = .fallbackStop ∧ answer.1.safeCommand = .zero ∨
    answer.2.fallbackEventIds ⊆ s.fallbackEventIds ∧
      (answer.1.publish → ∃ lease, answer.2.activeLease = some lease ∧
        answer.1.nowMs ≤ lease.localExpiresAtMs)

theorem expiryDecision_stop (stop : s.policy.expiryAction = .stop) (lease : ControlLease)
    (nowMs : Rat) : s.expiryDecision lease nowMs = s.fallbackStop lease nowMs := by
  rw [expiryDecision, stop]

theorem evaluateCommand_inTime (stop : s.policy.expiryAction = .stop) (command : TwistCommand)
    (nowMs : Rat) :
    (s.evaluateCommand command nowMs).2.policy = s.policy ∧
      (s.evaluateCommand command nowMs).2.activeLease = s.activeLease ∧
      s.InTime (s.evaluateCommand command nowMs) := by
  unfold evaluateCommand
  cases active : s.activeLease with
  | none => exact ⟨rfl, rfl, .inr ⟨List.Subset.refl _, nofun⟩⟩
  | some lease =>
      dsimp only
      split
      case isTrue =>
        rw [expiryDecision_stop stop]
        exact ⟨rfl, active, .inl ⟨rfl, rfl⟩⟩
      case isFalse inTime =>
        refine ⟨rfl, rfl, .inr ⟨List.Subset.refl _, fun _ => ⟨lease, rfl, ?_⟩⟩⟩
        simpa only [ControlLease.expired, gt_iff_lt, decide_eq_true_eq, not_lt] using inTime

theorem staleOrDuplicateLeaseDecision_quiet {lease : ControlLease} {d : LeaseDecision}
    (stale : s.staleOrDuplicateLeaseDecision lease = some d) : d.publish = false := by
  unfold staleOrDuplicateLeaseDecision at stale
  split at stale
  · cases stale
  split at stale
  · split at stale
    · cases stale
    · rw [← Option.some.inj stale]
  · cases stale

theorem acceptLease_inTime (stop : s.policy.expiryAction = .stop) (lease : ControlLease) :
    (s.acceptLease lease).2.policy = s.policy ∧
      (s.acceptLease lease).2.activeLease = some lease ∧ s.InTime (s.acceptLease lease) := by
  have fewer : (if lease.eventId ∉ s.fallbackEventIds then s.fallbackEventIds.erase lease.eventId
      else s.fallbackEventIds) ⊆ s.fallbackEventIds := by
    split
    · exact List.erase_subset
    · exact List.Subset.refl _
  unfold acceptLease
  dsimp only
  split
  · exact ⟨rfl, rfl, .inr ⟨fewer, nofun⟩⟩
  case h_2 command _ _ =>
    split
    case isFalse => exact ⟨rfl, rfl, .inr ⟨fewer, nofun⟩⟩
    case isTrue =>
      obtain ⟨policy, active, inTime⟩ := evaluateCommand_inTime (s := { s with
        activeLease := some lease
        fallbackEventIds := if lease.eventId ∉ s.fallbackEventIds then
          s.fallbackEventIds.erase lease.eventId else s.fallbackEventIds
        pendingCommand := none }) stop command lease.receivedMonotonicMs
      refine ⟨policy, active, ?_⟩
      rcases inTime with stops | ⟨handled, before⟩
      · exact .inl stops
      · exact .inr ⟨List.Subset.trans handled fewer, before⟩

/-- What a call does to the active lease, and that it is in time. -/
theorem handle_inTime (stop : s.policy.expiryAction = .stop) (e : ControlEvent) :
    (s.handle e).2.policy = s.policy ∧
      (s.handle e).2.activeLease = (s.accepted? e).or s.activeLease ∧
      ((s.handle e).1 = none ∧ (s.handle e).2.fallbackEventIds ⊆ s.fallbackEventIds ∨
        ∃ d, (s.handle e).1 = some d ∧ s.InTime (d, (s.handle e).2)) := by
  cases e with
  | ingestLease lease =>
      simp only [handle, accepted?, ingestLease]
      cases stale : s.staleOrDuplicateLeaseDecision lease with
      | some d =>
          refine ⟨rfl, rfl, .inr ⟨d, rfl, .inr ⟨List.Subset.refl _, fun published => ?_⟩⟩⟩
          rw [staleOrDuplicateLeaseDecision_quiet stale] at published
          cases published
      | none =>
          obtain ⟨policy, active, inTime⟩ := acceptLease_inTime stop lease
          exact ⟨policy, active, .inr ⟨_, rfl, inTime⟩⟩
  | evaluateCommand command nowMs =>
      obtain ⟨policy, active, inTime⟩ := evaluateCommand_inTime stop command nowMs
      exact ⟨policy, active, .inr ⟨_, rfl, inTime⟩⟩
  | tick nowMs =>
      simp only [handle, accepted?, Option.none_or]
      rcases s.tick_cases nowMs with quiet | ⟨lease, expired⟩
      · rw [quiet]
        exact ⟨rfl, rfl, .inl ⟨rfl, List.Subset.refl _⟩⟩
      · rw [expired, expiryDecision_stop stop]
        exact ⟨rfl, rfl, .inr ⟨_, rfl, .inl ⟨rfl, rfl⟩⟩⟩

/-- A tick after the expiry of a lease whose id was not handled. -/
theorem tick_stops (stop : s.policy.expiryAction = .stop)
    (publishes : s.policy.publishStopOnExpiry) {lease : ControlLease} {nowMs : Rat}
    (active : s.activeLease = some lease) (late : lease.localExpiresAtMs < nowMs)
    (unhandled : lease.eventId ∉ s.fallbackEventIds) :
    s.tick nowMs = (some (s.fallbackStop lease nowMs).1, (s.fallbackStop lease nowMs).2) := by
  have expired : lease.expired nowMs = true := decide_eq_true late
  simp only [tick, active, publishes, expired, unhandled, Bool.not_true, Bool.false_eq_true,
    if_false, expiryDecision_stop stop]

end LocalControlLeaseState

namespace Watch

variable {policy : LeasePolicy} {w w' : Watch}

theorem Watched.step {e : ControlEvent} (stop : policy.expiryAction = .stop)
    (W : w.Watched policy) (unhandled : w.state.acceptsUnhandled e)
    (stepped : w.step e = some w') : w'.Watched policy := by
  obtain rfl := Option.some.inj stepped
  have stop : w.state.policy.expiryAction = .stop := W.samePolicy ▸ stop
  obtain ⟨samePolicy, active, inTime⟩ := LocalControlLeaseState.handle_inTime stop e
  refine ⟨samePolicy.trans W.samePolicy, fun lease isActive isHandled => ?_⟩
  dsimp only at isActive isHandled ⊢
  have still (fewer : (w.state.handle e).2.fallbackEventIds ⊆ w.state.fallbackEventIds) :
      (if (w.state.accepted? e).isSome then false else w.stopped) = true := by
    rw [active] at isActive
    cases accepts : w.state.accepted? e with
    | none =>
        rw [accepts, Option.none_or] at isActive
        exact W.handled lease isActive (fewer isHandled)
    | some accepted =>
        rw [accepts, Option.some_or] at isActive
        obtain rfl := Option.some.inj isActive
        simp only [LocalControlLeaseState.acceptsUnhandled, accepts, Option.all_some,
          decide_eq_true_eq] at unhandled
        exact absurd (fewer isHandled) unhandled
  rw [Bool.or_eq_true]
  rcases inTime with ⟨_, fewer⟩ | ⟨d, decided, ⟨stops, _⟩ | ⟨fewer, _⟩⟩
  · exact .inl (still fewer)
  · right
    rw [decided, Option.any_some, stops]
    rfl
  · exact .inl (still fewer)

/-- In every run in which no accepted lease has an id that was handled before: nothing but a
    stop is published after the active lease has run out, and a tick after that publishes a
    stop unless one was published since the lease was accepted. -/
theorem stops_on_expiry {events : List ControlEvent} (stop : policy.expiryAction = .stop)
    (publishes : policy.publishStopOnExpiry)
    (meets : RunMeets step (fun w e => w.state.acceptsUnhandled e) ⟨{ policy }, false⟩ events)
    (h : run step ⟨{ policy }, false⟩ events = some w) :
    (∀ e d lease, (w.state.handle e).1 = some d → d.publish →
      (w.state.handle e).2.activeLease = some lease → lease.localExpiresAtMs < d.nowMs →
        d.safeCommand = .zero) ∧
    ∀ lease nowMs, w.state.activeLease = some lease → lease.localExpiresAtMs < nowMs →
      w.stopped = false →
        ∃ d, (w.state.tick nowMs).1 = some d ∧ d.publish ∧ d.safeCommand = .zero := by
  have W : w.Watched policy := by
    refine run_invariant (I := Watched policy) ?_ ⟨rfl, fun _ active => by cases active⟩ meets h
    intro w e w' W unhandled stepped
    exact W.step stop unhandled stepped
  have stop : w.state.policy.expiryAction = .stop := W.samePolicy ▸ stop
  have publishes : w.state.policy.publishStopOnExpiry := W.samePolicy ▸ publishes
  constructor
  · intro e d lease decided published active late
    obtain ⟨_, _, inTime⟩ := LocalControlLeaseState.handle_inTime stop e
    rcases inTime with ⟨quiet, _⟩ | ⟨d', decided', ⟨_, zero⟩ | ⟨_, before⟩⟩
    · rw [quiet] at decided
      cases decided
    · rw [decided] at decided'
      obtain rfl := Option.some.inj decided'
      exact zero
    · rw [decided] at decided'
      obtain rfl := Option.some.inj decided'
      obtain ⟨lease', active', inTime⟩ := before published
      obtain rfl := Option.some.inj (active.symm.trans active')
      exact absurd late (not_lt.mpr inTime)
  · intro lease nowMs active late unstopped
    have unhandled : lease.eventId ∉ w.state.fallbackEventIds := by
      intro isHandled
      rw [W.handled lease active isHandled] at unstopped
      cases unstopped
    rw [LocalControlLeaseState.tick_stops stop publishes active late unhandled]
    exact ⟨_, rfl, rfl, rfl⟩

/-- A lease without an id, which runs out, and a second one. -/
def twoLeases : List ControlEvent :=
  [.ingestLease ⟨none, 100, 0, 100⟩, .tick 150, .ingestLease ⟨none, 100, 200, 300⟩,
    .evaluateCommand { linearX := 1/4 } 250]

theorem stops_on_expiry_firstLease :
    ∃ w, run step ⟨{ policy := {} }, false⟩ (twoLeases.take 1) = some w ∧
      ∃ d, (w.state.tick 150).1 = some d ∧ d.publish ∧ d.safeCommand = .zero := by
  have meets : RunMeets step (fun w e => w.state.acceptsUnhandled e)
      ⟨{ policy := {} }, false⟩ (twoLeases.take 1) := by decide
  refine ⟨_, rfl, ?_⟩
  exact (stops_on_expiry rfl rfl meets rfl).2 ⟨none, 100, 0, 100⟩ 150 rfl (by decide) rfl

/-- The robot drives on after its second lease has run out: the tick takes it for the first
    one. -/
theorem second_lease_not_stopped :
    ∃ w lease, run step ⟨{ policy := {} }, false⟩ twoLeases = some w ∧
      w.state.activeLease = some lease ∧ lease.localExpiresAtMs < 350 ∧ w.stopped = false ∧
        w.state.lastOutput ≠ .zero ∧ (w.state.tick 350).1 = none := by
  refine ⟨_, ⟨none, 100, 200, 300⟩, rfl, ?_, ?_, ?_, ?_, ?_⟩
  all_goals decide +kernel

end Watch

end FleetRMW.Robot
