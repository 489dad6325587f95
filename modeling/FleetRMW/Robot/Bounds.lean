import FleetRMW.Lib.Run
import FleetRMW.Robot.ControlLease

/-! # Published commands and the bounds of the policy

A command is clipped before the limiters see it. They move from the last output towards the
clipped command, but the acceleration of the last output changes by one jerk step at most:
if it was high and the bound is near, the output passes the bound. An axis brakes in time
when the acceleration less the jerk step keeps its velocity inside.
-/

namespace FleetRMW.Robot

open Lib

structure TwistCommand.InBounds (policy : LeasePolicy) (command : TwistCommand) : Prop where
  linearX : |command.linearX| ≤ policy.maxLinearX
  linearY : |command.linearY| ≤ policy.maxAbsLinearY
  linearZ : |command.linearZ| ≤ policy.maxAbsLinearZ
  angularX : |command.angularX| ≤ policy.maxAbsAngularX
  angularY : |command.angularY| ≤ policy.maxAbsAngularY
  angularZ : |command.angularZ| ≤ policy.maxAbsAngularZ

/-- The velocity stays inside when the acceleration changes by `maxStep` towards zero. -/
def brakesInTime (velocity accel maxStep dtS bound : Rat) : Bool :=
  velocity + (accel - maxStep) * dtS ≤ bound && -bound ≤ velocity + (accel + maxStep) * dtS

namespace LocalControlLeaseState

/-- Both limited axes brake in time, where the limiters take part. -/
def brakesAt (s : LocalControlLeaseState) (nowMs : Rat) : Bool :=
  match s.lastOutputMs.filter (· < nowMs) with
  | none => true
  | some previousMs =>
      let dtS := (nowMs - previousMs) / 1000
      brakesInTime s.lastOutput.linearX s.lastAccel.linearX
          (max 0 s.policy.maxLinearJerkX * dtS) dtS s.policy.maxLinearX &&
        brakesInTime s.lastOutput.angularZ s.lastAccel.angularZ
          (max 0 s.policy.maxAbsAngularJerkZ * dtS) dtS s.policy.maxAbsAngularZ

/-- A command that a call lets through is one for which the axes brake in time. -/
def brakes (s : LocalControlLeaseState) : ControlEvent → Bool
  | .evaluateCommand _ nowMs =>
      s.activeLease.all fun lease => lease.expired nowMs || s.brakesAt nowMs
  | .ingestLease lease =>
      (s.staleOrDuplicateLeaseDecision lease).isSome || s.pendingCommand.isNone ||
        lease.expired lease.receivedMonotonicMs || s.brakesAt lease.receivedMonotonicMs
  | .tick _ => true

end LocalControlLeaseState

/-! ## One axis -/

theorem abs_clamp_le {value bound : Rat} (nonneg : 0 ≤ bound) :
    |clamp value (-bound) bound| ≤ bound := by
  unfold clamp
  apply abs_le.mpr
  constructor
  · exact le_min (by linarith) (le_max_left _ _)
  · exact min_le_left _ _

/-- The limited acceleration leads from `velocity` to somewhere on the way to `target`. -/
theorem limitAccel_leads {velocity target dtS maxAccel bound : Rat} (elapsed : 0 < dtS)
    (nonneg : 0 ≤ maxAccel) (inside : |velocity| ≤ bound) (targetInside : |target| ≤ bound) :
    |velocity + limitAccel ((target - velocity) / dtS) maxAccel * dtS| ≤ bound := by
  have arrives : (target - velocity) / dtS * dtS = target - velocity :=
    div_mul_cancel₀ _ elapsed.ne'
  generalize (target - velocity) / dtS = desired at arrives
  obtain ⟨low, high⟩ := abs_le.mp inside
  obtain ⟨targetLow, targetHigh⟩ := abs_le.mp targetInside
  have between : (0 ≤ limitAccel desired maxAccel ∧ limitAccel desired maxAccel ≤ desired) ∨
      (desired ≤ limitAccel desired maxAccel ∧ limitAccel desired maxAccel ≤ 0) := by
    unfold limitAccel clamp
    rcases le_total 0 desired with forwards | backwards
    · left
      rw [max_eq_right (by linarith)]
      exact ⟨le_min nonneg forwards, min_le_right _ _⟩
    · right
      rw [min_eq_right (max_le (by linarith) (by linarith))]
      exact ⟨le_max_right _ _, max_le (by linarith) backwards⟩
  apply abs_le.mpr
  rcases between with ⟨forwards, short⟩ | ⟨short, backwards⟩
  · have := mul_nonneg forwards elapsed.le
    have := mul_le_mul_of_nonneg_right short elapsed.le
    constructor <;> linarith
  · have := mul_nonpos_of_nonpos_of_nonneg backwards elapsed.le
    have := mul_le_mul_of_nonneg_right short elapsed.le
    constructor <;> linarith

/-- One step of a limited axis stays inside exactly when the axis brakes in time. -/
theorem abs_step_le_iff {velocity target maxStep dtS maxAccel bound : Rat} (accel : Rat)
    (elapsed : 0 < dtS) (nonneg : 0 ≤ maxAccel) (stepNonneg : 0 ≤ maxStep)
    (inside : |velocity| ≤ bound) (targetInside : |target| ≤ bound) :
    |velocity + stepToward accel (limitAccel ((target - velocity) / dtS) maxAccel) maxStep * dtS|
        ≤ bound ↔ brakesInTime velocity accel maxStep dtS bound := by
  have leads := abs_le.mp (limitAccel_leads elapsed nonneg inside targetInside)
  generalize limitAccel ((target - velocity) / dtS) maxAccel = limited at leads
  simp only [brakesInTime, Bool.and_eq_true, decide_eq_true_eq]
  have slow : ∀ {a b : Rat}, a ≤ b → a * dtS ≤ b * dtS := fun less =>
    mul_le_mul_of_nonneg_right less elapsed.le
  unfold stepToward
  split
  case isTrue none =>
    obtain rfl : maxStep = 0 := le_antisymm none stepNonneg
    rw [sub_zero, add_zero, abs_le, and_comm]
  case isFalse =>
    dsimp only
    split
    case isTrue near =>
      obtain ⟨below, above⟩ := abs_le.mp near
      have := slow (show accel - maxStep ≤ limited by linarith)
      have := slow (show limited ≤ accel + maxStep by linarith)
      constructor
      · intro _
        constructor <;> linarith
      · intro _
        exact abs_le.mpr leads
    case isFalse far =>
      split
      case isTrue rising =>
        rw [abs_of_pos rising] at far
        have := slow (show accel + maxStep ≤ limited by linarith)
        have := slow (show accel - maxStep ≤ accel + maxStep by linarith)
        constructor
        · intro inside
          have := abs_le.mp inside
          constructor <;> linarith
        · intro brakes
          apply abs_le.mpr
          constructor <;> linarith
      case isFalse falling =>
        rw [abs_of_nonpos (not_lt.mp falling)] at far
        have := slow (show limited ≤ accel - maxStep by linarith)
        have := slow (show accel - maxStep ≤ accel + maxStep by linarith)
        constructor
        · intro inside
          have := abs_le.mp inside
          constructor <;> linarith
        · intro brakes
          apply abs_le.mpr
          constructor <;> linarith

/-! ## One call -/

theorem clipCommand_inBounds {policy : LeasePolicy} (valid : policy.Valid)
    (command : TwistCommand) : (clipCommand command policy).1.InBounds policy where
  linearX := abs_clamp_le valid.maxLinearX.le
  linearY := abs_clamp_le valid.maxAbsLinearY
  linearZ := abs_clamp_le valid.maxAbsLinearZ
  angularX := abs_clamp_le valid.maxAbsAngularX
  angularY := abs_clamp_le valid.maxAbsAngularY
  angularZ := abs_clamp_le valid.maxAbsAngularZ

theorem TwistCommand.zero_inBounds {policy : LeasePolicy} (valid : policy.Valid) :
    TwistCommand.zero.InBounds policy := by
  have zero : |(0 : Rat)| = 0 := abs_zero
  constructor
  · exact zero.trans_le valid.maxLinearX.le
  · exact zero.trans_le valid.maxAbsLinearY
  · exact zero.trans_le valid.maxAbsLinearZ
  · exact zero.trans_le valid.maxAbsAngularX
  · exact zero.trans_le valid.maxAbsAngularY
  · exact zero.trans_le valid.maxAbsAngularZ

namespace LocalControlLeaseState

variable {s : LocalControlLeaseState} {nowMs : Rat}

/-- From an output inside the bounds the limiters lead to one exactly when both axes brake. -/
theorem applyDynamicLimits_inBounds_iff (valid : s.policy.Valid)
    (inside : s.lastOutput.InBounds s.policy) (command : TwistCommand) :
    (applyDynamicLimits (clipCommand command s.policy).1 s.lastOutput s.lastOutputMs s.lastAccel
      nowMs s.policy).command.InBounds s.policy ↔ s.brakesAt nowMs := by
  have clipped := clipCommand_inBounds valid command
  unfold applyDynamicLimits brakesAt
  cases previous : s.lastOutputMs.filter (· < nowMs) with
  | none => exact ⟨fun _ => rfl, fun _ => clipped⟩
  | some previousMs =>
      have earlier : previousMs < nowMs :=
        of_decide_eq_true (Option.filter_eq_some_iff.mp previous).2
      have elapsed : 0 < (nowMs - previousMs) / 1000 :=
        div_pos (sub_pos.mpr earlier) (by norm_num)
      have linear := abs_step_le_iff s.lastAccel.linearX elapsed valid.maxLinearAccelX
        (mul_nonneg (le_max_left 0 s.policy.maxLinearJerkX) elapsed.le) inside.linearX
        clipped.linearX
      have angular := abs_step_le_iff s.lastAccel.angularZ elapsed
        valid.maxAbsAngularAccelZ
        (mul_nonneg (le_max_left 0 s.policy.maxAbsAngularJerkZ) elapsed.le) inside.angularZ
        clipped.angularZ
      dsimp only
      rw [Bool.and_eq_true, ← linear, ← angular]
      constructor
      · intro bounded
        exact ⟨bounded.linearX, bounded.angularZ⟩
      · rintro ⟨linearX, angularZ⟩
        exact ⟨linearX, clipped.linearY, clipped.linearZ, clipped.angularX, clipped.angularY,
          angularZ⟩

/-- The policy is the given one, and the last output is inside its bounds. -/
structure Bounded (policy : LeasePolicy) (s : LocalControlLeaseState) : Prop where
  samePolicy : s.policy = policy
  valid : policy.Valid
  inside : s.lastOutput.InBounds policy

/-- A decision that is not published or inside the bounds, before a bounded state. -/
def Safe (policy : LeasePolicy) (answer : LeaseDecision × LocalControlLeaseState) : Prop :=
  answer.2.Bounded policy ∧ (answer.1.publish → answer.1.safeCommand.InBounds policy)

variable {policy : LeasePolicy}

theorem expiryDecision_safe (I : s.Bounded policy) (lease : ControlLease) (nowMs : Rat) :
    Safe policy (s.expiryDecision lease nowMs) := by
  unfold expiryDecision
  split
  · exact ⟨⟨I.samePolicy, I.valid, I.inside⟩, fun _ => I.inside⟩
  · exact ⟨⟨I.samePolicy, I.valid, I.inside⟩, nofun⟩
  · have zero := TwistCommand.zero_inBounds I.valid
    exact ⟨⟨I.samePolicy, I.valid, zero⟩, fun _ => zero⟩

theorem evaluateCommand_safe (I : s.Bounded policy) {command : TwistCommand}
    (brakes : s.brakes (.evaluateCommand command nowMs)) :
    Safe policy (s.evaluateCommand command nowMs) := by
  unfold evaluateCommand
  simp only [LocalControlLeaseState.brakes] at brakes
  cases active : s.activeLease with
  | none => exact ⟨⟨I.samePolicy, I.valid, I.inside⟩, nofun⟩
  | some lease =>
      rw [active, Option.all_some, Bool.or_eq_true] at brakes
      dsimp only
      split
      case isTrue => exact expiryDecision_safe I lease nowMs
      case isFalse inTime =>
        obtain ⟨rfl, valid, inside⟩ := I
        have bounded := (applyDynamicLimits_inBounds_iff valid inside command).mpr
          (brakes.resolve_left inTime)
        exact ⟨⟨rfl, valid, bounded⟩, fun _ => bounded⟩

theorem ingestLease_safe (I : s.Bounded policy) {lease : ControlLease}
    (brakes : s.brakes (.ingestLease lease)) : Safe policy (s.ingestLease lease) := by
  unfold ingestLease
  simp only [LocalControlLeaseState.brakes, Bool.or_eq_true] at brakes
  cases stale : s.staleOrDuplicateLeaseDecision lease with
  | some decision =>
      refine ⟨I, fun published => ?_⟩
      unfold staleOrDuplicateLeaseDecision at stale
      split at stale
      · cases stale
      split at stale
      · split at stale
        · cases stale
        · obtain rfl := Option.some.inj stale
          cases published
      · cases stale
  | none =>
      dsimp only
      unfold acceptLease
      dsimp only
      cases pending : s.pendingCommand with
      | none => exact ⟨⟨I.samePolicy, I.valid, I.inside⟩, nofun⟩
      | some sent =>
          dsimp only
          split
          case isFalse => exact ⟨⟨I.samePolicy, I.valid, I.inside⟩, nofun⟩
          case isTrue =>
            refine evaluateCommand_safe (?_ : Bounded policy _) ?_
            · exact ⟨I.samePolicy, I.valid, I.inside⟩
            simp only [stale, pending, Option.isSome_none, Option.isNone_some,
              Bool.false_eq_true, false_or] at brakes
            simp only [LocalControlLeaseState.brakes, Option.all_some, Bool.or_eq_true]
            exact brakes

theorem handle_safe (I : s.Bounded policy) {e : ControlEvent} (brakes : s.brakes e) :
    (s.handle e).2.Bounded policy ∧
      ∀ d, (s.handle e).1 = some d → d.publish → d.safeCommand.InBounds policy := by
  cases e with
  | ingestLease lease =>
      obtain ⟨I', safe⟩ := ingestLease_safe I brakes
      refine ⟨I', ?_⟩
      rintro _ ⟨⟩
      exact safe
  | evaluateCommand command nowMs =>
      obtain ⟨I', safe⟩ := evaluateCommand_safe I brakes
      refine ⟨I', ?_⟩
      rintro _ ⟨⟩
      exact safe
  | tick nowMs =>
      simp only [handle]
      rcases s.tick_cases nowMs with quiet | ⟨lease, expired⟩
      · rw [quiet]
        refine ⟨I, fun d decided => ?_⟩
        cases decided
      · rw [expired]
        obtain ⟨I', safe⟩ := expiryDecision_safe I lease nowMs
        refine ⟨I', ?_⟩
        rintro _ ⟨⟩
        exact safe

/-- In every run of an accepted policy in which the axes brake in time, each published
    command is inside the bounds. -/
theorem published_inBounds {float : PyJson → Option Rat} {payload : List (Str × PyJson)}
    {events : List ControlEvent}
    (accepted : LeasePolicy.fromMapping float payload = some policy)
    (meets : RunMeets step (fun s e => s.brakes e) { policy } events)
    (h : run step { policy } events = some s) {e : ControlEvent} {d : LeaseDecision}
    (brakes : s.brakes e) (decided : (s.handle e).1 = some d) (published : d.publish) :
    d.safeCommand.InBounds policy := by
  have valid := LeasePolicy.fromMapping_valid accepted
  have start : Bounded policy { policy } := ⟨rfl, valid, TwistCommand.zero_inBounds valid⟩
  have I : s.Bounded policy := by
    refine run_invariant (I := Bounded policy) ?_ start meets h
    intro s e s' I brakes stepped
    rw [← Option.some.inj stepped]
    exact (handle_safe I brakes).1
  exact (handle_safe I brakes).2 d decided published

/-- The number behind a JSON number. -/
def numberOf : PyJson → Option Rat
  | .int i => some i
  | .float (.finite q) => some q
  | _ => none

/-- A lease for half a second, and a command to drive at a quarter. -/
def driveOff : List ControlEvent :=
  let drive : TwistCommand := { linearX := 1/4 }
  [.ingestLease ⟨some 1, 500, 0, 500⟩, .evaluateCommand .zero 0, .evaluateCommand drive 100,
    .evaluateCommand drive 200, .evaluateCommand drive 250]

theorem published_inBounds_driveOff :
    ∃ s d, run step { policy := {} } (driveOff.take 4) = some s ∧
      (s.handle (.evaluateCommand { linearX := 1/4 } 250)).1 = some d ∧
      d.publish ∧ d.safeCommand.InBounds {} := by
  have accepted : LeasePolicy.fromMapping numberOf [] = some {} := by decide +kernel
  have meets : RunMeets step (fun s e => s.brakes e) { policy := {} } (driveOff.take 4) := by
    decide +kernel
  refine ⟨_, _, rfl, rfl, by decide +kernel, ?_⟩
  exact published_inBounds (e := .evaluateCommand { linearX := 1/4 } 250) accepted meets rfl
    (by decide +kernel) rfl (by decide +kernel)

/-- Under the default policy the robot reaches the bound at full acceleration, and the next
    command takes it past. -/
theorem published_pastBound :
    LeasePolicy.fromMapping numberOf [] = some {} ∧
      ∃ s d, run step { policy := {} } driveOff = some s ∧
        (s.handle (.evaluateCommand { linearX := 1/4 } 260)).1 = some d ∧
        d.publish ∧ ¬d.safeCommand.InBounds {} := by
  refine ⟨by decide +kernel, _, _, rfl, rfl, by decide +kernel, fun bounded => ?_⟩
  exact absurd bounded.linearX (by decide +kernel)

end LocalControlLeaseState

end FleetRMW.Robot
