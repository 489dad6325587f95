import Mathlib.Algebra.Order.Ring.Abs
import FleetRMW.Robot.Bounds

/-! # Acceleration and jerk of the commands let through

The jerk limiter moves the acceleration of the last command towards one that is clamped. What it
ends at lies between the two, so the accelerations stay inside their bounds over a whole run.
-/

namespace FleetRMW.Robot

open Lib

/-! ## One axis -/

/-- A step ends between where it starts and where it leads. -/
theorem abs_stepToward_le {previous target maxStep bound : Rat} (start : |previous| ≤ bound)
    (aim : |target| ≤ bound) : |stepToward previous target maxStep| ≤ bound := by
  unfold stepToward
  dsimp only
  rw [abs_le] at start aim
  split
  case isTrue => exact abs_le.mpr start
  case isFalse positive =>
    split
    case isTrue => exact abs_le.mpr aim
    case isFalse far =>
      rw [abs_le, not_and_or] at far
      split
      case isTrue up =>
        have short : maxStep < target - previous := by
          rcases far with far | far
          · linarith
          · linarith
        rw [abs_le]
        constructor
        · linarith
        · linarith
      case isFalse down =>
        have short : target - previous < -maxStep := by
          rcases far with far | far
          · linarith
          · linarith
        rw [abs_le]
        constructor
        · linarith
        · linarith

theorem abs_stepToward_sub_le (previous target : Rat) {maxStep : Rat} (nonneg : 0 ≤ maxStep) :
    |stepToward previous target maxStep - previous| ≤ maxStep := by
  unfold stepToward
  dsimp only
  split
  case isTrue =>
    rw [sub_self, abs_zero]
    exact nonneg
  case isFalse =>
    split
    case isTrue near => exact near
    case isFalse =>
      split
      · rw [add_sub_cancel_left, abs_of_nonneg nonneg]
      · rw [sub_sub_cancel_left, abs_neg, abs_of_nonneg nonneg]

/-- The bounds of a policy on two commands that follow each other, with their accelerations. -/
structure Limited (policy : LeasePolicy) (dtS : Rat) (command command' : TwistCommand)
    (accel accel' : TwistAcceleration) : Prop where
  linearX : |command'.linearX - command.linearX| ≤ policy.maxLinearAccelX * dtS
  angularZ : |command'.angularZ - command.angularZ| ≤ policy.maxAbsAngularAccelZ * dtS
  linearJerkX : |accel'.linearX - accel.linearX| ≤ policy.maxLinearJerkX * dtS
  angularJerkZ : |accel'.angularZ - accel.angularZ| ≤ policy.maxAbsAngularJerkZ * dtS

structure TwistAcceleration.InBounds (policy : LeasePolicy) (accel : TwistAcceleration) :
    Prop where
  linearX : |accel.linearX| ≤ policy.maxLinearAccelX
  angularZ : |accel.angularZ| ≤ policy.maxAbsAngularAccelZ

theorem TwistAcceleration.zero_inBounds {policy : LeasePolicy} (valid : policy.Valid) :
    TwistAcceleration.zero.InBounds policy where
  linearX := abs_zero.trans_le valid.maxLinearAccelX
  angularZ := abs_zero.trans_le valid.maxAbsAngularAccelZ

section
variable {policy : LeasePolicy} {previous : TwistCommand} {accel : TwistAcceleration} {nowMs : Rat}

theorem applyDynamicLimits_accel (valid : policy.Valid) (I : accel.InBounds policy)
    (command previous : TwistCommand) (previousMs : Option Rat) (nowMs : Rat) :
    (applyDynamicLimits command previous previousMs accel nowMs policy).acceleration.InBounds
      policy := by
  unfold applyDynamicLimits
  split
  · exact TwistAcceleration.zero_inBounds valid
  · constructor
    · exact abs_stepToward_le I.linearX (abs_clamp_le valid.maxLinearAccelX)
    · exact abs_stepToward_le I.angularZ (abs_clamp_le valid.maxAbsAngularAccelZ)

/-- What the limiters let through behind an earlier command. -/
theorem applyDynamicLimits_limited (valid : policy.Valid) (I : accel.InBounds policy)
    (command : TwistCommand) {previousMs : Rat} (later : previousMs < nowMs) :
    let result := applyDynamicLimits command previous (some previousMs) accel nowMs policy
    Limited policy ((nowMs - previousMs) / 1000) previous result.command accel
      result.acceleration := by
  have elapsed : 0 < (nowMs - previousMs) / 1000 := by linarith
  have bounded := applyDynamicLimits_accel valid I command previous (some previousMs) nowMs
  unfold applyDynamicLimits at bounded ⊢
  rw [Option.filter_some_pos (by simpa using later)] at bounded ⊢
  dsimp only at bounded ⊢
  constructor
  · rw [add_sub_cancel_left, abs_mul, abs_of_pos elapsed]
    exact mul_le_mul_of_nonneg_right bounded.linearX elapsed.le
  · rw [add_sub_cancel_left, abs_mul, abs_of_pos elapsed]
    exact mul_le_mul_of_nonneg_right bounded.angularZ elapsed.le
  · rw [max_eq_right valid.maxLinearJerkX]
    exact abs_stepToward_sub_le _ _ (mul_nonneg valid.maxLinearJerkX elapsed.le)
  · rw [max_eq_right valid.maxAbsAngularJerkZ]
    exact abs_stepToward_sub_le _ _ (mul_nonneg valid.maxAbsAngularJerkZ elapsed.le)

end

/-! ## The state machine -/

/-- The command was let through, as it is or clipped. -/
def LeaseDecision.isAccepted (d : LeaseDecision) : Bool := d.status = .accept || d.status = .clip

namespace LocalControlLeaseState

/-- What a call does to the last output: a command goes through the limiters, a fallback stops
    the robot, and nothing else changes it. -/
inductive Effect (s : LocalControlLeaseState) :
    Option LeaseDecision → LocalControlLeaseState → Prop
  | accepted {d : LeaseDecision} {s' : LocalControlLeaseState} (bounded : TwistCommand)
      (policy : s'.policy = s.policy) (publish : d.publish = true)
      (command : d.safeCommand = s'.lastOutput)
      (time : s'.lastOutputMs = some d.nowMs)
      (output : s'.lastOutput = (applyDynamicLimits bounded s.lastOutput s.lastOutputMs s.lastAccel
        d.nowMs s.policy).command)
      (accel : s'.lastAccel = (applyDynamicLimits bounded s.lastOutput s.lastOutputMs s.lastAccel
        d.nowMs s.policy).acceleration) : Effect s (some d) s'
  | stopped {d : LeaseDecision} {s' : LocalControlLeaseState} (policy : s'.policy = s.policy)
      (refused : d.isAccepted = false) (publish : d.publish = true)
      (accel : s'.lastAccel = .zero) : Effect s (some d) s'
  | kept {d : Option LeaseDecision} {s' : LocalControlLeaseState} (policy : s'.policy = s.policy)
      (refused : ∀ x ∈ d, x.isAccepted = false) (output : s'.lastOutput = s.lastOutput)
      (time : s'.lastOutputMs = s.lastOutputMs) (accel : s'.lastAccel = s.lastAccel) :
      Effect s d s'

theorem expiryDecision_effect (s : LocalControlLeaseState) (lease : ControlLease) (nowMs : Rat) :
    Effect s (some (s.expiryDecision lease nowMs).1) (s.expiryDecision lease nowMs).2 := by
  unfold expiryDecision
  split
  · exact .kept rfl (by rintro x ⟨⟩; rfl) rfl rfl rfl
  · exact .kept rfl (by rintro x ⟨⟩; rfl) rfl rfl rfl
  · exact .stopped rfl rfl rfl rfl

theorem evaluateCommand_effect (s : LocalControlLeaseState) (command : TwistCommand)
    (nowMs : Rat) :
    Effect s (some (s.evaluateCommand command nowMs).1) (s.evaluateCommand command nowMs).2 := by
  unfold evaluateCommand
  split
  · exact .kept rfl (by rintro x ⟨⟩; rfl) rfl rfl rfl
  case h_2 lease _ =>
    dsimp only
    split
    case isTrue => exact expiryDecision_effect s lease nowMs
    case isFalse => exact .accepted (clipCommand command s.policy).1 rfl rfl rfl rfl rfl rfl

theorem ingestLease_effect (s : LocalControlLeaseState) (lease : ControlLease) :
    Effect s (some (s.ingestLease lease).1) (s.ingestLease lease).2 := by
  unfold ingestLease
  cases stale : s.staleOrDuplicateLeaseDecision lease with
  | some decision =>
      refine .kept rfl ?_ rfl rfl rfl
      rintro x ⟨⟩
      unfold staleOrDuplicateLeaseDecision at stale
      split at stale
      · cases stale
      split at stale
      · split at stale
        · cases stale
        · obtain rfl := Option.some.inj stale
          unfold LeaseDecision.isAccepted
          dsimp only
          split
          · rfl
          · rfl
      · cases stale
  | none =>
      dsimp only
      unfold acceptLease
      dsimp only
      cases pending : s.pendingCommand with
      | none => exact .kept rfl (by rintro x ⟨⟩; rfl) rfl rfl rfl
      | some sent =>
          dsimp only
          split
          case isFalse => exact .kept rfl (by rintro x ⟨⟩; rfl) rfl rfl rfl
          case isTrue =>
            -- the state differs from `s` in fields that the limiters do not read
            cases evaluateCommand_effect _ sent.1 lease.receivedMonotonicMs with
            | accepted bounded policy publish command time output accel =>
                exact .accepted bounded policy publish command time output accel
            | stopped policy refused publish accel => exact .stopped policy refused publish accel
            | kept policy refused output time accel => exact .kept policy refused output time accel

theorem handle_effect (s : LocalControlLeaseState) (e : ControlEvent) :
    Effect s (s.handle e).1 (s.handle e).2 := by
  cases e with
  | ingestLease lease => exact ingestLease_effect s lease
  | evaluateCommand command nowMs => exact evaluateCommand_effect s command nowMs
  | tick nowMs =>
      simp only [handle]
      rcases s.tick_cases nowMs with quiet | ⟨lease, expired⟩
      · rw [quiet]
        exact .kept rfl (by rintro x ⟨⟩) rfl rfl rfl
      · rw [expired]
        exact expiryDecision_effect s lease nowMs

/-- The acceleration of the last output is inside the bounds. -/
structure Accelerates (policy : LeasePolicy) (s : LocalControlLeaseState) : Prop where
  samePolicy : s.policy = policy
  valid : policy.Valid
  inside : s.lastAccel.InBounds policy

variable {policy : LeasePolicy} {s s' : LocalControlLeaseState} {e e' : ControlEvent}

theorem Accelerates.of_effect {d : Option LeaseDecision} (I : s.Accelerates policy)
    (effect : Effect s d s') : s'.Accelerates policy := by
  obtain ⟨rfl, valid, inside⟩ := I
  cases effect with
  | accepted bounded samePolicy _ _ _ _ accel =>
      refine ⟨samePolicy, valid, ?_⟩
      rw [accel]
      exact applyDynamicLimits_accel valid inside bounded _ _ _
  | stopped samePolicy _ _ accel =>
      refine ⟨samePolicy, valid, ?_⟩
      rw [accel]
      exact TwistAcceleration.zero_inBounds valid
  | kept samePolicy _ _ _ accel =>
      refine ⟨samePolicy, valid, ?_⟩
      rw [accel]
      exact inside

theorem Accelerates.run {events : List ControlEvent} (I : s.Accelerates policy)
    (h : run step s events = some s') : s'.Accelerates policy := by
  refine run_preserves ?_ I h
  intro s e s' I stepped
  rw [← Option.some.inj stepped]
  exact I.of_effect (s.handle_effect e)

/-- A call that publishes nothing. -/
def isQuiet (s : LocalControlLeaseState) (e : ControlEvent) : Bool :=
  (s.handle e).1.all fun d => !d.publish

/-- The last output of one state is that of another one. -/
structure SameOutput (s s' : LocalControlLeaseState) : Prop where
  output : s'.lastOutput = s.lastOutput
  time : s'.lastOutputMs = s.lastOutputMs
  accel : s'.lastAccel = s.lastAccel

theorem SameOutput.of_effect {d : Option LeaseDecision} (effect : Effect s d s')
    (quiet : d.all fun d => !d.publish) : SameOutput s s' := by
  cases effect with
  | accepted _ _ publish => simp [publish] at quiet
  | stopped _ _ publish => simp [publish] at quiet
  | kept _ _ output time accel => exact ⟨output, time, accel⟩

theorem SameOutput.run {events : List ControlEvent}
    (quiet : RunMeets step (fun s e => s.isQuiet e) s events) (h : run step s events = some s') :
    SameOutput s s' := by
  refine run_invariant (I := SameOutput s) ?_ ⟨rfl, rfl, rfl⟩ quiet h
  intro mid e s' same isQuiet stepped
  obtain rfl := Option.some.inj stepped
  obtain ⟨output, time, accel⟩ := SameOutput.of_effect (mid.handle_effect e) isQuiet
  exact ⟨output.trans same.output, time.trans same.time, accel.trans same.accel⟩

/-- The decision of an accepted command tells the state behind it. -/
theorem Effect.of_accepted {d : LeaseDecision} (effect : Effect s (some d) s')
    (accepted : d.isAccepted) :
    d.safeCommand = s'.lastOutput ∧ s'.lastOutputMs = some d.nowMs ∧ ∃ bounded,
      s'.lastOutput = (applyDynamicLimits bounded s.lastOutput s.lastOutputMs s.lastAccel
        d.nowMs s.policy).command ∧
      s'.lastAccel = (applyDynamicLimits bounded s.lastOutput s.lastOutputMs s.lastAccel
        d.nowMs s.policy).acceleration := by
  cases effect with
  | accepted bounded _ _ command time output accel =>
      exact ⟨command, time, bounded, output, accel⟩
  | stopped _ refused =>
      rw [refused] at accepted
      cases accepted
  | kept _ refused =>
      rw [refused d rfl] at accepted
      cases accepted

/-- In every run under a policy from a profile, a command that is let through and the next one,
    at a later time and with nothing published in between, keep the limits of the policy on
    acceleration and jerk. -/
theorem consecutive_limited {float : PyJson → Option Rat} {payload : List (Str × PyJson)}
    {before between : List ControlEvent} {d d' : LeaseDecision}
    (fromMapping : LeasePolicy.fromMapping float payload = some policy)
    (h : run step { policy } before = some s) (decided : (s.handle e).1 = some d)
    (accepted : d.isAccepted)
    (quiet : RunMeets step (fun s e => s.isQuiet e) (s.handle e).2 between)
    (h' : run step (s.handle e).2 between = some s') (decided' : (s'.handle e').1 = some d')
    (accepted' : d'.isAccepted) (later : d.nowMs < d'.nowMs) :
    Limited policy ((d'.nowMs - d.nowMs) / 1000) d.safeCommand d'.safeCommand
      (s.handle e).2.lastAccel (s'.handle e').2.lastAccel := by
  have valid := LeasePolicy.fromMapping_valid fromMapping
  have start : Accelerates policy { policy } :=
    ⟨rfl, valid, TwistAcceleration.zero_inBounds valid⟩
  have I := (start.run h).of_effect (s.handle_effect e)
  have I' := I.run h'
  have same := SameOutput.run quiet h'
  have effect := s.handle_effect e
  rw [decided] at effect
  obtain ⟨command, time, -⟩ := effect.of_accepted accepted
  have effect' := s'.handle_effect e'
  rw [decided'] at effect'
  obtain ⟨command', -, bounded, output', accel'⟩ := effect'.of_accepted accepted'
  rw [same.output, same.time, same.accel, time, I'.samePolicy] at output' accel'
  rw [command, command', output', accel']
  exact applyDynamicLimits_limited valid I.inside bounded later

theorem consecutive_limited_twoCommands :
    ∃ s d s' d', run step { policy := {} } [.ingestLease ⟨some 1, 500, 0, 500⟩] = some s ∧
      (s.handle (.evaluateCommand .zero 0)).1 = some d ∧
      run step (s.handle (.evaluateCommand .zero 0)).2 [.tick 50] = some s' ∧
      (s'.handle (.evaluateCommand { linearX := 1/4 } 100)).1 = some d' ∧
      Limited {} ((d'.nowMs - d.nowMs) / 1000) d.safeCommand d'.safeCommand
        (s.handle (.evaluateCommand .zero 0)).2.lastAccel
        (s'.handle (.evaluateCommand { linearX := 1/4 } 100)).2.lastAccel := by
  have fromMapping : LeasePolicy.fromMapping numberOf [] = some {} := by decide +kernel
  have start : run step { policy := {} } [.ingestLease ⟨some 1, 500, 0, 500⟩] = some _ := rfl
  have quiet : RunMeets step (fun s e => s.isQuiet e)
      (({ policy := {} : LocalControlLeaseState }.handle (.ingestLease ⟨some 1, 500, 0, 500⟩)).2.handle
        (.evaluateCommand .zero 0)).2 [.tick 50] := by decide +kernel
  refine ⟨_, _, _, _, start, rfl, rfl, rfl, ?_⟩
  exact consecutive_limited fromMapping start rfl (by decide +kernel) quiet rfl rfl
    (by decide +kernel) (by decide +kernel)

end LocalControlLeaseState

end FleetRMW.Robot
