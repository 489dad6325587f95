import FleetRMW.Rmw.Ledger
import Mathlib.Data.List.Chain
import Mathlib.Tactic.Linarith

/-! # Missed deadlines

A publisher offers samples, and a subscription requests them, once in a period. The periods that
passed without one are counted when the next sample comes, and by the monitor in between, which
moves the anchor on by the periods that it has counted.
-/

namespace FleetRMW.Rmw

open Lib

/-! ## The model -/

def int32Max : Int := 2 ^ 31 - 1
def int64Max : Int := 2 ^ 63 - 1

/-- What a publisher keeps as `last_publish_ns`, `offered_deadline_total_count` and
    `offered_deadline_unread_count`, and a subscription as `last_received_ns` and
    `requested_deadline_*`. There is no anchor before the first sample. -/
structure DeadlineWatch where
  anchorNs : Int64 := 0
  totalCount : Int := 0
  unreadCount : Int := 0
  deriving Repr, DecidableEq

/-- No number in between leaves 64 bits. -/
def missedDeadlinePeriods (deadline : RmwTime) (previousNs nowNs : Int64) : Int :=
  let deadlineNs := (qosDurationNs deadline).toInt
  if deadlineNs ≤ 0 ∨ previousNs.toInt ≤ 0 ∨ nowNs.toInt ≤ previousNs.toInt then 0
  else
    let elapsedNs := nowNs.toInt - previousNs.toInt
    if elapsedNs ≤ deadlineNs then 0
    else min (elapsedNs / deadlineNs) int32Max

namespace DeadlineWatch

def recordDeadlineMiss (deadline : RmwTime) (nowNs : Int64) (w : DeadlineWatch) :
    Int × DeadlineWatch :=
  let missed := missedDeadlinePeriods deadline w.anchorNs nowNs
  if missed ≤ 0 then (0, w)
  else (missed, { w with
    totalCount := min (w.totalCount + missed) int32Max
    unreadCount := min (w.unreadCount + missed) int32Max })

/-- `record_offered_deadline_miss_locked`, on what the publisher keeps. -/
def recordOfferedDeadlineMiss := recordDeadlineMiss

/-- `record_requested_deadline_miss_locked`, on what the subscription keeps. -/
def recordRequestedDeadlineMiss := recordDeadlineMiss

end DeadlineWatch

def advanceDeadlineAnchorAfterMiss (deadline : RmwTime) (missed : Int) (anchorNs nowNs : Int64) :
    Int64 :=
  if anchorNs.toInt ≤ 0 ∨ missed ≤ 0 then anchorNs
  else
    let deadlineNs := (qosDurationNs deadline).toInt
    if deadlineNs ≤ 0 then anchorNs
    else
      let periods := min missed (int64Max / deadlineNs)
      if periods ≤ 0 then anchorNs
      else Int64.ofInt (min (anchorNs.toInt + periods * deadlineNs) nowNs.toInt)

def qosDeadlineEnabled (deadline : RmwTime) : Bool := (qosDurationNs deadline).toInt > 0

inductive DeadlineEvent where
  /-- A turn of `qos_deadline_monitor_loop`. -/
  | poll (nowNs : Int64)
  /-- A sample is published, or received. -/
  | sample (nowNs : Int64)
  deriving Repr, DecidableEq

def DeadlineEvent.nowNs : DeadlineEvent → Int64
  | poll nowNs => nowNs
  | sample nowNs => nowNs

namespace DeadlineWatch

def step (deadline : RmwTime) (w : DeadlineWatch) : DeadlineEvent → DeadlineWatch
  | .poll nowNs =>
      if w.anchorNs.toInt ≤ 0 ∨ !qosDeadlineEnabled deadline then w
      else
        let (missed, w) := recordDeadlineMiss deadline nowNs w
        { w with anchorNs := advanceDeadlineAnchorAfterMiss deadline missed w.anchorNs nowNs }
  | .sample nowNs => { (recordDeadlineMiss deadline nowNs w).2 with anchorNs := nowNs }

def runEvents (deadline : RmwTime) (w : DeadlineWatch) (es : List DeadlineEvent) : DeadlineWatch :=
  es.foldl (step deadline) w

end DeadlineWatch

/-! ## Schedules -/

/-- When the samples come. -/
def sampleTimes (es : List DeadlineEvent) : List Int64 :=
  es.filterMap fun e => match e with
    | .sample nowNs => some nowNs
    | .poll _ => none

/-- The samples come at these times, with polls at any times in between. -/
structure IsSchedule (times : List Int64) (es : List DeadlineEvent) : Prop where
  samples : sampleTimes es = times
  ordered : es.Pairwise fun e e' => e.nowNs.toInt ≤ e'.nowNs.toInt
  last : ∃ front nowNs, es = front ++ [.sample nowNs]

section
variable (deadline : RmwTime)

/-- Misses are looked for from this time on. -/
def DeadlineRuns (a : Int64) : Prop := 0 < (qosDurationNs deadline).toInt ∧ 0 < a.toInt

instance (a : Int64) : Decidable (DeadlineRuns deadline a) := inferInstanceAs (Decidable (_ ∧ _))

/-- The whole periods from one sample to the next. -/
def wholePeriods (a b : Int64) : Int :=
  if DeadlineRuns deadline a then (b.toInt - a.toInt) / (qosDurationNs deadline).toInt else 0

def totalPeriods : List Int64 → Int
  | a :: b :: times => wholePeriods deadline a b + totalPeriods (b :: times)
  | _ => 0

/-- The samples are a whole number of periods apart, and more than one period and a nanosecond. -/
def WholePeriodsApart (a b : Int64) : Prop :=
  DeadlineRuns deadline a ∧ (qosDurationNs deadline).toInt ∣ b.toInt - a.toInt ∧
    (qosDurationNs deadline).toInt + 1 < b.toInt - a.toInt

/-- The misses between two samples that nothing polls in between. -/
def unpolled (a b : Int64) : Int :=
  if DeadlineRuns deadline a ∧ (qosDurationNs deadline).toInt < b.toInt - a.toInt then
    (b.toInt - a.toInt) / (qosDurationNs deadline).toInt
  else 0

def totalUnpolled : List Int64 → Int
  | a :: b :: times => unpolled deadline a b + totalUnpolled (b :: times)
  | _ => 0

end

/-! ## One event -/

section
variable {deadline : RmwTime} {w : DeadlineWatch} {a b : Int64} {base : Int}

variable (deadline a b) in
theorem unpolled_nonneg : 0 ≤ unpolled deadline a b := by
  unfold unpolled
  split
  case isTrue counts =>
    obtain ⟨⟨positive, -⟩, later⟩ := counts
    exact Int.ediv_nonneg (by omega) (by omega)
  case isFalse => exact le_refl 0

variable (deadline) in
theorem unpolled_le (ordered : a.toInt ≤ b.toInt) : unpolled deadline a b ≤ wholePeriods deadline a b := by
  unfold unpolled wholePeriods
  by_cases counts : DeadlineRuns deadline a
  · rw [if_pos counts]
    split
    case isTrue => exact le_refl _
    case isFalse => exact Int.ediv_nonneg (by omega) (by have := counts.1; omega)
  · rw [if_neg counts, if_neg (fun both => counts both.1)]

theorem missedDeadlinePeriods_eq :
    missedDeadlinePeriods deadline a b = min (unpolled deadline a b) int32Max := by
  have limit : 0 ≤ int32Max := by decide
  unfold missedDeadlinePeriods unpolled DeadlineRuns
  dsimp only
  by_cases off : (qosDurationNs deadline).toInt ≤ 0 ∨ a.toInt ≤ 0 ∨ b.toInt ≤ a.toInt
  · rw [if_pos off, if_neg (by omega)]
    exact (min_eq_left limit).symm
  · rw [if_neg off]
    split
    case isTrue early =>
      rw [if_neg (by omega)]
      exact (min_eq_left limit).symm
    case isFalse late => rw [if_pos (by omega)]

/-- Within the limit a miss is counted as it is. -/
theorem recordDeadlineMiss_eq (fits : w.totalCount + unpolled deadline w.anchorNs b ≤ int32Max)
    (nonneg : 0 ≤ w.totalCount) :
    (w.recordDeadlineMiss deadline b).1 = unpolled deadline w.anchorNs b ∧
      (w.recordDeadlineMiss deadline b).2.anchorNs = w.anchorNs ∧
      (w.recordDeadlineMiss deadline b).2.totalCount =
        w.totalCount + unpolled deadline w.anchorNs b := by
  have positive := unpolled_nonneg deadline w.anchorNs b
  have missed : missedDeadlinePeriods deadline w.anchorNs b = unpolled deadline w.anchorNs b := by
    rw [missedDeadlinePeriods_eq]
    exact min_eq_left (by omega)
  unfold DeadlineWatch.recordDeadlineMiss
  rw [missed]
  dsimp only
  split
  case isTrue none_ =>
    refine ⟨by omega, rfl, ?_⟩
    change w.totalCount = _
    omega
  case isFalse => exact ⟨rfl, rfl, min_eq_left fits⟩

/-- The anchor goes on by the periods that have been counted, no further than the present. -/
theorem advanceDeadlineAnchorAfterMiss_eq (counts : DeadlineRuns deadline a) :
    (advanceDeadlineAnchorAfterMiss deadline (unpolled deadline a b) a b).toInt =
      a.toInt + unpolled deadline a b * (qosDurationNs deadline).toInt := by
  obtain ⟨positive, started⟩ := counts
  unfold advanceDeadlineAnchorAfterMiss
  dsimp only
  by_cases late : (qosDurationNs deadline).toInt < b.toInt - a.toInt
  · have missed : unpolled deadline a b =
        (b.toInt - a.toInt) / (qosDurationNs deadline).toInt := if_pos ⟨⟨positive, started⟩, late⟩
    have some_ : 0 < unpolled deadline a b := by
      rw [missed]
      exact (Int.le_ediv_iff_mul_le positive).mpr (by omega)
    have le := Int.ediv_mul_le (b.toInt - a.toInt) positive.ne'
    rw [← missed] at le
    have bound : unpolled deadline a b ≤ int64Max / (qosDurationNs deadline).toInt := by
      rw [missed]
      apply Int.ediv_le_ediv positive
      have := b.toInt_lt
      unfold int64Max
      omega
    have ahead : 0 ≤ unpolled deadline a b * (qosDurationNs deadline).toInt :=
      Int.mul_nonneg some_.le positive.le
    rw [if_neg (by omega), if_neg (by omega), min_eq_left bound, if_neg (by omega),
      min_eq_left (by omega)]
    apply Int64.toInt_ofInt_of_le
    · have := a.le_toInt
      omega
    · have := b.toInt_lt
      omega
  · have none_ : unpolled deadline a b = 0 := if_neg fun both => late both.2
    rw [none_, if_pos (.inr (le_refl _))]
    omega

theorem step_poll (counts : DeadlineRuns deadline w.anchorNs)
    (fits : w.totalCount + unpolled deadline w.anchorNs b ≤ int32Max)
    (nonneg : 0 ≤ w.totalCount) :
    (w.step deadline (.poll b)).totalCount = w.totalCount + unpolled deadline w.anchorNs b ∧
      (w.step deadline (.poll b)).anchorNs.toInt = w.anchorNs.toInt +
        unpolled deadline w.anchorNs b * (qosDurationNs deadline).toInt := by
  obtain ⟨missed, anchor, total⟩ := recordDeadlineMiss_eq fits nonneg
  have enabled : qosDeadlineEnabled deadline = true := decide_eq_true counts.1
  have looks : ¬(w.anchorNs.toInt ≤ 0 ∨ (!qosDeadlineEnabled deadline) = true) := by
    rw [enabled]
    simpa using counts.2
  simp only [DeadlineWatch.step, if_neg looks, anchor, total, missed, true_and]
  exact advanceDeadlineAnchorAfterMiss_eq counts

theorem step_poll_off (off : ¬DeadlineRuns deadline w.anchorNs) : w.step deadline (.poll b) = w := by
  apply if_pos
  by_cases started : w.anchorNs.toInt ≤ 0
  · exact .inl started
  · have disabled : ¬(qosDurationNs deadline).toInt > 0 := fun positive =>
      off ⟨positive, by omega⟩
    exact .inr (by simpa [qosDeadlineEnabled] using disabled)

variable (deadline) in
theorem step_sample (fits : w.totalCount + unpolled deadline w.anchorNs b ≤ int32Max)
    (nonneg : 0 ≤ w.totalCount) :
    (w.step deadline (.sample b)).totalCount = w.totalCount + unpolled deadline w.anchorNs b ∧
      (w.step deadline (.sample b)).anchorNs = b :=
  ⟨(recordDeadlineMiss_eq fits nonneg).2.2, rfl⟩

/-! ## Between two samples -/

/-- Where the monitor stands between the sample at `a` and the time `p`: it has counted some whole
    periods, and where it has counted any, more than one period had passed. -/
structure Polled (deadline : RmwTime) (base : Int) (a p : Int64) (m : Int) (w : DeadlineWatch) :
    Prop where
  nonneg : 0 ≤ m
  total : w.totalCount = base + m
  anchor : w.anchorNs.toInt = a.toInt + m * (qosDurationNs deadline).toInt
  behind : m * (qosDurationNs deadline).toInt ≤ p.toInt - a.toInt
  late : m ≠ 0 → (qosDurationNs deadline).toInt < p.toInt - a.toInt
  single : m = 1 → (qosDurationNs deadline).toInt ≠ 1

/-- Where nothing is counted, nothing changes. -/
def WatchTracks (deadline : RmwTime) (base : Int) (a p : Int64) (w : DeadlineWatch) : Prop :=
  if DeadlineRuns deadline a then ∃ m, Polled deadline base a p m w
  else ¬DeadlineRuns deadline w.anchorNs ∧ w.totalCount = base

theorem tracks_self (anchor : w.anchorNs = a) (total : w.totalCount = base) :
    WatchTracks deadline base a a w := by
  unfold WatchTracks
  split
  case isTrue counts =>
    refine ⟨0, le_refl _, by omega, by rw [anchor]; omega, by omega, ?_, ?_⟩
    · intro some_
      exact absurd rfl some_
    · intro one
      cases one
  case isFalse off => exact ⟨anchor ▸ off, total⟩

/-- The periods from a sample on are those that have been counted and those from the anchor on. -/
theorem Polled.periods {p : Int64} {m : Int} (polled : Polled deadline base a p m w)
    (positive : 0 < (qosDurationNs deadline).toInt) (b : Int64) :
    (b.toInt - a.toInt) / (qosDurationNs deadline).toInt =
      m + (b.toInt - w.anchorNs.toInt) / (qosDurationNs deadline).toInt := by
  have anchor := polled.anchor
  rw [show b.toInt - a.toInt =
    (b.toInt - w.anchorNs.toInt) + m * (qosDurationNs deadline).toInt by omega,
    Int.add_mul_ediv_right _ _ positive.ne', Int.add_comm]

theorem Polled.poll {p p' : Int64} {m : Int} (polled : Polled deadline base a p m w)
    (counts : DeadlineRuns deadline a) (later : p.toInt ≤ p'.toInt) (nonneg : 0 ≤ base)
    (fits : base + wholePeriods deadline a p' ≤ int32Max) :
    ∃ m', Polled deadline base a p' m' (w.step deadline (.poll p')) := by
  obtain ⟨positive, started⟩ := counts
  have nonnegM := polled.nonneg
  have behind := polled.behind
  have anchor := polled.anchor
  have ahead : 0 ≤ m * (qosDurationNs deadline).toInt := Int.mul_nonneg nonnegM positive.le
  have countsHere : DeadlineRuns deadline w.anchorNs := ⟨positive, by omega⟩
  have periods := polled.periods positive p'
  rw [wholePeriods, if_pos ⟨positive, started⟩] at fits
  have missed := unpolled_nonneg deadline w.anchorNs p'
  have missed_le := unpolled_le deadline (a := w.anchorNs) (b := p') (by omega)
  rw [wholePeriods, if_pos countsHere] at missed_le
  obtain ⟨total, anchor'⟩ := step_poll (b := p') countsHere (by rw [polled.total]; omega)
    (by rw [polled.total]; omega)
  refine ⟨m + unpolled deadline w.anchorNs p', by omega, by rw [total, polled.total]; omega,
    by rw [anchor', anchor, Int.add_mul]; omega, ?_, ?_, ?_⟩
  · -- What is counted now lies between the anchor and the present.
    have le := Int.ediv_mul_le (p'.toInt - w.anchorNs.toInt) positive.ne'
    have := Int.mul_le_mul_of_nonneg_right missed_le positive.le
    rw [Int.add_mul]
    omega
  · intro some_
    by_cases before : m = 0
    · by_contra early
      rw [before, Int.zero_mul, Int.add_zero] at anchor
      have none_ : unpolled deadline w.anchorNs p' = 0 := if_neg fun both => early (by omega)
      omega
    · have := polled.late before
      omega
  · intro one unit
    by_cases before : m = 1
    · exact polled.single before unit
    · have here : m = 0 ∧ unpolled deadline w.anchorNs p' = 1 := by omega
      unfold unpolled at here
      rw [unit] at here
      split at here
      case isTrue late =>
        rw [Int.ediv_one] at here
        omega
      case isFalse => omega

/-- What the monitor has counted and what the next sample counts are all the misses of the gap. -/
theorem Polled.unpolled {p b : Int64} {m : Int} (polled : Polled deadline base a p m w)
    (counts : DeadlineRuns deadline a) (later : p.toInt ≤ b.toInt)
    (apart : ¬WholePeriodsApart deadline a b) :
    m + unpolled deadline w.anchorNs b = unpolled deadline a b := by
  obtain ⟨positive, started⟩ := counts
  have nonnegM := polled.nonneg
  have anchor := polled.anchor
  have behind := polled.behind
  have ahead : 0 ≤ m * (qosDurationNs deadline).toInt := Int.mul_nonneg nonnegM positive.le
  have periods := polled.periods positive b
  have countsHere : DeadlineRuns deadline w.anchorNs := ⟨positive, by omega⟩
  unfold Rmw.unpolled
  by_cases early : b.toInt - a.toInt ≤ (qosDurationNs deadline).toInt
  · have none_ : m = 0 := by
      by_contra some_
      have := polled.late some_
      omega
    rw [none_, Int.zero_mul, Int.add_zero] at anchor
    rw [if_neg (by omega), if_neg (by omega), none_]
    rfl
  · rw [if_pos (c := DeadlineRuns deadline a ∧ _) ⟨⟨positive, started⟩, by omega⟩, periods]
    split
    case isTrue => rfl
    case isFalse late =>
      -- No more than a period is left, and if it were a whole one, so would be the gap.
      have left : b.toInt - w.anchorNs.toInt ≤ (qosDurationNs deadline).toInt := by
        by_contra more
        exact late ⟨countsHere, by omega⟩
      have less : b.toInt - w.anchorNs.toInt < (qosDurationNs deadline).toInt := by
        by_contra whole
        have same : b.toInt - a.toInt =
            (qosDurationNs deadline).toInt * (m + 1) := by
          rw [Int.mul_add, Int.mul_comm]
          omega
        apply apart
        refine ⟨⟨positive, started⟩, ⟨m + 1, same⟩, ?_⟩
        by_contra short
        have unit : m * (qosDurationNs deadline).toInt = 1 := by omega
        have one := Int.eq_one_of_mul_eq_one_right nonnegM unit
        rw [one, Int.one_mul] at unit
        exact polled.single one unit
      rw [Int.ediv_eq_zero_of_lt (by omega) less]

theorem WatchTracks.poll {p p' : Int64} (tracks : WatchTracks deadline base a p w)
    (later : p.toInt ≤ p'.toInt) (nonneg : 0 ≤ base)
    (fits : base + wholePeriods deadline a p' ≤ int32Max) :
    WatchTracks deadline base a p' (w.step deadline (.poll p')) := by
  unfold WatchTracks at tracks ⊢
  split at tracks
  case isTrue counts =>
    obtain ⟨m, polled⟩ := tracks
    rw [if_pos counts]
    exact polled.poll counts later nonneg fits
  case isFalse off =>
    rw [if_neg off, step_poll_off tracks.1]
    exact tracks

/-- The polls in between change what is counted of a gap only where it is a whole number of
    periods. -/
theorem WatchTracks.sample {p b : Int64} (tracks : WatchTracks deadline base a p w)
    (later : p.toInt ≤ b.toInt) (nonneg : 0 ≤ base)
    (fits : base + wholePeriods deadline a b ≤ int32Max)
    (apart : ¬WholePeriodsApart deadline a b) (ordered : a.toInt ≤ b.toInt) :
    WatchTracks deadline (base + unpolled deadline a b) b b (w.step deadline (.sample b)) := by
  have le := unpolled_le deadline ordered
  unfold WatchTracks at tracks
  split at tracks
  case isTrue counts =>
    obtain ⟨m, polled⟩ := tracks
    obtain ⟨positive, started⟩ := counts
    have nonnegM := polled.nonneg
    have behind := polled.behind
    have anchor := polled.anchor
    have ahead : 0 ≤ m * (qosDurationNs deadline).toInt := Int.mul_nonneg nonnegM positive.le
    have countsHere : DeadlineRuns deadline w.anchorNs := ⟨positive, by omega⟩
    have periods := polled.periods positive b
    have missed_le := unpolled_le deadline (a := w.anchorNs) (b := b) (by omega)
    rw [wholePeriods, if_pos countsHere] at missed_le
    rw [wholePeriods, if_pos ⟨positive, started⟩] at fits le
    obtain ⟨total, anchor'⟩ := step_sample deadline (w := w) (b := b)
      (by rw [polled.total]; omega) (by rw [polled.total]; omega)
    apply tracks_self anchor'
    rw [total, polled.total, Int.add_assoc, polled.unpolled ⟨positive, started⟩ later apart]
  case isFalse off =>
    obtain ⟨off', total⟩ := tracks
    have none_ : unpolled deadline w.anchorNs b = 0 := if_neg fun both => off' both.1
    have none' : unpolled deadline a b = 0 := if_neg fun both => off both.1
    obtain ⟨total', anchor⟩ := step_sample deadline (w := w) (b := b)
      (by rw [wholePeriods, if_neg off] at fits; omega) (by omega)
    apply tracks_self anchor
    rw [total', total, none_, none']

theorem WatchTracks.total_self (tracks : WatchTracks deadline base a a w) : w.totalCount = base := by
  unfold WatchTracks at tracks
  split at tracks
  case isTrue counts =>
    obtain ⟨m, polled⟩ := tracks
    have none_ : m = 0 := by
      by_contra some_
      have late := polled.late some_
      have := counts.1
      omega
    rw [polled.total, none_, Int.add_zero]
  case isFalse => exact tracks.2

/-! ## Whole schedules -/

theorem wholePeriods_nonneg (ordered : a.toInt ≤ b.toInt) : 0 ≤ wholePeriods deadline a b :=
  (unpolled_nonneg deadline a b).trans (unpolled_le deadline ordered)

variable (deadline) in
theorem wholePeriods_mono {p : Int64} (le : p.toInt ≤ b.toInt) :
    wholePeriods deadline a p ≤ wholePeriods deadline a b := by
  unfold wholePeriods
  split
  case isTrue counts => exact Int.ediv_le_ediv counts.1 (by omega)
  case isFalse => exact le_refl _

variable {times : List Int64} {es : List DeadlineEvent} {p : Int64}

variable (deadline) in
theorem totalPeriods_nonneg (ordered : times.Pairwise fun a b => a.toInt ≤ b.toInt) :
    0 ≤ totalPeriods deadline times := by
  induction times with
  | nil => exact le_refl 0
  | cons a times ih =>
      cases times with
      | nil => exact le_refl 0
      | cons b times =>
          obtain ⟨first, later⟩ := List.pairwise_cons.mp ordered
          exact Int.add_nonneg (wholePeriods_nonneg (first b List.mem_cons_self)) (ih later)

variable (deadline) in
theorem totalUnpolled_le (ordered : times.Pairwise fun a b => a.toInt ≤ b.toInt) :
    totalUnpolled deadline times ≤ totalPeriods deadline times := by
  induction times with
  | nil => exact le_refl 0
  | cons a times ih =>
      cases times with
      | nil => exact le_refl 0
      | cons b times =>
          obtain ⟨first, later⟩ := List.pairwise_cons.mp ordered
          exact Int.add_le_add (unpolled_le deadline (first b List.mem_cons_self)) (ih later)

variable (deadline times) in
theorem totalUnpolled_nonneg : 0 ≤ totalUnpolled deadline times := by
  induction times with
  | nil => exact le_refl 0
  | cons a times ih =>
      cases times with
      | nil => exact le_refl 0
      | cons b times => exact Int.add_nonneg (unpolled_nonneg deadline a b) ih

theorem totalUnpolled_append {front back : List Int64} :
    totalUnpolled deadline (front ++ a :: back) =
      totalUnpolled deadline (front ++ [a]) + totalUnpolled deadline (a :: back) := by
  induction front with
  | nil => exact (Int.zero_add _).symm
  | cons x front ih =>
      cases front with
      | nil => exact (congrArg (· + _) (Int.add_zero _)).symm
      | cons y front =>
          change unpolled deadline x y + totalUnpolled deadline ((y :: front) ++ a :: back) =
            unpolled deadline x y + totalUnpolled deadline ((y :: front) ++ [a]) + _
          rw [ih, Int.add_assoc]

theorem mem_sampleTimes (sample : a ∈ sampleTimes es) : DeadlineEvent.sample a ∈ es := by
  obtain ⟨e, among, isSample⟩ := List.mem_filterMap.mp sample
  cases e with
  | poll _ => cases isSample
  | sample nowNs =>
      obtain rfl := Option.some.inj isSample
      exact among

theorem sampleTimes_ordered (ordered : es.Pairwise fun e e' => e.nowNs.toInt ≤ e'.nowNs.toInt) :
    (sampleTimes es).Pairwise fun a b => a.toInt ≤ b.toInt := by
  induction es with
  | nil => exact .nil
  | cons e es ih =>
      obtain ⟨first, later⟩ := List.pairwise_cons.mp ordered
      cases e with
      | poll _ => exact ih later
      | sample nowNs =>
          exact List.pairwise_cons.mpr ⟨fun b among => first _ (mem_sampleTimes among), ih later⟩

/-- Whatever the polls, the misses are those that are counted without any. -/
theorem WatchTracks.run (tracks : WatchTracks deadline base a p w) (nonneg : 0 ≤ base)
    (schedule : IsSchedule times es) (behind : a.toInt ≤ p.toInt)
    (later : ∀ e ∈ es, p.toInt ≤ e.nowNs.toInt)
    (fits : base + totalPeriods deadline (a :: times) ≤ int32Max)
    (apart : (a :: times).IsChain fun a b => ¬WholePeriodsApart deadline a b) :
    (w.runEvents deadline es).totalCount = base + totalUnpolled deadline (a :: times) := by
  induction es generalizing times base a p w with
  | nil =>
      obtain ⟨front, nowNs, ends⟩ := schedule.last
      exact absurd ends.symm (List.append_ne_nil_of_right_ne_nil _ (List.cons_ne_nil _ _))
  | cons e es ih =>
      obtain ⟨samples, orderedAll, front, last, ends⟩ := schedule
      obtain ⟨first, ordered⟩ := List.pairwise_cons.mp orderedAll
      have le := later e List.mem_cons_self
      cases e with
      | poll p' =>
          obtain ⟨front, rfl⟩ : ∃ front', front = .poll p' :: front' := by
            cases front with
            | nil => cases ends
            | cons x front =>
                obtain ⟨rfl, -⟩ := List.cons.inj ends
                exact ⟨front, rfl⟩
          have ends' : es = front ++ [.sample last] := (List.cons.inj ends).2
          have samples' : sampleTimes es = times := samples
          have schedule' : IsSchedule times es := ⟨samples', ordered, front, last, ends'⟩
          -- The next sample bounds what this poll may count.
          cases times with
          | nil =>
              have among : last ∈ sampleTimes es := List.mem_filterMap.mpr
                ⟨.sample last, ends' ▸ List.mem_append_right _ List.mem_cons_self, rfl⟩
              rw [samples'] at among
              cases among
          | cons b times =>
              have next : p'.toInt ≤ b.toInt :=
                first _ (mem_sampleTimes (samples'.symm ▸ List.mem_cons_self))
              have rest := totalPeriods_nonneg deadline
                (samples'.symm ▸ sampleTimes_ordered ordered : (b :: times).Pairwise _)
              have most := wholePeriods_mono deadline (a := a) next
              have fitsPoll : base + wholePeriods deadline a p' ≤ int32Max := by
                change base + (wholePeriods deadline a b + totalPeriods deadline (b :: times)) ≤ _
                  at fits
                omega
              exact ih (tracks.poll le nonneg fitsPoll) nonneg schedule' (behind.trans le) first
                fits apart
      | sample b =>
          obtain ⟨times, rfl⟩ : ∃ times', times = b :: times' := ⟨sampleTimes es, samples.symm⟩
          have samples' : sampleTimes es = times := (List.cons.inj samples).2
          obtain ⟨now, apart⟩ := List.isChain_cons_cons.mp apart
          have rest := totalPeriods_nonneg deadline
            (sampleTimes_ordered orderedAll)
          rw [samples] at rest
          change p.toInt ≤ b.toInt at le
          change base + (wholePeriods deadline a b + totalPeriods deadline (b :: times)) ≤ _ at fits
          have counted := unpolled_le deadline (behind.trans le)
          have sampled := tracks.sample le nonneg (by omega) now (behind.trans le)
          change ((w.step deadline (.sample b)).runEvents deadline es).totalCount =
            base + (unpolled deadline a b + totalUnpolled deadline (b :: times))
          rw [← Int.add_assoc]
          by_cases done : es = []
          · subst done
            subst samples'
            change (w.step deadline (.sample b)).totalCount = _ + 0
            rw [sampled.total_self, Int.add_zero]
          · obtain ⟨front', ends'⟩ : ∃ front', es = front' ++ [.sample last] := by
              cases front with
              | nil => exact absurd (List.cons.inj ends).2 done
              | cons x front => exact ⟨front, (List.cons.inj ends).2⟩
            exact ih sampled (Int.add_nonneg nonneg (unpolled_nonneg deadline a b))
              ⟨samples', ordered, front', last, ends'⟩ (le_refl _) first (by omega) apart

/-! ## Schedules that differ -/

variable (deadline times) in
theorem run_samples (nonneg : 0 ≤ w.totalCount)
    (fits : w.totalCount + totalUnpolled deadline (w.anchorNs :: times) ≤ int32Max) :
    (w.runEvents deadline (times.map .sample)).totalCount =
      w.totalCount + totalUnpolled deadline (w.anchorNs :: times) := by
  induction times generalizing w with
  | nil => exact (Int.add_zero _).symm
  | cons b times ih =>
      have first := unpolled_nonneg deadline w.anchorNs b
      have rest := totalUnpolled_nonneg deadline (b :: times)
      change w.totalCount + (unpolled deadline w.anchorNs b + totalUnpolled deadline (b :: times)) ≤ _
        at fits
      obtain ⟨total, anchor⟩ := step_sample deadline (b := b) (by omega) nonneg
      change ((w.step deadline (.sample b)).runEvents deadline (times.map .sample)).totalCount =
        w.totalCount + (unpolled deadline w.anchorNs b + totalUnpolled deadline (b :: times))
      rw [ih (by rw [total]; omega) (by rw [total, anchor]; omega), total, anchor, Int.add_assoc]

theorem sampleTimes_map : sampleTimes (times.map .sample) = times := by
  induction times with
  | nil => rfl
  | cons b times ih => exact congrArg (b :: ·) ih

theorem sampleTimes_append {front back : List DeadlineEvent} :
    sampleTimes (front ++ back) = sampleTimes front ++ sampleTimes back :=
  List.filterMap_append

theorem ends_with_sample (some_ : times ≠ []) (front : List DeadlineEvent) :
    ∃ front' nowNs, front ++ times.map .sample = front' ++ [.sample nowNs] := by
  obtain ⟨init, last, rfl⟩ : ∃ init last, times = init ++ [last] := by
    refine ⟨times.dropLast, times.getLast some_, ?_⟩
    rw [List.dropLast_concat_getLast]
  refine ⟨front ++ init.map .sample, last, ?_⟩
  rw [List.map_append, List.append_assoc]
  rfl

/-- A poll behind the last whole period but one leaves just one period to the next sample, which is
    not counted. -/
theorem poll_takes_one (apart : WholePeriodsApart deadline w.anchorNs b) (nonneg : 0 ≤ w.totalCount)
    (fits : w.totalCount + unpolled deadline w.anchorNs b ≤ int32Max) :
    ∃ p : Int64, w.anchorNs.toInt ≤ p.toInt ∧ p.toInt ≤ b.toInt ∧
      0 ≤ ((w.step deadline (.poll p)).step deadline (.sample b)).totalCount ∧
      ((w.step deadline (.poll p)).step deadline (.sample b)).totalCount + 1 =
        (w.step deadline (.sample b)).totalCount ∧
      ((w.step deadline (.poll p)).step deadline (.sample b)).anchorNs = b := by
  obtain ⟨counts, ⟨k, whole⟩, more⟩ := apart
  have positive := counts.1
  have started := counts.2
  have many : 2 ≤ k := by
    by_contra few
    have le := Int.mul_le_mul_of_nonneg_left (show k ≤ 1 by omega) positive.le
    rw [Int.mul_one] at le
    omega
  have shape : (qosDurationNs deadline).toInt * k =
      (qosDurationNs deadline).toInt * (k - 1) + (qosDurationNs deadline).toInt := by
    rw [Int.mul_sub, Int.mul_one]
    omega
  have one_le : (qosDurationNs deadline).toInt * 1 ≤ (qosDurationNs deadline).toInt * (k - 1) :=
    Int.mul_le_mul_of_nonneg_left (by omega) positive.le
  -- The poll comes after the period before the last one and, if it is the first, a bit later.
  let time := max (b.toInt - (qosDurationNs deadline).toInt)
    (w.anchorNs.toInt + (qosDurationNs deadline).toInt + 1)
  have time_lt : time < b.toInt := by omega
  have time_gt : w.anchorNs.toInt + (qosDurationNs deadline).toInt < time := by omega
  have upper := b.toInt_lt
  have lower := w.anchorNs.le_toInt
  have isTime : (Int64.ofInt time).toInt = time := Int64.toInt_ofInt_of_le (by omega) (by omega)
  have unpolledAll : unpolled deadline w.anchorNs b = k := by
    unfold unpolled
    rw [if_pos ⟨counts, by omega⟩, whole, Int.mul_ediv_cancel_left _ positive.ne']
  have unpolledTime : unpolled deadline w.anchorNs (Int64.ofInt time) = k - 1 := by
    unfold unpolled
    rw [isTime, if_pos ⟨counts, by omega⟩]
    apply Int.le_antisymm
    · apply Int.le_sub_one_of_lt
      apply (Int.ediv_lt_iff_lt_mul positive).mpr
      rw [Int.mul_comm]
      omega
    · apply (Int.le_ediv_iff_mul_le positive).mpr
      rw [Int.mul_comm]
      omega
  obtain ⟨total, anchor⟩ := step_poll (b := Int64.ofInt time) counts
    (by rw [unpolledTime]; omega) nonneg
  rw [unpolledTime] at total anchor
  rw [Int.mul_comm] at anchor
  have none_ : unpolled deadline (w.step deadline (.poll (Int64.ofInt time))).anchorNs b = 0 := by
    unfold unpolled
    rw [if_neg]
    rintro ⟨-, late⟩
    omega
  obtain ⟨total', anchor'⟩ := step_sample deadline
    (w := w.step deadline (.poll (Int64.ofInt time))) (b := b)
    (by rw [none_, total]; omega) (by rw [total]; omega)
  obtain ⟨direct, -⟩ := step_sample deadline fits nonneg
  refine ⟨Int64.ofInt time, by omega, by omega, ?_, ?_, anchor'⟩
  · rw [total', total, none_]
    omega
  · rw [total', total, none_, direct, unpolledAll]
    omega

theorem schedule_samples (ordered : times.Pairwise fun a b => a.toInt ≤ b.toInt) (some_ : times ≠ []) :
    IsSchedule times (times.map .sample) where
  samples := sampleTimes_map
  ordered := List.pairwise_map.mpr ordered
  last := ends_with_sample some_ []

theorem schedule_poll {front back : List Int64}
    (ordered : (front ++ a :: b :: back).Pairwise fun a b => a.toInt ≤ b.toInt)
    (after : a.toInt ≤ p.toInt) (before : p.toInt ≤ b.toInt) :
    IsSchedule (front ++ a :: b :: back)
      ((front ++ [a]).map .sample ++ .poll p :: (b :: back).map .sample) where
  samples := by
    rw [sampleTimes_append, sampleTimes_map]
    change (front ++ [a]) ++ sampleTimes ((b :: back).map .sample) = _
    rw [sampleTimes_map, List.append_assoc]
    rfl
  ordered := by
    have parts : front ++ a :: b :: back = (front ++ [a]) ++ b :: back := by
      rw [List.append_assoc]
      rfl
    rw [parts] at ordered
    obtain ⟨first, later, across⟩ := List.pairwise_append.mp ordered
    have last : ∀ x ∈ front ++ [a], x.toInt ≤ a.toInt := by
      intro x among
      rcases List.mem_append.mp among with inFront | isA
      · exact (List.pairwise_append.mp first).2.2 x inFront a (List.mem_singleton_self a)
      · rw [List.mem_singleton.mp isA]
    have next : ∀ y ∈ b :: back, b.toInt ≤ y.toInt := by
      intro y among
      rcases List.mem_cons.mp among with rfl | inBack
      · exact le_refl _
      · exact (List.pairwise_cons.mp later).1 y inBack
    apply List.pairwise_append.mpr
    refine ⟨List.pairwise_map.mpr first, List.pairwise_cons.mpr ⟨?_, List.pairwise_map.mpr later⟩, ?_⟩
    · intro e among
      obtain ⟨y, inBack, rfl⟩ := List.mem_map.mp among
      exact before.trans (next y inBack)
    · intro e among e' among'
      obtain ⟨x, inFront, rfl⟩ := List.mem_map.mp among
      rcases List.mem_cons.mp among' with rfl | later
      · exact (last x inFront).trans after
      · obtain ⟨y, inBack, rfl⟩ := List.mem_map.mp later
        exact across x inFront y inBack
  last := by
    obtain ⟨front', nowNs, ends⟩ := ends_with_sample (List.cons_ne_nil b back)
      ((front ++ [a]).map .sample ++ [.poll p])
    refine ⟨front', nowNs, ?_⟩
    rw [← ends, List.append_assoc]
    rfl

variable (deadline times) in
theorem totalUnpolled_idle (off : ¬DeadlineRuns deadline a) :
    totalUnpolled deadline (a :: times) = totalUnpolled deadline times := by
  cases times with
  | nil => rfl
  | cons b times =>
      have none_ : unpolled deadline a b = 0 := if_neg fun both => off both.1
      change unpolled deadline a b + _ = _
      rw [none_, Int.zero_add]

/-- Two schedules of polls, none at all and one in a gap of whole periods, differ by a miss. -/
theorem schedules_differ {front back : List Int64}
    (ordered : (front ++ a :: b :: back).Pairwise fun a b => a.toInt ≤ b.toInt)
    (fits : totalPeriods deadline (front ++ a :: b :: back) ≤ int32Max)
    (apart : WholePeriodsApart deadline a b) :
    ∃ es es', IsSchedule (front ++ a :: b :: back) es ∧ IsSchedule (front ++ a :: b :: back) es' ∧
      (DeadlineWatch.runEvents deadline {} es).totalCount ≠
        (DeadlineWatch.runEvents deadline {} es').totalCount := by
  have parts : front ++ a :: b :: back = (front ++ [a]) ++ b :: back := by
    rw [List.append_assoc]
    rfl
  -- Up to the sample at `a` both schedules are the same.
  let w : DeadlineWatch := DeadlineWatch.runEvents deadline {} ((front ++ [a]).map .sample)
  have anchor : w.anchorNs = a := by
    change (DeadlineWatch.runEvents deadline {} ((front ++ [a]).map .sample)).anchorNs = a
    rw [List.map_append, DeadlineWatch.runEvents, List.foldl_append]
    rfl
  have counted : totalUnpolled deadline (front ++ a :: b :: back) = _ := totalUnpolled_append
  have all_le := (totalUnpolled_le deadline ordered).trans fits
  have front_nonneg := totalUnpolled_nonneg deadline (front ++ [a])
  have back_nonneg := totalUnpolled_nonneg deadline (b :: back)
  have gap_nonneg := unpolled_nonneg deadline a b
  change totalUnpolled deadline (front ++ a :: b :: back) =
    totalUnpolled deadline (front ++ [a]) +
      (unpolled deadline a b + totalUnpolled deadline (b :: back)) at counted
  have total : w.totalCount = totalUnpolled deadline (front ++ [a]) := by
    have started := totalUnpolled_idle deadline (front ++ [a]) (a := 0)
      (fun counts => absurd counts.2 (by decide))
    have runs := run_samples deadline (front ++ [a]) (w := {})
      (le_refl (0 : Int)) (by
        change 0 + totalUnpolled deadline (0 :: (front ++ [a])) ≤ _
        rw [started]
        omega)
    change w.totalCount = 0 + totalUnpolled deadline (0 :: (front ++ [a])) at runs
    rw [runs, started, Int.zero_add]
  have fitsGap : w.totalCount + unpolled deadline w.anchorNs b ≤ int32Max := by
    rw [anchor, total]
    omega
  obtain ⟨p, after, before, nonneg₂, less, anchor₂⟩ := poll_takes_one (anchor.symm ▸ apart)
    (total ▸ front_nonneg) fitsGap
  obtain ⟨total₁, anchor₁⟩ := step_sample deadline (b := b) fitsGap (total ▸ front_nonneg)
  rw [anchor, total] at total₁
  rw [anchor] at after
  refine ⟨_, _, schedule_samples ordered (List.append_ne_nil_of_right_ne_nil _
    (List.cons_ne_nil _ _)), schedule_poll ordered after before, ?_⟩
  have direct : (DeadlineWatch.runEvents deadline {}
      ((front ++ a :: b :: back).map .sample)).totalCount =
      (w.step deadline (.sample b)).totalCount + totalUnpolled deadline (b :: back) := by
    rw [parts, List.map_append, DeadlineWatch.runEvents, List.foldl_append]
    have runs := run_samples deadline back (w := w.step deadline (.sample b))
      (by omega) (by rw [anchor₁]; omega)
    rwa [anchor₁] at runs
  have polled : (DeadlineWatch.runEvents deadline {}
      ((front ++ [a]).map .sample ++ .poll p :: (b :: back).map .sample)).totalCount =
      ((w.step deadline (.poll p)).step deadline (.sample b)).totalCount +
        totalUnpolled deadline (b :: back) := by
    rw [DeadlineWatch.runEvents, List.foldl_append]
    have runs := run_samples deadline back
      (w := (w.step deadline (.poll p)).step deadline (.sample b))
      nonneg₂ (by rw [anchor₂]; omega)
    rwa [anchor₂] at runs
  rw [direct, polled]
  omega

theorem isChain_of_splits {α : Type*} {R : α → α → Prop} {l : List α}
    (each : ∀ front a b back, l = front ++ a :: b :: back → R a b) : l.IsChain R := by
  induction l with
  | nil => exact .nil
  | cons a l ih =>
      cases l with
      | nil => exact .singleton a
      | cons b l =>
          refine .cons_cons (each [] a b l rfl) (ih ?_)
          intro front x y back parts
          exact each (a :: front) x y back (by rw [parts, List.cons_append])

end

/-- How many misses have been counted with a sample depends on the polls in between exactly where
    two samples that follow one another are a whole number of periods apart, two or more (and more
    than two nanoseconds). -/
theorem deadline_misses_unpolled_iff (deadline : RmwTime) (times : List Int64)
    (ordered : times.Pairwise fun a b => a.toInt ≤ b.toInt)
    (fits : totalPeriods deadline times ≤ int32Max) :
    (∀ es es', IsSchedule times es → IsSchedule times es' →
      (DeadlineWatch.runEvents deadline {} es).totalCount =
        (DeadlineWatch.runEvents deadline {} es').totalCount) ↔
    times.IsChain fun a b => ¬WholePeriodsApart deadline a b := by
  constructor
  · intro same
    apply isChain_of_splits
    rintro front a b back rfl apart
    obtain ⟨es, es', schedule, schedule', differ⟩ := schedules_differ ordered fits apart
    exact differ (same es es' schedule schedule')
  · intro chain es es' schedule schedule'
    -- Before the first sample there is no anchor, as if the last one had been long ago.
    have idle : ¬DeadlineRuns deadline Int64.minValue := fun counts => absurd counts.2 (by decide)
    have starts : WatchTracks deadline 0 Int64.minValue Int64.minValue {} := by
      unfold WatchTracks
      rw [if_neg idle]
      exact ⟨fun counts => absurd counts.2 (by decide), rfl⟩
    have first : ∀ {es : List DeadlineEvent}, ∀ e ∈ es, Int64.minValue.toInt ≤ e.nowNs.toInt :=
      fun e _ => e.nowNs.le_toInt
    have fits' : 0 + totalPeriods deadline (Int64.minValue :: times) ≤ int32Max := by
      cases times with
      | nil =>
          change (0 : Int) ≤ int32Max
          decide
      | cons b times =>
          have none_ : wholePeriods deadline Int64.minValue b = 0 := if_neg idle
          change 0 + (wholePeriods deadline Int64.minValue b + totalPeriods deadline (b :: times)) ≤ _
          omega
    have chain' : (Int64.minValue :: times).IsChain fun a b => ¬WholePeriodsApart deadline a b := by
      cases times with
      | nil => exact .singleton _
      | cons b times => exact .cons_cons (fun apart => idle apart.1) chain
    rw [starts.run (le_refl 0) schedule (le_refl _) first fits' chain',
      starts.run (le_refl 0) schedule' (le_refl _) first fits' chain']

/-- Samples 25 ns apart with a period of 10 ns: two misses, whatever the polls. -/
theorem deadline_misses_unpolled_iff_uneven :
    let deadline : RmwTime := ⟨0, 10⟩
    let es : List DeadlineEvent := [.sample 1, .poll 12, .poll 20, .sample 26]
    (DeadlineWatch.runEvents deadline {} [.sample 1, .sample 26]).totalCount = 2 ∧
      (DeadlineWatch.runEvents deadline {} es).totalCount = 2 := by
  have same := (deadline_misses_unpolled_iff ⟨0, 10⟩ [1, 26] (by decide) (by decide)).mpr
    (.cons_cons (by unfold WholePeriodsApart; decide) (.singleton _))
  have direct : (DeadlineWatch.runEvents ⟨0, 10⟩ {} [.sample 1, .sample 26]).totalCount = 2 := by
    decide
  refine ⟨direct, ?_⟩
  rw [← direct]
  exact same _ _ ⟨rfl, by decide, [.sample 1, .poll 12, .poll 20], 26, rfl⟩
    ⟨rfl, by decide, [.sample 1], 26, rfl⟩

/-- Samples 20 ns apart with a period of 10 ns: two misses, or one with a poll after 19 ns. -/
theorem polled_gap_loses_one :
    let deadline : RmwTime := ⟨0, 10⟩
    IsSchedule [1, 21] [.sample 1, .sample 21] ∧ IsSchedule [1, 21] [.sample 1, .poll 20, .sample 21] ∧
      (DeadlineWatch.runEvents deadline {} [.sample 1, .sample 21]).totalCount = 2 ∧
      (DeadlineWatch.runEvents deadline {} [.sample 1, .poll 20, .sample 21]).totalCount = 1 :=
  ⟨⟨rfl, by decide, [.sample 1], 21, rfl⟩, ⟨rfl, by decide, [.sample 1, .poll 20], 21, rfl⟩,
    by decide, by decide⟩

end FleetRMW.Rmw
