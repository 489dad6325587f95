import Mathlib.Data.List.TakeWhile
import Mathlib.Order.Bounds.Basic
import FleetRMW.Lib.Intervals
import FleetRMW.Rmw.Acknowledgement

/-! # The gap report of a reader

A reader that has no baseline and has been told of no loss reports the numbers that it lacks as
they are, whatever the order in which the frames came.
-/

namespace FleetRMW.Rmw

open Lib

def SequenceRange.toNat (range : SequenceRange) : Nat × Nat := (range.1.toNat, range.2.toNat)

/-! ## The walk over the observed numbers -/

section
variable {highest next : UInt64} {observed : SequenceSet}

/-- What is missing from the next candidate on. -/
def MissingFrom (highest next : UInt64) (observed : SequenceSet) (n : Nat) : Prop :=
  next.toNat ≤ n ∧ n ≤ highest.toNat ∧ ∀ o ∈ observed, o.toNat ≠ n

theorem toNat_succ {n : UInt64} (notLargest : n ≠ maxSequence) : (n + 1).toNat = n.toNat + 1 := by
  have small : n.toNat ≠ 2 ^ 64 - 1 := fun same => notLargest (UInt64.toNat_inj.mp same)
  have := n.toNat_lt
  rw [UInt64.toNat_add]
  change (n.toNat + 1) % 2 ^ 64 = n.toNat + 1
  omega

theorem toNat_pred {n : UInt64} (positive : 0 < n) : (n - 1).toNat = n.toNat - 1 :=
  UInt64.toNat_sub_of_le n 1 (by grind)

theorem le_maxSequence (n : UInt64) : n.toNat ≤ maxSequence.toNat :=
  Nat.le_sub_one_of_lt n.toNat_lt

theorem missingRanges_reports (ascending : observed.Pairwise (· ≤ ·)) :
    Reports ((missingRanges highest next observed).map SequenceRange.toNat)
      (MissingFrom highest next observed) := by
  induction observed generalizing next with
  | nil =>
      unfold missingRanges
      split
      case isTrue le =>
        apply Reports.single (UInt64.le_iff_toNat_le.mp le)
        intro n
        exact ⟨fun missing => ⟨missing.1, missing.2.1⟩,
          fun inside => ⟨inside.1, inside.2, nofun⟩⟩
      case isFalse beyond =>
        apply Reports.nil
        intro n missing
        exact beyond (UInt64.le_iff_toNat_le.mpr (missing.1.trans missing.2.1))
  | cons o rest ih =>
      obtain ⟨above, ascending⟩ := List.pairwise_cons.mp ascending
      have others : ∀ n, (∀ p ∈ o :: rest, p.toNat ≠ n) ↔
          o.toNat ≠ n ∧ ∀ p ∈ rest, p.toNat ≠ n := fun n => List.forall_mem_cons
      unfold missingRanges
      by_cases within : o ≤ highest
      case neg =>
        -- The walk ends, since what follows is not looked for either.
        have beyond := Nat.not_le.mp (mt UInt64.le_iff_toNat_le.mpr within)
        have none_ : ∀ n, n ≤ highest.toNat → ∀ p ∈ o :: rest, p.toNat ≠ n := by
          intro n le p among
          have low : o.toNat ≤ p.toNat := by
            cases among with
            | head => exact le_refl _
            | tail _ later => exact UInt64.le_iff_toNat_le.mp (above p later)
          omega
        rw [if_neg within]
        split
        case isTrue le =>
          apply Reports.single (UInt64.le_iff_toNat_le.mp le)
          intro n
          exact ⟨fun missing => ⟨missing.1, missing.2.1⟩,
            fun inside => ⟨inside.1, inside.2, none_ n inside.2⟩⟩
        case isFalse none_left =>
          apply Reports.nil
          intro n missing
          exact none_left (UInt64.le_iff_toNat_le.mpr (missing.1.trans missing.2.1))
      rw [if_pos within]
      have o_le := UInt64.le_iff_toNat_le.mp within
      split
      case isTrue before =>
        have before := UInt64.lt_iff_toNat_lt.mp before
        apply (ih ascending).congr
        intro n
        unfold MissingFrom
        rw [others]
        constructor
        · intro missing
          exact ⟨missing.1, missing.2.1, by omega, missing.2.2⟩
        · intro missing
          exact ⟨missing.1, missing.2.1, missing.2.2.2⟩
      case isFalse notBefore =>
        have next_le : next.toNat ≤ o.toNat :=
          Nat.not_lt.mp (mt UInt64.lt_iff_toNat_lt.mpr notBefore)
        -- Behind `o`: the end of the numbers, or the walk from the number after it.
        have behind : Reports ((if o = maxSequence then []
              else missingRanges highest (o + 1) rest).map SequenceRange.toNat)
            fun n => o.toNat < n ∧ n ≤ highest.toNat ∧ ∀ p ∈ rest, p.toNat ≠ n := by
          split
          case isTrue last =>
            apply Reports.nil
            intro n missing
            have := le_maxSequence highest
            rw [last] at missing
            omega
          case isFalse notLast =>
            apply (ih ascending).congr
            intro n
            unfold MissingFrom
            rw [toNat_succ notLast]
            exact Iff.rfl
        by_cases gap : o > next
        · have gap_lt := UInt64.lt_iff_toNat_lt.mp gap
          have positive : 0 < o := UInt64.lt_iff_toNat_lt.mpr (Nat.zero_lt_of_lt gap_lt)
          rw [if_pos gap, List.map_append, List.map_singleton, List.singleton_append]
          change Reports ((next.toNat, (o - 1).toNat) :: _) _
          rw [toNat_pred positive]
          apply Reports.cons (m := o.toNat) (by omega) (by omega) behind
          · exact fun n missing => missing.1
          · intro n
            unfold MissingFrom
            rw [others]
            constructor
            · intro missing
              obtain ⟨low, high, notHere, notLater⟩ := missing
              by_cases less : n < o.toNat
              · exact .inl ⟨low, by omega⟩
              · exact .inr ⟨by omega, high, notLater⟩
            · intro missing
              cases missing with
              | inl inside =>
                  refine ⟨inside.1, by omega, by omega, ?_⟩
                  intro p among same
                  have := UInt64.le_iff_toNat_le.mp (above p among)
                  omega
              | inr later => exact ⟨by omega, later.2.1, by omega, later.2.2⟩
        · have here : next.toNat = o.toNat :=
            Nat.le_antisymm next_le (Nat.not_lt.mp (mt UInt64.lt_iff_toNat_lt.mpr gap))
          rw [if_neg gap, List.nil_append]
          apply behind.congr
          intro n
          unfold MissingFrom
          rw [others]
          constructor
          · intro missing
            exact ⟨by omega, missing.2.1, by omega, missing.2.2⟩
          · intro missing
            exact ⟨by omega, missing.2.1, missing.2.2.2⟩

/-- The elements before `lower_bound(next)` are not looked for from `next` on. -/
theorem missingFrom_lowerBound (n : Nat) :
    MissingFrom highest next (observed.lowerBound next) n ↔ MissingFrom highest next observed n := by
  unfold MissingFrom SequenceSet.lowerBound
  have parts := List.takeWhile_append_dropWhile (p := (· < next)) (l := observed)
  constructor
  · intro missing
    refine ⟨missing.1, missing.2.1, ?_⟩
    intro o among same
    rw [← parts] at among
    cases List.mem_append.mp among with
    | inl early =>
        have less : o < next := by simpa using List.mem_takeWhile_imp early
        have := UInt64.lt_iff_toNat_lt.mp less
        omega
    | inr late => exact missing.2.2 o late same
  · intro missing
    exact ⟨missing.1, missing.2.1, fun o among =>
      missing.2.2 o ((List.dropWhile_sublist _).subset among)⟩

end

/-! ## Runs of observations -/

/-- A frame with this number is among those observed. -/
def ObservedIn (frames : List DataFrame) (n : Nat) : Prop :=
  ∃ frame ∈ frames, frame.sourceSequenceNumber.toNat = n

/-- The state after observing the frames, from the default state. -/
def observeFrames (frames : List DataFrame) : SequenceState :=
  frames.foldl (fun s frame => (observeFrame s frame).2) {}

/-- The state knows what has been observed, and where its contiguous part ends. -/
structure SequenceState.Exact (s : SequenceState) (frames : List DataFrame) : Prop where
  ascending : s.observedSequences.Pairwise (· < ·)
  observed : ∀ n, n ∈ s.observedSequences ↔ ObservedIn frames n.toNat
  bounded : ∀ n ∈ s.observedSequences, n ≤ s.highestObservedSequence
  unset : frames = [] → s.highestObservedSequence = 0
  highest : frames ≠ [] → s.highestObservedSequence ∈ s.observedSequences
  filled : ∀ n, 0 < n → n ≤ s.highestContiguousSequence → n ∈ s.observedSequences
  stuck : s.highestContiguousSequence + 1 ∉ s.observedSequences

section
variable {frames : List DataFrame} {frame : DataFrame} {s : SequenceState}

theorem SequenceState.Exact.start : SequenceState.Exact {} [] where
  ascending := .nil
  observed n := by
    constructor
    · intro among
      cases among
    · intro observed
      obtain ⟨f, among, _⟩ := observed
      cases among
  bounded := nofun
  unset _ := rfl
  highest some_ := absurd rfl some_
  filled n positive small := by
    have := UInt64.lt_iff_toNat_lt.mp positive
    have := UInt64.le_iff_toNat_le.mp small
    change n.toNat ≤ 0 at this
    omega
  stuck := List.not_mem_nil

theorem stdMax_left (a b : UInt64) : a ≤ stdMax a b := by
  unfold stdMax
  grind

theorem stdMax_right (a b : UInt64) : b ≤ stdMax a b := by
  unfold stdMax
  grind

theorem stdMax_cases (a b : UInt64) : stdMax a b = a ∧ b ≤ a ∨ stdMax a b = b := by
  unfold stdMax
  grind

/-- Distinct positive numbers are fewer than all. -/
theorem length_lt_of_positive {observed : SequenceSet} (ascending : observed.Pairwise (· < ·))
    (positive : 0 ∉ observed) : observed.length < 2 ^ 64 := by
  have distinct : (0 :: observed).Nodup := by
    apply List.nodup_cons.mpr
    refine ⟨positive, ascending.imp ?_⟩
    intro a b less same
    have := UInt64.lt_iff_toNat_lt.mp less
    rw [same] at this
    omega
  have among : (0 :: observed).map UInt64.toNat ⊆ List.range (2 ^ 64) := by
    intro n isElement
    obtain ⟨m, _, rfl⟩ := List.mem_map.mp isElement
    exact List.mem_range.mpr m.toNat_lt
  have few := (List.subperm_of_subset
    (distinct.map fun _ _ => UInt64.toNat_inj.mp) among).length_le
  rw [List.length_map, List.length_range, List.length_cons] at few
  omega

theorem SequenceState.Exact.observeFrame (exact_ : s.Exact frames)
    (positive : ∀ f ∈ frames ++ [frame], 0 < f.sourceSequenceNumber) :
    (Rmw.observeFrame s frame).2.Exact (frames ++ [frame]) := by
  have observed : ∀ n, n ∈ s.observedSequences.insert frame.sourceSequenceNumber ↔
      ObservedIn (frames ++ [frame]) n.toNat := by
    intro n
    rw [SequenceSet.mem_insert, exact_.observed]
    constructor
    · intro known
      cases known with
      | inl new => exact ⟨frame, List.mem_append_right _ (List.mem_singleton_self _), by rw [new]⟩
      | inr old =>
          obtain ⟨f, among, same⟩ := old
          exact ⟨f, List.mem_append_left _ among, same⟩
    · intro known
      obtain ⟨f, among, same⟩ := known
      cases List.mem_append.mp among with
      | inl old => exact .inr ⟨f, old, same⟩
      | inr new =>
          rw [List.mem_singleton.mp new] at same
          exact .inl (UInt64.toNat_inj.mp same).symm
  have noZero : 0 ∉ s.observedSequences.insert frame.sourceSequenceNumber := by
    intro zero
    obtain ⟨f, among, same⟩ := (observed 0).mp zero
    have := UInt64.lt_iff_toNat_lt.mp (positive f among)
    rw [same] at this
    exact Nat.lt_irrefl _ this
  have ascending : (s.observedSequences.insert frame.sourceSequenceNumber).Pairwise (· < ·) :=
    SequenceSet.insert_ascending exact_.ascending
  have window : Window (· ∈ s.observedSequences.insert frame.sourceSequenceNumber) 0
      s.highestContiguousSequence := fun n above _ within =>
    SequenceSet.mem_insert.mpr (.inr (exact_.filled n above within))
  exact {
    ascending := ascending
    observed := observed
    bounded := by
      intro n among
      cases SequenceSet.mem_insert.mp among with
      | inl new =>
          rw [new]
          exact stdMax_right _ _
      | inr old =>
          exact UInt64.le_trans (exact_.bounded n old) (stdMax_left _ _)
    unset := fun none_ => absurd none_ (List.append_ne_nil_of_right_ne_nil _ (List.cons_ne_nil _ _))
    highest := by
      intro _
      apply SequenceSet.mem_insert.mpr
      cases stdMax_cases s.highestObservedSequence frame.sourceSequenceNumber with
      | inr new => exact .inl new
      | inl old =>
          obtain ⟨same, notNew⟩ := old
          by_cases first : frames = []
          · rw [exact_.unset first] at notNew
            have above := positive frame (List.mem_append_right _ (List.mem_singleton_self _))
            grind
          · right
            change stdMax _ _ ∈ _
            rw [same]
            exact exact_.highest first
    filled := by
      intro n above within
      exact window.advance (fun _ among => among) _ n above (UInt64.zero_le) within
    stuck := advance_stops (length_lt_of_positive ascending noZero) _ }

theorem observeFrames_exact (positive : ∀ f ∈ frames, 0 < f.sourceSequenceNumber) :
    (observeFrames frames).Exact frames := by
  induction frames using List.reverseRecOn with
  | nil => exact .start
  | append_singleton frames frame ih =>
      rw [observeFrames, List.foldl_append]
      exact (ih fun f among => positive f (List.mem_append_left _ among)).observeFrame positive

/-- The contiguous part ends at the last number up to which all have been observed. -/
theorem SequenceState.Exact.contiguous (exact_ : s.Exact frames) :
    IsGreatest {n | ∀ k, 1 ≤ k → k ≤ n → ObservedIn frames k}
      s.highestContiguousSequence.toNat := by
  constructor
  · intro k positive within
    have fits : k < 2 ^ 64 := within.trans_lt s.highestContiguousSequence.toNat_lt
    have same : (UInt64.ofNat k).toNat = k := UInt64.toNat_ofNat_of_lt' fits
    rw [← same]
    apply (exact_.observed _).mp
    apply exact_.filled
    · rw [UInt64.lt_iff_toNat_lt, same]
      exact positive
    · rw [UInt64.le_iff_toNat_le, same]
      exact within
  · intro n all
    by_contra beyond
    have next := all (s.highestContiguousSequence.toNat + 1) (by omega) (by omega)
    by_cases largest : s.highestContiguousSequence = maxSequence
    · obtain ⟨f, _, same⟩ := next
      have := f.sourceSequenceNumber.toNat_lt
      rw [largest] at same
      change f.sourceSequenceNumber.toNat = 2 ^ 64 - 1 + 1 at same
      omega
    · rw [← toNat_succ largest] at next
      exact exact_.stuck ((exact_.observed _).mpr next)

theorem SequenceState.Exact.greatest (exact_ : s.Exact frames) (some_ : frames ≠ []) :
    IsGreatest {n | ObservedIn frames n} s.highestObservedSequence.toNat := by
  constructor
  · exact (exact_.observed _).mp (exact_.highest some_)
  · intro n observed
    obtain ⟨f, among, rfl⟩ := observed
    exact UInt64.le_iff_toNat_le.mp (exact_.bounded _ ((exact_.observed _).mpr ⟨f, among, rfl⟩))

theorem SequenceState.Exact.missing (exact_ : s.Exact frames) :
    Reports ((feedbackFromSequenceState s).missingSequenceRanges.map SequenceRange.toNat) fun n =>
      s.highestContiguousSequence.toNat + 1 ≤ n ∧ n ≤ s.highestObservedSequence.toNat ∧
        ¬ObservedIn frames n := by
  have known : ∀ n, n ≤ s.highestObservedSequence.toNat →
      ((∀ o ∈ s.observedSequences, o.toNat ≠ n) ↔ ¬ObservedIn frames n) := by
    intro n small
    have same : (UInt64.ofNat n).toNat = n :=
      UInt64.toNat_ofNat_of_lt' (small.trans_lt s.highestObservedSequence.toNat_lt)
    rw [← same, ← exact_.observed]
    constructor
    · intro others among
      exact others _ among rfl
    · intro absent o among equal
      rw [UInt64.toNat_inj.mp equal] at among
      exact absent among
  unfold feedbackFromSequenceState
  dsimp only
  split
  case isTrue full =>
    apply Reports.nil
    intro n missing
    obtain ⟨low, high, -⟩ := missing
    cases full with
    | inl all =>
        have := UInt64.le_iff_toNat_le.mp all
        omega
    | inr largest =>
        have := le_maxSequence s.highestObservedSequence
        rw [largest] at low
        omega
  case isFalse some_ =>
    have notLargest : s.highestContiguousSequence ≠ maxSequence := fun same => some_ (.inr same)
    have ascending : (s.observedSequences.lowerBound (s.highestContiguousSequence + 1)).Pairwise
        (· ≤ ·) := (exact_.ascending.sublist (List.dropWhile_sublist _)).imp UInt64.le_of_lt
    apply (missingRanges_reports ascending).congr
    intro n
    rw [missingFrom_lowerBound, MissingFrom, toNat_succ notLargest]
    constructor
    · intro missing
      exact ⟨missing.1, missing.2.1, (known n missing.2.1).mp missing.2.2⟩
    · intro missing
      exact ⟨missing.1, missing.2.1, (known n missing.2.1).mpr missing.2.2⟩

/-- Whatever the order of arrival, with duplicates and up to the largest number: the feedback
    names the end of the contiguous part, the highest number, and in between exactly the numbers
    that have not been observed. -/
theorem observeFrame_reports_gaps (frames : List DataFrame) (frame : DataFrame)
    (positive : ∀ f ∈ frames ++ [frame], 0 < f.sourceSequenceNumber) :
    let feedback := (observeFrame (observeFrames frames) frame).1
    let observed := ObservedIn (frames ++ [frame])
    IsGreatest {n | ∀ k, 1 ≤ k → k ≤ n → observed k} feedback.highestContiguousSequence.toNat ∧
      IsGreatest {n | observed n} feedback.highestObservedSequence.toNat ∧
      Reports (feedback.missingSequenceRanges.map SequenceRange.toNat) fun n =>
        feedback.highestContiguousSequence.toNat + 1 ≤ n ∧
          n ≤ feedback.highestObservedSequence.toNat ∧ ¬observed n := by
  have before := observeFrames_exact fun f among => positive f (List.mem_append_left _ among)
  have after := before.observeFrame positive
  have some_ : frames ++ [frame] ≠ [] :=
    List.append_ne_nil_of_right_ne_nil _ (List.cons_ne_nil _ _)
  exact ⟨after.contiguous, after.greatest some_, after.missing⟩

theorem observeFrame_reports_gaps_largest :
    let frames : List DataFrame := [{ sourceSequenceNumber := 1 }, { sourceSequenceNumber := 4 }]
    let frame : DataFrame := { sourceSequenceNumber := maxSequence }
    (∀ f ∈ frames ++ [frame], 0 < f.sourceSequenceNumber) ∧
      (observeFrame (observeFrames frames) frame).1.missingSequenceRanges =
        [(2, 3), (5, maxSequence - 1)] ∧
      IsGreatest {n | ObservedIn (frames ++ [frame]) n} (2 ^ 64 - 1) :=
  ⟨by decide, by decide, (observeFrame_reports_gaps
    [{ sourceSequenceNumber := 1 }, { sourceSequenceNumber := 4 }]
    { sourceSequenceNumber := maxSequence } (by decide)).2.1⟩

end

end FleetRMW.Rmw
