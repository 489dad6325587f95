import FleetRMW.Lib.Run
import FleetRMW.Rmw.GapReport

/-! # The account of lost samples

Each notice of lost ranges returns a count. A count stands for numbers that a notice named, that
had not been observed when the count was returned, and that no other count stands for.
-/

namespace FleetRMW.Rmw

open Lib

/-! ## The end of the contiguous part -/

section
variable {observed : SequenceSet} {turns : Nat} {c : UInt64}

theorem advanceGuarded_chain
    (unfinished : advanceGuarded observed turns c ≠ maxSequence ∧
      advanceGuarded observed turns c + 1 ∈ observed) :
    ∀ i ≤ turns, c.toNat + i + 1 < 2 ^ 64 ∧ UInt64.ofNat (c.toNat + i + 1) ∈ observed := by
  have here : ∀ {d : UInt64}, d ≠ maxSequence → d + 1 ∈ observed →
      d.toNat + 1 < 2 ^ 64 ∧ UInt64.ofNat (d.toNat + 1) ∈ observed := by
    intro d notLargest next
    have same := toNat_succ notLargest
    have := (d + 1).toNat_lt
    refine ⟨by omega, ?_⟩
    rw [← same, UInt64.ofNat_toNat]
    exact next
  induction turns generalizing c with
  | zero =>
      intro i first
      obtain rfl := Nat.le_zero.mp first
      exact here unfinished.1 unfinished.2
  | succ turns ih =>
      unfold advanceGuarded at unfinished
      split at unfinished
      case isTrue next =>
        intro i inside
        cases i with
        | zero => exact here next.1 next.2
        | succ i =>
            have later := ih unfinished i (Nat.le_of_succ_le_succ inside)
            rw [toNat_succ next.1] at later
            have same : c.toNat + 1 + i + 1 = c.toNat + (i + 1) + 1 := by omega
            rw [same] at later
            exact later
      case isFalse last => exact absurd unfinished last

/-- The guarded loop has ended: each turn takes another element. -/
theorem advanceGuarded_stops (observed : SequenceSet) (c : UInt64)
    (notLargest : advanceGuarded observed observed.length c ≠ maxSequence) :
    advanceGuarded observed observed.length c + 1 ∉ observed := by
  intro unfinished
  have chain := advanceGuarded_chain ⟨notLargest, unfinished⟩
  let following := (List.range (observed.length + 1)).map fun i => UInt64.ofNat (c.toNat + i + 1)
  have distinct : following.Nodup := by
    refine List.Nodup.map_on ?_ List.nodup_range
    intro i isIn j isIn' same
    rw [List.mem_range] at isIn isIn'
    have small := (chain i (Nat.lt_succ_iff.mp isIn)).1
    have small' := (chain j (Nat.lt_succ_iff.mp isIn')).1
    have same := congrArg UInt64.toNat same
    rw [UInt64.toNat_ofNat_of_lt' small, UInt64.toNat_ofNat_of_lt' small'] at same
    omega
  have among : following ⊆ observed := by
    intro n isFollowing
    obtain ⟨i, isIn, rfl⟩ := List.mem_map.mp isFollowing
    exact (chain i (Nat.lt_succ_iff.mp (List.mem_range.mp isIn))).2
  have few := (List.subperm_of_subset distinct among).length_le
  rw [List.length_map, List.length_range] at few
  omega

theorem le_advanceGuarded : c.toNat ≤ (advanceGuarded observed turns c).toNat := by
  induction turns generalizing c with
  | zero => exact Nat.le_refl _
  | succ turns ih =>
      unfold advanceGuarded
      split
      case isTrue next =>
        have later := ih (c := c + 1)
        rw [toNat_succ next.1] at later
        omega
      case isFalse => exact Nat.le_refl _

/-- Not every number above `c` and zero besides have been observed: the loop of `observe_frame`,
    which does not look for the largest number, does not come round to zero. -/
def Unwrapped (observed : SequenceSet) (c : UInt64) : Prop :=
  ¬(0 ∈ observed ∧ ∀ n, c < n → n ∈ observed)

theorem le_advance (unwrapped : Unwrapped observed c) :
    c.toNat ≤ (advance observed turns c).toNat := by
  induction turns generalizing c with
  | zero => exact Nat.le_refl _
  | succ turns ih =>
      unfold advance
      split
      case isTrue next =>
        have notLargest : c ≠ maxSequence := by
          intro largest
          apply unwrapped
          rw [largest] at next ⊢
          refine ⟨next, ?_⟩
          intro n beyond
          have := UInt64.lt_iff_toNat_lt.mp beyond
          have := le_maxSequence n
          omega
        have later := ih (c := c + 1) (by
          intro wrapped
          apply unwrapped
          refine ⟨wrapped.1, ?_⟩
          intro n above
          by_cases here : n = c + 1
          · exact here ▸ next
          · apply wrapped.2
            have := UInt64.lt_iff_toNat_lt.mp above
            have : n.toNat ≠ (c + 1).toNat := fun same => here (UInt64.toNat_inj.mp same)
            rw [UInt64.lt_iff_toNat_lt]
            rw [toNat_succ notLargest] at this ⊢
            omega)
        rw [toNat_succ notLargest] at later
        omega
      case isFalse => exact Nat.le_refl _

end

/-! ## What one notice counts -/

/-- The numbers of a range. -/
def SequenceRange.numbers (range : SequenceRange) : List UInt64 :=
  (List.range (range.2.toNat - range.1.toNat + 1)).map fun i => UInt64.ofNat (range.1.toNat + i)

section
variable {observed : SequenceSet} {c : UInt64} {told : UInt64 → Prop}

theorem toNat_ofNat_of_fits {n : Nat} (fits : n < 2 ^ 64) : (UInt64.ofNat n).toNat = n :=
  UInt64.toNat_ofNat_of_lt' fits

theorem SequenceRange.mem_numbers {range : SequenceRange} (le : range.1 ≤ range.2) {n : UInt64} :
    n ∈ range.numbers ↔ range.Mem n := by
  have le := UInt64.le_iff_toNat_le.mp le
  have fits := range.2.toNat_lt
  unfold SequenceRange.numbers SequenceRange.Mem
  rw [List.mem_map, UInt64.le_iff_toNat_le, UInt64.le_iff_toNat_le]
  constructor
  · intro among
    obtain ⟨i, isIn, rfl⟩ := among
    have isIn := List.mem_range.mp isIn
    rw [toNat_ofNat_of_fits (by omega)]
    omega
  · intro inside
    refine ⟨n.toNat - range.1.toNat, List.mem_range.mpr (by omega), ?_⟩
    rw [Nat.add_sub_cancel' inside.1, UInt64.ofNat_toNat]

theorem SequenceRange.nodup_numbers (range : SequenceRange) (le : range.1 ≤ range.2) :
    range.numbers.Nodup := by
  have le := UInt64.le_iff_toNat_le.mp le
  have fits := range.2.toNat_lt
  apply List.Nodup.map_on ?_ List.nodup_range
  intro i isIn j isIn' same
  rw [List.mem_range] at isIn isIn'
  have same := congrArg UInt64.toNat same
  rw [toNat_ofNat_of_fits (by omega), toNat_ofNat_of_fits (by omega)] at same
  omega

/-- A number that is observed stands behind an unobserved one in a run of numbers that are told
    lost, and up to it everything is known: the run is consumed and counted with it. -/
def Overcounted (observed : SequenceSet) (told : UInt64 → Prop) (c : UInt64) : Prop :=
  ∃ m n, c < m ∧ m < n ∧ m ∉ observed ∧ n ∈ observed ∧ (∀ k, m ≤ k → k ≤ n → told k) ∧
    ∀ k, c < k → k ≤ n → told k ∨ k ∈ observed

theorem not_overcounted_of_disjoint [DecidablePred told]
    (disjoint : observed.all fun n => decide (c < n → ¬told n)) :
    ¬Overcounted observed told c := by
  intro overcounted
  obtain ⟨m, n, above, behind, -, isObserved, run, -⟩ := overcounted
  have above := UInt64.lt_iff_toNat_lt.mp above
  have behind := UInt64.lt_iff_toNat_lt.mp behind
  apply of_decide_eq_true (List.all_eq_true.mp disjoint n isObserved)
  · rw [UInt64.lt_iff_toNat_lt]
    exact above.trans behind
  · apply run n ?_ (UInt64.le_refl _)
    rw [UInt64.le_iff_toNat_le]
    exact Nat.le_of_lt behind

/-- What the loop has counted, from the end `c` of the contiguous part on. -/
structure Counts (observed : SequenceSet) (told : UInt64 → Prop) (c c' : UInt64)
    (counted : List UInt64) : Prop where
  distinct : counted.Nodup
  forward : c.toNat ≤ c'.toNat
  inside : ∀ n ∈ counted, c.toNat < n.toNat ∧ n.toNat ≤ c'.toNat
  unobserved : ∀ n ∈ counted, n ∉ observed
  told : ∀ n ∈ counted, told n

namespace Counts

variable {c' c'' : UInt64} {counted counted' : List UInt64}

theorem none (forward : c.toNat ≤ c'.toNat) : Counts observed told c c' [] where
  distinct := .nil
  forward := forward
  inside := nofun
  unobserved := nofun
  told := nofun

theorem trans (first : Counts observed told c c' counted)
    (second : Counts observed told c' c'' counted') :
    Counts observed told c c'' (counted ++ counted') where
  distinct := by
    apply List.nodup_append.mpr
    refine ⟨first.distinct, second.distinct, ?_⟩
    intro n among m among' same
    have below := first.inside n among
    have above := second.inside m among'
    rw [same] at below
    omega
  forward := Nat.le_trans first.forward second.forward
  inside := by
    intro n among
    have forward := first.forward
    have forward' := second.forward
    cases List.mem_append.mp among with
    | inl early =>
        have inside := first.inside n early
        omega
    | inr late =>
        have inside := second.inside n late
        omega
  unobserved := by
    intro n among
    cases List.mem_append.mp among with
    | inl early => exact first.unobserved n early
    | inr late => exact second.unobserved n late
  told := by
    intro n among
    cases List.mem_append.mp among with
    | inl early => exact first.told n early
    | inr late => exact second.told n late

/-- A range that begins behind the contiguous part is counted with its numbers. -/
theorem range {base last : UInt64} (notLargest : c ≠ maxSequence) (beyond : c < last)
    (stopped : c + 1 ∉ observed) (knows : ∀ n, SequenceRange.Mem (c + 1, last) n → told n)
    (window : Window (fun k => base < k → told k ∨ k ∈ observed) 0 c)
    (reached : base.toNat ≤ c.toNat) (exact_ : ¬Overcounted observed told base) :
    Counts observed told c last (SequenceRange.numbers (c + 1, last)) := by
  have next := toNat_succ notLargest
  have beyond := UInt64.lt_iff_toNat_lt.mp beyond
  have le : c + 1 ≤ last := by
    rw [UInt64.le_iff_toNat_le]
    omega
  have mem : ∀ n, n ∈ SequenceRange.numbers (c + 1, last) ↔ SequenceRange.Mem (c + 1, last) n :=
    fun n => SequenceRange.mem_numbers le
  exact {
    distinct := SequenceRange.nodup_numbers _ le
    forward := Nat.le_of_lt beyond
    inside := by
      intro n among
      obtain ⟨low, high⟩ : c + 1 ≤ n ∧ n ≤ last := (mem n).mp among
      have := UInt64.le_iff_toNat_le.mp low
      have := UInt64.le_iff_toNat_le.mp high
      omega
    unobserved := by
      intro n among isObserved
      obtain ⟨low, high⟩ : c + 1 ≤ n ∧ n ≤ last := (mem n).mp among
      have low_le := UInt64.le_iff_toNat_le.mp low
      have other : (c + 1).toNat ≠ n.toNat := by
        intro same
        rw [UInt64.toNat_inj.mp same] at stopped
        exact stopped isObserved
      refine exact_ ⟨c + 1, n, ?_, ?_, stopped, isObserved, ?_, ?_⟩
      · rw [UInt64.lt_iff_toNat_lt]
        omega
      · rw [UInt64.lt_iff_toNat_lt]
        omega
      · exact fun k above below => knows k ⟨above, UInt64.le_trans below high⟩
      · intro k above below
        by_cases early : k ≤ c
        · apply window k ?_ UInt64.zero_le early above
          rw [UInt64.lt_iff_toNat_lt]
          exact Nat.zero_lt_of_lt (UInt64.lt_iff_toNat_lt.mp above)
        · have late : c + 1 ≤ k := by
            rw [UInt64.le_iff_toNat_le] at early ⊢
            omega
          exact .inl (knows k ⟨late, UInt64.le_trans below high⟩)
    told := fun n among => knows n ((mem n).mp among) }

end Counts

theorem confirmedLostRangeCount_numbers {last : UInt64} (notLargest : c ≠ maxSequence)
    (beyond : c < last) :
    confirmedLostRangeCount (c + 1, last) = last.toNat - c.toNat ∧
      (SequenceRange.numbers (c + 1, last)).length = last.toNat - c.toNat := by
  have next := toNat_succ notLargest
  have beyond := UInt64.lt_iff_toNat_lt.mp beyond
  have fits := last.toNat_lt
  have le : c + 1 ≤ last := by
    rw [UInt64.le_iff_toNat_le]
    omega
  have proper : ¬(c + 1 = 0 ∨ c + 1 > last) := by
    intro improper
    cases improper with
    | inl zero =>
        rw [zero] at next
        exact absurd next (Nat.succ_ne_zero _).symm
    | inr inverted =>
        have := UInt64.lt_iff_toNat_lt.mp inverted
        omega
  constructor
  · unfold confirmedLostRangeCount
    rw [if_neg proper, maxCount]
    change min ((last - (c + 1)).toNat + 1) (2 ^ 64 - 1) = _
    rw [UInt64.toNat_sub_of_le _ _ le, next]
    omega
  · rw [SequenceRange.numbers, List.length_map, List.length_range]
    change last.toNat - (c + 1).toNat + 1 = _
    rw [next]
    omega

theorem consumeLostRanges_counts {ranges : List SequenceRange} {base : UInt64} {lost : Nat}
    (knows : AllKnown told ranges)
    (window : Window (fun k => base < k → told k ∨ k ∈ observed) 0 c)
    (reached : base.toNat ≤ c.toNat) (exact_ : ¬Overcounted observed told base)
    (few : lost ≤ c.toNat) :
    ∃ counted, Counts observed told c (consumeLostRanges observed ranges c lost).2.1 counted ∧
      (consumeLostRanges observed ranges c lost).2.2 = lost + counted.length ∧
      AllKnown told (consumeLostRanges observed ranges c lost).1 := by
  induction ranges generalizing c lost with
  | nil => exact ⟨[], .none le_advanceGuarded, rfl, .nil⟩
  | cons first rest ih =>
      have window := window.advanceGuarded (fun k isObserved _ => .inr isObserved) observed.length
      have forward : c.toNat ≤ (advanceGuarded observed observed.length c).toNat :=
        le_advanceGuarded
      have stops := advanceGuarded_stops observed c
      have first' := knows first List.mem_cons_self
      have rest' : AllKnown told rest := fun r isRange => knows r (List.mem_cons_of_mem _ isRange)
      unfold consumeLostRanges
      generalize advanceGuarded observed observed.length c = c₁ at window forward stops
      have stay : Counts observed told c c₁ [] := .none forward
      have reached := reached.trans forward
      have few := few.trans forward
      dsimp only
      split
      case isTrue =>
        obtain ⟨counted, counts, result⟩ := ih rest' window reached few
        exact ⟨counted, stay.trans counts, result⟩
      case isFalse beyond =>
        split
        case isTrue => exact ⟨[], stay, rfl, .nil⟩
        case isFalse notEnd =>
          generalize shortened :
            (if first.1 ≤ c₁ then (c₁ + 1, first.2) else first) = trimmed
          have sameEnd : trimmed.2 = first.2 := by
            rw [← shortened]
            split <;> rfl
          have trimmed' : ∀ n, SequenceRange.Mem trimmed n → told n := by
            intro n inside
            apply first' n
            refine ⟨?_, sameEnd ▸ inside.2⟩
            split at shortened
            case isTrue reaches =>
              have low := UInt64.le_iff_toNat_le.mp inside.1
              have reaches := UInt64.le_iff_toNat_le.mp reaches
              rw [UInt64.le_iff_toNat_le]
              by_cases largest : c₁ = maxSequence
              · exact absurd ⟨UInt64.le_iff_toNat_le.mpr reaches, largest⟩ notEnd
              · rw [← shortened, toNat_succ largest] at low
                omega
            case isFalse => exact shortened ▸ inside.1
          split
          case isTrue =>
            refine ⟨[], stay, rfl, ?_⟩
            intro range among
            cases among with
            | head => exact trimmed'
            | tail _ later => exact rest' range later
          case isFalse adjacent =>
            have notLargest : c₁ ≠ maxSequence := fun largest => adjacent (.inl largest)
            have begins : trimmed.1 = c₁ + 1 := by
              by_contra other
              exact adjacent (.inr other)
            obtain rfl : trimmed = (c₁ + 1, first.2) := Prod.ext begins sameEnd
            have beyond : c₁ < first.2 := by
              rw [UInt64.le_iff_toNat_le] at beyond
              rw [UInt64.lt_iff_toNat_lt]
              omega
            have counts := Counts.range notLargest beyond (stops notLargest) trimmed' window reached
              exact_
            obtain ⟨count, length⟩ := confirmedLostRangeCount_numbers notLargest beyond
            have ends := UInt64.lt_iff_toNat_lt.mp beyond
            have fits := first.2.toNat_lt
            have unsaturated : min (lost + confirmedLostRangeCount (c₁ + 1, first.2)) maxCount =
                lost + (first.2.toNat - c₁.toNat) := by
              rw [count, maxCount]
              omega
            rw [unsaturated]
            have known : ∀ n, SequenceRange.Mem (c₁ + 1, first.2) n → base < n →
                told n ∨ n ∈ observed := fun n inside _ => .inl (trimmed' n inside)
            have window' := window.range known (UInt64.le_refl _) beyond
            have reached' : base.toNat ≤ first.2.toNat := reached.trans (Nat.le_of_lt ends)
            have few' : lost + (first.2.toNat - c₁.toNat) ≤ first.2.toNat := by omega
            obtain ⟨counted, later, total, left⟩ := ih rest' window' reached' few'
            refine ⟨_, stay.trans (counts.trans later), ?_, left⟩
            rw [total, List.nil_append, List.length_append, length, Nat.add_assoc]

end

/-! ## Runs -/

/-- What `merge_confirmed_lost_range` takes of the ranges of a notice. -/
def Named (ranges : List SequenceRange) (n : UInt64) : Prop :=
  ∃ range ∈ ranges, range.1 ≠ 0 ∧ range.Mem n

instance (range : SequenceRange) (n : UInt64) : Decidable (range.Mem n) :=
  inferInstanceAs (Decidable (range.1 ≤ n ∧ n ≤ range.2))

instance (ranges : List SequenceRange) (n : UInt64) : Decidable (Named ranges n) :=
  inferInstanceAs (Decidable (∃ range ∈ ranges, range.1 ≠ 0 ∧ range.Mem n))

theorem Named.mono {ranges : List SequenceRange} {n : UInt64} (named : Named ranges n) (more : List SequenceRange) :
    Named (ranges ++ more) n := by
  obtain ⟨range, among, proper, inside⟩ := named
  exact ⟨range, List.mem_append_left _ among, proper, inside⟩

theorem Named.append_right {ranges : List SequenceRange} {n : UInt64} (named : Named ranges n) (before : List SequenceRange) :
    Named (before ++ ranges) n := by
  obtain ⟨range, among, proper, inside⟩ := named
  exact ⟨range, List.mem_append_right _ among, proper, inside⟩

theorem allKnown_merged {known : UInt64 → Prop} {ranges lost : List SequenceRange}
    (waiting : AllKnown known ranges) (knows : ∀ n, Named lost n → known n) :
    AllKnown known (lost.foldl mergeConfirmedLostRange ranges) := by
  induction lost generalizing ranges with
  | nil => exact waiting
  | cons range lost ih =>
      have later : ∀ n, Named lost n → known n := by
        intro n named
        obtain ⟨r, among, proper, inside⟩ := named
        exact knows n ⟨r, List.mem_cons_of_mem _ among, proper, inside⟩
      apply ih ?_ later
      by_cases proper : range.1 = 0
      · have skipped : mergeConfirmedLostRange ranges range = ranges := if_pos (Or.inl proper)
        rw [skipped]
        exact waiting
      · exact waiting.mergeConfirmedLostRange fun n inside =>
          knows n ⟨range, List.mem_cons_self, proper, inside⟩

/-- What a state has been told lost, with a notice. -/
def ToldLost (s : SequenceState) (ranges : List SequenceRange) (n : UInt64) : Prop :=
  Named ranges n ∨ ∃ range ∈ s.confirmedLostRanges, range.Mem n

instance (s : SequenceState) (ranges : List SequenceRange) (n : UInt64) :
    Decidable (ToldLost s ranges n) :=
  inferInstanceAs (Decidable (Named ranges n ∨ ∃ range ∈ s.confirmedLostRanges, range.Mem n))

/-- A call counts numbers behind the end of the contiguous part, which it moves past them. -/
theorem applyConfirmedLostRanges_counts {s : SequenceState} {ranges : List SequenceRange}
    (exact_ : s.initialized = true → ¬Overcounted s.observedSequences (ToldLost s ranges)
      s.highestContiguousSequence) :
    ∃ counted, Counts s.observedSequences (ToldLost s ranges) s.highestContiguousSequence
        (applyConfirmedLostRanges s ranges).2.highestContiguousSequence counted ∧
      (applyConfirmedLostRanges s ranges).1 = counted.length ∧
      AllKnown (ToldLost s ranges) (applyConfirmedLostRanges s ranges).2.confirmedLostRanges ∧
      (applyConfirmedLostRanges s ranges).2.observedSequences = s.observedSequences := by
  have waiting : AllKnown (ToldLost s ranges) s.confirmedLostRanges :=
    fun range among n inside => .inr ⟨range, among, inside⟩
  unfold applyConfirmedLostRanges
  split
  case isTrue => exact ⟨[], .none (Nat.le_refl _), rfl, waiting, rfl⟩
  case isFalse begun =>
    have begun : s.initialized = true := by simpa using begun
    have merged := allKnown_merged waiting fun n named => Or.inl named
    have window : Window (fun k => s.highestContiguousSequence < k →
        ToldLost s ranges k ∨ k ∈ s.observedSequences) 0 s.highestContiguousSequence := by
      intro k _ _ below above
      have below := UInt64.le_iff_toNat_le.mp below
      have above := UInt64.lt_iff_toNat_lt.mp above
      omega
    obtain ⟨counted, counts, total, left⟩ := consumeLostRanges_counts merged window
      (Nat.le_refl _) (exact_ begun) (Nat.zero_le _)
    rw [Nat.zero_add] at total
    exact ⟨counted, counts, total, left, rfl⟩

inductive LossEvent where
  | observeFrame (frame : DataFrame)
  | applyConfirmedLost (ranges : List SequenceRange)

/-- A count that was returned, with what had been observed and what had been named by then. -/
structure LossCount where
  count : Nat
  observed : SequenceSet
  named : List SequenceRange

structure LossRun where
  state : SequenceState := {}
  named : List SequenceRange := []
  counts : List LossCount := []

namespace LossRun

def step (r : LossRun) : LossEvent → Option LossRun
  | .observeFrame frame => some { r with state := (Rmw.observeFrame r.state frame).2 }
  | .applyConfirmedLost ranges =>
      let (count, state) := applyConfirmedLostRanges r.state ranges
      let named := r.named ++ ranges
      some { state, named, counts := r.counts ++ [⟨count, state.observedSequences, named⟩] }

/-- The numbers that stand for a count. -/
structure StandsFor (numbers : List UInt64) (c : LossCount) : Prop where
  length : numbers.length = c.count
  named : ∀ n ∈ numbers, Named c.named n
  unobserved : ∀ n ∈ numbers, n ∉ c.observed

/-- Each count stands for numbers that were named and not observed when it was returned, and no
    number is counted twice. -/
def CountedOnce (r : LossRun) : Prop :=
  ∃ numbers : List (List UInt64), List.Forall₂ StandsFor numbers r.counts ∧ numbers.flatten.Nodup

/-- What a step must not meet: the contiguous part that comes round to zero, and an observed
    number behind an unobserved one in a run of lost numbers that the step consumes. -/
def Fits (r : LossRun) : LossEvent → Prop
  | .observeFrame frame =>
      Unwrapped (r.state.observedSequences.insert frame.sourceSequenceNumber)
        r.state.highestContiguousSequence
  | .applyConfirmedLost ranges =>
      r.state.initialized = true →
        ¬Overcounted r.state.observedSequences (ToldLost r.state ranges)
          r.state.highestContiguousSequence

/-- The invariant: the numbers counted so far are not above the contiguous part. -/
structure Sound (r : LossRun) : Prop where
  waiting : AllKnown (Named r.named) r.state.confirmedLostRanges
  counted : ∃ numbers : List (List UInt64), List.Forall₂ StandsFor numbers r.counts ∧
    numbers.flatten.Nodup ∧
    ∀ n ∈ numbers.flatten, n.toNat ≤ r.state.highestContiguousSequence.toNat

section
variable {r r' : LossRun} {frame : DataFrame} {ranges : List SequenceRange}

theorem Sound.start : Sound {} where
  waiting := nofun
  counted := ⟨[], .nil, .nil, nofun⟩

theorem Sound.observeFrame (sound : r.Sound)
    (unwrapped : r.Fits (.observeFrame frame)) :
    Sound { r with state := (Rmw.observeFrame r.state frame).2 } where
  waiting := sound.waiting
  counted := by
    obtain ⟨numbers, stand, distinct, below⟩ := sound.counted
    refine ⟨numbers, stand, distinct, ?_⟩
    intro n among
    exact (below n among).trans (le_advance unwrapped)

theorem Sound.applyConfirmedLost (sound : r.Sound) (fits : r.Fits (.applyConfirmedLost ranges)) :
    Sound {
      state := (applyConfirmedLostRanges r.state ranges).2
      named := r.named ++ ranges
      counts := r.counts ++ [⟨(applyConfirmedLostRanges r.state ranges).1,
        (applyConfirmedLostRanges r.state ranges).2.observedSequences, r.named ++ ranges⟩] } := by
  obtain ⟨numbers, stand, distinct, below⟩ := sound.counted
  obtain ⟨counted, counts, total, left, same⟩ := applyConfirmedLostRanges_counts fits
  have named : ∀ n, ToldLost r.state ranges n → Named (r.named ++ ranges) n := by
    intro n told
    cases told with
    | inl now => exact now.append_right r.named
    | inr before =>
        obtain ⟨range, among, inside⟩ := before
        exact (sound.waiting range among n inside).mono ranges
  exact {
    waiting := fun range among n inside => named n (left range among n inside)
    counted := by
      refine ⟨numbers ++ [counted], ?_, ?_, ?_⟩
      · apply List.rel_append stand (.cons ⟨total.symm, ?_, ?_⟩ .nil)
        · exact fun n among => named n (counts.told n among)
        · intro n among
          rw [same]
          exact counts.unobserved n among
      · rw [List.flatten_append, List.flatten_singleton]
        apply List.nodup_append.mpr
        refine ⟨distinct, counts.distinct, ?_⟩
        intro n among m among' equal
        have before := below n among
        have inside := counts.inside m among'
        rw [equal] at before
        omega
      · intro n among
        rw [List.flatten_append, List.flatten_singleton] at among
        cases List.mem_append.mp among with
        | inl before => exact (below n before).trans counts.forward
        | inr now => exact (counts.inside n now).2 }

theorem Sound.step {e : LossEvent} (sound : r.Sound) (fits : r.Fits e)
    (h : r.step e = some r') : r'.Sound := by
  cases e with
  | observeFrame frame => exact Option.some.inj h ▸ sound.observeFrame fits
  | applyConfirmedLost ranges => exact Option.some.inj h ▸ sound.applyConfirmedLost fits

/-- In a run whose steps all fit, the counts add up to numbers that were lost as far as the
    reader knew. -/
theorem countedOnce_of_fits {events : List LossEvent} (fits : RunMeets step Fits {} events)
    (h : run step {} events = some r) : r.CountedOnce := by
  have sound : r.Sound := run_invariant (fun held ok taken => held.step ok taken) .start fits h
  obtain ⟨numbers, stand, distinct, -⟩ := sound.counted
  exact ⟨numbers, stand, distinct⟩

/-- Two notices with a late frame between them; they count two numbers and one. -/
theorem countedOnce_of_fits_twoNotices :
    ∃ r, run step {} [.observeFrame { sourceSequenceNumber := 1 }, .applyConfirmedLost [(2, 3)],
        .observeFrame { sourceSequenceNumber := 5 }, .applyConfirmedLost [(3, 4)]] = some r ∧
      r.counts.map LossCount.count = [2, 1] ∧ r.CountedOnce := by
  have fits : RunMeets step Fits {} [.observeFrame { sourceSequenceNumber := 1 },
      .applyConfirmedLost [(2, 3)], .observeFrame { sourceSequenceNumber := 5 },
      .applyConfirmedLost [(3, 4)]] := by
    apply RunMeets.of_step (fun wrapped => absurd wrapped.1 (by decide)) rfl
    apply RunMeets.of_step (fun _ => not_overcounted_of_disjoint (by decide)) rfl
    apply RunMeets.of_step (fun wrapped => absurd wrapped.1 (by decide)) rfl
    apply RunMeets.of_step (fun _ => not_overcounted_of_disjoint (by decide)) rfl
    exact True.intro
  exact ⟨_, rfl, by decide, countedOnce_of_fits fits rfl⟩

/-- A notice about 2 to 4 that comes after the late frame 3 returns three, for two lost numbers. -/
theorem observed_counted_lost :
    ∃ r, run step {} [.observeFrame { sourceSequenceNumber := 1 },
        .observeFrame { sourceSequenceNumber := 5 }, .observeFrame { sourceSequenceNumber := 3 },
        .applyConfirmedLost [(2, 4)]] = some r ∧ ¬r.CountedOnce := by
  refine ⟨_, rfl, ?_⟩
  intro counted
  obtain ⟨numbers, stand, distinct⟩ := counted
  cases stand with
  | cons first rest =>
      rename_i counted others
      cases rest
      rw [List.flatten_singleton] at distinct
      have three : counted.length = 3 := first.length
      have among : counted ⊆ [2, 4] := by
        intro n isCounted
        obtain ⟨range, isRange, -, inside⟩ := first.named n isCounted
        obtain rfl := List.mem_singleton.mp isRange
        have lost : n ∈ SequenceRange.numbers (2, 4) :=
          (SequenceRange.mem_numbers (by decide)).mpr inside
        have numbers : SequenceRange.numbers (2, 4) = [2, 3, 4] := by decide
        have unobserved := first.unobserved n isCounted
        have late : n ≠ 3 := by
          intro same
          subst same
          exact unobserved (by decide)
        rw [numbers] at lost
        simpa [late] using lost
      have few := (List.subperm_of_subset distinct among).length_le
      rw [three] at few
      exact absurd few (by decide)

end

end LossRun

end FleetRMW.Rmw
