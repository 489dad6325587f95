import FleetRMW.Lib.Python
import FleetRMW.Lib.Wildcards

/-! # Wildcards in the names of a policy

An expression for topics, and one for the identities of peers that are accepted, is matched
character by character, coming back to the last `*` only. A `*` is compared with the value before
it is looked at as a wildcard, so where the value has a `*` it takes that character and is not come
back to.
-/

namespace FleetRMW.Rmw

open Lib

def wildcardItem (c : UInt8) : PatternItem UInt8 :=
  if c = 42 then .any else if c = 63 then .one else .char c

/-! ## The matcher -/

/-- What is left of the pattern and of the value, and for the last `*` the pattern behind it and
    the value from where it ends at present. -/
structure WildcardState where
  pattern : Bytes
  value : Bytes
  star : Option (Bytes × Bytes)
  within : ∀ mark ∈ star, pattern <:+ mark.1 ∧ value <:+ mark.2

namespace WildcardState

theorem within_next {p v : UInt8} {ps vs : Bytes} {star : Option (Bytes × Bytes)}
    (within : ∀ mark ∈ star, p :: ps <:+ mark.1 ∧ v :: vs <:+ mark.2) :
    ∀ mark ∈ star, ps <:+ mark.1 ∧ vs <:+ mark.2 := by
  intro mark isMark
  obtain ⟨pattern, value⟩ := within mark isMark
  exact ⟨(List.suffix_cons p ps).trans pattern, (List.suffix_cons v vs).trans value⟩

theorem within_here (pattern value : Bytes) :
    ∀ mark ∈ some (pattern, value), pattern <:+ mark.1 ∧ value <:+ mark.2 := by
  intro mark isMark
  obtain rfl := Option.some.inj isMark
  exact ⟨List.suffix_rfl, List.suffix_rfl⟩

/-- `pattern_index = star_index + 1; value_index = ++star_value_index`, where there was a `*`. -/
def resume : Option (Bytes × Bytes) → Bool ⊕ WildcardState
  | some (pattern, _ :: value) =>
      .inr ⟨pattern, value, some (pattern, value), within_here pattern value⟩
  | _ => .inl false

/-- The answer, or the state after one turn of the loop. -/
def step : WildcardState → Bool ⊕ WildcardState
  | ⟨pattern, [], _, _⟩ => .inl (pattern.dropWhile (· = 42)).isEmpty
  | ⟨[], _ :: _, star, _⟩ => resume star
  | ⟨p :: ps, v :: vs, star, within⟩ =>
      if p = 63 ∨ p = v then .inr ⟨ps, vs, star, within_next within⟩
      else if p = 42 then .inr ⟨ps, v :: vs, some (ps, v :: vs), within_here ps (v :: vs)⟩
      else resume star

/-- The search of which a turn of the loop is a turn. -/
def search (s : WildcardState) : PatternSearch UInt8 where
  value := s.value
  pattern := s.pattern.map wildcardItem
  wildcard := s.star.map fun mark => (mark.1.map wildcardItem, mark.2)
  within := by
    intro mark isMark
    obtain ⟨star, isStar, rfl⟩ := Option.mem_map.mp isMark
    obtain ⟨pattern, value⟩ := s.within star isStar
    exact ⟨pattern.map wildcardItem, value⟩

theorem takes_iff {p v : UInt8} : PatternSearch.Takes 42 v (wildcardItem p) ↔ p = 63 ∨ p = v := by
  unfold wildcardItem
  by_cases star : p = 42
  case pos => simp [star, PatternSearch.Takes]
  case neg => by_cases any : p = 63 <;> simp [star, any, PatternSearch.Takes]

theorem wildcardItem_eq_any {p : UInt8} : wildcardItem p = .any ↔ p = 42 := by
  unfold wildcardItem
  split
  case isTrue star => simp [star]
  case isFalse star => split <;> simp [star]

theorem isEmpty_dropWhile_stars (pattern : Bytes) :
    ((pattern.map wildcardItem).dropWhile (· = .any)).isEmpty =
      (pattern.dropWhile (· = 42)).isEmpty := by
  induction pattern with
  | nil => rfl
  | cons p ps ih =>
      rw [List.map_cons, List.dropWhile_cons, List.dropWhile_cons]
      simp only [wildcardItem_eq_any]
      split
      case isTrue => exact ih
      case isFalse => rfl

theorem resume_search {star : Option (Bytes × Bytes)} :
    (resume star).map id search =
      PatternSearch.comeBack (star.map fun mark => (mark.1.map wildcardItem, mark.2)) := by
  cases star with
  | none => rfl
  | some mark =>
      obtain ⟨pattern, value⟩ := mark
      cases value with
      | nil => rfl
      | cons v value => rfl

theorem step_search (s : WildcardState) : s.step.map id search = s.search.step 42 := by
  obtain ⟨pattern, value, star, within⟩ := s
  cases value with
  | nil =>
      cases pattern with
      | nil => rfl
      | cons p ps => exact congrArg Sum.inl (isEmpty_dropWhile_stars (p :: ps)).symm
  | cons v vs =>
      cases pattern with
      | nil => exact resume_search
      | cons p ps =>
          simp only [search, List.map_cons, step, PatternSearch.step, takes_iff, wildcardItem_eq_any]
          split
          case isTrue => rfl
          case isFalse =>
            split
            case isTrue => rfl
            case isFalse => exact resume_search

theorem step_measure {s next : WildcardState} (h : s.step = .inr next) :
    next.search.measure < s.search.measure := by
  have turned : s.search.step 42 = .inr next.search := by
    rw [← step_search, h]
    rfl
  exact PatternSearch.step_measure turned

/-- Go on until there is an answer. -/
def run (s : WildcardState) : Bool :=
  match _taken : s.step with
  | .inl result => result
  | .inr next => run next
termination_by s.search.measure
decreasing_by exact step_measure _taken

theorem run_eq (s : WildcardState) : s.run = s.step.elim id run := by
  rw [run]
  split
  case h_1 result taken =>
    rw [taken]
    rfl
  case h_2 next taken =>
    rw [taken]
    rfl

end WildcardState

def wildcardMatch (pattern value : Bytes) : Bool :=
  WildcardState.run ⟨pattern, value, none, nofun⟩

/-- The expression is meant for the name on the wire or for the one in ROS. -/
def sros2TopicMatches (expression rosTopic : Bytes) : Bool :=
  wildcardMatch expression (octets "rt" ++ rosTopic) || wildcardMatch expression rosTopic

/-- `udp_peer_identity_allowed`, with the list of the configuration. -/
def udpPeerIdentityAllowed (allowedIdentities : List Bytes) (identity : Bytes) : Bool :=
  allowedIdentities.any fun pattern => wildcardMatch pattern identity

/-! ## What a pattern means -/

/-- The value can be split along the pattern: a `*` takes any string that `may` allows it, a `?`
    any character, and every other character itself. -/
def Denotes (may : Bytes → Bytes → Prop) (pattern value : Bytes) : Prop :=
  Splits may (pattern.map wildcardItem) value

/-- A `*` takes any string. -/
def AnyString (_ _ : Bytes) : Prop := True

/-- A `*` takes any string where the value has no `*`, and else just that character. -/
def AvoidsStar : Bytes → Bytes → Prop := TakesShy 42

theorem wildcardMatch_iff (pattern value : Bytes) :
    wildcardMatch pattern value = true ↔ Denotes AvoidsStar pattern value := by
  have loop := PatternSearch.loop_iff WildcardState.step_search WildcardState.run_eq
    ⟨pattern, value, none, nofun⟩ PatternSearch.scanned_start
  exact loop.trans PatternSearch.accepts_start

/-- A match is never wrong, and it is found exactly for the values which, if they match at all, match
    so that no `*` takes anything but that one character where the value has a `*`. -/
theorem wildcard_means_language (pattern value : Bytes) :
    (wildcardMatch pattern value = true ↔ Denotes AnyString pattern value) ↔
      (Denotes AnyString pattern value → Denotes AvoidsStar pattern value) := by
  rw [wildcardMatch_iff]
  constructor
  · exact fun means matches_ => means.mpr matches_
  · exact fun avoids => ⟨Splits.mono fun _ _ _ => True.intro, avoids⟩

/-- `*` does not match `*abc`. -/
theorem star_value_rejected :
    ¬∀ pattern value, wildcardMatch pattern value = true ↔ Denotes AnyString pattern value := by
  intro all
  have matches_ : Denotes AnyString [42] ([42, 97, 98, 99] ++ []) := .any _ True.intro .nil
  have accepted := (all [42] [42, 97, 98, 99]).mpr matches_
  have rejected : wildcardMatch [42] [42, 97, 98, 99] = false := by
    simp [wildcardMatch, WildcardState.run, WildcardState.step, WildcardState.resume]
  rw [rejected] at accepted
  cases accepted

/-- Values without a `*` match as the pattern says. -/
theorem wildcardMatch_of_plain {pattern value : Bytes} (plain : 42 ∉ value) :
    wildcardMatch pattern value = true ↔ Denotes AnyString pattern value := by
  rw [wildcard_means_language]
  intro matches_
  unfold Denotes at matches_ ⊢
  generalize pattern.map wildcardItem = items at matches_ ⊢
  induction matches_ with
  | nil => exact .nil
  | char c _ ih => exact .char c (ih fun among => plain (List.mem_cons_of_mem _ among))
  | one c _ ih => exact .one c (ih fun among => plain (List.mem_cons_of_mem _ among))
  | any taken _ _ ih =>
      refine .any taken (.inl ?_) (ih fun among => plain (List.mem_append_right _ among))
      intro first
      exact plain (List.mem_of_mem_head? (Option.mem_def.mpr first))

end FleetRMW.Rmw
