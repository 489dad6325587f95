import FleetRMW.Lib.Python
import FleetRMW.Lib.Wildcards
import Mathlib.Data.List.TakeWhile
import Mathlib.Data.Prod.Lex
import Mathlib.Order.WellFounded

/-! # LIKE patterns

A pattern is resolved into characters and wildcards, then matched along the value, coming back to
the last wildcard only. A `%` of the pattern is compared with the value before it is looked at as
a wildcard, so where the value has a `%` it takes that character and is not come back to.
-/

namespace FleetRMW.Rmw

open Lib

/-! ## The pattern -/

/-- A character of `resolved_pattern`; a wildcard stands for itself there. -/
def resolvedCharacter : PatternItem UInt8 → UInt8
  | .char c => c
  | .one => 95
  | .any => 37

/-- A character that nothing escapes. -/
def likeItem (c : UInt8) : PatternItem UInt8 :=
  if c = 37 then .any else if c = 95 then .one else .char c

/-- `c` takes the meaning of `d` away. There is no escape character where it is NUL. -/
def escapes (escape c d : UInt8) : Bool :=
  escape ≠ 0 && c = escape && (d = 37 || d = 95 || d = escape)

def resolveLike (escape : UInt8) : Bytes → List (PatternItem UInt8)
  | [] => []
  | [c] => [likeItem c]
  | c :: d :: rest =>
      if escapes escape c d then .char d :: resolveLike escape rest
      else likeItem c :: resolveLike escape (d :: rest)

/-! ## The matcher -/

/-- What is left of the value and of the pattern, and for the last wildcard the pattern behind it
    and the value from where it ends at present. -/
structure LikeState where
  value : Bytes
  pattern : List (PatternItem UInt8)
  wildcard : Option (List (PatternItem UInt8) × Bytes)
  within : ∀ mark ∈ wildcard, pattern <:+ mark.1 ∧ value <:+ mark.2

namespace LikeState

theorem within_tail {v p vs ps} {wildcard : Option (List (PatternItem UInt8) × Bytes)}
    (within : ∀ mark ∈ wildcard, p :: ps <:+ mark.1 ∧ v :: vs <:+ mark.2) :
    ∀ mark ∈ wildcard, ps <:+ mark.1 ∧ vs <:+ mark.2 := by
  intro mark isMark
  obtain ⟨pattern, value⟩ := within mark isMark
  exact ⟨(List.suffix_cons p ps).trans pattern, (List.suffix_cons v vs).trans value⟩

theorem within_self (value : Bytes) (pattern : List (PatternItem UInt8)) :
    ∀ mark ∈ some (pattern, value), pattern <:+ mark.1 ∧ value <:+ mark.2 := by
  intro mark isMark
  obtain rfl := Option.some.inj isMark
  exact ⟨List.suffix_rfl, List.suffix_rfl⟩

/-- Let the last wildcard take one character more. -/
def comeBack : Option (List (PatternItem UInt8) × Bytes) → Bool ⊕ LikeState
  | some (pattern, _ :: value) =>
      .inr ⟨value, pattern, some (pattern, value), within_self value pattern⟩
  | _ => .inl false

/-- The answer, or the state after one turn of the loop. -/
def step : LikeState → Bool ⊕ LikeState
  | ⟨[], pattern, _, _⟩ => .inl (pattern.dropWhile (· = .any)).isEmpty
  | ⟨_ :: _, [], wildcard, _⟩ => comeBack wildcard
  | ⟨v :: vs, p :: ps, wildcard, within⟩ =>
      if p = .one ∨ resolvedCharacter p = v then .inr ⟨vs, ps, wildcard, within_tail within⟩
      else if p = .any then .inr ⟨v :: vs, ps, some (ps, v :: vs), within_self (v :: vs) ps⟩
      else comeBack wildcard

/-- How much pattern is left behind the last wildcard and how much of the value that leaves, and
    how much of the value is left. -/
def measure (s : LikeState) : Nat ×ₗ Nat ×ₗ Nat :=
  toLex ((s.wildcard.map (·.1.length)).getD s.pattern.length,
    toLex ((s.wildcard.map (·.2.length)).getD 0, s.value.length))

theorem comeBack_measure {s next : LikeState} {wildcard : Option (List (PatternItem UInt8) × Bytes)}
    (same : s.wildcard = wildcard) (h : comeBack wildcard = .inr next) :
    next.measure < s.measure := by
  unfold comeBack at h
  split at h
  case h_1 pattern _ value =>
    obtain rfl := Sum.inr.inj h
    simp [measure, same, Prod.Lex.toLex_lt_toLex]
  case h_2 => cases h

theorem step_measure {s next : LikeState} (h : s.step = .inr next) : next.measure < s.measure := by
  unfold step at h
  split at h
  case h_1 => cases h
  case h_2 => exact comeBack_measure rfl h
  case h_3 v vs p ps wildcard within =>
    split at h
    case isTrue =>
      obtain rfl := Sum.inr.inj h
      cases wildcard <;> simp [measure, Prod.Lex.toLex_lt_toLex]
    case isFalse =>
      split at h
      case isTrue =>
        obtain rfl := Sum.inr.inj h
        cases wildcard with
        | none => simp [measure, Prod.Lex.toLex_lt_toLex]
        | some mark =>
            have shorter := (within mark rfl).1.length_le
            rw [List.length_cons] at shorter
            simp only [measure, Prod.Lex.toLex_lt_toLex, Option.map_some, Option.getD_some]
            exact .inl shorter
      case isFalse => exact comeBack_measure rfl h

/-- Go on until there is an answer. -/
def run (s : LikeState) : Bool :=
  match _taken : s.step with
  | .inl result => result
  | .inr next => run next
termination_by s.measure
decreasing_by exact step_measure _taken

end LikeState

def contentFilterLike (value pattern : Bytes) (escape : UInt8) : Bool :=
  LikeState.run ⟨value, resolveLike escape pattern, none, nofun⟩

/-! ## What a pattern means -/

/-- The first two characters are an escape. -/
def EscapesNext (escape : UInt8) (pattern : Bytes) : Prop :=
  ∃ c d rest, pattern = c :: d :: rest ∧ escapes escape c d

/-- The value can be split along the pattern: a `%` that is not escaped takes any substring that
    `may` allows it, a `_` that is not escaped any character, and every other character itself. -/
inductive SqlLike (may : Bytes → Bytes → Prop) (escape : UInt8) : Bytes → Bytes → Prop where
  | nil : SqlLike may escape [] []
  | escaped {c d : UInt8} {pattern value} (isEscape : escapes escape c d)
      (later : SqlLike may escape pattern value) :
      SqlLike may escape (c :: d :: pattern) (d :: value)
  | percent {pattern value} (free : ¬EscapesNext escape (37 :: pattern)) (taken : Bytes)
      (allowed : may taken value) (later : SqlLike may escape pattern value) :
      SqlLike may escape (37 :: pattern) (taken ++ value)
  | underscore {pattern value} (free : ¬EscapesNext escape (95 :: pattern)) (c : UInt8)
      (later : SqlLike may escape pattern value) : SqlLike may escape (95 :: pattern) (c :: value)
  | literal {c : UInt8} {pattern value} (free : ¬EscapesNext escape (c :: pattern))
      (noWildcard : c ≠ 37 ∧ c ≠ 95) (later : SqlLike may escape pattern value) :
      SqlLike may escape (c :: pattern) (c :: value)

/-- A `%` takes any substring. -/
def AnySubstring (_ _ : Bytes) : Prop := True

/-- A `%` takes any substring where the value has no `%`, and else just that character. -/
def AvoidsPercent : Bytes → Bytes → Prop := TakesShy 37

section
variable {may : Bytes → Bytes → Prop} {escape : UInt8} {pattern value : Bytes}

theorem SqlLike.mono {may' : Bytes → Bytes → Prop}
    (weaker : ∀ taken rest, may taken rest → may' taken rest)
    (h : SqlLike may escape pattern value) : SqlLike may' escape pattern value := by
  induction h with
  | nil => exact .nil
  | escaped isEscape _ ih => exact .escaped isEscape ih
  | percent free taken allowed _ ih => exact .percent free taken (weaker _ _ allowed) ih
  | underscore free c _ ih => exact .underscore free c ih
  | literal free noWildcard _ ih => exact .literal free noWildcard ih

/-- A first character that does not escape the next one. -/
theorem sqlLike_free {c : UInt8} (free : ¬EscapesNext escape (c :: pattern)) :
    SqlLike may escape (c :: pattern) value ↔
      (c = 37 ∧ ∃ taken rest, value = taken ++ rest ∧ may taken rest ∧
        SqlLike may escape pattern rest) ∨
      (c = 95 ∧ ∃ d rest, value = d :: rest ∧ SqlLike may escape pattern rest) ∨
      ((c ≠ 37 ∧ c ≠ 95) ∧ ∃ rest, value = c :: rest ∧ SqlLike may escape pattern rest) := by
  constructor
  · intro h
    cases h with
    | escaped isEscape later => exact absurd ⟨_, _, _, rfl, isEscape⟩ free
    | percent free taken allowed later => exact .inl ⟨rfl, taken, _, rfl, allowed, later⟩
    | underscore free d later => exact .inr (.inl ⟨rfl, d, _, rfl, later⟩)
    | literal free noWildcard later => exact .inr (.inr ⟨noWildcard, _, rfl, later⟩)
  · rintro (⟨rfl, taken, rest, rfl, allowed, later⟩ | ⟨rfl, d, rest, rfl, later⟩ |
      ⟨noWildcard, rest, rfl, later⟩)
    · exact .percent free taken allowed later
    · exact .underscore free d later
    · exact .literal free noWildcard later

theorem splits_likeItem {c : UInt8} {items : List (PatternItem UInt8)} :
    Splits may (likeItem c :: items) value ↔
      (c = 37 ∧ ∃ taken rest, value = taken ++ rest ∧ may taken rest ∧ Splits may items rest) ∨
      (c = 95 ∧ ∃ d rest, value = d :: rest ∧ Splits may items rest) ∨
      ((c ≠ 37 ∧ c ≠ 95) ∧ ∃ rest, value = c :: rest ∧ Splits may items rest) := by
  unfold likeItem
  by_cases percent : c = 37
  case pos => simp [percent, Splits.any_iff]
  case neg =>
    by_cases underscore : c = 95
    case pos => simp [underscore, Splits.one_iff]
    case neg => simp [percent, underscore, Splits.char_iff]

/-- The resolved pattern means what the pattern means. -/
theorem splits_resolveLike :
    Splits may (resolveLike escape pattern) value ↔ SqlLike may escape pattern value := by
  induction pattern using resolveLike.induct escape generalizing value with
  | case1 =>
      rw [resolveLike, Splits.nil_iff]
      constructor
      · rintro rfl
        exact .nil
      · intro h
        cases h
        rfl
  | case2 c =>
      have free : ¬EscapesNext escape [c] := by
        rintro ⟨_, _, _, same, _⟩
        cases same
      have empty : ∀ rest, Splits may [] rest ↔ SqlLike may escape [] rest := by
        intro rest
        rw [Splits.nil_iff]
        constructor
        · rintro rfl
          exact .nil
        · intro h
          cases h
          rfl
      rw [resolveLike, splits_likeItem, sqlLike_free free]
      simp only [empty]
  | case3 c d rest isEscape ih =>
      rw [resolveLike, if_pos isEscape, Splits.char_iff]
      constructor
      · rintro ⟨value, rfl, later⟩
        exact .escaped isEscape (ih.mp later)
      · intro h
        have notFree : ∀ {c'} {pattern' : Bytes}, c' :: pattern' = c :: d :: rest →
            ¬¬EscapesNext escape (c' :: pattern') := by
          intro c' pattern' same free
          exact free ⟨c, d, rest, same, isEscape⟩
        cases h with
        | escaped _ later => exact ⟨_, rfl, ih.mpr later⟩
        | percent free => exact absurd free (notFree rfl)
        | underscore free => exact absurd free (notFree rfl)
        | literal free => exact absurd free (notFree rfl)
  | case4 c d rest noEscape ih =>
      have free : ¬EscapesNext escape (c :: d :: rest) := by
        rintro ⟨c', d', rest', same, isEscape⟩
        simp only [List.cons.injEq] at same
        obtain ⟨sameFirst, sameSecond, -⟩ := same
        rw [← sameFirst, ← sameSecond] at isEscape
        exact noEscape isEscape
      rw [resolveLike, if_neg noEscape, splits_likeItem, sqlLike_free free]
      simp only [ih]

end

/-! ## The matcher finds the splits -/

namespace LikeState

def search (s : LikeState) : PatternSearch UInt8 := ⟨s.value, s.pattern, s.wildcard, s.within⟩

theorem takes_iff {v : UInt8} {p : PatternItem UInt8} :
    PatternSearch.Takes 37 v p ↔ p = .one ∨ resolvedCharacter p = v := by
  cases p <;> simp [PatternSearch.Takes, resolvedCharacter]

theorem comeBack_search {wildcard : Option (List (PatternItem UInt8) × Bytes)} :
    (comeBack wildcard).map id search = PatternSearch.comeBack wildcard := by
  cases wildcard with
  | none => rfl
  | some mark =>
      obtain ⟨pattern, value⟩ := mark
      cases value with
      | nil => rfl
      | cons v value => rfl

/-- A turn of the loop is one of the search for a pattern whose wildcard shies at `%`. -/
theorem step_search (s : LikeState) : s.step.map id search = s.search.step 37 := by
  obtain ⟨value, pattern, wildcard, within⟩ := s
  cases value with
  | nil => rfl
  | cons v vs =>
      cases pattern with
      | nil => exact comeBack_search
      | cons p ps =>
          change _ = PatternSearch.step 37 ⟨v :: vs, p :: ps, wildcard, within⟩
          simp only [step, PatternSearch.step, takes_iff]
          split
          case isTrue => rfl
          case isFalse =>
            split
            case isTrue => rfl
            case isFalse => exact comeBack_search

theorem run_eq (s : LikeState) : s.run = s.step.elim id run := by
  rw [run]
  split
  case h_1 result taken => rw [taken]; rfl
  case h_2 next taken => rw [taken]; rfl

end LikeState

theorem contentFilterLike_iff (value pattern : Bytes) (escape : UInt8) :
    contentFilterLike value pattern escape = true ↔
      SqlLike AvoidsPercent escape pattern value := by
  have loop := PatternSearch.loop_iff LikeState.step_search LikeState.run_eq
    ⟨value, resolveLike escape pattern, none, nofun⟩ PatternSearch.scanned_start
  exact loop.trans (PatternSearch.accepts_start.trans splits_resolveLike)

/-- A pattern means what it says exactly for the values which, if they match at all, match so that
    no wildcard `%` takes anything but that one character where the value has a `%`. -/
theorem like_means_sql (value pattern : Bytes) (escape : UInt8) :
    (contentFilterLike value pattern escape = true ↔
        SqlLike AnySubstring escape pattern value) ↔
      (SqlLike AnySubstring escape pattern value → SqlLike AvoidsPercent escape pattern value) := by
  rw [contentFilterLike_iff]
  constructor
  · exact fun means matches_ => means.mpr matches_
  · exact fun avoids => ⟨SqlLike.mono fun _ _ _ => True.intro, avoids⟩

/-- `'%abc' LIKE '%'` is false. -/
theorem percent_value_rejected :
    ¬∀ value pattern escape, contentFilterLike value pattern escape = true ↔
      SqlLike AnySubstring escape pattern value := by
  intro all
  have matches_ : SqlLike AnySubstring 0 [37] ([37, 97, 98, 99] ++ []) :=
    .percent (by rintro ⟨_, _, _, same, -⟩; cases same) _ True.intro .nil
  have accepted := (all [37, 97, 98, 99] [37] 0).mpr matches_
  have rejected : contentFilterLike [37, 97, 98, 99] [37] 0 = false := by
    simp [contentFilterLike, resolveLike, likeItem, LikeState.run, LikeState.step,
      resolvedCharacter, LikeState.comeBack]
  rw [rejected] at accepted
  cases accepted

end FleetRMW.Rmw
