import Mathlib.Data.List.Basic
import Mathlib.Data.List.Infix
import Mathlib.Data.List.TakeWhile
import Mathlib.Data.Prod.Lex
import Mathlib.Order.WellFounded

/-! # Patterns with wildcards

A pattern matches a list that can be split so that each of its items takes its part. What a
wildcard for any sublist may take is a parameter: everything, or only what a search gives it that
looks at one element at a time and comes back to no wildcard but the last.
-/

namespace FleetRMW.Lib

inductive PatternItem (α : Type*) where
  | char (c : α)
  | one
  | any
  deriving Repr, DecidableEq

variable {α : Type*}

/-- The list can be split along the pattern; `may w rest` allows a wildcard to take `w` where
    `rest` follows. -/
inductive Splits (may : List α → List α → Prop) : List (PatternItem α) → List α → Prop where
  | nil : Splits may [] []
  | char {items value} (c : α) (later : Splits may items value) :
      Splits may (.char c :: items) (c :: value)
  | one {items value} (c : α) (later : Splits may items value) :
      Splits may (.one :: items) (c :: value)
  | any {items value} (taken : List α) (allowed : may taken value) (later : Splits may items value) :
      Splits may (.any :: items) (taken ++ value)

namespace Splits

variable {may may' : List α → List α → Prop} {items : List (PatternItem α)} {value : List α}

theorem mono (weaker : ∀ taken rest, may taken rest → may' taken rest)
    (h : Splits may items value) : Splits may' items value := by
  induction h with
  | nil => exact .nil
  | char c _ ih => exact .char c ih
  | one c _ ih => exact .one c ih
  | any taken allowed _ ih => exact .any taken (weaker _ _ allowed) ih

theorem nil_iff : Splits may [] value ↔ value = [] := by
  constructor
  · intro h
    cases h
    rfl
  · rintro rfl
    exact .nil

theorem char_iff {c : α} : Splits may (.char c :: items) value ↔
    ∃ rest, value = c :: rest ∧ Splits may items rest := by
  constructor
  · intro h
    cases h with
    | char _ later => exact ⟨_, rfl, later⟩
  · rintro ⟨rest, rfl, later⟩
    exact .char c later

theorem one_iff : Splits may (.one :: items) value ↔
    ∃ c rest, value = c :: rest ∧ Splits may items rest := by
  constructor
  · intro h
    cases h with
    | one c later => exact ⟨c, _, rfl, later⟩
  · rintro ⟨c, rest, rfl, later⟩
    exact .one c later

theorem any_iff : Splits may (.any :: items) value ↔
    ∃ taken rest, value = taken ++ rest ∧ may taken rest ∧ Splits may items rest := by
  constructor
  · intro h
    cases h with
    | any taken allowed later => exact ⟨taken, _, rfl, allowed, later⟩
  · rintro ⟨taken, rest, rfl, allowed, later⟩
    exact .any taken allowed later

end Splits

/-! ## Wildcards that shy at an element -/

/-- In front of `shy` a wildcard takes just that element. -/
def TakesShy (shy : α) (taken rest : List α) : Prop :=
  (taken ++ rest).head? ≠ some shy ∨ taken = [shy]

/-- A scan that does not come back: item after item takes one element, and a wildcard the one at
    which it shies. -/
inductive Scans (shy : α) (items : List (PatternItem α)) (value : List α) :
    List (PatternItem α) → List α → Prop where
  | refl : Scans shy items value items value
  | char {c : α} {items' value'} (h : Scans shy items value (.char c :: items') (c :: value')) :
      Scans shy items value items' value'
  | one {c : α} {items' value'} (h : Scans shy items value (.one :: items') (c :: value')) :
      Scans shy items value items' value'
  | any {items' value'} (h : Scans shy items value (.any :: items') (shy :: value')) :
      Scans shy items value items' value'

section
variable {shy : α} {items : List (PatternItem α)} {value : List α}

theorem splits_any_shy :
    Splits (TakesShy shy) (.any :: items) (shy :: value) ↔ Splits (TakesShy shy) items value := by
  rw [Splits.any_iff]
  constructor
  · rintro ⟨taken, rest, same, other | rfl, later⟩
    · rw [← same] at other
      exact absurd rfl other
    · obtain ⟨-, rfl⟩ := List.cons.inj same
      exact later
  · intro later
    exact ⟨[shy], value, rfl, .inr rfl, later⟩

theorem splits_any_of_ne (other : value.head? ≠ some shy) :
    Splits (TakesShy shy) (.any :: items) value ↔
      ∃ rest, rest <:+ value ∧ Splits (TakesShy shy) items rest := by
  rw [Splits.any_iff]
  constructor
  · rintro ⟨taken, rest, rfl, _, later⟩
    exact ⟨rest, List.suffix_append _ _, later⟩
  · rintro ⟨rest, ⟨taken, rfl⟩, later⟩
    exact ⟨taken, rest, rfl, .inl other, later⟩

theorem splits_nil : Splits (TakesShy shy) items [] ↔ ∀ item ∈ items, item = .any := by
  induction items with
  | nil => simp [Splits.nil_iff]
  | cons item items ih =>
      cases item with
      | char c => simp [Splits.char_iff]
      | one => simp [Splits.one_iff]
      | any =>
          rw [splits_any_of_ne (by simp), List.forall_mem_cons, ← ih]
          simp [List.suffix_nil]

theorem tail_suffix_of_suffix {c d : α} {rest value : List α} (suffix : c :: rest <:+ d :: value) :
    rest <:+ value := by
  rcases List.suffix_cons_iff.mp suffix with same | later
  · obtain ⟨-, rfl⟩ := List.cons.inj same
    exact List.suffix_rfl
  · exact (List.suffix_cons c rest).trans later

/-- What a scan passes a split that starts later passes later: a split of an end of the scanned
    list gives one of an end of what is left. -/
theorem Scans.exchange {items' : List (PatternItem α)} {value' : List α}
    (h : Scans shy items value items' value') {start : List α} (suffix : start <:+ value)
    (later : Splits (TakesShy shy) items start) :
    ∃ rest, rest <:+ value' ∧ Splits (TakesShy shy) items' rest := by
  induction h with
  | refl => exact ⟨start, suffix, later⟩
  | char h ih =>
      obtain ⟨_, isSuffix, here⟩ := ih
      obtain ⟨rest, rfl, behind⟩ := Splits.char_iff.mp here
      exact ⟨rest, tail_suffix_of_suffix isSuffix, behind⟩
  | one h ih =>
      obtain ⟨_, isSuffix, here⟩ := ih
      obtain ⟨c, rest, rfl, behind⟩ := Splits.one_iff.mp here
      exact ⟨rest, tail_suffix_of_suffix isSuffix, behind⟩
  | any h ih =>
      obtain ⟨_, isSuffix, here⟩ := ih
      rcases List.suffix_cons_iff.mp isSuffix with rfl | isSuffix
      · exact ⟨_, List.suffix_rfl, splits_any_shy.mp here⟩
      · obtain ⟨taken, rest, rfl, -, behind⟩ := Splits.any_iff.mp here
        exact ⟨rest, (List.suffix_append _ _).trans isSuffix, behind⟩

end

/-! ## The search

It keeps one place to come back to. Where a wildcard stands for a character that the value may
hold as well (`shy`), the two are compared before the wildcard is looked at as one.
-/

/-- What is left of the value and of the pattern, and for the last wildcard the pattern behind it
    and the value from where it ends at present. -/
structure PatternSearch (α : Type*) where
  value : List α
  pattern : List (PatternItem α)
  wildcard : Option (List (PatternItem α) × List α)
  within : ∀ mark ∈ wildcard, pattern <:+ mark.1 ∧ value <:+ mark.2

namespace PatternSearch

theorem within_tail {v : α} {p : PatternItem α} {vs ps}
    {wildcard : Option (List (PatternItem α) × List α)}
    (within : ∀ mark ∈ wildcard, p :: ps <:+ mark.1 ∧ v :: vs <:+ mark.2) :
    ∀ mark ∈ wildcard, ps <:+ mark.1 ∧ vs <:+ mark.2 := by
  intro mark isMark
  obtain ⟨pattern, value⟩ := within mark isMark
  exact ⟨(List.suffix_cons p ps).trans pattern, (List.suffix_cons v vs).trans value⟩

theorem within_self (value : List α) (pattern : List (PatternItem α)) :
    ∀ mark ∈ some (pattern, value), pattern <:+ mark.1 ∧ value <:+ mark.2 := by
  intro mark isMark
  obtain rfl := Option.some.inj isMark
  exact ⟨List.suffix_rfl, List.suffix_rfl⟩

/-- Let the last wildcard take one element more. -/
def comeBack : Option (List (PatternItem α) × List α) → Bool ⊕ PatternSearch α
  | some (pattern, _ :: value) =>
      .inr ⟨value, pattern, some (pattern, value), within_self value pattern⟩
  | _ => .inl false

/-- The item takes the element as it stands. -/
def Takes (shy v : α) : PatternItem α → Prop
  | .char c => c = v
  | .one => True
  | .any => shy = v

instance [DecidableEq α] (shy v : α) (p : PatternItem α) : Decidable (Takes shy v p) :=
  match p with
  | .char c => inferInstanceAs (Decidable (c = v))
  | .one => inferInstanceAs (Decidable True)
  | .any => inferInstanceAs (Decidable (shy = v))

/-- The answer, or the state after one turn. -/
def step [DecidableEq α] (shy : α) : PatternSearch α → Bool ⊕ PatternSearch α
  | ⟨[], pattern, _, _⟩ => .inl (pattern.dropWhile (· = .any)).isEmpty
  | ⟨_ :: _, [], wildcard, _⟩ => comeBack wildcard
  | ⟨v :: vs, p :: ps, wildcard, within⟩ =>
      if Takes shy v p then .inr ⟨vs, ps, wildcard, within_tail within⟩
      else if p = .any then .inr ⟨v :: vs, ps, some (ps, v :: vs), within_self (v :: vs) ps⟩
      else comeBack wildcard

/-- How much pattern is left behind the last wildcard and how much of the value that leaves, and
    how much of the value is left. -/
def measure (s : PatternSearch α) : Nat ×ₗ Nat ×ₗ Nat :=
  toLex ((s.wildcard.map (·.1.length)).getD s.pattern.length,
    toLex ((s.wildcard.map (·.2.length)).getD 0, s.value.length))

section
variable {shy : α} {s next : PatternSearch α}

theorem comeBack_measure {wildcard : Option (List (PatternItem α) × List α)}
    (same : s.wildcard = wildcard) (h : comeBack wildcard = .inr next) :
    next.measure < s.measure := by
  unfold comeBack at h
  split at h
  case h_1 pattern _ value =>
    obtain rfl := Sum.inr.inj h
    simp [measure, same, Prod.Lex.toLex_lt_toLex]
  case h_2 => cases h

theorem step_measure [DecidableEq α] (h : s.step shy = .inr next) :
    next.measure < s.measure := by
  unfold step at h
  split at h
  case h_1 => cases h
  case h_2 => exact comeBack_measure rfl h
  case h_3 v vs p ps wildcard within =>
    split at h
    case isTrue =>
      obtain rfl := Sum.inr.inj h
      cases wildcard <;> simp [measure, Prod.Lex.toLex_lt_toLex]
    case isFalse =>
      split at h
      case isTrue =>
        obtain rfl := Sum.inr.inj h
        cases wildcard with
        | none => simp [measure, Prod.Lex.toLex_lt_toLex]
        | some mark =>
            have shorter := (within mark rfl).1.length_le
            rw [List.length_cons] at shorter
            simp only [measure, Prod.Lex.toLex_lt_toLex, Option.map_some, Option.getD_some]
            exact .inl shorter
      case isFalse => exact comeBack_measure rfl h

/-- The rest of the pattern matches the rest of the value, or the pattern behind the last wildcard
    matches from a later place on. -/
def Accepts (shy : α) (s : PatternSearch α) : Prop :=
  Splits (TakesShy shy) s.pattern s.value ∨
    ∃ mark ∈ s.wildcard, ∃ v start, v :: start <:+ mark.2 ∧ Splits (TakesShy shy) mark.1 start

/-- The rests were reached from the last wildcard without coming back. -/
def Scanned (shy : α) (s : PatternSearch α) : Prop :=
  ∀ mark ∈ s.wildcard, Scans shy mark.1 mark.2 s.pattern s.value

/-- What matches from a later place on matches what the scan has left. -/
theorem Scanned.exchange (scanned : s.Scanned shy) {mark} (isMark : mark ∈ s.wildcard) {v : α}
    {start : List α} (suffix : v :: start <:+ mark.2)
    (later : Splits (TakesShy shy) mark.1 start) :
    ∃ rest, rest <:+ s.value ∧ Splits (TakesShy shy) s.pattern rest :=
  (scanned mark isMark).exchange ((List.suffix_cons v start).trans suffix) later

theorem comeBack_spec {wildcard : Option (List (PatternItem α) × List α)}
    (same : s.wildcard = wildcard) (fails : ¬Splits (TakesShy shy) s.pattern s.value) :
    match comeBack wildcard with
    | .inl result => (result = true ↔ s.Accepts shy)
    | .inr next => next.Scanned shy ∧ (next.Accepts shy ↔ s.Accepts shy) := by
  unfold comeBack Accepts
  rw [or_iff_right fails, same]
  split
  case h_1 result taken =>
    split at taken
    case h_1 => cases taken
    case h_2 noRest =>
      obtain rfl := Sum.inl.inj taken
      refine iff_of_false Bool.false_ne_true ?_
      rintro ⟨⟨pattern, value⟩, isMark, v, start, suffix, -⟩
      cases value with
      | nil => simp at suffix
      | cons w value => exact noRest pattern w value isMark
  case h_2 next taken =>
    split at taken
    case h_2 => cases taken
    case h_1 pattern w value =>
      obtain rfl := Sum.inr.inj taken
      constructor
      · rintro mark isMark
        obtain rfl := Option.some.inj isMark
        exact .refl
      · constructor
        · rintro (here | ⟨mark, isMark, v, start, suffix, later⟩)
          · exact ⟨_, rfl, w, value, List.suffix_rfl, here⟩
          · obtain rfl := Option.some.inj isMark
            exact ⟨_, rfl, v, start, suffix.trans (List.suffix_cons w value), later⟩
        · rintro ⟨mark, isMark, v, start, suffix, later⟩
          obtain rfl := Option.some.inj isMark
          rcases List.suffix_cons_iff.mp suffix with whole | rest
          · obtain ⟨-, rfl⟩ := List.cons.inj whole
            exact .inl later
          · exact .inr ⟨_, rfl, v, start, rest, later⟩

/-- An item that takes the next element without coming back. -/
theorem advance_spec {v : α} {vs : List α} {p : PatternItem α} {ps}
    {wildcard : Option (List (PatternItem α) × List α)} {within within'} (takes : Takes shy v p)
    (scanned : Scanned shy ⟨v :: vs, p :: ps, wildcard, within⟩) :
    Scanned shy ⟨vs, ps, wildcard, within'⟩ ∧
      (Accepts shy ⟨vs, ps, wildcard, within'⟩ ↔
        Accepts shy ⟨v :: vs, p :: ps, wildcard, within⟩) := by
  constructor
  · intro mark isMark
    have before := scanned mark isMark
    cases p with
    | char c =>
        obtain rfl : c = v := takes
        exact .char before
    | one => exact .one before
    | any =>
        obtain rfl : shy = v := takes
        exact .any before
  · unfold Accepts
    refine or_congr_left (Iff.symm ?_)
    cases p with
    | char c =>
        obtain rfl : c = v := takes
        simp [Splits.char_iff]
    | one => simp [Splits.one_iff]
    | any =>
        obtain rfl : shy = v := takes
        exact splits_any_shy

/-- A wildcard in front of another element becomes the last one. What matches from a later place
    on matches behind it. -/
theorem mark_spec {v : α} {vs : List α} {ps}
    {wildcard : Option (List (PatternItem α) × List α)} {within within'} (other : shy ≠ v)
    (scanned : Scanned shy ⟨v :: vs, .any :: ps, wildcard, within⟩) :
    Scanned shy ⟨v :: vs, ps, some (ps, v :: vs), within'⟩ ∧
      (Accepts shy ⟨v :: vs, ps, some (ps, v :: vs), within'⟩ ↔
        Accepts shy ⟨v :: vs, .any :: ps, wildcard, within⟩) := by
  have first : (v :: vs).head? ≠ some shy := by simpa using Ne.symm other
  constructor
  · intro mark isMark
    obtain rfl := Option.some.inj isMark
    exact .refl
  · have accepts : Accepts shy ⟨v :: vs, ps, some (ps, v :: vs), within'⟩ ↔
        ∃ rest, rest <:+ v :: vs ∧ Splits (TakesShy shy) ps rest := by
      constructor
      · rintro (here | ⟨mark, isMark, w, start, suffix, later⟩)
        · exact ⟨_, List.suffix_rfl, here⟩
        · obtain rfl := Option.some.inj isMark
          exact ⟨start, (List.suffix_cons w start).trans suffix, later⟩
      · rintro ⟨rest, suffix, later⟩
        rcases List.suffix_cons_iff.mp suffix with rfl | shorter
        · exact .inl later
        · obtain ⟨front, rfl⟩ := shorter
          refine .inr ⟨_, rfl, (v :: front).getLast (List.cons_ne_nil _ _), rest, ?_, later⟩
          refine ⟨(v :: front).dropLast, ?_⟩
          rw [List.append_cons, List.dropLast_concat_getLast, List.cons_append]
    rw [accepts]
    constructor
    · intro split
      exact .inl ((splits_any_of_ne first).mpr split)
    · rintro (here | ⟨mark, isMark, w, start, suffix, later⟩)
      · exact (splits_any_of_ne first).mp here
      · obtain ⟨rest, shorter, behind⟩ := scanned.exchange isMark suffix later
        obtain ⟨taken, rest', rfl, -, later⟩ := Splits.any_iff.mp behind
        exact ⟨rest', (List.suffix_append _ _).trans shorter, later⟩

theorem splits_of_takes_fails {v : α} {vs : List α} {p : PatternItem α} {ps}
    (other : ¬Takes shy v p) (noWildcard : p ≠ .any) :
    ¬Splits (TakesShy shy) (p :: ps) (v :: vs) := by
  cases p with
  | char c =>
      have differ : ¬v = c := fun same => other same.symm
      simp [Splits.char_iff, differ]
  | one => exact absurd True.intro other
  | any => exact absurd rfl noWildcard

/-- One turn keeps what is accepted, and an answer says whether it is. -/
theorem step_spec [DecidableEq α] (scanned : s.Scanned shy) :
    match s.step shy with
    | .inl result => (result = true ↔ s.Accepts shy)
    | .inr next => next.Scanned shy ∧ (next.Accepts shy ↔ s.Accepts shy) := by
  obtain ⟨value, pattern, wildcard, within⟩ := s
  cases value with
  | nil =>
      change (pattern.dropWhile (· = .any)).isEmpty = true ↔ _
      have ended : (pattern.dropWhile (· = .any)).isEmpty = true ↔
          Splits (TakesShy shy) pattern [] := by
        rw [splits_nil, List.isEmpty_iff, List.dropWhile_eq_nil_iff]
        simp
      rw [ended]
      constructor
      · exact .inl
      · rintro (here | ⟨mark, isMark, w, start, suffix, later⟩)
        · exact here
        · obtain ⟨rest, empty, behind⟩ := scanned.exchange isMark suffix later
          obtain rfl := List.suffix_nil.mp empty
          exact behind
  | cons v vs =>
      cases pattern with
      | nil =>
          refine comeBack_spec (s := ⟨v :: vs, [], wildcard, within⟩) rfl ?_
          simp [Splits.nil_iff]
      | cons p ps =>
          by_cases takes : Takes shy v p
          case pos =>
            rw [step, if_pos takes]
            exact advance_spec takes scanned
          case neg =>
            rw [step, if_neg takes]
            by_cases isAny : p = .any
            case pos =>
              subst isAny
              rw [if_pos rfl]
              exact mark_spec takes scanned
            case neg =>
              rw [if_neg isAny]
              exact comeBack_spec (s := ⟨v :: vs, p :: ps, wildcard, within⟩) rfl
                (splits_of_takes_fails takes isAny)

end

/-- A loop whose turns are turns of the search accepts what can be matched without coming back to
    any wildcard but the last. -/
theorem loop_iff {σ : Type*} [DecidableEq α] {shy : α} {search : σ → PatternSearch α}
    {turn : σ → Bool ⊕ σ} {loop : σ → Bool}
    (turns : ∀ s, (turn s).map id search = (search s).step shy)
    (loops : ∀ s, loop s = (turn s).elim id loop) (s : σ) (scanned : (search s).Scanned shy) :
    loop s = true ↔ (search s).Accepts shy := by
  -- The induction is on the measure of the search, which every turn lowers.
  induction same : (search s).measure using WellFoundedLT.induction generalizing s with
  | ind n ih =>
      have spec := step_spec scanned
      rw [← turns s] at spec
      have lower : ∀ next, (turn s).map id search = .inr next →
          next.measure < (search s).measure := by
        intro next taken
        rw [turns s] at taken
        exact step_measure taken
      rw [loops s]
      cases taken : turn s with
      | inl result =>
          rw [taken] at spec
          exact spec
      | inr next =>
          rw [taken] at spec lower
          obtain ⟨scanned', keeps⟩ := spec
          have less := lower _ rfl
          rw [same] at less
          exact (ih _ less next scanned' rfl).trans keeps

/-- What is accepted at the start, where there is no wildcard to come back to. -/
theorem accepts_start {shy : α} {value : List α} {pattern : List (PatternItem α)} {within} :
    Accepts shy ⟨value, pattern, none, within⟩ ↔ Splits (TakesShy shy) pattern value := by
  constructor
  · rintro (here | ⟨mark, isMark, -⟩)
    · exact here
    · cases isMark
  · exact .inl

theorem scanned_start {shy : α} {value : List α} {pattern : List (PatternItem α)} {within} :
    Scanned shy ⟨value, pattern, none, within⟩ := by
  intro mark isMark
  cases isMark

end PatternSearch

end FleetRMW.Lib
