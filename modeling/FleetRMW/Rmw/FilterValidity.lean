import FleetRMW.Rmw.Filter

/-! # A filter is valid for every payload or for none

Two evaluations of an expression with the same parameters read the same tokens and find it valid
or invalid together, whatever the fields are.
-/

namespace FleetRMW.Rmw

open Lib

namespace ContentFilterExpressionParser

variable {p₁ p₂ : ContentFilterExpressionParser} {s : ParserState} {found found' : Option Bytes}
  {negate : Bool}

/-! ## Predicates -/

theorem parseValue_eq (same : p₁.parameters = p₂.parameters) :
    p₁.parseValue = p₂.parseValue := by
  funext s
  unfold parseValue
  rw [same]

theorem parseReversedComparisonPredicate_state (same : p₁.parameters = p₂.parameters) :
    (p₁.parseReversedComparisonPredicate s).2 = (p₂.parseReversedComparisonPredicate s).2 := by
  unfold parseReversedComparisonPredicate
  rw [parseValue_eq same]
  cases p₂.parseValue s with
  | mk lhsValue s' =>
      cases lhsValue with
      | none => rfl
      | some lhsValue =>
          dsimp only
          split
          · rfl
          · split
            · rfl
            · cases p₁.fields.get? s'.advance.current.text <;>
                cases p₂.fields.get? s'.advance.current.text <;> rfl

theorem parseNull_state : (parseNull found s).2 = (parseNull found' s).2 := by
  unfold parseNull
  dsimp only
  split <;> rfl

theorem parseBetween_state (same : p₁.parameters = p₂.parameters) :
    (p₁.parseBetween found negate s).2 = (p₂.parseBetween found' negate s).2 := by
  unfold parseBetween
  rw [parseValue_eq same]
  dsimp only
  cases (p₂.parseValue s).1 with
  | none => rfl
  | some lower =>
      cases (p₂.parseValue ((p₂.parseValue s).2.expect .logicalAnd).2).1 with
      | none => rfl
      | some upper => cases found <;> cases found' <;> rfl

section InValues

variable {parser : ContentFilterExpressionParser} {any : Bool} {s' : ParserState} {expected : Bytes}

theorem parseInValues_unreadable (read : parser.parseValue s = (none, s')) :
    parser.parseInValues found any s = (none, s') := by
  rw [parseInValues, read]

theorem parseInValues_comma (read : parser.parseValue s = (some expected, s'))
    (comma : s'.current.kind = .comma) :
    parser.parseInValues found any s =
      parser.parseInValues found (any || found = some expected) s'.advance := by
  rw [parseInValues, read]
  exact if_pos comma

theorem parseInValues_last (read : parser.parseValue s = (some expected, s'))
    (noComma : s'.current.kind ≠ .comma) :
    parser.parseInValues found any s = (some (any || found = some expected), s') := by
  rw [parseInValues, read]
  exact if_neg noComma

end InValues

/-- Whether all values can be read, and the state behind them. -/
theorem parseInValues_state (same : p₁.parameters = p₂.parameters) {any any' : Bool} :
    (p₁.parseInValues found any s).1.isSome = (p₂.parseInValues found' any' s).1.isSome ∧
      (p₁.parseInValues found any s).2 = (p₂.parseInValues found' any' s).2 := by
  fun_induction parseInValues p₁ found any s generalizing any' with
  | case1 any s s' read =>
      rw [parseValue_eq same] at read
      rw [parseInValues_unreadable read]
      exact ⟨rfl, rfl⟩
  | case2 any s expected s' read _ comma =>
      rw [parseValue_eq same] at read
      rename_i ih
      rw [parseInValues_comma read comma]
      exact ih
  | case3 any s expected s' read _ =>
      rw [parseValue_eq same] at read
      rename_i noComma
      rw [parseInValues_last read noComma]
      exact ⟨rfl, rfl⟩

theorem parseIn_state (same : p₁.parameters = p₂.parameters) :
    (p₁.parseIn found negate s).2 = (p₂.parseIn found' negate s).2 := by
  unfold parseIn
  dsimp only
  split
  · rfl
  · have readable : (p₁.parseInValues found false (s.expect .leftParenthesis).2).1.isSome =
        (p₂.parseInValues found' false (s.expect .leftParenthesis).2).1.isSome :=
      (parseInValues_state same).1
    have state : (p₁.parseInValues found false (s.expect .leftParenthesis).2).2 =
        (p₂.parseInValues found' false (s.expect .leftParenthesis).2).2 :=
      (parseInValues_state same).2
    cases read : p₁.parseInValues found false (s.expect .leftParenthesis).2 with
    | mk any left =>
        cases read' : p₂.parseInValues found' false (s.expect .leftParenthesis).2 with
        | mk any' left' =>
            rw [read, read'] at readable state
            obtain rfl : left = left' := state
            cases any with
            | none =>
                cases any' with
                | none => rfl
                | some any' => cases readable
            | some any =>
                cases any' with
                | none => cases readable
                | some any' => cases found <;> cases found' <;> rfl

theorem parseLike_state (same : p₁.parameters = p₂.parameters) :
    (p₁.parseLike found negate s).2 = (p₂.parseLike found' negate s).2 := by
  unfold parseLike
  rw [parseValue_eq same]
  cases p₂.parseValue s with
  | mk pattern s' =>
      cases pattern with
      | none => rfl
      | some pattern =>
          dsimp only
          split
          · split <;> rfl
          · rfl

theorem parseComparison_state (same : p₁.parameters = p₂.parameters) :
    (p₁.parseComparison found s).2 = (p₂.parseComparison found' s).2 := by
  unfold parseComparison
  rw [parseValue_eq same]
  dsimp only
  split
  · rfl
  · cases p₂.parseValue s.advance with
    | mk expected s' =>
        cases expected with
        | none => rfl
        | some expected => cases found <;> cases found' <;> rfl

theorem parsePredicate_state (same : p₁.parameters = p₂.parameters) (s : ParserState) :
    (p₁.parsePredicate s).2 = (p₂.parsePredicate s).2 := by
  unfold parsePredicate
  dsimp only
  split
  · exact parseReversedComparisonPredicate_state same
  · split
    · rfl
    · split
      · exact parseNull_state
      · split
        · exact parseBetween_state same
        · split
          · exact parseIn_state same
          · split
            · exact parseLike_state same
            · split
              · rfl
              · exact parseComparison_state same

/-! ## Expressions -/

/-- What the parts of an expression leave does not depend on the fields. -/
structure SameStates (p₁ p₂ : ContentFilterExpressionParser) (s : ParserState) : Prop where
  or_ : (p₁.parseOrExpression s).2.1 = (p₂.parseOrExpression s).2.1
  orRest : ∀ result result', (p₁.parseOrRest result s).2.1 = (p₂.parseOrRest result' s).2.1
  and_ : (p₁.parseAndExpression s).2.1 = (p₂.parseAndExpression s).2.1
  andRest : ∀ result result', (p₁.parseAndRest result s).2.1 = (p₂.parseAndRest result' s).2.1
  not_ : (p₁.parseNotExpression s).2.1 = (p₂.parseNotExpression s).2.1
  primary : (p₁.parsePrimaryExpression s).2.1 = (p₂.parsePrimaryExpression s).2.1

section Parts

variable (same : p₁.parameters = p₂.parameters)
  (ih : ∀ s', s'.tokens.length < s.tokens.length → SameStates p₁ p₂ s')
include same ih

theorem parsePrimaryExpression_state :
    (p₁.parsePrimaryExpression s).2.1 = (p₂.parsePrimaryExpression s).2.1 := by
  rw [parsePrimaryExpression.eq_def p₁ s, parsePrimaryExpression.eq_def p₂ s]
  split
  · rename_i isParenthesis
    have inner := (ih s.advance (advance_of_kind isParenthesis (by decide))).or_
    dsimp only
    rw [inner]
  · exact parsePredicate_state same s

theorem parseNotExpression_state :
    (p₁.parseNotExpression s).2.1 = (p₂.parseNotExpression s).2.1 := by
  rw [parseNotExpression.eq_def p₁ s, parseNotExpression.eq_def p₂ s]
  split
  · rename_i isNot
    exact (ih s.advance (advance_of_kind isNot (by decide))).not_
  · exact parsePrimaryExpression_state same ih

omit same in
theorem parseAndRest_state (result result' : ContentFilterTruth) :
    (p₁.parseAndRest result s).2.1 = (p₂.parseAndRest result' s).2.1 := by
  rw [parseAndRest.eq_def p₁ result s, parseAndRest.eq_def p₂ result' s]
  split
  · rename_i isAnd
    have shorter := advance_of_kind isAnd (by decide)
    have right := (ih s.advance shorter).not_
    have rest := (ih _ ((p₁.parseNotExpression s.advance).2.2.trans_lt shorter)).andRest
    dsimp only
    rw [← right]
    exact rest _ _
  · rfl

theorem parseAndExpression_state :
    (p₁.parseAndExpression s).2.1 = (p₂.parseAndExpression s).2.1 := by
  have first := parseNotExpression_state same ih
  have notLonger := (p₁.parseNotExpression s).2.2
  rw [parseAndExpression.eq_def p₁ s, parseAndExpression.eq_def p₂ s]
  dsimp only
  rw [← first]
  exact parseAndRest_state (fun s' shorter => ih s' (shorter.trans_le notLonger)) _ _

omit same in
theorem parseOrRest_state (result result' : ContentFilterTruth) :
    (p₁.parseOrRest result s).2.1 = (p₂.parseOrRest result' s).2.1 := by
  rw [parseOrRest.eq_def p₁ result s, parseOrRest.eq_def p₂ result' s]
  split
  · rename_i isOr
    have shorter := advance_of_kind isOr (by decide)
    have right := (ih s.advance shorter).and_
    have rest := (ih _ ((p₁.parseAndExpression s.advance).2.2.trans_lt shorter)).orRest
    dsimp only
    rw [← right]
    exact rest _ _
  · rfl

theorem parseOrExpression_state :
    (p₁.parseOrExpression s).2.1 = (p₂.parseOrExpression s).2.1 := by
  have first := parseAndExpression_state same ih
  have notLonger := (p₁.parseAndExpression s).2.2
  rw [parseOrExpression.eq_def p₁ s, parseOrExpression.eq_def p₂ s]
  dsimp only
  rw [← first]
  exact parseOrRest_state (fun s' shorter => ih s' (shorter.trans_le notLonger)) _ _

theorem sameStates_of_shorter : SameStates p₁ p₂ s where
  or_ := parseOrExpression_state same ih
  orRest := parseOrRest_state ih
  and_ := parseAndExpression_state same ih
  andRest := parseAndRest_state ih
  not_ := parseNotExpression_state same ih
  primary := parsePrimaryExpression_state same ih

end Parts

theorem parseExpressions_state (same : p₁.parameters = p₂.parameters) (s : ParserState) :
    SameStates p₁ p₂ s := by
  induction length : s.tokens.length using Nat.strong_induction_on generalizing s with
  | _ n ih =>
      apply sameStates_of_shorter same
      intro s' shorter
      exact ih _ (length ▸ shorter) s' rfl

theorem evaluate_state (same : p₁.parameters = p₂.parameters) (expression : Bytes) :
    (p₁.evaluate expression).2 = (p₂.evaluate expression).2 := by
  unfold evaluate evaluateTokens
  dsimp only
  rw [(parseExpressions_state same _).or_]

end ContentFilterExpressionParser

/-- The fields change neither which tokens an evaluation reads nor whether it is valid, and what
    is accepted without fields is valid for those of every payload. -/
theorem filter_validity_ignores_fields (outOfRange : Number → Bool) (expression : Bytes)
    (parameters : List Bytes) (fields fields' : Dict Bytes Bytes) :
    let evaluation (fields : Dict Bytes Bytes) :=
      ContentFilterExpressionParser.evaluate ⟨fields, parameters, outOfRange⟩ expression
    (evaluation fields).2.tokens = (evaluation fields').2.tokens ∧
      (evaluation fields).2.valid = (evaluation fields').2.valid ∧
      (contentFilterExpressionIsValid outOfRange expression parameters =
        (decide (expression = []) || (evaluation fields).2.valid)) := by
  intro evaluation
  have state (fields fields') : (evaluation fields).2 = (evaluation fields').2 :=
    @ContentFilterExpressionParser.evaluate_state ⟨fields, parameters, outOfRange⟩
      ⟨fields', parameters, outOfRange⟩ rfl expression
  refine ⟨congrArg _ (state fields fields'), congrArg _ (state fields fields'), ?_⟩
  unfold contentFilterExpressionIsValid
  split
  · rename_i empty
    rw [decide_eq_true empty, Bool.true_or]
  · rename_i nonempty
    rw [decide_eq_false nonempty, Bool.false_or, state fields []]

end FleetRMW.Rmw
