import FleetRMW.Rmw.FilterValidity

/-! # The language of content filters

A filter says an expression: predicates over the fields of a payload, joined by `AND`, `OR` and
`NOT` and read in three truth values. The grammar says which tokens spell which expression, where
`NOT` binds before `AND` and `AND` before `OR` and both group to the left. The recursive descent
finds a filter valid when its tokens spell some expression, and answers what that expression is
worth.
-/

namespace FleetRMW.Rmw

open Lib

/-! ## Expressions -/

inductive ContentFilterPredicate where
  | comparison (field : Bytes) (operation : ContentFilterTokenKind) (value : Bytes)
  | null (field : Bytes) (negate : Bool)
  | between (field : Bytes) (negate : Bool) (lower upper : Bytes)
  | oneOf (field : Bytes) (negate : Bool) (values : List Bytes)
  | like (field : Bytes) (negate : Bool) (pattern : Bytes) (escape : UInt8)

inductive ContentFilterExpression where
  | predicate (p : ContentFilterPredicate)
  | not_ (e : ContentFilterExpression)
  | and_ (left right : ContentFilterExpression)
  | or_ (left right : ContentFilterExpression)

/-- A number between two numbers; what is no number is not between any. -/
def inRange (outOfRange : Number → Bool) (actual lower upper : Bytes) : Bool :=
  match parseNumber outOfRange actual, parseNumber outOfRange lower,
      parseNumber outOfRange upper with
  | some actual, some lower, some upper => lower.le actual && actual.le upper
  | _, _, _ => false

/-- What a predicate is worth; that of a field which the payload has not is unknown. -/
def ContentFilterPredicate.truth (parser : ContentFilterExpressionParser) :
    ContentFilterPredicate → ContentFilterTruth
  | comparison field operation value =>
      ((parser.fields.get? field).map fun actual =>
        contentFilterTruth (parser.compare actual value operation)).getD .unknown
  | null field negate =>
      let isNull := (parser.fields.get? field).all (·.isEmpty)
      contentFilterTruth (if negate then !isNull else isNull)
  | between field negate lower upper =>
      ((parser.fields.get? field).map fun actual =>
        ContentFilterExpressionParser.negated negate
          (contentFilterTruth (inRange parser.outOfRange actual lower upper))).getD .unknown
  | oneOf field negate values =>
      ((parser.fields.get? field).map fun actual =>
        ContentFilterExpressionParser.negated negate
          (contentFilterTruth (values.any (actual = ·)))).getD .unknown
  | like field negate pattern escape =>
      ((parser.fields.get? field).map fun actual =>
        ContentFilterExpressionParser.negated negate
          (contentFilterTruth (contentFilterLike actual pattern escape))).getD .unknown

def ContentFilterExpression.truth (parser : ContentFilterExpressionParser) :
    ContentFilterExpression → ContentFilterTruth
  | predicate p => p.truth parser
  | not_ e => contentFilterNot (e.truth parser)
  | and_ left right => contentFilterAnd (left.truth parser) (right.truth parser)
  | or_ left right => contentFilterOr (left.truth parser) (right.truth parser)

/-! ## The grammar -/

section Grammar

variable (parameters : List Bytes)

/-- The tokens of a value; a parameter has to be one of the filter's. -/
inductive SpellsValue : ContentFilterToken → Bytes → Prop where
  | word {text} : SpellsValue ⟨.word, text⟩ text
  | string {text} : SpellsValue ⟨.stringValue, text⟩ text
  | parameter {text value} : (parseSizeToken (text.drop 1)).bind (parameters[·]?) = some value →
      SpellsValue ⟨.parameter, text⟩ value

inductive SpellsValues : List ContentFilterToken → List Bytes → Prop where
  | last {token value} : SpellsValue parameters token value → SpellsValues [token] [value]
  | cons {token value text tokens values} : SpellsValue parameters token value →
      SpellsValues tokens values → SpellsValues (token :: ⟨.comma, text⟩ :: tokens) (value :: values)

inductive SpellsNegation : List ContentFilterToken → Bool → Prop where
  | absent : SpellsNegation [] false
  | present {text} : SpellsNegation [⟨.logicalNot, text⟩] true

open ContentFilterPredicate in
inductive SpellsPredicate : List ContentFilterToken → ContentFilterPredicate → Prop where
  | comparison {field operation text token value} : operation.isComparison = true →
      SpellsValue parameters token value →
      SpellsPredicate [⟨.word, field⟩, ⟨operation, text⟩, token] (comparison field operation value)
  | reversed {field operation text token value} : token.kind ≠ .word →
      SpellsValue parameters token value → operation.isComparison = true →
      SpellsPredicate [token, ⟨operation, text⟩, ⟨.word, field⟩]
        (comparison field (reverseComparison operation) value)
  | null {field text text' nots negate} : SpellsNegation nots negate →
      SpellsPredicate (⟨.word, field⟩ :: ⟨.is_, text⟩ :: (nots ++ [⟨.nullValue, text'⟩]))
        (null field negate)
  | between {field text text' nots negate token lower token' upper} : SpellsNegation nots negate →
      SpellsValue parameters token lower → SpellsValue parameters token' upper →
      SpellsPredicate
        (⟨.word, field⟩ :: (nots ++ [⟨.between, text⟩, token, ⟨.logicalAnd, text'⟩, token']))
        (between field negate lower upper)
  | oneOf {field text text' text'' nots negate tokens values} : SpellsNegation nots negate →
      SpellsValues parameters tokens values →
      SpellsPredicate (⟨.word, field⟩ :: (nots ++ ⟨.in_, text⟩ :: ⟨.leftParenthesis, text'⟩ ::
        (tokens ++ [⟨.rightParenthesis, text''⟩]))) (oneOf field negate values)
  | like {field text nots negate token pattern} : SpellsNegation nots negate →
      SpellsValue parameters token pattern →
      SpellsPredicate (⟨.word, field⟩ :: (nots ++ [⟨.like, text⟩, token]))
        (like field negate pattern 0)
  | likeEscape {field text text' nots negate token pattern token' escape} :
      SpellsNegation nots negate → SpellsValue parameters token pattern →
      SpellsValue parameters token' [escape] →
      SpellsPredicate (⟨.word, field⟩ :: (nots ++ [⟨.like, text⟩, token, ⟨.escape, text'⟩, token']))
        (like field negate pattern escape)

/-- The parts of the grammar, each of which is one of the next. -/
inductive ContentFilterLevel where
  | primary
  | negation
  | conjunction
  | disjunction

inductive Spells : ContentFilterLevel → List ContentFilterToken → ContentFilterExpression → Prop where
  | predicate {tokens p} : SpellsPredicate parameters tokens p →
      Spells .primary tokens (.predicate p)
  | parentheses {tokens e text text'} : Spells .disjunction tokens e →
      Spells .primary (⟨.leftParenthesis, text⟩ :: (tokens ++ [⟨.rightParenthesis, text'⟩])) e
  | ofPrimary {tokens e} : Spells .primary tokens e → Spells .negation tokens e
  | not_ {tokens e text} : Spells .negation tokens e →
      Spells .negation (⟨.logicalNot, text⟩ :: tokens) (.not_ e)
  | ofNegation {tokens e} : Spells .negation tokens e → Spells .conjunction tokens e
  | and_ {tokens e tokens' e' text} : Spells .conjunction tokens e → Spells .negation tokens' e' →
      Spells .conjunction (tokens ++ ⟨.logicalAnd, text⟩ :: tokens') (.and_ e e')
  | ofConjunction {tokens e} : Spells .conjunction tokens e → Spells .disjunction tokens e
  | or_ {tokens e tokens' e' text} : Spells .disjunction tokens e → Spells .conjunction tokens' e' →
      Spells .disjunction (tokens ++ ⟨.logicalOr, text⟩ :: tokens') (.or_ e e')

end Grammar

/-! ## Predicates -/

namespace ContentFilterExpressionParser

variable {parser : ContentFilterExpressionParser} {s : ParserState} {found : Option Bytes}
  {negate valid : Bool} {rest tokens nots : List ContentFilterToken} {kind : ContentFilterTokenKind}
  {text value : Bytes} {token : ContentFilterToken}

theorem parseValue_spells (spells : SpellsValue parser.parameters token value)
    (rest : List ContentFilterToken) (valid : Bool) :
    parser.parseValue ⟨token :: rest, valid⟩ = (some value, ⟨rest, valid⟩) := by
  cases spells with
  | word | string => rfl
  | parameter among =>
      simp only [parseValue, ParserState.current, List.head?_cons, Option.getD_some, among]
      rfl

variable (parser s) in
/-- A value behind which the parser is still valid was spelled. -/
theorem parseValue_valid (ends : (parser.parseValue s).2.valid = true) :
    ∃ token rest value, s = ⟨token :: rest, true⟩ ∧ SpellsValue parser.parameters token value := by
  obtain ⟨tokens, valid⟩ := s
  cases tokens with
  | nil => cases ends
  | cons token rest =>
      obtain ⟨kind, text⟩ := token
      cases kind with
      | word =>
          cases ends
          exact ⟨_, rest, text, rfl, .word⟩
      | stringValue =>
          cases ends
          exact ⟨_, rest, text, rfl, .string⟩
      | parameter =>
          simp only [parseValue, ParserState.current, List.head?_cons, Option.getD_some] at ends
          split at ends
          case h_1 value among =>
            cases ends
            exact ⟨_, rest, value, rfl, .parameter among⟩
          case h_2 => cases ends
      | _ => cases ends

theorem cons_of_kind (isKind : s.current.kind = kind) (notEnd : kind ≠ .end_) :
    ∃ text more valid, s = ⟨⟨kind, text⟩ :: more, valid⟩ := by
  obtain ⟨tokens, valid⟩ := s
  cases tokens with
  | nil => exact absurd isKind.symm notEnd
  | cons token more =>
      obtain ⟨_, text⟩ := token
      obtain rfl := isKind
      exact ⟨text, more, valid, rfl⟩

theorem expect_valid (ends : (s.expect kind).2.valid = true) (notEnd : kind ≠ .end_) :
    ∃ text rest, s = ⟨⟨kind, text⟩ :: rest, true⟩ := by
  unfold ParserState.expect at ends
  split at ends
  case isTrue isKind =>
    obtain ⟨text, rest, valid, rfl⟩ := cons_of_kind isKind notEnd
    obtain rfl : valid = true := ends
    exact ⟨text, rest, rfl⟩
  case isFalse => cases ends

theorem expect_kind : (ParserState.mk (⟨kind, text⟩ :: rest) valid).expect kind =
    (true, ⟨rest, valid⟩) := if_pos rfl

/-- What `parsePredicate` does behind a field. -/
def parseBehindField (parser : ContentFilterExpressionParser) (found : Option Bytes)
    (s : ParserState) : ContentFilterTruth × ParserState :=
  if s.current.kind = .is_ then parseNull found s.advance
  else
    let (negate, s) := s.matchKind .logicalNot
    if s.current.kind = .between then parser.parseBetween found negate s.advance
    else if s.current.kind = .in_ then parser.parseIn found negate s.advance
    else if s.current.kind = .like then parser.parseLike found negate s.advance
    else if negate then (.unknown, s.invalid)
    else parser.parseComparison found s

theorem parsePredicate_field : parser.parsePredicate ⟨⟨.word, text⟩ :: rest, valid⟩ =
    parser.parseBehindField (parser.fields.get? text) ⟨rest, valid⟩ := rfl

theorem parsePredicate_value (notWord : token.kind ≠ .word)
    (spells : SpellsValue parser.parameters token value) :
    parser.parsePredicate ⟨token :: rest, valid⟩ =
      parser.parseReversedComparisonPredicate ⟨token :: rest, valid⟩ := by
  cases spells with
  | word => exact absurd rfl notWord
  | string | parameter => rfl

theorem parseBehindField_is : parser.parseBehindField found ⟨⟨.is_, text⟩ :: rest, valid⟩ =
    parseNull found ⟨rest, valid⟩ := rfl

theorem parseBehindField_between (negation : SpellsNegation nots negate) :
    parser.parseBehindField found ⟨nots ++ ⟨.between, text⟩ :: rest, valid⟩ =
      parser.parseBetween found negate ⟨rest, valid⟩ := by
  cases negation <;> rfl

theorem parseBehindField_in (negation : SpellsNegation nots negate) :
    parser.parseBehindField found ⟨nots ++ ⟨.in_, text⟩ :: rest, valid⟩ =
      parser.parseIn found negate ⟨rest, valid⟩ := by
  cases negation <;> rfl

theorem parseBehindField_like (negation : SpellsNegation nots negate) :
    parser.parseBehindField found ⟨nots ++ ⟨.like, text⟩ :: rest, valid⟩ =
      parser.parseLike found negate ⟨rest, valid⟩ := by
  cases negation <;> rfl

theorem parseBehindField_comparison (compares : kind.isComparison = true) :
    parser.parseBehindField found ⟨⟨kind, text⟩ :: rest, valid⟩ =
      parser.parseComparison found ⟨⟨kind, text⟩ :: rest, valid⟩ := by
  cases kind <;> first | rfl | cases compares

/-! ### What is spelled is read -/

theorem parseComparison_spells (compares : kind.isComparison = true)
    (spells : SpellsValue parser.parameters token value) :
    parser.parseComparison found ⟨⟨kind, text⟩ :: token :: rest, valid⟩ =
      ((found.map fun actual => contentFilterTruth (parser.compare actual value kind)).getD .unknown,
        ⟨rest, valid⟩) := by
  have read := parseValue_spells spells rest valid
  simp only [parseComparison, ParserState.current, ParserState.advance, List.head?_cons,
    Option.getD_some, compares, List.tail_cons, read]
  cases found <;> rfl

theorem parseReversed_spells {field : Bytes} (compares : kind.isComparison = true)
    (spells : SpellsValue parser.parameters token value) :
    parser.parseReversedComparisonPredicate ⟨token :: ⟨kind, text⟩ :: ⟨.word, field⟩ :: rest, valid⟩ =
      (((parser.fields.get? field).map fun actual =>
        contentFilterTruth (parser.compare actual value (reverseComparison kind))).getD .unknown,
        ⟨rest, valid⟩) := by
  have read := parseValue_spells spells (⟨kind, text⟩ :: ⟨.word, field⟩ :: rest) valid
  simp only [parseReversedComparisonPredicate, read, ParserState.current, ParserState.advance,
    List.head?_cons, Option.getD_some, compares, List.tail_cons]
  cases parser.fields.get? field <;> rfl

theorem parseNull_spells (negation : SpellsNegation nots negate) :
    parseNull found ⟨nots ++ ⟨.nullValue, text⟩ :: rest, valid⟩ =
      (contentFilterTruth (if negate then !found.all (·.isEmpty) else found.all (·.isEmpty)),
        ⟨rest, valid⟩) := by
  cases negation <;> rfl

theorem parseBetween_spells {token' : ContentFilterToken} {lower upper : Bytes}
    (spells : SpellsValue parser.parameters token lower)
    (spells' : SpellsValue parser.parameters token' upper) :
    parser.parseBetween found negate ⟨token :: ⟨.logicalAnd, text⟩ :: token' :: rest, valid⟩ =
      ((found.map fun actual => negated negate
        (contentFilterTruth (inRange parser.outOfRange actual lower upper))).getD .unknown,
        ⟨rest, valid⟩) := by
  simp only [parseBetween, parseValue_spells spells, expect_kind, parseValue_spells spells']
  cases found <;> rfl

theorem parseInValues_spells {values : List Bytes} (found : Option Bytes) (any : Bool)
    (spells : SpellsValues parser.parameters tokens values)
    (closed : (ParserState.mk rest valid).current.kind ≠ .comma) :
    parser.parseInValues found any ⟨tokens ++ rest, valid⟩ =
      (some (any || values.any (found = some ·)), ⟨rest, valid⟩) := by
  induction spells generalizing any with
  | last one =>
      rw [List.singleton_append, parseInValues_last (parseValue_spells one _ _) closed]
      simp only [List.any_cons, List.any_nil, Bool.or_false]
  | cons one _ ih =>
      rw [List.cons_append, List.cons_append, parseInValues_comma (parseValue_spells one _ _) rfl]
      exact (ih _).trans (by rw [List.any_cons, Bool.or_assoc])

theorem parseIn_spells {text' : Bytes} {values : List Bytes}
    (spells : SpellsValues parser.parameters tokens values) :
    parser.parseIn found negate
        ⟨⟨.leftParenthesis, text⟩ :: (tokens ++ ⟨.rightParenthesis, text'⟩ :: rest), valid⟩ =
      ((found.map fun actual => negated negate (contentFilterTruth (values.any (actual = ·)))).getD
        .unknown, ⟨rest, valid⟩) := by
  have closes : (ParserState.mk (⟨.rightParenthesis, text'⟩ :: rest) valid).current.kind ≠ .comma :=
    fun same => by cases same
  have read := parseInValues_spells found false spells closes
  simp only [parseIn, expect_kind, read, Bool.false_or]
  cases found with
  | none => rfl
  | some actual => simp only [Option.some.injEq, reduceCtorEq, if_false, Option.map_some,
      Option.getD_some]; rfl

theorem parseLike_spells (spells : SpellsValue parser.parameters token value)
    (unescaped : (ParserState.mk rest valid).current.kind ≠ .escape) :
    parser.parseLike found negate ⟨token :: rest, valid⟩ =
      ((found.map fun actual => negated negate
        (contentFilterTruth (contentFilterLike actual value 0))).getD .unknown, ⟨rest, valid⟩) := by
  simp only [parseLike, parseValue_spells spells, unescaped, if_false]
  cases found <;> rfl

theorem parseLike_spells_escape {token' : ContentFilterToken} {escape : UInt8}
    (spells : SpellsValue parser.parameters token value)
    (spells' : SpellsValue parser.parameters token' [escape]) :
    parser.parseLike found negate ⟨token :: ⟨.escape, text⟩ :: token' :: rest, valid⟩ =
      ((found.map fun actual => negated negate
        (contentFilterTruth (contentFilterLike actual value escape))).getD .unknown,
        ⟨rest, valid⟩) := by
  have read := parseValue_spells spells' rest valid
  simp only [parseLike, parseValue_spells spells, ParserState.current, ParserState.advance,
    List.head?_cons, Option.getD_some, List.tail_cons, read, if_true]
  cases found <;> rfl

/-- A predicate starts with a field or a value. -/
theorem head_of_predicate {p : ContentFilterPredicate}
    (spells : SpellsPredicate parser.parameters tokens p) : ∃ token rest, tokens = token :: rest ∧
      (token.kind = .word ∨ token.kind = .parameter ∨ token.kind = .stringValue) := by
  cases spells with
  | reversed _ value =>
      refine ⟨_, _, rfl, ?_⟩
      cases value with
      | word => exact .inl rfl
      | string => exact .inr (.inr rfl)
      | parameter => exact .inr (.inl rfl)
  | _ => exact ⟨_, _, rfl, .inl rfl⟩

theorem parsePredicate_spells {p : ContentFilterPredicate}
    (spells : SpellsPredicate parser.parameters tokens p)
    (unescaped : (ParserState.mk rest valid).current.kind ≠ .escape) :
    parser.parsePredicate ⟨tokens ++ rest, valid⟩ = (p.truth parser, ⟨rest, valid⟩) := by
  cases spells with
  | comparison compares value =>
      exact (parseBehindField_comparison compares).trans (parseComparison_spells compares value)
  | reversed notWord value compares =>
      exact (parsePredicate_value notWord value).trans (parseReversed_spells compares value)
  | null negation =>
      simp only [List.cons_append, List.append_assoc, List.nil_append]
      exact parseNull_spells negation
  | between negation lower upper =>
      simp only [List.cons_append, List.append_assoc, List.nil_append]
      exact (parseBehindField_between negation).trans (parseBetween_spells lower upper)
  | oneOf negation values =>
      simp only [List.cons_append, List.append_assoc, List.nil_append]
      exact (parseBehindField_in negation).trans (parseIn_spells values)
  | like negation pattern =>
      simp only [List.cons_append, List.append_assoc, List.nil_append]
      exact (parseBehindField_like negation).trans (parseLike_spells pattern unescaped)
  | likeEscape negation pattern escape =>
      simp only [List.cons_append, List.append_assoc, List.nil_append]
      exact (parseBehindField_like negation).trans (parseLike_spells_escape pattern escape)

/-! ### What is read was spelled -/

theorem parseComparison_valid (ends : (parser.parseComparison found s).2.valid = true) :
    ∃ kind text token rest value, s = ⟨⟨kind, text⟩ :: token :: rest, true⟩ ∧
      kind.isComparison = true ∧ SpellsValue parser.parameters token value := by
  unfold parseComparison at ends
  dsimp only at ends
  split at ends
  case isTrue => cases ends
  case isFalse compares =>
    have compares : s.current.kind.isComparison = true := by simpa using compares
    have behind : (parser.parseValue s.advance).2.valid = true := by
      revert ends
      cases parser.parseValue s.advance with
      | mk value s' => cases value <;> cases found <;> exact id
    obtain ⟨token, rest, value, advanced, spells⟩ := parseValue_valid _ _ behind
    obtain ⟨tokens, valid⟩ := s
    cases tokens with
    | nil => cases compares
    | cons first more =>
        obtain ⟨kind, text⟩ := first
        obtain ⟨rfl, rfl⟩ := ParserState.mk.inj advanced
        exact ⟨kind, text, token, rest, value, rfl, compares, spells⟩

theorem parseReversed_valid (ends : (parser.parseReversedComparisonPredicate s).2.valid = true) :
    ∃ token kind text field rest value, s = ⟨token :: ⟨kind, text⟩ :: ⟨.word, field⟩ :: rest, true⟩ ∧
      kind.isComparison = true ∧ SpellsValue parser.parameters token value := by
  have first : (parser.parseValue s).2.valid = true := by
    revert ends
    unfold parseReversedComparisonPredicate
    cases parser.parseValue s with
    | mk value s' =>
        cases value with
        | none => exact id
        | some value =>
            dsimp only
            split
            · intro ends
              cases ends
            split
            · intro ends
              cases ends
            split <;> exact id
  obtain ⟨token, more, value, rfl, spells⟩ := parseValue_valid _ _ first
  unfold parseReversedComparisonPredicate at ends
  rw [parseValue_spells spells] at ends
  dsimp only at ends
  split at ends
  case isTrue => cases ends
  case isFalse compares =>
    have compares : (ParserState.mk more true).current.kind.isComparison = true := by
      simpa using compares
    split at ends
    case isTrue => cases ends
    case isFalse isField =>
      have isField := Decidable.of_not_not isField
      cases more with
      | nil => cases compares
      | cons operation more =>
          obtain ⟨kind, text⟩ := operation
          cases more with
          | nil => cases isField
          | cons last rest =>
              obtain ⟨_, field⟩ := last
              obtain rfl : _ = ContentFilterTokenKind.word := isField
              exact ⟨token, kind, text, field, rest, value, rfl, compares, spells⟩

theorem matchKind_negation (s : ParserState) : ∃ nots rest negate,
    s = ⟨nots ++ rest, s.valid⟩ ∧ SpellsNegation nots negate ∧
      s.matchKind .logicalNot = (negate, ⟨rest, s.valid⟩) := by
  obtain ⟨tokens, valid⟩ := s
  cases tokens with
  | nil => exact ⟨[], [], false, rfl, .absent, rfl⟩
  | cons token rest =>
      obtain ⟨kind, text⟩ := token
      by_cases isNot : kind = .logicalNot
      · subst isNot
        exact ⟨[⟨.logicalNot, text⟩], rest, true, rfl, .present, rfl⟩
      · exact ⟨[], ⟨kind, text⟩ :: rest, false, rfl, .absent, if_neg isNot⟩

variable (found s) in
theorem parseNull_valid (ends : (parseNull found s).2.valid = true) :
    ∃ nots text rest negate, s = ⟨nots ++ ⟨.nullValue, text⟩ :: rest, true⟩ ∧
      SpellsNegation nots negate := by
  obtain ⟨nots, more, negate, whole, negation, read⟩ := matchKind_negation s
  have behind : ((s.matchKind .logicalNot).2.expect .nullValue).2.valid = true := by
    revert ends
    unfold parseNull
    dsimp only
    split <;> exact id
  rw [read] at behind
  obtain ⟨text, rest, same⟩ := expect_valid behind (by decide)
  obtain ⟨rfl, valid⟩ := ParserState.mk.inj same
  rw [valid] at whole
  exact ⟨nots, text, rest, negate, whole, negation⟩

theorem parseBetween_valid (ends : (parser.parseBetween found negate s).2.valid = true) :
    ∃ token text token' rest lower upper,
      s = ⟨token :: ⟨.logicalAnd, text⟩ :: token' :: rest, true⟩ ∧
      SpellsValue parser.parameters token lower ∧ SpellsValue parser.parameters token' upper := by
  have second : (parser.parseValue ((parser.parseValue s).2.expect .logicalAnd).2).2.valid = true := by
    revert ends
    unfold parseBetween
    dsimp only
    split <;> exact id
  obtain ⟨token', rest, upper, between, spells'⟩ := parseValue_valid _ _ second
  obtain ⟨text, more, first⟩ := expect_valid (by rw [between]) (by decide)
  obtain ⟨token, rest', lower, rfl, spells⟩ := parseValue_valid parser s (by rw [first])
  rw [parseValue_spells spells] at first between
  obtain ⟨rfl, -⟩ := ParserState.mk.inj first
  rw [expect_kind] at between
  obtain ⟨rfl, -⟩ := ParserState.mk.inj between
  exact ⟨token, text, token', rest, lower, upper, rfl, spells, spells'⟩

variable (parser found s) in
theorem parseInValues_valid (any : Bool)
    (ends : (parser.parseInValues found any s).2.valid = true) :
    ∃ tokens rest values, s = ⟨tokens ++ rest, true⟩ ∧
      SpellsValues parser.parameters tokens values ∧
      (ParserState.mk rest true).current.kind ≠ .comma := by
  fun_induction parseInValues parser found any s with
  | case1 any s s' read =>
      obtain ⟨token, rest, value, rfl, spells⟩ := parseValue_valid parser s
        (by rw [read]; exact ends)
      rw [parseValue_spells spells] at read
      cases read
  | case2 any s expected s' read _ comma ih =>
      obtain ⟨tokens, rest, values, advanced, spellsRest, closed⟩ := ih ends
      obtain ⟨token, more, value, rfl, spells⟩ := parseValue_valid parser s (by
        rw [read]
        exact congrArg ParserState.valid advanced)
      rw [parseValue_spells spells] at read
      obtain ⟨-, rfl⟩ := Prod.mk.inj read
      cases more with
      | nil => cases comma
      | cons separator more =>
          obtain ⟨_, text⟩ := separator
          obtain rfl := comma
          obtain ⟨rfl, -⟩ := ParserState.mk.inj advanced
          exact ⟨_, rest, _, rfl, .cons spells spellsRest, closed⟩
  | case3 any s expected s' read _ noComma =>
      obtain ⟨token, rest, value, rfl, spells⟩ := parseValue_valid parser s
        (by rw [read]; exact ends)
      rw [parseValue_spells spells] at read
      obtain ⟨-, rfl⟩ := Prod.mk.inj read
      exact ⟨[token], rest, [value], rfl, .last spells, noComma⟩

theorem parseIn_valid (ends : (parser.parseIn found negate s).2.valid = true) :
    ∃ text tokens text' rest values,
      s = ⟨⟨.leftParenthesis, text⟩ :: (tokens ++ ⟨.rightParenthesis, text'⟩ :: rest), true⟩ ∧
      SpellsValues parser.parameters tokens values := by
  unfold parseIn at ends
  dsimp only at ends
  split at ends
  case isTrue unopened =>
    obtain ⟨text, rest, rfl⟩ := expect_valid ends (by decide)
    rw [expect_kind] at unopened
    cases unopened
  case isFalse =>
    cases read : parser.parseInValues found false (s.expect .leftParenthesis).2 with
    | mk any s' =>
        rw [read] at ends
        have closing : s'.valid = true ∧ ((any.isSome = true) →
            ∃ text rest, s' = ⟨⟨.rightParenthesis, text⟩ :: rest, true⟩) := by
          cases any with
          | none => exact ⟨ends, fun some => by cases some⟩
          | some any =>
              have behind : (s'.expect .rightParenthesis).2.valid = true := by
                revert ends
                dsimp only
                split <;> exact id
              obtain ⟨text, rest, rfl⟩ := expect_valid behind (by decide)
              exact ⟨rfl, fun _ => ⟨text, rest, rfl⟩⟩
        obtain ⟨tokens, more, values, inside, spells, noComma⟩ :=
          parseInValues_valid parser (s.expect .leftParenthesis).2 found false (by rw [read]; exact closing.1)
        obtain ⟨text, rest, rfl⟩ := expect_valid (by rw [inside]) (by decide)
        rw [expect_kind] at inside read
        obtain ⟨rfl, -⟩ := ParserState.mk.inj inside
        rw [parseInValues_spells found false spells noComma] at read
        obtain ⟨rfl, rfl⟩ := Prod.mk.inj read
        obtain ⟨text', rest, same⟩ := closing.2 rfl
        obtain ⟨rfl, -⟩ := ParserState.mk.inj same
        exact ⟨text, tokens, text', rest, values, rfl, spells⟩

theorem parseLike_valid (ends : (parser.parseLike found negate s).2.valid = true) :
    (∃ token rest pattern, s = ⟨token :: rest, true⟩ ∧
      SpellsValue parser.parameters token pattern ∧
      (ParserState.mk rest true).current.kind ≠ .escape) ∨
    ∃ token text token' rest pattern escape,
      s = ⟨token :: ⟨.escape, text⟩ :: token' :: rest, true⟩ ∧
      SpellsValue parser.parameters token pattern ∧ SpellsValue parser.parameters token' [escape] := by
  have first : (parser.parseValue s).2.valid = true := by
    revert ends
    unfold parseLike
    cases parser.parseValue s with
    | mk pattern s' =>
        cases pattern with
        | none => exact id
        | some pattern =>
            dsimp only
            split
            · intro ends
              split at ends
              case h_1 read =>
                obtain ⟨_, _, _, advanced, _⟩ := parseValue_valid parser s'.advance
                  (by rw [read]; exact ends)
                exact congrArg ParserState.valid advanced
              case h_2 => cases ends
            · exact id
  obtain ⟨token, more, pattern, rfl, spells⟩ := parseValue_valid _ _ first
  unfold parseLike at ends
  rw [parseValue_spells spells] at ends
  dsimp only at ends
  split at ends
  case isFalse unescaped => exact .inl ⟨token, more, pattern, rfl, spells, unescaped⟩
  case isTrue escaped =>
    cases more with
    | nil => cases escaped
    | cons keyword more =>
        obtain ⟨_, text⟩ := keyword
        obtain rfl : _ = ContentFilterTokenKind.escape := escaped
        split at ends
        case h_1 escape s' read =>
          obtain ⟨token', rest, value, advanced, spells'⟩ := parseValue_valid parser
            (ParserState.mk (⟨.escape, text⟩ :: more) true).advance (by rw [read]; exact ends)
          obtain ⟨rfl, -⟩ := ParserState.mk.inj advanced
          have same := read.symm.trans (parseValue_spells spells' _ _)
          obtain rfl : [escape] = value := Option.some.inj (Prod.mk.inj same).1
          exact .inr ⟨token, text, token', rest, pattern, escape, rfl, spells, spells'⟩
        case h_2 => cases ends

/-- The same behind a predicate's field. -/
theorem parseBehindField_valid {field : Bytes}
    (ends : (parser.parseBehindField (parser.fields.get? field) s).2.valid = true) :
    ∃ tokens p rest, s = ⟨tokens ++ rest, true⟩ ∧
      SpellsPredicate parser.parameters (⟨.word, field⟩ :: tokens) p ∧
      parser.parseBehindField (parser.fields.get? field) s = (p.truth parser, ⟨rest, true⟩) := by
  by_cases isNull : s.current.kind = .is_
  case pos =>
    obtain ⟨text, more, valid, rfl⟩ := cons_of_kind isNull (by decide)
    obtain ⟨nots, text', rest, negate, same, negation⟩ :=
      parseNull_valid ⟨more, valid⟩ (parser.fields.get? field) ends
    obtain ⟨rfl, rfl⟩ := ParserState.mk.inj same
    refine ⟨⟨.is_, text⟩ :: (nots ++ [⟨.nullValue, text'⟩]), _, rest, ?_, .null negation,
      ?_⟩
    · simp only [List.cons_append, List.append_assoc, List.nil_append]
    · exact parseBehindField_is.trans (parseNull_spells negation)
  obtain ⟨nots, more, negate, whole, negation, read⟩ := matchKind_negation s
  unfold parseBehindField at ends
  rw [if_neg isNull, read] at ends
  dsimp only at ends
  split at ends
  case isTrue isBetween =>
    obtain ⟨text, more, valid, same⟩ := cons_of_kind isBetween (by decide)
    obtain ⟨rfl, rfl⟩ := ParserState.mk.inj same
    obtain ⟨token, text', token', rest, lower, upper, same, spells, spells'⟩ :=
      parseBetween_valid ends
    obtain ⟨rfl, valid⟩ := ParserState.mk.inj same
    rw [valid] at whole
    refine ⟨nots ++ [⟨.between, text⟩, token, ⟨.logicalAnd, text'⟩, token'], _, rest, ?_,
      .between negation spells spells', ?_⟩
    · simp only [whole, List.append_assoc, List.cons_append, List.nil_append]
    · rw [whole]
      exact (parseBehindField_between negation).trans (parseBetween_spells spells spells')
  split at ends
  case isTrue isIn =>
    obtain ⟨text, more, valid, same⟩ := cons_of_kind isIn (by decide)
    obtain ⟨rfl, rfl⟩ := ParserState.mk.inj same
    obtain ⟨text', tokens, text'', rest, values, same, spells⟩ := parseIn_valid ends
    obtain ⟨rfl, valid⟩ := ParserState.mk.inj same
    rw [valid] at whole
    refine ⟨nots ++ ⟨.in_, text⟩ :: ⟨.leftParenthesis, text'⟩ ::
      (tokens ++ [⟨.rightParenthesis, text''⟩]), _, rest, ?_, .oneOf negation spells, ?_⟩
    · simp only [whole, List.append_assoc, List.cons_append, List.nil_append]
    · rw [whole]
      exact (parseBehindField_in negation).trans (parseIn_spells spells)
  split at ends
  case isTrue isLike =>
    obtain ⟨text, more, valid, same⟩ := cons_of_kind isLike (by decide)
    obtain ⟨rfl, rfl⟩ := ParserState.mk.inj same
    rcases parseLike_valid ends with ⟨token, rest, pattern, same, spells, unescaped⟩ |
      ⟨token, text', token', rest, pattern, escape, same, spells, spells'⟩
    · obtain ⟨rfl, valid⟩ := ParserState.mk.inj same
      rw [valid] at whole
      refine ⟨nots ++ [⟨.like, text⟩, token], _, rest, ?_, .like negation spells, ?_⟩
      · simp only [whole, List.append_assoc, List.cons_append, List.nil_append]
      · rw [whole]
        exact (parseBehindField_like negation).trans (parseLike_spells spells unescaped)
    · obtain ⟨rfl, valid⟩ := ParserState.mk.inj same
      rw [valid] at whole
      refine ⟨nots ++ [⟨.like, text⟩, token, ⟨.escape, text'⟩, token'], _, rest, ?_,
        .likeEscape negation spells spells', ?_⟩
      · simp only [whole, List.append_assoc, List.cons_append, List.nil_append]
      · rw [whole]
        exact (parseBehindField_like negation).trans (parseLike_spells_escape spells spells')
  split at ends
  case isTrue => cases ends
  case isFalse plain =>
    obtain ⟨kind, text, token, rest, value, same, compares, spells⟩ := parseComparison_valid ends
    obtain ⟨rfl, valid⟩ := ParserState.mk.inj same
    rw [valid] at whole
    cases negation with
    | present => exact absurd rfl plain
    | absent =>
        refine ⟨[⟨kind, text⟩, token], _, rest, whole, .comparison compares spells, ?_⟩
        rw [whole]
        exact (parseBehindField_comparison compares).trans (parseComparison_spells compares spells)

/-- A predicate behind which the parser is still valid was spelled, and is worth what is read. -/
theorem parsePredicate_valid (ends : (parser.parsePredicate s).2.valid = true) :
    ∃ tokens p rest, s = ⟨tokens ++ rest, true⟩ ∧ SpellsPredicate parser.parameters tokens p ∧
      parser.parsePredicate s = (p.truth parser, ⟨rest, true⟩) := by
  by_cases isValue : s.current.kind = .parameter ∨ s.current.kind = .stringValue
  case pos =>
    have reversed : parser.parsePredicate s = parser.parseReversedComparisonPredicate s :=
      if_pos isValue
    rw [reversed] at ends ⊢
    obtain ⟨token, kind, text, field, rest, value, rfl, compares, spells⟩ :=
      parseReversed_valid ends
    refine ⟨_, _, rest, rfl, .reversed ?_ spells compares, parseReversed_spells compares spells⟩
    intro isWord
    rcases isValue with isParameter | isString
    · cases isWord.symm.trans isParameter
    · cases isWord.symm.trans isString
  by_cases isField : s.current.kind = .word
  case pos =>
    obtain ⟨field, more, valid, rfl⟩ := cons_of_kind isField (by decide)
    obtain ⟨tokens, p, rest, same, spells, read⟩ := parseBehindField_valid ends
    obtain ⟨rfl, rfl⟩ := ParserState.mk.inj same
    exact ⟨_, p, rest, rfl, spells, read⟩
  case neg =>
    unfold parsePredicate at ends
    rw [if_neg isValue, if_pos isField] at ends
    cases ends

/-! ## Expressions -/

section Descent

variable (parser)

/-- The descent, with the states without their bounds. -/
def disjunction (s : ParserState) : ContentFilterTruth × ParserState :=
  ((parser.parseOrExpression s).1, (parser.parseOrExpression s).2.1)

def disjunctionRest (result : ContentFilterTruth) (s : ParserState) :
    ContentFilterTruth × ParserState :=
  ((parser.parseOrRest result s).1, (parser.parseOrRest result s).2.1)

def conjunction (s : ParserState) : ContentFilterTruth × ParserState :=
  ((parser.parseAndExpression s).1, (parser.parseAndExpression s).2.1)

def conjunctionRest (result : ContentFilterTruth) (s : ParserState) :
    ContentFilterTruth × ParserState :=
  ((parser.parseAndRest result s).1, (parser.parseAndRest result s).2.1)

def negation (s : ParserState) : ContentFilterTruth × ParserState :=
  ((parser.parseNotExpression s).1, (parser.parseNotExpression s).2.1)

def primary (s : ParserState) : ContentFilterTruth × ParserState :=
  ((parser.parsePrimaryExpression s).1, (parser.parsePrimaryExpression s).2.1)

variable {parser} {result : ContentFilterTruth}

theorem disjunction_eq : parser.disjunction s =
    parser.disjunctionRest (parser.conjunction s).1 (parser.conjunction s).2 := by
  rw [disjunction, parseOrExpression.eq_def]
  rfl

theorem disjunctionRest_or (isOr : s.current.kind = .logicalOr) : parser.disjunctionRest result s =
    parser.disjunctionRest (contentFilterOr result (parser.conjunction s.advance).1)
      (parser.conjunction s.advance).2 := by
  rw [disjunctionRest, parseOrRest.eq_def, dif_pos isOr]
  rfl

theorem disjunctionRest_stop (notOr : s.current.kind ≠ .logicalOr) :
    parser.disjunctionRest result s = (result, s) := by
  rw [disjunctionRest, parseOrRest.eq_def, dif_neg notOr]

theorem conjunction_eq : parser.conjunction s =
    parser.conjunctionRest (parser.negation s).1 (parser.negation s).2 := by
  rw [conjunction, parseAndExpression.eq_def]
  rfl

theorem conjunctionRest_and (isAnd : s.current.kind = .logicalAnd) :
    parser.conjunctionRest result s =
      parser.conjunctionRest (contentFilterAnd result (parser.negation s.advance).1)
        (parser.negation s.advance).2 := by
  rw [conjunctionRest, parseAndRest.eq_def, dif_pos isAnd]
  rfl

theorem conjunctionRest_stop (notAnd : s.current.kind ≠ .logicalAnd) :
    parser.conjunctionRest result s = (result, s) := by
  rw [conjunctionRest, parseAndRest.eq_def, dif_neg notAnd]

theorem negation_not (isNot : s.current.kind = .logicalNot) : parser.negation s =
    (contentFilterNot (parser.negation s.advance).1, (parser.negation s.advance).2) := by
  rw [negation, parseNotExpression.eq_def, dif_pos isNot]
  rfl

theorem negation_primary (notNot : s.current.kind ≠ .logicalNot) :
    parser.negation s = parser.primary s := by
  rw [negation, parseNotExpression.eq_def, dif_neg notNot]
  rfl

theorem primary_parenthesis (opens : s.current.kind = .leftParenthesis) : parser.primary s =
    ((parser.disjunction s.advance).1,
      ((parser.disjunction s.advance).2.expect .rightParenthesis).2) := by
  rw [primary, parsePrimaryExpression.eq_def, dif_pos opens]
  rfl

theorem primary_predicate (closed : s.current.kind ≠ .leftParenthesis) :
    parser.primary s = parser.parsePredicate s := by
  rw [primary, parsePrimaryExpression.eq_def, dif_neg closed]

/-- What a level makes of its tokens, whatever stands behind them. -/
def Evaluates (parser : ContentFilterExpressionParser) (tokens : List ContentFilterToken)
    (truth : ContentFilterTruth) : ContentFilterLevel → List ContentFilterToken → Bool → Prop
  | .primary, rest, valid => parser.primary ⟨tokens ++ rest, valid⟩ = (truth, ⟨rest, valid⟩)
  | .negation, rest, valid => parser.negation ⟨tokens ++ rest, valid⟩ = (truth, ⟨rest, valid⟩)
  | .conjunction, rest, valid =>
      parser.conjunction ⟨tokens ++ rest, valid⟩ = parser.conjunctionRest truth ⟨rest, valid⟩
  | .disjunction, rest, valid => (ParserState.mk rest valid).current.kind ≠ .logicalAnd →
      parser.disjunction ⟨tokens ++ rest, valid⟩ = parser.disjunctionRest truth ⟨rest, valid⟩

/-- A primary expression starts with no `NOT`. -/
theorem head_of_primary {e : ContentFilterExpression}
    (spells : Spells parser.parameters .primary tokens e) :
    (ParserState.mk (tokens ++ rest) valid).current.kind ≠ .logicalNot := by
  cases spells with
  | parentheses => exact fun same => by cases same
  | predicate p =>
      obtain ⟨token, more, rfl, starts⟩ := head_of_predicate p
      rintro (isNot : token.kind = .logicalNot)
      rw [isNot] at starts
      rcases starts with same | same | same <;> cases same

theorem evaluates_of_spells {level : ContentFilterLevel} {e : ContentFilterExpression}
    (spells : Spells parser.parameters level tokens e) (rest : List ContentFilterToken)
    (unescaped : (ParserState.mk rest valid).current.kind ≠ .escape) :
    Evaluates parser tokens (e.truth parser) level rest valid := by
  induction spells generalizing rest with
  | predicate p =>
      obtain ⟨token, more, rfl, starts⟩ := head_of_predicate p
      refine (primary_predicate ?_).trans (parsePredicate_spells p unescaped)
      rintro (opens : token.kind = .leftParenthesis)
      rw [opens] at starts
      rcases starts with same | same | same <;> cases same
  | @parentheses tokens e text text' inner ih =>
      have inside := ih (⟨.rightParenthesis, text'⟩ :: rest)
        (fun same => by cases same) (fun same => by cases same)
      rw [disjunctionRest_stop (fun same => by cases same)] at inside
      have opened : parser.primary ⟨⟨.leftParenthesis, text⟩ ::
          (tokens ++ ⟨.rightParenthesis, text'⟩ :: rest), valid⟩ =
          ((parser.disjunction ⟨tokens ++ ⟨.rightParenthesis, text'⟩ :: rest, valid⟩).1,
            ((parser.disjunction ⟨tokens ++ ⟨.rightParenthesis, text'⟩ :: rest, valid⟩).2.expect
              .rightParenthesis).2) := primary_parenthesis rfl
      rw [inside, expect_kind] at opened
      simpa only [Evaluates, List.cons_append, List.append_assoc, List.nil_append] using opened
  | ofPrimary inner ih => exact (negation_primary (head_of_primary inner)).trans (ih rest unescaped)
  | @not_ tokens e text inner ih =>
      have inside := ih rest unescaped
      have read : parser.negation ⟨⟨.logicalNot, text⟩ :: (tokens ++ rest), valid⟩ =
          (contentFilterNot (parser.negation ⟨tokens ++ rest, valid⟩).1,
            (parser.negation ⟨tokens ++ rest, valid⟩).2) := negation_not rfl
      rw [inside] at read
      exact read
  | ofNegation inner ih =>
      have inside := ih rest unescaped
      simp only [Evaluates] at inside ⊢
      rw [conjunction_eq, inside]
  | @and_ tokens e tokens' e' text left right ihLeft ihRight =>
      have first := ihLeft (⟨.logicalAnd, text⟩ :: (tokens' ++ rest))
        (fun same => by cases same)
      have second := ihRight rest unescaped
      simp only [Evaluates] at first second ⊢
      rw [List.append_assoc, List.cons_append, first, conjunctionRest_and rfl]
      simp only [ParserState.advance, List.tail_cons, second]
      rfl
  | ofConjunction inner ih =>
      intro noAnd
      have inside := ih rest unescaped
      simp only [Evaluates] at inside
      rw [disjunction_eq, inside, conjunctionRest_stop noAnd]
  | @or_ tokens e tokens' e' text left right ihLeft ihRight =>
      intro noAnd
      have first := ihLeft (⟨.logicalOr, text⟩ :: (tokens' ++ rest))
        (fun same => by cases same) (fun same => by cases same)
      have second := ihRight rest unescaped
      simp only [Evaluates] at second
      rw [List.append_assoc, List.cons_append, first, disjunctionRest_or rfl]
      simp only [ParserState.advance, List.tail_cons, second, conjunctionRest_stop noAnd]
      rfl

/-- Some expression of a level is spelled in front, and is worth what is read. -/
def Understood (parser : ContentFilterExpressionParser) (level : ContentFilterLevel)
    (s : ParserState) (read : ContentFilterTruth × ParserState) : Prop :=
  ∃ tokens e rest, s = ⟨tokens ++ rest, true⟩ ∧ Spells parser.parameters level tokens e ∧
    read = (e.truth parser, ⟨rest, true⟩)

/-- The same for what goes on from an expression in front that is worth `result`. -/
def UnderstoodBehind (parser : ContentFilterExpressionParser) (level : ContentFilterLevel)
    (result : ContentFilterTruth) (s : ParserState) (read : ContentFilterTruth × ParserState) :
    Prop :=
  s.valid = true ∧ ∀ front e₀, Spells parser.parameters level front e₀ → result = e₀.truth parser →
    ∃ tokens e rest, s = ⟨tokens ++ rest, true⟩ ∧
      Spells parser.parameters level (front ++ tokens) e ∧ read = (e.truth parser, ⟨rest, true⟩)

/-- Where the descent ends in a valid state, it has understood what it has read. -/
structure Understands (parser : ContentFilterExpressionParser) (s : ParserState) : Prop where
  primary : (parser.primary s).2.valid = true →
    Understood parser .primary s (parser.primary s)
  negation : (parser.negation s).2.valid = true →
    Understood parser .negation s (parser.negation s)
  conjunctionRest : ∀ result, (parser.conjunctionRest result s).2.valid = true →
    UnderstoodBehind parser .conjunction result s (parser.conjunctionRest result s)
  conjunction : (parser.conjunction s).2.valid = true →
    Understood parser .conjunction s (parser.conjunction s)
  disjunctionRest : ∀ result, (parser.disjunctionRest result s).2.valid = true →
    UnderstoodBehind parser .disjunction result s (parser.disjunctionRest result s)
  disjunction : (parser.disjunction s).2.valid = true →
    Understood parser .disjunction s (parser.disjunction s)

/-- What follows an understood expression directly is understood with it. -/
theorem Understood.followed {level level' : ContentFilterLevel} {first : ContentFilterTruth}
    {s mid : ParserState} {read : ContentFilterTruth × ParserState}
    (front : Understood parser level s (first, mid))
    (behind : UnderstoodBehind parser level' first mid read)
    (lifts : ∀ {tokens e}, Spells parser.parameters level tokens e →
      Spells parser.parameters level' tokens e) : Understood parser level' s read := by
  obtain ⟨tokens, e, rest, rfl, spells, same⟩ := front
  obtain ⟨rfl, rfl⟩ := Prod.mk.inj same
  obtain ⟨tokens', e', rest', whole, spells', read'⟩ := behind.2 tokens e (lifts spells) rfl
  obtain ⟨rfl, -⟩ := ParserState.mk.inj whole
  exact ⟨tokens ++ tokens', e', rest', by rw [List.append_assoc], spells', read'⟩

/-- A further operand behind its operator, and what follows it. -/
theorem UnderstoodBehind.operand {level level' : ContentFilterLevel} {text : Bytes}
    {more : List ContentFilterToken} {result first : ContentFilterTruth} {mid : ParserState}
    {read : ContentFilterTruth × ParserState} {kind : ContentFilterTokenKind}
    {joinTruth : ContentFilterTruth → ContentFilterTruth → ContentFilterTruth}
    {join : ContentFilterExpression → ContentFilterExpression → ContentFilterExpression}
    (truth : ∀ e e', (join e e').truth parser = joinTruth (e.truth parser) (e'.truth parser))
    (joins : ∀ {front e₀ tokens e}, Spells parser.parameters level' front e₀ →
      Spells parser.parameters level tokens e →
      Spells parser.parameters level' (front ++ ⟨kind, text⟩ :: tokens) (join e₀ e))
    (right : Understood parser level ⟨more, valid⟩ (first, mid))
    (behind : UnderstoodBehind parser level' (joinTruth result first) mid read) :
    UnderstoodBehind parser level' result ⟨⟨kind, text⟩ :: more, valid⟩ read := by
  obtain ⟨tokens, e, rest, whole, spells, same⟩ := right
  obtain ⟨rfl, rfl⟩ := ParserState.mk.inj whole
  obtain ⟨rfl, rfl⟩ := Prod.mk.inj same
  refine ⟨rfl, fun front e₀ before equal => ?_⟩
  obtain ⟨tokens', e', rest', left, spells', read'⟩ :=
    behind.2 (front ++ ⟨kind, text⟩ :: tokens) (join e₀ e) (joins before spells)
      (by rw [truth, equal])
  obtain ⟨rfl, -⟩ := ParserState.mk.inj left
  refine ⟨⟨kind, text⟩ :: tokens ++ tokens', e', rest', ?_, ?_, read'⟩
  · simp only [List.cons_append, List.append_assoc]
  · simpa only [List.cons_append, List.append_assoc] using spells'

/-- Behind the last operand nothing more is read. -/
theorem UnderstoodBehind.stop {level : ContentFilterLevel} (ends : s.valid = true) :
    UnderstoodBehind parser level result s (result, s) := by
  obtain ⟨tokens, valid⟩ := s
  obtain rfl : valid = true := ends
  refine ⟨rfl, fun front e₀ spells same => ⟨[], e₀, tokens, rfl, ?_, by rw [same]⟩⟩
  rwa [List.append_nil]

section Parts

variable (ih : ∀ s', s'.tokens.length < s.tokens.length → Understands parser s')
include ih

theorem understands_primary (ends : (parser.primary s).2.valid = true) :
    Understood parser .primary s (parser.primary s) := by
  by_cases opens : s.current.kind = .leftParenthesis
  case neg =>
    rw [primary_predicate opens] at ends ⊢
    obtain ⟨tokens, p, rest, whole, spells, read⟩ := parsePredicate_valid ends
    exact ⟨tokens, .predicate p, rest, whole, .predicate spells, read⟩
  case pos =>
    have shorter := advance_of_kind opens (by decide)
    rw [primary_parenthesis opens] at ends ⊢
    obtain ⟨text', rest, closed⟩ := expect_valid ends (by decide)
    obtain ⟨tokens, e, more, inside, spells, read⟩ := (ih _ shorter).disjunction (by rw [closed])
    obtain ⟨text, behind, valid, rfl⟩ := cons_of_kind opens (by decide)
    obtain ⟨rfl, rfl⟩ := ParserState.mk.inj inside
    rw [read] at closed ⊢
    obtain ⟨rfl, -⟩ := ParserState.mk.inj closed
    refine ⟨⟨.leftParenthesis, text⟩ :: (tokens ++ [⟨.rightParenthesis, text'⟩]), e, rest, ?_,
      .parentheses spells, ?_⟩
    · simp only [List.cons_append, List.append_assoc, List.nil_append]
    · rw [expect_kind]

theorem understands_negation (ends : (parser.negation s).2.valid = true) :
    Understood parser .negation s (parser.negation s) := by
  by_cases isNot : s.current.kind = .logicalNot
  case neg =>
    rw [negation_primary isNot] at ends ⊢
    obtain ⟨tokens, e, rest, whole, spells, read⟩ := understands_primary ih ends
    exact ⟨tokens, e, rest, whole, .ofPrimary spells, read⟩
  case pos =>
    have shorter := advance_of_kind isNot (by decide)
    rw [negation_not isNot] at ends ⊢
    obtain ⟨tokens, e, rest, inside, spells, read⟩ := (ih _ shorter).negation ends
    obtain ⟨text, behind, valid, rfl⟩ := cons_of_kind isNot (by decide)
    obtain ⟨rfl, rfl⟩ := ParserState.mk.inj inside
    refine ⟨⟨.logicalNot, text⟩ :: tokens, .not_ e, rest, rfl, .not_ spells, ?_⟩
    rw [read]
    rfl

theorem understands_conjunctionRest (result : ContentFilterTruth)
    (ends : (parser.conjunctionRest result s).2.valid = true) :
    UnderstoodBehind parser .conjunction result s (parser.conjunctionRest result s) := by
  by_cases isAnd : s.current.kind = .logicalAnd
  case neg =>
    rw [conjunctionRest_stop isAnd] at ends ⊢
    exact .stop ends
  case pos =>
    have shorter := advance_of_kind isAnd (by decide)
    rw [conjunctionRest_and isAnd] at ends ⊢
    have right := (parser.parseNotExpression s.advance).2.2
    have behind := (ih _ (right.trans_lt shorter)).conjunctionRest _ ends
    have operand := (ih _ shorter).negation behind.1
    obtain ⟨text, more, valid, rfl⟩ := cons_of_kind isAnd (by decide)
    exact .operand (fun _ _ => rfl) .and_ operand behind

theorem understands_conjunction (ends : (parser.conjunction s).2.valid = true) :
    Understood parser .conjunction s (parser.conjunction s) := by
  have notLonger := (parser.parseNotExpression s).2.2
  rw [conjunction_eq] at ends ⊢
  have behind :=
    understands_conjunctionRest (fun s' shorter => ih s' (shorter.trans_le notLonger)) _ ends
  exact (understands_negation ih behind.1).followed behind .ofNegation

theorem understands_disjunctionRest (result : ContentFilterTruth)
    (ends : (parser.disjunctionRest result s).2.valid = true) :
    UnderstoodBehind parser .disjunction result s (parser.disjunctionRest result s) := by
  by_cases isOr : s.current.kind = .logicalOr
  case neg =>
    rw [disjunctionRest_stop isOr] at ends ⊢
    exact .stop ends
  case pos =>
    have shorter := advance_of_kind isOr (by decide)
    rw [disjunctionRest_or isOr] at ends ⊢
    have right := (parser.parseAndExpression s.advance).2.2
    have behind := (ih _ (right.trans_lt shorter)).disjunctionRest _ ends
    have operand := (ih _ shorter).conjunction behind.1
    obtain ⟨text, more, valid, rfl⟩ := cons_of_kind isOr (by decide)
    exact .operand (fun _ _ => rfl) .or_ operand behind

theorem understands_disjunction (ends : (parser.disjunction s).2.valid = true) :
    Understood parser .disjunction s (parser.disjunction s) := by
  have notLonger := (parser.parseAndExpression s).2.2
  rw [disjunction_eq] at ends ⊢
  have behind :=
    understands_disjunctionRest (fun s' shorter => ih s' (shorter.trans_le notLonger)) _ ends
  exact (understands_conjunction ih behind.1).followed behind .ofConjunction

theorem understands_of_shorter : Understands parser s where
  primary := understands_primary ih
  negation := understands_negation ih
  conjunctionRest := understands_conjunctionRest ih
  conjunction := understands_conjunction ih
  disjunctionRest := understands_disjunctionRest ih
  disjunction := understands_disjunction ih

end Parts

theorem understands (parser : ContentFilterExpressionParser) (s : ParserState) :
    Understands parser s := by
  induction length : s.tokens.length using Nat.strong_induction_on generalizing s with
  | _ n ih =>
      apply understands_of_shorter
      intro s' shorter
      exact ih _ (length ▸ shorter) s' rfl

end Descent

/-! ## Filters -/

theorem keywordKind_ne_end (word : Bytes) : keywordKind word ≠ .end_ := by
  unfold keywordKind
  dsimp only
  repeat
    split
    · exact fun same => by cases same
  exact fun same => by cases same

theorem nextToken_ne_end {c : UInt8} {rest : Bytes} {token : ContentFilterToken}
    (read : (nextToken c rest).1 = some token) : token.kind ≠ .end_ := by
  revert read
  fun_cases nextToken c rest
  case case1 =>
    intro read
    cases read
  case case5 =>
    intro read
    cases read
    dsimp only
    split <;> exact fun same => by cases same
  all_goals
    intro read
    cases read
    first | exact keywordKind_ne_end _ | exact fun same => by cases same

/-- The tokens of a filter are those in front of the `end`. -/
theorem tokenize_ne_end (expression : Bytes) :
    ∀ token ∈ tokenizeContentFilterExpression expression, token.kind ≠ .end_ := by
  fun_induction tokenizeContentFilterExpression expression with
  | case1 =>
      intro token among
      cases among
  | case2 c rest ih =>
      intro token among
      rcases List.mem_append.mp among with now | later
      · exact nextToken_ne_end (Option.mem_toList.mp now)
      · exact ih token later

variable {parser : ContentFilterExpressionParser} {tokens : List ContentFilterToken}
  {e : ContentFilterExpression}

theorem evaluateTokens_eq (tokens : List ContentFilterToken) : parser.evaluateTokens tokens =
    let result := parser.disjunction ⟨tokens, true⟩
    let valid := result.2.valid && result.2.current.kind = .end_
    (valid && result.1 = .trueValue, { result.2 with valid }) := rfl

variable (parser) in
theorem evaluateTokens_spells (spells : Spells parser.parameters .disjunction tokens e) :
    parser.evaluateTokens tokens = (decide (e.truth parser = .trueValue), ⟨[], true⟩) := by
  have read : Evaluates parser tokens (e.truth parser) .disjunction [] true :=
    evaluates_of_spells spells [] (fun same => by cases same)
  have read := read (fun same => by cases same)
  rw [disjunctionRest_stop (fun same => by cases same), List.append_nil] at read
  rw [evaluateTokens_eq, read]
  rfl

variable (parser) in
/-- Tokens that the parser finds valid spell an expression. -/
theorem spells_of_evaluateTokens (noEnd : ∀ token ∈ tokens, token.kind ≠ .end_)
    (valid : (parser.evaluateTokens tokens).2.valid = true) :
    ∃ e, Spells parser.parameters .disjunction tokens e := by
  rw [evaluateTokens_eq] at valid
  obtain ⟨ends, atEnd⟩ := Bool.and_eq_true_iff.mp valid
  obtain ⟨front, e, rest, whole, spells, read⟩ := (understands parser ⟨tokens, true⟩).disjunction ends
  obtain ⟨rfl, -⟩ := ParserState.mk.inj whole
  rw [read] at atEnd
  cases rest with
  | nil =>
      rw [List.append_nil]
      exact ⟨e, spells⟩
  | cons token rest =>
      have among : token ∈ front ++ token :: rest :=
        List.mem_append_right front List.mem_cons_self
      exact absurd (of_decide_eq_true atEnd) (noEnd token among)

theorem tokens_ne_nil {parameters : List Bytes} {level : ContentFilterLevel}
    (spells : Spells parameters level tokens e) : tokens ≠ [] := by
  induction spells with
  | predicate p => cases p <;> exact List.cons_ne_nil _ _
  | parentheses | not_ => exact List.cons_ne_nil _ _
  | ofPrimary _ ih | ofNegation _ ih | ofConjunction _ ih => exact ih
  | and_ | or_ => exact List.append_ne_nil_of_right_ne_nil _ (List.cons_ne_nil _ _)

end ContentFilterExpressionParser

end FleetRMW.Rmw
