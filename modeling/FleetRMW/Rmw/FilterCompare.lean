import FleetRMW.Rmw.Filter

/-! # Comparisons of numbers

The orders of a content filter and `BETWEEN` compare numbers, while `=` compares texts. They agree
as long as the number of the field is spelled as that of the literal.
-/

namespace FleetRMW.Rmw

open Lib

namespace ContentFilterExpressionParser

/-! ## What a comparison says -/

section Operations

variable {parser : ContentFilterExpressionParser} {actual expected : Bytes} {x y : ExtendedRat}

theorem compare_equal : parser.compare actual expected .equal = decide (actual = expected) := rfl

variable (left : parseNumber parser.outOfRange actual = some (.number x))
  (right : parseNumber parser.outOfRange expected = some (.number y))
include left right

theorem compare_less : parser.compare actual expected .less = decide (x < y) := by
  simp only [compare, left, right]
  rfl

theorem compare_lessEqual : parser.compare actual expected .lessEqual = decide (x ≤ y) := by
  simp only [compare, left, right]
  rfl

theorem compare_greater : parser.compare actual expected .greater = decide (y < x) := by
  simp only [compare, left, right]
  rfl

theorem number_of_text (same : actual = expected) : x = y := by
  rw [same, right] at left
  cases left
  rfl

end Operations

/-! ## Predicates on a field and a literal -/

/-- What the comparison of two tokens says. -/
def comparison (parser : ContentFilterExpressionParser) (left : ContentFilterToken)
    (operation : ContentFilterTokenKind) (right : ContentFilterToken) : ContentFilterTruth :=
  (parser.parsePredicate ⟨[left, ⟨operation, []⟩, right], true⟩).1

/-- What `BETWEEN` says of a token and two others. -/
def betweenBounds (parser : ContentFilterExpressionParser)
    (value lower upper : ContentFilterToken) : ContentFilterTruth :=
  (parser.parsePredicate ⟨[value, ⟨.between, []⟩, lower, ⟨.logicalAnd, []⟩, upper], true⟩).1

/-- The value that a token stands for. -/
def literalValue (parser : ContentFilterExpressionParser) (literal : ContentFilterToken) :
    Option Bytes :=
  (parser.parseValue ⟨[literal], true⟩).1

/-- An operator, and the one that says the same from the other side. -/
inductive Mirrors : ContentFilterTokenKind → ContentFilterTokenKind → Prop where
  | equal : Mirrors .equal .equal
  | notEqual : Mirrors .notEqual .notEqual
  | less : Mirrors .less .greater
  | lessEqual : Mirrors .lessEqual .greaterEqual
  | greater : Mirrors .greater .less
  | greaterEqual : Mirrors .greaterEqual .lessEqual

/-- What the operators say of a field whose value is `actual` and of a literal whose value is
    `expected`. A word in front of the operator would name another field, so only a parameter or a
    string can stand there. -/
structure Coherent (parser : ContentFilterExpressionParser) (field actual expected : Bytes)
    (literal : ContentFilterToken) : Prop where
  compared : ∀ operation, operation.isComparison → parser.comparison ⟨.word, field⟩ operation literal =
    contentFilterTruth (parser.compare actual expected operation)
  exactlyOne : [.less, .equal, .greater].countP (parser.compare actual expected) = 1
  lessEqual : parser.compare actual expected .lessEqual ↔
    parser.compare actual expected .less ∨ parser.compare actual expected .equal
  between : parser.betweenBounds ⟨.word, field⟩ literal literal =
    contentFilterTruth (parser.compare actual expected .equal)
  reversed : literal.kind ≠ .word → ∀ operation mirror, Mirrors operation mirror →
    parser.comparison literal operation ⟨.word, field⟩ =
      parser.comparison ⟨.word, field⟩ mirror literal

section Predicates

variable {parser : ContentFilterExpressionParser} {field actual expected : Bytes}
  {literal : ContentFilterToken} {operation mirror : ContentFilterTokenKind}

theorem literalValue_kind (isLiteral : parser.literalValue literal = some expected) :
    literal.kind = .parameter ∨ literal.kind = .word ∨ literal.kind = .stringValue := by
  cases literal with
  | mk kind text =>
      cases kind with
      | parameter => exact .inl rfl
      | word => exact .inr (.inl rfl)
      | stringValue => exact .inr (.inr rfl)
      | _ => cases isLiteral

/-- A literal is read in the same way in front of any tokens. -/
theorem parseValue_of_literal (isLiteral : parser.literalValue literal = some expected)
    (rest : List ContentFilterToken) :
    parser.parseValue ⟨literal :: rest, true⟩ = (some expected, ⟨rest, true⟩) := by
  have kind := literalValue_kind isLiteral
  cases literal with
  | mk kind text =>
      rcases kind with rfl | rfl | rfl
      · have read (rest value) (found : (parseSizeToken (text.drop 1)).bind
            (parser.parameters[·]?) = some value) :
            parser.parseValue ⟨⟨.parameter, text⟩ :: rest, true⟩ = (some value, ⟨rest, true⟩) := by
          simp [parseValue, ParserState.current, ParserState.advance, found, -List.drop_one]
        cases found : (parseSizeToken (text.drop 1)).bind (parser.parameters[·]?) with
        | none =>
            simp [literalValue, parseValue, ParserState.current, found, -List.drop_one] at isLiteral
        | some value =>
            rw [literalValue, read [] value found] at isLiteral
            rw [read rest value found, ← isLiteral]
      · cases isLiteral
        rfl
      · cases isLiteral
        rfl

variable (isField : parser.fields.get? field = some actual)
  (isLiteral : parser.literalValue literal = some expected)
include isField isLiteral

theorem comparison_forward (comparing : operation.isComparison) :
    parser.comparison ⟨.word, field⟩ operation literal =
      contentFilterTruth (parser.compare actual expected operation) := by
  have predicate : parser.comparison ⟨.word, field⟩ operation literal =
      (parser.parseComparison (parser.fields.get? field) ⟨[⟨operation, []⟩, literal], true⟩).1 := by
    cases operation <;> first | rfl | cases comparing
  have value : parser.parseValue (ParserState.advance ⟨[⟨operation, []⟩, literal], true⟩) =
      (some expected, ⟨[], true⟩) := parseValue_of_literal isLiteral []
  have operator : ¬(!operation.isComparison) = true := by rw [comparing]; decide
  rw [predicate, isField]
  unfold parseComparison
  rw [value]
  exact congrArg Prod.fst (if_neg operator)

theorem comparison_reversed (noWord : literal.kind ≠ .word) (comparing : operation.isComparison) :
    parser.comparison literal operation ⟨.word, field⟩ =
      contentFilterTruth (parser.compare actual expected (reverseComparison operation)) := by
  have literalFirst : literal.kind = .parameter ∨ literal.kind = .stringValue := by
    rcases literalValue_kind isLiteral with parameter | word | string
    · exact .inl parameter
    · exact absurd word noWord
    · exact .inr string
  have predicate : parser.comparison literal operation ⟨.word, field⟩ =
      (parser.parseReversedComparisonPredicate
        ⟨[literal, ⟨operation, []⟩, ⟨.word, field⟩], true⟩).1 := by
    unfold comparison parsePredicate
    exact congrArg _ (if_pos literalFirst)
  have operator : ¬(!operation.isComparison) = true := by rw [comparing]; decide
  rw [predicate]
  unfold parseReversedComparisonPredicate
  rw [parseValue_of_literal isLiteral]
  simp [ParserState.current, ParserState.advance, comparing, isField]

theorem betweenBounds_literal {x y : ExtendedRat}
    (left : parseNumber parser.outOfRange actual = some (.number x))
    (right : parseNumber parser.outOfRange expected = some (.number y)) :
    parser.betweenBounds ⟨.word, field⟩ literal literal =
      contentFilterTruth (decide (x = y)) := by
  have predicate : parser.betweenBounds ⟨.word, field⟩ literal literal =
      (parser.parseBetween (parser.fields.get? field) false
        ⟨[literal, ⟨.logicalAnd, []⟩, literal], true⟩).1 := rfl
  have both : (decide (y ≤ x) && decide (x ≤ y)) = decide (x = y) := by
    rw [← Bool.decide_and]
    apply decide_eq_decide.mpr
    constructor
    · rintro ⟨above, below⟩
      exact le_antisymm below above
    · intro same
      exact ⟨same.ge, same.le⟩
  have upper : parser.parseValue (ParserState.expect .logicalAnd
      ⟨[⟨.logicalAnd, []⟩, literal], true⟩).2 = (some expected, ⟨[], true⟩) :=
    parseValue_of_literal isLiteral []
  rw [predicate, isField]
  unfold parseBetween
  rw [parseValue_of_literal isLiteral]
  dsimp only
  rw [upper]
  dsimp only
  rw [left, right, ← both]
  rfl

end Predicates

theorem Mirrors.comparing {operation mirror : ContentFilterTokenKind}
    (mirrors : Mirrors operation mirror) :
    operation.isComparison ∧ mirror.isComparison ∧ reverseComparison operation = mirror := by
  cases mirrors <;> exact ⟨rfl, rfl, rfl⟩

/-- The comparisons of a number field with a number are coherent exactly if the field has the text
    of the literal whenever it has its value. -/
theorem numbers_coherent_iff (parser : ContentFilterExpressionParser)
    (field actual expected : Bytes) (literal : ContentFilterToken) (x y : ExtendedRat)
    (isField : parser.fields.get? field = some actual)
    (isLiteral : parser.literalValue literal = some expected)
    (left : parseNumber parser.outOfRange actual = some (.number x))
    (right : parseNumber parser.outOfRange expected = some (.number y)) :
    parser.Coherent field actual expected literal ↔ (x = y → actual = expected) := by
  have less := compare_less left right
  have lessEqual := compare_lessEqual left right
  have greater := compare_greater left right
  have equal : parser.compare actual expected .equal = decide (actual = expected) := compare_equal
  have sameNumber : actual = expected → x = y := number_of_text left right
  constructor
  · intro coherent same
    have one := coherent.exactlyOne
    by_contra differ
    simp [less, greater, equal, same, differ] at one
  · intro sameText
    have texts : actual = expected ↔ x = y := ⟨sameNumber, sameText⟩
    constructor
    case compared =>
      intro operation comparing
      exact comparison_forward isField isLiteral comparing
    case exactlyOne =>
      rcases lt_trichotomy x y with below | same | above
      · simp [less, greater, equal, texts, below, below.not_gt, below.ne]
      · simp [less, greater, equal, texts, same]
      · simp [less, greater, equal, texts, above, above.not_gt, above.ne']
    case lessEqual =>
      simp [less, lessEqual, equal, texts, le_iff_lt_or_eq]
    case between =>
      rw [betweenBounds_literal isField isLiteral left right, equal, decide_eq_decide.mpr texts]
    case reversed =>
      intro noWord operation mirror mirrors
      obtain ⟨comparing, comparingMirror, reverse⟩ := mirrors.comparing
      rw [comparison_reversed isField isLiteral noWord comparing, reverse,
        comparison_forward isField isLiteral comparingMirror]

theorem numbers_coherent_iff_one :
    Coherent ⟨[(octets "f", octets "1")], [octets "1"], fun _ => false⟩ (octets "f") (octets "1")
      (octets "1") ⟨.parameter, octets "%0"⟩ :=
  (numbers_coherent_iff ⟨[(octets "f", octets "1")], [octets "1"], fun _ => false⟩ (octets "f")
    (octets "1") (octets "1") ⟨.parameter, octets "%0"⟩ ((1 : ℚ) : WithTop ℚ) ((1 : ℚ) : WithTop ℚ)
    (by decide) (by decide) (by decide +kernel) (by decide +kernel)).mpr fun _ => rfl

/-- A field with the text `1.0` is not less than `1`, not equal to it and not greater. -/
theorem spellings_incoherent :
    ¬∀ (parser : ContentFilterExpressionParser) (field actual expected : Bytes)
      (literal : ContentFilterToken) (x y : ExtendedRat),
      parser.fields.get? field = some actual → parser.literalValue literal = some expected →
      parseNumber parser.outOfRange actual = some (.number x) →
      parseNumber parser.outOfRange expected = some (.number y) →
      parser.Coherent field actual expected literal := by
  intro all
  have coherent := all ⟨[(octets "f", octets "1.0")], [], fun _ => false⟩ (octets "f")
    (octets "1.0") (octets "1") ⟨.word, octets "1"⟩ ((1 : ℚ) : WithTop ℚ) ((1 : ℚ) : WithTop ℚ)
    (by decide) (by decide) (by decide +kernel) (by decide +kernel)
  have none : [ContentFilterTokenKind.less, .equal, .greater].countP
      (compare ⟨[(octets "f", octets "1.0")], [], fun _ => false⟩ (octets "1.0") (octets "1")) = 0 := by
    decide +kernel
  have one := coherent.exactlyOne
  rw [none] at one
  cases one

end ContentFilterExpressionParser

end FleetRMW.Rmw
