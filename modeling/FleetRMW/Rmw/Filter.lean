import FleetRMW.Lib.Strtod
import FleetRMW.Rmw.FilterLike
import FleetRMW.Rmw.FilterTokens
import FleetRMW.Rmw.Fragments

/-! # Content filters

The tokens of an expression are read by recursive descent and evaluated at the same time, in three
truth values. A field that the map has not makes a predicate unknown, but the rest of it is read
all the same, so whether the expression is valid does not depend on the fields.
-/

namespace FleetRMW.Rmw

open Lib

/-! ## Truth values -/

inductive ContentFilterTruth where
  | falseValue
  | trueValue
  | unknown
  deriving Repr, DecidableEq

def contentFilterTruth (value : Bool) : ContentFilterTruth :=
  if value then .trueValue else .falseValue

def contentFilterNot : ContentFilterTruth → ContentFilterTruth
  | .unknown => .unknown
  | .trueValue => .falseValue
  | .falseValue => .trueValue

def contentFilterAnd (left right : ContentFilterTruth) : ContentFilterTruth :=
  if left = .falseValue ∨ right = .falseValue then .falseValue
  else if left = .trueValue ∧ right = .trueValue then .trueValue
  else .unknown

def contentFilterOr (left right : ContentFilterTruth) : ContentFilterTruth :=
  if left = .trueValue ∨ right = .trueValue then .trueValue
  else if left = .falseValue ∧ right = .falseValue then .falseValue
  else .unknown

/-! ## The parser's state -/

/-- The tokens that are left in front of the `end`. -/
structure ParserState where
  tokens : List ContentFilterToken
  valid : Bool := true
  deriving Repr, DecidableEq

namespace ParserState

def current (s : ParserState) : ContentFilterToken := s.tokens.head?.getD ⟨.end_, []⟩

def advance (s : ParserState) : ParserState := { s with tokens := s.tokens.tail }

def invalid (s : ParserState) : ParserState := { s with valid := false }

/-- `match` -/
def matchKind (kind : ContentFilterTokenKind) (s : ParserState) : Bool × ParserState :=
  if s.current.kind = kind then (true, s.advance) else (false, s)

def expect (kind : ContentFilterTokenKind) (s : ParserState) : Bool × ParserState :=
  if s.current.kind = kind then (true, s.advance) else (false, s.invalid)

variable {s : ParserState} {kind : ContentFilterTokenKind}

theorem advance_suffix : s.advance.tokens <:+ s.tokens := List.tail_suffix _

theorem advance_shorter (notEnd : s.current.kind ≠ .end_) :
    s.advance.tokens.length < s.tokens.length := by
  unfold advance
  cases tokens : s.tokens with
  | nil => simp [current, tokens] at notEnd
  | cons token rest => exact Nat.lt_succ_self _

theorem matchKind_suffix : (s.matchKind kind).2.tokens <:+ s.tokens := by
  unfold matchKind
  split
  · exact advance_suffix
  · exact List.suffix_rfl

theorem expect_suffix : (s.expect kind).2.tokens <:+ s.tokens := by
  unfold expect
  split
  · exact advance_suffix
  · exact List.suffix_rfl

end ParserState

/-! ## Values and comparisons -/

def trimText (value : Bytes) : Bytes := ((value.dropWhile isSpace).reverse.dropWhile isSpace).reverse

/-- The number of a text, which is read as a C string; `outOfRange` are the numbers for which
    `strtod` sets `errno`. -/
def parseNumber (outOfRange : Number → Bool) (value : Bytes) : Option Number :=
  let trimmed := trimText value
  if trimmed = [] then none
  else match strtod (trimmed.takeWhile (· ≠ 0)) with
    | some (parsed, []) => if outOfRange parsed then none else some parsed
    | _ => none

/-- What an expression is evaluated with. -/
structure ContentFilterExpressionParser where
  fields : Dict Bytes Bytes
  parameters : List Bytes
  outOfRange : Number → Bool

def ContentFilterTokenKind.isComparison : ContentFilterTokenKind → Bool
  | .equal | .notEqual | .greater | .greaterEqual | .less | .lessEqual => true
  | _ => false

def reverseComparison : ContentFilterTokenKind → ContentFilterTokenKind
  | .greater => .less
  | .greaterEqual => .lessEqual
  | .less => .greater
  | .lessEqual => .greaterEqual
  | operation => operation

namespace ContentFilterExpressionParser

variable (parser : ContentFilterExpressionParser)

def parseValue (s : ParserState) : Option Bytes × ParserState :=
  match s.current.kind with
  | .parameter =>
      match (parseSizeToken (s.current.text.drop 1)).bind (parser.parameters[·]?) with
      | some value => (some value, s.advance)
      | none => (none, s.advance.invalid)
  | .word | .stringValue => (some s.current.text, s.advance)
  | _ => (none, s.invalid)

def compare (actual expected : Bytes) (operation : ContentFilterTokenKind) : Bool :=
  if operation = .equal then actual = expected
  else if operation = .notEqual then actual ≠ expected
  else
    match parseNumber parser.outOfRange actual, parseNumber parser.outOfRange expected with
    | some left, some right =>
        match operation with
        | .greater => right.lt left
        | .greaterEqual => right.le left
        | .less => left.lt right
        | .lessEqual => left.le right
        | _ => false
    | _, _ => false

/-! ## Predicates -/

def parseReversedComparisonPredicate (s : ParserState) : ContentFilterTruth × ParserState :=
  match parser.parseValue s with
  | (none, s) => (.unknown, s)
  | (some lhsValue, s) =>
      let operation := s.current.kind
      if !operation.isComparison then (.unknown, s.invalid)
      else if s.advance.current.kind ≠ .word then (.unknown, s.advance.invalid)
      else
        match parser.fields.get? s.advance.current.text with
        | none => (.unknown, s.advance.advance)
        | some actual =>
            (contentFilterTruth (parser.compare actual lhsValue (reverseComparison operation)),
              s.advance.advance)

/-- The predicate behind a field and `IS`; `found` is the field's value. -/
def parseNull (found : Option Bytes) (s : ParserState) : ContentFilterTruth × ParserState :=
  let (negate, s) := s.matchKind .logicalNot
  let (isNullToken, s) := s.expect .nullValue
  if !isNullToken then (.unknown, s)
  else
    let isNull := found.all (·.isEmpty)
    (contentFilterTruth (if negate then !isNull else isNull), s)

def negated (negate : Bool) (truth : ContentFilterTruth) : ContentFilterTruth :=
  if negate then contentFilterNot truth else truth

def parseBetween (found : Option Bytes) (negate : Bool) (s : ParserState) :
    ContentFilterTruth × ParserState :=
  let (lower, s) := parser.parseValue s
  let (_, s) := s.expect .logicalAnd
  let (upper, s) := parser.parseValue s
  match lower, upper, found with
  | some lower, some upper, some actual =>
      let result := match parseNumber parser.outOfRange actual,
          parseNumber parser.outOfRange lower, parseNumber parser.outOfRange upper with
        | some actual, some lower, some upper => lower.le actual && actual.le upper
        | _, _, _ => false
      (negated negate (contentFilterTruth result), s)
  | _, _, _ => (.unknown, s)

theorem parseValue_suffix (s : ParserState) : (parser.parseValue s).2.tokens <:+ s.tokens := by
  unfold parseValue
  split
  · split
    · exact ParserState.advance_suffix
    · exact ParserState.advance_suffix
  · exact ParserState.advance_suffix
  · exact ParserState.advance_suffix
  · exact List.suffix_rfl

/-- A value that can be read is a token. -/
theorem parseValue_shorter {s : ParserState} (read : (parser.parseValue s).1 ≠ none) :
    (parser.parseValue s).2.tokens.length < s.tokens.length := by
  unfold parseValue at read ⊢
  split
  case h_1 parameter =>
    split
    · exact ParserState.advance_shorter (by simp [parameter])
    · exact ParserState.advance_shorter (by simp [parameter])
  case h_2 word => exact ParserState.advance_shorter (by simp [word])
  case h_3 string => exact ParserState.advance_shorter (by simp [string])
  case h_4 noParameter noWord noString =>
    split at read
    · contradiction
    · contradiction
    · contradiction
    · exact absurd rfl read

theorem parseInValues_shorter {s s' : ParserState} {value : Bytes}
    (read : parser.parseValue s = (some value, s')) :
    s'.advance.tokens.length < s.tokens.length := by
  have shorter := parser.parseValue_shorter (s := s) (by rw [read]; exact Option.some_ne_none _)
  rw [read] at shorter
  exact ParserState.advance_suffix.length_le.trans_lt shorter

/-- The list of an `IN`: whether the field has one of its values, unless one cannot be read. -/
def parseInValues (found : Option Bytes) (any : Bool) (s : ParserState) :
    Option Bool × ParserState :=
  match _read : parser.parseValue s with
  | (none, s) => (none, s)
  | (some expected, s') =>
      let any := any || found = some expected
      if s'.current.kind = .comma then parseInValues found any s'.advance else (some any, s')
termination_by s.tokens.length
decreasing_by exact parser.parseInValues_shorter _read

def parseIn (found : Option Bytes) (negate : Bool) (s : ParserState) :
    ContentFilterTruth × ParserState :=
  let (opened, s) := s.expect .leftParenthesis
  if !opened then (.unknown, s)
  else
    match parser.parseInValues found false s with
    | (none, s) => (.unknown, s)
    | (some any, s) =>
        let (_, s) := s.expect .rightParenthesis
        if found = none then (.unknown, s)
        else (negated negate (contentFilterTruth any), s)

def parseLike (found : Option Bytes) (negate : Bool) (s : ParserState) :
    ContentFilterTruth × ParserState :=
  match parser.parseValue s with
  | (none, s) => (.unknown, s)
  | (some pattern, s) =>
      let like (escape : UInt8) : ContentFilterTruth :=
        match found with
        | none => .unknown
        | some value => negated negate (contentFilterTruth (contentFilterLike value pattern escape))
      if s.current.kind = .escape then
        match parser.parseValue s.advance with
        | (some [escape], s) => (like escape, s)
        | (_, s) => (.unknown, s.invalid)
      else (like 0, s)

def parseComparison (found : Option Bytes) (s : ParserState) : ContentFilterTruth × ParserState :=
  let operation := s.current.kind
  if !operation.isComparison then (.unknown, s.invalid)
  else
    match parser.parseValue s.advance, found with
    | (some expected, s), some actual =>
        (contentFilterTruth (parser.compare actual expected operation), s)
    | (_, s), _ => (.unknown, s)

def parsePredicate (s : ParserState) : ContentFilterTruth × ParserState :=
  if s.current.kind = .parameter ∨ s.current.kind = .stringValue then
    parser.parseReversedComparisonPredicate s
  else if s.current.kind ≠ .word then (.unknown, s.invalid)
  else
    let found := parser.fields.get? s.current.text
    let s := s.advance
    if s.current.kind = .is_ then parseNull found s.advance
    else
      let (negate, s) := s.matchKind .logicalNot
      if s.current.kind = .between then parser.parseBetween found negate s.advance
      else if s.current.kind = .in_ then parser.parseIn found negate s.advance
      else if s.current.kind = .like then parser.parseLike found negate s.advance
      else if negate then (.unknown, s.invalid)
      else parser.parseComparison found s

/-! ## What a predicate leaves -/

variable {parser} {found : Option Bytes} {negate : Bool} {s : ParserState}

theorem parseReversedComparisonPredicate_suffix :
    (parser.parseReversedComparisonPredicate s).2.tokens <:+ s.tokens := by
  have value := parser.parseValue_suffix s
  unfold parseReversedComparisonPredicate
  cases read : parser.parseValue s with
  | mk lhsValue s' =>
      rw [read] at value
      have one : s'.advance.tokens <:+ s.tokens := ParserState.advance_suffix.trans value
      have two : s'.advance.advance.tokens <:+ s.tokens := ParserState.advance_suffix.trans one
      cases lhsValue with
      | none => exact value
      | some lhsValue =>
          dsimp only
          split
          · exact value
          · split
            · exact one
            · split
              · exact two
              · exact two

theorem parseNull_suffix : (parseNull found s).2.tokens <:+ s.tokens := by
  have negation : (s.matchKind .logicalNot).2.tokens <:+ s.tokens := ParserState.matchKind_suffix
  have null : ((s.matchKind .logicalNot).2.expect .nullValue).2.tokens <:+ s.tokens :=
    ParserState.expect_suffix.trans negation
  unfold parseNull
  dsimp only
  split
  · exact null
  · exact null

theorem parseBetween_suffix : (parser.parseBetween found negate s).2.tokens <:+ s.tokens := by
  have and_ : ((parser.parseValue s).2.expect .logicalAnd).2.tokens <:+ s.tokens :=
    ParserState.expect_suffix.trans (parser.parseValue_suffix s)
  have upper := (parser.parseValue_suffix
    ((parser.parseValue s).2.expect .logicalAnd).2).trans and_
  unfold parseBetween
  dsimp only
  split
  · exact upper
  · exact upper

theorem parseInValues_suffix {any : Bool} :
    (parser.parseInValues found any s).2.tokens <:+ s.tokens := by
  fun_induction parseInValues parser found any s with
  | case1 any s s' read =>
      have value := parser.parseValue_suffix s
      rwa [read] at value
  | case2 any s expected s' read _ comma ih =>
      have value := parser.parseValue_suffix s
      rw [read] at value
      exact ih.trans (ParserState.advance_suffix.trans value)
  | case3 any s expected s' read =>
      have value := parser.parseValue_suffix s
      rwa [read] at value

theorem parseIn_suffix : (parser.parseIn found negate s).2.tokens <:+ s.tokens := by
  have opened : (s.expect .leftParenthesis).2.tokens <:+ s.tokens := ParserState.expect_suffix
  have values : (parser.parseInValues found false (s.expect .leftParenthesis).2).2.tokens <:+
      s.tokens := parseInValues_suffix.trans opened
  unfold parseIn
  dsimp only
  split
  · exact opened
  · cases read : parser.parseInValues found false (s.expect .leftParenthesis).2 with
    | mk any s' =>
        rw [read] at values
        cases any with
        | none => exact values
        | some any =>
            have closed : (s'.expect .rightParenthesis).2.tokens <:+ s.tokens :=
              ParserState.expect_suffix.trans values
            dsimp only
            split
            · exact closed
            · exact closed

theorem parseLike_suffix : (parser.parseLike found negate s).2.tokens <:+ s.tokens := by
  have pattern := parser.parseValue_suffix s
  unfold parseLike
  cases read : parser.parseValue s with
  | mk pattern_ s' =>
      rw [read] at pattern
      have escape : (parser.parseValue s'.advance).2.tokens <:+ s.tokens :=
        (parser.parseValue_suffix s'.advance).trans (ParserState.advance_suffix.trans pattern)
      cases pattern_ with
      | none => exact pattern
      | some pattern_ =>
          dsimp only
          split
          · split
            case h_1 c s'' readEscape =>
              rwa [readEscape] at escape
            case h_2 s'' _ readEscape =>
              rw [readEscape] at escape
              exact escape
          · exact pattern

theorem parseComparison_suffix : (parser.parseComparison found s).2.tokens <:+ s.tokens := by
  have value := (parser.parseValue_suffix s.advance).trans ParserState.advance_suffix
  unfold parseComparison
  dsimp only
  split
  · exact List.suffix_rfl
  · cases read : parser.parseValue s.advance with
    | mk expected s' =>
        rw [read] at value
        cases expected with
        | none => exact value
        | some expected => cases found <;> exact value

theorem parsePredicate_suffix : (parser.parsePredicate s).2.tokens <:+ s.tokens := by
  have field : s.advance.tokens <:+ s.tokens := ParserState.advance_suffix
  have keyword : s.advance.advance.tokens <:+ s.tokens := ParserState.advance_suffix.trans field
  have negation : (s.advance.matchKind .logicalNot).2.tokens <:+ s.tokens :=
    ParserState.matchKind_suffix.trans field
  have operator : (s.advance.matchKind .logicalNot).2.advance.tokens <:+ s.tokens :=
    ParserState.advance_suffix.trans negation
  unfold parsePredicate
  dsimp only
  split
  · exact parseReversedComparisonPredicate_suffix
  · split
    · exact List.suffix_rfl
    · split
      · exact parseNull_suffix.trans keyword
      · split
        · exact parseBetween_suffix.trans operator
        · split
          · exact parseIn_suffix.trans operator
          · split
            · exact parseLike_suffix.trans operator
            · split
              · exact negation
              · exact parseComparison_suffix.trans negation

/-! ## Expressions -/

/-- A truth value, and a state with no more tokens left than before. -/
abbrev Parsed (s : ParserState) : Type :=
  ContentFilterTruth × { s' : ParserState // s'.tokens.length ≤ s.tokens.length }

theorem advance_of_kind {kind : ContentFilterTokenKind} (isKind : s.current.kind = kind)
    (notEnd : kind ≠ .end_) : s.advance.tokens.length < s.tokens.length :=
  ParserState.advance_shorter (isKind ▸ notEnd)

/-- A call with no more tokens, of a function that is tried later. -/
theorem lex_of_le {a b m n : Nat} (le : a ≤ b) (less : m < n) :
    Prod.Lex (· < ·) (· < ·) (a, m) (b, n) := by
  rcases Nat.lt_or_eq_of_le le with shorter | same
  · exact Prod.Lex.left m n shorter
  · rw [same]
    exact Prod.Lex.right b less

variable (parser)

mutual

def parseOrExpression (s : ParserState) : Parsed s :=
  let first := parseAndExpression s
  let all := parseOrRest first.1 first.2.1
  (all.1, ⟨all.2.1, all.2.2.trans first.2.2⟩)
termination_by (s.tokens.length, 4)
decreasing_by
  · exact lex_of_le (Nat.le_refl _) (by decide)
  · exact lex_of_le first.2.2 (by decide)

/-- The operands behind each further `OR`. -/
def parseOrRest (result : ContentFilterTruth) (s : ParserState) : Parsed s :=
  if _isOr : s.current.kind = .logicalOr then
    let right := parseAndExpression s.advance
    let all := parseOrRest (contentFilterOr result right.1) right.2.1
    (all.1, ⟨all.2.1, all.2.2.trans (right.2.2.trans ParserState.advance_suffix.length_le)⟩)
  else (result, ⟨s, Nat.le_refl _⟩)
termination_by (s.tokens.length, 0)
decreasing_by
  · exact Prod.Lex.left _ _ (advance_of_kind _isOr (by decide))
  · exact Prod.Lex.left _ _ (right.2.2.trans_lt (advance_of_kind _isOr (by decide)))

def parseAndExpression (s : ParserState) : Parsed s :=
  let first := parseNotExpression s
  let all := parseAndRest first.1 first.2.1
  (all.1, ⟨all.2.1, all.2.2.trans first.2.2⟩)
termination_by (s.tokens.length, 3)
decreasing_by
  · exact lex_of_le (Nat.le_refl _) (by decide)
  · exact lex_of_le first.2.2 (by decide)

/-- The operands behind each further `AND`. -/
def parseAndRest (result : ContentFilterTruth) (s : ParserState) : Parsed s :=
  if _isAnd : s.current.kind = .logicalAnd then
    let right := parseNotExpression s.advance
    let all := parseAndRest (contentFilterAnd result right.1) right.2.1
    (all.1, ⟨all.2.1, all.2.2.trans (right.2.2.trans ParserState.advance_suffix.length_le)⟩)
  else (result, ⟨s, Nat.le_refl _⟩)
termination_by (s.tokens.length, 0)
decreasing_by
  · exact Prod.Lex.left _ _ (advance_of_kind _isAnd (by decide))
  · exact Prod.Lex.left _ _ (right.2.2.trans_lt (advance_of_kind _isAnd (by decide)))

def parseNotExpression (s : ParserState) : Parsed s :=
  if _isNot : s.current.kind = .logicalNot then
    let operand := parseNotExpression s.advance
    (contentFilterNot operand.1,
      ⟨operand.2.1, operand.2.2.trans ParserState.advance_suffix.length_le⟩)
  else parsePrimaryExpression s
termination_by (s.tokens.length, 2)
decreasing_by
  · exact Prod.Lex.left _ _ (advance_of_kind _isNot (by decide))
  · exact lex_of_le (Nat.le_refl _) (by decide)

def parsePrimaryExpression (s : ParserState) : Parsed s :=
  if _isParenthesis : s.current.kind = .leftParenthesis then
    let inner := parseOrExpression s.advance
    (inner.1, ⟨(inner.2.1.expect .rightParenthesis).2, ParserState.expect_suffix.length_le.trans
      (inner.2.2.trans ParserState.advance_suffix.length_le)⟩)
  else
    let predicate := parser.parsePredicate s
    (predicate.1, ⟨predicate.2, parsePredicate_suffix.length_le⟩)
termination_by (s.tokens.length, 1)
decreasing_by exact Prod.Lex.left _ _ (advance_of_kind _isParenthesis (by decide))

end

/-- `evaluate`: its answer, the tokens that it leaves, and whether the expression is valid. -/
def evaluateTokens (tokens : List ContentFilterToken) : Bool × ParserState :=
  let result := parser.parseOrExpression ⟨tokens, true⟩
  let valid := result.2.1.valid && result.2.1.current.kind = .end_
  (valid && result.1 = .trueValue, { result.2.1 with valid })

def evaluate (expression : Bytes) : Bool × ParserState :=
  parser.evaluateTokens (tokenizeContentFilterExpression expression)

end ContentFilterExpressionParser

/-- `content_filter_expression_is_valid`, which evaluates without fields. -/
def contentFilterExpressionIsValid (outOfRange : Number → Bool) (expression : Bytes)
    (parameters : List Bytes) : Bool :=
  if expression = [] then true
  else (ContentFilterExpressionParser.evaluate ⟨[], parameters, outOfRange⟩ expression).2.valid

/-- `content_filter_matches_payload` for the field maps that the payload is read as. -/
def contentFilterMatches (outOfRange : Number → Bool) (expression : Bytes)
    (parameters : List Bytes) (fieldMaps : List (Dict Bytes Bytes)) : Bool :=
  if expression = [] then true
  else fieldMaps.any fun fields =>
    let (matches_, s) := ContentFilterExpressionParser.evaluate ⟨fields, parameters, outOfRange⟩
      expression
    matches_ && s.valid

end FleetRMW.Rmw
