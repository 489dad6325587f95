import FleetRMW.Lib.Decimal

/-! # Tokens of a content filter

An expression is cut into parentheses, operators, strings, parameters and words, some of which are
keywords. What cannot be read becomes an invalid token.
-/

namespace FleetRMW.Rmw

open Lib

inductive ContentFilterTokenKind where
  | word
  | stringValue
  | parameter
  | leftParenthesis
  | rightParenthesis
  | comma
  | equal
  | notEqual
  | greater
  | greaterEqual
  | less
  | lessEqual
  | logicalAnd
  | logicalOr
  | logicalNot
  | like
  | in_
  | between
  | is_
  | nullValue
  | escape
  | end_
  | invalid
  deriving Repr, DecidableEq

structure ContentFilterToken where
  kind : ContentFilterTokenKind := .invalid
  text : Bytes
  deriving Repr, DecidableEq

/-- `toupper` of the C locale. -/
def toUpper (c : UInt8) : UInt8 := if 97 ≤ c && c ≤ 122 then c - 32 else c

def uppercaseText (value : Bytes) : Bytes := value.map toUpper

def keywordKind (word : Bytes) : ContentFilterTokenKind :=
  let keyword := uppercaseText word
  if keyword = octets "AND" then .logicalAnd
  else if keyword = octets "OR" then .logicalOr
  else if keyword = octets "NOT" then .logicalNot
  else if keyword = octets "LIKE" then .like
  else if keyword = octets "IN" then .in_
  else if keyword = octets "BETWEEN" then .between
  else if keyword = octets "IS" then .is_
  else if keyword = octets "NULL" then .nullValue
  else if keyword = octets "ESCAPE" then .escape
  else .word

/-- What is read of a string behind its opening quote, whether it was closed, and what follows. A
    doubled quote stands for one, and a backslash for the character behind it. -/
def scanQuoted (quote : UInt8) : Bytes → Bytes × Bool × Bytes
  | [] => ([], false, [])
  | [c] => if c = quote then ([], true, []) else ([c], false, [])
  | c :: d :: rest =>
      if c = quote then
        if d = quote then
          let scanned := scanQuoted quote rest
          (quote :: scanned.1, scanned.2)
        else ([], true, d :: rest)
      else if c = 92 then
        let scanned := scanQuoted quote rest
        (d :: scanned.1, scanned.2)
      else
        let scanned := scanQuoted quote (d :: rest)
        (c :: scanned.1, scanned.2)

/-- The characters that end a word. -/
def endsWord (c : UInt8) : Bool := isSpace c || (octets "(),=<>!\"'").any (· = c)

/-- The token that starts with `c`, if it is no blank, and what follows it. -/
def nextToken (c : UInt8) (rest : Bytes) : Option ContentFilterToken × Bytes :=
  if isSpace c then (none, rest)
  else if c = 40 then (some ⟨.leftParenthesis, [c]⟩, rest)
  else if c = 41 then (some ⟨.rightParenthesis, [c]⟩, rest)
  else if c = 44 then (some ⟨.comma, [c]⟩, rest)
  else if c = 39 ∨ c = 34 then
    let scanned := scanQuoted c rest
    (some ⟨if scanned.2.1 then .stringValue else .invalid, scanned.1⟩, scanned.2.2)
  else if c = 37 ∧ (rest.head?.map isDecimal).getD false then
    (some ⟨.parameter, c :: rest.takeWhile isDecimal⟩, rest.dropWhile isDecimal)
  else if c = 61 then (some ⟨.equal, octets "="⟩, rest)
  else if c = 33 ∧ rest.head? = some 61 then (some ⟨.notEqual, octets "!="⟩, rest.tail)
  else if c = 60 then
    if rest.head? = some 61 then (some ⟨.lessEqual, octets "<="⟩, rest.tail)
    else if rest.head? = some 62 then (some ⟨.notEqual, octets "<>"⟩, rest.tail)
    else (some ⟨.less, octets "<"⟩, rest)
  else if c = 62 then
    if rest.head? = some 61 then (some ⟨.greaterEqual, octets ">="⟩, rest.tail)
    else (some ⟨.greater, octets ">"⟩, rest)
  else if endsWord c then (some ⟨.invalid, [c]⟩, rest)
  else
    let word := c :: rest.takeWhile (!endsWord ·)
    (some ⟨keywordKind word, word⟩, rest.dropWhile (!endsWord ·))

theorem scanQuoted_length (quote : UInt8) (s : Bytes) :
    (scanQuoted quote s).2.2.length ≤ s.length := by
  fun_induction scanQuoted quote s with
  | case1 | case2 | case3 => exact Nat.zero_le _
  | case4 rest _ ih => exact ih.trans (Nat.le_add_right _ 2)
  | case5 => exact Nat.le_succ _
  | case6 d rest _ _ ih => exact ih.trans (Nat.le_add_right _ 2)
  | case7 c d rest _ _ _ ih => exact ih.trans (Nat.le_succ _)

theorem nextToken_length (c : UInt8) (rest : Bytes) :
    (nextToken c rest).2.length ≤ rest.length := by
  have tail : rest.tail.length ≤ rest.length := by
    rw [List.length_tail]
    exact Nat.sub_le _ _
  have dropped : ∀ p, (rest.dropWhile p).length ≤ rest.length := fun p =>
    (List.dropWhile_suffix p).length_le
  have quoted := scanQuoted_length c rest
  fun_cases nextToken c rest
  all_goals first | exact Nat.le_refl _ | exact tail | exact dropped _ | exact quoted

/-- The tokens in front of the last one, which is the `end`. -/
def tokenizeContentFilterExpression : Bytes → List ContentFilterToken
  | [] => []
  | c :: rest =>
      (nextToken c rest).1.toList ++ tokenizeContentFilterExpression (nextToken c rest).2
termination_by expression => expression.length
decreasing_by exact Nat.lt_succ_of_le (nextToken_length c rest)

end FleetRMW.Rmw
