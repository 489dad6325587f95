import Mathlib.Algebra.Order.Field.Rat
import Mathlib.Data.List.TakeWhile
import Mathlib.Data.Rat.Lemmas
import FleetRMW.Lib.Except
import FleetRMW.Lib.Python

/-! # Reading JSON as Python does

`bytes.decode("utf-8")` and `json.loads` of Python's standard library. The scanner answers
with a value and the text behind it. A container is scanned with one level of recursion
less than what it stands in, and raises when no level is left; the loop over its members
takes its fuel from the length of the text, which it never uses up (`loads_ne_outOfFuel`).
-/

namespace FleetRMW.Lib

/-! ## UTF-8 -/

/-- The low six bits of a continuation octet. -/
def continuation (b : UInt8) : Option Nat :=
  if 0x80 ≤ b.toNat ∧ b.toNat ≤ 0xBF then some (b.toNat - 0x80) else none

/-- Check one decoded character of several octets: no overlong form, no surrogate. -/
def wideChar (least code : Nat) : Option Nat :=
  if least ≤ code ∧ code ≤ 0x10FFFF ∧ !isSurrogate code then some code else none

/-- `bytes.decode("utf-8")`; `none` is `UnicodeDecodeError`. -/
def utf8Decode : Bytes → Option Str
  | [] => some []
  | b :: bs =>
      let n := b.toNat
      if n < 0x80 then do
        return n :: (← utf8Decode bs)
      else match bs with
        | [] => none
        | b₁ :: bs =>
            if 0xC0 ≤ n ∧ n < 0xE0 then do
              let c ← wideChar 0x80 ((n - 0xC0) * 64 + (← continuation b₁))
              return c :: (← utf8Decode bs)
            else match bs with
              | [] => none
              | b₂ :: bs =>
                  if 0xE0 ≤ n ∧ n < 0xF0 then do
                    let c ← wideChar 0x800 (((n - 0xE0) * 64 + (← continuation b₁)) * 64 +
                      (← continuation b₂))
                    return c :: (← utf8Decode bs)
                  else match bs with
                    | [] => none
                    | b₃ :: bs =>
                        if 0xF0 ≤ n ∧ n < 0xF8 then do
                          let c ← wideChar 0x10000 ((((n - 0xF0) * 64 + (← continuation b₁)) * 64 +
                            (← continuation b₂)) * 64 + (← continuation b₃))
                          return c :: (← utf8Decode bs)
                        else none

/-! ## Values -/

inductive PyFloat where
  | finite (q : Rat)
  | inf (negative : Bool)
  | nan
  deriving Repr, DecidableEq

/-- What `json.loads` builds. A dictionary lists its pairs in the order of the text. -/
inductive PyJson where
  | null
  | bool (b : Bool)
  | int (i : Int)
  | float (f : PyFloat)
  | str (s : Str)
  | list (items : List PyJson)
  | dict (entries : List (Str × PyJson))
  deriving Repr

namespace PyJson

/-- `d.get(key)` on the pairs of a dictionary: of a repeated key the last pair counts. -/
def lookup (entries : List (Str × PyJson)) (key : Str) : Option PyJson :=
  entries.foldl (fun found e => if e.1 = key then some e.2 else found) none

end PyJson

inductive JsonError where
  /-- `JSONDecodeError`. -/
  | decode
  /-- A plain `ValueError`, from an integer of more than 4300 digits. -/
  | digitLimit
  /-- `RecursionError`. -/
  | recursion
  | outOfFuel
  deriving Repr, DecidableEq

/-! ## Scanning -/

namespace Json

def isSpace (c : Nat) : Bool := c = 32 || c = 9 || c = 10 || c = 13

def skipSpace (s : Str) : Str := s.dropWhile isSpace

def isDigit (c : Nat) : Bool := 48 ≤ c && c ≤ 57

def digitsValue (ds : Str) : Nat := ds.foldl (fun n d => 10 * n + (d - 48)) 0

def hexValue (c : Nat) : Option Nat :=
  if 48 ≤ c ∧ c ≤ 57 then some (c - 48)
  else if 97 ≤ c ∧ c ≤ 102 then some (c - 87)
  else if 65 ≤ c ∧ c ≤ 70 then some (c - 55)
  else none

/-- The character that a one-letter escape stands for. -/
def shortEscape (c : Nat) : Option Nat :=
  if c = '"'.toNat then some 34
  else if c = '\\'.toNat then some 92
  else if c = '/'.toNat then some 47
  else if c = 'b'.toNat then some 8
  else if c = 'f'.toNat then some 12
  else if c = 'n'.toNat then some 10
  else if c = 'r'.toNat then some 13
  else if c = 't'.toNat then some 9
  else none

/-- `scanstring` behind the opening quote, with `strict=True`, to UTF-16 units where
    the text has `\u` escapes. -/
def scanUnits : Str → Except JsonError (Str × Str)
  | [] => .error .decode
  | c :: s =>
      if c = '"'.toNat then .ok ([], s)
      else if c = '\\'.toNat then
        match s with
        | 117 :: a :: b :: d :: e :: s =>
            match hexValue a, hexValue b, hexValue d, hexValue e with
            | some a, some b, some d, some e => do
                let (units, rest) ← scanUnits s
                pure ((((a * 16 + b) * 16 + d) * 16 + e) :: units, rest)
            | _, _, _, _ => .error .decode
        | c :: s =>
            match shortEscape c with
            | some c => do
                let (units, rest) ← scanUnits s
                pure (c :: units, rest)
            | none => .error .decode
        | [] => .error .decode
      else if c < 32 then .error .decode
      else do
        let (units, rest) ← scanUnits s
        pure (c :: units, rest)

/-- Join each high surrogate with a low one right behind it. -/
def joinSurrogates : Str → Str
  | [] => []
  | [c] => [c]
  | c :: d :: s =>
      if 0xD800 ≤ c ∧ c ≤ 0xDBFF ∧ 0xDC00 ≤ d ∧ d ≤ 0xDFFF then
        (0x10000 + (c - 0xD800) * 1024 + (d - 0xDC00)) :: joinSurrogates s
      else c :: joinSurrogates (d :: s)

def scanString (s : Str) : Except JsonError (Str × Str) := do
  let (units, rest) ← scanUnits s
  pure (joinSurrogates units, rest)

/-- Doubles round to infinity from here on. -/
def doubleLimit : Rat := 2 ^ 1024 - 2 ^ 970

def toDouble (q : Rat) : PyFloat :=
  if q ≥ doubleLimit then .inf false
  else if q ≤ -doubleLimit then .inf true
  else .finite q

/-- A sign, where there is one, and whether it is a minus. -/
def scanSign : Str → Bool × Str
  | 45 :: s => (true, s)
  | 43 :: s => (false, s)
  | s => (false, s)

/-- A point and at least one digit. -/
def scanFraction : Str → Option (Str × Str)
  | 46 :: s => if s.takeWhile isDigit = [] then none else some (s.span isDigit)
  | _ => none

/-- An exponent with at least one digit. -/
def scanExponent : Str → Option (Int × Str)
  | [] => none
  | c :: s =>
      let (negative, s) := scanSign s
      let (ds, rest) := s.span isDigit
      if (c = 'e'.toNat ∨ c = 'E'.toNat) ∧ ds ≠ [] then
        some (if negative then -(digitsValue ds : Int) else digitsValue ds, rest)
      else none

/-- The digits of `0|[1-9][0-9]*`. -/
def scanWhole : Str → Str × Str
  | 48 :: s => ([48], s)
  | s => s.span isDigit

/-- A number without its minus. -/
def scanUnsigned (sign : Int) (s : Str) : Except JsonError (PyJson × Str) :=
  let (whole, s) := scanWhole s
  if whole = [] then .error .decode
  else match scanFraction s with
    | none => match scanExponent s with
      | none =>
          if whole.length > 4300 then .error .digitLimit
          else .ok (.int (sign * digitsValue whole), s)
      | some (e, s) => .ok (.float (toDouble (sign * digitsValue whole * 10 ^ e)), s)
    | some (ds, s) =>
        let mantissa : Rat := sign * digitsValue (whole ++ ds) / 10 ^ ds.length
        match scanExponent s with
        | none => .ok (.float (toDouble mantissa), s)
        | some (e, s) => .ok (.float (toDouble (mantissa * 10 ^ e)), s)

def scanNumber : Str → Except JsonError (PyJson × Str)
  | 45 :: s => scanUnsigned (-1) s
  | s => scanUnsigned 1 s

/-- The text behind a literal. -/
def afterLiteral (literal s : Str) : Option Str :=
  if literal.isPrefixOf s then some (s.drop literal.length) else none

/-- The loop over the members of an object, from the quote of a key on. -/
def scanMembers (value : Str → Except JsonError (PyJson × Str)) :
    Nat → Str → Except JsonError (List (Str × PyJson) × Str)
  | 0, _ => .error .outOfFuel
  | fuel + 1, 34 :: s => do
      let (key, s) ← scanString s
      match skipSpace s with
      | 58 :: s => do
          let (v, s) ← value (skipSpace s)
          match skipSpace s with
          | 125 :: s => pure ([(key, v)], s)
          | 44 :: s => do
              let (more, s) ← scanMembers value fuel (skipSpace s)
              pure ((key, v) :: more, s)
          | _ => .error .decode
      | _ => .error .decode
  | _ + 1, _ => .error .decode

/-- The loop over the items of a list. -/
def scanItems (value : Str → Except JsonError (PyJson × Str)) :
    Nat → Str → Except JsonError (List PyJson × Str)
  | 0, _ => .error .outOfFuel
  | fuel + 1, s => do
      let (v, s) ← value s
      match skipSpace s with
      | 93 :: s => pure ([v], s)
      | 44 :: s => do
          let (more, s) ← scanItems value fuel (skipSpace s)
          pure (v :: more, s)
      | _ => .error .decode

/-- An object, behind its brace. -/
def scanObject (value : Str → Except JsonError (PyJson × Str)) (s : Str) :
    Except JsonError (PyJson × Str) :=
  match skipSpace s with
  | 125 :: s => .ok (.dict [], s)
  | s => do
      let (entries, s) ← scanMembers value (s.length + 1) s
      pure (.dict entries, s)

/-- A list, behind its bracket. -/
def scanArray (value : Str → Except JsonError (PyJson × Str)) (s : Str) :
    Except JsonError (PyJson × Str) :=
  match skipSpace s with
  | 93 :: s => .ok (.list [], s)
  | s => do
      let (items, s) ← scanItems value (s.length + 1) s
      pure (.list items, s)

/-- One value; `nested` scans what a container holds, where another level is left. -/
def scanValue (nested : Option (Str → Except JsonError (PyJson × Str))) :
    Str → Except JsonError (PyJson × Str)
  | [] => .error .decode
  | 34 :: s => do
      let (text, s) ← scanString s
      pure (.str text, s)
  | 123 :: s =>
      match nested with
      | none => .error .recursion
      | some value => scanObject value s
  | 91 :: s =>
      match nested with
      | none => .error .recursion
      | some value => scanArray value s
  | s =>
      match afterLiteral (lit "null") s with
      | some s => .ok (.null, s)
      | none =>
      match afterLiteral (lit "true") s with
      | some s => .ok (.bool true, s)
      | none =>
      match afterLiteral (lit "false") s with
      | some s => .ok (.bool false, s)
      | none =>
      match afterLiteral (lit "NaN") s with
      | some s => .ok (.float .nan, s)
      | none =>
      match afterLiteral (lit "Infinity") s with
      | some s => .ok (.float (.inf false), s)
      | none =>
      match afterLiteral (lit "-Infinity") s with
      | some s => .ok (.float (.inf true), s)
      | none => scanNumber s

/-- `scan_once` with so many levels of recursion left. -/
def scanOnce : Nat → Str → Except JsonError (PyJson × Str)
  | 0 => scanValue none
  | levels + 1 => scanValue (some (scanOnce levels))

/-- `json.loads` of a text. -/
def loads (levels : Nat) (s : Str) : Except JsonError PyJson := do
  raiseIf (s.head? = some 0xFEFF) .decode
  let (value, rest) ← scanOnce levels (skipSpace s)
  raiseIf (skipSpace rest ≠ []) .decode
  pure value

/-! ## The fuel suffices -/

/-- The scanner leaves less than it was given, and did not run out of fuel. -/
def Shortens {β : Type} (n : Nat) (x : Except JsonError (β × Str)) : Prop :=
  match x with
  | .ok (_, rest) => rest.length < n
  | .error e => e ≠ .outOfFuel

namespace Shortens

variable {β γ : Type} {n m : Nat}

theorem mono {x : Except JsonError (β × Str)} (h : Shortens n x) (le : n ≤ m) :
    Shortens m x := by
  cases x with
  | ok r => exact lt_of_lt_of_le (h : r.2.length < n) le
  | error e => exact h

theorem bind {x : Except JsonError (β × Str)} {f : β × Str → Except JsonError (γ × Str)}
    (h : Shortens n x) (rest : ∀ b s, s.length < n → Shortens m (f (b, s))) :
    Shortens m (x >>= f) := by
  cases x with
  | ok r => exact rest r.1 r.2 h
  | error e => exact h

theorem decode : Shortens (β := β) n (.error .decode) := nofun

end Shortens

theorem length_skipSpace_le (s : Str) : (skipSpace s).length ≤ s.length :=
  List.length_dropWhile_le _ _

theorem length_span_le (p : Nat → Bool) (s : Str) : (s.span p).2.length ≤ s.length := by
  rw [List.span_eq_takeWhile_dropWhile]
  exact List.length_dropWhile_le _ _

theorem scanUnits_shortens (s : Str) : Shortens s.length (scanUnits s) := by
  fun_induction scanUnits s with
  | case1 => exact .decode
  | case2 => exact Nat.lt_succ_self _
  | case3 =>
      rename_i ih
      exact ih.bind fun _ rest short => short.trans (by simp only [List.length_cons]; omega)
  | case4 => exact .decode
  | case5 =>
      rename_i ih
      exact ih.bind fun _ rest short => short.trans (by simp only [List.length_cons]; omega)
  | case6 => exact .decode
  | case7 => exact .decode
  | case8 => exact .decode
  | case9 =>
      rename_i ih
      exact ih.bind fun _ rest short => short.trans (by simp only [List.length_cons]; omega)

theorem scanString_shortens (s : Str) : Shortens s.length (scanString s) :=
  (scanUnits_shortens s).bind fun _ _ short => short

theorem scanSign_length_le (s : Str) : (scanSign s).2.length ≤ s.length := by
  unfold scanSign
  split
  · exact Nat.le_succ _
  · exact Nat.le_succ _
  · exact le_rfl

theorem scanFraction_length_le {s : Str} {r : Str × Str} (h : scanFraction s = some r) :
    r.2.length ≤ s.length := by
  unfold scanFraction at h
  split at h
  · split at h
    · cases h
    · rw [← Option.some.inj h]
      exact (length_span_le _ _).trans (Nat.le_succ _)
  · cases h

theorem scanExponent_length_le {s : Str} {r : Int × Str} (h : scanExponent s = some r) :
    r.2.length ≤ s.length := by
  cases s with
  | nil => cases h
  | cons c s =>
      simp only [scanExponent] at h
      split at h
      · rw [← Option.some.inj h]
        exact (length_span_le _ _).trans ((scanSign_length_le s).trans (Nat.le_succ _))
      · cases h

theorem scanWhole_length_lt {s : Str} {r : Str × Str} (h : scanWhole s = r)
    (some_digit : r.1 ≠ []) : r.2.length < s.length := by
  unfold scanWhole at h
  split at h
  · rw [← h]
    exact Nat.lt_succ_self _
  · subst h
    rw [List.span_eq_takeWhile_dropWhile] at some_digit ⊢
    have whole := congrArg List.length (s.takeWhile_append_dropWhile (p := isDigit))
    have := List.length_pos_of_ne_nil some_digit
    rw [List.length_append] at whole
    dsimp only at this ⊢
    omega

theorem scanUnsigned_shortens (sign : Int) (s : Str) : Shortens s.length (scanUnsigned sign s) := by
  simp only [scanUnsigned]
  split
  · exact .decode
  rename_i some_digit
  have shorter := scanWhole_length_lt rfl some_digit
  split
  · split
    · split
      · exact nofun
      · exact shorter
    · rename_i found
      exact (scanExponent_length_le found).trans_lt shorter
  · rename_i found
    have shorter := (scanFraction_length_le found).trans_lt shorter
    split
    · exact shorter
    · rename_i found
      exact (scanExponent_length_le found).trans_lt shorter

theorem scanNumber_shortens (s : Str) : Shortens s.length (scanNumber s) := by
  unfold scanNumber
  split
  · exact (scanUnsigned_shortens _ _).mono (Nat.le_succ _)
  · exact scanUnsigned_shortens _ _

section
variable {value : Str → Except JsonError (PyJson × Str)}

theorem scanMembers_shortens (shortens : ∀ s, Shortens s.length (value s)) (fuel : Nat) (s : Str)
    (enough : s.length < fuel) : Shortens s.length (scanMembers value fuel s) := by
  fun_induction scanMembers value fuel s with
  | case1 => omega
  | case3 => exact .decode
  | case2 fuel s ih =>
      refine (scanString_shortens s).bind fun key after short => ?_
      have := length_skipSpace_le after
      dsimp only
      split
      case h_2 => exact .decode
      case h_1 s' colon =>
        refine (shortens _).bind fun v after' short' => ?_
        have := length_skipSpace_le s'
        have := length_skipSpace_le after'
        dsimp only
        split
        case h_1 closed =>
          simp only [closed, colon, List.length_cons] at *
          show _ < _
          omega
        case h_2 rest comma =>
          have := length_skipSpace_le rest
          simp only [comma, colon, List.length_cons] at *
          refine (ih rest (by omega)).bind fun more last short'' => ?_
          show last.length < _
          omega
        case h_3 => exact .decode

theorem scanItems_shortens (shortens : ∀ s, Shortens s.length (value s)) (fuel : Nat) (s : Str)
    (enough : s.length < fuel) : Shortens s.length (scanItems value fuel s) := by
  fun_induction scanItems value fuel s with
  | case1 => omega
  | case2 fuel s ih =>
      refine (shortens s).bind fun v after short => ?_
      have := length_skipSpace_le after
      dsimp only
      split
      case h_1 closed =>
        simp only [closed, List.length_cons] at *
        show _ < _
        omega
      case h_2 rest comma =>
        have := length_skipSpace_le rest
        simp only [comma, List.length_cons] at *
        refine (ih rest (by omega)).bind fun more last short' => ?_
        show last.length < _
        omega
      case h_3 => exact .decode

theorem scanObject_shortens (shortens : ∀ s, Shortens s.length (value s)) (s : Str) :
    Shortens (s.length + 1) (scanObject value s) := by
  have := length_skipSpace_le s
  unfold scanObject
  split
  case h_1 closed =>
    simp only [closed, List.length_cons] at *
    show _ < _
    omega
  case h_2 =>
    refine (scanMembers_shortens shortens _ _ (Nat.lt_succ_self _)).bind fun entries after short => ?_
    show _ < _
    omega

theorem scanArray_shortens (shortens : ∀ s, Shortens s.length (value s)) (s : Str) :
    Shortens (s.length + 1) (scanArray value s) := by
  have := length_skipSpace_le s
  unfold scanArray
  split
  case h_1 closed =>
    simp only [closed, List.length_cons] at *
    show _ < _
    omega
  case h_2 =>
    refine (scanItems_shortens shortens _ _ (Nat.lt_succ_self _)).bind fun items after short => ?_
    show _ < _
    omega

theorem afterLiteral_length_lt {literal s rest : Str} (h : afterLiteral literal s = some rest)
    (some_letter : literal ≠ []) : rest.length < s.length := by
  unfold afterLiteral at h
  split at h
  case isFalse => cases h
  case isTrue starts =>
    have := (List.isPrefixOf_iff_prefix.mp starts).length_le
    have := List.length_pos_of_ne_nil some_letter
    rw [← Option.some.inj h, List.length_drop]
    omega

end

theorem scanValue_shortens {nested : Option (Str → Except JsonError (PyJson × Str))}
    (shortens : ∀ value ∈ nested, ∀ s, Shortens s.length (value s)) (s : Str) :
    Shortens s.length (scanValue nested s) := by
  unfold scanValue
  split
  · exact .decode
  · exact ((scanString_shortens _).mono (Nat.le_succ _)).bind fun _ _ short => short
  · split
    · exact nofun
    · exact scanObject_shortens (shortens _ rfl) _
  · split
    · exact nofun
    · exact scanArray_shortens (shortens _ rfl) _
  · iterate 6
      split
      · exact afterLiteral_length_lt ‹_› (by decide)
    exact scanNumber_shortens _

theorem scanOnce_shortens (levels : Nat) (s : Str) : Shortens s.length (scanOnce levels s) := by
  induction levels generalizing s with
  | zero =>
      apply scanValue_shortens
      rintro _ ⟨⟩
  | succ levels ih =>
      apply scanValue_shortens
      rintro _ ⟨⟩
      exact ih

theorem loads_ne_outOfFuel (levels : Nat) (s : Str) : loads levels s ≠ .error .outOfFuel := by
  have scanned := scanOnce_shortens levels (skipSpace s)
  intro h
  simp only [loads, raiseIf] at h
  split at h
  · cases h
  rw [ok_bind] at h
  cases answer : scanOnce levels (skipSpace s) with
  | error e =>
      rw [answer] at scanned h
      exact scanned (Except.error.inj h)
  | ok r =>
      rw [answer, ok_bind] at h
      split at h
      · cases h
      · cases h

end Json

end FleetRMW.Lib
