import FleetRMW.Rmw.FrameText

/-! # Runs of digits in a text

The missing ranges of an acknowledgement are all runs of digits behind a text without quotes, up
to a brace. That text may also stand in a name, and then the digits behind it are read.
-/

namespace FleetRMW.Rmw

open Lib

/-! ## Searches without quotes -/

theorem jsonEscape_append (v w : Bytes) : jsonEscape (v ++ w) = jsonEscape v ++ jsonEscape w := by
  induction v with
  | nil => rfl
  | cons c v ih => rw [List.cons_append, jsonEscape_cons, jsonEscape_cons, ih, List.append_assoc]

section
variable {key v rest : Bytes} {c k : UInt8}

theorem IsName.prefix_escape (name : IsName key) : key <+: jsonEscape v ↔ key <+: v := by
  have plain := name.2
  clear name
  induction key generalizing v with
  | nil => simp
  | cons k key ih =>
      have kName : isNameOctet k := plain k List.mem_cons_self
      have notSlash : k ≠ 92 := by rintro rfl; exact absurd kName (by decide)
      have notQuote : k ≠ 34 := by rintro rfl; exact absurd kName (by decide)
      have notNewline : k ≠ 10 := by rintro rfl; exact absurd kName (by decide)
      cases v with
      | nil => simp [jsonEscape]
      | cons c v =>
          rw [jsonEscape_cons]
          split_ifs with special newline
          · have other : k ≠ c := by
              rintro rfl
              exact special.elim notSlash notQuote
            simp [List.cons_prefix_cons, notSlash, other]
          · have other : k ≠ c := by
              rintro rfl
              exact notNewline newline
            simp [List.cons_prefix_cons, notSlash, other]
          · have tails : key <+: jsonEscape v ↔ key <+: v :=
              ih fun d among => plain d (List.mem_cons_of_mem _ among)
            rw [List.singleton_append, List.cons_prefix_cons, List.cons_prefix_cons, tails]

/-- A name that does not begin with the letter of an escape is found in an escaped string where
    it is found in the string. -/
theorem IsName.afterFirst_jsonEscape (name : IsName (k :: key)) (first : k ≠ 110) (v : Bytes) :
    afterFirst (k :: key) (jsonEscape v) = (afterFirst (k :: key) v).map jsonEscape := by
  have kName : isNameOctet k := name.2 k List.mem_cons_self
  have skip : ∀ (x : UInt8) (s : Bytes), k ≠ x →
      afterFirst (k :: key) (x :: s) = afterFirst (k :: key) s := fun x s other =>
    afterFirst_cons_of_not_starts fun pre => other (List.cons_prefix_cons.mp pre).1
  induction v with
  | nil => rfl
  | cons c v ih =>
      by_cases here : k :: key <+: c :: v
      · obtain ⟨behind, whole⟩ := here
        rw [← whole, jsonEscape_append, name.jsonEscape_eq, afterFirst_of_prefix,
          afterFirst_of_prefix]
        rfl
      · have notSlash : k ≠ 92 := by rintro rfl; exact absurd kName (by decide)
        rw [afterFirst_cons_of_not_starts here, ← ih]
        rw [← name.prefix_escape] at here
        rw [jsonEscape_cons] at here ⊢
        split_ifs at here ⊢ with special newline
        · have other : k ≠ c := by
            rintro rfl
            rcases special with rfl | rfl <;> exact absurd kName (by decide)
          exact (skip _ _ notSlash).trans (skip _ _ other)
        · exact (skip _ _ notSlash).trans (skip _ _ first)
        · exact afterFirst_cons_of_not_starts here

/-- A name without quotes is looked for inside a quoted string and behind it. -/
theorem IsName.afterFirst_quotedText (name : IsName (k :: key)) (first : k ≠ 110)
    (other : isNameOctet c = false) (v rest : Bytes) :
    afterFirst (k :: key) (quotedText v c ++ rest) =
      match afterFirst (k :: key) v with
      | some behind => some (jsonEscape behind ++ 34 :: c :: rest)
      | none => afterFirst (k :: key) rest := by
  have kName : isNameOctet k := name.2 k List.mem_cons_self
  have notQuote : k ≠ 34 := by rintro rfl; exact absurd kName (by decide)
  have notEnding : k ≠ c := by rintro rfl; rw [other] at kName; cases kName
  have skip : ∀ (x : UInt8) (s : Bytes), k ≠ x →
      afterFirst (k :: key) (x :: s) = afterFirst (k :: key) s := fun x s differs =>
    afterFirst_cons_of_not_starts fun pre => differs (List.cons_prefix_cons.mp pre).1
  have unquoted : 34 ∉ k :: key := fun among => absurd (name.2 34 among) (by decide)
  simp only [quotedText, List.cons_append, List.append_assoc, List.nil_append]
  rw [skip _ _ notQuote, afterFirst_append_delimiter unquoted (List.cons_ne_nil _ _),
    name.afterFirst_jsonEscape first, skip _ _ notEnding]
  cases afterFirst (k :: key) v <;> rfl

end

/-! ## Runs of digits -/

section
variable {cur x y v : Bytes} {z : List Bytes} {s : UInt8}

theorem digitRunsBefore_digit (digit : isDecimal s) :
    digitRunsBefore cur (s :: y) = digitRunsBefore (cur ++ [s]) y := by
  rw [digitRunsBefore, if_pos digit]

theorem digitRunsBefore_other (notDigit : isDecimal s = false) (notBrace : s ≠ 125) :
    digitRunsBefore cur (s :: y) = digitRunsBefore cur [] ++ digitRunsBefore [] y := by
  simp [digitRunsBefore, notDigit, notBrace]

/-- The runs end at a brace in front of a quoted `state`. -/
theorem digitRunsBefore_brace (state : contains (quotedKey (octets "state")) (125 :: y)) :
    digitRunsBefore cur (125 :: y) = digitRunsBefore cur [] := by
  have notDigit : isDecimal 125 = false := rfl
  simp [digitRunsBefore, notDigit, state]

/-- The runs of a text without braces stand for themselves, whatever follows. -/
theorem digitRunsBefore_append (noBrace : 125 ∉ x)
    (stops : ∀ cur, digitRunsBefore cur (s :: y) = digitRunsBefore cur [] ++ z) :
    digitRunsBefore cur (x ++ s :: y) = digitRunsBefore cur x ++ z := by
  induction x generalizing cur with
  | nil => exact stops cur
  | cons c x ih =>
      have restBrace : 125 ∉ x := fun among => noBrace (List.mem_cons_of_mem _ among)
      have other : c ≠ 125 := fun same => noBrace (same ▸ List.mem_cons_self)
      rw [List.cons_append]
      cases digit : isDecimal c with
      | true => rw [digitRunsBefore_digit digit, digitRunsBefore_digit digit, ih restBrace]
      | false =>
          rw [digitRunsBefore_other digit other, digitRunsBefore_other digit other, ih restBrace,
            List.append_assoc]

theorem digitRunsBefore_jsonEscape (noBrace : 125 ∉ v) :
    digitRunsBefore cur (jsonEscape v) = digitRunsBefore cur v := by
  induction v generalizing cur with
  | nil => rfl
  | cons c v ih =>
      have restBrace : 125 ∉ v := fun among => noBrace (List.mem_cons_of_mem _ among)
      have other : c ≠ 125 := fun same => noBrace (same ▸ List.mem_cons_self)
      have slash : ∀ s, digitRunsBefore cur (92 :: s) = digitRunsBefore cur [] ++
          digitRunsBefore [] s := fun s => digitRunsBefore_other rfl (by decide)
      rw [jsonEscape_cons]
      split_ifs with special newline
      · have notDigit : isDecimal c = false := by
          rcases special with rfl | rfl <;> rfl
        simp only [List.cons_append, List.nil_append]
        rw [slash, digitRunsBefore_other notDigit other, digitRunsBefore_other notDigit other,
          ih restBrace]
        rfl
      · subst newline
        simp only [List.cons_append, List.nil_append]
        rw [slash, digitRunsBefore_other rfl (by decide), digitRunsBefore_other rfl (by decide),
          ih restBrace]
        rfl
      · rw [List.singleton_append]
        cases digit : isDecimal c with
        | true => rw [digitRunsBefore_digit digit, digitRunsBefore_digit digit, ih restBrace]
        | false =>
            rw [digitRunsBefore_other digit other, digitRunsBefore_other digit other,
              ih restBrace]

theorem digitRunsBefore_digits (digits : ∀ d ∈ x, isDecimal d) (some_ : cur ++ x ≠ []) :
    digitRunsBefore cur x = [cur ++ x] := by
  induction x generalizing cur with
  | nil =>
      rw [List.append_nil] at some_ ⊢
      rw [digitRunsBefore, if_neg some_]
  | cons d x ih =>
      rw [digitRunsBefore_digit (digits d List.mem_cons_self),
        ih (fun e among => digits e (List.mem_cons_of_mem _ among)) (by simp)]
      simp

theorem digitRunsBefore_decimal (n : Nat) (notDigit : isDecimal s = false) (notBrace : s ≠ 125) :
    digitRunsBefore [] (decimal n ++ s :: y) = decimal n :: digitRunsBefore [] y := by
  have noBrace : 125 ∉ decimal n := fun among =>
    absurd (decimal_isDecimal n 125 among) (by decide)
  rw [digitRunsBefore_append noBrace fun cur => digitRunsBefore_other notDigit notBrace,
    digitRunsBefore_digits (decimal_isDecimal n) (by simp [decimal_ne_nil])]
  rfl

theorem digitRunsBefore_cons (notDigit : isDecimal s = false) (notBrace : s ≠ 125) :
    digitRunsBefore [] (s :: y) = digitRunsBefore [] y :=
  digitRunsBefore_other notDigit notBrace

theorem mem_jsonEscape (plain : s ≠ 92 ∧ s ≠ 110) (among : s ∈ jsonEscape v) : s ∈ v := by
  induction v with
  | nil => exact among
  | cons c v ih =>
      rw [jsonEscape_cons] at among
      rcases List.mem_append.mp among with here | later
      · split_ifs at here with special newline
        · simp only [List.mem_cons, List.not_mem_nil, or_false] at here
          exact here.elim (fun same => absurd same plain.1) fun same => same ▸ List.mem_cons_self
        · simp only [List.mem_cons, List.not_mem_nil, or_false] at here
          exact here.elim (fun same => absurd same plain.1) fun same => absurd same plain.2
        · exact List.mem_singleton.mp here ▸ List.mem_cons_self
      · exact List.mem_cons_of_mem _ (ih later)

/-- The runs of a string and of what follows it; a brace in it ends them. -/
theorem digitRunsBefore_string (state : contains (quotedKey (octets "state")) y) (v : Bytes) :
    digitRunsBefore [] (jsonEscape v ++ 34 :: y) =
      if 125 ∈ v then digitRunsBefore [] (v.takeWhile (· ≠ 125))
      else digitRunsBefore [] v ++ digitRunsBefore [] y := by
  split
  case isTrue brace =>
    obtain ⟨front, back, rfl, noBrace⟩ := List.eq_append_cons_of_mem brace
    have cut : (front ++ 125 :: back).takeWhile (· ≠ 125) = front := by
      have inside : ∀ c ∈ front, decide (c ≠ 125) = true := fun c among =>
        decide_eq_true fun same => noBrace (same ▸ among)
      rw [List.takeWhile_append_of_pos inside, List.takeWhile_cons_of_neg (by simp),
        List.append_nil]
    have escaped : 125 ∉ jsonEscape front := fun among =>
      noBrace (mem_jsonEscape (by decide) among)
    have later : contains (quotedKey (octets "state")) (125 :: (jsonEscape back ++ 34 :: y)) := by
      have inside := contains_append_left state (125 :: (jsonEscape back ++ [34]))
      rwa [List.cons_append, List.append_assoc] at inside
    have shape : jsonEscape (front ++ 125 :: back) ++ 34 :: y =
        jsonEscape front ++ 125 :: (jsonEscape back ++ 34 :: y) := by
      rw [jsonEscape_append, List.append_assoc]
      rfl
    have stops : ∀ cur, digitRunsBefore cur (125 :: (jsonEscape back ++ 34 :: y)) =
        digitRunsBefore cur [] ++ [] := fun cur => by
      rw [digitRunsBefore_brace later, List.append_nil]
    rw [cut, shape, digitRunsBefore_append escaped stops, List.append_nil,
      digitRunsBefore_jsonEscape noBrace]
  case isFalse noBrace =>
    have escaped : 125 ∉ jsonEscape v := fun among => noBrace (mem_jsonEscape (by decide) among)
    rw [digitRunsBefore_append escaped fun cur => digitRunsBefore_other rfl (by decide),
      digitRunsBefore_jsonEscape noBrace]

end

/-! ## Runs among pieces -/

/-- The runs of the strings up to a brace in one of them, or else also those behind them. -/
def stringRuns (behind : List Bytes) : List Bytes → List Bytes
  | [] => behind
  | v :: vs =>
      if 125 ∈ v then digitRunsBefore [] (v.takeWhile (· ≠ 125))
      else digitRunsBefore [] v ++ stringRuns behind vs

/-- The runs behind the key in the first string that holds it. -/
def strayRuns (key : Bytes) (behind : List Bytes) : List Bytes → Option (List Bytes)
  | [] => none
  | v :: vs =>
      match afterFirst key v with
      | some rest => some (stringRuns behind (rest :: vs))
      | none => strayRuns key behind vs

def strings (ps : List Piece) : List Bytes :=
  ps.filterMap fun
    | .value v _ => some v
    | _ => none

/-- No digit, no brace and not the key, strings apart. -/
def Piece.Silent (key : Bytes) : Piece → Prop
  | .raw t _ => ∀ c ∈ t, isNameOctet c = false ∧ c ≠ 125
  | .key k => afterFirst key (octets k.text) = none ∧ ∀ c ∈ octets k.text, isDecimal c = false
  | .constant s ending => ending ≠ .brace ∧ afterFirst key (octets s.text) = none ∧
      ∀ c ∈ octets s.text, isDecimal c = false
  | .value _ ending => ending ≠ .brace

section
variable {key v x y : Bytes} {k c : UInt8}

theorem digitRunsBefore_none (plain : ∀ c ∈ x, isDecimal c = false ∧ c ≠ 125) :
    digitRunsBefore [] (x ++ y) = digitRunsBefore [] y := by
  induction x with
  | nil => rfl
  | cons c x ih =>
      obtain ⟨notDigit, notBrace⟩ := plain c List.mem_cons_self
      rw [List.cons_append, digitRunsBefore_cons notDigit notBrace,
        ih fun d among => plain d (List.mem_cons_of_mem _ among)]

theorem digitRunsBefore_quotedText (state : contains (quotedKey (octets "state")) y)
    (notDigit : isDecimal c = false) (notBrace : c ≠ 125) (v : Bytes) :
    digitRunsBefore [] (quotedText v c ++ y) =
      if 125 ∈ v then digitRunsBefore [] (v.takeWhile (· ≠ 125))
      else digitRunsBefore [] v ++ digitRunsBefore [] y := by
  have later : contains (quotedKey (octets "state")) (c :: y) := contains_append_left state [c]
  simp only [quotedText, List.cons_append, List.append_assoc, List.nil_append]
  rw [digitRunsBefore_cons rfl (by decide), digitRunsBefore_string later,
    digitRunsBefore_cons notDigit notBrace]

theorem isDecimal_of_not_name (other : isNameOctet c = false) : isDecimal c = false := by
  simp only [isNameOctet, Bool.or_eq_false_iff] at other
  simpa [isDecimal] using other.1.1.2

theorem digitRunsBefore_name {s : String} (name : IsNameText s)
    (digitless : ∀ c ∈ octets s, isDecimal c = false)
    (state : contains (quotedKey (octets "state")) y) (notDigit : isDecimal c = false)
    (notBrace : c ≠ 125) :
    digitRunsBefore [] (quotedText (octets s) c ++ y) = digitRunsBefore [] y := by
  have noBrace : 125 ∉ octets s := fun among => absurd (name.2.2 125 among) (by decide)
  have nothing : digitRunsBefore [] (octets s) = [] := by
    have none := digitRunsBefore_none (x := octets s) (y := []) fun d among =>
      ⟨digitless d among, fun same => noBrace (same ▸ among)⟩
    rwa [List.append_nil] at none
  rw [digitRunsBefore_quotedText state notDigit notBrace, if_neg noBrace, nothing, List.nil_append]

theorem Ending.not_digit (ending : Ending) : isDecimal ending.octet = false :=
  isDecimal_of_not_name ending.not_name

theorem Ending.ne_brace {ending : Ending} (open_ : ending ≠ .brace) : ending.octet ≠ 125 :=
  (Ending.plain open_).2.2.2

/-- What is read among silent pieces are the runs of their strings. -/
theorem digitRunsBefore_silent {ps : List Piece} (silent : ∀ p ∈ ps, p.Silent key)
    (state : contains (quotedKey (octets "state")) y) :
    digitRunsBefore [] (render ps ++ y) = stringRuns (digitRunsBefore [] y) (strings ps) := by
  induction ps with
  | nil => rfl
  | cons p ps ih =>
      have rest := ih fun q among => silent q (List.mem_cons_of_mem _ among)
      have later := contains_append_left state (render ps)
      have here := silent p List.mem_cons_self
      rw [render_cons, List.append_assoc]
      cases p with
      | raw t unquoted =>
          exact (digitRunsBefore_none fun c among =>
            ⟨isDecimal_of_not_name (here c among).1, (here c among).2⟩).trans rest
      | key name =>
          exact (digitRunsBefore_name name.plain here.2 later rfl (by decide)).trans rest
      | constant s ending =>
          exact (digitRunsBefore_name s.plain here.2.2 later ending.not_digit
            (Ending.ne_brace here.1)).trans rest
      | value v ending =>
          rw [Piece.text, digitRunsBefore_quotedText later ending.not_digit (Ending.ne_brace here),
            rest]
          rfl

/-- What is read behind the first occurrence of a name among silent pieces. -/
theorem afterFirst_silent (name : IsName (k :: key)) (first : k ≠ 110) {ps : List Piece}
    (silent : ∀ p ∈ ps, p.Silent (k :: key))
    (state : contains (quotedKey (octets "state")) y) :
    (afterFirst (k :: key) (render ps ++ y)).map (digitRunsBefore []) =
      match strayRuns (k :: key) (digitRunsBefore [] y) (strings ps) with
      | some runs => some runs
      | none => (afterFirst (k :: key) y).map (digitRunsBefore []) := by
  have kName : isNameOctet k := name.2 k List.mem_cons_self
  induction ps with
  | nil => rfl
  | cons p ps ih =>
      have restSilent : ∀ q ∈ ps, q.Silent (k :: key) := fun q among =>
        silent q (List.mem_cons_of_mem _ among)
      have rest := ih restSilent
      have here := silent p List.mem_cons_self
      rw [render_cons, List.append_assoc]
      cases p with
      | raw t unquoted =>
          have absent : k ∉ t := fun among => by
            rw [(here k among).1] at kName
            cases kName
          exact (congrArg _ (afterFirst_append_of_not_mem absent _)).trans rest
      | key s =>
          rw [Piece.text, name.afterFirst_quotedText first rfl, here.1]
          exact rest
      | constant s ending =>
          rw [Piece.text, name.afterFirst_quotedText first ending.not_name, here.2.1]
          exact rest
      | value v ending =>
          rw [Piece.text, name.afterFirst_quotedText first ending.not_name]
          cases inside : afterFirst (k :: key) v with
          | none =>
              have passed : strayRuns (k :: key) (digitRunsBefore [] y)
                  (strings (.value v ending :: ps)) =
                  strayRuns (k :: key) (digitRunsBefore [] y) (strings ps) := by
                change strayRuns _ _ (v :: strings ps) = _
                rw [strayRuns, inside]
              rw [passed]
              exact rest
          | some behind =>
              have stopped : strayRuns (k :: key) (digitRunsBefore [] y)
                  (strings (.value v ending :: ps)) =
                  some (stringRuns (digitRunsBefore [] y) (behind :: strings ps)) := by
                change strayRuns _ _ (v :: strings ps) = _
                rw [strayRuns, inside]
              have later := contains_append_left state (ending.octet :: render ps)
              rw [stopped]
              refine congrArg some ?_
              rw [← List.cons_append, digitRunsBefore_string later, List.cons_append,
                digitRunsBefore_cons ending.not_digit (Ending.ne_brace here),
                digitRunsBefore_silent restSilent state]
              rfl

end

end FleetRMW.Rmw
