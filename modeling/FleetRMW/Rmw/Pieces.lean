import FleetRMW.Rmw.DataFrame

/-! # Texts in pieces

A text that an encoder writes alternates between quoted strings and octets without quotes. In
such a text a quoted key is found at a string that is the key, and also at one that ends in a
quote and the key. A string in front of a key that looks like it in this way hides it: what
stands behind a value is no colon.
-/

namespace FleetRMW.Rmw

open Lib

/-! ## Names and escapes -/

/-- The octets of keys and of constant strings. -/
def isNameOctet (c : UInt8) : Bool :=
  (97 ≤ c && c ≤ 122) || (65 ≤ c && c ≤ 90) || (48 ≤ c && c ≤ 57) || c == 95 || c == 46

def IsName (key : Bytes) : Prop := key ≠ [] ∧ ∀ c ∈ key, isNameOctet c

instance (key : Bytes) : Decidable (IsName key) :=
  decidable_of_iff (key ≠ [] ∧ key.all isNameOctet) (by simp [IsName])

/-- A search for the quoted key stops at the end of this string. -/
def shadows (v key : Bytes) : Bool := (34 :: key).isSuffixOf (34 :: v)

theorem shadows_iff {v key : Bytes} : shadows v key ↔ 34 :: key <:+ 34 :: v := by
  rw [shadows, List.isSuffixOf_iff_suffix]

theorem shadows_self (key : Bytes) : shadows key key := shadows_iff.mpr (List.suffix_refl _)

@[simp] theorem not_shadows_nil {key : Bytes} (name : IsName key) : shadows [] key = false := by
  cases h : shadows [] key with
  | false => rfl
  | true =>
      obtain same | inside := List.suffix_cons_iff.mp (shadows_iff.mp h)
      · exact absurd (List.cons.inj same).2 name.1
      · exact absurd (List.suffix_nil.mp inside) (List.cons_ne_nil _ _)

section
variable {key v rest : Bytes} {c : UInt8}

theorem IsName.ne_of_mem (name : IsName key) (among : c ∈ key) (d : UInt8)
    (other : isNameOctet d = false) : c ≠ d := by
  rintro rfl
  exact absurd (name.2 c among) (by simp [other])

theorem jsonEscape_cons (c : UInt8) (v : Bytes) :
    jsonEscape (c :: v) =
      (if c = 92 ∨ c = 34 then [92, c] else if c = 10 then [92, 110] else [c]) ++ jsonEscape v := rfl

/-- Up to the next quote an escaped string reads as the key only when it is the key. -/
theorem IsName.prefix_escape_iff (name : IsName key) :
    key ++ [34] <+: jsonEscape v ++ 34 :: rest ↔ v = key := by
  have plain := name.2
  clear name
  induction key generalizing v with
  | nil =>
      cases v with
      | nil => simp [jsonEscape]
      | cons c v =>
          simp only [List.nil_append, jsonEscape_cons, reduceCtorEq, iff_false]
          split_ifs with special newline
          · simp
          · simp
          · simp only [List.cons_append, List.cons_prefix_cons, List.nil_append]
            rintro ⟨rfl, -⟩
            exact special (.inr rfl)
  | cons k key ih =>
      have kName : isNameOctet k := plain k List.mem_cons_self
      have notSlash : k ≠ 92 := by rintro rfl; exact absurd kName (by decide)
      have notQuote : k ≠ 34 := by rintro rfl; exact absurd kName (by decide)
      have notNewline : k ≠ 10 := by rintro rfl; exact absurd kName (by decide)
      cases v with
      | nil => simp [jsonEscape, notQuote]
      | cons c v =>
          rw [jsonEscape_cons]
          split_ifs with special newline
          · have other : c ≠ k := by
              rintro rfl
              exact special.elim notSlash notQuote
            simp [List.cons_prefix_cons, notSlash, other]
          · have other : c ≠ k := by
              rintro rfl
              exact notNewline newline
            simp [List.cons_prefix_cons, notSlash, other]
          · simp only [List.cons_append, List.nil_append, List.cons_prefix_cons, List.cons.injEq,
              ih fun d among => plain d (List.mem_cons_of_mem _ among)]
            exact and_congr_left fun _ => eq_comm

/-- What is not in a name does not begin one. -/
theorem IsName.not_prefix_cons (name : IsName key) (other : isNameOctet c = false) :
    ¬key ++ [34] <+: c :: rest := by
  cases key with
  | nil => exact absurd rfl name.1
  | cons k key =>
      intro pre
      have same : k = c := (List.cons_prefix_cons.mp pre).1
      have kName : isNameOctet k := name.2 k List.mem_cons_self
      rw [same, other] at kName
      cases kName

theorem IsName.jsonEscape_eq (name : IsName key) : jsonEscape key = key := by
  have plain := name.2
  clear name
  induction key with
  | nil => rfl
  | cons k key ih =>
      have kName : isNameOctet k := plain k List.mem_cons_self
      have notSpecial : ¬(k = 92 ∨ k = 34) := by
        rintro (rfl | rfl) <;> exact absurd kName (by decide)
      have notNewline : k ≠ 10 := by rintro rfl; exact absurd kName (by decide)
      rw [jsonEscape_cons, if_neg notSpecial, if_neg notNewline,
        ih fun d among => plain d (List.mem_cons_of_mem _ among), List.singleton_append]

/-- A search that starts inside an escaped string. -/
theorem IsName.afterFirst_escape (name : IsName key) (other : isNameOctet c = false) :
    afterFirst (quotedKey key) (jsonEscape v ++ 34 :: c :: rest) =
      if 34 :: key <:+ v then some (c :: rest) else afterFirst (quotedKey key) (c :: rest) := by
  have skip : ∀ (x : UInt8) (s : Bytes), x ≠ 34 →
      afterFirst (quotedKey key) (x :: s) = afterFirst (quotedKey key) s := fun x s other =>
    afterFirst_cons_of_not_starts fun pre => other (List.cons_prefix_cons.mp pre).1.symm
  induction v with
  | nil =>
      have closing : ¬quotedKey key <+: 34 :: c :: rest := fun pre =>
        name.not_prefix_cons other (List.cons_prefix_cons.mp pre).2
      rw [jsonEscape, List.nil_append, afterFirst_cons_of_not_starts closing,
        if_neg fun suf => List.cons_ne_nil _ _ (List.suffix_nil.mp suf)]
  | cons d v ih =>
      rw [jsonEscape_cons]
      by_cases quote : d = 34
      · subst quote
        rw [if_pos (.inr rfl), List.append_assoc, List.cons_append, skip 92 _ (by decide)]
        simp only [List.cons_append, List.nil_append]
        by_cases whole : v = key
        · subst whole
          rw [if_pos (List.suffix_refl _), name.jsonEscape_eq]
          have found := afterFirst_of_prefix (c :: rest) 34 (v ++ [34])
          rwa [List.cons_append, List.append_assoc, List.singleton_append] at found
        · have elsewhere : ¬quotedKey key <+: 34 :: (jsonEscape v ++ 34 :: c :: rest) := fun pre =>
            whole (name.prefix_escape_iff.mp (List.cons_prefix_cons.mp pre).2)
          have inside : 34 :: key <:+ 34 :: v ↔ 34 :: key <:+ v := by
            rw [List.suffix_cons_iff]
            exact or_iff_right fun same => whole (List.cons.inj same).2.symm
          rw [afterFirst_cons_of_not_starts elsewhere, ih, if_congr inside rfl rfl]
      · have inside : 34 :: key <:+ d :: v ↔ 34 :: key <:+ v := by
          rw [List.suffix_cons_iff]
          exact or_iff_right fun same => quote (List.cons.inj same).1.symm
        have escaped : afterFirst (quotedKey key)
            (((if d = 92 ∨ d = 34 then [92, d] else if d = 10 then [92, 110] else [d]) ++
              jsonEscape v) ++ 34 :: c :: rest) =
            afterFirst (quotedKey key) (jsonEscape v ++ 34 :: c :: rest) := by
          split_ifs with special newline
          · simp only [List.cons_append, List.nil_append]
            rw [skip _ _ (by decide), skip _ _ quote]
          · simp only [List.cons_append, List.nil_append]
            rw [skip _ _ (by decide), skip _ _ (by decide)]
          · simp only [List.cons_append, List.nil_append]
            rw [skip _ _ quote]
        rw [escaped, ih, if_congr inside rfl rfl]

/-- A search that starts at a quoted string. -/
theorem IsName.afterFirst_quoted (name : IsName key) (other : isNameOctet c = false) :
    afterFirst (quotedKey key) (34 :: (jsonEscape v ++ 34 :: c :: rest)) =
      if shadows v key then some (c :: rest) else afterFirst (quotedKey key) (c :: rest) := by
  by_cases whole : v = key
  · subst whole
    rw [if_pos (shadows_self v), name.jsonEscape_eq]
    have found := afterFirst_of_prefix (c :: rest) 34 (v ++ [34])
    rwa [List.cons_append, List.append_assoc, List.singleton_append] at found
  · have elsewhere : ¬quotedKey key <+: 34 :: (jsonEscape v ++ 34 :: c :: rest) := fun pre =>
      whole (name.prefix_escape_iff.mp (List.cons_prefix_cons.mp pre).2)
    have inside : 34 :: key <:+ v ↔ shadows v key := by
      rw [shadows_iff, List.suffix_cons_iff]
      exact (or_iff_right fun same => whole (List.cons.inj same).2.symm).symm
    rw [afterFirst_cons_of_not_starts elsewhere, name.afterFirst_escape other,
      if_congr inside rfl rfl]

end

/-! ## Pieces -/

def IsNameText (s : String) : Prop := (∀ c ∈ s.toList, c.toNat < 128) ∧ IsName (octets s)

instance (s : String) : Decidable (IsNameText s) :=
  decidable_of_iff ((s.toList.all fun c => c.toNat < 128) ∧ IsName (octets s))
    (by simp [IsNameText])

/-- The text of a key or of a constant string. -/
class NameText (text : String) : Prop where
  plain : IsNameText text

/-- A text that needs no escapes. -/
structure Name where
  text : String
  [nameText : NameText text]

theorem Name.plain (k : Name) : IsNameText k.text := k.nameText.plain

/-- What follows a string that is not a key. -/
inductive Ending where
  | comma
  | brace
  | bracket
  deriving DecidableEq

def Ending.octet : Ending → UInt8
  | .comma => 44
  | .brace => 125
  | .bracket => 93

theorem brace_unquoted : (34 : UInt8) ∉ ([123] : Bytes) := by decide
theorem endBrace_unquoted : (34 : UInt8) ∉ ([125] : Bytes) := by decide
theorem bracket_unquoted : (34 : UInt8) ∉ ([91] : Bytes) := by decide
theorem comma_unquoted : (34 : UInt8) ∉ ([44] : Bytes) := by decide

/-- Octets without quotes, a key and its colon, or a string and what follows it. -/
inductive Piece where
  | raw (t : Bytes) (unquoted : 34 ∉ t)
  | key (k : Name)
  | constant (s : Name) (ending : Ending)
  | value (v : Bytes) (ending : Ending)

/-- A quoted string and the octet behind it. -/
def quotedText (v : Bytes) (c : UInt8) : Bytes := 34 :: (jsonEscape v ++ 34 :: [c])

def Piece.text : Piece → Bytes
  | .raw t _ => t
  | .key k => quotedText (octets k.text) 58
  | .constant s ending => quotedText (octets s.text) ending.octet
  | .value v ending => quotedText v ending.octet

def render (ps : List Piece) : Bytes := ps.flatMap Piece.text

@[simp] theorem render_nil : render [] = [] := rfl

@[simp] theorem render_cons (p : Piece) (ps : List Piece) :
    render (p :: ps) = p.text ++ render ps := rfl

@[simp] theorem render_append (ps qs : List Piece) :
    render (ps ++ qs) = render ps ++ render qs := List.flatMap_append

theorem Ending.not_name (ending : Ending) : isNameOctet ending.octet = false := by
  cases ending <;> rfl

theorem Ending.not_space (ending : Ending) : isSpace ending.octet = false := by
  cases ending <;> rfl

theorem Ending.not_colon (ending : Ending) : ending.octet ≠ 58 := by
  cases ending <;> decide

theorem octets_injective {s t : String} (plain : ∀ c ∈ s.toList, c.toNat < 128)
    (plain' : ∀ c ∈ t.toList, c.toNat < 128) (same : octets s = octets t) : s = t := by
  have inj : ∀ {l l' : List Char}, (∀ c ∈ l, c.toNat < 128) → (∀ c ∈ l', c.toNat < 128) →
      l.map (fun c => UInt8.ofNat c.toNat) = l'.map (fun c => UInt8.ofNat c.toNat) → l = l' := by
    intro l
    induction l with
    | nil =>
        intro l' _ _ equal
        exact (List.map_eq_nil_iff.mp equal.symm).symm
    | cons c l ih =>
        intro l' small small' equal
        cases l' with
        | nil => cases equal
        | cons d l' =>
            obtain ⟨headEq, tailEq⟩ := List.cons.inj equal
            have cSmall := small c List.mem_cons_self
            have dSmall := small' d List.mem_cons_self
            have nats := congrArg UInt8.toNat headEq
            rw [UInt8.toNat_ofNat', UInt8.toNat_ofNat'] at nats
            have chars : c = d := by
              apply Char.ext
              apply UInt32.toNat_inj.mp
              change c.toNat = d.toNat
              omega
            rw [chars, ih (fun x among => small x (List.mem_cons_of_mem _ among))
              (fun x among => small' x (List.mem_cons_of_mem _ among)) tailEq]
  exact String.toList_injective (inj plain plain' same)

/-- A name hides a key only when it is the key. -/
theorem shadows_name_iff {s key : String} (name : IsNameText s) (keyName : IsNameText key) :
    shadows (octets s) (octets key) ↔ s = key := by
  rw [shadows_iff, List.suffix_cons_iff]
  constructor
  · rintro (same | inside)
    · exact octets_injective name.1 keyName.1 (List.cons.inj same).2.symm
    · have quote : (34 : UInt8) ∈ octets s := inside.subset List.mem_cons_self
      exact absurd (name.2.2 34 quote) (by decide)
  · rintro rfl
    exact .inl rfl

/-! ## Lookups -/

/-- The octet and the pieces behind the first string at which a search for the key stops. -/
def found (key : String) : List Piece → Option (UInt8 × List Piece)
  | [] => none
  | .raw _ _ :: ps => found key ps
  | .key k :: ps => if k.text = key then some (58, ps) else found key ps
  | .constant s ending :: ps => if s.text = key then some (ending.octet, ps) else found key ps
  | .value v ending :: ps =>
      if shadows v (octets key) then some (ending.octet, ps) else found key ps

/-- The pieces from the value of a key on, where no other string is found first. -/
def lookup (key : String) : List Piece → Option (List Piece)
  | [] => none
  | .raw _ _ :: ps => lookup key ps
  | .key k :: ps => if k.text = key then some ps else lookup key ps
  | .constant s _ :: ps => if s.text = key then none else lookup key ps
  | .value v _ :: ps => if shadows v (octets key) then none else lookup key ps

section
variable {key : String}

theorem afterFirst_quotedText {v : Bytes} {c : UInt8} (keyName : IsNameText key)
    (other : isNameOctet c = false) (quote : c ≠ 34) (rest : Bytes) :
    afterFirst (quotedKey (octets key)) (quotedText v c ++ rest) =
      if shadows v (octets key) then some (c :: rest)
      else afterFirst (quotedKey (octets key)) rest := by
  have passed : afterFirst (quotedKey (octets key)) (c :: rest) =
      afterFirst (quotedKey (octets key)) rest :=
    afterFirst_cons_of_not_starts fun pre => quote (List.cons_prefix_cons.mp pre).1.symm
  simp only [quotedText, List.cons_append, List.append_assoc, List.nil_append]
  rw [keyName.2.afterFirst_quoted other, passed]

theorem Ending.ne_quote (ending : Ending) : ending.octet ≠ 34 := by
  cases ending <;> decide

theorem afterFirst_render (keyName : IsNameText key) (ps : List Piece) :
    afterFirst (quotedKey (octets key)) (render ps) =
      (found key ps).map fun r => r.1 :: render r.2 := by
  induction ps with
  | nil => rfl
  | cons p ps ih =>
      cases p with
      | raw t unquoted =>
          have skipped : afterFirst (34 :: (octets key ++ [34])) (t ++ render ps) =
              afterFirst (34 :: (octets key ++ [34])) (render ps) :=
            afterFirst_append_of_not_mem unquoted (render ps)
          exact skipped.trans ih
      | key k =>
          rw [render_cons, Piece.text, afterFirst_quotedText keyName rfl (by decide), ih,
            if_congr (shadows_name_iff k.plain keyName) rfl rfl, found]
          split <;> rfl
      | constant s ending =>
          rw [render_cons, Piece.text, afterFirst_quotedText keyName ending.not_name
            ending.ne_quote, ih, if_congr (shadows_name_iff s.plain keyName) rfl rfl, found]
          split <;> rfl
      | value v ending =>
          rw [render_cons, Piece.text, afterFirst_quotedText keyName ending.not_name
            ending.ne_quote, ih, found]
          split <;> rfl

theorem skipSpaces_cons {c : UInt8} (visible : isSpace c = false) (s : Bytes) :
    skipSpaces (c :: s) = c :: s := by
  rw [skipSpaces, List.dropWhile_cons, visible]
  rfl

theorem afterColon_colon (s : Bytes) : afterColon (58 :: s) = some (skipSpaces s) := by
  rw [afterColon, skipSpaces_cons rfl]
  rfl

theorem afterColon_ending (ending : Ending) (s : Bytes) : afterColon (ending.octet :: s) = none := by
  rw [afterColon, skipSpaces_cons ending.not_space]
  cases ending <;> rfl

/-- What stands at a key of a text in pieces. -/
theorem jsonValueStart_render (keyName : IsNameText key) (ps : List Piece) :
    jsonValueStart (render ps) (octets key) =
      (lookup key ps).map fun qs => skipSpaces (render qs) := by
  rw [jsonValueStart, afterFirst_render keyName]
  induction ps with
  | nil => rfl
  | cons p ps ih =>
      cases p with
      | raw t unquoted => exact ih
      | key k =>
          rw [found, lookup]
          split
          · exact afterColon_colon _
          · exact ih
      | constant s ending =>
          rw [found, lookup]
          split
          · exact afterColon_ending ending _
          · exact ih
      | value v ending =>
          rw [found, lookup]
          split
          · exact afterColon_ending ending _
          · exact ih

end

/-- Some string that is not a key stops the search for the key. -/
def hides (key : String) (ps : List Piece) : Bool :=
  ps.any fun
    | .raw _ _ => false
    | .key _ => false
    | .constant s _ => s.text = key
    | .value v _ => shadows v (octets key)

/-- The key is no key of these pieces. -/
def keyless (key : String) (ps : List Piece) : Bool :=
  ps.all fun
    | .key k => k.text ≠ key
    | _ => true

section
variable {key : String} {ps qs : List Piece}

@[simp] theorem hides_nil : hides key [] = false := rfl

@[simp] theorem hides_append : hides key (ps ++ qs) = (hides key ps || hides key qs) :=
  List.any_append

@[simp] theorem hides_raw {t : Bytes} {unquoted : 34 ∉ t} :
    hides key (.raw t unquoted :: ps) = hides key ps := rfl

@[simp] theorem hides_key {k : Name} : hides key (.key k :: ps) = hides key ps := rfl

@[simp] theorem hides_constant {s : Name} {ending : Ending} :
    hides key (.constant s ending :: ps) = (decide (s.text = key) || hides key ps) := rfl

@[simp] theorem hides_value {v : Bytes} {ending : Ending} :
    hides key (.value v ending :: ps) = (shadows v (octets key) || hides key ps) := rfl

@[simp] theorem keyless_nil : keyless key [] := rfl

@[simp] theorem keyless_append : keyless key (ps ++ qs) = (keyless key ps && keyless key qs) :=
  List.all_append

@[simp] theorem keyless_raw {t : Bytes} {unquoted : 34 ∉ t} :
    keyless key (.raw t unquoted :: ps) = keyless key ps := rfl

@[simp] theorem keyless_key {k : Name} :
    keyless key (.key k :: ps) = (decide (k.text ≠ key) && keyless key ps) := rfl

@[simp] theorem keyless_constant {s : Name} {ending : Ending} :
    keyless key (.constant s ending :: ps) = keyless key ps := rfl

@[simp] theorem keyless_value {v : Bytes} {ending : Ending} :
    keyless key (.value v ending :: ps) = keyless key ps := rfl

/-- Pieces in front of a lookup hide what is behind them or are passed. -/
theorem lookup_append (absent : keyless key ps) :
    lookup key (ps ++ qs) = if hides key ps then none else lookup key qs := by
  induction ps with
  | nil => rfl
  | cons p ps ih =>
      cases p with
      | raw t unquoted => exact ih absent
      | key k =>
          simp only [keyless_key, Bool.and_eq_true, decide_eq_true_eq] at absent
          rw [List.cons_append, lookup, if_neg absent.1, hides_key, ih absent.2]
      | constant s ending =>
          rw [List.cons_append, lookup, hides_constant, ih absent]
          by_cases stops : s.text = key <;> simp [stops]
      | value v ending =>
          rw [List.cons_append, lookup, hides_value, ih absent]
          by_cases stops : shadows v (octets key) <;> simp [stops]

theorem lookup_eq_none (absent : keyless key ps) : lookup key ps = none := by
  have whole : lookup key (ps ++ []) = _ := lookup_append absent
  rw [List.append_nil] at whole
  rw [whole]
  split <;> rfl

/-- A key that is not hidden has its value. -/
theorem lookup_key (k : Name) (ps qs : List Piece) (absent : keyless k.text ps) :
    lookup k.text (ps ++ .key k :: qs) = if hides k.text ps then none else some qs := by
  rw [lookup_append absent, lookup, if_pos rfl]

/-! ## Named values -/

theorem hasStringValueFrom_skip (needle expected : Bytes) (k : Nat) (s : Bytes) :
    hasStringValueFrom needle expected k s = hasStringValueFrom needle expected 0 (s.drop k) := by
  induction k generalizing s with
  | zero => rfl
  | succ k ih =>
      cases s with
      | nil => rfl
      | cons c rest => exact ih rest

/-- The search goes on behind each occurrence. -/
theorem hasStringValueFrom_eq {c : UInt8} {t : Bytes} (expected s : Bytes) :
    hasStringValueFrom (c :: t) expected 0 s =
      match afterFirst (c :: t) s with
      | none => false
      | some rest => ((afterColon rest).bind stringAt = some expected) ||
          hasStringValueFrom (c :: t) expected 0 rest := by
  induction s with
  | nil => rfl
  | cons d s ih =>
      rw [hasStringValueFrom, afterFirst]
      split
      · rw [hasStringValueFrom_skip]
        rfl
      · exact ih

/-- The key stands in these pieces with this string as its value. -/
def hasString (key : String) (expected : Bytes) : List Piece → Bool
  | [] => false
  | .key k :: ps =>
      (k.text = key && stringAt (skipSpaces (render ps)) = some expected) || hasString key expected ps
  | _ :: ps => hasString key expected ps

section
variable {key : String} {expected : Bytes}

theorem hasStringValueFrom_quotedText {v : Bytes} {c : UInt8} (keyName : IsNameText key)
    (other : isNameOctet c = false) (quote : c ≠ 34) (rest : Bytes) :
    hasStringValueFrom (quotedKey (octets key)) expected 0 (quotedText v c ++ rest) =
      ((shadows v (octets key) && (afterColon (c :: rest)).bind stringAt = some expected) ||
        hasStringValueFrom (quotedKey (octets key)) expected 0 rest) := by
  have passed : hasStringValueFrom (quotedKey (octets key)) expected 0 (c :: rest) =
      hasStringValueFrom (quotedKey (octets key)) expected 0 rest := by
    have elsewhere : ¬(quotedKey (octets key)).isPrefixOf (c :: rest) := fun pre =>
      quote (List.cons_prefix_cons.mp (List.isPrefixOf_iff_prefix.mp pre)).1.symm
    rw [hasStringValueFrom, if_neg elsewhere]
  have whole := hasStringValueFrom_eq (c := 34) (t := octets key ++ [34]) expected
    (quotedText v c ++ rest)
  have behind := hasStringValueFrom_eq (c := 34) (t := octets key ++ [34]) expected rest
  have search := afterFirst_quotedText (v := v) keyName other quote rest
  rw [quotedKey, List.cons_append] at search passed ⊢
  rw [whole, search]
  by_cases stops : shadows v (octets key)
  · rw [if_pos stops]
    simp only [passed, stops, Bool.true_and]
  · rw [if_neg stops, ← behind]
    simp [stops]

/-- Only keys are followed by a value, so no string in a text can pretend to be one here. -/
theorem jsonHasStringValue_render (keyName : IsNameText key) (ps : List Piece) :
    jsonHasStringValue (render ps) (octets key) expected = hasString key expected ps := by
  unfold jsonHasStringValue
  induction ps with
  | nil => rfl
  | cons p ps ih =>
      cases p with
      | raw t unquoted =>
          have skipped : afterFirst (34 :: (octets key ++ [34])) (t ++ render ps) =
              afterFirst (34 :: (octets key ++ [34])) (render ps) :=
            afterFirst_append_of_not_mem unquoted (render ps)
          have whole := hasStringValueFrom_eq (c := 34) (t := octets key ++ [34]) expected
            (t ++ render ps)
          rw [skipped, ← hasStringValueFrom_eq] at whole
          exact whole.trans ih
      | key k =>
          have named : shadows (octets k.text) (octets key) = decide (k.text = key) := by
            rw [← Bool.decide_coe (shadows _ _), decide_eq_decide]
            exact shadows_name_iff k.plain keyName
          rw [render_cons, Piece.text, hasStringValueFrom_quotedText keyName rfl (by decide), ih,
            named, afterColon_colon]
          rfl
      | constant s ending =>
          rw [render_cons, Piece.text, hasStringValueFrom_quotedText keyName ending.not_name
            ending.ne_quote, ih, afterColon_ending]
          simp [hasString]
      | value v ending =>
          rw [render_cons, Piece.text, hasStringValueFrom_quotedText keyName ending.not_name
            ending.ne_quote, ih, afterColon_ending]
          simp [hasString]

end

/-! ## Values -/

theorem scanString_escape (v rest : Bytes) :
    scanString false (jsonEscape v ++ 34 :: rest) = some (v, rest) := by
  induction v with
  | nil => rfl
  | cons c v ih =>
      rw [jsonEscape_cons]
      split_ifs with special newline
      · have kept : unescape c = c := by
          rcases special with rfl | rfl <;> rfl
        simp [scanString, ih, kept]
      · subst newline
        simp [scanString, ih, unescape]
      · obtain ⟨notSlash, notQuote⟩ := not_or.mp special
        simp [scanString, ih, notSlash, notQuote]

theorem stringAt_quotedText (v : Bytes) (c : UInt8) (rest : Bytes) :
    stringAt (skipSpaces (quotedText v c ++ rest)) = some v := by
  simp only [quotedText, List.cons_append, List.append_assoc]
  rw [skipSpaces_cons rfl, stringAt, scanString_escape]
  rfl

theorem isSpace_of_isDecimal {d : UInt8} (digit : isDecimal d) : isSpace d = false := by
  simp only [isDecimal, Bool.and_eq_true, decide_eq_true_eq, UInt8.le_iff_toNat_le] at digit
  have low : 48 ≤ d.toNat := digit.1
  have blank : d ≠ 32 := by
    rintro rfl
    exact absurd low (by decide)
  have high : ¬d ≤ 13 := fun small => by
    have : d.toNat ≤ 13 := UInt8.le_iff_toNat_le.mp small
    omega
  simp [isSpace, blank, high]

/-- The digits of a number are read up to what follows it. -/
theorem takeWhile_decimal (n : Nat) {c : UInt8} (stops : isDecimal c = false) (rest : Bytes) :
    (decimal n ++ c :: rest).takeWhile isDecimal = decimal n := by
  rw [List.takeWhile_append_of_pos (decimal_isDecimal n), List.takeWhile_cons_of_neg (by simp [stops]),
    List.append_nil]

theorem skipSpaces_decimal (n : Nat) (rest : Bytes) :
    skipSpaces (decimal n ++ rest) = decimal n ++ rest := by
  cases digits : decimal n with
  | nil => exact absurd digits (decimal_ne_nil n)
  | cons d ds =>
      have digit : isDecimal d := decimal_isDecimal n d (digits ▸ List.mem_cons_self)
      exact skipSpaces_cons (isSpace_of_isDecimal digit) _

end

/-! ## Objects -/

/-- No brace outside of strings. -/
def Piece.Flat : Piece → Prop
  | .raw t _ => ∀ c ∈ t, c ≠ 92 ∧ c ≠ 34 ∧ c ≠ 123 ∧ c ≠ 125
  | .key _ => True
  | .constant _ ending => ending ≠ .brace
  | .value _ ending => ending ≠ .brace

@[simp] theorem Piece.flat_raw {t : Bytes} {unquoted : 34 ∉ t} :
    (Piece.raw t unquoted).Flat ↔ ∀ c ∈ t, c ≠ 92 ∧ c ≠ 34 ∧ c ≠ 123 ∧ c ≠ 125 := Iff.rfl

@[simp] theorem Piece.flat_key {k : Name} : (Piece.key k).Flat := trivial

@[simp] theorem Piece.flat_constant {s : Name} {ending : Ending} :
    (Piece.constant s ending).Flat ↔ ending ≠ .brace := Iff.rfl

@[simp] theorem Piece.flat_value {v : Bytes} {ending : Ending} :
    (Piece.value v ending).Flat ↔ ending ≠ .brace := Iff.rfl

/-- The piece ends the object that is open. -/
def Piece.Closes : Piece → Prop
  | .raw t _ => t = [125]
  | .key _ => False
  | .constant _ ending => ending = .brace
  | .value _ ending => ending = .brace

theorem scanObject_escape (depth : Int) (v rest : Bytes) :
    scanObject true false depth (jsonEscape v ++ rest) =
      (scanObject true false depth rest).map (jsonEscape v ++ ·) := by
  induction v with
  | nil => simp [jsonEscape]
  | cons c v ih =>
      rw [jsonEscape_cons]
      split_ifs with special newline
      · simp [scanObject, ih, Function.comp_def]
      · simp [scanObject, ih, Function.comp_def]
      · obtain ⟨notSlash, notQuote⟩ := not_or.mp special
        simp [scanObject, ih, notSlash, notQuote, Function.comp_def]

theorem scanObject_quoted (depth : Int) (v rest : Bytes) :
    scanObject false false depth (34 :: (jsonEscape v ++ 34 :: rest)) =
      (scanObject false false depth rest).map fun s => 34 :: (jsonEscape v ++ 34 :: s) := by
  have opening : scanObject false false depth (34 :: (jsonEscape v ++ 34 :: rest)) =
      (scanObject true false depth (jsonEscape v ++ 34 :: rest)).map (34 :: ·) := by
    simp [scanObject]
  have closing : scanObject true false depth (34 :: rest) =
      (scanObject false false depth rest).map (34 :: ·) := by
    simp [scanObject]
  rw [opening, scanObject_escape, closing]
  simp [Function.comp_def]

theorem scanObject_plain {depth : Int} {c : UInt8} {rest : Bytes}
    (plain : c ≠ 92 ∧ c ≠ 34 ∧ c ≠ 123 ∧ c ≠ 125) :
    scanObject false false depth (c :: rest) =
      (scanObject false false depth rest).map (c :: ·) := by
  simp [scanObject, plain]

theorem scanObject_quotedText {depth : Int} {v : Bytes} {c : UInt8} {rest : Bytes}
    (plain : c ≠ 92 ∧ c ≠ 34 ∧ c ≠ 123 ∧ c ≠ 125) :
    scanObject false false depth (quotedText v c ++ rest) =
      (scanObject false false depth rest).map (quotedText v c ++ ·) := by
  simp only [quotedText, List.cons_append, List.append_assoc, List.nil_append]
  rw [scanObject_quoted, scanObject_plain plain]
  simp [Function.comp_def]

theorem scanObject_quotedText_brace (v rest : Bytes) :
    scanObject false false 1 (quotedText v 125 ++ rest) = some (quotedText v 125) := by
  simp only [quotedText, List.cons_append, List.append_assoc, List.nil_append]
  rw [scanObject_quoted]
  rfl

theorem Ending.plain {ending : Ending} (open_ : ending ≠ .brace) :
    ending.octet ≠ 92 ∧ ending.octet ≠ 34 ∧ ending.octet ≠ 123 ∧ ending.octet ≠ 125 := by
  cases ending with
  | comma => decide
  | brace => exact absurd rfl open_
  | bracket => decide

theorem Piece.Flat.scanObject {p : Piece} (flat : p.Flat) (depth : Int) (rest : Bytes) :
    Rmw.scanObject false false depth (p.text ++ rest) =
      (Rmw.scanObject false false depth rest).map (p.text ++ ·) := by
  cases p with
  | raw t unquoted =>
      induction t with
      | nil => simp [Piece.text]
      | cons c t ih =>
          have tail := ih (fun among => unquoted (List.mem_cons_of_mem _ among))
            fun d among => flat d (List.mem_cons_of_mem _ among)
          simp only [Piece.text] at tail ⊢
          rw [List.cons_append, scanObject_plain (flat c List.mem_cons_self), tail]
          simp [Function.comp_def]
  | key k => exact scanObject_quotedText (by decide)
  | constant s ending => exact scanObject_quotedText (Ending.plain flat)
  | value v ending => exact scanObject_quotedText (Ending.plain flat)

theorem Piece.Closes.scanObject {p : Piece} (closes : p.Closes) (rest : Bytes) :
    Rmw.scanObject false false 1 (p.text ++ rest) = some p.text := by
  cases p with
  | raw t unquoted =>
      obtain rfl : t = [125] := closes
      rfl
  | key k => exact closes.elim
  | constant s ending =>
      obtain rfl : ending = .brace := closes
      exact scanObject_quotedText_brace _ rest
  | value v ending =>
      obtain rfl : ending = .brace := closes
      exact scanObject_quotedText_brace v rest

/-- An object without objects inside is read up to its closing brace. -/
theorem objectAt_render {os : List Piece} {p : Piece} (flat : ∀ o ∈ os, o.Flat) (closes : p.Closes)
    (rest : List Piece) :
    objectAt (skipSpaces (render (.raw [123] brace_unquoted :: (os ++ p :: rest)))) =
      some (render (.raw [123] brace_unquoted :: (os ++ [p]))) := by
  have inside : scanObject false false 1 (render (os ++ p :: rest)) = some (render (os ++ [p])) := by
    induction os with
    | nil =>
        simp only [List.nil_append, render_cons, render_nil, List.append_nil]
        exact closes.scanObject _
    | cons o os ih =>
        rw [List.cons_append, render_cons, (flat o List.mem_cons_self).scanObject,
          ih fun q among => flat q (List.mem_cons_of_mem _ among)]
        rfl
  have opening : scanObject false false 0 (123 :: render (os ++ p :: rest)) =
      (scanObject false false 1 (render (os ++ p :: rest))).map (123 :: ·) := by
    simp [scanObject]
  rw [render_cons, Piece.text, List.singleton_append, skipSpaces_cons rfl, objectAt, opening, inside]
  rfl

/-! ## Values of keys -/

theorem quote_not_mem_decimal (n : Nat) : 34 ∉ decimal n := fun among =>
  absurd (decimal_isDecimal n 34 among) (by decide)

def number (n : Nat) : Piece := .raw (decimal n) (quote_not_mem_decimal n)

/-- Nothing is written for an empty string. -/
def optionalText (k : Name) (v : Bytes) : List Piece :=
  if v = [] then [] else [.key k, .value v .comma]

/-- An object behind a comma; the last piece closes it. -/
def member (k : Name) (os : List Piece) (last : Piece) : List Piece :=
  [.raw [44] comma_unquoted, .key k, .raw [123] brace_unquoted] ++ (os ++ [last])

section
variable {k : Name} {ps qs rest : List Piece} {h : Bool}

theorem not_shadows_empty (k : Name) : shadows [] (octets k.text) = false :=
  not_shadows_nil k.plain.2

theorem hides_optionalText {n : Name} {v : Bytes} :
    hides n.text (optionalText k v) = shadows v (octets n.text) := by
  unfold optionalText
  split
  · rename_i empty
    rw [empty, not_shadows_empty, hides_nil]
  · simp

theorem keyless_optionalText {key : String} {v : Bytes} (other : k.text ≠ key) :
    keyless key (optionalText k v) := by
  unfold optionalText
  split <;> simp [other]

/-- A string is read where its key is found. -/
theorem jsonStringValue_key {v : Bytes} {ending : Ending}
    (at_ : lookup k.text ps = if h then none else some (.value v ending :: rest)) :
    jsonStringValue (render ps) (octets k.text) = if h then none else some v := by
  rw [jsonStringValue, jsonValueStart_render k.plain, at_]
  cases h with
  | true => rfl
  | false => exact stringAt_quotedText v ending.octet _

theorem jsonStringValue_constant {s : Name} {ending : Ending}
    (at_ : lookup k.text ps = some (.constant s ending :: rest)) :
    jsonStringValue (render ps) (octets k.text) = some (octets s.text) := by
  rw [jsonStringValue, jsonValueStart_render k.plain, at_]
  exact stringAt_quotedText _ ending.octet _

theorem jsonStringValue_eq_none (at_ : lookup k.text ps = none) :
    jsonStringValue (render ps) (octets k.text) = none := by
  rw [jsonStringValue, jsonValueStart_render k.plain, at_]
  rfl

/-- A string that is written only when it is not empty is read as it is, unless it is hidden. -/
theorem jsonStringValue_optionalText {v : Bytes} (before : keyless k.text ps)
    (behind : keyless k.text qs) :
    (jsonStringValue (render (ps ++ (optionalText k v ++ qs))) (octets k.text)).getD [] =
      if hides k.text ps then [] else v := by
  unfold optionalText
  split
  · rename_i empty
    have nowhere : lookup k.text (ps ++ ([] ++ qs)) = none := by
      apply lookup_eq_none
      simp [before, behind]
    rw [jsonStringValue_eq_none nowhere, empty]
    simp
  · simp only [List.cons_append, List.nil_append]
    rw [jsonStringValue_key (lookup_key _ _ _ before)]
    split <;> rfl

theorem digitRun_number {n : Nat} {c : UInt8} {t : Bytes} {unquoted : 34 ∉ c :: t}
    (at_ : lookup k.text ps = some (number n :: .raw (c :: t) unquoted :: rest))
    (stops : isDecimal c = false) : digitRun (render ps) (octets k.text) = some (decimal n) := by
  rw [digitRun, jsonValueStart_render k.plain, at_]
  simp only [Option.map_some, Option.bind_some, render_cons, number, Piece.text, List.cons_append,
    skipSpaces_decimal, takeWhile_decimal n stops, if_neg (decimal_ne_nil n)]

theorem jsonUintValue_eq_none (at_ : lookup k.text ps = none) :
    jsonUintValue (render ps) (octets k.text) = .ok none := by
  rw [jsonUintValue, digitRun, jsonValueStart_render k.plain, at_]
  rfl

/-- A number is read where its key is found. -/
theorem jsonUintValue_key {n : UInt64} {c : UInt8} {t : Bytes} {unquoted : 34 ∉ c :: t}
    (at_ : lookup k.text ps =
      if h then none else some (number n.toNat :: .raw (c :: t) unquoted :: rest))
    (stops : isDecimal c = false) :
    jsonUintValue (render ps) (octets k.text) = .ok (if h then none else some n) := by
  cases h with
  | true => exact jsonUintValue_eq_none at_
  | false =>
      rw [jsonUintValue, digitRun_number at_ stops]
      simp only [stoull, decimalValue_decimal]
      rw [if_pos n.toNat_lt, UInt64.ofNat_toNat]
      rfl

/-- An object is read where its key is found. -/
theorem jsonObjectValue_key {os : List Piece} {last : Piece} (flat : ∀ o ∈ os, o.Flat)
    (closes : last.Closes)
    (at_ : lookup k.text ps =
      if h then none else some (.raw [123] brace_unquoted :: (os ++ last :: rest))) :
    jsonObjectValue (render ps) (octets k.text) =
      if h then none else some (render (.raw [123] brace_unquoted :: (os ++ [last]))) := by
  rw [jsonObjectValue, jsonValueStart_render k.plain, at_]
  cases h with
  | true => rfl
  | false => exact objectAt_render flat closes rest

theorem jsonObjectValue_eq_none (at_ : lookup k.text ps = none) :
    jsonObjectValue (render ps) (octets k.text) = none := by
  rw [jsonObjectValue, jsonValueStart_render k.plain, at_]
  rfl

/-- An object that is written under a condition. -/
theorem jsonObjectValue_member {os : List Piece} {last : Piece} {c : Prop} [Decidable c]
    (flat : ∀ o ∈ os, o.Flat) (closes : last.Closes) (before : keyless k.text ps)
    (behind : keyless k.text qs) :
    jsonObjectValue (render (ps ++ ((if c then member k os last else []) ++ qs)))
        (octets k.text) =
      if c ∧ hides k.text ps = false then some (render (.raw [123] brace_unquoted :: (os ++ [last]))) else none := by
  by_cases written : c
  · have at_ : lookup k.text (ps ++ (member k os last ++ qs)) =
        if hides k.text ps then none else some (.raw [123] brace_unquoted :: (os ++ last :: qs)) := by
      have comma : ps ++ (member k os last ++ qs) =
          (ps ++ [.raw [44] comma_unquoted]) ++ .key k :: (.raw [123] brace_unquoted :: (os ++ last :: qs)) := by
        simp [member]
      rw [comma, lookup_key _ _ _ (by simp [before])]
      simp
    rw [if_pos written, jsonObjectValue_key flat closes at_]
    cases hides k.text ps <;> simp [written]
  · have nowhere : lookup k.text (ps ++ ([] ++ qs)) = none := by
      apply lookup_eq_none
      simp [before, behind]
    rw [if_neg written, if_neg fun both => written both.1]
    exact jsonObjectValue_eq_none nowhere

end

end FleetRMW.Rmw
