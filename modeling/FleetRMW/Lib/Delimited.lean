import Mathlib.Algebra.GroupWithZero.Nat
import Mathlib.Data.List.Infix
import Mathlib.Data.List.Nodup
import Mathlib.Data.Set.Basic

/-! # Records with separators in their texts

A record is written as the text of one field behind the other, each behind its name and in front
of a separator. Where a field's text may hold separators, it may also hold what stands between
two fields, and then another record is written in the same way. Otherwise none is.
-/

namespace FleetRMW.Lib

/-- How fields are written. Only a `Free` field accepts texts with a separator. -/
structure Delimited (α σ : Type) where
  separator : α
  assign : α
  name : σ → List α
  Accepts : σ → List α → Prop
  Free : σ → Prop
  distinct : assign ≠ separator
  noSeparator : ∀ s, separator ∉ name s
  noAssign : ∀ s, assign ∉ name s
  closed : ∀ s text, Accepts s text → separator ∈ text → Free s

/-- What stands behind the last separator is told apart from what stands in front of it. -/
theorem append_separator_inj {α : Type} {x y u v : List α} {c : α} (hu : c ∉ u) (hv : c ∉ v)
    (same : x ++ c :: u = y ++ c :: v) : x = y ∧ u = v := by
  rcases List.append_eq_append_iff.mp same with ⟨w, rfl, split⟩ | ⟨w, rfl, split⟩
  · cases w with
    | nil => exact ⟨(List.append_nil x).symm, (List.cons.inj split).2⟩
    | cons d w =>
        refine absurd ?_ hu
        rw [(List.cons.inj split).2]
        exact List.mem_append_right w List.mem_cons_self
  · cases w with
    | nil => exact ⟨List.append_nil y, (List.cons.inj split).2.symm⟩
    | cons d w =>
        refine absurd ?_ hv
        rw [(List.cons.inj split).2]
        exact List.mem_append_right w List.mem_cons_self

namespace Delimited

variable {α σ : Type} (D : Delimited α σ)

/-- A separator and the name of the field that follows it. -/
def marker (s : σ) : List α := D.separator :: (D.name s ++ [D.assign])

/-- The text of a record, with a separator in front of it. -/
def text : List (σ × List α) → List α
  | [] => [D.separator]
  | f :: rest => D.marker f.1 ++ (f.2 ++ text rest)

/-- What stands in front of the text of a field `s` and behind that of the field in front of
    `fields`. -/
def between (fields : List (σ × List α)) (s : σ) : List α :=
  match fields with
  | [] => D.marker s
  | f :: rest => D.marker f.1 ++ (f.2 ++ between rest s)

/-- The fields have texts that they accept. -/
def Filled (fields : List (σ × List α)) : Prop := ∀ f ∈ fields, D.Accepts f.1 f.2

/-- One of two free fields holds what may stand between them. -/
def Ambiguous (fields : List (σ × List α)) : Prop :=
  ∃ front a mid b back mid', fields = front ++ a :: (mid ++ b :: back) ∧ D.Free a.1 ∧ D.Free b.1 ∧
    mid'.map Prod.fst = mid.map Prod.fst ∧ D.Filled mid' ∧
    (D.between mid' b.1 <:+: a.2 ∨ D.between mid' b.1 <:+: b.2)

variable {D} {s s' : σ} {fields fields' mid mid' rest : List (σ × List α)} {y r : List α}

/-! ## What a text begins with -/

theorem text_eq_cons (fields : List (σ × List α)) :
    ∃ rest, D.text fields = D.separator :: rest := by
  cases fields with
  | nil => exact ⟨[], rfl⟩
  | cons f rest => exact ⟨_, rfl⟩

/-- A text in front of a record that begins like a marker ends with it or behind it. -/
theorem marker_of_append (some_ : y ≠ []) (same : y ++ D.text fields = D.marker s ++ r) :
    ∃ z, y = D.marker s ++ z ∧ r = z ++ D.text fields := by
  rcases List.append_eq_append_iff.mp same with ⟨inside, marker, text⟩ | ⟨z, behind, text⟩
  · cases inside with
    | nil => exact ⟨[], by rw [List.append_nil, marker, List.append_nil], text.symm⟩
    | cons c inside =>
        obtain ⟨begin_, written⟩ := text_eq_cons (D := D) fields
        rw [text, List.cons_append] at written
        obtain rfl : c = D.separator := (List.cons.inj written).1
        -- the marker would hold a second separator
        cases y with
        | nil => exact absurd rfl some_
        | cons d y =>
            have tail : D.name s ++ [D.assign] = y ++ D.separator :: inside :=
              (List.cons.inj marker).2
            have among : D.separator ∈ D.name s ++ [D.assign] := by
              rw [tail]
              exact List.mem_append_right _ List.mem_cons_self
            rcases List.mem_append.mp among with name | assign
            · exact absurd name (D.noSeparator s)
            · exact absurd (List.mem_singleton.mp assign).symm D.distinct
  · exact ⟨z, behind, text⟩

theorem name_of_marker {r' : List α} (same : D.marker s ++ r = D.marker s' ++ r') :
    D.name s = D.name s' := by
  have names : D.name s ++ D.assign :: r = D.name s' ++ D.assign :: r' := by
    have tails : D.name s ++ [D.assign] ++ r = D.name s' ++ [D.assign] ++ r' :=
      (List.cons.inj same).2
    rwa [List.append_assoc, List.append_assoc] at tails
  rcases List.append_eq_append_iff.mp names with ⟨inside, name, tail⟩ | ⟨inside, name, tail⟩
  · cases inside with
    | nil => rw [name, List.append_nil]
    | cons c inside =>
        obtain rfl : D.assign = c := (List.cons.inj tail).1
        exact absurd (name ▸ List.mem_append_right _ List.mem_cons_self) (D.noAssign s')
  · cases inside with
    | nil => rw [name, List.append_nil]
    | cons c inside =>
        obtain rfl : D.assign = c := (List.cons.inj tail).1
        exact absurd (name ▸ List.mem_append_right _ List.mem_cons_self) (D.noAssign s)

/-- Records that are written alike begin with a field of one name. -/
theorem text_eq_of_cons {f : σ × List α} (same : D.text (f :: rest) = D.text fields) :
    ∃ f' rest', fields = f' :: rest' ∧ D.name f.1 = D.name f'.1 := by
  cases fields with
  | nil =>
      have lengths := congrArg List.length same
      simp only [text, marker, List.length_append, List.length_cons, List.length_nil] at lengths
      omega
  | cons f' rest' => exact ⟨f', rest', rfl, name_of_marker same⟩

theorem separator_mem_of_append (some_ : y ≠ []) (same : D.text fields = y ++ r) :
    D.separator ∈ y := by
  obtain ⟨rest, written⟩ := text_eq_cons (D := D) fields
  cases y with
  | nil => exact absurd rfl some_
  | cons c y =>
      rw [written] at same
      obtain rfl : D.separator = c := (List.cons.inj same).1
      exact List.mem_cons_self

theorem separator_mem_between (fields : List (σ × List α)) (s : σ) :
    D.separator ∈ D.between fields s := by
  cases fields with
  | nil => exact List.mem_cons_self
  | cons f rest => exact List.mem_append_left _ List.mem_cons_self

theorem text_append_cons (fields : List (σ × List α)) (b : σ × List α) (back : List (σ × List α)) :
    D.text (fields ++ b :: back) = D.between fields b.1 ++ (b.2 ++ D.text back) := by
  induction fields with
  | nil => rfl
  | cons f fields ih =>
      rw [List.cons_append, text, between, ih, List.append_assoc, List.append_assoc]

/-- The separator behind each text instead of in front of each name. -/
theorem text_eq_flatMap (fields : List (σ × List α)) : D.text fields = D.separator ::
    fields.flatMap fun f => D.name f.1 ++ D.assign :: (f.2 ++ [D.separator]) := by
  induction fields with
  | nil => rfl
  | cons f fields ih =>
      rw [text, ih, List.flatMap_cons, marker]
      simp only [List.append_assoc, List.cons_append, List.nil_append]

/-! ## Two records that are written alike

Behind the first text in which they differ, one record is ahead: the other is still within a text
that holds the names of fields of the first. -/

/-- The first field of a record is none of those of the other. -/
theorem text_ne_of_fresh {g h l : List (σ × List α)} {c : σ × List α}
    (fresh : ∀ e ∈ l, ∀ f ∈ g ++ [c], D.name e.1 ≠ D.name f.1) :
    D.text (g ++ c :: h) ≠ D.text l := by
  intro same
  cases g with
  | nil =>
      obtain ⟨e, _, rfl, name⟩ := text_eq_of_cons same
      exact fresh e List.mem_cons_self c List.mem_cons_self name.symm
  | cons f g =>
      obtain ⟨e, _, rfl, name⟩ := text_eq_of_cons same
      exact fresh e List.mem_cons_self f List.mem_cons_self name.symm

/-- The fields of the record that is behind, in what is left of the text of a field: either all
    that are missing are within it, or one of them has a text that goes on behind it. -/
theorem within_text {g h l : List (σ × List α)} {c : σ × List α} (some_ : y ≠ [])
    (same : y ++ D.text l = D.text (g ++ c :: h))
    (fresh : ∀ e ∈ l, ∀ f ∈ g ++ [c], D.name e.1 ≠ D.name f.1) :
    D.between g c.1 <+: y ∨ ∃ g₁ d g₂ left, g = g₁ ++ d :: g₂ ∧ D.separator ∈ d.2 ∧ left ≠ [] ∧
      D.text l = left ++ D.text (g₂ ++ c :: h) := by
  induction g generalizing y with
  | nil =>
      obtain ⟨z, rfl, -⟩ := marker_of_append some_ same
      exact .inl (List.prefix_append _ _)
  | cons f g ih =>
      obtain ⟨z, rfl, after⟩ := marker_of_append some_ same
      have fresh' : ∀ e ∈ l, ∀ f ∈ g ++ [c], D.name e.1 ≠ D.name f.1 :=
        fun e member f' member' => fresh e member f' (List.mem_cons_of_mem _ member')
      have differ : D.text (g ++ c :: h) ≠ D.text l := text_ne_of_fresh fresh'
      rcases List.append_eq_append_iff.mp after with ⟨w, rfl, rest⟩ | ⟨left, holds, rest⟩
      · have more : w ≠ [] := by
          rintro rfl
          exact differ rest
        rcases ih more rest.symm fresh' with within | ⟨g₁, d, g₂, left, rfl, holds, some', rest⟩
        · left
          exact (List.prefix_append_right_inj _).mpr ((List.prefix_append_right_inj _).mpr within)
        · exact .inr ⟨f :: g₁, d, g₂, left, rfl, holds, some', rest⟩
      · have more : left ≠ [] := by
          rintro rfl
          exact differ rest.symm
        have holds' : D.separator ∈ f.2 := by
          rw [holds]
          exact List.mem_append_right _ (separator_mem_of_append more rest)
        exact .inr ⟨[], f, g, left, rfl, holds', more, rest⟩

/-- The fields behind `b` have other names than those up to it. -/
theorem fresh_of_nodup {mid l g : List (σ × List α)} {b c : σ × List α}
    (nodup : ((mid ++ b :: l).map fun f => D.name f.1).Nodup)
    (sameMid : g.map Prod.fst = mid.map Prod.fst) (sameB : c.1 = b.1) :
    ∀ e ∈ l, ∀ f ∈ g ++ [c], D.name e.1 ≠ D.name f.1 := by
  intro e later f earlier name
  have slots : (g ++ [c]).map Prod.fst = (mid ++ [b]).map Prod.fst := by
    simp only [List.map_append, List.map_cons, List.map_nil, sameMid, sameB]
  have slot : f.1 ∈ (mid ++ [b]).map Prod.fst := slots ▸ List.mem_map_of_mem earlier
  obtain ⟨f', earlier', same⟩ := List.mem_map.mp slot
  rw [← List.singleton_append, ← List.append_assoc, List.map_append] at nodup
  have apart := (List.nodup_append.mp nodup).2.2
  apply apart (D.name f'.1) (List.mem_map_of_mem earlier') (D.name e.1) (List.mem_map_of_mem later)
  rw [name, same]

/-- What is left of a text ends in front of the marker of the next field. -/
theorem next_marker {l h : List (σ × List α)} {left : List α} (some_ : left ≠ [])
    (alike : h.map Prod.fst = l.map Prod.fst) (rest : D.text l = left ++ D.text fields) :
    ∃ b l' d h' z, l = b :: l' ∧ h = d :: h' ∧ d.1 = b.1 ∧ h'.map Prod.fst = l'.map Prod.fst ∧
      b.2 ++ D.text l' = z ++ D.text fields := by
  cases l with
  | nil =>
      obtain ⟨begin_, written⟩ := text_eq_cons (D := D) fields
      have lengths := congrArg List.length rest
      have positive := List.length_pos_iff.mpr some_
      rw [written] at lengths
      simp only [text, List.length_append, List.length_cons, List.length_nil] at lengths
      omega
  | cons b l' =>
      cases h with
      | nil => cases alike
      | cons d h' =>
          obtain ⟨first, others⟩ := List.cons.inj alike
          obtain ⟨z, -, after⟩ := marker_of_append some_ rest.symm
          exact ⟨b, l', d, h', z, rfl, rfl, first, others, after⟩

/-- The record that is behind stands in the text of `a` with `left` to come, the other one in front
    of that of `b`. -/
theorem ambiguous_of_ahead {front mid l g h : List (σ × List α)} {a b c : σ × List α}
    {left : List α} (free : D.Free a.1) (filled : D.Filled (front ++ a :: (mid ++ b :: l)))
    (nodup : ((mid ++ b :: l).map fun f => D.name f.1).Nodup) (filled' : D.Filled (g ++ c :: h))
    (sameMid : g.map Prod.fst = mid.map Prod.fst) (sameB : c.1 = b.1)
    (sameRest : h.map Prod.fst = l.map Prod.fst)
    (same : b.2 ++ D.text l = left ++ D.text (g ++ c :: h)) :
    D.Ambiguous (front ++ a :: (mid ++ b :: l)) := by
  induction length : l.length using Nat.strong_induction_on
    generalizing front a mid b l g c h left with
  | _ n ih =>
      have fresh := fresh_of_nodup nodup sameMid sameB
      have differ : D.text (g ++ c :: h) ≠ D.text l := text_ne_of_fresh fresh
      rcases List.append_eq_append_iff.mp same with ⟨w, -, rest⟩ | ⟨w, holds, rest⟩
      · -- the marker of the next field comes first
        have more : w ≠ [] := by
          rintro rfl
          exact differ rest.symm
        obtain ⟨b', l', d, h', z, rfl, rfl, sameB', sameRest', after⟩ :=
          next_marker more sameRest rest
        have split : mid ++ b :: b' :: l' = (mid ++ [b]) ++ b' :: l' := by
          rw [List.append_assoc, List.singleton_append]
        have split' : g ++ c :: d :: h' = (g ++ [c]) ++ d :: h' := by
          rw [List.append_assoc, List.singleton_append]
        rw [split] at filled nodup ⊢
        rw [split'] at filled' after
        have sameMid' : (g ++ [c]).map Prod.fst = (mid ++ [b]).map Prod.fst := by
          simp only [List.map_append, List.map_cons, List.map_nil, sameMid, sameB]
        exact ih l'.length (length ▸ Nat.lt_succ_self _) free filled nodup filled' sameMid' sameB'
          sameRest' after rfl
      · have more : w ≠ [] := by
          rintro rfl
          exact differ rest
        rcases within_text more rest.symm fresh with within | ⟨g₁, d, g₂, w', rfl, holds', more', rest'⟩
        · have inside : D.between g b.1 <:+: b.2 := by
            rw [holds, ← sameB]
            exact within.isInfix.trans (List.suffix_append left w).isInfix
          have accepts : D.Accepts b.1 b.2 :=
            filled b (List.mem_append_right _ (List.mem_cons_of_mem _
              (List.mem_append_right _ List.mem_cons_self)))
          have freeB : D.Free b.1 :=
            D.closed b.1 b.2 accepts (inside.subset (separator_mem_between g b.1))
          have filledG : D.Filled g := fun f member => filled' f (List.mem_append_left _ member)
          exact ⟨front, a, mid, b, l, g, rfl, free, freeB, sameMid, filledG, .inr inside⟩
        · obtain ⟨b', l', e, h', z, rfl, rfl, sameB', sameRest', after⟩ :=
            next_marker more' sameRest rest'
          obtain ⟨m₁, m, rfl, same₁, sameM⟩ :=
            List.map_eq_append_iff.mp (sameMid.symm.trans (List.map_append ..))
          obtain ⟨a', m₂, rfl, sameA, same₂⟩ := List.map_eq_cons_iff.mp sameM
          -- the text of `d` goes on, so its field is free
          have freeA : D.Free a'.1 := by
            rw [sameA]
            exact D.closed d.1 d.2 (filled' d (by simp)) holds'
          have split : front ++ a :: (m₁ ++ a' :: m₂ ++ b :: b' :: l') =
              (front ++ a :: m₁) ++ a' :: ((m₂ ++ [b]) ++ b' :: l') := by
            simp only [List.append_assoc, List.cons_append, List.nil_append]
          have split' : g₂ ++ c :: e :: h' = (g₂ ++ [c]) ++ e :: h' := by
            rw [List.append_assoc, List.singleton_append]
          have nodup' : (((m₂ ++ [b]) ++ b' :: l').map fun f => D.name f.1).Nodup := by
            refine List.Nodup.sublist (List.Sublist.map _ ?_) nodup
            simp only [List.append_assoc, List.cons_append, List.nil_append]
            exact ((List.sublist_cons_self a' _).trans (List.sublist_append_right m₁ _))
          have filled₂ : D.Filled ((g₂ ++ [c]) ++ e :: h') := by
            rw [← split']
            intro f member
            apply filled' f
            rw [List.append_assoc, List.cons_append]
            exact List.mem_append_right _ (List.mem_cons_of_mem _ member)
          have sameMid' : (g₂ ++ [c]).map Prod.fst = (m₂ ++ [b]).map Prod.fst := by
            simp only [List.map_append, List.map_cons, List.map_nil, same₂, sameB]
          rw [split] at filled ⊢
          rw [split'] at after
          exact ih l'.length (length ▸ Nat.lt_succ_self _) freeA filled nodup' filled₂ sameMid' sameB'
            sameRest' after rfl

/-- The record that is behind has what is left of a text in front of all of the other one. -/
theorem between_of_behind {b : σ × List α} {l l' : List (σ × List α)} (some_ : y ≠ [])
    (same : y ++ D.text (b :: l) = D.text l')
    (fresh : ∀ f ∈ l'.tail, D.name b.1 ≠ D.name f.1) :
    ∃ g c h, l' = g ++ c :: h ∧ D.separator ∈ c.2 ∧ D.between g c.1 <+: y := by
  induction l' generalizing y with
  | nil =>
      have lengths := congrArg List.length same
      have positive := List.length_pos_iff.mpr some_
      simp only [text, marker, List.length_append, List.length_cons, List.length_nil] at lengths
      omega
  | cons c l' ih =>
      obtain ⟨z, rfl, after⟩ := marker_of_append some_ same
      have differ : D.text (b :: l) ≠ D.text l' := by
        intro alike
        obtain ⟨f, _, rfl, name⟩ := text_eq_of_cons alike
        exact fresh f List.mem_cons_self name
      rcases List.append_eq_append_iff.mp after with ⟨w, rfl, rest⟩ | ⟨left, holds, rest⟩
      · have more : w ≠ [] := by
          rintro rfl
          exact differ rest.symm
        obtain ⟨g, d, h, rfl, holds, within⟩ :=
          ih more rest.symm fun f member => fresh f (List.mem_of_mem_tail member)
        refine ⟨c :: g, d, h, rfl, holds, ?_⟩
        exact (List.prefix_append_right_inj _).mpr ((List.prefix_append_right_inj _).mpr within)
      · have more : left ≠ [] := by
          rintro rfl
          exact differ rest
        have holds' : D.separator ∈ c.2 := by
          rw [holds]
          exact List.mem_append_right _ (separator_mem_of_append more rest)
        exact ⟨[], c, l', rfl, holds', List.prefix_append _ _⟩

/-- What is left of the text of `a` goes on with the other record's fields. -/
theorem ambiguous_of_behind {front l l' : List (σ × List α)} {a : σ × List α} {w : List α}
    (filled : D.Filled (front ++ a :: l)) (nodup : (l.map fun f => D.name f.1).Nodup)
    (filled' : D.Filled l') (slots : l'.map Prod.fst = l.map Prod.fst) (some_ : w ≠ [])
    (end_ : w <:+ a.2) (rest : D.text l' = w ++ D.text l) : D.Ambiguous (front ++ a :: l) := by
  have freeA : D.Free a.1 := by
    apply D.closed a.1 a.2 (filled a (List.mem_append_right _ List.mem_cons_self))
    exact end_.subset (separator_mem_of_append some_ rest)
  obtain ⟨g, c, h, rfl, holds, within⟩ : ∃ g c h, l' = g ++ c :: h ∧
      D.separator ∈ c.2 ∧ D.between g c.1 <+: w := by
    cases l with
    | nil =>
        rw [List.map_eq_nil_iff.mp slots] at rest
        have lengths := congrArg List.length rest
        have positive := List.length_pos_iff.mpr some_
        simp only [text, List.length_append, List.length_cons, List.length_nil] at lengths
        omega
    | cons b l =>
        apply between_of_behind some_ rest.symm
        intro f later name
        have tails : l'.tail.map Prod.fst = l.map Prod.fst := by
          rw [List.map_tail, slots, List.map_cons, List.tail_cons]
        have slot : f.1 ∈ l.map Prod.fst := tails ▸ List.mem_map_of_mem later
        obtain ⟨f', later', sameF⟩ := List.mem_map.mp slot
        apply (List.nodup_cons.mp nodup).1
        change D.name b.1 ∈ _
        rw [name, ← sameF]
        exact List.mem_map_of_mem later'
  obtain ⟨mid, back, rfl, sameMid, sameBack⟩ :=
    List.map_eq_append_iff.mp (slots.symm.trans (List.map_append ..))
  obtain ⟨b, back, rfl, sameB, -⟩ := List.map_eq_cons_iff.mp sameBack
  have freeB : D.Free b.1 := by
    rw [sameB]
    exact D.closed c.1 c.2 (filled' c (by simp)) holds
  have inside : D.between g b.1 <:+: a.2 := by
    rw [sameB]
    exact within.isInfix.trans end_.isInfix
  have filledG : D.Filled g := fun f member => filled' f (List.mem_append_left _ member)
  exact ⟨front, a, mid, b, back, g, rfl, freeA, freeB, sameMid.symm, filledG, .inl inside⟩

/-- Another record of the same fields is written alike only if one field holds what may stand
    between two. -/
theorem ambiguous_of_text_eq {front : List (σ × List α)} (filled : D.Filled (front ++ fields))
    (nodup : (fields.map fun f => D.name f.1).Nodup) (filled' : D.Filled fields')
    (slots : fields'.map Prod.fst = fields.map Prod.fst) (same : D.text fields = D.text fields')
    (differ : fields ≠ fields') : D.Ambiguous (front ++ fields) := by
  induction fields generalizing front fields' with
  | nil =>
      obtain rfl := List.map_eq_nil_iff.mp slots
      exact absurd rfl differ
  | cons a l ih =>
      obtain ⟨a', l', rfl, sameA, slots'⟩ := List.map_eq_cons_iff.mp slots
      have texts : a.2 ++ D.text l = a'.2 ++ D.text l' := by
        rw [text, text, sameA] at same
        exact List.append_cancel_left same
      have nodup' : (l.map fun f => D.name f.1).Nodup := (List.nodup_cons.mp nodup).2
      have filledL : D.Filled l' := fun f member => filled' f (List.mem_cons_of_mem _ member)
      have alike (text_ : a.2 = a'.2) (rest : D.text l = D.text l') :
          D.Ambiguous (front ++ a :: l) := by
        have others : l ≠ l' := by
          rintro rfl
          exact differ (by rw [Prod.ext sameA.symm text_])
        rw [← List.singleton_append, ← List.append_assoc] at filled ⊢
        exact ih filled nodup' filledL slots' rest others
      rcases List.append_eq_append_iff.mp texts with ⟨w, longer, rest⟩ | ⟨w, longer, rest⟩
      · by_cases none : w = []
        · exact alike (by rw [longer, none, List.append_nil]) (by rw [rest, none, List.nil_append])
        · have holds : D.separator ∈ a'.2 := by
            rw [longer]
            exact List.mem_append_right _ (separator_mem_of_append none rest)
          have free : D.Free a.1 :=
            sameA ▸ D.closed a'.1 a'.2 (filled' a' List.mem_cons_self) holds
          obtain ⟨b, l, c, h, z, rfl, rfl, sameB, sameRest, after⟩ := next_marker none slots' rest
          change D.Ambiguous (front ++ a :: ([] ++ b :: l))
          have noFields : ([] : List (σ × List α)).map Prod.fst = [].map Prod.fst := rfl
          exact ambiguous_of_ahead free filled nodup' filledL noFields sameB sameRest after
      · by_cases none : w = []
        · exact alike (by rw [longer, none, List.append_nil]) (by rw [rest, none, List.nil_append])
        · exact ambiguous_of_behind filled nodup' filledL slots' none
            (longer ▸ List.suffix_append a'.2 w) rest

/-! ## The converse -/

theorem text_append (front : List (σ × List α)) (same : D.text fields = D.text fields') :
    D.text (front ++ fields) = D.text (front ++ fields') := by
  induction front with
  | nil => exact same
  | cons f front ih => rw [List.cons_append, List.cons_append, text, text, ih]

/-- Two free fields take each other's text and what stands between them. -/
theorem exists_exchanged {front mid mid' back : List (σ × List α)} {a b : σ × List α}
    (a' b' : σ × List α) (filled : D.Filled (front ++ a :: (mid ++ b :: back)))
    (openA : ∀ text, D.Accepts a.1 text) (openB : ∀ text, D.Accepts b.1 text)
    (slots : mid'.map Prod.fst = mid.map Prod.fst) (filledMid : D.Filled mid')
    (sameA : a'.1 = a.1) (sameB : b'.1 = b.1) (differ : a'.2 ≠ a.2)
    (same : a'.2 ++ (D.between mid' b'.1 ++ b'.2) = a.2 ++ (D.between mid b.1 ++ b.2)) :
    ∃ fields', fields'.map Prod.fst = (front ++ a :: (mid ++ b :: back)).map Prod.fst ∧
      D.Filled fields' ∧ D.text fields' = D.text (front ++ a :: (mid ++ b :: back)) ∧
      fields' ≠ front ++ a :: (mid ++ b :: back) := by
  refine ⟨front ++ a' :: (mid' ++ b' :: back), ?_, ?_, ?_, ?_⟩
  · simp only [List.map_append, List.map_cons, sameA, sameB, slots]
  · intro f member
    rcases List.mem_append.mp member with before | rest
    · exact filled f (List.mem_append_left _ before)
    · rcases List.mem_cons.mp rest with rfl | rest
      · exact sameA ▸ openA _
      · rcases List.mem_append.mp rest with between | rest
        · exact filledMid f between
        · rcases List.mem_cons.mp rest with rfl | behind
          · exact sameB ▸ openB _
          · exact filled f (by simp [behind])
  · apply text_append
    rw [text, text, text_append_cons, text_append_cons, sameA]
    apply congrArg (D.marker a.1 ++ ·)
    have joined := congrArg (· ++ D.text back) same
    simpa only [List.append_assoc] using joined
  · intro equal
    have first := (List.cons.inj (List.append_cancel_left equal)).1
    exact differ (congrArg Prod.snd first)

/-- Where the free fields accept every text, there is another record that is written alike. -/
theorem exists_other (open_ : ∀ f ∈ fields, D.Free f.1 → ∀ text, D.Accepts f.1 text)
    (filled : D.Filled fields) (ambiguous : D.Ambiguous fields) :
    ∃ fields', fields'.map Prod.fst = fields.map Prod.fst ∧ D.Filled fields' ∧
      D.text fields' = D.text fields ∧ fields' ≠ fields := by
  obtain ⟨front, a, mid, b, back, mid', rfl, freeA, freeB, slots, filledMid, inside⟩ := ambiguous
  have openA := open_ a (by simp) freeA
  have openB := open_ b (by simp) freeB
  rcases inside with inA | inB
  · obtain ⟨before, after, parts⟩ := inA
    have positive := List.length_pos_of_mem (separator_mem_between (D := D) mid' b.1)
    apply exists_exchanged (a.1, before) (b.1, after ++ (D.between mid b.1 ++ b.2)) filled
      openA openB slots filledMid rfl rfl
    · intro same
      have lengths := congrArg List.length parts
      rw [← same] at lengths
      simp only [List.length_append] at lengths
      omega
    · simp only [← parts, List.append_assoc]
  · obtain ⟨before, after, parts⟩ := inB
    have positive := List.length_pos_of_mem (separator_mem_between (D := D) mid b.1)
    apply exists_exchanged (a.1, a.2 ++ (D.between mid b.1 ++ before)) (b.1, after) filled
      openA openB slots filledMid rfl rfl
    · intro same
      have lengths := congrArg List.length same
      simp only [List.length_append] at lengths
      omega
    · simp only [← parts, List.append_assoc]

theorem texts_length_le (fields : List (σ × List α)) :
    (fields.map fun f => f.2.length).sum ≤ (D.text fields).length := by
  induction fields with
  | nil => exact Nat.zero_le _
  | cons f fields ih =>
      rw [List.map_cons, List.sum_cons, text, List.length_append, List.length_append]
      omega

end Delimited

end FleetRMW.Lib
