import Mathlib.Order.Basic

/-! # Functions that raise

Statements in sequence are binds in `Except`; a function that returned passed each of its
checks. The simp set takes `x = .ok a` apart into what each statement returned.
-/

namespace FleetRMW.Lib

variable {ε α β : Type}

/-- `if c: raise e`. -/
def raiseIf (c : Prop) [Decidable c] (e : ε) : Except ε Unit :=
  if c then .error e else .ok ()

@[simp] theorem raiseIf_eq_ok {c : Prop} [Decidable c] {e : ε} {u : Unit} :
    raiseIf c e = .ok u ↔ ¬c := by
  unfold raiseIf
  split
  case isTrue holds => simp only [reduceCtorEq, holds, not_true_eq_false]
  case isFalse fails => simp only [fails, not_false_eq_true]

theorem raiseIf_of_not {c : Prop} [Decidable c] {e : ε} (fails : ¬c) : raiseIf c e = .ok () :=
  raiseIf_eq_ok.mpr fails

@[simp] theorem bind_eq_ok_iff {x : Except ε α} {f : α → Except ε β} {b : β} :
    (x >>= f) = .ok b ↔ ∃ a, x = .ok a ∧ f a = .ok b := by
  cases x with
  | error e =>
      simp only [reduceCtorEq, false_and, exists_false, iff_false]
      exact nofun
  | ok a =>
      constructor
      · intro h
        exact ⟨a, rfl, h⟩
      · rintro ⟨_, ⟨⟩, h⟩
        exact h

theorem ok_bind (a : α) (f : α → Except ε β) : (Except.ok a >>= f) = f a := rfl

theorem error_bind (e : ε) (f : α → Except ε β) : (Except.error e >>= f) = .error e := rfl

theorem eq_ok_of_toOption {x : Except ε α} {a : α} (h : x.toOption = some a) : x = .ok a := by
  cases x with
  | error e => cases h
  | ok b =>
      cases h
      rfl

@[simp] theorem pure_eq_ok {a b : α} : (pure a : Except ε α) = .ok b ↔ a = b :=
  Except.ok.injEq a b ▸ Iff.rfl

@[simp] theorem throw_ne_ok {e : ε} {b : α} : (throw e : Except ε α) ≠ .ok b :=
  nofun

/-! ## Functions that never raise -/

/-- The function returns, and so is what it returns. -/
def Returns (x : Except ε α) (P : α → Prop) : Prop := ∃ a, x = .ok a ∧ P a

variable {x : Except ε α} {f : α → Except ε β} {P P' : α → Prop} {Q : β → Prop}

theorem Returns.ok {a : α} (holds : P a) : Returns (.ok a : Except ε α) P := ⟨a, rfl, holds⟩

theorem Returns.bind (first : Returns x P) (next : ∀ a, P a → Returns (f a) Q) :
    Returns (x >>= f) Q := by
  obtain ⟨a, rfl, holds⟩ := first
  exact next a holds

theorem Returns.mono (returns : Returns x P) (implies : ∀ a, P a → P' a) : Returns x P' := by
  obtain ⟨a, same, holds⟩ := returns
  exact ⟨a, same, implies a holds⟩

end FleetRMW.Lib
