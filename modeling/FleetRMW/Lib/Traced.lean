import Mathlib.Data.List.Infix

/-! # Lists copied from keyed sources

Every element of a list has a key, and every key names a source list. A list is traced
when each of its elements was copied from the source of its key together with all that
stands before it. Two traced lists that agree in the key at one position are then equal
up to there, which is how replicated logs are compared.
-/

namespace FleetRMW.Lib

variable {α κ : Type*} {key : α → κ} {source source' : κ → List α} {l l₁ l₂ : List α}

/-- Each element stands in the source of its key after the same predecessors. -/
def Traced (key : α → κ) (source : κ → List α) (l : List α) : Prop :=
  ∀ i e, l[i]? = some e → l.take (i + 1) <+: source (key e)

theorem getElem?_of_isPrefix (pre : l₁ <+: l₂) {i : Nat} {e : α} (at_ : l₁[i]? = some e) :
    l₂[i]? = some e := by
  obtain ⟨inside, rfl⟩ := List.getElem?_eq_some_iff.mp at_
  exact List.prefix_iff_getElem?.mp pre i inside

/-- A list starts like its prefix. -/
theorem take_eq_of_isPrefix (pre : l₁ <+: l₂) {n : Nat} (inside : n ≤ l₁.length) :
    l₁.take n = l₂.take n := by
  obtain ⟨rest, rfl⟩ := pre
  rw [List.take_append_of_le_length inside]

namespace Traced

theorem nil : Traced key source [] := by
  intro i e at_
  simp at at_

theorem getElem? (traced : Traced key source l) {i : Nat} {e : α} (at_ : l[i]? = some e) :
    (source (key e))[i]? = some e :=
  getElem?_of_isPrefix (traced i e at_) (by rw [List.getElem?_take_of_lt (by omega), at_])

theorem of_isPrefix (traced : Traced key source l₂) (pre : l₁ <+: l₂) : Traced key source l₁ := by
  intro i e at_
  rw [take_eq_of_isPrefix pre (List.getElem?_eq_some_iff.mp at_).1]
  exact traced i e (getElem?_of_isPrefix pre at_)

theorem take (traced : Traced key source l) (n : Nat) : Traced key source (l.take n) :=
  traced.of_isPrefix (l.take_prefix n)

/-- Sources may grow. -/
theorem mono (traced : Traced key source l) (grows : ∀ k, source k <+: source' k) :
    Traced key source' l :=
  fun i e at_ => (traced i e at_).trans (grows _)

/-- Traced lists that agree in the key at one position are equal up to there. -/
theorem agree (traced₁ : Traced key source l₁) (traced₂ : Traced key source l₂) {i : Nat}
    {e₁ e₂ : α} (at₁ : l₁[i]? = some e₁) (at₂ : l₂[i]? = some e₂) (same : key e₁ = key e₂) :
    l₁.take (i + 1) = l₂.take (i + 1) := by
  have pre₁ := traced₁ i e₁ at₁
  have pre₂ := traced₂ i e₂ at₂
  rw [same] at pre₁
  have inside₁ := (List.getElem?_eq_some_iff.mp at₁).1
  have inside₂ := (List.getElem?_eq_some_iff.mp at₂).1
  have length : (l₁.take (i + 1)).length = (l₂.take (i + 1)).length := by
    simp only [List.length_take]
    omega
  exact (List.prefix_of_prefix_length_le pre₁ pre₂ length.le).eq_of_length length

/-- A new last element that its own source shows after the same list. -/
theorem concat {e : α} (traced : Traced key source l) (shown : l ++ [e] <+: source (key e)) :
    Traced key source (l ++ [e]) := by
  intro i x at_
  obtain inside | last := lt_or_ge i l.length
  · rw [List.getElem?_append_left inside] at at_
    rw [List.take_append_of_le_length inside]
    exact traced i x at_
  · obtain rfl : i = l.length := by
      have := (List.getElem?_eq_some_iff.mp at_).1
      simp only [List.length_append, List.length_singleton] at this
      omega
    obtain rfl : e = x := by simpa using at_
    rwa [List.take_of_length_le (by simp)]

end Traced

end FleetRMW.Lib
