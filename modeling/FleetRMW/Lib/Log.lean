import Mathlib.Data.List.Basic

/-! # Logs

A log is a list of what has happened, the latest last. What holds of every entry when it is
written, with what the log said then, holds of all entries of the log later on.
-/

namespace FleetRMW.Lib

variable {α : Type*} {P Q : List α → α → Prop} {log : List α} {entry : α}

/-- Each entry is as it should be behind those before it. -/
def EachAfter (P : List α → α → Prop) (log : List α) : Prop :=
  ∀ earlier entry later, log = earlier ++ entry :: later → P earlier entry

namespace EachAfter

theorem nil : EachAfter P [] := by
  intro earlier entry later split
  exact absurd split.symm (List.append_ne_nil_of_right_ne_nil _ (List.cons_ne_nil _ _))

theorem concat (h : EachAfter P log) (now : P log entry) : EachAfter P (log ++ [entry]) := by
  intro earlier other later split
  rcases List.append_eq_append_iff.mp split with ⟨rest, isEarlier, isLast⟩ | ⟨rest, isLog, isRest⟩
  · cases rest with
    | nil =>
        obtain ⟨rfl, -⟩ := List.cons.inj isLast
        rw [isEarlier, List.append_nil]
        exact now
    | cons first rest => simp at isLast
  · cases rest with
    | nil =>
        obtain ⟨rfl, -⟩ := List.cons.inj isRest
        rw [isLog, List.append_nil] at now
        exact now
    | cons first rest =>
        obtain ⟨rfl, -⟩ := List.cons.inj isRest
        exact h _ _ _ isLog

theorem of_concat (h : EachAfter P (log ++ [entry])) : EachAfter P log := by
  intro earlier other later split
  apply h earlier other (later ++ [entry])
  rw [split, List.append_assoc, List.cons_append]

theorem last (h : EachAfter P (log ++ [entry])) : P log entry := h log entry [] rfl

end EachAfter

end FleetRMW.Lib
