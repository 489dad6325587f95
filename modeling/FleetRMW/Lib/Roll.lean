import Mathlib.Data.Finset.Card
import Mathlib.Data.List.Nodup

/-! # A roll

A roll lists names as present or as absent. It is kept up to date name by name, and it is right
where it shows for every name what is the case.
-/

namespace FleetRMW.Lib

variable {κ : Type*}

structure Roll (κ : Type*) where
  present : Finset κ := ∅
  absent : Finset κ := ∅
  deriving DecidableEq

namespace Roll

def side (r : Roll κ) : Bool → Finset κ
  | true => r.present
  | false => r.absent

/-- What is the case is given as a relation, of which a roll shows no more than a function can. -/
def Shows (r : Roll κ) (F : κ → Bool → Prop) : Prop := ∀ k b, k ∈ r.side b ↔ F k b

variable {r : Roll κ} {F F' : κ → Bool → Prop} {k k' : κ} {b b' : Bool}

@[simp] theorem notMem_side_empty : k ∉ side ({} : Roll κ) b := by
  cases b with
  | true => exact Finset.notMem_empty k
  | false => exact Finset.notMem_empty k

theorem Shows.congr (shows : r.Shows F) (same : ∀ k b, F k b ↔ F' k b) : r.Shows F' :=
  fun k b => (shows k b).trans (same k b)

theorem Shows.disjoint (shows : r.Shows F) (single : ∀ k, F k true → ¬F k false) :
    Disjoint r.present r.absent := by
  rw [Finset.disjoint_left]
  intro k isPresent isAbsent
  exact single k ((shows k true).mp isPresent) ((shows k false).mp isAbsent)

variable [DecidableEq κ]

/-- List the name on one side and no longer on the other. -/
def mark (r : Roll κ) (k : κ) : Bool → Roll κ
  | true => ⟨insert k r.present, r.absent.erase k⟩
  | false => ⟨r.present.erase k, insert k r.absent⟩

def strike (r : Roll κ) (k : κ) : Roll κ := ⟨r.present.erase k, r.absent.erase k⟩

theorem side_mark_self : (r.mark k b).side b = insert k (r.side b) := by
  cases b with
  | true => rfl
  | false => rfl

theorem side_mark_other : (r.mark k b).side (!b) = (r.side (!b)).erase k := by
  cases b with
  | true => rfl
  | false => rfl

theorem side_strike : (r.strike k).side b = (r.side b).erase k := by
  cases b with
  | true => rfl
  | false => rfl

theorem mem_side_mark_self : k ∈ (r.mark k b).side b' ↔ b' = b := by
  by_cases same : b' = b
  · rw [same, side_mark_self]
    exact iff_of_true (Finset.mem_insert_self k _) rfl
  · rw [Bool.eq_not_of_ne same, side_mark_other]
    exact iff_of_false (Finset.notMem_erase k _) (Bool.not_ne_self b)

theorem mem_side_mark_of_ne (other : k' ≠ k) : k' ∈ (r.mark k b).side b' ↔ k' ∈ r.side b' := by
  by_cases same : b' = b
  · rw [same, side_mark_self]
    exact Finset.mem_insert.trans (or_iff_right other)
  · rw [Bool.eq_not_of_ne same, side_mark_other]
    exact Finset.mem_erase.trans (and_iff_right other)

/-! ## Keeping a roll right -/

/-- After a change at one name, that name is marked. -/
theorem Shows.mark (shows : r.Shows F) (others : ∀ k', k' ≠ k → ∀ b, F k' b ↔ F' k' b)
    (here : ∀ b', F' k b' ↔ b' = b) : (r.mark k b).Shows F' := by
  intro k' b'
  by_cases same : k' = k
  · rw [same, mem_side_mark_self, here]
  · rw [mem_side_mark_of_ne same, shows, others k' same]

theorem Shows.strike (shows : r.Shows F) (others : ∀ k', k' ≠ k → ∀ b, F k' b ↔ F' k' b)
    (here : ∀ b', ¬F' k b') : (r.strike k).Shows F' := by
  intro k' b'
  rw [side_strike, Finset.mem_erase]
  by_cases same : k' = k
  · rw [same]
    exact iff_of_false (fun both => both.1 rfl) (here b')
  · rw [and_iff_right same, shows, others k' same]

/-- A side lists no more names than there are. -/
theorem Shows.card_le (shows : r.Shows F) (names : List κ) (among : ∀ k b, F k b → k ∈ names)
    (b : Bool) : (r.side b).card ≤ names.length := by
  have inside : r.side b ⊆ names.toFinset := fun k isListed =>
    List.mem_toFinset.mpr (among k b ((shows k b).mp isListed))
  exact (Finset.card_le_card inside).trans (List.toFinset_card_le names)

end Roll

end FleetRMW.Lib
