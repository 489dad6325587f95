import FleetRMW.Lib.Wire

/-! # Readers at an offset

A reader goes through a payload whose octets it takes at an offset, which it moves on. It notes
which octets it takes: a reader that checks an offset with 64-bit arithmetic may take more
than there are. What a payload is laid out as is said without offsets (`Layout`), by how the
octets that are left are divided up. A reader that follows a layout ends where it says, and
ends as an `Ending` says where the layout stops.
-/

namespace FleetRMW.Lib

/-- The octets that a reader takes at one time. -/
structure Access where
  start : Nat
  size : Nat
  deriving Repr, DecidableEq

def Access.Within (a : Access) (payload : Bytes) : Prop := a.start + a.size ≤ payload.length

instance (a : Access) (payload : Bytes) : Decidable (a.Within payload) :=
  inferInstanceAs (Decidable (_ ≤ _))

/-- `left + right` of two 64-bit sizes. -/
def sizeAdd (left right : Nat) : Nat := (left + right) % 2 ^ 64

/-- `left - right` of two 64-bit sizes. -/
def sizeSub (left right : Nat) : Nat := (left + 2 ^ 64 - right) % 2 ^ 64

theorem sizeAdd_of_lt {left right : Nat} (fits : left + right < 2 ^ 64) :
    sizeAdd left right = left + right :=
  Nat.mod_eq_of_lt fits

theorem sizeSub_of_le {left right : Nat} (covers : right ≤ left) (fits : left < 2 ^ 64) :
    sizeSub left right = left - right := by
  unfold sizeSub
  omega

/-- From a payload and an offset: what is taken, and the value with the offset behind it. -/
def Cursor (α : Type) := Bytes → Nat → List Access × Option (α × Nat)

namespace Cursor

variable {α β : Type}

/-- What was taken comes in front. -/
def after (taken : List Access) (r : List Access × Option (α × Nat)) :
    List Access × Option (α × Nat) :=
  (taken ++ r.1, r.2)

def andThen (r : Cursor α) (f : α → Cursor β) : Cursor β := fun payload offset =>
  match r payload offset with
  | (taken, none) => (taken, none)
  | (taken, some (a, offset)) => after taken (f a payload offset)

instance : Monad Cursor where
  pure a := fun _ offset => ([], some (a, offset))
  bind := andThen

def fail : Cursor α := fun _ _ => ([], none)

def require (c : Prop) [Decidable c] : Cursor Unit := if c then pure () else fail

/-- `*offset + size > payload.size()` fails. -/
def requireEnd (size : Nat) : Cursor Unit := fun payload offset =>
  ([], if sizeAdd offset size > payload.length then none else some ((), offset))

/-- `size > payload.size() - *offset` fails. -/
def requireLeft (size : Nat) : Cursor Unit := fun payload offset =>
  ([], if size > sizeSub payload.length offset then none else some ((), offset))

/-- The octets at the offset, which nobody checks. -/
def take (size : Nat) : Cursor Bytes := fun payload offset =>
  ([⟨offset, size⟩], some ((payload.drop offset).take size, sizeAdd offset size))

/-- `n` times, with the number of the turn. -/
def times (r : Nat → Cursor α) (i : Nat) : Nat → Cursor (List α)
  | 0 => pure []
  | n + 1 => do
      let a ← r i
      let as ← times r (i + 1) n
      pure (a :: as)

variable {r : Cursor α} {f : α → Cursor β} {payload : Bytes} {offset : Nat}

theorem pure_apply (a : α) : (pure a : Cursor α) payload offset = ([], some (a, offset)) := rfl

theorem bind_of_none {taken : List Access} (h : r payload offset = (taken, none)) :
    (r >>= f) payload offset = (taken, none) := by
  change andThen r f payload offset = _
  rw [andThen, h]

theorem bind_of_some {taken : List Access} {a : α} {offset' : Nat}
    (h : r payload offset = (taken, some (a, offset'))) :
    (r >>= f) payload offset = after taken (f a payload offset') := by
  change andThen r f payload offset = _
  rw [andThen, h]

theorem require_bind_of {c : Prop} [Decidable c] (holds : c) (f : Unit → Cursor β) :
    (require c >>= f) = f () := by
  funext payload offset
  have passes : require c payload offset = ([], some ((), offset)) := by
    rw [require, if_pos holds]
    rfl
  rw [bind_of_some passes]
  rfl

/-- The end of a sequence of two readers. -/
theorem bind_eq_some {b : β} {offset' : Nat} (h : ((r >>= f) payload offset).2 = some (b, offset')) :
    ∃ a mid, (r payload offset).2 = some (a, mid) ∧ (f a payload mid).2 = some (b, offset') := by
  rcases first : r payload offset with ⟨taken, _ | ⟨a, mid⟩⟩
  · rw [bind_of_none first] at h
    cases h
  · rw [bind_of_some first] at h
    exact ⟨a, mid, rfl, h⟩

theorem pure_eq_some {a a' : α} {offset' : Nat}
    (h : ((pure a : Cursor α) payload offset).2 = some (a', offset')) : a = a' ∧ offset = offset' := by
  obtain ⟨rfl, rfl⟩ := Prod.mk.inj (Option.some.inj h)
  exact ⟨rfl, rfl⟩

theorem require_eq_some {c : Prop} [Decidable c] {u : Unit} {offset' : Nat}
    (h : (require c payload offset).2 = some (u, offset')) : c := by
  unfold require at h
  split at h
  case isTrue holds => exact holds
  case isFalse => cases h

/-- What was read `n` times are `n` values. -/
theorem length_of_times {r : Nat → Cursor α} {i n : Nat} {as : List α} {offset' : Nat}
    (h : (times r i n payload offset).2 = some (as, offset')) : as.length = n := by
  induction n generalizing i offset as with
  | zero =>
      obtain ⟨rfl, -⟩ := pure_eq_some h
      rfl
  | succ n ih =>
      obtain ⟨a, mid, -, h⟩ := bind_eq_some h
      obtain ⟨rest, mid', later, h⟩ := bind_eq_some h
      obtain ⟨rfl, rfl⟩ := pure_eq_some h
      rw [List.length_cons, ih later]

/-- Each of them was read at some offset. -/
theorem read_of_mem_times {r : Nat → Cursor α} {i n : Nat} {as : List α} {a : α} {offset' : Nat}
    (h : (times r i n payload offset).2 = some (as, offset')) (among : a ∈ as) :
    ∃ j start end_, (r j payload start).2 = some (a, end_) := by
  induction n generalizing i offset as with
  | zero =>
      obtain ⟨rfl, -⟩ := pure_eq_some h
      cases among
  | succ n ih =>
      obtain ⟨a', mid, here, h⟩ := bind_eq_some h
      obtain ⟨rest, mid', later, h⟩ := bind_eq_some h
      obtain ⟨rfl, rfl⟩ := pure_eq_some h
      rcases List.mem_cons.mp among with rfl | among
      · exact ⟨i, offset, mid, here⟩
      · exact ih later among

/-- Every value that is read has the property. -/
def Yields (r : Cursor α) (P : α → Prop) : Prop :=
  ∀ payload offset v offset', (r payload offset).2 = some (v, offset') → P v

theorem Yields.any (r : Cursor α) : Yields r fun _ => True := fun _ _ _ _ _ => True.intro

theorem Yields.pure {P : α → Prop} {a : α} (holds : P a) : Yields (Pure.pure a) P := by
  intro payload offset v offset' h
  obtain ⟨rfl, -⟩ := pure_eq_some h
  exact holds

theorem Yields.bind {P : α → Prop} {Q : β → Prop} (first : Yields r P)
    (next : ∀ a, P a → Yields (f a) Q) : Yields (r >>= f) Q := by
  intro payload offset v offset' h
  obtain ⟨a, mid, here, later⟩ := bind_eq_some h
  exact next a (first _ _ _ _ here) _ _ _ _ later

theorem Yields.times {P : α → Prop} {r : Nat → Cursor α} (each : ∀ i, Yields (r i) P) (i n : Nat) :
    Yields (times r i n) fun as => ∀ a ∈ as, P a := by
  intro payload offset as offset' h a among
  obtain ⟨j, start, end_, here⟩ := read_of_mem_times h among
  exact each j _ _ _ _ here

/-! ## Reading an encoding -/

/-- In every payload that is `ok` and has the encoding at the offset, the reader takes it. -/
def Reads (ok : Bytes → Prop) (r : Cursor α) (bytes : Bytes) (a : α) : Prop :=
  ∀ front rest, ok (front ++ bytes ++ rest) →
    (r (front ++ bytes ++ rest) front.length).2 = some (a, front.length + bytes.length)

section
variable {ok : Bytes → Prop} {bytes bytes' : Bytes} {a : α} {b : β}

theorem Reads.pure (a : α) : Reads ok (Pure.pure a) [] a := fun _ _ _ => rfl

theorem Reads.bind (first : Reads ok r bytes a) (next : Reads ok (f a) bytes' b) :
    Reads ok (r >>= f) (bytes ++ bytes') b := by
  intro front rest fits
  have inner : front ++ (bytes ++ bytes') ++ rest = front ++ bytes ++ (bytes' ++ rest) := by
    simp only [List.append_assoc]
  have outer : front ++ (bytes ++ bytes') ++ rest = (front ++ bytes) ++ bytes' ++ rest := by
    simp only [List.append_assoc]
  have here := first front (bytes' ++ rest) (inner ▸ fits)
  have there := next (front ++ bytes) rest (outer ▸ fits)
  rw [← inner] at here
  rw [← outer, List.length_append] at there
  rcases whole : r (front ++ (bytes ++ bytes') ++ rest) front.length with ⟨taken, _ | ⟨a', mid⟩⟩
  · rw [whole] at here
    cases here
  · rw [whole] at here
    obtain ⟨rfl, rfl⟩ := Prod.mk.inj (Option.some.inj here)
    rw [bind_of_some whole, List.length_append, ← Nat.add_assoc]
    exact there

theorem Reads.mono {ok' : Bytes → Prop} (h : Reads ok r bytes a)
    (stricter : ∀ payload, ok' payload → ok payload) : Reads ok' r bytes a :=
  fun front rest fits => h front rest (stricter _ fits)

/-- The payload has room for the encoding. -/
theorem Reads.of_room (h : Reads (fun payload => ok payload ∧ bytes.length ≤ payload.length) r bytes a) :
    Reads ok r bytes a := by
  intro front rest fits
  refine h front rest ⟨fits, ?_⟩
  simp only [List.length_append]
  omega

/-- What no payload has room for need not be read. -/
theorem Reads.of_fits {limit : Nat} (small : ∀ payload, ok payload → payload.length < limit)
    (h : bytes.length < limit → Reads ok r bytes a) : Reads ok r bytes a := by
  intro front rest fits
  have room := small _ fits
  simp only [List.length_append] at room
  exact h (by omega) front rest fits

/-- A condition that every payload meets. -/
theorem Reads.require_of {c : Prop} [Decidable c] (holds : ∀ payload, ok payload → c) :
    Reads ok (Cursor.require c) [] () := by
  intro front rest fits
  rw [Cursor.require, if_pos (holds _ fits)]
  rfl

theorem Reads.take (small : ∀ payload, ok payload → payload.length < 2 ^ 63) :
    Reads ok (take bytes.length) bytes bytes := by
  intro front rest fits
  have room := small _ fits
  simp only [List.length_append] at room
  have octets : ((front ++ bytes ++ rest).drop front.length).take bytes.length = bytes := by
    rw [List.append_assoc, List.drop_left, List.take_left]
  rw [Cursor.take, octets, sizeAdd_of_lt (by omega)]

/-- The check of the end lets through what is there. -/
theorem Reads.requireEnd (small : ∀ payload, ok payload → payload.length < 2 ^ 63)
    (next : Reads ok r bytes a) :
    Reads ok (do
      requireEnd bytes.length
      r) bytes a := by
  intro front rest fits
  have room := small _ fits
  simp only [List.length_append] at room
  have end_ : sizeAdd front.length bytes.length = front.length + bytes.length :=
    sizeAdd_of_lt (by omega)
  have checked : Cursor.requireEnd bytes.length (front ++ bytes ++ rest) front.length =
      ([], some ((), front.length)) := by
    rw [Cursor.requireEnd, end_, if_neg (by simp only [List.length_append]; omega)]
  rw [bind_of_some checked]
  exact next front rest fits

/-- The last reader takes nothing any more. -/
theorem Reads.bind_nil (first : Reads ok r bytes a) (next : Reads ok (f a) [] b) :
    Reads ok (r >>= f) bytes b := by
  have chained := first.bind next
  rwa [List.append_nil] at chained

/-- The first reader takes nothing. -/
theorem Reads.nil_bind (first : Reads ok r [] a) (next : Reads ok (f a) bytes b) :
    Reads ok (r >>= f) bytes b :=
  first.bind next

theorem Reads.times {γ : Type} {r : Nat → Cursor α} {encode : γ → Bytes} {value : γ → α}
    {cs : List γ} (each : ∀ i, ∀ c ∈ cs, Reads ok (r i) (encode c) (value c)) (i : Nat) :
    Reads ok (times r i cs.length) (cs.flatMap encode) (cs.map value) := by
  induction cs generalizing i with
  | nil => exact Reads.pure []
  | cons c cs ih =>
      have rest := ih (fun i d among => each i d (List.mem_cons_of_mem c among)) (i + 1)
      have last : Reads ok (do
          let as ← Cursor.times r (i + 1) cs.length
          Pure.pure (value c :: as)) (cs.flatMap encode) (value c :: cs.map value) :=
        rest.bind_nil (Reads.pure (value c :: cs.map value))
      exact (each i c List.mem_cons_self).bind last

end

end Cursor

/-! ## Layouts -/

/-- Why a payload is not laid out as it should be; `left` octets are left of a block that should
    have `size`. -/
inductive Stop where
  | malformed
  | overlong (size left : Nat)
  deriving Repr, DecidableEq

/-- How the octets that are left are divided up. -/
def Layout (γ : Type) := Bytes → Except Stop (γ × Bytes)

namespace Layout

variable {γ δ : Type}

def andThen (l : Layout γ) (k : γ → Layout δ) : Layout δ := fun bytes =>
  match l bytes with
  | .error stop => .error stop
  | .ok (c, rest) => k c rest

instance : Monad Layout where
  pure c := fun bytes => .ok (c, bytes)
  bind := andThen

def require (c : Prop) [Decidable c] : Layout Unit := fun bytes =>
  if c then .ok ((), bytes) else .error .malformed

/-- Octets whose number is part of the format. -/
def fixed (size : Nat) : Layout Bytes := fun bytes =>
  if size > bytes.length then .error .malformed else .ok (bytes.take size, bytes.drop size)

/-- Octets whose number the payload says. -/
def block (size : Nat) : Layout Unit := fun bytes =>
  if size > bytes.length then .error (.overlong size bytes.length) else .ok ((), bytes.drop size)

/-- Such octets themselves. -/
def content (size : Nat) : Layout Bytes := fun bytes =>
  if size > bytes.length then .error (.overlong size bytes.length)
  else .ok (bytes.take size, bytes.drop size)

def times (l : Layout Unit) : Nat → Layout Unit
  | 0 => pure ()
  | n + 1 => do
      l
      times l n

/-- Nothing is put in front. -/
def Shrinks (l : Layout γ) : Prop := ∀ bytes c rest, l bytes = .ok (c, rest) →
  rest.length ≤ bytes.length

/-- Something is taken off. -/
def Consumes (l : Layout γ) : Prop := ∀ bytes c rest, l bytes = .ok (c, rest) →
  rest.length < bytes.length

variable {l : Layout γ} {k : γ → Layout δ} {bytes : Bytes}

theorem bind_of_error {stop : Stop} (h : l bytes = .error stop) :
    (l >>= k) bytes = .error stop := by
  change andThen l k bytes = _
  rw [andThen, h]

theorem bind_of_ok {c : γ} {rest : Bytes} (h : l bytes = .ok (c, rest)) :
    (l >>= k) bytes = k c rest := by
  change andThen l k bytes = _
  rw [andThen, h]

theorem bind_eq_ok {d : δ} {rest : Bytes} (h : (l >>= k) bytes = .ok (d, rest)) :
    ∃ c mid, l bytes = .ok (c, mid) ∧ k c mid = .ok (d, rest) := by
  cases first : l bytes with
  | error stop =>
      rw [bind_of_error first] at h
      cases h
  | ok result =>
      rw [bind_of_ok first] at h
      exact ⟨result.1, result.2, rfl, h⟩

theorem bind_assoc {ε : Type} (m : δ → Layout ε) :
    (l >>= k) >>= m = l >>= fun c => k c >>= m := by
  funext bytes
  cases first : l bytes with
  | error stop => rw [bind_of_error first, bind_of_error (bind_of_error first)]
  | ok result =>
      rw [bind_of_ok first]
      cases second : k result.1 result.2 with
      | error stop =>
          rw [bind_of_error second, bind_of_error ((bind_of_ok first).trans second)]
      | ok result' => rw [bind_of_ok second, bind_of_ok ((bind_of_ok first).trans second)]

theorem Shrinks.pure (c : γ) : Shrinks (pure c) := by
  intro bytes c' rest h
  obtain ⟨-, rfl⟩ := Prod.mk.inj (Except.ok.inj h)
  exact Nat.le_refl _

theorem Shrinks.require (c : Prop) [Decidable c] : Shrinks (require c) := by
  intro bytes c' rest h
  unfold Layout.require at h
  split at h
  case isTrue =>
    obtain ⟨-, rfl⟩ := Prod.mk.inj (Except.ok.inj h)
    exact Nat.le_refl _
  case isFalse => cases h

theorem Shrinks.block (size : Nat) : Shrinks (block size) := by
  intro bytes c rest h
  unfold Layout.block at h
  split at h
  case isTrue => cases h
  case isFalse =>
    obtain ⟨-, rfl⟩ := Prod.mk.inj (Except.ok.inj h)
    rw [List.length_drop]
    omega

theorem Consumes.fixed {size : Nat} (positive : 0 < size) : Consumes (fixed size) := by
  intro bytes c rest h
  unfold Layout.fixed at h
  split at h
  case isTrue => cases h
  case isFalse =>
    obtain ⟨-, rfl⟩ := Prod.mk.inj (Except.ok.inj h)
    rw [List.length_drop]
    omega

theorem Consumes.shrinks (h : Consumes l) : Shrinks l := fun bytes c rest laid =>
  Nat.le_of_lt (h bytes c rest laid)

theorem Shrinks.bind (first : Shrinks l) (next : ∀ c, Shrinks (k c)) : Shrinks (l >>= k) := by
  intro bytes d rest h
  obtain ⟨c, mid, here, later⟩ := bind_eq_ok h
  exact (next c _ _ _ later).trans (first _ _ _ here)

theorem Consumes.bind (first : Consumes l) (next : ∀ c, Shrinks (k c)) : Consumes (l >>= k) := by
  intro bytes d rest h
  obtain ⟨c, mid, here, later⟩ := bind_eq_ok h
  exact (next c _ _ _ later).trans_lt (first _ _ _ here)

theorem Shrinks.times {l : Layout Unit} (each : Shrinks l) (n : Nat) : Shrinks (l.times n) := by
  induction n with
  | zero => exact Shrinks.pure ()
  | succ n ih => exact each.bind fun _ => ih

/-- What takes something off each time takes at least as much as its number of turns. -/
theorem le_length_of_times {l : Layout Unit} (consumes : l.Consumes) {n : Nat} {c : Unit}
    {rest : Bytes} (h : l.times n bytes = .ok (c, rest)) : n + rest.length ≤ bytes.length := by
  induction n generalizing bytes with
  | zero =>
      obtain ⟨-, rfl⟩ := Prod.mk.inj (Except.ok.inj h)
      exact Nat.le_of_eq (Nat.zero_add _)
  | succ n ih =>
      obtain ⟨_, mid, first, later⟩ := bind_eq_ok h
      have shorter := consumes _ _ _ first
      have covered := ih later
      omega

/-- These octets are laid out so, whatever follows them. -/
def Lays (l : Layout γ) (used : Bytes) (c : γ) : Prop := ∀ rest, l (used ++ rest) = .ok (c, rest)

/-- What is taken off does not depend on what follows it. -/
def Local (l : Layout γ) : Prop := ∀ bytes c rest, l bytes = .ok (c, rest) →
  ∃ used, bytes = used ++ rest ∧ Lays l used c

theorem Lays.pure (c : γ) : Lays (pure c) [] c := fun _ => rfl

theorem Lays.bind {used used' : Bytes} {c : γ} {d : δ} (first : Lays l used c)
    (next : Lays (k c) used' d) : Lays (l >>= k) (used ++ used') d := by
  intro rest
  rw [List.append_assoc, bind_of_ok (first _)]
  exact next rest

theorem Lays.require {c : Prop} [Decidable c] (holds : c) : Lays (require c) [] () :=
  fun _ => if_pos holds

theorem Lays.fixed {used : Bytes} {size : Nat} (long : used.length = size) :
    Lays (fixed size) used used := by
  intro rest
  subst long
  rw [Layout.fixed, if_neg (by simp), List.take_left, List.drop_left]

theorem Lays.content {used : Bytes} {size : Nat} (long : used.length = size) :
    Lays (content size) used used := by
  intro rest
  subst long
  rw [Layout.content, if_neg (by simp), List.take_left, List.drop_left]

theorem Local.pure (c : γ) : Local (pure c) := by
  intro bytes c' rest h
  obtain ⟨rfl, rfl⟩ := Prod.mk.inj (Except.ok.inj h)
  exact ⟨[], rfl, Lays.pure c⟩

theorem Local.require (c : Prop) [Decidable c] : Local (require c) := by
  intro bytes u rest h
  unfold Layout.require at h
  split at h
  case isTrue holds =>
    obtain ⟨-, rfl⟩ := Prod.mk.inj (Except.ok.inj h)
    exact ⟨[], rfl, Lays.require holds⟩
  case isFalse => cases h

theorem Local.fixed (size : Nat) : Local (fixed size) := by
  intro bytes c rest h
  unfold Layout.fixed at h
  split at h
  case isTrue => cases h
  case isFalse enough =>
    obtain ⟨rfl, rfl⟩ := Prod.mk.inj (Except.ok.inj h)
    refine ⟨bytes.take size, (List.take_append_drop size bytes).symm, Lays.fixed ?_⟩
    rw [List.length_take]
    omega

theorem Local.content (size : Nat) : Local (content size) := by
  intro bytes c rest h
  unfold Layout.content at h
  split at h
  case isTrue => cases h
  case isFalse enough =>
    obtain ⟨rfl, rfl⟩ := Prod.mk.inj (Except.ok.inj h)
    refine ⟨bytes.take size, (List.take_append_drop size bytes).symm, Lays.content ?_⟩
    rw [List.length_take]
    omega

theorem Local.bind (first : Local l) (next : ∀ c, Local (k c)) : Local (l >>= k) := by
  intro bytes d rest h
  obtain ⟨c, mid, here, later⟩ := bind_eq_ok h
  obtain ⟨used, rfl, lays⟩ := first _ _ _ here
  obtain ⟨used', rfl, lays'⟩ := next c _ _ _ later
  exact ⟨used ++ used', (List.append_assoc ..).symm, lays.bind lays'⟩

theorem block_eq (size : Nat) : block size = (content size >>= fun _ => Pure.pure ()) := by
  funext bytes
  by_cases short : size > bytes.length
  · have stops : content size bytes = .error (.overlong size bytes.length) := if_pos short
    rw [bind_of_error stops]
    exact if_pos short
  · have goes : content size bytes = .ok (bytes.take size, bytes.drop size) := if_neg short
    rw [bind_of_ok goes]
    exact if_neg short

theorem Local.block (size : Nat) : Local (block size) := by
  rw [block_eq]
  exact (Local.content size).bind fun _ => Local.pure ()

theorem Local.times {l : Layout Unit} (each : Local l) (n : Nat) : Local (l.times n) := by
  induction n with
  | zero => exact Local.pure ()
  | succ n ih => exact each.bind fun _ => ih

end Layout

/-- What holds where a layout stops, of what the reader took and of whether it failed. The reader
    may have taken proper octets before, and it may go on. -/
structure Ending where
  Holds : Bytes → Stop → List Access → Bool → Prop
  front : ∀ {payload stop taken failed} (before : List Access),
    (∀ a ∈ before, a.Within payload) → Holds payload stop taken failed →
    Holds payload stop (before ++ taken) failed
  behind : ∀ {payload stop taken failed} (more : List Access),
    Holds payload stop taken false → Holds payload stop (taken ++ more) failed
  reject : ∀ {payload}, Holds payload .malformed [] true

namespace Ending

/-- The reader fails, having taken proper octets only. -/
def rejected : Ending where
  Holds payload _ taken failed := failed = true ∧ ∀ a ∈ taken, a.Within payload
  front _ within h := ⟨h.1, fun a among =>
    (List.mem_append.mp among).elim (within a) (h.2 a)⟩
  behind _ h := Bool.noConfusion h.1
  reject := ⟨rfl, nofun⟩

/-- The same, except where the end of an overlong block is not a 64-bit number: there the reader
    takes octets that do not exist. -/
def overrun : Ending where
  Holds payload stop taken failed :=
    match stop with
    | .malformed => failed = true ∧ ∀ a ∈ taken, a.Within payload
    | .overlong size left =>
        if payload.length - left + size < 2 ^ 64 then
          failed = true ∧ ∀ a ∈ taken, a.Within payload
        else ∃ a ∈ taken, ¬a.Within payload
  front := by
    intro payload stop taken failed before within h
    have rejects : failed = true ∧ (∀ a ∈ taken, a.Within payload) →
        failed = true ∧ ∀ a ∈ before ++ taken, a.Within payload := fun h =>
      ⟨h.1, fun a among => (List.mem_append.mp among).elim (within a) (h.2 a)⟩
    cases stop with
    | malformed => exact rejects h
    | overlong size left =>
        dsimp only at h ⊢
        split at h
        case isTrue fits =>
          rw [if_pos fits]
          exact rejects h
        case isFalse wraps =>
          rw [if_neg wraps]
          obtain ⟨a, among, outside⟩ := h
          exact ⟨a, List.mem_append_right before among, outside⟩
  behind := by
    intro payload stop taken failed more h
    cases stop with
    | malformed => cases h.1
    | overlong size left =>
        dsimp only at h ⊢
        split at h
        case isTrue fits => cases h.1
        case isFalse wraps =>
          rw [if_neg wraps]
          obtain ⟨a, among, outside⟩ := h
          exact ⟨a, List.mem_append_left more among, outside⟩
  reject := ⟨rfl, nofun⟩

end Ending

namespace Cursor

variable {α β γ δ : Type} {E : Ending} {ok : Bytes → Prop}

/-- The reader ends where the layout does, with a value that fits the layout's, having taken
    proper octets only. -/
def FollowsAt (E : Ending) (l : Layout γ) (r : Cursor α) (same : γ → α → Prop) (payload : Bytes)
    (offset : Nat) : Prop :=
  match l (payload.drop offset) with
  | .ok (c, rest) => (∀ a ∈ (r payload offset).1, a.Within payload) ∧
      ∃ v offset', (r payload offset).2 = some (v, offset') ∧ same c v ∧
        offset' ≤ payload.length ∧ rest = payload.drop offset'
  | .error stop => E.Holds payload stop (r payload offset).1 (r payload offset).2.isNone

/-- In every payload that is `ok` the reader follows the layout from anywhere. -/
def Follows (E : Ending) (ok : Bytes → Prop) (l : Layout γ) (r : Cursor α) (same : γ → α → Prop) :
    Prop :=
  ∀ payload offset, ok payload → offset ≤ payload.length → FollowsAt E l r same payload offset

theorem followsAt_of_ok {l : Layout γ} {r : Cursor α} {same : γ → α → Prop} {payload : Bytes}
    {offset offset' : Nat} {c : γ} {rest : Bytes} {taken : List Access} {v : α}
    (laid : l (payload.drop offset) = .ok (c, rest))
    (read : r payload offset = (taken, some (v, offset')))
    (within : ∀ a ∈ taken, a.Within payload) (fits : same c v) (inside : offset' ≤ payload.length)
    (left : rest = payload.drop offset') : FollowsAt E l r same payload offset := by
  unfold FollowsAt
  rw [laid, read]
  exact ⟨within, v, offset', rfl, fits, inside, left⟩

theorem followsAt_of_error {l : Layout γ} {r : Cursor α} {same : γ → α → Prop} {payload : Bytes}
    {offset : Nat} {stop : Stop} (laid : l (payload.drop offset) = .error stop)
    (ends : E.Holds payload stop (r payload offset).1 (r payload offset).2.isNone) :
    FollowsAt E l r same payload offset := by
  unfold FollowsAt
  rw [laid]
  exact ends

theorem FollowsAt.of_ok {l : Layout γ} {r : Cursor α} {same : γ → α → Prop} {payload : Bytes}
    {offset : Nat} {c : γ} {rest : Bytes} (h : FollowsAt E l r same payload offset)
    (laid : l (payload.drop offset) = .ok (c, rest)) :
    (∀ a ∈ (r payload offset).1, a.Within payload) ∧
      ∃ v offset', (r payload offset).2 = some (v, offset') ∧ same c v ∧
        offset' ≤ payload.length ∧ rest = payload.drop offset' := by
  unfold FollowsAt at h
  rwa [laid] at h

theorem FollowsAt.of_error {l : Layout γ} {r : Cursor α} {same : γ → α → Prop} {payload : Bytes}
    {offset : Nat} {stop : Stop} (h : FollowsAt E l r same payload offset)
    (laid : l (payload.drop offset) = .error stop) :
    E.Holds payload stop (r payload offset).1 (r payload offset).2.isNone := by
  unfold FollowsAt at h
  rwa [laid] at h

theorem FollowsAt.pure {c : γ} {a : α} {same : γ → α → Prop} {payload : Bytes} {offset : Nat}
    (fits : same c a) (inside : offset ≤ payload.length) :
    FollowsAt E (pure c) (Pure.pure a) same payload offset :=
  followsAt_of_ok rfl rfl nofun fits inside rfl

theorem FollowsAt.bind {l : Layout γ} {k : γ → Layout δ} {r : Cursor α} {f : α → Cursor β}
    {same : γ → α → Prop} {same' : δ → β → Prop} {payload : Bytes} {offset : Nat}
    (first : FollowsAt E l r same payload offset)
    (next : ∀ c a mid, same c a → mid ≤ payload.length →
      FollowsAt E (k c) (f a) same' payload mid) :
    FollowsAt E (l >>= k) (r >>= f) same' payload offset := by
  cases laid : l (payload.drop offset) with
  | error stop =>
      have here := first.of_error laid
      apply followsAt_of_error (Layout.bind_of_error laid)
      rcases whole : r payload offset with ⟨taken, _ | ⟨a, mid⟩⟩
      · rw [bind_of_none whole]
        rwa [whole] at here
      · rw [bind_of_some whole]
        rw [whole] at here
        exact E.behind _ here
  | ok result =>
      obtain ⟨c, rest⟩ := result
      obtain ⟨within, a, mid, read, fitting, inside, rfl⟩ := first.of_ok laid
      have there := next c a mid fitting inside
      have whole : r payload offset = ((r payload offset).1, some (a, mid)) := by rw [← read]
      cases later : k c (payload.drop mid) with
      | error stop =>
          apply followsAt_of_error ((Layout.bind_of_ok laid).trans later)
          rw [bind_of_some whole]
          exact E.front _ within (there.of_error later)
      | ok result =>
          obtain ⟨d, rest⟩ := result
          obtain ⟨within', b, end_, read', fitting', inside', left⟩ := there.of_ok later
          have whole' : f a payload mid = ((f a payload mid).1, some (b, end_)) := by rw [← read']
          refine followsAt_of_ok ((Layout.bind_of_ok laid).trans later)
            ((bind_of_some whole).trans (congrArg (after _) whole')) ?_ fitting' inside' left
          exact fun x among => (List.mem_append.mp among).elim (within x) (within' x)

/-- What becomes of the value afterwards takes nothing. -/
theorem FollowsAt.map {l : Layout γ} {r : Cursor α} {same : γ → α → Prop} {same' : γ → β → Prop}
    {payload : Bytes} {offset : Nat} (h : FollowsAt E l r same payload offset) (g : α → β)
    (fits : ∀ c a, same c a → same' c (g a)) :
    FollowsAt E l (r >>= fun a => Pure.pure (g a)) same' payload offset := by
  rcases whole : r payload offset with ⟨taken, _ | ⟨a, mid⟩⟩
  · cases laid : l (payload.drop offset) with
    | error stop =>
        have here := h.of_error laid
        apply followsAt_of_error laid
        rw [bind_of_none whole]
        rwa [whole] at here
    | ok result =>
        obtain ⟨-, _, _, read, -⟩ := h.of_ok laid
        rw [whole] at read
        cases read
  · have mapped := bind_of_some (f := fun a => Pure.pure (g a)) whole
    rw [after, pure_apply, List.append_nil] at mapped
    cases laid : l (payload.drop offset) with
    | error stop =>
        have here := h.of_error laid
        apply followsAt_of_error laid
        rw [mapped]
        rwa [whole] at here
    | ok result =>
        obtain ⟨c, rest⟩ := result
        obtain ⟨within, _, _, read, fitting, inside, left⟩ := h.of_ok laid
        rw [whole] at read within
        obtain ⟨rfl, rfl⟩ := Prod.mk.inj (Option.some.inj read)
        exact followsAt_of_ok laid mapped within (fits _ _ fitting) inside left

theorem Follows.pure {c : γ} {a : α} {same : γ → α → Prop} (fits : same c a) :
    Follows E ok (pure c) (Pure.pure a) same :=
  fun _ _ _ inside => FollowsAt.pure fits inside

theorem Follows.bind {l : Layout γ} {k : γ → Layout δ} {r : Cursor α} {f : α → Cursor β}
    {same : γ → α → Prop} {same' : δ → β → Prop} (first : Follows E ok l r same)
    (next : ∀ c a, same c a → Follows E ok (k c) (f a) same') :
    Follows E ok (l >>= k) (r >>= f) same' :=
  fun payload offset fits inside => (first payload offset fits inside).bind
    fun c a mid fitting inside' => next c a fitting payload mid fits inside'

theorem Follows.map {l : Layout γ} {r : Cursor α} {same : γ → α → Prop} {same' : γ → β → Prop}
    (h : Follows E ok l r same) (g : α → β) (fits : ∀ c a, same c a → same' c (g a)) :
    Follows E ok l (r >>= fun a => Pure.pure (g a)) same' :=
  fun payload offset ok_ inside => (h payload offset ok_ inside).map g fits

theorem Follows.and_yields {l : Layout γ} {r : Cursor α} {same : γ → α → Prop} {P : α → Prop}
    (h : Follows E ok l r same) (yields : Yields r P) :
    Follows E ok l r fun c a => same c a ∧ P a := by
  intro payload offset ok_ inside
  have here := h payload offset ok_ inside
  cases laid : l (payload.drop offset) with
  | error stop => exact followsAt_of_error laid (here.of_error laid)
  | ok result =>
      obtain ⟨within, v, offset', read, fitting, inside', left⟩ := here.of_ok laid
      have whole : r payload offset = ((r payload offset).1, some (v, offset')) := by rw [← read]
      exact followsAt_of_ok laid whole within ⟨fitting, yields _ _ _ _ read⟩ inside' left

theorem FollowsAt.require {c d : Prop} [Decidable c] [Decidable d] {payload : Bytes} {offset : Nat}
    (same : c ↔ d) (inside : offset ≤ payload.length) :
    FollowsAt E (Layout.require c) (Cursor.require d) (fun _ _ => c) payload offset := by
  by_cases holds : c
  · have laid : Layout.require c (payload.drop offset) = .ok ((), payload.drop offset) := if_pos holds
    have read : Cursor.require d payload offset = ([], some ((), offset)) := by
      rw [Cursor.require, if_pos (same.mp holds)]
      rfl
    exact followsAt_of_ok laid read nofun holds inside rfl
  · have laid : Layout.require c (payload.drop offset) = .error .malformed := if_neg holds
    apply followsAt_of_error laid
    rw [Cursor.require, if_neg fun d => holds (same.mpr d)]
    exact E.reject

theorem Follows.require (c : Prop) [Decidable c] :
    Follows E ok (Layout.require c) (Cursor.require c) fun _ _ => c :=
  fun _ _ _ inside => FollowsAt.require Iff.rfl inside

theorem Follows.times {l : Layout Unit} {r : Nat → Cursor α}
    (each : ∀ i, Follows E ok l (r i) fun _ _ => True) (i n : Nat) :
    Follows E ok (l.times n) (times r i n) fun _ _ => True := by
  induction n generalizing i with
  | zero => exact Follows.pure True.intro
  | succ n ih =>
      exact (each i).bind fun _ a _ => (ih (i + 1)).map (a :: ·) fun _ _ _ => True.intro

section
variable {payload : Bytes} {offset size : Nat}

theorem requireEnd_of_le (small : payload.length < 2 ^ 63) (inside : offset + size ≤ payload.length) :
    requireEnd size payload offset = ([], some ((), offset)) := by
  rw [requireEnd, sizeAdd_of_lt (by omega), if_neg (by omega)]

theorem requireEnd_of_gt (fits : offset + size < 2 ^ 64) (beyond : payload.length < offset + size) :
    requireEnd size payload offset = ([], none) := by
  rw [requireEnd, sizeAdd_of_lt fits, if_pos (by omega)]

/-- A sum that wraps around passes. -/
theorem requireEnd_of_wrap (small : payload.length < 2 ^ 63) (inside : offset ≤ payload.length)
    (fits : size < 2 ^ 64) (wraps : 2 ^ 64 ≤ offset + size) :
    requireEnd size payload offset = ([], some ((), offset)) := by
  have wrapped : sizeAdd offset size ≤ payload.length := by
    unfold sizeAdd
    omega
  rw [requireEnd, if_neg (by omega)]

theorem take_of_le (small : payload.length < 2 ^ 63) (inside : offset + size ≤ payload.length) :
    take size payload offset =
      ([⟨offset, size⟩], some ((payload.drop offset).take size, offset + size)) := by
  rw [take, sizeAdd_of_lt (by omega)]

theorem length_take_drop (inside : offset + size ≤ payload.length) :
    ((payload.drop offset).take size).length = size := by
  rw [List.length_take, List.length_drop]
  omega

theorem FollowsAt.fixed (small : payload.length < 2 ^ 63) (inside : offset ≤ payload.length)
    (narrow : size < 2 ^ 63) :
    FollowsAt E (Layout.fixed size) (do
      requireEnd size
      take size) (fun octets octets' => octets = octets' ∧ octets'.length = size) payload offset := by
  have left : (payload.drop offset).length = payload.length - offset := List.length_drop
  by_cases short : size > payload.length - offset
  · have laid : Layout.fixed size (payload.drop offset) = .error .malformed := by
      rw [Layout.fixed, left, if_pos short]
    apply followsAt_of_error laid
    rw [bind_of_none (requireEnd_of_gt (by omega) (by omega))]
    exact E.reject
  · have laid : Layout.fixed size (payload.drop offset) =
        .ok ((payload.drop offset).take size, (payload.drop offset).drop size) := by
      rw [Layout.fixed, left, if_neg short]
    have fits : offset + size ≤ payload.length := by omega
    refine followsAt_of_ok laid ((bind_of_some (requireEnd_of_le small fits)).trans
      (congrArg (after []) (take_of_le small fits))) ?_ ⟨rfl, length_take_drop fits⟩ fits
      List.drop_drop
    intro a among
    rw [List.mem_singleton.mp among]
    exact fits

theorem content_of_le (inside : offset + size ≤ payload.length) :
    Layout.content size (payload.drop offset) =
      .ok ((payload.drop offset).take size, payload.drop (offset + size)) := by
  rw [Layout.content, List.length_drop, if_neg (by omega), List.drop_drop]

theorem content_of_gt (inside : offset ≤ payload.length) (beyond : payload.length < offset + size) :
    Layout.content size (payload.drop offset) = .error (.overlong size (payload.length - offset)) := by
  rw [Layout.content, List.length_drop, if_pos (by omega)]

theorem block_of_gt (inside : offset ≤ payload.length) (beyond : payload.length < offset + size) :
    Layout.block size (payload.drop offset) = .error (.overlong size (payload.length - offset)) := by
  rw [Layout.block, List.length_drop, if_pos (by omega)]

variable {f : Bytes → Cursor α} {same : Bytes → α → Prop}

/-- A block that is there, and what is made of it. -/
theorem FollowsAt.content (small : payload.length < 2 ^ 63) (fits : offset + size ≤ payload.length)
    (finish : ∀ bytes, bytes.length = size →
      ∃ v, same bytes v ∧ ∀ end_, f bytes payload end_ = ([], some (v, end_))) :
    FollowsAt E (Layout.content size) (do
      let bytes ← take size
      f bytes) same payload offset := by
  obtain ⟨v, fitting, made⟩ := finish _ (length_take_drop fits)
  have read := bind_of_some (f := f) (take_of_le small fits)
  rw [made] at read
  refine followsAt_of_ok (content_of_le fits) read ?_ fitting fits rfl
  intro a among
  rw [List.mem_singleton.mp among]
  exact fits

/-- The layout's value is not looked at. -/
theorem FollowsAt.forget {l : Layout γ} {r : Cursor α} {same : γ → α → Prop}
    (h : FollowsAt E l r same payload offset) :
    FollowsAt E (l >>= fun _ => Pure.pure ()) r (fun _ _ => True) payload offset := by
  cases laid : l (payload.drop offset) with
  | error stop => exact followsAt_of_error (Layout.bind_of_error laid) (h.of_error laid)
  | ok result =>
      obtain ⟨within, v, offset', read, -, inside, left⟩ := h.of_ok laid
      have whole : r payload offset = ((r payload offset).1, some (v, offset')) := by rw [← read]
      exact followsAt_of_ok (Layout.bind_of_ok laid) whole within True.intro inside left

theorem FollowsAt.taken (small : payload.length < 2 ^ 63) (fits : offset + size ≤ payload.length)
    (finish : ∀ bytes, bytes.length = size → ∃ v, ∀ end_, f bytes payload end_ = ([], some (v, end_))) :
    FollowsAt E (Layout.block size) (do
      let bytes ← take size
      f bytes) (fun _ _ => True) payload offset := by
  rw [Layout.block_eq]
  have all : FollowsAt E (Layout.content size) (do
      let bytes ← take size
      f bytes) (fun _ _ => True) payload offset := by
    apply FollowsAt.content small fits
    intro bytes long
    obtain ⟨v, made⟩ := finish bytes long
    exact ⟨v, True.intro, made⟩
  exact all.forget

/-- What needs so many octets stops where there are fewer. -/
theorem FollowsAt.requireLeft {l : Layout γ} {r : Cursor α} {same : γ → α → Prop}
    (small : payload.length < 2 ^ 63) (inside : offset ≤ payload.length)
    (h : offset + size ≤ payload.length → FollowsAt .rejected l r same payload offset)
    (needs : ∀ c rest, l (payload.drop offset) = .ok (c, rest) → offset + size ≤ payload.length) :
    FollowsAt .rejected l (do
      Cursor.requireLeft size
      r) same payload offset := by
  have left : sizeSub payload.length offset = payload.length - offset :=
    sizeSub_of_le inside (by omega)
  by_cases fits : offset + size ≤ payload.length
  · have passes : Cursor.requireLeft size payload offset = ([], some ((), offset)) := by
      rw [Cursor.requireLeft, left, if_neg (by omega)]
    have read : (do
        Cursor.requireLeft size
        r) payload offset = r payload offset := by
      rw [bind_of_some passes]
      rfl
    unfold FollowsAt
    rw [read]
    exact h fits
  · have stops : Cursor.requireLeft size payload offset = ([], none) := by
      rw [Cursor.requireLeft, left, if_pos (by omega)]
    cases laid : l (payload.drop offset) with
    | ok result => exact absurd (needs result.1 result.2 laid) fits
    | error stop =>
        apply followsAt_of_error laid
        rw [bind_of_none stops]
        exact ⟨rfl, nofun⟩

variable {c : Prop} [Decidable c]

/-- A block behind a check of what is left. -/
theorem FollowsAt.contentLeft (small : payload.length < 2 ^ 63) (inside : offset ≤ payload.length)
    (finish : c → ∀ bytes, bytes.length = size →
      ∃ v, same bytes v ∧ ∀ end_, f bytes payload end_ = ([], some (v, end_))) :
    FollowsAt .rejected (do
      Layout.require c
      Layout.content size) (do
      Cursor.requireLeft size
      Cursor.require c
      let bytes ← take size
      f bytes) same payload offset := by
  apply FollowsAt.requireLeft small inside
  · intro fits
    by_cases holds : c
    · have passes : Cursor.require c payload offset = ([], some ((), offset)) := by
        rw [Cursor.require, if_pos holds]
        rfl
      have goes : Layout.require c (payload.drop offset) = .ok ((), payload.drop offset) :=
        if_pos holds
      unfold FollowsAt
      rw [Layout.bind_of_ok goes, bind_of_some passes]
      exact FollowsAt.content small fits (finish holds)
    · have stops : Cursor.require c payload offset = ([], none) := by
        rw [Cursor.require, if_neg holds]
        rfl
      have laid : Layout.require c (payload.drop offset) = .error .malformed := if_neg holds
      apply followsAt_of_error (Layout.bind_of_error laid)
      rw [bind_of_none stops]
      exact ⟨rfl, nofun⟩
  · intro d rest laid
    obtain ⟨_, mid, first, laid⟩ := Layout.bind_eq_ok laid
    unfold Layout.require at first
    split at first
    case isFalse => cases first
    case isTrue =>
      obtain ⟨-, rfl⟩ := Prod.mk.inj (Except.ok.inj first)
      by_contra short
      rw [content_of_gt inside (by omega)] at laid
      cases laid

theorem FollowsAt.checkedLeft (small : payload.length < 2 ^ 63) (inside : offset ≤ payload.length)
    (finish : ∀ bytes, bytes.length = size → ∃ v, ∀ end_, f bytes payload end_ = ([], some (v, end_))) :
    FollowsAt .rejected (do
      Layout.require c
      Layout.block size) (do
      Cursor.requireLeft size
      Cursor.require c
      let bytes ← take size
      f bytes) (fun _ _ => True) payload offset := by
  have all : FollowsAt .rejected (do
      Layout.require c
      Layout.content size) (do
      Cursor.requireLeft size
      Cursor.require c
      let bytes ← take size
      f bytes) (fun _ _ => True) payload offset := by
    apply FollowsAt.contentLeft small inside
    intro _ bytes long
    obtain ⟨v, made⟩ := finish bytes long
    exact ⟨v, True.intro, made⟩
  have joined := all.forget
  rw [Layout.bind_assoc] at joined
  rw [Layout.block_eq]
  exact joined

/-- A block behind a check of its end. -/
theorem FollowsAt.checkedEnd (small : payload.length < 2 ^ 63) (inside : offset ≤ payload.length)
    (narrow : size < 2 ^ 64)
    (finish : c → ∀ bytes, bytes.length = size → size ≤ payload.length →
      ∃ v, ∀ end_, f bytes payload end_ = ([], some (v, end_))) :
    FollowsAt .overrun (do
      Layout.require c
      Layout.block size) (do
      requireEnd size
      Cursor.require c
      let bytes ← take size
      f bytes) (fun _ _ => True) payload offset := by
  by_cases holds : c
  case neg =>
    have laid : Layout.require c (payload.drop offset) = .error .malformed := if_neg holds
    have stops : Cursor.require c payload offset = ([], none) := by
      rw [Cursor.require, if_neg holds]
      rfl
    apply followsAt_of_error (Layout.bind_of_error laid)
    by_cases passes : sizeAdd offset size > payload.length
    · have ends : requireEnd size payload offset = ([], none) := by rw [requireEnd, if_pos passes]
      rw [bind_of_none ends]
      exact ⟨rfl, nofun⟩
    · have goes : requireEnd size payload offset = ([], some ((), offset)) := by
        rw [requireEnd, if_neg passes]
      rw [bind_of_some goes, bind_of_none stops]
      exact ⟨rfl, nofun⟩
  case pos =>
    have same : Layout.require c (payload.drop offset) = .ok ((), payload.drop offset) := if_pos holds
    have goes : Cursor.require c payload offset = ([], some ((), offset)) := by
      rw [Cursor.require, if_pos holds]
      rfl
    by_cases fits : offset + size ≤ payload.length
    · unfold FollowsAt
      rw [Layout.bind_of_ok same, bind_of_some (requireEnd_of_le small fits), bind_of_some goes]
      exact FollowsAt.taken small fits fun bytes long => finish holds bytes long (by omega)
    · have laid := (Layout.bind_of_ok (k := fun _ => Layout.block size) same).trans
        (block_of_gt inside (by omega))
      apply followsAt_of_error laid
      have back : payload.length - (payload.length - offset) + size = offset + size := by omega
      change if payload.length - (payload.length - offset) + size < 2 ^ 64 then _ else _
      rw [back]
      by_cases wraps : offset + size < 2 ^ 64
      · rw [if_pos wraps, bind_of_none (requireEnd_of_gt wraps (by omega))]
        exact ⟨rfl, nofun⟩
      · rw [if_neg wraps, bind_of_some (requireEnd_of_wrap small inside narrow (by omega)),
          bind_of_some goes]
        refine ⟨⟨offset, size⟩, ?_, fits⟩
        have first : take size payload offset = ([⟨offset, size⟩], some
          ((payload.drop offset).take size, sizeAdd offset size)) := rfl
        rw [bind_of_some first]
        exact List.mem_cons_self

end

end Cursor

end FleetRMW.Lib
