import FleetRMW.Lib.Python
import Mathlib.Tactic.Ring

/-! # Wire formats

Fixed-width numbers are octets, the least significant first. A reader takes a value off the
front of the octets that are left. It reads a format when it takes the whole encoding off
whatever follows it, and fails on every strict beginning of it. Readers in sequence read
their encodings in sequence, so that a record's format follows from those of its fields.
-/

namespace FleetRMW.Lib

/-- The last `width` octets of a number, the least significant first. -/
def leBytes : Nat → Nat → Bytes
  | 0, _ => []
  | width + 1, n => UInt8.ofNat (n % 256) :: leBytes width (n / 256)

def leValue : Bytes → Nat
  | [] => 0
  | b :: bytes => b.toNat + 256 * leValue bytes

@[simp] theorem length_leBytes (width n : Nat) : (leBytes width n).length = width := by
  induction width generalizing n with
  | zero => rfl
  | succ width ih => rw [leBytes, List.length_cons, ih]

theorem leValue_leBytes {width n : Nat} (fits : n < 256 ^ width) :
    leValue (leBytes width n) = n := by
  induction width generalizing n with
  | zero => simp only [leBytes, leValue]; omega
  | succ width ih =>
      have rest : n / 256 < 256 ^ width := by rw [pow_succ] at fits; omega
      have low : (UInt8.ofNat (n % 256)).toNat = n % 256 := by simp
      rw [leBytes, leValue, ih rest, low]
      omega

theorem leValue_lt (bytes : Bytes) : leValue bytes < 256 ^ bytes.length := by
  induction bytes with
  | nil => exact Nat.one_pos
  | cons b bytes ih =>
      have octet : b.toNat < 256 := b.toNat_lt
      rw [leValue, List.length_cons, pow_succ]
      omega

theorem leBytes_injective {width n m : Nat} (fits : n < 256 ^ width) (fits' : m < 256 ^ width)
    (same : leBytes width n = leBytes width m) : n = m := by
  rw [← leValue_leBytes fits, ← leValue_leBytes fits', same]

/-- The octets of a number in network order, the most significant first. -/
def beBytes (width n : Nat) : Bytes := (leBytes width n).reverse

def beValue (bytes : Bytes) : Nat := leValue bytes.reverse

@[simp] theorem length_beBytes (width n : Nat) : (beBytes width n).length = width := by
  rw [beBytes, List.length_reverse, length_leBytes]

theorem beValue_beBytes {width n : Nat} (fits : n < 256 ^ width) :
    beValue (beBytes width n) = n := by
  rw [beValue, beBytes, List.reverse_reverse, leValue_leBytes fits]

/-- A reader of the octets that are left. -/
abbrev WireReader (α : Type) := StateT Bytes Option α

namespace WireReader

variable {α β : Type}

/-- The next `n` octets. -/
def take (n : Nat) : WireReader Bytes := fun bytes =>
  if bytes.length < n then none else some (bytes.take n, bytes.drop n)

/-- A number of fixed width. -/
def fixed (width : Nat) : WireReader Nat := leValue <$> take width

/-- A number of fixed width in network order. -/
def fixedBe (width : Nat) : WireReader Nat := beValue <$> take width

/-- Octets behind their number. -/
def lengthPrefixed (width : Nat) : WireReader Bytes := fixed width >>= take

/-- The reader takes this encoding of the value off whatever follows, and fails on less. -/
structure Reads (r : WireReader α) (bytes : Bytes) (a : α) : Prop where
  whole : ∀ rest, r (bytes ++ rest) = some (a, rest)
  cut : ∀ short, short <+: bytes → short ≠ bytes → r short = none

variable {r : WireReader α} {f : α → WireReader β} {bytes bytes' : Bytes} {a : α} {b : β}

theorem Reads.pure (a : α) : Reads (Pure.pure a) [] a where
  whole _ := rfl
  cut _ pre other := absurd (List.prefix_nil.mp pre) other

theorem Reads.bind (first : Reads r bytes a) (next : Reads (f a) bytes' b) :
    Reads (r >>= f) (bytes ++ bytes') b where
  whole rest := by
    change (r (bytes ++ bytes' ++ rest)).bind (fun p => f p.1 p.2) = _
    rw [List.append_assoc, first.whole, Option.bind_some, next.whole]
  cut short pre other := by
    change (r short).bind (fun p => f p.1 p.2) = none
    obtain shorter | longer := lt_or_ge short.length bytes.length
    · have inside : short <+: bytes :=
        List.prefix_of_prefix_length_le pre (List.prefix_append _ _) shorter.le
      have strict : short ≠ bytes := by rintro rfl; exact absurd shorter (lt_irrefl _)
      rw [first.cut short inside strict, Option.bind_none]
    · have covers : bytes <+: short :=
        List.prefix_of_prefix_length_le (List.prefix_append _ _) pre longer
      obtain ⟨tail, rfl⟩ := covers
      have rest : tail <+: bytes' := (List.prefix_append_right_inj bytes).mp pre
      have strict : tail ≠ bytes' := by rintro rfl; exact other rfl
      rw [first.whole, Option.bind_some, next.cut tail rest strict]

/-- The last reader of a sequence. -/
theorem Reads.bind_pure (first : Reads r bytes a) (g : α → β) :
    Reads (r >>= fun a => Pure.pure (g a)) bytes (g a) := by
  have chained := first.bind (f := fun a => Pure.pure (g a)) (Reads.pure (g a))
  rwa [List.append_nil] at chained

theorem Reads.map (first : Reads r bytes a) (g : α → β) : Reads (g <$> r) bytes (g a) :=
  first.bind_pure g

theorem Reads.take (bytes : Bytes) : Reads (take bytes.length) bytes bytes where
  whole rest := by
    have enough : ¬(bytes ++ rest).length < bytes.length := by simp
    simp only [WireReader.take, enough, if_false, List.take_left, List.drop_left]
  cut short pre other := by
    have fewer : short.length < bytes.length :=
      lt_of_le_of_ne pre.length_le fun same => other (pre.eq_of_length same)
    simp only [WireReader.take, fewer, if_true]

theorem Reads.fixed (width : Nat) {n : Nat} (fits : n < 256 ^ width) :
    Reads (fixed width) (leBytes width n) n := by
  have octets := (Reads.take (leBytes width n)).map leValue
  rw [length_leBytes, leValue_leBytes fits] at octets
  exact octets

theorem Reads.fixedBe (width : Nat) {n : Nat} (fits : n < 256 ^ width) :
    Reads (fixedBe width) (beBytes width n) n := by
  have octets := (Reads.take (beBytes width n)).map beValue
  rw [length_beBytes, beValue_beBytes fits] at octets
  exact octets

theorem Reads.lengthPrefixed {width : Nat} {bytes : Bytes} (fits : bytes.length < 256 ^ width) :
    Reads (lengthPrefixed width) (leBytes width bytes.length ++ bytes) bytes :=
  (Reads.fixed width fits).bind (Reads.take bytes)

end WireReader

end FleetRMW.Lib
