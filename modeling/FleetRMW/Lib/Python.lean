import Mathlib.Data.List.Basic
import Mathlib.Data.List.Perm.Basic
import Mathlib.Data.List.Infix

/-! # Python's values

A `str` is a sequence of code points, which may hold lone surrogates and then has no
UTF-8 encoding; `bytes` is a sequence of octets. An `OrderedDict` whose values carry
nothing and a `deque` are lists with the oldest element in front.
-/

namespace FleetRMW.Lib

abbrev Str := List Nat

instance : LawfulBEq Str := inferInstance

abbrev Bytes := List UInt8

instance : LawfulBEq Bytes := inferInstance

/-- The text of a literal. -/
def lit (s : String) : Str := s.toList.map Char.toNat

/-- The octets of an ASCII literal. -/
def octets (s : String) : Bytes := s.toList.map fun c => UInt8.ofNat c.toNat

def isSurrogate (c : Nat) : Bool := 0xD800 ≤ c && c ≤ 0xDFFF

/-- `s.encode("utf-8")` does not raise `UnicodeEncodeError`. -/
def Str.encodable (s : Str) : Bool := s.all fun c => !isSurrogate c

section
variable {α : Type*}

/-- `while len(l) > n: l.popleft()`. -/
def popWhileLonger (n : Nat) : List α → List α
  | [] => []
  | x :: xs => if (x :: xs).length > n then popWhileLonger n xs else x :: xs

theorem popWhileLonger_eq_drop (n : Nat) (l : List α) :
    popWhileLonger n l = l.drop (l.length - n) := by
  induction l with
  | nil => simp only [popWhileLonger, List.drop_nil]
  | cons x xs ih =>
      rw [popWhileLonger]
      split
      case isTrue long =>
        rw [ih, show (x :: xs).length - n = (xs.length - n) + 1 by
          simp only [List.length_cons] at long ⊢; omega, List.drop_succ_cons]
      case isFalse short =>
        rw [show (x :: xs).length - n = 0 by omega, List.drop_zero]

theorem popWhileLonger_of_le {n : Nat} {l : List α} (short : l.length ≤ n) :
    popWhileLonger n l = l := by
  rw [popWhileLonger_eq_drop, show l.length - n = 0 by omega, List.drop_zero]

@[simp] theorem length_popWhileLonger (n : Nat) (l : List α) :
    (popWhileLonger n l).length = min l.length n := by
  rw [popWhileLonger_eq_drop, List.length_drop]
  omega

/-- One element too many drives out the oldest. -/
theorem popWhileLonger_concat {n : Nat} {l : List α} (few : l.length ≤ n) (room : 0 < n) (x : α) :
    popWhileLonger n (l ++ [x]) = (if l.length < n then l else l.tail) ++ [x] := by
  rw [popWhileLonger_eq_drop, List.length_append, List.length_singleton]
  split
  case isTrue less => rw [show l.length + 1 - n = 0 by omega, List.drop_zero]
  case isFalse full =>
    rw [show l.length + 1 - n = 1 by omega, List.drop_append_of_le_length (by omega),
      List.drop_one]

theorem popWhileLonger_sublist (n : Nat) (l : List α) : (popWhileLonger n l).Sublist l := by
  rw [popWhileLonger_eq_drop]
  exact List.drop_sublist _ _

variable [DecidableEq α]

/-- `d.move_to_end(k)` for a key that is present. -/
def moveToEnd (k : α) (l : List α) : List α := l.erase k ++ [k]

theorem moveToEnd_perm {k : α} {l : List α} (present : k ∈ l) : (moveToEnd k l).Perm l :=
  (List.perm_append_singleton k _).trans (List.perm_cons_erase present).symm

end

/-! ## Dictionaries -/

/-- A `dict` lists its pairs in insertion order. -/
abbrev Dict (K V : Type*) := List (K × V)

namespace Dict

variable {K V : Type*} [DecidableEq K]

def get? (d : Dict K V) (k : K) : Option V := (d.find? fun e => e.1 = k).map Prod.snd

/-- `d[k] = v`, which keeps the place of a key that is present. -/
def set : Dict K V → K → V → Dict K V
  | [], k, v => [(k, v)]
  | e :: d, k, v => if e.1 = k then (k, v) :: d else e :: set d k v

/-- `d[k] = d.get(k, 0) + 1`. -/
def count (d : Dict K Int) (k : K) : Dict K Int := d.set k ((d.get? k).getD 0 + 1)

variable {d : Dict K V} {k k' : K} {v : V}

@[simp] theorem get?_nil : get? ([] : Dict K V) k = none := rfl

theorem get?_cons (e : K × V) : get? (e :: d) k = if e.1 = k then some e.2 else get? d k := by
  by_cases same : e.1 = k
  · simp only [get?, List.find?_cons, same, decide_true, Option.map_some, if_true]
  · simp only [get?, List.find?_cons, same, decide_false, if_false]

@[simp] theorem get?_set_self : (d.set k v).get? k = some v := by
  induction d with
  | nil => simp only [set, get?_cons, if_true]
  | cons e d ih =>
      unfold set
      split
      case isTrue => simp only [get?_cons, if_true]
      case isFalse other => simp only [get?_cons, other, if_false, ih]

theorem get?_set_of_ne (other : k' ≠ k) : (d.set k v).get? k' = d.get? k' := by
  induction d with
  | nil => simp only [set, get?_cons, other.symm, if_false]
  | cons e d ih =>
      unfold set
      split
      case isTrue same => simp only [get?_cons, same, other.symm, if_false]
      case isFalse => simp only [get?_cons, ih]

end Dict

end FleetRMW.Lib
