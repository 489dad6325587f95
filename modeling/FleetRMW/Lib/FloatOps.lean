import FleetRMW.Lib.Python
import Mathlib.Algebra.Order.Field.Rat
import Mathlib.Data.Rat.Floor
import Mathlib.Data.List.Sort

/-! # Python's numbers as a parameter

What a program does with `float` is stated for any operations: no law of theirs is assumed, so
that rounding, infinities and NaN are allowed for. Comparisons are partial, as with NaN. The
functions here are those of Python that compare, which take the first of equal values.
-/

namespace FleetRMW.Lib

/-- The operations on `float` that programs use. -/
class FloatOps (F : Type) extends Add F, Sub F, Mul F, Div F, Neg F, LT F, LE F, BEq F,
    OfScientific F where
  decLt : DecidableLT F
  decLe : DecidableLE F
  /-- `float(n)` -/
  ofInt : Int → F
  /-- `int(x)` -/
  toInt : F → Int
  exp : F → F
  log : F → F
  sqrt : F → F
  /-- `f"{x:.3f}"`, with the number of places. -/
  fixed : Nat → F → Str

namespace FloatOps

variable {F : Type} [FloatOps F]

instance : DecidableLT F := decLt
instance : DecidableLE F := decLe

/-- `max(x, y)` -/
def pyMax (x y : F) : F := if y > x then y else x

/-- `min(x, y)` -/
def pyMin (x y : F) : F := if y < x then y else x

/-- `sum(xs)` -/
def pySum (xs : List F) : F := xs.foldl (· + ·) (ofInt 0)

end FloatOps

/-! ## Comparing by keys -/

/-- An entry of a key by which Python compares: a tuple compares by its first entries that
    differ. -/
inductive KeyPart (F : Type) where
  | float (x : F)
  | int (n : Int)
  | text (s : Str)

namespace KeyPart

variable {F : Type} [FloatOps F]

def before : KeyPart F → KeyPart F → Bool
  | .float x, .float y => x < y
  | .int m, .int n => m < n
  | .text s, .text t => s < t
  | _, _ => false

def same : KeyPart F → KeyPart F → Bool
  | .float x, .float y => x == y
  | .int m, .int n => m = n
  | .text s, .text t => s = t
  | _, _ => false

/-- `key < key'` for tuples. -/
def tupleLt : List (KeyPart F) → List (KeyPart F) → Bool
  | x :: xs, y :: ys => if same x y then tupleLt xs ys else before x y
  | [], _ :: _ => true
  | _, [] => false

end KeyPart

section
variable {F α : Type} [FloatOps F]

/-- `sorted(items, key=key)`, which keeps the order of items of equal keys. -/
def sortedBy (key : α → List (KeyPart F)) (items : List α) : List α :=
  items.insertionSort fun x y => KeyPart.tupleLt (key y) (key x) = false

/-- `sorted(items, key=key, reverse=True)`, which does so as well. -/
def sortedByDesc (key : α → List (KeyPart F)) (items : List α) : List α :=
  items.insertionSort fun x y => KeyPart.tupleLt (key x) (key y) = false

/-- `min(items, key=key)`, the first of the least. -/
def minBy (key : α → List (KeyPart F)) : List α → Option α
  | [] => none
  | x :: xs => some (xs.foldl (fun best y => if KeyPart.tupleLt (key y) (key best) then y else best) x)

/-- `max(items, key=key)`, the first of the greatest. -/
def maxBy (key : α → List (KeyPart F)) : List α → Option α
  | [] => none
  | x :: xs => some (xs.foldl (fun best y => if KeyPart.tupleLt (key best) (key y) then y else best) x)

theorem sortedBy_perm (key : α → List (KeyPart F)) (items : List α) :
    (sortedBy key items).Perm items :=
  List.perm_insertionSort _ items

theorem sortedByDesc_perm (key : α → List (KeyPart F)) (items : List α) :
    (sortedByDesc key items).Perm items :=
  List.perm_insertionSort _ items

theorem foldl_choose_mem {choose : α → α → α} (chooses : ∀ x y, choose x y = x ∨ choose x y = y)
    (xs : List α) (x : α) : xs.foldl choose x ∈ x :: xs := by
  induction xs generalizing x with
  | nil => exact List.mem_singleton_self x
  | cons y ys ih =>
      rw [List.foldl_cons]
      cases List.mem_cons.mp (ih (choose x y)) with
      | inl chosen =>
          rw [chosen]
          cases chooses x y with
          | inl old =>
              rw [old]
              exact List.mem_cons_self
          | inr new =>
              rw [new]
              exact List.mem_cons_of_mem _ List.mem_cons_self
      | inr later => exact List.mem_cons_of_mem _ (List.mem_cons_of_mem _ later)

theorem mem_of_minBy {key : α → List (KeyPart F)} {items : List α} {x : α}
    (h : minBy key items = some x) : x ∈ items := by
  cases items with
  | nil => cases h
  | cons y ys =>
      cases Option.some.inj h
      apply foldl_choose_mem
      intro best z
      split
      · exact .inr rfl
      · exact .inl rfl

end

/-! ## Fixed point -/

/-- Numbers with six decimal places. -/
structure Fixed where
  micros : Int
  deriving Repr, DecidableEq

namespace Fixed

def scale : Int := 1000000

def mul (x y : Fixed) : Fixed := ⟨x.micros * y.micros / scale⟩

def div (x y : Fixed) : Fixed := ⟨x.micros * scale / y.micros⟩

/-- Squaring `n` times. -/
def squares : Nat → Fixed → Fixed
  | 0, x => x
  | n + 1, x => squares n (mul x x)

/-- The first terms of the series at `x / 64`, to the power of 64. -/
def exp (x : Fixed) : Fixed :=
  let y : Fixed := ⟨x.micros / 64⟩
  let y₂ := mul y y
  let y₃ := mul y₂ y
  let y₄ := mul y₃ y
  squares 6 ⟨scale + y.micros + y₂.micros / 2 + y₃.micros / 6 + y₄.micros / 24⟩

/-- Steps towards the root of `exp y = x`. -/
def logFrom (x : Fixed) : Nat → Fixed → Fixed
  | 0, y => y
  | n + 1, y =>
      let power := exp y
      logFrom x n ⟨y.micros + (div ⟨2 * (x.micros - power.micros)⟩
        ⟨x.micros + power.micros⟩).micros⟩

/-- Newton's steps towards the root of `y * y = x`. -/
def sqrtFrom (x : Fixed) : Nat → Fixed → Fixed
  | 0, y => y
  | n + 1, y => sqrtFrom x n ⟨(y.micros + (div x y).micros) / 2⟩

/-- The digits before and behind the point. -/
def text (places : Nat) (x : Fixed) : Str :=
  let unit := 10 ^ places
  let rounded := (x.micros.natAbs * unit + 500000) / 1000000
  let behind := toString (rounded % unit)
  (if x.micros < 0 then lit "-" else []) ++ lit (toString (rounded / unit)) ++ lit "." ++
    List.replicate (places - behind.length) 48 ++ lit behind

instance : FloatOps Fixed where
  add x y := ⟨x.micros + y.micros⟩
  sub x y := ⟨x.micros - y.micros⟩
  mul := mul
  div := div
  neg x := ⟨-x.micros⟩
  lt x y := x.micros < y.micros
  le x y := x.micros ≤ y.micros
  beq x y := x.micros == y.micros
  ofScientific mantissa negative exponent :=
    if negative then ⟨mantissa * scale / 10 ^ exponent⟩ else ⟨mantissa * scale * 10 ^ exponent⟩
  decLt x y := inferInstanceAs (Decidable (x.micros < y.micros))
  decLe x y := inferInstanceAs (Decidable (x.micros ≤ y.micros))
  ofInt n := ⟨n * scale⟩
  toInt x := x.micros.tdiv scale
  exp := exp
  log x := logFrom x 24 ⟨0⟩
  sqrt x := sqrtFrom x 40 ⟨max scale x.micros⟩
  fixed := text

end Fixed

end FleetRMW.Lib
