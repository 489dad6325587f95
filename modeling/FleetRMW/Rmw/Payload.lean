import FleetRMW.Rmw.Pieces

/-! # Payloads in base64

What is encoded decodes again, and its text needs no escape.
-/

namespace FleetRMW.Rmw

open Lib

/-! ## Letters -/

theorem sextet_base64Letter (n : UInt32) : sextet (base64Letter n) = some (n &&& 0x3F) := by
  have small : (n &&& 0x3F).toNat < 64 := by
    rw [UInt32.toNat_and]
    exact Nat.lt_of_le_of_lt Nat.and_le_right (by decide)
  have letters : ∀ k : Fin 64, ∀ m : UInt32, m = UInt32.ofNat k.val →
      sextet (base64Letter m) = some m := by
    rintro k m rfl
    revert k
    decide
  have masked : base64Letter n = base64Letter (n &&& 0x3F) := by
    rw [base64Letter, base64Letter, UInt32.and_assoc, UInt32.and_self]
  rw [masked]
  exact letters ⟨_, small⟩ _ (UInt32.ofNat_toNat).symm

/-- No letter is a padding mark or needs an escape. -/
theorem base64Letter_plain (n : UInt32) :
    base64Letter n ≠ 61 ∧ base64Letter n ≠ 34 ∧ base64Letter n ≠ 92 ∧ base64Letter n ≠ 10 := by
  have decodes := sextet_base64Letter n
  refine ⟨?_, ?_, ?_, ?_⟩ <;> intro same <;> rw [same] at decodes <;> cases decodes

/-! ## Groups -/

theorem toNat_shift_or {x y : UInt32} {k : Nat} (width : k < 32) (low : y.toNat < 2 ^ k)
    (high : x.toNat * 2 ^ k < 2 ^ 32) :
    (x <<< UInt32.ofNat k ||| y).toNat = x.toNat * 2 ^ k + y.toNat := by
  have shift : (UInt32.ofNat k).toNat = k := by
    rw [UInt32.toNat_ofNat']
    omega
  rw [UInt32.toNat_or, UInt32.toNat_shiftLeft, shift, Nat.mod_eq_of_lt width, Nat.shiftLeft_eq,
    Nat.mod_eq_of_lt high, Nat.mul_comm x.toNat, Nat.two_pow_add_eq_or_of_lt low]

theorem toNat_masked (n : UInt32) : (n &&& 0x3F).toNat = n.toNat % 64 := by
  rw [UInt32.toNat_and]
  exact Nat.and_two_pow_sub_one_eq_mod n.toNat 6

/-- The three octets of a group as one number. -/
def chunkOf (a b c : UInt8) : UInt32 :=
  (a.toUInt32 <<< 16) ||| (b.toUInt32 <<< 8) ||| c.toUInt32

theorem toNat_chunkOf (a b c : UInt8) :
    (chunkOf a b c).toNat = a.toNat * 65536 + b.toNat * 256 + c.toNat := by
  have aSmall := a.toNat_lt
  have bSmall := b.toNat_lt
  have cSmall := c.toNat_lt
  have inner : (b.toUInt32 <<< 8 ||| c.toUInt32).toNat = b.toNat * 256 + c.toNat :=
    toNat_shift_or (k := 8) (by decide) (by rw [UInt8.toNat_toUInt32]; omega)
      (by rw [UInt8.toNat_toUInt32]; omega)
  have outer : (a.toUInt32 <<< 16 ||| (b.toUInt32 <<< 8 ||| c.toUInt32)).toNat =
      a.toNat * 65536 + (b.toUInt32 <<< 8 ||| c.toUInt32).toNat :=
    toNat_shift_or (k := 16) (by decide) (by rw [inner]; omega)
      (by rw [UInt8.toNat_toUInt32]; omega)
  rw [chunkOf, UInt32.or_assoc, outer, inner, Nat.add_assoc]

/-- The sextets of a number of 24 bits make it up again. -/
theorem sextets_join {n : UInt32} (small : n.toNat < 2 ^ 24) :
    ((n >>> 18 &&& 0x3F) <<< 18) ||| ((n >>> 12 &&& 0x3F) <<< 12) |||
      ((n >>> 6 &&& 0x3F) <<< 6) ||| (n &&& 0x3F) = n := by
  have s₃ : (n &&& 0x3F).toNat = n.toNat % 64 := toNat_masked n
  have s₂ : (n >>> 6 &&& 0x3F).toNat = n.toNat / 64 % 64 := by
    rw [toNat_masked, UInt32.toNat_shiftRight]
    exact congrArg (· % 64) (Nat.shiftRight_eq_div_pow _ 6)
  have s₁ : (n >>> 12 &&& 0x3F).toNat = n.toNat / 4096 % 64 := by
    rw [toNat_masked, UInt32.toNat_shiftRight]
    exact congrArg (· % 64) (Nat.shiftRight_eq_div_pow _ 12)
  have s₀ : (n >>> 18 &&& 0x3F).toNat = n.toNat / 262144 % 64 := by
    rw [toNat_masked, UInt32.toNat_shiftRight]
    exact congrArg (· % 64) (Nat.shiftRight_eq_div_pow _ 18)
  apply UInt32.toNat_inj.mp
  rw [UInt32.or_assoc, UInt32.or_assoc]
  have low : ((n >>> 6 &&& 0x3F) <<< 6 ||| (n &&& 0x3F)).toNat =
      (n >>> 6 &&& 0x3F).toNat * 64 + (n &&& 0x3F).toNat :=
    toNat_shift_or (k := 6) (by decide) (by omega) (by omega)
  have middle : ((n >>> 12 &&& 0x3F) <<< 12 ||| ((n >>> 6 &&& 0x3F) <<< 6 ||| (n &&& 0x3F))).toNat =
      (n >>> 12 &&& 0x3F).toNat * 4096 + ((n >>> 6 &&& 0x3F) <<< 6 ||| (n &&& 0x3F)).toNat :=
    toNat_shift_or (k := 12) (by decide) (by omega) (by omega)
  have whole : ((n >>> 18 &&& 0x3F) <<< 18 ||| ((n >>> 12 &&& 0x3F) <<< 12 |||
      ((n >>> 6 &&& 0x3F) <<< 6 ||| (n &&& 0x3F)))).toNat = (n >>> 18 &&& 0x3F).toNat * 262144 +
        ((n >>> 12 &&& 0x3F) <<< 12 ||| ((n >>> 6 &&& 0x3F) <<< 6 ||| (n &&& 0x3F))).toNat :=
    toNat_shift_or (k := 18) (by decide) (by omega) (by omega)
  omega

/-- The octets of a number of 24 bits. -/
theorem octets_chunkOf (a b c : UInt8) :
    (chunkOf a b c >>> 16).toUInt8 = a ∧ (chunkOf a b c >>> 8).toUInt8 = b ∧
      (chunkOf a b c).toUInt8 = c := by
  have value := toNat_chunkOf a b c
  have aSmall := a.toNat_lt
  have bSmall := b.toNat_lt
  have cSmall := c.toNat_lt
  have shift₁₆ : (chunkOf a b c >>> 16).toNat = (chunkOf a b c).toNat / 65536 := by
    rw [UInt32.toNat_shiftRight]
    exact Nat.shiftRight_eq_div_pow _ 16
  have shift₈ : (chunkOf a b c >>> 8).toNat = (chunkOf a b c).toNat / 256 := by
    rw [UInt32.toNat_shiftRight]
    exact Nat.shiftRight_eq_div_pow _ 8
  refine ⟨?_, ?_, ?_⟩ <;> apply UInt8.toNat_inj.mp <;> rw [UInt32.toNat_toUInt8]
  · rw [shift₁₆, value]
    omega
  · rw [shift₈, value]
    omega
  · rw [value]
    omega

/-- The octets that a group of letters stands for, whatever its padding. -/
theorem base64Group_chunkOf (a b c : UInt8) :
    base64Group (base64Letter (chunkOf a b c >>> 18)) (base64Letter (chunkOf a b c >>> 12))
        (base64Letter (chunkOf a b c >>> 6)) (base64Letter (chunkOf a b c)) = some [a, b, c] ∧
      (c = 0 → base64Group (base64Letter (chunkOf a b c >>> 18))
        (base64Letter (chunkOf a b c >>> 12)) (base64Letter (chunkOf a b c >>> 6)) 61 =
          some [a, b]) ∧
      (b = 0 → c = 0 → base64Group (base64Letter (chunkOf a b c >>> 18))
        (base64Letter (chunkOf a b c >>> 12)) 61 61 = some [a]) := by
  have value := toNat_chunkOf a b c
  have small : (chunkOf a b c).toNat < 2 ^ 24 := by
    have aSmall := a.toNat_lt
    have bSmall := b.toNat_lt
    have cSmall := c.toNat_lt
    omega
  have join := sextets_join small
  obtain ⟨first, second, third⟩ := octets_chunkOf a b c
  have isLetter := fun n => (base64Letter_plain n).1
  refine ⟨?_, ?_, ?_⟩
  · simp only [base64Group, sextet_base64Letter, isLetter, if_false, false_and,
      Option.bind_eq_bind, Option.bind_some, join, first, second, third]
    rfl
  · rintro rfl
    have last : chunkOf a b 0 &&& 0x3F = 0 := by
      apply UInt32.toNat_inj.mp
      rw [toNat_masked, value]
      change (a.toNat * 65536 + b.toNat * 256 + 0) % 64 = 0
      omega
    rw [last] at join
    simp only [base64Group, sextet_base64Letter, isLetter, if_false, if_true, false_and,
      Option.bind_eq_bind, Option.bind_some, join, first, second]
    rfl
  · rintro rfl rfl
    have last : chunkOf a 0 0 &&& 0x3F = 0 := by
      apply UInt32.toNat_inj.mp
      rw [toNat_masked, value]
      change (a.toNat * 65536 + 0 * 256 + 0) % 64 = 0
      omega
    have middle : chunkOf a 0 0 >>> 6 &&& 0x3F = 0 := by
      apply UInt32.toNat_inj.mp
      have shift : (chunkOf a 0 0 >>> 6).toNat = (chunkOf a 0 0).toNat / 64 := by
        rw [UInt32.toNat_shiftRight]
        exact Nat.shiftRight_eq_div_pow _ 6
      rw [toNat_masked, shift, value]
      change (a.toNat * 65536 + 0 * 256 + 0) / 64 % 64 = 0
      omega
    rw [last, middle] at join
    rw [show (0 : UInt32) <<< 6 = 0 from rfl] at join
    simp only [base64Group, sextet_base64Letter, if_true, Option.bind_eq_bind, Option.bind_some]
    rw [show (0 : UInt32) <<< 6 = 0 from rfl, join, first]
    rfl

theorem base64Encode_three (a b c : UInt8) (rest : Bytes) :
    base64Encode (a :: b :: c :: rest) =
      [base64Letter (chunkOf a b c >>> 18), base64Letter (chunkOf a b c >>> 12),
        base64Letter (chunkOf a b c >>> 6), base64Letter (chunkOf a b c)] ++
          base64Encode rest := rfl

theorem base64Encode_two (a b : UInt8) :
    base64Encode [a, b] =
      [base64Letter (chunkOf a b 0 >>> 18), base64Letter (chunkOf a b 0 >>> 12),
        base64Letter (chunkOf a b 0 >>> 6), 61] := by
  simp [base64Encode, chunkOf]

theorem base64Encode_one (a : UInt8) :
    base64Encode [a] =
      [base64Letter (chunkOf a 0 0 >>> 18), base64Letter (chunkOf a 0 0 >>> 12), 61, 61] := by
  simp [base64Encode, chunkOf]

/-- What is encoded decodes again. -/
theorem base64Groups_encode (payload : Bytes) :
    base64Groups (base64Encode payload) = .ok (some payload) := by
  induction payload using base64Encode.induct with
  | case1 a b c rest ih =>
      rw [base64Encode_three]
      simp only [List.cons_append, List.nil_append, base64Groups, (base64Group_chunkOf a b c).1, ih]
      rfl
  | case2 a b =>
      rw [base64Encode_two]
      simp only [base64Groups, (base64Group_chunkOf a b 0).2.1 rfl]
      rfl
  | case3 a =>
      rw [base64Encode_one]
      simp only [base64Groups, (base64Group_chunkOf a 0 0).2.2 rfl rfl]
      rfl
  | case4 => rfl

theorem base64Encode_length (payload : Bytes) : (base64Encode payload).length % 4 = 0 := by
  induction payload using base64Encode.induct with
  | case1 a b c rest ih =>
      rw [base64Encode_three, List.length_append]
      simp only [List.length_cons, List.length_nil]
      omega
  | case2 a b => simp [base64Encode_two]
  | case3 a => simp [base64Encode_one]
  | case4 => rfl

theorem base64Decode_encode (payload : Bytes) :
    base64Decode (base64Encode payload) = .ok (some payload) := by
  rw [base64Decode, if_neg (by simp [base64Encode_length]), base64Groups_encode]

/-- The text needs no escape. -/
theorem jsonEscape_base64Encode (payload : Bytes) :
    jsonEscape (base64Encode payload) = base64Encode payload := by
  have letter : ∀ (n : UInt32) (s : Bytes),
      jsonEscape (base64Letter n :: s) = base64Letter n :: jsonEscape s := by
    intro n s
    obtain ⟨-, notQuote, notSlash, notNewline⟩ := base64Letter_plain n
    rw [jsonEscape_cons, if_neg (not_or.mpr ⟨notSlash, notQuote⟩), if_neg notNewline]
    rfl
  induction payload using base64Encode.induct with
  | case1 a b c rest ih =>
      simp only [base64Encode_three, List.cons_append, List.nil_append, letter, ih]
  | case2 a b =>
      simp only [base64Encode_two, letter]
      rfl
  | case3 a =>
      simp only [base64Encode_one, letter]
      rfl
  | case4 => rfl

theorem base64Encode_eq_nil {payload : Bytes} : base64Encode payload = [] ↔ payload = [] := by
  constructor
  · intro none
    cases payload with
    | nil => rfl
    | cons a payload =>
        match payload with
        | [] => rw [base64Encode_one] at none; cases none
        | [b] => rw [base64Encode_two] at none; cases none
        | b :: c :: rest => rw [base64Encode_three] at none; cases none
  · rintro rfl
    rfl

end FleetRMW.Rmw
