import FleetRMW.Rmw.Introspection

/-! # The round trip of typed messages

What was serialized is read back, whatever follows it, if every array with elements gives
access to them. The elements of a sequence without accessors are lost: its object's own octets
are written in their place, and overwritten by what is read.
-/

namespace FleetRMW.Rmw

open Lib Cursor

variable {rt : IntrospectionRuntime} {α : Type}

/-! ## Leaves -/

theorem length_utf16Octets (units : List UInt16) :
    (utf16Octets units).length = units.length * 2 := by
  induction units with
  | nil => rfl
  | cons unit units ih =>
      have step : utf16Octets (unit :: units) = leBytes 2 unit.toNat ++ utf16Octets units := rfl
      rw [step, List.length_append, ih, length_leBytes, List.length_cons]
      omega

theorem utf16Units_utf16Octets (units : List UInt16) :
    utf16Units (utf16Octets units) = units := by
  induction units with
  | nil => rfl
  | cons unit units ih =>
      have two : leBytes 2 unit.toNat =
          [UInt8.ofNat (unit.toNat % 256), UInt8.ofNat (unit.toNat / 256 % 256)] := rfl
      have step : utf16Octets (unit :: units) = leBytes 2 unit.toNat ++ utf16Octets units := rfl
      have whole : leValue (leBytes 2 unit.toNat) = unit.toNat :=
        leValue_leBytes unit.toNat_lt
      rw [two] at whole
      rw [step, two, List.cons_append, List.cons_append, List.nil_append, utf16Units, ih, whole,
        UInt16.ofNat_toNat]

section
variable {ok : Bytes → Prop} (small : ∀ payload, ok payload → payload.length < 2 ^ 63)
include small

theorem reads_readBytes (bytes : Bytes) : Reads ok (readBytes bytes.length) bytes bytes :=
  (Reads.take small).requireEnd small

theorem reads_readU64 {n : Nat} (fits : n < 2 ^ 64) : Reads ok readU64 (leBytes 8 n) n := by
  have value : leValue (leBytes 8 n) = n := leValue_leBytes (by omega)
  have octets := reads_readBytes small (leBytes 8 n)
  rw [length_leBytes] at octets
  apply octets.bind_nil
  rw [value]
  exact Reads.pure n

end

theorem small_of_holds : ∀ payload, rt.Holds payload → payload.length < 2 ^ 63 := fun _ h => h.1

/-- Leaves are read back. -/
theorem LeafType.reads (t : LeafType) (v : t.Value) :
    Reads rt.Holds (t.deserializeMember rt) (t.serializeMember v) v := by
  apply Reads.of_room
  have small : ∀ payload, rt.Holds payload ∧ (t.serializeMember v).length ≤ payload.length →
      payload.length < 2 ^ 63 := fun _ h => h.1.1
  apply Reads.of_fits small
  intro fits
  cases t with
  | primitive type =>
      obtain ⟨octets, sized⟩ := v
      have read := reads_readBytes small octets
      rw [sized] at read
      apply read.bind_nil
      rw [dif_pos sized]
      exact Reads.pure _
  | string upperBound =>
      obtain ⟨chars, bounded⟩ := v
      simp only [serializeMember, List.length_append, length_leBytes] at fits small ⊢
      apply (reads_readU64 small (by omega)).bind
      apply Reads.requireEnd small
      apply (Reads.require_of fun _ _ => bounded).nil_bind
      apply (Reads.take small).bind_nil
      apply (Reads.require_of fun _ h => (h.1.2 _ (by omega)).1).nil_bind
      rw [dif_pos bounded]
      exact Reads.pure _
  | wstring upperBound =>
      obtain ⟨units, bounded⟩ := v
      simp only [serializeMember, List.length_append, length_leBytes] at fits small ⊢
      have units_ := utf16Units_utf16Octets units
      have octets : (utf16Octets units).length = units.length * 2 := length_utf16Octets units
      apply (reads_readU64 small (by omega)).bind
      apply (Reads.require_of fun _ _ => (by omega : units.length * 2 < 2 ^ 64)).nil_bind
      rw [← octets]
      apply Reads.requireEnd small
      apply (Reads.require_of fun _ _ => bounded).nil_bind
      apply (Reads.take small).bind_nil
      apply (Reads.require_of fun _ h => (h.1.2 _ (by omega)).1).nil_bind
      simp only [units_]
      rw [dif_pos bounded]
      exact Reads.pure _

/-! ## Fields -/

/-- Everything that is written takes at least one octet. -/
theorem LeafType.serializeMember_pos (t : LeafType) (v : t.Value) :
    0 < (t.serializeMember v).length := by
  cases t with
  | primitive type =>
      obtain ⟨octets, sized⟩ := v
      change 0 < octets.length
      rw [sized]
      cases type <;> decide
  | string =>
      simp only [serializeMember, List.length_append, length_leBytes]
      omega
  | wstring =>
      simp only [serializeMember, List.length_append, length_leBytes]
      omega

theorem ArrayLayout.elementCount_eq {l : ArrayLayout} {n : Nat} (holds : l.Holds n) :
    l.elementCount n = n := by
  unfold elementCount
  split
  case isTrue => rfl
  case isFalse unsized =>
    refine (holds.2.1 ?_).symm
    by_contra resizes
    exact unsized (l.sized (Bool.not_eq_false _ ▸ resizes))

/-- The elements are those that the pointers point to. -/
def ArrayLayout.Reaches (l : ArrayLayout) (elementSize : Nat) : Prop :=
  l.arrayMemberPtr elementSize = .element

instance (l : ArrayLayout) (elementSize : Nat) : Decidable (l.Reaches elementSize) :=
  inferInstanceAs (Decidable (_ = _))

theorem serializeElements_eq {serialize : Nat → α → Option Bytes} {encode : α → Bytes}
    {as : List α} (each : ∀ i, ∀ a ∈ as, serialize i a = some (encode a)) (i : Nat) :
    serializeElements serialize i as = some (as.flatMap encode) := by
  induction as generalizing i with
  | nil => rfl
  | cons a as ih =>
      rw [serializeElements, each i a List.mem_cons_self,
        ih (fun i b among => each i b (List.mem_cons_of_mem a among)) (i + 1)]
      rfl

theorem length_le_flatMap {encode : α → Bytes} {as : List α}
    (positive : ∀ a ∈ as, 0 < (encode a).length) : as.length ≤ (as.flatMap encode).length := by
  induction as with
  | nil => exact Nat.zero_le _
  | cons a as ih =>
      have here := positive a List.mem_cons_self
      have rest := ih fun b among => positive b (List.mem_cons_of_mem a among)
      rw [List.flatMap_cons, List.length_append, List.length_cons]
      omega

theorem allElements_map_some (as : List α) : allElements (as.map some) = some as := by
  induction as with
  | nil => rfl
  | cons a as ih =>
      rw [List.map_cons, allElements, ih]
      rfl

/-- What an element of a field is written as is read back. -/
structure ReadsBack (rt : IntrospectionRuntime) (serialize : α → Option Bytes)
    (r : Cursor (Option α)) (encode : α → Bytes) (a : α) : Prop where
  written : serialize a = some (encode a)
  reads : Reads rt.Holds r (encode a) (some a)
  positive : 0 < (encode a).length

/-- The values of a field: the one, or the elements. -/
def FieldValue.values : {array : Option ArrayLayout} → FieldValue array α → List α
  | none, v => [v]
  | some _, v => v.val

/-- All elements of an array can be reached, if it has any. -/
def FieldValue.Reached (elementSize : Nat) :
    {array : Option ArrayLayout} → FieldValue array α → Prop
  | none, _ => True
  | some l, v => v.val = [] ∨ l.Reaches elementSize

instance (elementSize : Nat) : {array : Option ArrayLayout} → (v : FieldValue array α) →
    Decidable (v.Reached elementSize)
  | none, _ => inferInstanceAs (Decidable True)
  | some l, v => decidable_of_iff (v.val.length = 0 ∨ l.Reaches elementSize)
      (by rw [List.length_eq_zero_iff]; rfl)

/-- The encoding of a field from those of its values. -/
def FieldValue.encoding (encode : α → Bytes) :
    {array : Option ArrayLayout} → FieldValue array α → Bytes
  | none, v => encode v
  | some _, v => leBytes 8 v.val.length ++ v.val.flatMap encode

theorem FieldValue.readsBack {serialize : α → Option Bytes} {r : Cursor (Option α)}
    {encode : α → Bytes} {elementSize primitiveSize : Nat} {outside : List α → Nat → Option Bytes}
    {array : Option ArrayLayout} (v : FieldValue array α)
    (each : ∀ a ∈ v.values, ReadsBack rt serialize r encode a) (reached : v.Reached elementSize) :
    ReadsBack rt
      (serializeField array serialize fun l es =>
        serializeElement rt.family l elementSize primitiveSize serialize (outside es))
      (deserializeField rt array r fun l =>
        deserializeElement rt.family l elementSize primitiveSize r)
      (encoding encode) v := by
  cases array with
  | none => exact each v (List.mem_singleton.mpr rfl)
  | some l =>
      obtain ⟨es, holds⟩ := v
      have count := ArrayLayout.elementCount_eq holds
      have write : ∀ i, ∀ a ∈ es, serializeElement rt.family l elementSize primitiveSize serialize
          (outside es) i a = some (encode a) := by
        intro i a among
        have reaches : l.arrayMemberPtr elementSize = .element :=
          reached.resolve_left (List.ne_nil_of_mem among)
        simp only [serializeElement, reaches]
        exact (each a among).written
      have read : ∀ a ∈ es, Reads rt.Holds
          (deserializeElement rt.family l elementSize primitiveSize r) (encode a) (some a) := by
        intro a among
        have reaches : l.arrayMemberPtr elementSize = .element :=
          reached.resolve_left (List.ne_nil_of_mem among)
        simp only [deserializeElement, reaches]
        exact (each a among).reads
      constructor
      · simp only [serializeField, serializeElements_eq write, count]
        rfl
      · have room : es.length ≤ (es.flatMap encode).length :=
          length_le_flatMap fun a among => (each a among).positive
        apply (reads_readU64 small_of_holds holds.2.2).bind
        apply (Reads.require_of fun _ _ => holds.1).nil_bind
        apply Reads.of_room
        refine (Reads.require_of fun payload h => ?_).nil_bind ?_
        · cases resizes : l.resizeFunction with
          | true => exact (h.1.2 _ (room.trans h.2)).2
          | false => exact holds.2.1 resizes
        · have elements := Reads.times (fun _ a among => read a among) 0
          apply (elements.mono fun _ h => h.1).bind_nil
          rw [allElements_map_some, Option.bind_some, dif_pos holds]
          exact Reads.pure _
      · simp only [encoding, List.length_append, length_leBytes]
        omega

/-! ## Messages -/

namespace MessageMembers

/-- Every array with elements in a message gives access to them. -/
def Reached : (ms : MessageMembers) → ms.Value → Prop
  | nil, _ => True
  | leaf m rest, (v, vs) => v.Reached m.type.primitiveSize ∧ rest.Reached vs
  | nested m members rest, (v, vs) =>
      (v.Reached m.sizeOf ∧ ∀ a ∈ v.values, members.Reached a) ∧ rest.Reached vs

def encodeFields : (ms : MessageMembers) → ms.Value → Bytes
  | nil, _ => []
  | leaf m rest, (v, vs) => v.encoding m.type.serializeMember ++ rest.encodeFields vs
  | nested _ members rest, (v, vs) =>
      v.encoding (fun a => leBytes 8 members.memberCount ++ members.encodeFields a) ++
        rest.encodeFields vs

variable {ms : MessageMembers}

/-- A message's number of members, and its fields. -/
theorem readsBack_message {v : ms.Value}
    (written : ms.serializeFields rt v = some (ms.encodeFields v))
    (reads : Reads rt.Holds (ms.deserializeFields rt) (ms.encodeFields v) (some v))
    (count : ms.memberCount ≤ (ms.encodeFields v).length) :
    ReadsBack rt (serializeMessage rt ms) (deserializeMessage rt ms)
      (fun v => leBytes 8 ms.memberCount ++ ms.encodeFields v) v where
  written := by
    rw [serializeMessage, written]
    rfl
  reads := by
    apply Reads.of_fits small_of_holds
    intro fits
    rw [List.length_append, length_leBytes] at fits
    apply (reads_readU64 small_of_holds (by omega)).bind
    exact (Reads.require_of fun _ _ => rfl).nil_bind reads
  positive := by
    rw [List.length_append, length_leBytes]
    omega

/-- The fields of a message are read back: over the members, a nested message's own first. -/
theorem readsBack_fields : (ms : MessageMembers) → (v : ms.Value) → ms.Reached v →
    ms.serializeFields rt v = some (ms.encodeFields v) ∧
      Reads rt.Holds (ms.deserializeFields rt) (ms.encodeFields v) (some v) ∧
      ms.memberCount ≤ (ms.encodeFields v).length
  | nil, _, _ => ⟨rfl, Reads.pure _, Nat.le_refl _⟩
  | leaf m rest, (v, vs), reached => by
      obtain ⟨written, reads, count⟩ := readsBack_fields rest vs reached.2
      have member : ∀ a : m.type.Value, ReadsBack rt (fun a => some (m.type.serializeMember a))
          (do
            let a ← m.type.deserializeMember rt
            pure (some a)) m.type.serializeMember a := fun a =>
        ⟨rfl, (m.type.reads a).bind_nil (Reads.pure _), m.type.serializeMember_pos a⟩
      have field : ReadsBack rt
          (serializeField m.array _ fun l es =>
            serializeElement rt.family l m.type.primitiveSize m.type.primitiveSize _
              (outsideElement rt m.type es)) _ _ v :=
        FieldValue.readsBack v (fun a _ => member a) reached.1
      refine ⟨?_, ?_, ?_⟩
      · simp only [serializeFields, field.written, written]
        rfl
      · exact field.reads.bind (reads.bind_nil (Reads.pure _))
      · have positive := field.positive
        simp only [memberCount, encodeFields, List.length_append]
        omega
  | nested m members rest, (v, vs), reached => by
      obtain ⟨written, reads, count⟩ := readsBack_fields rest vs reached.2
      have message : ∀ a ∈ v.values, ReadsBack rt (serializeMessage rt members)
          (deserializeMessage rt members)
          (fun a => leBytes 8 members.memberCount ++ members.encodeFields a) a := by
        intro a among
        obtain ⟨written, reads, count⟩ := readsBack_fields members a (reached.1.2 a among)
        exact readsBack_message written reads count
      have field : ReadsBack rt
          (serializeField m.array (serializeMessage rt members) fun l _ =>
            serializeElement rt.family l m.sizeOf 0 (serializeMessage rt members) fun _ => none)
          _ _ v :=
        FieldValue.readsBack v message reached.1.1
      have step : (nested m members rest).serializeFields rt (v, vs) = (do
          let field ← serializeField m.array (serializeMessage rt members) (fun l _ =>
            serializeElement rt.family l m.sizeOf 0 (serializeMessage rt members) fun _ => none) v
          let fields ← rest.serializeFields rt vs
          return field ++ fields) := rfl
      refine ⟨?_, ?_, ?_⟩
      · rw [step, field.written, written]
        rfl
      · exact field.reads.bind (reads.bind_nil (Reads.pure _))
      · have positive := field.positive
        simp only [memberCount, encodeFields, List.length_append]
        omega

end MessageMembers

/-! ## What was read has been reached -/

theorem mem_of_allElements {es : List (Option α)} {as : List α} (h : allElements es = some as) :
    es = as.map some := by
  induction es generalizing as with
  | nil =>
      obtain rfl := Option.some.inj h
      rfl
  | cons e es ih =>
      obtain ⟨a, here, h⟩ := Option.bind_eq_some_iff.mp h
      obtain ⟨rest, later, h⟩ := Option.bind_eq_some_iff.mp h
      obtain rfl := Option.some.inj h
      rw [here, ih later]
      rfl

section
variable {payload : Bytes} {offset offset' : Nat}

/-- An element comes from the element reader, through its pointer. -/
theorem element_of_deserialized {family : IntrospectionFamily} {l : ArrayLayout}
    {elementSize primitiveSize : Nat} (sizes : elementSize = 0 → primitiveSize = 0)
    {r : Cursor (Option α)} {a : α}
    (h : (deserializeElement family l elementSize primitiveSize r payload offset).2 =
      some (some a, offset')) :
    l.Reaches elementSize ∧ (r payload offset).2 = some (some a, offset') := by
  cases pointer : l.arrayMemberPtr elementSize with
  | element =>
      simp only [deserializeElement, pointer] at h
      exact ⟨pointer, h⟩
  | outside =>
      simp only [deserializeElement, pointer] at h
      obtain ⟨_, mid, -, h⟩ := bind_eq_some h
      obtain ⟨lost, -⟩ := pure_eq_some h
      cases lost
  | null =>
      simp only [deserializeElement, pointer] at h
      cases family with
      | c => cases h
      | cpp =>
          have zero : elementSize = 0 := by
            unfold ArrayLayout.arrayMemberPtr at pointer
            grind
          rw [if_pos (.inr (.inl (sizes zero)))] at h
          cases h

theorem FieldValue.of_deserialized {array : Option ArrayLayout} {r : Cursor (Option α)}
    {elementSize primitiveSize : Nat} (sizes : elementSize = 0 → primitiveSize = 0)
    {v : FieldValue array α}
    (h : (deserializeField rt array r (fun l =>
      deserializeElement rt.family l elementSize primitiveSize r) payload offset).2 =
        some (some v, offset')) :
    v.Reached elementSize ∧
      ∀ a ∈ v.values, ∃ start end_, (r payload start).2 = some (some a, end_) := by
  cases array with
  | none =>
      refine ⟨True.intro, fun a among => ?_⟩
      rw [List.mem_singleton.mp among]
      exact ⟨offset, offset', h⟩
  | some l =>
      obtain ⟨count, _, -, h⟩ := bind_eq_some h
      obtain ⟨_, _, -, h⟩ := bind_eq_some h
      obtain ⟨_, _, -, h⟩ := bind_eq_some h
      obtain ⟨elements, _, read, h⟩ := bind_eq_some h
      obtain ⟨kept, -⟩ := pure_eq_some h
      obtain ⟨es, all, kept⟩ := Option.bind_eq_some_iff.mp kept
      split at kept
      case isFalse => cases kept
      case isTrue holds =>
        obtain rfl := Option.some.inj kept
        obtain rfl := mem_of_allElements all
        have each : ∀ a ∈ es, l.Reaches elementSize ∧
            ∃ start end_, (r payload start).2 = some (some a, end_) := by
          intro a among
          obtain ⟨_, start, end_, one⟩ := read_of_mem_times read (List.mem_map_of_mem among)
          obtain ⟨reaches, one⟩ := element_of_deserialized sizes one
          exact ⟨reaches, start, end_, one⟩
        refine ⟨?_, fun a among => (each a among).2⟩
        cases es with
        | nil => exact .inl rfl
        | cons a es => exact .inr (each a List.mem_cons_self).1

namespace MessageMembers

theorem bothFields_eq_some {β : Type} {a : Option α} {b : Option β} {v : α × β}
    (h : bothFields a b = some v) : a = some v.1 ∧ b = some v.2 := by
  cases a with
  | none => cases h
  | some a =>
      cases b with
      | none => cases h
      | some b =>
          obtain rfl := Option.some.inj h
          exact ⟨rfl, rfl⟩

/-- What is read of a message has been reached: over the members, as above. -/
theorem reached_of_deserialized : (ms : MessageMembers) → {v : ms.Value} →
    {offset offset' : Nat} → (ms.deserializeFields rt payload offset).2 = some (some v, offset') →
    ms.Reached v
  | nil, _, _, _, _ => True.intro
  | leaf m rest, (v, vs), _, _, h => by
      obtain ⟨field, _, first, h⟩ := bind_eq_some h
      obtain ⟨fields, _, later, h⟩ := bind_eq_some h
      obtain ⟨both, -⟩ := pure_eq_some h
      obtain ⟨rfl, rfl⟩ := bothFields_eq_some both
      exact ⟨(FieldValue.of_deserialized id first).1, reached_of_deserialized rest later⟩
  | nested m members rest, (v, vs), _, _, h => by
      obtain ⟨field, _, first, h⟩ := bind_eq_some h
      obtain ⟨fields, _, later, h⟩ := bind_eq_some h
      obtain ⟨both, -⟩ := pure_eq_some h
      obtain ⟨rfl, rfl⟩ := bothFields_eq_some both
      obtain ⟨reached, each⟩ := FieldValue.of_deserialized (fun _ => rfl) first
      refine ⟨⟨reached, fun a among => ?_⟩, reached_of_deserialized rest later⟩
      obtain ⟨_, _, one⟩ := each a among
      obtain ⟨_, _, -, one⟩ := bind_eq_some one
      obtain ⟨_, _, -, one⟩ := bind_eq_some one
      exact reached_of_deserialized members one

end MessageMembers

namespace MessageMembers

/-- A message that fits into memory is read back from what it was serialized to, wherever that
    stands and whatever follows, exactly if each of its arrays with elements gives access to
    them. -/
theorem deserializeMessage_serializeMessage_iff (rt : IntrospectionRuntime) (ms : MessageMembers)
    (v : ms.Value) (fits : ∀ bytes, ms.serializeMessage rt v = some bytes → rt.Holds bytes) :
    (∃ bytes, ms.serializeMessage rt v = some bytes ∧
      ∀ front rest, rt.Holds (front ++ bytes ++ rest) →
        (ms.deserializeMessage rt (front ++ bytes ++ rest) front.length).2 =
          some (some v, front.length + bytes.length)) ↔ ms.Reached v := by
  constructor
  · rintro ⟨bytes, written, reads⟩
    have read := reads [] [] (by simpa using fits bytes written)
    obtain ⟨_, _, -, read⟩ := bind_eq_some read
    obtain ⟨_, _, -, read⟩ := bind_eq_some read
    exact reached_of_deserialized ms read
  · intro reached
    obtain ⟨written, reads, count⟩ := readsBack_fields ms v reached
    have back := readsBack_message written reads count
    exact ⟨_, back.written, back.reads⟩

/-! ### A sequence of one flag -/

/-- `bool[]`, whose elements have no address in C++. -/
def flags (addressed : Bool) : MessageMembers :=
  leaf
    { name := octets "flags"
      type := .primitive .boolean
      array := some
        { arraySize := 0
          isUpperBound := false
          resizeFunction := true
          sizeFunction := true
          getFunction := addressed
          fetchFunction := true
          assignFunction := true
          sized := fun _ => rfl }
      named := nofun
      reached := fun _ _ => .inr ⟨_, rfl⟩ }
    nil

/-- Memory for everything, and zeros in it. -/
def zeros (family : IntrospectionFamily) : IntrospectionRuntime where
  family
  assigns _ := true
  resizes _ := true
  arrayObject _ _ := 0

theorem one_is_a_size : 1 < 2 ^ 64 := by decide

/-- The message with one flag, which is set. -/
def oneFlag (addressed : Bool) : (flags addressed).Value :=
  (⟨[⟨[1], rfl⟩], nofun, nofun, one_is_a_size⟩, ())

/-- What is written is an octet of the vector object. -/
theorem flag_of_vector_lost :
    ∃ bytes, (flags false).serializeMessage (zeros .cpp) (oneFlag false) = some bytes ∧
      ((flags false).deserializeMessage (zeros .cpp) bytes 0).2 ≠
        some (some (oneFlag false), bytes.length) := by
  refine ⟨_, rfl, fun read => ?_⟩
  have lost : ((flags false).deserializeMessage (zeros .cpp)
      ([1, 0, 0, 0, 0, 0, 0, 0] ++ [1, 0, 0, 0, 0, 0, 0, 0, 0]) 0).2 = some (none, 17) := rfl
  cases lost.symm.trans read

theorem deserializeMessage_serializeMessage_iff_oneFlag :
    ∃ bytes, (flags true).serializeMessage (zeros .c) (oneFlag true) = some bytes ∧
      ∀ front rest, (zeros .c).Holds (front ++ bytes ++ rest) →
        ((flags true).deserializeMessage (zeros .c) (front ++ bytes ++ rest) front.length).2 =
          some (some (oneFlag true), front.length + bytes.length) := by
  refine (deserializeMessage_serializeMessage_iff (zeros .c) (flags true) (oneFlag true) ?_).mpr
    ⟨.inr rfl, True.intro⟩
  intro bytes written
  obtain rfl := Option.some.inj written
  exact ⟨by decide, fun _ _ => ⟨rfl, rfl⟩⟩

end MessageMembers

end

end FleetRMW.Rmw
