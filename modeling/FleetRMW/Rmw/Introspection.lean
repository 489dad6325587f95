import FleetRMW.Lib.Cursor

/-! # Typed messages

A message is written member by member, as its introspection description lists them: the number
of members, the octets of each primitive value, strings behind their length and arrays behind
their number of elements. An array's elements are reached through its accessors, or else from
the array's own address.
-/

namespace FleetRMW.Rmw

open Lib

/-! ## Descriptions -/

inductive IntrospectionFamily where
  | c
  | cpp
  deriving Repr, DecidableEq

inductive PrimitiveType where
  | float | double | longDouble | char | wchar | boolean | octet
  | uint8 | int8 | uint16 | int16 | uint32 | int32 | uint64 | int64
  deriving Repr, DecidableEq

def primitiveSize : PrimitiveType → Nat
  | .float => 4
  | .double => 8
  | .longDouble => 16
  | .char => 1
  | .wchar => 2
  | .boolean => 1
  | .octet => 1
  | .uint8 => 1
  | .int8 => 1
  | .uint16 => 2
  | .int16 => 2
  | .uint32 => 4
  | .int32 => 4
  | .uint64 => 8
  | .int64 => 8

/-- The type of a member that is not a message; a bound of zero is none. -/
inductive LeafType where
  | primitive (type : PrimitiveType)
  | string (upperBound : Nat)
  | wstring (upperBound : Nat)
  deriving Repr, DecidableEq

/-- `primitive_size(type_id_)` -/
def LeafType.primitiveSize : LeafType → Nat
  | .primitive type => Rmw.primitiveSize type
  | _ => 0

/-- What a description says of an array: its size or bound, and which of the type support's
    functions there are. `getFunction` stands for `get_function` and `get_const_function`. -/
structure ArrayLayout where
  arraySize : Nat
  isUpperBound : Bool
  resizeFunction : Bool
  sizeFunction : Bool
  getFunction : Bool
  fetchFunction : Bool
  assignFunction : Bool
  /-- Generated for everything that has no fixed size. -/
  sized : resizeFunction = true → sizeFunction = true
  deriving Repr, DecidableEq

namespace ArrayLayout

/-- The numbers of elements an array may have. -/
def Holds (l : ArrayLayout) (n : Nat) : Prop :=
  (l.isUpperBound = true → n ≤ l.arraySize) ∧ (l.resizeFunction = false → n = l.arraySize) ∧
    n < 2 ^ 64

instance (l : ArrayLayout) (n : Nat) : Decidable (l.Holds n) :=
  inferInstanceAs (Decidable (_ ∧ _ ∧ _))

def elementCount (l : ArrayLayout) (n : Nat) : Nat := if l.sizeFunction then n else l.arraySize

end ArrayLayout

/-- Where `array_member_ptr` points: to the element, to octets of the array object itself, or
    nowhere. -/
inductive ElementPtr where
  | element
  | outside
  | null
  deriving Repr, DecidableEq

/-- The elements of a sequence are not in the sequence object. -/
def ArrayLayout.arrayMemberPtr (l : ArrayLayout) (elementSize : Nat) : ElementPtr :=
  if l.getFunction then .element
  else if elementSize = 0 then .null
  else if l.resizeFunction then .outside
  else .element

structure LeafMember where
  name : Bytes
  type : LeafType
  array : Option ArrayLayout
  named : name ≠ []
  /-- Only the elements of a primitive type may be without accessors. -/
  reached : ∀ l, array = some l → l.getFunction = true ∨ ∃ t, type = .primitive t

structure NestedMember where
  name : Bytes
  array : Option ArrayLayout
  sizeOf : Nat
  named : name ≠ []
  reached : ∀ l, array = some l → l.getFunction = true

/-- The members of a message, those of its nested messages included. -/
inductive MessageMembers where
  | nil
  | leaf (member : LeafMember) (rest : MessageMembers)
  | nested (member : NestedMember) (members rest : MessageMembers)

def MessageMembers.memberCount : MessageMembers → Nat
  | nil => 0
  | leaf _ rest => rest.memberCount + 1
  | nested _ _ rest => rest.memberCount + 1

/-! ## Values -/

/-- A primitive value is what it is in memory. -/
def LeafType.Value : LeafType → Type
  | .primitive type => { octets : Bytes // octets.length = Rmw.primitiveSize type }
  | .string upperBound => { chars : Bytes // 0 < upperBound → chars.length ≤ upperBound }
  | .wstring upperBound => { units : List UInt16 // 0 < upperBound → units.length ≤ upperBound }

def FieldValue (array : Option ArrayLayout) (α : Type) : Type :=
  match array with
  | none => α
  | some l => { elements : List α // l.Holds elements.length }

def MessageMembers.Value : MessageMembers → Type
  | nil => Unit
  | leaf member rest => FieldValue member.array member.type.Value × rest.Value
  | nested member members rest => FieldValue member.array members.Value × rest.Value

/-- The introspection family, whether memory can be had for a string or an array of some length,
    and what lies at the address of an array object with these elements. -/
structure IntrospectionRuntime where
  family : IntrospectionFamily
  assigns : Nat → Bool
  resizes : Nat → Bool
  arrayObject : List Bytes → Nat → UInt8

/-- There is memory for anything up to that length. -/
def IntrospectionRuntime.Allocates (rt : IntrospectionRuntime) (n : Nat) : Prop :=
  ∀ m ≤ n, rt.assigns m = true ∧ rt.resizes m = true

/-- A payload that can be held in memory. -/
def IntrospectionRuntime.Holds (rt : IntrospectionRuntime) (payload : Bytes) : Prop :=
  payload.length < 2 ^ 63 ∧ rt.Allocates payload.length

/-! ## Serialization -/

def utf16Octets (units : List UInt16) : Bytes := units.flatMap fun unit => leBytes 2 unit.toNat

def utf16Units : Bytes → List UInt16
  | low :: high :: octets => UInt16.ofNat (leValue [low, high]) :: utf16Units octets
  | _ => []

def LeafType.serializeMember : (t : LeafType) → t.Value → Bytes
  | .primitive _, v => v.val
  | .string _, v => leBytes 8 v.val.length ++ v.val
  | .wstring _, v => leBytes 8 v.val.length ++ utf16Octets v.val

/-- One element: of what its pointer points to, or, of a primitive type in C++, of what
    `fetch_function` gives. -/
def serializeElement {α : Type} (family : IntrospectionFamily) (l : ArrayLayout)
    (elementSize primitiveSize : Nat) (serialize : α → Option Bytes)
    (outside : Nat → Option Bytes) (i : Nat) (a : α) : Option Bytes :=
  match l.arrayMemberPtr elementSize with
  | .element => serialize a
  | .outside => outside (elementSize * i)
  | .null =>
      match family with
      | .c => none
      | .cpp => if l.fetchFunction = true ∧ primitiveSize ≤ 32 then serialize a else none

def serializeElements {α : Type} (serialize : Nat → α → Option Bytes) : Nat → List α → Option Bytes
  | _, [] => some []
  | i, a :: as => do
      let first ← serialize i a
      let rest ← serializeElements serialize (i + 1) as
      return first ++ rest

def serializeField {α : Type} (array : Option ArrayLayout) (serialize : α → Option Bytes)
    (element : ArrayLayout → List α → Nat → α → Option Bytes) :
    FieldValue array α → Option Bytes :=
  match array with
  | none => serialize
  | some l => fun v => do
      let elements ← serializeElements (element l v.val) 0 v.val
      return leBytes 8 (l.elementCount v.val.length) ++ elements

/-- The octets of the array object in an element's place. -/
def outsideElement (rt : IntrospectionRuntime) (t : LeafType) (elements : List t.Value)
    (start : Nat) : Option Bytes :=
  match t with
  | .primitive type =>
      some ((List.range (primitiveSize type)).map fun i =>
        rt.arrayObject (elements.map Subtype.val) (start + i))
  | _ => none

namespace MessageMembers

def serializeFields (rt : IntrospectionRuntime) : (ms : MessageMembers) → ms.Value → Option Bytes
  | nil, _ => some []
  | leaf m rest, (v, vs) => do
      let field ← serializeField m.array (fun v => some (m.type.serializeMember v))
        (fun l es => serializeElement rt.family l m.type.primitiveSize m.type.primitiveSize
          (fun v => some (m.type.serializeMember v)) (outsideElement rt m.type es)) v
      let fields ← rest.serializeFields rt vs
      return field ++ fields
  | nested m members rest, (v, vs) => do
      let message : members.Value → Option Bytes := fun v => do
        let fields ← members.serializeFields rt v
        return leBytes 8 members.memberCount ++ fields
      let field ← serializeField m.array message
        (fun l _ => serializeElement rt.family l m.sizeOf 0 message fun _ => none) v
      let fields ← rest.serializeFields rt vs
      return field ++ fields

/-- `serialize_introspection_c_message`, `serialize_introspection_cpp_message` -/
def serializeMessage (rt : IntrospectionRuntime) (ms : MessageMembers) (v : ms.Value) :
    Option Bytes := do
  let fields ← ms.serializeFields rt v
  return leBytes 8 ms.memberCount ++ fields

end MessageMembers

/-! ## Deserialization -/

def readBytes (size : Nat) : Cursor Bytes := do
  Cursor.requireEnd size
  Cursor.take size

def readU64 : Cursor Nat := do
  let octets ← readBytes 8
  pure (leValue octets)

/-- What was taken is as long as was asked for where it lies in the payload. -/
def LeafType.deserializeMember (rt : IntrospectionRuntime) : (t : LeafType) → Cursor t.Value
  | .primitive type => do
      let octets ← readBytes (Rmw.primitiveSize type)
      if h : octets.length = Rmw.primitiveSize type then pure ⟨octets, h⟩ else Cursor.fail
  | .string upperBound => do
      let size ← readU64
      Cursor.requireEnd size
      Cursor.require (0 < upperBound → size ≤ upperBound)
      let chars ← Cursor.take size
      Cursor.require (rt.assigns size = true)
      if h : 0 < upperBound → chars.length ≤ upperBound then pure ⟨chars, h⟩ else Cursor.fail
  | .wstring upperBound => do
      let codeUnits ← readU64
      Cursor.require (codeUnits * 2 < 2 ^ 64)
      Cursor.requireEnd (codeUnits * 2)
      Cursor.require (0 < upperBound → codeUnits ≤ upperBound)
      let octets ← Cursor.take (codeUnits * 2)
      Cursor.require (rt.assigns codeUnits = true)
      if h : 0 < upperBound → (utf16Units octets).length ≤ upperBound
      then pure ⟨utf16Units octets, h⟩ else Cursor.fail

/-- One element. What is written to the array object itself leaves no array there. -/
def deserializeElement {α : Type} (family : IntrospectionFamily) (l : ArrayLayout)
    (elementSize primitiveSize : Nat) (r : Cursor (Option α)) : Cursor (Option α) :=
  match l.arrayMemberPtr elementSize with
  | .element => r
  | .outside => do
      let _ ← r
      pure none
  | .null =>
      match family with
      | .c => Cursor.fail
      | .cpp =>
          if l.assignFunction = false ∨ primitiveSize = 0 ∨ primitiveSize > 32 then Cursor.fail
          else r

/-- All elements, if each is one. -/
def allElements {α : Type} : List (Option α) → Option (List α)
  | [] => some []
  | e :: es => do
      let a ← e
      let as ← allElements es
      return a :: as

def deserializeField {α : Type} (rt : IntrospectionRuntime) (array : Option ArrayLayout)
    (r : Cursor (Option α)) (element : ArrayLayout → Cursor (Option α)) :
    Cursor (Option (FieldValue array α)) :=
  match array with
  | none => r
  | some l => do
      let count ← readU64
      Cursor.require (l.isUpperBound = true → count ≤ l.arraySize)
      Cursor.require (if l.resizeFunction then rt.resizes count = true else count = l.arraySize)
      let elements ← Cursor.times (fun _ => element l) 0 count
      pure ((allElements elements).bind fun es => if h : l.Holds es.length then some ⟨es, h⟩ else none)

/-- A message is one where all its fields are. -/
def bothFields {α β : Type} : Option α → Option β → Option (α × β)
  | some a, some b => some (a, b)
  | _, _ => none

namespace MessageMembers

/-- What the fields hold afterwards; none where an array was destroyed. -/
def deserializeFields (rt : IntrospectionRuntime) : (ms : MessageMembers) → Cursor (Option ms.Value)
  | nil => pure (some ())
  | leaf m rest => do
      let member : Cursor (Option m.type.Value) := do
        let v ← m.type.deserializeMember rt
        pure (some v)
      let field ← deserializeField rt m.array member fun l =>
        deserializeElement rt.family l m.type.primitiveSize m.type.primitiveSize member
      let fields ← rest.deserializeFields rt
      pure (bothFields field fields)
  | nested m members rest => do
      let message : Cursor (Option members.Value) := do
        let memberCount ← readU64
        Cursor.require (memberCount = members.memberCount)
        members.deserializeFields rt
      let field ← deserializeField rt m.array message fun l =>
        deserializeElement rt.family l m.sizeOf 0 message
      let fields ← rest.deserializeFields rt
      pure (bothFields field fields)

/-- `deserialize_introspection_c_message`, `deserialize_introspection_cpp_message` -/
def deserializeMessage (rt : IntrospectionRuntime) (ms : MessageMembers) :
    Cursor (Option ms.Value) := do
  let memberCount ← readU64
  Cursor.require (memberCount = ms.memberCount)
  ms.deserializeFields rt

end MessageMembers

end FleetRMW.Rmw
