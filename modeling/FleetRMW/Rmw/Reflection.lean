import FleetRMW.Lib.Decimal
import FleetRMW.Rmw.Introspection

/-! # The fields of a typed message

A content filter reads a typed message a second time, into texts for the paths of its fields.
Its reader checks each length against the octets that are left, where the deserializer checks
the sum of offset and length. Both follow the layout that the description gives, up to a
length whose sum wraps around.
-/

namespace FleetRMW.Rmw

open Lib

/-! ## Reflection -/

/-- The code points of UTF-16, a surrogate without its partner as it is, in UTF-8. -/
def utf8CodePoint (codePoint : Nat) : Bytes :=
  if codePoint ≤ 0x7F then [UInt8.ofNat codePoint]
  else if codePoint ≤ 0x7FF then
    [UInt8.ofNat (0xC0 + codePoint / 64), UInt8.ofNat (0x80 + codePoint % 64)]
  else if codePoint ≤ 0xFFFF then
    [UInt8.ofNat (0xE0 + codePoint / 4096), UInt8.ofNat (0x80 + codePoint / 64 % 64),
      UInt8.ofNat (0x80 + codePoint % 64)]
  else
    [UInt8.ofNat (0xF0 + codePoint / 262144), UInt8.ofNat (0x80 + codePoint / 4096 % 64),
      UInt8.ofNat (0x80 + codePoint / 64 % 64), UInt8.ofNat (0x80 + codePoint % 64)]

def utf16ToUtf8 : List UInt16 → Bytes
  | high :: low :: units =>
      if 0xD800 ≤ high ∧ high ≤ 0xDBFF ∧ 0xDC00 ≤ low ∧ low ≤ 0xDFFF then
        utf8CodePoint (0x10000 + (high.toNat - 0xD800) * 1024 + (low.toNat - 0xDC00)) ++
          utf16ToUtf8 units
      else utf8CodePoint high.toNat ++ utf16ToUtf8 (low :: units)
  | [unit] => utf8CodePoint unit.toNat
  | [] => []

def unsignedText (octets : Bytes) : Bytes := decimal (leValue octets)

/-- Two's complement. -/
def signedText (bytes : Bytes) : Bytes :=
  if leValue bytes < 256 ^ bytes.length / 2 then decimal (leValue bytes)
  else octets "-" ++ decimal (256 ^ bytes.length - leValue bytes)

/-- `floatingText` prints a number of one of the floating-point types. -/
def contentFilterPrimitiveText (floatingText : PrimitiveType → Bytes → Bytes) (type : PrimitiveType)
    (value : Bytes) : Bytes :=
  match type with
  | .float | .double | .longDouble => floatingText type value
  | .boolean => if leValue value = 0 then octets "false" else octets "true"
  | .char | .wchar | .octet | .uint8 | .uint16 | .uint32 | .uint64 => unsignedText value
  | .int8 | .int16 | .int32 | .int64 => signedText value

def nestedContentFilterPath (outer memberName : Bytes) : Bytes :=
  if memberName = [] then []
  else if outer = [] then memberName
  else outer ++ octets "." ++ memberName

/-- The assignments to the map of fields, in order. -/
abbrev ReflectedFields := List (Bytes × Bytes)

def LeafType.reflectMember (floatingText : PrimitiveType → Bytes → Bytes) (path : Bytes) :
    LeafType → Cursor ReflectedFields
  | .primitive type => do
      let value ← readBytes (Rmw.primitiveSize type)
      pure [(path, contentFilterPrimitiveText floatingText type value)]
  | .string upperBound => do
      let size ← readU64
      Cursor.requireLeft size
      Cursor.require (0 < upperBound → size ≤ upperBound)
      let chars ← Cursor.take size
      pure [(path, chars)]
  | .wstring upperBound => do
      let codeUnits ← readU64
      Cursor.require (codeUnits * 2 < 2 ^ 64)
      Cursor.requireLeft (codeUnits * 2)
      Cursor.require (0 < upperBound → codeUnits ≤ upperBound)
      let octets ← Cursor.take (codeUnits * 2)
      pure [(path, utf16ToUtf8 (utf16Units octets))]

/-- A member, or each element of it, at a path that is not empty. -/
def reflectField (array : Option ArrayLayout) (path : Bytes)
    (member : Bytes → Cursor ReflectedFields) : Cursor ReflectedFields := do
  Cursor.require (path ≠ [])
  match array with
  | none => member path
  | some l => do
      let count ← readU64
      Cursor.requireLeft count
      Cursor.require (l.isUpperBound = true → count ≤ l.arraySize)
      Cursor.require (l.resizeFunction = false → count = l.arraySize)
      let elements ← Cursor.times
        (fun i => member (path ++ octets "[" ++ decimal i ++ octets "]")) 0 count
      pure ((path ++ octets "._length", decimal count) :: elements.flatten)

namespace MessageMembers

def reflectFields (floatingText : PrimitiveType → Bytes → Bytes) (outer : Bytes) :
    MessageMembers → Cursor ReflectedFields
  | nil => pure []
  | leaf m rest => do
      let field ← reflectField m.array (nestedContentFilterPath outer m.name) fun path => do
        Cursor.require (path ≠ [])
        m.type.reflectMember floatingText path
      let fields ← rest.reflectFields floatingText outer
      pure (field ++ fields)
  | nested m members rest => do
      let field ← reflectField m.array (nestedContentFilterPath outer m.name) fun path => do
        Cursor.require (path ≠ [])
        let memberCount ← readU64
        Cursor.require (memberCount = members.memberCount)
        members.reflectFields floatingText path
      let fields ← rest.reflectFields floatingText outer
      pure (field ++ fields)

/-- `reflect_introspection_c_message`, `reflect_introspection_cpp_message` -/
def reflectMessage (floatingText : PrimitiveType → Bytes → Bytes) (ms : MessageMembers)
    (outer : Bytes) : Cursor ReflectedFields := do
  let memberCount ← readU64
  Cursor.require (memberCount = ms.memberCount)
  ms.reflectFields floatingText outer

end MessageMembers

/-! ## The layout -/

def layoutU64 : Layout Nat := do
  let octets ← Layout.fixed 8
  pure (leValue octets)

def LeafType.layout : LeafType → Layout Unit
  | .primitive type => do
      let _ ← Layout.fixed (Rmw.primitiveSize type)
      pure ()
  | .string upperBound => do
      let size ← layoutU64
      Layout.require (0 < upperBound → size ≤ upperBound)
      Layout.block size
  | .wstring upperBound => do
      let codeUnits ← layoutU64
      Layout.require (codeUnits * 2 < 2 ^ 64)
      Layout.require (0 < upperBound → codeUnits ≤ upperBound)
      Layout.block (codeUnits * 2)

def layoutField (rt : IntrospectionRuntime) (array : Option ArrayLayout) (member : Layout Unit) :
    Layout Unit :=
  match array with
  | none => member
  | some l => do
      let count ← layoutU64
      Layout.require (l.isUpperBound = true → count ≤ l.arraySize)
      Layout.require (if l.resizeFunction then rt.resizes count = true else count = l.arraySize)
      Layout.times member count

namespace MessageMembers

def layoutFields (rt : IntrospectionRuntime) : MessageMembers → Layout Unit
  | nil => pure ()
  | leaf m rest => do
      layoutField rt m.array m.type.layout
      rest.layoutFields rt
  | nested m members rest => do
      layoutField rt m.array do
        let memberCount ← layoutU64
        Layout.require (memberCount = members.memberCount)
        members.layoutFields rt
      rest.layoutFields rt

/-- How the octets of a message are divided up, where memory can be had for its arrays. -/
def layout (rt : IntrospectionRuntime) (ms : MessageMembers) : Layout Unit := do
  let memberCount ← layoutU64
  Layout.require (memberCount = ms.memberCount)
  ms.layoutFields rt

end MessageMembers

section
open Layout

theorem layoutU64_consumes : Consumes layoutU64 :=
  (Consumes.fixed (by decide)).bind fun _ => Shrinks.pure _

theorem LeafType.layout_consumes (t : LeafType) : Consumes t.layout := by
  cases t with
  | primitive type => exact (Consumes.fixed (by cases type <;> decide)).bind fun _ => Shrinks.pure _
  | string upperBound =>
      exact layoutU64_consumes.bind fun _ => (Shrinks.require _).bind fun _ => Shrinks.block _
  | wstring upperBound =>
      exact layoutU64_consumes.bind fun _ => (Shrinks.require _).bind fun _ =>
        (Shrinks.require _).bind fun _ => Shrinks.block _

theorem layoutField_shrinks {rt : IntrospectionRuntime} {member : Layout Unit}
    (consumes : Consumes member) (array : Option ArrayLayout) :
    Shrinks (layoutField rt array member) := by
  cases array with
  | none => exact consumes.shrinks
  | some l =>
      exact (layoutU64_consumes.bind fun _ => (Shrinks.require _).bind fun _ =>
        (Shrinks.require _).bind fun _ => consumes.shrinks.times _).shrinks

theorem MessageMembers.layoutFields_shrinks {rt : IntrospectionRuntime} :
    (ms : MessageMembers) → Shrinks (ms.layoutFields rt)
  | nil => Shrinks.pure ()
  | leaf m rest =>
      (layoutField_shrinks m.type.layout_consumes m.array).bind fun _ => rest.layoutFields_shrinks
  | nested m members rest =>
      (layoutField_shrinks (layoutU64_consumes.bind fun _ => (Shrinks.require _).bind fun _ =>
        members.layoutFields_shrinks) m.array).bind fun _ => rest.layoutFields_shrinks

end

/-! ## Both readers follow the layout -/

section
open Cursor

variable {E : Ending} {rt : IntrospectionRuntime} {α : Type}
  {floatingText : PrimitiveType → Bytes → Bytes}

theorem follows_readBytes {size : Nat} (narrow : size < 2 ^ 63) :
    Follows E rt.Holds (Layout.fixed size) (readBytes size)
      fun octets octets' => octets = octets' ∧ octets'.length = size :=
  fun _ _ holds inside => FollowsAt.fixed holds.1 inside narrow

theorem follows_readU64 :
    Follows E rt.Holds layoutU64 readU64 fun n n' => n = n' ∧ n' < 2 ^ 64 := by
  refine (follows_readBytes (by decide)).bind fun octets octets' same => Follows.pure ?_
  obtain ⟨rfl, eight⟩ := same
  have bound := leValue_lt octets
  rw [eight] at bound
  exact ⟨rfl, by omega⟩

theorem length_utf16Units_le : (octets : Bytes) → (utf16Units octets).length * 2 ≤ octets.length
  | [] => Nat.le_refl _
  | [_] => Nat.zero_le _
  | _ :: _ :: octets => by
      have rest := length_utf16Units_le octets
      rw [utf16Units, List.length_cons, List.length_cons, List.length_cons]
      omega

theorem LeafType.deserializeMember_follows (t : LeafType) :
    Follows .overrun rt.Holds t.layout (t.deserializeMember rt) fun _ _ => True := by
  cases t with
  | primitive type =>
      refine (follows_readBytes (by cases type <;> decide)).bind fun _ octets same => ?_
      rw [dif_pos same.2]
      exact Follows.pure True.intro
  | string upperBound =>
      refine follows_readU64.bind fun size size' same => ?_
      obtain ⟨rfl, fits⟩ := same
      intro payload offset holds inside
      apply FollowsAt.checkedEnd holds.1 inside fits
      intro bounded chars long within
      have kept : 0 < upperBound → chars.length ≤ upperBound := long ▸ bounded
      refine ⟨⟨chars, kept⟩, fun end_ => ?_⟩
      rw [require_bind_of (holds.2 size within).1, dif_pos kept]
      rfl
  | wstring upperBound =>
      refine follows_readU64.bind fun codeUnits codeUnits' same => ?_
      obtain ⟨rfl, -⟩ := same
      refine (Follows.require _).bind fun _ _ product => ?_
      intro payload offset holds inside
      apply FollowsAt.checkedEnd holds.1 inside product
      intro bounded octets long within
      have short := length_utf16Units_le octets
      have kept : 0 < upperBound → (utf16Units octets).length ≤ upperBound := fun bound => by
        have := bounded bound
        omega
      refine ⟨⟨utf16Units octets, kept⟩, fun end_ => ?_⟩
      rw [require_bind_of (holds.2 codeUnits (by omega)).1, dif_pos kept]
      rfl

theorem LeafType.reflectMember_follows (t : LeafType) (path : Bytes) :
    Follows .rejected rt.Holds t.layout (t.reflectMember floatingText path) fun _ _ => True := by
  cases t with
  | primitive type =>
      exact (follows_readBytes (by cases type <;> decide)).bind fun _ _ _ => Follows.pure True.intro
  | string upperBound =>
      refine follows_readU64.bind fun size size' same => ?_
      obtain ⟨rfl, -⟩ := same
      intro payload offset holds inside
      exact FollowsAt.checkedLeft holds.1 inside fun chars _ => ⟨_, fun _ => rfl⟩
  | wstring upperBound =>
      refine follows_readU64.bind fun codeUnits codeUnits' same => ?_
      obtain ⟨rfl, -⟩ := same
      refine (Follows.require _).bind fun _ _ _ => ?_
      intro payload offset holds inside
      exact FollowsAt.checkedLeft holds.1 inside fun octets _ => ⟨_, fun _ => rfl⟩

theorem deserializeElement_follows {l : Layout Unit} {r : Cursor (Option α)} {a : ArrayLayout}
    {elementSize primitiveSize : Nat} (h : Follows .overrun rt.Holds l r fun _ _ => True)
    (pointed : a.arrayMemberPtr elementSize ≠ .null) :
    Follows .overrun rt.Holds l (deserializeElement rt.family a elementSize primitiveSize r)
      fun _ _ => True := by
  cases pointer : a.arrayMemberPtr elementSize with
  | element =>
      simp only [deserializeElement, pointer]
      exact h
  | outside =>
      simp only [deserializeElement, pointer]
      exact h.map (fun _ => none) fun _ _ _ => True.intro
  | null => exact absurd pointer pointed

theorem deserializeField_follows {l : Layout Unit} {r : Cursor (Option α)}
    {elementSize primitiveSize : Nat} (h : Follows .overrun rt.Holds l r fun _ _ => True)
    (array : Option ArrayLayout)
    (pointed : ∀ a, array = some a → a.arrayMemberPtr elementSize ≠ .null) :
    Follows .overrun rt.Holds (layoutField rt array l)
      (deserializeField rt array r fun a =>
        deserializeElement rt.family a elementSize primitiveSize r) fun _ _ => True := by
  cases array with
  | none => exact h
  | some a =>
      refine follows_readU64.bind fun count count' same => ?_
      obtain ⟨rfl, -⟩ := same
      refine (Follows.require _).bind fun _ _ _ => ?_
      refine (Follows.require _).bind fun _ _ _ => ?_
      have element : Follows .overrun rt.Holds l
          (deserializeElement rt.family a elementSize primitiveSize r) fun _ _ => True :=
        deserializeElement_follows h (pointed a rfl)
      exact (Follows.times (fun _ => element) 0 count).map _ fun _ _ _ => True.intro

theorem reflectField_follows {l : Layout Unit} {member : Bytes → Cursor ReflectedFields}
    {path : Bytes} (consumes : l.Consumes)
    (h : ∀ path ≠ [], Follows .rejected rt.Holds l (member path) fun _ _ => True)
    (array : Option ArrayLayout) (named : path ≠ []) :
    Follows .rejected rt.Holds (layoutField rt array l) (reflectField array path member)
      fun _ _ => True := by
  unfold reflectField
  rw [require_bind_of named]
  cases array with
  | none => exact h path named
  | some a =>
      refine follows_readU64.bind fun count count' same => ?_
      obtain ⟨rfl, -⟩ := same
      intro payload offset holds inside
      apply FollowsAt.requireLeft holds.1 inside
      · intro left
        refine (FollowsAt.require Iff.rfl inside).bind fun _ _ mid _ inside => ?_
        -- there is memory for as many elements as there are octets
        have sizes : (if a.resizeFunction then rt.resizes count = true else count = a.arraySize) ↔
            (a.resizeFunction = false → count = a.arraySize) := by
          cases a.resizeFunction with
          | true => simpa using (holds.2 count (by omega)).2
          | false => simp
        refine (FollowsAt.require sizes inside).bind fun _ _ mid _ inside => ?_
        have element : ∀ i : Nat, path ++ octets "[" ++ decimal i ++ octets "]" ≠ [] := by
          intro i
          simp [named]
        exact (Follows.times (fun i => h _ (element i)) 0 count payload mid holds inside).map _
          fun _ _ _ => True.intro
      · intro _ rest laid
        obtain ⟨_, mid, first, laid⟩ := Layout.bind_eq_ok laid
        obtain ⟨_, mid', second, laid⟩ := Layout.bind_eq_ok laid
        have turns := Layout.le_length_of_times consumes laid
        have less := Layout.Shrinks.require _ _ _ _ first
        have less' := Layout.Shrinks.require _ _ _ _ second
        rw [List.length_drop] at less
        omega

theorem LeafMember.pointed (m : LeafMember) (a : ArrayLayout) (array : m.array = some a) :
    a.arrayMemberPtr m.type.primitiveSize ≠ .null := by
  have positive : a.getFunction = true ∨ m.type.primitiveSize ≠ 0 := by
    refine (m.reached a array).imp id ?_
    rintro ⟨t, type⟩
    rw [type]
    cases t <;> decide
  unfold ArrayLayout.arrayMemberPtr
  grind

theorem NestedMember.pointed (m : NestedMember) (a : ArrayLayout) (array : m.array = some a) :
    a.arrayMemberPtr m.sizeOf ≠ .null := by
  unfold ArrayLayout.arrayMemberPtr
  rw [if_pos (m.reached a array)]
  exact nofun

theorem nestedContentFilterPath_ne_nil {outer name : Bytes} (named : name ≠ []) :
    nestedContentFilterPath outer name ≠ [] := by
  unfold nestedContentFilterPath
  rw [if_neg named]
  split
  · exact named
  · simp [named]

namespace MessageMembers

/-- A number of members in front of what follows a layout. -/
theorem follows_message {l : Layout Unit} {r : Cursor α} {count : Nat}
    (h : Follows E rt.Holds l r fun _ _ => True) :
    Follows E rt.Holds (do
      let memberCount ← layoutU64
      Layout.require (memberCount = count)
      l) (do
      let memberCount ← readU64
      Cursor.require (memberCount = count)
      r) fun _ _ => True := by
  refine follows_readU64.bind fun n n' same => ?_
  obtain ⟨rfl, -⟩ := same
  exact (Follows.require _).bind fun _ _ _ => h

theorem deserializeFields_follows : (ms : MessageMembers) →
    Follows .overrun rt.Holds (ms.layoutFields rt) (ms.deserializeFields rt) fun _ _ => True
  | nil => Follows.pure True.intro
  | leaf m rest => by
      have member : Follows .overrun rt.Holds m.type.layout (do
          let v ← m.type.deserializeMember rt
          pure (some v)) fun _ _ => True :=
        m.type.deserializeMember_follows.map some fun _ _ _ => True.intro
      refine (deserializeField_follows member m.array m.pointed).bind fun _ field _ => ?_
      exact (deserializeFields_follows rest).map (bothFields field) fun _ _ _ => True.intro
  | nested m members rest => by
      have message : Follows .overrun rt.Holds (do
          let memberCount ← layoutU64
          Layout.require (memberCount = members.memberCount)
          members.layoutFields rt) (do
          let memberCount ← readU64
          Cursor.require (memberCount = members.memberCount)
          members.deserializeFields rt) fun _ _ => True :=
        follows_message (deserializeFields_follows members)
      refine (deserializeField_follows message m.array m.pointed).bind fun _ field _ => ?_
      exact (deserializeFields_follows rest).map (bothFields field) fun _ _ _ => True.intro

theorem reflectFields_follows (floatingText : PrimitiveType → Bytes → Bytes) :
    (ms : MessageMembers) → (outer : Bytes) →
    Follows .rejected rt.Holds (ms.layoutFields rt) (ms.reflectFields floatingText outer)
      fun _ _ => True
  | nil, _ => Follows.pure True.intro
  | leaf m rest, outer => by
      have member : ∀ path ≠ [], Follows .rejected rt.Holds m.type.layout (do
          Cursor.require (path ≠ [])
          m.type.reflectMember floatingText path) fun _ _ => True := by
        intro path named
        rw [require_bind_of named]
        exact m.type.reflectMember_follows path
      refine (reflectField_follows m.type.layout_consumes member m.array
        (nestedContentFilterPath_ne_nil m.named)).bind fun _ field _ => ?_
      exact (reflectFields_follows floatingText rest outer).map (field ++ ·) fun _ _ _ => True.intro
  | nested m members rest, outer => by
      have member : ∀ path ≠ [], Follows .rejected rt.Holds (do
          let memberCount ← layoutU64
          Layout.require (memberCount = members.memberCount)
          members.layoutFields rt) (do
          Cursor.require (path ≠ [])
          let memberCount ← readU64
          Cursor.require (memberCount = members.memberCount)
          members.reflectFields floatingText path) fun _ _ => True := by
        intro path named
        rw [require_bind_of named]
        exact follows_message (reflectFields_follows floatingText members path)
      have consumes : Layout.Consumes (do
          let memberCount ← layoutU64
          Layout.require (memberCount = members.memberCount)
          members.layoutFields rt) :=
        layoutU64_consumes.bind fun _ => (Layout.Shrinks.require _).bind fun _ =>
          members.layoutFields_shrinks
      refine (reflectField_follows consumes member m.array
        (nestedContentFilterPath_ne_nil m.named)).bind fun _ field _ => ?_
      exact (reflectFields_follows floatingText rest outer).map (field ++ ·) fun _ _ _ => True.intro

theorem deserializeMessage_follows (ms : MessageMembers) :
    Follows .overrun rt.Holds (ms.layout rt) (ms.deserializeMessage rt) fun _ _ => True :=
  follows_message ms.deserializeFields_follows

theorem reflectMessage_follows (floatingText : PrimitiveType → Bytes → Bytes) (ms : MessageMembers)
    (outer : Bytes) :
    Follows .rejected rt.Holds (ms.layout rt) (ms.reflectMessage floatingText outer)
      fun _ _ => True :=
  follows_message (ms.reflectFields_follows floatingText outer)

/-- The offset behind what was read of the whole payload. -/
def endOf (r : List Access × Option (α × Nat)) : Option Nat := r.2.map Prod.snd

/-- In a payload for which there is memory, the deserializer takes octets of the payload only,
    and it succeeds at the end of the payload where the reflector does, exactly if the layout
    does not stop at a length whose sum with its offset is no 64-bit number. -/
theorem deserialize_reflect_iff (rt : IntrospectionRuntime)
    (floatingText : PrimitiveType → Bytes → Bytes) (ms : MessageMembers) (payload : Bytes)
    (holds : rt.Holds payload) :
    ((∀ a ∈ (ms.deserializeMessage rt payload 0).1, a.Within payload) ∧
      (endOf (ms.deserializeMessage rt payload 0) = some payload.length ↔
        endOf (ms.reflectMessage floatingText [] payload 0) = some payload.length)) ↔
    ∀ size left, ms.layout rt payload = .error (.overlong size left) →
      payload.length - left + size < 2 ^ 64 := by
  have deserialized := ms.deserializeMessage_follows payload 0 holds (Nat.zero_le _)
  have reflected := ms.reflectMessage_follows floatingText [] payload 0 holds (Nat.zero_le _)
  cases laid : ms.layout rt payload with
  | ok result =>
      obtain ⟨within, v, end_, read, -, inside, left⟩ := deserialized.of_ok laid
      obtain ⟨-, v', end', read', -, inside', left'⟩ := reflected.of_ok laid
      have same : end_ = end' := by
        have lengths := congrArg List.length (left.symm.trans left')
        rw [List.length_drop, List.length_drop] at lengths
        omega
      have ends : endOf (ms.deserializeMessage rt payload 0) = some end_ := by
        rw [endOf, read]
        rfl
      have ends' : endOf (ms.reflectMessage floatingText [] payload 0) = some end_ := by
        rw [endOf, read', same]
        rfl
      rw [ends, ends']
      exact ⟨fun _ size left laid => (by cases laid), fun _ => ⟨within, Iff.rfl⟩⟩
  | error stop =>
      have ends := deserialized.of_error laid
      obtain ⟨stops, -⟩ := reflected.of_error laid
      have ends' : endOf (ms.reflectMessage floatingText [] payload 0) = none := by
        rw [endOf, Option.isNone_iff_eq_none.mp stops]
        rfl
      rw [ends']
      have agree : (ms.deserializeMessage rt payload 0).2.isNone →
          (endOf (ms.deserializeMessage rt payload 0) = some payload.length ↔
            none = some payload.length) := by
        intro fails
        rw [endOf, Option.isNone_iff_eq_none.mp fails]
        exact ⟨nofun, nofun⟩
      cases stop with
      | malformed =>
          exact ⟨fun _ size left laid => (by cases laid), fun _ => ⟨ends.2, agree ends.1⟩⟩
      | overlong size left =>
          change if payload.length - left + size < 2 ^ 64 then _ else _ at ends
          by_cases fits : payload.length - left + size < 2 ^ 64
          · rw [if_pos fits] at ends
            refine ⟨fun _ size' left' laid => ?_, fun _ => ⟨ends.2, agree ends.1⟩⟩
            cases laid
            exact fits
          · rw [if_neg fits] at ends
            obtain ⟨a, among, outside⟩ := ends
            exact ⟨fun h => absurd (h.1 a among) outside, fun h => absurd (h size left rfl) fits⟩

/-! ### A text of almost 2 ^ 64 octets -/

/-- One unbounded string. -/
def oneText : MessageMembers :=
  leaf
    { name := octets "data"
      type := .string 0
      array := none
      named := nofun
      reached := nofun }
    nil

/-- Memory for less than half of the address space. -/
def someMemory : IntrospectionRuntime where
  family := .c
  assigns n := n < 2 ^ 63
  resizes n := n < 2 ^ 60
  arrayObject _ _ := 0

/-- One member, and a length of 2 ^ 64 - 8: the sum is 8. -/
def wrappingPayload : Bytes := leBytes 8 1 ++ leBytes 8 (2 ^ 64 - 8)

theorem wrapped_length_passes : ∃ a ∈ (oneText.deserializeMessage someMemory wrappingPayload 0).1,
    a = ⟨16, 2 ^ 64 - 8⟩ ∧ ¬a.Within wrappingPayload :=
  ⟨⟨16, 2 ^ 64 - 8⟩, by decide, rfl, by decide⟩

theorem deserialize_reflect_iff_text :
    endOf (oneText.reflectMessage (fun _ _ => []) [] (leBytes 8 1 ++ leBytes 8 2 ++ octets "ab") 0) =
      some 18 := by
  refine ((deserialize_reflect_iff someMemory (fun _ _ => []) oneText
    (leBytes 8 1 ++ leBytes 8 2 ++ octets "ab") ⟨by decide, fun n short => ?_⟩).mpr ?_).2.mp rfl
  · have small : n ≤ 18 := short
    exact ⟨decide_eq_true (by omega), decide_eq_true (by omega)⟩
  · intro size left laid
    cases laid

end MessageMembers

end

end FleetRMW.Rmw
