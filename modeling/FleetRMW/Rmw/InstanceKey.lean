import FleetRMW.Lib.Delimited
import FleetRMW.Rmw.Reflection
import FleetRMW.Rmw.Retention
import Mathlib.Algebra.Order.BigOperators.Group.List

/-! # Instance keys

The key of a published sample joins the texts of the key members, each behind its path and in
front of a separator. A description says of a member by its name whether it is a key.
-/

namespace FleetRMW.Rmw

open Lib

/-! ## Keys -/

/-- The characters of a member's name. -/
def isIdentifier (name : Bytes) : Bool :=
  name.all fun c => isDecimal c || (65 ≤ c && c ≤ 90) || (97 ≤ c && c ≤ 122) || c == 95

/-- An integer, a boolean or a string. -/
def LeafType.isScalar : LeafType → Bool
  | .primitive .float | .primitive .double | .primitive .longDouble => false
  | .primitive _ => true
  | .string _ => true
  | .wstring _ => false

namespace MessageMembers

def names : MessageMembers → List Bytes
  | nil => []
  | leaf m rest => m.name :: rest.names
  | nested m _ rest => m.name :: rest.names

/-- The keys that are no arrays are integers, booleans and strings. -/
def ScalarKeys (isKey : Bytes → Bool) : MessageMembers → Prop
  | nil => True
  | leaf m rest => (isKey m.name → m.array = none → m.type.isScalar) ∧ rest.ScalarKeys isKey
  | nested m _ rest => (isKey m.name → m.array ≠ none) ∧ rest.ScalarKeys isKey

/-- `collect_introspection_c_key_paths`, `collect_introspection_cpp_key_paths` -/
def keyPaths (isKey : Bytes → Bool) : MessageMembers → List Bytes
  | nil => []
  | leaf m rest =>
      if isKey m.name = true ∧ m.array = none then
        nestedContentFilterPath [] m.name :: rest.keyPaths isKey
      else rest.keyPaths isKey
  | nested m _ rest =>
      if isKey m.name = true ∧ m.array = none then
        nestedContentFilterPath [] m.name :: rest.keyPaths isKey
      else rest.keyPaths isKey

end MessageMembers

/-- A description with its `is_key_` flags. -/
structure KeyedMessage where
  members : MessageMembers
  isKey : Bytes → Bool
  identifiers : ∀ name, isKey name = true → isIdentifier name = true
  distinct : members.names.Nodup
  scalarKeys : members.ScalarKeys isKey

/-- `content_filter_typed_fields` -/
def contentFilterTypedFields (floatingText : PrimitiveType → Bytes → Bytes)
    (members : MessageMembers) (payload : Bytes) : Option ReflectedFields :=
  match (members.reflectMessage floatingText [] payload 0).2 with
  | some (fields, offset) => if offset = payload.length then some fields else none
  | none => none

/-- `fields->find(path)`, after all assignments. -/
def findField (fields : ReflectedFields) (path : Bytes) : Option Bytes :=
  (fields.reverse.find? fun field => field.1 = path).map Prod.snd

/-- `!(right < left)` of two strings. -/
def pathLe (left right : Bytes) : Bool := !right.lex left fun a b => a < b

def computePublishInstanceKey (floatingText : PrimitiveType → Bytes → Bytes)
    (message : KeyedMessage) (payload : Bytes) : Option Bytes :=
  let keyPaths := message.members.keyPaths message.isKey
  if keyPaths = [] then none
  else
    match contentFilterTypedFields floatingText message.members payload with
    | none => none
    | some fields => some ((keyPaths.mergeSort pathLe).flatMap fun path =>
        path ++ (61 :: ((findField fields path).getD [] ++ [0x1F])))

/-! ## Values -/

inductive KeyValue where
  | integer (value : Int)
  | boolean (value : Bool)
  | string (chars : Bytes)
  deriving Repr, DecidableEq

def integerText (value : Int) : Bytes :=
  if 0 ≤ value then decimal value.toNat else octets "-" ++ decimal (-value).toNat

def KeyValue.text : KeyValue → Bytes
  | integer value => integerText value
  | boolean value => if value then octets "true" else octets "false"
  | string chars => chars

/-- Two's complement. -/
def signedValue (bytes : Bytes) : Int :=
  if leValue bytes < 256 ^ bytes.length / 2 then leValue bytes
  else leValue bytes - 256 ^ bytes.length

/-- The value of a scalar, from its octets or its characters. -/
def LeafType.keyValue : LeafType → Bytes → KeyValue
  | .primitive .boolean, bytes => .boolean (leValue bytes ≠ 0)
  | .primitive .int8, bytes | .primitive .int16, bytes | .primitive .int32, bytes
  | .primitive .int64, bytes => .integer (signedValue bytes)
  | .primitive _, bytes => .integer (leValue bytes)
  | .string _, bytes | .wstring _, bytes => .string bytes

theorem signedText_eq (bytes : Bytes) : signedText bytes = integerText (signedValue bytes) := by
  have bound := leValue_lt bytes
  unfold signedText integerText signedValue
  split
  case isTrue small => rw [if_pos (Int.natCast_nonneg _), Int.toNat_natCast]
  case isFalse large =>
    have below : ((leValue bytes : Int) - 256 ^ bytes.length) < 0 := by
      have : (leValue bytes : Int) < 256 ^ bytes.length := by exact_mod_cast bound
      omega
    have distance : (-((leValue bytes : Int) - 256 ^ bytes.length)).toNat =
        256 ^ bytes.length - leValue bytes := by
      have : ((256 ^ bytes.length - leValue bytes : Nat) : Int) =
          256 ^ bytes.length - leValue bytes := by
        rw [Nat.cast_sub bound.le]
        push_cast
        rfl
      omega
    rw [if_neg (by omega), distance]

theorem primitiveText_eq (floatingText : PrimitiveType → Bytes → Bytes) {type : PrimitiveType}
    (scalar : (LeafType.primitive type).isScalar = true) (bytes : Bytes) :
    contentFilterPrimitiveText floatingText type bytes =
      ((LeafType.primitive type).keyValue bytes).text := by
  have unsigned : unsignedText bytes = integerText (leValue bytes) := by
    rw [integerText, if_pos (Int.natCast_nonneg _), Int.toNat_natCast, unsignedText]
  cases type with
  | float | double | longDouble => cases scalar
  | boolean =>
      simp only [contentFilterPrimitiveText, LeafType.keyValue, KeyValue.text]
      by_cases zero : leValue bytes = 0
      · simp [zero]
      · simp [zero]
  | int8 | int16 | int32 | int64 => exact signedText_eq bytes
  | _ => exact unsigned

theorem integerText_clean (value : Int) : ∀ c ∈ integerText value, isDecimal c = true ∨ c = 45 := by
  intro c member
  unfold integerText at member
  split at member
  case isTrue => exact .inl (decimal_isDecimal _ c member)
  case isFalse =>
    rcases List.mem_append.mp member with sign | digit
    · exact .inr (List.mem_singleton.mp sign)
    · exact .inl (decimal_isDecimal _ c digit)

theorem integerText_injective {left right : Int} (same : integerText left = integerText right) :
    left = right := by
  have digits {n m : Nat} : decimal n ≠ octets "-" ++ decimal m := by
    intro equal
    have digit := decimal_isDecimal n 45 (equal ▸ List.mem_cons_self)
    exact absurd digit (by decide)
  unfold integerText at same
  split at same
  case isTrue low =>
    split at same
    case isTrue low' =>
      have values := congrArg decimalValue same
      rw [decimalValue_decimal, decimalValue_decimal] at values
      omega
    case isFalse => exact absurd same digits
  case isFalse low =>
    split at same
    case isTrue => exact absurd same.symm digits
    case isFalse low' =>
      have values := congrArg decimalValue (List.append_cancel_left same)
      rw [decimalValue_decimal, decimalValue_decimal] at values
      omega

/-- Values of one type have different texts. -/
theorem keyValue_injective {type : LeafType} {left right : Bytes}
    (same : (type.keyValue left).text = (type.keyValue right).text) :
    type.keyValue left = type.keyValue right := by
  have booleans {a b : Bool} (same : (KeyValue.boolean a).text = (KeyValue.boolean b).text) :
      a = b := by
    cases a <;> cases b <;> first | rfl | (exact absurd same (by decide))
  cases type with
  | primitive type =>
      cases type with
      | boolean => exact congrArg KeyValue.boolean (booleans same)
      | _ => exact congrArg KeyValue.integer (integerText_injective same)
  | string | wstring => exact congrArg KeyValue.string same

/-! ## The fields of a key -/

structure KeySlot where
  name : Bytes
  type : LeafType
  identifier : isIdentifier name = true

/-- The octets of a value, or the characters. -/
def LeafType.Admits : LeafType → Bytes → Prop
  | .primitive type, bytes => bytes.length = Rmw.primitiveSize type
  | .string upperBound, bytes | .wstring upperBound, bytes =>
      0 < upperBound → bytes.length ≤ upperBound

theorem LeafType.admits_length {t : LeafType} {content : Bytes} (admits : t.Admits content) :
    content.length ≤ 16 ∨ (t.keyValue content).text = content := by
  cases t with
  | primitive type =>
      left
      have size : content.length = Rmw.primitiveSize type := admits
      rw [size]
      cases type <;> decide
  | string | wstring => exact .inr rfl

theorem identifier_clean {name : Bytes} (identifier : isIdentifier name = true) {c : UInt8}
    (other : isIdentifier [c] = false) : c ∉ name := by
  intro member
  have all := List.all_eq_true.mp identifier c member
  have alone : isIdentifier [c] = true := List.all_eq_true.mpr fun d single => by
    rw [List.mem_singleton.mp single]
    exact all
  rw [alone] at other
  cases other

theorem keyValue_text_clean (type : PrimitiveType) (bytes : Bytes) :
    0x1F ∉ ((LeafType.primitive type).keyValue bytes).text := by
  have integers (value : Int) : 0x1F ∉ integerText value := by
    intro member
    rcases integerText_clean value 0x1F member with digit | sign
    · exact absurd digit (by decide)
    · exact absurd sign (by decide)
  cases type with
  | boolean =>
      simp only [LeafType.keyValue, KeyValue.text]
      split <;> decide
  | _ => exact integers _

/-- How a key is written; only a string may hold a separator. -/
def keyFields : Delimited UInt8 KeySlot where
  separator := 0x1F
  assign := 61
  name := KeySlot.name
  Accepts slot text := ∃ bytes, slot.type.Admits bytes ∧ text = (slot.type.keyValue bytes).text
  Free slot := ∀ type, slot.type ≠ .primitive type
  distinct := by decide
  noSeparator slot := identifier_clean slot.identifier rfl
  noAssign slot := identifier_clean slot.identifier rfl
  closed := by
    rintro slot text ⟨bytes, -, rfl⟩ member type isPrimitive
    rw [isPrimitive] at member
    exact keyValue_text_clean type bytes member

/-! ## Contents -/

/-- What a payload says of a member: its octets, or its characters without their number. -/
def LeafType.layoutContent : LeafType → Layout Bytes
  | .primitive type => Layout.fixed (Rmw.primitiveSize type)
  | .string upperBound => do
      let size ← layoutU64
      Layout.require (0 < upperBound → size ≤ upperBound)
      Layout.content size
  | .wstring upperBound => do
      let codeUnits ← layoutU64
      Layout.require (codeUnits * 2 < 2 ^ 64)
      Layout.require (0 < upperBound → codeUnits ≤ upperBound)
      Layout.content (codeUnits * 2)

namespace MessageMembers

/-- The contents of the keys that are no arrays, in the order of the members. -/
def layoutKeys (rt : IntrospectionRuntime) (isKey : Bytes → Bool)
    (identifiers : ∀ name, isKey name = true → isIdentifier name = true) :
    MessageMembers → Layout (List (KeySlot × Bytes))
  | nil => pure []
  | leaf m rest =>
      if key : isKey m.name = true ∧ m.array = none then do
        let content ← m.type.layoutContent
        let contents ← rest.layoutKeys rt isKey identifiers
        pure ((⟨m.name, m.type, identifiers m.name key.1⟩, content) :: contents)
      else do
        layoutField rt m.array m.type.layout
        rest.layoutKeys rt isKey identifiers
  | nested m members rest => do
      layoutField rt m.array do
        let memberCount ← layoutU64
        Layout.require (memberCount = members.memberCount)
        members.layoutFields rt
      rest.layoutKeys rt isKey identifiers

end MessageMembers

section
open Cursor

variable {rt : IntrospectionRuntime} {floatingText : PrimitiveType → Bytes → Bytes}

/-! ## The paths that are no keys -/

/-- A path behind that of a member. -/
def IsInner (path : Bytes) : Prop := 46 ∈ path ∨ 91 ∈ path

theorem IsInner.not_identifier {path : Bytes} (inner : IsInner path) :
    isIdentifier path = false := by
  by_contra identifier
  rw [Bool.not_eq_false] at identifier
  rcases inner with dot | bracket
  · exact identifier_clean identifier rfl dot
  · exact identifier_clean identifier rfl bracket

theorem LeafType.reflectMember_yields (t : LeafType) (path : Bytes) :
    Yields (t.reflectMember floatingText path) fun fields => ∀ f ∈ fields, f.1 = path := by
  have one (text : Bytes) : ∀ f ∈ ([(path, text)] : ReflectedFields), f.1 = path := by
    intro f member
    rw [List.mem_singleton.mp member]
  cases t with
  | primitive type => exact (Yields.any _).bind fun _ _ => Yields.pure (one _)
  | string upperBound =>
      exact (Yields.any _).bind fun _ _ => (Yields.any _).bind fun _ _ =>
        (Yields.any _).bind fun _ _ => (Yields.any _).bind fun _ _ => Yields.pure (one _)
  | wstring upperBound =>
      exact (Yields.any _).bind fun _ _ => (Yields.any _).bind fun _ _ =>
        (Yields.any _).bind fun _ _ => (Yields.any _).bind fun _ _ =>
          (Yields.any _).bind fun _ _ => Yields.pure (one _)

/-- The elements of an array are at inner paths, as is its length. -/
theorem reflectField_yields {array : Option ArrayLayout} {path : Bytes}
    {member : Bytes → Cursor ReflectedFields}
    (each : ∀ path, IsInner path → Yields (member path) fun fields => ∀ f ∈ fields, IsInner f.1)
    (here : array = none → Yields (member path) fun fields => ∀ f ∈ fields, IsInner f.1) :
    Yields (reflectField array path member) fun fields => ∀ f ∈ fields, IsInner f.1 := by
  refine (Yields.any _).bind fun _ _ => ?_
  cases array with
  | none => exact here rfl
  | some l =>
      refine (Yields.any _).bind fun count _ => ?_
      refine (Yields.any _).bind fun _ _ => ?_
      refine (Yields.any _).bind fun _ _ => ?_
      refine (Yields.any _).bind fun _ _ => ?_
      have elements : ∀ i, Yields (member (path ++ octets "[" ++ decimal i ++ octets "]"))
          fun fields => ∀ f ∈ fields, IsInner f.1 := by
        intro i
        refine each _ (.inr ?_)
        simp [octets]
      refine (Yields.times elements 0 count).bind fun fields inner => Yields.pure ?_
      intro f member
      rcases List.mem_cons.mp member with rfl | member
      · left
        simp [octets]
      · obtain ⟨element, among, inside⟩ := List.mem_flatten.mp member
        exact inner element among f inside

theorem nestedContentFilterPath_inner {outer name : Bytes} (some_ : outer ≠ []) (named : name ≠ []) :
    IsInner (nestedContentFilterPath outer name) := by
  left
  simp [nestedContentFilterPath, some_, named, octets]

/-- The fields of a nested message are at inner paths. -/
theorem MessageMembers.reflectFields_yields :
    (ms : MessageMembers) → (outer : Bytes) → outer ≠ [] →
    Yields (ms.reflectFields floatingText outer) fun fields => ∀ f ∈ fields, IsInner f.1
  | nil, _, _ => Yields.pure nofun
  | leaf m rest, outer, some_ => by
      have each : ∀ path, IsInner path → Yields (do
          Cursor.require (path ≠ [])
          m.type.reflectMember floatingText path) fun fields => ∀ f ∈ fields, IsInner f.1 := by
        intro path inner
        refine (Yields.any _).bind fun _ _ => ?_
        intro payload offset fields offset' h f member
        rw [m.type.reflectMember_yields path _ _ _ _ h f member]
        exact inner
      have inner := nestedContentFilterPath_inner some_ m.named
      refine (reflectField_yields each fun _ => each _ inner).bind fun field here => ?_
      refine (reflectFields_yields rest outer some_).bind fun fields later => ?_
      exact Yields.pure fun f member => (List.mem_append.mp member).elim (here f) (later f)
  | nested m members rest, outer, some_ => by
      have each : ∀ path, IsInner path → Yields (do
          Cursor.require (path ≠ [])
          let memberCount ← readU64
          Cursor.require (memberCount = members.memberCount)
          members.reflectFields floatingText path) fun fields => ∀ f ∈ fields, IsInner f.1 := by
        intro path inner
        refine (Yields.any _).bind fun _ _ => ?_
        refine (Yields.any _).bind fun _ _ => ?_
        refine (Yields.any _).bind fun _ _ => ?_
        apply reflectFields_yields members path
        rintro rfl
        rcases inner with none | none <;> cases none
      have inner := nestedContentFilterPath_inner some_ m.named
      refine (reflectField_yields each fun _ => each _ inner).bind fun field here => ?_
      refine (reflectFields_yields rest outer some_).bind fun fields later => ?_
      exact Yields.pure fun f member => (List.mem_append.mp member).elim (here f) (later f)

/-! ## The fields are those of the contents -/

theorem LeafType.reflectMember_content {t : LeafType} (scalar : t.isScalar = true) (path : Bytes) :
    Follows .rejected rt.Holds t.layoutContent (t.reflectMember floatingText path)
      fun content fields => t.Admits content ∧ fields = [(path, (t.keyValue content).text)] := by
  cases t with
  | primitive type =>
      have narrow : Rmw.primitiveSize type < 2 ^ 63 := by cases type <;> decide
      refine (follows_readBytes narrow).map _ fun octets octets' same => ?_
      obtain ⟨rfl, long⟩ := same
      exact ⟨long, by rw [primitiveText_eq floatingText scalar]⟩
  | string upperBound =>
      refine follows_readU64.bind fun size size' same => ?_
      obtain ⟨rfl, -⟩ := same
      intro payload offset holds inside
      apply FollowsAt.contentLeft holds.1 inside
      intro bounded chars long
      exact ⟨_, ⟨fun bound => long ▸ bounded bound, rfl⟩, fun _ => rfl⟩
  | wstring upperBound => cases scalar

namespace MessageMembers

variable {isKey : Bytes → Bool} {identifiers : ∀ name, isKey name = true → isIdentifier name = true}

/-- The field that a content stands for. -/
def contentField (content : KeySlot × Bytes) : Bytes × Bytes :=
  (content.1.name, (content.1.type.keyValue content.2).text)

/-- The fields at the paths of keys are those of the contents. -/
def Agree (isKey : Bytes → Bool) (contents : List (KeySlot × Bytes)) (fields : ReflectedFields) :
    Prop :=
  (∀ c ∈ contents, c.1.type.Admits c.2) ∧
    fields.filter (fun field => isKey field.1) = contents.map contentField

theorem filter_of_inner (identifiers : ∀ name, isKey name = true → isIdentifier name = true)
    {fields : ReflectedFields} (inner : ∀ f ∈ fields, IsInner f.1) :
    fields.filter (fun field => isKey field.1) = [] := by
  apply List.filter_eq_nil_iff.mpr
  intro f member key
  have identifier := identifiers f.1 key
  rw [(inner f member).not_identifier] at identifier
  cases identifier

theorem Agree.append {contents : List (KeySlot × Bytes)} {field fields : ReflectedFields}
    (other : field.filter (fun field => isKey field.1) = []) (agree : Agree isKey contents fields) :
    Agree isKey contents (field ++ fields) := by
  refine ⟨agree.1, ?_⟩
  rw [List.filter_append, other, List.nil_append]
  exact agree.2

/-- A member that is no key of its own has no field at the path of a key. -/
theorem reflectField_other (identifiers : ∀ name, isKey name = true → isIdentifier name = true)
    {m : LeafMember} (other : ¬(isKey m.name = true ∧ m.array = none)) :
    Yields (reflectField m.array (nestedContentFilterPath [] m.name) fun path => do
      Cursor.require (path ≠ [])
      m.type.reflectMember floatingText path)
      fun fields => fields.filter (fun field => isKey field.1) = [] := by
  have each (path : Bytes) : Yields (do
      Cursor.require (path ≠ [])
      m.type.reflectMember floatingText path) fun fields => ∀ f ∈ fields, f.1 = path :=
    (Yields.any _).bind fun _ _ => m.type.reflectMember_yields path
  have path : nestedContentFilterPath [] m.name = m.name := by
    simp [nestedContentFilterPath, m.named]
  cases array : m.array with
  | none =>
      have noKey : isKey m.name = false := by
        by_contra key
        exact other ⟨Bool.not_eq_false _ ▸ key, array⟩
      rw [path]
      refine (Yields.any _).bind fun _ _ => ?_
      intro payload offset fields offset' h
      apply List.filter_eq_nil_iff.mpr
      intro f member key
      rw [each m.name _ _ _ _ h f member, noKey] at key
      cases key
  | some l =>
      intro payload offset fields offset' h
      apply filter_of_inner identifiers
      have noMember : some l ≠ none := Option.some_ne_none l
      refine reflectField_yields (fun path inner => ?_) (fun none => absurd none noMember) _ _ _ _ h
      intro payload offset fields offset' h f member
      rw [each path _ _ _ _ h f member]
      exact inner

theorem reflectFields_agree :
    (ms : MessageMembers) → ms.ScalarKeys isKey →
    Follows .rejected rt.Holds (ms.layoutKeys rt isKey identifiers)
      (ms.reflectFields floatingText []) (Agree isKey)
  | nil, _ => Follows.pure ⟨nofun, rfl⟩
  | leaf m rest, scalar => by
      have path : nestedContentFilterPath [] m.name = m.name := by
        simp [nestedContentFilterPath, m.named]
      unfold layoutKeys
      split
      case isTrue key =>
        have reader : reflectField m.array (nestedContentFilterPath [] m.name) (fun path => do
            Cursor.require (path ≠ [])
            m.type.reflectMember floatingText path) = m.type.reflectMember floatingText m.name := by
          rw [path, key.2]
          unfold reflectField
          rw [require_bind_of m.named]
          exact require_bind_of m.named _
        unfold reflectFields
        rw [reader]
        refine (LeafType.reflectMember_content (scalar.1 key.1 key.2) m.name).bind
          fun content field same => ?_
        obtain ⟨admits, rfl⟩ := same
        refine (reflectFields_agree rest scalar.2).bind fun contents fields agree => Follows.pure ?_
        refine ⟨List.forall_mem_cons.mpr ⟨admits, agree.1⟩, ?_⟩
        have keyed : isKey (m.name, (m.type.keyValue content).text).1 = true := key.1
        rw [List.singleton_append, List.filter_cons, if_pos keyed, agree.2]
        rfl
      case isFalse other =>
        have member : ∀ path ≠ [], Follows .rejected rt.Holds m.type.layout (do
            Cursor.require (path ≠ [])
            m.type.reflectMember floatingText path) fun _ _ => True := by
          intro path named
          rw [require_bind_of named]
          exact m.type.reflectMember_follows path
        have here := (reflectField_follows m.type.layout_consumes member m.array
          (nestedContentFilterPath_ne_nil m.named)).and_yields (reflectField_other identifiers other)
        refine here.bind fun _ field same => ?_
        refine (reflectFields_agree rest scalar.2).map _ fun contents fields agree => ?_
        exact agree.append same.2
  | nested m members rest, scalar => by
      have member : ∀ path ≠ [], Follows .rejected rt.Holds (do
          let memberCount ← layoutU64
          Layout.require (memberCount = members.memberCount)
          members.layoutFields rt) (do
          Cursor.require (path ≠ [])
          let memberCount ← readU64
          Cursor.require (memberCount = members.memberCount)
          members.reflectFields floatingText path) fun _ _ => True := by
        intro path named
        rw [require_bind_of named]
        exact follows_message (reflectFields_follows floatingText members path)
      have consumes : Layout.Consumes (do
          let memberCount ← layoutU64
          Layout.require (memberCount = members.memberCount)
          members.layoutFields rt) :=
        layoutU64_consumes.bind fun _ => (Layout.Shrinks.require _).bind fun _ =>
          members.layoutFields_shrinks
      have inner (path : Bytes) (some_ : path ≠ []) : Yields (do
          Cursor.require (path ≠ [])
          let memberCount ← readU64
          Cursor.require (memberCount = members.memberCount)
          members.reflectFields floatingText path) fun fields => ∀ f ∈ fields, IsInner f.1 := by
        refine (Yields.any _).bind fun _ _ => ?_
        refine (Yields.any _).bind fun _ _ => ?_
        refine (Yields.any _).bind fun _ _ => ?_
        exact reflectFields_yields members path some_
      have named : nestedContentFilterPath [] m.name ≠ [] := nestedContentFilterPath_ne_nil m.named
      have here := (reflectField_follows consumes member m.array named).and_yields
        (reflectField_yields (fun path isInner => inner path (by
          rintro rfl
          rcases isInner with none | none <;> cases none)) fun _ => inner _ named)
      refine here.bind fun _ field same => ?_
      refine (reflectFields_agree rest scalar.2).map _ fun contents fields agree => ?_
      exact agree.append (filter_of_inner identifiers same.2)

/-- The keys that are no arrays. -/
def keySlots (isKey : Bytes → Bool)
    (identifiers : ∀ name, isKey name = true → isIdentifier name = true) :
    MessageMembers → List KeySlot
  | nil => []
  | leaf m rest =>
      if key : isKey m.name = true ∧ m.array = none then
        ⟨m.name, m.type, identifiers m.name key.1⟩ :: rest.keySlots isKey identifiers
      else rest.keySlots isKey identifiers
  | nested _ _ rest => rest.keySlots isKey identifiers

theorem layoutKeys_slots : (ms : MessageMembers) → {bytes rest : Bytes} →
    {contents : List (KeySlot × Bytes)} →
    ms.layoutKeys rt isKey identifiers bytes = .ok (contents, rest) →
    contents.map Prod.fst = ms.keySlots isKey identifiers
  | nil, _, _, _, laid => by
      obtain ⟨rfl, -⟩ := Prod.mk.inj (Except.ok.inj laid)
      rfl
  | leaf m ms, _, _, _, laid => by
      unfold layoutKeys at laid
      unfold keySlots
      split at laid
      case isTrue key =>
        obtain ⟨content, mid, -, laid⟩ := Layout.bind_eq_ok laid
        obtain ⟨contents, mid', later, laid⟩ := Layout.bind_eq_ok laid
        obtain ⟨rfl, -⟩ := Prod.mk.inj (Except.ok.inj laid)
        rw [dif_pos key, List.map_cons, layoutKeys_slots ms later]
      case isFalse other =>
        obtain ⟨_, mid, -, later⟩ := Layout.bind_eq_ok laid
        rw [dif_neg other]
        exact layoutKeys_slots ms later
  | nested m members ms, _, _, _, laid => by
      obtain ⟨_, mid, -, later⟩ := Layout.bind_eq_ok laid
      exact layoutKeys_slots ms later

theorem keySlots_names : (ms : MessageMembers) → ms.ScalarKeys isKey →
    (ms.keySlots isKey identifiers).map KeySlot.name = ms.keyPaths isKey
  | nil, _ => rfl
  | leaf m ms, scalar => by
      unfold keySlots keyPaths
      split
      case isTrue key =>
        rw [List.map_cons, keySlots_names ms scalar.2]
        simp [nestedContentFilterPath, m.named]
      case isFalse other => exact keySlots_names ms scalar.2
  | nested m members ms, scalar => by
      unfold keySlots keyPaths
      split
      case isTrue key => exact absurd key.2 (scalar.1 key.1)
      case isFalse other => exact keySlots_names ms scalar.2

theorem keySlots_scalar : (ms : MessageMembers) → ms.ScalarKeys isKey →
    ∀ slot ∈ ms.keySlots isKey identifiers, slot.type.isScalar = true
  | nil, _ => nofun
  | leaf m ms, scalar => by
      unfold keySlots
      split
      case isTrue key =>
        exact List.forall_mem_cons.mpr ⟨scalar.1 key.1 key.2, keySlots_scalar ms scalar.2⟩
      case isFalse => exact keySlots_scalar ms scalar.2
  | nested _ _ ms, scalar => keySlots_scalar ms scalar.2

theorem keyPaths_sublist (isKey : Bytes → Bool) :
    (ms : MessageMembers) → (ms.keyPaths isKey).Sublist ms.names
  | nil => .slnil
  | leaf m ms => by
      have path : nestedContentFilterPath [] m.name = m.name := by
        simp [nestedContentFilterPath, m.named]
      unfold keyPaths names
      rw [path]
      split
      · exact (keyPaths_sublist isKey ms).cons₂ _
      · exact (keyPaths_sublist isKey ms).cons _
  | nested m _ ms => by
      have path : nestedContentFilterPath [] m.name = m.name := by
        simp [nestedContentFilterPath, m.named]
      unfold keyPaths names
      rw [path]
      split
      · exact (keyPaths_sublist isKey ms).cons₂ _
      · exact (keyPaths_sublist isKey ms).cons _

end MessageMembers

/-! ## Other contents -/

section
open Layout

theorem layoutU64_local : Local layoutU64 := (Local.fixed 8).bind fun _ => Local.pure _

theorem LeafType.layout_local (t : LeafType) : Local t.layout := by
  cases t with
  | primitive type => exact (Local.fixed _).bind fun _ => Local.pure ()
  | string upperBound =>
      exact layoutU64_local.bind fun _ => (Local.require _).bind fun _ => Local.block _
  | wstring upperBound =>
      exact layoutU64_local.bind fun _ => (Local.require _).bind fun _ =>
        (Local.require _).bind fun _ => Local.block _

theorem layoutField_local {member : Layout Unit} (each : Local member)
    (array : Option ArrayLayout) : Local (layoutField rt array member) := by
  cases array with
  | none => exact each
  | some l =>
      exact layoutU64_local.bind fun _ => (Local.require _).bind fun _ =>
        (Local.require _).bind fun _ => each.times _

theorem MessageMembers.layoutFields_local : (ms : MessageMembers) → Local (ms.layoutFields rt)
  | nil => Local.pure ()
  | leaf m rest =>
      (layoutField_local m.type.layout_local m.array).bind fun _ => rest.layoutFields_local
  | nested m members rest =>
      (layoutField_local (layoutU64_local.bind fun _ => (Local.require _).bind fun _ =>
        members.layoutFields_local) m.array).bind fun _ => rest.layoutFields_local

/-- The octets of a content. -/
def LeafType.contentOctets : LeafType → Bytes → Bytes
  | .primitive _, content => content
  | .string _, content | .wstring _, content => leBytes 8 content.length ++ content

theorem lays_layoutU64 {n : Nat} (fits : n < 2 ^ 64) : Lays layoutU64 (leBytes 8 n) n := by
  have laid := (Lays.fixed (length_leBytes 8 n)).bind
    (k := fun octets => (Pure.pure (leValue octets) : Layout Nat)) (Lays.pure _)
  rw [List.append_nil, leValue_leBytes (by omega)] at laid
  exact laid

theorem LeafType.lays_content {t : LeafType} (scalar : t.isScalar = true) {content : Bytes}
    (admits : t.Admits content) (fits : content.length < 2 ^ 64) :
    Lays t.layoutContent (t.contentOctets content) content := by
  cases t with
  | primitive type => exact Lays.fixed admits
  | string upperBound =>
      have bounded : 0 < upperBound → content.length ≤ upperBound := admits
      have chars : Lays (do
          Layout.require (0 < upperBound → content.length ≤ upperBound)
          Layout.content content.length) ([] ++ content) content :=
        (Lays.require bounded).bind (Lays.content rfl)
      exact (lays_layoutU64 fits).bind chars
  | wstring upperBound => cases scalar

/-- The text of the other content covers what it has more. -/
theorem LeafType.contentOctets_length {t : LeafType} {content content' bytes rest : Bytes}
    (admits : t.Admits content') (laid : t.layoutContent bytes = .ok (content, rest)) :
    (t.contentOctets content').length + rest.length ≤
      bytes.length + (t.keyValue content').text.length := by
  have fixed {size : Nat} {bytes c rest : Bytes} (h : Layout.fixed size bytes = .ok (c, rest)) :
      bytes.length = size + rest.length := by
    unfold Layout.fixed at h
    split at h
    case isTrue => cases h
    case isFalse =>
      obtain ⟨-, rfl⟩ := Prod.mk.inj (Except.ok.inj h)
      rw [List.length_drop]
      omega
  have shrinks (size : Nat) : Shrinks (Layout.content size) := by
    intro bytes c rest h
    obtain ⟨used, rfl, -⟩ := Local.content size bytes c rest h
    rw [List.length_append]
    omega
  cases t with
  | primitive type =>
      have size : content'.length = Rmw.primitiveSize type := admits
      have taken := fixed laid
      change content'.length + rest.length ≤ _
      omega
  | string upperBound | wstring upperBound =>
      obtain ⟨n, mid, number, laid⟩ := bind_eq_ok laid
      obtain ⟨c, mid', eight, number⟩ := bind_eq_ok number
      obtain ⟨-, rfl⟩ := Prod.mk.inj (Except.ok.inj number)
      have taken := fixed eight
      have less : rest.length ≤ mid'.length := by
        first
        | exact ((Shrinks.require _).bind fun _ => shrinks _) _ _ _ laid
        | exact ((Shrinks.require _).bind fun _ => (Shrinks.require _).bind fun _ =>
            shrinks _) _ _ _ laid
      have text : ((LeafType.string upperBound).keyValue content').text = content' := rfl
      change (leBytes 8 content'.length ++ content').length + rest.length ≤
        bytes.length + content'.length
      rw [List.length_append, length_leBytes]
      omega

namespace MessageMembers

/-- A member that is no key is laid out as before. -/
theorem lays_other {l : Layout Unit} (unmoved : Local l) {k : Layout (List (KeySlot × Bytes))}
    {bytes rest : Bytes} {contents contents' : List (KeySlot × Bytes)} {extra : Nat}
    (laid : (l >>= fun _ => k) bytes = .ok (contents, rest))
    (later : ∀ mid, k mid = .ok (contents, rest) →
      ∃ used, Lays k used contents' ∧ used.length + rest.length ≤ mid.length + extra) :
    ∃ used, Lays (l >>= fun _ => k) used contents' ∧
      used.length + rest.length ≤ bytes.length + extra := by
  obtain ⟨u, mid, first, behind⟩ := bind_eq_ok laid
  obtain ⟨used, rfl, lays⟩ := unmoved _ _ _ first
  obtain ⟨used', lays', short⟩ := later mid behind
  refine ⟨used ++ used', lays.bind lays', ?_⟩
  rw [List.length_append, List.length_append]
  omega

/-- The keys may have any contents of their types. -/
theorem lays_keys (choice : KeySlot → Bytes) :
    (ms : MessageMembers) → ms.ScalarKeys isKey → {bytes rest : Bytes} →
    {contents : List (KeySlot × Bytes)} →
    ms.layoutKeys rt isKey identifiers bytes = .ok (contents, rest) →
    (∀ content ∈ contents, content.1.type.Admits (choice content.1) ∧
      (choice content.1).length < 2 ^ 64) →
    ∃ used, Lays (ms.layoutKeys rt isKey identifiers) used
        (contents.map fun content => (content.1, choice content.1)) ∧
      used.length + rest.length ≤ bytes.length + (contents.map fun content =>
        (content.1.type.keyValue (choice content.1)).text.length).sum
  | nil, _, _, _, _, laid, _ => by
      obtain ⟨rfl, rfl⟩ := Prod.mk.inj (Except.ok.inj laid)
      exact ⟨[], Lays.pure _, by simp⟩
  | leaf m ms, scalar, _, _, _, laid, chosen => by
      unfold layoutKeys at laid ⊢
      split at laid
      case isTrue key =>
        rw [dif_pos key]
        obtain ⟨content, mid, first, laid⟩ := bind_eq_ok laid
        obtain ⟨contents, mid', later, laid⟩ := bind_eq_ok laid
        obtain ⟨rfl, rfl⟩ := Prod.mk.inj (Except.ok.inj laid)
        obtain ⟨⟨admits, fits⟩, others⟩ := List.forall_mem_cons.mp chosen
        have short := LeafType.contentOctets_length admits first
        obtain ⟨used, lays, short'⟩ := lays_keys choice ms scalar.2 later others
        refine ⟨_, (LeafType.lays_content (scalar.1 key.1 key.2) admits fits).bind
          (lays.bind (Lays.pure _)), ?_⟩
        rw [List.append_nil, List.length_append, List.map_cons, List.sum_cons]
        dsimp only at short ⊢
        omega
      case isFalse other =>
        rw [dif_neg other]
        exact lays_other (layoutField_local m.type.layout_local m.array) laid fun mid laid =>
          lays_keys choice ms scalar.2 laid chosen
  | nested m members ms, scalar, _, _, _, laid, chosen => by
      have unmoved : Local (do
          let memberCount ← layoutU64
          Layout.require (memberCount = members.memberCount)
          members.layoutFields rt) :=
        layoutU64_local.bind fun _ => (Local.require _).bind fun _ => members.layoutFields_local
      exact lays_other (layoutField_local unmoved m.array) laid fun mid laid =>
        lays_keys choice ms scalar.2 laid chosen

end MessageMembers

end

/-! ## The key is the text of the fields -/

/-- Arrays of any size can be had. -/
def anyMemory : IntrospectionRuntime where
  family := .c
  assigns _ := true
  resizes _ := true
  arrayObject _ _ := 0

theorem findField_of_filter {fields : ReflectedFields} {isKey : Bytes → Bool} {path text : Bytes}
    (nodup : ((fields.filter fun f => isKey f.1).map Prod.fst).Nodup)
    (member : (path, text) ∈ fields.filter fun f => isKey f.1) : findField fields path = some text := by
  have among : (path, text) ∈ fields.reverse := List.mem_reverse.mpr (List.mem_of_mem_filter member)
  unfold findField
  cases found : fields.reverse.find? fun field => field.1 = path with
  | none =>
      have never := List.find?_eq_none.mp found _ among
      simp at never
  | some field =>
      have at_ : field.1 = path := by simpa using List.find?_some found
      have inside : field ∈ fields := List.mem_reverse.mp (List.mem_of_find?_eq_some found)
      have key : isKey path = true := (List.mem_filter.mp member).2
      have kept : field ∈ fields.filter fun f => isKey f.1 :=
        List.mem_filter.mpr ⟨inside, at_ ▸ key⟩
      rw [List.inj_on_of_nodup_map nodup kept member at_]
      rfl

namespace KeyedMessage

variable (message : KeyedMessage)

def layout : Layout (List (KeySlot × Bytes)) := do
  let memberCount ← layoutU64
  Layout.require (memberCount = message.members.memberCount)
  message.members.layoutKeys anyMemory message.isKey message.identifiers

/-- The contents of the keys in a payload that is laid out as described. -/
def keyContents (payload : Bytes) : Option (List (KeySlot × Bytes)) :=
  match message.layout payload with
  | .ok (contents, []) => some contents
  | _ => none

/-- The values of the keys. -/
def keyValues (payload : Bytes) : Option (List (Bytes × KeyValue)) :=
  (message.keyContents payload).map fun contents =>
    contents.map fun content => (content.1.name, content.1.type.keyValue content.2)

/-- The fields of the key, as `std::sort` orders their paths. -/
def sortedFields (contents : List (KeySlot × Bytes)) : List (KeySlot × Bytes) :=
  (contents.map fun content => (content.1, (content.1.type.keyValue content.2).text)).mergeSort
    fun left right => pathLe left.1.name right.1.name

variable {message} {payload : Bytes} {contents : List (KeySlot × Bytes)}

variable (floatingText) in
theorem layout_follows (message : KeyedMessage) : Follows .rejected anyMemory.Holds message.layout
    (message.members.reflectMessage floatingText []) (MessageMembers.Agree message.isKey) := by
  refine follows_readU64.bind fun n n' same => ?_
  obtain ⟨rfl, -⟩ := same
  exact (Follows.require _).bind fun _ _ _ =>
    MessageMembers.reflectFields_agree message.members message.scalarKeys

theorem holds_of_small (small : payload.length < 2 ^ 63) : anyMemory.Holds payload :=
  ⟨small, fun _ _ => ⟨rfl, rfl⟩⟩

theorem layout_of_contents (isContents : message.keyContents payload = some contents) :
    message.layout payload = .ok (contents, []) := by
  unfold keyContents at isContents
  split at isContents
  case h_1 laid =>
    cases isContents
    exact laid
  case h_2 => cases isContents

theorem contents_slots (isContents : message.keyContents payload = some contents) :
    contents.map Prod.fst = message.members.keySlots message.isKey message.identifiers := by
  obtain ⟨_, mid, -, laid⟩ := Layout.bind_eq_ok (layout_of_contents isContents)
  obtain ⟨_, mid', -, laid⟩ := Layout.bind_eq_ok laid
  exact MessageMembers.layoutKeys_slots _ laid

variable (floatingText) in
/-- A payload is reflected where it is laid out as described. -/
theorem typedFields_of_contents (small : payload.length < 2 ^ 63)
    (isContents : message.keyContents payload = some contents) :
    ∃ fields, contentFilterTypedFields floatingText message.members payload = some fields ∧
      MessageMembers.Agree message.isKey contents fields := by
  have laid := layout_of_contents isContents
  obtain ⟨-, fields, offset, read, agree, inside, left⟩ :=
    (layout_follows floatingText message payload 0 (holds_of_small small) (Nat.zero_le _)).of_ok laid
  have lengths := congrArg List.length left
  rw [List.length_drop, List.length_nil] at lengths
  refine ⟨fields, ?_, agree⟩
  rw [contentFilterTypedFields, read]
  exact if_pos (by omega)

theorem typedFields_of_none (small : payload.length < 2 ^ 63)
    (noContents : message.keyContents payload = none) :
    contentFilterTypedFields floatingText message.members payload = none := by
  have follows := layout_follows floatingText message payload 0
    (holds_of_small small) (Nat.zero_le _)
  unfold keyContents at noContents
  cases laid : message.layout payload with
  | error stop =>
      obtain ⟨stops, -⟩ := follows.of_error laid
      rw [contentFilterTypedFields, Option.isNone_iff_eq_none.mp stops]
  | ok result =>
      obtain ⟨contents, rest⟩ := result
      obtain ⟨-, fields, offset, read, -, inside, left⟩ := follows.of_ok laid
      rw [contentFilterTypedFields, read]
      apply if_neg
      intro end_
      rw [laid, left, end_, List.drop_length] at noContents
      cases noContents

theorem contents_names (isContents : message.keyContents payload = some contents) :
    contents.map (fun content => content.1.name) = message.members.keyPaths message.isKey := by
  have names : (message.members.keySlots message.isKey message.identifiers).map KeySlot.name = _ :=
    MessageMembers.keySlots_names message.members message.scalarKeys
  rw [← names, ← contents_slots isContents, List.map_map]
  rfl

theorem names_nodup (isContents : message.keyContents payload = some contents) :
    (contents.map fun content => content.1.name).Nodup := by
  rw [contents_names isContents]
  exact message.distinct.sublist (MessageMembers.keyPaths_sublist message.isKey message.members)

theorem mem_sortedFields {field : KeySlot × Bytes} : field ∈ sortedFields contents ↔
    ∃ content ∈ contents, (content.1, (content.1.type.keyValue content.2).text) = field := by
  rw [sortedFields, List.mem_mergeSort, List.mem_map]

theorem sortedFields_names (contents : List (KeySlot × Bytes)) :
    (sortedFields contents).map (fun field => field.1.name) =
      (contents.map fun content => content.1.name).mergeSort pathLe := by
  have sorted := List.map_mergeSort (l := contents.map fun content =>
    (content.1, (content.1.type.keyValue content.2).text))
    (r := fun left right => pathLe left.1.name right.1.name) (s := pathLe)
    (f := fun field => field.1.name) fun _ _ _ _ => rfl
  rw [List.map_map] at sorted
  exact sorted

variable (floatingText) in
theorem key_text (small : payload.length < 2 ^ 63)
    (keyed : message.members.keyPaths message.isKey ≠ [])
    (isContents : message.keyContents payload = some contents) :
    ∃ key, computePublishInstanceKey floatingText message payload = some key ∧
      0x1F :: key = keyFields.text (sortedFields contents) := by
  obtain ⟨fields, reflected, -, agree⟩ :=
    typedFields_of_contents floatingText small isContents
  have nodup : ((fields.filter fun field => message.isKey field.1).map Prod.fst).Nodup := by
    rw [agree, List.map_map]
    exact names_nodup isContents
  have found : ∀ field ∈ sortedFields contents, findField fields field.1.name = some field.2 := by
    intro field member
    obtain ⟨content, among, rfl⟩ := mem_sortedFields.mp member
    apply findField_of_filter nodup
    rw [agree]
    exact List.mem_map_of_mem among
  refine ⟨((message.members.keyPaths message.isKey).mergeSort pathLe).flatMap fun path =>
    path ++ (61 :: ((findField fields path).getD [] ++ [0x1F])), ?_, ?_⟩
  · unfold computePublishInstanceKey
    dsimp only
    rw [if_neg keyed, reflected]
  · rw [Delimited.text_eq_flatMap, ← contents_names isContents, ← sortedFields_names,
      List.flatMap_map]
    apply congrArg (0x1F :: ·)
    apply List.flatMap_congr
    intro field member
    rw [found field member]
    rfl

theorem key_of_none (small : payload.length < 2 ^ 63)
    (noContents : message.keyContents payload = none) :
    computePublishInstanceKey floatingText message payload = none := by
  unfold computePublishInstanceKey
  dsimp only
  split
  · rfl
  · rw [typedFields_of_none small noContents]

/-! ## Two payloads -/

variable {payload' : Bytes} {contents' : List (KeySlot × Bytes)}

theorem contents_admitted (small : payload.length < 2 ^ 63)
    (isContents : message.keyContents payload = some contents) :
    ∀ content ∈ contents, content.1.type.Admits content.2 := by
  obtain ⟨_, -, admits, -⟩ :=
    typedFields_of_contents (fun _ _ => []) small isContents
  exact admits

theorem sortedFields_filled (admits : ∀ content ∈ contents, content.1.type.Admits content.2) :
    keyFields.Filled (sortedFields contents) := by
  intro field member
  obtain ⟨content, among, rfl⟩ := mem_sortedFields.mp member
  exact ⟨content.2, admits content among, rfl⟩

theorem sortedFields_nodup (nodup : (contents.map fun content => content.1.name).Nodup) :
    ((sortedFields contents).map fun field => keyFields.name field.1).Nodup := by
  change ((sortedFields contents).map fun field => field.1.name).Nodup
  rw [sortedFields_names]
  exact (List.mergeSort_perm _ _).nodup_iff.mpr nodup

theorem sortedFields_slots (slots : contents'.map Prod.fst = contents.map Prod.fst) :
    (sortedFields contents').map Prod.fst = (sortedFields contents).map Prod.fst := by
  have sorted (contents : List (KeySlot × Bytes)) : (sortedFields contents).map Prod.fst =
      (contents.map Prod.fst).mergeSort fun left right => pathLe left.name right.name := by
    have := List.map_mergeSort (l := contents.map fun content =>
      (content.1, (content.1.type.keyValue content.2).text))
      (r := fun left right => pathLe left.1.name right.1.name)
      (s := fun left right => pathLe left.name right.name) (f := Prod.fst) fun _ _ _ _ => rfl
    rw [List.map_map] at this
    exact this
  rw [sorted, sorted, slots]

/-- Contents with the same fields have the same values. -/
theorem values_of_sortedFields (slots : contents'.map Prod.fst = contents.map Prod.fst)
    (nodup : (contents'.map fun content => content.1.name).Nodup)
    (same : sortedFields contents = sortedFields contents') :
    contents.map (fun content => (content.1.name, content.1.type.keyValue content.2)) =
      contents'.map fun content => (content.1.name, content.1.type.keyValue content.2) := by
  have lengths : contents.length = contents'.length := by
    have := congrArg List.length slots
    rwa [List.length_map, List.length_map, eq_comm] at this
  apply List.ext_getElem
  · rw [List.length_map, List.length_map, lengths]
  · intro i inside inside'
    rw [List.length_map] at inside inside'
    rw [List.getElem_map, List.getElem_map]
    have slot : contents'[i].1 = contents[i].1 := by
      have here := congrArg (·[i]?) slots
      simpa [inside, inside'] using here
    have member : (contents[i].1, (contents[i].1.type.keyValue contents[i].2).text) ∈
        sortedFields contents' := by
      rw [← same]
      exact mem_sortedFields.mpr ⟨contents[i], List.getElem_mem inside, rfl⟩
    obtain ⟨content, among, field⟩ := mem_sortedFields.mp member
    obtain ⟨slot', text⟩ := Prod.mk.inj field
    obtain rfl : content = contents'[i] :=
      List.inj_on_of_nodup_map nodup among (List.getElem_mem inside') (by rw [slot', slot])
    rw [slot] at text
    rw [slot, keyValue_injective text]

/-- Contents with the same values have the same fields. -/
theorem sortedFields_of_values (slots : contents'.map Prod.fst = contents.map Prod.fst)
    (same : contents.map (fun content => (content.1.name, content.1.type.keyValue content.2)) =
      contents'.map fun content => (content.1.name, content.1.type.keyValue content.2)) :
    sortedFields contents = sortedFields contents' := by
  have fields (contents : List (KeySlot × Bytes)) :
      contents.map (fun content => (content.1, (content.1.type.keyValue content.2).text)) =
        List.zipWith (fun slot value => (slot, value.2.text)) (contents.map Prod.fst)
          (contents.map fun content => (content.1.name, content.1.type.keyValue content.2)) := by
    rw [List.zipWith_map, List.zipWith_self]
  rw [sortedFields, sortedFields, fields, fields, slots, same]

/-- Records of the same slots are equal if one has all fields of the other. -/
theorem eq_of_forall_mem {fields fields' : List (KeySlot × Bytes)}
    (slots : fields.map Prod.fst = fields'.map Prod.fst) (nodup : (fields'.map Prod.fst).Nodup)
    (all : ∀ field ∈ fields, field ∈ fields') : fields = fields' := by
  have lengths : fields.length = fields'.length := by
    have := congrArg List.length slots
    rwa [List.length_map, List.length_map] at this
  apply List.ext_getElem lengths
  intro i inside inside'
  have slot : fields[i].1 = fields'[i].1 := by
    have here := congrArg (·[i]?) slots
    simpa [inside, inside'] using here
  exact List.inj_on_of_nodup_map nodup (all _ (List.getElem_mem inside)) (List.getElem_mem inside')
    slot

/-- A payload with other contents. -/
theorem exists_payload (isContents : message.keyContents payload = some contents)
    (choice : KeySlot → Bytes) (chosen : ∀ content ∈ contents,
      content.1.type.Admits (choice content.1) ∧ (choice content.1).length < 2 ^ 64) :
    ∃ payload', payload'.length ≤ payload.length + (contents.map fun content =>
        (content.1.type.keyValue (choice content.1)).text.length).sum ∧
      message.keyContents payload' =
        some (contents.map fun content => (content.1, choice content.1)) := by
  obtain ⟨n, mid, first, laid⟩ := Layout.bind_eq_ok (layout_of_contents isContents)
  obtain ⟨count, rfl, lays⟩ := layoutU64_local _ _ _ first
  have members : Layout.Local (Layout.require (n = message.members.memberCount)) :=
    Layout.Local.require _
  obtain ⟨used, lays', short⟩ := MessageMembers.lays_other members laid fun mid laid =>
    MessageMembers.lays_keys choice message.members message.scalarKeys laid chosen
  refine ⟨count ++ used, ?_, ?_⟩
  · rw [List.length_nil] at short
    rw [List.length_append, List.length_append]
    omega
  · have whole : message.layout (count ++ used) =
        .ok (contents.map fun content => (content.1, choice content.1), []) := by
      have laid' := lays.bind (k := fun memberCount => do
        Layout.require (memberCount = message.members.memberCount)
        message.members.layoutKeys anyMemory message.isKey message.identifiers) lays' []
      rwa [List.append_nil] at laid'
    rw [keyContents, whole]

/-- The fields of the key of a payload, in the order of their paths. -/
def keyRecord (message : KeyedMessage) (payload : Bytes) : List (KeySlot × Bytes) :=
  sortedFields ((message.keyContents payload).getD [])

theorem exists_contents (small : payload.length < 2 ^ 63)
    (reflected : (contentFilterTypedFields floatingText message.members payload).isSome) :
    ∃ contents, message.keyContents payload = some contents := by
  cases isContents : message.keyContents payload with
  | none =>
      rw [typedFields_of_none small isContents] at reflected
      cases reflected
  | some contents => exact ⟨contents, rfl⟩

variable (floatingText) in
/-- Equal keys are those of equal values, where one record is not ambiguous. -/
theorem key_eq_iff (keyed : message.members.keyPaths message.isKey ≠ [])
    (small : payload.length < 2 ^ 63) (small' : payload'.length < 2 ^ 63)
    (isContents : message.keyContents payload = some contents)
    (isContents' : message.keyContents payload' = some contents')
    (clear : ¬keyFields.Ambiguous (sortedFields contents)) :
    computePublishInstanceKey floatingText message payload =
        computePublishInstanceKey floatingText message payload' ↔
      message.keyValues payload = message.keyValues payload' := by
  obtain ⟨key, isKey, text⟩ := key_text floatingText small keyed isContents
  obtain ⟨key', isKey', text'⟩ := key_text floatingText small' keyed isContents'
  have slots : contents'.map Prod.fst = contents.map Prod.fst := by
    rw [contents_slots isContents, contents_slots isContents']
  have values : message.keyValues payload = message.keyValues payload' ↔
      contents.map (fun content => (content.1.name, content.1.type.keyValue content.2)) =
        contents'.map fun content => (content.1.name, content.1.type.keyValue content.2) := by
    rw [keyValues, keyValues, isContents, isContents', Option.map_some, Option.map_some,
      Option.some.injEq]
  rw [isKey, isKey', values, Option.some.injEq]
  constructor
  · rintro rfl
    by_contra differ
    apply clear
    have alike : keyFields.text (sortedFields contents) = keyFields.text (sortedFields contents') :=
      text.symm.trans text'
    have other : sortedFields contents ≠ sortedFields contents' := fun same =>
      differ (values_of_sortedFields slots (names_nodup isContents') same)
    change keyFields.Ambiguous ([] ++ sortedFields contents)
    exact Delimited.ambiguous_of_text_eq
      (sortedFields_filled (contents_admitted small isContents))
      (sortedFields_nodup (names_nodup isContents))
      (sortedFields_filled (contents_admitted small' isContents')) (sortedFields_slots slots) alike other
  · intro same
    rw [sortedFields_of_values slots same, ← text'] at text
    exact (List.cons.inj text).2

/-- Of a payload with an ambiguous record there is another one with the same key, if the strings
    are not bounded and there is memory for both. -/
theorem exists_collision (keyed : message.members.keyPaths message.isKey ≠ [])
    (isContents : message.keyContents payload = some contents)
    (unbounded : ∀ slot ∈ message.members.keySlots message.isKey message.identifiers,
      ∀ upperBound, slot.type = .string upperBound → upperBound = 0)
    (room : payload.length + (keyFields.text (sortedFields contents)).length < 2 ^ 63)
    (ambiguous : keyFields.Ambiguous (sortedFields contents)) :
    ∃ payload', payload'.length < 2 ^ 63 ∧ (message.keyContents payload').isSome ∧
      computePublishInstanceKey floatingText message payload =
        computePublishInstanceKey floatingText message payload' ∧
      message.keyValues payload ≠ message.keyValues payload' := by
  have small : payload.length < 2 ^ 63 := by omega
  have open_ : ∀ field ∈ sortedFields contents, keyFields.Free field.1 →
      ∀ text, keyFields.Accepts field.1 text := by
    intro field member free text
    obtain ⟨content, among, rfl⟩ := mem_sortedFields.mp member
    have slot : content.1 ∈ message.members.keySlots message.isKey message.identifiers :=
      contents_slots isContents ▸ List.mem_map_of_mem among
    have scalar := MessageMembers.keySlots_scalar _ message.scalarKeys _ slot
    refine ⟨text, ?_, ?_⟩
    · cases type : content.1.type with
      | primitive t => exact absurd type (free t)
      | string upperBound =>
          intro bound
          rw [unbounded _ slot _ type] at bound
          exact absurd bound (Nat.lt_irrefl 0)
      | wstring upperBound =>
          rw [type] at scalar
          cases scalar
    · cases type : content.1.type with
      | primitive t => exact absurd type (free t)
      | string | wstring => rfl
  obtain ⟨fields', slots, filled, alike, differ⟩ := Delimited.exists_other open_
    (sortedFields_filled (contents_admitted small isContents)) ambiguous
  have admitted : ∀ slot, ∃ bytes, slot ∈ contents.map Prod.fst →
      slot.type.Admits bytes ∧ (slot, (slot.type.keyValue bytes).text) ∈ fields' := by
    intro slot
    by_cases among : slot ∈ contents.map Prod.fst
    · have listed : slot ∈ fields'.map Prod.fst := by
        obtain ⟨content, member, rfl⟩ := List.mem_map.mp among
        rw [slots]
        exact List.mem_map.mpr ⟨_, mem_sortedFields.mpr ⟨content, member, rfl⟩, rfl⟩
      obtain ⟨field, member, rfl⟩ := List.mem_map.mp listed
      obtain ⟨bytes, admits, text⟩ := filled field member
      refine ⟨bytes, fun _ => ⟨admits, ?_⟩⟩
      rw [← text]
      exact member
    · exact ⟨[], fun member => absurd member among⟩
  choose choice chosen using admitted
  -- the fields of the chosen contents are those of the other record
  have fields : sortedFields (contents.map fun content => (content.1, choice content.1)) =
      fields' := by
    have same : (contents.map fun content => (content.1, choice content.1)).map Prod.fst =
        contents.map Prod.fst := by
      rw [List.map_map]
      rfl
    apply eq_of_forall_mem
    · rw [slots, sortedFields_slots same]
    · rw [slots]
      have names : (((sortedFields contents).map Prod.fst).map keyFields.name).Nodup := by
        rw [List.map_map]
        exact sortedFields_nodup (names_nodup isContents)
      exact names.of_map _
    · intro field member
      obtain ⟨content, among, rfl⟩ := mem_sortedFields.mp member
      obtain ⟨before, inside, rfl⟩ := List.mem_map.mp among
      exact (chosen before.1 (List.mem_map_of_mem inside)).2
  have texts := Delimited.texts_length_le (D := keyFields) fields'
  have sums : (contents.map fun content =>
      (content.1.type.keyValue (choice content.1)).text.length).sum =
        (fields'.map fun field => field.2.length).sum := by
    rw [← fields, sortedFields, ((List.mergeSort_perm _ _).map _).sum_eq, List.map_map, List.map_map]
    rfl
  have chosen' : ∀ content ∈ contents,
      content.1.type.Admits (choice content.1) ∧ (choice content.1).length < 2 ^ 64 := by
    intro content among
    obtain ⟨admits, member⟩ := chosen content.1 (List.mem_map_of_mem among)
    refine ⟨admits, ?_⟩
    have long : (content.1.type.keyValue (choice content.1)).text.length ≤
        (fields'.map fun field => field.2.length).sum :=
      List.single_le_sum (fun _ _ => Nat.zero_le _) _
        (List.mem_map_of_mem (f := fun field => field.2.length) member)
    rcases LeafType.admits_length admits with few | text
    · omega
    · rw [text] at long
      rw [alike] at texts
      omega
  obtain ⟨payload', short, isContents'⟩ := exists_payload isContents choice chosen'
  rw [sums] at short
  rw [alike] at texts
  have small' : payload'.length < 2 ^ 63 := by omega
  obtain ⟨key, isKey, text⟩ := key_text floatingText small keyed isContents
  obtain ⟨key', isKey', text'⟩ := key_text floatingText small' keyed isContents'
  have slots' : (contents.map fun content => (content.1, choice content.1)).map Prod.fst =
      contents.map Prod.fst := by
    rw [List.map_map]
    rfl
  refine ⟨payload', small', by rw [isContents']; rfl, ?_, ?_⟩
  · rw [fields, alike, ← text] at text'
    rw [isKey, isKey', (List.cons.inj text').2]
  · intro same
    rw [keyValues, keyValues, isContents, isContents', Option.map_some, Option.map_some,
      Option.some.injEq] at same
    rw [sortedFields_of_values slots' same, fields] at differ
    exact differ rfl

/-! ## Instances -/

/-- The payload is laid out as described. -/
def Reflects (floatingText : PrimitiveType → Bytes → Bytes) (message : KeyedMessage)
    (payload : Bytes) : Prop :=
  payload.length < 2 ^ 63 ∧ (contentFilterTypedFields floatingText message.members payload).isSome

/-- The keys of two payloads are those of one instance exactly when the key members are equal, and
    one payload only takes the other's place in the ledger when they are. -/
structure Separates (floatingText : PrimitiveType → Bytes → Bytes) (message : KeyedMessage)
    (payload payload' : Bytes) : Prop where
  key_eq_iff : computePublishInstanceKey floatingText message payload =
      computePublishInstanceKey floatingText message payload' ↔
    message.keyValues payload = message.keyValues payload'
  evicts : ∀ process events s p item, run (LedgerState.step process) .start events = some s →
    p.instanceKey = (computePublishInstanceKey floatingText message payload).getD [] →
    item ∈ s.ledger → item ∉ s.evicted process p →
    item.2.instanceKey = (computePublishInstanceKey floatingText message payload').getD [] →
    message.keyValues payload = message.keyValues payload'

theorem keyRecord_eq (isContents : message.keyContents payload = some contents) :
    message.keyRecord payload = sortedFields contents := by
  rw [keyRecord, isContents, Option.getD_some]

theorem reflects_of_contents (floatingText : PrimitiveType → Bytes → Bytes)
    (small : payload.length < 2 ^ 63) (isContents : (message.keyContents payload).isSome) :
    Reflects floatingText message payload := by
  obtain ⟨contents, isContents⟩ := Option.isSome_iff_exists.mp isContents
  obtain ⟨fields, reflected, -⟩ := typedFields_of_contents floatingText small isContents
  exact ⟨small, by rw [reflected]; rfl⟩

/-- The ledger compares keys. -/
theorem Separates.of_iff (keyed : message.members.keyPaths message.isKey ≠ [])
    (reflects : Reflects floatingText message payload)
    (reflects' : Reflects floatingText message payload')
    (iff : computePublishInstanceKey floatingText message payload =
        computePublishInstanceKey floatingText message payload' ↔
      message.keyValues payload = message.keyValues payload') :
    Separates floatingText message payload payload' where
  key_eq_iff := iff
  evicts process events s p item ran isKey inside dropped isKey' := by
    have numbered : s.Numbered p.publisherId :=
      run_preserves (I := fun s => s.Numbered p.publisherId) (fun held taken => held.step taken)
        (.start p.publisherId) ran
    have same := (Bool.and_eq_true_iff.mp
      (LedgerState.evicted_dropped numbered.distinct inside dropped)).2
    obtain ⟨contents, isContents⟩ := exists_contents reflects.1 reflects.2
    obtain ⟨contents', isContents'⟩ := exists_contents reflects'.1 reflects'.2
    obtain ⟨key, written, -⟩ := key_text floatingText reflects.1 keyed isContents
    obtain ⟨key', written', -⟩ := key_text floatingText reflects'.1 keyed isContents'
    rw [isKey, isKey', written, written', Option.getD_some, Option.getD_some,
      decide_eq_true_eq] at same
    apply iff.mp
    rw [written, written', same]

/-- A payload is separate from all others if no string key of it holds what may stand between two
    string keys. If the strings are not bounded, it is so only then. -/
theorem instance_keys_separate_iff (floatingText : PrimitiveType → Bytes → Bytes)
    (message : KeyedMessage) (payload : Bytes)
    (keyed : message.members.keyPaths message.isKey ≠ [])
    (reflects : Reflects floatingText message payload) :
    (¬keyFields.Ambiguous (message.keyRecord payload) →
      ∀ payload', Reflects floatingText message payload' →
        Separates floatingText message payload payload' ∧
          Separates floatingText message payload' payload) ∧
    ((∀ slot ∈ message.members.keySlots message.isKey message.identifiers,
        ∀ upperBound, slot.type = .string upperBound → upperBound = 0) →
      payload.length + (keyFields.text (message.keyRecord payload)).length < 2 ^ 63 →
      ((∀ payload', Reflects floatingText message payload' →
          Separates floatingText message payload payload') ↔
        ¬keyFields.Ambiguous (message.keyRecord payload))) := by
  obtain ⟨contents, isContents⟩ := exists_contents reflects.1 reflects.2
  rw [keyRecord_eq isContents]
  have separate (clear : ¬keyFields.Ambiguous (sortedFields contents)) (payload' : Bytes)
      (reflects' : Reflects floatingText message payload') :
      Separates floatingText message payload payload' ∧
        Separates floatingText message payload' payload := by
    obtain ⟨contents', isContents'⟩ := exists_contents reflects'.1 reflects'.2
    have iff := KeyedMessage.key_eq_iff floatingText keyed reflects.1 reflects'.1
      isContents isContents' clear
    refine ⟨.of_iff keyed reflects reflects' iff, .of_iff keyed reflects' reflects ?_⟩
    rw [eq_comm, iff, eq_comm]
  refine ⟨separate, fun unbounded room => ⟨?_, fun clear payload' reflects' =>
    (separate clear payload' reflects').1⟩⟩
  intro all ambiguous
  obtain ⟨payload', small', isContents', sameKey, differ⟩ :=
    exists_collision keyed isContents unbounded room ambiguous
  have reflects' := reflects_of_contents floatingText small' isContents'
  exact differ ((all payload' reflects').key_eq_iff.mp sameKey)

/-! ### A separator in a string -/

theorem text_reached (l : ArrayLayout) (isArray : none = some l) :
    l.getFunction = true ∨ ∃ t, LeafType.string 0 = .primitive t :=
  absurd isArray.symm (Option.some_ne_none l)

def textMember (name : Bytes) (named : name ≠ []) : LeafMember where
  name := name
  type := .string 0
  array := none
  named := named
  reached := text_reached

def isAOrB (name : Bytes) : Bool := name = octets "a" || name = octets "b"

theorem isAOrB_identifier (name : Bytes) (key : isAOrB name = true) : isIdentifier name = true := by
  rcases (Bool.or_eq_true _ _).mp key with a | b
  · rw [of_decide_eq_true a]
    rfl
  · rw [of_decide_eq_true b]
    rfl

/-- Two unbounded strings, both of them keys. -/
def twoTexts : KeyedMessage where
  members := .leaf (textMember (octets "a") nofun) (.leaf (textMember (octets "b") nofun) .nil)
  isKey := isAOrB
  identifiers := isAOrB_identifier
  distinct := by decide
  scalarKeys := ⟨fun _ _ => rfl, fun _ _ => rfl, trivial⟩

def textPayload (a b : Bytes) : Bytes :=
  leBytes 8 2 ++ (leBytes 8 a.length ++ a) ++ (leBytes 8 b.length ++ b)

def slotA : KeySlot := ⟨octets "a", .string 0, rfl⟩
def slotB : KeySlot := ⟨octets "b", .string 0, rfl⟩

theorem sortedFields_texts (a b : Bytes) :
    sortedFields [(slotA, a), (slotB, b)] = [(slotA, a), (slotB, b)] := by
  apply List.mergeSort_of_pairwise
  apply List.pairwise_pair.mpr
  rfl

/-- `"x\x1fb=y"`, `"z"` and `"x"`, `"y\x1fb=z"` are written alike. -/
def longA : Bytes := textPayload (octets "x" ++ [0x1F] ++ octets "b=y") (octets "z")
def longB : Bytes := textPayload (octets "x") (octets "y" ++ [0x1F] ++ octets "b=z")

theorem contents_longA : twoTexts.keyContents longA =
    some [(slotA, octets "x" ++ [0x1F] ++ octets "b=y"), (slotB, octets "z")] := by
  rfl

theorem contents_longB : twoTexts.keyContents longB =
    some [(slotA, octets "x"), (slotB, octets "y" ++ [0x1F] ++ octets "b=z")] := by
  rfl

theorem instance_keys_collide : ¬∀ (floatingText : PrimitiveType → Bytes → Bytes)
    (message : KeyedMessage) (payload payload' : Bytes),
    message.members.keyPaths message.isKey ≠ [] → Reflects floatingText message payload →
    Reflects floatingText message payload' → Separates floatingText message payload payload' := by
  intro all
  have keyed : twoTexts.members.keyPaths twoTexts.isKey ≠ [] := by decide
  have smallA : longA.length < 2 ^ 63 := by decide
  have smallB : longB.length < 2 ^ 63 := by decide
  have separates := all (fun _ _ => []) twoTexts longA longB keyed
    (reflects_of_contents _ smallA rfl) (reflects_of_contents _ smallB rfl)
  obtain ⟨key, isKey, text⟩ := key_text (fun _ _ => []) smallA keyed contents_longA
  obtain ⟨key', isKey', text'⟩ := key_text (fun _ _ => []) smallB keyed contents_longB
  rw [sortedFields_texts] at text text'
  have alike : key = key' := (List.cons.inj (text.trans text'.symm)).2
  have values := separates.key_eq_iff.mp (by rw [isKey, isKey', alike])
  exact absurd values (by decide)

theorem not_ambiguous_plain :
    ¬keyFields.Ambiguous [(slotA, octets "x"), (slotB, octets "y")] := by
  rintro ⟨front, a, mid, b, back, mid', fields, -, -, -, -, inside⟩
  have separator := Delimited.separator_mem_between (D := keyFields) mid' b.1
  have plain : ∀ field ∈ [(slotA, octets "x"), (slotB, octets "y")], 0x1F ∉ field.2 := by
    intro field member
    rcases List.mem_cons.mp member with rfl | member
    · decide
    · rw [List.mem_singleton.mp member]
      decide
  rcases inside with inA | inB
  · exact plain a (by rw [fields]; simp) (inA.subset separator)
  · exact plain b (by rw [fields]; simp) (inB.subset separator)

theorem instance_keys_separate_iff_plain :
    Separates (fun _ _ => []) twoTexts (textPayload (octets "x") (octets "y")) longA := by
  have isContents : twoTexts.keyContents (textPayload (octets "x") (octets "y")) =
    some [(slotA, octets "x"), (slotB, octets "y")] := rfl
  have keyed : twoTexts.members.keyPaths twoTexts.isKey ≠ [] := by decide
  have unbounded : ∀ slot ∈ twoTexts.members.keySlots twoTexts.isKey twoTexts.identifiers,
      ∀ upperBound, slot.type = .string upperBound → upperBound = 0 := by
    have slots : twoTexts.members.keySlots twoTexts.isKey twoTexts.identifiers =
      [slotA, slotB] := rfl
    rw [slots]
    intro slot member upperBound type
    rcases List.mem_cons.mp member with rfl | member
    · exact (LeafType.string.inj type).symm
    · rw [List.mem_singleton.mp member] at type
      exact (LeafType.string.inj type).symm
  refine ((instance_keys_separate_iff (fun _ _ => []) twoTexts _ keyed
    (reflects_of_contents _ (by decide) (by rw [isContents]; rfl))).2 unbounded ?_).mpr ?_ longA
    (reflects_of_contents _ (by decide) rfl)
  · rw [keyRecord_eq isContents, sortedFields_texts]
    decide
  · rw [keyRecord_eq isContents, sortedFields_texts]
    exact not_ambiguous_plain

end KeyedMessage

end

end FleetRMW.Rmw
