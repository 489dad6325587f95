import FleetRMW.Lib.Decimal
import FleetRMW.Lib.Eviction

/-! # Reassembly of fragments

A payload that is too long for one datagram travels in fragments, each of which names its
payload, its place, how many there are and how long the whole is. The receiver keeps an
assembly for each payload under the wrapper's text and the payload's name, and gives the
payload out when the last place is filled. A chunk that an assembly gives out was once
stored in it.
-/

namespace FleetRMW.Rmw

open Lib

def fragmentText : Bytes := octets "FLEETQOX_FRAGMENT_V1|"
def repairFragmentText : Bytes := octets "FLEETQOX_REPAIR_FRAGMENT_V1|"
def repairFragmentNackText : Bytes := octets "FLEETQOX_REPAIR_FRAGMENT_NACK_V1|"
def repairFragmentCompletionText : Bytes := octets "FLEETQOX_REPAIR_FRAGMENT_END_V1|"

/-- `kFragmentHistoryTtlNs` -/
def fragmentHistoryTtlNs : Int := 60000000000

/-! ## Wrappers -/

structure Fragment where
  wrapper : Bytes
  id : Bytes
  index : Nat
  count : Nat
  totalSize : Nat
  chunk : Bytes
  inside : index < count

/-- The key of the fragment's assembly. -/
def Fragment.key (f : Fragment) : Bytes := f.wrapper ++ f.id

/-- The token is read as a C string, so what follows a NUL is not looked at. -/
def parseSizeToken (token : Bytes) : Option Nat :=
  if token.isEmpty then none
  else match strtoull (token.takeWhile (· ≠ 0)) with
    | none => none
    | some (negative, value, rest) =>
        if value ≥ 2 ^ 64 ∨ rest ≠ [] then none
        else some (if negative then (2 ^ 64 - value) % 2 ^ 64 else value)

/-- What stands before the next separator, and behind it. -/
def splitField (s : Bytes) : Option (Bytes × Bytes) :=
  match s.dropWhile (· ≠ 124) with
  | [] => none
  | _ :: rest => some (s.takeWhile (· ≠ 124), rest)

def parseFragmentFields (wrapper s : Bytes) : Option Fragment := do
  let (id, s) ← splitField s
  let (index, s) ← splitField s
  let (count, s) ← splitField s
  let (totalSize, chunk) ← splitField s
  if id.isEmpty then none
  let index ← parseSizeToken index
  let count ← parseSizeToken count
  let totalSize ← parseSizeToken totalSize
  if inside : count = 0 ∨ index ≥ count ∨ totalSize = 0 ∨ count > 4096 then none
  else some { wrapper, id, index, count, totalSize, chunk, inside := by omega }

/-- A datagram without a wrapper, with a broken one, or a fragment. -/
inductive Wrapped where
  | other
  | malformed
  | fragment (f : Fragment)

def parseFragment (datagram : Bytes) : Wrapped :=
  let parsed wrapper := match parseFragmentFields wrapper (datagram.drop wrapper.length) with
    | some f => Wrapped.fragment f
    | none => .malformed
  if fragmentText.isPrefixOf datagram then parsed fragmentText
  else if repairFragmentText.isPrefixOf datagram then parsed repairFragmentText
  else .other

/-! ## Assemblies -/

structure FragmentAssembly (σ : Type*) where
  totalSize : Nat
  fragmentCount : Nat
  receivedCount : Nat := 0
  chunks : List Bytes
  received : List Bool
  source : Option σ := none
  lastUpdateNs : Int := 0
  senderCompleteObserved : Bool := false

namespace FragmentAssembly

variable {σ : Type*}

/-- The assembly that a payload's first fragment opens. -/
def opened (f : Fragment) : FragmentAssembly σ where
  totalSize := f.totalSize
  fragmentCount := f.count
  chunks := List.replicate f.count []
  received := List.replicate f.count false

/-- The fragment is one of this payload's. -/
def matches_ (a : FragmentAssembly σ) (f : Fragment) : Bool :=
  a.fragmentCount = f.count && a.totalSize = f.totalSize

def isReceived (a : FragmentAssembly σ) (index : Nat) : Bool := a.received[index]?.getD false

/-- Keep the sender's address, and the chunk where its place is empty. -/
def store (a : FragmentAssembly σ) (f : Fragment) (source : Option σ) (now : Int) :
    FragmentAssembly σ :=
  let a := { a with source := source <|> a.source }
  if a.isReceived f.index then a
  else
    { a with
      chunks := a.chunks.set f.index f.chunk
      received := a.received.set f.index true
      receivedCount := a.receivedCount + 1
      lastUpdateNs := now }

end FragmentAssembly

/-- The transport's settings for assemblies. -/
structure FragmentLimits where
  maxAssemblyBytes : Nat := 16 * 1024 * 1024
  assemblyLimit : Nat := 1024
  assemblyTtlMs : Nat := 60000
  historyLimit : Nat := 1024

structure FragmentTables (σ : Type*) where
  assemblies : Dict Bytes (FragmentAssembly σ) := []
  completed : Dict Bytes Int := []

namespace FragmentTables

variable {σ : Type*}

def cleanupStale (limits : FragmentLimits) (now : Int) (t : FragmentTables σ) :
    FragmentTables σ where
  assemblies := t.assemblies.filter fun e =>
    !(e.2.lastUpdateNs > 0 && now - e.2.lastUpdateNs > limits.assemblyTtlMs * 1000000)
  completed := t.completed.filter fun e => !(now - e.2 > fragmentHistoryTtlNs)

def rememberCompleted (limits : FragmentLimits) (key : Bytes) (now : Int)
    (t : FragmentTables σ) : FragmentTables σ :=
  { t with
    completed := (t.completed.set key now).evictWhileAtLeast id
      (max 64 (max limits.historyLimit 1 * 4) + 1) }

/-- The assembly of the fragment, which may first be opened; an open one is driven out for it
    where there are too many. -/
def openAssembly (limits : FragmentLimits) (t : FragmentTables σ) (f : Fragment) :
    FragmentTables σ × FragmentAssembly σ :=
  match t.assemblies.get? f.key with
  | some a => (t, a)
  | none =>
      let kept := if limits.assemblyLimit > 0 then
          t.assemblies.evictWhileAtLeast FragmentAssembly.lastUpdateNs limits.assemblyLimit
        else t.assemblies
      ({ t with assemblies := kept }, .opened f)

def oversize (limits : FragmentLimits) (f : Fragment) : Bool :=
  (limits.maxAssemblyBytes > 0 && f.totalSize > limits.maxAssemblyBytes) ||
    f.chunk.length > f.totalSize

/-- `none` where the datagram is no fragment; otherwise the payload, when this fragment
    completes it. -/
def tryReassembleFragment (limits : FragmentLimits) (t : FragmentTables σ) (datagram : Bytes)
    (source : Option σ) (now : Int) : Option (Bytes × FragmentTables σ) :=
  match parseFragment datagram with
  | .other => none
  | .malformed => some ([], t)
  | .fragment f =>
      if oversize limits f then some ([], t)
      else
        let t := t.cleanupStale limits now
        if (t.completed.get? f.key).isSome then some ([], t)
        else
          let (t, a) := t.openAssembly limits f
          if !a.matches_ f then some ([], { t with assemblies := t.assemblies.set f.key a })
          else
            let a := a.store f source now
            if a.receivedCount ≠ a.fragmentCount then
              some ([], { t with assemblies := t.assemblies.set f.key a })
            else
              let reassembled := a.chunks.flatten
              let t := { t with assemblies := t.assemblies.erase f.key }
              if reassembled.length ≠ f.totalSize then some ([], t)
              else some (reassembled, t.rememberCompleted limits f.key now)

end FragmentTables

/-! ## Where the chunks come from -/

/-- As many places are marked as counted, and the chunk at a marked place has an origin. -/
structure FragmentAssembly.Sound {σ : Type*} (origin : Bytes → Prop) (a : FragmentAssembly σ) :
    Prop where
  places : a.chunks.length = a.fragmentCount
  marks : a.received.length = a.fragmentCount
  counted : a.receivedCount = a.received.count true
  origin : ∀ (i : Nat) c, a.received[i]? = some true → a.chunks[i]? = some c → origin c

namespace FragmentAssembly

variable {σ : Type*} {origin origin' : Bytes → Prop} {a : FragmentAssembly σ} {f : Fragment}

/-- The fragment belongs to the assembly and fills an empty place. -/
def takes (a : FragmentAssembly σ) (f : Fragment) : Bool := a.matches_ f && !a.isReceived f.index

theorem Sound.mono (sound : a.Sound origin) (weaker : ∀ c, origin c → origin' c) :
    a.Sound origin' :=
  ⟨sound.places, sound.marks, sound.counted, fun i c marked at_ =>
    weaker c (sound.origin i c marked at_)⟩

theorem opened_sound (f : Fragment) : (opened f : FragmentAssembly σ).Sound origin where
  places := List.length_replicate
  marks := List.length_replicate
  counted := by simp [opened, List.count_replicate]
  origin i c marked := by simp [opened, List.getElem?_replicate] at marked

theorem Sound.store (source : Option σ) (now : Int) (sound : a.Sound origin) (belongs : a.matches_ f)
    (stored : a.takes f → origin f.chunk) : (a.store f source now).Sound origin := by
  unfold FragmentAssembly.store
  dsimp only
  split
  case isTrue => exact ⟨sound.places, sound.marks, sound.counted, sound.origin⟩
  case isFalse new =>
    have empty : ¬a.isReceived f.index := new
    have count : a.fragmentCount = f.count := by
      simp only [matches_, Bool.and_eq_true, decide_eq_true_eq] at belongs
      exact belongs.1
    have inside : f.index < a.received.length := by rw [sound.marks, count]; exact f.inside
    have unmarked : a.received[f.index] = false := by
      simpa [isReceived, List.getElem?_eq_getElem inside] using empty
    refine ⟨by rw [List.length_set]; exact sound.places, by rw [List.length_set]; exact sound.marks,
      ?_, ?_⟩
    · have before := sound.counted
      rw [List.count_set inside, unmarked]
      simp only [before]
      simp
    · intro i c marked at_
      obtain rfl | other := eq_or_ne f.index i
      · have here : f.index < a.chunks.length := by rw [sound.places, count]; exact f.inside
        obtain rfl : f.chunk = c := by
          simpa only [List.getElem?_set_self here, Option.some.injEq] using at_
        exact stored (by simp only [takes, belongs, empty, Bool.not_false, Bool.and_self])
      · rw [List.getElem?_set_ne other] at marked at_
        exact sound.origin i c marked at_

/-- In a full assembly every chunk has an origin. -/
theorem Sound.full (sound : a.Sound origin) (full : a.receivedCount = a.fragmentCount) :
    ∀ c ∈ a.chunks, origin c := by
  intro c among
  have all : a.received.count true = a.received.length := by
    rw [← sound.counted, full, sound.marks]
  obtain ⟨i, at_⟩ := List.mem_iff_getElem?.mp among
  have inside : i < a.received.length := by
    rw [sound.marks, ← sound.places]
    exact (List.getElem?_eq_some_iff.mp at_).1
  have marked : a.received[i]? = some true := by
    rw [List.getElem?_eq_getElem inside]
    exact congrArg some (List.count_eq_length.mp all _ (List.getElem_mem inside)).symm
  exact sound.origin i c marked at_

end FragmentAssembly

namespace FragmentTables

variable {σ : Type*} {origin origin' : Bytes → Bytes → Prop} {t t' : FragmentTables σ}
  {limits : FragmentLimits} {f : Fragment} {datagram payload : Bytes} {source : Option σ}
  {now : Int}

/-- Every stored chunk has an origin for the key of its assembly. -/
def Sound (origin : Bytes → Bytes → Prop) (t : FragmentTables σ) : Prop :=
  ∀ e ∈ t.assemblies, e.2.Sound (origin e.1)

/-- The fragment's chunk will be stored. -/
def takes (limits : FragmentLimits) (t : FragmentTables σ) (f : Fragment) (now : Int) : Bool :=
  !oversize limits f && ((t.cleanupStale limits now).completed.get? f.key).isNone &&
    ((t.cleanupStale limits now).openAssembly limits f).2.takes f

theorem Sound.mono (sound : t.Sound origin)
    (weaker : ∀ e ∈ t.assemblies, ∀ c, origin e.1 c → origin' e.1 c) : t.Sound origin' :=
  fun e among => (sound e among).mono (weaker e among)

theorem Sound.cleanupStale (limits : FragmentLimits) (now : Int) (sound : t.Sound origin) :
    (t.cleanupStale limits now).Sound origin :=
  fun e among => sound e (List.mem_of_mem_filter among)

theorem Sound.openAssembly (limits : FragmentLimits) (f : Fragment) (sound : t.Sound origin) :
    (t.openAssembly limits f).1.Sound origin ∧
      (t.openAssembly limits f).2.Sound (origin f.key) := by
  unfold FragmentTables.openAssembly
  split
  case h_1 a found => exact ⟨sound, sound _ (Dict.mem_of_get? found)⟩
  case h_2 =>
    refine ⟨fun e among => ?_, FragmentAssembly.opened_sound f⟩
    dsimp only at among
    split at among
    · exact sound e (Dict.mem_of_mem_evictWhileAtLeast among)
    · exact sound e among

theorem Sound.set (sound : t.Sound origin) {key : Bytes} {a : FragmentAssembly σ}
    (new : a.Sound (origin key)) :
    ({ t with assemblies := t.assemblies.set key a } : FragmentTables σ).Sound origin := by
  intro e among
  rcases Dict.mem_set among with rfl | old
  · exact new
  · exact sound e old

/-- What one datagram does: the tables stay sound where the chunk has an origin if it is stored,
    and a payload that is given out consists of chunks with an origin. -/
theorem Sound.tryReassembleFragment (sound : t.Sound origin)
    (parsed : parseFragment datagram = .fragment f)
    (stored : t.takes limits f now → origin f.key f.chunk)
    (h : t.tryReassembleFragment limits datagram source now = some (payload, t')) :
    t'.Sound origin ∧
      (payload ≠ [] → ∃ chunks : List Bytes, payload = chunks.flatten ∧
        ∀ c ∈ chunks, origin f.key c) := by
  simp only [FragmentTables.tryReassembleFragment, parsed] at h
  split at h
  case isTrue =>
    obtain ⟨rfl, rfl⟩ := Prod.mk.inj (Option.some.inj h)
    exact ⟨sound, fun some_ => absurd rfl some_⟩
  case isFalse fits =>
    have cleaned := sound.cleanupStale limits now
    split at h
    case isTrue =>
      obtain ⟨rfl, rfl⟩ := Prod.mk.inj (Option.some.inj h)
      exact ⟨cleaned, fun some_ => absurd rfl some_⟩
    case isFalse running =>
      obtain ⟨tables, assembly⟩ := cleaned.openAssembly limits f
      split at h
      case isTrue =>
        obtain ⟨rfl, rfl⟩ := Prod.mk.inj (Option.some.inj h)
        exact ⟨tables.set assembly, fun some_ => absurd rfl some_⟩
      case isFalse belongs =>
        have filled := assembly.store source now (by simpa using belongs)
          fun taken => stored (by simp [FragmentTables.takes, fits, taken,
            Option.not_isSome_iff_eq_none.mp running])
        split at h
        case isTrue =>
          obtain ⟨rfl, rfl⟩ := Prod.mk.inj (Option.some.inj h)
          exact ⟨tables.set filled, fun some_ => absurd rfl some_⟩
        case isFalse full =>
          have erased : ∀ e ∈ (_ : FragmentTables σ).assemblies.erase f.key, e.2.Sound (origin e.1) :=
            fun e among => tables e (Dict.mem_of_mem_erase among)
          split at h
          case isTrue =>
            obtain ⟨rfl, rfl⟩ := Prod.mk.inj (Option.some.inj h)
            exact ⟨erased, fun some_ => absurd rfl some_⟩
          case isFalse =>
            obtain ⟨rfl, rfl⟩ := Prod.mk.inj (Option.some.inj h)
            exact ⟨erased, fun _ => ⟨_, rfl, filled.full (not_not.mp full)⟩⟩

end FragmentTables

end FleetRMW.Rmw
