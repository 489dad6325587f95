import FleetRMW.Lib.Run
import FleetRMW.Rmw.Fragments
import Mathlib.Data.Finset.Card
import Mathlib.Data.Finset.Range
import Mathlib.Data.List.TakeWhile

/-! # Reassembly is exact

The sender cuts a payload into chunks of one size and sends each of them, as often as it is
asked to, behind a text that names the payload. As long as no limit is reached, the receiver
gives a payload out when the last of its fragments has arrived, and what it gives out is the
payload.
-/

namespace FleetRMW.Rmw

open Lib

/-! ## The sender -/

/-- A payload under its id, as `send_loss_resilient_fragmented_payload_to_targets` cuts it. -/
structure FragmentedPayload where
  fragmentId : Bytes
  payload : Bytes
  chunkBytes : Nat
  identified : fragmentId ≠ []
  plain : 124 ∉ fragmentId
  filled : payload ≠ []
  positive : 0 < chunkBytes
  few : (payload.length + chunkBytes - 1) / chunkBytes ≤ 4096
  fits : payload.length < 2 ^ 64

namespace FragmentedPayload

def fragmentCount (p : FragmentedPayload) : Nat :=
  (p.payload.length + p.chunkBytes - 1) / p.chunkBytes

def chunk (p : FragmentedPayload) (index : Nat) : Bytes :=
  let offset := index * p.chunkBytes
  (p.payload.drop offset).take (min p.chunkBytes (p.payload.length - offset))

/-- What stands behind the wrapper's text. -/
def fields (p : FragmentedPayload) (index : Nat) : Bytes :=
  p.fragmentId ++ 124 :: (decimal index ++ 124 :: (decimal p.fragmentCount ++
    124 :: (decimal p.payload.length ++ 124 :: p.chunk index)))

def fragment (p : FragmentedPayload) (index : Nat) : Bytes := repairFragmentText ++ p.fields index

/-- The datagrams that are sent up to the first index that does not exist, and whether all
    exist. -/
def sendLossResilientFragmentIndexes (p : FragmentedPayload) : List Nat → List Bytes × Bool
  | [] => ([], true)
  | index :: indexes =>
      if index ≥ p.fragmentCount then ([], false)
      else
        let (sent, ok) := p.sendLossResilientFragmentIndexes indexes
        (p.fragment index :: sent, ok)

variable {p : FragmentedPayload} {index : Nat}

theorem mem_sendLossResilientFragmentIndexes {datagram : Bytes} {indexes : List Nat}
    (sent : datagram ∈ (p.sendLossResilientFragmentIndexes indexes).1) :
    ∃ index < p.fragmentCount, datagram = p.fragment index := by
  induction indexes with
  | nil => cases sent
  | cons index indexes ih =>
      simp only [sendLossResilientFragmentIndexes] at sent
      split at sent
      case isTrue => cases sent
      case isFalse inside =>
        rcases List.mem_cons.mp sent with rfl | later
        · exact ⟨index, not_le.mp inside, rfl⟩
        · exact ih later

theorem chunk_eq (p : FragmentedPayload) (index : Nat) :
    p.chunk index = (p.payload.drop (index * p.chunkBytes)).take p.chunkBytes := by
  simp only [chunk]
  rw [List.take_eq_take_iff, List.length_drop]
  omega

/-- The chunks in front of a place are the front of the payload. -/
theorem flatten_chunks (p : FragmentedPayload) (n : Nat) :
    ((List.range n).map p.chunk).flatten = p.payload.take (n * p.chunkBytes) := by
  induction n with
  | zero => simp
  | succ n ih =>
      rw [List.range_succ, List.map_append, List.flatten_append, ih, List.map_singleton,
        List.flatten_singleton, chunk_eq, ← List.take_add, Nat.succ_mul]

theorem length_le_fragmentCount_mul (p : FragmentedPayload) :
    p.payload.length ≤ p.fragmentCount * p.chunkBytes := by
  have positive := p.positive
  have quotient := Nat.div_add_mod (p.payload.length + p.chunkBytes - 1) p.chunkBytes
  have remainder := Nat.mod_lt (p.payload.length + p.chunkBytes - 1) positive
  unfold fragmentCount
  rw [Nat.mul_comm]
  omega

theorem fragmentCount_pos (p : FragmentedPayload) : 0 < p.fragmentCount := by
  have length := List.length_pos_of_ne_nil p.filled
  have covers := p.length_le_fragmentCount_mul
  by_contra none_
  rw [Nat.eq_zero_of_not_pos none_, Nat.zero_mul] at covers
  omega

theorem flatten_allChunks (p : FragmentedPayload) :
    ((List.range p.fragmentCount).map p.chunk).flatten = p.payload := by
  rw [flatten_chunks, List.take_of_length_le p.length_le_fragmentCount_mul]

end FragmentedPayload

/-! ## What the receiver reads -/

theorem splitField_append {field : Bytes} (plain : 124 ∉ field) (rest : Bytes) :
    splitField (field ++ 124 :: rest) = some (field, rest) := by
  have none_ : ∀ c ∈ field, (decide (c ≠ 124)) = true := fun c among =>
    decide_eq_true fun same => plain (same ▸ among)
  have dropped : (field ++ 124 :: rest).dropWhile (· ≠ 124) = 124 :: rest := by
    rw [List.dropWhile_append_of_pos none_]
    rfl
  have taken : (field ++ 124 :: rest).takeWhile (· ≠ 124) = field := by
    rw [List.takeWhile_append_of_pos none_]
    simp
  simp only [splitField, dropped, taken]

theorem decimal_plain (n : Nat) : 124 ∉ decimal n := decimal_notMem (by decide) n

theorem strtoull_decimal (n : Nat) : strtoull (decimal n) = some (false, n, []) := by
  have digits := decimal_isDecimal n
  obtain ⟨d, rest, text⟩ := List.exists_cons_of_ne_nil (decimal_ne_nil n)
  have digit : isDecimal d := digits d (by rw [text]; exact List.mem_cons_self)
  have noSpace : isSpace d = false := by
    simp only [isDecimal, isSpace] at digit ⊢
    grind
  have start : (decimal n).dropWhile isSpace = decimal n := by
    rw [text, List.dropWhile_cons_of_neg (by simp [noSpace])]
  have all : (decimal n).takeWhile isDecimal = decimal n := List.takeWhile_eq_self_iff.mpr digits
  have none_ : (decimal n).dropWhile isDecimal = [] := List.dropWhile_eq_nil_iff.mpr digits
  have whole : decimalValue (decimal n) = n := decimalValue_decimal n
  unfold strtoull
  simp only [start]
  rw [text] at all none_ whole ⊢
  split
  case h_1 same =>
    obtain ⟨rfl, -⟩ := List.cons.inj same
    cases digit
  case h_2 same =>
    obtain ⟨rfl, -⟩ := List.cons.inj same
    cases digit
  case h_3 => simp only [all, none_, whole, reduceCtorEq, if_false]

theorem parseSizeToken_decimal {n : Nat} (fits : n < 2 ^ 64) : parseSizeToken (decimal n) = some n := by
  have noNul : (decimal n).takeWhile (· ≠ 0) = decimal n := by
    rw [List.takeWhile_eq_self_iff]
    intro c among
    have digit := decimal_isDecimal n c among
    refine decide_eq_true ?_
    rintro rfl
    cases digit
  have some_ : (decimal n).isEmpty = false := List.isEmpty_eq_false_iff.mpr (decimal_ne_nil n)
  have small : ¬(n ≥ 2 ^ 64 ∨ ([] : Bytes) ≠ []) := by
    rintro (large | other)
    · omega
    · exact other rfl
  simp only [parseSizeToken, some_, noNul, strtoull_decimal, Bool.false_eq_true, if_false]
  rw [if_neg small]

namespace FragmentedPayload

variable {p : FragmentedPayload} {index : Nat}

/-- The fragment as the receiver knows it. -/
def asFragment (p : FragmentedPayload) (index : Nat) (inside : index < p.fragmentCount) :
    Fragment where
  wrapper := repairFragmentText
  id := p.fragmentId
  index
  count := p.fragmentCount
  totalSize := p.payload.length
  chunk := p.chunk index
  inside

def key (p : FragmentedPayload) : Bytes := repairFragmentText ++ p.fragmentId

/-- Chunks may hold separators: only the first four count. -/
theorem parseFragment_fragment (inside : index < p.fragmentCount) :
    parseFragment (p.fragment index) = .fragment (p.asFragment index inside) := by
  have few : p.fragmentCount ≤ 4096 := p.few
  have other : fragmentText.isPrefixOf (p.fragment index) = false := rfl
  have wrapped : repairFragmentText.isPrefixOf (p.fragment index) = true :=
    List.isPrefixOf_iff_prefix.mpr (List.prefix_append _ _)
  have behind : (p.fragment index).drop repairFragmentText.length = p.fields index :=
    List.drop_left
  have named : p.fragmentId.isEmpty = false := List.isEmpty_eq_false_iff.mpr p.identified
  have filled : p.payload.length ≠ 0 := fun none_ => p.filled (List.length_eq_zero_iff.mp none_)
  have valid : ¬(p.fragmentCount = 0 ∨ index ≥ p.fragmentCount ∨ p.payload.length = 0 ∨
      p.fragmentCount > 4096) := by omega
  have fields : parseFragmentFields repairFragmentText (p.fields index) =
      some (p.asFragment index inside) := by
    simp only [parseFragmentFields, FragmentedPayload.fields, splitField_append p.plain,
      splitField_append (decimal_plain _), Option.bind_eq_bind, Option.bind_some, named,
      parseSizeToken_decimal (by omega : index < 2 ^ 64),
      parseSizeToken_decimal (by omega : p.fragmentCount < 2 ^ 64),
      parseSizeToken_decimal p.fits, Bool.false_eq_true, if_false]
    rw [dif_neg valid]
    rfl
  simp only [parseFragment, other, wrapped, behind, fields, Bool.false_eq_true, if_false, if_true]

end FragmentedPayload

/-! ## Assemblies and the fragments that have arrived -/

variable {σ : Type*} {p : FragmentedPayload} {index : Nat}

/-- An assembly in which exactly these fragments of the payload have arrived. -/
structure FragmentAssembly.Shows (p : FragmentedPayload) (arrived : Finset Nat)
    (a : FragmentAssembly σ) : Prop where
  totalSize : a.totalSize = p.payload.length
  fragmentCount : a.fragmentCount = p.fragmentCount
  receivedCount : a.receivedCount = arrived.card
  chunks : a.chunks = (List.range p.fragmentCount).map fun i =>
    if i ∈ arrived then p.chunk i else []
  received : a.received = (List.range p.fragmentCount).map fun i => decide (i ∈ arrived)

namespace FragmentAssembly

variable {arrived : Finset Nat} {a : FragmentAssembly σ}

theorem Shows.opened (inside : index < p.fragmentCount) :
    (opened (p.asFragment index inside) : FragmentAssembly σ).Shows p ∅ where
  totalSize := rfl
  fragmentCount := rfl
  receivedCount := rfl
  chunks := by simp [FragmentAssembly.opened, FragmentedPayload.asFragment]
  received := by simp [FragmentAssembly.opened, FragmentedPayload.asFragment]

theorem Shows.matches_ (shows_ : a.Shows p arrived) (inside : index < p.fragmentCount) :
    a.matches_ (p.asFragment index inside) = true := by
  simp [FragmentAssembly.matches_, FragmentedPayload.asFragment, shows_.fragmentCount,
    shows_.totalSize]

theorem set_map_range {β : Type*} (f : Nat → β) {n i : Nat} (b : β) :
    ((List.range n).map f).set i b = (List.range n).map fun j => if j = i then b else f j := by
  apply List.ext_getElem
  · simp
  · intro j _ _
    rw [List.getElem_set]
    by_cases same : i = j
    · simp [same]
    · simp [same, Ne.symm same]

theorem Shows.store (shows_ : a.Shows p arrived) (inside : index < p.fragmentCount)
    (source : Option σ) (now : Int) :
    (a.store (p.asFragment index inside) source now).Shows p (insert index arrived) := by
  have marked : a.isReceived index = decide (index ∈ arrived) := by
    simp [isReceived, shows_.received, inside]
  unfold FragmentAssembly.store
  by_cases old : index ∈ arrived
  · rw [Finset.insert_eq_of_mem old]
    have known : FragmentAssembly.isReceived { a with source := source <|> a.source } index = true := by
      change a.isReceived index = true
      rw [marked, decide_eq_true old]
    simp only [FragmentedPayload.asFragment, known, if_true]
    exact ⟨shows_.totalSize, shows_.fragmentCount, shows_.receivedCount, shows_.chunks,
      shows_.received⟩
  · have new : FragmentAssembly.isReceived { a with source := source <|> a.source } index = false := by
      change a.isReceived index = false
      rw [marked, decide_eq_false old]
    simp only [FragmentedPayload.asFragment, new, Bool.false_eq_true, if_false]
    refine ⟨shows_.totalSize, shows_.fragmentCount, ?_, ?_, ?_⟩
    · rw [Finset.card_insert_of_notMem old, ← shows_.receivedCount]
    · simp only [shows_.chunks, set_map_range]
      apply List.map_congr_left
      intro i _
      by_cases same : i = index
      · simp [same]
      · simp [same]
    · simp only [shows_.received, set_map_range]
      apply List.map_congr_left
      intro i _
      by_cases same : i = index
      · simp [same]
      · simp [same]

/-- All have arrived where as many have arrived as there are. -/
theorem Shows.full_iff (shows_ : a.Shows p arrived) (among : arrived ⊆ Finset.range p.fragmentCount) :
    a.receivedCount = a.fragmentCount ↔ arrived = Finset.range p.fragmentCount := by
  rw [shows_.receivedCount, shows_.fragmentCount]
  constructor
  · intro all
    apply Finset.eq_of_subset_of_card_le among
    rw [Finset.card_range, all]
  · rintro rfl
    exact Finset.card_range _

theorem Shows.flatten (shows_ : a.Shows p (Finset.range p.fragmentCount)) :
    a.chunks.flatten = p.payload := by
  have all : a.chunks = (List.range p.fragmentCount).map p.chunk := by
    rw [shows_.chunks]
    apply List.map_congr_left
    intro i among
    rw [if_pos (Finset.mem_range.mpr (List.mem_range.mp among))]
  rw [all, p.flatten_allChunks]

end FragmentAssembly

/-! ## Runs -/

/-- The receiver's tables, and which fragments of each payload have arrived since it was last
    complete, at times when it was not remembered as completed. -/
structure ReassemblyRun (σ : Type*) where
  tables : FragmentTables σ := {}
  arrived : Bytes → Finset Nat := fun _ => ∅

/-- A fragment comes in, for the first time or again. -/
structure FragmentDelivery (σ : Type*) where
  sent : FragmentedPayload
  index : Nat
  source : Option σ
  now : Int

namespace ReassemblyRun

variable {limits : FragmentLimits} {payloads : Set FragmentedPayload} {s s' : ReassemblyRun σ}
  {e : FragmentDelivery σ}

/-- The payload is remembered as completed when the fragment comes in. -/
def Remembered (limits : FragmentLimits) (s : ReassemblyRun σ) (e : FragmentDelivery σ) : Prop :=
  ((s.tables.cleanupStale limits e.now).completed.get? e.sent.key).isSome

instance (limits : FragmentLimits) (s : ReassemblyRun σ) (e : FragmentDelivery σ) :
    Decidable (s.Remembered limits e) := inferInstanceAs (Decidable (_ = true))

/-- All fragments of the payload have arrived with this one. -/
def Covers (s : ReassemblyRun σ) (e : FragmentDelivery σ) : Prop :=
  insert e.index (s.arrived e.sent.fragmentId) = Finset.range e.sent.fragmentCount

instance (s : ReassemblyRun σ) (e : FragmentDelivery σ) : Decidable (s.Covers e) :=
  inferInstanceAs (Decidable (_ = _))

/-- What is given out; nothing is the empty payload. -/
def output (limits : FragmentLimits) (s : ReassemblyRun σ) (e : FragmentDelivery σ) : Bytes :=
  ((s.tables.tryReassembleFragment limits (e.sent.fragment e.index) e.source e.now).map
    Prod.fst).getD []

def step (limits : FragmentLimits) (s : ReassemblyRun σ) (e : FragmentDelivery σ) :
    Option (ReassemblyRun σ) :=
  (s.tables.tryReassembleFragment limits (e.sent.fragment e.index) e.source e.now).map
    fun result =>
      { tables := result.2
        arrived :=
          if s.Remembered limits e then s.arrived
          else Function.update s.arrived e.sent.fragmentId
            (if s.Covers e then ∅ else insert e.index (s.arrived e.sent.fragmentId)) }

/-- A fragment of one of the payloads, while no limit is reached: the payload is not too long,
    no assembly is too old, and none has to be driven out for a new one. -/
structure Undisturbed (limits : FragmentLimits) (payloads : Set FragmentedPayload)
    (s : ReassemblyRun σ) (e : FragmentDelivery σ) : Prop where
  among : e.sent ∈ payloads
  inside : e.index < e.sent.fragmentCount
  fits : 0 < limits.maxAssemblyBytes → e.sent.payload.length ≤ limits.maxAssemblyBytes
  fresh : (s.tables.cleanupStale limits e.now).assemblies = s.tables.assemblies
  room : s.tables.assemblies.get? e.sent.key = none → 0 < limits.assemblyLimit →
    s.tables.assemblies.length < limits.assemblyLimit

/-- There is an assembly of a payload exactly if some but not all of its fragments have arrived,
    and it shows which. -/
structure Tracks (payloads : Set FragmentedPayload) (s : ReassemblyRun σ) : Prop where
  absent : ∀ p ∈ payloads, s.tables.assemblies.get? p.key = none → s.arrived p.fragmentId = ∅
  present : ∀ p ∈ payloads, ∀ a, s.tables.assemblies.get? p.key = some a →
    s.arrived p.fragmentId ⊂ Finset.range p.fragmentCount ∧ a.Shows p (s.arrived p.fragmentId)

theorem Tracks.start (payloads : Set FragmentedPayload) : Tracks payloads ({} : ReassemblyRun σ) where
  absent _ _ _ := rfl
  present _ _ _ found := by cases found

theorem Tracks.among (tracks : s.Tracks payloads) {p : FragmentedPayload} (of : p ∈ payloads) :
    s.arrived p.fragmentId ⊆ Finset.range p.fragmentCount := by
  cases found : s.tables.assemblies.get? p.key with
  | none =>
      rw [tracks.absent p of found]
      exact Finset.empty_subset _
  | some a => exact (tracks.present p of a found).1.subset

/-- The assembly that a fragment finds or opens shows what has arrived. -/
theorem Undisturbed.openAssembly (ok : s.Undisturbed limits payloads e) (tracks : s.Tracks payloads) :
    ∃ t a, (s.tables.cleanupStale limits e.now).openAssembly limits
        (e.sent.asFragment e.index ok.inside) = (t, a) ∧
      t.assemblies = s.tables.assemblies ∧ a.Shows e.sent (s.arrived e.sent.fragmentId) := by
  have key : (e.sent.asFragment e.index ok.inside).key = e.sent.key := rfl
  unfold FragmentTables.openAssembly
  rw [key, ok.fresh]
  cases found : s.tables.assemblies.get? e.sent.key with
  | some a => exact ⟨_, a, rfl, ok.fresh, (tracks.present _ ok.among a found).2⟩
  | none =>
      refine ⟨_, _, rfl, ?_, ?_⟩
      · dsimp only
        split
        case isTrue limited =>
          have room := ok.room found limited
          have none_ : s.tables.assemblies.length + 1 - limits.assemblyLimit = 0 := by omega
          rw [Dict.evictWhileAtLeast, none_]
          rfl
        case isFalse => rfl
      · rw [tracks.absent _ ok.among found]
        exact FragmentAssembly.Shows.opened ok.inside

/-- What one fragment does: nothing if its payload is remembered; otherwise it completes the
    payload, or its assembly has it from now on. -/
theorem Undisturbed.tryReassembleFragment (ok : s.Undisturbed limits payloads e)
    (tracks : s.Tracks payloads) :
    ∃ t, s.tables.tryReassembleFragment limits (e.sent.fragment e.index) e.source e.now =
        some (if s.Remembered limits e then [] else if s.Covers e then e.sent.payload else [], t) ∧
      (s.Remembered limits e → t.assemblies = s.tables.assemblies) ∧
      (¬s.Remembered limits e → s.Covers e →
        t.assemblies = s.tables.assemblies.erase e.sent.key) ∧
      (¬s.Remembered limits e → ¬s.Covers e → ∃ a : FragmentAssembly σ,
        a.Shows e.sent (insert e.index (s.arrived e.sent.fragmentId)) ∧
          t.assemblies = s.tables.assemblies.set e.sent.key a) := by
  have key : (e.sent.asFragment e.index ok.inside).key = e.sent.key := rfl
  have total : (e.sent.asFragment e.index ok.inside).totalSize = e.sent.payload.length := rfl
  have short : e.sent.chunk e.index = (e.sent.asFragment e.index ok.inside).chunk := rfl
  have size : FragmentTables.oversize limits (e.sent.asFragment e.index ok.inside) = false := by
    have chunk : (e.sent.chunk e.index).length ≤ e.sent.payload.length := by
      rw [e.sent.chunk_eq, List.length_take, List.length_drop]
      omega
    simp only [FragmentTables.oversize, total, ← short, Bool.or_eq_false_iff,
      Bool.and_eq_false_imp, decide_eq_true_eq, decide_eq_false_iff_not, not_lt]
    exact ⟨ok.fits, chunk⟩
  unfold FragmentTables.tryReassembleFragment
  simp only [FragmentedPayload.parseFragment_fragment ok.inside, size, Bool.false_eq_true, if_false,
    key, total]
  by_cases known : s.Remembered limits e
  · rw [if_pos (show _ = true from known), if_pos known]
    exact ⟨_, rfl, fun _ => ok.fresh, fun not_ => absurd known not_, fun not_ => absurd known not_⟩
  · rw [if_neg (show ¬_ = true from known), if_neg known]
    obtain ⟨t, a, opened, same, shows_⟩ := ok.openAssembly tracks
    have stored := shows_.store ok.inside e.source e.now
    have among : insert e.index (s.arrived e.sent.fragmentId) ⊆
        Finset.range e.sent.fragmentCount :=
      Finset.insert_subset (Finset.mem_range.mpr ok.inside) (tracks.among ok.among)
    simp only [opened, shows_.matches_ ok.inside, Bool.not_true, Bool.false_eq_true, if_false]
    by_cases covers : s.Covers e
    · have full := (stored.full_iff among).mpr covers
      have whole : (a.store (e.sent.asFragment e.index ok.inside) e.source e.now).chunks.flatten =
          e.sent.payload := by
        have all : insert e.index (s.arrived e.sent.fragmentId) = _ := covers
        rw [all] at stored
        exact stored.flatten
      rw [if_neg (not_not.mpr full), if_pos covers, whole, if_neg (not_not.mpr rfl)]
      refine ⟨_, rfl, fun yes => absurd yes known, fun _ _ => ?_, fun _ not_ => absurd covers not_⟩
      simp only [FragmentTables.rememberCompleted, same]
    · have more := mt (stored.full_iff among).mp covers
      rw [if_pos more, if_neg covers]
      refine ⟨_, rfl, fun yes => absurd yes known, fun _ yes => absurd yes covers, fun _ _ => ?_⟩
      exact ⟨_, stored, by simp only [same]⟩

theorem FragmentedPayload.key_injective {p q : FragmentedPayload} (same : p.key = q.key) :
    p.fragmentId = q.fragmentId :=
  List.append_cancel_left same

theorem Tracks.step (distinct : ∀ p ∈ payloads, ∀ q ∈ payloads, p.fragmentId = q.fragmentId → p = q)
    (tracks : s.Tracks payloads) (ok : s.Undisturbed limits payloads e)
    (h : s.step limits e = some s') : s'.Tracks payloads := by
  obtain ⟨t, result, kept, complete, partial_⟩ := ok.tryReassembleFragment tracks
  rw [ReassemblyRun.step, result] at h
  obtain rfl := Option.some.inj h
  by_cases known : s.Remembered limits e
  · have same := kept known
    simp only [if_pos known]
    exact ⟨fun p of none_ => tracks.absent p of (same ▸ none_),
      fun p of a found => tracks.present p of a (same ▸ found)⟩
  · simp only [if_neg known]
    -- only the payload of the fragment is concerned
    have other : ∀ p ∈ payloads, p ≠ e.sent → p.fragmentId ≠ e.sent.fragmentId ∧ p.key ≠ e.sent.key := by
      intro p of different
      have ids : p.fragmentId ≠ e.sent.fragmentId := fun same =>
        different (distinct p of e.sent ok.among same)
      exact ⟨ids, fun same => ids (FragmentedPayload.key_injective same)⟩
    by_cases covers : s.Covers e
    · have erased := complete known covers
      simp only [if_pos covers]
      constructor
      · intro p of none_
        dsimp only at none_ ⊢
        by_cases here : p = e.sent
        · rw [here, Function.update_self]
        · obtain ⟨ids, keys⟩ := other p of here
          rw [Function.update_of_ne ids]
          rw [erased, Dict.get?_erase, if_neg keys] at none_
          exact tracks.absent p of none_
      · intro p of a found
        dsimp only at found ⊢
        rw [erased, Dict.get?_erase] at found
        split at found
        case isTrue => cases found
        case isFalse keys =>
          have here : p ≠ e.sent := fun same => keys (congrArg FragmentedPayload.key same)
          rw [Function.update_of_ne (other p of here).1]
          exact tracks.present p of a found
    · obtain ⟨a', stored, set_⟩ := partial_ known covers
      simp only [if_neg covers]
      constructor
      · intro p of none_
        dsimp only at none_ ⊢
        by_cases here : p = e.sent
        · rw [here, set_, Dict.get?_set_self] at none_
          cases none_
        · obtain ⟨ids, keys⟩ := other p of here
          rw [Function.update_of_ne ids]
          rw [set_, Dict.get?_set_of_ne keys] at none_
          exact tracks.absent p of none_
      · intro p of a found
        dsimp only at found ⊢
        by_cases here : p = e.sent
        · subst here
          rw [set_, Dict.get?_set_self] at found
          obtain rfl := Option.some.inj found
          rw [Function.update_self]
          have among : insert e.index (s.arrived e.sent.fragmentId) ⊆
              Finset.range e.sent.fragmentCount :=
            Finset.insert_subset (Finset.mem_range.mpr ok.inside) (tracks.among of)
          exact ⟨among.ssubset_of_ne covers, stored⟩
        · obtain ⟨ids, keys⟩ := other p of here
          rw [Function.update_of_ne ids]
          rw [set_, Dict.get?_set_of_ne keys] at found
          exact tracks.present p of a found

/-- After any run below the limits, a fragment of a payload that is remembered gives nothing out,
    and another one gives out its payload exactly if all fragments have arrived with it. -/
theorem reassembly_exact {events : List (FragmentDelivery σ)}
    (distinct : ∀ p ∈ payloads, ∀ q ∈ payloads, p.fragmentId = q.fragmentId → p = q)
    (below : RunMeets (step limits) (Undisturbed limits payloads) {} events)
    (h : run (step limits) {} events = some s) (ok : s.Undisturbed limits payloads e) :
    (s.output limits e ≠ [] → s.output limits e = e.sent.payload ∧ ¬s.Remembered limits e) ∧
      (¬s.Remembered limits e → (s.output limits e = e.sent.payload ↔ s.Covers e)) := by
  have tracks : s.Tracks payloads :=
    run_invariant (fun held met taken => held.step distinct met taken) (Tracks.start payloads) below h
  obtain ⟨t, result, -⟩ := ok.tryReassembleFragment tracks
  have given : s.output limits e =
      if s.Remembered limits e then [] else if s.Covers e then e.sent.payload else [] := by
    rw [output, result]
    rfl
  by_cases known : s.Remembered limits e
  · rw [given, if_pos known]
    exact ⟨fun some_ => absurd rfl some_, fun not_ => absurd known not_⟩
  · rw [given, if_neg known]
    by_cases covers : s.Covers e
    · rw [if_pos covers]
      exact ⟨fun _ => ⟨rfl, known⟩, fun _ => ⟨fun _ => covers, fun _ => rfl⟩⟩
    · rw [if_neg covers]
      exact ⟨fun some_ => absurd rfl some_,
        fun _ => ⟨fun empty => absurd empty.symm e.sent.filled, fun yes => absurd yes covers⟩⟩

/-! ### A payload in two fragments -/

/-- The letters of `p` in chunks of two octets. -/
def letters : FragmentedPayload where
  fragmentId := [112]
  payload := [97, 124, 99]
  chunkBytes := 2
  identified := nofun
  plain := by decide
  filled := nofun
  positive := Nat.two_pos
  few := by decide
  fits := by decide

def delivery (index : Nat) (now : Int) : FragmentDelivery Unit where
  sent := letters
  index
  source := none
  now

theorem reassembly_exact_twoFragments :
    ∃ s, run (step {}) {} [delivery 1 1] = some s ∧ s.output {} (delivery 0 2) = [97, 124, 99] := by
  obtain ⟨s, taken⟩ : ∃ s, run (step {}) {} [delivery 1 1] = some s := ⟨_, rfl⟩
  refine ⟨s, taken, ?_⟩
  have alone : ∀ p ∈ ({letters} : Set FragmentedPayload), ∀ q ∈ ({letters} : Set FragmentedPayload),
      p.fragmentId = q.fragmentId → p = q := fun p here q there _ => here.trans there.symm
  have first : Undisturbed {} {letters} ({} : ReassemblyRun Unit) (delivery 1 1) :=
    ⟨rfl, by decide, fun _ => by decide, rfl, fun _ _ => by decide⟩
  have below : RunMeets (step {}) (Undisturbed {} {letters}) {} [delivery 1 1] :=
    ⟨first, True.intro⟩
  have known := reassembly_exact alone below taken (e := delivery 0 2)
  obtain rfl := Option.some.inj taken
  have second := known ⟨rfl, by decide, fun _ => by decide, rfl, fun _ _ => by decide⟩
  exact (second.2 (by decide)).mpr (by decide)

end ReassemblyRun

end FleetRMW.Rmw
