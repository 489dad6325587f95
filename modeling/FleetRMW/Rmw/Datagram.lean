import FleetRMW.Rmw.Fragments
import FleetRMW.Rmw.Replay

/-! # Received datagrams

A datagram may be a fragment as it comes, and what it protects may be a fragment again. Both
kinds are assembled in the same tables. The payloads that are handed on should consist of
octets that came out of a protected datagram.
-/

namespace FleetRMW.Rmw

open Lib

/-- The settings, and what lies in the cryptographic library: whether a wire payload is signed
    by an admitted peer, what a key exchange does, and what a protected payload decrypts to. -/
structure Transport (ρ σ : Type*) where
  limits : FragmentLimits := {}
  aeadRequired : Bool := false
  peerAuthRequired : Bool := false
  unprotectPeerAuthenticated : ρ → Bytes → Option Bytes × ρ
  handleKex : ρ → Bytes → Option σ → ρ
  unprotect : ρ → Bytes → Option σ → Option Bytes × ρ

structure DatagramReceiver (ρ σ : Type*) where
  security : ρ
  tables : FragmentTables σ := {}

/-- What one datagram leads to: the plaintext that decryption gave and the payload handed on. -/
structure Handled (ρ σ : Type*) where
  receiver : DatagramReceiver ρ σ
  unprotected : Option Bytes := none
  payload : Option Bytes := none

def kexMagic : Bytes := octets "FQKEX1|"

namespace FragmentTables

variable {σ : Type*} [DecidableEq σ]

/-- The sender has sent every fragment once. `none` where the payload is no such marker. -/
def handleCompletionMarker (limits : FragmentLimits) (t : FragmentTables σ) (payload : Bytes)
    (source : Option σ) (now : Int) : Option (FragmentTables σ) :=
  if !repairFragmentCompletionText.isPrefixOf payload then none
  else
    let fields : Option (Bytes × Nat × Nat) := do
      let (id, s) ← splitField (payload.drop repairFragmentCompletionText.length)
      let (count, totalSize) ← splitField s
      if id.isEmpty then none
      let count ← parseSizeToken count
      let totalSize ← parseSizeToken totalSize
      if count = 0 ∨ totalSize = 0 then none else some (id, count, totalSize)
    match fields with
    | none => some t
    | some (id, count, totalSize) =>
        let t := t.cleanupStale limits now
        let key := repairFragmentText ++ id
        if (t.completed.get? key).isSome then some t
        else match t.assemblies.get? key with
          | none => some t
          | some a =>
              if a.fragmentCount ≠ count ∨ a.totalSize ≠ totalSize ∨
                  (source.isSome ∧ a.source.isSome ∧ source ≠ a.source) then some t
              else some { t with
                assemblies := t.assemblies.set key
                  { a with
                    source := source <|> a.source
                    senderCompleteObserved := true
                    lastUpdateNs := now } }

end FragmentTables

namespace DatagramReceiver

variable {ρ σ : Type*}

/-- An unprotected wrapper is not looked into where protection is required. -/
def strictWrapper (tr : Transport ρ σ) (datagram : Bytes) : Bool :=
  (tr.aeadRequired || tr.peerAuthRequired) &&
    (repairFragmentText.isPrefixOf datagram || repairFragmentCompletionText.isPrefixOf datagram ||
      fragmentText.isPrefixOf datagram)

/-- The payload on the wire: the datagram, or what its fragments were cut from. -/
def wirePayload (tr : Transport ρ σ) (r : DatagramReceiver ρ σ) (datagram : Bytes) (udp : Bool)
    (source : Option σ) (now : Int) : Option Bytes × DatagramReceiver ρ σ :=
  if udp && strictWrapper tr datagram then (some datagram, r)
  else match r.tables.tryReassembleFragment tr.limits datagram source now with
    | none => (some datagram, r)
    | some (complete, tables) =>
        (if complete.isEmpty then none else some complete, { r with tables })

/-- The plaintext of a payload on the wire, `none` where it is dropped or was a key exchange. -/
def plaintextOf (tr : Transport ρ σ) (r : DatagramReceiver ρ σ) (wire : Bytes)
    (source : Option σ) : Option Bytes × DatagramReceiver ρ σ :=
  match tr.unprotectPeerAuthenticated r.security wire with
  | (none, security) => (none, { r with security })
  | (some content, security) =>
      if kexMagic.isPrefixOf content then
        (none, { r with security := tr.handleKex security content source })
      else
        let (plaintext, security) := tr.unprotect security content source
        (plaintext, { r with security })

/-- What becomes of a plaintext: a marker, a request for repair, a fragment or a payload. -/
def handlePlaintext [DecidableEq σ] (tr : Transport ρ σ) (r : DatagramReceiver ρ σ)
    (plaintext : Bytes) (source : Option σ) (now : Int) : Option Bytes × DatagramReceiver ρ σ :=
  match r.tables.handleCompletionMarker tr.limits plaintext source now with
  | some tables => (none, { r with tables })
  | none =>
      if repairFragmentNackText.isPrefixOf plaintext then (none, r)
      else match r.tables.tryReassembleFragment tr.limits plaintext source now with
        | some (repaired, tables) =>
            (if repaired.isEmpty then none else some repaired, { r with tables })
        | none => (some plaintext, r)

/-- The clock is read while the datagram is assembled and again for its plaintext. -/
def handleReceivedDatagram [DecidableEq σ] (tr : Transport ρ σ) (r : DatagramReceiver ρ σ)
    (datagram : Bytes) (udp : Bool) (source : Option σ) (now later : Int) : Handled ρ σ :=
  match r.wirePayload tr datagram udp source now with
  | (none, r) => { receiver := r }
  | (some wire, r) =>
      if !udp then { receiver := r, payload := some wire }
      else match r.plaintextOf tr wire source with
        | (none, r) => { receiver := r }
        | (some plaintext, r) =>
            let (payload, r) := r.handlePlaintext tr plaintext source later
            { receiver := r, unprotected := some plaintext, payload }

end DatagramReceiver

/-! ## Runs -/

/-- The chunk was cut out of one of these plaintexts. -/
def CutFrom (passed : List Bytes) (chunk : Bytes) : Prop :=
  ∃ plaintext ∈ passed, ∃ f, parseFragment plaintext = .fragment f ∧ f.chunk = chunk

/-- The payload is one of these plaintexts, or is put together from chunks of them. -/
def Authentic (passed : List Bytes) (payload : Bytes) : Prop :=
  payload ∈ passed ∨
    ∃ chunks : List Bytes, payload = chunks.flatten ∧ ∀ c ∈ chunks, CutFrom passed c

theorem CutFrom.mono {passed passed' : List Bytes} {chunk : Bytes} (h : CutFrom passed chunk)
    (more : passed ⊆ passed') : CutFrom passed' chunk := by
  obtain ⟨plaintext, among, cut⟩ := h
  exact ⟨plaintext, more among, cut⟩

theorem Authentic.mono {passed passed' : List Bytes} {payload : Bytes}
    (h : Authentic passed payload) (more : passed ⊆ passed') : Authentic passed' payload := by
  cases h with
  | inl among => exact .inl (more among)
  | inr parts =>
      obtain ⟨chunks, whole, cut⟩ := parts
      exact .inr ⟨chunks, whole, fun c among => (cut c among).mono more⟩

/-- A datagram arrives by UDP, or stale assemblies are looked for. -/
inductive DatagramEvent (σ : Type*) where
  | datagram (datagram : Bytes) (source : Option σ) (now later : Int)
  | sweep (now : Int)

/-- The receiver, with the plaintexts that decryption gave, the payloads that were handed on, and
    the keys of the assemblies that hold a chunk of an unprotected wrapper. -/
structure DatagramRun (ρ σ : Type*) where
  receiver : DatagramReceiver ρ σ
  passed : List Bytes := []
  delivered : List Bytes := []
  mixed : List Bytes := []

namespace DatagramRun

variable {ρ σ : Type*}

def start (security : ρ) : DatagramRun ρ σ where
  receiver := { security }

/-- The keys that still have an assembly. -/
def heldKeys (t : FragmentTables σ) (keys : List Bytes) : List Bytes :=
  keys.filter fun key => (t.assemblies.get? key).isSome

/-- The key under which the datagram's chunk is stored as it comes. -/
def wrapperKey (tr : Transport ρ σ) (r : DatagramReceiver ρ σ) (datagram : Bytes) (now : Int) :
    List Bytes :=
  if DatagramReceiver.strictWrapper tr datagram then []
  else match parseFragment datagram with
    | .fragment f => if r.tables.takes tr.limits f now then [f.key] else []
    | _ => []

/-- The mixed assemblies when the datagram's payload is decrypted. -/
def mixedOnWire (tr : Transport ρ σ) (s : DatagramRun ρ σ) (datagram : Bytes)
    (source : Option σ) (now : Int) : List Bytes :=
  heldKeys (s.receiver.wirePayload tr datagram true source now).2.tables
    (wrapperKey tr s.receiver datagram now ++ s.mixed)

/-- The fragment that the datagram decrypts to. -/
def decryptedFragment (tr : Transport ρ σ) (r : DatagramReceiver ρ σ) (datagram : Bytes)
    (source : Option σ) (now : Int) : Option Fragment :=
  match r.wirePayload tr datagram true source now with
  | (none, _) => none
  | (some wire, r) =>
      match (r.plaintextOf tr wire source).1 with
      | none => none
      | some plaintext =>
          match parseFragment plaintext with
          | .fragment f => some f
          | _ => none

variable [DecidableEq σ]

def step (tr : Transport ρ σ) (s : DatagramRun ρ σ) : DatagramEvent σ → Option (DatagramRun ρ σ)
  | .datagram datagram source now later =>
      let handled := s.receiver.handleReceivedDatagram tr datagram true source now later
      some
        { receiver := handled.receiver
          passed := s.passed ++ handled.unprotected.toList
          delivered := s.delivered ++ handled.payload.toList
          mixed := heldKeys handled.receiver.tables (s.mixedOnWire tr datagram source now) }
  | .sweep now =>
      let tables := s.receiver.tables.cleanupStale tr.limits now
      some { s with receiver := { s.receiver with tables }, mixed := heldKeys tables s.mixed }

/-- A fragment that comes out of a protected datagram does not join an assembly that holds a
    chunk of an unprotected wrapper. -/
def Separate (tr : Transport ρ σ) (s : DatagramRun ρ σ) : DatagramEvent σ → Prop
  | .datagram datagram source now _ =>
      ∀ f ∈ decryptedFragment tr s.receiver datagram source now,
        f.key ∉ s.mixedOnWire tr datagram source now
  | .sweep _ => True

instance (tr : Transport ρ σ) (s : DatagramRun ρ σ) : ∀ e, Decidable (Separate tr s e)
  | .datagram datagram source now _ => inferInstanceAs (Decidable
      (∀ f ∈ decryptedFragment tr s.receiver datagram source now,
        f.key ∉ s.mixedOnWire tr datagram source now))
  | .sweep _ => inferInstanceAs (Decidable True)

end DatagramRun

/-! ## What one datagram keeps -/

section
variable {ρ σ : Type*} {tr : Transport ρ σ} {r : DatagramReceiver ρ σ} {P : Bytes → Prop}
  {keys : List Bytes} {datagram plaintext : Bytes} {source : Option σ} {now : Int}

open DatagramRun in
theorem FragmentTables.Sound.heldKeys {t : FragmentTables σ}
    (sound : t.Sound fun key c => P c ∨ key ∈ keys) :
    t.Sound fun key c => P c ∨ key ∈ heldKeys t keys :=
  sound.mono fun e among _ => Or.imp_right fun old =>
    List.mem_filter.mpr ⟨old, Dict.isSome_get?_of_mem among⟩

/-- A datagram as it comes adds at most its own key to the mixed ones. -/
theorem FragmentTables.Sound.wirePayload (tr : Transport ρ σ) (datagram : Bytes)
    (source : Option σ) (now : Int)
    (sound : r.tables.Sound fun key c => P c ∨ key ∈ keys) :
    (r.wirePayload tr datagram true source now).2.tables.Sound fun key c =>
      P c ∨ key ∈ DatagramRun.wrapperKey tr r datagram now ++ keys := by
  have wider : ∀ (new : List Bytes), r.tables.Sound fun key c => P c ∨ key ∈ new ++ keys :=
    fun new => sound.mono fun e _ c => Or.imp_right (List.mem_append_right new)
  unfold DatagramReceiver.wirePayload
  split
  case isTrue => exact wider _
  case isFalse open_ =>
    cases taken : r.tables.tryReassembleFragment tr.limits datagram source now with
    | none => exact wider _
    | some result =>
        obtain ⟨complete, tables⟩ := result
        have loose : DatagramReceiver.strictWrapper tr datagram = false := by simpa using open_
        cases parsed : parseFragment datagram with
        | other => simp [FragmentTables.tryReassembleFragment, parsed] at taken
        | malformed =>
            simp only [FragmentTables.tryReassembleFragment, parsed, Option.some.injEq,
              Prod.mk.injEq] at taken
            obtain ⟨-, rfl⟩ := taken
            exact wider _
        | fragment f =>
            refine ((wider _).tryReassembleFragment parsed (fun stored => .inr ?_) taken).1
            simp [DatagramRun.wrapperKey, loose, parsed, stored]

variable [DecidableEq σ]

/-- A marker changes no chunk. -/
theorem FragmentTables.Sound.handleCompletionMarker {origin : Bytes → Bytes → Prop}
    {limits : FragmentLimits} {t t' : FragmentTables σ} (sound : t.Sound origin)
    (h : t.handleCompletionMarker limits plaintext source now = some t') : t'.Sound origin := by
  unfold FragmentTables.handleCompletionMarker at h
  split at h
  · cases h
  · dsimp only at h
    split at h
    · obtain rfl := Option.some.inj h
      exact sound
    · have cleaned := sound.cleanupStale limits now
      split at h
      · obtain rfl := Option.some.inj h
        exact cleaned
      · split at h
        · obtain rfl := Option.some.inj h
          exact cleaned
        · rename_i a found
          split at h
          · obtain rfl := Option.some.inj h
            exact cleaned
          · obtain rfl := Option.some.inj h
            have old := cleaned _ (Dict.mem_of_get? found)
            exact cleaned.set ⟨old.places, old.marks, old.counted, old.origin⟩

/-- A plaintext whose chunk may be stored, for an assembly that is not mixed. -/
theorem DatagramReceiver.handlePlaintext_sound (tr : Transport ρ σ) (source : Option σ) (now : Int)
    (sound : r.tables.Sound fun key c => P c ∨ key ∈ keys)
    (cut : ∀ f, parseFragment plaintext = .fragment f → P f.chunk ∧ f.key ∉ keys) :
    ((r.handlePlaintext tr plaintext source now).2.tables.Sound fun key c => P c ∨ key ∈ keys) ∧
    ∀ payload, (r.handlePlaintext tr plaintext source now).1 = some payload →
      payload = plaintext ∨
        ∃ chunks : List Bytes, payload = chunks.flatten ∧ ∀ c ∈ chunks, P c := by
  unfold DatagramReceiver.handlePlaintext
  split
  case h_1 tables marked =>
    exact ⟨sound.handleCompletionMarker marked, fun payload none_ => by cases none_⟩
  case h_2 =>
    split
    case isTrue => exact ⟨sound, fun payload none_ => by cases none_⟩
    case isFalse =>
      split
      case h_1 repaired tables taken =>
        cases parsed : parseFragment plaintext with
        | other => simp [FragmentTables.tryReassembleFragment, parsed] at taken
        | malformed =>
            simp only [FragmentTables.tryReassembleFragment, parsed, Option.some.injEq,
              Prod.mk.injEq] at taken
            obtain ⟨rfl, rfl⟩ := taken
            exact ⟨sound, fun payload none_ => by cases none_⟩
        | fragment f =>
            obtain ⟨mine, apart⟩ := cut f parsed
            obtain ⟨after, whole⟩ := sound.tryReassembleFragment parsed (fun _ => .inl mine) taken
            refine ⟨after, fun payload given => .inr ?_⟩
            dsimp only at given
            split at given
            case isTrue => cases given
            case isFalse some_ =>
              obtain rfl := Option.some.inj given
              obtain ⟨chunks, flat, origin⟩ := whole (by simpa using some_)
              exact ⟨chunks, flat, fun c among => (origin c among).resolve_right apart⟩
      case h_2 => exact ⟨sound, fun payload same => .inl (Option.some.inj same).symm⟩

end

namespace DatagramRun

variable {ρ σ : Type*} [DecidableEq σ] {tr : Transport ρ σ} {s s' : DatagramRun ρ σ}
  {e : DatagramEvent σ}

/-- Every stored chunk was cut from a plaintext unless its assembly is mixed, and what was handed
    on is authentic. -/
structure Sealed (s : DatagramRun ρ σ) : Prop where
  tables : s.receiver.tables.Sound fun key c => CutFrom s.passed c ∨ key ∈ s.mixed
  delivered : ∀ payload ∈ s.delivered, Authentic s.passed payload

theorem Sealed.start (security : ρ) : (start security : DatagramRun ρ σ).Sealed where
  tables := fun e among => by cases among
  delivered := fun payload among => by cases among

theorem plaintextOf_tables (tr : Transport ρ σ) (r : DatagramReceiver ρ σ) (wire : Bytes)
    (source : Option σ) :
    (r.plaintextOf tr wire source).2.tables = r.tables := by
  unfold DatagramReceiver.plaintextOf
  split
  · rfl
  · split <;> rfl

theorem Sealed.step (h : s.Sealed) (separate : Separate tr s e)
    (taken : s.step tr e = some s') : s'.Sealed := by
  cases e with
  | sweep now =>
      obtain rfl := Option.some.inj taken
      exact ⟨(h.tables.cleanupStale tr.limits now).heldKeys, h.delivered⟩
  | datagram datagram source now later =>
      obtain rfl := Option.some.inj taken
      have wired := (h.tables.wirePayload tr datagram source now).heldKeys
      have apart : ∀ f ∈ decryptedFragment tr s.receiver datagram source now,
        f.key ∉ s.mixedOnWire tr datagram source now := separate
      unfold decryptedFragment mixedOnWire at apart
      unfold mixedOnWire DatagramReceiver.handleReceivedDatagram
      cases first : s.receiver.wirePayload tr datagram true source now with
      | mk wire r =>
          rw [first] at wired apart
          cases wire with
          | none =>
              simp only [Option.toList_none, List.append_nil]
              exact ⟨wired.heldKeys, h.delivered⟩
          | some wire =>
              have same := plaintextOf_tables tr r wire source
              simp only [Bool.not_true, Bool.false_eq_true, if_false]
              cases second : r.plaintextOf tr wire source with
              | mk plain r' =>
                  rw [second] at same
                  simp only [second] at apart
                  rw [← same] at wired
                  cases plain with
                  | none =>
                      simp only [Option.toList_none, List.append_nil, ← same]
                      exact ⟨wired.heldKeys, h.delivered⟩
                  | some plaintext =>
                      have more : s.passed ⊆ s.passed ++ [plaintext] := List.subset_append_left _ _
                      have own : plaintext ∈ s.passed ++ [plaintext] := List.mem_append_right _
                        (List.mem_singleton_self _)
                      obtain ⟨tables, given⟩ := DatagramReceiver.handlePlaintext_sound tr source
                        later (P := CutFrom (s.passed ++ [plaintext]))
                        (wired.mono fun _ _ c => Or.imp_left fun old => old.mono more)
                        fun f parsed => ⟨⟨plaintext, own, f, parsed, rfl⟩,
                          by rw [same]; exact apart f (by simp only [parsed, Option.mem_def])⟩
                      simp only [Option.toList_some, ← same]
                      refine ⟨tables.heldKeys, fun payload among => ?_⟩
                      rcases List.mem_append.mp among with old | new
                      · exact (h.delivered payload old).mono more
                      · rcases given payload (Option.mem_toList.mp new) with rfl | parts
                        · exact .inl own
                        · exact .inr parts

/-- What is handed on in a run in which no decrypted fragment joins a mixed assembly is a
    plaintext that decryption gave, or is put together from chunks of such plaintexts. -/
theorem delivered_authentic (security : ρ) {events : List (DatagramEvent σ)}
    (separate : RunMeets (DatagramRun.step tr) (Separate tr) (start security) events)
    (h : run (DatagramRun.step tr) (start security) events = some s) :
    ∀ payload ∈ s.delivered, Authentic s.passed payload :=
  (run_invariant (fun h ok taken => h.step ok taken) (Sealed.start security) separate h).delivered

/-- Where protection is required no unprotected wrapper is looked into. -/
theorem wrapperKey_of_required (required : tr.aeadRequired || tr.peerAuthRequired)
    (r : DatagramReceiver ρ σ) (datagram : Bytes) (now : Int) :
    wrapperKey tr r datagram now = [] := by
  unfold wrapperKey
  split
  case isTrue => rfl
  case isFalse loose =>
    have unwrapped : ¬fragmentText.isPrefixOf datagram ∧ ¬repairFragmentText.isPrefixOf datagram := by
      simp only [DatagramReceiver.strictWrapper, required, Bool.true_and, Bool.or_eq_true,
        not_or] at loose
      exact ⟨loose.2, loose.1.1⟩
    have other : parseFragment datagram = .other := by
      simp only [parseFragment, unwrapped.1, unwrapped.2, Bool.false_eq_true, if_false]
    rw [other]

/-- Then no assembly is mixed, and every run hands on authentic payloads only. -/
theorem delivered_authentic_of_required (security : ρ) {events : List (DatagramEvent σ)}
    (required : tr.aeadRequired || tr.peerAuthRequired)
    (h : run (DatagramRun.step tr) (start security) events = some s) :
    ∀ payload ∈ s.delivered, Authentic s.passed payload := by
  have unmixed : ∀ {s s' : DatagramRun ρ σ} {e : DatagramEvent σ},
      s.Sealed ∧ s.mixed = [] → s.step tr e = some s' → s'.Sealed ∧ s'.mixed = [] := by
    intro s s' e ⟨sealed_, none_⟩ taken
    have onWire : ∀ datagram source now, s.mixedOnWire tr datagram source now = [] := by
      intro datagram source now
      rw [mixedOnWire, wrapperKey_of_required required, none_]
      rfl
    cases e with
    | sweep now =>
        have separate : Separate tr s (.sweep now) := True.intro
        refine ⟨sealed_.step separate taken, ?_⟩
        obtain rfl := Option.some.inj taken
        simp only [none_, heldKeys, List.filter_nil]
    | datagram datagram source now later =>
        have separate : Separate tr s (.datagram datagram source now later) := by
          intro f _ among
          rw [onWire] at among
          cases among
        refine ⟨sealed_.step separate taken, ?_⟩
        obtain rfl := Option.some.inj taken
        simp only [onWire, heldKeys, List.filter_nil]
  have kept : s.Sealed ∧ s.mixed = [] :=
    run_preserves (fun held taken => unmixed held taken) ⟨Sealed.start security, rfl⟩ h
  exact kept.1.delivered

/-! ## A forged fragment -/

/-- A cipher under which every tag is right, and peers that need no signature. -/
def openTransport : Transport (AeadReceiver Unit) Unit where
  unprotectPeerAuthenticated security wire := (some wire, security)
  handleKex security _ _ := security
  unprotect security content source := security.unprotectUdpPayload AeadRun.openCipher content source

/-- The fragment of that index of a payload of two octets. -/
def fragmentOfTwo (index : Nat) (octet : UInt8) : Bytes :=
  fragmentText ++ octets "p|" ++ decimal index ++ octets "|2|2|" ++ [octet]

def protectedFragment (index : Nat) (octet : UInt8) : Bytes :=
  protectedDatagram (List.replicate 16 0) (protectedNonce [0, 0, 0, 0] (index + 1))
    (List.replicate 16 0) (fragmentOfTwo index octet)

def guarded : DatagramRun (AeadReceiver Unit) Unit := start { aeadEnabled := true, sessions := () }

/-- The sender's fragments arrive in turn. -/
def genuineRun : List (DatagramEvent Unit) :=
  [.datagram (protectedFragment 0 65) none 1 1, .datagram (protectedFragment 1 66) none 2 2]

theorem delivered_authentic_genuine : ∃ s,
    run (DatagramRun.step openTransport) guarded genuineRun = some s ∧
      ∀ payload ∈ s.delivered, Authentic s.passed payload := by
  have given : ((run (DatagramRun.step openTransport) guarded genuineRun).map delivered) =
      some [[65, 66]] := by decide
  obtain ⟨s, taken, -⟩ := Option.map_eq_some_iff.mp given
  exact ⟨s, taken, delivered_authentic _ (by decide) taken⟩

/-- Somebody sends the second fragment unprotected before the first one arrives. -/
def forgedRun : List (DatagramEvent Unit) :=
  [.datagram (fragmentOfTwo 1 88) none 1 1, .datagram (protectedFragment 0 65) none 2 2]

theorem forged_delivered : ∃ s,
    run (DatagramRun.step openTransport) guarded forgedRun = some s ∧
      ¬∀ payload ∈ s.delivered, Authentic s.passed payload := by
  have given : ((run (DatagramRun.step openTransport) guarded forgedRun).map
      fun s => (s.delivered, s.passed)) = some ([[65, 88]], [fragmentOfTwo 0 65]) := by
    decide
  have onlyChunk : (match parseFragment (fragmentOfTwo 0 65) with
      | .fragment f => f.chunk
      | _ => []) = [65] := by decide
  obtain ⟨s, taken, both⟩ := Option.map_eq_some_iff.mp given
  obtain ⟨delivered, passed⟩ := Prod.mk.inj both
  refine ⟨s, taken, fun authentic => ?_⟩
  rw [delivered, passed] at authentic
  rcases authentic _ (List.mem_singleton_self _) with whole | ⟨chunks, flat, cut⟩
  · exact absurd (List.mem_singleton.mp whole) (by decide)
  · have forged : (88 : UInt8) ∈ chunks.flatten := by
      rw [← flat]
      exact List.mem_cons_of_mem _ (List.mem_singleton_self _)
    obtain ⟨c, among, inside⟩ := List.mem_flatten.mp forged
    obtain ⟨plaintext, own, f, parsed, rfl⟩ := cut c among
    obtain rfl := List.mem_singleton.mp own
    rw [parsed] at onlyChunk
    rw [show f.chunk = [65] from onlyChunk] at inside
    exact absurd (List.mem_singleton.mp inside) (by decide)

end DatagramRun

end FleetRMW.Rmw
