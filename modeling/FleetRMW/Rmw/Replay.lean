import FleetRMW.Lib.Window
import FleetRMW.Lib.Run
import FleetRMW.Lib.Wire
import Mathlib.Data.Finset.Basic

/-! # Protected datagrams

A protected datagram is decrypted under a key that its salt and its sender select, and is
refused when its nonce is among those that were seen. The nonces of the last 16384 accepted
datagrams are remembered and older ones forgotten.
-/

namespace FleetRMW.Rmw

open Lib

/-- The most nonces that are remembered. -/
def nonceCapacity : Nat := 16384

/-- `while (order.size() > 16384) { seen.erase(order.front()); order.pop_front(); }` -/
def evictNonces : Finset Bytes → List Bytes → Finset Bytes × List Bytes
  | seen, [] => (seen, [])
  | seen, nonce :: order =>
      if (nonce :: order).length > nonceCapacity then evictNonces (seen.erase nonce) order
      else (seen, nonce :: order)

theorem evictNonces_order (seen : Finset Bytes) (order : List Bytes) :
    (evictNonces seen order).2 = popWhileLonger nonceCapacity order := by
  induction order generalizing seen with
  | nil => rfl
  | cons nonce order ih =>
      unfold evictNonces popWhileLonger
      split
      · exact ih _
      · rfl

theorem evictNonces_seen {order : List Bytes} (distinct : order.Nodup) :
    (evictNonces order.toFinset order).1 = (popWhileLonger nonceCapacity order).toFinset := by
  induction order with
  | nil => rfl
  | cons nonce order ih =>
      obtain ⟨new, rest⟩ := List.nodup_cons.mp distinct
      unfold evictNonces popWhileLonger
      split
      case isTrue =>
        rw [List.toFinset_cons, Finset.erase_insert (by simpa using new)]
        exact ih rest
      case isFalse => rfl

/-- The set answers membership, the queue knows which nonce is the oldest. -/
structure SeenNonces where
  seen : Finset Bytes
  order : List Bytes
  agrees : seen = order.toFinset
  distinct : order.Nodup
  bounded : order.length ≤ nonceCapacity

namespace SeenNonces

def empty : SeenNonces := ⟨∅, [], rfl, List.nodup_nil, Nat.zero_le _⟩

theorem distinct_concat (w : SeenNonces) {nonce : Bytes} (new : nonce ∉ w.seen) :
    (w.order ++ [nonce]).Nodup := by
  have fresh : nonce ∉ w.order := by simpa only [w.agrees, List.mem_toFinset] using new
  exact List.nodup_append_comm.mp (List.nodup_cons.mpr ⟨fresh, w.distinct⟩)

def remember (w : SeenNonces) (nonce : Bytes) (new : nonce ∉ w.seen) : SeenNonces where
  seen := (evictNonces (insert nonce w.seen) (w.order ++ [nonce])).1
  order := (evictNonces (insert nonce w.seen) (w.order ++ [nonce])).2
  agrees := by
    have both : insert nonce w.seen = (w.order ++ [nonce]).toFinset := by
      ext n
      simp [w.agrees, or_comm]
    rw [both, evictNonces_seen (w.distinct_concat new), evictNonces_order]
  distinct := by
    rw [evictNonces_order]
    exact (w.distinct_concat new).sublist (popWhileLonger_sublist _ _)
  bounded := by
    rw [evictNonces_order, length_popWhileLonger]
    exact min_le_right _ _

theorem mem_seen (w : SeenNonces) (nonce : Bytes) : nonce ∈ w.seen ↔ nonce ∈ w.order := by
  rw [w.agrees, List.mem_toFinset]

theorem remember_order (w : SeenNonces) {nonce : Bytes} (new : nonce ∉ w.seen) :
    (w.remember nonce new).order = popWhileLonger nonceCapacity (w.order ++ [nonce]) :=
  evictNonces_order _ _

end SeenNonces

/-- What lies in the cryptographic library: the session key of a salt and a sender under the
    receiver's key material, and AES-256-GCM decryption with its additional data and tag. -/
structure Cipher (κ K σ : Type*) where
  receivedSessionKey : κ → Bytes → Option σ → Option K × κ
  decrypt : K → (nonce additional ciphertext tag : Bytes) → Option Bytes

structure AeadReceiver (κ : Type*) where
  aeadEnabled : Bool
  sessions : κ
  nonces : SeenNonces := .empty

def aeadMagic : Bytes := octets "FQAEAD2|"

def sessionSalt (payload : Bytes) : Bytes := (payload.drop 8).take 16
def nonceOf (payload : Bytes) : Bytes := (payload.drop 24).take 12
def tagOf (payload : Bytes) : Bytes := (payload.drop 36).take 16
def ciphertextOf (payload : Bytes) : Bytes := payload.drop 52

namespace AeadReceiver

variable {κ K σ : Type*}

/-- The plaintext of a datagram whose tag is right, whether its nonce was seen or not. -/
def decrypts (cipher : Cipher κ K σ) (r : AeadReceiver κ) (payload : Bytes) (source : Option σ) :
    Option Bytes × AeadReceiver κ :=
  let (key, sessions) := cipher.receivedSessionKey r.sessions (sessionSalt payload) source
  (key.bind fun key => cipher.decrypt key (nonceOf payload) (aeadMagic ++ sessionSalt payload)
    (ciphertextOf payload) (tagOf payload), { r with sessions })

def unprotectUdpPayload (cipher : Cipher κ K σ) (r : AeadReceiver κ) (payload : Bytes)
    (source : Option σ) : Option Bytes × AeadReceiver κ :=
  if !r.aeadEnabled then (some payload, r)
  else if payload.length < 8 + 16 + 12 + 16 ∨ payload.take 8 ≠ aeadMagic then (none, r)
  else
    match r.decrypts cipher payload source with
    | (none, r) => (none, r)
    | (some plaintext, r) =>
        if new : nonceOf payload ∉ r.nonces.seen then
          (some plaintext, { r with nonces := r.nonces.remember (nonceOf payload) new })
        else (none, r)

/-- The datagram is protected and its tag is right. -/
structure Decrypts (cipher : Cipher κ K σ) (r : AeadReceiver κ) (payload : Bytes)
    (source : Option σ) (plaintext : Bytes) : Prop where
  enabled : r.aeadEnabled
  long : 8 + 16 + 12 + 16 ≤ payload.length
  magic : payload.take 8 = aeadMagic
  authentic : (r.decrypts cipher payload source).1 = some plaintext

variable {cipher : Cipher κ K σ} {r : AeadReceiver κ} {payload plaintext : Bytes}
  {source : Option σ}

theorem decrypts_nonces (cipher : Cipher κ K σ) (r : AeadReceiver κ) (payload : Bytes)
    (source : Option σ) : (r.decrypts cipher payload source).2.nonces = r.nonces := rfl

/-- With protection enabled a datagram is refused and its nonce not remembered, or it decrypts,
    its nonce is new, and is remembered. -/
theorem unprotectUdpPayload_cases (cipher : Cipher κ K σ) (payload : Bytes) (source : Option σ)
    (enabled : r.aeadEnabled) :
    ((r.unprotectUdpPayload cipher payload source).1 = none ∧
      (r.unprotectUdpPayload cipher payload source).2.nonces = r.nonces) ∨
    ∃ (plaintext : Bytes) (new : nonceOf payload ∉ r.nonces.seen),
      r.Decrypts cipher payload source plaintext ∧
      (r.unprotectUdpPayload cipher payload source).1 = some plaintext ∧
      (r.unprotectUdpPayload cipher payload source).2.nonces =
        r.nonces.remember (nonceOf payload) new := by
  simp only [unprotectUdpPayload, enabled, Bool.not_true, Bool.false_eq_true, if_false]
  split
  case isTrue => exact .inl ⟨rfl, rfl⟩
  case isFalse shaped =>
    obtain ⟨long, magic⟩ := not_or.mp shaped
    cases found : r.decrypts cipher payload source with
    | mk plain after =>
        have same : after.nonces = r.nonces := by rw [← decrypts_nonces cipher r payload source, found]
        cases plain with
        | none => exact .inl ⟨rfl, same⟩
        | some plaintext =>
            simp only [same]
            split
            case isTrue new =>
              exact .inr ⟨plaintext, new, ⟨enabled, by omega, not_not.mp magic, by rw [found]⟩,
                rfl, rfl⟩
            case isFalse => exact .inl ⟨rfl, same⟩

theorem unprotectUdpPayload_enabled (cipher : Cipher κ K σ) (r : AeadReceiver κ)
    (payload : Bytes) (source : Option σ) :
    (r.unprotectUdpPayload cipher payload source).2.aeadEnabled = r.aeadEnabled := by
  have kept : (r.decrypts cipher payload source).2.aeadEnabled = r.aeadEnabled := rfl
  unfold unprotectUdpPayload
  split
  · rfl
  · split
    · rfl
    · cases found : r.decrypts cipher payload source with
      | mk plain after =>
          rw [found] at kept
          cases plain with
          | none => exact kept
          | some plaintext =>
              dsimp only
              split <;> exact kept

/-- A datagram that decrypts is accepted where its nonce is not remembered. -/
theorem Decrypts.accepted_iff (right : r.Decrypts cipher payload source plaintext) :
    (r.unprotectUdpPayload cipher payload source).1 = some plaintext ↔
      nonceOf payload ∉ r.nonces.seen := by
  have shaped : ¬(payload.length < 8 + 16 + 12 + 16 ∨ payload.take 8 ≠ aeadMagic) := by
    simp only [right.magic, ne_eq, not_true_eq_false, or_false, not_lt]
    exact right.long
  cases found : r.decrypts cipher payload source with
  | mk plain after =>
      have same : after.nonces = r.nonces := by rw [← decrypts_nonces cipher r payload source, found]
      obtain rfl : plain = some plaintext := by simpa only [found] using right.authentic
      simp only [unprotectUdpPayload, right.enabled, Bool.not_true, Bool.false_eq_true, if_false,
        shaped, found, same]
      split
      case isTrue new => simpa using new
      case isFalse old => simpa using old

end AeadReceiver

/-! ## Runs -/

/-- A datagram arrives, or a key exchange changes the key material. -/
inductive AeadEvent (κ σ : Type*) where
  | datagram (payload : Bytes) (source : Option σ)
  | rekey (sessions : κ)

/-- The receiver, with the datagrams that it has accepted. -/
structure AeadRun (κ : Type*) where
  receiver : AeadReceiver κ
  accepted : List Bytes := []

namespace AeadRun

variable {κ K σ : Type*} {cipher : Cipher κ K σ} {s s' : AeadRun κ} {e : AeadEvent κ σ}

/-- The receiver after `start()` with a configured key. -/
def start (sessions : κ) : AeadRun κ where
  receiver := { aeadEnabled := true, sessions }

def step (cipher : Cipher κ K σ) (s : AeadRun κ) : AeadEvent κ σ → Option (AeadRun κ)
  | .datagram payload source =>
      match s.receiver.unprotectUdpPayload cipher payload source with
      | (some _, receiver) => some { receiver, accepted := s.accepted ++ [payload] }
      | (none, receiver) => some { s with receiver }
  | .rekey sessions => some { s with receiver := { s.receiver with sessions } }

/-- The remembered nonces are those of the last accepted datagrams, and two datagrams that were
    accepted with one nonce are further apart than the memory reaches. -/
structure Fresh (s : AeadRun κ) : Prop where
  enabled : s.receiver.aeadEnabled
  remembered : s.receiver.nonces.order = window nonceCapacity (s.accepted.map nonceOf)
  apart : ∀ i j p q, s.accepted[i]? = some p → s.accepted[j]? = some q → i < j →
    nonceOf p = nonceOf q → i + nonceCapacity < j

theorem Fresh.start (sessions : κ) : (start sessions).Fresh where
  enabled := rfl
  remembered := window_nil.symm
  apart i j p q at_ := by simp [AeadRun.start] at at_

/-- A nonce that is not remembered was not that of one of the last accepted datagrams. -/
theorem Fresh.apart_concat {payload : Bytes} (h : s.Fresh)
    (new : nonceOf payload ∉ s.receiver.nonces.seen) (i j : Nat) (p q : Bytes)
    (at_i : (s.accepted ++ [payload])[i]? = some p)
    (at_j : (s.accepted ++ [payload])[j]? = some q) (before : i < j)
    (same : nonceOf p = nonceOf q) : i + nonceCapacity < j := by
  have inside : j < (s.accepted ++ [payload]).length := (List.getElem?_eq_some_iff.mp at_j).1
  rw [List.length_append, List.length_singleton] at inside
  rw [List.getElem?_append_left (by omega)] at at_i
  obtain earlier | last := lt_or_ge j s.accepted.length
  · rw [List.getElem?_append_left earlier] at at_j
    exact h.apart i j p q at_i at_j before same
  · obtain rfl : j = s.accepted.length := by omega
    obtain rfl : payload = q := by simpa using at_j
    by_contra near
    apply new
    rw [SeenNonces.mem_seen, h.remembered, window, ← same, List.mem_iff_getElem?]
    refine ⟨i - (s.accepted.length - nonceCapacity), ?_⟩
    rw [List.getElem?_drop, List.length_map, Nat.add_sub_cancel' (by omega), List.getElem?_map,
      at_i]
    rfl

theorem Fresh.step (h : s.Fresh) (taken : s.step cipher e = some s') : s'.Fresh := by
  cases e with
  | rekey sessions =>
      obtain rfl := Option.some.inj taken
      exact ⟨h.enabled, h.remembered, h.apart⟩
  | datagram payload source =>
      have enabled := AeadReceiver.unprotectUdpPayload_enabled cipher s.receiver payload source
      have cases_ := AeadReceiver.unprotectUdpPayload_cases cipher payload source h.enabled
      cases result : s.receiver.unprotectUdpPayload cipher payload source with
      | mk plain receiver =>
          rw [result] at enabled cases_
          simp only [AeadRun.step, result] at taken
          rcases cases_ with ⟨rfl, same⟩ | ⟨plaintext, new, -, rfl, remembers⟩
          · obtain rfl := Option.some.inj taken
            exact ⟨enabled.trans h.enabled, same ▸ h.remembered, h.apart⟩
          · obtain rfl := Option.some.inj taken
            refine ⟨enabled.trans h.enabled, ?_, ?_⟩
            · rw [remembers, SeenNonces.remember_order, h.remembered, window_concat,
                List.map_append, List.map_singleton]
            · exact h.apart_concat new

theorem Fresh.of_run (sessions : κ) {events : List (AeadEvent κ σ)}
    (h : run (AeadRun.step cipher) (AeadRun.start sessions) events = some s) : s.Fresh :=
  run_preserves (fun h taken => h.step taken) (Fresh.start sessions) h

/-- In every run two datagrams are accepted with one nonce only when as many others as the memory
    holds were accepted in between. A datagram that decrypts is accepted unless its nonce is that
    of one of the last accepted datagrams, so always when its nonce was never accepted. -/
theorem replay_window (sessions : κ) {events : List (AeadEvent κ σ)}
    (h : run (AeadRun.step cipher) (start sessions) events = some s) :
    (∀ i j p q, s.accepted[i]? = some p → s.accepted[j]? = some q → i < j →
      nonceOf p = nonceOf q → i + nonceCapacity < j) ∧
    ∀ payload source plaintext, s.receiver.Decrypts cipher payload source plaintext →
      ((s.receiver.unprotectUdpPayload cipher payload source).1 = some plaintext ↔
        nonceOf payload ∉ window nonceCapacity (s.accepted.map nonceOf)) ∧
      (nonceOf payload ∉ s.accepted.map nonceOf →
        (s.receiver.unprotectUdpPayload cipher payload source).1 = some plaintext) := by
  have fresh := Fresh.of_run sessions h
  refine ⟨fresh.apart, fun payload source plaintext right => ?_⟩
  have accepted_iff : (s.receiver.unprotectUdpPayload cipher payload source).1 = some plaintext ↔
      nonceOf payload ∉ window nonceCapacity (s.accepted.map nonceOf) := by
    rw [right.accepted_iff, SeenNonces.mem_seen, fresh.remembered]
  exact ⟨accepted_iff, fun never => accepted_iff.mpr fun old => never (List.mem_of_mem_drop old)⟩

end AeadRun

/-! ## A sender that is recorded -/

/-- The nonce of `protect_udp_payload`: a random start of four octets and the sequence number,
    the most significant octet first. -/
def protectedNonce (random : Bytes) (sequence : Nat) : Bytes :=
  random ++ (leBytes 8 sequence).reverse

def protectedDatagram (salt nonce tag ciphertext : Bytes) : Bytes :=
  aeadMagic ++ salt ++ nonce ++ tag ++ ciphertext

theorem nonceOf_protectedDatagram {salt nonce tag ciphertext : Bytes} (saltSize : salt.length = 16)
    (nonceSize : nonce.length = 12) :
    nonceOf (protectedDatagram salt nonce tag ciphertext) = nonce := by
  have front : (aeadMagic ++ salt).length = 24 := by
    rw [List.length_append, saltSize]
    rfl
  rw [nonceOf, protectedDatagram, List.append_assoc (aeadMagic ++ salt ++ nonce),
    List.append_assoc (aeadMagic ++ salt), ← front, List.drop_left, ← nonceSize, List.take_left]

namespace AeadRun

/-- A cipher under which every tag is right. -/
def openCipher : Cipher Unit Unit Unit where
  receivedSessionKey _ _ _ := (some (), ())
  decrypt _ _ _ ciphertext _ := some ciphertext

/-- The sender's datagram of that sequence number. -/
def recorded (sequence : Nat) : Bytes :=
  protectedDatagram (List.replicate 16 0) (protectedNonce [0, 0, 0, 0] sequence)
    (List.replicate 16 0) []

theorem nonceOf_recorded (sequence : Nat) :
    nonceOf (recorded sequence) = protectedNonce [0, 0, 0, 0] sequence := by
  apply nonceOf_protectedDatagram
  · rfl
  · simp [protectedNonce]

theorem nonceOf_recorded_injective {a b : Nat} (fits : a < 2 ^ 64) (fits' : b < 2 ^ 64)
    (same : nonceOf (recorded a) = nonceOf (recorded b)) : a = b := by
  rw [nonceOf_recorded, nonceOf_recorded, protectedNonce, protectedNonce] at same
  exact leBytes_injective (by omega) (by omega) (List.reverse_injective (List.append_cancel_left same))

theorem decrypts_recorded {r : AeadReceiver Unit} (enabled : r.aeadEnabled) (sequence : Nat) :
    r.Decrypts openCipher (recorded sequence) none [] where
  enabled := enabled
  long := by simp [recorded, protectedDatagram, protectedNonce, aeadMagic, octets]
  magic := by simp [recorded, protectedDatagram, aeadMagic, octets]
  authentic := by
    simp [AeadReceiver.decrypts, openCipher, ciphertextOf, recorded, protectedDatagram,
      protectedNonce, aeadMagic, octets]

/-- A datagram of the sender is accepted when no remembered one has its sequence number. -/
theorem step_recorded {s : AeadRun Unit} (fresh : s.Fresh) {sequence : Nat}
    (new : nonceOf (recorded sequence) ∉ window nonceCapacity (s.accepted.map nonceOf)) :
    ∃ s', s.step openCipher (.datagram (recorded sequence) none) = some s' ∧
      s'.accepted = s.accepted ++ [recorded sequence] := by
  have accepted := (decrypts_recorded fresh.enabled sequence).accepted_iff.mpr (by
    rw [SeenNonces.mem_seen, fresh.remembered]
    exact new)
  cases result : s.receiver.unprotectUdpPayload openCipher (recorded sequence) none with
  | mk plain receiver =>
      rw [result] at accepted
      obtain rfl : plain = some [] := accepted
      exact ⟨{ receiver, accepted := s.accepted ++ [recorded sequence] },
        by simp only [step, result], rfl⟩

/-- The recorded datagrams arrive once each, in order. -/
def flood (n : Nat) : List (AeadEvent Unit Unit) :=
  (List.range n).map fun sequence => .datagram (recorded sequence) none

theorem run_flood {n : Nat} (few : n ≤ 2 ^ 64) :
    ∃ s, run (step openCipher) (start ()) (flood n) = some s ∧
      s.accepted = (List.range n).map recorded := by
  induction n with
  | zero => exact ⟨start (), rfl, rfl⟩
  | succ n ih =>
      obtain ⟨s, taken, accepted⟩ := ih (by omega)
      have fresh := Fresh.of_run () taken
      have new : nonceOf (recorded n) ∉ window nonceCapacity (s.accepted.map nonceOf) := by
        intro old
        have among := List.mem_of_mem_drop old
        rw [accepted, List.map_map] at among
        obtain ⟨k, inside, same⟩ := List.mem_map.mp among
        have before := List.mem_range.mp inside
        exact absurd (nonceOf_recorded_injective (by omega) (by omega) same) (by omega)
      obtain ⟨s', stepped, after⟩ := step_recorded fresh new
      refine ⟨s', ?_, by rw [after, accepted, List.range_succ, List.map_append, List.map_singleton]⟩
      rw [flood, List.range_succ, List.map_append]
      exact run_concat taken stepped

/-- After as many other datagrams as the memory holds the first one is accepted again. -/
theorem replay_accepted : ∃ s,
    run (step openCipher) (start ()) (flood (nonceCapacity + 1) ++ [.datagram (recorded 0) none]) =
      some s ∧ ¬s.accepted.Nodup := by
  obtain ⟨s, taken, accepted⟩ := run_flood (n := nonceCapacity + 1) (by unfold nonceCapacity; omega)
  have fresh := Fresh.of_run () taken
  have forgotten : nonceOf (recorded 0) ∉ window nonceCapacity (s.accepted.map nonceOf) := by
    rw [accepted, List.map_map, window, List.length_map, List.length_range, Nat.add_sub_cancel_left,
      ← List.map_drop, List.range_eq_range', List.drop_range']
    intro among
    obtain ⟨k, inside, same⟩ := List.mem_map.mp among
    have bounds := List.mem_range'_1.mp inside
    have small : nonceCapacity + 1 < 2 ^ 64 := by unfold nonceCapacity; omega
    exact absurd (nonceOf_recorded_injective (by omega) (by omega) same) (by omega)
  obtain ⟨s', stepped, after⟩ := step_recorded fresh forgotten
  refine ⟨s', run_concat taken stepped, ?_⟩
  have again : recorded 0 ∈ s.accepted := by
    rw [accepted]
    exact List.mem_map_of_mem (List.mem_range.mpr (by omega))
  rw [after]
  intro distinct
  exact (List.nodup_append.mp distinct).2.2 _ again _ (List.mem_singleton_self _) rfl

/-- Of a sender's first two datagrams the second is refused when it comes again, and the eighth
    is accepted. -/
theorem replay_window_two : ∃ s, run (step openCipher) (start ()) (flood 2) = some s ∧
    (s.receiver.unprotectUdpPayload openCipher (recorded 1) none).1 ≠ some [] ∧
    (s.receiver.unprotectUdpPayload openCipher (recorded 7) none).1 = some [] := by
  obtain ⟨s, taken, accepted⟩ := run_flood (n := 2) (by omega)
  have fresh := Fresh.of_run () taken
  have again := (replay_window () taken).2 (recorded 1) none []
    (decrypts_recorded fresh.enabled 1)
  have new := (replay_window () taken).2 (recorded 7) none []
    (decrypts_recorded fresh.enabled 7)
  refine ⟨s, taken, fun refused => again.1.mp refused ?_, new.2 ?_⟩
  · rw [accepted]
    exact List.mem_cons_of_mem _ (List.mem_cons_self)
  · rw [accepted]
    decide

end AeadRun

end FleetRMW.Rmw
