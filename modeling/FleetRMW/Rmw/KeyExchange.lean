import FleetRMW.Lib.Run
import FleetRMW.Lib.Wire
import FleetRMW.Rmw.Datagram

/-! # Ephemeral key exchange

Two processes agree on a secret by sending each other an ephemeral public key, signed by the
long-term identity and at most every half second while no secret is there. A process answers
a key with its own one where it had no secret before. The private key goes when the secret
is there, so that each process derives once.
-/

namespace FleetRMW.Rmw

open Lib

variable {κ σ : Type*}

/-- Key agreement on a curve: the encoded public key, and what a private key makes of the
    other party's. -/
structure KeyAgreement (κ σ : Type*) where
  pubkeyDer : κ → Bytes
  derive : κ → Bytes → Option σ
  nonempty : ∀ k, pubkeyDer k ≠ []
  bounded : ∀ k, (pubkeyDer k).length ≤ 65536
  derives : ∀ k k', (derive k (pubkeyDer k')).isSome
  comm : ∀ k k', derive k (pubkeyDer k') = derive k' (pubkeyDer k)

def buildUdpEcdhKexMessage (pubkeyDer : Bytes) : Option Bytes :=
  if pubkeyDer = [] ∨ pubkeyDer.length > 65536 then none
  else some (kexMagic ++ (leBytes 4 pubkeyDer.length).reverse ++ pubkeyDer)

def parseUdpEcdhKexMessage (message : Bytes) : Option Bytes :=
  if message.length < 11 ∨ message.take 7 ≠ kexMagic then none
  else
    let pubkeySize := leValue ((message.drop 7).take 4).reverse
    if pubkeySize = 0 ∨ pubkeySize > 65536 ∨ 11 + pubkeySize ≠ message.length then none
    else some ((message.drop 11).take pubkeySize)

theorem parseUdpEcdhKexMessage_build {pubkeyDer message : Bytes}
    (built : buildUdpEcdhKexMessage pubkeyDer = some message) :
    parseUdpEcdhKexMessage message = some pubkeyDer := by
  simp only [buildUdpEcdhKexMessage] at built
  split at built
  case isTrue => cases built
  case isFalse fits =>
    obtain rfl := Option.some.inj built
    obtain ⟨some_, small⟩ := not_or.mp fits
    have magic : kexMagic.length = 7 := rfl
    have positive : 0 < pubkeyDer.length := List.length_pos_of_ne_nil some_
    have front : (kexMagic ++ (leBytes 4 pubkeyDer.length).reverse ++ pubkeyDer).take 7 =
        kexMagic := by
      rw [List.append_assoc, List.take_left' magic]
    have middle : (kexMagic ++ (leBytes 4 pubkeyDer.length).reverse ++ pubkeyDer).drop 7 =
        (leBytes 4 pubkeyDer.length).reverse ++ pubkeyDer := by
      rw [List.append_assoc, List.drop_left' magic]
    have back : (kexMagic ++ (leBytes 4 pubkeyDer.length).reverse ++ pubkeyDer).drop 11 =
        pubkeyDer := by
      exact List.drop_left' (by simp [magic])
    have size : leValue (((leBytes 4 pubkeyDer.length).reverse ++ pubkeyDer).take 4).reverse =
        pubkeyDer.length := by
      have four : (leBytes 4 pubkeyDer.length).reverse.length = 4 := by simp
      rw [List.take_left' four, List.reverse_reverse]
      exact leValue_leBytes (by omega)
    have long : ¬(kexMagic ++ (leBytes 4 pubkeyDer.length).reverse ++ pubkeyDer).length < 11 := by
      simp only [List.length_append, List.length_reverse, length_leBytes, magic]
      omega
    have sum : 11 + pubkeyDer.length =
        (kexMagic ++ (leBytes 4 pubkeyDer.length).reverse ++ pubkeyDer).length := by
      simp only [List.length_append, List.length_reverse, length_leBytes, magic]
    rw [parseUdpEcdhKexMessage, if_neg (not_or.mpr ⟨long, not_not.mpr front⟩)]
    simp only [middle, size, back]
    rw [if_neg (by omega), List.take_length]

/-- What a process keeps for one peer. -/
structure UdpEcdhPeerState (κ σ : Type*) where
  ephemeralKeypair : Option κ := none
  localEphemeralPubkeyDer : Bytes := []
  handshakeComplete : Bool := false
  sharedSecret : Option σ := none
  kexSentAt : Nat := 0

namespace UdpEcdhPeerState

variable (dh : KeyAgreement κ σ)

/-- A generated key pair is kept with its encoded public key. -/
def withKeypair (state : UdpEcdhPeerState κ σ) (now : Nat) (k : κ) : UdpEcdhPeerState κ σ :=
  { state with
    ephemeralKeypair := some k
    localEphemeralPubkeyDer := dh.pubkeyDer k
    kexSentAt := now }

/-- The state, the message that is sent, and the secret the datagram is protected with. The
    clock is in milliseconds; `generated` is none where key generation fails. -/
def ecdhSharedSecretForTarget (state : UdpEcdhPeerState κ σ) (now : Nat) (generated : Option κ) :
    UdpEcdhPeerState κ σ × Option Bytes × Option σ :=
  let secret := if state.handshakeComplete then state.sharedSecret else none
  if state.localEphemeralPubkeyDer = [] then
    match generated with
    | none => (state, none, secret)
    | some k => (state.withKeypair dh now k, buildUdpEcdhKexMessage (dh.pubkeyDer k), secret)
  else if state.handshakeComplete = false ∧ now - state.kexSentAt > 500 then
    ({ state with kexSentAt := now }, buildUdpEcdhKexMessage state.localEphemeralPubkeyDer, secret)
  else (state, none, secret)

/-- The secret is derived once; the private key is not needed afterwards. -/
def complete (state : UdpEcdhPeerState κ σ) (peerEphemeralPubkeyDer : Bytes) :
    UdpEcdhPeerState κ σ :=
  match state.handshakeComplete, state.ephemeralKeypair with
  | false, some k =>
      match dh.derive k peerEphemeralPubkeyDer with
      | some secret =>
          { state with
            sharedSecret := some secret
            handshakeComplete := true
            ephemeralKeypair := none }
      | none => state
  | _, _ => state

/-- The state and the answer, which only a process without a secret sends. -/
def handleUdpEcdhKexMessage (state : UdpEcdhPeerState κ σ) (message : Bytes) (now : Nat)
    (generated : Option κ) : UdpEcdhPeerState κ σ × Option Bytes :=
  match parseUdpEcdhKexMessage message with
  | none => (state, none)
  | some peerEphemeralPubkeyDer =>
      let keyed :=
        if state.localEphemeralPubkeyDer = [] then generated.map (state.withKeypair dh now)
        else some state
      match keyed with
      | none => (state, none)
      | some keyed =>
          (keyed.complete dh peerEphemeralPubkeyDer,
            if state.handshakeComplete then none
            else buildUdpEcdhKexMessage keyed.localEphemeralPubkeyDer)

def ecdhEstablishedSecretForPeer (state : UdpEcdhPeerState κ σ) : Option σ :=
  if state.handshakeComplete then state.sharedSecret else none

end UdpEcdhPeerState

/-! ## Stages

What a process has done so far, with the private key it had. -/

inductive KexStage (κ σ : Type*) where
  | idle
  | offered (k : κ)
  | completed (k : κ) (secret : σ)

namespace KexStage

def key : KexStage κ σ → Option κ
  | idle => none
  | offered k => some k
  | completed k _ => some k

def secret : KexStage κ σ → Option σ
  | completed _ secret => some secret
  | _ => none

/-- The process makes up its key. -/
def offer (stage : KexStage κ σ) (generated : Option κ) : KexStage κ σ :=
  match stage, generated with
  | idle, some k => offered k
  | stage, _ => stage

/-- The process has its key and gets the other party's. -/
def derive (dh : KeyAgreement κ σ) (stage : KexStage κ σ) (pubkeyDer : Bytes) : KexStage κ σ :=
  match stage with
  | offered k =>
      match dh.derive k pubkeyDer with
      | some secret => completed k secret
      | none => offered k
  | stage => stage

/-- What is kept at a stage. -/
inductive Kept (dh : KeyAgreement κ σ) : KexStage κ σ → UdpEcdhPeerState κ σ → Prop
  | idle (kexSentAt : Nat) : Kept dh idle { kexSentAt }
  | offered (k : κ) (kexSentAt : Nat) :
      Kept dh (offered k)
        { ephemeralKeypair := some k, localEphemeralPubkeyDer := dh.pubkeyDer k, kexSentAt }
  | completed (k : κ) (secret : σ) (kexSentAt : Nat) :
      Kept dh (completed k secret)
        { localEphemeralPubkeyDer := dh.pubkeyDer k, handshakeComplete := true,
          sharedSecret := some secret, kexSentAt }

variable {dh : KeyAgreement κ σ} {stage : KexStage κ σ} {state : UdpEcdhPeerState κ σ}
  {now : Nat} {generated : Option κ}

theorem offer_key {k : κ} (had : stage.key = some k) : (stage.offer generated).key = some k := by
  cases stage with
  | idle => cases had
  | offered => cases generated <;> exact had
  | completed => cases generated <;> exact had

theorem offer_secret : (stage.offer generated).secret = stage.secret := by
  cases stage <;> cases generated <;> rfl

theorem derive_key (pubkeyDer : Bytes) : (stage.derive dh pubkeyDer).key = stage.key := by
  cases stage with
  | idle => rfl
  | completed => rfl
  | offered k =>
      simp only [derive]
      cases dh.derive k pubkeyDer <;> rfl

theorem Kept.complete_iff (kept : Kept dh stage state) :
    state.handshakeComplete = true ↔ stage.secret.isSome := by
  cases kept <;> simp [secret]

/-- Both lookups give the secret of the stage. -/
theorem Kept.established (kept : Kept dh stage state) :
    state.ecdhEstablishedSecretForPeer = stage.secret := by
  cases kept <;> rfl

theorem Kept.pubkeyDer_eq_nil_iff (kept : Kept dh stage state) :
    state.localEphemeralPubkeyDer = [] ↔ stage.key = none := by
  cases kept with
  | idle => simp [key]
  | offered k => simp [key, dh.nonempty k]
  | completed k => simp [key, dh.nonempty k]

/-- A call makes up a key where there is none, sends nothing but the key's message, and
    gives the secret of the stage. -/
theorem Kept.call (kept : Kept dh stage state) (now : Nat) (generated : Option κ) :
    Kept dh (stage.offer generated) (state.ecdhSharedSecretForTarget dh now generated).1 ∧
      (∀ m, (state.ecdhSharedSecretForTarget dh now generated).2.1 = some m →
        ∃ k, (stage.offer generated).key = some k ∧
          buildUdpEcdhKexMessage (dh.pubkeyDer k) = some m) ∧
      (state.ecdhSharedSecretForTarget dh now generated).2.2 = stage.secret := by
  cases kept with
  | idle at_ =>
      cases generated with
      | none => exact ⟨.idle at_, fun m sent => (by cases sent), rfl⟩
      | some k => exact ⟨.offered k now, fun m sent => ⟨k, rfl, sent⟩, rfl⟩
  | offered k at_ =>
      have keep : (KexStage.offered k : KexStage κ σ).offer generated = .offered k := by
        cases generated <;> rfl
      simp only [keep, UdpEcdhPeerState.ecdhSharedSecretForTarget, if_neg (dh.nonempty k)]
      split
      case isTrue => exact ⟨.offered k now, fun m sent => ⟨k, rfl, sent⟩, rfl⟩
      case isFalse => exact ⟨.offered k at_, fun m sent => (by cases sent), rfl⟩
  | completed k secret at_ =>
      have keep : (KexStage.completed k secret : KexStage κ σ).offer generated =
          .completed k secret := by
        cases generated <;> rfl
      simp only [keep, UdpEcdhPeerState.ecdhSharedSecretForTarget, if_neg (dh.nonempty k)]
      split
      case isTrue waits => cases waits.1
      case isFalse => exact ⟨.completed k secret at_, fun m sent => (by cases sent), rfl⟩

/-- The stage after a key came in; nothing happens where no own key could be made up. -/
def receive (dh : KeyAgreement κ σ) (stage : KexStage κ σ) (generated : Option κ)
    (pubkeyDer : Bytes) : KexStage κ σ :=
  (stage.offer generated).derive dh pubkeyDer

theorem receive_key {k : κ} (had : stage.key = some k) (pubkeyDer : Bytes) :
    (stage.receive dh generated pubkeyDer).key = some k :=
  (derive_key pubkeyDer).trans (offer_key had)

/-- A secret that was not there before was derived from the key that came in. -/
theorem secret_of_receive {k' : κ} {secret : σ}
    (now_ : (stage.receive dh generated (dh.pubkeyDer k')).secret = some secret) :
    stage.secret = some secret ∨ ∃ k, (stage.receive dh generated (dh.pubkeyDer k')).key = some k ∧
      dh.derive k (dh.pubkeyDer k') = some secret := by
  have before : (stage.offer generated).secret = stage.secret := offer_secret
  rw [← before]
  unfold receive at now_ ⊢
  cases offered_ : stage.offer generated with
  | idle => rw [offered_] at now_; cases now_
  | completed => rw [offered_] at now_; exact .inl now_
  | offered k =>
      rw [offered_] at now_
      refine .inr ⟨k, by rw [derive_key]; rfl, ?_⟩
      obtain ⟨derived, known⟩ := Option.isSome_iff_exists.mp (dh.derives k k')
      simp only [derive, known] at now_
      exact known.trans now_

/-- Who has a key and gets another one has a secret. -/
theorem secret_receive {k' : κ} (keyed : (stage.offer generated).key.isSome) :
    (stage.receive dh generated (dh.pubkeyDer k')).secret.isSome := by
  unfold receive
  cases offered_ : stage.offer generated with
  | idle => rw [offered_] at keyed; cases keyed
  | completed => rfl
  | offered k =>
      obtain ⟨secret, known⟩ := Option.isSome_iff_exists.mp (dh.derives k k')
      simp only [derive, known]
      rfl

/-- What a stage sends when a key came in. -/
def answer (dh : KeyAgreement κ σ) (stage : KexStage κ σ) (generated : Option κ) : Option Bytes :=
  if stage.secret.isSome then none
  else (stage.offer generated).key.bind fun k => buildUdpEcdhKexMessage (dh.pubkeyDer k)

/-- The message of the other party's key is received. It is answered where there was no secret
    before, unless no own key could be made up. -/
theorem Kept.handle {k' : κ} {message : Bytes} (kept : Kept dh stage state)
    (from_ : buildUdpEcdhKexMessage (dh.pubkeyDer k') = some message) (now : Nat)
    (generated : Option κ) :
    Kept dh (stage.receive dh generated (dh.pubkeyDer k'))
        (state.handleUdpEcdhKexMessage dh message now generated).1 ∧
      (state.handleUdpEcdhKexMessage dh message now generated).2 = stage.answer dh generated := by
  have parsed := parseUdpEcdhKexMessage_build from_
  -- what comes of a process that has its key and no secret
  have derived : ∀ k at_, ∃ secret, dh.derive k (dh.pubkeyDer k') = some secret ∧
      (UdpEcdhPeerState.complete dh
        { ephemeralKeypair := some k, localEphemeralPubkeyDer := dh.pubkeyDer k, kexSentAt := at_ }
        (dh.pubkeyDer k')) =
      { localEphemeralPubkeyDer := dh.pubkeyDer k, handshakeComplete := true,
        sharedSecret := some secret, kexSentAt := at_ } := by
    intro k at_
    obtain ⟨secret, known⟩ := Option.isSome_iff_exists.mp (dh.derives k k')
    exact ⟨secret, known, by simp only [UdpEcdhPeerState.complete, known]⟩
  cases kept with
  | idle at_ =>
      cases generated with
      | none =>
          simp only [UdpEcdhPeerState.handleUdpEcdhKexMessage, parsed]
          exact ⟨.idle at_, rfl⟩
      | some k =>
          obtain ⟨secret, known, after⟩ := derived k now
          simp only [UdpEcdhPeerState.handleUdpEcdhKexMessage, parsed, if_true, Option.map_some,
            UdpEcdhPeerState.withKeypair, after, receive, offer, derive, known]
          exact ⟨.completed k secret now, rfl⟩
  | offered k at_ =>
      obtain ⟨secret, known, after⟩ := derived k at_
      have keep : (KexStage.offered k : KexStage κ σ).offer generated = .offered k := by
        cases generated <;> rfl
      simp only [UdpEcdhPeerState.handleUdpEcdhKexMessage, parsed, if_neg (dh.nonempty k), after,
        receive, answer, keep, derive, known]
      exact ⟨.completed k secret at_, rfl⟩
  | completed k secret at_ =>
      have keep : (KexStage.completed k secret : KexStage κ σ).offer generated =
          .completed k secret := by
        cases generated <;> rfl
      simp only [UdpEcdhPeerState.handleUdpEcdhKexMessage, parsed, if_neg (dh.nonempty k),
        UdpEcdhPeerState.complete, receive, keep, derive]
      exact ⟨.completed k secret at_, rfl⟩

/-- An answer is the key's message. -/
theorem of_answer {m : Bytes} (sent : stage.answer dh generated = some m) (pubkeyDer : Bytes) :
    ∃ k, (stage.receive dh generated pubkeyDer).key = some k ∧
      buildUdpEcdhKexMessage (dh.pubkeyDer k) = some m := by
  simp only [answer] at sent
  split at sent
  case isTrue => cases sent
  case isFalse =>
    obtain ⟨k, had, built⟩ := Option.bind_eq_some_iff.mp sent
    exact ⟨k, (derive_key pubkeyDer).trans had, built⟩

end KexStage

/-! ## Two processes -/

inductive KexSide where
  | a
  | b
  deriving Repr, DecidableEq

def KexSide.other : KexSide → KexSide
  | a => b
  | b => a

@[simp] theorem KexSide.other_other (x : KexSide) : x.other.other = x := by cases x <;> rfl

theorem KexSide.other_ne (x : KexSide) : x.other ≠ x := by cases x <;> decide

theorem KexSide.eq_or_eq_other (x y : KexSide) : y = x ∨ y = x.other := by
  cases x <;> cases y <;> decide

/-- What each side keeps for the other, and the messages it ever sent: each may come in at any
    later time, any number of times or never. -/
structure KexRun (κ σ : Type*) where
  peer : KexSide → UdpEcdhPeerState κ σ
  sent : KexSide → List Bytes

inductive KexEvent (κ : Type*) where
  | call (x : KexSide) (now : Nat) (generated : Option κ)
  | deliver (x : KexSide) (message : Bytes) (now : Nat) (generated : Option κ)

namespace KexRun

variable (dh : KeyAgreement κ σ)

def start : KexRun κ σ where
  peer _ := {}
  sent _ := []

/-- A side's new state and the message it sends, if any. -/
def put (s : KexRun κ σ) (x : KexSide) (state : UdpEcdhPeerState κ σ) (message : Option Bytes) :
    KexRun κ σ where
  peer := Function.update s.peer x state
  sent := Function.update s.sent x (s.sent x ++ message.toList)

/-- A datagram is sent to the other side. -/
def call (s : KexRun κ σ) (x : KexSide) (now : Nat) (generated : Option κ) : KexRun κ σ :=
  let called := (s.peer x).ecdhSharedSecretForTarget dh now generated
  s.put x called.1 called.2.1

/-- A message of the other side comes in. -/
def receive (s : KexRun κ σ) (x : KexSide) (message : Bytes) (now : Nat) (generated : Option κ) :
    KexRun κ σ :=
  let handled := (s.peer x).handleUdpEcdhKexMessage dh message now generated
  s.put x handled.1 handled.2

def step (s : KexRun κ σ) : KexEvent κ → Option (KexRun κ σ)
  | .call x now generated => some (s.call dh x now generated)
  | .deliver x message now generated =>
      if message ∈ s.sent x.other then some (s.receive dh x message now generated) else none

/-- `x` receives the messages one after the other. -/
def receiveAll (s : KexRun κ σ) (x : KexSide) (now : Nat) (generated : Option κ)
    (messages : List Bytes) : KexRun κ σ :=
  messages.foldl (fun s message => s.receive dh x message now generated) s

/-- A message of `x` reaches the other side, and what that side sends in answer reaches `x`. -/
def exchange (s : KexRun κ σ) (x : KexSide) (message : Bytes) (now : Nat) (generated : Option κ) :
    KexRun κ σ :=
  let answered := s.receive dh x.other message now generated
  answered.receiveAll dh x now none
    ((answered.sent x.other).drop (s.sent x.other).length)

def Complete (s : KexRun κ σ) (x : KexSide) : Prop := (s.peer x).handshakeComplete = true

instance (s : KexRun κ σ) (x : KexSide) : Decidable (s.Complete x) :=
  inferInstanceAs (Decidable (_ = true))

/-- The side has a public key to answer with, or makes one up. -/
def CanAnswer (s : KexRun κ σ) (x : KexSide) (generated : Option κ) : Prop :=
  (s.peer x).localEphemeralPubkeyDer ≠ [] ∨ generated.isSome

variable {dh} {s s' : KexRun κ σ}

/-- Each side is at a stage, sent nothing but its key, and derived its secret from the key
    that the other side has. -/
structure Agrees (dh : KeyAgreement κ σ) (stages : KexSide → KexStage κ σ) (s : KexRun κ σ) :
    Prop where
  kept : ∀ x, (stages x).Kept dh (s.peer x)
  own : ∀ x, ∀ m ∈ s.sent x, ∃ k, (stages x).key = some k ∧
    buildUdpEcdhKexMessage (dh.pubkeyDer k) = some m
  derived : ∀ x secret, (stages x).secret = some secret →
    ∃ k k', (stages x).key = some k ∧ (stages x.other).key = some k' ∧
      dh.derive k (dh.pubkeyDer k') = some secret

variable {stages : KexSide → KexStage κ σ}

theorem Agrees.start : Agrees dh (fun _ => .idle) (start : KexRun κ σ) where
  kept _ := .idle 0
  own _ m among := by cases among
  derived _ _ known := by cases known

/-- One side goes to a stage that has its key still; its secret is the old one, or comes from the
    key of the other side. -/
theorem Agrees.put (agrees : Agrees dh stages s) {x : KexSide} {stage : KexStage κ σ}
    {state : UdpEcdhPeerState κ σ} {message : Option Bytes}
    (kept : stage.Kept dh state)
    (own : ∀ m, message = some m → ∃ k, stage.key = some k ∧
      buildUdpEcdhKexMessage (dh.pubkeyDer k) = some m)
    (keeps : ∀ k, (stages x).key = some k → stage.key = some k)
    (derived : ∀ secret, stage.secret = some secret → (stages x).secret = some secret ∨
      ∃ k k', stage.key = some k ∧ (stages x.other).key = some k' ∧
        dh.derive k (dh.pubkeyDer k') = some secret) :
    Agrees dh (Function.update stages x stage) (s.put x state message) where
  kept y := by
    by_cases here : y = x
    · subst here
      simpa only [KexRun.put, Function.update_self] using kept
    · simpa only [KexRun.put, Function.update_of_ne here] using agrees.kept y
  own y m among := by
    by_cases here : y = x
    · subst here
      simp only [KexRun.put, Function.update_self, List.mem_append, Option.mem_toList] at among ⊢
      rcases among with old | new
      · obtain ⟨k, had, built⟩ := agrees.own y m old
        exact ⟨k, keeps k had, built⟩
      · exact own m new
    · simp only [KexRun.put, Function.update_of_ne here] at among ⊢
      exact agrees.own y m among
  derived y secret known := by
    have other_key : ∀ k', (stages y.other).key = some k' →
        ((Function.update stages x stage) y.other).key = some k' := by
      intro k' had
      by_cases here : y.other = x
      · rw [here, Function.update_self]
        exact keeps k' (here ▸ had)
      · rwa [Function.update_of_ne here]
    by_cases here : y = x
    · subst here
      rw [Function.update_self] at known ⊢
      rcases derived secret known with old | ⟨k, k', had, had', equal⟩
      · obtain ⟨k, k', had, had', equal⟩ := agrees.derived y secret old
        exact ⟨k, k', keeps k had, other_key k' had', equal⟩
      · exact ⟨k, k', had, other_key k' had', equal⟩
    · rw [Function.update_of_ne here] at known ⊢
      obtain ⟨k, k', had, had', equal⟩ := agrees.derived y secret known
      exact ⟨k, k', had, other_key k' had', equal⟩

theorem Agrees.call (agrees : Agrees dh stages s) (x : KexSide) (now : Nat)
    (generated : Option κ) :
    Agrees dh (Function.update stages x ((stages x).offer generated))
      (s.call dh x now generated) := by
  obtain ⟨kept, own, -⟩ := (agrees.kept x).call now generated
  refine agrees.put kept own (fun k had => KexStage.offer_key had) fun secret known => .inl ?_
  rwa [KexStage.offer_secret] at known

/-- The key that `x` is sent is the other side's. -/
theorem Agrees.receive (agrees : Agrees dh stages s) {x : KexSide} {k' : κ} {message : Bytes}
    (had' : (stages x.other).key = some k')
    (from_ : buildUdpEcdhKexMessage (dh.pubkeyDer k') = some message) (now : Nat)
    (generated : Option κ) :
    Agrees dh (Function.update stages x ((stages x).receive dh generated (dh.pubkeyDer k')))
      (s.receive dh x message now generated) := by
  obtain ⟨kept, own⟩ := (agrees.kept x).handle from_ now generated
  have sent : ∀ m, ((s.peer x).handleUdpEcdhKexMessage dh message now generated).2 = some m → _ :=
    fun m sent => KexStage.of_answer (own ▸ sent) (dh.pubkeyDer k')
  refine agrees.put kept sent (fun k had => KexStage.receive_key had _) fun secret known => ?_
  rcases KexStage.secret_of_receive known with old | ⟨k, had, equal⟩
  · exact .inl old
  · exact .inr ⟨k, k', had, had', equal⟩

theorem Agrees.step {e : KexEvent κ} (agrees : Agrees dh stages s)
    (h : s.step dh e = some s') : ∃ stages', Agrees dh stages' s' := by
  cases e with
  | call x now generated =>
      obtain rfl := Option.some.inj h
      exact ⟨_, agrees.call x now generated⟩
  | deliver x message now generated =>
      simp only [KexRun.step] at h
      split at h
      case isFalse => cases h
      case isTrue among =>
        obtain rfl := Option.some.inj h
        obtain ⟨k', had', built⟩ := agrees.own x.other message among
        exact ⟨_, agrees.receive had' built now generated⟩

theorem run_agrees {events : List (KexEvent κ)}
    (h : run (step dh) start events = some s) : ∃ stages, Agrees dh stages s :=
  run_preserves (I := fun s => ∃ stages, Agrees dh stages s)
    (fun held taken => held.elim fun _ agrees => agrees.step taken)
    ⟨_, Agrees.start⟩ h

/-- Two secrets come from the same two keys. -/
theorem Agrees.secrets_eq (agrees : Agrees dh stages s) (x : KexSide) {secret secret' : σ}
    (here : (stages x).secret = some secret) (there : (stages x.other).secret = some secret') :
    secret = secret' := by
  obtain ⟨k, k', had, had', equal⟩ := agrees.derived x secret here
  obtain ⟨l', l, other', other, equal'⟩ := agrees.derived x.other secret' there
  rw [KexSide.other_other] at other
  obtain rfl : k = l := Option.some.inj (had.symm.trans other)
  obtain rfl : k' = l' := Option.some.inj (had'.symm.trans other')
  have same : some secret = some secret' := equal.symm.trans ((dh.comm k k').trans equal')
  exact Option.some.inj same

theorem buildUdpEcdhKexMessage_pubkeyDer (k : κ) :
    ∃ m, buildUdpEcdhKexMessage (dh.pubkeyDer k) = some m := by
  have fits : ¬(dh.pubkeyDer k = [] ∨ (dh.pubkeyDer k).length > 65536) :=
    not_or.mpr ⟨dh.nonempty k, Nat.not_lt.mpr (dh.bounded k)⟩
  exact ⟨_, if_neg fits⟩

theorem Agrees.complete_iff (agrees : Agrees dh stages s) (x : KexSide) :
    s.Complete x ↔ (stages x).secret.isSome :=
  (agrees.kept x).complete_iff

theorem Agrees.canAnswer_iff (agrees : Agrees dh stages s) (x : KexSide) (generated : Option κ) :
    s.CanAnswer x generated ↔ ((stages x).offer generated).key.isSome := by
  unfold CanAnswer
  rw [ne_eq, (agrees.kept x).pubkeyDer_eq_nil_iff]
  cases stages x <;> cases generated <;> simp [KexStage.key, KexStage.offer]

/-- Where an answer is sent, both sides have their secrets after it. -/
theorem Agrees.exchange_answered (agrees : Agrees dh stages s) {x : KexSide} {k : κ}
    {message : Bytes} (had : (stages x).key = some k)
    (from_ : buildUdpEcdhKexMessage (dh.pubkeyDer k) = some message) (now : Nat)
    {generated : Option κ} {k' : κ} (waits : (stages x.other).secret.isSome = false)
    (offers : ((stages x.other).offer generated).key = some k') :
    (s.exchange dh x message now generated).Complete x ∧
      (s.exchange dh x message now generated).Complete x.other := by
  have back : (stages x.other.other).key = some k := by rwa [KexSide.other_other]
  have answered := agrees.receive back from_ now generated
  obtain ⟨reply, built⟩ : ∃ m, buildUdpEcdhKexMessage (dh.pubkeyDer k') = some m :=
    buildUdpEcdhKexMessage_pubkeyDer k'
  obtain ⟨-, sent⟩ := (agrees.kept x.other).handle from_ now generated
  have reply_ : ((s.peer x.other).handleUdpEcdhKexMessage dh message now generated).2 =
      some reply := by
    rw [sent, KexStage.answer, if_neg (by simp [waits]), offers]
    exact built
  have sends : ((s.receive dh x.other message now generated).sent x.other).drop
      (s.sent x.other).length = [reply] := by
    simp only [KexRun.receive, KexRun.put, Function.update_self, reply_, Option.toList_some,
      List.drop_left]
  have has : (Function.update stages x.other
      ((stages x.other).receive dh generated (dh.pubkeyDer k)) x.other).key = some k' := by
    rw [Function.update_self]
    exact (KexStage.derive_key _).trans offers
  have final := answered.receive has built now none
  have here : x ≠ x.other := (KexSide.other_ne x).symm
  simp only [exchange, receiveAll, sends, List.foldl_cons, List.foldl_nil]
  constructor
  · rw [final.complete_iff, Function.update_self, Function.update_of_ne here]
    apply KexStage.secret_receive
    rw [KexStage.offer_key had]
    rfl
  · rw [final.complete_iff, Function.update_of_ne here.symm, Function.update_self]
    apply KexStage.secret_receive
    rw [offers]
    rfl

/-- Where none is sent, the first side is left as it was. -/
theorem Agrees.exchange_silent (agrees : Agrees dh stages s) {x : KexSide} {k : κ}
    {message : Bytes} (from_ : buildUdpEcdhKexMessage (dh.pubkeyDer k) = some message) (now : Nat)
    {generated : Option κ} (silent : (stages x.other).answer dh generated = none) :
    (s.exchange dh x message now generated).Complete x ↔ s.Complete x := by
  obtain ⟨-, sent⟩ := (agrees.kept x.other).handle from_ now generated
  have sends : ((s.receive dh x.other message now generated).sent x.other).drop
      (s.sent x.other).length = [] := by
    simp only [KexRun.receive, KexRun.put, Function.update_self, sent, silent, Option.toList_none,
      List.append_nil, List.drop_length]
  simp only [exchange, receiveAll, sends, List.foldl_nil]
  simp only [Complete, KexRun.receive, KexRun.put, Function.update_of_ne (KexSide.other_ne x).symm]

/-- Two sides with a secret have the same. A side without one gets it, and the other side has
    it too, exactly where the other side had none before and has a key to answer with. -/
theorem recovers_iff {events : List (KexEvent κ)} (h : run (step dh) start events = some s) :
    (∀ x, s.Complete x → s.Complete x.other →
      (s.peer x).ecdhEstablishedSecretForPeer = (s.peer x.other).ecdhEstablishedSecretForPeer ∧
      (s.peer x).ecdhEstablishedSecretForPeer.isSome) ∧
    ∀ x, ¬s.Complete x → ∀ message ∈ s.sent x, ∀ now generated,
      ((s.exchange dh x message now generated).Complete x ∧
        (s.exchange dh x message now generated).Complete x.other ↔
      ¬s.Complete x.other ∧ s.CanAnswer x.other generated) := by
  obtain ⟨stages, agrees⟩ := run_agrees h
  constructor
  · intro x here there
    rw [agrees.complete_iff] at here there
    obtain ⟨secret, known⟩ := Option.isSome_iff_exists.mp here
    obtain ⟨secret', known'⟩ := Option.isSome_iff_exists.mp there
    rw [(agrees.kept x).established, (agrees.kept x.other).established, known, known',
      agrees.secrets_eq x known known']
    exact ⟨rfl, rfl⟩
  · intro x open_ message among now generated
    obtain ⟨k, had, from_⟩ := agrees.own x message among
    constructor
    · rintro ⟨here, -⟩
      by_contra stuck
      have silent : (stages x.other).answer dh generated = none := by
        rw [KexStage.answer]
        split
        case isTrue => rfl
        case isFalse waits =>
          have keyless : ¬s.CanAnswer x.other generated := fun keyed =>
            stuck ⟨fun complete => waits ((agrees.complete_iff x.other).mp complete), keyed⟩
          rw [agrees.canAnswer_iff, Option.not_isSome_iff_eq_none] at keyless
          rw [keyless]
          rfl
      exact open_ ((agrees.exchange_silent from_ now silent).mp here)
    · rintro ⟨waits, keyed⟩
      rw [agrees.complete_iff, Bool.not_eq_true] at waits
      rw [agrees.canAnswer_iff] at keyed
      obtain ⟨k', offers⟩ := Option.isSome_iff_exists.mp keyed
      exact agrees.exchange_answered had from_ now waits offers

/-- Keys are octets, and a secret is a product. -/
def products : KeyAgreement UInt8 UInt8 where
  pubkeyDer k := [k]
  derive k peer := peer.head?.map (k * ·)
  nonempty _ := List.cons_ne_nil _ _
  bounded _ := Nat.succ_le_succ (Nat.zero_le _)
  derives _ _ := rfl
  comm k k' := congrArg some (UInt8.mul_comm k k')

/-- `FQKEX1|`, one octet, the key. -/
def productMessage (k : UInt8) : Bytes := kexMagic ++ [0, 0, 0, 1, k]

/-- The answer was lost: the other side has its secret and is silent when the key comes again. -/
theorem lost_answer_not_repeated :
    ∃ s, run (step products) start [.call .a 0 (some 3), .deliver .b (productMessage 3) 10 (some 5),
        .call .a 600 none] = some s ∧
      ¬s.Complete .a ∧ s.sent .a = [productMessage 3, productMessage 3] ∧
      s.sent .b = [productMessage 5] ∧
      ¬((s.exchange products .a (productMessage 3) 610 none).Complete .a ∧
        (s.exchange products .a (productMessage 3) 610 none).Complete .b) :=
  ⟨_, rfl, by decide, by decide, by decide, by decide⟩

theorem recovers_iff_lostKey :
    ∃ s, run (step products) start [.call .a 0 (some 3), .call .a 600 none] = some s ∧
      (s.exchange products .a (productMessage 3) 610 (some 5)).Complete .a := by
  obtain ⟨s, taken⟩ : ∃ s, run (step products) start
    [.call .a 0 (some 3), .call .a 600 none] = some s := ⟨_, rfl⟩
  have recovers := (recovers_iff taken).2 .a
  obtain rfl := Option.some.inj taken
  exact ⟨_, rfl, ((recovers (by decide) (productMessage 3) (by decide) 610
    (some 5)).mpr ⟨by decide, .inr rfl⟩).1⟩

end KexRun

end FleetRMW.Rmw
