import FleetRMW.Lib.Ring
import FleetRMW.Lib.Run

/-! # The shared-memory ring

The transports of one host share a ring of slots. Every sender writes into the next slot and
advances the common sequence; a receiver drains what was written since its last pass, and counts
as overwritten what the senders have meanwhile written on top of. Senders and receivers take the
ring's lock, so that sends and passes come one after another in some order.
-/

namespace FleetRMW.Rmw

open Lib

def kSlotCount : Nat := 64
def kPayloadSize : Nat := 262144

instance : NeZero kSlotCount := ⟨Nat.succ_ne_zero 63⟩

structure SharedMemorySlot where
  sequence : UInt64
  size : UInt32
  payload : Bytes

structure SharedMemoryRing where
  writeSequence : UInt64
  slots : Fin kSlotCount → SharedMemorySlot

/-- The fields of a transport that its receive thread works on, and what it gave the callback. -/
structure RingReceiver where
  readSequence : UInt64
  framesReceived : UInt64
  overwritten : UInt64
  handed : List Bytes

/-- What one pass collects. -/
structure Pending where
  frames : List Bytes
  overwritten : UInt64

def slotIndex (sequence : UInt64) : Fin kSlotCount :=
  Fin.ofNat kSlotCount ((sequence - 1) % UInt64.ofNat kSlotCount).toNat

/-- A payload that `send` takes. -/
def Sendable (payload : Bytes) : Prop := payload ≠ [] ∧ payload.length ≤ kPayloadSize

instance (payload : Bytes) : Decidable (Sendable payload) := inferInstanceAs (Decidable (_ ∧ _))

namespace SharedMemoryRing

/-- The ring as the first transport to open it leaves it. -/
def cleared : SharedMemoryRing where
  writeSequence := 0
  slots := fun _ => ⟨0, 0, List.replicate kPayloadSize 0⟩

/-- `SharedMemoryTransport::send` of a transport that is ready. -/
def send (ring : SharedMemoryRing) (payload : Bytes) : Bool × SharedMemoryRing :=
  if payload.isEmpty || payload.length > kPayloadSize then (false, ring)
  else
    let sequence := ring.writeSequence + 1
    let slot := ring.slots (slotIndex sequence)
    (true, {
      writeSequence := sequence
      slots := Function.update ring.slots (slotIndex sequence) {
        sequence
        size := UInt32.ofNat payload.length
        payload := payload ++ slot.payload.drop payload.length } })

/-- One slot of a pass: its bytes, unless it holds another frame than the one looked for. -/
def collect (ring : SharedMemoryRing) (sequence : UInt64) (pending : Pending) : Pending :=
  let slot := ring.slots (slotIndex sequence)
  if slot.sequence ≠ sequence ∨ slot.size = 0 ∨ slot.size.toNat > kPayloadSize then
    { pending with overwritten := pending.overwritten + 1 }
  else { pending with frames := pending.frames ++ [slot.payload.take slot.size.toNat] }

/-- The loop of a pass for a number of turns, no result when they do not end it. -/
def collectUpTo (ring : SharedMemoryRing) (latest : UInt64) :
    Nat → UInt64 → Pending → Option Pending
  | 0, _, _ => none
  | turns + 1, sequence, pending =>
      if sequence ≤ latest then
        ring.collectUpTo latest turns (sequence + 1) (ring.collect sequence pending)
      else some pending

/-- A pass of `receive_loop` with the ring locked, and the callbacks for what it collected. No
pass that ends goes round its loop more often than there are slots. -/
def drain (ring : SharedMemoryRing) (receiver : RingReceiver) : Option RingReceiver :=
  let latest := ring.writeSequence
  let first := receiver.readSequence + 1
  let lagging := first ≤ latest ∧ latest - first + 1 > UInt64.ofNat kSlotCount
  let skipped := latest - first + 1 - UInt64.ofNat kSlotCount
  let overwritten := if lagging then receiver.overwritten + skipped else receiver.overwritten
  let first := if lagging then latest - UInt64.ofNat kSlotCount + 1 else first
  (ring.collectUpTo latest (kSlotCount + 1) first ⟨[], overwritten⟩).map fun pending => {
    readSequence := latest
    framesReceived := receiver.framesReceived + UInt64.ofNat pending.frames.length
    overwritten := pending.overwritten
    handed := receiver.handed ++ pending.frames }

end SharedMemoryRing

/-- The ring with one of its receivers, and beside them all frames that were ever sent, how many
of them before the receiver started and how many by its last pass. -/
structure RingSystem where
  ring : SharedMemoryRing
  receiver : RingReceiver
  sent : List Bytes
  started : Nat
  passed : Nat

inductive RingAction where
  | send (payload : Bytes)
  | drain

namespace RingSystem

/-- Whoever sends; the receiver's waiting before a pass changes nothing. -/
def step (system : RingSystem) : RingAction → Option RingSystem
  | .send payload =>
      let (done, ring) := system.ring.send payload
      some (if done then { system with ring, sent := system.sent ++ [payload] } else system)
  | .drain => (system.ring.drain system.receiver).map fun receiver =>
      { system with receiver, passed := system.sent.length }

def run (system : RingSystem) (actions : List RingAction) : Option RingSystem :=
  Lib.run step system actions

/-- The receiver starts on a ring that frames may have been sent through. -/
def startedAfter (earlier : List Bytes) : RingSystem :=
  let ring := earlier.foldl (fun ring payload => (ring.send payload).2) SharedMemoryRing.cleared
  let sent := earlier.filter (Sendable ·)
  { ring, sent, started := sent.length, passed := sent.length
    receiver := ⟨ring.writeSequence, 0, 0, []⟩ }

end RingSystem

/-! ## One send -/

/-- The slot holds the frame that was sent as the `i`-th, counted from zero. -/
structure HoldsFrame (i : Nat) (payload : Bytes) (slot : SharedMemorySlot) : Prop where
  sequence : slot.sequence = UInt64.ofNat (i + 1)
  size : slot.size.toNat = payload.length
  sendable : Sendable payload
  bytes : slot.payload.take payload.length = payload

/-- The ring after these frames were sent. -/
structure SharedMemoryRing.Reflects (ring : SharedMemoryRing) (sent : List Bytes) : Prop where
  sequence : ring.writeSequence = UInt64.ofNat sent.length
  kept : KeepsLast HoldsFrame ring.slots sent

variable {ring : SharedMemoryRing} {receiver : RingReceiver} {sent : List Bytes} {payload : Bytes}
  {latest sequence : UInt64} {pending : Pending} {passed turns k : Nat}

theorem slotIndex_ofNat (i : Nat) : slotIndex (UInt64.ofNat (i + 1)) = Fin.ofNat kSlotCount i := by
  have before : UInt64.ofNat (i + 1) - 1 = UInt64.ofNat i := by
    rw [UInt64.ofNat_add]
    exact UInt64.add_sub_cancel _ _
  unfold slotIndex
  rw [before]
  have rounds : i % 2 ^ 64 % 64 % 64 = i % 64 := by
    rw [Nat.mod_mod, Nat.mod_mod_of_dvd i (by decide)]
  exact Fin.ext rounds

namespace SharedMemoryRing

theorem reflects_cleared : cleared.Reflects [] where
  sequence := rfl
  kept := KeepsLast.nil

theorem send_refused (unfit : ¬Sendable payload) : ring.send payload = (false, ring) := by
  unfold Sendable at unfit
  unfold send
  rw [if_pos]
  simp only [List.isEmpty_iff, Bool.or_eq_true, decide_eq_true_eq]
  grind

theorem send_done (fit : Sendable payload) : (ring.send payload).1 = true := by
  obtain ⟨notEmpty, fits⟩ := fit
  unfold send
  rw [if_neg (by simp only [List.isEmpty_iff, Bool.or_eq_true, decide_eq_true_eq]; grind)]

theorem Reflects.send (reflects : ring.Reflects sent) (fit : Sendable payload) :
    (ring.send payload).2.Reflects (sent ++ [payload]) := by
  obtain ⟨notEmpty, fits⟩ := id fit
  have next : ring.writeSequence + 1 = UInt64.ofNat (sent.length + 1) := by
    rw [reflects.sequence, UInt64.ofNat_add]
    rfl
  unfold SharedMemoryRing.send
  rw [if_neg (by simp only [List.isEmpty_iff, Bool.or_eq_true, decide_eq_true_eq]; grind)]
  constructor
  · rw [List.length_append, List.length_singleton]
    exact next
  · simp only [next, slotIndex_ofNat]
    apply reflects.kept.concat
    constructor
    · rfl
    · unfold kPayloadSize at fits
      rw [UInt32.toNat_ofNat_of_lt' (by rw [UInt32.size]; omega)]
    · exact fit
    · rw [List.take_left]

/-! ## One pass -/

theorem collect_held {i : Nat} (holds : HoldsFrame i payload (ring.slots (slotIndex sequence)))
    (isIth : sequence = UInt64.ofNat (i + 1)) :
    ring.collect sequence pending = { pending with frames := pending.frames ++ [payload] } := by
  obtain ⟨notEmpty, fits⟩ := holds.sendable
  have size := holds.size
  unfold collect
  rw [if_neg]
  · simp only [size, holds.bytes]
  · intro lost
    rcases lost with other | none | large
    · exact other (holds.sequence.trans isIth.symm)
    · rw [none] at size
      exact notEmpty (List.eq_nil_of_length_eq_zero size.symm)
    · omega

/-- A loop up to the largest number does not end. -/
theorem collectUpTo_endless (largest : latest.toNat = 2 ^ 64 - 1) :
    ring.collectUpTo latest turns sequence pending = none := by
  induction turns generalizing sequence pending with
  | zero => rfl
  | succ turns ih =>
      unfold collectUpTo
      rw [if_pos, ih]
      have := sequence.toNat_lt
      rw [UInt64.le_iff_toNat_le]
      omega

/-- A loop through the last frames collects them, one after another. -/
theorem collectUpTo_spec (reflects : ring.Reflects sent)
    (notLargest : ring.writeSequence.toNat < 2 ^ 64 - 1) (inRing : k ≤ kSlotCount)
    (wereSent : k ≤ sent.length) (fuel : k < turns)
    (left : sequence.toNat + k = ring.writeSequence.toNat + 1) :
    ring.collectUpTo ring.writeSequence turns sequence pending =
      some { pending with frames := pending.frames ++ window k sent } := by
  have total : ring.writeSequence.toNat = sent.length % 2 ^ 64 := by
    rw [reflects.sequence, UInt64.toNat_ofNat']
  induction k generalizing turns sequence pending with
  | zero =>
      obtain ⟨turns, rfl⟩ := Nat.exists_eq_succ_of_ne_zero (by omega : turns ≠ 0)
      unfold collectUpTo
      rw [if_neg]
      · simp [window]
      · rw [UInt64.le_iff_toNat_le]
        omega
  | succ k ih =>
      obtain ⟨turns, rfl⟩ := Nat.exists_eq_succ_of_ne_zero (by omega : turns ≠ 0)
      have here : sent.length - (k + 1) < sent.length := by omega
      have isIth : sequence = UInt64.ofNat (sent.length - (k + 1) + 1) := by
        apply UInt64.toNat_inj.mp
        rw [UInt64.toNat_ofNat']
        omega
      have holds := reflects.kept (sent.length - (k + 1)) here (by omega)
      rw [← slotIndex_ofNat, ← isIth] at holds
      have next : (sequence + 1).toNat = sequence.toNat + 1 := by
        rw [UInt64.toNat_add, UInt64.toNat_one]
        omega
      have newest : window (k + 1) sent = sent[sent.length - (k + 1)] :: window k sent := by
        unfold window
        rw [List.drop_eq_getElem_cons here]
        congr 2
        omega
      unfold collectUpTo
      rw [if_pos, collect_held holds isIth, ih (by omega) (by omega) (by omega) (by omega), newest,
        List.append_assoc, List.singleton_append]
      rw [UInt64.le_iff_toNat_le]
      omega

theorem drain_endless (largest : ring.writeSequence.toNat = 2 ^ 64 - 1) :
    ring.drain receiver = none := by
  unfold drain
  simp only [collectUpTo_endless largest, Option.map_none]

/-- How far the receiver is behind. -/
def behind (ring : SharedMemoryRing) (receiver : RingReceiver) : UInt64 :=
  ring.writeSequence - (receiver.readSequence + 1) + 1

/-- The receiver after a pass. -/
def passedBy (ring : SharedMemoryRing) (receiver : RingReceiver) (frames : List Bytes)
    (overwritten : UInt64) : RingReceiver where
  readSequence := ring.writeSequence
  framesReceived := receiver.framesReceived + UInt64.ofNat frames.length
  overwritten := overwritten
  handed := receiver.handed ++ frames

theorem toNat_behind (newer : receiver.readSequence + 1 ≤ ring.writeSequence)
    (notLargest : ring.writeSequence.toNat < 2 ^ 64 - 1) :
    (ring.behind receiver).toNat =
      ring.writeSequence.toNat + 1 - (receiver.readSequence + 1).toNat := by
  have ordered := UInt64.le_iff_toNat_le.mp newer
  unfold behind
  rw [UInt64.toNat_add, UInt64.toNat_sub_of_le _ _ newer, UInt64.toNat_one]
  omega

theorem drain_idle (idle : ¬receiver.readSequence + 1 ≤ ring.writeSequence) :
    ring.drain receiver = some (ring.passedBy receiver [] receiver.overwritten) := by
  unfold drain
  simp only [idle, false_and, if_false]
  unfold collectUpTo
  rw [if_neg idle]
  rfl

variable (receiver) in
theorem drain_near (reflects : ring.Reflects sent)
    (notLargest : ring.writeSequence.toNat < 2 ^ 64 - 1)
    (newer : receiver.readSequence + 1 ≤ ring.writeSequence)
    (near : (ring.behind receiver).toNat ≤ kSlotCount)
    (wereSent : (ring.behind receiver).toNat ≤ sent.length) :
    ring.drain receiver =
      some (ring.passedBy receiver (window (ring.behind receiver).toNat sent)
        receiver.overwritten) := by
  have ordered := UInt64.le_iff_toNat_le.mp newer
  have distance := toNat_behind newer notLargest
  have notLagging : ¬ring.writeSequence - (receiver.readSequence + 1) + 1 >
      UInt64.ofNat kSlotCount := by
    intro lagging
    exact absurd (UInt64.lt_iff_toNat_lt.mp lagging) (Nat.not_lt.mpr near)
  unfold drain
  simp only [notLagging, and_false, if_false]
  rw [collectUpTo_spec reflects notLargest near wereSent (Nat.lt_succ_of_le near) (by omega)]
  rfl

theorem drain_lagging (reflects : ring.Reflects sent)
    (notLargest : ring.writeSequence.toNat < 2 ^ 64 - 1)
    (newer : receiver.readSequence + 1 ≤ ring.writeSequence)
    (lagging : kSlotCount < (ring.behind receiver).toNat)
    (wereSent : kSlotCount ≤ sent.length) :
    ring.drain receiver =
      some (ring.passedBy receiver (window kSlotCount sent)
        (receiver.overwritten + (ring.behind receiver - UInt64.ofNat kSlotCount))) := by
  have ordered := UInt64.le_iff_toNat_le.mp newer
  have distance := toNat_behind newer notLargest
  have slots : (UInt64.ofNat kSlotCount).toNat = kSlotCount := rfl
  have more : ring.writeSequence - (receiver.readSequence + 1) + 1 > UInt64.ofNat kSlotCount :=
    UInt64.lt_iff_toNat_lt.mpr lagging
  have oldest : (ring.writeSequence - UInt64.ofNat kSlotCount + 1).toNat + kSlotCount =
      ring.writeSequence.toNat + 1 := by
    rw [UInt64.toNat_add, UInt64.toNat_sub_of_le, UInt64.toNat_one]
    · omega
    · rw [UInt64.le_iff_toNat_le]
      omega
  unfold drain
  simp only [newer, more, and_self, if_true]
  rw [collectUpTo_spec reflects notLargest le_rfl wereSent (Nat.lt_succ_self _) oldest]
  rfl

/-- A pass hands over the newest of the frames since the last one. It counts the others as
overwritten, unless the sequence has gone round. -/
theorem drain_spec (reflects : ring.Reflects sent)
    (hasRead : receiver.readSequence = UInt64.ofNat passed) (inLog : passed ≤ sent.length)
    (notLargest : ring.writeSequence.toNat < 2 ^ 64 - 1) :
    ∃ k ≤ sent.length - passed, ∃ lost, ring.drain receiver =
        some (ring.passedBy receiver (window k sent) (receiver.overwritten + lost)) ∧
      (sent.length < 2 ^ 64 - 1 → lost.toNat = sent.length - passed - k) := by
  have latest : ring.writeSequence.toNat = sent.length % 2 ^ 64 := by
    rw [reflects.sequence, UInt64.toNat_ofNat']
  have first : (receiver.readSequence + 1).toNat = (passed + 1) % 2 ^ 64 := by
    rw [hasRead, UInt64.toNat_add, UInt64.toNat_ofNat', UInt64.toNat_one, Nat.mod_add_mod]
  have nothing : receiver.overwritten + 0 = receiver.overwritten := UInt64.add_zero _
  by_cases newer : receiver.readSequence + 1 ≤ ring.writeSequence
  case neg =>
    have ordered := Nat.not_le.mp fun le => newer (UInt64.le_iff_toNat_le.mpr le)
    refine ⟨0, Nat.zero_le _, 0, ?_, ?_⟩
    · rw [drain_idle newer, nothing]
      simp [window]
    · intro few
      rw [UInt64.toNat_zero]
      omega
  have ordered := UInt64.le_iff_toNat_le.mp newer
  have distance := toNat_behind newer notLargest
  cases Nat.lt_or_ge kSlotCount (ring.behind receiver).toNat with
  | inl lagging =>
      refine ⟨kSlotCount, by omega, _, drain_lagging reflects notLargest newer lagging (by omega),
        ?_⟩
      intro few
      have slots : (UInt64.ofNat kSlotCount).toNat = kSlotCount := rfl
      rw [UInt64.toNat_sub_of_le _ _ (UInt64.le_iff_toNat_le.mpr (slots ▸ lagging.le))]
      omega
  | inr near =>
      refine ⟨(ring.behind receiver).toNat, by omega, 0, ?_, ?_⟩
      · rw [drain_near receiver reflects notLargest newer near (by omega), nothing]
      · intro few
        rw [UInt64.toNat_zero]
        omega

end SharedMemoryRing

/-! ## Runs -/

def RingAction.accepted : RingAction → List Bytes
  | .send payload => if Sendable payload then [payload] else []
  | .drain => []

namespace RingSystem

/-- Each frame passed was handed over or is in the count of the overwritten ones. -/
structure Accounted (system : RingSystem) : Prop where
  passed : system.receiver.handed.length + system.receiver.overwritten.toNat =
    system.passed - system.started
  received : system.receiver.framesReceived.toNat = system.receiver.handed.length

structure Sound (system : RingSystem) : Prop where
  reflects : system.ring.Reflects system.sent
  hasRead : system.receiver.readSequence = UInt64.ofNat system.passed
  trails : Trails system.sent system.started system.passed system.receiver.handed
  accounted : system.sent.length < 2 ^ 64 - 1 → system.Accounted

variable {system after : RingSystem} {action : RingAction} {earlier : List Bytes}

theorem reflects_sendAll {ring : SharedMemoryRing} {sent : List Bytes}
    (reflects : ring.Reflects sent) (payloads : List Bytes) :
    (payloads.foldl (fun ring payload => (ring.send payload).2) ring).Reflects
      (sent ++ payloads.filter (Sendable ·)) := by
  induction payloads generalizing ring sent with
  | nil =>
      rw [List.filter_nil, List.append_nil]
      exact reflects
  | cons payload payloads ih =>
      rw [List.foldl_cons]
      by_cases fit : Sendable payload
      · rw [List.filter_cons_of_pos (by simpa using fit), ← List.singleton_append,
          ← List.append_assoc]
        exact ih (reflects.send fit)
      · rw [List.filter_cons_of_neg (by simpa using fit), SharedMemoryRing.send_refused fit]
        exact ih reflects

theorem sound_startedAfter (earlier : List Bytes) : (startedAfter earlier).Sound := by
  have reflects := reflects_sendAll SharedMemoryRing.reflects_cleared earlier
  rw [List.nil_append] at reflects
  constructor
  · exact reflects
  · exact reflects.sequence
  · exact Trails.start
  · intro few
    constructor
    · exact (Nat.sub_self _).symm
    · rfl

variable (system) in
theorem step_send (payload : Bytes) : system.step (.send payload) = some (if Sendable payload then
    { system with ring := (system.ring.send payload).2, sent := system.sent ++ [payload] }
    else system) := by
  unfold step
  by_cases fit : Sendable payload
  · simp only [SharedMemoryRing.send_done fit, fit, if_true]
  · simp only [SharedMemoryRing.send_refused fit, fit, if_false, Bool.false_eq_true]

theorem sent_step (taken : system.step action = some after) :
    after.sent = system.sent ++ action.accepted := by
  cases action with
  | send payload =>
      rw [step_send system payload] at taken
      obtain rfl := Option.some.inj taken
      by_cases fit : Sendable payload
      · simp only [RingAction.accepted, fit, if_true]
      · simp only [RingAction.accepted, fit, if_false, List.append_nil]
  | drain =>
      obtain ⟨receiver, -, rfl⟩ := Option.map_eq_some_iff.mp taken
      exact (List.append_nil _).symm

/-- What a pass of a sound system does. -/
theorem drain_sound (sound : system.Sound)
    (notLargest : system.ring.writeSequence.toNat < 2 ^ 64 - 1) :
    ∃ after, system.step .drain = some after ∧ after.Sound := by
  have behind := sound.trails.passed_le
  have begun := sound.trails.started_le
  obtain ⟨k, unread, lost, drained, count⟩ :=
    SharedMemoryRing.drain_spec sound.reflects sound.hasRead behind notLargest
  have collected : (window k system.sent).length = k := by
    rw [length_window]
    omega
  refine ⟨_, by rw [step, drained, Option.map_some], ?_⟩
  constructor
  · exact sound.reflects
  · exact sound.reflects.sequence
  · exact sound.trails.catchUp unread
  · intro few
    have few : system.sent.length < 2 ^ 64 - 1 := few
    have before := sound.accounted few
    have lostCount := count few
    have passed := before.passed
    have received := before.received
    constructor
    · simp only [SharedMemoryRing.passedBy, List.length_append, collected, UInt64.toNat_add]
      omega
    · simp only [SharedMemoryRing.passedBy, List.length_append, collected, UInt64.toNat_add,
        UInt64.toNat_ofNat']
      omega

theorem step_sound (sound : system.Sound) (taken : system.step action = some after) :
    after.Sound := by
  cases action with
  | send payload =>
      rw [step_send system payload] at taken
      obtain rfl := Option.some.inj taken
      split
      case isFalse => exact sound
      case isTrue fit =>
        constructor
        · exact sound.reflects.send fit
        · exact sound.hasRead
        · exact sound.trails.concat payload
        · intro few
          rw [List.length_append, List.length_singleton] at few
          exact ⟨(sound.accounted (by omega)).passed, (sound.accounted (by omega)).received⟩
  | drain =>
      by_cases largest : system.ring.writeSequence.toNat = 2 ^ 64 - 1
      · rw [step, SharedMemoryRing.drain_endless largest] at taken
        cases taken
      · have := system.ring.writeSequence.toNat_lt
        obtain ⟨drained, isDrained, sound⟩ := drain_sound sound (by omega)
        rw [isDrained] at taken
        obtain rfl := Option.some.inj taken
        exact sound

variable (action) in
theorem step_total (sound : system.Sound)
    (few : (system.sent ++ action.accepted).length < 2 ^ 64 - 1) :
    ∃ after, system.step action = some after := by
  cases action with
  | send payload => exact ⟨_, step_send system payload⟩
  | drain =>
      have bound : system.sent.length < 2 ^ 64 - 1 := by
        simpa only [RingAction.accepted, List.append_nil] using few
      have notLargest : system.ring.writeSequence.toNat < 2 ^ 64 - 1 := by
        rw [sound.reflects.sequence, UInt64.toNat_ofNat']
        omega
      obtain ⟨after, taken, -⟩ := drain_sound sound notLargest
      exact ⟨after, taken⟩

theorem run_sound {actions : List RingAction} (sound : system.Sound)
    (ran : system.run actions = some after) :
    after.Sound ∧ after.sent = system.sent ++ actions.flatMap RingAction.accepted := by
  induction actions generalizing system with
  | nil =>
      obtain rfl := Option.some.inj ran
      exact ⟨sound, (List.append_nil _).symm⟩
  | cons action actions ih =>
      obtain ⟨mid, taken, rest⟩ := run_cons ran
      obtain ⟨soundAfter, sent⟩ := ih (step_sound sound taken) rest
      rw [sent, sent_step taken, List.flatMap_cons, List.append_assoc]
      exact ⟨soundAfter, rfl⟩

theorem run_total {actions : List RingAction} (sound : system.Sound)
    (few : (system.sent ++ actions.flatMap RingAction.accepted).length < 2 ^ 64 - 1) :
    ∃ after, system.run actions = some after := by
  induction actions generalizing system with
  | nil => exact ⟨system, rfl⟩
  | cons action actions ih =>
      rw [List.flatMap_cons, ← List.append_assoc] at few
      obtain ⟨mid, taken⟩ := step_total action sound (by
        rw [List.length_append] at few
        omega)
      obtain ⟨after, ran⟩ := ih (step_sound sound taken) (by
        rw [sent_step taken]
        exact few)
      refine ⟨after, ?_⟩
      unfold run at ran ⊢
      rw [Lib.run, taken, Option.bind_some, ran]

/-- Whatever is sent by whom and when, a receiver hands over what was sent since it started, in
that order and no frame twice. Until the sequence is about to go round every pass ends, and what
it passed is what it handed over and what it counts as overwritten. -/
theorem receiver_accounts (earlier : List Bytes) (actions : List RingAction) :
    (∀ system, (startedAfter earlier).run actions = some system →
      system.sent = (startedAfter earlier).sent ++ actions.flatMap RingAction.accepted ∧
      system.receiver.handed.Sublist ((system.sent.take system.passed).drop system.started)) ∧
    (((startedAfter earlier).sent ++ actions.flatMap RingAction.accepted).length < 2 ^ 64 - 1 →
      ∃ system, (startedAfter earlier).run actions = some system ∧
        system.receiver.handed.length + system.receiver.overwritten.toNat =
          system.passed - system.started ∧
        system.receiver.framesReceived.toNat = system.receiver.handed.length) := by
  have start := sound_startedAfter earlier
  constructor
  · intro system ran
    obtain ⟨sound, sent⟩ := run_sound start ran
    exact ⟨sent, sound.trails.inOrder⟩
  · intro few
    obtain ⟨system, ran⟩ := run_total start few
    obtain ⟨sound, sent⟩ := run_sound start ran
    obtain ⟨passed, received⟩ := sound.accounted (sent ▸ few)
    exact ⟨system, ran, passed, received⟩

/-- Before its first pass the receiver gets a frame, an empty one that is refused and a second. -/
theorem receiver_accounts_twoFrames :
    let actions := [RingAction.send [7], .send [], .send [8], .drain]
    (∀ system, (startedAfter [[5]]).run actions = some system →
      system.sent = (startedAfter [[5]]).sent ++ actions.flatMap RingAction.accepted ∧
      system.receiver.handed.Sublist ((system.sent.take system.passed).drop system.started)) ∧
    ∃ system, (startedAfter [[5]]).run actions = some system ∧
      system.receiver.handed.length + system.receiver.overwritten.toNat =
        system.passed - system.started ∧
      system.receiver.framesReceived.toNat = system.receiver.handed.length :=
  ⟨(receiver_accounts [[5]] [.send [7], .send [], .send [8], .drain]).1,
    (receiver_accounts [[5]] [.send [7], .send [], .send [8], .drain]).2 (by decide)⟩

/-- Once the sequence has gone round while the receiver waited, a pass takes the one frame that
is new by the numbers, and the frames before it are in no count. -/
theorem passed_uncounted_after_wrap :
    ¬∀ earlier actions system, (startedAfter earlier).run actions = some system →
      system.receiver.handed.length + system.receiver.overwritten.toNat =
        system.passed - system.started := by
  intro counts
  have sendable : Sendable [7] := by decide
  have sends : ∀ n, ∃ system, (startedAfter []).run (List.replicate n (.send [7])) = some system ∧
      system.receiver = (startedAfter []).receiver ∧ system.started = 0 ∧
      system.sent.length = n := by
    intro n
    induction n with
    | zero => exact ⟨startedAfter [], rfl, rfl, rfl, rfl⟩
    | succ n ih =>
        obtain ⟨system, ran, receiver, started, frames⟩ := ih
        have next := step_send system [7]
        rw [if_pos sendable] at next
        rw [List.replicate_succ']
        refine ⟨_, run_concat ran next, receiver, started, ?_⟩
        rw [List.length_append, frames, List.length_singleton]
  obtain ⟨waiting, ran, receiver, started, frames⟩ := sends (2 ^ 64 + 1)
  have sound := (run_sound (sound_startedAfter []) ran).1
  have latest : waiting.ring.writeSequence = 1 := by
    rw [sound.reflects.sequence, frames]
    rfl
  have behind : waiting.ring.behind waiting.receiver = 1 := by
    unfold SharedMemoryRing.behind
    rw [latest, receiver]
    rfl
  have drained := SharedMemoryRing.drain_near waiting.receiver sound.reflects
    (by rw [latest]; decide) (by rw [latest, receiver]; decide) (by rw [behind]; decide)
    (by rw [behind, frames]; decide)
  rw [behind] at drained
  have last : waiting.step .drain = some { waiting with
      receiver := waiting.ring.passedBy waiting.receiver (window 1 waiting.sent)
        waiting.receiver.overwritten
      passed := waiting.sent.length } := by
    rw [step, drained]
    rfl
  have counted := counts [] _ _ (run_concat ran last)
  simp only [SharedMemoryRing.passedBy, List.length_append, length_window, receiver, started,
    frames] at counted
  exact absurd counted (by decide)

end RingSystem

end FleetRMW.Rmw
