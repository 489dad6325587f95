import FleetRMW.Rmw.Frames
import FleetRMW.Rmw.Reassembly

/-! # The size of a fragment

A payload is cut so that every fragment fits the datagram budget with its wrapper and with what
protecting it adds. The wrapper names the number of fragments, which depends on the size of the
chunks, so the size is looked for in rounds. A round makes chunks smaller only where the texts of
the largest index and of the count grow, which they can do six times before the payload would be
cut into too many fragments.
-/

namespace FleetRMW.Rmw

open Lib

/-! ## The size of the chunks -/

/-- What protects a datagram of the transport, and the budget, which is no limit unless it is
    positive. -/
structure UdpTransport where
  udpDatagramBudgetBytes : Int := 0
  udpAeadEnabled : Bool := false
  udpPeerAuthEnabled : Bool := false
  /-- `EVP_PKEY_get_size` of the local key, 0 where there is none. -/
  signatureSize : Int := 0
  udpPeerAuthLocalCertificateDer : Bytes := []

namespace UdpTransport

/-- `none` stands for the largest number. -/
def udpProtectionOverheadUpperBound (t : UdpTransport) : Option Nat :=
  let overhead := if t.udpAeadEnabled then 8 + 16 + 12 + 16 else 0
  if t.udpPeerAuthEnabled then
    if t.signatureSize ≤ 0 then none
    else some (overhead + (9 + 2 * 4 + t.udpPeerAuthLocalCertificateDer.length +
      t.signatureSize.toNat))
  else some overhead

end UdpTransport

def fragmentCountOf (size chunkBytes : Nat) : Nat := (size + chunkBytes - 1) / chunkBytes

/-- The wrapper of the last fragment, whose index has the longest text. -/
def wrapperBytes (size idSize chunkBytes : Nat) : Nat :=
  let fragmentCount := fragmentCountOf size chunkBytes
  repairFragmentText.length + idSize + 4 + (decimal (fragmentCount - 1)).length +
    (decimal fragmentCount).length + (decimal size).length

/-- The rounds that are left, and the chunk size so far. -/
def effectiveChunkRounds (size idSize requested budget overhead : Nat) : Nat → Nat → Nat
  | 0, chunkBytes => chunkBytes
  | rounds + 1, chunkBytes =>
      if chunkBytes = 0 then 0
      else
        let wrapper := wrapperBytes size idSize chunkBytes
        if wrapper > budget ∨ overhead > budget - wrapper then 0
        else
          let next := min requested (budget - wrapper - overhead)
          if next = chunkBytes then chunkBytes
          else effectiveChunkRounds size idSize requested budget overhead rounds next

def UdpTransport.effectiveLossResilientFragmentChunkBytes (t : UdpTransport)
    (payload fragmentId : Bytes) (requested : Nat) : Nat :=
  if payload = [] ∨ fragmentId = [] ∨ requested = 0 then 0
  else if t.udpDatagramBudgetBytes ≤ 0 then requested
  else
    match t.udpProtectionOverheadUpperBound with
    | none => 0
    | some overhead =>
        let budget := t.udpDatagramBudgetBytes.toNat
        effectiveChunkRounds payload.length fragmentId.length requested budget overhead 8
          (min requested budget)

/-! ## The rounds settle -/

section
variable {size idSize requested budget overhead : Nat}

/-- The texts that depend on the number of fragments. -/
def countDigits (size chunkBytes : Nat) : Nat :=
  (decimal (fragmentCountOf size chunkBytes - 1)).length +
    (decimal (fragmentCountOf size chunkBytes)).length

/-- The size that the next round tries. -/
def nextChunkBytes (size idSize requested budget overhead chunkBytes : Nat) : Nat :=
  min requested (budget - wrapperBytes size idSize chunkBytes - overhead)

theorem wrapperBytes_eq (chunkBytes : Nat) :
    wrapperBytes size idSize chunkBytes =
      repairFragmentText.length + idSize + 4 + (decimal size).length +
        countDigits size chunkBytes := by
  dsimp only [wrapperBytes, countDigits]
  omega

theorem fragmentCountOf_anti {chunkBytes less : Nat} (positive : less ≠ 0)
    (le : less ≤ chunkBytes) :
    fragmentCountOf size chunkBytes ≤ fragmentCountOf size less := by
  unfold fragmentCountOf
  apply (Nat.div_le_iff_le_mul_add_pred (by omega)).mpr
  have enough := Nat.lt_mul_div_succ (size + less - 1) (Nat.pos_of_ne_zero positive)
  have wider : less * ((size + less - 1) / less) ≤ chunkBytes * ((size + less - 1) / less) :=
    Nat.mul_le_mul_right _ le
  rw [Nat.mul_add, Nat.mul_one] at enough
  omega

theorem countDigits_anti {chunkBytes less : Nat} (positive : less ≠ 0) (le : less ≤ chunkBytes) :
    countDigits size chunkBytes ≤ countDigits size less := by
  have count : fragmentCountOf size chunkBytes ≤ fragmentCountOf size less :=
    fragmentCountOf_anti positive le
  exact Nat.add_le_add (decimal_length_mono (Nat.sub_le_sub_right count 1))
    (decimal_length_mono count)

/-- An index and a count of up to 4096 fragments have four digits at most. -/
theorem countDigits_le {chunkBytes : Nat} (few : fragmentCountOf size chunkBytes ≤ 4096) :
    countDigits size chunkBytes ≤ 8 := by
  have index : (decimal (fragmentCountOf size chunkBytes - 1)).length ≤ 4 :=
    decimal_length_le (by decide) (by omega)
  have count : (decimal (fragmentCountOf size chunkBytes)).length ≤ 4 :=
    decimal_length_le (by decide) (by omega)
  unfold countDigits
  omega

/-- A size that a round leaves as it is, or that the rounds end with, is the one that the next
    round would try. Each round that was gone has made the texts longer by one digit. -/
theorem effectiveChunkRounds_settled {rounds chunkBytes : Nat}
    (down : nextChunkBytes size idSize requested budget overhead chunkBytes ≤ chunkBytes)
    (long : nextChunkBytes size idSize requested budget overhead chunkBytes < chunkBytes →
      10 ≤ countDigits size chunkBytes + rounds)
    (found : effectiveChunkRounds size idSize requested budget overhead rounds chunkBytes ≠ 0)
    (few : fragmentCountOf size
      (effectiveChunkRounds size idSize requested budget overhead rounds chunkBytes) ≤ 4096) :
    nextChunkBytes size idSize requested budget overhead
        (effectiveChunkRounds size idSize requested budget overhead rounds chunkBytes) =
      effectiveChunkRounds size idSize requested budget overhead rounds chunkBytes := by
  induction rounds generalizing chunkBytes with
  | zero =>
      rw [effectiveChunkRounds] at few ⊢
      have short := countDigits_le few
      by_contra unsettled
      have := long (by omega)
      omega
  | succ rounds ih =>
      unfold effectiveChunkRounds at found few ⊢
      split at found
      · exact absurd rfl found
      case isFalse filled =>
        rw [if_neg filled] at few ⊢
        dsimp only at found few ⊢
        split at found
        · exact absurd rfl found
        case isFalse fits =>
          rw [if_neg fits] at few ⊢
          split at found
          case isTrue same =>
            rw [if_pos same]
            exact same
          case isFalse changed =>
            rw [if_neg changed] at few ⊢
            have less : nextChunkBytes size idSize requested budget overhead chunkBytes <
                chunkBytes := Nat.lt_of_le_of_ne down changed
            change effectiveChunkRounds size idSize requested budget overhead rounds
              (nextChunkBytes size idSize requested budget overhead chunkBytes) ≠ 0 at found
            have next : nextChunkBytes size idSize requested budget overhead chunkBytes ≠ 0 := by
              intro none_
              rw [none_] at found
              apply found
              cases rounds <;> simp [effectiveChunkRounds]
            have longer : countDigits size chunkBytes ≤ countDigits size
                (nextChunkBytes size idSize requested budget overhead chunkBytes) :=
              countDigits_anti next less.le
            apply ih _ _ found few
            · -- longer texts leave no more room
              unfold nextChunkBytes at longer ⊢
              rw [wrapperBytes_eq, wrapperBytes_eq] at *
              omega
            · intro again
              have before := long less
              unfold nextChunkBytes at longer again ⊢
              rw [wrapperBytes_eq, wrapperBytes_eq] at *
              omega

end

/-! ## The datagrams -/

def kMaxUdpPayloadBytes : Nat := 65507

def fragmentDatagram (payload fragmentId : Bytes) (chunkBytes fragmentCount index : Nat) : Bytes :=
  let offset := index * chunkBytes
  let chunkSize := min chunkBytes (payload.length - offset)
  repairFragmentText ++ fragmentId ++ octets "|" ++ decimal index ++ octets "|" ++
    decimal fragmentCount ++ octets "|" ++ decimal payload.length ++ octets "|" ++
    (payload.drop offset).take chunkSize

/-- The fragment that the receiver puts together. -/
theorem FragmentedPayload.fragment_eq (p : FragmentedPayload) (index : Nat) :
    p.fragment index =
      fragmentDatagram p.payload p.fragmentId p.chunkBytes p.fragmentCount index := by
  have bar : octets "|" = [124] := by decide
  simp [fragment, fields, fragmentDatagram, chunk, bar]

section
variable {τ : Type*} (protect : List τ → Bytes → Option Bytes) (send : List τ → Bytes → RmwRet)

/-- The datagrams that are given to `send_datagram_to_targets` for one list of targets. -/
def sendFragmentsTogether (payload fragmentId : Bytes) (chunkBytes fragmentCount : Nat)
    (targets : List τ) : List Nat → List Bytes × RmwRet
  | [] => ([], .ok)
  | index :: indexes =>
      if index ≥ fragmentCount then ([], .invalidArgument)
      else
        match protect targets (fragmentDatagram payload fragmentId chunkBytes fragmentCount index) with
        | none => ([], .error)
        | some datagram =>
            if datagram.length > kMaxUdpPayloadBytes then ([], .error)
            else if send targets datagram ≠ .ok then ([datagram], send targets datagram)
            else
              let (sent, ret) := sendFragmentsTogether payload fragmentId chunkBytes
                fragmentCount targets indexes
              (datagram :: sent, ret)

/-- Every target has a key of its own where keys are agreed on. The datagrams that are sent, and
    the last answer unless one is good. -/
def sendLossResilientFragmentIndexes (udpEcdhEnabled : Bool) (payload fragmentId : Bytes)
    (chunkBytes fragmentCount : Nat) (targets : List τ) (indexes : List Nat) :
    List Bytes × RmwRet :=
  if udpEcdhEnabled ∧ targets.length > 1 then
    let each := targets.map fun target =>
      sendFragmentsTogether protect send payload fragmentId chunkBytes fragmentCount [target] indexes
    (each.flatMap (·.1),
      if each.any (·.2 = .ok) then .ok else (each.getLast?.map (·.2)).getD .error)
  else
    sendFragmentsTogether protect send payload fragmentId chunkBytes fragmentCount targets indexes

end

/-! ## Every datagram fits -/

/-- The size that is settled on leaves room for the wrapper and the protection. -/
theorem UdpTransport.effectiveLossResilientFragmentChunkBytes_room {t : UdpTransport}
    {payload fragmentId : Bytes} {requested overhead : Nat}
    (limited : 0 < t.udpDatagramBudgetBytes)
    (bound : t.udpProtectionOverheadUpperBound = some overhead)
    (found : t.effectiveLossResilientFragmentChunkBytes payload fragmentId requested ≠ 0)
    (few : fragmentCountOf payload.length
      (t.effectiveLossResilientFragmentChunkBytes payload fragmentId requested) ≤ 4096) :
    wrapperBytes payload.length fragmentId.length
        (t.effectiveLossResilientFragmentChunkBytes payload fragmentId requested) +
      t.effectiveLossResilientFragmentChunkBytes payload fragmentId requested + overhead ≤
      t.udpDatagramBudgetBytes := by
  unfold effectiveLossResilientFragmentChunkBytes at found few ⊢
  split at found
  · exact absurd rfl found
  case isFalse given =>
    rw [if_neg given, if_neg (by omega), bound] at few ⊢
    rw [if_neg (by omega), bound] at found
    dsimp only at found few ⊢
    have settled := effectiveChunkRounds_settled (by unfold nextChunkBytes; omega)
      (by
        intro _
        have index := decimal_length_pos (fragmentCountOf payload.length
          (min requested t.udpDatagramBudgetBytes.toNat) - 1)
        have count := decimal_length_pos (fragmentCountOf payload.length
          (min requested t.udpDatagramBudgetBytes.toNat))
        unfold countDigits
        omega) found few
    unfold nextChunkBytes at settled
    omega

section
variable {τ : Type*} {protect : List τ → Bytes → Option Bytes} {send : List τ → Bytes → RmwRet}

theorem fragmentDatagram_length {payload fragmentId : Bytes} {chunkBytes index : Nat}
    (inside : index < fragmentCountOf payload.length chunkBytes) :
    (fragmentDatagram payload fragmentId chunkBytes
      (fragmentCountOf payload.length chunkBytes) index).length ≤
      wrapperBytes payload.length fragmentId.length chunkBytes + chunkBytes := by
  have shorter : (decimal index).length ≤
      (decimal (fragmentCountOf payload.length chunkBytes - 1)).length :=
    decimal_length_mono (by omega)
  have bar : (octets "|").length = 1 := rfl
  dsimp only [fragmentDatagram, wrapperBytes]
  simp only [List.length_append, List.length_take, bar]
  omega

/-- What is sent is the protected datagram of an index that exists. -/
theorem mem_sendFragmentsTogether {payload fragmentId : Bytes} {chunkBytes fragmentCount : Nat}
    {targets : List τ} {indexes : List Nat} {datagram : Bytes}
    (among : datagram ∈ (sendFragmentsTogether protect send payload fragmentId chunkBytes
      fragmentCount targets indexes).1) :
    ∃ index < fragmentCount, protect targets
      (fragmentDatagram payload fragmentId chunkBytes fragmentCount index) = some datagram := by
  induction indexes with
  | nil => cases among
  | cons index indexes ih =>
      unfold sendFragmentsTogether at among
      split at among
      · cases among
      case isFalse inside =>
        split at among
        · cases among
        case h_2 protected_ isProtected =>
          have here : ∃ index < fragmentCount, protect targets
              (fragmentDatagram payload fragmentId chunkBytes fragmentCount index) =
                some protected_ := ⟨index, by omega, isProtected⟩
          split at among
          · cases among
          · split at among
            · obtain rfl := List.mem_singleton.mp among
              exact here
            · cases among with
              | head => exact here
              | tail _ later => exact ih later

theorem mem_sendLossResilientFragmentIndexes {udpEcdhEnabled : Bool} {payload fragmentId : Bytes}
    {chunkBytes fragmentCount : Nat} {targets : List τ} {indexes : List Nat} {datagram : Bytes}
    (among : datagram ∈ (sendLossResilientFragmentIndexes protect send udpEcdhEnabled payload
      fragmentId chunkBytes fragmentCount targets indexes).1) :
    ∃ index < fragmentCount, ∃ targets, protect targets
      (fragmentDatagram payload fragmentId chunkBytes fragmentCount index) = some datagram := by
  unfold sendLossResilientFragmentIndexes at among
  split at among
  case isTrue =>
    obtain ⟨_, isEach, sent⟩ := List.mem_flatMap.mp among
    obtain ⟨target, _, rfl⟩ := List.mem_map.mp isEach
    obtain ⟨index, inside, isProtected⟩ := mem_sendFragmentsTogether sent
    exact ⟨index, inside, [target], isProtected⟩
  case isFalse =>
    obtain ⟨index, inside, isProtected⟩ := mem_sendFragmentsTogether among
    exact ⟨index, inside, targets, isProtected⟩

/-- Every fragment that is sent fits the budget. -/
theorem fragments_fit (t : UdpTransport) (protect : List τ → Bytes → Option Bytes)
    (send : List τ → Bytes → RmwRet)
    (protects : ∀ overhead, t.udpProtectionOverheadUpperBound = some overhead →
      ∀ targets datagram protected_, protect targets datagram = some protected_ →
        protected_.length ≤ datagram.length + overhead)
    (limited : 512 ≤ t.udpDatagramBudgetBytes) (payload fragmentId : Bytes) (requested : Nat)
    (found : t.effectiveLossResilientFragmentChunkBytes payload fragmentId requested ≠ 0)
    (few : fragmentCountOf payload.length
      (t.effectiveLossResilientFragmentChunkBytes payload fragmentId requested) ≤ 4096)
    (udpEcdhEnabled : Bool) (targets : List τ) (indexes : List Nat) :
    let chunkBytes := t.effectiveLossResilientFragmentChunkBytes payload fragmentId requested
    ∀ datagram ∈ (sendLossResilientFragmentIndexes protect send udpEcdhEnabled payload fragmentId
        chunkBytes (fragmentCountOf payload.length chunkBytes) targets indexes).1,
      datagram.length ≤ t.udpDatagramBudgetBytes := by
  intro chunkBytes datagram among
  obtain ⟨index, inside, targets', isProtected⟩ := mem_sendLossResilientFragmentIndexes among
  cases bound : t.udpProtectionOverheadUpperBound with
  | none =>
      refine absurd ?_ found
      unfold UdpTransport.effectiveLossResilientFragmentChunkBytes
      rw [if_neg (c := t.udpDatagramBudgetBytes ≤ 0) (by omega), bound]
      exact ite_self 0
  | some overhead =>
      have room := UdpTransport.effectiveLossResilientFragmentChunkBytes_room (by omega) bound
        found few
      have long : (fragmentDatagram payload fragmentId chunkBytes
          (fragmentCountOf payload.length chunkBytes) index).length ≤
          wrapperBytes payload.length fragmentId.length chunkBytes + chunkBytes :=
        fragmentDatagram_length inside
      have added := protects overhead bound targets' _ datagram isProtected
      dsimp only [chunkBytes] at long added
      omega

/-- A budget of 512 bytes, under AEAD. -/
def smallTransport : UdpTransport where
  udpDatagramBudgetBytes := 512
  udpAeadEnabled := true

/-- The tag and the rest of what is added stand behind the datagram. -/
def padded (_ : List Unit) (datagram : Bytes) : Option Bytes :=
  some (datagram ++ List.replicate 52 0)

theorem fragments_fit_small :
    let payload := List.replicate 900 7
    ∀ datagram ∈ (sendLossResilientFragmentIndexes padded (fun _ _ => .ok) false payload [65]
        (smallTransport.effectiveLossResilientFragmentChunkBytes payload [65] 500)
        (fragmentCountOf 900
          (smallTransport.effectiveLossResilientFragmentChunkBytes payload [65] 500))
        [()] [0, 1, 2]).1,
      datagram.length ≤ 512 := by
  intro payload
  have chunk : smallTransport.effectiveLossResilientFragmentChunkBytes payload [65] 500 = 422 := by
    decide +kernel
  have size : payload.length = 900 := List.length_replicate
  have fit := fragments_fit smallTransport padded (fun _ _ => .ok)
    (by
      intro overhead bound targets datagram protected_ isPadded
      obtain rfl : 52 = overhead := Option.some.inj bound
      obtain rfl := Option.some.inj isPadded
      rw [List.length_append, List.length_replicate])
    (by decide) payload [65] 500 (by rw [chunk]; decide) (by rw [chunk, size]; decide) false
    [()] [0, 1, 2]
  intro datagram among
  have short := fit datagram (by rwa [size])
  change (datagram.length : Int) ≤ 512 at short
  omega

end

end FleetRMW.Rmw
