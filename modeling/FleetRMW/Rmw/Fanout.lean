import FleetRMW.Lib.Decimal
import FleetRMW.Lib.Eviction
import FleetRMW.Lib.Run

/-! # Fanout to live subscriptions

A process counts, for each configured peer and each topic, the subscriptions that the peer's
advertisements added and did not remove, and sends data frames to the peers with a positive
count. A peer advertises a subscription when it is created, again at every renewal, and when it
is destroyed; every advertisement that is delivered counts once more.
-/

namespace FleetRMW.Rmw

open Lib

/-- What a subscription is matched by. -/
structure SubscriptionTopic where
  domainId : UInt64
  topic : Bytes
  typeName : Bytes
  deriving Repr, DecidableEq

/-- `subscription_topic_key` -/
def SubscriptionTopic.key (t : SubscriptionTopic) : Bytes :=
  decimal t.domainId.toNat ++ octets "|" ++ t.topic ++ octets "|" ++ t.typeName

inductive SubscriptionAction where
  | add
  | remove
  deriving Repr, DecidableEq

structure SubscriptionAdvertisement where
  action : SubscriptionAction
  topic : SubscriptionTopic
  deriving Repr, DecidableEq

/-- How many subscriptions of each key one peer has. -/
abbrev Refcounts := Dict Bytes Int

def Refcounts.apply (refcounts : Refcounts) (ad : SubscriptionAdvertisement) : Refcounts :=
  match ad.action with
  | .add => refcounts.count ad.topic.key
  | .remove =>
      match refcounts.get? ad.topic.key with
      | none => refcounts
      | some n =>
          if n - 1 ≤ 0 then refcounts.erase ad.topic.key else refcounts.set ad.topic.key (n - 1)

variable {α : Type*} [DecidableEq α]

/-- The transport's peers; `localAddress` is its own address where that is not the wildcard. -/
structure PeerTable (α : Type*) where
  localAddress : Option α
  peerAddresses : List α
  peerSubscribedTopicRefcounts : List Refcounts
  parallel : peerSubscribedTopicRefcounts.length = peerAddresses.length

namespace PeerTable

def start (localAddress : Option α) (peerAddresses : List α) : PeerTable α where
  localAddress
  peerAddresses
  peerSubscribedTopicRefcounts := peerAddresses.map fun _ => []
  parallel := List.length_map _

def peerIndexForAddress (t : PeerTable α) (source : α) : Option Nat :=
  t.peerAddresses.findIdx? fun peer => source = peer

def updatePeerSubscription (t : PeerTable α) (source : α) (ad : SubscriptionAdvertisement) :
    PeerTable α :=
  match t.peerIndexForAddress source with
  | none => t
  | some i =>
      { t with
        peerSubscribedTopicRefcounts := t.peerSubscribedTopicRefcounts.modify i (·.apply ad)
        parallel := by rw [List.length_modify]; exact t.parallel }

/-- The counts that are kept for a peer. -/
def refcountsOf (t : PeerTable α) (peer : α) : Refcounts :=
  ((t.peerIndexForAddress peer).bind (t.peerSubscribedTopicRefcounts[·]?)).getD []

def refcount (t : PeerTable α) (peer : α) (key : Bytes) : Int :=
  ((t.refcountsOf peer).get? key).getD 0

/-- Each address once, in order, the first ones in front. -/
def addTargets (targets : List α) : List α → List α
  | [] => targets
  | peer :: peers => addTargets (if peer ∈ targets then targets else targets ++ [peer]) peers

def localTargets (t : PeerTable α) (includeLocal : Bool) : List α :=
  if includeLocal then t.localAddress.toList else []

def frameTargets (t : PeerTable α) (includeLocal : Bool) : List α :=
  addTargets (t.localTargets includeLocal) t.peerAddresses

/-- The peers whose own count of the key is positive. -/
def subscribedPeers (t : PeerTable α) (key : Bytes) : List α :=
  ((t.peerAddresses.zip t.peerSubscribedTopicRefcounts).filter fun e =>
    0 < (e.2.get? key).getD 0).map Prod.fst

/-- Every peer where no subscriber is known. -/
def subscriptionAwareTargets (t : PeerTable α) (includeLocal : Bool) (frame : SubscriptionTopic) :
    List α :=
  if t.subscribedPeers frame.key = [] then t.frameTargets includeLocal
  else addTargets (t.localTargets includeLocal) (t.subscribedPeers frame.key)

end PeerTable

/-! ## Subscriptions come and go -/

/-- The subscriptions of each peer, what it advertised that is on its way, what of it came last,
    and what is counted. -/
structure FanoutRun (α : Type*) where
  live : α → List SubscriptionTopic
  inFlight : α → List SubscriptionAdvertisement
  lastDelivered : α → Option SubscriptionAdvertisement
  table : PeerTable α

inductive FanoutEvent (α : Type*) where
  | create (peer : α) (topic : SubscriptionTopic)
  | destroy (peer : α) (topic : SubscriptionTopic)
  /-- A pass of the renewal loop that resends everything. -/
  | renew (peer : α)
  | deliver (peer : α)
  /-- The advertisement that came last comes once more. -/
  | redeliver (peer : α)

namespace FanoutRun

def start (localAddress : Option α) (peerAddresses : List α) : FanoutRun α where
  live _ := []
  inFlight _ := []
  lastDelivered _ := none
  table := .start localAddress peerAddresses

def send (s : FanoutRun α) (peer : α) (ads : List SubscriptionAdvertisement) : FanoutRun α :=
  { s with inFlight := Function.update s.inFlight peer (s.inFlight peer ++ ads) }

def step (s : FanoutRun α) : FanoutEvent α → Option (FanoutRun α)
  | .create peer topic =>
      some (send { s with live := Function.update s.live peer (topic :: s.live peer) } peer
        [⟨.add, topic⟩])
  | .destroy peer topic =>
      if topic ∈ s.live peer then
        some (send { s with live := Function.update s.live peer ((s.live peer).erase topic) } peer
          [⟨.remove, topic⟩])
      else none
  | .renew peer => some (s.send peer ((s.live peer).map fun topic => ⟨.add, topic⟩))
  | .deliver peer =>
      match s.inFlight peer with
      | [] => none
      | ad :: rest =>
          some { s with
            inFlight := Function.update s.inFlight peer rest
            lastDelivered := Function.update s.lastDelivered peer (some ad)
            table := s.table.updatePeerSubscription peer ad }
  | .redeliver peer =>
      match s.lastDelivered peer with
      | none => none
      | some ad => some { s with table := s.table.updatePeerSubscription peer ad }

/-- Nothing is counted twice: no live subscription is renewed, and what comes once more is a
    removal of what is not counted. -/
def CountedOnce (s : FanoutRun α) : FanoutEvent α → Prop
  | .renew peer => s.live peer = []
  | .redeliver peer => ∀ ad, s.lastDelivered peer = some ad →
      ad.action = .remove ∧ (s.table.refcountsOf peer).get? ad.topic.key = none
  | _ => True

/-- A subscription with this key is live. -/
def HasLive (s : FanoutRun α) (peer : α) (key : Bytes) : Prop :=
  ∃ topic ∈ s.live peer, topic.key = key

end FanoutRun

/-! ## What is counted -/

/-- The dictionary counts the keys, those that occur. -/
def Refcounts.Counts (refcounts : Refcounts) (keys : List Bytes) : Prop :=
  ∀ k, refcounts.get? k = if k ∈ keys then some (keys.count k : Int) else none

namespace Refcounts

variable {refcounts : Refcounts} {keys : List Bytes} {topic : SubscriptionTopic}

theorem Counts.nil : Counts [] [] := fun k => by simp

theorem Counts.perm {keys' : List Bytes} (counts : refcounts.Counts keys) (perm : keys.Perm keys') :
    refcounts.Counts keys' := by
  intro k
  rw [counts k, perm.count_eq]
  simp only [perm.mem_iff]

theorem Counts.add (counts : refcounts.Counts keys) :
    (refcounts.apply ⟨.add, topic⟩).Counts (topic.key :: keys) := by
  intro k
  change (refcounts.count topic.key).get? k = _
  unfold Dict.count
  by_cases here : k = topic.key
  · subst here
    rw [Dict.get?_set_self, counts, if_pos List.mem_cons_self, List.count_cons_self]
    by_cases among : topic.key ∈ keys
    · rw [if_pos among]
      rfl
    · rw [if_neg among, List.count_eq_zero.mpr among]
      rfl
  · rw [Dict.get?_set_of_ne here, counts, List.count_cons_of_ne (Ne.symm here)]
    simp only [List.mem_cons, here, false_or]

theorem Counts.remove (counts : refcounts.Counts (topic.key :: keys)) :
    (refcounts.apply ⟨.remove, topic⟩).Counts keys := by
  have here : refcounts.get? topic.key = some ((keys.count topic.key : Int) + 1) := by
    rw [counts, if_pos List.mem_cons_self, List.count_cons_self]
    rfl
  intro k
  change (match refcounts.get? topic.key with
    | none => refcounts
    | some n => if n - 1 ≤ 0 then refcounts.erase topic.key
        else refcounts.set topic.key (n - 1)).get? k = _
  rw [here]
  dsimp only
  have others : k ≠ topic.key → refcounts.get? k =
      if k ∈ keys then some (keys.count k : Int) else none := by
    intro other
    rw [counts, List.count_cons_of_ne (Ne.symm other)]
    simp only [List.mem_cons, other, false_or]
  split
  case isTrue last =>
    have gone : topic.key ∉ keys := by
      rw [← List.count_eq_zero]
      omega
    rw [Dict.get?_erase]
    by_cases same : k = topic.key
    · rw [if_pos same, same, if_neg gone]
    · rw [if_neg same, others same]
  case isFalse more =>
    have left : topic.key ∈ keys := by
      rw [← List.count_pos_iff]
      omega
    by_cases same : k = topic.key
    · rw [same, Dict.get?_set_self, if_pos left]
      congr 1
      omega
    · rw [Dict.get?_set_of_ne same, others same]

/-- A removal of what is not counted changes nothing. -/
theorem apply_remove_of_absent (absent : refcounts.get? topic.key = none) :
    refcounts.apply ⟨.remove, topic⟩ = refcounts := by
  unfold apply
  simp only [absent]

theorem Counts.pos_iff (counts : refcounts.Counts keys) (key : Bytes) :
    0 < (refcounts.get? key).getD 0 ↔ key ∈ keys := by
  rw [counts key]
  by_cases among : key ∈ keys
  · have positive := List.count_pos_iff.mpr among
    simp only [among, if_true, Option.getD_some, iff_true]
    omega
  · simp [among]

end Refcounts

namespace PeerTable

variable {t : PeerTable α} {source peer : α} {ad : SubscriptionAdvertisement}

theorem peerIndexForAddress_eq_some (configured : peer ∈ t.peerAddresses) :
    ∃ i, t.peerIndexForAddress peer = some i ∧ i < t.peerSubscribedTopicRefcounts.length := by
  have found : (t.peerIndexForAddress peer).isSome := by
    rw [peerIndexForAddress, List.findIdx?_isSome, List.any_eq_true]
    exact ⟨peer, configured, by simp⟩
  obtain ⟨i, index⟩ := Option.isSome_iff_exists.mp found
  refine ⟨i, index, ?_⟩
  rw [t.parallel]
  exact (List.findIdx?_eq_some_iff_getElem.mp index).1

@[simp] theorem updatePeerSubscription_peerAddresses :
    (t.updatePeerSubscription source ad).peerAddresses = t.peerAddresses := by
  unfold updatePeerSubscription
  split <;> rfl

@[simp] theorem updatePeerSubscription_localAddress :
    (t.updatePeerSubscription source ad).localAddress = t.localAddress := by
  unfold updatePeerSubscription
  split <;> rfl

theorem peerIndexForAddress_update :
    (t.updatePeerSubscription source ad).peerIndexForAddress peer = t.peerIndexForAddress peer := by
  unfold peerIndexForAddress
  rw [updatePeerSubscription_peerAddresses]

/-- Only the counts at the source's index change. -/
theorem getElem?_update (i : Nat) :
    (t.updatePeerSubscription source ad).peerSubscribedTopicRefcounts[i]? =
      if t.peerIndexForAddress source = some i then
        t.peerSubscribedTopicRefcounts[i]?.map (·.apply ad)
      else t.peerSubscribedTopicRefcounts[i]? := by
  unfold updatePeerSubscription
  split
  case h_1 unknown => rw [unknown, if_neg (by simp)]
  case h_2 j index =>
    dsimp only
    rw [List.getElem?_modify, index]
    by_cases here : j = i
    · simp [here]
    · have other : ¬some j = some i := fun same => here (Option.some.inj same)
      simp [here]

/-- Two addresses at one index are the same. -/
theorem peerIndexForAddress_injective {i : Nat} (here : t.peerIndexForAddress source = some i)
    (there : t.peerIndexForAddress peer = some i) : source = peer := by
  obtain ⟨inside, at_, -⟩ := List.findIdx?_eq_some_iff_getElem.mp here
  obtain ⟨_, at_', -⟩ := List.findIdx?_eq_some_iff_getElem.mp there
  have left : source = t.peerAddresses[i] := by simpa using at_
  have right : peer = t.peerAddresses[i] := by simpa using at_'
  exact left.trans right.symm

theorem refcountsOf_update_self (configured : peer ∈ t.peerAddresses) :
    (t.updatePeerSubscription peer ad).refcountsOf peer = (t.refcountsOf peer).apply ad := by
  obtain ⟨i, index, inside⟩ := peerIndexForAddress_eq_some configured
  simp only [refcountsOf, peerIndexForAddress_update, index, Option.bind_some, getElem?_update,
    if_true, List.getElem?_eq_getElem inside, Option.map_some, Option.getD_some]

theorem refcountsOf_update_of_ne (other : peer ≠ source) :
    (t.updatePeerSubscription source ad).refcountsOf peer = t.refcountsOf peer := by
  unfold refcountsOf
  rw [peerIndexForAddress_update]
  cases index : t.peerIndexForAddress peer with
  | none => rfl
  | some i =>
      have elsewhere : t.peerIndexForAddress source ≠ some i := fun same =>
        other (peerIndexForAddress_injective index same)
      simp only [Option.bind_some, getElem?_update, if_neg elsewhere]

end PeerTable

namespace FanoutRun

variable {s s' : FanoutRun α} {e : FanoutEvent α} {peer : α}

/-- Once what is on its way has come, the counts of a configured peer are those of its live
    subscriptions; a second place of an address is not counted at. -/
structure Counted (s : FanoutRun α) : Prop where
  counts : ∀ peer ∈ s.table.peerAddresses,
    ((s.inFlight peer).foldl Refcounts.apply (s.table.refcountsOf peer)).Counts
      ((s.live peer).map SubscriptionTopic.key)
  unused : ∀ i peer, s.table.peerAddresses[i]? = some peer →
    s.table.peerIndexForAddress peer ≠ some i → s.table.peerSubscribedTopicRefcounts[i]? = some []

theorem Counted.start (localAddress : Option α) (peerAddresses : List α) :
    (start localAddress peerAddresses).Counted where
  counts peer _ := by
    have none_ : ∀ i : Nat, ((peerAddresses.map fun _ => ([] : Refcounts))[i]?).getD [] = [] := by
      intro i
      rw [List.getElem?_map]
      cases peerAddresses[i]? <;> rfl
    have empty : (PeerTable.start localAddress peerAddresses).refcountsOf peer = [] := by
      unfold PeerTable.refcountsOf
      cases (PeerTable.start localAddress peerAddresses).peerIndexForAddress peer with
      | none => rfl
      | some i => exact none_ i
    change ((PeerTable.start localAddress peerAddresses).refcountsOf peer).Counts []
    rw [empty]
    exact Refcounts.Counts.nil
  unused i peer at_ _ := by
    change (peerAddresses.map fun _ => ([] : Refcounts))[i]? = some []
    rw [List.getElem?_map, show peerAddresses[i]? = some peer from at_]
    rfl

/-- What a process sends comes in behind what it sent before. -/
theorem Counted.sends (counted : s.Counted) (peer : α) (live : List SubscriptionTopic)
    (ads : List SubscriptionAdvertisement)
    (adds : ∀ refcounts : Refcounts, refcounts.Counts ((s.live peer).map SubscriptionTopic.key) →
      (ads.foldl Refcounts.apply refcounts).Counts (live.map SubscriptionTopic.key)) :
    (send { s with live := Function.update s.live peer live } peer ads).Counted where
  counts other configured := by
    have before := counted.counts other configured
    by_cases same : other = peer
    · subst same
      change ((Function.update s.inFlight other _ other).foldl Refcounts.apply
        (s.table.refcountsOf other)).Counts ((Function.update s.live other live other).map _)
      rw [Function.update_self, Function.update_self, List.foldl_append]
      exact adds _ before
    · change ((Function.update s.inFlight peer _ other).foldl Refcounts.apply
        (s.table.refcountsOf other)).Counts ((Function.update s.live peer live other).map _)
      rw [Function.update_of_ne same, Function.update_of_ne same]
      exact before
  unused := counted.unused

theorem unused_update {t : PeerTable α} {ad : SubscriptionAdvertisement}
    (unused : ∀ i peer, t.peerAddresses[i]? = some peer → t.peerIndexForAddress peer ≠ some i →
      t.peerSubscribedTopicRefcounts[i]? = some []) (source : α) (i : Nat) (peer : α)
    (at_ : (t.updatePeerSubscription source ad).peerAddresses[i]? = some peer)
    (second : (t.updatePeerSubscription source ad).peerIndexForAddress peer ≠ some i) :
    (t.updatePeerSubscription source ad).peerSubscribedTopicRefcounts[i]? = some [] := by
  rw [PeerTable.updatePeerSubscription_peerAddresses] at at_
  rw [PeerTable.peerIndexForAddress_update] at second
  have elsewhere : t.peerIndexForAddress source ≠ some i := by
    intro here
    obtain ⟨inside, found, -⟩ := List.findIdx?_eq_some_iff_getElem.mp here
    rw [List.getElem?_eq_getElem inside] at at_
    have same : source = peer := (of_decide_eq_true found).trans (Option.some.inj at_)
    exact second (same ▸ here)
  rw [PeerTable.getElem?_update, if_neg elsewhere]
  exact unused i peer at_ second

theorem Counted.step (counted : s.Counted) (once : s.CountedOnce e) (h : s.step e = some s') :
    s'.Counted := by
  cases e with
  | create peer topic =>
      obtain rfl := Option.some.inj h
      exact counted.sends peer (topic :: s.live peer) [⟨.add, topic⟩] fun _ before => before.add
  | destroy peer topic =>
      simp only [FanoutRun.step] at h
      split at h
      case isFalse => cases h
      case isTrue among =>
        obtain rfl := Option.some.inj h
        refine counted.sends peer ((s.live peer).erase topic) [⟨.remove, topic⟩] fun _ before => ?_
        have perm := (List.perm_cons_erase among).map SubscriptionTopic.key
        exact (before.perm perm).remove
  | renew peer =>
      obtain rfl := Option.some.inj h
      have none_ : s.live peer = [] := once
      have same : s.send peer ((s.live peer).map fun topic => ⟨.add, topic⟩) =
          send { s with live := Function.update s.live peer (s.live peer) } peer [] := by
        rw [Function.update_eq_self, none_]
        rfl
      rw [same]
      exact counted.sends peer (s.live peer) [] fun _ before => before
  | deliver peer =>
      simp only [FanoutRun.step] at h
      split at h
      case h_1 => cases h
      case h_2 ad rest waiting =>
        obtain rfl := Option.some.inj h
        constructor
        · intro other configured
          dsimp only at configured ⊢
          rw [PeerTable.updatePeerSubscription_peerAddresses] at configured
          have before := counted.counts other configured
          by_cases same : other = peer
          · subst same
            rw [waiting, List.foldl_cons] at before
            rw [Function.update_self, PeerTable.refcountsOf_update_self configured]
            exact before
          · rw [Function.update_of_ne same, PeerTable.refcountsOf_update_of_ne same]
            exact before
        · exact unused_update counted.unused peer
  | redeliver peer =>
      simp only [FanoutRun.step] at h
      split at h
      case h_1 => cases h
      case h_2 ad last =>
        obtain rfl := Option.some.inj h
        obtain ⟨removal, absent⟩ := once ad last
        constructor
        · intro other configured
          dsimp only at configured ⊢
          rw [PeerTable.updatePeerSubscription_peerAddresses] at configured
          have before := counted.counts other configured
          by_cases same : other = peer
          · subst same
            have nothing : (s.table.refcountsOf other).apply ad = s.table.refcountsOf other := by
              obtain ⟨action, topic⟩ := ad
              cases removal
              exact Refcounts.apply_remove_of_absent absent
            rw [PeerTable.refcountsOf_update_self configured, nothing]
            exact before
          · rw [PeerTable.refcountsOf_update_of_ne same]
            exact before
        · exact unused_update counted.unused peer

/-- Everything that was sent has come. -/
def Quiet (s : FanoutRun α) : Prop := ∀ peer, s.inFlight peer = []

theorem Counted.refcount_pos_iff (counted : s.Counted) (quiet : s.Quiet)
    (configured : peer ∈ s.table.peerAddresses) (key : Bytes) :
    0 < s.table.refcount peer key ↔ s.HasLive peer key := by
  have counts := counted.counts peer configured
  rw [quiet peer, List.foldl_nil] at counts
  rw [PeerTable.refcount, counts.pos_iff]
  exact List.mem_map

end FanoutRun

/-! ## Targets -/

namespace PeerTable

variable {t : PeerTable α} {peer : α} {targets peers : List α}

theorem mem_addTargets : peer ∈ addTargets targets peers ↔ peer ∈ targets ∨ peer ∈ peers := by
  induction peers generalizing targets with
  | nil => simp [addTargets]
  | cons p peers ih =>
      rw [addTargets, ih]
      split
      case isTrue known =>
        constructor
        · rintro (old | later)
          · exact .inl old
          · exact .inr (List.mem_cons_of_mem _ later)
        · rintro (old | here)
          · exact .inl old
          · rcases List.mem_cons.mp here with rfl | later
            · exact .inl known
            · exact .inr later
      case isFalse =>
        simp [or_assoc]

/-- A peer is subscribed where it is counted. -/
theorem mem_subscribedPeers_iff
    (unused : ∀ i peer, t.peerAddresses[i]? = some peer → t.peerIndexForAddress peer ≠ some i →
      t.peerSubscribedTopicRefcounts[i]? = some [])
    (configured : peer ∈ t.peerAddresses) (key : Bytes) :
    peer ∈ t.subscribedPeers key ↔ 0 < t.refcount peer key := by
  obtain ⟨i, index, inside⟩ := peerIndexForAddress_eq_some configured
  have counts : t.refcountsOf peer = t.peerSubscribedTopicRefcounts[i] := by
    simp [refcountsOf, index, List.getElem?_eq_getElem inside]
  simp only [subscribedPeers, List.mem_map, List.mem_filter, refcount, counts]
  constructor
  · rintro ⟨⟨p, refcounts⟩, ⟨among, positive⟩, rfl⟩
    obtain ⟨j, at_⟩ := List.mem_iff_getElem?.mp among
    obtain ⟨here, kept⟩ := List.getElem?_zip_eq_some.mp at_
    by_cases first : j = i
    · subst first
      rw [List.getElem?_eq_getElem inside] at kept
      rw [Option.some.inj kept]
      exact of_decide_eq_true positive
    · have empty := unused j p here (by rw [index]; exact fun same => first (Option.some.inj same).symm)
      rw [empty] at kept
      rw [← Option.some.inj kept] at positive
      exact absurd (of_decide_eq_true positive) (by simp)
  · intro positive
    obtain ⟨within, found, -⟩ := List.findIdx?_eq_some_iff_getElem.mp index
    have same : t.peerAddresses[i] = peer := (of_decide_eq_true found).symm
    refine ⟨(peer, t.peerSubscribedTopicRefcounts[i]), ⟨?_, decide_eq_true positive⟩, rfl⟩
    rw [List.mem_iff_getElem?]
    refine ⟨i, List.getElem?_zip_eq_some.mpr ⟨?_, List.getElem?_eq_getElem inside⟩⟩
    rw [List.getElem?_eq_getElem within, same]

end PeerTable

namespace FanoutRun

/-- One topic's subscription. -/
def chatter : SubscriptionTopic := ⟨0, octets "/t", octets "T"⟩

end FanoutRun

end FleetRMW.Rmw
