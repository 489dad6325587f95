import FleetRMW.Lib.Lines
import FleetRMW.Rmw.LivelinessRoll

/-! # Liveliness over whole runs

Each operation of a process keeps all its subscriptions right about the publishers that there are,
and so does every run.
-/

namespace FleetRMW.Rmw

open Lib

/-! ## Turns -/

section
variable {counted : Prop} {others : List (Bytes × Offer)} {subs : Subscriptions} {now : Int}
variable {p : FleetQoxPublisherData} {e : RemotePubSubEndpoint}

theorem counts_of_enabled {o : Offer} (enabled : o.qos.livelinessEnabled = true)
    (config : PubSubConfig) : o.counts config = matchCompatible o.toPubSubConfig config := by
  rw [Offer.counts, enabled, Bool.true_and]

theorem FleetQoxPublisherData.notify_tracking {p' : FleetQoxPublisherData}
    (held : Tracking counted (p.offers ++ others) subs)
    (config : p'.toPubSubConfig = p.toPubSubConfig) (id : p'.publisherId = p.publisherId)
    (enabled : p.qos.livelinessEnabled = true) :
    Tracking counted (p'.offers ++ others) (p'.notify subs) := by
  have enabled' : p'.qos.livelinessEnabled = true := by rwa [congrArg PubSubConfig.qos config]
  have isMatched : ∀ sub, localPubsubMatchCompatible p' sub = p'.counts sub.toPubSubConfig :=
    fun sub => (counts_of_enabled enabled' sub.toPubSubConfig).symm
  have changed := held.change config isMatched
  rw [← id] at changed
  exact changed

theorem FleetQoxPublisherData.assertAt_tracking (held : Tracking counted (p.offers ++ others) subs)
    (enabled : p.qos.livelinessEnabled = true) :
    Tracking counted ((p.assertAt subs now).1.offers ++ others) (p.assertAt subs now).2 := by
  cases wasAlive : p.livelinessAlive with
  | true =>
      have same : (p.assertAt subs now).2 = subs := if_pos wasAlive
      rw [same]
      exact held.keep rfl wasAlive.symm
  | false =>
      have told : (p.assertAt subs now).2 = (p.assertAt subs now).1.notify subs :=
        if_neg (Bool.eq_false_iff.mp wasAlive)
      rw [told]
      exact notify_tracking held rfl rfl enabled

theorem FleetQoxPublisherData.recordLivelinessLost_tracking
    (held : Tracking counted (p.offers ++ others) subs) (enabled : p.qos.livelinessEnabled = true) :
    Tracking counted ((p.recordLivelinessLost subs).1.offers ++ others)
      (p.recordLivelinessLost subs).2 := by
  unfold recordLivelinessLost
  split
  case isTrue => exact held
  case isFalse => exact notify_tracking held rfl rfl enabled

theorem FleetQoxPublisherData.monitorLiveliness_tracking
    (held : Tracking counted (p.offers ++ others) subs) (enabled : p.qos.livelinessEnabled = true) :
    Tracking counted ((p.monitorLiveliness subs now).1.offers ++ others)
      (p.monitorLiveliness subs now).2 := by
  unfold monitorLiveliness
  split
  case isTrue => exact held.keep rfl rfl
  case isFalse =>
    dsimp only
    split
    case isTrue => exact recordLivelinessLost_tracking held enabled
    case isFalse => exact held

theorem partitionsIntersect_comm (left right : List Bytes) :
    partitionsIntersect left right = partitionsIntersect right left := by
  unfold partitionsIntersect
  cases left with
  | nil =>
      cases right with
      | nil => rfl
      | cons => simp
  | cons x left =>
      cases right with
      | nil => simp
      | cons y right =>
          rw [Bool.eq_iff_iff]
          simp only [reduceCtorEq, false_and, if_false, List.any_eq_true, List.contains_iff_mem]
          constructor
          · exact fun both => ⟨both.choose, both.choose_spec.2, both.choose_spec.1⟩
          · exact fun both => ⟨both.choose, both.choose_spec.2, both.choose_spec.1⟩

namespace RemotePubSubEndpoint

theorem offers_of_publisher (isPublisher : e.publisher = true) :
    e.offers = [(remoteLivelinessPublisherId e, e.toOffer)] := if_pos isPublisher

theorem offers_of_subscription (isSubscription : e.publisher = false) : e.offers = [] :=
  if_neg (Bool.eq_false_iff.mp isSubscription)

/-- What is looked at before a subscription is told is part of the match. -/
theorem recordDiscovered_tracking (held : Tracking counted others subs)
    (fresh : e.publisher = true → remoteLivelinessPublisherId e ∉ others.map Prod.fst)
    (room : counted → ((e.offers ++ others).length : Int) ≤ int32Max) :
    Tracking counted (e.offers ++ others) (e.recordDiscovered subs) := by
  unfold recordDiscovered
  cases isPublisher : e.publisher with
  | false =>
      rw [offers_of_subscription isPublisher]
      exact held
  | true =>
      rw [offers_of_publisher isPublisher] at room ⊢
      apply held.add
      · unfold remoteLivelinessPublisherId
        exact List.append_ne_nil_of_left_ne_nil (List.append_ne_nil_of_left_ne_nil
          (List.append_ne_nil_of_left_ne_nil (by decide) _) _) _
      · exact fresh isPublisher
      · exact fun asked => by simpa using room asked
      · intro sub
        unfold Offer.counts remotePublisherMatchCompatible matchCompatible
        rw [isPublisher, partitionsIntersect_comm sub.partitions, Bool.eq_iff_iff]
        simp only [Bool.and_eq_true, decide_eq_true_eq, eq_comm (a := sub.domainId),
          eq_comm (a := sub.topicName)]
        constructor
        · exact fun all => ⟨all.2.1, all.2.2.2⟩
        · exact fun all => ⟨⟨⟨all.2.1.1.1.1, all.2.1.1.1.2⟩, all.2.1.2⟩, all.1, trivial, all.2⟩

theorem recordRemoved_tracking (held : Tracking counted (e.offers ++ others) subs) :
    Tracking counted others (e.recordRemoved subs) := by
  unfold recordRemoved
  cases isPublisher : e.publisher with
  | false =>
      rw [offers_of_subscription isPublisher] at held
      exact held
  | true =>
      rw [offers_of_publisher isPublisher] at held
      cases enabled : e.qos.livelinessEnabled with
      | true =>
          apply held.remove
          intro sub counts
          rw [counts_of_enabled enabled] at counts
          unfold remotePublisherMatchCompatible
          rw [isPublisher, counts, Bool.true_and]
      | false =>
          refine held.remove_idle fun config => ?_
          rw [Offer.counts, enabled, Bool.false_and]

theorem recordLivelinessState_tracking {alive : Bool}
    (held : Tracking counted (e.offers ++ others) subs) :
    Tracking counted ((e.recordLivelinessState subs alive).1.offers ++ others)
      (e.recordLivelinessState subs alive).2 := by
  unfold recordLivelinessState
  split
  case isTrue => exact held
  case isFalse changes =>
    simp only [Bool.or_eq_true, Bool.not_eq_true', decide_eq_true_eq, not_or,
      Bool.not_eq_false] at changes
    obtain ⟨⟨isPublisher, enabled⟩, -⟩ := changes
    have after : ({ e with livelinessAlive := alive } : RemotePubSubEndpoint).offers =
        [(remoteLivelinessPublisherId e, { e.toOffer with livelinessAlive := alive })] :=
      if_pos isPublisher
    rw [offers_of_publisher isPublisher] at held
    rw [after]
    refine Tracking.change held rfl ?_
    intro sub
    change (e.publisher && matchCompatible e.toPubSubConfig sub.toPubSubConfig) =
      (e.qos.livelinessEnabled && matchCompatible e.toPubSubConfig sub.toPubSubConfig)
    rw [isPublisher, enabled]

/-- When the last assertion was and when the endpoint expires is nothing to the subscriptions. -/
theorem times_tracking {e' : RemotePubSubEndpoint}
    (held : Tracking counted (e.offers ++ others) subs) (publisher : e'.publisher = e.publisher)
    (config : e'.toPubSubConfig = e.toPubSubConfig) (endpointId : e'.endpointId = e.endpointId)
    (flag : e'.livelinessAlive = e.livelinessAlive) :
    Tracking counted (e'.offers ++ others) subs := by
  have id : remoteLivelinessPublisherId e' = remoteLivelinessPublisherId e := by
    unfold remoteLivelinessPublisherId
    rw [endpointId, config]
  cases isPublisher : e.publisher with
  | false =>
      rw [offers_of_subscription isPublisher] at held
      rw [offers_of_subscription (publisher.trans isPublisher)]
      exact held
  | true =>
      rw [offers_of_publisher isPublisher] at held
      rw [offers_of_publisher (publisher.trans isPublisher), id]
      exact held.keep config flag

theorem renew_tracking {expiresAtNs : Int} {isLivelinessAssert : Bool}
    (held : Tracking counted (e.offers ++ others) subs) :
    Tracking counted ((e.renew subs expiresAtNs isLivelinessAssert now).1.offers ++ others)
      (e.renew subs expiresAtNs isLivelinessAssert now).2 := by
  unfold renew
  dsimp only
  split
  case isTrue =>
    apply recordLivelinessState_tracking
    exact times_tracking held rfl rfl rfl rfl
  case isFalse => exact times_tracking held rfl rfl rfl rfl

end RemotePubSubEndpoint

end

/-! ## Identities -/

/-- The counter can be read off behind the last dash. -/
theorem allocatePublisherId_inj {left right : Bytes} {n m : Nat}
    (same : allocatePublisherId left n = allocatePublisherId right m) : n = m := by
  have parts : ∀ (endpoint : Bytes) (n : Nat), (allocatePublisherId endpoint n).reverse =
      (decimal n).reverse ++ 45 :: (octets "fpubcpp-" ++ endpoint).reverse := by
    intro endpoint n
    unfold allocatePublisherId
    rw [List.reverse_append, List.reverse_append]
    rfl
  have dash : ∀ n, (45 : UInt8) ∉ (decimal n).reverse := fun n among =>
    decimal_notMem (by decide) n (List.mem_reverse.mp among)
  have reversed := congrArg List.reverse same
  rw [parts, parts] at reversed
  exact decimal_injective (List.reverse_injective (parts_of_separated (dash n) (dash m) reversed).1)

theorem remoteLivelinessPublisherId_ne (endpoint : Bytes) (n : Nat) (e : RemotePubSubEndpoint) :
    remoteLivelinessPublisherId e ≠ allocatePublisherId endpoint n := by
  intro same
  have first := congrArg List.head? same
  change some (114 : UInt8) = some 102 at first
  cases first

/-- Publishers of one identity have one key. -/
theorem remotePubsubEndpointKey_of_id {e e' : RemotePubSubEndpoint}
    (same : remoteLivelinessPublisherId e = remoteLivelinessPublisherId e') :
    remotePubsubEndpointKey true e.endpointId e.domainId =
      remotePubsubEndpointKey true e'.endpointId e'.domainId := by
  unfold remoteLivelinessPublisherId at same
  simp only [List.append_assoc] at same
  have colon : ∀ n, (58 : UInt8) ∉ decimal n := decimal_notMem (by decide)
  obtain ⟨domain, endpointId⟩ :=
    parts_of_separated (colon _) (colon _) (List.append_cancel_left same)
  change e.endpointId = e'.endpointId at endpointId
  unfold remotePubsubEndpointKey
  rw [domain, endpointId]

/-! ## The process -/

/-- All is right, and identities are given out as the code does. -/
structure PubSubBus.Sound (counted : Prop) (bus : PubSubBus) : Prop where
  tracking : Tracking counted bus.offers bus.subscriptions
  ids : ∀ id ∈ bus.publishers.map (·.publisherId),
    ∃ endpoint n, n < bus.nextPublisherId ∧ id = allocatePublisherId endpoint n
  keys : ∀ e ∈ bus.remoteEndpoints,
    e.1 = remotePubsubEndpointKey e.2.publisher e.2.endpointId e.2.domainId

/-- What an endpoint of another process is found by. -/
def RemotePubSubEndpoint.descriptor (e : RemotePubSubEndpoint) : Bool × Bytes × UInt64 :=
  (e.publisher, e.endpointId, e.domainId)

namespace PubSubBus

variable {counted : Prop} {bus : PubSubBus} {now : Int}

theorem offers_sublist : (bus.publishers.map (·.publisherId)).Sublist (bus.offers.map Prod.fst) := by
  have same : bus.publishers.map (·.publisherId) =
      (bus.publishers.flatMap (·.offers)).map Prod.fst := by
    rw [List.map_flatMap]
    exact (List.flatMap_pure_eq_map _ _).symm
  rw [same, offers, List.map_append]
  exact List.sublist_append_left _ _

/-- A loop over the publishers of this process in which each turn keeps the subscriptions right. -/
theorem Sound.sweepPublishers {here : FleetQoxPublisherData → Bool}
    {turn : FleetQoxPublisherData → Subscriptions → Option FleetQoxPublisherData × Subscriptions}
    (sound : bus.Sound counted)
    (keeps : ∀ p ∈ bus.publishers, here p = true → ∀ others subs,
      Tracking counted (p.offers ++ others) subs →
      Tracking counted ((turn p subs).1.toList.flatMap (·.offers) ++ others) (turn p subs).2)
    (sameId : ∀ p subs, ∀ p' ∈ (turn p subs).1, p'.publisherId = p.publisherId) :
    (bus.sweepPublishers here turn).Sound counted where
  tracking := sweepWhere_keeps (R := Tracking counted) Tracking.perm keeps sound.tracking
  ids id among := sound.ids id ((map_sweepWhere_sublist sameId _ _).subset among)
  keys := sound.keys

/-- The same of a loop over the endpoints of other processes. -/
theorem Sound.sweepRemote {here : Bytes → RemotePubSubEndpoint → Bool}
    {turn : RemotePubSubEndpoint → Subscriptions → Option RemotePubSubEndpoint × Subscriptions}
    (sound : bus.Sound counted)
    (keeps : ∀ e others subs, Tracking counted (e.offers ++ others) subs →
      Tracking counted ((turn e subs).1.toList.flatMap (·.offers) ++ others) (turn e subs).2)
    (same : ∀ e subs, ∀ e' ∈ (turn e subs).1, e'.descriptor = e.descriptor) :
    (bus.sweepRemote here turn).Sound counted where
  tracking := by
    apply Tracking.perm List.perm_append_comm
    refine sweepWhere_keeps (R := Tracking counted) Tracking.perm ?_
      (Tracking.perm List.perm_append_comm sound.tracking)
    intro item _ _ others subs held
    have kept := keeps item.2 others subs held
    cases turned : (turn item.2 subs).1 with
    | none =>
        rw [turned] at kept
        simp only [turned]
        exact kept
    | some e =>
        rw [turned] at kept
        simp only [turned]
        exact kept
  ids := sound.ids
  keys e among := by
    have sublist : ((bus.sweepRemote here turn).remoteEndpoints.map
        fun e => (e.1, e.2.descriptor)).Sublist
        (bus.remoteEndpoints.map fun e => (e.1, e.2.descriptor)) := by
      apply map_sweepWhere_sublist
      intro item subs item' kept
      obtain ⟨e', turned, rfl⟩ := Option.mem_map.mp kept
      rw [same item.2 subs e' turned]
    obtain ⟨before, inside, eq⟩ := List.mem_map.mp
      (sublist.subset (List.mem_map.mpr ⟨e, among, rfl⟩))
    have key := sound.keys before inside
    obtain ⟨first, second⟩ := Prod.mk.inj eq
    obtain ⟨publisher, rest⟩ := Prod.mk.inj second
    obtain ⟨endpointId, domainId⟩ := Prod.mk.inj rest
    rw [← first, ← publisher, ← endpointId, ← domainId]
    exact key

/-! ### What does not create anything -/

theorem Sound.purgeExpired (sound : bus.Sound counted) : (bus.purgeExpired now).Sound counted := by
  apply sound.sweepRemote
  · exact fun e others subs held => e.recordRemoved_tracking held
  · intro e subs e' kept
    cases kept

theorem Sound.removeRemote (sound : bus.Sound counted) (key : Bytes) :
    (bus.removeRemote key).Sound counted := by
  apply sound.sweepRemote
  · exact fun e others subs held => e.recordRemoved_tracking held
  · intro e subs e' kept
    cases kept

theorem recordLivelinessState_descriptor (e : RemotePubSubEndpoint) (subs : Subscriptions)
    (alive : Bool) : (e.recordLivelinessState subs alive).1.descriptor = e.descriptor := by
  unfold RemotePubSubEndpoint.recordLivelinessState
  split
  case isTrue => rfl
  case isFalse => rfl

theorem renew_descriptor (e : RemotePubSubEndpoint) (subs : Subscriptions) (expiresAtNs : Int)
    (isLivelinessAssert : Bool) (now : Int) :
    (e.renew subs expiresAtNs isLivelinessAssert now).1.descriptor = e.descriptor := by
  unfold RemotePubSubEndpoint.renew
  dsimp only
  split
  case isTrue => exact recordLivelinessState_descriptor _ _ _
  case isFalse => rfl

/-- A turn that keeps the endpoint. -/
theorem Sound.turnRemote {here : Bytes → RemotePubSubEndpoint → Bool}
    {turn : RemotePubSubEndpoint → Subscriptions → RemotePubSubEndpoint × Subscriptions}
    (sound : bus.Sound counted)
    (keeps : ∀ e others subs, Tracking counted (e.offers ++ others) subs →
      Tracking counted ((turn e subs).1.offers ++ others) (turn e subs).2)
    (same : ∀ e subs, (turn e subs).1.descriptor = e.descriptor) :
    (bus.sweepRemote here fun e subs => (some (turn e subs).1, (turn e subs).2)).Sound counted := by
  apply sound.sweepRemote
  · intro e others subs held
    rw [Option.toList_some, List.flatMap_singleton]
    exact keeps e others subs held
  · intro e subs e' kept
    rw [← Option.some.inj kept]
    exact same e subs

theorem Sound.turnPublishers {here : FleetQoxPublisherData → Bool}
    {turn : FleetQoxPublisherData → Subscriptions → FleetQoxPublisherData × Subscriptions}
    (sound : bus.Sound counted)
    (keeps : ∀ p ∈ bus.publishers, here p = true → ∀ others subs,
      Tracking counted (p.offers ++ others) subs →
      Tracking counted ((turn p subs).1.offers ++ others) (turn p subs).2)
    (sameId : ∀ p subs, (turn p subs).1.publisherId = p.publisherId) :
    (bus.sweepPublishers here fun p subs => (some (turn p subs).1, (turn p subs).2)).Sound
      counted := by
  apply sound.sweepPublishers
  · intro p among taken others subs held
    rw [Option.toList_some, List.flatMap_singleton]
    exact keeps p among taken others subs held
  · intro p subs p' kept
    rw [← Option.some.inj kept]
    exact sameId p subs

theorem Sound.expireRemoteManual (sound : bus.Sound counted) :
    (bus.expireRemoteManual now).Sound counted :=
  sound.turnRemote (fun e _ _ held => e.recordLivelinessState_tracking held)
    (fun e subs => recordLivelinessState_descriptor e subs false)

theorem Sound.renewRemote (sound : bus.Sound counted) (key : Bytes) (found : RemotePubSubEndpoint)
    (expiresAtNs : Int) (isLivelinessAssert : Bool) :
    (bus.renewRemote key found expiresAtNs isLivelinessAssert now).Sound counted := by
  have first : (bus.sweepRemote (fun k _ => k = key) fun e subs =>
      (some (e.renew subs expiresAtNs isLivelinessAssert now).1,
        (e.renew subs expiresAtNs isLivelinessAssert now).2)).Sound counted := by
    apply sound.turnRemote
    · exact fun e _ _ held => e.renew_tracking held
    · exact fun e subs => renew_descriptor e subs expiresAtNs isLivelinessAssert now
  unfold PubSubBus.renewRemote
  dsimp only
  split
  case isTrue =>
    apply first.turnRemote
    · intro e others subs held
      apply RemotePubSubEndpoint.recordLivelinessState_tracking
      exact e.times_tracking held rfl rfl rfl rfl
    · exact fun e subs => recordLivelinessState_descriptor _ subs true
  case isFalse => exact first

theorem enabled_of_manualByNode {qos : RmwQosProfile}
    (manual : qos.livelinessManualByNode = true) : qos.livelinessEnabled = true := by
  unfold RmwQosProfile.livelinessEnabled qosLivelinessPolicySupported
  unfold RmwQosProfile.livelinessManualByNode at manual
  rw [manual, Bool.or_true]

/-- The publisher is one of the process, by its identity. -/
theorem Sound.assertLiveliness (sound : bus.Sound counted) {p : FleetQoxPublisherData}
    (among : p ∈ bus.publishers) : (bus.assertLiveliness p now).Sound counted := by
  have distinct : (bus.publishers.map (·.publisherId)).Nodup :=
    sound.tracking.distinct.sublist offers_sublist
  unfold PubSubBus.assertLiveliness
  dsimp only
  split
  case isTrue => exact sound
  case isFalse enabled =>
    have enabled : p.qos.livelinessEnabled = true := by simpa using enabled
    have first : (bus.sweepPublishers (fun q => q.publisherId = p.publisherId) fun q subs =>
        (some (q.assertAt subs now).1, (q.assertAt subs now).2)).Sound counted := by
      apply sound.turnPublishers
      · intro q inside same others subs held
        obtain rfl : q = p := List.inj_on_of_nodup_map distinct inside among (of_decide_eq_true same)
        exact q.assertAt_tracking held enabled
      · exact fun q subs => rfl
    split
    case isTrue => exact first
    case isFalse =>
      refine Sound.turnPublishers first ?_ (fun q subs => rfl)
      intro q _ taken others subs held
      have manual := (Bool.and_eq_true_iff.mp taken).2
      exact q.assertAt_tracking held (enabled_of_manualByNode manual)

theorem monitorLiveliness_id (p : FleetQoxPublisherData) (subs : Subscriptions) (now : Int) :
    (p.monitorLiveliness subs now).1.publisherId = p.publisherId := by
  unfold FleetQoxPublisherData.monitorLiveliness FleetQoxPublisherData.recordLivelinessLost
  dsimp only
  split
  case isTrue => rfl
  case isFalse =>
    split
    case isTrue =>
      split
      case isTrue => rfl
      case isFalse => rfl
    case isFalse => rfl

theorem Sound.monitor (sound : bus.Sound counted) : (bus.monitor now).Sound counted := by
  apply sound.purgeExpired.expireRemoteManual.turnPublishers
  · intro p _ taken others subs held
    have enabled := (Bool.and_eq_true_iff.mp (Bool.and_eq_true_iff.mp taken).1).2
    exact p.monitorLiveliness_tracking held enabled
  · exact fun p subs => monitorLiveliness_id p subs now

theorem Sound.destroyPublisher (sound : bus.Sound counted) (publisherId : Bytes) :
    (bus.destroyPublisher publisherId).Sound counted := by
  apply sound.sweepPublishers
  · intro p _ taken others subs held
    obtain rfl : p.publisherId = publisherId := of_decide_eq_true taken
    apply held.remove
    intro sub counts
    exact (Bool.and_eq_true_iff.mp counts).2
  · intro p subs p' kept
    cases kept

/-! ### What creates an endpoint -/

/-- A new publisher's identity is that of no other. -/
theorem Sound.fresh_publisher (sound : bus.Sound counted) (endpoint : Bytes) :
    allocatePublisherId endpoint bus.nextPublisherId ∉ bus.offers.map Prod.fst := by
  intro among
  obtain ⟨o, inside, same⟩ := List.mem_map.mp among
  rcases List.mem_append.mp inside with here | there
  · obtain ⟨p, inPublishers, offered⟩ := List.mem_flatMap.mp here
    rw [FleetQoxPublisherData.offers, List.mem_singleton] at offered
    rw [offered] at same
    obtain ⟨endpoint', n, less, given⟩ :=
      sound.ids p.publisherId (List.mem_map.mpr ⟨p, inPublishers, rfl⟩)
    have counter := allocatePublisherId_inj (given.symm.trans same)
    omega
  · obtain ⟨e, -, offered⟩ := List.mem_flatMap.mp there
    unfold RemotePubSubEndpoint.offers at offered
    split at offered
    case isTrue =>
      rw [List.mem_singleton.mp offered] at same
      exact remoteLivelinessPublisherId_ne endpoint _ e.2 same
    case isFalse => cases offered

/-- So is that of a publisher of another process whose key is not in use. -/
theorem Sound.fresh_remote (sound : bus.Sound counted) {incoming : RemotePubSubEndpoint}
    (unused : ∀ e ∈ bus.remoteEndpoints,
      e.1 ≠ remotePubsubEndpointKey true incoming.endpointId incoming.domainId) :
    remoteLivelinessPublisherId incoming ∉ bus.offers.map Prod.fst := by
  intro among
  obtain ⟨o, inside, same⟩ := List.mem_map.mp among
  rcases List.mem_append.mp inside with here | there
  · obtain ⟨p, inPublishers, offered⟩ := List.mem_flatMap.mp here
    rw [FleetQoxPublisherData.offers, List.mem_singleton] at offered
    rw [offered] at same
    obtain ⟨endpoint, n, -, given⟩ :=
      sound.ids p.publisherId (List.mem_map.mpr ⟨p, inPublishers, rfl⟩)
    exact remoteLivelinessPublisherId_ne endpoint n incoming (same.symm.trans given)
  · obtain ⟨e, inRemote, offered⟩ := List.mem_flatMap.mp there
    unfold RemotePubSubEndpoint.offers at offered
    split at offered
    case isTrue publishes =>
      rw [List.mem_singleton.mp offered] at same
      apply unused e inRemote
      rw [sound.keys e inRemote, publishes]
      exact remotePubsubEndpointKey_of_id same
    case isFalse => cases offered

/-- A new publisher is told to the subscriptions that it is matched with. -/
theorem Sound.createPublisher (sound : bus.Sound counted) (boundEndpoint : Bytes)
    (config : PubSubConfig) (ownerNode : Nat) (createdNs : Int)
    (room : counted →
      ((bus.createPublisher boundEndpoint config ownerNode createdNs now).offers.length : Int) ≤
        int32Max) :
    (bus.createPublisher boundEndpoint config ownerNode createdNs now).Sound counted := by
  have purged : (bus.purgeExpired now).Sound counted := sound.purgeExpired
  let p := bus.newPublisher boundEndpoint config ownerNode createdNs
  have fresh : p.publisherId ∉ (bus.purgeExpired now).offers.map Prod.fst :=
    purged.fresh_publisher boundEndpoint
  have named : p.publisherId ≠ [] := by
    change allocatePublisherId boundEndpoint bus.nextPublisherId ≠ []
    unfold allocatePublisherId
    exact List.append_ne_nil_of_right_ne_nil _ (decimal_ne_nil _)
  have offered : (p.offers ++ (bus.purgeExpired now).offers).Perm
      (bus.createPublisher boundEndpoint config ownerNode createdNs now).offers := by
    change (p.offers ++ (_ ++ _)).Perm
      ((bus.publishers ++ [p]).flatMap (·.offers) ++ _)
    rw [List.flatMap_append, List.append_assoc, List.flatMap_singleton]
    exact List.perm_append_comm_assoc _ _ _
  have enough : counted → ((bus.purgeExpired now).offers.length : Int) + 1 ≤ int32Max := by
    intro asked
    have few := room asked
    rw [← offered.length_eq] at few
    change ((((bus.purgeExpired now).offers.length + 1 : Nat)) : Int) ≤ _ at few
    omega
  refine ⟨Tracking.perm offered ?_, ?_, purged.keys⟩
  · change Tracking counted _ (p.recordLivelinessForNewPublisher (bus.purgeExpired now).subscriptions)
    unfold FleetQoxPublisherData.recordLivelinessForNewPublisher
    split
    case isTrue off =>
      have disabled : p.qos.livelinessEnabled = false := by simpa using off
      apply purged.tracking.add_idle named fresh enough
      intro config
      rw [Offer.counts, disabled, Bool.false_and]
    case isFalse on =>
      have enabled : p.qos.livelinessEnabled = true := by simpa using on
      exact purged.tracking.add named fresh enough fun sub =>
        (counts_of_enabled enabled sub.toPubSubConfig).symm
  · intro id among
    change id ∈ (bus.publishers ++ [p]).map (·.publisherId) at among
    rw [List.map_append, List.mem_append] at among
    rcases among with before | new
    · obtain ⟨endpoint, n, less, given⟩ := sound.ids id before
      exact ⟨endpoint, n, Nat.lt_succ_of_lt less, given⟩
    · exact ⟨boundEndpoint, bus.nextPublisherId, Nat.lt_succ_self _, List.mem_singleton.mp new⟩

theorem Sound.discoverRemote (sound : bus.Sound counted) {incoming : RemotePubSubEndpoint}
    {key : Bytes}
    (isKey : key = remotePubsubEndpointKey incoming.publisher incoming.endpointId incoming.domainId)
    (unused : ∀ e ∈ bus.remoteEndpoints, e.1 ≠ key)
    (room : counted → ((bus.discoverRemote key incoming).offers.length : Int) ≤ int32Max) :
    (bus.discoverRemote key incoming).Sound counted := by
  have absent : bus.remoteEndpoints.get? key = none := by
    rw [Option.eq_none_iff_forall_not_mem]
    intro e found
    exact unused (key, e) (Dict.mem_of_get? found) rfl
  have added : bus.remoteEndpoints.set key incoming = bus.remoteEndpoints ++ [(key, incoming)] :=
    Dict.set_of_absent absent
  have offered : (incoming.offers ++ bus.offers).Perm (bus.discoverRemote key incoming).offers := by
    change (incoming.offers ++ bus.offers).Perm (bus.publishers.flatMap (·.offers) ++
      (bus.remoteEndpoints.set key incoming).flatMap (·.2.offers))
    rw [added, List.flatMap_append, List.flatMap_singleton, ← List.append_assoc]
    exact List.perm_append_comm
  refine ⟨Tracking.perm offered (incoming.recordDiscovered_tracking sound.tracking ?_ ?_),
    sound.ids, ?_⟩
  · intro isPublisher
    apply sound.fresh_remote
    rwa [isKey, isPublisher] at unused
  · intro asked
    rw [offered.length_eq]
    exact room asked
  · intro e among
    change e ∈ bus.remoteEndpoints.set key incoming at among
    rw [added] at among
    rcases List.mem_append.mp among with before | new
    · exact sound.keys e before
    · rw [List.mem_singleton.mp new]
      exact isKey

/-- What an advertisement can do to the process. -/
theorem applyRemoteAdvertisement_cases (bus : PubSubBus) (advertisement : GraphAdvertisement)
    (qos : RmwQosProfile) (now : Int) :
    let aged := (bus.purgeExpired now).expireRemoteManual now
    let incoming := incomingEndpoint advertisement qos now
    let key := remotePubsubEndpointKey incoming.publisher incoming.endpointId incoming.domainId
    let after := bus.applyRemoteAdvertisement advertisement qos now
    after = bus ∨ after = aged.removeRemote key ∨
      (∃ found isLivelinessAssert,
        after = aged.renewRemote key found incoming.expiresAtNs isLivelinessAssert now) ∨
      after = (aged.removeRemote key).discoverRemote key incoming ∨
      aged.remoteEndpoints.get? key = none ∧ after = aged.discoverRemote key incoming := by
  intro aged incoming key after
  simp only [after, applyRemoteAdvertisement]
  split
  case isTrue => exact .inl rfl
  case isFalse =>
    split
    case isTrue => exact .inl rfl
    case isFalse =>
      split
      case isTrue => exact .inl rfl
      case isFalse =>
        right
        split
        case isTrue => exact .inl rfl
        case isFalse =>
          right
          split
          case h_1 found isFound =>
            split
            case isTrue => exact .inl ⟨found, _, rfl⟩
            case isFalse => exact .inr (.inl rfl)
          case h_2 isNone => exact .inr (.inr ⟨isNone, rfl⟩)

theorem Sound.applyRemoteAdvertisement (sound : bus.Sound counted)
    (advertisement : GraphAdvertisement) (qos : RmwQosProfile)
    (room : counted →
      ((bus.applyRemoteAdvertisement advertisement qos now).offers.length : Int) ≤ int32Max) :
    (bus.applyRemoteAdvertisement advertisement qos now).Sound counted := by
  have aged : ((bus.purgeExpired now).expireRemoteManual now).Sound counted :=
    sound.purgeExpired.expireRemoteManual
  rcases bus.applyRemoteAdvertisement_cases advertisement qos now with
    same | removed | ⟨found, isLivelinessAssert, renewed⟩ | replaced | ⟨isNone, discovered⟩
  · rw [same]
    exact sound
  · rw [removed]
    exact aged.removeRemote _
  · rw [renewed]
    exact aged.renewRemote _ found _ isLivelinessAssert
  · rw [replaced] at room ⊢
    apply (aged.removeRemote _).discoverRemote rfl ?_ room
    intro e among same
    have other := sweepWhere_of_drops (fun _ _ _ => rfl) _ _ e among
    exact of_decide_eq_false other same
  · rw [discovered] at room ⊢
    apply aged.discoverRemote rfl ?_ room
    intro e among same
    have present := Dict.isSome_get?_of_mem among
    rw [same, isNone] at present
    cases present

/-! ### A new subscription -/

/-- A loop over publishers that records each one for a subscription. -/
theorem tracks_foldl {α : Type} {parts : α → List (Bytes × Offer)}
    {turn : FleetQoxSubscriptionData → α → FleetQoxSubscriptionData}
    (each : ∀ a sub done, ((parts a ++ done).map Prod.fst).Nodup →
      [] ∉ (parts a).map Prod.fst → (counted → ((parts a ++ done).length : Int) ≤ int32Max) →
      Informed counted done sub → Informed counted (parts a ++ done) (turn sub a))
    {as : List α} {done : List (Bytes × Offer)} {sub : FleetQoxSubscriptionData}
    (distinct : ((as.flatMap parts ++ done).map Prod.fst).Nodup)
    (named : [] ∉ (as.flatMap parts ++ done).map Prod.fst)
    (room : counted → ((as.flatMap parts ++ done).length : Int) ≤ int32Max)
    (tracks : Informed counted done sub) :
    Informed counted (as.flatMap parts ++ done) (as.foldl turn sub) := by
  induction as generalizing done sub with
  | nil => exact tracks
  | cons a as ih =>
      have moved : ((a :: as).flatMap parts ++ done).Perm (as.flatMap parts ++ (parts a ++ done)) := by
        rw [List.flatMap_cons, List.append_assoc]
        exact List.perm_append_comm_assoc _ _ _
      have distinct' := (moved.map Prod.fst).nodup_iff.mp distinct
      have named' : [] ∉ (as.flatMap parts ++ (parts a ++ done)).map Prod.fst := fun among =>
        named ((moved.map Prod.fst).mem_iff.mpr among)
      have room' : counted → ((as.flatMap parts ++ (parts a ++ done)).length : Int) ≤ int32Max :=
        fun asked => moved.length_eq ▸ room asked
      have first : Informed counted (parts a ++ done) (turn sub a) := by
        apply each a sub done
        · rw [List.map_append] at distinct'
          exact (List.nodup_append.mp distinct').2.1
        · intro among
          apply named'
          rw [List.map_append, List.map_append]
          exact List.mem_append_right _ (List.mem_append_left _ among)
        · intro asked
          have few := room' asked
          rw [List.length_append] at few
          omega
        · exact tracks
      exact (ih distinct' named' room' first).congr fun _ _ => offered_perm moved.symm

theorem tracks_cons {done : List (Bytes × Offer)} {sub : FleetQoxSubscriptionData} {id : Bytes}
    {o : Offer} (distinct : (((id, o) :: done).map Prod.fst).Nodup)
    (named : [] ∉ [(id, o)].map Prod.fst)
    (room : counted → (((id, o) :: done).length : Int) ≤ int32Max)
    (tracks : Informed counted done sub) :
    Informed counted ((id, o) :: done)
      (if o.counts sub.toPubSubConfig then sub.recordLivelinessChange id o.livelinessAlive
        else sub) := by
  obtain ⟨fresh, -⟩ := List.nodup_cons.mp distinct
  apply tracks.record _ fresh room (fun _ _ _ => Iff.rfl)
  · exact fun _ _ offered => fresh offered.mem_ids
  · intro empty
    exact named (List.mem_singleton.mpr empty.symm)

/-- A subscription that knows nothing yet is told of everything. -/
theorem tracks_recordLivelinessForNewSubscription {sub : FleetQoxSubscriptionData}
    (tracking : Tracking counted bus.offers bus.subscriptions)
    (roll : sub.livelinessPublishers = {}) (change : ∀ b, sub.countChange b = 0)
    (atReset : ∀ b, sub.sizeAtReset b = 0) :
    Informed counted bus.offers (bus.recordLivelinessForNewSubscription sub) := by
  have empty : Informed counted [] sub := by
    constructor
    · intro id b
      rw [roll]
      refine iff_of_false Roll.notMem_side_empty fun offered => ?_
      cases offered.mem_ids
    · intro _ b
      have size : sub.size b = 0 := by
        unfold FleetQoxSubscriptionData.size
        rw [roll]
        cases b with
        | true => rfl
        | false => rfl
      rw [atReset, change, size]
      exact ⟨by decide, rfl⟩
  have moved : bus.offers.Perm (bus.remoteEndpoints.flatMap (·.2.offers) ++
      (bus.publishers.flatMap (·.offers) ++ [])) := by
    rw [List.append_nil]
    exact List.perm_append_comm
  have all := Tracking.perm moved tracking
  have locals : Informed counted (bus.publishers.flatMap (·.offers) ++ [])
      (bus.publishers.foldl (fun sub publisher =>
        if publisher.qos.livelinessEnabled && localPubsubMatchCompatible publisher sub then
          sub.recordLivelinessChange publisher.publisherId publisher.livelinessAlive
        else sub) sub) := by
    have distinct := all.distinct
    have named := all.named
    have room := all.room
    rw [List.map_append] at distinct named
    rw [List.length_append] at room
    refine tracks_foldl ?_ (List.nodup_append.mp distinct).2.1
      (fun among => named (List.mem_append_right _ among)) (fun asked => ?_) empty
    · exact fun p sub done distinct named room tracks => tracks_cons distinct named room tracks
    · have few := room asked
      omega
  refine Informed.congr (tracks_foldl ?_ all.distinct all.named all.room locals)
    fun _ _ => offered_perm moved.symm
  intro e sub done distinct named room tracks
  cases isPublisher : e.2.publisher with
  | false =>
      rw [RemotePubSubEndpoint.offers_of_subscription isPublisher]
      unfold remotePublisherMatchCompatible
      rw [isPublisher, Bool.false_and, Bool.and_false]
      exact tracks
  | true =>
      rw [RemotePubSubEndpoint.offers_of_publisher isPublisher] at distinct named room ⊢
      unfold remotePublisherMatchCompatible
      rw [isPublisher, Bool.true_and]
      exact tracks_cons distinct named room tracks

theorem Sound.createSubscription (sound : bus.Sound counted) (boundEndpoint : Bytes)
    (config : PubSubConfig) : (bus.createSubscription boundEndpoint config now).Sound counted := by
  have purged : (bus.purgeExpired now).Sound counted := sound.purgeExpired
  refine ⟨⟨purged.tracking.distinct, purged.tracking.named, purged.tracking.room, ?_⟩,
    purged.ids, purged.keys⟩
  intro sub among
  rcases List.mem_append.mp among with before | new
  · exact purged.tracking.tracks sub before
  · rw [List.mem_singleton.mp new]
    apply tracks_recordLivelinessForNewSubscription purged.tracking rfl
    · intro b
      cases b with
      | true => rfl
      | false => rfl
    · intro b
      cases b with
      | true => rfl
      | false => rfl

/-! ### Any step -/

theorem Sound.receiveAdvertisement (sound : bus.Sound counted) (advertisement : GraphAdvertisement)
    (room : counted →
      ((bus.receiveAdvertisement advertisement now).offers.length : Int) ≤ int32Max) :
    (bus.receiveAdvertisement advertisement now).Sound counted := by
  unfold PubSubBus.receiveAdvertisement at room ⊢
  dsimp only at room ⊢
  split
  case isTrue => exact sound
  case isFalse goesOn =>
    rw [if_neg goesOn] at room
    exact sound.applyRemoteAdvertisement advertisement _ room

/-- When the application asks, the counts start anew. -/
theorem Sound.takeLivelinessChanged (sound : bus.Sound counted) (subscriptionId : Bytes) :
    ({ bus with
      subscriptions := Subscriptions.forMatching bus.subscriptions
        (·.subscriptionId = subscriptionId) (·.takeLivelinessChanged) } : PubSubBus).Sound
      counted := by
  refine ⟨⟨sound.tracking.distinct, sound.tracking.named, sound.tracking.room, ?_⟩, sound.ids,
    sound.keys⟩
  apply Tracking.forMatching
  intro sub among
  have tracks := sound.tracking.tracks sub among
  split
  case isFalse => exact tracks
  case isTrue =>
    refine ⟨tracks.shows, ?_⟩
    intro asked b
    have le := tracks.size_le b
    have few := sound.tracking.room asked
    have atReset : sub.takeLivelinessChanged.sizeAtReset b = sub.size b := by
      cases b with
      | true => rfl
      | false => rfl
    have zero : sub.takeLivelinessChanged.countChange b = 0 := by
      cases b with
      | true => rfl
      | false => rfl
    have size : sub.takeLivelinessChanged.size b = sub.size b := rfl
    rw [atReset, zero, size]
    omega

theorem Sound.step {event : PubSubEvent} {bus' : PubSubBus} (sound : bus.Sound counted)
    (room : counted → (bus'.offers.length : Int) ≤ int32Max) (taken : bus.step event = some bus') :
    bus'.Sound counted := by
  cases event with
  | createPublisher boundEndpoint config ownerNode createdNs now =>
      obtain rfl := Option.some.inj taken
      exact sound.createPublisher boundEndpoint config ownerNode createdNs room
  | createSubscription boundEndpoint config now =>
      obtain rfl := Option.some.inj taken
      exact sound.createSubscription boundEndpoint config
  | destroyPublisher publisherId =>
      simp only [PubSubBus.step] at taken
      split at taken
      case isTrue =>
        obtain rfl := Option.some.inj taken
        exact sound.destroyPublisher publisherId
      case isFalse => cases taken
  | destroySubscription subscriptionId =>
      simp only [PubSubBus.step] at taken
      split at taken
      case isTrue =>
        obtain rfl := Option.some.inj taken
        refine ⟨⟨sound.tracking.distinct, sound.tracking.named, sound.tracking.room, ?_⟩,
          sound.ids, sound.keys⟩
        exact fun sub among => sound.tracking.tracks sub (List.mem_of_mem_filter among)
      case isFalse => cases taken
  | assertLiveliness publisherId now =>
      obtain ⟨p, isFound, rfl⟩ := Option.map_eq_some_iff.mp taken
      exact sound.assertLiveliness (List.mem_of_find?_eq_some isFound)
  | receiveAdvertisement advertisement now =>
      obtain rfl := Option.some.inj taken
      exact sound.receiveAdvertisement advertisement room
  | monitor now =>
      obtain rfl := Option.some.inj taken
      exact sound.monitor
  | takeLivelinessChanged subscriptionId =>
      simp only [PubSubBus.step] at taken
      split at taken
      case isTrue =>
        obtain rfl := Option.some.inj taken
        exact sound.takeLivelinessChanged subscriptionId
      case isFalse => cases taken

/-! ## Runs -/

/-- After the step the process knows of no more publishers than a count can hold. -/
def FewPublishers (bus : PubSubBus) (event : PubSubEvent) : Prop :=
  match bus.step event with
  | some bus' => (bus'.offers.length : Int) ≤ int32Max
  | none => True

instance (bus : PubSubBus) (event : PubSubEvent) : Decidable (bus.FewPublishers event) :=
  match h : bus.step event with
  | some bus' => decidable_of_iff ((bus'.offers.length : Int) ≤ int32Max) (by
      simp only [FewPublishers, h])
  | none => isTrue (by simp only [FewPublishers, h])

theorem sound_start : ({} : PubSubBus).Sound counted where
  tracking := ⟨List.nodup_nil, List.not_mem_nil, fun _ => by decide, fun _ among => by cases among⟩
  ids _ among := by cases among
  keys _ among := by cases among

/-- In every run each subscription lists just the publishers that it is matched with and whose
    liveliness is looked at, each by its flag. While the process knows of no more than `2 ^ 31 - 1`
    publishers, the counts are what the sets have changed by. -/
theorem subscriptions_track_publishers {es : List PubSubEvent} {bus : PubSubBus}
    (h : run PubSubBus.step {} es = some bus) :
    (∀ sub ∈ bus.subscriptions,
      Disjoint sub.livelinessPublishers.present sub.livelinessPublishers.absent ∧
        ∀ id, (id ∈ sub.livelinessPublishers.present ↔
            Offered bus.offers sub.toPubSubConfig id true) ∧
          (id ∈ sub.livelinessPublishers.absent ↔
            Offered bus.offers sub.toPubSubConfig id false)) ∧
      (RunMeets PubSubBus.step FewPublishers {} es → ∀ sub ∈ bus.subscriptions,
        sub.livelinessAliveCountChange.toInt =
            sub.livelinessPublishers.present.card - sub.aliveAtReset ∧
          sub.livelinessNotAliveCountChange.toInt =
            sub.livelinessPublishers.absent.card - sub.notAliveAtReset) := by
  constructor
  · have sound : bus.Sound False :=
      run_preserves (fun sound taken => Sound.step sound (fun asked => asked.elim) taken)
        sound_start h
    intro sub among
    have shows := (sound.tracking.tracks sub among).shows
    refine ⟨shows.disjoint fun _ isAlive => isAlive.single sound.tracking.distinct, ?_⟩
    exact fun id => ⟨shows id true, shows id false⟩
  · intro few
    have sound : bus.Sound True := by
      refine run_invariant (I := fun bus => bus.Sound True) ?_ sound_start few h
      intro before event after held fits taken
      apply held.step ?_ taken
      unfold FewPublishers at fits
      rw [taken] at fits
      exact fun _ => fits
    intro sub among
    have exact_ := (sound.tracking.tracks sub among).counts trivial
    exact ⟨(exact_ true).2, (exact_ false).2⟩

/-- A publisher of this process and one of another process whose lease runs out: one is alive and
    one is not. -/
theorem subscriptions_track_publishers_lease :
    let advertisement : GraphAdvertisement := {
      endpointId := octets "r", action := octets "add", entityKind := octets "publisher"
      nodeName := [], nodeNamespace := [], topic := octets "t", typeName := octets "T"
      endpointGid := [], leaseMs := 0, domainId := 0, typeHashHex := [], partitionsCsv := []
      incarnationId := 0, graphVersion := 0
      qos := { liveliness := 3, livelinessLeaseDurationNsec := 1000 } }
    let config : PubSubConfig := { topicName := octets "t", typeName := octets "T" }
    let es : List PubSubEvent := [.createSubscription [] config 1, .createPublisher [] config 7 2 2,
      .receiveAdvertisement advertisement 3, .monitor 2000]
    ∃ bus sub, run PubSubBus.step {} es = some bus ∧ bus.subscriptions = [sub] ∧
      octets "fpubcpp--1" ∈ sub.livelinessPublishers.present ∧
      octets "remote-endpoint:0:r" ∈ sub.livelinessPublishers.absent ∧
      sub.livelinessPublishers.absent.card = 1 := by
  intro advertisement config es
  have facts : (run PubSubBus.step {} es).map (fun bus => bus.subscriptions.map fun sub =>
      (decide (Offered bus.offers sub.toPubSubConfig (octets "fpubcpp--1") true),
        decide (Offered bus.offers sub.toPubSubConfig (octets "remote-endpoint:0:r") false),
        sub.livelinessNotAliveCountChange.toInt, sub.notAliveAtReset)) =
      some [(true, true, 1, 0)] := by decide
  obtain ⟨bus, h, listed⟩ := Option.map_eq_some_iff.mp facts
  obtain ⟨sub, only, known⟩ := List.map_eq_singleton_iff.mp listed
  obtain ⟨isAlive, rest⟩ := Prod.mk.inj known
  obtain ⟨isNotAlive, rest⟩ := Prod.mk.inj rest
  obtain ⟨change, atReset⟩ := Prod.mk.inj rest
  have among : sub ∈ bus.subscriptions := only ▸ List.mem_singleton_self sub
  have few : RunMeets PubSubBus.step FewPublishers {} es := by decide
  have rolls := ((subscriptions_track_publishers h).1 sub among).2
  have counts := ((subscriptions_track_publishers h).2 few sub among).2
  refine ⟨bus, sub, h, only, ?_, ?_, ?_⟩
  · exact (rolls _).1.mpr (of_decide_eq_true isAlive)
  · exact (rolls _).2.mpr (of_decide_eq_true isNotAlive)
  · rw [change, atReset] at counts
    omega

/-! ### Too many publishers -/

/-- A subscription and nothing but publishers that it is matched with. -/
structure Crowd (n : Nat) (bus : PubSubBus) : Prop where
  sound : bus.Sound False
  remotes : bus.remoteEndpoints = []
  many : bus.publishers.length = n
  alike : ∀ p ∈ bus.publishers, p.toOffer = { livelinessAlive := true }
  single : ∃ sub, bus.subscriptions = [sub] ∧ sub.toPubSubConfig = {} ∧ sub.aliveAtReset = 0

variable {n : Nat}

theorem Crowd.join (crowd : Crowd n bus) : Crowd (n + 1) (bus.createPublisher [] {} 0 0 0) := by
  obtain ⟨sub, only, config, atReset⟩ := crowd.single
  have purged : bus.purgeExpired 0 = bus := by
    have none_ := crowd.remotes
    cases bus
    cases none_
    rfl
  let p := bus.newPublisher [] {} 0 0
  refine ⟨crowd.sound.createPublisher [] {} 0 0 (fun asked => asked.elim), ?_, ?_, ?_, ?_⟩
  · change (bus.purgeExpired 0).remoteEndpoints = []
    rw [purged]
    exact crowd.remotes
  · change (bus.publishers ++ [p]).length = n + 1
    rw [List.length_append, crowd.many, List.length_singleton]
  · intro q among
    change q ∈ bus.publishers ++ [p] at among
    rcases List.mem_append.mp among with before | new
    · exact crowd.alike q before
    · rw [List.mem_singleton.mp new]
      rfl
  · have matched : localPubsubMatchCompatible p sub = true := by
      unfold localPubsubMatchCompatible
      rw [config]
      rfl
    have told : (bus.createPublisher [] {} 0 0 0).subscriptions =
        [sub.recordLivelinessChange p.publisherId true] := by
      change p.notify (bus.purgeExpired 0).subscriptions = _
      rw [purged, only]
      exact congrArg (· :: []) (if_pos matched)
    have named : p.publisherId ≠ [] :=
      List.append_ne_nil_of_right_ne_nil _ (decimal_ne_nil bus.nextPublisherId)
    obtain ⟨-, moved⟩ := recordLivelinessChange_moved sub true named
    exact ⟨_, told, moved.config.trans config, (moved.atReset true).trans atReset⟩

theorem crowd_gathers (n : Nat) : ∃ bus, Crowd n bus ∧ run PubSubBus.step {}
    (.createSubscription [] {} 0 :: List.replicate n (.createPublisher [] {} 0 0 0)) = some bus := by
  induction n with
  | zero =>
      refine ⟨_, ?_, rfl⟩
      refine ⟨sound_start.createSubscription [] {}, rfl, rfl, ?_, ⟨_, rfl, rfl, rfl⟩⟩
      intro p among
      cases among
  | succ n ih =>
      obtain ⟨bus, crowd, h⟩ := ih
      refine ⟨_, crowd.join, ?_⟩
      rw [List.replicate_succ', ← List.cons_append]
      exact run_concat h rfl

/-- All of the crowd are listed as alive. -/
theorem Crowd.size (crowd : Crowd n bus) {sub : FleetQoxSubscriptionData}
    (only : bus.subscriptions = [sub]) (config : sub.toPubSubConfig = {}) :
    sub.livelinessPublishers.present.card = n := by
  have tracking := crowd.sound.tracking
  have shows := (tracking.tracks sub (only ▸ List.mem_singleton_self sub)).shows
  have offers : bus.offers = bus.publishers.map fun p => (p.publisherId, p.toOffer) := by
    unfold PubSubBus.offers
    rw [crowd.remotes, List.flatMap_nil, List.append_nil]
    exact List.flatMap_pure_eq_map _ _
  have all : sub.livelinessPublishers.present = (bus.offers.map Prod.fst).toFinset := by
    ext id
    rw [List.mem_toFinset]
    constructor
    · exact fun isListed => ((shows id true).mp isListed).mem_ids
    · intro among
      obtain ⟨o, inside, rfl⟩ := List.mem_map.mp among
      apply (shows o.1 true).mpr
      have alike : o.2 = { livelinessAlive := true } := by
        rw [offers] at inside
        obtain ⟨p, isPublisher, rfl⟩ := List.mem_map.mp inside
        exact crowd.alike p isPublisher
      refine ⟨o.2, inside, ?_, ?_⟩
      · rw [alike, config]
        rfl
      · rw [alike]
  rw [all, List.toFinset_card_of_nodup tracking.distinct, List.length_map, offers, List.length_map,
    crowd.many]

/-- A subscription that is matched with `2 ^ 31` publishers counts one less. -/
theorem alive_count_falls_short :
    ∃ bus sub, run PubSubBus.step {} (.createSubscription [] {} 0 ::
        List.replicate (2 ^ 31) (.createPublisher [] {} 0 0 0)) = some bus ∧
      sub ∈ bus.subscriptions ∧ sub.livelinessPublishers.present.card = 2 ^ 31 ∧
      sub.livelinessAliveCountChange.toInt ≠
        sub.livelinessPublishers.present.card - sub.aliveAtReset := by
  obtain ⟨bus, crowd, h⟩ := crowd_gathers (2 ^ 31)
  obtain ⟨sub, only, config, atReset⟩ := crowd.single
  have size := crowd.size only config
  refine ⟨bus, sub, h, only ▸ List.mem_singleton_self sub, size, ?_⟩
  have high := sub.livelinessAliveCountChange.toInt_lt
  rw [size, atReset]
  intro same
  rw [same] at high
  norm_num at high

end PubSubBus

end FleetRMW.Rmw
