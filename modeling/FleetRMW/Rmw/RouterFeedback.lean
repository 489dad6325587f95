import FleetRMW.Lib.Run
import FleetRMW.Rmw.Compact
import FleetRMW.Rmw.Router

/-! # Feedback through the router

Acknowledgements find the publishers whose data frames the router has seen whole. Fragments teach
it nothing, and a request to repair a fragment follows the route of the data: to the subscribers.
-/

namespace FleetRMW.Rmw

open Lib

/-! ## Targets -/

theorem mem_appendUniquePeers {peers candidates : List SockaddrIn} {address : SockaddrIn} :
    address ∈ appendUniquePeers peers candidates ↔ address ∈ peers ∨ address ∈ candidates := by
  unfold appendUniquePeers
  induction candidates generalizing peers with
  | nil => simp only [List.foldl_nil, List.not_mem_nil, or_false]
  | cons candidate candidates ih =>
      rw [List.foldl_cons, ih, appendUniquePeer]
      split
      · next known =>
          constructor
          · rintro (among | among)
            · exact .inl among
            · exact .inr (List.mem_cons_of_mem _ among)
          · rintro (among | among)
            · exact .inl among
            · cases List.mem_cons.mp among with
              | inl same => exact .inl (same ▸ known)
              | inr later => exact .inr later
      · rw [List.mem_append, List.mem_singleton, List.mem_cons, or_assoc]

theorem mem_sentTo {targets : List SockaddrIn} {source address : SockaddrIn}
    (other : address ≠ source) : address ∈ sentTo targets source ↔ address ∈ targets := by
  simp only [sentTo, List.mem_filter, decide_eq_true_eq, other, ne_eq, not_false_eq_true, and_true]

/-! ## Who publishes -/

/-- An address from which a publisher sends. -/
structure PublisherSource where
  domainId : UInt64
  publisherId : Bytes
  address : SockaddrIn
  deriving Repr, DecidableEq

def PublisherRoute.source (route : PublisherRoute) : PublisherSource :=
  ⟨route.domainId, route.publisherId, route.address⟩

namespace Router

/-- The publisher of the whole data frame that arrives, if one does. -/
def Turn.learned : Turn → Option PublisherSource
  | .receives _ receipt => match decodeDatagram receipt.payload with
    | .ok (.dataFrame frame) => some ⟨frame.domainId, frame.publisherId, receipt.sourceAddress⟩
    | _ => none
  | _ => none

/-- The last whole data frame of the publisher from its address arrived in a turn after which none
    has begun five seconds later or more, the one that begins now included. -/
def HeardWithin (past : List Turn) (now : Int) (source : PublisherSource) : Prop :=
  ∃ before last after, past = before ++ last :: after ∧ last.learned = some source ∧
    (∀ later ∈ after, later.learned ≠ some source ∧ later.now < last.now + 5000000000) ∧
    now < last.now + 5000000000

variable {A : Type} {config : RouterConfig} {policy : HoldbackPolicy A} {r r' : Router A}
  {t : Turn} {outputs : List RouterOutput}

/-- A turn without what it sends. -/
def step (config : RouterConfig) (policy : HoldbackPolicy A) (r : Router A) (t : Turn) :
    Option (Router A) :=
  (r.turn config policy t).map Prod.snd

theorem turn_of_step (h : r.step config policy t = some r') :
    ∃ outputs, r.turn config policy t = some (outputs, r') := by
  obtain ⟨⟨outputs, after⟩, taken, same⟩ := Option.map_eq_some_iff.mp h
  exact ⟨outputs, same ▸ taken⟩

/-- The publishers' table holds what the past turns have taught it. -/
structure Knows (r : Router A) (past : List Turn) : Prop where
  distinct : (r.publisherRouteTable.map PublisherRoute.source).Nodup
  holds : ∀ source, expiry? PublisherRoute.source PublisherRoute.expiresAt r.publisherRouteTable
    source = leased 5000000000 source (past.map fun t => (t.now, t.learned))

/-! ## What a turn does -/

theorem admitFragment_cases (policy : HoldbackPolicy A) (r : Router A) (payload id : Bytes) :
    ∃ allowed state decisions, r.admitFragment policy payload id = (allowed, { r with
      schedulerAdmissionState := state
      fragmentAdmissionDecisions := decisions }) := by
  have unidentified : ∃ allowed state decisions,
      admitFragment.admitUnidentified policy r payload id = (allowed, { r with
        schedulerAdmissionState := state
        fragmentAdmissionDecisions := decisions }) := by
    unfold admitFragment.admitUnidentified
    split
    · exact ⟨_, _, _, rfl⟩
    · exact ⟨_, _, _, rfl⟩
  unfold admitFragment
  split
  · split
    · split
      · exact ⟨_, _, _, rfl⟩
      · exact ⟨_, _, _, rfl⟩
    · exact unidentified
  · exact unidentified

theorem countFragment_cases (r : Router A) (route : Option FragmentRoute) :
    ∃ received counted, r.countFragment route = { r with
      received, fragmentIdsCountedAsReceived := counted } := by
  unfold countFragment
  split
  · split
    · exact ⟨_, _, rfl⟩
    · exact ⟨_, _, rfl⟩
  · exact ⟨_, _, rfl⟩

/-- A fragment is forwarded at once, or it is held back. -/
theorem receiveFragment_cases (config : RouterConfig) (policy : HoldbackPolicy A) (r : Router A)
    (receipt : Receipt) : ∃ received counted telemetry state decisions,
      let counting := { r with
        received
        fragmentIdsCountedAsReceived := counted
        fragmentIdsCountedForSchedulerTelemetry := telemetry
        schedulerAdmissionState := state
        fragmentAdmissionDecisions := decisions }
      r.receiveFragment config policy receipt =
        ([r.forwardFragmentDatagram config receipt.payload receipt.sourceAddress], counting) ∨
      ∃ counts topic, r.receiveFragment config policy receipt = ([], { counting with
        queuedFragmentDatagrams := r.queuedFragmentDatagrams ++ [{
          encodedFrame := receipt.payload
          sourceAddress := receipt.sourceAddress
          enqueuedAt := receipt.enqueuedAt
          order := r.nextQueueOrder
          countsAsForwardedMessage := counts
          topic }]
        nextQueueOrder := r.nextQueueOrder + 1 }) := by
  obtain ⟨received, counted, counts⟩ := countFragment_cases r (tryParseFragmentRoute receipt.payload)
  unfold receiveFragment
  dsimp only
  rw [counts]
  obtain ⟨allowed, state, decisions, admits⟩ := admitFragment_cases policy { r with
    received, fragmentIdsCountedAsReceived := counted } receipt.payload
    (((tryParseFragmentRoute receipt.payload).map FragmentRoute.fragmentId).getD [])
  rw [admits]
  split
  · cases allowed with
    | true => exact ⟨_, _, _, _, _, .inr ⟨_, _, rfl⟩⟩
    | false => exact ⟨_, _, _, _, _, .inl rfl⟩
  · exact ⟨_, _, _, _, _, .inl rfl⟩

/-- A data frame is forwarded at once, or it is held back. -/
theorem scheduleDataFrame_cases (config : RouterConfig) (policy : HoldbackPolicy A) (r : Router A)
    (receipt : Receipt) (received : ReceivedFrame) : ∃ state,
      (∃ order, r.nextQueueOrder ≤ order ∧ r.scheduleDataFrame config policy receipt received =
        ([r.forwardDataFrame config received], { r with
          schedulerAdmissionState := state
          nextQueueOrder := order })) ∨
      ∃ queued : QueuedDataFrame, queued.toReceivedFrame = received ∧
        queued.order = r.nextQueueOrder ∧
        r.scheduleDataFrame config policy receipt received = ([], { r with
          schedulerAdmissionState := state
          nextQueueOrder := r.nextQueueOrder + 1
          queuedDataFrames := r.queuedDataFrames ++ [queued] }) := by
  unfold scheduleDataFrame
  dsimp only
  split
  · split
    · exact ⟨_, .inl ⟨_, Nat.le_succ _, rfl⟩⟩
    · split
      · exact ⟨_, .inl ⟨_, Nat.le_succ _, rfl⟩⟩
      · exact ⟨_, .inr ⟨_, rfl, rfl, rfl⟩⟩
  · exact ⟨_, .inl ⟨_, Nat.le_refl _, rfl⟩⟩

/-- Only a data frame teaches the router a publisher. -/
theorem receiveDatagram_publisherRouteTable (config : RouterConfig) (policy : HoldbackPolicy A)
    (r : Router A) (now : Int) (receipt : Receipt) (datagram : Datagram) :
    (r.receiveDatagram config policy now receipt datagram).2.publisherRouteTable =
      match datagram with
      | .dataFrame frame => (r.learnPublisherRoute now
          ⟨receipt.payload, frame, receipt.sourceAddress⟩).publisherRouteTable
      | _ => r.publisherRouteTable := by
  unfold receiveDatagram
  cases datagram with
  | fragment =>
      obtain ⟨_, _, _, _, _, now_ | ⟨_, _, held⟩⟩ := receiveFragment_cases config policy r receipt
      · simp only [now_]
      · simp only [held]
  | routeAdvertisement advertisement =>
      dsimp only [learnTopicRoute]
      split <;> rfl
  | graphAdvertisement advertisement =>
      dsimp only [learnActionRoute, learnServiceRoute, learnTopicQos]
      repeat' split
      all_goals rfl
  | dataFrame frame =>
      dsimp only [receiveDataFrame]
      split
      · rfl
      · split
        · rfl
        · obtain ⟨state, ⟨_, _, sent⟩ | ⟨_, _, _, held⟩⟩ := scheduleDataFrame_cases config policy
            ({ r with received := r.received + 1 }.learnPublisherRoute now
              ⟨receipt.payload, frame, receipt.sourceAddress⟩) receipt
            ⟨receipt.payload, frame, receipt.sourceAddress⟩
          · rw [sent]
            rfl
          · rw [held]
            rfl
  | _ => rfl

theorem turn_receives {now : Int} {receipt : Receipt}
    (h : r.turn config policy (.receives now receipt) = some (outputs, r')) :
    (r.purgeExpired now).flushDue config now = false ∧
      ∃ datagram, decodeDatagram receipt.payload = .ok datagram ∧
        (r.purgeExpired now).receiveDatagram config policy now receipt datagram = (outputs, r') := by
  unfold turn at h
  dsimp only [Turn.now] at h
  split at h
  · cases h
  · next idle =>
      split at h
      · next datagram decoded =>
          exact ⟨Bool.not_eq_true _ ▸ idle, datagram, decoded, Option.some.inj h⟩
      · cases h

variable (policy) in
theorem turn_of_datagram {now : Int} (receipt : Receipt) {datagram : Datagram}
    (idle : (r.purgeExpired now).flushDue config now = false)
    (decoded : decodeDatagram receipt.payload = .ok datagram) :
    r.turn config policy (.receives now receipt) =
      some ((r.purgeExpired now).receiveDatagram config policy now receipt datagram) := by
  unfold turn
  dsimp only [Turn.now]
  rw [idle, decoded]
  rfl

theorem turn_flushes {now : Int}
    (h : r.turn config policy (.flushes now) = some (outputs, r')) :
    (r.purgeExpired now).flush config = (outputs, r') := by
  unfold turn at h
  dsimp only [Turn.now] at h
  split at h
  · exact Option.some.inj h
  · cases h

theorem turn_idles {now : Int}
    (h : r.turn config policy (.idles now) = some (outputs, r')) :
    outputs = [] ∧ r' = r.purgeExpired now := by
  unfold turn at h
  dsimp only [Turn.now] at h
  split at h
  · cases h
  · obtain ⟨rfl, rfl⟩ := Prod.mk.inj (Option.some.inj h)
    exact ⟨rfl, rfl⟩

/-- A turn purges the publishers' table, and a whole data frame is learned. -/
theorem turn_publisherRouteTable (h : r.turn config policy t = some (outputs, r')) :
    (t.learned = none ∧
      r'.publisherRouteTable = purge PublisherRoute.expiresAt t.now r.publisherRouteTable) ∨
    ∃ (frame : DataFrame) (address : SockaddrIn),
      t.learned = some ⟨frame.domainId, frame.publisherId, address⟩ ∧
      r'.publisherRouteTable = renew
        (fun route => route.publisherId = frame.publisherId && route.domainId = frame.domainId &&
          route.address = address)
        (fun route => { route with topic := frame.topic, expiresAt := t.now + 5000000000 })
        ⟨frame.publisherId, frame.topic, address, t.now + 5000000000, frame.domainId⟩
        (purge PublisherRoute.expiresAt t.now r.publisherRouteTable) := by
  cases t with
  | flushes now =>
      obtain ⟨-, rfl⟩ := Prod.mk.inj (turn_flushes h)
      exact .inl ⟨rfl, rfl⟩
  | idles now =>
      obtain ⟨-, rfl⟩ := turn_idles h
      exact .inl ⟨rfl, rfl⟩
  | receives now receipt =>
      obtain ⟨-, datagram, decoded, receives⟩ := turn_receives h
      have table := receiveDatagram_publisherRouteTable config policy (r.purgeExpired now) now receipt
        datagram
      rw [receives] at table
      simp only [Turn.learned, decoded]
      cases datagram with
      | dataFrame frame => exact .inr ⟨frame, receipt.sourceAddress, rfl, table⟩
      | _ => exact .inl ⟨rfl, table⟩

theorem Knows.turn {past : List Turn} (knows : r.Knows past)
    (h : r.turn config policy t = some (outputs, r')) : r'.Knows (past ++ [t]) := by
  have purged := nodup_purge PublisherRoute.expiresAt knows.distinct t.now
  have held : ∀ source, expiry? PublisherRoute.source PublisherRoute.expiresAt
      (purge PublisherRoute.expiresAt t.now r.publisherRouteTable) source =
        (leased 5000000000 source (past.map fun t => (t.now, t.learned))).filter fun x =>
          t.now < x := fun source => by
    rw [expiry?_purge knows.distinct, knows.holds]
  cases turn_publisherRouteTable h with
  | inl quiet =>
      obtain ⟨nothing, table⟩ := quiet
      refine ⟨table ▸ purged, fun source => ?_⟩
      rw [table, held, List.map_append, List.map_singleton, leased_concat, nothing,
        if_neg (Option.some_ne_none _).symm]
  | inr learns =>
      obtain ⟨frame, address, learned, table⟩ := learns
      have known : ∀ route : PublisherRoute, (route.publisherId = frame.publisherId &&
          route.domainId = frame.domainId && route.address = address) = true ↔
          route.source = ⟨frame.domainId, frame.publisherId, address⟩ := by
        intro route
        simp only [PublisherRoute.source, PublisherSource.mk.injEq, Bool.and_eq_true,
          decide_eq_true_eq]
        exact ⟨fun all => ⟨all.1.2, all.1.1, all.2⟩, fun all => ⟨⟨all.2.1, all.1⟩, all.2.2⟩⟩
      refine ⟨?_, fun source => ?_⟩
      · rw [table]
        exact nodup_renew purged known (fun _ => rfl) rfl
      · have renewed : expiry? PublisherRoute.source PublisherRoute.expiresAt
            r'.publisherRouteTable source =
              if source = ⟨frame.domainId, frame.publisherId, address⟩ then
                some (t.now + 5000000000)
              else expiry? PublisherRoute.source PublisherRoute.expiresAt
                (purge PublisherRoute.expiresAt t.now r.publisherRouteTable) source := by
          rw [table]
          apply expiry?_renew known
          · exact fun _ => rfl
          · exact fun _ => rfl
          · rfl
          · rfl
        rw [renewed, List.map_append, List.map_singleton, leased_concat, learned]
        by_cases same : source = ⟨frame.domainId, frame.publisherId, address⟩
        · rw [if_pos same, if_pos (congrArg some same.symm)]
        · rw [if_neg same, if_neg fun other => same (Option.some.inj other).symm, held]

/-- What is held for a publisher after a turn has purged the table. -/
theorem Knows.heardWithin {past : List Turn} (knows : r.Knows past) (now : Int)
    (source : PublisherSource) :
    (∃ route ∈ (r.purgeExpired now).publisherRouteTable, route.source = source) ↔
      HeardWithin past now source := by
  rw [← expiry?_isSome PublisherRoute.expiresAt]
  dsimp only [purgeExpired, purgeExpiredPublisherRoutes]
  rw [expiry?_purge knows.distinct, knows.holds]
  constructor
  · intro found
    obtain ⟨x, held⟩ := Option.isSome_iff_exists.mp found
    obtain ⟨held, live⟩ := Option.filter_eq_some_iff.mp held
    obtain ⟨before, at_, after, shape, rfl, quiet⟩ := leased_eq_some_iff.mp held
    obtain ⟨front, rest, rfl, sameFront, sameRest⟩ := List.map_eq_append_iff.mp shape
    obtain ⟨last, behind, rfl, sameLast, sameBehind⟩ := List.map_eq_cons_iff.mp sameRest
    obtain ⟨sameTime, learned⟩ := Prod.mk.inj sameLast
    subst sameTime
    refine ⟨front, last, behind, rfl, learned, fun later among => ?_, of_decide_eq_true live⟩
    exact quiet _ (sameBehind ▸ List.mem_map_of_mem among)
  · rintro ⟨before, last, after, rfl, learned, quiet, live⟩
    have held : leased 5000000000 source ((before ++ last :: after).map fun t =>
        (t.now, t.learned)) = some (last.now + 5000000000) := by
      apply leased_eq_some_iff.mpr
      refine ⟨before.map fun t => (t.now, t.learned), last.now,
        after.map fun t => (t.now, t.learned), ?_, rfl, ?_⟩
      · rw [List.map_append, List.map_cons, learned]
      · intro later among
        obtain ⟨t, inside, rfl⟩ := List.mem_map.mp among
        exact quiet t inside
    rw [held, Option.filter_some, if_pos (decide_eq_true live)]
    rfl

/-! ## What reaches whom -/

/-- The datagram is sent to the address. -/
def SentTo (outputs : List RouterOutput) (payload : Bytes) (address : SockaddrIn) : Prop :=
  ∃ targets, .datagramForwarded payload targets ∈ outputs ∧ address ∈ targets

/-- The router has learned the address in some way. -/
def Learned (r : Router A) (address : SockaddrIn) : Prop :=
  address ∈ r.routeTable.map TopicRoute.address ∨
    address ∈ r.publisherRouteTable.map PublisherRoute.address ∨
    address ∈ r.serviceRouteTable.map ServiceRoute.address ∨
    address ∈ r.actionRouteTable.map ActionRoute.address

/-- A fragment's datagram goes to the static peers and the subscribers of its topic; only where
    there are none does it go to every address. -/
def FragmentReaches (config : RouterConfig) (r : Router A) (route : FragmentRoute)
    (address : SockaddrIn) : Prop :=
  address ∈ config.peers ∨ address ∈ r.topicAddresses route.domainId route.topic ∨
    config.peers = [] ∧ r.topicAddresses route.domainId route.topic = [] ∧ r.Learned address

variable {payload : Bytes} {source address : SockaddrIn} {route : FragmentRoute}

variable (config r) in
theorem forwardFragmentDatagram_reaches (parsed : tryParseFragmentRoute payload = some route)
    (other : address ≠ source) : ∃ targets,
      r.forwardFragmentDatagram config payload source = .datagramForwarded payload targets ∧
        (address ∈ targets ↔ FragmentReaches config r route address) := by
  refine ⟨_, rfl, ?_⟩
  rw [mem_sentTo other, parsed]
  dsimp only
  split
  case isTrue someone =>
    rw [mem_appendUniquePeers]
    constructor
    · exact fun reached => reached.imp_right .inl
    · rintro (peer | routed | ⟨noPeer, noRoute, -⟩)
      · exact .inl peer
      · exact .inr routed
      · rw [noPeer, noRoute] at someone
        exact absurd rfl someone
  case isFalse nobody =>
    have none_ : ∀ x, x ∉ config.peers ∧ x ∉ r.topicAddresses route.domainId route.topic := by
      intro x
      rw [not_ne_iff] at nobody
      have absent : x ∉ appendUniquePeers config.peers
          (r.topicAddresses route.domainId route.topic) := nobody ▸ List.not_mem_nil
      rw [mem_appendUniquePeers] at absent
      exact not_or.mp absent
    have noPeer := List.eq_nil_iff_forall_not_mem.mpr fun x => (none_ x).1
    have noRoute := List.eq_nil_iff_forall_not_mem.mpr fun x => (none_ x).2
    rw [passthroughTargets, mem_appendUniquePeers, List.mem_append, List.mem_append,
      List.mem_append, or_assoc, or_assoc]
    constructor
    · rintro (peer | learned)
      · exact absurd peer (none_ address).1
      · exact .inr (.inr ⟨noPeer, noRoute, learned⟩)
    · rintro (peer | routed | ⟨-, -, learned⟩)
      · exact .inl peer
      · exact absurd routed (none_ address).2
      · exact .inr learned

theorem isFragmentDatagram_of_route (parsed : tryParseFragmentRoute payload = some route) :
    isFragmentDatagram payload := by
  unfold tryParseFragmentRoute at parsed
  obtain ⟨⟨id, behind⟩, found, -⟩ := Option.bind_eq_some_iff.mp parsed
  obtain ⟨wrapper, found, -⟩ := Option.bind_eq_some_iff.mp found
  have starts : wrapper.isPrefixOf payload := by simpa using List.find?_some found
  exact List.any_eq_true.mpr ⟨wrapper, List.mem_of_find?_eq_some found, starts⟩

/-- A turn that does not flush keeps the fragments that are held back. -/
theorem turn_holds (h : r.turn config policy t = some (outputs, r')) (waits : ∀ now, t ≠ .flushes now) :
    r.queuedFragmentDatagrams <+: r'.queuedFragmentDatagrams := by
  cases t with
  | flushes now => exact absurd rfl (waits now)
  | idles now =>
      obtain ⟨-, rfl⟩ := turn_idles h
      exact List.prefix_refl _
  | receives now receipt =>
      obtain ⟨-, datagram, -, receives⟩ := turn_receives h
      have same : r' = (receiveDatagram config policy (r.purgeExpired now) now receipt datagram).2 :=
        (congrArg Prod.snd receives).symm
      rw [same]
      unfold receiveDatagram
      cases datagram with
      | fragment =>
          obtain ⟨_, _, _, _, _, now_ | ⟨_, _, held⟩⟩ :=
            receiveFragment_cases config policy (r.purgeExpired now) receipt
          · simp only [now_]
            exact List.prefix_refl _
          · simp only [held]
            exact List.prefix_append _ _
      | routeAdvertisement advertisement =>
          dsimp only [learnTopicRoute]
          split <;> exact List.prefix_refl _
      | graphAdvertisement advertisement =>
          dsimp only [learnActionRoute, learnServiceRoute, learnTopicQos]
          repeat' split
          all_goals exact List.prefix_refl _
      | dataFrame frame =>
          dsimp only [receiveDataFrame]
          split
          · exact List.prefix_refl _
          · split
            · exact List.prefix_refl _
            · obtain ⟨state, ⟨_, _, sent⟩ | ⟨_, _, _, held⟩⟩ := scheduleDataFrame_cases config
                policy ({ r.purgeExpired now with
                  received := (r.purgeExpired now).received + 1 }.learnPublisherRoute now
                  ⟨receipt.payload, frame, receipt.sourceAddress⟩) receipt
                ⟨receipt.payload, frame, receipt.sourceAddress⟩
              · rw [sent]
                exact List.prefix_refl _
              · rw [held]
                exact List.prefix_refl _
      | _ => exact List.prefix_refl _

theorem run_holds {waits : List Turn} (h : run (step config policy) r waits = some r')
    (quiet : ∀ t ∈ waits, ∀ now, t ≠ .flushes now) :
    r.queuedFragmentDatagrams <+: r'.queuedFragmentDatagrams := by
  induction waits generalizing r with
  | nil =>
      obtain rfl : r = r' := Option.some.inj h
      exact List.prefix_refl _
  | cons t waits ih =>
      obtain ⟨mid, taken, rest⟩ := run_cons h
      obtain ⟨outputs, taken⟩ := turn_of_step taken
      exact (turn_holds taken (quiet t List.mem_cons_self)).trans
        (ih rest fun later among => quiet later (List.mem_cons_of_mem _ among))

/-- A flush sends the fragments that are held back, by what is known then. -/
theorem flush_reaches {now : Int} {queued : QueuedFragmentDatagram}
    (h : r.turn config policy (.flushes now) = some (outputs, r'))
    (held : queued ∈ r.queuedFragmentDatagrams)
    (parsed : tryParseFragmentRoute queued.encodedFrame = some route)
    (other : address ≠ queued.sourceAddress) :
    SentTo outputs queued.encodedFrame address ↔
      FragmentReaches config (r.purgeExpired now) route address := by
  obtain ⟨rfl, -⟩ := Prod.mk.inj (turn_flushes h)
  constructor
  · rintro ⟨targets, among, reached⟩
    cases List.mem_append.mp among with
    | inl data =>
        obtain ⟨_, -, same⟩ := List.mem_map.mp data
        cases same
    | inr fragments =>
        obtain ⟨sent, -, same⟩ := List.mem_map.mp fragments
        have samePayload : sent.encodedFrame = queued.encodedFrame :=
          (RouterOutput.datagramForwarded.inj same).1
        rw [samePayload] at same
        have away : address ≠ sent.sourceAddress := by
          rw [← (RouterOutput.datagramForwarded.inj same).2] at reached
          exact of_decide_eq_true (List.mem_filter.mp reached).2
        obtain ⟨targets', sends, iff_⟩ :=
          forwardFragmentDatagram_reaches config (r.purgeExpired now) parsed away
        rw [sends] at same
        exact iff_.mp ((RouterOutput.datagramForwarded.inj same).2 ▸ reached)
  · intro reaches
    obtain ⟨targets, sends, iff_⟩ :=
      forwardFragmentDatagram_reaches config (r.purgeExpired now) parsed other
    refine ⟨targets, List.mem_append_right _ (List.mem_map.mpr ⟨queued, ?_, sends⟩),
      iff_.mpr reaches⟩
    exact List.mem_mergeSort.mpr held

/-- A router that has just started. -/
def start (state : A) : Router A where
  schedulerAdmissionState := state

theorem knows_of_run {state : A} {past : List Turn}
    (h : run (step config policy) (start state) past = some r) : r.Knows past := by
  have started : (start state).Knows [] := ⟨List.nodup_nil, fun _ => rfl⟩
  have held := run_history (R := fun (r : Router A) past => r.Knows past)
    (fun knows _ taken => by
      obtain ⟨outputs, taken⟩ := turn_of_step taken
      exact knows.turn taken) started (RunMeets.trivial _ _) h
  exact held

/-- Whatever has happened, an acknowledgement reaches an address if it is a static peer or whole
    data frames of the publisher came from there within five seconds; a datagram that names the
    route of a fragment reaches it by the route of the topic alone, at once or when it is flushed. -/
theorem feedback_reaches_iff {state : A} {past : List Turn}
    (h : run (step config policy) (start state) past = some r) {now : Int} {receipt : Receipt}
    (arrives : r.turn config policy (.receives now receipt) = some (outputs, r'))
    (other : address ≠ receipt.sourceAddress) :
    (∀ ackNack, decodeDatagram receipt.payload = .ok (.ackNack ackNack) →
      (SentTo outputs receipt.payload address ↔ address ∈ config.peers ∨
        HeardWithin past now ⟨ackNack.domainId, ackNack.publisherId, address⟩)) ∧
    ∀ route, tryParseFragmentRoute receipt.payload = some route →
      outputs ≠ [] ∧ (SentTo outputs receipt.payload address ↔
        FragmentReaches config (r.purgeExpired now) route address) ∨
      outputs = [] ∧ ∀ waits later flushed after at_, run (step config policy) r' waits = some later →
        (∀ t ∈ waits, ∀ now, t ≠ .flushes now) →
        later.turn config policy (.flushes at_) = some (flushed, after) →
        (SentTo flushed receipt.payload address ↔
          FragmentReaches config (later.purgeExpired at_) route address) := by
  obtain ⟨-, datagram, decoded, receives⟩ := turn_receives arrives
  constructor
  · intro ackNack acknowledges
    obtain rfl := Except.ok.inj (decoded.symm.trans acknowledges)
    obtain ⟨rfl, -⟩ := Prod.mk.inj receives
    rw [← (knows_of_run h).heardWithin now]
    constructor
    · rintro ⟨targets, among, reached⟩
      have same := List.mem_singleton.mp among
      rw [(RouterOutput.datagramForwarded.inj same).2, mem_sentTo other, ackNackTargets,
        mem_appendUniquePeers] at reached
      refine reached.imp_right fun routed => ?_
      obtain ⟨route, matches_, rfl⟩ := List.mem_map.mp routed
      obtain ⟨among, matches_⟩ := List.mem_filter.mp matches_
      obtain ⟨sameDomain, samePublisher⟩ := of_decide_eq_true matches_
      exact ⟨route, among, by rw [PublisherRoute.source, sameDomain, samePublisher]⟩
    · intro reached
      refine ⟨_, List.mem_singleton.mpr rfl, ?_⟩
      rw [mem_sentTo other, ackNackTargets, mem_appendUniquePeers]
      refine reached.imp_right fun heard => ?_
      obtain ⟨route, among, same⟩ := heard
      obtain ⟨sameDomain, samePublisher, sameAddress⟩ := PublisherSource.mk.inj same
      exact List.mem_map.mpr ⟨route, List.mem_filter.mpr
        ⟨among, decide_eq_true ⟨sameDomain, samePublisher⟩⟩, sameAddress⟩
  · intro route parsed
    have fragment : datagram = .fragment := by
      unfold decodeDatagram at decoded
      rw [isFragmentDatagram_of_route parsed, if_pos rfl] at decoded
      exact (Except.ok.inj decoded).symm
    subst fragment
    obtain ⟨_, _, _, _, _, now_ | ⟨_, _, held⟩⟩ :=
      receiveFragment_cases config policy (r.purgeExpired now) receipt
    · left
      obtain ⟨rfl, -⟩ := Prod.mk.inj (now_.symm.trans receives)
      obtain ⟨targets, sends, iff_⟩ :=
        forwardFragmentDatagram_reaches config (r.purgeExpired now) parsed other
      refine ⟨List.cons_ne_nil _ _, ?_⟩
      rw [sends, ← iff_]
      constructor
      · rintro ⟨targets', among, reached⟩
        have same := List.mem_singleton.mp among
        exact (RouterOutput.datagramForwarded.inj same).2 ▸ reached
      · exact fun reached => ⟨targets, List.mem_singleton.mpr rfl, reached⟩
    · right
      obtain ⟨rfl, rfl⟩ := Prod.mk.inj (held.symm.trans receives)
      refine ⟨rfl, fun waits later flushed after at_ waited quiet flushes => ?_⟩
      have inside := (run_holds waited quiet).subset
        (List.mem_append_right _ (List.mem_singleton.mpr rfl))
      exact flush_reaches flushes inside parsed other

/-! ## A publisher and a subscriber -/

def robot : SockaddrIn := ⟨1, 1⟩
def operator : SockaddrIn := ⟨2, 2⟩

/-- The operator is a static peer of the router. -/
def operatorPeer : RouterConfig := { peers := [operator], expectedFrames := 10 }

def wholeFrame : DataFrame := { topic := octets "/t", publisherId := octets "p" }

def acknowledgement : Bytes := encodeAckNack wholeFrame {} (octets "s")

set_option maxRecDepth 10000 in
theorem feedback_reaches_iff_wholeFrame : ∃ (r : Router Unit) (outputs : List RouterOutput)
    (r' : Router Unit), run (step operatorPeer fun _ state => (true, state)) (start ())
      [.receives 0 ⟨encodeDataFrameCompactV1 wholeFrame, robot, 0, 0⟩] = some r ∧
      r.turn operatorPeer (fun _ state => (true, state))
        (.receives 1 ⟨acknowledgement, operator, 0, 0⟩) = some (outputs, r') ∧
      SentTo outputs acknowledgement robot := by
  have known : ∃ ackNack, decodeDatagram acknowledgement = .ok (.ackNack ackNack) ∧
      ackNack.domainId = 0 ∧ ackNack.publisherId = octets "p" := ⟨_, rfl, rfl, rfl⟩
  obtain ⟨ackNack, decoded, domain, publisher⟩ := known
  have ran : ∃ r, run (step operatorPeer fun _ state => (true, state)) (start ())
      [.receives 0 ⟨encodeDataFrameCompactV1 wholeFrame, robot, 0, 0⟩] = some r ∧
      (r.purgeExpired 1).flushDue operatorPeer 1 = false := ⟨_, rfl, rfl⟩
  obtain ⟨r, ran, idle⟩ := ran
  have arrives := turn_of_datagram (fun _ state => (true, state))
    ⟨acknowledgement, operator, 0, 0⟩ idle decoded
  refine ⟨r, _, _, ran, arrives, ?_⟩
  apply ((feedback_reaches_iff ran arrives (by decide)).1 ackNack decoded).mpr
  right
  rw [domain, publisher]
  refine ⟨[], _, [], rfl, ?_, fun _ none => absurd none List.not_mem_nil, by decide⟩
  rfl

def fragment : Bytes := octets "FLEETQOX_FRAGMENT_V1|p-1^^0^^/t|0|2|8|data"
def repairRequest : Bytes := octets "FLEETQOX_REPAIR_FRAGMENT_NACK_V1|p-1^^0^^/t|2|1"

/-- The router passes a fragment of the robot on to the operator, and sends the operator's request
    to repair it to nobody. -/
theorem repairRequest_lost : ∃ (r r' : Router Unit) (outputs : List RouterOutput),
    (start ()).turn operatorPeer (fun _ state => (true, state))
      (.receives 0 ⟨fragment, robot, 0, 0⟩) =
        some ([.datagramForwarded fragment [operator]], r) ∧
    r.turn operatorPeer (fun _ state => (true, state))
      (.receives 1 ⟨repairRequest, operator, 0, 0⟩) = some (outputs, r') ∧
    ¬SentTo outputs repairRequest robot := by
  refine ⟨_, _, _, rfl, rfl, ?_⟩
  rintro ⟨targets, among, reached⟩
  have same := List.mem_singleton.mp among
  rw [(RouterOutput.datagramForwarded.inj same).2] at reached
  exact absurd reached (by decide)

end Router

end FleetRMW.Rmw
