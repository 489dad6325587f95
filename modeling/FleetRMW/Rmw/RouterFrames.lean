import FleetRMW.Rmw.RouterFeedback
import Mathlib.Data.List.Perm.Basic

/-! # Data frames through the router

Every data frame that arrives is dropped, held back or sent to each address once. The router
compares the frames' stamps, which are of the wall clock, with its steady clock: where both
clocks judge a frame the same, exactly the frames are dropped that are too old.
-/

namespace FleetRMW.Rmw

open Lib

/-! ## Durations -/

/-- The least of the durations that are positive. -/
def leastPositive (durations : List Int64) : Option Int :=
  ((durations.map Int64.toInt).filter (0 < ·)).min?

theorem leastPositive_eq_some {durations : List Int64} {least : Int64} (among : least ∈ durations)
    (positive : 0 < least) (le : ∀ duration ∈ durations, 0 < duration → least ≤ duration) :
    leastPositive durations = some least.toInt := by
  have positive_iff : ∀ duration : Int64, 0 < duration ↔ 0 < duration.toInt := fun duration =>
    Int64.lt_iff_toInt_lt
  apply List.min?_eq_some_iff.mpr
  constructor
  · apply List.mem_filter.mpr
    exact ⟨List.mem_map_of_mem among, decide_eq_true ((positive_iff _).mp positive)⟩
  · intro other inside
    obtain ⟨mapped, positive'⟩ := List.mem_filter.mp inside
    obtain ⟨duration, among', rfl⟩ := List.mem_map.mp mapped
    have shorter := le duration among' ((positive_iff _).mpr (of_decide_eq_true positive'))
    exact Int64.le_iff_toInt_le.mp shorter

/-- The loop over the durations: what it has is positive and least so far, or it has seen none. -/
theorem effectiveDuration_spec (durations : List Int64) :
    (effectiveDuration durations = 0 ∧ ∀ duration ∈ durations, ¬0 < duration) ∨
      0 < effectiveDuration durations ∧ effectiveDuration durations ∈ durations ∧
        ∀ duration ∈ durations, 0 < duration → effectiveDuration durations ≤ duration := by
  induction durations using List.reverseRecOn with
  | nil => exact .inl ⟨rfl, fun _ none => absurd none List.not_mem_nil⟩
  | append_singleton durations last ih =>
      have step : effectiveDuration (durations ++ [last]) =
          if last ≤ 0 then effectiveDuration durations
          else if effectiveDuration durations = 0 ∨ last < effectiveDuration durations then last
          else effectiveDuration durations := by
        rw [effectiveDuration, List.foldl_append]
        rfl
      rw [step]
      have earlier : ∀ duration ∈ durations ++ [last], duration ∈ durations ∨ duration = last :=
        fun duration among => (List.mem_append.mp among).imp_right List.mem_singleton.mp
      by_cases idle : last ≤ 0
      · rw [if_pos idle]
        have skips : ¬0 < last := Int64.not_lt.mpr idle
        cases ih with
        | inl none_ =>
            refine .inl ⟨none_.1, fun duration among => ?_⟩
            cases earlier duration among with
            | inl old => exact none_.2 duration old
            | inr new => exact new ▸ skips
        | inr some_ =>
            refine .inr ⟨some_.1, List.mem_append_left _ some_.2.1, fun duration among positive => ?_⟩
            cases earlier duration among with
            | inl old => exact some_.2.2 duration old positive
            | inr new => exact absurd (new ▸ positive) skips
      · rw [if_neg idle]
        have positive : 0 < last := Int64.not_le.mp idle
        right
        cases ih with
        | inl none_ =>
            rw [if_pos (.inl none_.1)]
            refine ⟨positive, List.mem_append_right _ List.mem_cons_self, fun duration among lasts => ?_⟩
            cases earlier duration among with
            | inl old => exact absurd lasts (none_.2 duration old)
            | inr new => exact new ▸ Int64.le_refl _
        | inr some_ =>
            have nonzero : effectiveDuration durations ≠ 0 := fun zero =>
              Int64.lt_irrefl (zero ▸ some_.1)
            by_cases less : last < effectiveDuration durations
            · rw [if_pos (.inr less)]
              refine ⟨positive, List.mem_append_right _ List.mem_cons_self, fun duration among lasts => ?_⟩
              cases earlier duration among with
              | inl old =>
                  exact Int64.le_trans (Int64.le_of_lt less) (some_.2.2 duration old lasts)
              | inr new => exact new ▸ Int64.le_refl _
            · rw [if_neg (not_or.mpr ⟨nonzero, less⟩)]
              refine ⟨some_.1, List.mem_append_left _ some_.2.1, fun duration among lasts => ?_⟩
              cases earlier duration among with
              | inl old => exact some_.2.2 duration old lasts
              | inr new => exact new ▸ Int64.not_lt.mp less

/-- The loop finds the least positive duration. -/
theorem leastPositive_eq (durations : List Int64) : leastPositive durations =
    if effectiveDuration durations ≤ 0 then none else some (effectiveDuration durations).toInt := by
  cases effectiveDuration_spec durations with
  | inl none_ =>
      rw [none_.1, if_pos (Int64.le_refl 0), leastPositive, List.min?_eq_none_iff,
        List.filter_eq_nil_iff]
      intro duration inside positive
      obtain ⟨duration, among, rfl⟩ := List.mem_map.mp inside
      exact none_.2 duration among (Int64.lt_iff_toInt_lt.mpr (of_decide_eq_true positive))
  | inr some_ =>
      rw [if_neg (Int64.not_le.mpr some_.1)]
      exact leastPositive_eq_some some_.2.1 some_.1 some_.2.2

/-! ## Runs -/

/-- A data frame that has arrived, and whether it was too old by the wall clock. -/
structure JudgedFrame where
  received : ReceivedFrame
  aged : Bool
  deriving Repr, DecidableEq

/-- A data frame that has been sent, the addresses it was sent to, and the subscribers of its
    topic at that time. -/
structure Delivery where
  received : ReceivedFrame
  targets : List SockaddrIn
  subscribers : List SockaddrIn
  deriving Repr, DecidableEq

namespace Router

variable {A : Type} {config : RouterConfig} {policy : HoldbackPolicy A} {r r' : Router A}
  {t : Turn} {outputs : List RouterOutput}

/-- The addresses of the routes of a topic that have not expired. -/
def liveAddresses (r : Router A) (now : Int) (domainId : UInt64) (topic : Bytes) :
    List SockaddrIn :=
  (r.routeTable.filter fun route => now < route.expiresAt ∧ route.domainId = domainId ∧
    route.topic = topic).map TopicRoute.address

/-- The least positive lifespan of the leases of a topic that have not expired. -/
def liveLifespan (r : Router A) (now : Int) (frame : DataFrame) : Option Int :=
  leastPositive ((r.topicQosTable.filter fun lease => now < lease.expiresAt ∧
    lease.domainId = frame.domainId ∧ lease.topic = frame.topic).map TopicQosLease.lifespanNs)

/-- The frame is older than the lifespan by the wall clock, which is ahead of the steady clock by
    `offset`. -/
def aged (r : Router A) (now : Int) (frame : DataFrame) (checkedAtNs : Int64) (offset : Int) :
    Bool :=
  (r.liveLifespan now frame).any fun lifespan =>
    lifespan < checkedAtNs.toInt + offset - frame.sourceTimestampNs.toInt

end Router

/-- The router, the data frames that have arrived, and what has become of those that do not wait
    in the queue any more. -/
structure FrameRun (A : Type) where
  router : Router A
  arrived : List JudgedFrame := []
  testDropped : List JudgedFrame := []
  qosDropped : List ReceivedFrame := []
  delivered : List Delivery := []

namespace FrameRun

open Router

variable {A : Type} {config : RouterConfig} {policy : HoldbackPolicy A} {offset : Int}
  {s s' : FrameRun A} {t : Turn}

/-- The data frame that arrives, judged by the wall clock. -/
def arrival (offset : Int) (r : Router A) : Turn → Option JudgedFrame
  | .receives now receipt => match decodeDatagram receipt.payload with
    | .ok (.dataFrame frame) => some ⟨⟨receipt.payload, frame, receipt.sourceAddress⟩,
        r.aged now frame receipt.checkedAtNs offset⟩
    | _ => none
  | _ => none

def testDrops : List RouterOutput → List ReceivedFrame :=
  List.filterMap fun
    | .testDropped received => some received
    | _ => none

def qosDrops : List RouterOutput → List ReceivedFrame :=
  List.filterMap fun
    | .qosDropped received => some received
    | _ => none

def deliveries (r : Router A) (now : Int) : List RouterOutput → List Delivery :=
  List.filterMap fun
    | .dataForwarded received targets => some ⟨received, targets,
        r.liveAddresses now received.frame.domainId received.frame.topic⟩
    | _ => none

def step (config : RouterConfig) (policy : HoldbackPolicy A) (offset : Int) (s : FrameRun A)
    (t : Turn) : Option (FrameRun A) :=
  (s.router.turn config policy t).map fun (outputs, router) => {
    router
    arrived := s.arrived ++ (arrival offset s.router t).toList
    testDropped := s.testDropped ++
      (arrival offset s.router t).toList.filter fun judged => judged.received ∈ testDrops outputs
    qosDropped := s.qosDropped ++ qosDrops outputs
    delivered := s.delivered ++ deliveries s.router t.now outputs }

/-- Both clocks judge an arriving frame the same, unless it is dropped for the test: where a
    lifespan applies, the steady clock has passed the stamp by more than it, and the stamp is
    positive, exactly if the wall clock has. -/
def ClocksAgree (config : RouterConfig) (offset : Int) (s : FrameRun A) : Turn → Prop
  | .receives now receipt => ∀ frame, decodeDatagram receipt.payload = .ok (.dataFrame frame) →
      shouldDropSourceSequenceOnce config frame s.router.droppedSourceSequenceKeys = false →
      ∀ lifespan ∈ s.router.liveLifespan now frame,
        (0 < frame.sourceTimestampNs.toInt ∧
            lifespan < receipt.checkedAtNs.toInt - frame.sourceTimestampNs.toInt ↔
          lifespan < receipt.checkedAtNs.toInt + offset - frame.sourceTimestampNs.toInt)
  | _ => True

/-- Where every data frame that has arrived is. -/
structure Accounted (config : RouterConfig) (s : FrameRun A) : Prop where
  /-- A frame is dropped for the test, dropped as too old, queued or sent, and those that are not
      dropped for the test are dropped exactly if they are too old. -/
  conserved : s.arrived.Perm (s.testDropped ++ s.qosDropped.map (⟨·, true⟩) ++
    s.router.queuedDataFrames.map (fun queued => ⟨queued.toReceivedFrame, false⟩) ++
    s.delivered.map fun delivery => ⟨delivery.received, false⟩)
  /-- What is sent goes to each static peer and each subscriber once, apart from its source. -/
  once : ∀ delivery ∈ s.delivered, delivery.targets.Nodup ∧ ∀ address,
    address ∈ delivery.targets ↔ (address ∈ config.peers ∨ address ∈ delivery.subscribers) ∧
      address ≠ delivery.received.sourceAddress
  /-- The queue is in the order of arrival. -/
  queued : (s.router.queuedDataFrames.map fun queued => queued.toReceivedFrame).Sublist
    (s.arrived.map JudgedFrame.received)
  numbered : s.router.queuedDataFrames.Pairwise fun left right => left.order < right.order
  below : ∀ queued ∈ s.router.queuedDataFrames, queued.order < s.router.nextQueueOrder

/-! ## What a turn knows -/

variable {r r₁ : Router A} {now : Int} {outputs : List RouterOutput}

theorem topicAddresses_purge (r : Router A) (now : Int) (domainId : UInt64) (topic : Bytes) :
    (r.purgeExpired now).topicAddresses domainId topic = r.liveAddresses now domainId topic := by
  simp only [topicAddresses, purgeExpired, purgeExpiredRoutes, purge, List.filter_filter,
    liveAddresses]
  congr 2
  funext route
  simp only [← Bool.decide_and, Bool.and_comm]
  simp only [Bool.decide_and, and_comm]

/-- The purged table knows the live lifespans. -/
theorem leastPositive_purge (r : Router A) (now : Int) (frame : DataFrame) :
    leastPositive ((leasesOf (r.purgeExpired now).topicQosTable frame.domainId frame.topic).map
      TopicQosLease.lifespanNs) = r.liveLifespan now frame := by
  simp only [leasesOf, purgeExpired, purgeExpiredTopicQos, purge, List.filter_filter, liveLifespan]
  congr 3
  funext lease
  simp only [Bool.decide_and, and_comm, Bool.and_comm]

/-- The router's own judgement: by the steady clock, for stamps that are positive. -/
theorem frameExceedsLearnedLifespan_eq (r : Router A) (now : Int) (frame : DataFrame)
    (checkedAtNs : Int64) :
    frameExceedsLearnedLifespan (r.purgeExpired now).topicQosTable frame checkedAtNs ↔
      ∃ lifespan ∈ r.liveLifespan now frame, 0 < frame.sourceTimestampNs.toInt ∧
        lifespan < checkedAtNs.toInt - frame.sourceTimestampNs.toInt := by
  have least := leastPositive_purge r now frame
  rw [leastPositive_eq] at least
  rw [← least]
  unfold frameExceedsLearnedLifespan
  dsimp only
  generalize effectiveDuration _ = lifespan
  have zero : (0 : Int64).toInt = 0 := rfl
  by_cases none_ : lifespan ≤ 0
  · simp only [none_, true_or, if_true, Bool.false_eq_true, Option.mem_def, reduceCtorEq, false_and,
      exists_false]
  · have positive := Int64.lt_iff_toInt_lt.mp (Int64.not_le.mp none_)
    rw [zero] at positive
    simp only [none_, false_or, if_false, Option.mem_def, Option.some.injEq, exists_eq_left']
    by_cases unstamped : frame.sourceTimestampNs ≤ 0
    · have := Int64.le_iff_toInt_le.mp unstamped
      rw [zero] at this
      rw [if_pos unstamped]
      constructor
      · intro never
        cases never
      · intro both
        omega
    · have stamped := Int64.lt_iff_toInt_lt.mp (Int64.not_le.mp unstamped)
      rw [zero] at stamped
      rw [if_neg unstamped, Bool.and_eq_true, decide_eq_true_eq, decide_eq_true_eq, gt_iff_lt,
        gt_iff_lt, Int64.lt_iff_toInt_lt, Int64.lt_iff_toInt_lt]
      have upper := checkedAtNs.toInt_lt
      constructor
      · rintro ⟨later, longer⟩
        rw [Int64.toInt_sub, Int.bmod_eq_of_le (by omega) (by omega)] at longer
        exact ⟨stamped, longer⟩
      · rintro ⟨-, longer⟩
        refine ⟨by omega, ?_⟩
        rw [Int64.toInt_sub, Int.bmod_eq_of_le (by omega) (by omega)]
        exact longer

/-- What is sent of a data frame in a turn. -/
def delivery (config : RouterConfig) (r : Router A) (now : Int) (received : ReceivedFrame) :
    Delivery where
  received
  targets := sentTo (appendUniquePeers config.peers
    (r.liveAddresses now received.frame.domainId received.frame.topic)) received.sourceAddress
  subscribers := r.liveAddresses now received.frame.domainId received.frame.topic

variable (config) in
theorem deliveries_forwardDataFrame (same : r₁.routeTable = (r.purgeExpired now).routeTable)
    (received : ReceivedFrame) : deliveries r now [r₁.forwardDataFrame config received] =
      [delivery config r now received] := by
  have addresses : r₁.topicAddresses received.frame.domainId received.frame.topic =
      r.liveAddresses now received.frame.domainId received.frame.topic := by
    rw [← topicAddresses_purge, topicAddresses, same, topicAddresses]
  simp only [deliveries, forwardDataFrame, addresses, List.filterMap_cons, List.filterMap_nil,
    delivery]

theorem nodup_appendUniquePeers {peers : List SockaddrIn} (distinct : peers.Nodup)
    (candidates : List SockaddrIn) : (appendUniquePeers peers candidates).Nodup := by
  unfold appendUniquePeers
  induction candidates generalizing peers with
  | nil => exact distinct
  | cons candidate candidates ih =>
      rw [List.foldl_cons]
      apply ih
      unfold appendUniquePeer
      split
      · exact distinct
      · next new =>
          exact distinct.append (List.nodup_singleton _) (List.disjoint_singleton.mpr new)

theorem delivery_once (distinct : config.peers.Nodup) (r : Router A) (now : Int)
    (received : ReceivedFrame) : (delivery config r now received).targets.Nodup ∧ ∀ address,
      address ∈ (delivery config r now received).targets ↔
        (address ∈ config.peers ∨ address ∈ (delivery config r now received).subscribers) ∧
          address ≠ received.sourceAddress := by
  constructor
  · exact (nodup_appendUniquePeers distinct _).filter _
  · intro address
    simp only [delivery, sentTo, List.mem_filter, mem_appendUniquePeers, decide_eq_true_eq]

/-! ## What a turn does with data frames -/

/-- Everything but a data frame is forwarded at most, and leaves the queue as it is. -/
theorem receiveDatagram_other (config : RouterConfig) (policy : HoldbackPolicy A) (r : Router A)
    (now : Int) (receipt : Receipt) {datagram : Datagram}
    (other : ∀ frame, datagram ≠ .dataFrame frame) :
    (∀ output ∈ (r.receiveDatagram config policy now receipt datagram).1,
      ∃ payload targets, output = .datagramForwarded payload targets) ∧
    (r.receiveDatagram config policy now receipt datagram).2.queuedDataFrames =
      r.queuedDataFrames ∧
    r.nextQueueOrder ≤ (r.receiveDatagram config policy now receipt datagram).2.nextQueueOrder := by
  have one : ∀ payload targets, ∀ output ∈ [RouterOutput.datagramForwarded payload targets],
      ∃ payload targets, output = .datagramForwarded payload targets := by
    intro payload targets output among
    exact ⟨payload, targets, List.mem_singleton.mp among⟩
  have nothing : ∀ output ∈ ([] : List RouterOutput),
      ∃ payload targets, output = .datagramForwarded payload targets :=
    fun _ none => absurd none List.not_mem_nil
  unfold receiveDatagram
  cases datagram with
  | fragment =>
      obtain ⟨_, _, _, _, _, now_ | ⟨_, _, held⟩⟩ := receiveFragment_cases config policy r receipt
      · dsimp only
        rw [now_]
        exact ⟨one _ _, rfl, Nat.le_refl _⟩
      · dsimp only
        rw [held]
        exact ⟨nothing, rfl, Nat.le_succ _⟩
  | routeAdvertisement advertisement =>
      refine ⟨nothing, ?_⟩
      dsimp only [learnTopicRoute]
      split <;> exact ⟨rfl, Nat.le_refl _⟩
  | graphAdvertisement advertisement =>
      refine ⟨one _ _, ?_⟩
      dsimp only [learnActionRoute, learnServiceRoute, learnTopicQos]
      repeat' split
      all_goals exact ⟨rfl, Nat.le_refl _⟩
  | dataFrame frame => exact absurd rfl (other frame)
  | invalid => exact ⟨nothing, rfl, Nat.le_refl _⟩
  | _ => exact ⟨one _ _, rfl, Nat.le_refl _⟩

/-- A data frame is dropped for the test, dropped as too old, sent or queued. -/
theorem receiveDataFrame_cases (config : RouterConfig) (policy : HoldbackPolicy A) (r : Router A)
    (now : Int) (receipt : Receipt) (frame : DataFrame) :
    let received : ReceivedFrame := ⟨receipt.payload, frame, receipt.sourceAddress⟩
    let result := r.receiveDataFrame config policy now receipt frame
    (shouldDropSourceSequenceOnce config frame r.droppedSourceSequenceKeys = true ∧
      result.1 = [.testDropped received] ∧ result.2.queuedDataFrames = r.queuedDataFrames ∧
      r.nextQueueOrder ≤ result.2.nextQueueOrder) ∨
    shouldDropSourceSequenceOnce config frame r.droppedSourceSequenceKeys = false ∧
      ((frameExceedsLearnedLifespan r.topicQosTable frame receipt.checkedAtNs = true ∧
        result.1 = [.qosDropped received] ∧ result.2.queuedDataFrames = r.queuedDataFrames ∧
        r.nextQueueOrder ≤ result.2.nextQueueOrder) ∨
      frameExceedsLearnedLifespan r.topicQosTable frame receipt.checkedAtNs = false ∧
        ((∃ r₁ : Router A, r₁.routeTable = r.routeTable ∧
          result.1 = [r₁.forwardDataFrame config received] ∧
          result.2.queuedDataFrames = r.queuedDataFrames ∧
          r.nextQueueOrder ≤ result.2.nextQueueOrder) ∨
        ∃ queued : QueuedDataFrame, queued.toReceivedFrame = received ∧
          queued.order = r.nextQueueOrder ∧ result.1 = [] ∧
          result.2.queuedDataFrames = r.queuedDataFrames ++ [queued] ∧
          result.2.nextQueueOrder = r.nextQueueOrder + 1)) := by
  unfold receiveDataFrame
  dsimp only [learnPublisherRoute]
  split
  case isTrue drops => exact .inl ⟨drops, rfl, rfl, Nat.le_refl _⟩
  case isFalse keeps =>
    right
    refine ⟨Bool.not_eq_true _ ▸ keeps, ?_⟩
    split
    case isTrue old => exact .inl ⟨old, rfl, rfl, Nat.le_refl _⟩
    case isFalse fresh =>
      right
      refine ⟨Bool.not_eq_true _ ▸ fresh, ?_⟩
      obtain ⟨state, ⟨order, le, sent⟩ | ⟨queued, same, numbered, held⟩⟩ :=
        scheduleDataFrame_cases config policy _ receipt
          ⟨receipt.payload, frame, receipt.sourceAddress⟩
      · rw [sent]
        exact .inl ⟨_, rfl, rfl, rfl, le⟩
      · rw [held]
        exact .inr ⟨queued, same, numbered, rfl, rfl, rfl⟩

/-! ## What every turn keeps -/

/-- A turn that does not touch the data frames. -/
theorem Accounted.quiet (held : s.Accounted config) (h : s.step config policy offset t = some s')
    (nobody : arrival offset s.router t = none)
    (silent : ∀ outputs router, s.router.turn config policy t = some (outputs, router) →
      (∀ output ∈ outputs, ∃ payload targets, output = .datagramForwarded payload targets) ∧
      router.queuedDataFrames = s.router.queuedDataFrames ∧
      s.router.nextQueueOrder ≤ router.nextQueueOrder) : s'.Accounted config := by
  obtain ⟨⟨outputs, router⟩, taken, rfl⟩ := Option.map_eq_some_iff.mp h
  obtain ⟨others, queue, next⟩ := silent outputs router taken
  have noTest : testDrops outputs = [] := by
    apply List.filterMap_eq_nil_iff.mpr
    intro output among
    obtain ⟨payload, targets, rfl⟩ := others output among
    rfl
  have noQos : qosDrops outputs = [] := by
    apply List.filterMap_eq_nil_iff.mpr
    intro output among
    obtain ⟨payload, targets, rfl⟩ := others output among
    rfl
  have noDelivery : deliveries s.router t.now outputs = [] := by
    apply List.filterMap_eq_nil_iff.mpr
    intro output among
    obtain ⟨payload, targets, rfl⟩ := others output among
    rfl
  simp only [nobody, noQos, noDelivery, Option.toList_none, List.filter_nil, List.append_nil]
  refine ⟨?_, held.once, ?_, ?_, ?_⟩
  · rw [queue]
    exact held.conserved
  · rw [queue]
    exact held.queued
  · rw [queue]
    exact held.numbered
  · rw [queue]
    exact fun queued among => Nat.lt_of_lt_of_le (held.below queued among) next

/-- A data frame that arrives is put in one of the four places. -/
theorem Accounted.extend (held : s.Accounted config) {router : Router A} {judged : JudgedFrame}
    {dropped : List JudgedFrame} {old : List ReceivedFrame} (waits : List QueuedDataFrame)
    {sent : List Delivery}
    (somewhere : [judged].Perm (dropped ++ old.map (⟨·, true⟩) ++
      waits.map (fun queued => ⟨queued.toReceivedFrame, false⟩) ++
      sent.map fun delivery => ⟨delivery.received, false⟩))
    (queue : router.queuedDataFrames = s.router.queuedDataFrames ++ waits)
    (once : ∀ delivery ∈ sent, delivery.targets.Nodup ∧ ∀ address, address ∈ delivery.targets ↔
      (address ∈ config.peers ∨ address ∈ delivery.subscribers) ∧
        address ≠ delivery.received.sourceAddress)
    (named : (waits.map fun queued => queued.toReceivedFrame).Sublist [judged.received])
    (numbered : waits.Pairwise fun left right => left.order < right.order)
    (next : s.router.nextQueueOrder ≤ router.nextQueueOrder)
    (fresh : ∀ queued ∈ waits, s.router.nextQueueOrder ≤ queued.order ∧
      queued.order < router.nextQueueOrder) :
    Accounted config ⟨router, s.arrived ++ [judged], s.testDropped ++ dropped, s.qosDropped ++ old,
      s.delivered ++ sent⟩ where
  conserved := by
    rw [queue]
    have before := held.conserved
    rw [List.perm_iff_count] at before somewhere ⊢
    intro x
    have := before x
    have := somewhere x
    simp only [List.count_append, List.map_append] at *
    omega
  once delivery among := by
    cases List.mem_append.mp among with
    | inl earlier => exact held.once delivery earlier
    | inr now => exact once delivery now
  queued := by
    rw [queue, List.map_append, List.map_append]
    exact held.queued.append named
  numbered := by
    rw [queue]
    apply List.pairwise_append.mpr
    refine ⟨held.numbered, numbered, fun left among right waits => ?_⟩
    exact Nat.lt_of_lt_of_le (held.below left among) (fresh right waits).1
  below queued among := by
    rw [queue] at among
    cases List.mem_append.mp among with
    | inl earlier => exact Nat.lt_of_lt_of_le (held.below queued earlier) next
    | inr now => exact (fresh queued now).2

/-- A data frame that arrives and does not wait. -/
theorem Accounted.settle (held : s.Accounted config) {router : Router A} {judged : JudgedFrame}
    {dropped : List JudgedFrame} {old : List ReceivedFrame} {sent : List Delivery}
    (somewhere : [judged].Perm (dropped ++ old.map (⟨·, true⟩) ++
      sent.map fun delivery => ⟨delivery.received, false⟩))
    (queue : router.queuedDataFrames = s.router.queuedDataFrames)
    (once : ∀ delivery ∈ sent, delivery.targets.Nodup ∧ ∀ address, address ∈ delivery.targets ↔
      (address ∈ config.peers ∨ address ∈ delivery.subscribers) ∧
        address ≠ delivery.received.sourceAddress)
    (next : s.router.nextQueueOrder ≤ router.nextQueueOrder) :
    Accounted config ⟨router, s.arrived ++ [judged], s.testDropped ++ dropped, s.qosDropped ++ old,
      s.delivered ++ sent⟩ := by
  apply held.extend []
  · rw [List.map_nil, List.append_nil]
    exact somewhere
  · rw [queue, List.append_nil]
  · exact once
  · exact List.nil_sublist _
  · exact List.Pairwise.nil
  · exact next
  · exact fun _ none => absurd none List.not_mem_nil

/-- A turn that receives a data frame. -/
theorem Accounted.receives (distinct : config.peers.Nodup) (held : s.Accounted config) {now : Int}
    {receipt : Receipt} {frame : DataFrame}
    (decoded : decodeDatagram receipt.payload = .ok (.dataFrame frame))
    (agree : s.ClocksAgree config offset (.receives now receipt))
    (h : s.step config policy offset (.receives now receipt) = some s') :
    s'.Accounted config := by
  obtain ⟨⟨outputs, router⟩, taken, rfl⟩ := Option.map_eq_some_iff.mp h
  obtain ⟨-, datagram, decoded', receives⟩ := turn_receives taken
  obtain rfl := Except.ok.inj (decoded'.symm.trans decoded)
  have arrives : arrival offset s.router (.receives now receipt) = some
      ⟨⟨receipt.payload, frame, receipt.sourceAddress⟩,
        s.router.aged now frame receipt.checkedAtNs offset⟩ := by
    simp only [arrival, decoded]
  have judged : shouldDropSourceSequenceOnce config frame s.router.droppedSourceSequenceKeys = false →
      s.router.aged now frame receipt.checkedAtNs offset =
        frameExceedsLearnedLifespan (s.router.purgeExpired now).topicQosTable frame
          receipt.checkedAtNs := by
    intro kept
    apply Bool.eq_iff_iff.mpr
    rw [frameExceedsLearnedLifespan_eq, aged, Option.any_eq_true]
    constructor
    · rintro ⟨lifespan, live, old⟩
      exact ⟨lifespan, live, (agree frame decoded kept lifespan live).mpr (of_decide_eq_true old)⟩
    · rintro ⟨lifespan, live, old⟩
      exact ⟨lifespan, live, decide_eq_true ((agree frame decoded kept lifespan live).mp old)⟩
  have cases_ := receiveDataFrame_cases config policy (s.router.purgeExpired now) now receipt frame
  dsimp only at cases_
  have result : (s.router.purgeExpired now).receiveDataFrame config policy now receipt frame =
    (outputs, router) := receives
  rw [result] at cases_
  dsimp only at cases_
  simp only [arrives, Option.toList_some]
  have nobody : ∀ delivery ∈ ([] : List Delivery), delivery.targets.Nodup ∧ ∀ address,
      address ∈ delivery.targets ↔ (address ∈ config.peers ∨ address ∈ delivery.subscribers) ∧
        address ≠ delivery.received.sourceAddress := fun _ none => absurd none List.not_mem_nil
  rcases cases_ with ⟨drops, rfl, queue, next⟩ | ⟨kept, ⟨old, rfl, queue, next⟩ |
    ⟨fresh, ⟨r₁, same, rfl, queue, next⟩ | ⟨queued, same, numbered, rfl, queue, next⟩⟩⟩
  · simp only [testDrops, qosDrops, deliveries, List.filterMap_cons, List.filterMap_nil,
      List.filter_cons, List.filter_nil, List.mem_singleton, decide_true, if_true]
    exact held.settle (List.Perm.refl _) queue nobody next
  · rw [judged kept, old]
    simp only [testDrops, qosDrops, deliveries, List.filterMap_cons, List.filterMap_nil,
      List.filter_cons, List.filter_nil, List.not_mem_nil, decide_false, Bool.false_eq_true,
      if_false]
    exact held.settle (List.Perm.refl _) queue nobody next
  · have sent := deliveries_forwardDataFrame config same
      ⟨receipt.payload, frame, receipt.sourceAddress⟩
    rw [judged kept, fresh, Turn.now, sent]
    simp only [testDrops, qosDrops, forwardDataFrame, List.filterMap_cons, List.filterMap_nil,
      List.filter_cons, List.filter_nil, List.not_mem_nil, decide_false, Bool.false_eq_true,
      if_false]
    apply held.settle (List.Perm.refl _) queue _ next
    intro d among
    rw [List.mem_singleton.mp among]
    exact delivery_once distinct s.router now _
  · rw [judged kept, fresh]
    simp only [testDrops, qosDrops, deliveries, List.filterMap_nil, List.filter_cons,
      List.filter_nil, List.not_mem_nil, decide_false, Bool.false_eq_true, if_false]
    apply held.extend [queued]
    · rw [← same]
      exact List.Perm.refl _
    · exact queue
    · exact nobody
    · rw [← same]
      exact List.Sublist.refl _
    · exact List.pairwise_singleton _ _
    · exact Nat.le_trans (Nat.le_succ _) (Nat.le_of_eq next.symm)
    · intro q among
      rw [List.mem_singleton.mp among, numbered]
      exact ⟨Nat.le_refl _, Nat.lt_of_lt_of_eq (Nat.lt_succ_self _) next.symm⟩

/-! ## The flush -/

/-- The first goes out before the second. -/
def Before (left right : QueuedDataFrame) : Prop :=
  left.absoluteDeadlineNs < right.absoluteDeadlineNs ∨
    left.absoluteDeadlineNs = right.absoluteDeadlineNs ∧ left.order < right.order

theorem goesBefore_iff (left right : QueuedDataFrame) : goesBefore left right ↔
    left.absoluteDeadlineNs.toInt < right.absoluteDeadlineNs.toInt ∨
      left.absoluteDeadlineNs.toInt = right.absoluteDeadlineNs.toInt ∧
        left.order ≤ right.order := by
  unfold goesBefore
  rw [← Int64.lt_iff_toInt_lt, Int64.toInt_inj]
  split
  · next other => simp only [decide_eq_true_eq, other, false_and, or_false]
  · next same =>
      rw [not_ne_iff] at same
      simp only [decide_eq_true_eq, same, Int64.lt_irrefl, false_or, true_and]

/-- The queue in the order of the flush. -/
theorem flushed_sorted {queue : List QueuedDataFrame}
    (numbered : queue.Pairwise fun left right => left.order < right.order) :
    (queue.mergeSort goesBefore).Pairwise Before := by
  have sorted : (queue.mergeSort goesBefore).Pairwise fun left right => goesBefore left right :=
    List.pairwise_mergeSort (fun a b c ab bc => by
        rw [goesBefore_iff] at *
        omega)
      (fun a b => by
        rw [Bool.or_eq_true, goesBefore_iff, goesBefore_iff]
        omega) queue
  have different : (queue.mergeSort goesBefore).Pairwise fun left right =>
      left.order ≠ right.order := by
    apply ((List.mergeSort_perm queue goesBefore).pairwise_iff fun other => Ne.symm other).mpr
    exact numbered.imp Nat.ne_of_lt
  apply (sorted.and different).imp
  intro left right both
  obtain ⟨le, other⟩ := both
  rw [goesBefore_iff] at le
  unfold Before
  rw [Int64.lt_iff_toInt_lt, ← Int64.toInt_inj]
  omega

theorem flush_outputs (config : RouterConfig) (r : Router A) (now : Int) :
    testDrops ((r.purgeExpired now).flush config).1 = [] ∧
    qosDrops ((r.purgeExpired now).flush config).1 = [] ∧
    deliveries r now ((r.purgeExpired now).flush config).1 =
      (r.queuedDataFrames.mergeSort goesBefore).map fun queued =>
        delivery config r now queued.toReceivedFrame := by
  have data : ∀ queued : QueuedDataFrame,
      (r.purgeExpired now).forwardDataFrame config queued.toReceivedFrame =
        .dataForwarded queued.toReceivedFrame
          (delivery config r now queued.toReceivedFrame).targets := by
    intro queued
    rw [forwardDataFrame, topicAddresses_purge]
    rfl
  have sorted : (r.purgeExpired now).queuedDataFrames = r.queuedDataFrames := rfl
  dsimp only [flush]
  rw [sorted]
  refine ⟨?_, ?_, ?_⟩
  · apply List.filterMap_eq_nil_iff.mpr
    intro output among
    cases List.mem_append.mp among with
    | inl frames =>
        obtain ⟨queued, -, rfl⟩ := List.mem_map.mp frames
        rfl
    | inr fragments =>
        obtain ⟨queued, -, rfl⟩ := List.mem_map.mp fragments
        rfl
  · apply List.filterMap_eq_nil_iff.mpr
    intro output among
    cases List.mem_append.mp among with
    | inl frames =>
        obtain ⟨queued, -, rfl⟩ := List.mem_map.mp frames
        rfl
    | inr fragments =>
        obtain ⟨queued, -, rfl⟩ := List.mem_map.mp fragments
        rfl
  · have silent : deliveries r now (((r.purgeExpired now).queuedFragmentDatagrams.mergeSort
        fun left right => left.order ≤ right.order).map fun queued =>
          (r.purgeExpired now).forwardFragmentDatagram config queued.encodedFrame
            queued.sourceAddress) = [] := by
      apply List.filterMap_eq_nil_iff.mpr
      intro output among
      obtain ⟨queued, -, rfl⟩ := List.mem_map.mp among
      rfl
    have appended : ∀ first second : List RouterOutput, deliveries r now (first ++ second) =
        deliveries r now first ++ deliveries r now second := fun first second =>
      List.filterMap_append
    rw [appended, silent, List.append_nil, deliveries, List.filterMap_map]
    simp only [Function.comp_def, data]
    rw [← List.filterMap_eq_map]
    rfl

/-- A flush sends everything that waits. -/
theorem Accounted.flushes (distinct : config.peers.Nodup) (held : s.Accounted config) {now : Int}
    (h : s.step config policy offset (.flushes now) = some s') : s'.Accounted config := by
  obtain ⟨⟨outputs, router⟩, taken, rfl⟩ := Option.map_eq_some_iff.mp h
  have flushed := turn_flushes taken
  obtain ⟨noTest, noQos, sent⟩ := flush_outputs config s.router now
  rw [flushed] at noTest noQos sent
  obtain ⟨-, rfl⟩ := Prod.mk.inj flushed
  simp only [arrival, Option.toList_none, List.filter_nil, List.append_nil, noQos, Turn.now, sent]
  refine ⟨?_, ?_, List.nil_sublist _, List.Pairwise.nil, fun _ none => absurd none List.not_mem_nil⟩
  · refine held.conserved.trans ?_
    simp only [flush, List.map_nil, List.append_nil, List.map_append, List.map_map,
      List.append_assoc]
    apply List.Perm.append_left
    apply List.Perm.append_left
    refine List.perm_append_comm.trans (List.Perm.append_left _ ?_)
    exact (List.mergeSort_perm _ goesBefore).symm.map _
  · intro d among
    cases List.mem_append.mp among with
    | inl earlier => exact held.once d earlier
    | inr now_ =>
        obtain ⟨queued, -, rfl⟩ := List.mem_map.mp now_
        exact delivery_once distinct s.router now _

theorem Accounted.step (distinct : config.peers.Nodup) (held : s.Accounted config)
    (agree : s.ClocksAgree config offset t) (h : s.step config policy offset t = some s') :
    s'.Accounted config := by
  cases t with
  | flushes now => exact held.flushes distinct h
  | idles now =>
      apply held.quiet h rfl
      intro outputs router taken
      obtain ⟨rfl, rfl⟩ := turn_idles taken
      exact ⟨fun _ none => absurd none List.not_mem_nil, rfl, Nat.le_refl _⟩
  | receives now receipt =>
      by_cases data : ∃ frame, decodeDatagram receipt.payload = .ok (.dataFrame frame)
      · obtain ⟨frame, decoded⟩ := data
        exact held.receives distinct decoded agree h
      · apply held.quiet h
        · dsimp only [arrival]
          split
          · next frame decoded => exact absurd ⟨frame, decoded⟩ data
          · rfl
        · intro outputs router taken
          obtain ⟨-, datagram, decoded, receives⟩ := turn_receives taken
          have other := receiveDatagram_other config policy (s.router.purgeExpired now) now receipt
            fun frame same => data ⟨frame, same ▸ decoded⟩
          rw [receives] at other
          exact other

/-- A router that has just started. -/
def begin_ (state : A) : FrameRun A where
  router := Router.start state

/-- In a run in which the clocks agree on every frame and no static peer is listed twice, every
    data frame is accounted for, and a flush sends what waits by the deadline, then by arrival. -/
theorem frames_accounted (distinct : config.peers.Nodup) {state : A} {turns : List Turn}
    (agree : RunMeets (step config policy offset) (ClocksAgree config offset) (begin_ state) turns)
    (h : run (step config policy offset) (begin_ state) turns = some s) :
    s.Accounted config ∧ ∀ now s', s.step config policy offset (.flushes now) = some s' →
      ∃ released : List QueuedDataFrame, released.Perm s.router.queuedDataFrames ∧
        released.Pairwise Before ∧ s'.router.queuedDataFrames = [] ∧
        s'.delivered = s.delivered ++ released.map fun queued =>
          delivery config s.router now queued.toReceivedFrame := by
  have started : (begin_ state).Accounted config := {
    conserved := List.Perm.refl _
    once := fun _ none => absurd none List.not_mem_nil
    queued := List.Sublist.refl _
    numbered := List.Pairwise.nil
    below := fun _ none => absurd none List.not_mem_nil }
  have held : s.Accounted config :=
    run_invariant (fun held agree taken => held.step distinct agree taken) started agree h
  refine ⟨held, fun now s' flushes => ?_⟩
  obtain ⟨⟨outputs, router⟩, taken, rfl⟩ := Option.map_eq_some_iff.mp flushes
  have flushed := turn_flushes taken
  obtain ⟨-, -, sent⟩ := flush_outputs config s.router now
  rw [flushed] at sent
  obtain ⟨-, rfl⟩ := Prod.mk.inj flushed
  refine ⟨s.router.queuedDataFrames.mergeSort goesBefore, List.mergeSort_perm _ _,
    flushed_sorted held.numbered, rfl, ?_⟩
  exact congrArg (s.delivered ++ ·) sent

/-! ## Two clocks -/

/-- A router that drains its queue every 20 ms, with one static peer. -/
def drained : RouterConfig := { peers := [operator], expectedFrames := 10, schedulerWindowMs := 20 }

def stamped : DataFrame :=
  { topic := octets "/t", publisherId := octets "p", sourceTimestampNs := 1000000000000000000 }

set_option maxRecDepth 10000 in
theorem frames_accounted_stamped : ∃ s : FrameRun Unit,
    run (step drained (fun _ state => (true, state)) 1000000000000000000) (begin_ ())
      [.receives 100000000000 ⟨encodeDataFrameCompactV1 stamped, robot, 100000000000,
        100000000000⟩] = some s ∧
      s.router.queuedDataFrames.length = 1 ∧ s.Accounted drained := by
  have agree : RunMeets (step drained (fun _ state => (true, state)) 1000000000000000000)
      (ClocksAgree drained 1000000000000000000) (begin_ ())
      [.receives 100000000000 ⟨encodeDataFrameCompactV1 stamped, robot, 100000000000,
        100000000000⟩] := by
    refine ⟨?_, True.intro⟩
    intro frame _ _ lifespan live
    cases live
  exact ⟨_, rfl, rfl, (frames_accounted (by decide) agree rfl).1⟩

/-- The publisher of `/t` promises a lifespan of one second. -/
def lifespanAdvertisement : Bytes :=
  octets "FRMW1\n\x7b\"schema_version\":\"fleetrmw.graph_advertisement.v1\",\"action\":\"add\"," ++
  octets "\"entity_kind\":\"publisher\",\"topic\":\"/t\",\"qos\":\x7b\"lifespan_sec\":1\x7d\x7d"

set_option maxRecDepth 10000 in
/-- A frame that is older than a minute waits to be sent, because the steady clock is behind its
    stamp. -/
theorem aged_frame_waits : ∃ s : FrameRun Unit,
    run (step drained (fun _ state => (true, state)) 1000000000000000000) (begin_ ())
      [.receives 100000000000 ⟨lifespanAdvertisement, robot, 0, 0⟩,
        .receives 100100000000 ⟨encodeDataFrameCompactV1 stamped, robot, 100100000000,
          100100000000⟩] = some s ∧ ¬s.Accounted drained := by
  refine ⟨_, rfl, ?_⟩
  intro held
  have where_ := held.conserved.subset List.mem_cons_self
  have judged := congrArg JudgedFrame.aged (List.mem_singleton.mp where_)
  exact absurd judged (by decide)

end FrameRun

end FleetRMW.Rmw
