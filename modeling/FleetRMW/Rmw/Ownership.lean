import FleetRMW.Rmw.Subscriptions
import Mathlib.Data.List.Chain

/-! # Exclusive ownership

A subscription whose ownership is exclusive is delivered the frames of one publisher, its owner:
the last one admitted. Another takes over with more strength, or once the owner has been silent
for longer than the timeout.
-/

namespace FleetRMW.Rmw

open Lib

/-- A frame that comes in for a subscription. -/
structure FrameArrival where
  frame : DataFrame
  times : DeliveryTimes

namespace FrameArrival

def receiveNs (a : FrameArrival) : Int := a.times.receiveNs
def strength (a : FrameArrival) : Int32 := a.frame.ownershipStrength

/-- Who has sent it. -/
def publisher (a : FrameArrival) : Bytes × Bytes := (a.frame.robotId, a.frame.publisherId)

/-- `owner_key` -/
def ownerKey (a : FrameArrival) : Bytes := a.frame.robotId ++ octets "|" ++ a.frame.publisherId

/-- The identities are free of the separator. -/
def Plain (a : FrameArrival) : Prop := 124 ∉ a.frame.robotId ∧ 124 ∉ a.frame.publisherId

instance (a : FrameArrival) : Decidable a.Plain := inferInstanceAs (Decidable (_ ∧ _))

theorem ownerKey_ne_nil (a : FrameArrival) : a.ownerKey ≠ [] := by
  unfold ownerKey
  simp [octets]

theorem ownerKey_eq_iff {a b : FrameArrival} (plain : a.Plain) :
    a.ownerKey = b.ownerKey ↔ a.publisher = b.publisher := by
  have parts : ∀ c : FrameArrival, c.ownerKey = c.frame.robotId ++ 124 :: c.frame.publisherId :=
    fun c => List.append_assoc _ _ _
  rw [parts, parts, List.append_cons_inj_of_notMem plain.1 plain.2]
  unfold publisher
  simp

end FrameArrival

namespace CoherentSubscription

variable {sub : CoherentSubscription} {a o : FrameArrival} {arrivals : List FrameArrival}

def arrive (sub : CoherentSubscription) (a : FrameArrival) : CoherentSubscription :=
  sub.deliver a.times a.frame

def arriveAll (sub : CoherentSubscription) (arrivals : List FrameArrival) : CoherentSubscription :=
  arrivals.foldl arrive sub

/-- What `ownership_admits_delivery` answers for a frame that comes in now. -/
def admits (sub : CoherentSubscription) (a : FrameArrival) : Bool :=
  (sub.ownershipAdmitsDelivery a.frame a.receiveNs).1

/-- The frame is the one that has been admitted last. -/
structure OwnedBy (sub : CoherentSubscription) (o : FrameArrival) : Prop where
  key : sub.exclusiveOwnerKey = o.ownerKey
  strength : sub.exclusiveOwnerStrength = o.strength
  lastSeen : sub.exclusiveOwnerLastSeenNs = o.receiveNs

/-- Of the frames that came in it is the last one that was admitted. -/
def LastAdmitted (sub : CoherentSubscription) (arrivals : List FrameArrival) (o : FrameArrival) : Prop :=
  ∃ front back, arrivals = front ++ o :: back ∧ (sub.arriveAll front).admits o = true ∧
    ∀ before a after, back = before ++ a :: after →
      (sub.arriveAll (front ++ o :: before)).admits a = false

/-! ## One frame -/

/-- What a delivery does to the fields of the arbitration. -/
theorem arrive_arbitrates (isFor : sub.config.matchesFrame a.frame = true) :
    let after := (sub.ownershipAdmitsDelivery a.frame a.receiveNs).2
    (sub.arrive a).config = sub.config ∧
      (sub.arrive a).exclusiveOwnerKey = after.exclusiveOwnerKey ∧
      (sub.arrive a).exclusiveOwnerStrength = after.exclusiveOwnerStrength ∧
      (sub.arrive a).exclusiveOwnerLastSeenNs = after.exclusiveOwnerLastSeenNs := by
  obtain ⟨key, strength, lastSeen, same⟩ :=
    sub.ownershipAdmitsDelivery_spec a.frame a.receiveNs
  unfold arrive deliver
  rw [isFor]
  change _ ∧ _
  cases decided : sub.ownershipAdmitsDelivery a.frame a.times.receiveNs with
  | mk admitted sub₁ =>
      have after : (sub.ownershipAdmitsDelivery a.frame a.receiveNs).2 = sub₁ := by
        rw [FrameArrival.receiveNs, decided]
      rw [after] at same ⊢
      cases admitted with
      | false => exact ⟨same ▸ rfl, rfl, rfl, rfl⟩
      | true =>
          have config : sub₁.config = sub.config := same ▸ rfl
          simp only [Bool.not_true, Bool.false_eq_true, if_false]
          split
          case isTrue => exact ⟨config, rfl, rfl, rfl⟩
          case isFalse =>
            split
            case isTrue => exact ⟨config, rfl, rfl, rfl⟩
            case isFalse =>
              split
              case isTrue => exact ⟨config, rfl, rfl, rfl⟩
              case isFalse => exact ⟨config, rfl, rfl, rfl⟩

section
variable (exclusive : sub.config.exclusiveOwnership = true)
include exclusive

theorem admits_of_unowned (unowned : sub.exclusiveOwnerKey = []) : sub.admits a = true := by
  unfold admits ownershipAdmitsDelivery
  rw [exclusive]
  simp [unowned]

/-- Besides the owner itself, only a stronger publisher is admitted, or any after a silence. -/
theorem admits_iff (owned : sub.OwnedBy o) (plain : o.Plain) :
    sub.admits a = true ↔ a.publisher = o.publisher ∨ a.strength > o.strength ∨
      a.receiveNs - o.receiveNs > exclusiveOwnershipTimeoutNs := by
  have sameKey : o.ownerKey = a.frame.robotId ++ octets "|" ++ a.frame.publisherId ↔
      a.publisher = o.publisher :=
    (FrameArrival.ownerKey_eq_iff (b := a) plain).trans eq_comm
  unfold admits ownershipAdmitsDelivery
  rw [exclusive]
  simp only [Bool.not_true, Bool.false_eq_true, if_false, owned.key, owned.strength,
    owned.lastSeen, o.ownerKey_ne_nil, false_or, sameKey, ne_eq, not_false_eq_true, true_and]
  split
  case isTrue some_ => exact iff_of_true rfl some_
  case isFalse none_ => exact iff_of_false Bool.false_ne_true none_

variable (isFor : sub.config.matchesFrame a.frame = true)
include isFor

theorem arrive_admitted (admitted : sub.admits a = true) : (sub.arrive a).OwnedBy a := by
  obtain ⟨-, key, strength, lastSeen⟩ := arrive_arbitrates isFor
  unfold admits at admitted
  unfold ownershipAdmitsDelivery at admitted key strength lastSeen
  rw [exclusive] at admitted key strength lastSeen
  simp only [Bool.not_true, Bool.false_eq_true, if_false] at admitted key strength lastSeen
  split at admitted
  case isTrue some_ =>
    simp only [some_, if_true] at key strength lastSeen
    exact ⟨key, strength, lastSeen⟩
  case isFalse => cases admitted

theorem arrive_refused (refused : sub.admits a = false) (owned : sub.OwnedBy o) :
    (sub.arrive a).OwnedBy o := by
  obtain ⟨-, key, strength, lastSeen⟩ := arrive_arbitrates isFor
  have same : (sub.ownershipAdmitsDelivery a.frame a.receiveNs).2 = sub := by
    unfold admits at refused
    unfold ownershipAdmitsDelivery at refused ⊢
    rw [exclusive] at refused ⊢
    simp only [Bool.not_true, Bool.false_eq_true, if_false] at refused ⊢
    split at refused
    case isTrue => cases refused
    case isFalse none_ => rw [if_neg none_]
  rw [same] at key strength lastSeen
  exact ⟨key.trans owned.key, strength.trans owned.strength, lastSeen.trans owned.lastSeen⟩

end

/-! ## Runs -/

theorem arriveAll_concat : sub.arriveAll (arrivals ++ [a]) = (sub.arriveAll arrivals).arrive a :=
  List.foldl_concat ..

variable (sub) in
theorem arriveAll_config (isFor : ∀ a ∈ arrivals, sub.config.matchesFrame a.frame = true) :
    (sub.arriveAll arrivals).config = sub.config := by
  induction arrivals using List.reverseRecOn with
  | nil => rfl
  | append_singleton arrivals a ih =>
      have before := ih fun b among => isFor b (List.mem_append_left _ among)
      have isForA := isFor a (List.mem_append_right _ (List.mem_singleton_self _))
      rw [← before] at isForA
      rw [arriveAll_concat, (arrive_arbitrates isForA).1, before]

variable (arrivals) in
/-- After the first frame there is an owner. -/
theorem exists_owner {config : SubscriptionConfig} (exclusive : config.exclusiveOwnership = true)
    (isFor : ∀ a ∈ arrivals, config.matchesFrame a.frame = true) (some_ : arrivals ≠ []) :
    ∃ o ∈ arrivals, LastAdmitted { config } arrivals o ∧
      (arriveAll { config } arrivals).OwnedBy o := by
  induction arrivals using List.reverseRecOn with
  | nil => exact absurd rfl some_
  | append_singleton arrivals a ih =>
      have isForBefore : ∀ b ∈ arrivals, config.matchesFrame b.frame = true :=
        fun b among => isFor b (List.mem_append_left _ among)
      have same : (arriveAll { config } arrivals).config = config :=
        arriveAll_config { config } isForBefore
      have exclusive' : (arriveAll { config } arrivals).config.exclusiveOwnership = true := by
        rw [same, exclusive]
      have isForA : (arriveAll { config } arrivals).config.matchesFrame a.frame = true := by
        rw [same]
        exact isFor a (List.mem_append_right _ (List.mem_singleton_self _))
      rw [arriveAll_concat]
      cases admitted : (arriveAll { config } arrivals).admits a with
      | true =>
          refine ⟨a, List.mem_append_right _ (List.mem_singleton_self _), ⟨arrivals, [], rfl,
            admitted, ?_⟩, arrive_admitted exclusive' isForA admitted⟩
          intro before b after none_
          exact absurd none_.symm (List.append_ne_nil_of_right_ne_nil _ (List.cons_ne_nil _ _))
      | false =>
          have started : arrivals ≠ [] := by
            rintro rfl
            rw [admits_of_unowned exclusive' rfl] at admitted
            cases admitted
          obtain ⟨o, among, last, owned⟩ := ih isForBefore started
          obtain ⟨front, back, rfl, admittedO, refused⟩ := last
          refine ⟨o, List.mem_append_left _ among, ⟨front, back ++ [a], ?_, admittedO, ?_⟩,
            arrive_refused exclusive' isForA admitted owned⟩
          · rw [List.append_assoc, List.cons_append]
          · intro before b after parts
            rcases List.eq_nil_or_concat after with rfl | ⟨after, c, rfl⟩
            · obtain ⟨rfl, same⟩ := List.append_inj' parts rfl
              rw [← List.singleton_inj.mp same]
              exact admitted
            · rw [List.concat_eq_append, ← List.cons_append, ← List.append_assoc] at parts
              exact refused before b after (List.append_inj' parts rfl).1

/-! ## The strongest publisher -/

/-- The frames of the publisher, in their order. -/
def framesOf (publisher : Bytes × Bytes) (arrivals : List FrameArrival) : List FrameArrival :=
  arrivals.filter fun a => a.publisher = publisher

/-- From its first frame on the publisher is stronger than all others, and it is never silent for
    longer than the timeout. -/
structure Leads (publisher : Bytes × Bytes) (earlier : List FrameArrival) (first : FrameArrival)
    (later : List FrameArrival) : Prop where
  own : first.publisher = publisher
  stronger : ∀ a ∈ earlier ++ first :: later, a.publisher = publisher →
    ∀ b ∈ earlier ++ first :: later, b.publisher ≠ publisher → b.strength < a.strength
  fresh : ∀ a ∈ earlier, a.publisher ≠ publisher
  regular : (framesOf publisher (first :: later)).IsChain fun a b =>
    b.receiveNs - a.receiveNs ≤ exclusiveOwnershipTimeoutNs

/-- The frame comes in no later than the timeout after some frame of the publisher. -/
def InTime (publisher : Bytes × Bytes) (arrivals : List FrameArrival) (a : FrameArrival) : Prop :=
  ∃ p ∈ arrivals, p.publisher = publisher ∧
    a.receiveNs - p.receiveNs ≤ exclusiveOwnershipTimeoutNs

section
variable {publisher : Bytes × Bytes} {x : FrameArrival} {earlier front back later : List FrameArrival}
  {first : FrameArrival}

/-- Until it is in time for a frame of the publisher, a frame of another one finds no silence. -/
theorem silence_le (regular : (framesOf publisher (front ++ x :: back)).IsChain fun a b =>
      b.receiveNs - a.receiveNs ≤ exclusiveOwnershipTimeoutNs)
    (ordered : (front ++ x :: back).Pairwise fun a b => a.receiveNs ≤ b.receiveNs)
    (inTime : InTime publisher (front ++ x :: back) x) (other : x.publisher ≠ publisher)
    (last : (framesOf publisher front).getLast? = some o) :
    x.receiveNs - o.receiveNs ≤ exclusiveOwnershipTimeoutNs := by
  obtain ⟨p, among, isMine, near⟩ := inTime
  obtain ⟨frontOrdered, backOrdered, -⟩ := List.pairwise_append.mp ordered
  rcases List.mem_append.mp among with inFront | behind
  · -- The last frame is at least as late as the one that `x` is in time for.
    have mine : p ∈ framesOf publisher front := List.mem_filter.mpr ⟨inFront, by simpa using isMine⟩
    obtain ⟨init, parts⟩ := List.getLast?_eq_some_iff.mp last
    have mineOrdered : (framesOf publisher front).Pairwise fun a b => a.receiveNs ≤ b.receiveNs :=
      frontOrdered.sublist List.filter_sublist
    rw [parts] at mine mineOrdered
    have le : p.receiveNs ≤ o.receiveNs := by
      rcases List.mem_append.mp mine with before | here
      · exact (List.pairwise_append.mp mineOrdered).2.2 p before o (List.mem_singleton_self _)
      · rw [List.mem_singleton.mp here]
    omega
  · -- The publisher's next frame is at least as late as `x`.
    have inBack : p ∈ back := by
      cases List.mem_cons.mp behind with
      | inl same => exact absurd (same ▸ isMine) other
      | inr inBack => exact inBack
    have notMine : framesOf publisher (x :: back) = framesOf publisher back :=
      List.filter_cons_of_neg (by simpa using other)
    have mine : p ∈ framesOf publisher back := List.mem_filter.mpr ⟨inBack, by simpa using isMine⟩
    obtain ⟨q, rest, next⟩ := List.exists_cons_of_ne_nil (List.ne_nil_of_mem mine)
    have near : q.receiveNs - o.receiveNs ≤ exclusiveOwnershipTimeoutNs := by
      rw [framesOf, List.filter_append, List.isChain_append] at regular
      apply regular.2.2 o last q
      change (framesOf publisher (x :: back)).head? = some q
      rw [notMine, next, List.head?_cons]
    have isNext : q ∈ framesOf publisher back := next ▸ List.mem_cons_self
    have le := (List.pairwise_cons.mp backOrdered).1 q (List.mem_filter.mp isNext).1
    omega

theorem framesOf_concat : framesOf publisher (front ++ [x]) =
    framesOf publisher front ++ if x.publisher = publisher then [x] else [] := by
  unfold framesOf
  rw [List.filter_append]
  split
  case isTrue mine => simp [mine]
  case isFalse other => simp [other]

variable {config : SubscriptionConfig} (exclusive : config.exclusiveOwnership = true)
  (isFor : ∀ a ∈ earlier ++ first :: later, config.matchesFrame a.frame = true)
  (plain : ∀ a ∈ earlier ++ first :: later, a.Plain)
  (ordered : (earlier ++ first :: later).Pairwise fun a b => a.receiveNs ≤ b.receiveNs)
  (leads : Leads publisher earlier first later)
include exclusive isFor plain ordered leads

/-- Where the owner is the publisher's last frame, or the publisher's first frame comes in, exactly
    the publisher is admitted. -/
theorem leader_decides (parts : first :: later = front ++ x :: back)
    (inTime : InTime publisher (first :: later) x)
    (owned : front ≠ [] → ∃ o, (framesOf publisher front).getLast? = some o ∧
      (arriveAll { config } (earlier ++ front)).OwnedBy o) :
    (arriveAll { config } (earlier ++ front)).admits x = true ↔ x.publisher = publisher := by
  have whole : earlier ++ first :: later = (earlier ++ front) ++ x :: back := by
    rw [parts, List.append_assoc]
  have isForBefore : ∀ a ∈ earlier ++ front, config.matchesFrame a.frame = true :=
    fun a among => isFor a (whole ▸ List.mem_append_left _ among)
  have exclusive' : (arriveAll { config } (earlier ++ front)).config.exclusiveOwnership = true := by
    rw [arriveAll_config { config } isForBefore, exclusive]
  have amongX : x ∈ earlier ++ first :: later :=
    whole ▸ List.mem_append_right _ List.mem_cons_self
  by_cases begun : front = []
  case pos =>
    subst begun
    obtain ⟨rfl, -⟩ := List.cons.inj parts
    refine iff_of_true ?_ leads.own
    by_cases unowned : earlier = []
    case pos =>
      subst unowned
      exact admits_of_unowned exclusive' rfl
    case neg =>
      obtain ⟨o, among, -, ownedBy⟩ := exists_owner (earlier ++ []) exclusive
        isForBefore (by simpa using unowned)
      rw [List.append_nil] at among
      apply (admits_iff exclusive' ownedBy (plain o (List.mem_append_left _ among))).mpr
      exact .inr (.inl (leads.stronger first amongX leads.own o
        (List.mem_append_left _ among) (leads.fresh o among)))
  case neg =>
    obtain ⟨o, last, ownedBy⟩ := owned begun
    obtain ⟨inFront, isMine⟩ := List.mem_filter.mp (List.mem_of_getLast? last)
    have mine : o.publisher = publisher := by simpa using isMine
    have amongO : o ∈ earlier ++ first :: later :=
      whole ▸ List.mem_append_left _ (List.mem_append_right _ inFront)
    rw [admits_iff exclusive' ownedBy (plain o amongO), mine, or_iff_left_iff_imp]
    intro taken
    by_contra other
    have weaker := leads.stronger o amongO mine x amongX other
    have soon := silence_le (parts ▸ leads.regular)
      (parts ▸ (List.pairwise_append.mp ordered).2.1) (parts ▸ inTime) other last
    rcases taken with stronger | silent
    · exact absurd weaker (Int32.lt_asymm stronger)
    · omega

/-- As long as the frames come in time, the owner is the publisher's last frame. -/
theorem owned_by_leader (parts : first :: later = front ++ back) (some_ : front ≠ [])
    (inTime : ∀ a ∈ front, InTime publisher (first :: later) a) :
    ∃ o, (framesOf publisher front).getLast? = some o ∧
      (arriveAll { config } (earlier ++ front)).OwnedBy o := by
  induction front using List.reverseRecOn generalizing back with
  | nil => exact absurd rfl some_
  | append_singleton front x ih =>
      rw [List.append_assoc, List.singleton_append] at parts
      have before : front ≠ [] → _ := fun begun =>
        ih parts begun fun a among => inTime a (List.mem_append_left _ among)
      have decides := leader_decides exclusive isFor plain ordered leads parts
        (inTime x (List.mem_append_right _ (List.mem_singleton_self _))) before
      have whole : earlier ++ first :: later = (earlier ++ front) ++ x :: back := by
        rw [parts, List.append_assoc]
      have same : (arriveAll { config } (earlier ++ front)).config = config :=
        arriveAll_config { config } fun a among =>
          isFor a (whole ▸ List.mem_append_left _ among)
      have exclusive' : (arriveAll { config } (earlier ++ front)).config.exclusiveOwnership =
          true := by rw [same, exclusive]
      have isForX : (arriveAll { config } (earlier ++ front)).config.matchesFrame x.frame =
          true := by
        rw [same]
        exact isFor x (whole ▸ List.mem_append_right _ List.mem_cons_self)
      rw [← List.append_assoc, arriveAll_concat, framesOf_concat]
      by_cases mine : x.publisher = publisher
      case pos =>
        rw [if_pos mine, List.getLast?_concat]
        exact ⟨x, rfl, arrive_admitted exclusive' isForX (decides.mpr mine)⟩
      case neg =>
        have begun : front ≠ [] := by
          rintro rfl
          obtain ⟨rfl, -⟩ := List.cons.inj parts
          exact mine leads.own
        obtain ⟨o, last, ownedBy⟩ := before begun
        rw [if_neg mine, List.append_nil]
        exact ⟨o, last, arrive_refused exclusive' isForX
          (Bool.eq_false_iff.mpr (mt decides.mp mine)) ownedBy⟩

end

/-- From the first frame of the strongest publisher until the timeout after its last one exactly its
    frames are admitted. And after the first frame there is always an owner, the publisher of the
    frame that was admitted last; a frame of another one is admitted exactly if it is stronger than
    that frame, or came after more than the timeout. -/
theorem exclusive_owner_decides (config : SubscriptionConfig)
    (exclusive : config.exclusiveOwnership = true) (arrivals : List FrameArrival)
    (isFor : ∀ a ∈ arrivals, config.matchesFrame a.frame = true)
    (plain : ∀ a ∈ arrivals, a.Plain)
    (ordered : arrivals.Pairwise fun a b => a.receiveNs ≤ b.receiveNs) :
    (∀ publisher earlier first later, arrivals = earlier ++ first :: later →
      Leads publisher earlier first later →
      ∀ front a back, first :: later = front ++ a :: back → InTime publisher (first :: later) a →
        ((arriveAll { config } (earlier ++ front)).admits a = true ↔ a.publisher = publisher)) ∧
    ∀ front a back, arrivals = front ++ a :: back → front ≠ [] →
      ∃ o, LastAdmitted { config } front o ∧
        ((arriveAll { config } front).admits a = true ↔ a.publisher = o.publisher ∨
          a.strength > o.strength ∨ a.receiveNs - o.receiveNs > exclusiveOwnershipTimeoutNs) := by
  constructor
  · rintro publisher earlier first later rfl leads front a back parts inTime
    apply leader_decides exclusive isFor plain ordered leads parts inTime
    intro started
    apply owned_by_leader exclusive isFor plain ordered leads parts started
    -- What came before is in time as well.
    intro b inFront
    obtain ⟨p, among, mine, near⟩ := inTime
    have le : b.receiveNs ≤ a.receiveNs := by
      have later := (List.pairwise_append.mp ordered).2.1
      rw [parts] at later
      exact (List.pairwise_append.mp later).2.2 b inFront a List.mem_cons_self
    exact ⟨p, among, mine, by omega⟩
  · rintro front a back rfl started
    have isForFront : ∀ b ∈ front, config.matchesFrame b.frame = true :=
      fun b among => isFor b (List.mem_append_left _ among)
    obtain ⟨o, among, last, owned⟩ := exists_owner front exclusive isForFront started
    refine ⟨o, last, admits_iff ?_ owned (plain o (List.mem_append_left _ among))⟩
    rw [arriveAll_config { config } isForFront, exclusive]

/-- A frame of robot `a`, or of the stronger robot `b`. -/
def robotArrival (robot : UInt8) (strength : Int32) (receiveNs : Int) : FrameArrival where
  frame := { robotId := [robot], publisherId := [49], ownershipStrength := strength }
  times := ⟨receiveNs, fun _ => 0⟩

theorem exclusive_owner_decides_twoRobots :
    let arrivals := [robotArrival 97 1 0, robotArrival 98 2 5, robotArrival 97 1 10,
      robotArrival 97 1 1500000006]
    let sub : CoherentSubscription := { config := { exclusiveOwnership := true } }
    (∀ a ∈ arrivals, sub.config.matchesFrame a.frame = true) ∧
      (sub.arriveAll (arrivals.take 2)).admits (robotArrival 97 1 10) = false ∧
      (sub.arriveAll (arrivals.take 3)).admits (robotArrival 97 1 1500000006) = true := by
  have decides := exclusive_owner_decides { exclusiveOwnership := true } rfl
    [robotArrival 97 1 0, robotArrival 98 2 5, robotArrival 97 1 10, robotArrival 97 1 1500000006]
    (by decide) (by decide) (by decide)
  have leads : Leads ([98], [49]) [robotArrival 97 1 0] (robotArrival 98 2 5)
      [robotArrival 97 1 10, robotArrival 97 1 1500000006] :=
    ⟨rfl, by decide, by decide, by decide⟩
  refine ⟨by decide, ?_, by decide⟩
  have refused := decides.1 ([98], [49]) [robotArrival 97 1 0] (robotArrival 98 2 5)
    [robotArrival 97 1 10, robotArrival 97 1 1500000006] rfl leads [robotArrival 98 2 5]
    (robotArrival 97 1 10) [robotArrival 97 1 1500000006] rfl
    ⟨robotArrival 98 2 5, List.mem_cons_self, rfl, by decide⟩
  exact Bool.eq_false_iff.mpr fun admitted => absurd (refused.mp admitted) (by decide)

end CoherentSubscription

end FleetRMW.Rmw
