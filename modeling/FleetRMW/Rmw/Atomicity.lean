import FleetRMW.Rmw.Coherent
import FleetRMW.Rmw.FrameRoundTrip
import FleetRMW.Rmw.Retention
import FleetRMW.Rmw.Subscriptions

/-! # Coherent sets are atomic in undisturbed runs

What a subscription has observed stems from frames that are not kept back, so the members of a
set are new to it when the set is released, and whatever copies of them come later are not.
-/

namespace FleetRMW.Rmw

open Lib

/-! ## Streams and samples -/

namespace DataFrame

variable {f g : DataFrame}

/-- The frame as it was published. -/
def untagged (f : DataFrame) : DataFrame :=
  { f with coherentSetId := [], coherentSetTotal := 0, coherentSetIndex := 0 }

theorem streamKey_eq_iff_of_plain (plain : 124 ∉ f.publisherId) (plain' : 124 ∉ g.publisherId)
    (same : streamKey f = streamKey g) : f.publisherId = g.publisherId := by
  have shape : ∀ h : DataFrame, streamKey h = (h.robotId ++ octets "|" ++ h.topic) ++
      124 :: h.publisherId := fun h => List.append_assoc _ _ _
  rw [shape, shape] at same
  exact (append_delimiter_right plain plain' same).2

theorem sample_eq_of_stream (plain : 124 ∉ f.publisherId) (plain' : 124 ∉ g.publisherId)
    (sameKey : streamKey f = streamKey g)
    (sameNumber : f.sourceSequenceNumber = g.sourceSequenceNumber) :
    CoherentRun.sample f = CoherentRun.sample g :=
  Prod.ext (streamKey_eq_iff_of_plain plain plain' sameKey) sameNumber

@[simp] theorem sample_untagged : CoherentRun.sample f.untagged = CoherentRun.sample f := rfl

@[simp] theorem streamKey_untagged : streamKey f.untagged = streamKey f := rfl

@[simp] theorem matchesFrame_untagged (c : SubscriptionConfig) :
    c.matchesFrame f.untagged = c.matchesFrame f := rfl

end DataFrame

/-! ## What holds in undisturbed runs -/

/-- An element of a list without repetitions comes from one place. -/
theorem eq_of_nodup_flatMap {α β : Type*} {parts : α → List β} {l : List α} {x : β}
    (distinct : (l.flatMap parts).Nodup) {a b : α} (isPart : a ∈ l) (isPart' : b ∈ l)
    (inside : x ∈ parts a) (inside' : x ∈ parts b) : a = b := by
  induction l with
  | nil => cases isPart
  | cons c l ih =>
      obtain ⟨-, rest, apart⟩ := List.nodup_append.mp distinct
      have elsewhere : ∀ d ∈ l, x ∈ parts c → x ∉ parts d := by
        intro d later first second
        exact apart x first x (List.mem_flatMap.mpr ⟨d, later, second⟩) rfl
      cases List.mem_cons.mp isPart with
      | inl first =>
          cases List.mem_cons.mp isPart' with
          | inl first' => exact first.trans first'.symm
          | inr later' => exact absurd inside' (elsewhere b later' (first ▸ inside))
      | inr later =>
          cases List.mem_cons.mp isPart' with
          | inl first' => exact absurd inside (elsewhere a later (first' ▸ inside'))
          | inr later' => exact ih rest later later'

namespace CoherentRun

variable {process : CoherentProcess} {s s' : CoherentRun} {f g : DataFrame} {set_ : CoherentSet}

/-- The frame is a copy of a published one that is not kept back. -/
def Free (s : CoherentRun) (f : DataFrame) : Prop :=
  f.untagged ∈ s.published ∧ ¬s.Unreleased (sample f)

/-- The frames that have been kept back, those of the sets included. -/
def deferred (s : CoherentRun) : List DataFrame :=
  s.sets.flatMap CoherentSet.members ++ s.keptBack

/-- The members carry the set's data. -/
structure Tagged (set_ : CoherentSet) : Prop where
  some_ : set_.members ≠ []
  fits : set_.members.length < 2 ^ 32
  named : ∃ group k, set_.id = group ++ 124 :: decimal k
  data : ∀ i m, set_.members[i]? = some m → m.coherentSetId = set_.id ∧
    m.coherentSetTotal = UInt32.ofNat set_.members.length ∧ m.coherentSetIndex = UInt32.ofNat i

/-- What a subscription has seen and queued. -/
structure Served (s : CoherentRun) (sub : CoherentSubscription) : Prop where
  baselined : sub.Baselined
  origin : ∀ key n, sub.Observed key n → ∃ g, s.Free g ∧ key = streamKey g ∧
    n = g.sourceSequenceNumber
  members : ∀ set_ ∈ s.sets, set_.id ∈ s.receiver.released → ∀ m ∈ set_.members,
    sub.config.matchesFrame m = true → sub.Observed (streamKey m) m.sourceSequenceNumber
  free : ∀ f ∈ sub.enqueued, s.Free f
  queued : ∀ set_ ∈ s.sets, set_.id ∈ s.receiver.released →
    sub.enqueued.filter (ofSet set_) = set_.members.filter sub.config.takes

/-- What the steps of an undisturbed run preserve. -/
structure Sound (s : CoherentRun) : Prop where
  plain : ∀ f ∈ s.published, 124 ∉ f.publisherId ∧ f.untagged = f
  used : ∀ f ∈ s.published, s.sender.nextSourceSequence f.publisherId ≠ 0 →
    f.sourceSequenceNumber < s.sender.nextSourceSequence f.publisherId
  distinct : (s.published.map sample).Nodup
  known : ∀ f ∈ s.deferred, f.untagged ∈ s.published
  apart : (s.deferred.map sample).Nodup
  groups : (s.publishPending.map Prod.fst).Nodup
  tagged : ∀ set_ ∈ s.sets, Tagged set_
  numbered : ∀ set_ ∈ s.sets, ∀ group k, set_.id = group ++ 124 :: decimal k →
    k < s.coherentSetSequence
  ids : (s.sets.map CoherentSet.id).Nodup
  wire : ∀ datagram ∈ s.wire, ∃ f, decodeDataFrame none datagram = .ok (some f) ∧
    (f.coherentSetId = [] ∧ s.Free f ∨ ∃ set_ ∈ s.sets, f ∈ set_.members)
  ledger : ∀ item ∈ s.sender.ledger, ∃ f,
    decodeDataFrame none item.2.encodedFrame = .ok (some f) ∧ f.coherentSetId = [] ∧
    f.untagged ∈ s.published ∧ sample f = (item.2.publisherId, item.2.sourceSequenceNumber)
  buffers : ∀ id frames, s.receiver.receiveBuffers.get? id = some frames →
    ∃ set_ ∈ s.sets, set_.id = id ∧ (∀ f ∈ frames, f ∈ set_.members) ∧
      (id ∉ s.receiver.released → frames.Nodup ∧ frames.length < set_.members.length)
  released : ∀ id ∈ s.receiver.released, ∃ set_ ∈ s.sets, set_.id = id
  served : ∀ sub ∈ s.receiver.subscriptions, s.Served sub

namespace Sound

theorem known_member (sound : s.Sound) (isSet : set_ ∈ s.sets) (isMember : f ∈ set_.members) :
    f.untagged ∈ s.published :=
  sound.known f (List.mem_append_left _ (List.mem_flatMap.mpr ⟨set_, isSet, isMember⟩))

/-- What is not released has been published. -/
theorem published_of_unreleased (sound : s.Sound) {x : Bytes × UInt64} (held : s.Unreleased x) :
    ∃ f ∈ s.published, sample f = x := by
  cases held with
  | inl kept =>
      obtain ⟨f, among, same⟩ := kept
      exact ⟨f.untagged, sound.known f (List.mem_append_right _ among), same⟩
  | inr member =>
      obtain ⟨set_, isSet, -, m, isMember, same⟩ := member
      exact ⟨m.untagged, sound.known_member isSet isMember, same⟩

/-- Copies of one publication agree up to the set's data. -/
theorem untagged_eq (sound : s.Sound) (known : f.untagged ∈ s.published)
    (known' : g.untagged ∈ s.published) (same : sample f = sample g) : f.untagged = g.untagged :=
  List.inj_on_of_nodup_map sound.distinct known known' same

theorem plainId (sound : s.Sound) (known : f.untagged ∈ s.published) : 124 ∉ f.publisherId :=
  (sound.plain _ known).1

/-- Members of different sets are different samples, and so are a member and a frame that is kept
    back. -/
theorem set_of_sample (sound : s.Sound) {set' : CoherentSet} (isSet : set_ ∈ s.sets)
    (isSet' : set' ∈ s.sets) (isMember : f ∈ set_.members) (isMember' : g ∈ set'.members)
    (same : sample f = sample g) : set_ = set' := by
  have apart := sound.apart
  rw [deferred, List.map_append, List.map_flatMap] at apart
  exact eq_of_nodup_flatMap (List.Nodup.of_append_left apart) isSet isSet'
    (List.mem_map_of_mem isMember) (same ▸ List.mem_map_of_mem isMember')

/-- A member of a released set is free. -/
theorem free_of_released (sound : s.Sound) (isSet : set_ ∈ s.sets)
    (isReleased : set_.id ∈ s.receiver.released) (isMember : f ∈ set_.members) : s.Free f := by
  refine ⟨sound.known_member isSet isMember, ?_⟩
  intro held
  cases held with
  | inl kept =>
      obtain ⟨g, among, same⟩ := kept
      have apart := sound.apart
      rw [deferred, List.map_append] at apart
      refine (List.nodup_append.mp apart).2.2 (sample f) ?_ (sample g) ?_ same.symm
      · exact List.mem_map_of_mem (List.mem_flatMap.mpr ⟨set_, isSet, isMember⟩)
      · exact List.mem_map_of_mem among
  | inr member =>
      obtain ⟨set', isSet', notReleased, m, isMember', same⟩ := member
      obtain rfl := sound.set_of_sample isSet' isSet isMember' isMember same
      exact notReleased isReleased

/-- The members of a set come on different streams or with different numbers. -/
theorem members_distinct (sound : s.Sound) (isSet : set_ ∈ s.sets) :
    (set_.members.map fun m => (streamKey m, m.sourceSequenceNumber)).Nodup := by
  have apart := sound.apart
  rw [deferred, List.map_append, List.map_flatMap] at apart
  have samples := (List.nodup_flatMap.mp (List.Nodup.of_append_left apart)).1 set_ isSet
  refine List.pairwise_map.mpr ((List.pairwise_map.mp samples).imp_of_mem ?_)
  intro f g isMember isMember' different same
  obtain ⟨sameKey, sameNumber⟩ := Prod.mk.inj same
  exact different (DataFrame.sample_eq_of_stream (sound.plainId (sound.known_member isSet isMember))
    (sound.plainId (sound.known_member isSet isMember')) sameKey sameNumber)

end Sound

/-! ## Steps of the publishing process -/

/-- What has been published stays so, and of that no more is kept back. -/
structure Extends (s s' : CoherentRun) : Prop where
  published : ∀ f ∈ s.published, f ∈ s'.published
  unreleased : ∀ f ∈ s.published, s'.Unreleased (sample f) → s.Unreleased (sample f)

theorem Free.extend (free : s.Free f) (extends_ : s.Extends s') : s'.Free f := by
  refine ⟨extends_.published _ free.1, ?_⟩
  intro held
  exact free.2 (extends_.unreleased f.untagged free.1 held)

theorem Served.extend {sub : CoherentSubscription} (served : s.Served sub)
    (extends_ : s.Extends s')
    (sets : ∀ set_ ∈ s'.sets, set_.id ∈ s'.receiver.released →
      set_ ∈ s.sets ∧ set_.id ∈ s.receiver.released) : s'.Served sub where
  baselined := served.baselined
  origin key n observed := by
    obtain ⟨g, free, same⟩ := served.origin key n observed
    exact ⟨g, free.extend extends_, same⟩
  members set_ isSet isReleased :=
    served.members set_ (sets set_ isSet isReleased).1 (sets set_ isSet isReleased).2
  free f among := (served.free f among).extend extends_
  queued set_ isSet isReleased :=
    served.queued set_ (sets set_ isSet isReleased).1 (sets set_ isSet isReleased).2

namespace Sound

variable {p : Publication} {publisherId : Bytes}

theorem beginCoherentChanges (sound : s.Sound) :
    (s.beginCoherentChanges process publisherId).Sound := by
  unfold CoherentRun.beginCoherentChanges
  dsimp only
  split
  · exact sound
  · exact ⟨sound.plain, sound.used, sound.distinct, sound.known, sound.apart, sound.groups,
      sound.tagged, sound.numbered, sound.ids, sound.wire, sound.ledger, sound.buffers,
      sound.released, fun sub among =>
        have served := sound.served sub among
        ⟨served.baselined, served.origin, served.members, served.free, served.queued⟩⟩

/-- The publication that takes a publisher's next number. -/
def nextFrame (process : CoherentProcess) (s : CoherentRun) (p : Publication) : DataFrame :=
  p.frame process.toLedgerProcess (s.sender.nextSourceSequence p.publisherId)

theorem sample_ne_nextFrame (sound : s.Sound)
    (fresh : s.sender.nextSourceSequence p.publisherId ≠ 0) (among : f ∈ s.published) :
    sample f ≠ sample (nextFrame process s p) := by
  intro same
  obtain ⟨sameId, sameNumber⟩ := Prod.mk.inj same
  have sameId : f.publisherId = p.publisherId := sameId
  have sameNumber : f.sourceSequenceNumber = s.sender.nextSourceSequence p.publisherId := sameNumber
  have below := sound.used f among
  rw [sameId, sameNumber] at below
  exact UInt64.lt_irrefl _ (below fresh)

theorem nextFrame_not_unreleased (sound : s.Sound)
    (fresh : s.sender.nextSourceSequence p.publisherId ≠ 0) :
    ¬s.Unreleased (sample (nextFrame process s p)) := by
  intro held
  obtain ⟨f, among, same⟩ := sound.published_of_unreleased held
  exact sound.sample_ne_nextFrame fresh among same

/-- Publishing keeps everything sound, wherever the frame goes. -/
theorem record (sound : s.Sound) (fresh : s.sender.nextSourceSequence p.publisherId ≠ 0)
    (plainId : 124 ∉ p.publisherId)
    (decoded : decodeDataFrame none (process.encodeFrame (nextFrame process s p)) =
      .ok (some (nextFrame process s p)))
    (sender : s'.sender = s.sender.publish process.toLedgerProcess p)
    (published : s'.published = s.published ++ [nextFrame process s p])
    (sets : s'.sets = s.sets) (receiver : s'.receiver = s.receiver)
    (sequence : s'.coherentSetSequence = s.coherentSetSequence)
    (groups : (s'.publishPending.map Prod.fst).Nodup)
    (kept : ∀ f ∈ s'.keptBack, f ∈ s.keptBack ∨ f = nextFrame process s p)
    (apart : (s'.deferred.map sample).Nodup)
    (wire : ∀ datagram ∈ s'.wire, datagram ∈ s.wire ∨
      datagram = process.encodeFrame (nextFrame process s p) ∧
        ¬s'.Unreleased (sample (nextFrame process s p))) : s'.Sound := by
  have extends_ : s.Extends s' := by
    constructor
    · intro f among
      rw [published]
      exact List.mem_append_left _ among
    · intro f among held
      cases held with
      | inl back =>
          obtain ⟨g, isKept, same⟩ := back
          cases kept g isKept with
          | inl before => exact .inl ⟨g, before, same⟩
          | inr new =>
              subst new
              exact absurd same.symm (sound.sample_ne_nextFrame fresh among)
      | inr member =>
          rw [sets, receiver] at member
          exact .inr member
  have new : nextFrame process s p ∈ s'.published := by
    rw [published]
    exact List.mem_append_right _ List.mem_cons_self
  constructor
  case plain =>
    intro f among
    rw [published] at among
    cases List.mem_append.mp among with
    | inl old => exact sound.plain f old
    | inr last =>
        obtain rfl := List.mem_singleton.mp last
        exact ⟨plainId, rfl⟩
  case used =>
    intro f among some_
    rw [sender] at some_ ⊢
    simp only [LedgerState.publish] at some_ ⊢
    rw [published] at among
    cases List.mem_append.mp among with
    | inl old =>
        by_cases same : f.publisherId = p.publisherId
        · have below := sound.used f old
          rw [same, Function.update_self] at some_ ⊢
          rw [same] at below
          exact next_of_lt fresh some_ (UInt64.le_of_lt (below fresh))
        · rw [Function.update_of_ne same] at some_ ⊢
          exact sound.used f old some_
    | inr last =>
        obtain rfl := List.mem_singleton.mp last
        rw [show (nextFrame process s p).publisherId = p.publisherId from rfl,
          Function.update_self] at some_ ⊢
        exact next_of_lt fresh some_ (UInt64.le_refl _)
  case distinct =>
    rw [published, List.map_append]
    refine List.nodup_append.mpr ⟨sound.distinct, List.nodup_singleton _, ?_⟩
    intro x old y last
    obtain ⟨f, among, rfl⟩ := List.mem_map.mp old
    obtain rfl := List.mem_singleton.mp last
    exact sound.sample_ne_nextFrame fresh among
  case known =>
    intro f among
    rw [deferred, sets] at among
    cases List.mem_append.mp among with
    | inl member => exact extends_.published _ (sound.known f (List.mem_append_left _ member))
    | inr back =>
        cases kept f back with
        | inl before => exact extends_.published _ (sound.known f (List.mem_append_right _ before))
        | inr last => exact last ▸ new
  case apart => exact apart
  case groups => exact groups
  case tagged =>
    rw [sets]
    exact sound.tagged
  case numbered =>
    rw [sets, sequence]
    exact sound.numbered
  case ids =>
    rw [sets]
    exact sound.ids
  case wire =>
    intro datagram among
    rw [sets]
    cases wire datagram among with
    | inl old =>
        obtain ⟨f, read, kind⟩ := sound.wire datagram old
        exact ⟨f, read, kind.imp_left fun free => ⟨free.1, free.2.extend extends_⟩⟩
    | inr last =>
        obtain ⟨rfl, free⟩ := last
        exact ⟨_, decoded, .inl ⟨rfl, new, free⟩⟩
  case ledger =>
    intro item among
    obtain ⟨pooled, written⟩ :=
      s.sender.publish_ledger process.toLedgerProcess p
    rw [sender, written] at among
    cases Dict.mem_set among with
    | inl last =>
        subst last
        exact ⟨_, decoded, rfl, new, rfl⟩
    | inr old =>
        obtain ⟨f, read, isPlain, known, same⟩ :=
          sound.ledger item ((s.sender.evicted_sublist _ _).subset old)
        exact ⟨f, read, isPlain, extends_.published _ known, same⟩
  case buffers =>
    rw [sets, receiver]
    exact sound.buffers
  case released =>
    rw [sets, receiver]
    exact sound.released
  case served =>
    intro sub among
    rw [receiver] at among
    apply (sound.served sub among).extend extends_
    rw [sets, receiver]
    exact fun set_ isSet isReleased => ⟨isSet, isReleased⟩

theorem publish (sound : s.Sound) (fresh : s.sender.nextSourceSequence p.publisherId ≠ 0)
    (undisturbed : s.Undisturbed process (.publish p)) : (s.publish process p).Sound := by
  obtain ⟨plainId, decoded⟩ := undisturbed
  unfold CoherentRun.publish
  dsimp only
  split
  case isTrue =>
    have joined := Dict.flatMap_set_perm (process.presentation p.publisherId).groupId
      s.publishPending (nextFrame process s p)
    apply sound.record fresh plainId decoded
    case sender | published | sets | receiver | sequence => rfl
    case groups => exact Dict.nodup_keys_set sound.groups
    case kept =>
      intro f among
      cases List.mem_append.mp (joined.mem_iff.mp among) with
      | inl before => exact .inl before
      | inr last => exact .inr (List.mem_singleton.mp last)
    case apart =>
      refine ((joined.append_left _).map sample).nodup_iff.mpr ?_
      rw [← List.append_assoc, List.map_append]
      refine List.nodup_append.mpr ⟨sound.apart, List.nodup_singleton _, ?_⟩
      intro x old y last
      obtain ⟨f, among, rfl⟩ := List.mem_map.mp old
      obtain rfl := List.mem_singleton.mp last
      exact sound.sample_ne_nextFrame (f := f.untagged) fresh (sound.known f among)
    case wire => exact fun datagram among => .inl among
  case isFalse =>
    apply sound.record fresh plainId decoded
    case sender | published | sets | receiver | sequence => rfl
    case groups => exact sound.groups
    case kept => exact fun f among => .inl among
    case apart => exact sound.apart
    case wire =>
      intro datagram among
      cases List.mem_append.mp among with
      | inl old => exact .inl old
      | inr last =>
          exact .inr ⟨List.mem_singleton.mp last, sound.nextFrame_not_unreleased fresh⟩

end Sound

/-! ## The end of a span -/

section
variable {id : Bytes} {pending : List DataFrame}

theorem length_tagMembers : (tagMembers id pending).length = pending.length :=
  List.length_mapIdx

theorem sample_tagMembers : (tagMembers id pending).map sample = pending.map sample := by
  apply List.ext_getElem?
  intro i
  rw [List.getElem?_map, List.getElem?_map, tagMembers, List.getElem?_mapIdx, Option.map_map]
  rfl

theorem untagged_of_mem_tagMembers (isMember : f ∈ tagMembers id pending) :
    ∃ g ∈ pending, f.untagged = g.untagged := by
  obtain ⟨i, inside, rfl⟩ := List.mem_mapIdx.mp isMember
  exact ⟨pending[i], List.getElem_mem inside, rfl⟩

theorem tagged_tagMembers (group : Bytes) (k : Nat) (some_ : pending ≠ [])
    (fits : pending.length < 2 ^ 32) :
    Tagged ⟨group ++ 124 :: decimal k, tagMembers (group ++ 124 :: decimal k) pending⟩ where
  some_ empty := by
    have nothing := congrArg List.length empty
    rw [length_tagMembers] at nothing
    exact some_ (List.length_eq_zero_iff.mp nothing)
  fits := by
    rw [length_tagMembers]
    exact fits
  named := ⟨group, k, rfl⟩
  data i m found := by
    rw [tagMembers, List.getElem?_mapIdx] at found
    obtain ⟨f, -, rfl⟩ := Option.map_eq_some_iff.mp found
    exact ⟨rfl, by rw [length_tagMembers], rfl⟩

end

namespace Sound

variable {publisherId : Bytes}

/-- The group's list, and all that is kept back for other groups. -/
theorem keptBack_perm (sound : s.Sound) (group : Bytes) :
    s.keptBack.Perm ((s.publishPending.get? group).getD [] ++
      (s.publishPending.erase group).flatMap Prod.snd) :=
  Dict.flatMap_erase_perm sound.groups

/-- Taking a group's frames out where there are none. -/
theorem endNothing (sound : s.Sound) {group : Bytes} {activeGroups : List Bytes}
    (nothing : (s.publishPending.get? group).getD [] = []) :
    Sound { s with activeGroups, publishPending := s.publishPending.erase group } := by
  have perm := sound.keptBack_perm group
  rw [nothing, List.nil_append] at perm
  let s' : CoherentRun := { s with activeGroups, publishPending := s.publishPending.erase group }
  have extends_ : s.Extends s' := by
    constructor
    · exact fun f among => among
    · intro f _ held
      apply held.imp_left
      intro back
      obtain ⟨g, kept, same⟩ := back
      exact ⟨g, perm.mem_iff.mpr kept, same⟩
  exact {
    sound with
    known := fun f among => sound.known f ((perm.append_left _).mem_iff.mpr among)
    apart := ((perm.append_left _).map sample).nodup_iff.mp sound.apart
    groups := sound.groups.sublist (List.filter_sublist.map _)
    wire := by
      intro datagram among
      obtain ⟨f, read, kind⟩ := sound.wire datagram among
      exact ⟨f, read, kind.imp_left fun free => ⟨free.1, free.2.extend extends_⟩⟩
    served := fun sub among =>
      (sound.served sub among).extend extends_ fun set_ isSet isReleased => ⟨isSet, isReleased⟩ }

/-- A group's frames become the members of a new set. -/
theorem endSpan (sound : s.Sound) {group front : Bytes} {activeGroups : List Bytes}
    (decoded : ∀ m ∈ tagMembers (front ++ 124 :: decimal s.coherentSetSequence)
      ((s.publishPending.get? group).getD []),
      decodeDataFrame none (encodeDataFrame m) = .ok (some m))
    (tagged : Tagged ⟨front ++ 124 :: decimal s.coherentSetSequence,
      tagMembers (front ++ 124 :: decimal s.coherentSetSequence)
        ((s.publishPending.get? group).getD [])⟩) :
    Sound { s with
      activeGroups
      publishPending := s.publishPending.erase group
      coherentSetSequence := s.coherentSetSequence + 1
      wire := s.wire ++ (tagMembers (front ++ 124 :: decimal s.coherentSetSequence)
        ((s.publishPending.get? group).getD [])).map encodeDataFrame
      sets := s.sets ++ [⟨front ++ 124 :: decimal s.coherentSetSequence,
        tagMembers (front ++ 124 :: decimal s.coherentSetSequence)
          ((s.publishPending.get? group).getD [])⟩] } := by
  have perm := sound.keptBack_perm group
  generalize hPending : (s.publishPending.get? group).getD [] = pending at decoded tagged perm ⊢
  generalize hId : front ++ 124 :: decimal s.coherentSetSequence = id at decoded tagged ⊢
  have newId : ∀ set_ ∈ s.sets, set_.id ≠ id := by
    intro set_ isSet same
    exact Nat.lt_irrefl _ (sound.numbered set_ isSet front s.coherentSetSequence (same.trans hId.symm))
  have notReleased : id ∉ s.receiver.released := by
    intro isReleased
    obtain ⟨set_, isSet, same⟩ := sound.released id isReleased
    exact newId set_ isSet same
  have memberKept : ∀ m ∈ tagMembers id pending, ∃ g ∈ s.keptBack, m.untagged = g.untagged := by
    intro m isMember
    obtain ⟨g, among, same⟩ := untagged_of_mem_tagMembers isMember
    exact ⟨g, perm.mem_iff.mpr (List.mem_append_left _ among), same⟩
  have left : ∀ f ∈ (s.publishPending.erase group).flatMap Prod.snd, f ∈ s.keptBack := fun f among =>
    perm.mem_iff.mpr (List.mem_append_right _ among)
  generalize hNew : CoherentRun.mk s.sender activeGroups (s.publishPending.erase group)
    (s.coherentSetSequence + 1) (s.wire ++ (tagMembers id pending).map encodeDataFrame) s.receiver
    s.published (s.sets ++ [⟨id, tagMembers id pending⟩]) = s'
  have extends_ : s.Extends s' := by
    subst hNew
    constructor
    · exact fun f among => among
    · intro f _ held
      cases held with
      | inl back =>
          obtain ⟨g, kept, same⟩ := back
          exact .inl ⟨g, left g kept, same⟩
      | inr member =>
          obtain ⟨set_, isSet, unreleased, m, isMember, same⟩ := member
          cases List.mem_append.mp isSet with
          | inl old => exact .inr ⟨set_, old, unreleased, m, isMember, same⟩
          | inr last =>
              obtain rfl := List.mem_singleton.mp last
              obtain ⟨g, kept, sameUntagged⟩ := memberKept m isMember
              exact .inl ⟨g, kept, (congrArg sample sameUntagged).symm.trans same⟩
  subst hNew
  constructor
  case plain => exact sound.plain
  case used => exact sound.used
  case distinct => exact sound.distinct
  case known =>
    intro f among
    cases List.mem_append.mp among with
    | inr back => exact sound.known f (List.mem_append_right _ (left f back))
    | inl member =>
        obtain ⟨set_, isSet, isMember⟩ := List.mem_flatMap.mp member
        cases List.mem_append.mp isSet with
        | inl old => exact sound.known_member old isMember
        | inr last =>
            obtain rfl := List.mem_singleton.mp last
            obtain ⟨g, kept, same⟩ := memberKept f isMember
            rw [same]
            exact sound.known g (List.mem_append_right _ kept)
  case apart =>
    have rearranged : ((s.sets ++ [CoherentSet.mk id (tagMembers id pending)]).flatMap CoherentSet.members ++
        (s.publishPending.erase group).flatMap Prod.snd).map sample =
        (s.sets.flatMap CoherentSet.members ++
          (pending ++ (s.publishPending.erase group).flatMap Prod.snd)).map sample := by
      simp only [List.flatMap_append, List.flatMap_singleton, List.map_append, sample_tagMembers,
        List.append_assoc]
    change (((s.sets ++ [CoherentSet.mk id (tagMembers id pending)]).flatMap CoherentSet.members ++
        (s.publishPending.erase group).flatMap Prod.snd).map sample).Nodup
    rw [rearranged]
    exact ((perm.append_left _).map sample).nodup_iff.mp sound.apart
  case groups => exact sound.groups.sublist (List.filter_sublist.map _)
  case tagged =>
    intro set_ isSet
    cases List.mem_append.mp isSet with
    | inl old => exact sound.tagged set_ old
    | inr last => exact List.mem_singleton.mp last ▸ tagged
  case numbered =>
    intro set_ isSet group' k same
    cases List.mem_append.mp isSet with
    | inl old => exact Nat.lt_succ_of_lt (sound.numbered set_ old group' k same)
    | inr last =>
        obtain rfl := List.mem_singleton.mp last
        have sameNumber := (append_delimiter_right (decimal_plain _) (decimal_plain _)
          (hId.trans same)).2
        exact decimal_injective sameNumber ▸ Nat.lt_succ_self _
  case ids =>
    rw [List.map_append]
    refine List.nodup_append.mpr ⟨sound.ids, List.nodup_singleton _, ?_⟩
    intro x old y last
    obtain ⟨set_, isSet, rfl⟩ := List.mem_map.mp old
    obtain rfl := List.mem_singleton.mp last
    exact newId set_ isSet
  case wire =>
    intro datagram among
    cases List.mem_append.mp among with
    | inl old =>
        obtain ⟨f, read, kind⟩ := sound.wire datagram old
        refine ⟨f, read, kind.imp (fun free => ⟨free.1, free.2.extend extends_⟩) ?_⟩
        intro member
        obtain ⟨set_, isSet, isMember⟩ := member
        exact ⟨set_, List.mem_append_left _ isSet, isMember⟩
    | inr last =>
        obtain ⟨m, isMember, rfl⟩ := List.mem_map.mp last
        exact ⟨m, decoded m isMember, .inr ⟨_, List.mem_append_right _ List.mem_cons_self, isMember⟩⟩
  case ledger => exact sound.ledger
  case buffers =>
    intro id' frames stored
    obtain ⟨set_, isSet, rest⟩ := sound.buffers id' frames stored
    exact ⟨set_, List.mem_append_left _ isSet, rest⟩
  case released =>
    intro id' isReleased
    obtain ⟨set_, isSet, same⟩ := sound.released id' isReleased
    exact ⟨set_, List.mem_append_left _ isSet, same⟩
  case served =>
    intro sub among
    apply (sound.served sub among).extend extends_
    intro set_ isSet isReleased
    cases List.mem_append.mp isSet with
    | inl old => exact ⟨old, isReleased⟩
    | inr last =>
        obtain rfl := List.mem_singleton.mp last
        exact absurd isReleased notReleased

theorem endCoherentChanges (sound : s.Sound)
    (undisturbed : s.Undisturbed process (.endCoherentChanges publisherId)) :
    (s.endCoherentChanges process publisherId).Sound := by
  obtain ⟨fits, decoded⟩ := undisturbed
  unfold CoherentRun.endCoherentChanges
  dsimp only
  split
  case isTrue nothing => exact sound.endNothing nothing
  case isFalse some_ =>
    have shape : s.coherentSetId process (process.presentation publisherId).groupId =
        (process.localRobotId ++ octets "|" ++ (process.presentation publisherId).groupId) ++
          124 :: decimal s.coherentSetSequence := List.append_assoc _ _ _
    rw [shape] at decoded ⊢
    have tagged := tagged_tagMembers
      (process.localRobotId ++ octets "|" ++ (process.presentation publisherId).groupId)
      s.coherentSetSequence some_ fits
    exact sound.endSpan decoded tagged

end Sound

/-! ## A pass of the retransmission loop -/

/-- An entry that is sent is due, and goes as it is; what is recorded about it stays. -/
theorem retransmit_spec (pacing : RetransmitPacing) (now : Int) (pass : RetransmitPass)
    (entry : ReliableRetransmitEntry) :
    (entry.retransmit pacing now pass).2.encodedFrame = entry.encodedFrame ∧
      ((entry.retransmit pacing now pass).1.pending = pass.pending ∨ entry.due pacing now ∧
        (entry.retransmit pacing now pass).1.pending =
          pass.pending ++ [(entry.encodedFrame, entry.qos)]) := by
  unfold ReliableRetransmitEntry.retransmit
  split
  case isTrue => exact ⟨rfl, .inl rfl⟩
  case isFalse counts =>
    split
    case isTrue => exact ⟨rfl, .inl rfl⟩
    case isFalse late =>
      split
      case isTrue => exact ⟨rfl, .inl rfl⟩
      case isFalse noBatches =>
        split
        case isTrue => exact ⟨rfl, .inl rfl⟩
        case isFalse unobserved =>
          split
          case isTrue => exact ⟨rfl, .inl rfl⟩
          case isFalse graceOver =>
            split
            case isTrue => exact ⟨rfl, .inl rfl⟩
            case isFalse =>
              refine ⟨rfl, .inr ⟨⟨?_, ?_, late, Nat.eq_zero_of_not_pos noBatches,
                Bool.eq_false_iff.mpr unobserved, graceOver⟩, ?_⟩⟩
              · simpa using (not_or.mp counts).1
              · exact Nat.lt_of_not_le (not_or.mp counts).2
              · dsimp only
                split
                · rfl
                · rfl

/-- What a pass sends comes from entries that are due and not outdated, and the entries that it
    leaves hold what they held. -/
theorem retransmitEntries_sent (pacing : RetransmitPacing) (now : Int)
    (wallAtCheck : Bytes → Int64) (pass : RetransmitPass) (ledger : RetransmitLedger) :
    (∀ sent ∈ (retransmitEntries pacing now wallAtCheck pass ledger).1.pending,
      sent ∈ pass.pending ∨ ∃ item ∈ ledger, sent.1 = item.2.encodedFrame ∧
        outdated wallAtCheck item = false ∧ item.2.due pacing now) ∧
    ∀ item ∈ (retransmitEntries pacing now wallAtCheck pass ledger).2, ∃ before ∈ ledger,
      identity item = identity before ∧ item.2.encodedFrame = before.2.encodedFrame := by
  induction ledger generalizing pass with
  | nil => exact ⟨fun sent among => .inl among, fun item among => absurd among List.not_mem_nil⟩
  | cons item rest ih =>
      unfold retransmitEntries
      split
      case isTrue =>
        obtain ⟨sends, leaves⟩ := ih pass
        constructor
        · intro sent among
          apply (sends sent among).imp_right
          intro later
          obtain ⟨other, isOther, same⟩ := later
          exact ⟨other, List.mem_cons_of_mem _ isOther, same⟩
        · intro left among
          obtain ⟨before, isBefore, same⟩ := leaves left among
          exact ⟨before, List.mem_cons_of_mem _ isBefore, same⟩
      case isFalse current =>
        obtain ⟨holds, queued⟩ := retransmit_spec pacing now pass item.2
        obtain ⟨sends, leaves⟩ := ih (item.2.retransmit pacing now pass).1
        constructor
        · intro sent among
          cases sends sent among with
          | inr later =>
              obtain ⟨other, isOther, same⟩ := later
              exact .inr ⟨other, List.mem_cons_of_mem _ isOther, same⟩
          | inl soFar =>
              cases queued with
              | inl nothing => exact .inl (nothing ▸ soFar)
              | inr queued =>
                  obtain ⟨due, more⟩ := queued
                  rw [more] at soFar
                  cases List.mem_append.mp soFar with
                  | inl before => exact .inl before
                  | inr last =>
                      obtain rfl := List.mem_singleton.mp last
                      exact .inr ⟨item, List.mem_cons_self, rfl,
                        Bool.eq_false_iff.mpr current, due⟩
        · intro left among
          cases List.mem_cons.mp among with
          | inl first =>
              subst first
              exact ⟨item, List.mem_cons_self, identity_retransmit item, holds⟩
          | inr later =>
              obtain ⟨before, isBefore, same⟩ := leaves left later
              exact ⟨before, List.mem_cons_of_mem _ isBefore, same⟩

theorem Sound.retransmit (sound : s.Sound) {now : Int} {wallAtCheck : Bytes → Int64}
    (undisturbed : s.Undisturbed process (.retransmit now wallAtCheck)) :
    (s.retransmit process now wallAtCheck).Sound := by
  obtain ⟨sends, leaves⟩ := retransmitEntries_sent process.pacing now wallAtCheck
    { nextFragmentFallbackNs := s.sender.nextFragmentFallbackNs } s.sender.ledger
  have served := sound.served
  exact {
    sound with
    wire := by
      intro datagram among
      cases List.mem_append.mp among with
      | inl old => exact sound.wire datagram old
      | inr new =>
          obtain ⟨sent, isSent, rfl⟩ := List.mem_map.mp new
          obtain ⟨item, stored, same, current, due⟩ :=
            (sends sent isSent).resolve_left List.not_mem_nil
          obtain ⟨f, read, isPlain, known, sameSample⟩ := sound.ledger item stored
          refine ⟨f, same ▸ read, .inl ⟨isPlain, known, ?_⟩⟩
          intro held
          cases undisturbed item stored (sameSample ▸ held) with
          | inl old => exact Bool.false_ne_true (current.symm.trans old)
          | inr notDue => exact notDue due
    ledger := by
      intro item among
      obtain ⟨before, stored, same, holds⟩ := leaves item among
      obtain ⟨f, read, isPlain, known, sameSample⟩ := sound.ledger before stored
      simp only [identity, Prod.mk.injEq] at same
      exact ⟨f, holds ▸ read, isPlain, known,
        sameSample.trans (Prod.ext same.2.1.symm same.2.2.1.symm)⟩
    served := fun sub among =>
      have before := served sub among
      ⟨before.baselined, before.origin, before.members, before.free, before.queued⟩ }

/-! ## Deliveries -/

/-- What a subscription has been served after a delivery. -/
theorem Served.deliver {sub sub' : CoherentSubscription} {frames enqueued : List DataFrame}
    (served : s.Served sub) (delivered : sub.Delivered sub' frames enqueued)
    (sets : s'.sets = s.sets) (free : ∀ g, s.Free g → s'.Free g)
    (freeFrames : ∀ f ∈ frames, s'.Free f) (freeEnqueued : ∀ f ∈ enqueued, s'.Free f)
    (members : ∀ set_ ∈ s.sets, set_.id ∈ s'.receiver.released →
      set_.id ∈ s.receiver.released ∨ ∀ m ∈ set_.members, sub.config.matchesFrame m = true →
        sub'.Observed (streamKey m) m.sourceSequenceNumber)
    (queued : ∀ set_ ∈ s.sets, set_.id ∈ s'.receiver.released →
      (sub.enqueued ++ enqueued).filter (ofSet set_) = set_.members.filter sub.config.takes) :
    s'.Served sub' where
  baselined := delivered.baselined
  origin key n observed := by
    cases delivered.origin observed with
    | inl before =>
        obtain ⟨g, isFree, same⟩ := served.origin key n before
        exact ⟨g, free g isFree, same⟩
    | inr new =>
        obtain ⟨f, among, same⟩ := new
        exact ⟨f, freeFrames f among, same⟩
  members set_ isSet isReleased m isMember matches_ := by
    rw [sets] at isSet
    rw [delivered.config] at matches_
    cases members set_ isSet isReleased with
    | inl before => exact delivered.stays (served.members set_ isSet before m isMember matches_)
    | inr new => exact new m isMember matches_
  free f among := by
    rw [delivered.enqueued] at among
    cases List.mem_append.mp among with
    | inl before => exact free f (served.free f before)
    | inr new => exact freeEnqueued f new
  queued set_ isSet isReleased := by
    rw [sets] at isSet
    rw [delivered.config, delivered.enqueued]
    exact queued set_ isSet isReleased

theorem ofSet_eq_true : ofSet set_ f = true ↔ ∃ m ∈ set_.members, sample m = sample f := by
  rw [ofSet, decide_eq_true_iff, List.mem_map]

namespace Sound

variable {times : DeliveryTimes}

/-- A frame without a set, which is new to a subscription only if no set that is released has a
    copy of it. -/
theorem deliverPlain (sound : s.Sound) (isPlain : f.coherentSetId = []) (free : s.Free f) :
    Sound { s with receiver := s.receiver.enqueueFrame times f } := by
  unfold CoherentReceiver.enqueueFrame
  rw [if_pos isPlain]
  have served : ∀ sub ∈ CoherentReceiver.deliverDecodedFrame times s.receiver.subscriptions f,
      Served { s with receiver := { s.receiver with
        subscriptions := CoherentReceiver.deliverDecodedFrame times s.receiver.subscriptions f } }
        sub := by
    intro sub' among
    obtain ⟨sub, isSub, rfl⟩ := List.mem_map.mp among
    have before := sound.served sub isSub
    obtain ⟨enqueued, delivered, queued⟩ :=
      CoherentSubscription.deliver_delivered times f before.baselined
    apply before.deliver delivered
    case sets => rfl
    case free => exact fun g isFree => isFree
    case freeFrames =>
      intro g among
      exact List.mem_singleton.mp among ▸ free
    case freeEnqueued =>
      intro g among
      cases queued with
      | inl nothing =>
          subst nothing
          cases among
      | inr new =>
          rw [new.1] at among
          exact List.mem_singleton.mp among ▸ free
    case members => exact fun set_ _ isReleased => .inl isReleased
    case queued =>
      intro set_ isSet isReleased
      have none_ : enqueued.filter (ofSet set_) = [] := by
        cases queued with
        | inl nothing =>
            rw [nothing]
            rfl
        | inr new =>
            obtain ⟨only, takes, unseen⟩ := new
            rw [only, List.filter_singleton]
            cases ofThisSet : ofSet set_ f with
            | false => rfl
            | true =>
              obtain ⟨m, isMember, same⟩ := ofSet_eq_true.mp ofThisSet
              have copy : m.untagged = f.untagged :=
                sound.untagged_eq (sound.known_member isSet isMember) free.1 same
              have matches_ : sub.config.matchesFrame m = true := by
                rw [← DataFrame.matchesFrame_untagged, copy]
                exact (Bool.and_eq_true_iff.mp takes).1
              have seen := before.members set_ isSet isReleased m isMember matches_
              rw [← DataFrame.streamKey_untagged, copy] at seen
              rw [show m.sourceSequenceNumber = f.sourceSequenceNumber from
                congrArg Prod.snd same] at seen
              exact absurd seen unseen
      rw [List.filter_append, none_, List.append_nil]
      exact before.queued set_ isSet isReleased
  exact {
    sound with
    served := served }

/-- The sets are known by their identifiers. -/
theorem set_of_id (sound : s.Sound) {set' : CoherentSet} (isSet : set_ ∈ s.sets)
    (isSet' : set' ∈ s.sets) (same : set_.id = set'.id) : set_ = set' :=
  List.inj_on_of_nodup_map sound.ids isSet isSet' same

/-- The buffered frames with one that arrives are members, and before the release different ones. -/
theorem buffered (sound : s.Sound) (isSet : set_ ∈ s.sets) (isMember : f ∈ set_.members) :
    let pending := (s.receiver.receiveBuffers.get? set_.id).getD [] ++ [f]
    (∀ g ∈ pending, g ∈ set_.members) ∧
      (set_.id ∉ s.receiver.released → f ∉ (s.receiver.receiveBuffers.get? set_.id).getD [] →
        pending.Nodup ∧ pending.length ≤ set_.members.length) := by
  cases stored : s.receiver.receiveBuffers.get? set_.id with
  | none =>
      refine ⟨fun g among => List.mem_singleton.mp among ▸ isMember, fun _ _ =>
        ⟨List.nodup_singleton f, ?_⟩⟩
      exact List.length_pos_of_mem isMember
  | some frames =>
      obtain ⟨set', isSet', same, members, fewer⟩ := sound.buffers set_.id frames stored
      obtain rfl := sound.set_of_id isSet' isSet same
      constructor
      · intro g among
        cases List.mem_append.mp among with
        | inl before => exact members g before
        | inr last => exact List.mem_singleton.mp last ▸ isMember
      · intro unreleased new
        obtain ⟨distinct, short⟩ := fewer unreleased
        constructor
        · refine List.nodup_append.mpr ⟨distinct, List.nodup_singleton f, ?_⟩
          intro x before y last same
          obtain rfl := List.mem_singleton.mp last
          exact new (same ▸ before)
        · rw [List.length_append]
          exact short

theorem total_of_member (tagged : Tagged set_) (isMember : f ∈ set_.members) :
    f.coherentSetId = set_.id ∧ max f.coherentSetTotal.toNat 1 = set_.members.length := by
  obtain ⟨i, found⟩ := List.getElem?_of_mem isMember
  obtain ⟨sameId, total, -⟩ := tagged.data i f found
  refine ⟨sameId, ?_⟩
  rw [total, UInt32.toNat_ofNat', Nat.mod_eq_of_lt tagged.fits]
  exact max_eq_left (List.length_pos_of_mem isMember)

/-- Members that are all there are in the order of the set when they are sorted. -/
theorem sorted_members (tagged : Tagged set_) {pending : List DataFrame}
    (all : pending.Perm set_.members) :
    pending.insertionSort (fun l r => l.coherentSetIndex ≤ r.coherentSetIndex) = set_.members := by
  have index : ∀ {i : Nat} {m : DataFrame}, set_.members[i]? = some m → m.coherentSetIndex.toNat = i := by
    intro i m found
    have inside := (List.getElem?_eq_some_iff.mp found).1
    rw [(tagged.data i m found).2.2, UInt32.toNat_ofNat']
    exact Nat.mod_eq_of_lt (Nat.lt_trans inside tagged.fits)
  have total : Std.Total fun l r : DataFrame => l.coherentSetIndex ≤ r.coherentSetIndex :=
    ⟨fun l r => UInt32.le_total _ _⟩
  have trans : IsTrans DataFrame fun l r => l.coherentSetIndex ≤ r.coherentSetIndex :=
    ⟨fun l m r => UInt32.le_trans⟩
  have ordered := (pending.pairwise_insertionSort fun l r : DataFrame =>
    l.coherentSetIndex ≤ r.coherentSetIndex)
  apply List.Perm.eq_of_pairwise ?_ ordered ?_ ((List.perm_insertionSort _ _).trans all)
  case _ =>
    intro f g isFirst isSecond below above
    have isMember : f ∈ set_.members := all.mem_iff.mp ((List.perm_insertionSort _ _).mem_iff.mp isFirst)
    obtain ⟨i, found⟩ := List.getElem?_of_mem isMember
    obtain ⟨j, found'⟩ := List.getElem?_of_mem isSecond
    have same := congrArg UInt32.toNat (UInt32.le_antisymm below above)
    rw [index found, index found'] at same
    rw [same, found'] at found
    exact (Option.some.inj found).symm
  case _ =>
    apply List.pairwise_iff_getElem.mpr
    intro i j insideI insideJ less
    rw [UInt32.le_iff_toNat_le, index (List.getElem?_eq_getElem insideI),
      index (List.getElem?_eq_getElem insideJ)]
    exact Nat.le_of_lt less

/-- Fewer frames have arrived than the set has. -/
theorem bufferMember (sound : s.Sound) (isSet : set_ ∈ s.sets) {pending : List DataFrame}
    (members : ∀ g ∈ pending, g ∈ set_.members) (short : pending.length < set_.members.length)
    (distinct : set_.id ∉ s.receiver.released → pending.Nodup) :
    Sound { s with receiver := { s.receiver with
      receiveBuffers := s.receiver.receiveBuffers.set set_.id pending } } := by
  have served := sound.served
  exact {
    sound with
    buffers := by
      intro id frames stored
      by_cases same : id = set_.id
      · subst same
        obtain rfl := Option.some.inj (Dict.get?_set_self.symm.trans stored)
        exact ⟨set_, isSet, rfl, members, fun unreleased => ⟨distinct unreleased, short⟩⟩
      · exact sound.buffers id frames ((Dict.get?_set_of_ne same).symm.trans stored)
    served := fun sub among =>
      have before := served sub among
      ⟨before.baselined, before.origin, before.members, before.free, before.queued⟩ }

/-- The receiver once a set's frames have been handed over. -/
def release (r : CoherentReceiver) (times : DeliveryTimes) (id : Bytes) (frames : List DataFrame) :
    CoherentReceiver where
  subscriptions := frames.foldl (CoherentReceiver.deliverDecodedFrame times) r.subscriptions
  receiveBuffers := r.receiveBuffers.erase id
  released := id :: r.released

/-- What is left to show when a set's frames are handed over. -/
theorem released_of_served (sound : s.Sound) (isSet : set_ ∈ s.sets) {frames : List DataFrame}
    (served : ∀ sub ∈ s.receiver.subscriptions,
      Served { s with receiver := release s.receiver times set_.id frames }
        (frames.foldl (CoherentSubscription.deliver times) sub)) :
    Sound { s with receiver := release s.receiver times set_.id frames } := by
  have fewer : ∀ x, Unreleased { s with receiver := release s.receiver times set_.id frames } x →
      s.Unreleased x := by
    intro x held
    apply held.imp_right
    intro member
    obtain ⟨set', isSet', unreleased, rest⟩ := member
    exact ⟨set', isSet', fun before => unreleased (List.mem_cons_of_mem _ before), rest⟩
  exact {
    sound with
    wire := by
      intro datagram among
      obtain ⟨f, read, kind⟩ := sound.wire datagram among
      exact ⟨f, read, kind.imp_left fun free =>
        ⟨free.1, free.2.1, fun held => free.2.2 (fewer _ held)⟩⟩
    buffers := by
      intro id buffered stored
      change (s.receiver.receiveBuffers.erase set_.id).get? id = some buffered at stored
      rw [Dict.get?_erase] at stored
      split at stored
      case isTrue => cases stored
      case isFalse =>
        obtain ⟨set', isSet', same, members, fewer⟩ := sound.buffers id buffered stored
        exact ⟨set', isSet', same, members, fun unreleased =>
          fewer fun before => unreleased (List.mem_cons_of_mem _ before)⟩
    released := by
      intro id isReleased
      cases List.mem_cons.mp isReleased with
      | inl first => exact ⟨set_, isSet, first.symm⟩
      | inr before => exact sound.released id before
    served := by
      intro sub' among
      change sub' ∈ frames.foldl (CoherentReceiver.deliverDecodedFrame times)
        s.receiver.subscriptions at among
      rw [foldl_deliverDecodedFrame] at among
      obtain ⟨sub, isSub, rfl⟩ := List.mem_map.mp among
      exact served sub isSub }

/-- Copies of a set that has been released. -/
theorem releaseAgain (sound : s.Sound) (isSet : set_ ∈ s.sets)
    (isReleased : set_.id ∈ s.receiver.released) {frames : List DataFrame}
    (members : ∀ g ∈ frames, g ∈ set_.members) :
    Sound { s with receiver := release s.receiver times set_.id frames } := by
  apply sound.released_of_served isSet
  intro sub isSub
  have before := sound.served sub isSub
  have same : ∀ id ∈ set_.id :: s.receiver.released, id ∈ s.receiver.released := by
    intro id among
    cases List.mem_cons.mp among with
    | inl first => exact first ▸ isReleased
    | inr later => exact later
  have free : ∀ g, s.Free g →
      Free { s with receiver := release s.receiver times set_.id frames } g := by
    intro g isFree
    refine ⟨isFree.1, fun held => isFree.2 (held.imp_right ?_)⟩
    intro member
    obtain ⟨set', isSet', unreleased, rest⟩ := member
    exact ⟨set', isSet', fun old => unreleased (List.mem_cons_of_mem _ old), rest⟩
  apply before.deliver (CoherentSubscription.foldl_deliver_seen before.baselined fun g among matches_ =>
    before.members set_ isSet isReleased g (members g among) matches_)
  case sets => rfl
  case free => exact free
  case freeFrames =>
    exact fun g among => free g (sound.free_of_released isSet isReleased (members g among))
  case freeEnqueued => exact fun g among => absurd among List.not_mem_nil
  case members => exact fun set' _ isReleased' => .inl (same _ isReleased')
  case queued =>
    intro set' isSet' isReleased'
    rw [List.append_nil]
    exact before.queued set' isSet' (same _ isReleased')

/-- A set all of whose members have arrived. -/
theorem releaseFirst (sound : s.Sound) (isSet : set_ ∈ s.sets)
    (unreleased : set_.id ∉ s.receiver.released)
    (admitted : ∀ sub ∈ s.receiver.subscriptions, ∀ m ∈ set_.members,
      sub.config.matchesFrame m = true → sub.config.exclusiveOwnership = false ∧
        frameExceedsLifespan sub.config.qos m.sourceTimestampNs (times.wallAtCheck m) = false) :
    Sound { s with receiver := release s.receiver times set_.id set_.members } := by
  have held : ∀ m ∈ set_.members, s.Unreleased (sample m) := fun m isMember =>
    .inr ⟨set_, isSet, unreleased, m, isMember, rfl⟩
  have free : ∀ g, s.Free g →
      Free { s with receiver := release s.receiver times set_.id set_.members } g := by
    intro g isFree
    refine ⟨isFree.1, fun stillHeld => isFree.2 (stillHeld.imp_right ?_)⟩
    intro member
    obtain ⟨set', isSet', notYet, rest⟩ := member
    exact ⟨set', isSet', fun old => notYet (List.mem_cons_of_mem _ old), rest⟩
  have freed : ∀ m ∈ set_.members,
      Free { s with receiver := release s.receiver times set_.id set_.members } m := by
    intro m isMember
    refine ⟨sound.known_member isSet isMember, ?_⟩
    intro stillHeld
    cases stillHeld with
    | inl kept =>
        obtain ⟨g, among, same⟩ := kept
        have apart := sound.apart
        rw [deferred, List.map_append] at apart
        refine (List.nodup_append.mp apart).2.2 (sample m) ?_ (sample g) ?_ same.symm
        · exact List.mem_map_of_mem (List.mem_flatMap.mpr ⟨set_, isSet, isMember⟩)
        · exact List.mem_map_of_mem among
    | inr member =>
        obtain ⟨set', isSet', notYet, m', isMember', same⟩ := member
        obtain rfl := sound.set_of_sample isSet' isSet isMember' isMember same
        exact notYet List.mem_cons_self
  apply sound.released_of_served isSet
  intro sub isSub
  have before := sound.served sub isSub
  have new : ∀ m ∈ set_.members, sub.config.matchesFrame m = true →
      sub.config.exclusiveOwnership = false ∧
      frameExceedsLifespan sub.config.qos m.sourceTimestampNs (times.wallAtCheck m) = false ∧
      ¬sub.Observed (streamKey m) m.sourceSequenceNumber := by
    intro m isMember matches_
    obtain ⟨shared, current⟩ := admitted sub isSub m isMember matches_
    refine ⟨shared, current, ?_⟩
    intro observed
    obtain ⟨g, isFree, sameKey, sameNumber⟩ := before.origin _ _ observed
    have copy := DataFrame.sample_eq_of_stream (sound.plainId (sound.known_member isSet isMember))
      (sound.plainId isFree.1) sameKey sameNumber
    exact isFree.2 (copy ▸ held m isMember)
  obtain ⟨delivered, observed⟩ := CoherentSubscription.foldl_deliver_new before.baselined
    (sound.members_distinct isSet) new
  apply before.deliver delivered
  case sets => rfl
  case free => exact free
  case freeFrames => exact freed
  case freeEnqueued => exact fun g among => freed g (List.mem_of_mem_filter among)
  case members =>
    intro set' isSet' isReleased'
    cases List.mem_cons.mp isReleased' with
    | inl first =>
        obtain rfl := sound.set_of_id isSet' isSet first
        exact .inr observed
    | inr old => exact .inl old
  case queued =>
    intro set' isSet' isReleased'
    rw [List.filter_append]
    cases List.mem_cons.mp isReleased' with
    | inl first =>
        obtain rfl := sound.set_of_id isSet' isSet first
        have none_ : sub.enqueued.filter (ofSet set') = [] := by
          apply List.filter_eq_nil_iff.mpr
          intro f among ofThisSet
          obtain ⟨m, isMember, same⟩ := ofSet_eq_true.mp ofThisSet
          exact (before.free f among).2 (same ▸ held m isMember)
        have all : (set'.members.filter sub.config.takes).filter (ofSet set') =
            set'.members.filter sub.config.takes := by
          apply List.filter_eq_self.mpr
          intro m among
          exact ofSet_eq_true.mpr ⟨m, List.mem_of_mem_filter among, rfl⟩
        rw [none_, all, List.nil_append]
    | inr old =>
        have none_ : (set_.members.filter sub.config.takes).filter (ofSet set') = [] := by
          apply List.filter_eq_nil_iff.mpr
          intro m among ofThatSet
          obtain ⟨m', isMember', same⟩ := ofSet_eq_true.mp ofThatSet
          obtain rfl := sound.set_of_sample isSet' isSet isMember' (List.mem_of_mem_filter among) same
          exact unreleased old
        rw [none_, List.append_nil]
        exact before.queued set' isSet' old

theorem deliver (sound : s.Sound) {datagram : Bytes} (sent : datagram ∈ s.wire)
    (undisturbed : s.Undisturbed process (.deliver datagram times)) :
    Sound { s with receiver := s.receiver.enqueueReceivedFrame times datagram } := by
  obtain ⟨f, read, kind⟩ := sound.wire datagram sent
  have condition := undisturbed f read
  unfold CoherentReceiver.enqueueReceivedFrame
  rw [read]
  dsimp only
  cases kind with
  | inl free => exact sound.deliverPlain free.1 free.2
  | inr member =>
      obtain ⟨set_, isSet, isMember⟩ := member
      have tagged := sound.tagged set_ isSet
      obtain ⟨sameId, total⟩ := total_of_member tagged isMember
      obtain ⟨group, k, named⟩ := tagged.named
      have some_ : set_.id ≠ [] := by
        rw [named]
        exact List.append_ne_nil_of_right_ne_nil _ (List.cons_ne_nil _ _)
      obtain ⟨members, distinct⟩ := sound.buffered isSet isMember
      rw [sameId] at condition
      have condition := condition.resolve_left some_
      unfold CoherentReceiver.enqueueFrame
      rw [sameId, total, if_neg some_]
      dsimp only
      split
      case isTrue short =>
        apply sound.bufferMember isSet members short
        intro unreleased
        exact (distinct unreleased (condition.resolve_left unreleased).1).1
      case isFalse complete =>
        by_cases isReleased : set_.id ∈ s.receiver.released
        · apply sound.releaseAgain isSet isReleased
          intro g among
          exact members g ((List.perm_insertionSort _ _).mem_iff.mp among)
        · obtain ⟨new, admitted⟩ := condition.resolve_left isReleased
          obtain ⟨nodup, atMost⟩ := distinct isReleased new
          have all := (List.subperm_of_subset nodup members).perm_of_length_le
            (Nat.le_of_not_lt complete)
          rw [sorted_members tagged all]
          apply sound.releaseFirst isSet isReleased
          intro sub isSub m isMember' matches_
          refine admitted sub isSub m ?_ matches_
          exact (List.perm_append_singleton _ _).mem_iff.mp (all.mem_iff.mpr isMember')

theorem start (subscriptions : List SubscriptionConfig) :
    (CoherentRun.start subscriptions).Sound where
  plain f among := by cases among
  used f among := by cases among
  distinct := List.nodup_nil
  known f among := by cases among
  apart := List.nodup_nil
  groups := List.nodup_nil
  tagged set_ isSet := by cases isSet
  numbered set_ isSet := by cases isSet
  ids := List.nodup_nil
  wire datagram among := by cases among
  ledger item among := by cases among
  buffers id frames stored := by cases stored
  released id isReleased := by cases isReleased
  served sub among := by
    obtain ⟨config, -, rfl⟩ := List.mem_map.mp among
    exact {
      baselined := fun key state stored => by cases stored
      origin := fun key n observed => by
        obtain ⟨state, stored, -⟩ := observed
        cases stored
      members := fun set_ isSet => by cases isSet
      free := fun f among => by cases among
      queued := fun set_ isSet => by cases isSet }

theorem step {e : CoherentEvent} (sound : s.Sound) (undisturbed : s.Undisturbed process e)
    (h : s.step process e = some s') : s'.Sound := by
  cases e with
  | beginCoherentChanges publisherId =>
      obtain rfl := Option.some.inj h
      exact sound.beginCoherentChanges
  | publish p =>
      simp only [CoherentRun.step] at h
      split at h
      case isTrue => cases h
      case isFalse fresh =>
        obtain rfl := Option.some.inj h
        exact sound.publish fresh undisturbed
  | endCoherentChanges publisherId =>
      obtain rfl := Option.some.inj h
      exact sound.endCoherentChanges undisturbed
  | retransmit now wallAtCheck =>
      obtain rfl := Option.some.inj h
      exact sound.retransmit undisturbed
  | deliver datagram times =>
      simp only [CoherentRun.step] at h
      split at h
      case isTrue sent =>
        obtain rfl := Option.some.inj h
        exact sound.deliver sent undisturbed
      case isFalse => cases h

end Sound

/-- In every run whose steps are undisturbed, each set that has been sent is in the subscriptions'
    queues as a whole or not at all, and no frame that is kept back is on the wire. -/
theorem atomic_of_undisturbed (process : CoherentProcess) {subscriptions : List SubscriptionConfig}
    {events : List CoherentEvent}
    (undisturbed : RunMeets (CoherentRun.step process) (Undisturbed process)
      (.start subscriptions) events)
    (h : run (CoherentRun.step process) (.start subscriptions) events = some s) :
    (∀ set_ ∈ s.sets, s.Atomic set_) ∧ s.HeldBack := by
  have sound : s.Sound :=
    run_invariant (I := Sound) (fun held meets taken => held.step meets taken)
      (.start subscriptions) undisturbed h
  constructor
  · intro set_ isSet
    by_cases isReleased : set_.id ∈ s.receiver.released
    · right
      intro sub isSub
      exact (sound.served sub isSub).queued set_ isSet isReleased
    · left
      intro sub isSub
      apply List.filter_eq_nil_iff.mpr
      intro f among ofThisSet
      obtain ⟨m, isMember, same⟩ := ofSet_eq_true.mp ofThisSet
      exact ((sound.served sub isSub).free f among).2
        (.inr ⟨set_, isSet, isReleased, m, isMember, same⟩)
  · intro datagram sent frame read kept isKept same
    obtain ⟨f, read', kind⟩ := sound.wire datagram sent
    obtain rfl := Option.some.inj (Except.ok.inj (read.symm.trans read'))
    cases kind with
    | inl free => exact free.2.2 (.inl ⟨kept, isKept, same.symm⟩)
    | inr member =>
        obtain ⟨set_, isSet, isMember⟩ := member
        have apart := sound.apart
        rw [deferred, List.map_append] at apart
        refine (List.nodup_append.mp apart).2.2 (sample frame) ?_ (sample kept) ?_ same
        · exact List.mem_map_of_mem (List.mem_flatMap.mpr ⟨set_, isSet, isMember⟩)
        · exact List.mem_map_of_mem isKept

/-! ## A group of one publisher -/

/-- A process whose publishers are all of one group. -/
def oneGroup (reliable : Bool) : CoherentProcess where
  localRobotId := octets "r"
  publishers _ := { topicName := octets "t", qos := { reliable, depth := 4 } }
  encodeFrame := encodeDataFrameCompactV1
  inactiveSubscriberGraceNs := 8000
  pacing := ⟨1000, 3, false, 0, 0⟩
  presentation _ := ⟨true, octets "g"⟩

def inSpan (payload : Bytes) : Publication where
  publisherId := octets "p"
  payload
  wallNowNs := 5
  nowNs := 0
  instanceKey := []
  matchedSubscriptionIds := []
  wallAtCheck _ := 5

def topicReader : SubscriptionConfig := { topicName := octets "t" }

/-- What is published in the span, with or without the set's data. -/
def spanFrame (index : Nat) : DataFrame where
  robotId := octets "r"
  topic := octets "t"
  publisherId := octets "p"
  sourceSequenceNumber := UInt64.ofNat (index + 1)
  sourceTimestampNs := 5
  serializedPayload := [UInt8.ofNat index]

def spanMember (index : Nat) : DataFrame :=
  { spanFrame index with
    coherentSetId := octets "r|g|0"
    coherentSetTotal := 2
    coherentSetIndex := UInt32.ofNat index }

set_option maxRecDepth 4000 in
theorem decoded_spanFrame : ∀ index < 2,
    decodeDataFrame none (encodeDataFrameCompactV1 (spanFrame index)) = .ok (some (spanFrame index)) := by
  decide

theorem spanMember_writable (index : Nat) : (spanMember index).Writable :=
  ⟨show (0 : Int64) ≤ 5 by decide, .inl rfl, .inl rfl, .inl rfl, .inl rfl, fun empty => by cases empty⟩

theorem decoded_spanMember : ∀ index < 2,
    decodeDataFrame none (encodeDataFrame (spanMember index)) = .ok (some (spanMember index)) := by
  intro index small
  rw [DataFrame.decodeDataFrame_encodeDataFrame none _ (spanMember_writable index)]
  revert index
  decide

/-- A span in which two frames are published. -/
def twoInSpan : List CoherentEvent :=
  [.beginCoherentChanges (octets "p"), .publish (inSpan [0]), .publish (inSpan [1]),
    .endCoherentChanges (octets "p")]

/-- What the span leaves behind. -/
def afterSpan (reliable : Bool) : CoherentRun :=
  ((((start [topicReader]).beginCoherentChanges (oneGroup reliable) (octets "p")).publish
    (oneGroup reliable) (inSpan [0])).publish (oneGroup reliable) (inSpan [1])).endCoherentChanges
      (oneGroup reliable) (octets "p")

theorem run_twoInSpan (reliable : Bool) :
    run (CoherentRun.step (oneGroup reliable)) (start [topicReader]) twoInSpan =
      some (afterSpan reliable) := rfl

theorem afterSpan_wire (reliable : Bool) :
    (afterSpan reliable).wire = [spanMember 0, spanMember 1].map encodeDataFrame := rfl

theorem afterSpan_sets (reliable : Bool) :
    (afterSpan reliable).sets = [⟨octets "r|g|0", [spanMember 0, spanMember 1]⟩] := rfl

def atFive : DeliveryTimes := ⟨5, fun _ => 5⟩

/-- A delivery of a member, for which nothing has to be read. -/
theorem step_deliver_spanMember {process : CoherentProcess} {s : CoherentRun} {index : Nat}
    (small : index < 2) (sent : encodeDataFrame (spanMember index) ∈ s.wire) :
    s.step process (.deliver (encodeDataFrame (spanMember index)) atFive) =
      some { s with receiver := s.receiver.enqueueFrame atFive (spanMember index) } := by
  simp only [CoherentRun.step, if_pos sent, CoherentReceiver.enqueueReceivedFrame,
    decoded_spanMember index small]

/-- A reliable member goes on the wire while its span lasts, and a member that arrives twice
    stands for one that has not arrived. -/
theorem coherent_sets_torn :
    (∃ s, run (CoherentRun.step (oneGroup true)) (start [topicReader])
      [.beginCoherentChanges (octets "p"), .publish (inSpan [0]), .retransmit 5000 fun _ => 5] =
        some s ∧ ¬s.HeldBack) ∧
    ∃ s, run (CoherentRun.step (oneGroup false)) (start [topicReader])
      (twoInSpan ++ [.deliver (encodeDataFrame (spanMember 0)) atFive] ++
        [.deliver (encodeDataFrame (spanMember 0)) atFive]) = some s ∧
      ∃ set_ ∈ s.sets, ¬s.Atomic set_ := by
  constructor
  · refine ⟨_, rfl, ?_⟩
    intro heldBack
    have onWire := heldBack (encodeDataFrameCompactV1 (spanFrame 0)) List.mem_cons_self
      (spanFrame 0) (decoded_spanFrame 0 (by decide)) (spanFrame 0) List.mem_cons_self
    exact onWire rfl
  · have sent : encodeDataFrame (spanMember 0) ∈ (afterSpan false).wire := List.mem_cons_self
    refine ⟨_, run_concat (run_concat (run_twoInSpan false)
      (step_deliver_spanMember (by decide) sent)) (step_deliver_spanMember (by decide) sent),
      ⟨octets "r|g|0", [spanMember 0, spanMember 1]⟩, List.mem_cons_self, ?_⟩
    have queues : (((afterSpan false).receiver.enqueueFrame atFive (spanMember 0)).enqueueFrame
        atFive (spanMember 0)).subscriptions.map (fun sub =>
          (sub.enqueued, [spanMember 0, spanMember 1].filter sub.config.takes)) =
        [([spanMember 0], [spanMember 0, spanMember 1])] := by decide
    have among := List.mem_cons_self (a := ([spanMember 0], [spanMember 0, spanMember 1]))
      (l := [])
    rw [← queues] at among
    obtain ⟨sub, isSub, same⟩ := List.mem_map.mp among
    obtain ⟨queue, takes⟩ := Prod.mk.inj same
    intro atomic
    cases atomic with
    | inl nothing =>
        have queued := nothing sub isSub
        rw [queue] at queued
        exact absurd queued (by decide)
    | inr whole =>
        have queued := whole sub isSub
        rw [queue, takes] at queued
        exact absurd queued (by decide)

/-- The condition on the delivery of a member, for which nothing has to be read. -/
theorem undisturbed_deliver_spanMember {process : CoherentProcess} {s : CoherentRun} {index : Nat}
    (small : index < 2)
    (condition : (spanMember index).coherentSetId ∈ s.receiver.released ∨
      spanMember index ∉ (s.receiver.receiveBuffers.get? (octets "r|g|0")).getD [] ∧
        ∀ sub ∈ s.receiver.subscriptions, sub.config.exclusiveOwnership = false ∧
          sub.config.qos = {}) :
    s.Undisturbed process (.deliver (encodeDataFrame (spanMember index)) atFive) := by
  intro frame read
  obtain rfl := Option.some.inj (Except.ok.inj ((decoded_spanMember index small).symm.trans read))
  right
  apply condition.imp_right
  intro new
  refine ⟨new.1, ?_⟩
  intro sub isSub m _ _
  obtain ⟨shared, plain⟩ := new.2 sub isSub
  refine ⟨shared, ?_⟩
  rw [plain]
  rfl

/-- The members arrive the other way round and the first once more. -/
def twoDelivered : List CoherentEvent :=
  twoInSpan ++ [.retransmit 5000 fun _ => 5] ++
    [.deliver (encodeDataFrame (spanMember 1)) atFive] ++
    [.deliver (encodeDataFrame (spanMember 0)) atFive] ++
    [.deliver (encodeDataFrame (spanMember 0)) atFive]

theorem atomic_of_undisturbed_twoDelivered :
    ∃ s, run (CoherentRun.step (oneGroup false)) (start [topicReader]) twoDelivered = some s ∧
      s.receiver.subscriptions.map (·.enqueued) = [[spanMember 0, spanMember 1]] ∧
      (∀ set_ ∈ s.sets, s.Atomic set_) ∧ s.HeldBack := by
  let kept := (afterSpan false).retransmit (oneGroup false) 5000 fun _ => 5
  have first : encodeDataFrame (spanMember 0) ∈ kept.wire := List.mem_cons_self
  have second : encodeDataFrame (spanMember 1) ∈ kept.wire :=
    List.mem_cons_of_mem _ List.mem_cons_self
  have ran : run (CoherentRun.step (oneGroup false)) (start [topicReader]) twoDelivered =
      some { kept with receiver := ((kept.receiver.enqueueFrame atFive (spanMember 1)).enqueueFrame
        atFive (spanMember 0)).enqueueFrame atFive (spanMember 0) } :=
    run_concat (run_concat (run_concat (run_concat (run_twoInSpan false) rfl)
      (step_deliver_spanMember (by decide) second)) (step_deliver_spanMember (by decide) first))
      (step_deliver_spanMember (by decide) first)
  have plainId : 124 ∉ octets "p" := by decide
  have undisturbed : RunMeets (CoherentRun.step (oneGroup false)) (Undisturbed (oneGroup false))
      (start [topicReader]) twoDelivered := by
    refine .of_step True.intro rfl (.of_step ⟨plainId, decoded_spanFrame 0 (by decide)⟩ rfl
      (.of_step ⟨plainId, decoded_spanFrame 1 (by decide)⟩ rfl (.of_step ⟨by decide, ?_⟩ rfl
        (.of_step ?_ rfl (.of_step ?_ (step_deliver_spanMember (by decide) second)
          (.of_step ?_ (step_deliver_spanMember (by decide) first)
            (.of_step ?_ (step_deliver_spanMember (by decide) first) True.intro)))))))
    · intro m isMember
      have isMember : m ∈ [spanMember 0, spanMember 1] := isMember
      cases List.mem_cons.mp isMember with
      | inl isFirst => exact isFirst ▸ decoded_spanMember 0 (by decide)
      | inr isSecond =>
          exact List.mem_singleton.mp isSecond ▸ decoded_spanMember 1 (by decide)
    · have settled : (afterSpan false).sender.ledger.all (outdated fun _ => 5) = true := by decide
      exact fun item stored _ => .inl (List.all_eq_true.mp settled item stored)
    · apply undisturbed_deliver_spanMember (by decide)
      refine .inr ⟨by decide, ?_⟩
      intro sub isSub
      obtain rfl : sub = { config := topicReader } := List.mem_singleton.mp isSub
      exact ⟨rfl, rfl⟩
    · apply undisturbed_deliver_spanMember (by decide)
      refine .inr ⟨by decide, ?_⟩
      intro sub isSub
      obtain rfl : sub = { config := topicReader } := List.mem_singleton.mp isSub
      exact ⟨rfl, rfl⟩
    · exact undisturbed_deliver_spanMember (by decide) (.inl List.mem_cons_self)
  exact ⟨_, ran, by decide, atomic_of_undisturbed (oneGroup false) undisturbed ran⟩

end CoherentRun

end FleetRMW.Rmw
