import FleetRMW.Rmw.Liveliness

/-! # What a subscription knows of liveliness

Whatever happens in a process, each of its subscriptions lists the publishers that it is matched
with, each by what is known of it. The counts of the changes stop at the largest number that they
can hold; short of that they tell how far the sets have grown or shrunk.
-/

namespace FleetRMW.Rmw

open Lib

/-- The publisher is matched with the subscription, and its liveliness is looked at. -/
def Offer.counts (o : Offer) (config : PubSubConfig) : Bool :=
  o.qos.livelinessEnabled && matchCompatible o.toPubSubConfig config

/-- A publisher of this identity counts, and this is its flag. -/
def Offered (offers : List (Bytes × Offer)) (config : PubSubConfig) (id : Bytes) (alive : Bool) :
    Prop :=
  ∃ o, (id, o) ∈ offers ∧ o.counts config = true ∧ o.livelinessAlive = alive

instance (offers : List (Bytes × Offer)) (config : PubSubConfig) (id : Bytes) (alive : Bool) :
    Decidable (Offered offers config id alive) :=
  decidable_of_iff (∃ x ∈ offers, x.1 = id ∧ x.2.counts config = true ∧ x.2.livelinessAlive = alive)
    ⟨fun ⟨x, among, isId, counts⟩ => ⟨x.2, isId ▸ among, counts⟩,
      fun ⟨o, among, counts⟩ => ⟨(id, o), among, rfl, counts⟩⟩

namespace FleetQoxSubscriptionData

def countChange (sub : FleetQoxSubscriptionData) : Bool → Int
  | true => sub.livelinessAliveCountChange.toInt
  | false => sub.livelinessNotAliveCountChange.toInt

def sizeAtReset (sub : FleetQoxSubscriptionData) : Bool → Nat
  | true => sub.aliveAtReset
  | false => sub.notAliveAtReset

def size (sub : FleetQoxSubscriptionData) (b : Bool) : Nat := (sub.livelinessPublishers.side b).card

/-- The count of the changes is the change of the size. -/
def Exact (sub : FleetQoxSubscriptionData) : Prop :=
  ∀ b, (sub.sizeAtReset b : Int) ≤ int32Max ∧ sub.countChange b = sub.size b - sub.sizeAtReset b

/-- The counts have gone by as much as the sizes, within what they can hold. -/
structure Moved (sub sub' : FleetQoxSubscriptionData) : Prop where
  config : sub'.toPubSubConfig = sub.toPubSubConfig
  atReset : ∀ b, sub'.sizeAtReset b = sub.sizeAtReset b
  counts : ∀ b, sub'.countChange b =
    max (-2 ^ 31) (min (sub.countChange b + (sub'.size b - sub.size b)) int32Max)

end FleetQoxSubscriptionData

section
variable {sub : FleetQoxSubscriptionData} {id : Bytes}

/-! ## One change -/

theorem saturatingI32Add_toInt (value : Int32) (delta : Int) :
    (saturatingI32Add value delta).toInt = max (-2 ^ 31) (min (value.toInt + delta) int32Max) := by
  have limit : int32Max = 2 ^ 31 - 1 := rfl
  apply Int32.toInt_ofInt_of_le
  · exact le_max_left _ _
  · omega

theorem FleetQoxSubscriptionData.countChange_bounds (sub : FleetQoxSubscriptionData) (b : Bool) :
    -2 ^ 31 ≤ sub.countChange b ∧ sub.countChange b ≤ int32Max := by
  have bounds : ∀ count : Int32, -2 ^ 31 ≤ count.toInt ∧ count.toInt ≤ int32Max := by
    intro count
    have low := count.le_toInt
    have high := count.toInt_lt
    unfold int32Max
    omega
  cases b with
  | true => exact bounds sub.livelinessAliveCountChange
  | false => exact bounds sub.livelinessNotAliveCountChange

/-- A move changes nothing of the subscription but the roll and the counts. -/
theorem FleetQoxSubscriptionData.moveLiveliness_moved (sub : FleetQoxSubscriptionData)
    (roll : Roll Bytes) (delta : Bool → Int)
    (moves : ∀ b, delta b = ((roll.side b).card : Int) - sub.size b) :
    (sub.moveLiveliness roll (delta true) (delta false)).livelinessPublishers = roll ∧
      sub.Moved (sub.moveLiveliness roll (delta true) (delta false)) := by
  unfold moveLiveliness
  dsimp only
  by_cases still : delta true = 0 ∧ delta false = 0
  · rw [if_pos still]
    refine ⟨rfl, rfl, fun b => rfl, ?_⟩
    intro b
    have none_ : ((roll.side b).card : Int) - sub.size b = 0 := by
      rw [← moves b]
      cases b with
      | true => exact still.1
      | false => exact still.2
    have bounds := sub.countChange_bounds b
    change sub.countChange b =
      max (-2 ^ 31) (min (sub.countChange b + (((roll.side b).card : Int) - sub.size b)) int32Max)
    rw [none_]
    omega
  · rw [if_neg still]
    refine ⟨rfl, rfl, fun b => ?_, ?_⟩
    · cases b with
      | true => rfl
      | false => rfl
    · intro b
      cases b with
      | true =>
          refine (saturatingI32Add_toInt _ _).trans ?_
          rw [moves true]
          rfl
      | false =>
          refine (saturatingI32Add_toInt _ _).trans ?_
          rw [moves false]
          rfl

/-- How the size of a side changes with a name that enters or leaves it. -/
theorem card_insert_sub (s : Finset Bytes) :
    ((insert id s).card : Int) - s.card = if id ∉ s then 1 else 0 := by
  by_cases inside : id ∈ s
  · rw [Finset.insert_eq_of_mem inside, if_neg (not_not_intro inside), sub_self]
  · rw [Finset.card_insert_of_notMem inside, if_pos inside]
    omega

theorem card_erase_sub (s : Finset Bytes) :
    ((s.erase id).card : Int) - s.card = if id ∈ s then -1 else 0 := by
  by_cases inside : id ∈ s
  · have smaller := Finset.card_erase_add_one inside
    rw [if_pos inside]
    omega
  · rw [Finset.erase_eq_of_notMem inside, if_neg inside, sub_self]

variable (sub) in
theorem recordLivelinessChange_moved (alive : Bool) (named : id ≠ []) :
    (sub.recordLivelinessChange id alive).livelinessPublishers =
        sub.livelinessPublishers.mark id alive ∧
      sub.Moved (sub.recordLivelinessChange id alive) := by
  let roll := sub.livelinessPublishers
  let delta : Bool → Int := fun b =>
    (((roll.mark id alive).side b).card : Int) - (roll.side b).card
  have moved := sub.moveLiveliness_moved (roll.mark id alive) delta (fun b => rfl)
  unfold FleetQoxSubscriptionData.recordLivelinessChange
  dsimp only
  rw [if_neg named]
  cases alive with
  | true =>
      have entered : delta true = _ := card_insert_sub roll.present
      have left : delta false = _ := card_erase_sub roll.absent
      rwa [entered, left] at moved
  | false =>
      have left : delta true = _ := card_erase_sub roll.present
      have entered : delta false = _ := card_insert_sub roll.absent
      rwa [entered, left] at moved

variable (sub) in
theorem recordLivelinessRemove_moved (named : id ≠ []) :
    (sub.recordLivelinessRemove id).livelinessPublishers = sub.livelinessPublishers.strike id ∧
      sub.Moved (sub.recordLivelinessRemove id) := by
  let roll := sub.livelinessPublishers
  let delta : Bool → Int := fun b =>
    (((roll.strike id).side b).card : Int) - (roll.side b).card
  have moved := sub.moveLiveliness_moved (roll.strike id) delta (fun b => rfl)
  unfold FleetQoxSubscriptionData.recordLivelinessRemove
  dsimp only
  rw [if_neg named]
  have first : delta true = _ := card_erase_sub roll.present
  have second : delta false = _ := card_erase_sub roll.absent
  rwa [first, second] at moved

end

/-! ## What is offered -/

section
variable {offers offers' rest : List (Bytes × Offer)} {config : PubSubConfig} {id k : Bytes}
variable {o o' : Offer} {b : Bool}

theorem offered_cons_of_ne (other : k ≠ id) :
    Offered ((id, o) :: rest) config k b ↔ Offered rest config k b := by
  constructor
  · rintro ⟨x, among, counts⟩
    rcases List.mem_cons.mp among with here | later
    · exact absurd (Prod.mk.inj here).1 other
    · exact ⟨x, later, counts⟩
  · rintro ⟨x, among, counts⟩
    exact ⟨x, List.mem_cons_of_mem _ among, counts⟩

theorem Offered.mem_ids (offered : Offered offers config id b) : id ∈ offers.map Prod.fst := by
  obtain ⟨x, among, -⟩ := offered
  exact List.mem_map.mpr ⟨_, among, rfl⟩

theorem offered_cons_self (fresh : id ∉ rest.map Prod.fst) :
    Offered ((id, o) :: rest) config id b ↔ o.counts config = true ∧ o.livelinessAlive = b := by
  constructor
  · rintro ⟨x, among, counts⟩
    rcases List.mem_cons.mp among with here | later
    · exact (Prod.mk.inj here).2 ▸ counts
    · exact absurd (List.mem_map.mpr ⟨_, later, rfl⟩) fresh
  · exact fun counts => ⟨o, List.mem_cons_self, counts⟩

theorem offered_perm (same : offers.Perm offers') :
    Offered offers config id b ↔ Offered offers' config id b := by
  unfold Offered
  simp only [same.mem_iff]

/-- Where the identities differ, a publisher has one flag. -/
theorem Offered.single (distinct : (offers.map Prod.fst).Nodup)
    (isAlive : Offered offers config id true) : ¬Offered offers config id false := by
  rintro ⟨x, among, -, isNotAlive⟩
  obtain ⟨y, among', -, isAlive⟩ := isAlive
  have same : (id, x) = (id, y) := List.inj_on_of_nodup_map distinct among among' rfl
  rw [(Prod.mk.inj same).2, isAlive] at isNotAlive
  cases isNotAlive

end

/-! ## What a subscription shows -/

/-- The roll is right, and so are the counts where that is asked for. -/
structure Informed (counted : Prop) (offers : List (Bytes × Offer)) (sub : FleetQoxSubscriptionData) :
    Prop where
  shows : sub.livelinessPublishers.Shows (Offered offers sub.toPubSubConfig)
  counts : counted → sub.Exact

section
variable {counted : Prop} {offers offers' rest : List (Bytes × Offer)} {id : Bytes} {o o' : Offer}
variable {sub sub' : FleetQoxSubscriptionData}

theorem FleetQoxSubscriptionData.Moved.exact (moved : sub.Moved sub') (held : sub.Exact)
    (small : ∀ b, (sub'.size b : Int) ≤ int32Max) : sub'.Exact := by
  intro b
  obtain ⟨bound, counts⟩ := held b
  have after := moved.counts b
  have limit : int32Max = 2 ^ 31 - 1 := rfl
  have few := small b
  rw [moved.atReset b]
  refine ⟨bound, ?_⟩
  rw [after, counts]
  omega

/-- A move of the roll to what is offered now. -/
theorem Informed.of_moved (tracks : Informed counted offers sub) (moved : sub.Moved sub')
    (shows : sub'.livelinessPublishers.Shows (Offered offers' sub.toPubSubConfig))
    (room : counted → (offers'.length : Int) ≤ int32Max) : Informed counted offers' sub' where
  shows := moved.config ▸ shows
  counts asked := by
    apply moved.exact (tracks.counts asked)
    intro b
    have le := shows.card_le (offers'.map Prod.fst) (fun _ _ offered => offered.mem_ids) b
    rw [List.length_map] at le
    have few := room asked
    change ((sub'.livelinessPublishers.side b).card : Int) ≤ int32Max
    omega

theorem Informed.size_le (tracks : Informed counted offers sub) (b : Bool) :
    sub.size b ≤ offers.length := by
  have le := tracks.shows.card_le (offers.map Prod.fst) (fun _ _ offered => offered.mem_ids) b
  rwa [List.length_map] at le

theorem Informed.congr (tracks : Informed counted offers sub)
    (same : ∀ k b, Offered offers sub.toPubSubConfig k b ↔ Offered offers' sub.toPubSubConfig k b) :
    Informed counted offers' sub :=
  ⟨tracks.shows.congr same, tracks.counts⟩

/-- The publisher is new, or its flag may be. -/
theorem Informed.record (tracks : Informed counted offers sub) (named : id ≠ [])
    (fresh : id ∉ rest.map Prod.fst) (room : counted → (rest.length : Int) + 1 ≤ int32Max)
    (others : ∀ k, k ≠ id → ∀ b, Offered offers sub.toPubSubConfig k b ↔
      Offered rest sub.toPubSubConfig k b)
    (absent : o.counts sub.toPubSubConfig = false → ∀ b, ¬Offered offers sub.toPubSubConfig id b) :
    Informed counted ((id, o) :: rest)
      (if o.counts sub.toPubSubConfig then sub.recordLivelinessChange id o.livelinessAlive
        else sub) := by
  have others' : ∀ k, k ≠ id → ∀ b, Offered offers sub.toPubSubConfig k b ↔
      Offered ((id, o) :: rest) sub.toPubSubConfig k b := fun k other b =>
    (others k other b).trans (offered_cons_of_ne other).symm
  split
  case isTrue counts =>
    obtain ⟨roll, moved⟩ := recordLivelinessChange_moved sub o.livelinessAlive named
    apply tracks.of_moved moved
    · rw [roll]
      apply tracks.shows.mark others'
      intro b
      rw [offered_cons_self fresh, and_iff_right counts, eq_comm]
    · intro asked
      have few := room asked
      rw [List.length_cons]
      omega
  case isFalse idle =>
    apply tracks.congr
    intro k b
    by_cases here : k = id
    · rw [here, offered_cons_self fresh]
      exact iff_of_false (absent (Bool.eq_false_iff.mpr idle) b) (fun both => idle both.1)
    · exact others' k here b

/-- The publisher goes. -/
theorem Informed.remove {matched : Bool} (tracks : Informed counted ((id, o) :: rest) sub)
    (named : id ≠ []) (fresh : id ∉ rest.map Prod.fst)
    (room : counted → (rest.length : Int) ≤ int32Max)
    (covers : o.counts sub.toPubSubConfig = true → matched = true) :
    Informed counted rest (if matched then sub.recordLivelinessRemove id else sub) := by
  split
  case isTrue =>
    obtain ⟨roll, moved⟩ := recordLivelinessRemove_moved sub named
    apply tracks.of_moved moved ?_ room
    rw [roll]
    exact tracks.shows.strike (fun k other b => offered_cons_of_ne other)
      (fun b offered => fresh offered.mem_ids)
  case isFalse idle =>
    apply tracks.congr
    intro k b
    by_cases here : k = id
    · rw [here, offered_cons_self fresh]
      exact iff_of_false (fun both => idle (covers both.1)) (fun offered => fresh offered.mem_ids)
    · exact offered_cons_of_ne here

end

/-- All the subscriptions are right about the publishers that there are. -/
structure Tracking (counted : Prop) (offers : List (Bytes × Offer)) (subs : Subscriptions) :
    Prop where
  distinct : (offers.map Prod.fst).Nodup
  named : [] ∉ offers.map Prod.fst
  room : counted → (offers.length : Int) ≤ int32Max
  tracks : ∀ sub ∈ subs, Informed counted offers sub

namespace Tracking

variable {counted : Prop} {offers offers' rest : List (Bytes × Offer)} {subs : Subscriptions}
variable {id : Bytes} {o o' : Offer} {matched : FleetQoxSubscriptionData → Bool}

theorem perm (same : offers.Perm offers') (held : Tracking counted offers subs) :
    Tracking counted offers' subs where
  distinct := (same.map Prod.fst).nodup_iff.mp held.distinct
  named among := held.named ((same.map Prod.fst).mem_iff.mpr among)
  room asked := same.length_eq ▸ held.room asked
  tracks sub among := (held.tracks sub among).congr fun _ _ => offered_perm same

theorem forMatching {record : FleetQoxSubscriptionData → FleetQoxSubscriptionData}
    (each : ∀ sub ∈ subs, Informed counted offers' (if matched sub then record sub else sub)) :
    ∀ sub ∈ subs.forMatching matched record, Informed counted offers' sub := by
  intro sub among
  obtain ⟨before, inside, rfl⟩ := List.mem_map.mp among
  exact each before inside

theorem forMatching_none {record : FleetQoxSubscriptionData → FleetQoxSubscriptionData}
    (none_ : ∀ sub, matched sub = false) : subs.forMatching matched record = subs := by
  unfold Subscriptions.forMatching
  simp [none_]

theorem tail (held : Tracking counted ((id, o) :: rest) subs) :
    id ∉ rest.map Prod.fst ∧ (rest.map Prod.fst).Nodup ∧ id ≠ [] ∧ [] ∉ rest.map Prod.fst := by
  obtain ⟨fresh, distinct⟩ := List.nodup_cons.mp held.distinct
  refine ⟨fresh, distinct, ?_, ?_⟩
  · intro empty
    exact held.named (empty ▸ List.mem_cons_self)
  · exact fun among => held.named (List.mem_cons_of_mem _ among)

/-- A publisher comes. -/
theorem add (held : Tracking counted rest subs) (named : id ≠ []) (fresh : id ∉ rest.map Prod.fst)
    (room : counted → (rest.length : Int) + 1 ≤ int32Max)
    (isMatched : ∀ sub, matched sub = o.counts sub.toPubSubConfig) :
    Tracking counted ((id, o) :: rest)
      (subs.forMatching matched (·.recordLivelinessChange id o.livelinessAlive)) where
  distinct := List.nodup_cons.mpr ⟨fresh, held.distinct⟩
  named among := (List.mem_cons.mp among).elim (fun empty => named empty.symm) held.named
  room := room
  tracks := by
    apply forMatching
    intro sub among
    rw [isMatched]
    exact (held.tracks sub among).record named fresh room (fun _ _ _ => Iff.rfl)
      (fun _ _ offered => fresh offered.mem_ids)

/-- What is told of a publisher changes nothing that it counts by, and its flag is recorded. -/
theorem change (held : Tracking counted ((id, o) :: rest) subs)
    (config : o'.toPubSubConfig = o.toPubSubConfig)
    (isMatched : ∀ sub, matched sub = o'.counts sub.toPubSubConfig) :
    Tracking counted ((id, o') :: rest)
      (subs.forMatching matched (·.recordLivelinessChange id o'.livelinessAlive)) where
  distinct := held.distinct
  named := held.named
  room := held.room
  tracks := by
    obtain ⟨fresh, -, named, -⟩ := held.tail
    apply forMatching
    intro sub among
    have same : o'.counts sub.toPubSubConfig = o.counts sub.toPubSubConfig := by
      unfold Offer.counts
      rw [config]
    rw [isMatched]
    apply (held.tracks sub among).record named fresh held.room
    · exact fun k other b => offered_cons_of_ne other
    · intro idle b offered
      rw [same] at idle
      rw [((offered_cons_self fresh).mp offered).1] at idle
      cases idle

/-- Nothing of a publisher changes that a subscription goes by. -/
theorem keep (held : Tracking counted ((id, o) :: rest) subs)
    (config : o'.toPubSubConfig = o.toPubSubConfig)
    (flag : o'.livelinessAlive = o.livelinessAlive) : Tracking counted ((id, o') :: rest) subs where
  distinct := held.distinct
  named := held.named
  room := held.room
  tracks sub among := by
    obtain ⟨fresh, -⟩ := held.tail
    apply (held.tracks sub among).congr
    intro k b
    by_cases here : k = id
    · rw [here, offered_cons_self fresh, offered_cons_self fresh, flag]
      unfold Offer.counts
      rw [config]
    · rw [offered_cons_of_ne here, offered_cons_of_ne here]

/-- A publisher goes. -/
theorem remove (held : Tracking counted ((id, o) :: rest) subs)
    (covers : ∀ sub : FleetQoxSubscriptionData,
      o.counts sub.toPubSubConfig = true → matched sub = true) :
    Tracking counted rest (subs.forMatching matched (·.recordLivelinessRemove id)) := by
  obtain ⟨fresh, distinct, named, others⟩ := held.tail
  have room : counted → (rest.length : Int) ≤ int32Max := by
    intro asked
    have few := held.room asked
    rw [List.length_cons] at few
    omega
  refine ⟨distinct, others, room, forMatching ?_⟩
  intro sub among
  exact (held.tracks sub among).remove named fresh room (covers sub)

/-- Of a publisher that does not count nothing is told. -/
theorem add_idle (held : Tracking counted rest subs) (named : id ≠ [])
    (fresh : id ∉ rest.map Prod.fst) (room : counted → (rest.length : Int) + 1 ≤ int32Max)
    (idle : ∀ config, o.counts config = false) : Tracking counted ((id, o) :: rest) subs := by
  have added : Tracking counted _ (subs.forMatching (fun _ => false) _) :=
    held.add named fresh room fun sub => (idle sub.toPubSubConfig).symm
  rwa [forMatching_none fun _ => rfl] at added

theorem remove_idle (held : Tracking counted ((id, o) :: rest) subs)
    (idle : ∀ config, o.counts config = false) : Tracking counted rest subs := by
  have gone : Tracking counted rest (subs.forMatching (fun _ => false) _) :=
    held.remove fun sub counts => absurd counts (Bool.eq_false_iff.mp (idle sub.toPubSubConfig))
  rwa [forMatching_none fun _ => rfl] at gone

end Tracking

end FleetRMW.Rmw
