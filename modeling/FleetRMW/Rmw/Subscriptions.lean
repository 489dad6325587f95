import FleetRMW.Rmw.Coherent

/-! # What a delivery does to a subscription

A subscription observes the frames that are for it and puts into its queue those that it has not
observed before. So frames that are new to it reach the queue, in the order in which they are
delivered, and frames that it has seen do not.
-/

namespace FleetRMW.Rmw

open Lib

/-! ## What a subscription observes -/

namespace CoherentSubscription

variable {sub : CoherentSubscription} {frame : DataFrame} {times : DeliveryTimes} {key : Bytes}
  {n : UInt64} {frames : List DataFrame}

/-- A frame of the stream with this number has been observed. -/
def Observed (sub : CoherentSubscription) (key : Bytes) (n : UInt64) : Prop :=
  ∃ state, sub.sequenceStates.get? key = some state ∧ n ∈ state.observedSequences

/-- Each stream that has a state has its baseline. -/
def Baselined (sub : CoherentSubscription) : Prop :=
  ∀ key state, sub.sequenceStates.get? key = some state →
    state.receptionSequenceBaselineInitialized = true

theorem observe_spec (frame : DataFrame) (baselined : sub.Baselined) :
    ((sub.observe frame).1 = true ↔ sub.Observed (streamKey frame) frame.sourceSequenceNumber) ∧
    ∃ state, (sub.observe frame).2 = { sub with
        sequenceStates := sub.sequenceStates.set (streamKey frame) state } ∧
      state.receptionSequenceBaselineInitialized = true ∧
      ∀ n, n ∈ state.observedSequences ↔
        n = frame.sourceSequenceNumber ∨ sub.Observed (streamKey frame) n := by
  cases known : sub.sequenceStates.get? (streamKey frame) with
  | none =>
      have unseen : ∀ n, ¬sub.Observed (streamKey frame) n := by
        intro n observed
        obtain ⟨state, stored, -⟩ := observed
        rw [known] at stored
        cases stored
      refine ⟨?_, (establishReceptionSequenceBaseline (observeFrame {} frame).2).2, ?_, rfl, ?_⟩
      · simp only [unseen, iff_false]
        unfold observe
        rw [known]
        exact Bool.false_ne_true
      · unfold observe
        rw [known]
        rfl
      · intro n
        simp only [unseen, or_false]
        exact List.mem_singleton
  | some state =>
      have begun := baselined _ _ known
      have seen : ∀ n, sub.Observed (streamKey frame) n ↔ n ∈ state.observedSequences := by
        intro n
        constructor
        · intro observed
          obtain ⟨state', stored, among⟩ := observed
          rw [known] at stored
          exact Option.some.inj stored ▸ among
        · intro among
          exact ⟨state, known, among⟩
      refine ⟨?_, (observeFrame state frame).2, ?_, begun, ?_⟩
      · rw [seen]
        unfold observe
        simp only [known, Option.getD_some, begun, Bool.not_true, Bool.false_eq_true, if_false]
        exact decide_eq_true_iff
      · unfold observe
        simp only [known, Option.getD_some, begun, Bool.not_true, Bool.false_eq_true, if_false]
      · intro n
        rw [seen]
        exact SequenceSet.mem_insert

/-- Arbitration changes the owner only. -/
theorem ownershipAdmitsDelivery_spec (frame : DataFrame) (receiveNs : Int) :
    ∃ ownerKey strength lastSeen, (sub.ownershipAdmitsDelivery frame receiveNs).2 = { sub with
      exclusiveOwnerKey := ownerKey
      exclusiveOwnerStrength := strength
      exclusiveOwnerLastSeenNs := lastSeen } := by
  unfold ownershipAdmitsDelivery
  split
  · exact ⟨_, _, _, rfl⟩
  · dsimp only
    split
    · exact ⟨_, _, _, rfl⟩
    · exact ⟨_, _, _, rfl⟩

/-- What a delivery leaves as it was, what it observes, and what it puts into the queue. -/
structure Delivered (sub sub' : CoherentSubscription) (frames enqueued : List DataFrame) : Prop where
  config : sub'.config = sub.config
  baselined : sub'.Baselined
  stays : ∀ {key n}, sub.Observed key n → sub'.Observed key n
  origin : ∀ {key n}, sub'.Observed key n → sub.Observed key n ∨
    ∃ frame ∈ frames, key = streamKey frame ∧ n = frame.sourceSequenceNumber
  enqueued : sub'.enqueued = sub.enqueued ++ enqueued

theorem Delivered.refl (baselined : sub.Baselined) : Delivered sub sub frames [] where
  config := rfl
  baselined := baselined
  stays := id
  origin := .inl
  enqueued := (List.append_nil _).symm

theorem Delivered.trans {sub' sub'' : CoherentSubscription} {frames' enqueued enqueued' : List DataFrame}
    (first : Delivered sub sub' frames enqueued) (second : Delivered sub' sub'' frames' enqueued') :
    Delivered sub sub'' (frames ++ frames') (enqueued ++ enqueued') where
  config := second.config.trans first.config
  baselined := second.baselined
  stays := second.stays ∘ first.stays
  origin := by
    intro key n observed
    cases second.origin observed with
    | inr later =>
        obtain ⟨frame, among, same⟩ := later
        exact .inr ⟨frame, List.mem_append_right _ among, same⟩
    | inl before =>
        apply (first.origin before).imp_right
        intro earlier
        obtain ⟨frame, among, same⟩ := earlier
        exact ⟨frame, List.mem_append_left _ among, same⟩
  enqueued := by rw [second.enqueued, first.enqueued, List.append_assoc]

/-- A frame that is observed joins what its stream has observed. -/
theorem observe_delivered (frame : DataFrame) (baselined : sub.Baselined) :
    Delivered sub (sub.observe frame).2 [frame] [] ∧
      (sub.observe frame).2.Observed (streamKey frame) frame.sourceSequenceNumber := by
  obtain ⟨-, state, after, begun, holds⟩ := observe_spec frame baselined
  rw [after]
  have here : ∀ {state'}, (sub.sequenceStates.set (streamKey frame) state).get? (streamKey frame) =
      some state' → state' = state := fun stored =>
    (Option.some.inj (Dict.get?_set_self.symm.trans stored)).symm
  refine ⟨{
    config := rfl
    baselined := ?_
    stays := ?_
    origin := ?_
    enqueued := (List.append_nil _).symm }, state, Dict.get?_set_self, (holds _).mpr (.inl rfl)⟩
  · intro key state' stored
    by_cases same : key = streamKey frame
    · subst same
      exact here stored ▸ begun
    · rw [Dict.get?_set_of_ne same] at stored
      exact baselined key state' stored
  · intro key n observed
    by_cases same : key = streamKey frame
    · subst same
      exact ⟨state, Dict.get?_set_self, (holds n).mpr (.inr observed)⟩
    · obtain ⟨state', stored, among⟩ := observed
      exact ⟨state', (Dict.get?_set_of_ne same).trans stored, among⟩
  · intro key n observed
    obtain ⟨state', stored, among⟩ := observed
    by_cases same : key = streamKey frame
    · subst same
      rw [here stored] at among
      cases (holds n).mp among with
      | inl new => exact .inr ⟨frame, List.mem_singleton_self _, rfl, new⟩
      | inr old => exact .inl old
    · exact .inl ⟨state', (Dict.get?_set_of_ne same).symm.trans stored, among⟩

/-- At most the frame itself is put into the queue, and only when it is new. -/
theorem deliver_delivered (times : DeliveryTimes) (frame : DataFrame)
    (baselined : sub.Baselined) :
    ∃ enqueued, Delivered sub (sub.deliver times frame) [frame] enqueued ∧
      (enqueued = [] ∨ enqueued = [frame] ∧ sub.config.takes frame = true ∧
        ¬sub.Observed (streamKey frame) frame.sourceSequenceNumber) := by
  unfold deliver
  split
  case isTrue => exact ⟨[], .refl baselined, .inl rfl⟩
  case isFalse matches_ =>
    obtain ⟨ownerKey, strength, lastSeen, arbitrated⟩ :=
      ownershipAdmitsDelivery_spec frame times.receiveNs
    cases decided : sub.ownershipAdmitsDelivery frame times.receiveNs with
    | mk admits sub₁ =>
        rw [decided] at arbitrated
        obtain rfl : sub₁ = _ := arbitrated
        cases admits with
        | false => exact ⟨[], ⟨rfl, baselined, id, .inl, (List.append_nil _).symm⟩, .inl rfl⟩
        | true =>
            let sub₁ : CoherentSubscription := { sub with
              exclusiveOwnerKey := ownerKey
              exclusiveOwnerStrength := strength
              exclusiveOwnerLastSeenNs := lastSeen }
            have baselined₁ : sub₁.Baselined := baselined
            obtain ⟨repeated, -⟩ := observe_spec frame baselined₁
            obtain ⟨seen, -⟩ := observe_delivered frame baselined₁
            have quiet : Delivered sub (sub₁.observe frame).2 [frame] [] :=
              ⟨seen.config, seen.baselined, seen.stays, seen.origin, seen.enqueued⟩
            dsimp only
            split
            case isTrue => exact ⟨[], quiet, .inl rfl⟩
            case isFalse new =>
              split
              case isTrue => exact ⟨[], quiet, .inl rfl⟩
              case isFalse passes =>
                split
                case isTrue => exact ⟨[], quiet, .inl rfl⟩
                case isFalse =>
                  refine ⟨[frame], { quiet with enqueued := ?_ }, .inr ⟨rfl, ?_, ?_⟩⟩
                  · change (sub₁.observe frame).2.enqueued ++ [frame] = _
                    rw [quiet.enqueued, List.append_nil]
                  · have config : (sub₁.observe frame).2.config = sub.config := seen.config
                    rw [config] at passes
                    simp only [Bool.not_eq_true, Bool.not_eq_false'] at matches_ passes
                    exact Bool.and_eq_true_iff.mpr ⟨matches_, passes⟩
                  · exact fun observed => new (repeated.mpr observed)

/-- A new frame that the subscription does not turn away is observed, and put into the queue where
    the filter passes it. -/
theorem deliver_new (baselined : sub.Baselined) (matches_ : sub.config.matchesFrame frame = true)
    (shared : sub.config.exclusiveOwnership = false)
    (current : frameExceedsLifespan sub.config.qos frame.sourceTimestampNs
      (times.wallAtCheck frame) = false)
    (new : ¬sub.Observed (streamKey frame) frame.sourceSequenceNumber) :
    Delivered sub (sub.deliver times frame) [frame] ([frame].filter sub.config.takes) ∧
      (sub.deliver times frame).Observed (streamKey frame) frame.sourceSequenceNumber := by
  obtain ⟨repeated, -⟩ := observe_spec frame baselined
  obtain ⟨seen, observed⟩ := observe_delivered frame baselined
  have admitted : sub.ownershipAdmitsDelivery frame times.receiveNs = (true, sub) := by
    unfold ownershipAdmitsDelivery
    rw [shared]
    rfl
  have first : (sub.observe frame).1 = false :=
    Bool.eq_false_iff.mpr fun again => new (repeated.mp again)
  have delivered : sub.deliver times frame =
      if !sub.config.contentFilter frame.serializedPayload then (sub.observe frame).2
      else { (sub.observe frame).2 with enqueued := (sub.observe frame).2.enqueued ++ [frame] } := by
    unfold deliver
    simp only [matches_, admitted, first, seen.config, current, Bool.not_true, Bool.false_eq_true,
      if_false]
  rw [delivered, List.filter_singleton]
  simp only [SubscriptionConfig.takes, matches_, Bool.true_and]
  cases sub.config.contentFilter frame.serializedPayload with
  | false => exact ⟨seen, observed⟩
  | true =>
      refine ⟨{ seen with enqueued := ?_ }, observed⟩
      change (sub.observe frame).2.enqueued ++ [frame] = _
      rw [seen.enqueued, List.append_nil]
      rfl

theorem deliver_of_not_matches (other : sub.config.matchesFrame frame = false) :
    sub.deliver times frame = sub := by
  unfold deliver
  rw [other]
  rfl

/-! ## Several frames after one another -/

/-- Frames of which the subscription has seen all that are for it put nothing into the queue. -/
theorem foldl_deliver_seen (baselined : sub.Baselined)
    (seen : ∀ frame ∈ frames, sub.config.matchesFrame frame = true →
      sub.Observed (streamKey frame) frame.sourceSequenceNumber) :
    Delivered sub (frames.foldl (deliver times) sub) frames [] := by
  induction frames generalizing sub with
  | nil => exact .refl baselined
  | cons frame frames ih =>
      obtain ⟨enqueued, delivered, queued⟩ :=
        deliver_delivered times frame baselined
      have nothing : enqueued = [] := by
        apply queued.resolve_right
        intro new
        have matches_ : sub.config.matchesFrame frame = true := (Bool.and_eq_true_iff.mp new.2.1).1
        exact new.2.2 (seen frame List.mem_cons_self matches_)
      subst nothing
      apply delivered.trans (ih delivered.baselined _)
      intro later among matches_
      rw [delivered.config] at matches_
      exact delivered.stays (seen later (List.mem_cons_of_mem _ among) matches_)

/-- New frames of different streams or numbers, of which none that is for the subscription is turned
    away, are observed, and those that it takes are put into the queue. -/
theorem foldl_deliver_new (baselined : sub.Baselined)
    (distinct : (frames.map fun frame => (streamKey frame, frame.sourceSequenceNumber)).Nodup)
    (new : ∀ frame ∈ frames, sub.config.matchesFrame frame = true →
      sub.config.exclusiveOwnership = false ∧
      frameExceedsLifespan sub.config.qos frame.sourceTimestampNs (times.wallAtCheck frame) = false ∧
      ¬sub.Observed (streamKey frame) frame.sourceSequenceNumber) :
    Delivered sub (frames.foldl (deliver times) sub) frames (frames.filter sub.config.takes) ∧
      ∀ frame ∈ frames, sub.config.matchesFrame frame = true →
        (frames.foldl (deliver times) sub).Observed (streamKey frame) frame.sourceSequenceNumber := by
  induction frames generalizing sub with
  | nil => exact ⟨.refl baselined, fun frame among => absurd among List.not_mem_nil⟩
  | cons frame frames ih =>
      obtain ⟨once, distinct⟩ := List.nodup_cons.mp distinct
      have head : Delivered sub (sub.deliver times frame) [frame] ([frame].filter sub.config.takes) ∧
          (sub.config.matchesFrame frame = true →
            (sub.deliver times frame).Observed (streamKey frame) frame.sourceSequenceNumber) := by
        cases matches_ : sub.config.matchesFrame frame with
        | false =>
            rw [deliver_of_not_matches matches_, List.filter_singleton]
            simp only [SubscriptionConfig.takes, matches_, Bool.false_and]
            exact ⟨.refl baselined, fun absurd_ => by cases absurd_⟩
        | true =>
            obtain ⟨shared, current, unseen⟩ := new frame List.mem_cons_self matches_
            obtain ⟨delivered, observed⟩ := deliver_new baselined matches_ shared current unseen
            exact ⟨delivered, fun _ => observed⟩
      obtain ⟨delivered, observed⟩ := head
      have tail := ih delivered.baselined distinct (by
        intro later among matches_
        rw [delivered.config] at matches_ ⊢
        obtain ⟨shared, current, unseen⟩ := new later (List.mem_cons_of_mem _ among) matches_
        refine ⟨shared, current, ?_⟩
        intro seen
        cases delivered.origin seen with
        | inl before => exact unseen before
        | inr same =>
            obtain ⟨first, isFirst, sameKey, sameNumber⟩ := same
            obtain rfl := List.mem_singleton.mp isFirst
            exact once (List.mem_map.mpr ⟨later, among, Prod.ext sameKey sameNumber⟩))
      obtain ⟨rest, observedRest⟩ := tail
      rw [delivered.config] at rest observedRest
      constructor
      · have both := delivered.trans rest
        rwa [← List.filter_append] at both
      · intro later among matches_
        cases List.mem_cons.mp among with
        | inl first =>
            subst first
            exact rest.stays (observed matches_)
        | inr behind => exact observedRest later behind matches_

end CoherentSubscription

theorem foldl_deliverDecodedFrame {times : DeliveryTimes} {frames : List DataFrame}
    {subscriptions : List CoherentSubscription} :
    frames.foldl (CoherentReceiver.deliverDecodedFrame times) subscriptions =
      subscriptions.map fun sub => frames.foldl (CoherentSubscription.deliver times) sub := by
  induction frames generalizing subscriptions with
  | nil => exact (List.map_id' _).symm
  | cons frame frames ih =>
      rw [List.foldl_cons, ih, CoherentReceiver.deliverDecodedFrame, List.map_map]
      rfl

end FleetRMW.Rmw
