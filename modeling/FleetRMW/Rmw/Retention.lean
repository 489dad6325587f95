import FleetRMW.Rmw.Ledger
import FleetRMW.Rmw.Reassembly

/-! # Reliable history is retained

As long as a published frame is in the ledger, its entry accounts for what has happened since:
each subscriber that was matched is pending or done, and each that is recorded as missing has
been missing at every poll. So an entry that is dropped is dropped for a reason.
-/

namespace FleetRMW.Rmw

open Lib

/-! ## Keys -/

/-- Lists that end in the same element, which occurs once behind it, are cut in the same place. -/
theorem append_delimiter_right {front front' behind behind' : Bytes} (plain : 124 ∉ behind)
    (plain' : 124 ∉ behind') (same : front ++ 124 :: behind = front' ++ 124 :: behind') :
    front = front' ∧ behind = behind' := by
  have reversed := congrArg List.reverse same
  simp only [List.reverse_append, List.reverse_cons, List.append_assoc, List.singleton_append]
    at reversed
  have reversedPlain : 124 ∉ behind.reverse := by simpa using plain
  have split := splitField_append reversedPlain front.reverse
  rw [reversed, splitField_append (by simpa using plain')] at split
  obtain ⟨sameBehind, sameFront⟩ := Prod.mk.inj (Option.some.inj split)
  exact ⟨(List.reverse_injective sameFront).symm, (List.reverse_injective sameBehind).symm⟩

theorem retransmitLedgerKey_injective {publisherId publisherId' : Bytes} {m n : UInt64}
    (same : retransmitLedgerKey publisherId m = retransmitLedgerKey publisherId' n) :
    publisherId = publisherId' ∧ m = n := by
  have shape : ∀ (id : Bytes) (k : UInt64),
      retransmitLedgerKey id k = id ++ 124 :: decimal k.toNat := fun id k =>
    List.append_assoc _ _ _
  rw [shape, shape] at same
  obtain ⟨samePublisher, sameNumber⟩ :=
    append_delimiter_right (decimal_plain _) (decimal_plain _) same
  exact ⟨samePublisher, UInt64.toNat_inj.mp (decimal_injective sameNumber)⟩

/-! ## The loop over the pending subscribers -/

section
variable {active : List Bytes} {now grace : Int} {id : Bytes} {ids : List Bytes}
  {missing : Dict Bytes Int}

variable (active now grace ids missing) in
theorem prunePending_sublist : (prunePending active now grace ids missing).1.Sublist ids := by
  induction ids generalizing missing with
  | nil => exact List.Sublist.refl _
  | cons x ids ih =>
      unfold prunePending
      split
      · exact (ih _).cons_cons x
      · split
        · exact (ih _).cons_cons x
        · split
          · exact (ih _).cons_cons x
          · exact (ih _).cons x

/-- Of a subscriber that is not among the pending ones nothing changes. -/
theorem prunePending_frame (absent : id ∉ ids) :
    (prunePending active now grace ids missing).2.get? id = missing.get? id := by
  induction ids generalizing missing with
  | nil => rfl
  | cons x ids ih =>
      obtain ⟨other, absent⟩ := not_or.mp (List.mem_cons.not.mp absent)
      have erased : (missing.erase x).get? id = missing.get? id := by
        rw [Dict.get?_erase, if_neg other]
      unfold prunePending
      split
      · rw [ih absent, erased]
      · split
        · rw [ih absent, Dict.get?_set_of_ne other]
        · split
          · exact ih absent
          · rw [ih absent, erased]

/-- A subscriber that is dropped has been missing for the grace period. -/
theorem prunePending_dropped (distinct : ids.Nodup) (among : id ∈ ids)
    (dropped : id ∉ (prunePending active now grace ids missing).1) :
    id ∉ active ∧ ∃ since, missing.get? id = some since ∧ ¬now - since < grace := by
  induction ids generalizing missing with
  | nil => cases among
  | cons x ids ih =>
      obtain ⟨once, distinct⟩ := List.nodup_cons.mp distinct
      cases among with
      | head =>
          unfold prunePending at dropped
          split at dropped
          case isTrue => exact absurd List.mem_cons_self dropped
          case isFalse inactive =>
            split at dropped
            case h_1 => exact absurd List.mem_cons_self dropped
            case h_2 since recorded =>
              split at dropped
              case isTrue => exact absurd List.mem_cons_self dropped
              case isFalse long => exact ⟨inactive, since, recorded, long⟩
      | tail _ among =>
          have other : id ≠ x := fun same => once (same ▸ among)
          have erased : (missing.erase x).get? id = missing.get? id := by
            rw [Dict.get?_erase, if_neg other]
          unfold prunePending at dropped
          split at dropped
          · rw [← erased]
            exact ih distinct among fun inside => dropped (List.mem_cons_of_mem _ inside)
          · split at dropped
            · rw [← Dict.get?_set_of_ne other]
              exact ih distinct among fun inside => dropped (List.mem_cons_of_mem _ inside)
            · split at dropped
              · exact ih distinct among fun inside => dropped (List.mem_cons_of_mem _ inside)
              · rw [← erased]
                exact ih distinct among dropped

/-- A subscriber that is recorded as missing is missing now, and was recorded before unless
    since now. -/
theorem prunePending_recorded {since : Int} (distinct : ids.Nodup) (among : id ∈ ids)
    (recorded : (prunePending active now grace ids missing).2.get? id = some since) :
    id ∉ active ∧ (missing.get? id = some since ∨ since = now) := by
  induction ids generalizing missing with
  | nil => cases among
  | cons x ids ih =>
      obtain ⟨once, distinct⟩ := List.nodup_cons.mp distinct
      cases among with
      | head =>
          unfold prunePending at recorded
          split at recorded
          case isTrue =>
            rw [prunePending_frame once, Dict.get?_erase, if_pos rfl] at recorded
            cases recorded
          case isFalse inactive =>
            refine ⟨inactive, ?_⟩
            split at recorded
            case h_1 =>
              rw [prunePending_frame once, Dict.get?_set_self] at recorded
              exact .inr (Option.some.inj recorded).symm
            case h_2 before held =>
              split at recorded
              case isTrue =>
                rw [prunePending_frame once] at recorded
                exact .inl recorded
              case isFalse =>
                rw [prunePending_frame once, Dict.get?_erase, if_pos rfl] at recorded
                cases recorded
      | tail _ among =>
          have other : id ≠ x := fun same => once (same ▸ among)
          have erased : (missing.erase x).get? id = missing.get? id := by
            rw [Dict.get?_erase, if_neg other]
          unfold prunePending at recorded
          split at recorded
          · rw [← erased]
            exact ih distinct among recorded
          · split at recorded
            · rw [← Dict.get?_set_of_ne other]
              exact ih distinct among recorded
            · split at recorded
              · exact ih distinct among recorded
              · rw [← erased]
                exact ih distinct among recorded

end

/-! ## Reasons persist -/

section
variable {process : LedgerProcess} {p : Publication} {sequence : UInt64} {id : Bytes} {since : Int}
  {later : List LedgerEvent} {e : LedgerEvent}

theorem MissingSince.concat (missing : MissingSince p sequence id since later)
    (still : e.Misses p sequence id) : MissingSince p sequence id since (later ++ [e]) := by
  obtain ⟨before, rest, poll, rfl, at_, covers, all⟩ := missing
  refine ⟨before, rest ++ [e], poll, by simp only [List.append_assoc, List.cons_append], at_,
    covers, ?_⟩
  intro x among
  rw [← List.cons_append] at among
  cases List.mem_append.mp among with
  | inl before => exact all x before
  | inr last => exact List.mem_singleton.mp last ▸ still

theorem SubscriberDone.concat (done : SubscriberDone process p sequence later id) :
    SubscriberDone process p sequence (later ++ [e]) id := by
  cases done with
  | inl acknowledged =>
      obtain ⟨x, among, acknowledges⟩ := acknowledged
      exact .inl ⟨x, List.mem_append_left _ among, acknowledges⟩
  | inr pruned =>
      obtain ⟨before, rest, poll, since, rfl, covers, inactive, missing, long⟩ := pruned
      exact .inr ⟨before, rest ++ [e], poll, since,
        by simp only [List.append_assoc, List.cons_append], covers, inactive, missing, long⟩

theorem Looked.concat (looked : Looked process p sequence later) :
    Looked process p sequence (later ++ [e]) := by
  obtain ⟨x, among, at_⟩ := looked
  exact ⟨x, List.mem_append_left _ among, at_⟩

theorem Released.concat (released : Released process p sequence later) :
    Released process p sequence (later ++ [e]) := by
  cases released with
  | expired passed =>
      obtain ⟨x, among, finds⟩ := passed
      exact .expired ⟨x, List.mem_append_left _ among, finds⟩
  | superseded newer =>
      exact .superseded (le_trans newer ((List.sublist_append_left _ _).countP_le))
  | settled all none_ =>
      exact .settled (fun id among => (all id among).concat) fun nobody => (none_ nobody).concat

end

/-! ## What an entry accounts for -/

/-- The entry of a published frame, which accounts for the events since. -/
structure Accounts (process : LedgerProcess) (p : Publication) (sequence : UInt64)
    (later : List LedgerEvent) (entry : ReliableRetransmitEntry) : Prop where
  encodedFrame : entry.encodedFrame = process.encodeFrame (p.frame process sequence)
  qos : entry.qos = (process.publishers p.publisherId).qos
  publisherId : entry.publisherId = p.publisherId
  domainId : entry.domainId = (process.publishers p.publisherId).domainId
  sourceSequenceNumber : entry.sourceSequenceNumber = sequence
  sourceTimestampNs : entry.sourceTimestampNs = p.wallNowNs
  instanceKey : entry.instanceKey = p.instanceKey
  reliable : entry.reliable = true
  distinct : entry.pendingSubscriberIds.Nodup
  pending : ∀ id ∈ p.matchedSubscriptionIds, id ∈ entry.pendingSubscriberIds ∨
    SubscriberDone process p sequence later id
  missing : ∀ id ∈ entry.pendingSubscriberIds, ∀ since,
    entry.pendingSubscriberMissingSinceNs.get? id = some since →
      MissingSince p sequence id since later
  acknowledged : entry.acknowledged = true → entry.pendingSubscriberIds = [] ∧
    (p.matchedSubscriptionIds = [] → Looked process p sequence later)

namespace Accounts

variable {process : LedgerProcess} {p : Publication} {sequence : UInt64}
  {later : List LedgerEvent} {entry : ReliableRetransmitEntry} {e : LedgerEvent}

theorem settled (accounts : Accounts process p sequence later entry)
    (acknowledged : entry.acknowledged = true) : Released process p sequence later := by
  obtain ⟨nobody, looked⟩ := accounts.acknowledged acknowledged
  apply Released.settled _ looked
  intro id among
  have done := accounts.pending id among
  rw [nobody] at done
  exact done.resolve_left List.not_mem_nil

/-- A new entry. -/
theorem publish (reliable : (process.publishers p.publisherId).qos.reliable = true)
    (pooled : ReliableRetransmitEntry) :
    Accounts process p sequence [] (p.resetPooledRetransmitEntry process sequence pooled) where
  encodedFrame := rfl
  qos := rfl
  publisherId := rfl
  domainId := rfl
  sourceSequenceNumber := rfl
  sourceTimestampNs := rfl
  instanceKey := rfl
  reliable := reliable
  distinct := List.nodup_dedup _
  pending := by
    intro id among
    left
    simp only [Publication.resetPooledRetransmitEntry, reliable, if_true]
    exact List.mem_dedup.mpr among
  missing := by
    intro id _ since recorded
    cases recorded
  acknowledged := by
    intro acknowledged
    simp only [Publication.resetPooledRetransmitEntry, reliable, Bool.not_true] at acknowledged
    cases acknowledged

/-- An event at which no subscriber is seen keeps the account. -/
theorem concat (accounts : Accounts process p sequence later entry)
    (unseen : ∀ id, e.Misses p sequence id) :
    Accounts process p sequence (later ++ [e]) entry where
  __ := accounts
  pending id among := (accounts.pending id among).imp_right SubscriberDone.concat
  missing id among since recorded := (accounts.missing id among since recorded).concat (unseen id)
  acknowledged acknowledged :=
    ⟨(accounts.acknowledged acknowledged).1,
      fun nobody => ((accounts.acknowledged acknowledged).2 nobody).concat⟩

theorem observeAckNack (accounts : Accounts process p sequence later entry) {encodedFrame : Bytes}
    {ackNack : AckNackFrame} (decoded : decodeAckNack encodedFrame = .ok (some ackNack))
    (localRobot : ackNack.robotId = process.localRobotId) (named : ackNack.subscriberId ≠ []) :
    Accounts process p sequence (later ++ [.feedback encodedFrame])
      (entry.observeAckNack ackNack) := by
  have kept := accounts.concat (e := .feedback encodedFrame) fun id => True.intro
  unfold ReliableRetransmitEntry.observeAckNack
  split
  case isTrue => exact kept
  case isFalse concerns =>
    split
    case isFalse => exact kept
    case isTrue acknowledges =>
      simp only [accounts.reliable, accounts.publisherId, accounts.domainId, Bool.not_true,
        Bool.false_eq_true, false_or, not_or, not_not] at concerns
      rw [accounts.sourceSequenceNumber] at acknowledges
      have heard : LedgerEvent.Acknowledges process p sequence ackNack.subscriberId
          (.feedback encodedFrame) :=
        ⟨ackNack, decoded, localRobot, concerns.1.symm, concerns.2.symm, rfl, acknowledges⟩
      have last : LedgerEvent.feedback encodedFrame ∈ later ++ [.feedback encodedFrame] :=
        List.mem_append_right _ List.mem_cons_self
      exact {
        kept with
        distinct := kept.distinct.erase _
        pending := by
          intro id among
          by_cases same : id = ackNack.subscriberId
          · exact .inr (.inl ⟨_, last, same ▸ heard⟩)
          · exact (kept.pending id among).imp_left (List.mem_erase_of_ne same).mpr
        missing := fun id among => kept.missing id (List.mem_of_mem_erase among)
        acknowledged := fun empty =>
          ⟨List.isEmpty_iff.mp empty, fun _ => ⟨_, last, .inl ⟨_, heard⟩⟩⟩ }

theorem poll (accounts : Accounts process p sequence later entry) (poll : WaitPoll) :
    Accounts process p sequence (later ++ [.wait poll]) (entry.poll process poll) := by
  unfold ReliableRetransmitEntry.poll
  split
  case isFalse uncovered =>
    rw [accounts.publisherId, accounts.sourceSequenceNumber] at uncovered
    apply accounts.concat
    intro id covers
    exact absurd ⟨accounts.reliable, covers⟩ uncovered
  case isTrue covered =>
    obtain ⟨-, covers⟩ := covered
    rw [accounts.publisherId, accounts.sourceSequenceNumber] at covers
    have last : LedgerEvent.wait poll ∈ later ++ [.wait poll] :=
      List.mem_append_right _ List.mem_cons_self
    have left := prunePending_sublist poll.activeSubscribers poll.nowNs
      process.inactiveSubscriberGraceNs entry.pendingSubscriberIds
      entry.pendingSubscriberMissingSinceNs
    exact {
      accounts with
      distinct := accounts.distinct.sublist left
      pending := by
        intro id among
        cases accounts.pending id among with
        | inr done => exact .inr done.concat
        | inl before =>
            by_cases stays : id ∈ (prunePending poll.activeSubscribers poll.nowNs
              process.inactiveSubscriberGraceNs entry.pendingSubscriberIds
              entry.pendingSubscriberMissingSinceNs).1
            · exact .inl stays
            · obtain ⟨inactive, since, recorded, long⟩ :=
                prunePending_dropped accounts.distinct before stays
              exact .inr (.inr ⟨later, [], poll, since, rfl, covers, inactive,
                accounts.missing id before since recorded, long⟩)
      missing := by
        intro id among since recorded
        have before := left.subset among
        obtain ⟨inactive, known⟩ := prunePending_recorded accounts.distinct before recorded
        cases known with
        | inl earlier =>
            exact (accounts.missing id before since earlier).concat fun _ => inactive
        | inr now =>
            refine ⟨later, [], poll, rfl, now.symm, covers, ?_⟩
            intro e among
            exact List.mem_singleton.mp among ▸ fun _ => inactive
      acknowledged := fun empty =>
        ⟨List.isEmpty_iff.mp empty, fun _ => ⟨_, last, .inr covers⟩⟩ }

/-- A pass of the retransmission loop changes what is recorded about sending only. -/
theorem retransmit (accounts : Accounts process p sequence later entry) {pacing : RetransmitPacing}
    {now : Int} {pass : RetransmitPass} :
    Accounts process p sequence later (entry.retransmit pacing now pass).2 := by
  unfold ReliableRetransmitEntry.retransmit
  split
  · exact accounts
  · split
    · exact accounts
    · split
      · exact { accounts with }
      · split
        · exact { accounts with }
        · split
          · exact { accounts with }
          · split
            · exact accounts
            · exact { accounts with }

end Accounts

/-! ## Which entries there are -/

/-- What tells an item of the ledger from others, and which no event changes. -/
def identity (item : Bytes × ReliableRetransmitEntry) : Bytes × Bytes × UInt64 × Bytes :=
  (item.1, item.2.publisherId, item.2.sourceSequenceNumber, item.2.instanceKey)

theorem identity_retransmit {pacing : RetransmitPacing} {now : Int} {pass : RetransmitPass}
    (item : Bytes × ReliableRetransmitEntry) :
    identity (item.1, (item.2.retransmit pacing now pass).2) = identity item := by
  unfold ReliableRetransmitEntry.retransmit
  repeat' split
  all_goals rfl

theorem identity_observeAckNack {ackNack : AckNackFrame} (item : Bytes × ReliableRetransmitEntry) :
    identity (item.1, item.2.observeAckNack ackNack) = identity item := by
  unfold ReliableRetransmitEntry.observeAckNack
  repeat' split
  all_goals rfl

theorem identity_poll {process : LedgerProcess} {poll : WaitPoll}
    (item : Bytes × ReliableRetransmitEntry) :
    identity (item.1, item.2.poll process poll) = identity item := by
  unfold ReliableRetransmitEntry.poll
  split
  all_goals rfl

namespace RetransmitLedger

variable {ledger ledger' : RetransmitLedger}

/-- Items have been dropped, and what is left of the others' identity is as it was. -/
def Keeps (ledger ledger' : RetransmitLedger) : Prop :=
  (ledger'.map identity).Sublist (ledger.map identity)

theorem Keeps.of_sublist (sub : ledger'.Sublist ledger) : ledger.Keeps ledger' := sub.map _

theorem Keeps.trans {ledger'' : RetransmitLedger} (first : ledger.Keeps ledger')
    (second : ledger'.Keeps ledger'') : ledger.Keeps ledger'' := List.Sublist.trans second first

theorem keeps_mapEntries {f : ReliableRetransmitEntry → ReliableRetransmitEntry}
    (same : ∀ item : Bytes × ReliableRetransmitEntry, identity (item.1, f item.2) = identity item) :
    ledger.Keeps (ledger.mapEntries f) := by
  have unchanged : (ledger.mapEntries f).map identity = ledger.map identity := by
    unfold mapEntries
    rw [List.map_map]
    exact List.map_congr_left fun item _ => same item
  unfold Keeps
  rw [unchanged]

theorem Keeps.of_mem (keeps : ledger.Keeps ledger') {item : Bytes × ReliableRetransmitEntry}
    (inside : item ∈ ledger') : ∃ item' ∈ ledger, identity item' = identity item :=
  List.mem_map.mp (keeps.subset (List.mem_map_of_mem inside))

theorem Keeps.distinct (keeps : ledger.Keeps ledger') (distinct : (ledger.map Prod.fst).Nodup) :
    (ledger'.map Prod.fst).Nodup := by
  have keys : ∀ l : RetransmitLedger, l.map Prod.fst = (l.map identity).map Prod.fst := fun l => by
    rw [List.map_map]
    rfl
  rw [keys] at distinct ⊢
  exact distinct.sublist (keeps.map _)

/-- No more items are counted by what depends on their identity. -/
theorem Keeps.countP_le (keeps : ledger.Keeps ledger') (counts : Bytes × Bytes × UInt64 × Bytes → Bool) :
    ledger'.countP (fun item => counts (identity item)) ≤
      ledger.countP fun item => counts (identity item) := by
  have mapped : ∀ l : RetransmitLedger,
      l.countP (fun item => counts (identity item)) = (l.map identity).countP counts := fun l => by
    rw [List.countP_map]
    rfl
  rw [mapped, mapped]
  exact List.Sublist.countP_le keeps

end RetransmitLedger

theorem retransmitEntries_keeps {pacing : RetransmitPacing} {now : Int}
    {wallAtCheck : Bytes → Int64} {pass : RetransmitPass} {ledger : RetransmitLedger} :
    ledger.Keeps (retransmitEntries pacing now wallAtCheck pass ledger).2 := by
  induction ledger generalizing pass with
  | nil => exact List.Sublist.refl _
  | cons item rest ih =>
      unfold retransmitEntries
      split
      · exact List.Sublist.cons _ ih
      · unfold RetransmitLedger.Keeps
        rw [List.map_cons, List.map_cons, identity_retransmit]
        exact ih.cons_cons _

/-! ## The two loops of a publication -/

section
variable {q : Publication} {l : LedgerAndPool} {limit size : Nat}

theorem sweep_sublist : (q.sweep l).1.Sublist l.1 := List.filter_sublist

theorem evict_sublist : (q.evict limit size l).1.Sublist l.1 := by
  induction size generalizing l with
  | zero => exact List.Sublist.refl _
  | succ size ih =>
      unfold Publication.evict
      split
      · split
        · exact List.Sublist.refl _
        · exact ih.trans List.filter_sublist
      · exact List.Sublist.refl _

/-- What the loop drops is of the instance, and with the newer entries of the instance there are
    as many as the limit. -/
theorem evict_dropped {item : Bytes × ReliableRetransmitEntry}
    (distinct : (l.1.map Prod.fst).Nodup) (sizeLe : size ≤ l.1.countP q.sameInstance)
    (inside : item ∈ l.1) (dropped : item ∉ (q.evict limit size l).1) :
    q.sameInstance item = true ∧ limit ≤ l.1.countP fun other => q.sameInstance other &&
      decide (item.2.sourceSequenceNumber ≤ other.2.sourceSequenceNumber) := by
  induction size generalizing l with
  | zero => exact absurd inside dropped
  | succ size ih =>
      unfold Publication.evict at dropped
      split at dropped
      case isFalse => exact absurd inside dropped
      case isTrue full =>
        split at dropped
        case h_1 => exact absurd inside dropped
        case h_2 key entry found =>
          obtain ⟨among, least⟩ := Dict.oldest_spec found
          obtain ⟨stored, same⟩ := List.mem_filter.mp among
          by_cases here : item.1 = key
          · obtain rfl := Dict.eq_of_key distinct inside stored here
            refine ⟨same, le_trans full (le_trans sizeLe (List.countP_mono_left ?_))⟩
            intro other present sameOther
            have older := least other (List.mem_filter.mpr ⟨present, sameOther⟩)
            rw [sameOther, Bool.true_and, decide_eq_true_eq, UInt64.le_iff_toNat_le]
            exact Int.ofNat_le.mp older
          · have fewer := Dict.countP_le_erase (k := key) distinct q.sameInstance
            obtain ⟨sameItem, many⟩ := ih (l := (Dict.erase l.1 key, _))
              (distinct.sublist (List.filter_sublist.map _)) (by simp only; omega)
              (Dict.mem_erase_of_ne here inside) dropped
            exact ⟨sameItem, le_trans many List.filter_sublist.countP_le⟩

end

/-! ## Every step -/

/-- Each key occurs once, and the publisher's entries have the numbers it has used. -/
structure LedgerState.Numbered (s : LedgerState) (publisherId : Bytes) : Prop where
  distinct : (s.ledger.map Prod.fst).Nodup
  used : s.nextSourceSequence publisherId ≠ 0 → ∀ item ∈ s.ledger,
    item.2.publisherId = publisherId →
      item.2.sourceSequenceNumber < s.nextSourceSequence publisherId

section
variable {process : LedgerProcess} {s s' : LedgerState} {p q : Publication} {sequence : UInt64}
  {later : List LedgerEvent} {e : LedgerEvent}

/-- What is left of the ledger when the new entry is set. -/
def LedgerState.evicted (process : LedgerProcess) (s : LedgerState) (q : Publication) :
    RetransmitLedger :=
  let swept := q.sweep (s.ledger, s.retired q.publisherId)
  (q.evict (process.publishers q.publisherId).qos.historyLimit
    (swept.1.countP q.sameInstance) swept).1

variable (s process q) in
theorem LedgerState.publish_ledger : ∃ pooled, (s.publish process q).ledger =
    (s.evicted process q).set
      (retransmitLedgerKey q.publisherId (s.nextSourceSequence q.publisherId))
      (q.resetPooledRetransmitEntry process (s.nextSourceSequence q.publisherId) pooled) :=
  ⟨_, rfl⟩

variable (s process q) in
theorem LedgerState.evicted_sublist : (s.evicted process q).Sublist s.ledger :=
  evict_sublist.trans sweep_sublist

/-- A publication only drops entries of its own instance. -/
theorem LedgerState.evicted_dropped {item : Bytes × ReliableRetransmitEntry}
    (distinct : (s.ledger.map Prod.fst).Nodup) (inside : item ∈ s.ledger)
    (dropped : item ∉ s.evicted process q) : q.sameInstance item = true := by
  by_cases swept : item ∈ (q.sweep (s.ledger, s.retired q.publisherId)).1
  case neg =>
    by_contra other
    have kept : (!(q.sameInstance item && outdated q.wallAtCheck item)) = true := by
      rw [Bool.eq_false_iff.mpr other, Bool.false_and, Bool.not_false]
    exact swept (List.mem_filter.mpr ⟨inside, kept⟩)
  case pos =>
    exact (evict_dropped (distinct.sublist (sweep_sublist.map _)) (le_refl _) swept dropped).1

/-- An event either publishes a frame or drops and updates entries. -/
theorem LedgerState.step_cases (h : s.step process e = some s') :
    (∃ q, e = .publish q ∧ s.nextSourceSequence q.publisherId ≠ 0 ∧ s' = s.publish process q) ∨
      (s'.nextSourceSequence = s.nextSourceSequence ∧ s.ledger.Keeps s'.ledger) := by
  cases e with
  | publish q =>
      simp only [LedgerState.step] at h
      split at h
      case isTrue => cases h
      case isFalse fresh => exact .inl ⟨q, rfl, fresh, (Option.some.inj h).symm⟩
  | feedback encodedFrame =>
      obtain rfl := Option.some.inj h
      right
      unfold LedgerState.handleAckNackFeedback
      split
      · split
        · exact ⟨rfl, List.Sublist.refl _⟩
        · exact ⟨rfl, RetransmitLedger.keeps_mapEntries identity_observeAckNack⟩
      · exact ⟨rfl, List.Sublist.refl _⟩
  | wait poll =>
      obtain rfl := Option.some.inj h
      exact .inr ⟨rfl, RetransmitLedger.keeps_mapEntries identity_poll⟩
  | retransmit now wallAtCheck =>
      obtain rfl := Option.some.inj h
      exact .inr ⟨rfl, retransmitEntries_keeps⟩

theorem next_of_lt {n m : UInt64} (fresh : n ≠ 0) (some_ : n + 1 ≠ 0) (le : m ≤ n) : m < n + 1 := by
  have small : n.toNat ≠ 2 ^ 64 - 1 := by
    intro largest
    apply some_
    apply UInt64.toNat_inj.mp
    rw [UInt64.toNat_add, largest]
    rfl
  have bound := n.toNat_lt
  rw [UInt64.lt_iff_toNat_lt, UInt64.toNat_add, UInt64.toNat_one]
  rw [UInt64.le_iff_toNat_le] at le
  omega

theorem LedgerState.Numbered.start (publisherId : Bytes) :
    LedgerState.start.Numbered publisherId where
  distinct := List.nodup_nil
  used _ item among := by cases among

theorem LedgerState.Numbered.step {publisherId : Bytes} (numbered : s.Numbered publisherId)
    (h : s.step process e = some s') : s'.Numbered publisherId := by
  cases LedgerState.step_cases h with
  | inl publishes =>
      obtain ⟨q, rfl, fresh, rfl⟩ := publishes
      obtain ⟨pooled, written⟩ := s.publish_ledger process q
      have left := s.evicted_sublist process q
      constructor
      · rw [written]
        exact Dict.nodup_keys_set (numbered.distinct.sublist (left.map _))
      · intro some_ item among same
        rw [written] at among
        cases Dict.mem_set among with
        | inl new =>
            subst new
            have same : q.publisherId = publisherId := same
            subst same
            simp only [LedgerState.publish, Function.update_self] at some_ ⊢
            exact next_of_lt fresh some_ (UInt64.le_refl _)
        | inr old =>
            simp only [LedgerState.publish] at some_ ⊢
            by_cases here : publisherId = q.publisherId
            · subst here
              rw [Function.update_self] at some_ ⊢
              exact next_of_lt fresh some_
                (UInt64.le_of_lt (numbered.used fresh item (left.subset old) same))
            · rw [Function.update_of_ne here] at some_ ⊢
              exact numbered.used some_ item (left.subset old) same
  | inr updates =>
      obtain ⟨sameNext, keeps⟩ := updates
      constructor
      · exact keeps.distinct numbered.distinct
      · intro some_ item among same
        obtain ⟨item', among', sameIdentity⟩ := keeps.of_mem among
        simp only [identity, Prod.mk.injEq] at sameIdentity
        rw [sameNext] at some_ ⊢
        rw [← sameIdentity.2.2.1]
        exact numbered.used some_ item' among' (sameIdentity.2.1.trans same)

/-- The item is of the instance and not older than the frame. -/
def notOlder (p : Publication) (sequence : UInt64) (i : Bytes × Bytes × UInt64 × Bytes) : Bool :=
  i.2.1 = p.publisherId && i.2.2.2 = p.instanceKey && sequence ≤ i.2.2.1

/-- The published frame is in the ledger and accounted for, or it has been released. -/
structure Tracked (process : LedgerProcess) (p : Publication) (sequence : UInt64) (s : LedgerState)
    (later : List LedgerEvent) : Prop where
  numbered : s.Numbered p.publisherId
  used : s.nextSourceSequence p.publisherId ≠ 0 → sequence < s.nextSourceSequence p.publisherId
  accounted : ∀ entry, (retransmitLedgerKey p.publisherId sequence, entry) ∈ s.ledger →
    Accounts process p sequence later entry
  released : (∀ entry, (retransmitLedgerKey p.publisherId sequence, entry) ∉ s.ledger) →
    Released process p sequence later
  fewer : s.ledger.countP (fun item => notOlder p sequence (identity item)) ≤
    later.countP (·.republishes p) + 1

namespace Tracked

theorem start (reliable : (process.publishers p.publisherId).qos.reliable = true)
    (numbered : s.Numbered p.publisherId) (fresh : s.nextSourceSequence p.publisherId ≠ 0) :
    Tracked process p (s.nextSourceSequence p.publisherId) (s.publish process p) [] := by
  have stepped : s.step process (.publish p) = some (s.publish process p) := if_neg fresh
  obtain ⟨pooled, written⟩ := s.publish_ledger process p
  have left := s.evicted_sublist process p
  have older : ∀ item ∈ s.ledger,
      notOlder p (s.nextSourceSequence p.publisherId) (identity item) = false := by
    intro item among
    apply Bool.eq_false_iff.mpr
    intro newer
    simp only [notOlder, identity, Bool.and_eq_true] at newer
    exact absurd (numbered.used fresh item among (of_decide_eq_true newer.1.1))
      (UInt64.not_lt.mpr (of_decide_eq_true newer.2))
  constructor
  case numbered => exact numbered.step stepped
  case used =>
    intro some_
    simp only [LedgerState.publish, Function.update_self] at some_ ⊢
    exact next_of_lt fresh some_ (UInt64.le_refl _)
  case accounted =>
    intro entry among
    have new := Dict.mem_of_get? (Dict.get?_set_self (d := s.evicted process p)
      (k := retransmitLedgerKey p.publisherId (s.nextSourceSequence p.publisherId))
      (v := p.resetPooledRetransmitEntry process (s.nextSourceSequence p.publisherId) pooled))
    rw [← written] at new
    obtain rfl := (Prod.mk.inj (Dict.eq_of_key (numbered.step stepped).distinct among new rfl)).2
    exact .publish reliable pooled
  case released =>
    intro absent
    refine absurd ?_ (absent
      (p.resetPooledRetransmitEntry process (s.nextSourceSequence p.publisherId) pooled))
    rw [written]
    exact Dict.mem_of_get? Dict.get?_set_self
  case fewer =>
    rw [written]
    refine le_trans (Dict.countP_set_le _) ?_
    rw [List.countP_eq_zero.mpr fun item among => by rw [older item (left.subset among)]; decide]
    split <;> simp

/-- An event that drops no entry of the frame and keeps the account of it. -/
theorem update (tracked : Tracked process p sequence s later) (h : s.step process e = some s')
    (keeps : s.ledger.Keeps s'.ledger) (sameNext : s'.nextSourceSequence = s.nextSourceSequence)
    (accounted : ∀ entry, (retransmitLedgerKey p.publisherId sequence, entry) ∈ s'.ledger →
      Accounts process p sequence (later ++ [e]) entry)
    (released : (∃ entry, (retransmitLedgerKey p.publisherId sequence, entry) ∈ s.ledger) →
      (∀ entry, (retransmitLedgerKey p.publisherId sequence, entry) ∉ s'.ledger) →
        Released process p sequence (later ++ [e])) :
    Tracked process p sequence s' (later ++ [e]) where
  numbered := tracked.numbered.step h
  used := by
    rw [sameNext]
    exact tracked.used
  accounted := accounted
  released := by
    intro absent
    by_cases held : ∃ entry, (retransmitLedgerKey p.publisherId sequence, entry) ∈ s.ledger
    · exact released held absent
    · exact (tracked.released (not_exists.mp held)).concat
  fewer := by
    refine le_trans (keeps.countP_le (notOlder p sequence)) (le_trans tracked.fewer ?_)
    exact Nat.succ_le_succ (List.sublist_append_left _ _).countP_le

/-- The entry is dropped because it is outdated, or to make room. -/
theorem publish_drops (tracked : Tracked process p sequence s later)
    {entry : ReliableRetransmitEntry}
    (stored : (retransmitLedgerKey p.publisherId sequence, entry) ∈ s.ledger)
    (dropped : (retransmitLedgerKey p.publisherId sequence, entry) ∉ s.evicted process q) :
    Released process p sequence (later ++ [.publish q]) := by
  have accounts := tracked.accounted entry stored
  have sameInstance : q.sameInstance (retransmitLedgerKey p.publisherId sequence, entry) = true →
      q.publisherId = p.publisherId ∧ q.instanceKey = p.instanceKey := by
    intro same
    obtain ⟨samePublisher, sameKey⟩ := Bool.and_eq_true_iff.mp same
    rw [accounts.publisherId] at samePublisher
    rw [accounts.instanceKey] at sameKey
    exact ⟨(of_decide_eq_true samePublisher).symm, (of_decide_eq_true sameKey).symm⟩
  by_cases swept : (retransmitLedgerKey p.publisherId sequence, entry) ∈
    (q.sweep (s.ledger, s.retired q.publisherId)).1
  case neg =>
    have drops : (q.sameInstance (retransmitLedgerKey p.publisherId sequence, entry) &&
        outdated q.wallAtCheck (retransmitLedgerKey p.publisherId sequence, entry)) = true := by
      by_contra keeps
      exact swept (List.mem_filter.mpr
        ⟨stored, (Bool.not_eq_true' _).mpr (Bool.eq_false_iff.mpr keeps)⟩)
    obtain ⟨same, outdated_⟩ := Bool.and_eq_true_iff.mp drops
    obtain ⟨samePublisher, sameKey⟩ := sameInstance same
    cases (Bool.or_eq_true _ _).mp outdated_ with
    | inl acknowledged => exact (accounts.settled acknowledged).concat
    | inr expired =>
        rw [accounts.qos, accounts.sourceTimestampNs] at expired
        exact .expired ⟨_, List.mem_append_right _ List.mem_cons_self,
          samePublisher, sameKey, expired⟩
  case pos =>
    obtain ⟨same, many⟩ := evict_dropped
      (tracked.numbered.distinct.sublist (sweep_sublist.map _)) (le_refl _) swept dropped
    obtain ⟨samePublisher, sameKey⟩ := sameInstance same
    have republishes : LedgerEvent.republishes p (.publish q) = true :=
      Bool.and_eq_true_iff.mpr ⟨decide_eq_true samePublisher, decide_eq_true sameKey⟩
    apply Released.superseded
    rw [List.countP_append, List.countP_cons, if_pos republishes, ← samePublisher]
    refine le_trans many (le_trans ?_ tracked.fewer)
    refine le_trans sweep_sublist.countP_le (le_of_eq ?_)
    unfold Publication.sameInstance
    rw [accounts.sourceSequenceNumber, samePublisher, sameKey]
    rfl

theorem publish (tracked : Tracked process p sequence s later)
    (fresh : s.nextSourceSequence q.publisherId ≠ 0) :
    Tracked process p sequence (s.publish process q) (later ++ [.publish q]) := by
  have stepped : s.step process (.publish q) = some (s.publish process q) := if_neg fresh
  obtain ⟨pooled, written⟩ := s.publish_ledger process q
  have left := s.evicted_sublist process q
  have other : retransmitLedgerKey p.publisherId sequence ≠
      retransmitLedgerKey q.publisherId (s.nextSourceSequence q.publisherId) := by
    intro same
    obtain ⟨samePublisher, sameNumber⟩ := retransmitLedgerKey_injective same
    rw [← samePublisher] at fresh sameNumber
    exact UInt64.lt_irrefl _ (sameNumber ▸ tracked.used fresh)
  constructor
  case numbered => exact tracked.numbered.step stepped
  case used =>
    intro some_
    simp only [LedgerState.publish] at some_ ⊢
    by_cases here : p.publisherId = q.publisherId
    · rw [here, Function.update_self] at some_ ⊢
      rw [← here] at fresh some_ ⊢
      exact next_of_lt fresh some_ (UInt64.le_of_lt (tracked.used fresh))
    · rw [Function.update_of_ne here] at some_ ⊢
      exact tracked.used some_
  case accounted =>
    intro entry among
    rw [written] at among
    cases Dict.mem_set among with
    | inl new => exact absurd (Prod.mk.inj new).1 other
    | inr old =>
        exact (tracked.accounted entry (left.subset old)).concat fun _ => True.intro
  case released =>
    intro absent
    by_cases held : ∃ entry, (retransmitLedgerKey p.publisherId sequence, entry) ∈ s.ledger
    case neg => exact (tracked.released (not_exists.mp held)).concat
    case pos =>
      obtain ⟨entry, stored⟩ := held
      apply tracked.publish_drops stored
      intro kept
      apply absent entry
      rw [written]
      exact Dict.mem_set_of_ne other kept
  case fewer =>
    rw [written]
    refine le_trans (Dict.countP_set_le _) ?_
    have before := le_trans left.countP_le tracked.fewer
    rw [List.countP_append, List.countP_cons, List.countP_nil]
    have counted : notOlder p sequence (identity
        (retransmitLedgerKey q.publisherId (s.nextSourceSequence q.publisherId),
          q.resetPooledRetransmitEntry process (s.nextSourceSequence q.publisherId) pooled)) = true →
        LedgerEvent.republishes p (.publish q) = true := by
      intro newer
      exact (Bool.and_eq_true_iff.mp newer).1
    split
    case isTrue newer =>
      rw [if_pos (counted newer)]
      omega
    case isFalse => omega

theorem feedback (tracked : Tracked process p sequence s later) {encodedFrame : Bytes}
    (named : LedgerEvent.NamesSubscriber (.feedback encodedFrame)) :
    Tracked process p sequence (s.handleAckNackFeedback process encodedFrame)
      (later ++ [.feedback encodedFrame]) := by
  have unchanged : Tracked process p sequence s (later ++ [.feedback encodedFrame]) := {
    tracked with
    accounted := fun entry among => (tracked.accounted entry among).concat fun _ => True.intro
    released := fun absent => (tracked.released absent).concat
    fewer := le_trans tracked.fewer
      (Nat.succ_le_succ (List.sublist_append_left _ _).countP_le) }
  have taken : s.step process (.feedback encodedFrame) =
      some (s.handleAckNackFeedback process encodedFrame) := rfl
  unfold LedgerState.handleAckNackFeedback at taken ⊢
  cases decoded : decodeAckNack encodedFrame with
  | error _ => exact unchanged
  | ok frame =>
      cases frame with
      | none => exact unchanged
      | some ackNack =>
          simp only [decoded] at taken ⊢
          by_cases foreign : ackNack.robotId ≠ process.localRobotId
          · rw [if_pos foreign]
            exact unchanged
          · rw [if_neg foreign] at taken ⊢
            apply tracked.update taken (RetransmitLedger.keeps_mapEntries identity_observeAckNack) rfl
            · intro entry among
              obtain ⟨item, stored, same⟩ := List.mem_map.mp among
              obtain ⟨sameKey, rfl⟩ := Prod.mk.inj same
              exact (tracked.accounted item.2 (sameKey ▸ stored)).observeAckNack decoded
                (not_not.mp foreign) (named ackNack decoded)
            · intro held absent
              obtain ⟨entry, stored⟩ := held
              exact absurd (List.mem_map_of_mem stored) (absent (entry.observeAckNack ackNack))

theorem poll (tracked : Tracked process p sequence s later) (poll : WaitPoll) :
    Tracked process p sequence { s with ledger := s.ledger.mapEntries (·.poll process poll) }
      (later ++ [.wait poll]) := by
  have taken : s.step process (.wait poll) =
      some { s with ledger := s.ledger.mapEntries (·.poll process poll) } := rfl
  apply tracked.update taken (RetransmitLedger.keeps_mapEntries identity_poll) rfl
  · intro entry among
    obtain ⟨item, stored, same⟩ := List.mem_map.mp among
    obtain ⟨sameKey, rfl⟩ := Prod.mk.inj same
    exact (tracked.accounted item.2 (sameKey ▸ stored)).poll poll
  · intro held absent
    obtain ⟨entry, stored⟩ := held
    exact absurd (List.mem_map_of_mem stored) (absent (entry.poll process poll))

end Tracked

/-- An entry that is left was there before, and one that is dropped is outdated. -/
theorem retransmitEntries_cases (pacing : RetransmitPacing) (now : Int)
    (wallAtCheck : Bytes → Int64) (pass : RetransmitPass) (ledger : RetransmitLedger) (key : Bytes) :
    (∀ entry, (key, entry) ∈ (retransmitEntries pacing now wallAtCheck pass ledger).2 →
      ∃ before pass, (key, before) ∈ ledger ∧ entry = (before.retransmit pacing now pass).2) ∧
    ∀ entry, (key, entry) ∈ ledger →
      outdated wallAtCheck (key, entry) = true ∨
        ∃ after, (key, after) ∈ (retransmitEntries pacing now wallAtCheck pass ledger).2 := by
  induction ledger generalizing pass with
  | nil =>
      constructor
      · intro entry inside
        cases inside
      · intro entry inside
        cases inside
  | cons item rest ih =>
      unfold retransmitEntries
      split
      case isTrue old =>
        obtain ⟨left, dropped⟩ := ih pass
        constructor
        · intro entry inside
          obtain ⟨before, pass, stored, same⟩ := left entry inside
          exact ⟨before, pass, List.mem_cons_of_mem _ stored, same⟩
        · intro entry inside
          cases inside with
          | head => exact .inl old
          | tail _ later => exact dropped entry later
      case isFalse =>
        obtain ⟨left, dropped⟩ := ih (item.2.retransmit pacing now pass).1
        constructor
        · intro entry inside
          cases List.mem_cons.mp inside with
          | inl first =>
              obtain ⟨rfl, rfl⟩ := Prod.mk.inj first
              exact ⟨item.2, pass, List.mem_cons_self, rfl⟩
          | inr later =>
              obtain ⟨before, pass, stored, same⟩ := left entry later
              exact ⟨before, pass, List.mem_cons_of_mem _ stored, same⟩
        · intro entry inside
          cases inside with
          | head => exact .inr ⟨_, List.mem_cons_self⟩
          | tail _ later =>
              exact (dropped entry later).imp_right fun ⟨after, among⟩ =>
                ⟨after, List.mem_cons_of_mem _ among⟩

theorem Tracked.retransmit (tracked : Tracked process p sequence s later) {now : Int}
    {wallAtCheck : Bytes → Int64} (h : s.step process (.retransmit now wallAtCheck) = some s') :
    Tracked process p sequence s' (later ++ [.retransmit now wallAtCheck]) := by
  obtain rfl := Option.some.inj h
  obtain ⟨left, dropped⟩ := retransmitEntries_cases process.pacing now wallAtCheck
    { nextFragmentFallbackNs := s.nextFragmentFallbackNs } s.ledger
    (retransmitLedgerKey p.publisherId sequence)
  apply tracked.update h retransmitEntries_keeps rfl
  · intro entry among
    obtain ⟨before, pass, stored, rfl⟩ := left entry among
    exact ((tracked.accounted before stored).concat
      (e := .retransmit now wallAtCheck) fun _ => True.intro).retransmit
  · intro held absent
    obtain ⟨entry, stored⟩ := held
    have accounts := tracked.accounted entry stored
    cases dropped entry stored with
    | inr stays =>
        obtain ⟨after, among⟩ := stays
        exact absurd among (absent after)
    | inl outdated_ =>
        cases (Bool.or_eq_true _ _).mp outdated_ with
        | inl acknowledged => exact (accounts.settled acknowledged).concat
        | inr expired =>
            rw [accounts.qos, accounts.sourceTimestampNs] at expired
            exact .expired ⟨_, List.mem_append_right _ List.mem_cons_self, expired⟩

theorem Tracked.step (tracked : Tracked process p sequence s later) (named : e.NamesSubscriber)
    (h : s.step process e = some s') : Tracked process p sequence s' (later ++ [e]) := by
  cases e with
  | publish q =>
      simp only [LedgerState.step] at h
      split at h
      case isTrue => cases h
      case isFalse fresh =>
        obtain rfl := Option.some.inj h
        exact tracked.publish fresh
  | feedback encodedFrame =>
      obtain rfl := Option.some.inj h
      exact tracked.feedback named
  | wait poll =>
      obtain rfl := Option.some.inj h
      exact tracked.poll poll
  | retransmit now wallAtCheck => exact tracked.retransmit h

end

/-! ## Every run -/

/-- In every run in which feedback names its subscriber, the entry of a frame that a reliable
    publisher has published holds the frame's octets, and where the frame has no entry it has
    expired, newer frames of its instance have taken its place, or every subscriber that was
    matched is done. -/
theorem history_retained (process : LedgerProcess) {before later : List LedgerEvent}
    {p : Publication} {s s' : LedgerState}
    (reliable : (process.publishers p.publisherId).qos.reliable = true)
    (named : ∀ e ∈ later, e.NamesSubscriber)
    (earlier : run (LedgerState.step process) .start before = some s)
    (h : run (LedgerState.step process) s (.publish p :: later) = some s') :
    match s'.ledger.get?
      (retransmitLedgerKey p.publisherId (s.nextSourceSequence p.publisherId)) with
    | some entry => entry.encodedFrame =
        process.encodeFrame (p.frame process (s.nextSourceSequence p.publisherId))
    | none => Released process p (s.nextSourceSequence p.publisherId) later := by
  have numbered : s.Numbered p.publisherId :=
    run_preserves (I := fun s => s.Numbered p.publisherId) (fun held taken => held.step taken)
      (.start p.publisherId) earlier
  obtain ⟨mid, published, rest⟩ := run_cons h
  have fresh : s.nextSourceSequence p.publisherId ≠ 0 := by
    intro usedUp
    simp only [LedgerState.step, usedUp, if_true] at published
    cases published
  have stepped : s.step process (.publish p) = some (s.publish process p) := if_neg fresh
  obtain rfl := Option.some.inj (stepped.symm.trans published)
  have meets : RunMeets (LedgerState.step process) (fun _ e => e.NamesSubscriber)
      (s.publish process p) later := RunMeets.of_forall named
  have tracked := run_history (fun held ok taken => Tracked.step held ok taken)
    (Tracked.start reliable numbered fresh) meets rest
  rw [List.nil_append] at tracked
  split
  case h_1 entry found => exact (tracked.accounted entry (Dict.mem_of_get? found)).encodedFrame
  case h_2 missing =>
    apply tracked.released
    intro entry stored
    have found := Dict.isSome_get?_of_mem stored
    rw [missing] at found
    cases found

/-- A process with a reliable publisher that keeps one frame. -/
def keepsOne : LedgerProcess where
  localRobotId := octets "r"
  publishers _ := { topicName := octets "t", qos := { depth := 1 } }
  encodeFrame frame := frame.serializedPayload
  inactiveSubscriberGraceNs := 8000
  pacing := ⟨1000, 3, false, 0, 0⟩

def forTwo : Publication where
  publisherId := octets "p"
  payload := [1, 2, 3]
  wallNowNs := 1000
  nowNs := 1000
  instanceKey := []
  matchedSubscriptionIds := [octets "a", octets "b"]
  wallAtCheck _ := 1000

/-- Both subscribers stay missing for the grace period. -/
def abandoned : List LedgerEvent :=
  [.wait ⟨octets "p", 1, [], 2000⟩, .wait ⟨octets "p", 1, [], 10000⟩, .retransmit 10000 fun _ => 1000]

theorem history_retained_abandoned :
    (∃ s, run (LedgerState.step keepsOne) .start (.publish forTwo :: abandoned) = some s ∧
      s.ledger = []) ∧ Released keepsOne forTwo 1 abandoned := by
  have named : ∀ e ∈ abandoned, e.NamesSubscriber := by
    intro e among
    simp only [abandoned, List.mem_cons, List.not_mem_nil, or_false] at among
    rcases among with rfl | rfl | rfl
    all_goals exact True.intro
  exact ⟨⟨_, rfl, by decide⟩,
    history_retained keepsOne (p := forTwo) rfl named (run_nil _) rfl⟩

end FleetRMW.Rmw
