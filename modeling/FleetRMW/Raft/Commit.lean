import FleetRMW.Raft.Matching

/-! # Commit certificates

An entry is committed when a majority has acknowledged it in the term of the leader that
wrote it. The invariant says that every log which must hold such an entry holds it, unless
a majority has left the term without it: the log of a node that acknowledged it, the log
with which that node voted later, and the log with which a later leader was elected.
-/

namespace FleetRMW.Raft

open ClusterState

variable {Command : Type}

/-- A request that the follower accepts covers the log up to entries of its own term, and
    one that the follower refuses by the term of the previous entry drops no entry of
    its own term. -/
def AppendEntriesRequest.Covers (log : List (LogEntry Command))
    (request : AppendEntriesRequest Command) : Prop :=
  ¬request.Beyond log →
    if request.Conflicts log then
      termAt log request.prevLogIndex.toNat ≠ request.term
    else
      ∀ e ∈ log.drop (request.insertAt + request.entries.length), e.term = request.term

instance (log : List (LogEntry Command)) (request : AppendEntriesRequest Command) :
    Decidable (request.Covers log) := by unfold AppendEntriesRequest.Covers; infer_instance

def lastTerm (log : List (LogEntry Command)) : Nat := (log.getLast?).elim 0 LogEntry.term

theorem lastLogTerm_eq (n : RaftNode Command) : n.lastLogTerm = lastTerm n.log := rfl

theorem lastTerm_of_filled {log : List (LogEntry Command)} (filled : log ≠ []) :
    lastTerm log = (log.getLast filled).term := by
  rw [lastTerm, List.getLast?_eq_some_getLast filled]
  rfl

/-- The comparison of logs that a voter makes. -/
def Ahead (candidate voter : List (LogEntry Command)) : Prop :=
  lastTerm voter < lastTerm candidate ∨
    lastTerm voter = lastTerm candidate ∧ voter.length ≤ candidate.length

section Certificates

variable (cluster : Cluster) (h : History Command)

/-- The first `k` entries of the log of `t`'s leader end with one that it wrote itself. -/
def History.Own (t k : Nat) : Prop := (h.baseLog t).length < k ∧ k ≤ (h.leaderLog t).length

/-- A majority has acknowledged the first `k` entries in term `t`. -/
def Committed (t k : Nat) : Prop :=
  ∃ Q, Lib.Majority cluster.members Q ∧ ∀ v ∈ Q, k ≤ h.acked t v

/-- A majority has left term `t` without having acknowledged its first `k` entries. -/
def Lost (t k : Nat) : Prop :=
  ∃ Q, Lib.Majority cluster.members Q ∧ ∀ v ∈ Q, t < h.term v ∧ h.acked t v < k

/-- The log holds the first `k` entries of term `t`, unless they cannot be committed. -/
def Keeps (t k : Nat) (log : List (LogEntry Command)) : Prop :=
  (h.leaderLog t).take k <+: log ∨ Lost cluster h t k

/-- The list is part of what was committed in a term not later than `t`. -/
def Safe (t : Nat) (log : List (LogEntry Command)) : Prop :=
  log = [] ∨ ∃ u k, u ≤ t ∧ h.Own u k ∧ Committed cluster h u k ∧ log <+: (h.leaderLog u).take k

end Certificates

structure NodeCommitOk (cluster : Cluster) (h : History Command) (a : NodeId)
    (n : RaftNode Command) (applied : List Command) : Prop where
  held : ∀ t k, k ≤ h.acked t a → h.Own t k → Keeps cluster h t k n.log
  standing : n.role = .candidate → h.candidacy n.currentTerm a = n.log
  led : n.role = .leader → n.log.length ≤ h.acked n.currentTerm a
  matched : n.role = .leader → ∀ p, n.matchIndex p + 1 ≤ h.acked n.currentTerm p
  started : -1 ≤ n.lastApplied
  behind : n.lastApplied ≤ n.commitIndex
  reach : n.commitIndex + 1 ≤ n.log.length
  safe : Safe cluster h n.currentTerm (n.log.take (n.commitIndex + 1).toNat)
  applied : applied = (n.log.take (n.lastApplied + 1).toNat).map LogEntry.command

def MessageCommitOk (cluster : Cluster) (h : History Command) : Message Command → Prop
  | .requestVote src _ request =>
      request.term ≤ h.term src ∧
        request.lastLogIndex = ((h.candidacy request.term src).length : Int) - 1 ∧
        request.lastLogTerm = lastTerm (h.candidacy request.term src)
  | .appendEntries _ _ request =>
      request.leaderCommit + 1 ≤ (h.leaderLog request.term).length ∧
        Safe cluster h request.term
          ((h.leaderLog request.term).take (request.leaderCommit + 1).toNat)
  | .appendEntriesReply src _ response =>
      response.success = true → response.matchLengthHint ≤ h.acked response.term src
  | .requestVoteReply _ _ _ => True

structure HistoryCommitOk (cluster : Cluster) (h : History Command) : Prop where
  ackedLog : ∀ t v, h.acked t v ≤ (h.leaderLog t).length
  ackedTerm : ∀ t v, 0 < h.acked t v → t ≤ h.term v
  votedTerm : ∀ t v c, h.voted t v = some c → t ≤ h.term c
  voteTraced : ∀ t v, LogTraced h (h.voteLog t v)
  ahead : ∀ t v c, h.voted t v = some c → Ahead (h.candidacy t c) (h.voteLog t v)
  voteHeld : ∀ u v c, h.voted u v = some c →
    ∀ t < u, ∀ k ≤ h.acked t v, h.Own t k → Keeps cluster h t k (h.voteLog u v)
  baseHeld : ∀ u, h.winner u ≠ none → ∀ t < u, ∀ k, h.Own t k →
    Keeps cluster h t k (h.baseLog u)

def commitClauses (cluster : Cluster) : Clauses Command where
  node := NodeCommitOk cluster
  message := MessageCommitOk cluster
  history := HistoryCommitOk cluster

abbrev CommitInv (cluster : Cluster) (s : ClusterState Command) (h : History Command) : Prop :=
  (commitClauses cluster).Hold s h

/-- What the certificates need of a growing history. -/
structure History.Advances (h h' : History Command) : Prop where
  term : ∀ v, h.term v ≤ h'.term v
  acked : ∀ t v, h.acked t v ≤ h'.acked t v
  past : ∀ t v, t < h.term v → h'.acked t v = h.acked t v
  leaderLog : ∀ t, h.leaderLog t <+: h'.leaderLog t
  baseLog : ∀ t, h.winner t ≠ none → h'.baseLog t = h.baseLog t

variable {cluster : Cluster} {s : ClusterState Command} {h h' : History Command}
  {a : NodeId} {n n' : RaftNode Command} {log main : List (LogEntry Command)} {t k : Nat}

theorem Committed.not_lost (committed : Committed cluster h t k) : ¬Lost cluster h t k := by
  rintro ⟨R, hR, left⟩
  obtain ⟨Q, hQ, acked⟩ := committed
  obtain ⟨v, vQ, vR⟩ := hQ.meet hR
  have := acked v vQ
  have := (left v vR).2
  omega

theorem Safe.of_isPrefix (safe : Safe cluster h t main) (pre : log <+: main) :
    Safe cluster h t log := by
  obtain rfl | ⟨u, k, before, own, committed, within⟩ := safe
  · exact .inl (List.prefix_nil.mp pre)
  · exact .inr ⟨u, k, before, own, committed, pre.trans within⟩

theorem Safe.later (safe : Safe cluster h t log) {t' : Nat} (later : t ≤ t') :
    Safe cluster h t' log := by
  obtain empty | ⟨u, k, before, rest⟩ := safe
  · exact .inl empty
  · exact .inr ⟨u, k, before.trans later, rest⟩

namespace History.Own

theorem led (ok : HistoryLogOk h) (own : h.Own t k) : h.winner t ≠ none := by
  intro unled
  have := own.2
  rw [ok.unled t unled, List.length_nil] at this
  have := own.1
  omega

/-- The entry at the end of an own part was written in the term. -/
theorem last (ok : HistoryLogOk h) (own : h.Own t k) :
    ∃ e, ((h.leaderLog t).take k)[k - 1]? = some e ∧ e.term = t := by
  obtain ⟨lower, upper⟩ := own
  have at_ := List.getElem?_eq_getElem (show k - 1 < (h.leaderLog t).length by omega)
  refine ⟨_, ?_, ok.own t _ _ at_ (by omega)⟩
  rw [List.getElem?_take_of_lt (by omega), at_]

end History.Own

section Advances

variable (adv : h.Advances h')
include adv

theorem Committed.mono (committed : Committed cluster h t k) : Committed cluster h' t k := by
  obtain ⟨Q, hQ, acked⟩ := committed
  exact ⟨Q, hQ, fun v hv => (acked v hv).trans (adv.acked t v)⟩

theorem Lost.mono (lost : Lost cluster h t k) : Lost cluster h' t k := by
  obtain ⟨Q, hQ, left⟩ := lost
  refine ⟨Q, hQ, fun v hv => ⟨(left v hv).1.trans_le (adv.term v), ?_⟩⟩
  rw [adv.past t v (left v hv).1]
  exact (left v hv).2

theorem History.Own.mono (ok : HistoryLogOk h) (own : h.Own t k) : h'.Own t k := by
  refine ⟨?_, own.2.trans (adv.leaderLog t).length_le⟩
  rw [adv.baseLog t (own.led ok)]
  exact own.1

theorem take_mono (inside : k ≤ (h.leaderLog t).length) :
    (h'.leaderLog t).take k = (h.leaderLog t).take k :=
  (Lib.take_eq_of_isPrefix (adv.leaderLog t) inside).symm

theorem Keeps.mono (inside : k ≤ (h.leaderLog t).length) (keeps : Keeps cluster h t k log) :
    Keeps cluster h' t k log := by
  rw [Keeps, take_mono adv inside]
  exact keeps.imp id (Lost.mono adv)

theorem own_back (ok : HistoryLogOk h) (inside : k ≤ (h.leaderLog t).length)
    (own : h'.Own t k) : h.Own t k := by
  refine ⟨?_, inside⟩
  have lower := own.1
  cases won : h.winner t with
  | none =>
      rw [ok.unled t won, List.length_nil] at inside
      omega
  | some b => rwa [adv.baseLog t (by simp [won])] at lower

theorem Safe.mono (ok : HistoryLogOk h) (safe : Safe cluster h t log) : Safe cluster h' t log := by
  obtain empty | ⟨u, k, before, own, committed, within⟩ := safe
  · exact .inl empty
  · refine .inr ⟨u, k, before, own.mono adv ok, committed.mono adv, ?_⟩
    rwa [take_mono adv own.2]

theorem MessageCommitOk.mono (L : HistoryLogOk h) {m : Message Command}
    (candidacy : ∀ src dst request, m = .requestVote src dst request →
      h'.candidacy request.term src = h.candidacy request.term src)
    (ok : MessageCommitOk cluster h m) : MessageCommitOk cluster h' m := by
  cases m with
  | requestVote src dst request =>
      simp only [MessageCommitOk, candidacy _ _ _ rfl]
      exact ⟨ok.1.trans (adv.term src), ok.2⟩
  | requestVoteReply src dst response => exact True.intro
  | appendEntries src dst request =>
      obtain ⟨inside, safe⟩ := ok
      have length := (adv.leaderLog request.term).length_le
      refine ⟨by omega, ?_⟩
      rw [take_mono adv (by omega)]
      exact safe.mono adv L
  | appendEntriesReply src dst response =>
      exact fun success => (ok success).trans (adv.acked _ _)

/-- A node that acknowledges nothing and changes nothing. -/
theorem NodeCommitOk.mono (L : HistoryLogOk h) (C : HistoryCommitOk cluster h)
    (acked : ∀ t, h'.acked t a = h.acked t a)
    (candidacy : ∀ t, t ≤ h.term a → h'.candidacy t a = h.candidacy t a)
    (term : h.term a = n.currentTerm) {cs : List Command}
    (ok : NodeCommitOk cluster h a n cs) : NodeCommitOk cluster h' a n cs where
  held t k reported own := by
    rw [acked] at reported
    have inside := reported.trans (C.ackedLog t a)
    exact (ok.held t k reported (own_back adv L inside own)).mono adv inside
  standing candidate := (candidacy _ term.ge).trans (ok.standing candidate)
  led leads := (ok.led leads).trans (adv.acked _ _)
  matched leads p := by
    have := ok.matched leads p
    have := adv.acked n.currentTerm p
    omega
  started := ok.started
  behind := ok.behind
  reach := ok.reach
  safe := ok.safe.mono adv L
  applied := ok.applied

/-- A history in which no vote is new. -/
theorem HistoryCommitOk.mono (E : HistoryElectionOk cluster h) (L : HistoryLogOk h)
    (C : HistoryCommitOk cluster h) (voted : h'.voted = h.voted)
    (voteLog : h'.voteLog = h.voteLog) (candidacy : h'.candidacy = h.candidacy)
    (ackedLog : ∀ t v, h'.acked t v ≤ (h'.leaderLog t).length)
    (ackedTerm : ∀ t v, 0 < h'.acked t v → t ≤ h'.term v)
    (baseHeld : ∀ u, h'.winner u ≠ none → ∀ t < u, ∀ k, h'.Own t k →
      Keeps cluster h' t k (h'.baseLog u)) : HistoryCommitOk cluster h' where
  ackedLog := ackedLog
  ackedTerm := ackedTerm
  votedTerm t v c vote := (C.votedTerm t v c (voted ▸ vote)).trans (adv.term c)
  voteTraced t v := by
    rw [voteLog]
    exact (C.voteTraced t v).mono adv.leaderLog
  ahead t v c vote := by
    rw [candidacy, voteLog]
    exact C.ahead t v c (voted ▸ vote)
  voteHeld u v c vote t earlier k reported own := by
    rw [voted] at vote
    have reached : u ≤ h.term v := by
      by_contra late
      rw [E.votedLater v u (not_le.mp late)] at vote
      cases vote
    rw [adv.past t v (by omega)] at reported
    have inside := reported.trans (C.ackedLog t v)
    rw [voteLog]
    exact (C.voteHeld u v c vote t earlier k reported (own_back adv L inside own)).mono adv inside
  baseHeld := baseHeld

end Advances

/-- The history has grown in nothing but terms and votes. -/
structure History.Idle (h h' : History Command) : Prop where
  logs : h.SameLogs h'
  acked : h'.acked = h.acked
  term : ∀ v, h.term v ≤ h'.term v

theorem History.Idle.advances (idle : h.Idle h') : h.Advances h' where
  term := idle.term
  acked t v := by rw [idle.acked]
  past t v _ := by rw [idle.acked]
  leaderLog t := by rw [idle.logs.leaderLog]
  baseLog t _ := by rw [idle.logs.baseLog]

section Idle

variable (idle : h.Idle h')
include idle

theorem idle_acked (C : HistoryCommitOk cluster h) (t : Nat) (v : NodeId) :
    h'.acked t v ≤ (h'.leaderLog t).length ∧ (0 < h'.acked t v → t ≤ h'.term v) := by
  rw [idle.acked, idle.logs.leaderLog]
  exact ⟨C.ackedLog t v, fun positive => (C.ackedTerm t v positive).trans (idle.term v)⟩

theorem idle_baseHeld (L : HistoryLogOk h) (C : HistoryCommitOk cluster h) (u : Nat)
    (led : h'.winner u ≠ none) (t : Nat) (earlier : t < u) (k : Nat) (own : h'.Own t k) :
    Keeps cluster h' t k (h'.baseLog u) := by
  rw [idle.logs.winner] at led
  have inside := own.2
  rw [idle.logs.leaderLog] at inside
  rw [idle.logs.baseLog]
  exact (C.baseHeld u led t earlier k (own_back idle.advances L inside own)).mono
    idle.advances inside

end Idle

section Leaders

variable (L : HistoryLogOk h) (C : HistoryCommitOk cluster h)
include L C

/-- Every leader of the term or of a later one has what was committed. -/
theorem Safe.prefix_leaderLog (safe : Safe cluster h t log) (led : h.winner t ≠ none) :
    log <+: h.leaderLog t := by
  obtain rfl | ⟨u, k, before, own, committed, within⟩ := safe
  · exact List.nil_prefix
  · obtain rfl | earlier := eq_or_lt_of_le before
    · exact within.trans (List.take_prefix ..)
    · obtain kept | lost := C.baseHeld t led u earlier k own
      · exact (within.trans kept).trans (L.base t)
      · exact absurd lost committed.not_lost

/-- Of two committed lists one is a prefix of the other. -/
theorem Safe.comparable (safe : Safe cluster h t log) {t' : Nat}
    (safe' : Safe cluster h t' main) : log <+: main ∨ main <+: log := by
  obtain rfl | ⟨u, k, before, own, committed, within⟩ := safe
  · exact .inl List.nil_prefix
  obtain rfl | ⟨u', k', before', own', committed', within'⟩ := safe'
  · exact .inr List.nil_prefix
  have pre : log <+: h.leaderLog (max u u') :=
    prefix_leaderLog L C (.inr ⟨u, k, le_max_left u u', own, committed, within⟩) (by
      obtain le | le := le_total u u'
      · rw [max_eq_right le]; exact own'.led L
      · rw [max_eq_left le]; exact own.led L)
  have pre' : main <+: h.leaderLog (max u u') :=
    prefix_leaderLog L C (.inr ⟨u', k', le_max_right u u', own', committed', within'⟩) (by
      obtain le | le := le_total u u'
      · rw [max_eq_right le]; exact own'.led L
      · rw [max_eq_left le]; exact own.led L)
  exact List.prefix_or_prefix_of_prefix pre pre'

omit L C in
/-- A traced log is part of the log of the leader that wrote its last entry. -/
theorem prefix_last (traced : LogTraced h log) (filled : log ≠ []) :
    log <+: h.leaderLog (lastTerm log) := by
  have positive := List.length_pos_iff.mpr filled
  have at_ : log[log.length - 1]? = some (log.getLast filled) := by
    rw [← List.getLast?_eq_getElem?, List.getLast?_eq_some_getLast filled]
  have pre := traced _ _ at_
  rwa [List.take_of_length_le (by omega), ← lastTerm_of_filled filled] at pre

omit C in
theorem term_le_last (traced : LogTraced h log) {e : LogEntry Command} (mem : e ∈ log) :
    e.term ≤ lastTerm log :=
  L.terms ((prefix_last traced (List.ne_nil_of_mem mem)).mem mem)

/-- A candidate whose log is ahead of a voter's has what the voter has acknowledged. -/
theorem ahead_keeps {candidate voter : List (LogEntry Command)} {u : Nat}
    (traced : LogTraced h candidate) (older : ∀ e ∈ candidate, e.term < u)
    (traced' : LogTraced h voter) (ahead : Ahead candidate voter) (own : h.Own t k)
    (kept : (h.leaderLog t).take k <+: voter) : Keeps cluster h t k candidate := by
  obtain ⟨e, at_, written⟩ := own.last L
  have member : e ∈ voter := kept.mem (List.mem_of_getElem? at_)
  have reached : t ≤ lastTerm voter := written ▸ term_le_last L traced' member
  have filled' : voter ≠ [] := List.ne_nil_of_mem member
  have main' := prefix_last traced' filled'
  obtain later | ⟨same, longer⟩ := ahead
  · -- the last leader before the election whose entries the candidate has, after term `t`
    have filled : candidate ≠ [] := by
      rintro rfl
      simp [lastTerm] at later
    have main := prefix_last traced filled
    have led : h.winner (lastTerm candidate) ≠ none := by
      intro unled
      rw [L.unled _ unled] at main
      exact filled (List.prefix_nil.mp main)
    obtain kept' | lost := C.baseHeld _ led t (by omega) k own
    · refine .inl (kept'.trans (List.prefix_of_prefix_length_le (L.base _) main ?_))
      by_contra short
      have inside : candidate <+: h.baseLog (lastTerm candidate) :=
        List.prefix_of_prefix_length_le main (L.base _) (by omega)
      have last := L.older _ _ (inside.mem (List.getLast_mem filled))
      rw [← lastTerm_of_filled filled] at last
      exact lt_irrefl _ last
    · exact .inr lost
  · have filled : candidate ≠ [] := by
      rintro rfl
      exact filled' (List.length_eq_zero_iff.mp (by simpa using longer))
    have main := prefix_last traced filled
    rw [same] at main'
    exact .inl (kept.trans (List.prefix_of_prefix_length_le main' main longer))

end Leaders

section Nodes

variable {cs : List Command}

/-- Moves after which a node has the same log, commits and matches. -/
theorem NodeCommitOk.keeps (ok : NodeCommitOk cluster h a n cs) (keeps : n.KeepsLog n')
    (commitIndex : n'.commitIndex = n.commitIndex) (lastApplied : n'.lastApplied = n.lastApplied)
    (matchIndex : n'.matchIndex = n.matchIndex) : NodeCommitOk cluster h a n' cs where
  held := keeps.log ▸ ok.held
  standing candidate := by
    obtain follower | ⟨role, term⟩ := keeps.role
    · simp [follower] at candidate
    · rw [keeps.log, term]
      exact ok.standing (role ▸ candidate)
  led leads := by
    obtain follower | ⟨role, term⟩ := keeps.role
    · simp [follower] at leads
    · rw [keeps.log, term]
      exact ok.led (role ▸ leads)
  matched leads := by
    obtain follower | ⟨role, term⟩ := keeps.role
    · simp [follower] at leads
    · rw [matchIndex, term]
      exact ok.matched (role ▸ leads)
  started := lastApplied ▸ ok.started
  behind := by rw [lastApplied, commitIndex]; exact ok.behind
  reach := by rw [keeps.log, commitIndex]; exact ok.reach
  safe := by rw [keeps.log, commitIndex]; exact ok.safe.later keeps.term
  applied := by rw [keeps.log, lastApplied]; exact ok.applied

/-- What a leader wrote and could commit is in the log of every later leader. -/
theorem own_main (L : HistoryLogOk h) (C : HistoryCommitOk cluster h) (own : h.Own t k) {u : Nat}
    (reached : t ≤ u) (led : h.winner u ≠ none) : Keeps cluster h t k (h.leaderLog u) := by
  obtain rfl | earlier := eq_or_lt_of_le reached
  · exact .inl (List.take_prefix ..)
  · exact (C.baseHeld u led t earlier k own).imp (fun kept => kept.trans (L.base u)) id

/-- A follower's new log is sound when it keeps all that the old one shares with the
    log of the leader. -/
theorem NodeCommitOk.relog (L : HistoryLogOk h) (C : HistoryCommitOk cluster h)
    (ok : NodeCommitOk cluster h a n cs) (term : h.term a = n.currentTerm)
    (follows : n.role = .follower) (led : h.winner n.currentTerm ≠ none)
    (survives : ∀ p, p <+: n.log → p <+: h.leaderLog n.currentTerm → p <+: log) :
    NodeCommitOk cluster h a { n with log := log } cs := by
  have kept : n.log.take (n.commitIndex + 1).toNat <+: log :=
    survives _ (List.take_prefix ..) (ok.safe.prefix_leaderLog L C led)
  have reach := ok.reach
  have behind := ok.behind
  have length := kept.length_le
  rw [List.length_take] at length
  have same : log.take (n.commitIndex + 1).toNat = n.log.take (n.commitIndex + 1).toNat := by
    rw [← Lib.take_eq_of_isPrefix kept (by rw [List.length_take]; omega), List.take_take, min_self]
  exact
    { held := fun t k reported own => by
        have reached : t ≤ n.currentTerm := by
          rw [← term]
          exact C.ackedTerm t a (by have := own.1; omega)
        obtain held | lost := ok.held t k reported own
        · exact (own_main L C own reached led).imp (survives _ held) id
        · exact .inr lost
      standing := by simp [follows]
      led := by simp [follows]
      matched := by simp [follows]
      started := ok.started
      behind := behind
      reach := by
        simp only
        omega
      safe := by
        simp only [same]
        exact ok.safe
      applied := by
        have shorter : min (n.lastApplied + 1).toNat (n.commitIndex + 1).toNat =
            (n.lastApplied + 1).toNat := by omega
        have prior := congrArg (List.take (n.lastApplied + 1).toNat) same
        rw [List.take_take, List.take_take, shorter] at prior
        simp only [prior]
        exact ok.applied }

theorem NodeCommitOk.recommit (ok : NodeCommitOk cluster h a n cs) {commitIndex : Int}
    (later : n.commitIndex ≤ commitIndex) (reach : commitIndex + 1 ≤ n.log.length)
    (safe : Safe cluster h n.currentTerm (n.log.take (commitIndex + 1).toNat)) :
    NodeCommitOk cluster h a { n with commitIndex := commitIndex } cs where
  held := ok.held
  standing := ok.standing
  led := ok.led
  matched := ok.matched
  started := ok.started
  behind := ok.behind.trans later
  reach := reach
  safe := safe
  applied := ok.applied

end Nodes

/-- Accepting a request keeps what the log shares with the leader's log. -/
theorem accept_survives {p : List (LogEntry Command)} {reach : Nat}
    (pre : p <+: log) (pre' : p <+: main) (differs : log.take reach ≠ main.take reach) :
    p <+: main.take reach := by
  refine List.prefix_take_iff.mpr ⟨pre', ?_⟩
  by_contra long
  refine differs ?_
  rw [← Lib.take_eq_of_isPrefix pre (by omega), Lib.take_eq_of_isPrefix pre' (by omega)]

/-- Refusing a request keeps what the log shares with the leader's log. -/
theorem truncate_survives (L : HistoryLogOk h) {request : AppendEntriesRequest Command}
    (kind : request.Copied h ∨ request.Overshot h) (covers : request.Covers log)
    (inside : ¬request.Beyond log) (conflicts : request.Conflicts log)
    {p : List (LogEntry Command)} (pre : p <+: log) (pre' : p <+: h.leaderLog request.term) :
    p <+: log.take request.prevLogIndex.toNat := by
  refine List.prefix_take_iff.mpr ⟨pre, ?_⟩
  by_contra long
  have here := termAt_of_isPrefix pre (i := request.prevLogIndex.toNat) (by omega)
  have there := termAt_of_isPrefix pre' (i := request.prevLogIndex.toNat) (by omega)
  obtain copied | overshot := kind
  · refine conflicts.2 ?_
    rw [copied.prevTerm conflicts.1, ← here, there]
  · have foreign : termAt log request.prevLogIndex.toNat ≠ request.term := by
      simpa only [if_pos conflicts] using covers inside
    have within : request.prevLogIndex.toNat < (h.leaderLog request.term).length := by
      have := pre'.length_le
      omega
    have past := overshot.past
    have at_ := List.getElem?_eq_getElem within
    refine foreign ?_
    rw [← here, there, termAt_of_getElem? at_]
    exact L.own _ _ _ at_ (by omega)

end FleetRMW.Raft
