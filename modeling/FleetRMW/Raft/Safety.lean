import FleetRMW.Raft.Commit

/-! # State machine safety

Two shortcuts of the replicas break the safety of commits, and both are visible at the
follower: a success reply that reports entries behind the request's own, and a refusal
that drops entries of the request's own term. In every run without these two the commit
certificates are kept, so that no two nodes apply different commands.
-/

namespace FleetRMW.Raft

open ClusterState

variable {Command : Type} {cluster : Cluster} {s : ClusterState Command}
  {h h' : History Command} {a : NodeId} {n n' : RaftNode Command}
  {log main : List (LogEntry Command)} {t k : Nat}

namespace CommitInv

theorem init (cluster : Cluster) :
    CommitInv cluster (ClusterState.init cluster : ClusterState Command) {} where
  node a :=
    { held := fun t k acked own => by
        have := own.1
        simp only [Nat.le_zero] at acked
        omega
      standing := by simp [ClusterState.init]
      led := by simp [ClusterState.init]
      matched := by simp [ClusterState.init]
      started := le_rfl
      behind := le_rfl
      reach := by simp [ClusterState.init]
      safe := .inl (by simp [ClusterState.init])
      applied := by simp [ClusterState.init] }
  message m hm := by cases hm
  history :=
    { ackedLog := fun _ _ => le_rfl
      ackedTerm := fun _ _ positive => absurd positive (lt_irrefl 0)
      votedTerm := fun _ _ _ voted => by cases voted
      voteTraced := fun _ _ => .nil
      ahead := fun _ _ _ voted => by cases voted
      voteHeld := fun _ _ _ voted => by cases voted
      baseHeld := fun _ led => absurd rfl led }

/-- Moves after which every log, commit and acknowledgement is as before. -/
theorem frame (I : CommitInv cluster s h) (at_ : s.nodes a = n) (keeps : n.KeepsLog n')
    (commitIndex : n'.commitIndex = n.commitIndex) (lastApplied : n'.lastApplied = n.lastApplied)
    (matchIndex : n'.matchIndex = n.matchIndex) : CommitInv cluster (s.put a n') h :=
  I.put_same ((I.node_at at_).keeps keeps commitIndex lastApplied matchIndex)

/-- A history that has grown in terms and votes, for an unchanged state. -/
theorem idle_state (E : ElectionInv cluster s h) (L : LogInv s h) (I : CommitInv cluster s h)
    (idle : h.Idle h') (candidacy : ∀ t b, t ≤ h.term b → h'.candidacy t b = h.candidacy t b)
    (history : HistoryCommitOk cluster h') : CommitInv cluster s h' where
  node b := (I.node b).mono idle.advances L.history I.history (fun t => by rw [idle.acked])
    (fun t => candidacy t b) (E.node b).term
  message m hm := (I.message m hm).mono idle.advances L.history fun src dst request sent => by
    subst sent
    exact candidacy _ _ (I.message _ hm).1
  history := history

theorem recordTerm (E : ElectionInv cluster s h) (L : LogInv s h) (I : CommitInv cluster s h)
    (term : h.term a ≤ t) : CommitInv cluster s (h.recordTerm a t) := by
  have idle : h.Idle (h.recordTerm a t) := by
    refine ⟨⟨rfl, rfl, rfl⟩, rfl, fun v => ?_⟩
    by_cases hv : v = a
    · subst hv
      simpa [History.recordTerm] using term
    · simp [History.recordTerm, hv]
  refine idle_state E L I idle (fun _ _ _ => rfl) (I.history.mono idle.advances E.history
    L.history rfl rfl rfl ?_ ?_ ?_)
  · exact fun t v => (idle_acked idle I.history t v).1
  · exact fun t v => (idle_acked idle I.history t v).2
  · exact idle_baseHeld idle L.history I.history

theorem stepDown (E : ElectionInv cluster s h) (L : LogInv s h) (I : CommitInv cluster s h)
    (at_ : s.nodes a = n) (later : n.currentTerm < t) {received : Finset NodeId} :
    CommitInv cluster (s.put a { n with
      currentTerm := t, votedFor := none, role := .follower, votesReceived := received })
      (h.recordTerm a t) := by
  have term := (E.node_at at_).term
  have I' := recordTerm E L I (a := a) (t := t) (by omega)
  exact I'.frame at_ ⟨rfl, later.le, .inl rfl⟩ rfl rfl rfl

/-- A vote for a candidate whose log is ahead. -/
theorem recordVote {v c : NodeId} (L : HistoryLogOk h) (C : HistoryCommitOk cluster h)
    (reached : t ≤ h.term c) (traced : LogTraced h log) (ahead : Ahead (h.candidacy t c) log)
    (held : ∀ u < t, ∀ k ≤ h.acked u v, h.Own u k → Keeps cluster h u k log) :
    HistoryCommitOk cluster (h.recordVote t v c log) := by
  have idle : h.Idle (h.recordVote t v c log) := ⟨⟨rfl, rfl, rfl⟩, rfl, fun _ => le_rfl⟩
  have vote {u w d} (voted : (h.recordVote t v c log).voted u w = some d) :
      u = t ∧ w = v ∧ d = c ∧ (h.recordVote t v c log).voteLog u w = log ∨
        h.voted u w = some d ∧ (h.recordVote t v c log).voteLog u w = h.voteLog u w := by
    simp only [History.recordVote, set₂_apply] at voted ⊢
    split at voted
    · rename_i same
      obtain ⟨rfl, rfl⟩ := same
      exact .inl ⟨rfl, rfl, (Option.some.inj voted).symm, by simp⟩
    · rename_i other
      exact .inr ⟨voted, by rw [if_neg other]⟩
  exact
    { ackedLog := fun u w => (idle_acked idle C u w).1
      ackedTerm := fun u w => (idle_acked idle C u w).2
      votedTerm := fun u w d voted => by
        obtain ⟨rfl, rfl, rfl, -⟩ | ⟨old, -⟩ := vote voted
        · exact reached
        · exact C.votedTerm u w d old
      voteTraced := fun u w => by
        simp only [History.recordVote, set₂_apply]
        split
        · exact traced
        · exact C.voteTraced u w
      ahead := fun u w d voted => by
        obtain ⟨rfl, rfl, rfl, new⟩ | ⟨old, same⟩ := vote voted
        · rw [new]
          exact ahead
        · rw [same]
          exact C.ahead u w d old
      voteHeld := fun u w d voted => by
        obtain ⟨rfl, rfl, rfl, new⟩ | ⟨old, same⟩ := vote voted
        · rw [new]
          exact held
        · rw [same]
          exact C.voteHeld u w d old
      baseHeld := idle_baseHeld idle L C }

theorem grant (E : ElectionInv cluster s h) (L : LogInv s h) (I : CommitInv cluster s h)
    {src : NodeId} {request : RequestVoteRequest}
    (sent : .requestVote src a request ∈ s.network) (at_ : s.nodes a = n)
    (current : request.term = n.currentTerm)
    (upToDate : n.logUpToDate request.lastLogTerm request.lastLogIndex) :
    CommitInv cluster (s.put a { n with votedFor := some request.candidateId })
      (h.recordVote n.currentTerm a request.candidateId n.log) := by
  obtain ⟨-, -, -, own⟩ := E.message _ sent
  obtain ⟨reached, lastIndex, lastTerm_eq⟩ := I.message _ sent
  have ahead : Ahead (h.candidacy n.currentTerm request.candidateId) n.log := by
    rw [own, ← current, Ahead, ← lastTerm_eq]
    simp only [RaftNode.logUpToDate, lastLogTerm_eq, RaftNode.lastLogIndex,
      lastIndex] at upToDate
    split at upToDate
    · exact .inl (by simpa using upToDate)
    · rename_i same
      exact .inr ⟨(not_not.mp same).symm, by simpa using upToDate⟩
  have history := recordVote (v := a) L.history I.history (own ▸ current ▸ reached)
    (L.node_at at_).traced ahead fun u _ => (I.node_at at_).held u
  have idle : h.Idle (h.recordVote n.currentTerm a request.candidateId n.log) :=
    ⟨⟨rfl, rfl, rfl⟩, rfl, fun _ => le_rfl⟩
  exact (idle_state E L I idle (fun _ _ _ => rfl) history).frame at_
    ⟨rfl, le_rfl, .inr ⟨rfl, rfl⟩⟩ rfl rfl rfl

/-- A log for a candidacy that nobody has voted for. -/
theorem recordCandidacy (C : HistoryCommitOk cluster h)
    (fresh : ∀ v, h.voted t v ≠ some a) (log : List (LogEntry Command)) :
    HistoryCommitOk cluster (h.recordCandidacy t a log) where
  ackedLog := C.ackedLog
  ackedTerm := C.ackedTerm
  votedTerm := C.votedTerm
  voteTraced := C.voteTraced
  ahead u v c voted := by
    have other : ¬(u = t ∧ c = a) := by
      rintro ⟨rfl, rfl⟩
      exact fresh v voted
    simp only [History.recordCandidacy, set₂_apply, if_neg other]
    exact C.ahead u v c voted
  voteHeld := C.voteHeld
  baseHeld := C.baseHeld

theorem campaign (E : ElectionInv cluster s h) (L : LogInv s h) (I : CommitInv cluster s h)
    (at_ : s.nodes a = n) :
    CommitInv cluster
      ((s.put a { n with
        role := .candidate
        currentTerm := n.currentTerm + 1
        votedFor := some n.nodeId
        votesReceived := {n.nodeId}
        leaderId := none }).send (n.peerIds.map fun peer => .requestVote a peer
          ⟨n.currentTerm + 1, n.nodeId, n.lastLogIndex, n.lastLogTerm⟩))
      (((h.recordTerm a (n.currentTerm + 1)).recordCandidacy (n.currentTerm + 1) a
        n.log).recordVote (n.currentTerm + 1) a a n.log) := by
  have ok := I.node_at at_
  have term := (E.node_at at_).term
  have fresh v : h.voted (n.currentTerm + 1) v ≠ some a := fun voted => by
    have := I.history.votedTerm _ v a voted
    omega
  have I₁ := recordTerm E L I (a := a) (t := n.currentTerm + 1) (by omega)
  have L₁ : LogInv s (h.recordTerm a (n.currentTerm + 1)) := L.same_history ⟨rfl, rfl, rfl⟩
  have history : HistoryCommitOk cluster (((h.recordTerm a (n.currentTerm + 1)).recordCandidacy
      (n.currentTerm + 1) a n.log).recordVote (n.currentTerm + 1) a a n.log) := recordVote
    (L₁.history.same ⟨rfl, rfl, rfl⟩) (recordCandidacy I₁.history fresh n.log)
    (by simp [History.recordTerm, History.recordCandidacy]) (L₁.node_at at_).traced
    (.inr ⟨by simp [History.recordCandidacy, set₂_apply],
      by simp [History.recordCandidacy, set₂_apply]⟩)
    (fun u _ => (I₁.node_at at_).held u)
  have candidacy t b (reached : t ≤ h.term b) :
      (((h.recordTerm a (n.currentTerm + 1)).recordCandidacy (n.currentTerm + 1) a
        n.log).recordVote (n.currentTerm + 1) a a n.log).candidacy t b = h.candidacy t b := by
    have other : ¬(t = n.currentTerm + 1 ∧ b = a) := by
      rintro ⟨rfl, rfl⟩
      omega
    simp [History.recordVote, History.recordCandidacy, History.recordTerm, set₂_apply, other]
  have idle : h.Idle (((h.recordTerm a (n.currentTerm + 1)).recordCandidacy
      (n.currentTerm + 1) a n.log).recordVote (n.currentTerm + 1) a a n.log) :=
    ⟨⟨rfl, rfl, rfl⟩, rfl, fun v => by
      by_cases hv : v = a
      · subst hv
        simp [History.recordVote, History.recordCandidacy, History.recordTerm, term]
      · simp [History.recordVote, History.recordCandidacy, History.recordTerm, hv]⟩
  have I₂ := idle_state E L I idle candidacy history
  have ok₂ := I₂.node_at at_
  refine Clauses.Hold.send (I₂.put_same ?_) fun m hm => ?_
  · exact
      { held := ok₂.held
        standing := fun _ => by simp [History.recordVote, History.recordCandidacy, set₂_apply]
        led := by simp
        matched := by simp
        started := ok₂.started
        behind := ok₂.behind
        reach := ok₂.reach
        safe := ok₂.safe.later (Nat.le_succ _)
        applied := ok₂.applied }
  · obtain ⟨peer, -, rfl⟩ := List.mem_map.mp hm
    refine ⟨?_, ?_, ?_⟩
    · simp [History.recordVote, History.recordCandidacy, History.recordTerm]
    · simp [History.recordVote, History.recordCandidacy, set₂_apply, RaftNode.lastLogIndex]
    · simp [History.recordVote, History.recordCandidacy, set₂_apply, RaftNode.lastLogTerm,
        lastTerm]

/-- A candidate that has enough votes has what earlier leaders could have committed: a
    majority that has not acknowledged it cannot do so any more, and otherwise one of the
    voters has acknowledged it. -/
theorem elected_keeps (E : ElectionInv cluster s h) (L : LogInv s h) (I : CommitInv cluster s h)
    (at_ : s.nodes a = n) (candidate : n.role = .candidate)
    (enough : n.majority ≤ n.votesReceived.card) (earlier : t < n.currentTerm)
    (own : h.Own t k) : Keeps cluster h t k n.log := by
  obtain ⟨majority, votes⟩ := E.candidate_majority at_ candidate enough
  obtain ⟨-, older⟩ := (L.node_at at_).contested candidate
  by_cases reported : ∃ v ∈ n.votesReceived, k ≤ h.acked t v
  · obtain ⟨v, hv, reported⟩ := reported
    obtain kept | lost := I.history.voteHeld _ v a (votes v hv) t earlier k reported own
    · have ahead := I.history.ahead _ v a (votes v hv)
      rw [(I.node_at at_).standing candidate] at ahead
      exact ahead_keeps L.history I.history (L.node_at at_).traced older
        (I.history.voteTraced _ v) ahead own kept
    · exact .inr lost
  · push Not at reported
    refine .inr ⟨_, majority, fun v hv => ⟨?_, reported v hv⟩⟩
    by_contra late
    have none := E.history.votedLater v n.currentTerm (by omega)
    rw [votes v hv] at none
    cases none

theorem elect (E : ElectionInv cluster s h) (L : LogInv s h) (I : CommitInv cluster s h)
    (at_ : s.nodes a = n) (candidate : n.role = .candidate)
    (enough : n.majority ≤ n.votesReceived.card) {leaderId : Option NodeId}
    {nextIndex : NodeId → Nat} :
    CommitInv cluster (s.put a { n with
      role := .leader, leaderId := leaderId, nextIndex := nextIndex, matchIndex := fun _ => -1 })
      (h.recordWinner n.currentTerm a n.log) := by
  have ok := I.node_at at_
  have term := (E.node_at at_).term
  have unwon := E.unwon at_ candidate enough
  have unacked v : h.acked n.currentTerm v = 0 := by
    have := I.history.ackedLog n.currentTerm v
    rw [L.history.unled _ unwon, List.length_nil] at this
    omega
  have acked u v : (h.recordWinner n.currentTerm a n.log).acked u v =
      if u = n.currentTerm ∧ v = a then n.log.length else h.acked u v := set₂_apply ..
  have main u : (h.recordWinner n.currentTerm a n.log).leaderLog u =
      if u = n.currentTerm then n.log else h.leaderLog u := by
    simp [History.recordWinner, Function.update_apply]
  have base u : (h.recordWinner n.currentTerm a n.log).baseLog u =
      if u = n.currentTerm then n.log else h.baseLog u := by
    simp [History.recordWinner, Function.update_apply]
  -- the new leader has not written anything of its own yet
  have own {u k} (own : (h.recordWinner n.currentTerm a n.log).Own u k) :
      u ≠ n.currentTerm := by
    rintro rfl
    rw [History.Own, main, base, if_pos rfl, if_pos rfl] at own
    omega
  have adv : h.Advances (h.recordWinner n.currentTerm a n.log) :=
    { term := fun _ => le_rfl
      acked := fun u v => by
        rw [acked]
        split
        · rename_i same
          rw [same.1, unacked]
          exact Nat.zero_le _
        · exact le_rfl
      past := fun u v earlier => by
        rw [acked, if_neg]
        rintro ⟨rfl, rfl⟩
        omega
      leaderLog := L.recordWinner_grows unwon n.log
      baseLog := fun u led => by
        rw [base, if_neg]
        rintro rfl
        exact led unwon }
  have own_led {u k} (grown : (h.recordWinner n.currentTerm a n.log).Own u k) :
      k ≤ (h.leaderLog u).length := by
    have inside := grown.2
    rwa [main, if_neg (own grown)] at inside
  refine .put ?_ ?_ ?_ ?_
  · exact
      { held := fun u k reported grown => by
          rw [acked, if_neg (fun same => own grown same.1)] at reported
          have inside := own_led grown
          exact (ok.held u k reported (own_back adv L.history inside grown)).mono adv inside
        standing := by simp
        led := fun _ => by simp [acked]
        matched := by simp
        started := ok.started
        behind := ok.behind
        reach := ok.reach
        safe := ok.safe.mono adv L.history
        applied := ok.applied }
  · intro b hb
    exact (I.node b).mono adv L.history I.history (fun u => by rw [acked, if_neg (by tauto)])
      (fun _ _ => rfl) (E.node b).term
  · exact fun m hm => (I.message m hm).mono adv L.history fun _ _ _ _ => rfl
  · refine I.history.mono adv E.history L.history rfl rfl rfl ?_ ?_ ?_
    · intro u v
      rw [acked, main]
      split
      · rename_i same
        rw [if_pos same.1]
      · rename_i other
        split
        · rename_i same
          rw [same, unacked]
          exact Nat.zero_le _
        · exact I.history.ackedLog u v
    · intro u v
      rw [acked]
      split
      · rename_i same
        obtain ⟨rfl, rfl⟩ := same
        exact fun _ => term.ge
      · exact I.history.ackedTerm u v
    · intro u led u' earlier k grown
      have inside := own_led grown
      have written := own_back adv L.history inside grown
      refine Keeps.mono adv inside ?_
      rw [base]
      split
      · rename_i same
        subst same
        exact I.elected_keeps E L at_ candidate enough earlier written
      · rename_i other
        refine I.history.baseHeld u ?_ u' earlier k written
        simpa [History.recordWinner, other] using led

theorem truncate (E : ElectionInv cluster s h) (L : LogInv s h) (I : CommitInv cluster s h)
    {src : NodeId} {request : AppendEntriesRequest Command}
    (sent : .appendEntries src a request ∈ s.network) (at_ : s.nodes a = n)
    (current : request.term = n.currentTerm) (follows : n.role = .follower)
    (covers : request.Covers n.log) (inside : ¬request.Beyond n.log)
    (conflicts : request.Conflicts n.log) :
    CommitInv cluster (s.put a { n with log := n.log.take request.prevLogIndex.toNat }) h := by
  obtain ⟨-, -, -, won⟩ := E.message _ sent
  obtain ⟨-, kind⟩ := L.message _ sent
  refine I.put_same ((I.node_at at_).relog L.history I.history (E.node_at at_).term follows ?_ ?_)
  · rw [← current, won]
    simp
  · intro p pre pre'
    rw [← current] at pre'
    exact truncate_survives L.history kind covers inside conflicts pre pre'

/-- A log that reaches no further than its leader's is acknowledged in full. -/
theorem recordAck (E : ElectionInv cluster s h) (L : LogInv s h) (I : CommitInv cluster s h)
    (at_ : s.nodes a = n) (covered : n.log <+: h.leaderLog n.currentTerm) :
    CommitInv cluster s (h.recordAck n.currentTerm a n.log.length) := by
  have term := (E.node_at at_).term
  have acked u v : (h.recordAck n.currentTerm a n.log.length).acked u v =
      if u = n.currentTerm ∧ v = a then max (h.acked n.currentTerm a) n.log.length
      else h.acked u v := set₂_apply ..
  have adv : h.Advances (h.recordAck n.currentTerm a n.log.length) :=
    { term := fun _ => le_rfl
      acked := fun u v => by
        rw [acked]
        split
        · rename_i same
          rw [same.1, same.2]
          exact le_max_left ..
        · exact le_rfl
      past := fun u v earlier => by
        rw [acked, if_neg]
        rintro ⟨rfl, rfl⟩
        omega
      leaderLog := fun _ => List.prefix_rfl
      baseLog := fun _ _ => rfl }
  refine ⟨fun b => ?_, fun m hm => (I.message m hm).mono adv L.history fun _ _ _ _ => rfl, ?_⟩
  · by_cases hb : b = a
    · subst hb
      rw [at_]
      have ok := I.node_at at_
      exact
        { held := fun u k reported own => by
            have inside := own.2
            have old := own_back adv L.history inside own
            rw [acked] at reported
            by_cases known : k ≤ h.acked u b
            · exact (ok.held u k known old).mono adv inside
            · split at reported
              · rename_i same
                rw [same.1] at known ⊢
                refine .inl ?_
                have short : k ≤ n.log.length := by omega
                change (h.leaderLog n.currentTerm).take k <+: n.log
                rw [← Lib.take_eq_of_isPrefix covered short]
                exact List.take_prefix ..
              · exact absurd reported known
          standing := ok.standing
          led := fun leads => (ok.led leads).trans (adv.acked _ _)
          matched := fun leads p => by
            have := ok.matched leads p
            have := adv.acked n.currentTerm p
            omega
          started := ok.started
          behind := ok.behind
          reach := ok.reach
          safe := ok.safe.mono adv L.history
          applied := ok.applied }
    · exact (I.node b).mono adv L.history I.history (fun u => by rw [acked, if_neg (by tauto)])
        (fun _ _ => rfl) (E.node b).term
  · refine I.history.mono adv E.history L.history rfl rfl rfl ?_ ?_ ?_
    · intro u v
      rw [acked]
      split
      · rename_i same
        rw [same.1]
        exact max_le (I.history.ackedLog _ _) covered.length_le
      · exact I.history.ackedLog u v
    · intro u v
      rw [acked]
      split
      · rename_i same
        rw [same.1, same.2]
        exact fun _ => term.ge
      · exact I.history.ackedTerm u v
    · intro u led u' earlier k own
      have inside := own.2
      exact (I.history.baseHeld u led u' earlier k
        (own_back adv L.history inside own)).mono adv inside

/-- A log that agrees with the leader's as far as a request reaches, and from there on has
    entries of the leader's term only, is part of the leader's log. -/
theorem covered_isPrefix (traced : LogTraced h log) {reach : Nat}
    (same : log.take reach = (h.leaderLog t).take reach)
    (own : ∀ e ∈ log.drop reach, e.term = t) : log <+: h.leaderLog t := by
  obtain short | long := le_or_gt log.length reach
  · rw [List.take_of_length_le short] at same
    rw [same]
    exact List.take_prefix ..
  · have filled : log ≠ [] := by
      rintro rfl
      simp at long
    have last : lastTerm log = t := by
      rw [lastTerm_of_filled filled]
      refine own _ ?_
      rw [← List.getLast_drop (l := log) (i := reach) (by simpa using long)]
      exact List.getLast_mem _
    exact last ▸ prefix_last traced filled

theorem accept (E : ElectionInv cluster s h) (L : LogInv s h) (I : CommitInv cluster s h)
    {src : NodeId} {request : AppendEntriesRequest Command}
    (sent : .appendEntries src a request ∈ s.network) (at_ : s.nodes a = n)
    (current : request.term = n.currentTerm) (follows : n.role = .follower)
    (covers : request.Covers n.log) (inside : ¬request.Beyond n.log)
    (agrees : ¬request.Conflicts n.log) (result : log = RaftNode.appendLoop n.log request.insertAt
      request.entries) :
    CommitInv cluster ((s.put a { n with
        log := log
        commitIndex :=
          if request.leaderCommit > n.commitIndex then
            min request.leaderCommit ((log.length : Int) - 1)
          else
            n.commitIndex }).send
      [.appendEntriesReply a src ⟨n.currentTerm, true, n.nodeId, log.length⟩])
      (h.recordAck n.currentTerm a log.length) := by
  obtain ⟨-, -, -, won⟩ := E.message _ sent
  obtain ⟨within, safe⟩ := I.message _ sent
  obtain ⟨-, -, outcome⟩ := L.accepted sent at_ inside agrees
  rw [current] at won within safe outcome
  rw [← result] at outcome
  have led : h.winner n.currentTerm ≠ none := by simp [won]
  have own : ∀ e ∈ n.log.drop (request.insertAt + request.entries.length),
      e.term = n.currentTerm := by
    rw [← current]
    simpa only [if_neg agrees] using covers inside
  have covered : log <+: h.leaderLog n.currentTerm := by
    obtain ⟨kept, same⟩ | ⟨replaced, -⟩ := outcome
    · rw [kept]
      exact covered_isPrefix (L.node_at at_).traced same own
    · rw [replaced]
      exact List.take_prefix ..
  have ok : NodeCommitOk cluster h a { n with log := log } (s.applied a) :=
    (I.node_at at_).relog L.history I.history (E.node_at at_).term follows led fun p pre pre' => by
      obtain ⟨kept, -⟩ | ⟨replaced, differs⟩ := outcome
      · rwa [kept]
      · rw [replaced]
        exact accept_survives pre pre' differs
  let commitIndex : Int :=
    if request.leaderCommit > n.commitIndex then min request.leaderCommit ((log.length : Int) - 1)
    else n.commitIndex
  let accepted : RaftNode Command := { n with log := log, commitIndex := commitIndex }
  have ok' : NodeCommitOk cluster h a accepted (s.applied a) := by
    have reach : n.commitIndex + 1 ≤ log.length := ok.reach
    have before : n.commitIndex ≤ commitIndex := by
      simp only [commitIndex]
      split <;> omega
    by_cases news : request.leaderCommit > n.commitIndex
    · have value : commitIndex = min request.leaderCommit ((log.length : Int) - 1) := if_pos news
      refine ok.recommit before (by rw [value]; simp only; omega) (safe.of_isPrefix ?_)
      rw [value, Lib.take_eq_of_isPrefix covered (by omega)]
      exact List.take_prefix_take_left (by omega)
    · have value : commitIndex = n.commitIndex := if_neg news
      refine ok.recommit before (by rw [value]; exact reach) ?_
      rw [value]
      exact ok.safe
  have E' : ElectionInv cluster (s.put a accepted) h := E.frame at_ rfl rfl rfl rfl
  have L' : LogInv (s.put a accepted) h := by
    subst result
    exact L.accept sent at_ current follows inside agrees
  have I' : CommitInv cluster (s.put a accepted) h := I.put_same ok'
  refine Clauses.Hold.send (recordAck E' L' I' (put_nodes_self s a accepted) covered)
    (List.forall_mem_singleton.mpr fun _ => ?_)
  simp [History.recordAck, set₂_apply]

theorem propose (E : ElectionInv cluster s h) (L : LogInv s h) (I : CommitInv cluster s h)
    (at_ : s.nodes a = n) (leads : n.role = .leader) (e : LogEntry Command) :
    CommitInv cluster (s.put a { n with log := n.log ++ [e] })
      (h.recordLeaderLog n.currentTerm a (n.log ++ [e])) := by
  have ok := I.node_at at_
  have term := (E.node_at at_).term
  have whole := (L.node_at at_).leader leads
  have acked u v : (h.recordLeaderLog n.currentTerm a (n.log ++ [e])).acked u v =
      if u = n.currentTerm ∧ v = a then (n.log ++ [e]).length else h.acked u v := set₂_apply ..
  have main u : (h.recordLeaderLog n.currentTerm a (n.log ++ [e])).leaderLog u =
      if u = n.currentTerm then n.log ++ [e] else h.leaderLog u := by
    simp [History.recordLeaderLog, Function.update_apply]
  have adv : h.Advances (h.recordLeaderLog n.currentTerm a (n.log ++ [e])) :=
    { term := fun _ => le_rfl
      acked := fun u v => by
        rw [acked]
        split
        · rename_i same
          have := I.history.ackedLog n.currentTerm a
          rw [← whole] at this
          rw [same.1, same.2, List.length_append]
          omega
        · exact le_rfl
      past := fun u v earlier => by
        rw [acked, if_neg]
        rintro ⟨rfl, rfl⟩
        omega
      leaderLog := L.recordLeaderLog_grows at_ leads e
      baseLog := fun _ _ => rfl }
  have reach := ok.reach
  have behind := ok.behind
  refine .put ?_ ?_ ?_ ?_
  · exact
      { held := fun u k reported own => by
          by_cases hu : u = n.currentTerm
          · rw [Keeps, main, if_pos hu]
            exact .inl (List.take_prefix ..)
          · rw [acked, if_neg (fun same => hu same.1)] at reported
            have inside := reported.trans (I.history.ackedLog u a)
            have kept : Keeps cluster h u k (n.log ++ [e]) :=
              (ok.held u k reported (own_back adv L.history inside own)).imp
                (fun pre => pre.trans (List.prefix_append ..)) id
            exact kept.mono adv inside
        standing := by simp [leads]
        led := fun _ => by simp [acked]
        matched := fun _ p => by
          have := ok.matched leads p
          have := adv.acked n.currentTerm p
          simp only
          omega
        started := ok.started
        behind := behind
        reach := by
          simp only [List.length_append]
          omega
        safe := by
          have inside : (n.commitIndex + 1).toNat ≤ n.log.length := by omega
          simp only [List.take_append_of_le_length inside]
          exact ok.safe.mono adv L.history
        applied := by
          have inside : (n.lastApplied + 1).toNat ≤ n.log.length := by omega
          simp only [List.take_append_of_le_length inside]
          exact ok.applied }
  · intro b hb
    exact (I.node b).mono adv L.history I.history (fun u => by rw [acked, if_neg (by tauto)])
      (fun _ _ => rfl) (E.node b).term
  · exact fun m hm => (I.message m hm).mono adv L.history fun _ _ _ _ => rfl
  · refine I.history.mono adv E.history L.history rfl rfl rfl ?_ ?_ ?_
    · intro u v
      rw [acked]
      split
      · rename_i same
        rw [main, if_pos same.1]
      · exact (I.history.ackedLog u v).trans (adv.leaderLog u).length_le
    · intro u v
      rw [acked]
      split
      · rename_i same
        rw [same.1, same.2]
        exact fun _ => term.ge
      · exact I.history.ackedTerm u v
    · intro u led u' earlier k own
      by_cases inside : k ≤ (h.leaderLog u').length
      · exact (I.history.baseHeld u led u' earlier k
          (own_back adv L.history inside own)).mono adv inside
      · -- the voters for a later leader have left this term without the new entry
        have here : u' = n.currentTerm := by
          by_contra other
          have := own.2
          rw [main, if_neg other] at this
          exact inside this
        obtain ⟨b, won⟩ := Option.ne_none_iff_exists'.mp led
        obtain ⟨-, -, Q, hQ, votes⟩ := E.history.won u b won
        refine .inr ⟨Q, hQ, fun v hv => ?_⟩
        have passed : u ≤ h.term v := by
          by_contra late
          have none := E.history.votedLater v u (by omega)
          rw [votes v hv] at none
          cases none
        have past : u' < h.term v := by omega
        refine ⟨past, ?_⟩
        rw [adv.past u' v past]
        have := I.history.ackedLog u' v
        omega

/-- A majority whose matches reach the index has acknowledged the entry there. -/
theorem replicated (E : ElectionInv cluster s h) (I : CommitInv cluster s h)
    (at_ : s.nodes a = n) (leads : n.role = .leader) {index : Nat} (inside : index < n.log.length)
    (enough : n.majority ≤ n.replicas index) :
    Committed cluster h n.currentTerm (index + 1) := by
  have ok := I.node_at at_
  have okE := E.node_at at_
  have member := okE.active (by simp [leads])
  let matching := n.peerIds.filter fun peer => decide (n.matchIndex peer ≥ (index : Int))
  have absent : a ∉ matching.toFinset := by
    rw [List.mem_toFinset]
    intro mem
    have peer := (List.mem_filter.mp mem).1
    rw [okE.peers, cluster.memPeers a member] at peer
    exact peer.2 rfl
  have nodup : matching.Nodup := by
    refine List.Nodup.filter _ ?_
    rw [okE.peers]
    exact cluster.peersNodup a member
  refine ⟨insert a matching.toFinset, ⟨?_, ?_⟩, ?_⟩
  · intro v hv
    obtain rfl | peer := Finset.mem_insert.mp hv
    · exact member
    · have peer := (List.mem_filter.mp (List.mem_toFinset.mp peer)).1
      rw [okE.peers, cluster.memPeers a member] at peer
      exact peer.1
  · rw [Finset.card_insert_of_notMem absent, List.toFinset_card_of_nodup nodup]
    have size := cluster.peers_length member
    rw [RaftNode.majority, RaftNode.clusterSize, okE.peers, RaftNode.replicas,
      List.countP_eq_length_filter] at enough
    change _ ≤ 1 + matching.length at enough
    omega
  · intro v hv
    obtain rfl | peer := Finset.mem_insert.mp hv
    · have := ok.led leads
      omega
    · have reported := of_decide_eq_true (List.mem_filter.mp (List.mem_toFinset.mp peer)).2
      have := ok.matched leads v
      omega

theorem commit (E : ElectionInv cluster s h) (L : LogInv s h) (I : CommitInv cluster s h)
    (at_ : s.nodes a = n) (leads : n.role = .leader) {index : Nat}
    (later : n.commitIndex < (index : Int)) (inside : index < n.log.length)
    (written : termAt n.log index = n.currentTerm) (enough : n.majority ≤ n.replicas index) :
    CommitInv cluster (s.put a { n with commitIndex := index }) h := by
  have whole := (L.node_at at_).leader leads
  have committed := replicated E I at_ leads inside enough
  have own : h.Own n.currentTerm (index + 1) := by
    refine ⟨?_, by rw [← whole]; omega⟩
    by_contra old
    have short : index < (h.baseLog n.currentTerm).length := by omega
    have at_base := List.getElem?_eq_getElem short
    have older := L.history.older _ _ (List.mem_of_getElem? at_base)
    rw [whole, ← termAt_of_isPrefix (L.history.base _) short, termAt_of_getElem? at_base] at written
    omega
  refine I.put_same ((I.node_at at_).recommit later.le (by omega) ?_)
  refine .inr ⟨_, _, le_rfl, own, committed, ?_⟩
  rw [whole, show ((index : Int) + 1).toNat = index + 1 by omega]

theorem recordMatch (I : CommitInv cluster s h) {src : NodeId}
    {response : AppendEntriesResponse} (sent : .appendEntriesReply src a response ∈ s.network)
    (at_ : s.nodes a = n) (current : response.term = n.currentTerm)
    (success : response.success = true) {next : NodeId → Nat} :
    CommitInv cluster (s.put a { n with
      matchIndex := Function.update n.matchIndex src ((response.matchLengthHint : Int) - 1)
      nextIndex := next }) h := by
  have ok := I.node_at at_
  have reported := I.message _ sent success
  rw [current] at reported
  exact I.put_same
    { held := ok.held
      standing := ok.standing
      led := ok.led
      matched := fun leads p => by
        by_cases hp : p = src
        · subst hp
          simp only [Function.update_self]
          omega
        · simp only [Function.update_of_ne hp]
          exact ok.matched leads p
      started := ok.started
      behind := ok.behind
      reach := ok.reach
      safe := ok.safe
      applied := ok.applied }

theorem take (I : CommitInv cluster s h) (at_ : s.nodes a = n)
    (behind : n.lastApplied < n.commitIndex) :
    CommitInv cluster ((s.put a { n with lastApplied := n.commitIndex }).apply a
      (((n.log.take (n.commitIndex + 1).toNat).drop (n.lastApplied + 1).toNat).map
        LogEntry.command)) h := by
  have ok := I.node_at at_
  have started := ok.started
  refine I.apply ?_
  exact
    { held := ok.held
      standing := ok.standing
      led := ok.led
      matched := ok.matched
      started := started.trans behind.le
      behind := le_rfl
      reach := ok.reach
      safe := ok.safe
      applied := by
        have shorter : min (n.lastApplied + 1).toNat (n.commitIndex + 1).toNat =
            (n.lastApplied + 1).toNat := by omega
        have earlier := List.take_take (l := n.log) (i := (n.lastApplied + 1).toNat)
          (j := (n.commitIndex + 1).toNat)
        rw [shorter] at earlier
        rw [ok.applied, ← List.map_append, ← earlier, List.take_append_drop] }

/-- A request carries no more of a commit than its leader knows of. -/
theorem requestFrom_ok (L : LogInv s h) (I : CommitInv cluster s h) (at_ : s.nodes a = n)
    (leads : n.role = .leader) (dst : NodeId) (next : Nat) :
    MessageCommitOk cluster h (.appendEntries a dst (n.requestFrom next)) := by
  have ok := I.node_at at_
  have whole := (L.node_at at_).leader leads
  refine ⟨?_, ?_⟩
  · simp only [RaftNode.requestFrom, ← whole]
    exact ok.reach
  · simp only [RaftNode.requestFrom, ← whole]
    exact ok.safe

theorem move {x y : Annotated Command} (E : ElectionInv cluster x.1 x.2) (L : LogInv x.1 x.2)
    (I : CommitInv cluster x.1 x.2)
    (step : Move cluster (fun log request => request.Covers log) x y) :
    CommitInv cluster y.1 y.2 := by
  cases step with
  | stepDown at_ later => exact stepDown E L I at_ later
  | campaign _ at_ _ => exact campaign E L I at_
  | @refuse s h m answered sent quiet ends =>
      refine I.send (List.forall_mem_singleton.mpr ?_)
      cases m with
      | requestVote _ _ _ => exact quiet.elim
      | requestVoteReply _ _ _ => exact True.intro
      | appendEntries _ _ _ => exact quiet.elim
      | appendEntriesReply _ _ response =>
          intro success
          rw [Message.Quiet] at quiet
          simp [quiet] at success
  | grant sent at_ current _ upToDate =>
      exact Clauses.Hold.send (grant E L I sent at_ current upToDate)
        (List.forall_mem_singleton.mpr True.intro)
  | grantAgain _ _ _ _ => exact I.send (List.forall_mem_singleton.mpr True.intro)
  | countVote _ at_ _ _ _ => exact I.frame at_ ⟨rfl, le_rfl, .inr ⟨rfl, rfl⟩⟩ rfl rfl rfl
  | elect at_ candidate enough => exact elect E L I at_ candidate enough
  | replicate at_ leads _ =>
      refine I.send fun m hm => ?_
      obtain ⟨target, -, rfl⟩ := List.mem_map.mp hm
      exact requestFrom_ok L I at_ leads target.1 target.2
  | retarget at_ => exact I.frame at_ ⟨rfl, le_rfl, .inr ⟨rfl, rfl⟩⟩ rfl rfl rfl
  | follow _ at_ _ => exact I.frame at_ ⟨rfl, le_rfl, .inl rfl⟩ rfl rfl rfl
  | truncate sent at_ current follows covers inside conflicts =>
      exact truncate E L I sent at_ current follows covers inside conflicts
  | accept sent at_ current follows covers inside agrees result =>
      exact accept E L I sent at_ current follows covers inside agrees result
  | recordMatch sent at_ current success _ => exact recordMatch I sent at_ current success
  | commit at_ leads later inside written enough =>
      exact commit E L I at_ leads later inside written enough
  | propose at_ leads => exact propose E L I at_ leads _
  | take at_ behind => exact take I at_ behind

end CommitInv

/-- The runs in which every request that a follower acts upon covers its log. -/
abbrev Covered (cluster : Cluster) (events : List (Event Command)) : Prop :=
  Lib.RunMeets (step cluster) (fun s e => e.Admitted (fun log request => request.Covers log) s)
    (ClusterState.init cluster) events

theorem runs_committed {events : List (Event Command)} (covered : Covered cluster events)
    (ran : runs cluster events = some s) :
    ∃ h, ElectionInv cluster s h ∧ LogInv s h ∧ CommitInv cluster s h := by
  let R (s : ClusterState Command) (h : History Command) :=
    ElectionInv cluster s h ∧ LogInv s h ∧ CommitInv cluster s h
  have keeps {x y : Annotated Command} (I : R x.1 x.2)
      (move : Move cluster (fun log request => request.Covers log) x y) : R y.1 y.2 :=
    ⟨(I.1.move move).1, I.2.1.move I.1 move, I.2.2.move I.1 I.2.1 move⟩
  obtain ⟨h, I, -⟩ := run_keeps (R := R) And.left keeps
    ⟨.init cluster, .init cluster, .init cluster⟩ covered ran
  exact ⟨h, I⟩

/-- What two nodes have applied never differs where both have applied something. -/
theorem applied_comparable (cluster : Cluster) {events : List (Event Command)}
    (covered : Covered cluster events) (ran : runs cluster events = some s) (a b : NodeId) :
    s.applied a <+: s.applied b ∨ s.applied b <+: s.applied a := by
  obtain ⟨h, -, L, I⟩ := runs_committed covered ran
  have part c : ∃ l, Safe cluster h (s.nodes c).currentTerm l ∧
      s.applied c = l.map LogEntry.command := by
    have ok := I.node c
    have behind := ok.behind
    exact ⟨_, ok.safe.of_isPrefix (List.take_prefix_take_left (by omega)), ok.applied⟩
  obtain ⟨l, safe, applied⟩ := part a
  obtain ⟨l', safe', applied'⟩ := part b
  rw [applied, applied']
  exact (safe.comparable L.history I.history safe').imp (fun pre => pre.map _) fun pre => pre.map _

/-- `n1` commits an entry on `n2` and both apply it. -/
def commitFirst : List (Event String) :=
  replicateFirst ++ [.deliver 7, .takeNewlyCommitted "n1", .heartbeatDue "n1", .deliver 8,
    .takeNewlyCommitted "n2"]

theorem applied_comparable_threeNodes :
    ∃ s, runs threeNodes commitFirst = some s ∧ s.applied "n1" = ["b"] ∧
      (s.applied "n1" <+: s.applied "n2" ∨ s.applied "n2" <+: s.applied "n1") := by
  have ran := (Option.some_get (x := runs threeNodes commitFirst) (by decide)).symm
  exact ⟨_, ran, by decide, applied_comparable threeNodes (by decide) ran "n1" "n2"⟩

/-- In term 1 `n1` leads and appends `b`, which nobody else hears of. In term 2 `n2` leads
    with the votes of itself and `n3` and appends `x`. Its first, empty request reaches `n1`
    only now, and `n1` reports the length of a log that ends with `b`, so `n2` commits and
    applies `x`. Then `n1` wins term 3 with the vote of `n3`, brings `n3` up to date with
    its own log and applies `b` in the same place. -/
def divergingRun : List (Event String) :=
  electFirst ++
    [.propose "n1" "b",
      .electionTimeout "n2", .deliver 6, .deliver 7, .propose "n2" "x", .deliver 8, .deliver 10,
      .takeNewlyCommitted "n2",
      .electionTimeout "n1", .deliver 12, .deliver 13, .propose "n1" "d", .heartbeatDue "n1",
      .deliver 17, .deliver 18, .deliver 19, .deliver 20, .takeNewlyCommitted "n1"]

theorem applied_diverge :
    ∃ s, runs threeNodes divergingRun = some s ∧
      ¬(s.applied "n1" <+: s.applied "n2" ∨ s.applied "n2" <+: s.applied "n1") := by
  have ran := (Option.some_get (x := runs threeNodes divergingRun) (by decide)).symm
  exact ⟨_, ran, by decide⟩

end FleetRMW.Raft
